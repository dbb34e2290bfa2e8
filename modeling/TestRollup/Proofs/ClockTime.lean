import TestRollup.Proofs.DecimalValue
import TestRollup.Proofs.EventAudit
import TestRollup.Proofs.Spreading

/- Durations and times of day in reports of NUnit 2. The attribute `time` of a
   `test-results` element is one or the other: no number holds a colon
   (`readDecimal?_of_colon`), so a duration is never taken for a time of day, and a time of
   day is never read as a duration.

   `clockOnly?` picks the elements whose time of day is all that they say of their time.
   Each of these is warned of, and no other element is (`warningsOf_eq`). In the events of a
   report that is counted, a warning stands right in front of the event that tells the
   figures of its element; what stands there without a warning is the dispatch of the report
   or the figures of the element before (`getLast?_told_ne_clockOnly`). So a time that is
   missing from the figures of an element either is missing from the element or has just
   been warned of (`countText_tells_times`). -/
namespace TestRollup

open Number (readDecimal?)

/-- A text with a colon is no number. -/
theorem Number.readDecimal?_of_colon {cs : List Char} (h : ':' ∈ cs) : readDecimal? cs = none := by
  rw [Option.eq_none_iff_forall_ne_some]
  intro d hd
  obtain ⟨v, ⟨left, text, right, rfl, hblank, htext⟩, -⟩ := readDecimal?_eq_some_iff.mp hd
  have hcolon : ':' ∈ left ++ right ∨ ':' ∈ text := by
    simp only [List.mem_append] at h ⊢
    tauto
  -- it is neither a blank around the number nor one of its characters
  rcases hcolon with hcolon | hcolon
  · exact absurd (hblank ':' hcolon) (by decide)
  · exact absurd (htext.isDigit_or_separator ':' hcolon) (by decide)

namespace Report

open Xml (Element)

namespace Legacy

/-- The time of day of an element of which no suite directly inside gives a time. -/
def clockOnly? (e : Element) : Option String :=
  (e.attribute? "time").filter fun text =>
    Entry.isClock text && (e.childrenTagged "test-suite").all (·.attribute? "time" == none)

/-- What the events of a counted report tell of the time of one element, given the figures
of the element and the event in front of the one that tells these. -/
structure TellsTime (path : String) (e : Element) (figures : Summary) (previous : Option Event) :
    Prop where
  /-- A number is the duration in seconds, which is told in milliseconds. -/
  seconds : ∀ text d, e.attribute? "time" = some text → readDecimal? text.toList = some d →
    figures.time = some d.thousandths
  /-- No time is told only if there is none or if the one there is has just been warned of. -/
  untold : figures.time = none ↔ e.attribute? "time" = none ∨
    ∃ text, e.attribute? "time" = some text ∧ previous = some (.clockOnly path text)
  /-- The warning is of this element, which gives a time of day that no suite makes up for. -/
  warned : ∀ path' text, previous = some (.clockOnly path' text) ↔
    path' = path ∧ e.attribute? "time" = some text ∧ ':' ∈ text.toList ∧
      ∀ suite ∈ e.children, suite.tag = "test-suite" → suite.attribute? "time" = none

/-! ## The time of one element -/

variable {e : Element}

theorem clockOnly?_eq_some_iff {text : String} :
    clockOnly? e = some text ↔ e.attribute? "time" = some text ∧ ':' ∈ text.toList ∧
      ∀ suite ∈ e.children, suite.tag = "test-suite" → suite.attribute? "time" = none := by
  rw [clockOnly?, Option.filter_eq_some_iff, Bool.and_eq_true, isClock_iff, List.all_eq_true]
  simp only [beq_iff_eq, Xml.Element.forall_mem_childrenTagged]

theorem untimed_iff :
    Untimed e ↔ e.attribute? "time" = none ∨ ∃ text, clockOnly? e = some text := by
  simp only [Untimed, clockOnly?_eq_some_iff]
  cases e.attribute? "time" <;> simp

/-- A valid element is warned of exactly if its time of day is all it says of its time. -/
theorem warningsOf_eq (path : String) (h : Valid Element.attribute? e) :
    warningsOf path e = ((clockOnly? e).map (Event.clockOnly path)).toList := by
  have hnone := timeOf_eq_none_iff h
  unfold warningsOf
  cases htime : e.attribute? "time" with
  | none =>
    have hno : clockOnly? e = none := by rw [clockOnly?, htime, Option.filter_none]
    rw [hno]
    rfl
  | some text =>
    have hwarned : (':' ∈ text.toList ∧ timeOf e = none) ↔ clockOnly? e = some text := by
      rw [hnone, clockOnly?_eq_some_iff]
      simp only [Untimed, htime, Option.some.injEq, forall_eq', true_and]
      tauto
    by_cases hclock : clockOnly? e = some text
    · rw [hclock]
      exact if_pos (hwarned.mpr hclock)
    · have hno : clockOnly? e = none := by
        rw [Option.eq_none_iff_forall_ne_some]
        intro other hother
        obtain ⟨hsame, -⟩ := clockOnly?_eq_some_iff.mp hother
        rw [htime, Option.some.injEq] at hsame
        exact hclock (hsame ▸ hother)
      rw [hno]
      exact if_neg fun hboth => hclock (hwarned.mp hboth)

/-- A time that is a number is a duration. -/
theorem timeOf_of_decimal {text : String} {d : Number.Decimal}
    (htime : e.attribute? "time" = some text) (h : readDecimal? text.toList = some d) :
    timeOf e = some d.thousandths.value := by
  have hcolon : ':' ∉ text.toList := by
    intro hmem
    rw [Number.readDecimal?_of_colon hmem] at h
    cases h
  simp only [timeOf, htime, hcolon, if_false, Field.duration, Option.bind_some, h, Option.map_some]

/-- Next to a duration it makes no difference what stands inside the element. -/
theorem read_of_decimal {text : String} {d : Number.Decimal}
    (htime : e.attribute? "time" = some text) (h : readDecimal? text.toList = some d)
    (path : String) (children : List Element) :
    Dialect.legacy.read path { e with children } = Dialect.legacy.read path e := by
  have hclock : (Entry.ofElement e).time.any Entry.isClock = false := by
    rw [← Bool.not_eq_true]
    intro hany
    have hcolon : Entry.isClock text = true := by simpa [Entry.ofElement, htime] using hany
    rw [Number.readDecimal?_of_colon (isClock_iff.mp hcolon)] at h
    cases h
  exact count_of_suiteTimes path (Entry.ofElement e) hclock _

end Legacy

/-! ## The events of a counted report -/

/-- What stands in front of the events of an element is no warning. -/
theorem getLast?_told_ne_clockOnly (d : Dialect) (path path' text : String) (es : List Element) :
    (.dispatching path d :: es.flatMap (d.eventsOf path)).getLast? ≠
      some (.clockOnly path' text) := by
  rcases List.eq_nil_or_concat es with rfl | ⟨before, e, rfl⟩
  · simp
  · have hsplit : Event.dispatching path d :: (before ++ [e]).flatMap (d.eventsOf path) =
        (.dispatching path d :: (before.flatMap (d.eventsOf path) ++ d.warningsOf path e)) ++
          [d.readEvent e] := by
      simp [Dialect.eventsOf]
    rw [List.concat_eq_append, hsplit, List.getLast?_concat]
    cases d <;> simp [Dialect.readEvent]

theorem filter_isRead_warnings (path : String) (text : Option String) :
    (text.map (Event.clockOnly path)).toList.filter Event.isRead = [] := by
  cases text <;> rfl

/-- The warnings of valid elements are those of times of day that are not made up for. -/
theorem filter_warn_flatMap (path : String) {es : List Element}
    (h : ∀ e ∈ es, Legacy.Valid Element.attribute? e) :
    (es.flatMap (Dialect.legacy.eventsOf path)).filter (·.level = .warn) =
      es.filterMap fun e => (Legacy.clockOnly? e).map (Event.clockOnly path) := by
  induction es with
  | nil => rfl
  | cons e es ih =>
    obtain ⟨he, hes⟩ := List.forall_mem_cons.mp h
    have hwarnings : Dialect.legacy.warningsOf path e =
        ((Legacy.clockOnly? e).map (Event.clockOnly path)).toList := Legacy.warningsOf_eq path he
    have hread : (Dialect.legacy.readEvent e).level = .debug := rfl
    have hwarn : ∀ text, (Event.clockOnly path text).level = .warn := fun _ => rfl
    rw [List.flatMap_cons, List.filter_append, ih hes, Dialect.eventsOf, hwarnings,
      List.filterMap_cons]
    cases Legacy.clockOnly? e <;> simp [hread, hwarn]

/-- The events of a report that is counted, cut right before those figures that are told of
one of its elements. -/
theorem tellsTime_of_split {path : String} {before after : List Element} {e : Element}
    (h : ∀ x ∈ before ++ e :: after, Legacy.Valid Element.attribute? x) :
    ∃ earlier later, .dispatching path .legacy ::
        (before ++ e :: after).flatMap (Dialect.legacy.eventsOf path) =
          earlier ++ .legacyCounted (Legacy.figuresOf e).saturate :: later ∧
      earlier.filter Event.isRead = before.map Dialect.legacy.readEvent ∧
      later.filter Event.isRead = after.map Dialect.legacy.readEvent ∧
      Legacy.TellsTime path e (Legacy.figuresOf e).saturate earlier.getLast? := by
  have he : Legacy.Valid Element.attribute? e := h e (by simp)
  let told : List Event :=
    .dispatching path .legacy :: before.flatMap (Dialect.legacy.eventsOf path)
  let warnings := ((Legacy.clockOnly? e).map (Event.clockOnly path)).toList
  have hwarnings : Dialect.legacy.warningsOf path e = warnings := Legacy.warningsOf_eq path he
  refine ⟨told ++ warnings, after.flatMap (Dialect.legacy.eventsOf path), ?_, ?_,
    filter_isRead_flatMap path .legacy after, ?_⟩
  · simp [told, Dialect.eventsOf, Dialect.readEvent, hwarnings]
  · have htold : told.filter Event.isRead =
        (before.flatMap (Dialect.legacy.eventsOf path)).filter Event.isRead := rfl
    rw [List.filter_append, filter_isRead_warnings, List.append_nil, htold, filter_isRead_flatMap]
  · -- the warning of the element, or else what was told before it, stands last
    have hlast : ∀ path' text, (told ++ warnings).getLast? = some (.clockOnly path' text) ↔
        path' = path ∧ Legacy.clockOnly? e = some text := by
      intro path' text
      rw [List.getLast?_append]
      cases hclock : Legacy.clockOnly? e with
      | none =>
        simpa [warnings, hclock] using getLast?_told_ne_clockOnly .legacy path path' text before
      | some time =>
        simp [warnings, hclock, eq_comm]
    have htime : (Legacy.figuresOf e).saturate.time = (Legacy.timeOf e).map .saturate := rfl
    refine ⟨?_, ?_, ?_⟩
    · intro text d hattribute hd
      rw [htime, Legacy.timeOf_of_decimal hattribute hd, Option.map_some, Counter.saturate_value]
    · rw [htime, Option.map_eq_none_iff, Legacy.timeOf_eq_none_iff he, Legacy.untimed_iff]
      refine or_congr_right (exists_congr fun text => ?_)
      rw [hlast]
      exact ⟨fun hclock => ⟨(Legacy.clockOnly?_eq_some_iff.mp hclock).1, rfl, hclock⟩,
        fun hboth => hboth.2.2⟩
    · intro path' text
      rw [hlast, Legacy.clockOnly?_eq_some_iff]

/-- No text with a colon is a number. An element whose time is a number is read alike
whatever stands inside it. Of a report of NUnit 2 that is counted, the summary is what its
`test-results` elements contribute, merged, and the events tell these contributions one
after the other, in document order; of the time of each element they tell what
`Legacy.TellsTime` says. The events that warn are those of the elements that give a time of
day while no suite directly inside them gives a time. -/
theorem countText_tells_times :
    (∀ cs : List Char, ':' ∈ cs → readDecimal? cs = none) ∧
    (∀ path (e : Element) text d, e.attribute? "time" = some text →
      readDecimal? text.toList = some d → ∀ children,
        Dialect.legacy.read path { e with children } = Dialect.legacy.read path e) ∧
    ∀ path text root s, documentOf? text = some root → root.tag = Dialect.legacy.rootTag →
      (countText path text).outcome = .ok s →
        ∃ contribution : Element → Summary,
          s = ((Legacy.results root).map contribution).foldl Summary.merge Summary.empty ∧
          (∀ before e after, Legacy.results root = before ++ e :: after →
            ∃ earlier later, (countText path text).events =
                earlier ++ .legacyCounted (contribution e) :: later ∧
              earlier.filter Event.isRead = before.map (.legacyCounted <| contribution ·) ∧
              later.filter Event.isRead = after.map (.legacyCounted <| contribution ·) ∧
              Legacy.TellsTime path e (contribution e) earlier.getLast?) ∧
          (countText path text).events.filter (·.level = .warn) =
            (Legacy.results root).filterMap fun e =>
              (Legacy.clockOnly? e).map (Event.clockOnly path) := by
  refine ⟨fun cs => Number.readDecimal?_of_colon, ?_, ?_⟩
  · intro path e text d htime h children
    exact Legacy.read_of_decimal htime h path children
  · intro path text root s hdocument htag h
    obtain ⟨hvalid, hsum, htold⟩ : (∀ e ∈ Legacy.results root, Legacy.Valid Element.attribute? e) ∧
        s = ((Legacy.results root).map fun e => (Legacy.figuresOf e).saturate).sum ∧
        (countText path text).events = .dispatching path .legacy ::
          (Legacy.results root).flatMap (Dialect.legacy.eventsOf path) :=
      countText_of_counted hdocument htag h
    refine ⟨fun e => (Legacy.figuresOf e).saturate, ?_, ?_, ?_⟩
    · rw [Summary.foldl_merge_eq_add_sum, hsum]
      exact (zero_add _).symm
    · intro before e after hsplit
      rw [htold, hsplit]
      exact tellsTime_of_split (hsplit ▸ hvalid)
    · rw [htold, ← filter_warn_flatMap path hvalid]
      rfl

/-- Results that give a time of day, around a suite without a time that holds results with
a duration. -/
def clockResults : Element :=
  ⟨⟨"", "test-results"⟩, [⟨⟨"", "total"⟩, "3"⟩, ⟨⟨"", "errors"⟩, "0"⟩, ⟨⟨"", "failures"⟩, "1"⟩,
      ⟨⟨"", "time"⟩, "13:37:00"⟩],
    [⟨⟨"", "test-suite"⟩, [],
      [⟨⟨"", "test-results"⟩, [⟨⟨"", "total"⟩, "2"⟩, ⟨⟨"", "errors"⟩, "1"⟩,
        ⟨⟨"", "failures"⟩, "0"⟩, ⟨⟨"", "time"⟩, " 0,0605"⟩], []⟩]⟩]⟩

theorem clockResults_proper : clockResults.Proper := by
  refine .mk (by decide) fun suite hsuite => ?_
  rw [List.mem_singleton.mp hsuite]
  refine .mk (by decide) fun results hresults => ?_
  rw [List.mem_singleton.mp hresults]
  exact .mk (by decide) (by simp)

theorem countText_tells_times_clock :
    documentOf? (textOf clockResults) = some clockResults ∧
      (countText "/r.xml" (textOf clockResults)).outcome =
        .ok ⟨.saturate 5, .saturate 1, .saturate 1, .saturate 0, some (.saturate 61)⟩ ∧
      (countText "/r.xml" (textOf clockResults)).events.filter (·.level = .warn) =
        [.clockOnly "/r.xml" "13:37:00"] := by
  have hdocument : documentOf? (textOf clockResults) = some clockResults :=
    documentOf?_written clockResults_proper
  have hcounted : (countText "/r.xml" (textOf clockResults)).outcome =
      .ok ⟨.saturate 5, .saturate 1, .saturate 1, .saturate 0, some (.saturate 61)⟩ := by
    rw [countText_report_eq_ok_iff (d := .legacy) hdocument rfl, Dialect.count_eq_tally]
    rfl
  obtain ⟨-, -, -, hwarn⟩ := countText_tells_times.2.2 _ _ _ _ hdocument rfl hcounted
  exact ⟨hdocument, hcounted, hwarn⟩

end Report

end TestRollup
