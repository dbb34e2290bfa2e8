import TestRollup.Proofs.FieldReading
import TestRollup.Report.Legacy

/- What a report of NUnit 2 comes to. `Valid` says what a `test-results` element must
   give, and `figuresOf` what it then contributes, both on the element itself and
   without a ceiling. A tree is counted exactly when every such element in it is
   valid, and then it comes to the exact sum of what they contribute, cut off at the
   ceiling once, although skipped tests, suite times and whole elements are each added
   up under the ceiling on the way.

   The footprint of an element is all that is read of it: trees with the same
   footprints count the same (`count_of_footprints`). `Retimed` changes the attribute
   `time` of one suite whose time nobody reads: one that does not stand directly inside
   a `test-results` element with a time of day. Such a change leaves the footprints as
   they are and makes no difference to the count (`count_retimed`).

   Values are found by local name. `count_ne_unqualified` is the tree on which that
   differs from finding them without a qualifier. -/
namespace TestRollup.Report.Legacy

open TestRollup.Report.Field

/-- What a `test-results` element must give. -/
structure Valid (find : Finder) (e : Xml.Element) : Prop where
  total : Given IsInteger (find e "total")
  errors : Given IsInteger (find e "errors")
  failures : Given IsInteger (find e "failures")
  skipped : ∀ key ∈ ["not-run", "ignored", "invalid"], AbsentOr IsInteger (find e key)
  /-- A time without a colon is a number of seconds. -/
  seconds : AbsentOr (fun text => ':' ∉ text.toList → IsDecimal text) (find e "time")
  /-- Next to a time of day, the suites directly inside give numbers of seconds. -/
  clock : AbsentOr (fun text => ':' ∈ text.toList →
    ∀ suite ∈ e.children, suite.tag = "test-suite" → AbsentOr IsDecimal (find suite "time"))
    (find e "time")

/-- The milliseconds of a `test-results` element. -/
def timeOf (e : Xml.Element) : Option Nat :=
  match e.attribute? "time" with
  | none => none
  | some text =>
    if ':' ∈ text.toList then
      sumPresent ((e.childrenTagged "test-suite").map fun suite =>
        duration (suite.attribute? "time"))
    else duration (some text)

/-- The element gives no time: it has none of its own, or it has a time of day and no
suite directly inside it has one. -/
def Untimed (e : Xml.Element) : Prop :=
  ∀ text, e.attribute? "time" = some text → ':' ∈ text.toList ∧
    ∀ suite ∈ e.children, suite.tag = "test-suite" → suite.attribute? "time" = none

/-- What a valid `test-results` element contributes. -/
def figuresOf (e : Xml.Element) : ExactSummary where
  tests := amount (e.attribute? "total")
  errors := amount (e.attribute? "errors")
  failures := amount (e.attribute? "failures")
  skipped := amount (e.attribute? "not-run") + amount (e.attribute? "ignored") +
    amount (e.attribute? "invalid")
  time := timeOf e

/-- The `test-results` elements of a tree, itself included, at every depth. -/
def results (root : Xml.Element) : List Xml.Element :=
  root.preorder.filter (·.tag == "test-results")

/-! ## One element -/

theorem isClock_iff {text : String} : Entry.isClock text = true ↔ ':' ∈ text.toList := by
  simp [Entry.isClock]

theorem executionTime_eq_ok_iff {e : Xml.Element} {time : Option Counter} :
    (Entry.ofElement e).executionTime = .ok time ↔
      (AbsentOr (fun text => ':' ∉ text.toList → IsDecimal text) (e.attribute? "time") ∧
        AbsentOr (fun text => ':' ∈ text.toList → ∀ suite ∈ e.children,
          suite.tag = "test-suite" → AbsentOr IsDecimal (suite.attribute? "time"))
          (e.attribute? "time")) ∧
      time = (timeOf e).map .saturate := by
  have hfield : (Entry.ofElement e).time = e.attribute? "time" := rfl
  have hsuites : (Entry.ofElement e).suiteTimes =
      (e.childrenTagged "test-suite").map (·.attribute? "time") := rfl
  unfold Entry.executionTime timeOf
  rw [hfield, hsuites]
  cases e.attribute? "time" with
  | none =>
    simp only [absentOr_none, Option.map_none, Except.ok.injEq, and_self, true_and]
    exact eq_comm
  | some text =>
    simp only [absentOr_some]
    by_cases hclock : ':' ∈ text.toList
    · -- a time of day is not read as a number at all
      rw [if_pos (isClock_iff.mpr hclock), if_pos hclock, sumTimes_eq_ok_iff, List.forall_mem_map,
        Xml.Element.forall_mem_childrenTagged, List.map_map]
      simp only [hclock, not_true_eq_false, false_implies, true_implies, true_and]
      rfl
    · have hno : ¬ Entry.isClock text = true := fun h => hclock (isClock_iff.mp h)
      rw [if_neg hno, if_neg hclock, milliseconds_eq_ok_iff]
      simp only [absentOr_some, hclock, not_false_eq_true, true_implies, false_implies, and_true]

theorem timeOf_eq_none_iff {e : Xml.Element} (h : Valid Xml.Element.attribute? e) :
    timeOf e = none ↔ Untimed e := by
  have hseconds := h.seconds
  have hclock := h.clock
  unfold timeOf Untimed
  cases ht : e.attribute? "time" with
  | none => simp
  | some text =>
    rw [ht, absentOr_some] at hseconds hclock
    simp only [Option.some.injEq, forall_eq']
    by_cases hcolon : ':' ∈ text.toList
    · have hsuites := hclock hcolon
      rw [if_pos hcolon, sumPresent_eq_none_iff, List.forall_mem_map,
        Xml.Element.forall_mem_childrenTagged]
      constructor
      · intro hnone
        refine ⟨hcolon, fun suite hmem htag => ?_⟩
        exact (duration_eq_none_iff (hsuites suite hmem htag)).mp (hnone suite hmem htag)
      · rintro ⟨-, habsent⟩ suite hmem htag
        exact (duration_eq_none_iff (hsuites suite hmem htag)).mpr (habsent suite hmem htag)
    · have hsome : duration (some text) ≠ none := by
        rw [Ne, duration_eq_none_iff (absentOr_some.mpr (hseconds hcolon))]
        simp
      rw [if_neg hcolon]
      simp [hsome, hcolon]

/-- An element has figures exactly when it is valid, and then they are the exact ones,
cut off at the ceiling. -/
theorem figures_eq_ok_iff {e : Xml.Element} {s : Summary} :
    (Entry.ofElement e).figures = .ok s ↔
      Valid Xml.Element.attribute? e ∧ s = (figuresOf e).saturate := by
  have hskipped : ∀ n, sum (Entry.ofElement e).skippedFields = .ok n ↔
      (∀ key ∈ ["not-run", "ignored", "invalid"], AbsentOr IsInteger (e.attribute? key)) ∧
        n = .saturate (figuresOf e).skipped := by
    intro n
    rw [sum_eq_ok_iff]
    simp [Entry.skippedFields, Entry.ofElement, figuresOf, Nat.add_assoc]
  unfold Entry.figures
  simp only [bind_eq_ok_iff, required_eq_ok_iff, hskipped, executionTime_eq_ok_iff]
  constructor
  · rintro ⟨tests, ⟨htests, rfl⟩, errors, ⟨herrors, rfl⟩, failures, ⟨hfailures, rfl⟩,
      skipped, ⟨hskip, rfl⟩, time, ⟨⟨hseconds, hclock⟩, rfl⟩, hs⟩
    exact ⟨⟨htests, herrors, hfailures, hskip, hseconds, hclock⟩, (Except.ok.inj hs).symm⟩
  · rintro ⟨h, rfl⟩
    exact ⟨_, ⟨h.total, rfl⟩, _, ⟨h.errors, rfl⟩, _, ⟨h.failures, rfl⟩, _, ⟨h.skipped, rfl⟩,
      _, ⟨⟨h.seconds, h.clock⟩, rfl⟩, rfl⟩

theorem outcome_entry_count (path : String) (e : Entry) :
    (e.count path).outcome = e.figures := by
  unfold Entry.count
  cases e.figures <;> rfl

/-! ## The whole tree -/

theorem entries_eq (root : Xml.Element) : entries root = (results root).map Entry.ofElement := by
  rw [entries, Xml.Element.descendantsTagged, Xml.Element.documentOrder_eq]
  rfl

theorem mem_results {root e : Xml.Element} :
    e ∈ results root ↔ e ∈ root.preorder ∧ e.tag = "test-results" := by
  simp [results]

theorem count_eq_ok_iff {path : String} {root : Xml.Element} {s : Summary} :
    (count path root).outcome = .ok s ↔
      (∀ e ∈ results root, Valid Xml.Element.attribute? e) ∧
        s = ((results root).map figuresOf).sum.saturate := by
  have hentry : ∀ (e : Xml.Element) (t : Summary),
      (Entry.count path (Entry.ofElement e)).outcome = .ok t ↔
        Valid Xml.Element.attribute? e ∧ t = (figuresOf e).saturate := by
    intro e t
    rw [outcome_entry_count, figures_eq_ok_iff]
  rw [count, entries_eq, Logged.tally_map, Logged.tally_eq_ok_iff hentry, ExactSummary.saturate_sum,
    List.map_map]
  rfl

/-! ## What is read of an element -/

/-- The values that a `test-results` element is read for, and next to a time of day the
times of the suites directly inside it. -/
def footprint (find : Finder) (e : Xml.Element) : List (Option String) × List (Option String) :=
  (["total", "errors", "failures", "not-run", "ignored", "invalid", "time"].map (find e),
    if (find e "time").any Entry.isClock then
      (e.childrenTagged "test-suite").map fun suite => find suite "time"
    else [])

/-- Without a time of day, the times of the suites inside do not count. -/
theorem count_of_suiteTimes (path : String) (e : Entry) (h : e.time.any Entry.isClock = false)
    (suiteTimes : List (Option String)) :
    Entry.count path { e with suiteTimes } = Entry.count path e := by
  have htime : Entry.executionTime { e with suiteTimes } = e.executionTime := by
    unfold Entry.executionTime
    cases ht : e.time with
    | none => rfl
    | some text =>
      rw [ht] at h
      have hno : Entry.isClock text = false := h
      simp only [hno]
      rfl
  unfold Entry.count Entry.figures Entry.skippedFields Entry.warnings
  simp only [htime]

/-- Elements with one footprint count the same. -/
theorem count_of_footprint (path : String) {e e' : Xml.Element}
    (h : footprint Xml.Element.attribute? e = footprint Xml.Element.attribute? e') :
    Entry.count path (Entry.ofElement e) = Entry.count path (Entry.ofElement e') := by
  obtain ⟨hvalues, hsuites⟩ := Prod.mk.inj h
  have hvalue := List.map_inj_left.mp hvalues
  have htime : e.attribute? "time" = e'.attribute? "time" := hvalue "time" (by simp)
  -- but for the times of the suites the two are one entry
  have hentry : Entry.ofElement e =
      { Entry.ofElement e' with suiteTimes := (Entry.ofElement e).suiteTimes } := by
    simp only [Entry.ofElement, Entry.mk.injEq, and_true]
    exact ⟨hvalue _ (by simp), hvalue _ (by simp), hvalue _ (by simp), hvalue _ (by simp),
      hvalue _ (by simp), hvalue _ (by simp), htime⟩
  cases hclock : (e'.attribute? "time").any Entry.isClock with
  | false =>
    rw [hentry]
    exact count_of_suiteTimes path (Entry.ofElement e') hclock _
  | true =>
    rw [htime, hclock] at hsuites
    have hsame : (Entry.ofElement e).suiteTimes = (Entry.ofElement e').suiteTimes := hsuites
    rw [hentry, hsame]

/-- Trees count the same if their elements have the same footprints one by one. -/
theorem count_of_footprints (path : String) {root root' : Xml.Element}
    (h : (results root).map (footprint Xml.Element.attribute?) =
      (results root').map (footprint Xml.Element.attribute?)) :
    count path root = count path root' := by
  have hcounts : (results root).map (fun e => Entry.count path (Entry.ofElement e)) =
      (results root').map fun e => Entry.count path (Entry.ofElement e) :=
    map_eq_of_factorsThrough (fun _ _ => count_of_footprint path) h
  have htally : ∀ x : Xml.Element, count path x =
      Logged.tally id ((results x).map fun e => Entry.count path (Entry.ofElement e)) := by
    intro x
    rw [count, entries_eq, Logged.tally_map, Logged.tally_map]
    rfl
  rw [htally root, htally root', hcounts]

/-! ## Times that nobody reads -/

/-- The suites directly inside the element give its time. -/
def readsSuiteTimes (e : Xml.Element) : Bool :=
  e.tag == "test-results" && (e.attribute? "time").any Entry.isClock

/-- The same tree with another `time` in one suite. The flag says that the element around
the tree reads the times of the suites directly inside; the tree itself is then not the
suite that changes. -/
inductive Retimed : Bool → Xml.Element → Xml.Element → Prop where
  | here {name : Xml.Name} {attributes attributes' : List Xml.Attribute}
      {children : List Xml.Element} (suite : name.localName = "test-suite")
      (others : attributes.filter (·.name.localName != "time") =
        attributes'.filter (·.name.localName != "time")) :
      Retimed false ⟨name, attributes, children⟩ ⟨name, attributes', children⟩
  | inside {read : Bool} {name : Xml.Name} {attributes : List Xml.Attribute}
      {before after : List Xml.Element} {e e' : Xml.Element}
      (change : Retimed (readsSuiteTimes ⟨name, attributes, before ++ e :: after⟩) e e') :
      Retimed read ⟨name, attributes, before ++ e :: after⟩
        ⟨name, attributes, before ++ e' :: after⟩

namespace Retimed

variable {read : Bool} {e e' : Xml.Element}

theorem tag_eq (h : Retimed read e e') : e.tag = e'.tag := by
  cases h <;> rfl

/-- A time that is read stays. -/
theorem time_eq (h : Retimed true e e') : e.attribute? "time" = e'.attribute? "time" := by
  cases h
  rfl

end Retimed

theorem childrenTagged_eq (name : Xml.Name) (attributes : List Xml.Attribute)
    (before after : List Xml.Element) (e : Xml.Element) (tag : String) :
    Xml.Element.childrenTagged ⟨name, attributes, before ++ e :: after⟩ tag =
      before.filter (·.hasTag tag) ++
        (if e.tag = tag then e :: after.filter (·.hasTag tag) else after.filter (·.hasTag tag)) := by
  simp only [Xml.Element.childrenTagged, List.filter_append, List.filter_cons]
  simp [Xml.Element.hasTag]

/-- The change leaves no trace in the footprint of the element around it. -/
theorem footprint_around {name : Xml.Name} {attributes : List Xml.Attribute}
    {before after : List Xml.Element} {e e' : Xml.Element} (htag : name.localName = "test-results")
    (h : Retimed (readsSuiteTimes ⟨name, attributes, before ++ e :: after⟩) e e') :
    footprint Xml.Element.attribute? ⟨name, attributes, before ++ e :: after⟩ =
      footprint Xml.Element.attribute? ⟨name, attributes, before ++ e' :: after⟩ := by
  unfold footprint
  apply congrArg (Prod.mk _)
  show ite _ _ _ = ite ((Xml.Element.attribute? ⟨name, attributes, before ++ e :: after⟩
    "time").any Entry.isClock = true) _ _
  split
  · next hclock =>
    have hread : readsSuiteTimes ⟨name, attributes, before ++ e :: after⟩ = true := by
      simp [readsSuiteTimes, Xml.Element.tag, htag, hclock]
    rw [hread] at h
    -- the suites' times are read here, so the change is none to them
    rw [childrenTagged_eq, childrenTagged_eq, h.tag_eq]
    split <;> simp [h.time_eq]
  · rfl

theorem results_mk (name : Xml.Name) (attributes : List Xml.Attribute)
    (children : List Xml.Element) :
    results ⟨name, attributes, children⟩ =
      if name.localName = "test-results" then
        ⟨name, attributes, children⟩ ::
          (Xml.Element.preorderAll children).filter (·.tag == "test-results")
      else (Xml.Element.preorderAll children).filter (·.tag == "test-results") := by
  rw [results, Xml.Element.preorder, List.filter_cons]
  simp only [Xml.Element.tag, beq_iff_eq]

/-- Element by element, a tree has the footprints it had before the change. -/
theorem map_footprint_retimed {read : Bool} {e e' : Xml.Element} (h : Retimed read e e') :
    (results e).map (footprint Xml.Element.attribute?) =
      (results e').map (footprint Xml.Element.attribute?) := by
  induction h with
  | @here name attributes attributes' children suite others =>
    -- the suite that changes is not one of the elements that count
    have hno : ¬ name.localName = "test-results" := by
      rw [suite]
      decide
    rw [results_mk, results_mk, if_neg hno, if_neg hno]
  | @inside read name attributes before after e e' change ih =>
    simp only [results] at ih
    have hbelow : ((Xml.Element.preorderAll (before ++ e :: after)).filter
          (·.tag == "test-results")).map (footprint Xml.Element.attribute?) =
        ((Xml.Element.preorderAll (before ++ e' :: after)).filter (·.tag == "test-results")).map
          (footprint Xml.Element.attribute?) := by
      simp only [Xml.Element.preorderAll_append, Xml.Element.preorderAll, List.filter_append,
        List.map_append, ih]
    rw [results_mk, results_mk]
    by_cases htag : name.localName = "test-results"
    · rw [if_pos htag, if_pos htag, List.map_cons, List.map_cons, hbelow,
        footprint_around htag change]
    · rw [if_neg htag, if_neg htag]
      exact hbelow

/-- A time that nobody reads makes no difference to the count. -/
theorem count_retimed (path : String) {root root' : Xml.Element} (h : Retimed false root root') :
    count path root' = count path root :=
  (count_of_footprints path (map_footprint_retimed h)).symm

/-- Without a time of day, the time of a suite need not even be a number. -/
example (path : String) :
    count path ⟨⟨"", "test-results"⟩, [], [⟨⟨"", "test-suite"⟩, [⟨⟨"", "time"⟩, "soon"⟩], []⟩]⟩ =
      count path ⟨⟨"", "test-results"⟩, [], [⟨⟨"", "test-suite"⟩, [], []⟩]⟩ :=
  count_retimed path (@Retimed.inside false _ _ [] [] _ _ (.here rfl rfl))

/-! ## The law of a report -/

/-- A tree is counted exactly when every `test-results` element in it is valid. It then
comes to the exact sums over these elements, cut off at the ceiling; its time is absent
exactly when all of theirs are; and no time of any other suite matters. -/
theorem count_sums_results (path : String) (root : Xml.Element) :
    ((∃ s, (count path root).outcome = .ok s) ↔
      ∀ e ∈ root.preorder, e.tag = "test-results" → Valid Xml.Element.attribute? e) ∧
    (∀ s, (count path root).outcome = .ok s →
      s.Caps
        { tests := ((results root).map fun e => amount (e.attribute? "total")).sum
          errors := ((results root).map fun e => amount (e.attribute? "errors")).sum
          failures := ((results root).map fun e => amount (e.attribute? "failures")).sum
          skipped := ((results root).map fun e => amount (e.attribute? "not-run") +
            amount (e.attribute? "ignored") + amount (e.attribute? "invalid")).sum
          time := sumPresent ((results root).map timeOf) } ∧
      (s.time = none ↔ ∀ e ∈ results root, Untimed e)) ∧
    (∀ root', Retimed false root root' →
      (count path root').outcome = (count path root).outcome) := by
  refine ⟨?_, ?_, ?_⟩
  · constructor
    · rintro ⟨s, hs⟩ e he htag
      exact (count_eq_ok_iff.mp hs).1 e (mem_results.mpr ⟨he, htag⟩)
    · intro h
      exact ⟨_, count_eq_ok_iff.mpr
        ⟨fun e he => h e (mem_results.mp he).1 (mem_results.mp he).2, rfl⟩⟩
  · intro s hs
    obtain ⟨hvalid, hsum⟩ := count_eq_ok_iff.mp hs
    have htime : s.time = none ↔ ∀ e ∈ results root, timeOf e = none := by
      rw [hsum, ExactSummary.saturate_sum_time_eq_none_iff, List.forall_mem_map]
      rfl
    rw [ExactSummary.sum_eq] at hsum
    simp only [List.map_map] at hsum
    refine ⟨Summary.caps_iff.mpr hsum, ?_⟩
    rw [htime]
    -- a valid element gives no time only if it has none to give
    exact forall₂_congr fun e he => timeOf_eq_none_iff (hvalid e he)
  · intro root' h
    rw [count_retimed path h]

/-- A total with a qualifier in front of it. -/
def qualifiedTotal : Xml.Element :=
  ⟨⟨"", "test-results"⟩,
    [⟨⟨"x", "total"⟩, "5"⟩, ⟨⟨"", "errors"⟩, "0"⟩, ⟨⟨"", "failures"⟩, "0"⟩], []⟩

/-- The tree is counted although its element gives no total without a qualifier. -/
theorem count_ne_unqualified :
    ¬ ((∃ s, (count "/r.xml" qualifiedTotal).outcome = .ok s) ↔
      ∀ e ∈ qualifiedTotal.preorder, e.tag = "test-results" →
        Valid Xml.Element.unqualified? e) := by
  intro h
  have hcounted : ∃ s, (count "/r.xml" qualifiedTotal).outcome = .ok s := by
    refine ⟨⟨.saturate 5, 0, 0, 0, none⟩, ?_⟩
    rw [count, entries_eq]
    rfl
  have hroot : qualifiedTotal ∈ qualifiedTotal.preorder := by
    rw [Xml.Element.preorder_eq]
    exact List.mem_cons_self
  have htotal := (h.mp hcounted qualifiedTotal hroot rfl).total
  have hnone : qualifiedTotal.unqualified? "total" = none := by decide
  rw [hnone] at htotal
  exact not_given_none _ htotal

end TestRollup.Report.Legacy
