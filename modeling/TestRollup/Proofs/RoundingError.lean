import TestRollup.Proofs.DecimalValue
import TestRollup.Proofs.Sharding
import TestRollup.Proofs.Spreading

/- How far a time is from what the reports say. Every number of seconds in a report is
   rounded to the nearest millisecond as it is read, halves going up, and the times are
   added up as rounded: over the elements of a report, over the suites of an element with a
   time of day, and over the files of a run.

   Rounding moves each number by at most half a millisecond, and by less than that if it
   moves it down (`nearestMillisecond_bounds`), so a sum of `n` of them is off by at most
   `n / 2`, whatever was added to what (`sum_nearestMillisecond_bounds`). The ceiling is one
   for the whole: a part that has reached it takes the sum there.

   `AddsUp` carries this through the additions: a time is what is left of the sum of the
   numbers that went into it, cut off once. `time_near_exact_sum` turns it into a bound, for
   the report of one text and for the files of a run. -/
namespace TestRollup

open Number (readDecimal? Means)

/-! ## The error of a sum -/

namespace Number

/-- The millisecond nearest to a number of seconds, the later one if it lies between two. -/
def nearestMillisecond (seconds : ℚ) : ℤ := ⌊1000 * seconds + 1 / 2⌋

theorem nearestMillisecond_bounds (v : ℚ) :
    1000 * v - 1 / 2 < nearestMillisecond v ∧ (nearestMillisecond v : ℚ) ≤ 1000 * v + 1 / 2 := by
  have hbelow := Int.lt_floor_add_one (1000 * v + 1 / 2)
  have habove := Int.floor_le (1000 * v + 1 / 2)
  unfold nearestMillisecond
  constructor <;> linarith

/-- Every number moves the sum by at most half a millisecond. -/
theorem sum_nearestMillisecond_bounds (seconds : List ℚ) :
    1000 * seconds.sum - seconds.length / 2 ≤ ((seconds.map nearestMillisecond).sum : ℚ) ∧
      ((seconds.map nearestMillisecond).sum : ℚ) ≤ 1000 * seconds.sum + seconds.length / 2 := by
  induction seconds with
  | nil => simp
  | cons v seconds ih =>
    obtain ⟨hlow, hhigh⟩ := nearestMillisecond_bounds v
    obtain ⟨hlows, hhighs⟩ := ih
    simp only [List.map_cons, List.sum_cons, List.length_cons, Int.cast_add, Nat.cast_add,
      Nat.cast_one]
    constructor <;> linarith

/-- None of them moves it down by as much as that. -/
theorem lt_sum_nearestMillisecond {seconds : List ℚ} (h : seconds ≠ []) :
    1000 * seconds.sum - seconds.length / 2 < ((seconds.map nearestMillisecond).sum : ℚ) := by
  obtain ⟨v, rest, rfl⟩ := List.exists_cons_of_ne_nil h
  have hv := (nearestMillisecond_bounds v).1
  have hrest := (sum_nearestMillisecond_bounds rest).1
  simp only [List.map_cons, List.sum_cons, List.length_cons, Int.cast_add, Nat.cast_add,
    Nat.cast_one]
  linarith

end Number

open Number (nearestMillisecond)

/-- The text means a number of seconds, exactly, and is read as the nearest millisecond. -/
def GivesSeconds (text : String) (v : ℚ) : Prop :=
  Means text.toList v ∧
    ∃ d, readDecimal? text.toList = some d ∧ (d.thousandths.value : ℤ) = nearestMillisecond v

/-- A time, in milliseconds, that is a sum of numbers of seconds, each of them rounded. -/
structure RoundedSum (seconds : List ℚ) (time : Option Counter) : Prop where
  absent : time = none ↔ seconds = []
  /-- The time is that close to the exact sum if the ceiling is not in the way. -/
  near : ∀ ms, time = some ms → (seconds.map nearestMillisecond).sum ≤ (2 ^ 64 - 1 : ℤ) →
    1000 * seconds.sum - seconds.length / 2 < (ms.value : ℚ) ∧
      (ms.value : ℚ) ≤ 1000 * seconds.sum + seconds.length / 2
  atCeiling : ∀ ms, time = some ms → (2 ^ 64 - 1 : ℤ) < (seconds.map nearestMillisecond).sum →
    ms.value = 2 ^ 64 - 1

/-- The time is what is left of the sum of these numbers of seconds, each read on its own, when
it is cut off at the ceiling. -/
structure AddsUp (texts : List String) (time : Option Counter) : Prop where
  decimal : ∀ text ∈ texts, Report.Field.IsDecimal text
  sum : time = (sumPresent (texts.map fun text => Report.Field.duration (some text))).map .saturate

/-! ## From texts to numbers -/

theorem exists_givesSeconds {text : String} (h : Report.Field.IsDecimal text) :
    ∃ v, GivesSeconds text v := by
  obtain ⟨d, hd⟩ := Option.isSome_iff_exists.mp h
  obtain ⟨v, hv, hvalue⟩ := Number.readDecimal?_eq_some_iff.mp hd
  exact ⟨v, hv, d, hd, hvalue⟩

theorem exists_seconds {texts : List String} (h : ∀ text ∈ texts, Report.Field.IsDecimal text) :
    ∃ seconds, List.Forall₂ GivesSeconds texts seconds := by
  induction texts with
  | nil => exact ⟨[], .nil⟩
  | cons text texts ih =>
    obtain ⟨htext, htexts⟩ := List.forall_mem_cons.mp h
    obtain ⟨v, hv⟩ := exists_givesSeconds htext
    obtain ⟨seconds, hseconds⟩ := ih htexts
    exact ⟨v :: seconds, .cons hv hseconds⟩

/-- What the texts come to is the sum of the nearest milliseconds. -/
theorem sumPresent_of_givesSeconds {texts : List String} {seconds : List ℚ}
    (h : List.Forall₂ GivesSeconds texts seconds) :
    (sumPresent (texts.map fun text => Report.Field.duration (some text)) = none ↔ seconds = []) ∧
      ∀ n, sumPresent (texts.map fun text => Report.Field.duration (some text)) = some n →
        (n : ℤ) = (seconds.map nearestMillisecond).sum := by
  induction h with
  | nil => simp
  | @cons text v texts seconds htext _ ih =>
    obtain ⟨-, d, hd, hvalue⟩ := htext
    have hduration : Report.Field.duration (some text) = some d.thousandths.value := by
      simp only [Report.Field.duration, Option.bind_some, hd, Option.map_some]
    rw [List.map_cons, sumPresent_cons, hduration]
    cases hrest : sumPresent (texts.map fun text => Report.Field.duration (some text)) with
    | none =>
      obtain rfl := ih.1.mp hrest
      simp [hvalue]
    | some n =>
      have hn := ih.2 n hrest
      simp [hvalue, hn]

/-- A time that adds up is near the exact sum. -/
theorem AddsUp.exists_roundedSum {texts : List String} {time : Option Counter}
    (h : AddsUp texts time) :
    ∃ seconds, List.Forall₂ GivesSeconds texts seconds ∧ RoundedSum seconds time := by
  obtain ⟨seconds, hseconds⟩ := exists_seconds h.decimal
  obtain ⟨hnone, hsome⟩ := sumPresent_of_givesSeconds hseconds
  have hpresent : ∀ ms, time = some ms → seconds ≠ [] ∧
      (ms.value : ℤ) = min (seconds.map nearestMillisecond).sum (2 ^ 64 - 1) := by
    intro ms hms
    obtain ⟨n, hn, hcut⟩ := Option.map_eq_some_iff.mp (h.sum.symm.trans hms)
    have hne : seconds ≠ [] := by
      intro hnil
      rw [hnone.mpr hnil] at hn
      cases hn
    refine ⟨hne, ?_⟩
    rw [← hsome n hn, ← hcut, Counter.value_saturate, Counter.ceiling]
    push_cast
    rfl
  refine ⟨seconds, hseconds, ?_, ?_, ?_⟩
  · rw [h.sum, Option.map_eq_none_iff, hnone]
  · intro ms hms hfits
    obtain ⟨hne, hvalue⟩ := hpresent ms hms
    rw [min_eq_left hfits] at hvalue
    have hcast : (ms.value : ℚ) = ((seconds.map nearestMillisecond).sum : ℤ) := by
      exact_mod_cast hvalue
    rw [hcast]
    exact ⟨Number.lt_sum_nearestMillisecond hne,
      (Number.sum_nearestMillisecond_bounds seconds).2⟩
  · intro ms hms hover
    obtain ⟨-, hvalue⟩ := hpresent ms hms
    rw [min_eq_right hover.le] at hvalue
    omega

/-! ## Times that add up -/

namespace AddsUp

theorem nil : AddsUp [] none := ⟨by simp, rfl⟩

theorem append {texts others : List String} {a b : Option Counter} (ha : AddsUp texts a)
    (hb : AddsUp others b) : AddsUp (texts ++ others) (addTimes a b) := by
  constructor
  · intro text htext
    rcases List.mem_append.mp htext with htext | htext
    · exact ha.decimal text htext
    · exact hb.decimal text htext
  · rw [ha.sum, hb.sum, List.map_append, ExactSummary.sumPresent_append, saturate_merge_times]

/-- The time of a sum adds up if the times of its parts do. -/
theorem sum_map {α : Type} {texts : α → List String} {figures : α → Summary} {xs : List α}
    (h : ∀ x ∈ xs, AddsUp (texts x) (figures x).time) :
    AddsUp (xs.flatMap texts) (xs.map figures).sum.time := by
  induction xs with
  | nil => exact nil
  | cons x xs ih =>
    obtain ⟨hx, hxs⟩ := List.forall_mem_cons.mp h
    rw [List.flatMap_cons, List.map_cons, List.sum_cons]
    exact hx.append (ih hxs)

theorem of_field {value : Option String}
    (h : Report.Field.AbsentOr Report.Field.IsDecimal value) :
    AddsUp value.toList ((Report.Field.duration value).map .saturate) := by
  cases value with
  | none => exact nil
  | some text => exact ⟨by simpa using h, by simp [sumPresent_cons]⟩

/-- Absent fields add nothing. -/
theorem of_fields {values : List (Option String)}
    (h : ∀ value ∈ values, Report.Field.AbsentOr Report.Field.IsDecimal value) :
    AddsUp (values.filterMap id)
      ((sumPresent (values.map Report.Field.duration)).map .saturate) := by
  induction values with
  | nil => exact nil
  | cons value values ih =>
    obtain ⟨hvalue, hvalues⟩ := List.forall_mem_cons.mp h
    have hcons : (value :: values).filterMap id = value.toList ++ values.filterMap id := by
      cases value <;> rfl
    rw [hcons, List.map_cons, sumPresent_cons, saturate_merge_times]
    exact (of_field hvalue).append (ih hvalues)

end AddsUp

/-! ## The times of a report -/

namespace Report

/-- The values that are added up to the time of a `test-results` element: its own, or next to
a time of day those of the suites directly inside. -/
def Legacy.timesOf (e : Xml.Element) : List String :=
  match e.attribute? "time" with
  | none => []
  | some text =>
    if ':' ∈ text.toList then
      ((e.childrenTagged "test-suite").map (·.attribute? "time")).filterMap id
    else [text]

/-- The values that are added up to the time of an element. -/
def Dialect.timesOf : Dialect → Xml.Element → List String
  | legacy => Legacy.timesOf
  | modern => fun e => (e.attribute? "duration").toList

/-- The values that are added up to the time of the report with this text. -/
def timesOf (text : String) : List String :=
  match documentOf? text with
  | none => []
  | some root =>
    match Dialect.ofRootTag? root.tag with
    | none => []
    | some d => (d.scanned root).flatMap d.timesOf

theorem timesOf_of_document {text : String} {root : Xml.Element} {d : Dialect}
    (hdocument : documentOf? text = some root) (htag : root.tag = d.rootTag) :
    timesOf text = (d.scanned root).flatMap d.timesOf := by
  simp only [timesOf, hdocument, Dialect.ofRootTag?_eq_some_iff.mpr htag]

theorem Legacy.addsUp_timeOf {e : Xml.Element} (h : Valid Xml.Element.attribute? e) :
    AddsUp (timesOf e) ((timeOf e).map .saturate) := by
  have hseconds := h.seconds
  have hclock := h.clock
  unfold timesOf timeOf
  cases htime : e.attribute? "time" with
  | none => exact .nil
  | some text =>
    rw [htime, Field.absentOr_some] at hseconds hclock
    by_cases hcolon : ':' ∈ text.toList
    · have hsuites : ∀ value ∈ (e.childrenTagged "test-suite").map (·.attribute? "time"),
          Field.AbsentOr Field.IsDecimal value := by
        rw [List.forall_mem_map, Xml.Element.forall_mem_childrenTagged]
        exact hclock hcolon
      have hsum := AddsUp.of_fields hsuites
      rw [List.map_map] at hsum
      simp only [hcolon, if_true]
      exact hsum
    · simp only [hcolon, if_false]
      exact .of_field (Field.absentOr_some.mpr (hseconds hcolon))

theorem Dialect.addsUp_of_valid {d : Dialect} {e : Xml.Element} (h : d.Valid e) :
    AddsUp (d.timesOf e) (d.figuresOf e).saturate.time := by
  cases d with
  | legacy => exact Legacy.addsUp_timeOf h
  | modern => exact .of_field h.duration

theorem addsUp_countText {path text : String} {s : Summary}
    (h : (countText path text).outcome = .ok s) : AddsUp (timesOf text) s.time := by
  obtain ⟨root, d, hdocument, htag, hcount⟩ := countText_eq_ok_iff.mp h
  obtain ⟨hvalid, rfl⟩ := Dialect.outcome_count_eq_ok_iff.mp hcount
  rw [timesOf_of_document hdocument htag]
  exact AddsUp.sum_map fun e he => Dialect.addsUp_of_valid (hvalid e he)

end Report

/-! ## The times of files -/

namespace Intake

open Report

/-- The values that are added up to the time of the report in a file. -/
def timesIn (w : Workspace) (path : String) : List String :=
  match w.text (Files.absolute w.folder path) with
  | .error _ => []
  | .ok text => timesOf text

theorem timesIn_of_text {w : Workspace} {path text : String}
    (h : w.text (Files.absolute w.folder path) = .ok text) : timesIn w path = timesOf text := by
  simp only [timesIn, h]

theorem addsUp_figures {w : Workspace} {path : String} (h : Counts w path) :
    AddsUp (timesIn w path) (figures w path).time := by
  have hcounted := h.outcome_eq
  cases htext : w.text (Files.absolute w.folder path) with
  | error f =>
    rw [countFile_of_unreadable htext] at hcounted
    cases hcounted
  | ok text =>
    rw [countFile_of_text htext] at hcounted
    rw [timesIn_of_text htext]
    exact addsUp_countText hcounted

theorem addsUp_aggregate {w : Workspace} {paths : List String} {s : Summary}
    (h : (aggregate w paths).outcome = .ok s) : AddsUp (paths.flatMap (timesIn w)) s.time := by
  have hcounts := aggregate_ok_iff.mp ⟨s, h⟩
  rw [aggregate_of_counts hcounts] at h
  obtain rfl := Except.ok.inj h
  exact AddsUp.sum_map fun path hpath => addsUp_figures (hcounts path hpath)

end Intake

/-- The time of a report that is counted is near the exact sum of the numbers of seconds that
are added up to it: no more than half a millisecond above for each of them, and less than
that below, unless the rounded numbers come to more than the ceiling, and then it is the
ceiling. The same holds of the time of any files that are aggregated and the numbers in all
of them. There is a time exactly if there is a number. -/
theorem time_near_exact_sum :
    (∀ path text s, (Report.countText path text).outcome = .ok s →
      ∃ seconds, List.Forall₂ GivesSeconds (Report.timesOf text) seconds ∧
        RoundedSum seconds s.time) ∧
    ∀ w paths s, (Intake.aggregate w paths).outcome = .ok s →
      ∃ seconds, List.Forall₂ GivesSeconds (paths.flatMap (Intake.timesIn w)) seconds ∧
        RoundedSum seconds s.time := by
  constructor
  · intro path text s h
    exact (Report.addsUp_countText h).exists_roundedSum
  · intro w paths s h
    exact (Intake.addsUp_aggregate h).exists_roundedSum

open Report Intake

/-- A run of two suites whose durations lie between milliseconds. -/
def roundedRun : Xml.Element :=
  ⟨⟨"", "test-run"⟩, [],
    [⟨⟨"", "test-suite"⟩,
      [⟨⟨"", "total"⟩, "1"⟩, ⟨⟨"", "failed"⟩, "0"⟩, ⟨⟨"", "duration"⟩, "0.0005"⟩], []⟩,
    ⟨⟨"", "test-suite"⟩,
      [⟨⟨"", "total"⟩, "2"⟩, ⟨⟨"", "failed"⟩, "1"⟩, ⟨⟨"", "duration"⟩, "1,0014"⟩], []⟩]⟩

theorem roundedRun_proper : roundedRun.Proper := by
  refine .mk (by decide) ?_
  simp only [List.forall_mem_cons]
  exact ⟨.mk (by decide) (by simp), .mk (by decide) (by simp), by simp⟩

/-- A workspace in which every file holds the run. -/
def roundedFiles : Workspace := ⟨.ofPath "/", fun _ => .ok (textOf roundedRun).toUTF8⟩

theorem text_roundedFiles (path : String) : roundedFiles.text path = .ok (textOf roundedRun) := by
  have hread : roundedFiles.read path = .ok (textOf roundedRun).toUTF8 := rfl
  exact Workspace.text_of_read hread

/-- One half is rounded up and one number is rounded down, in one report and in two files. -/
theorem time_near_exact_sum_rounded :
    (countText "/r.xml" (textOf roundedRun)).outcome =
        .ok ⟨.saturate 3, 0, .saturate 1, 0, some (.saturate 1002)⟩ ∧
      (∃ seconds, List.Forall₂ GivesSeconds ["0.0005", "1,0014"] seconds ∧
        RoundedSum seconds (some (.saturate 1002))) ∧
      (aggregate roundedFiles ["a.xml", "b.xml"]).outcome =
        .ok ⟨.saturate 6, 0, .saturate 2, 0, some (.saturate 2004)⟩ ∧
      ∃ seconds, List.Forall₂ GivesSeconds ["0.0005", "1,0014", "0.0005", "1,0014"] seconds ∧
        RoundedSum seconds (some (.saturate 2004)) := by
  have hdocument : documentOf? (textOf roundedRun) = some roundedRun :=
    documentOf?_written roundedRun_proper
  have hcounted : ∀ path, (countText path (textOf roundedRun)).outcome =
      .ok ⟨.saturate 3, 0, .saturate 1, 0, some (.saturate 1002)⟩ := by
    intro path
    rw [countText_report_eq_ok_iff (d := .modern) hdocument rfl]
    rfl
  have htimes : timesOf (textOf roundedRun) = ["0.0005", "1,0014"] := by
    rw [timesOf_of_document (d := .modern) hdocument rfl]
    rfl
  have hfile : ∀ path, (countFile roundedFiles path).outcome =
      .ok ⟨.saturate 3, 0, .saturate 1, 0, some (.saturate 1002)⟩ := by
    intro path
    rw [countFile_of_text (text_roundedFiles _)]
    exact hcounted _
  have hcounts : ∀ path, Counts roundedFiles path := fun path => ⟨_, hfile path⟩
  have hfigures : ∀ path, figures roundedFiles path =
      ⟨.saturate 3, 0, .saturate 1, 0, some (.saturate 1002)⟩ :=
    fun path => Except.ok.inj ((hcounts path).outcome_eq.symm.trans (hfile path))
  have haggregate : (aggregate roundedFiles ["a.xml", "b.xml"]).outcome =
      .ok ⟨.saturate 6, 0, .saturate 2, 0, some (.saturate 2004)⟩ := by
    rw [aggregate_of_counts fun path _ => hcounts path, List.map_cons, List.map_cons, hfigures,
      hfigures]
    rfl
  have htimesIn : ["a.xml", "b.xml"].flatMap (timesIn roundedFiles) =
      ["0.0005", "1,0014", "0.0005", "1,0014"] := by
    have hone : ∀ path, timesIn roundedFiles path = ["0.0005", "1,0014"] :=
      fun path => (timesIn_of_text (text_roundedFiles _)).trans htimes
    rw [List.flatMap_cons, List.flatMap_cons, hone, hone]
    rfl
  have hreport := time_near_exact_sum.1 "/r.xml" _ _ (hcounted "/r.xml")
  have hfiles := time_near_exact_sum.2 _ _ _ haggregate
  rw [htimes] at hreport
  rw [htimesIn] at hfiles
  exact ⟨hcounted _, hreport, haggregate, hfiles⟩

end TestRollup
