import TestRollup.Proofs.FieldReading
import TestRollup.Report.Modern

/- What a report of NUnit 3 comes to. `Valid` says what an element must give to count,
   and `Countable` which trees have elements that count: those whose run gives its own
   total, and those whose run gives no figure of its own and holds suites. `counted`
   lists the elements that count, the run alone or the suites directly inside it.

   A tree is counted exactly when it is countable (`count_eq_ok_iff`), and then it
   comes to the exact sum over the elements that count, cut off at the ceiling once.

   The footprint of a tree is all that is read of it (`entries_of_footprint`). What stands
   inside a run with a total, or inside a suite, is no part of it and makes no difference.

   Values are found by local name. `countable_ne_unqualified` is the tree on which that
   differs from finding them without a qualifier. -/
namespace TestRollup.Report.Modern

open TestRollup.Report.Field

/-- What an element that counts must give. -/
structure Valid (find : Finder) (e : Xml.Element) : Prop where
  total : Given IsInteger (find e "total")
  failed : Given IsInteger (find e "failed")
  inconclusive : AbsentOr IsInteger (find e "inconclusive")
  skipped : AbsentOr IsInteger (find e "skipped")
  errors : AbsentOr IsInteger (find e "errors")
  duration : AbsentOr IsDecimal (find e "duration")

/-- The tree has elements that count, and all of them are valid. -/
def Countable (find : Finder) (root : Xml.Element) : Prop :=
  ((find root "total").isSome ∧ Valid find root) ∨
  ((∀ key ∈ ["total", "testcasecount", "passed", "failed", "errors", "inconclusive", "skipped",
      "duration"], find root key = none) ∧
    (∃ suite ∈ root.children, suite.tag = "test-suite") ∧
    ∀ suite ∈ root.children, suite.tag = "test-suite" → Valid find suite)

/-- The elements that count: the run if it gives its total, otherwise the suites directly
inside it. -/
def counted (root : Xml.Element) : List Xml.Element :=
  if (root.attribute? "total").isSome then [root] else root.childrenTagged "test-suite"

/-- What a valid element contributes. -/
def figuresOf (e : Xml.Element) : ExactSummary where
  tests := amount (e.attribute? "total")
  errors := amount (e.attribute? "errors")
  failures := amount (e.attribute? "failed")
  skipped := amount (e.attribute? "inconclusive") + amount (e.attribute? "skipped")
  time := Field.duration (e.attribute? "duration")

/-! ## One element -/

/-- An element has figures exactly when it is valid, and then they are the exact ones,
cut off at the ceiling. -/
theorem figures_eq_ok_iff {e : Xml.Element} {s : Summary} :
    (Entry.ofElement e).figures = .ok s ↔
      Valid Xml.Element.attribute? e ∧ s = (figuresOf e).saturate := by
  have hskipped : ∀ n, sum (Entry.ofElement e).skippedFields = .ok n ↔
      (AbsentOr IsInteger (e.attribute? "inconclusive") ∧
        AbsentOr IsInteger (e.attribute? "skipped")) ∧
        n = .saturate (figuresOf e).skipped := by
    intro n
    rw [sum_eq_ok_iff]
    simp [Entry.skippedFields, Entry.ofElement, figuresOf]
  unfold Entry.figures
  simp only [bind_eq_ok_iff, required_eq_ok_iff, orZero_eq_ok_iff, milliseconds_eq_ok_iff, hskipped]
  constructor
  · rintro ⟨tests, ⟨htests, rfl⟩, failures, ⟨hfailures, rfl⟩, skipped,
      ⟨⟨hinconclusive, hskip⟩, rfl⟩, errors, ⟨herrors, rfl⟩, time, ⟨hduration, rfl⟩, hs⟩
    exact ⟨⟨htests, hfailures, hinconclusive, hskip, herrors, hduration⟩, (Except.ok.inj hs).symm⟩
  · rintro ⟨h, rfl⟩
    exact ⟨_, ⟨h.total, rfl⟩, _, ⟨h.failed, rfl⟩, _, ⟨⟨h.inconclusive, h.skipped⟩, rfl⟩,
      _, ⟨h.errors, rfl⟩, _, ⟨h.duration, rfl⟩, rfl⟩

theorem outcome_entry_count (e : Entry) : e.count.outcome = e.figures := by
  unfold Entry.count
  cases e.figures <;> rfl

/-! ## The elements that count -/

/-- The run gives a figure that means nothing without its total, or holds no suite. -/
def lacksTotal (root : Xml.Element) : Bool :=
  runFigures.any root.hasAttribute || (root.childrenTagged "test-suite").isEmpty

theorem lacksTotal_eq_false_iff {root : Xml.Element} :
    lacksTotal root = false ↔
      (∀ key ∈ runFigures, root.attribute? key = none) ∧
        ∃ suite ∈ root.children, suite.tag = "test-suite" := by
  have hsuites : (root.childrenTagged "test-suite").isEmpty = false ↔
      ∃ suite ∈ root.children, suite.tag = "test-suite" := by
    rw [List.isEmpty_eq_false_iff_exists_mem]
    simp [Xml.Element.childrenTagged, Xml.Element.hasTag]
  rw [lacksTotal, Bool.or_eq_false_iff, hsuites, List.any_eq_false]
  simp [Xml.Element.hasAttribute]

theorem entries_eq (root : Xml.Element) :
    entries root =
      if (root.attribute? "total").isSome = false ∧ lacksTotal root = true then
        .error (.missingAttribute root.tag "total")
      else .ok ((counted root).map Entry.ofElement) := by
  unfold entries counted Xml.Element.hasAttribute
  cases htotal : (root.attribute? "total").isSome with
  | true => rfl
  | false =>
    simp only [true_and]
    rfl

theorem countable_iff {root : Xml.Element} :
    Countable Xml.Element.attribute? root ↔
      ¬ ((root.attribute? "total").isSome = false ∧ lacksTotal root = true) ∧
        ∀ e ∈ counted root, Valid Xml.Element.attribute? e := by
  unfold Countable counted
  cases htotal : root.attribute? "total" with
  | some text =>
    simp [htotal]
  | none =>
    -- the total is absent anyway, so only the other seven figures matter
    have hrun : (∀ key ∈ ["total", "testcasecount", "passed", "failed", "errors", "inconclusive",
          "skipped", "duration"], root.attribute? key = none) ↔
        ∀ key ∈ runFigures, root.attribute? key = none := by
      rw [List.forall_mem_cons]
      exact ⟨fun h => h.2, fun h => ⟨htotal, h⟩⟩
    rw [hrun, ← and_assoc, ← lacksTotal_eq_false_iff]
    simp [Xml.Element.forall_mem_childrenTagged]

/-- A tree is counted exactly when it is countable, and then it comes to what the
elements that count contribute. -/
theorem count_eq_ok_iff {root : Xml.Element} {s : Summary} :
    (count root).outcome = .ok s ↔
      Countable Xml.Element.attribute? root ∧ s = ((counted root).map figuresOf).sum.saturate := by
  have hentry : ∀ (e : Xml.Element) (t : Summary),
      (Entry.count (Entry.ofElement e)).outcome = .ok t ↔
        Valid Xml.Element.attribute? e ∧ t = (figuresOf e).saturate := by
    intro e t
    rw [outcome_entry_count, figures_eq_ok_iff]
  rw [countable_iff, count, entries_eq]
  by_cases hlacks : (root.attribute? "total").isSome = false ∧ lacksTotal root = true
  · rw [if_pos hlacks]
    simp [Logged.fail, hlacks]
  · rw [if_neg hlacks]
    simp only [hlacks, not_false_eq_true, true_and]
    rw [Logged.tally_map, Logged.tally_eq_ok_iff hentry, ExactSummary.saturate_sum, List.map_map]
    rfl

/-! ## What is read of a tree -/

/-- The values that an element that counts is read for. -/
def valuesOf (find : Finder) (e : Xml.Element) : List (Option String) :=
  ["total", "failed", "inconclusive", "skipped", "errors", "duration"].map (find e)

/-- What a tree is read for. -/
inductive Footprint where
  /-- The values of a run that gives its total, and nothing else. -/
  | run (values : List (Option String))
  /-- Whether the run gives a figure next to the total it lacks, and the values of the
  suites directly inside it. -/
  | suites (figures : Bool) (values : List (List (Option String)))
  deriving DecidableEq

def footprint (find : Finder) (root : Xml.Element) : Footprint :=
  if (find root "total").isSome then .run (valuesOf find root)
  else .suites (runFigures.any fun key => (find root key).isSome)
    ((root.childrenTagged "test-suite").map (valuesOf find))

theorem ofElement_of_values {e e' : Xml.Element} (htag : e.tag = e'.tag)
    (h : valuesOf Xml.Element.attribute? e = valuesOf Xml.Element.attribute? e') :
    Entry.ofElement e = Entry.ofElement e' := by
  have hvalue := List.map_inj_left.mp h
  simp only [Entry.ofElement, Entry.mk.injEq]
  exact ⟨htag, hvalue _ (by simp), hvalue _ (by simp), hvalue _ (by simp), hvalue _ (by simp),
    hvalue _ (by simp), hvalue _ (by simp)⟩

theorem map_ofElement_of_values {root root' : Xml.Element}
    (h : (root.childrenTagged "test-suite").map (valuesOf Xml.Element.attribute?) =
      (root'.childrenTagged "test-suite").map (valuesOf Xml.Element.attribute?)) :
    (root.childrenTagged "test-suite").map Entry.ofElement =
      (root'.childrenTagged "test-suite").map Entry.ofElement := by
  -- the suites have one tag, so that it can be read along with their values
  have htagged : ∀ x : Xml.Element,
      (x.childrenTagged "test-suite").map (fun e => (e.tag, valuesOf Xml.Element.attribute? e)) =
        ((x.childrenTagged "test-suite").map (valuesOf Xml.Element.attribute?)).map
          (Prod.mk "test-suite") := by
    intro x
    rw [List.map_map]
    apply List.map_congr_left
    rw [Xml.Element.forall_mem_childrenTagged]
    intro suite _ htag
    rw [htag]
    rfl
  refine map_eq_of_factorsThrough
    (f := fun e : Xml.Element => (e.tag, valuesOf Xml.Element.attribute? e)) ?_ ?_
  · intro e e' hsame
    obtain ⟨htag, hvalues⟩ := Prod.mk.inj hsame
    exact ofElement_of_values htag hvalues
  · rw [htagged, htagged, h]

/-- Trees with one footprint have the same elements that count. -/
theorem entries_of_footprint {root root' : Xml.Element} (htag : root.tag = root'.tag)
    (h : footprint Xml.Element.attribute? root = footprint Xml.Element.attribute? root') :
    entries root = entries root' := by
  unfold footprint at h
  rw [entries_eq, entries_eq]
  unfold counted
  cases htotal : (root.attribute? "total").isSome with
  | true =>
    cases htotal' : (root'.attribute? "total").isSome with
    | true =>
      rw [htotal, htotal'] at h
      have hvalues := Footprint.run.inj h
      simp only [Bool.true_eq_false, false_and, if_false, if_true, List.map_cons, List.map_nil,
        ofElement_of_values htag hvalues]
    | false =>
      rw [htotal, htotal'] at h
      cases h
  | false =>
    cases htotal' : (root'.attribute? "total").isSome with
    | true =>
      rw [htotal, htotal'] at h
      cases h
    | false =>
      rw [htotal, htotal'] at h
      obtain ⟨hfigures, hsuites⟩ := Footprint.suites.inj h
      have hentries := map_ofElement_of_values hsuites
      have hempty : (root.childrenTagged "test-suite").isEmpty =
          (root'.childrenTagged "test-suite").isEmpty := by
        have hsame := congrArg List.isEmpty hentries
        rwa [List.isEmpty_map, List.isEmpty_map] at hsame
      have hlacks : lacksTotal root = lacksTotal root' := congrArg₂ or hfigures hempty
      simp only [hlacks, htag, Bool.false_eq_true, if_false, hentries]

/-! ## What stands deeper -/

/-- The tree with other elements inside each child of the run. -/
def withInner (inner : Xml.Element → List Xml.Element) (root : Xml.Element) : Xml.Element :=
  { root with children := root.children.map fun c => { c with children := inner c } }

theorem childrenTagged_withInner (inner : Xml.Element → List Xml.Element) (root : Xml.Element)
    (tag : String) :
    (withInner inner root).childrenTagged tag =
      (root.childrenTagged tag).map fun c => { c with children := inner c } := by
  simp only [Xml.Element.childrenTagged, withInner, List.filter_map]
  rfl

theorem footprint_withInner (inner : Xml.Element → List Xml.Element) (root : Xml.Element) :
    footprint Xml.Element.attribute? (withInner inner root) =
      footprint Xml.Element.attribute? root := by
  have hattribute : ∀ key, (withInner inner root).attribute? key = root.attribute? key :=
    fun _ => rfl
  have hvalues : valuesOf Xml.Element.attribute? (withInner inner root) =
    valuesOf Xml.Element.attribute? root := rfl
  simp only [footprint, hattribute, hvalues, childrenTagged_withInner, List.map_map]
  rfl

theorem footprint_of_total {root : Xml.Element} (h : (root.attribute? "total").isSome = true)
    (children : List Xml.Element) :
    footprint Xml.Element.attribute? { root with children } =
      footprint Xml.Element.attribute? root := by
  have hattribute : ∀ key, Xml.Element.attribute? { root with children } key = root.attribute? key :=
    fun _ => rfl
  simp only [footprint, hattribute, h, if_true]
  rfl

theorem entries_withInner (inner : Xml.Element → List Xml.Element) (root : Xml.Element) :
    entries (withInner inner root) = entries root :=
  entries_of_footprint rfl (footprint_withInner inner root)

theorem entries_of_total {root : Xml.Element} (h : (root.attribute? "total").isSome = true)
    (children : List Xml.Element) : entries { root with children } = entries root :=
  entries_of_footprint rfl (footprint_of_total h children)

/-! ## The law of a report -/

/-- A tree is counted exactly when its run gives a total and is valid, or gives no figure
at all and holds suites, all of them valid. It then comes to the exact sums over the run
alone, or over the suites directly inside it, cut off at the ceiling. Nothing inside a
run with a total and nothing inside a suite makes a difference. -/
theorem count_sums_counted (root : Xml.Element) :
    ((∃ s, (count root).outcome = .ok s) ↔ Countable Xml.Element.attribute? root) ∧
    (∀ s, (count root).outcome = .ok s →
      s.Caps
        { tests := ((counted root).map fun e => amount (e.attribute? "total")).sum
          errors := ((counted root).map fun e => amount (e.attribute? "errors")).sum
          failures := ((counted root).map fun e => amount (e.attribute? "failed")).sum
          skipped := ((counted root).map fun e => amount (e.attribute? "inconclusive") +
            amount (e.attribute? "skipped")).sum
          time := sumPresent ((counted root).map fun e =>
            Field.duration (e.attribute? "duration")) } ∧
      (s.time = none ↔ ∀ e ∈ counted root, e.attribute? "duration" = none)) ∧
    ((root.attribute? "total").isSome → ∀ children,
      (count { root with children }).outcome = (count root).outcome) ∧
    ∀ inner, (count (withInner inner root)).outcome = (count root).outcome := by
  refine ⟨?_, ?_, ?_, ?_⟩
  · constructor
    · rintro ⟨s, hs⟩
      exact (count_eq_ok_iff.mp hs).1
    · intro h
      exact ⟨_, count_eq_ok_iff.mpr ⟨h, rfl⟩⟩
  · intro s hs
    obtain ⟨hcountable, hsum⟩ := count_eq_ok_iff.mp hs
    have hvalid := (countable_iff.mp hcountable).2
    have htime : s.time = none ↔
        ∀ e ∈ counted root, Field.duration (e.attribute? "duration") = none := by
      rw [hsum, ExactSummary.saturate_sum_time_eq_none_iff, List.forall_mem_map]
      rfl
    rw [ExactSummary.sum_eq] at hsum
    simp only [List.map_map] at hsum
    refine ⟨Summary.caps_iff.mpr hsum, ?_⟩
    rw [htime]
    -- in a valid element a duration that is there is a decimal number
    exact forall₂_congr fun e he => duration_eq_none_iff (hvalid e he).duration
  · intro h children
    rw [count, count, entries_of_total h]
  · intro inner
    rw [count, count, entries_withInner]

/-- A run whose total has a qualifier in front of it. -/
def qualifiedTotal : Xml.Element :=
  ⟨⟨"", "test-run"⟩, [⟨⟨"x", "total"⟩, "5"⟩, ⟨⟨"", "failed"⟩, "0"⟩], []⟩

/-- The tree is counted although its run gives no total without a qualifier. -/
theorem countable_ne_unqualified :
    ¬ ((∃ s, (count qualifiedTotal).outcome = .ok s) ↔
      Countable Xml.Element.unqualified? qualifiedTotal) := by
  intro h
  have hcounted : ∃ s, (count qualifiedTotal).outcome = .ok s :=
    ⟨⟨.saturate 5, 0, 0, 0, none⟩, by rfl⟩
  have hnone : qualifiedTotal.unqualified? "total" = none := by decide
  rcases h.mp hcounted with ⟨htotal, -⟩ | ⟨hrun, -, -⟩
  · rw [hnone] at htotal
    simp at htotal
  · have hfailed : qualifiedTotal.unqualified? "failed" = some "0" := by decide
    have := hrun "failed" (by simp)
    rw [hfailed] at this
    simp at this

end TestRollup.Report.Modern
