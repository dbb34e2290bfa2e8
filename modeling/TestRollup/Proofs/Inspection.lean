import TestRollup.Proofs.ElementReading

/- What a report is looked at for, and in which order. A check is one look at one
   value: a count that must be there, a count or a time that may be, or the root
   element itself. `Check.Fails` says when a check fails and with which cause, and
   `FirstFailure` picks the first of a list of checks that does.

   `scanned` lists the elements that are looked at, in document order, and `checks`
   the checks of one of them, in the order in which they are made. A report has a
   fault exactly if one of its checks fails, and its fault is that of the first one,
   whatever else is wrong with the report (`countText_first_fault`).

   `Inspects x checks` says this of any piece of the reading. It holds of the reading of
   one field and is kept by doing one thing after the other, so the reading of a whole
   report is put together as the reading itself is. -/
namespace TestRollup.Report

open TestRollup.Report.Field

/-- One look at one value of a report. -/
inductive Check where
  /-- The root element must be that of a known kind of report. -/
  | root (tag : String)
  /-- A whole number must be there. -/
  | required (element key : String) (value : Option String)
  /-- A whole number may be there. -/
  | optional (key : String) (value : Option String)
  /-- A number of seconds may be there. -/
  | seconds (key : String) (value : Option String)

namespace Check

/-- The check fails with this cause. -/
inductive Fails : Check → Cause → Prop where
  | root {tag : String} (h : ∀ d : Dialect, tag ≠ d.rootTag) :
      Fails (.root tag) (.unrecognizedRoot tag)
  | absent {element key : String} :
      Fails (.required element key none) (.missingAttribute element key)
  | required {element key text : String} (h : ¬ IsInteger text) :
      Fails (.required element key (some text)) (.invalidInteger key text)
  | optional {key text : String} (h : ¬ IsInteger text) :
      Fails (.optional key (some text)) (.invalidInteger key text)
  | seconds {key text : String} (h : ¬ IsDecimal text) :
      Fails (.seconds key (some text)) (.invalidDecimal key text)

def Passes (c : Check) : Prop := ∀ cause, ¬ c.Fails cause

end Check

/-- All checks pass. -/
def Passed (checks : List Check) : Prop := ∀ c ∈ checks, c.Passes

/-- The first of the checks that fails does so with this cause. -/
inductive FirstFailure : List Check → Cause → Prop where
  | here {c : Check} {cs : List Check} {cause : Cause} (h : c.Fails cause) :
      FirstFailure (c :: cs) cause
  | later {c : Check} {cs : List Check} {cause : Cause} (passes : c.Passes)
      (h : FirstFailure cs cause) : FirstFailure (c :: cs) cause

variable {cs ds : List Check} {cause : Cause}

theorem passed_cons_iff {c : Check} : Passed (c :: cs) ↔ c.Passes ∧ Passed cs :=
  List.forall_mem_cons

theorem firstFailure_nil : ¬ FirstFailure [] cause := by
  intro h
  cases h

theorem firstFailure_cons_iff {c : Check} :
    FirstFailure (c :: cs) cause ↔ c.Fails cause ∨ c.Passes ∧ FirstFailure cs cause := by
  constructor
  · rintro (h | ⟨hc, h⟩)
    · exact .inl h
    · exact .inr ⟨hc, h⟩
  · rintro (h | ⟨hc, h⟩)
    · exact .here h
    · exact .later hc h

theorem firstFailure_append_iff :
    FirstFailure (cs ++ ds) cause ↔ FirstFailure cs cause ∨ Passed cs ∧ FirstFailure ds cause := by
  induction cs with
  | nil => simp [firstFailure_nil, Passed]
  | cons c cs ih =>
    rw [List.cons_append, firstFailure_cons_iff, firstFailure_cons_iff, ih, passed_cons_iff]
    tauto

/-- Either all checks pass, or one of them is the first to fail. -/
theorem passed_iff : Passed cs ↔ ∀ cause, ¬ FirstFailure cs cause := by
  induction cs with
  | nil => simp [firstFailure_nil, Passed]
  | cons c cs ih =>
    simp only [passed_cons_iff, firstFailure_cons_iff, ih, Check.Passes]
    constructor
    · rintro ⟨hc, hcs⟩ cause (h | ⟨-, h⟩)
      · exact hc cause h
      · exact hcs cause h
    · intro h
      have hc : ∀ cause, ¬ c.Fails cause := fun cause hf => h cause (.inl hf)
      exact ⟨hc, fun cause hf => h cause (.inr ⟨hc, hf⟩)⟩

/-- The work ends in an error exactly if one of the checks fails, and then with the cause
of the first that does. -/
def Inspects {α : Type} (x : Except Cause α) (checks : List Check) : Prop :=
  ∀ cause, x = .error cause ↔ FirstFailure checks cause

namespace Inspects

variable {α β : Type} {x : Except Cause α}

theorem pure' (a : α) : Inspects (.ok a) [] := by
  intro cause
  simp [firstFailure_nil]

theorem ok_iff (h : Inspects x cs) : (∃ a, x = .ok a) ↔ Passed cs := by
  rw [passed_iff]
  cases hx : x with
  | ok a =>
    refine ⟨fun _ cause hf => ?_, fun _ => ⟨a, rfl⟩⟩
    rw [(h cause).mpr hf] at hx
    cases hx
  | error cause =>
    refine ⟨fun hok => by simp at hok, fun hp => ?_⟩
    exact absurd ((h cause).mp hx) (hp cause)

/-- One thing after the other: the checks of both, in this order. -/
theorem bind' {f : α → Except Cause β} (hx : Inspects x cs)
    (hf : ∀ a, Inspects (f a) ds) : Inspects (x >>= f) (cs ++ ds) := by
  intro cause
  rw [firstFailure_append_iff, ← hx.ok_iff, ← hx cause]
  -- the checks of the second thing matter only if those of the first pass
  cases x with
  | error c => simp [bind, Except.bind]
  | ok a =>
    show f a = .error cause ↔ _
    simp [hf a cause]

theorem map' (f : α → β) (hx : Inspects x cs) : Inspects (f <$> x) cs := by
  intro cause
  rw [← hx cause]
  cases x <;> simp [Functor.map, Except.map]

end Inspects

/-! ## One field -/

theorem isInteger_iff {text : String} :
    IsInteger text ↔ (Number.readWhole? text.toList).isSome = true := by
  rw [Option.isSome_iff_exists]
  constructor
  · rintro ⟨hne, hdigits, hle⟩
    exact ⟨.saturate _, Number.readWhole?_eq_some_iff.mpr
      ⟨hne, hdigits, (Nat.min_eq_left hle).symm⟩⟩
  · rintro ⟨n, hn⟩
    obtain ⟨hne, hdigits, hvalue⟩ := Number.readWhole?_eq_some_iff.mp hn
    exact ⟨hne, hdigits, hvalue ▸ n.value_le_ceiling⟩

theorem integer_eq_error_iff {key text : String} :
    integer key text = .error cause ↔ ¬ IsInteger text ∧ cause = .invalidInteger key text := by
  rw [isInteger_iff, integer]
  cases Number.readWhole? text.toList with
  | none => simp [eq_comm]
  | some n => simp

namespace Inspects

/-- A check that is made alone. -/
theorem single {α : Type} {x : Except Cause α} {c : Check}
    (h : ∀ cause, x = .error cause ↔ c.Fails cause) : Inspects x [c] := by
  intro cause
  rw [h cause, firstFailure_cons_iff]
  simp [firstFailure_nil]

theorem required (element key : String) (value : Option String) :
    Inspects (Field.required element key value) [.required element key value] := by
  apply single
  intro cause
  cases value with
  | none =>
    constructor
    · intro h
      cases h
      exact .absent
    · rintro ⟨⟩
      rfl
  | some text =>
    rw [Field.required, integer_eq_error_iff]
    constructor
    · rintro ⟨hno, rfl⟩
      exact .required hno
    · rintro ⟨⟩
      exact ⟨‹_›, rfl⟩

theorem orZero (key : String) (value : Option String) :
    Inspects (Field.orZero key value) [.optional key value] := by
  apply single
  intro cause
  cases value with
  | none =>
    constructor
    · intro h
      cases h
    · rintro ⟨⟩
  | some text =>
    rw [Field.orZero, integer_eq_error_iff]
    constructor
    · rintro ⟨hno, rfl⟩
      exact .optional hno
    · rintro ⟨⟩
      exact ⟨‹_›, rfl⟩

theorem milliseconds (key : String) (value : Option String) :
    Inspects (Field.milliseconds key value) [.seconds key value] := by
  apply single
  intro cause
  cases value with
  | none =>
    constructor
    · intro h
      cases h
    · rintro ⟨⟩
  | some text =>
    have herror : Field.milliseconds key (some text) = .error cause ↔
        ¬ IsDecimal text ∧ cause = .invalidDecimal key text := by
      rw [IsDecimal, Field.milliseconds]
      cases Number.readDecimal? text.toList <;> simp [eq_comm]
    rw [herror]
    constructor
    · rintro ⟨hno, rfl⟩
      exact .seconds hno
    · rintro ⟨⟩
      exact ⟨‹_›, rfl⟩

/-- Counts that may be absent, one after the other. -/
theorem sumOnto (total : Counter) (fields : List (String × Option String)) :
    Inspects (Field.sumOnto total fields) (fields.map fun f => .optional f.1 f.2) := by
  induction fields generalizing total with
  | nil => exact pure' total
  | cons field fields ih =>
    obtain ⟨key, value⟩ := field
    have hbind : Field.sumOnto total ((key, value) :: fields) =
        Field.orZero key value >>= fun n => Field.sumOnto (total + n) fields := by
      rw [Field.sumOnto]
      cases Field.orZero key value <;> rfl
    rw [hbind]
    exact (orZero key value).bind' fun n => ih (total + n)

/-- Times that may be absent, one after the other. -/
theorem sumTimesOnto (key : String) (total : Option Counter) (values : List (Option String)) :
    Inspects (Field.sumTimesOnto key total values) (values.map (.seconds key)) := by
  induction values generalizing total with
  | nil => exact pure' total
  | cons value values ih =>
    have hbind : Field.sumTimesOnto key total (value :: values) =
        Field.milliseconds key value >>= fun time =>
          Field.sumTimesOnto key (addTimes total time) values := by
      rw [Field.sumTimesOnto]
      cases Field.milliseconds key value <;> rfl
    rw [hbind]
    exact (milliseconds key value).bind' fun time => ih (addTimes total time)

/-- The members of a list, one after the other. -/
theorem tally {α : Type} {read : α → Logged Cause Summary} {look : α → List Check} {xs : List α}
    (h : ∀ x ∈ xs, Inspects (read x).outcome (look x)) :
    Inspects (Logged.tally read xs).outcome (xs.flatMap look) := by
  induction xs with
  | nil => exact pure' Summary.empty
  | cons x xs ih =>
    obtain ⟨hx, hxs⟩ := List.forall_mem_cons.mp h
    rw [Logged.tally, Logged.outcome_bind, List.flatMap_cons]
    apply hx.bind'
    intro s
    rw [Logged.outcome_map]
    exact (ih hxs).map' (s + ·)

end Inspects

/-! ## One element -/

namespace Legacy

/-- The checks of the time of a `test-results` element. Next to a time of day the suites
directly inside are looked at. -/
def timeChecks (e : Xml.Element) : List Check :=
  match e.attribute? "time" with
  | none => []
  | some text =>
    if ':' ∈ text.toList then
      (e.childrenTagged "test-suite").map fun suite => .seconds "time" (suite.attribute? "time")
    else [.seconds "time" (some text)]

/-- The checks of a `test-results` element. -/
def checks (e : Xml.Element) : List Check :=
  [.required e.tag "total" (e.attribute? "total"),
    .required e.tag "errors" (e.attribute? "errors"),
    .required e.tag "failures" (e.attribute? "failures"),
    .optional "not-run" (e.attribute? "not-run"),
    .optional "ignored" (e.attribute? "ignored"),
    .optional "invalid" (e.attribute? "invalid")] ++ timeChecks e

theorem inspects_executionTime (e : Xml.Element) :
    Inspects (Entry.ofElement e).executionTime (timeChecks e) := by
  have hfield : (Entry.ofElement e).time = e.attribute? "time" := rfl
  unfold Entry.executionTime timeChecks
  rw [hfield]
  cases e.attribute? "time" with
  | none => exact .pure' none
  | some text =>
    by_cases hclock : ':' ∈ text.toList
    · simp only [isClock_iff.mpr hclock, if_true, hclock]
      have h := Inspects.sumTimesOnto "time" none (Entry.ofElement e).suiteTimes
      rw [Entry.ofElement, List.map_map] at h
      exact h
    · simp only [isClock_iff, hclock, if_false]
      exact .milliseconds "time" (some text)

theorem inspects_figures {e : Xml.Element} (h : e.tag = "test-results") :
    Inspects (Entry.ofElement e).figures (checks e) := by
  have htag : resultsTag = e.tag := h.symm
  unfold Entry.figures checks
  rw [htag]
  -- field by field, in the order in which they are read
  refine (Inspects.required e.tag "total" _).bind' fun tests => ?_
  refine (Inspects.required e.tag "errors" _).bind' fun errors => ?_
  refine (Inspects.required e.tag "failures" _).bind' fun failures => ?_
  refine (Inspects.sumOnto 0 (Entry.ofElement e).skippedFields).bind' fun skipped => ?_
  exact (inspects_executionTime e).map' fun time =>
    ({ tests, errors, failures, skipped, time } : Summary)

end Legacy

namespace Modern

/-- The checks of a `test-run` or `test-suite` element. -/
def checks (e : Xml.Element) : List Check :=
  [.required e.tag "total" (e.attribute? "total"),
    .required e.tag "failed" (e.attribute? "failed"),
    .optional "inconclusive" (e.attribute? "inconclusive"),
    .optional "skipped" (e.attribute? "skipped"),
    .optional "errors" (e.attribute? "errors"),
    .seconds "duration" (e.attribute? "duration")]

theorem inspects_figures (e : Xml.Element) : Inspects (Entry.ofElement e).figures (checks e) := by
  unfold Entry.figures checks
  refine (Inspects.required e.tag "total" _).bind' fun tests => ?_
  refine (Inspects.required e.tag "failed" _).bind' fun failures => ?_
  refine (Inspects.sumOnto 0 (Entry.ofElement e).skippedFields).bind' fun skipped => ?_
  refine (Inspects.orZero "errors" _).bind' fun errors => ?_
  exact (Inspects.milliseconds "duration" _).map' fun time =>
    ({ tests, errors, failures, skipped, time } : Summary)

end Modern

/-! ## A report -/

namespace Dialect

/-- The checks of one element. -/
def checks : Dialect → Xml.Element → List Check
  | legacy => Legacy.checks
  | modern => Modern.checks

end Dialect

/-- The checks of a report, in the order in which they are made. -/
def scan (root : Xml.Element) : List Check :=
  .root root.tag ::
    match Dialect.ofRootTag? root.tag with
    | none => []
    | some d => (d.scanned root).flatMap d.checks

namespace Dialect

theorem inspects_read {d : Dialect} {root e : Xml.Element} (he : e ∈ d.scanned root)
    (path : String) : Inspects (d.read path e).outcome (d.checks e) := by
  cases d with
  | legacy =>
    have htag : e.tag = "test-results" := (Legacy.mem_results.mp he).2
    show Inspects ((Legacy.Entry.ofElement e).count path).outcome _
    rw [Legacy.outcome_entry_count]
    exact Legacy.inspects_figures htag
  | modern =>
    show Inspects (Modern.Entry.ofElement e).count.outcome _
    rw [Modern.outcome_entry_count]
    exact Modern.inspects_figures e

theorem inspects_count (d : Dialect) (path : String) (root : Xml.Element) :
    Inspects (d.count path root).outcome ((d.scanned root).flatMap d.checks) := by
  rw [count_eq_tally]
  apply Inspects.tally
  intro e he
  exact inspects_read he path

end Dialect

theorem inspects_countDocument (path : String) (root : Xml.Element) :
    Inspects (countDocument path root).outcome (scan root) := by
  unfold scan
  cases hroot : Dialect.ofRootTag? root.tag with
  | none =>
    have hno := Dialect.ofRootTag?_eq_none_iff.mp hroot
    rw [countDocument_of_no_dialect hno]
    apply Inspects.single
    intro cause
    constructor
    · intro h
      cases h
      exact .root hno
    · rintro ⟨⟩
      rfl
  | some d =>
    have htag := Dialect.ofRootTag?_eq_some_iff.mp hroot
    have hpasses : (Check.root root.tag).Passes := by
      rintro cause ⟨hno⟩
      exact hno d htag
    rw [countDocument_of_dialect htag]
    -- the root passes, so the first failure is among those of the elements
    intro cause
    simp only [firstFailure_cons_iff, hpasses cause, hpasses, false_or, true_and]
    exact d.inspects_count path root cause

/-- A text has a fault exactly if it spells no document or one of the checks of its
document fails, and then it is the fault of the first check that does, with the path that
was given. Values are found by local name. -/
theorem countText_first_fault (path text : String) (f : Fault) :
    (countText path text).outcome = .error f ↔
      f.path = path ∧
        ((documentOf? text = none ∧ f.cause = .malformed) ∨
          ∃ root, documentOf? text = some root ∧ FirstFailure (scan root) f.cause) := by
  cases hdocument : documentOf? text with
  | none =>
    rw [countText_of_no_document hdocument]
    show Except.error (Fault.mk path .malformed) = .error f ↔ _
    cases f
    simp [eq_comm]
  | some root =>
    rw [countText_of_document hdocument, Logged.outcome_mapError_eq_error_iff]
    simp only [inspects_countDocument path root _, Option.some.injEq, reduceCtorEq, false_and,
      false_or, exists_eq_left']
    constructor
    · rintro ⟨cause, h, rfl⟩
      exact ⟨rfl, h⟩
    · rintro ⟨rfl, h⟩
      exact ⟨f.cause, h, rfl⟩

end TestRollup.Report
