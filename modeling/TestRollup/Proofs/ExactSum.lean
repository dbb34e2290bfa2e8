import Mathlib.Algebra.BigOperators.Group.List.Basic
import Mathlib.Algebra.GroupWithZero.Nat
import TestRollup.Summary

/- Exact sums. `ExactSummary` holds the figures of a summary as natural numbers
   without a ceiling. Adding two of them adds their figures; a sum has a time if
   one of its parts has one. `Summary.Caps s e` says that `s` is what is left of
   `e` once every figure has been cut off at the ceiling.

   Cutting off commutes with adding (`saturate_add`), so a sum made under the
   ceiling, however long it is and wherever it reaches the ceiling on the way, is
   the exact sum cut off once, at the end (`saturate_sum`). Both kinds of summary
   are commutative monoids, hence the order and the grouping of their sums are
   settled by the library. -/
namespace TestRollup

/-- The figures of a summary as numbers without a ceiling. -/
@[ext] structure ExactSummary where
  tests : Nat := 0
  errors : Nat := 0
  failures : Nat := 0
  skipped : Nat := 0
  /-- Milliseconds, if any part gave a time. -/
  time : Option Nat := none
  deriving DecidableEq

/-- The sum of those times that are there; absent if none is. -/
def sumPresent (times : List (Option Nat)) : Option Nat :=
  if times.all Option.isNone then none else some (times.filterMap id).sum

/-- Every figure of the summary is the exact one, cut off at the ceiling, and its
time is absent exactly when the exact one is. -/
structure Summary.Caps (s : Summary) (e : ExactSummary) : Prop where
  tests : s.tests.value = min e.tests Counter.ceiling
  errors : s.errors.value = min e.errors Counter.ceiling
  failures : s.failures.value = min e.failures Counter.ceiling
  skipped : s.skipped.value = min e.skipped Counter.ceiling
  time : s.time.map Counter.value = e.time.map (min · Counter.ceiling)

/-! ## Times -/

@[simp] theorem sumPresent_nil : sumPresent [] = none := rfl

theorem sumPresent_cons (time : Option Nat) (times : List (Option Nat)) :
    sumPresent (time :: times) = Option.merge (· + ·) time (sumPresent times) := by
  unfold sumPresent
  cases time with
  | none => simp
  | some ms =>
    by_cases h : times.all Option.isNone = true
    · have hsum : (times.filterMap fun t => t) = [] := by
        rw [List.filterMap_eq_nil_iff]
        intro t ht
        exact Option.isNone_iff_eq_none.mp (List.all_eq_true.mp h t ht)
      simp [h, hsum]
    · simp [h]

theorem sumPresent_eq_none_iff {times : List (Option Nat)} :
    sumPresent times = none ↔ ∀ time ∈ times, time = none := by
  simp [sumPresent]

theorem sumPresent_eq_some {times : List (Option Nat)} {ms : Nat}
    (h : sumPresent times = some ms) : ms = (times.filterMap id).sum := by
  unfold sumPresent at h
  split at h
  · simp at h
  · exact (Option.some.inj h).symm

/-! ## Exact summaries add up field by field -/

namespace ExactSummary

instance : Zero ExactSummary := ⟨{}⟩

instance : Add ExactSummary where
  add a b :=
    { tests := a.tests + b.tests
      errors := a.errors + b.errors
      failures := a.failures + b.failures
      skipped := a.skipped + b.skipped
      time := Option.merge (· + ·) a.time b.time }

theorem zero_eq : (0 : ExactSummary) = {} := rfl

theorem add_eq (a b : ExactSummary) :
    a + b = ⟨a.tests + b.tests, a.errors + b.errors, a.failures + b.failures,
      a.skipped + b.skipped, Option.merge (· + ·) a.time b.time⟩ := rfl

theorem merge_times_comm (a b : Option Nat) :
    Option.merge (· + ·) a b = Option.merge (· + ·) b a := by
  cases a <;> cases b <;> simp [Nat.add_comm]

theorem merge_times_assoc (a b c : Option Nat) :
    Option.merge (· + ·) (Option.merge (· + ·) a b) c =
      Option.merge (· + ·) a (Option.merge (· + ·) b c) := by
  cases a <;> cases b <;> cases c <;> simp [Nat.add_assoc]

instance : AddCommMonoid ExactSummary where
  add_assoc a b c := by simp only [add_eq, Nat.add_assoc, merge_times_assoc]
  zero_add a := by simp [add_eq, zero_eq]
  add_zero a := by simp [add_eq, zero_eq]
  add_comm a b := by
    simp only [add_eq, merge_times_comm a.time, Nat.add_comm a.tests, Nat.add_comm a.errors,
      Nat.add_comm a.failures, Nat.add_comm a.skipped]
  nsmul := nsmulRec

theorem sum_eq (es : List ExactSummary) :
    es.sum = ⟨(es.map tests).sum, (es.map errors).sum, (es.map failures).sum,
      (es.map skipped).sum, sumPresent (es.map time)⟩ := by
  induction es with
  | nil => rfl
  | cons e es ih =>
    rw [List.sum_cons, ih, add_eq]
    simp only [List.map_cons, List.sum_cons, sumPresent_cons]

theorem sumPresent_append (times others : List (Option Nat)) :
    sumPresent (times ++ others) =
      Option.merge (· + ·) (sumPresent times) (sumPresent others) := by
  induction times with
  | nil => simp
  | cons time times ih =>
    rw [List.cons_append, sumPresent_cons, sumPresent_cons, ih, merge_times_assoc]

/-- The summary whose figures are the exact ones, cut off at the ceiling. -/
def saturate (e : ExactSummary) : Summary where
  tests := .saturate e.tests
  errors := .saturate e.errors
  failures := .saturate e.failures
  skipped := .saturate e.skipped
  time := e.time.map .saturate

end ExactSummary

/-! ## Sums under the ceiling -/

namespace Counter

theorem saturate_add (m n : Nat) : saturate (m + n) = saturate m + saturate n := by
  ext
  simp only [value_add, value_saturate]
  omega

theorem saturate_value (a : Counter) : saturate a.value = a := by
  ext
  exact Nat.min_eq_left a.value_le_ceiling

end Counter

theorem saturate_merge_times (a b : Option Nat) :
    (Option.merge (· + ·) a b).map Counter.saturate =
      addTimes (a.map Counter.saturate) (b.map Counter.saturate) := by
  cases a <;> cases b <;> simp [addTimes, Counter.saturate_add]

namespace Summary

instance : Zero Summary := ⟨empty⟩

instance : AddCommMonoid Summary where
  add_assoc := merge_assoc
  zero_add := empty_merge
  add_zero := merge_empty
  add_comm := merge_comm
  nsmul := nsmulRec

theorem foldl_merge_eq_add_sum (total : Summary) (ss : List Summary) :
    ss.foldl merge total = total + ss.sum := by
  induction ss generalizing total with
  | nil => rw [List.foldl_nil, List.sum_nil, add_zero]
  | cons s ss ih => rw [List.foldl_cons, ih, List.sum_cons, ← add_assoc, add_eq_merge total s]

theorem caps_iff {s : Summary} {e : ExactSummary} : s.Caps e ↔ s = e.saturate := by
  constructor
  · intro h
    cases s with
    | mk tests errors failures skipped time =>
      -- the times may be absent, which the equation of their values settles too
      have htime : time = e.time.map .saturate := by
        have := h.time
        cases time <;> cases he : e.time <;> simp_all [Counter.ext_iff]
      simp only [ExactSummary.saturate, Summary.mk.injEq, Counter.ext_iff, Counter.value_saturate]
      exact ⟨h.tests, h.errors, h.failures, h.skipped, htime⟩
  · rintro rfl
    refine ⟨rfl, rfl, rfl, rfl, ?_⟩
    cases he : e.time <;> simp [ExactSummary.saturate, he]

end Summary

namespace ExactSummary

theorem saturate_zero : saturate 0 = 0 := by
  simp only [saturate, zero_eq]
  rfl

/-- Cutting off a sum is adding what has been cut off. -/
theorem saturate_add (a b : ExactSummary) : (a + b).saturate = a.saturate + b.saturate := by
  rw [Summary.add_eq_merge]
  simp only [saturate, add_eq, Summary.merge, Summary.addCounts, saturate_merge_times,
    Counter.saturate_add]

/-- A sum made under the ceiling is the exact sum cut off once. -/
theorem saturate_sum (es : List ExactSummary) : es.sum.saturate = (es.map saturate).sum := by
  induction es with
  | nil => exact saturate_zero
  | cons e es ih => rw [List.sum_cons, saturate_add, ih, List.map_cons, List.sum_cons]

/-- What a sum comes to under the ceiling has no time exactly when no part of it has. -/
theorem saturate_sum_time_eq_none_iff {es : List ExactSummary} :
    es.sum.saturate.time = none ↔ ∀ e ∈ es, e.time = none := by
  have htime : es.sum.time = sumPresent (es.map time) := by rw [sum_eq]
  rw [saturate, htime, Option.map_eq_none_iff, sumPresent_eq_none_iff, List.forall_mem_map]

end ExactSummary

end TestRollup
