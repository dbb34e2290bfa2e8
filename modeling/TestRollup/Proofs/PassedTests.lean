import Mathlib.Algebra.Group.Nat.Defs
import TestRollup.Summary

/- How many tests passed. The number is what is left of the tests when those that did not
   pass are taken away, count by count, each time stopping at zero; that is the same as
   taking away their exact sum at once, which may be more than a counter holds
   (`value_passed`).

   When two summaries are added, each of the four counts may stop at the ceiling on its own.
   If one of those that are taken away does, nothing is left of the tests, which are no more
   than that; if none does, they add up exactly, and only the tests may have lost something
   (`notPassed_add`). So a sum never has more tests that passed than its parts together
   (`passed_add_le`), and just as many if the counts of both parts agree with each other and
   the tests fit (`passed_add_eq`). -/
namespace TestRollup.Summary

/-- How many tests did not pass, without a ceiling. -/
def notPassed (s : Summary) : Nat := s.errors.value + s.failures.value + s.skipped.value

theorem value_passed (s : Summary) : s.passed.value = s.tests.value - s.notPassed := by
  show s.tests.value - s.errors.value - s.failures.value - s.skipped.value = _
  unfold notPassed
  omega

/-- Taking away count by count is taking away all of them at once, down to zero. -/
theorem passed_eq_max (s : Summary) : (s.passed.value : Int) =
    max (0 : Int) (s.tests.value - (s.errors.value + s.failures.value + s.skipped.value)) := by
  rw [value_passed]
  unfold notPassed
  omega

theorem passed_eq_zero {s : Summary} (h : Counter.ceiling ≤ s.notPassed) :
    s.passed.value = 0 := by
  have htests := s.tests.value_le_ceiling
  rw [value_passed]
  omega

/-! ## The counts of a sum -/

variable (a b : Summary)

@[simp] theorem tests_add : (a + b).tests = a.tests + b.tests := rfl

@[simp] theorem errors_add : (a + b).errors = a.errors + b.errors := rfl

@[simp] theorem failures_add : (a + b).failures = a.failures + b.failures := rfl

@[simp] theorem skipped_add : (a + b).skipped = a.skipped + b.skipped := rfl

theorem notPassed_add_le : (a + b).notPassed ≤ a.notPassed + b.notPassed := by
  simp only [notPassed, errors_add, failures_add, skipped_add, Counter.value_add]
  omega

/-- The tests that did not pass add up exactly, unless one of their counts stops at the
ceiling. -/
theorem notPassed_add :
    (a + b).notPassed = a.notPassed + b.notPassed ∨ Counter.ceiling ≤ (a + b).notPassed := by
  simp only [notPassed, errors_add, failures_add, skipped_add, Counter.value_add]
  omega

/-! ## What passes in a sum -/

theorem passed_add_le : (a + b).passed.value ≤ a.passed.value + b.passed.value := by
  rcases notPassed_add a b with hexact | hceiling
  · have htests : (a + b).tests.value ≤ a.tests.value + b.tests.value := by
      rw [tests_add, Counter.value_add]
      exact Nat.min_le_left _ _
    calc (a + b).passed.value
        = (a + b).tests.value - (a.notPassed + b.notPassed) := by rw [value_passed, hexact]
      _ ≤ (a.tests.value + b.tests.value) - (a.notPassed + b.notPassed) :=
          Nat.sub_le_sub_right htests _
      _ ≤ (a.tests.value - a.notPassed) + (b.tests.value - b.notPassed) := by omega
      _ = a.passed.value + b.passed.value := by rw [value_passed, value_passed]
  · rw [passed_eq_zero hceiling]
    exact Nat.zero_le _

variable {a b}

theorem passed_add_eq (ha : a.notPassed ≤ a.tests.value) (hb : b.notPassed ≤ b.tests.value)
    (hfit : a.tests.value + b.tests.value ≤ Counter.ceiling) :
    (a + b).passed.value = a.passed.value + b.passed.value := by
  have htests : (a + b).tests.value = a.tests.value + b.tests.value := by
    rw [tests_add, Counter.value_add]
    exact Nat.min_eq_left hfit
  have hexact : (a + b).notPassed = a.notPassed + b.notPassed := by
    have hle := notPassed_add_le a b
    -- counts that stopped at the ceiling would still be the exact ones, which are no larger
    apply (notPassed_add a b).elim id
    intro hceiling
    omega
  calc (a + b).passed.value
      = (a.tests.value + b.tests.value) - (a.notPassed + b.notPassed) := by
        rw [value_passed, htests, hexact]
    _ = (a.tests.value - a.notPassed) + (b.tests.value - b.notPassed) := by omega
    _ = a.passed.value + b.passed.value := by rw [value_passed, value_passed]

/-- The tests that passed are those that are left without the errors, failures and skipped
tests, taken away exactly, and none if there are more of these. A sum has at most as many as
its parts together, and just as many if in neither part more tests are taken away than there
are and the tests of both fit in 64 bits. -/
theorem passed_subadditive (a b : Summary) :
    (∀ s : Summary, (s.passed.value : Int) =
      max (0 : Int) (s.tests.value - (s.errors.value + s.failures.value + s.skipped.value))) ∧
    (a + b).passed.value ≤ a.passed.value + b.passed.value ∧
    (a.errors.value + a.failures.value + a.skipped.value ≤ a.tests.value →
      b.errors.value + b.failures.value + b.skipped.value ≤ b.tests.value →
      a.tests.value + b.tests.value ≤ 2 ^ 64 - 1 →
        (a + b).passed.value = a.passed.value + b.passed.value) := by
  refine ⟨passed_eq_max, passed_add_le a b, ?_⟩
  intro ha hb hfit
  exact passed_add_eq ha hb hfit

/-- Failures beyond the tests of their own part take away tests of another one. -/
example :
    let a : Summary := { tests := .saturate 1, failures := .saturate 3 }
    let b : Summary := { tests := .saturate 5 }
    (a.passed.value, b.passed.value, (a + b).passed.value) = (0, 5, 3) := by decide

end TestRollup.Summary
