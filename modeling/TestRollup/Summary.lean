import TestRollup.Counter

/- Summaries of test runs. A summary holds four counts and the time the tests
   took, in milliseconds, which stays absent until some report gives one. Two
   summaries merge field by field under the counters' ceiling; a time that is
   present survives a merge with an absent one unchanged, so "no report gave a
   time" and "the reports gave a time of zero" remain different summaries.

   The counts are not checked against each other: reports do not promise that
   failed, errored and skipped tests are disjoint parts of the total.

   Merging is commutative and associative with the empty summary as unit
   (`merge_comm`, `merge_assoc`, `empty_merge`), hence the order in which
   reports come in does not matter to their sum. -/
namespace TestRollup

/-- What a number of test reports amount to. -/
structure Summary where
  tests : Counter := 0
  errors : Counter := 0
  failures : Counter := 0
  skipped : Counter := 0
  /-- Milliseconds, if any report gave a time. -/
  time : Option Counter := none
  deriving DecidableEq

/-- The sum of two times, where an absent time adds nothing. -/
def addTimes : Option Counter → Option Counter → Option Counter
  | some a, some b => some (a + b)
  | some a, none => some a
  | none, b => b

namespace Summary

/-- The summary of no report at all. -/
def empty : Summary := {}

instance : Inhabited Summary := ⟨empty⟩

/-- Counts the figures of one more element. -/
def addCounts (s : Summary) (tests skipped failures errors : Counter) (time : Option Counter) :
    Summary where
  tests := s.tests + tests
  errors := s.errors + errors
  failures := s.failures + failures
  skipped := s.skipped + skipped
  time := addTimes s.time time

/-- Counts everything another summary holds. -/
def merge (s t : Summary) : Summary :=
  s.addCounts t.tests t.skipped t.failures t.errors t.time

instance : Add Summary := ⟨merge⟩

/-- The merge of a list of summaries, from the left. -/
def sum (ss : List Summary) : Summary := ss.foldl (· + ·) empty

/-- Tests that neither errored, failed nor were skipped; zero when the counts
    contradict each other. -/
def passed (s : Summary) : Counter := s.tests - s.errors - s.failures - s.skipped

/-- Nothing has been counted and no time has been seen. -/
def isEmpty (s : Summary) : Bool := s == empty

/-! ## Merging -/

theorem add_eq_merge (s t : Summary) : s + t = s.merge t := rfl

end Summary

theorem addTimes_comm (a b : Option Counter) : addTimes a b = addTimes b a := by
  cases a <;> cases b <;> simp [addTimes, Counter.add_comm]

theorem addTimes_assoc (a b c : Option Counter) :
    addTimes (addTimes a b) c = addTimes a (addTimes b c) := by
  cases a <;> cases b <;> cases c <;> simp [addTimes, Counter.add_assoc]

@[simp] theorem none_addTimes (a : Option Counter) : addTimes none a = a := rfl

@[simp] theorem addTimes_none (a : Option Counter) : addTimes a none = a := by
  cases a <;> rfl

namespace Summary

theorem merge_comm (s t : Summary) : s.merge t = t.merge s := by
  simp only [merge, addCounts, addTimes_comm s.time, Counter.add_comm s.tests,
    Counter.add_comm s.errors, Counter.add_comm s.failures, Counter.add_comm s.skipped]

theorem merge_assoc (s t u : Summary) : (s.merge t).merge u = s.merge (t.merge u) := by
  simp only [merge, addCounts, addTimes_assoc, Counter.add_assoc]

@[simp] theorem empty_merge (s : Summary) : empty.merge s = s := by
  simp [merge, addCounts, empty]

@[simp] theorem merge_empty (s : Summary) : s.merge empty = s := by
  rw [merge_comm, empty_merge]

end Summary

end TestRollup
