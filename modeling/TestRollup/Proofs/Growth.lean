import Mathlib.Algebra.Order.BigOperators.Group.List
import TestRollup.Proofs.IntakeRun

/- Growth of a running total. Summaries are ordered figure by figure, where an absent time
   stands below every time that is there. Merging respects this order in both of its parts,
   and what is above a summary is what can be made of it by merging something in, so
   summaries are a canonically ordered monoid and the library's laws of these apply.

   A running total takes things in one after the other: files, the figures of single
   elements, other summaries, itself. Each addition merges its contribution in, or fails and
   merges nothing in (`Addition.after_eq`), hence a run of additions merges in what its
   additions contribute (`total_eq`). The rest follows: a total is never below an earlier
   one, so that a time does not vanish and a figure at the ceiling stays there, and a total
   is empty only if nothing but empty things went into it (`total_only_grows`). -/
namespace TestRollup

/-! ## The order of counters and of times -/

namespace Counter

theorem le_add_right (a b : Counter) : a ≤ a + b := by
  have hceiling := a.value_le_ceiling
  rw [le_iff, value_add]
  omega

theorem add_sub_of_le {a b : Counter} (h : a ≤ b) : a + (b - a) = b := by
  have hceiling := b.value_le_ceiling
  rw [le_iff] at h
  ext
  rw [value_add, value_sub]
  omega

end Counter

section Times

variable {a b c : Option Counter}

theorem time_le_refl (a : Option Counter) : a ≤ a := by
  cases a with
  | none => exact Option.none_le
  | some l => exact Option.some_le_some.mpr (Nat.le_refl l.value)

theorem time_le_iff : a ≤ b ↔ ∀ l ∈ a, ∃ m ∈ b, l ≤ m := by
  cases a <;> cases b <;> simp

theorem time_le_trans (hab : a ≤ b) (hbc : b ≤ c) : a ≤ c := by
  rw [time_le_iff] at hab hbc ⊢
  intro l hl
  obtain ⟨m, hm, hlm⟩ := hab l hl
  obtain ⟨n, hn, hmn⟩ := hbc m hm
  exact ⟨n, hn, Nat.le_trans hlm hmn⟩

theorem time_le_antisymm (hab : a ≤ b) (hba : b ≤ a) : a = b := by
  cases a with
  | none =>
    cases b with
    | none => rfl
    | some m => simp at hba
  | some l =>
    cases b with
    | none => simp at hab
    | some m =>
      rw [Option.some_le_some] at hab hba
      exact congrArg some (Counter.ext (Nat.le_antisymm hab hba))

theorem le_addTimes (a b : Option Counter) : a ≤ addTimes a b := by
  cases a with
  | none => exact Option.none_le
  | some l =>
    cases b with
    | none => exact time_le_refl (some l)
    | some m => exact Option.some_le_some.mpr (Counter.le_add_right l m)

/-- Exactly those times are above one that come of adding something to it. -/
theorem exists_addTimes_of_le (h : a ≤ b) : ∃ c, b = addTimes a c := by
  cases a with
  | none => exact ⟨b, rfl⟩
  | some l =>
    cases b with
    | none => simp at h
    | some m =>
      refine ⟨some (m - l), ?_⟩
      rw [addTimes, Counter.add_sub_of_le (Option.some_le_some.mp h)]

theorem addTimes_le_addTimes_right (h : a ≤ b) (c : Option Counter) :
    addTimes a c ≤ addTimes b c := by
  obtain ⟨more, rfl⟩ := exists_addTimes_of_le h
  rw [addTimes_assoc, addTimes_comm more c, ← addTimes_assoc]
  exact le_addTimes _ more

end Times

/-! ## The order of summaries -/

/-- The figures of a summary by their names. -/
inductive Figure where
  | tests
  | errors
  | failures
  | skipped
  | time
  deriving DecidableEq

namespace Summary

/-- A figure of the summary. Only the time may be absent. -/
def figure (s : Summary) : Figure → Option Counter
  | .tests => some s.tests
  | .errors => some s.errors
  | .failures => some s.failures
  | .skipped => some s.skipped
  | .time => s.time

theorem figure_add (s t : Summary) (f : Figure) :
    (s + t).figure f = addTimes (s.figure f) (t.figure f) := by
  cases f <;> rfl

theorem ext_figure {s t : Summary} (h : ∀ f, s.figure f = t.figure f) : s = t := by
  cases s
  cases t
  rw [mk.injEq]
  exact ⟨Option.some.inj (h .tests), Option.some.inj (h .errors), Option.some.inj (h .failures),
    Option.some.inj (h .skipped), h .time⟩

/-- One summary is below another if it is so in every figure. -/
instance : PartialOrder Summary where
  le s t := ∀ f, s.figure f ≤ t.figure f
  le_refl s f := time_le_refl (s.figure f)
  le_trans _ _ _ hst htu f := time_le_trans (hst f) (htu f)
  le_antisymm _ _ hst hts := ext_figure fun f => time_le_antisymm (hst f) (hts f)

variable {s t : Summary}

theorem le_iff : s ≤ t ↔
    s.tests ≤ t.tests ∧ s.errors ≤ t.errors ∧ s.failures ≤ t.failures ∧ s.skipped ≤ t.skipped ∧
      s.time ≤ t.time := by
  constructor
  · intro h
    exact ⟨Option.some_le_some.mp (h .tests), Option.some_le_some.mp (h .errors),
      Option.some_le_some.mp (h .failures), Option.some_le_some.mp (h .skipped), h .time⟩
  · rintro ⟨htests, herrors, hfailures, hskipped, htime⟩ f
    cases f with
    | tests => exact Option.some_le_some.mpr htests
    | errors => exact Option.some_le_some.mpr herrors
    | failures => exact Option.some_le_some.mpr hfailures
    | skipped => exact Option.some_le_some.mpr hskipped
    | time => exact htime

theorem le_add_right (s t : Summary) : s ≤ s + t := by
  intro f
  rw [figure_add]
  exact le_addTimes _ _

theorem exists_add_of_le (h : s ≤ t) : ∃ u, t = s + u := by
  obtain ⟨htests, herrors, hfailures, hskipped, htime⟩ := le_iff.mp h
  obtain ⟨time, htime⟩ := exists_addTimes_of_le htime
  refine ⟨⟨t.tests - s.tests, t.errors - s.errors, t.failures - s.failures,
    t.skipped - s.skipped, time⟩, ?_⟩
  rw [add_eq_merge, merge, addCounts, Counter.add_sub_of_le htests,
    Counter.add_sub_of_le herrors, Counter.add_sub_of_le hfailures,
    Counter.add_sub_of_le hskipped, ← htime]

instance : IsOrderedAddMonoid Summary where
  add_le_add_left s t h u f := by
    rw [figure_add, figure_add]
    exact addTimes_le_addTimes_right (h f) (u.figure f)

instance : CanonicallyOrderedAdd Summary where
  exists_add_of_le := exists_add_of_le
  le_self_add := le_add_right
  le_add_self s t := by
    rw [add_comm]
    exact le_add_right s t

theorem isEmpty_iff : s.isEmpty = true ↔ s = 0 := by
  rw [isEmpty, beq_iff_eq]
  exact Iff.rfl

/-- A time that is there is there in every summary above. -/
theorem isSome_time_of_le (h : s ≤ t) (htime : s.time.isSome = true) : t.time.isSome = true := by
  obtain ⟨ms, hms⟩ := Option.isSome_iff_exists.mp htime
  obtain ⟨more, hmore, -⟩ := time_le_iff.mp (h .time) ms hms
  exact Option.isSome_iff_exists.mpr ⟨more, hmore⟩

/-- A figure at the ceiling is the same in every summary above. -/
theorem figure_of_ceiling (h : s ≤ t) {f : Figure} {n : Counter} (hn : s.figure f = some n)
    (hceiling : n.value = Counter.ceiling) : t.figure f = some n := by
  obtain ⟨m, hm, hle⟩ := time_le_iff.mp (h f) n hn
  have hmn : m = n := by
    ext
    have hm := m.value_le_ceiling
    rw [Counter.le_iff] at hle
    omega
  rw [← hmn]
  exact hm

end Summary

/-! ## Additions to a running total -/

namespace Intake

open Report

/-- One thing that is added to a running total. -/
inductive Addition where
  /-- The report in a file, as the files are at the time. -/
  | file (w : Workspace) (path : String)
  /-- The figures of one more element. -/
  | counts (tests skipped failures errors : Counter) (time : Option Counter)
  /-- What another summary holds. -/
  | merge (s : Summary)
  /-- The same, as the sum with the other summary. -/
  | plus (s : Summary)
  /-- The running total itself. -/
  | itself

namespace Addition

/-- Makes the addition. -/
def perform (total : Summary) : Addition → Logged Fault Summary
  | file w path => accept w path total
  | counts tests skipped failures errors time =>
    pure (total.addCounts tests skipped failures errors time)
  | merge s => pure (total.merge s)
  | plus s => pure (total + s)
  | itself => pure (total + total)

/-- The running total behind an addition, which is the one before it if the addition fails. -/
def after (total : Summary) (a : Addition) : Summary :=
  match (a.perform total).outcome with
  | .ok total => total
  | .error _ => total

/-- What is merged in, if the addition does not fail. -/
def contribution? (total : Summary) : Addition → Option Summary
  | file w path => (countFile w path).outcome.toOption
  | counts tests skipped failures errors time => some { tests, errors, failures, skipped, time }
  | merge s | plus s => some s
  | itself => some total

/-- An addition merges its contribution in, or nothing. -/
theorem after_eq (total : Summary) (a : Addition) :
    a.after total = total + (a.contribution? total).toList.sum := by
  cases a with
  | file w path =>
    cases h : (countFile w path).outcome with
    | ok s => simp [after, perform, contribution?, accept_of_counted, h, Except.toOption,
        Summary.add_eq_merge]
    | error f => simp [after, perform, contribution?, accept_of_fault, h, Except.toOption]
  | counts => simp [after, perform, contribution?, Summary.add_eq_merge, Summary.merge]
  | merge => simp [after, perform, contribution?, Summary.add_eq_merge]
  | plus => simp [after, perform, contribution?]
  | itself => simp [after, perform, contribution?]

end Addition

/-- The running total behind a run of additions. -/
def total (start : Summary) (run : List Addition) : Summary :=
  run.foldl (fun total a => a.after total) start

/-- What the additions of a run merge in, one after the other. -/
def contributions (start : Summary) : List Addition → List Summary
  | [] => []
  | a :: run => (a.contribution? start).toList ++ contributions (a.after start) run

theorem total_eq (start : Summary) (run : List Addition) :
    total start run = start + (contributions start run).sum := by
  induction run generalizing start with
  | nil => exact (add_zero start).symm
  | cons a run ih =>
    calc total start (a :: run)
        = a.after start + (contributions (a.after start) run).sum := ih (a.after start)
      _ = start + (contributions start (a :: run)).sum := by
        rw [contributions, List.sum_append, ← add_assoc, ← a.after_eq]

theorem total_append (start : Summary) (before later : List Addition) :
    total start (before ++ later) = total (total start before) later := List.foldl_append

theorem total_le_total_append (start : Summary) (before later : List Addition) :
    total start before ≤ total start (before ++ later) := by
  rw [total_append, total_eq (total start before) later]
  exact Summary.le_add_right _ _

theorem isEmpty_total_iff (start : Summary) (run : List Addition) :
    (total start run).isEmpty = true ↔
      start.isEmpty = true ∧ ∀ s ∈ contributions start run, s.isEmpty = true := by
  simp only [Summary.isEmpty_iff]
  rw [total_eq, add_eq_zero, List.sum_eq_zero_iff]

/-- Along a run of additions to a total, whichever of them fail, no later total is below an
earlier one in any figure; a time that is there stays, and so does a figure that has reached
the ceiling. Merging is monotone in both summaries. What a run comes to is the merge of its
contributions into the total at the beginning, and it is empty exactly if that total was and
every contribution has only counts of zero and no time. -/
theorem total_only_grows (start : Summary) (before later : List Addition) :
    total start before ≤ total start (before ++ later) ∧
    ((total start before).time.isSome = true →
      (total start (before ++ later)).time.isSome = true) ∧
    (∀ f n, (total start before).figure f = some n → n.value = 2 ^ 64 - 1 →
      (total start (before ++ later)).figure f = some n) ∧
    (∀ s s' t t' : Summary, s ≤ s' → t ≤ t' → s.merge t ≤ s'.merge t') ∧
    total start before = start + (contributions start before).sum ∧
    ((total start before).isEmpty = true ↔ start.isEmpty = true ∧
      ∀ s ∈ contributions start before, s = ⟨0, 0, 0, 0, none⟩) := by
  have hgrows := total_le_total_append start before later
  refine ⟨hgrows, Summary.isSome_time_of_le hgrows, ?_, ?_, total_eq start before, ?_⟩
  · intro f n hn hceiling
    exact Summary.figure_of_ceiling hgrows hn hceiling
  · intro s s' t t' hs ht
    exact add_le_add hs ht
  · rw [isEmpty_total_iff]
    simp only [Summary.isEmpty_iff]
    exact Iff.rfl

/-- A time of zero is a contribution, and no counts are none. -/
example :
    (total Summary.empty [.counts 0 0 0 0 none, .itself]).isEmpty = true ∧
      (total Summary.empty [.counts 0 0 0 0 (some 0), .itself]).isEmpty = false := by decide

end Intake

end TestRollup
