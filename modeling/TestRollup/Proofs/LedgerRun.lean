import TestRollup.Proofs.ExactSum
import TestRollup.Summary.Ledger

/- Runs of a ledger. The same postings can be carried out on anything that has an
   empty figure, counts one more element and merges (`Bookkeeping`). Three readings
   matter: summaries, which stop at the ceiling; exact summaries, which do not; and
   plain lists of what has been counted, which add up nothing.

   `Transports.run?_eq`: a map between two readings that respects the three
   operations respects every run, whatever names the postings use and however often
   a summary is merged into itself. Cutting off at the ceiling is such a map from
   exact summaries to summaries, and summing up is one from lists to exact
   summaries. `run?_saturates_exact_run` puts the two together: after any number of
   postings every figure of every summary is the exact sum of what was posted to
   it, cut off once. -/
namespace TestRollup

/-- What postings need of the figures they are carried out on. -/
structure Bookkeeping (σ : Type) where
  empty : σ
  /-- Counts the figures of one more element. -/
  count : σ → (tests skipped failures errors : Counter) → (time : Option Counter) → σ
  merge : σ → σ → σ

/-- Figures under names. -/
abbrev Books (σ : Type) : Type := String → Option σ

namespace Books

variable {σ τ : Type}

def empty : Books σ := fun _ => none

def put (b : Books σ) (account : String) (s : σ) : Books σ := fun name =>
  if name = account then some s else b name

/-- The books with every figure replaced by another. -/
def map (f : σ → τ) (b : Books σ) : Books τ := fun name => (b name).map f

theorem map_put (f : σ → τ) (b : Books σ) (account : String) (s : σ) :
    (b.put account s).map f = (b.map f).put account (f s) := by
  funext name
  by_cases h : name = account <;> simp [map, put, h]

theorem mapM_map (f : σ → τ) (b : Books σ) (names : List String) :
    names.mapM (b.map f) = (names.mapM b).map (List.map f) := by
  induction names with
  | nil => rfl
  | cons name names ih =>
    rw [List.mapM_cons, List.mapM_cons, ih]
    simp only [map]
    cases b name with
    | none => rfl
    | some s => cases names.mapM b <;> rfl

end Books

namespace Bookkeeping

variable {σ τ : Type}

/-- Carries a posting out, if the figures it names are there. -/
def post? (k : Bookkeeping σ) (b : Books σ) : Posting → Option (Books σ)
  | .start account => some (b.put account k.empty)
  | .addCounts account tests skipped failures errors time =>
    (b account).map fun s => b.put account (k.count s tests skipped failures errors time)
  | .merge account other =>
    match b account, b other with
    | some s, some t => some (b.put account (k.merge s t))
    | _, _ => none
  | .add account a c =>
    match b a, b c with
    | some s, some t => some (b.put account (k.merge s t))
    | _, _ => none
  | .sum account parts =>
    (parts.mapM b).map fun ss => b.put account (ss.foldl k.merge k.empty)

/-- The books after a run of postings that begins with none. -/
def run? (k : Bookkeeping σ) (program : List Posting) : Option (Books σ) :=
  program.foldlM k.post? Books.empty

/-- The map respects what postings do to figures. -/
structure Transports (k : Bookkeeping σ) (l : Bookkeeping τ) (f : σ → τ) : Prop where
  empty : f k.empty = l.empty
  count : ∀ s tests skipped failures errors time,
    f (k.count s tests skipped failures errors time) =
      l.count (f s) tests skipped failures errors time
  merge : ∀ s t, f (k.merge s t) = l.merge (f s) (f t)

namespace Transports

variable {k : Bookkeeping σ} {l : Bookkeeping τ} {f : σ → τ}

theorem foldl_merge (h : Transports k l f) (ss : List σ) (s : σ) :
    (ss.map f).foldl l.merge (f s) = f (ss.foldl k.merge s) := by
  induction ss generalizing s with
  | nil => rfl
  | cons t ss ih => rw [List.map_cons, List.foldl_cons, List.foldl_cons, ← h.merge, ih]

/-- Putting the sum of two figures. Merging one into the other is the case in which
the sum takes the place of the first. -/
theorem post?_add_eq (h : Transports k l f) (b : Books σ) (account a c : String) :
    l.post? (b.map f) (.add account a c) = (k.post? b (.add account a c)).map (Books.map f) := by
  simp only [post?, Books.map]
  cases b a with
  | none => rfl
  | some s =>
    cases b c with
    | none => rfl
    | some t => simp only [Option.map_some, ← h.merge, ← Books.map_put]

/-- One posting: the two readings stay in step, or both refuse it. -/
theorem post?_eq (h : Transports k l f) (b : Books σ) (p : Posting) :
    l.post? (b.map f) p = (k.post? b p).map (Books.map f) := by
  cases p with
  | start account => simp only [post?, Option.map_some, Books.map_put, h.empty]
  | addCounts account tests skipped failures errors time =>
    simp only [post?, Books.map]
    cases b account with
    | none => rfl
    | some s => simp only [Option.map_some, ← h.count, ← Books.map_put]
  | merge account other => exact h.post?_add_eq b account account other
  | add account a c => exact h.post?_add_eq b account a c
  | sum account parts =>
    simp only [post?, Books.mapM_map]
    cases parts.mapM b with
    | none => rfl
    | some ss => simp only [Option.map_some, ← h.empty, h.foldl_merge, ← Books.map_put]

theorem foldlM_eq (h : Transports k l f) (program : List Posting) (b : Books σ) :
    program.foldlM l.post? (b.map f) = (program.foldlM k.post? b).map (Books.map f) := by
  induction program generalizing b with
  | nil => rfl
  | cons p program ih =>
    rw [List.foldlM_cons, List.foldlM_cons, h.post?_eq]
    cases k.post? b p with
    | none => rfl
    | some c => exact ih c

/-- A whole run: the two readings have the same names, and the figures under a name
are each other's image. -/
theorem run?_eq (h : Transports k l f) (program : List Posting) :
    l.run? program = (k.run? program).map (Books.map f) :=
  h.foldlM_eq program Books.empty

end Transports

end Bookkeeping

/-! ## Three readings of the postings -/

open Bookkeeping

/-- Figures that stop at the ceiling. -/
def underCeiling : Bookkeeping Summary where
  empty := Summary.empty
  count := Summary.addCounts
  merge := Summary.merge

/-- Figures that do not. -/
def exactly : Bookkeeping ExactSummary where
  empty := {}
  count e tests skipped failures errors time :=
    { tests := e.tests + tests.value
      errors := e.errors + errors.value
      failures := e.failures + failures.value
      skipped := e.skipped + skipped.value
      time := Option.merge (· + ·) e.time (time.map Counter.value) }
  merge e f :=
    { tests := e.tests + f.tests
      errors := e.errors + f.errors
      failures := e.failures + f.failures
      skipped := e.skipped + f.skipped
      time := Option.merge (· + ·) e.time f.time }

/-- Everything that has been counted, one by one. -/
def itemized : Bookkeeping (List Summary) where
  empty := []
  count items tests skipped failures errors time :=
    items ++ [{ tests, errors, failures, skipped, time }]
  merge := (· ++ ·)

/-- The exact figures are the sums over the items, and there is a time exactly when
one of the items has one. -/
structure ExactSummary.Totals (e : ExactSummary) (items : List Summary) : Prop where
  tests : e.tests = (items.map (·.tests.value)).sum
  errors : e.errors = (items.map (·.errors.value)).sum
  failures : e.failures = (items.map (·.failures.value)).sum
  skipped : e.skipped = (items.map (·.skipped.value)).sum
  time_absent : e.time = none ↔ ∀ item ∈ items, item.time = none
  time_present : ∀ ms, e.time = some ms →
    ms = (items.filterMap fun item => item.time.map Counter.value).sum

/-- The figures of a summary, exactly. -/
def Summary.exact (s : Summary) : ExactSummary :=
  ⟨s.tests.value, s.errors.value, s.failures.value, s.skipped.value, s.time.map Counter.value⟩

theorem exactly_count (e : ExactSummary) (tests skipped failures errors : Counter)
    (time : Option Counter) :
    exactly.count e tests skipped failures errors time =
      e + Summary.exact { tests, errors, failures, skipped, time } := rfl

theorem exact_saturate (s : Summary) : s.exact.saturate = s := by
  cases s with
  | mk tests errors failures skipped time =>
    simp only [Summary.exact, ExactSummary.saturate, Counter.saturate_value, Option.map_map]
    cases time <;> simp [Counter.saturate_value]

theorem saturate_transports : Transports exactly underCeiling ExactSummary.saturate where
  empty := ExactSummary.saturate_zero
  count e tests skipped failures errors time := by
    rw [exactly_count, ExactSummary.saturate_add, exact_saturate]
    rfl
  merge e f := ExactSummary.saturate_add e f

theorem totals_transports :
    Transports itemized exactly fun items => (items.map Summary.exact).sum where
  empty := rfl
  count items tests skipped failures errors time := by
    simp only [itemized, List.map_append, List.sum_append, List.map_cons, List.map_nil,
      List.sum_cons, List.sum_nil, add_zero]
    rfl
  merge items others := by
    simp only [itemized, List.map_append, List.sum_append]
    rfl

theorem totals_sum (items : List Summary) : (items.map Summary.exact).sum.Totals items := by
  rw [ExactSummary.sum_eq]
  simp only [List.map_map]
  refine ⟨rfl, rfl, rfl, rfl, ?_, ?_⟩
  · simp [sumPresent_eq_none_iff, Summary.exact]
  · intro ms h
    rw [sumPresent_eq_some h, List.filterMap_map]
    rfl

namespace Ledger

/-- The ledger after a run of postings that begins with none. -/
def run? (program : List Posting) : Option Ledger := program.foldlM post? {}

theorem get?_put_eq (l : Ledger) (account : String) (s : Summary) :
    (l.put account s).get? = Books.put l.get? account s := by
  funext name
  exact get?_put l account name s

theorem post?_add_get? (l : Ledger) (account a b : String) :
    underCeiling.post? l.get? (.add account a b) = (l.post? (.add account a b)).map get? := by
  simp only [Bookkeeping.post?, post?]
  cases l.get? a with
  | none => rfl
  | some s =>
    cases l.get? b with
    | none => rfl
    | some t => simp only [Option.map_some, get?_put_eq]; rfl

/-- A posting to a ledger is the posting to what the ledger has under its names. -/
theorem post?_get? (l : Ledger) (p : Posting) :
    underCeiling.post? l.get? p = (l.post? p).map get? := by
  cases p with
  | start account => simp only [Bookkeeping.post?, post?, Option.map_some, get?_put_eq]; rfl
  | addCounts account tests skipped failures errors time =>
    simp only [Bookkeeping.post?, post?, Option.map_map, Function.comp_def, get?_put_eq]
    rfl
  | merge account other => exact post?_add_get? l account account other
  | add account a b => exact post?_add_get? l account a b
  | sum account parts =>
    simp only [Bookkeeping.post?, post?, Option.map_map, Function.comp_def, get?_put_eq]
    rfl

theorem run?_get? (program : List Posting) :
    underCeiling.run? program = (run? program).map get? := by
  have step : ∀ (program : List Posting) (l : Ledger),
      program.foldlM underCeiling.post? l.get? = (program.foldlM post? l).map get? := by
    intro program
    induction program with
    | nil => intro l; rfl
    | cons p program ih =>
      intro l
      rw [List.foldlM_cons, List.foldlM_cons, post?_get?]
      cases l.post? p with
      | none => rfl
      | some m => exact ih m
  -- an empty ledger has nothing under any name
  exact step program {}

/-- After any number of postings of any program, a name has a summary exactly when it
has exact figures and items; the summary is the exact figures cut off at the
ceiling, and those are the sums over all that was counted under the name. -/
theorem run?_saturates_exact_run (program : List Posting) (n : Nat) (account : String) :
    Option.Rel Summary.Caps ((run? (program.take n)).bind (·.get? account))
      ((exactly.run? (program.take n)).bind (· account)) ∧
    Option.Rel ExactSummary.Totals ((exactly.run? (program.take n)).bind (· account))
      ((itemized.run? (program.take n)).bind (· account)) := by
  have hledger : (run? (program.take n)).bind (·.get? account) =
      (underCeiling.run? (program.take n)).bind (· account) := by
    rw [run?_get?, Option.bind_map]
    rfl
  -- both readings with figures are images of the one without, so that one decides all
  rw [hledger, saturate_transports.run?_eq, totals_transports.run?_eq]
  cases itemized.run? (program.take n) with
  | none => exact ⟨.none, .none⟩
  | some b =>
    simp only [Option.map_some, Option.bind_some, Books.map]
    cases b account with
    | none => exact ⟨.none, .none⟩
    | some items =>
      refine ⟨.some ?_, .some (totals_sum items)⟩
      exact Summary.caps_iff.mpr rfl

/-- A summary merged into itself counts twice, and a time of zero stays a time. -/
example :
    ((run? [.start "a", .addCounts "a" (.saturate Counter.ceiling) (.saturate 1) 0 0 (some 0),
      .merge "a" "a"]).bind (·.get? "a")).map
        (fun s => (s.tests.value, s.skipped.value, s.time.map Counter.value)) =
      some (Counter.ceiling, 2, some 0) := by
  decide

end Ledger

end TestRollup
