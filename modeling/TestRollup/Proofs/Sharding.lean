import TestRollup.Proofs.ExactSum
import TestRollup.Intake

/- Counting files in shards. A plan says how a list of files is counted: some of
   them each on their own, others in shards that are aggregated, and the figures of
   both merged in some order and grouping. Whatever the plan, it comes to the sum of
   what the files come to on their own (`Plan.outcome_of_counts`), and aggregating
   the whole list is one plan among the others. That a total may reach the ceiling
   on the way, or that some files give no time, makes no difference, since
   summaries are a commutative monoid.

   A list with a file that cannot be counted has a first one. Its fault is that of
   the list (`acceptAll_of_first_fault`); another order of the list may show
   another fault, but never none. -/
namespace TestRollup

namespace Intake

open Report

/-- A way to count files. -/
inductive Plan where
  /-- One file on its own. -/
  | file (path : String)
  /-- Several files, one after the other. -/
  | shard (paths : List String)
  /-- What two plans come to, merged. -/
  | merge (a b : Plan)

namespace Plan

/-- The files of a plan, in its order. -/
def paths : Plan → List String
  | file path => [path]
  | shard paths => paths
  | merge a b => a.paths ++ b.paths

/-- What a plan comes to, or a fault. -/
def outcome (w : Workspace) : Plan → Except Fault Summary
  | file path => (countFile w path).outcome
  | shard paths => (aggregate w paths).outcome
  | merge a b => do
    let s ← a.outcome w
    let t ← b.outcome w
    pure (s.merge t)

end Plan

/-- The report in the file can be counted. -/
def Counts (w : Workspace) (path : String) : Prop := ∃ s, (countFile w path).outcome = .ok s

/-- The figures of a file, empty if it cannot be counted. -/
def figures (w : Workspace) (path : String) : Summary :=
  match (countFile w path).outcome with
  | .ok s => s
  | .error _ => Summary.empty

variable {w : Workspace}

/-! ## Files that can be counted -/

theorem Counts.outcome_eq {path : String} (h : Counts w path) :
    (countFile w path).outcome = .ok (figures w path) := by
  obtain ⟨s, hs⟩ := h
  simp only [figures, hs]

theorem not_counts_iff {path : String} :
    ¬ Counts w path ↔ ∃ f, (countFile w path).outcome = .error f := by
  unfold Counts
  cases (countFile w path).outcome <;> simp

theorem outcome_accept (path : String) (total : Summary) :
    (accept w path total).outcome = (countFile w path).outcome.map (total.merge ·) := by
  unfold accept
  rw [Logged.outcome_bind]
  cases (countFile w path).outcome with
  | error f => rfl
  | ok s =>
    show (Logged.emit _ >>= fun _ => pure (total.merge s)).outcome = _
    rw [Logged.outcome_bind]
    rfl

theorem acceptAll_of_counts {paths : List String} (h : ∀ path ∈ paths, Counts w path)
    (total : Summary) :
    (acceptAll w total paths).outcome = .ok (total + (paths.map (figures w)).sum) := by
  induction paths generalizing total with
  | nil =>
    show Except.ok total = _
    rw [List.map_nil, List.sum_nil, add_zero]
  | cons path paths ih =>
    have hpath := (h path List.mem_cons_self).outcome_eq
    have hpaths : ∀ q ∈ paths, Counts w q := fun q hq => h q (List.mem_cons_of_mem path hq)
    rw [acceptAll, Logged.outcome_bind, outcome_accept, hpath]
    show (acceptAll w (total + figures w path) paths).outcome = _
    rw [ih hpaths, List.map_cons, List.sum_cons, add_assoc]

/-- Accepting stops at the first file that cannot be counted, whatever follows it. -/
theorem acceptAll_of_first_fault {before : List String} (h : ∀ path ∈ before, Counts w path)
    {path : String} {f : Fault} (hf : (countFile w path).outcome = .error f)
    (after : List String) (total : Summary) :
    (acceptAll w total (before ++ path :: after)).outcome = .error f := by
  induction before generalizing total with
  | nil =>
    rw [List.nil_append, acceptAll, Logged.outcome_bind, outcome_accept, hf]
    rfl
  | cons q before ih =>
    have hq := (h q List.mem_cons_self).outcome_eq
    rw [List.cons_append, acceptAll, Logged.outcome_bind, outcome_accept, hq]
    exact ih (fun p hp => h p (List.mem_cons_of_mem q hp)) _

theorem counts_or_first_fault (w : Workspace) (paths : List String) :
    (∀ path ∈ paths, Counts w path) ∨
      ∃ before path after f, paths = before ++ path :: after ∧ (∀ q ∈ before, Counts w q) ∧
        (countFile w path).outcome = .error f := by
  induction paths with
  | nil => exact .inl (by simp)
  | cons path paths ih =>
    by_cases hpath : Counts w path
    · rcases ih with h | ⟨before, q, after, f, rfl, hbefore, hf⟩
      · exact .inl (List.forall_mem_cons.mpr ⟨hpath, h⟩)
      · exact .inr ⟨path :: before, q, after, f, rfl,
          List.forall_mem_cons.mpr ⟨hpath, hbefore⟩, hf⟩
    · obtain ⟨f, hf⟩ := not_counts_iff.mp hpath
      exact .inr ⟨[], path, paths, f, rfl, by simp, hf⟩

theorem aggregate_of_counts {paths : List String} (h : ∀ path ∈ paths, Counts w path) :
    (aggregate w paths).outcome = .ok (paths.map (figures w)).sum := by
  rw [aggregate, acceptAll_of_counts h]
  exact congrArg Except.ok (Summary.empty_merge _)

theorem aggregate_ok_iff {paths : List String} :
    (∃ s, (aggregate w paths).outcome = .ok s) ↔ ∀ path ∈ paths, Counts w path := by
  constructor
  · rintro ⟨s, hs⟩
    rcases counts_or_first_fault w paths with h | ⟨before, path, after, f, rfl, hbefore, hf⟩
    · exact h
    · rw [aggregate, acceptAll_of_first_fault hbefore hf] at hs
      simp at hs
  · intro h
    exact ⟨_, aggregate_of_counts h⟩

/-- The fault of a list is that of its first file that cannot be counted. -/
theorem aggregate_error_iff {paths : List String} {f : Fault} :
    (aggregate w paths).outcome = .error f ↔
      ∃ before path after, paths = before ++ path :: after ∧ (∀ q ∈ before, Counts w q) ∧
        (countFile w path).outcome = .error f := by
  constructor
  · intro h
    rcases counts_or_first_fault w paths with hc | ⟨before, path, after, g, rfl, hbefore, hg⟩
    · rw [aggregate_of_counts hc] at h
      simp at h
    · rw [aggregate, acceptAll_of_first_fault hbefore hg] at h
      exact ⟨before, path, after, rfl, hbefore, by rw [hg, h]⟩
  · rintro ⟨before, path, after, rfl, hbefore, hf⟩
    exact acceptAll_of_first_fault hbefore hf after Summary.empty

/-! ## Plans -/

/-- A plan over files that can be counted comes to the sum of their figures. -/
theorem Plan.outcome_of_counts {plan : Plan} (h : ∀ path ∈ plan.paths, Counts w path) :
    plan.outcome w = .ok (plan.paths.map (figures w)).sum := by
  induction plan with
  | file path =>
    have hpath := (h path (by simp [Plan.paths])).outcome_eq
    simp only [Plan.outcome, Plan.paths, hpath, List.map_cons, List.map_nil, List.sum_cons,
      List.sum_nil, add_zero]
  | shard paths => exact aggregate_of_counts h
  | merge a b iha ihb =>
    have ha := iha fun path hp => h path (List.mem_append_left b.paths hp)
    have hb := ihb fun path hp => h path (List.mem_append_right a.paths hp)
    simp only [Plan.outcome, ha, hb, Plan.paths, List.map_append, List.sum_append]
    rfl

/-- A list of files can be aggregated exactly when each of them can be counted, and
then every plan over the same files, in any order and any grouping into shards, comes
to the same summary. Otherwise the fault is that of the first file that cannot be
counted, and every order of the list has a fault. -/
theorem aggregate_any_order (w : Workspace) (paths : List String) :
    ((∃ s, (aggregate w paths).outcome = .ok s) ↔
      ∀ path ∈ paths, ∃ s, (countFile w path).outcome = .ok s) ∧
    (∀ s, (aggregate w paths).outcome = .ok s →
      ∀ plan : Plan, plan.paths.Perm paths → plan.outcome w = .ok s) ∧
    (∀ f, (aggregate w paths).outcome = .error f ↔
      ∃ before path after, paths = before ++ path :: after ∧
        (∀ q ∈ before, ∃ s, (countFile w q).outcome = .ok s) ∧
        (countFile w path).outcome = .error f) ∧
    (∀ f, (aggregate w paths).outcome = .error f →
      ∀ others : List String, others.Perm paths → ∃ g, (aggregate w others).outcome = .error g) := by
  refine ⟨aggregate_ok_iff, ?_, fun f => aggregate_error_iff, ?_⟩
  · intro s hs plan hperm
    have hcounts := aggregate_ok_iff.mp ⟨s, hs⟩
    have hplan : ∀ path ∈ plan.paths, Counts w path := by
      intro path hp
      exact hcounts path (hperm.mem_iff.mp hp)
    calc plan.outcome w
        = .ok (plan.paths.map (figures w)).sum := Plan.outcome_of_counts hplan
      _ = .ok (paths.map (figures w)).sum := by rw [(hperm.map (figures w)).sum_eq]
      _ = (aggregate w paths).outcome := (aggregate_of_counts hcounts).symm
      _ = .ok s := hs
  · intro f hf others hperm
    obtain ⟨before, path, after, rfl, -, hpath⟩ := aggregate_error_iff.mp hf
    have hmem : path ∈ others := hperm.mem_iff.mpr (by simp)
    -- the fault of `path` need not be the first one in the other order
    cases h : (aggregate w others).outcome with
    | error g => exact ⟨g, rfl⟩
    | ok s =>
      have hcounts : Counts w path := aggregate_ok_iff.mp ⟨s, h⟩ path hmem
      exact absurd hcounts (not_counts_iff.mpr ⟨f, hpath⟩)

end Intake

end TestRollup
