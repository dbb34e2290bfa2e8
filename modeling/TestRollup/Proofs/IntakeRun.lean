import TestRollup.Proofs.EventAudit
import TestRollup.Proofs.Sharding

/- Runs of steps over one running total. `Step.Yields` says what a step does, one case for
   each kind and, for an acceptance, one for each way it can end: only an acceptance that
   succeeds moves the total, and it merges in what the file comes to on its own; only that
   one reports an import, and as the last thing it does.

   Every step does this (`Step.perform_yields`), hence a run of steps does
   (`yields_of_mem_run`), whatever has failed in between. The total at the end is then the
   total at the beginning with the files of the successful acceptances merged in, and
   their reports of imports account for the difference (`run_accounts_for_imports`).

   Aggregating reports what accepting would, file by file, up to the first file that
   cannot be counted. -/
namespace TestRollup

open Report

namespace Report.Event

/-- The event reports that a file has been counted into a total. -/
def isImport : Event → Bool
  | imported .. => true
  | _ => false

end Report.Event

namespace Intake

/-- What a step does to the total and what comes of it. -/
inductive Step.Yields (w : Workspace) : Step → Summary → Logged Fault Answer → Summary → Prop where
  | accepted {path : String} {total s : Summary} (h : (Intake.countFile w path).outcome = .ok s) :
      Yields w (.accept path) total
        ⟨(Intake.countFile w path).events ++ [.imported path s], .ok .accepted⟩ (total.merge s)
  | refused {path : String} {total : Summary} {f : Fault}
      (h : (Intake.countFile w path).outcome = .error f) :
      Yields w (.accept path) total ⟨(Intake.countFile w path).events, .error f⟩ total
  | counted {path : String} {total : Summary} :
      Yields w (.countFile path) total (.figures <$> Intake.countFile w path) total
  | aggregated {paths : List String} {total : Summary} :
      Yields w (.aggregate paths) total (.figures <$> Intake.aggregate w paths) total

/-- What an acceptance that succeeds merges in. -/
def Step.accepted? (w : Workspace) : Step → Option Summary
  | .accept path => (Intake.countFile w path).outcome.toOption
  | .countFile _ | .aggregate _ => none

/-- The imports that an acceptance reports. -/
def Move.imports (m : Move) : List Event :=
  match m.step with
  | .accept _ => m.answer.events.filter Event.isImport
  | .countFile _ | .aggregate _ => []

variable {w : Workspace}

/-! ## What is reported before an import -/

theorem isImport_eventsOf {path : String} {d : Dialect} {e : Xml.Element} {event : Event}
    (h : event ∈ d.eventsOf path e) : event.isImport = false := by
  rw [Dialect.eventsOf, List.mem_append, List.mem_singleton] at h
  rcases h with h | rfl
  · obtain ⟨text, rfl⟩ := Dialect.eq_clockOnly_of_mem_warningsOf h
    rfl
  · cases d <;> rfl

theorem filter_isImport_countText (path text : String) :
    (countText path text).events.filter Event.isImport = [] := by
  by_cases h : ∃ root d, documentOf? text = some root ∧ root.tag = Dialect.rootTag d
  · obtain ⟨root, d, hdocument, htag⟩ := h
    obtain ⟨before, -, -, -, -, hevents, -⟩ := count_stops d path root
    rw [events_countText hdocument htag, hevents, List.filter_eq_nil_iff]
    intro event hevent
    rcases List.mem_cons.mp hevent with rfl | hevent
    · simp [Event.isImport]
    · obtain ⟨e, -, he⟩ := List.mem_flatMap.mp hevent
      simp [isImport_eventsOf he]
  · rw [events_of_no_report fun root hdocument d htag => h ⟨root, d, hdocument, htag⟩]
    rfl

/-- Counting a file reports no import. -/
theorem filter_isImport_countFile (w : Workspace) (path : String) :
    (countFile w path).events.filter Event.isImport = [] := by
  cases h : w.text (Files.absolute w.folder path) with
  | error f =>
    rw [countFile_of_unreadable h]
    rfl
  | ok text =>
    rw [countFile_of_text h]
    exact filter_isImport_countText _ text

/-! ## One step -/

theorem accept_of_counted {path : String} {s : Summary}
    (h : (countFile w path).outcome = .ok s) (total : Summary) :
    accept w path total =
      ⟨(countFile w path).events ++ [.imported path s], .ok (total.merge s)⟩ := by
  rw [accept, Logged.bind_of_ok h]
  rfl

theorem accept_of_fault {path : String} {f : Fault}
    (h : (countFile w path).outcome = .error f) (total : Summary) :
    accept w path total = ⟨(countFile w path).events, .error f⟩ := by
  rw [accept, Logged.bind_of_error h]

theorem Step.perform_yields (w : Workspace) (step : Step) (total : Summary) :
    step.Yields w total (step.perform w total).1 (step.perform w total).2 := by
  cases step with
  | accept path =>
    simp only [Step.perform, Logged.bind_pure_eq_map]
    cases h : (Intake.countFile w path).outcome with
    | ok s =>
      rw [accept_of_counted h]
      exact .accepted h
    | error f =>
      rw [accept_of_fault h]
      exact .refused h
  | countFile path =>
    simp only [Step.perform, Logged.bind_pure_eq_map]
    exact .counted
  | aggregate paths =>
    simp only [Step.perform, Logged.bind_pure_eq_map]
    exact .aggregated

namespace Step.Yields

variable {step : Step} {total after : Summary} {answer : Logged Fault Answer}

/-- The total moves exactly by what is accepted. -/
theorem after_eq (h : step.Yields w total answer after) :
    after = (step.accepted? w).toList.foldl Summary.merge total := by
  cases h with
  | accepted h => simp [Step.accepted?, h, Except.toOption]
  | refused h => simp [Step.accepted?, h, Except.toOption]
  | counted => rfl
  | aggregated => rfl

/-- The imports that are reported tell exactly what is accepted. -/
theorem account_imports (h : step.Yields w total answer after) :
    (Move.mk step total answer after).imports.map Event.account =
      (step.accepted? w).toList.map Summary.exact := by
  cases h with
  | @accepted path _ s h =>
    have himports : ((Intake.countFile w path).events ++ [Event.imported path s]).filter
        Event.isImport = [Event.imported path s] := by
      rw [List.filter_append, filter_isImport_countFile]
      rfl
    have haccount : (Event.imported path s).account = s.exact := account_eq rfl rfl rfl rfl rfl
    simp only [Move.imports, himports, List.map_cons, List.map_nil, haccount, Step.accepted?, h]
    rfl
  | refused h => simp [Move.imports, Step.accepted?, h, Except.toOption, filter_isImport_countFile]
  | counted => rfl
  | aggregated => rfl

end Step.Yields

/-! ## A run of steps -/

theorem steps_run (w : Workspace) (total : Summary) (steps : List Step) :
    (run w total steps).1.map Move.step = steps := by
  induction steps generalizing total with
  | nil => rfl
  | cons step steps ih => rw [run, List.map_cons, ih]

theorem yields_of_mem_run {total : Summary} {steps : List Step} {m : Move}
    (h : m ∈ (run w total steps).1) : m.step.Yields w m.before m.answer m.after := by
  induction steps generalizing total with
  | nil => cases h
  | cons step steps ih =>
    rw [run, List.mem_cons] at h
    rcases h with rfl | h
    · exact step.perform_yields w total
    · exact ih h

theorem filterMap_cons_accepted? (w : Workspace) (step : Step) (steps : List Step) :
    (step :: steps).filterMap (Step.accepted? w) =
      (step.accepted? w).toList ++ steps.filterMap (Step.accepted? w) := by
  rw [List.filterMap_cons]
  cases step.accepted? w <;> rfl

theorem total_run (w : Workspace) (total : Summary) (steps : List Step) :
    (run w total steps).2 = (steps.filterMap (Step.accepted? w)).foldl Summary.merge total := by
  induction steps generalizing total with
  | nil => rfl
  | cons step steps ih =>
    rw [run, filterMap_cons_accepted?, List.foldl_append, ← (step.perform_yields w total).after_eq, ih]

theorem account_imports_run (w : Workspace) (total : Summary) (steps : List Step) :
    ((run w total steps).1.flatMap Move.imports).map Event.account =
      (steps.filterMap (Step.accepted? w)).map Summary.exact := by
  induction steps generalizing total with
  | nil => rfl
  | cons step steps ih =>
    rw [run, filterMap_cons_accepted?, List.flatMap_cons, List.map_append, List.map_append,
      (step.perform_yields w total).account_imports, ih]

/-- Merging under the ceiling is adding exactly and cutting off once. -/
theorem foldl_merge_eq (total : Summary) (ss : List Summary) :
    ss.foldl Summary.merge total = (total.exact + (ss.map Summary.exact).sum).saturate := by
  have hss : (ss.map Summary.exact).map ExactSummary.saturate = ss := by
    rw [List.map_map]
    exact (List.map_congr_left fun s _ => exact_saturate s).trans (List.map_id ss)
  calc ss.foldl Summary.merge total
      = total + ss.sum := Summary.foldl_merge_eq_add_sum total ss
    _ = total.exact.saturate + ((ss.map Summary.exact).map ExactSummary.saturate).sum := by
        rw [exact_saturate, hss]
    _ = (total.exact + (ss.map Summary.exact).sum).saturate := by
        rw [ExactSummary.saturate_add, ExactSummary.saturate_sum]

/-! ## Aggregating -/

/-- What accepting a file reports does not depend on the total. -/
theorem events_accept_eq (w : Workspace) (path : String) (total other : Summary) :
    (accept w path total).events = (accept w path other).events := by
  cases h : (countFile w path).outcome with
  | ok s => rw [accept_of_counted h, accept_of_counted h]
  | error f => rw [accept_of_fault h, accept_of_fault h]

theorem events_acceptAll_append {before : List String} (h : ∀ path ∈ before, Counts w path)
    (after : List String) (totals : String → Summary) (total : Summary) :
    ∃ next, (acceptAll w total (before ++ after)).events =
      (before.flatMap fun path => (accept w path (totals path)).events) ++
        (acceptAll w next after).events := by
  -- each file is accepted into another total, which its events do not show
  induction before generalizing total with
  | nil => exact ⟨total, rfl⟩
  | cons path before ih =>
    obtain ⟨hpath, hbefore⟩ := List.forall_mem_cons.mp h
    obtain ⟨s, hs⟩ := hpath
    obtain ⟨next, hnext⟩ := ih hbefore (total.merge s)
    have hok : (accept w path total).outcome = .ok (total.merge s) := by rw [accept_of_counted hs]
    refine ⟨next, ?_⟩
    rw [List.cons_append, acceptAll, Logged.bind_of_ok hok, hnext, List.flatMap_cons,
      List.append_assoc, events_accept_eq w path total (totals path)]

theorem events_aggregate_of_counts {paths : List String} (h : ∀ path ∈ paths, Counts w path)
    (totals : String → Summary) :
    (aggregate w paths).events = paths.flatMap fun path => (accept w path (totals path)).events := by
  obtain ⟨next, hnext⟩ := events_acceptAll_append h [] totals Summary.empty
  rw [List.append_nil] at hnext
  rw [aggregate, hnext]
  exact List.append_nil _

/-- The last file that is reported on is the first that cannot be counted. -/
theorem events_aggregate_of_first_fault {before : List String} (h : ∀ path ∈ before, Counts w path)
    {path : String} (hpath : ¬ Counts w path) (after : List String) (totals : String → Summary) :
    (aggregate w (before ++ path :: after)).events =
      (before ++ [path]).flatMap fun path => (accept w path (totals path)).events := by
  obtain ⟨f, hf⟩ := not_counts_iff.mp hpath
  obtain ⟨next, hnext⟩ := events_acceptAll_append h (path :: after) totals Summary.empty
  have herror : (accept w path next).outcome = .error f := by rw [accept_of_fault hf]
  rw [aggregate, hnext, acceptAll, Logged.bind_of_error herror, List.flatMap_append,
    events_accept_eq w path next (totals path)]
  simp

/-! ## The law of a run -/

/-- After a run of steps, the total is that at the beginning with the files of those
acceptances merged in that succeeded. Every step of the run does what `Step.Yields` says:
no other step moves the total, and none but these report an import, each of them one, as
the last thing it does. What the imports show adds up to the difference. Aggregating
reports what accepting each file would, up to the first that cannot be counted. -/
theorem run_accounts_for_imports (w : Workspace) (total : Summary) (steps : List Step) :
    (run w total steps).2 = (steps.filterMap (Step.accepted? w)).foldl Summary.merge total ∧
    (run w total steps).1.map Move.step = steps ∧
    (∀ m ∈ (run w total steps).1, m.step.Yields w m.before m.answer m.after) ∧
    (∀ path, (countFile w path).events.filter Event.isImport = []) ∧
    (run w total steps).2.Caps
      (total.exact + (((run w total steps).1.flatMap Move.imports).map Event.account).sum) ∧
    (∀ paths, (∀ path ∈ paths, Counts w path) → ∀ totals : String → Summary,
      (aggregate w paths).events =
        paths.flatMap fun path => (accept w path (totals path)).events) ∧
    (∀ before path after, (∀ q ∈ before, Counts w q) → ¬ Counts w path →
      ∀ totals : String → Summary,
        (aggregate w (before ++ path :: after)).events =
          (before ++ [path]).flatMap fun path => (accept w path (totals path)).events) := by
  refine ⟨total_run w total steps, steps_run w total steps, fun m => yields_of_mem_run,
    filter_isImport_countFile w, ?_, fun paths => events_aggregate_of_counts,
    fun before path after h hpath => events_aggregate_of_first_fault h hpath after⟩
  rw [Summary.caps_iff, account_imports_run, total_run]
  exact foldl_merge_eq total _

end Intake

end TestRollup
