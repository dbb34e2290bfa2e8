import TestRollup.Command.Session
import TestRollup.Proofs.IntakeRun

/- What a session answers. The files of a request are taken in one after the other, and
   each reports how it is counted and, at the end, its import (`reported`); the first that
   cannot be counted ends the run. If none does, the summary of all of them is the whole
   output; otherwise there is no output at all, whatever came before, and the fault of
   that file is the last of the diagnostics.

   A log filter only picks lines: under any setting they are some of those under `trace`,
   in the same order, and those are all events of the run (`logLines_sublist`,
   `logLines_trace`). Nothing else of an answer depends on the setting. -/
namespace TestRollup.Command

open Report Intake

variable {w : Workspace}

/-! ## The events of a run -/

/-- What is reported while a file is taken in: how it is counted and, if it can be counted,
its import. -/
def reported (w : Workspace) (path : String) : List Event :=
  (countFile w path).events ++
    match (countFile w path).outcome with
    | .ok s => [.imported path s]
    | .error _ => []

theorem events_accept (path : String) (total : Summary) :
    (accept w path total).events = reported w path := by
  unfold reported
  cases h : (countFile w path).outcome with
  | ok s => rw [accept_of_counted h]
  | error f =>
    rw [accept_of_fault h]
    exact (List.append_nil _).symm

/-- A request whose files can all be counted is counted in full. -/
theorem count_of_counts {request : Request} (h : ∀ file ∈ request.files, Counts w file) :
    ∃ total, (aggregate w request.files).outcome = .ok total ∧
      request.count w =
        ⟨request.files.flatMap (reported w) ++ [.aggregated request.files.length], .ok total⟩ := by
  obtain ⟨total, htotal⟩ := aggregate_ok_iff.mpr h
  have hevents : (aggregate w request.files).events = request.files.flatMap (reported w) := by
    rw [events_aggregate_of_counts h fun _ => Summary.empty]
    simp only [events_accept]
  refine ⟨total, htotal, ?_⟩
  rw [Request.count, Logged.bind_of_ok htotal, hevents]
  rfl

/-- A request ends at its first file that cannot be counted. -/
theorem count_of_first_fault {request : Request} {before after : List String} {file : String}
    {fault : Fault} (hfiles : request.files = before ++ file :: after)
    (hbefore : ∀ q ∈ before, Counts w q) (hfault : (countFile w file).outcome = .error fault) :
    request.count w = ⟨(before ++ [file]).flatMap (reported w), .error fault⟩ := by
  have herror : (aggregate w request.files).outcome = .error fault :=
    aggregate_error_iff.mpr ⟨before, file, after, hfiles, hbefore, hfault⟩
  have hevents : (aggregate w request.files).events = (before ++ [file]).flatMap (reported w) := by
    rw [hfiles, events_aggregate_of_first_fault hbefore (not_counts_iff.mpr ⟨fault, hfault⟩) after
      fun _ => Summary.empty]
    simp only [events_accept]
  rw [Request.count, Logged.bind_of_error herror, hevents]

/-! ## The lines of a log -/

theorem ofSetting_trace : LogFilter.ofSetting (some "trace") = .upTo .trace := by decide

/-- Up to `trace` every event has its line. -/
theorem logLines_trace (events : List Event) :
    logLines (.ofSetting (some "trace")) events = events.map logLine := by
  have hall : events.filter (LogFilter.upTo .trace).admits = events :=
    List.filter_eq_self.mpr fun event _ => LogFilter.admits_upTo_trace event
  rw [ofSetting_trace, logLines, hall]

/-- Any filter shows some of the lines that there are for all events, in order. -/
theorem logLines_sublist (f : LogFilter) (events : List Event) :
    (logLines f events).Sublist (logLines (.ofSetting (some "trace")) events) := by
  rw [logLines_trace]
  exact List.filter_sublist.map logLine

/-- No line of a log looks like the message of a fault. -/
theorem not_error_of_mem_logLines {f : LogFilter} {events : List Event} {line : String}
    (h : line ∈ logLines f events) : ¬ "Error: ".toList <+: line.toList := by
  obtain ⟨event, -, rfl⟩ := List.mem_map.mp h
  intro hprefix
  -- the names of levels are in capitals, so the second letter tells
  simp only [logLine, String.toList_append, List.append_assoc] at hprefix
  cases hlevel : event.level <;> simp [hlevel, levelName] at hprefix

/-! ## The answer -/

variable {args : List String} {request : Request}

theorem runSession_of_counts (colors : Bool) (hparse : parseArguments args = .ok request)
    (h : ∀ file ∈ request.files, Counts w file) :
    ∃ total, (aggregate w request.files).outcome = .ok total ∧ ∀ setting,
      runSession w setting colors args = .ok
        { exitCode := 0
          output := total.render request.format colors
          diagnostics := logLines (.ofSetting setting)
            (request.files.flatMap (reported w) ++ [.aggregated request.files.length]) } := by
  obtain ⟨total, htotal, hcount⟩ := count_of_counts h
  refine ⟨total, htotal, ?_⟩
  intro setting
  rw [runSession, hparse]
  show Except.ok (request.answer w _ colors) = _
  rw [Request.answer, hcount]

theorem runSession_of_first_fault (colors : Bool) (hparse : parseArguments args = .ok request)
    {before after : List String} {file : String} {fault : Fault}
    (hfiles : request.files = before ++ file :: after) (hbefore : ∀ q ∈ before, Counts w q)
    (hfault : (countFile w file).outcome = .error fault) (setting : Option String) :
    runSession w setting colors args = .ok
      { exitCode := 1
        output := ""
        diagnostics := logLines (.ofSetting setting) ((before ++ [file]).flatMap (reported w)) ++
          ["Error: " ++ fault.message] } := by
  rw [runSession, hparse]
  show Except.ok (request.answer w _ colors) = _
  rw [Request.answer, count_of_first_fault hfiles hbefore hfault]

theorem runSession_of_refusal {refusal : Refusal} (hparse : parseArguments args = .error refusal)
    (setting : Option String) (colors : Bool) :
    runSession w setting colors args = .error refusal := by
  rw [runSession, hparse]

theorem exitCode_eq_zero_iff (w : Workspace) (setting : Option String) (colors : Bool)
    (args : List String) :
    exitCode (runSession w setting colors args) = 0 ↔
      parseArguments args = .error .helpRequested ∨
      parseArguments args = .error .versionRequested ∨
      ∃ request, parseArguments args = .ok request ∧ ∀ file ∈ request.files, Counts w file := by
  cases hparse : parseArguments args with
  | error refusal =>
    rw [runSession_of_refusal hparse]
    cases refusal <;> simp [exitCode, Refusal.exitCode]
  | ok request =>
    simp only [reduceCtorEq, false_or, Except.ok.injEq, exists_eq_left']
    rcases counts_or_first_fault w request.files with
      hcounts | ⟨before, file, after, fault, hfiles, hbefore, hfault⟩
    · obtain ⟨total, -, hanswer⟩ := runSession_of_counts colors hparse hcounts
      rw [hanswer]
      exact ⟨fun _ => hcounts, fun _ => rfl⟩
    · rw [runSession_of_first_fault colors hparse hfiles hbefore hfault]
      have hno : ¬ Counts w file := not_counts_iff.mpr ⟨fault, hfault⟩
      constructor
      · intro hzero
        cases hzero
      · intro hcounts
        exact absurd (hcounts file (by simp [hfiles])) hno

/-- A session exits with zero exactly if help or the version is asked for, or a summary of
files that can all be counted. The summary is then the output. If a file cannot be counted
there is no output, the exit code is one, and the message of the first such file is the last
of the diagnostics and the only one of its kind. The setting of the log decides on nothing
but the lines before it, which are some of those under `trace`, in their order, and there
are the lines of all events then. -/
theorem session_answer (w : Workspace) (colors : Bool) (args : List String) :
    (∀ setting, exitCode (runSession w setting colors args) = 0 ↔
      parseArguments args = .error .helpRequested ∨
      parseArguments args = .error .versionRequested ∨
      ∃ request, parseArguments args = .ok request ∧
        ∀ file ∈ request.files, ∃ s, (countFile w file).outcome = .ok s) ∧
    (∀ refusal, parseArguments args = .error refusal →
      ∀ setting, runSession w setting colors args = .error refusal) ∧
    (∀ request, parseArguments args = .ok request →
      (∀ file ∈ request.files, ∃ s, (countFile w file).outcome = .ok s) →
        ∃ total, (aggregate w request.files).outcome = .ok total ∧ ∀ setting,
          runSession w setting colors args = .ok
            { exitCode := 0
              output := total.render request.format colors
              diagnostics := logLines (.ofSetting setting)
                (request.files.flatMap (reported w) ++ [.aggregated request.files.length]) }) ∧
    (∀ request, parseArguments args = .ok request →
      (∃ file ∈ request.files, ∃ fault, (countFile w file).outcome = .error fault) →
        ∃ before file after fault, request.files = before ++ file :: after ∧
          (∀ q ∈ before, ∃ s, (countFile w q).outcome = .ok s) ∧
          (countFile w file).outcome = .error fault ∧ ∀ setting,
            runSession w setting colors args = .ok
              { exitCode := 1
                output := ""
                diagnostics :=
                  logLines (.ofSetting setting) ((before ++ [file]).flatMap (reported w)) ++
                    ["Error: " ++ fault.message] }) ∧
    ∀ setting events,
      (logLines (.ofSetting setting) events).Sublist
        (logLines (.ofSetting (some "trace")) events) ∧
      logLines (.ofSetting (some "trace")) events = events.map logLine ∧
      ∀ line ∈ logLines (.ofSetting setting) events, ¬ "Error: ".toList <+: line.toList := by
  refine ⟨fun setting => exitCode_eq_zero_iff w setting colors args,
    fun _ hparse setting => runSession_of_refusal hparse setting colors,
    fun _ hparse h => runSession_of_counts colors hparse h, ?_, ?_⟩
  · rintro request hparse ⟨bad, hmem, f, hbad⟩
    rcases counts_or_first_fault w request.files with
      hcounts | ⟨before, file, after, fault, hfiles, hbefore, hfault⟩
    · exact absurd (hcounts bad hmem) (not_counts_iff.mpr ⟨f, hbad⟩)
    · exact ⟨before, file, after, fault, hfiles, hbefore, hfault,
        runSession_of_first_fault colors hparse hfiles hbefore hfault⟩
  · intro setting events
    exact ⟨logLines_sublist _ events, logLines_trace events, fun _ => not_error_of_mem_logLines⟩

end TestRollup.Command
