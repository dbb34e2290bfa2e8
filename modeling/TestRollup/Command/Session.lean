import TestRollup.Command.Arguments
import TestRollup.Command.Log
import TestRollup.Intake

/- Sessions. A session answers one command line. If it asks for a summary and all
   files can be counted, the summary is the output; otherwise there is no output,
   the exit code says so, and the message of the first fault comes last among the
   diagnostics, behind the log. -/
namespace TestRollup.Command

open Report

/-- What a session leaves behind. -/
structure Outcome where
  exitCode : Nat
  output : String
  /-- Log lines and messages. -/
  diagnostics : List String
  deriving DecidableEq

/-- Counts the files of a request, with the events of the whole run. -/
def Request.count (r : Request) (w : Intake.Workspace) : Logged Fault Summary := do
  let total ← Intake.aggregate w r.files
  Logged.emit (.aggregated r.files.length)
  pure total

/-- Answers a request for a summary. -/
def Request.answer (r : Request) (w : Intake.Workspace) (filter : LogFilter) (colors : Bool) :
    Outcome :=
  let x := r.count w
  let log := logLines filter x.events
  match x.outcome with
  | .ok total => ⟨0, total.render r.format colors, log⟩
  | .error fault => ⟨1, "", log ++ ["Error: " ++ fault.message]⟩

/-- Answers a command line. -/
def runSession (w : Intake.Workspace) (setting : Option String) (colors : Bool)
    (args : List String) : Except Refusal Outcome :=
  match parseArguments args with
  | .error refusal => .error refusal
  | .ok request => .ok (request.answer w (LogFilter.ofSetting setting) colors)

/-- The exit code of a session, be it that there is a summary or that there is none to give. -/
def exitCode : Except Refusal Outcome → Nat
  | .error refusal => refusal.exitCode
  | .ok outcome => outcome.exitCode

end TestRollup.Command
