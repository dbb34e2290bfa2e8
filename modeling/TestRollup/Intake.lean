import TestRollup.Files.Path
import TestRollup.Report.Counting

/- Intake of report files. A workspace is a current folder and files that can be
   read by their absolute paths. A file is counted by reading its text and
   counting the report in it; every fault carries the absolute path. A file is
   accepted into a running total in full or not at all, so a failure leaves the
   total as it was, and several files are aggregated by accepting them in order,
   up to the first that fails. -/
namespace TestRollup.Intake

open Report

/-- Where report files are looked for. -/
structure Workspace where
  folder : Files.Folder
  read : String → Except Files.Failure ByteArray

/-- The text of the file at an absolute path. -/
def Workspace.text (w : Workspace) (path : String) : Except Files.Failure String :=
  match w.read path with
  | .error f => .error f
  | .ok bytes =>
    match String.fromUTF8? bytes with
    | none => .error .notUtf8
    | some text => .ok text

/-- A file that holds the bytes of a text has this text. -/
theorem Workspace.text_of_read {w : Workspace} {path text : String}
    (h : w.read path = .ok text.toUTF8) : w.text path = .ok text := by
  have hutf8 : String.fromUTF8? text.toUTF8 = some text := dif_pos text.isValidUTF8
  rw [Workspace.text, h]
  simp only [hutf8]

/-- Counts the report in a file. -/
def countFile (w : Workspace) (path : String) : Logged Fault Summary :=
  let full := Files.absolute w.folder path
  match w.text full with
  | .error f => .fail ⟨full, .unreadable f⟩
  | .ok text => countText full text

theorem countFile_of_text {w : Workspace} {path text : String}
    (h : w.text (Files.absolute w.folder path) = .ok text) :
    countFile w path = countText (Files.absolute w.folder path) text := by
  simp only [countFile, h]

theorem countFile_of_unreadable {w : Workspace} {path : String} {f : Files.Failure}
    (h : w.text (Files.absolute w.folder path) = .error f) :
    countFile w path = .fail ⟨Files.absolute w.folder path, .unreadable f⟩ := by
  simp only [countFile, h]

/-- Counts the report in a file into a running total. -/
def accept (w : Workspace) (path : String) (total : Summary) : Logged Fault Summary := do
  let figures ← countFile w path
  Logged.emit (.imported path figures)
  pure (total.merge figures)

/-- Accepts files one after the other into a running total. -/
def acceptAll (w : Workspace) (total : Summary) : List String → Logged Fault Summary
  | [] => pure total
  | path :: paths => do
    let total ← accept w path total
    acceptAll w total paths

/-- Counts the reports in several files. -/
def aggregate (w : Workspace) (paths : List String) : Logged Fault Summary :=
  acceptAll w Summary.empty paths

/-! ## Runs of steps over one running total -/

/-- One thing to do in a run. -/
inductive Step where
  | accept (path : String)
  | countFile (path : String)
  | aggregate (paths : List String)

/-- What a step that did not fail came to: its figures, or their acceptance. -/
inductive Answer where
  | accepted
  | figures (s : Summary)

/-- Does a step: its answer, and the running total behind it. -/
def Step.perform (w : Workspace) (total : Summary) : Step → Logged Fault Answer × Summary
  | .accept path =>
    let x := Intake.accept w path total
    (x >>= fun _ => pure .accepted,
      match x.outcome with
      | .ok total => total
      | .error _ => total)
  | .countFile path => (Intake.countFile w path >>= fun s => pure (.figures s), total)
  | .aggregate paths => (Intake.aggregate w paths >>= fun s => pure (.figures s), total)

/-- A step that has been done: what came of it, and the totals before and behind it. -/
structure Move where
  step : Step
  before : Summary
  answer : Logged Fault Answer
  after : Summary

/-- Does steps one after the other, each from the total that the one before it has left:
what they came to, and the total at the end. -/
def run (w : Workspace) (total : Summary) : List Step → List Move × Summary
  | [] => ([], total)
  | step :: steps =>
    let (answer, after) := step.perform w total
    let (moves, last) := run w after steps
    (⟨step, total, answer, after⟩ :: moves, last)

end TestRollup.Intake
