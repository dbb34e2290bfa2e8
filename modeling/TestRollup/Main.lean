import TestRollup.Command.Session

/- The program. It reads the files that the arguments name, lets the session answer
   from what was read, and prints the answer. Diagnostics go to standard error. -/
namespace TestRollup.Command

/-- The number by which the system knows an error; it may come negated. -/
def systemNumber (code : UInt32) : Nat :=
  if code.toNat < 2147483648 then code.toNat else 4294967296 - code.toNat

/-- The number and the words of a refusal by the system. -/
def refusalOf : IO.Error → Nat × String
  | .noFileOrDirectory _ code details => (systemNumber code, details)
  | .inappropriateType _ code details => (systemNumber code, details)
  | .invalidArgument _ code details => (systemNumber code, details)
  | .permissionDenied _ code details => (systemNumber code, details)
  | .resourceExhausted _ code details => (systemNumber code, details)
  | .noSuchThing _ code details => (systemNumber code, details)
  | .otherError code details => (systemNumber code, details)
  | e => (0, toString e)

/-- Why a file could not be read. -/
def failureOf (e : IO.Error) : Files.Failure :=
  match refusalOf e with
  | (2, _) => .notFound
  | (20, _) => .notDirectory
  | (21, _) => .isDirectory
  | (36, _) => .nameTooLong
  | (code, details) => .refused details code

/-- Reads the bytes of a file. -/
def readBytes (path : String) : IO (Except Files.Failure ByteArray) := do
  if path.toList.contains '\x00' then return .error .nulInPath
  try
    return .ok (← IO.FS.readBinFile path)
  catch e => return .error (failureOf e)

/-- The workspace of these files, with what is in them now. -/
def currentWorkspace (files : List String) : IO Intake.Workspace := do
  let folder := Files.Folder.ofPath (toString (← IO.currentDir))
  let mut contents : List (String × Except Files.Failure ByteArray) := []
  for file in files do
    let path := Files.absolute folder file
    contents := (path, ← readBytes path) :: contents
  let read := contents
  return ⟨folder, fun path => (read.lookup path).getD (.error .notFound)⟩

/-- How the program is called. -/
def usage : String :=
  "Usage: test-rollup summarize [-f text|json|yaml] FILES...\n" ++
  "       test-rollup help [COMMAND]\n"

/-- What is said when no summary is asked for. -/
def refusalText : Refusal → String
  | .helpRequested | .nothingRequested => usage
  | .versionRequested => "test-rollup 0.1.0\n"
  | .missingFiles => "error: no report file is named\n\n" ++ usage
  | .invalidValue => "error: a value is missing or not possible\n\n" ++ usage
  | .unknownOption => "error: there is no such option\n\n" ++ usage
  | .unknownCommand => "error: there is no such command\n\n" ++ usage
  | .repeatedOption => "error: an option is given twice\n\n" ++ usage
  | .unneededValue => "error: an option is given a value it does not take\n\n" ++ usage

end TestRollup.Command

open TestRollup TestRollup.Command in
def main (args : List String) : IO UInt32 := do
  let files := match parseArguments args with
    | .ok request => request.files
    | .error _ => []
  let workspace ← currentWorkspace files
  let colors := (← (← IO.getStdout).isTty) && (← IO.getEnv "NO_COLOR").isNone
  let answer := runSession workspace (← IO.getEnv "RUST_LOG") colors args
  match answer with
  | .error refusal =>
    if refusal.exitCode = 0 then IO.print (refusalText refusal)
    else IO.eprint (refusalText refusal)
  | .ok outcome =>
    for line in outcome.diagnostics do
      IO.eprintln line
    IO.print outcome.output
  return (exitCode answer).toUInt32
