import TestRollup.Summary.Rendering

/- Arguments of the command line. `summarize` takes one or more files and at most
   one format; `help` takes the name of a command. Arguments are scanned from the
   left. An argument that starts with a hyphen is an option, unless it is a single
   hyphen, which is a file; behind a double hyphen every argument is a file.

   Files and the value of the format option are gathered first and looked at when
   the next known option comes, when the kind of value changes, or at the end.
   So of two problems with values the one on the left is reported, but an option
   that does not exist is reported at once, before the values gathered last. That
   no file is named can only be found at the end. -/
namespace TestRollup.Command

/-- Why the arguments do not ask for a summary. -/
inductive Refusal where
  | helpRequested
  | versionRequested
  /-- Nothing is asked for, which is answered by help. -/
  | nothingRequested
  | missingFiles
  | invalidValue
  | unknownOption
  | unknownCommand
  | repeatedOption
  | unneededValue
  deriving DecidableEq

/-- Asking for help or the version is no failure. -/
def Refusal.exitCode : Refusal → Nat
  | helpRequested | versionRequested => 0
  | _ => 2

/-- What is to be summarized, and how the summary is to be shown. -/
structure Request where
  files : List String
  format : Format
  deriving DecidableEq

/-! ## Single arguments -/

/-- What an argument looks like. -/
inductive Argument where
  /-- The double hyphen. -/
  | separator
  /-- An option by its name, with what follows its equals sign. -/
  | long (name : List Char) (value : Option (List Char))
  /-- An option by one letter, with what follows the letter. -/
  | short (letter : Char) (rest : List Char)
  | word (text : String)

def Argument.ofString (text : String) : Argument :=
  match text.toList with
  | ['-', '-'] => .separator
  | '-' :: '-' :: cs =>
    .long (cs.takeWhile (· != '=')) <|
      match cs.dropWhile (· != '=') with
      | [] => none
      | _ :: value => some value
  | '-' :: c :: cs => .short c cs
  | _ => .word text

/-- The value that follows the letter of an option directly. -/
def attachedValue? : List Char → Option String
  | [] => none
  | '=' :: cs => some (String.ofList cs)
  | cs => some (String.ofList cs)

/-! ## The scan of the arguments of `summarize` -/

/-- Values that have been gathered and not been looked at. -/
inductive Pending where
  | nothing
  | files (names : List String)
  /-- The format option, without its value as long as that is to come. -/
  | format (value : Option String)

/-- What a scan has come to. -/
structure Scan where
  files : List String := []
  format : Option Format := none
  pending : Pending := .nothing

namespace Scan

/-- Looks at the values gathered last. -/
def settle (s : Scan) : Except Refusal Scan :=
  match s.pending with
  | .nothing => .ok s
  | .files names =>
    if names.any (·.isEmpty) then .error .invalidValue
    else .ok { s with files := s.files ++ names, pending := .nothing }
  | .format none => .error .invalidValue
  | .format (some value) =>
    if s.format.isSome then .error .repeatedOption
    else
      match Format.ofName? value with
      | none => .error .invalidValue
      | some format => .ok { s with format := some format, pending := .nothing }

/-- Gathers a file. -/
def addFile (s : Scan) (name : String) : Except Refusal Scan :=
  match s.pending with
  | .files names => .ok { s with pending := .files (names ++ [name]) }
  | _ => do
    let s ← s.settle
    pure { s with pending := .files [name] }

/-- Gathers an argument that is no option. -/
def addWord (s : Scan) (text : String) : Except Refusal Scan :=
  match s.pending with
  | .format none => .ok { s with pending := .format (some text) }
  | _ => s.addFile text

/-- Takes the format option up. A value in the same argument is looked at directly. -/
def addFormat (s : Scan) (value : Option String) : Except Refusal Scan := do
  let s ← s.settle
  match value with
  | none => pure { s with pending := .format none }
  | some _ => settle { s with pending := .format value }

/-- Takes the request for help up, which ends the scan in any case. -/
def help (s : Scan) : Except Refusal Request := do
  let _ ← s.settle
  .error .helpRequested

/-- The request, once there are no more arguments. -/
def finish (s : Scan) : Except Refusal Request := do
  let s ← s.settle
  if s.files.isEmpty then .error .missingFiles
  else .ok ⟨s.files, s.format.getD .text⟩

/-- Takes up arguments all of which are files. -/
def finishWithFiles (s : Scan) : List String → Except Refusal Request
  | [] => s.finish
  | a :: as =>
    match s.addFile a with
    | .error r => .error r
    | .ok s => s.finishWithFiles as

/-- Takes up the arguments of `summarize`. -/
def run (s : Scan) : List String → Except Refusal Request
  | [] => s.finish
  | a :: as =>
    match Argument.ofString a with
    | .separator => s.finishWithFiles as
    | .word text =>
      match s.addWord text with
      | .error r => .error r
      | .ok s => s.run as
    | .long name value =>
      if name = "format".toList then
        match s.addFormat (value.map String.ofList) with
        | .error r => .error r
        | .ok s => s.run as
      else if name = "help".toList then
        if value.isSome then .error .unneededValue else s.help
      else .error .unknownOption
    | .short letter rest =>
      if letter = 'f' then
        match s.addFormat (attachedValue? rest) with
        | .error r => .error r
        | .ok s => s.run as
      else if letter = 'h' then s.help
      else .error .unknownOption

end Scan

/-! ## The whole command line -/

/-- The names of the commands. -/
def commands : List String := ["summarize", "help"]

/-- The answer to `help` with these arguments: a command may be named. -/
def helpFor : List String → Refusal
  | [] => .helpRequested
  | [name] => if commands.contains name then .helpRequested else .unknownCommand
  | _ => .unknownCommand

/-- The answer to arguments that name no command first. -/
def withoutCommand (first : String) (others : List String) : Refusal :=
  match Argument.ofString first with
  | .separator =>
    match others with
    | [] => .nothingRequested
    | a :: _ => if commands.contains a then .unknownOption else .unknownCommand
  | .long name value =>
    if name = "help".toList then
      if value.isSome then .unneededValue else .helpRequested
    else if name = "version".toList then
      if value.isSome then .unneededValue else .versionRequested
    else .unknownOption
  | .short letter _ =>
    if letter = 'h' then .helpRequested
    else if letter = 'V' then .versionRequested
    else .unknownOption
  | .word _ => .unknownCommand

/-- What the arguments ask for. -/
def parseArguments : List String → Except Refusal Request
  | [] => .error .nothingRequested
  | a :: as =>
    if a = "summarize" then Scan.run {} as
    else if a = "help" then .error (helpFor as)
    else .error (withoutCommand a as)

end TestRollup.Command
