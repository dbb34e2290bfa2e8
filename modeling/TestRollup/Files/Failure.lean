/- Why the text of a file cannot be had. A path with a NUL character in it is not
   looked for; a path may lead nowhere, through something that is no directory,
   or to a directory, or hold a name longer than any file system keeps; and what
   a file holds may not be text. -/
namespace TestRollup.Files

inductive Failure where
  | nulInPath
  | nameTooLong
  | notFound
  | notDirectory
  | isDirectory
  /-- The system refuses for another reason, known by its number. -/
  | refused (description : String) (code : Nat)
  | notUtf8
  deriving DecidableEq

namespace Failure

/-- A reason given by the system, with its number. -/
def numbered (description : String) (code : Nat) : String :=
  description ++ " (os error " ++ toString code ++ ")"

/-- The reason in words. -/
def message : Failure → String
  | nulInPath => "file name contained an unexpected NUL byte"
  | nameTooLong => numbered "File name too long" 36
  | notFound => numbered "No such file or directory" 2
  | notDirectory => numbered "Not a directory" 20
  | isDirectory => numbered "Is a directory" 21
  | refused description code => numbered description code
  | notUtf8 => "stream did not contain valid UTF-8"

end Failure

end TestRollup.Files
