import TestRollup.Files.Failure

/- Faults. A report that cannot be counted has one fault: a cause and the path of
   the report. The cause keeps what the diagnosis needs (the element, the
   attribute, the value as written); the wording is made from it in one place,
   and quotes the value exactly as the report has it.

   Of a text that is no document only that is kept. What is wrong with it is for the
   reader of documents to say, in words of its own; a message that shows them puts them
   at its end, behind a colon. They are no part of a cause, and the message here ends
   where they would begin. -/
namespace TestRollup.Report

/-- Why a report cannot be counted. -/
inductive Cause where
  /-- The root element belongs to no known kind of report. -/
  | unrecognizedRoot (root : String)
  /-- A count that must be given is not. -/
  | missingAttribute (element field : String)
  /-- A count is given by something other than a whole number. -/
  | invalidInteger (field value : String)
  /-- A time is given by something other than a decimal number. -/
  | invalidDecimal (field value : String)
  /-- The text of the report cannot be had. -/
  | unreadable (reason : Files.Failure)
  /-- The text is not a document, for whatever reason. -/
  | malformed
  deriving DecidableEq

/-- A cause with the path of the report it concerns. -/
structure Fault where
  path : String
  cause : Cause
  deriving DecidableEq

/-- The message shown for a fault, up to what a reader of documents has to add. -/
def Fault.message (f : Fault) : String :=
  match f.cause with
  | .unrecognizedRoot root => "Unrecognized root element <" ++ root ++ "> in " ++ f.path
  | .missingAttribute element field =>
    "Missing attribute \"" ++ field ++ "\" in element <" ++ element ++ "> in " ++ f.path
  | .invalidInteger field value =>
    "Expected an integer instead of \"" ++ value ++ "\" for the attribute \"" ++ field ++
      "\" in " ++ f.path
  | .invalidDecimal field value =>
    "Expected a decimal number instead of \"" ++ value ++ "\" for the attribute \"" ++
      field ++ "\" in " ++ f.path
  | .unreadable reason => "Unable to read " ++ f.path ++ ": " ++ reason.message
  | .malformed => "Unable to parse " ++ f.path ++ " as XML"

end TestRollup.Report
