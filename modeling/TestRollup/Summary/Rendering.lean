import TestRollup.Summary

/- The summary as users see it: a few lines of text, or a record of figures in JSON
   or YAML. The record holds the counts and the time in milliseconds, which it
   leaves out if there is none; the text says `n/a` then, and adds the number of
   tests that passed. On a terminal the text may be coloured: each figure stands
   between a style and the return to plain text, on one line. -/
namespace TestRollup

/-- The forms a summary is shown in. -/
inductive Format where
  | text
  | json
  | yaml
  deriving DecidableEq, Inhabited

namespace Format

/-- The name by which users ask for a format. -/
def name : Format → String
  | text => "text"
  | json => "json"
  | yaml => "yaml"

/-- The format with this very name. -/
def ofName? (name : String) : Option Format :=
  [text, json, yaml].find? fun f => f.name == name

end Format

/-- Styles of a terminal. -/
inductive Style where
  | bold
  | red
  | green
  | yellow

/-- The number that switches a style on. -/
def Style.code : Style → String
  | bold => "1"
  | red => "31"
  | green => "32"
  | yellow => "33"

namespace Summary

/-- Shows a text in a style, if styles are to be shown. -/
def styled (colors : Bool) (style : Style) (text : String) : String :=
  if colors then "\x1b[" ++ style.code ++ "m" ++ text ++ "\x1b[0m" else text

/-- The execution time as the text format shows it. -/
def timeText (s : Summary) : String :=
  match s.time with
  | some ms => ms.digits ++ " ms"
  | none => "n/a"

/-- The figures of the text format with their labels, in order. -/
def textFields (colors : Bool) (s : Summary) : List (String × String) :=
  [("Tests", styled colors .bold s.tests.digits), ("Passed", styled colors .green s.passed.digits),
    ("Failures", styled colors .red s.failures.digits),
    ("Errors", styled colors .red s.errors.digits),
    ("Skipped", styled colors .yellow s.skipped.digits), ("Execution time", s.timeText)]

/-- The figures of the record, in order. -/
def recordFields (s : Summary) : List (String × String) :=
  [("tests", s.tests.digits), ("errors", s.errors.digits), ("failures", s.failures.digits),
    ("skipped", s.skipped.digits)] ++
  match s.time with
  | some ms => [("execution_time_ms", ms.digits)]
  | none => []

/-- One line for each figure, indented by two blanks. -/
def renderText (colors : Bool) (s : Summary) : String :=
  String.join ((s.textFields colors).map fun f => "  " ++ f.1 ++ ": " ++ f.2 ++ "\n")

/-- An object with one member on each line, indented by two blanks. -/
def renderJson (s : Summary) : String :=
  "\x7b\n" ++ ",\n".intercalate (s.recordFields.map fun f => "  \"" ++ f.1 ++ "\": " ++ f.2) ++
    "\n\x7d\n"

/-- One line for each figure. -/
def renderYaml (s : Summary) : String :=
  String.join (s.recordFields.map fun f => f.1 ++ ": " ++ f.2 ++ "\n")

/-- The summary in a format. Only text has styles. -/
def render (s : Summary) (format : Format) (colors : Bool) : String :=
  match format with
  | .text => s.renderText colors
  | .json => s.renderJson
  | .yaml => s.renderYaml

end Summary

end TestRollup
