import TestRollup.Command.Filter
import TestRollup.Text.Quoted

/- The log. An event that the filter lets through becomes one line with its level,
   its words and its fields. -/
namespace TestRollup.Command

open Report

/-- The name of a level in a line. -/
def levelName : Level → String
  | .error => "ERROR"
  | .warn => "WARN"
  | .info => "INFO"
  | .debug => "DEBUG"
  | .trace => "TRACE"

/-- The value of a field as a line shows it. -/
def showValue : FieldValue → String
  | .bare text => text
  | .quoted text => Text.quoted text

/-- The line for an event. -/
def logLine (event : Event) : String :=
  levelName event.level ++ " " ++ event.message ++
    String.join (event.fields.map fun f => " " ++ f.1 ++ "=" ++ showValue f.2)

/-- The lines for the events that a filter lets through. -/
def logLines (f : LogFilter) (events : List Event) : List String :=
  (events.filter f.admits).map logLine

end TestRollup.Command
