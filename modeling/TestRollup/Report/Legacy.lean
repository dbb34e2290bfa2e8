import TestRollup.Report.Field
import TestRollup.Report.Logged
import TestRollup.Xml.Element

/- Reports of NUnit 2. Every `test-results` element counts on its own, at whatever
   depth it stands. Total, errors and failures must be given; tests that were not
   run, ignored or invalid may be, and are summed up as skipped.

   The attribute `time` of such an element is the time of day at which the tests
   began if it holds a colon, and then the durations are those of the suites
   directly inside the element; otherwise it is the duration itself, in seconds.
   An element with a time of day and no duration in its suites has no execution
   time, which is worth a warning. -/
namespace TestRollup.Report.Legacy

def resultsTag : String := Dialect.legacy.rootTag

def suiteTag : String := "test-suite"

/-- What a report says in one `test-results` element, value by value. -/
structure Entry where
  total : Option String
  errors : Option String
  failures : Option String
  notRun : Option String
  ignored : Option String
  invalid : Option String
  time : Option String
  /-- The values of `time` in the suites directly inside. -/
  suiteTimes : List (Option String)
  deriving DecidableEq

namespace Entry

def ofElement (e : Xml.Element) : Entry where
  total := e.attribute? "total"
  errors := e.attribute? "errors"
  failures := e.attribute? "failures"
  notRun := e.attribute? "not-run"
  ignored := e.attribute? "ignored"
  invalid := e.attribute? "invalid"
  time := e.attribute? "time"
  suiteTimes := (e.childrenTagged suiteTag).map (·.attribute? "time")

/-- The value is a time of day. -/
def isClock (time : String) : Bool := time.toList.contains ':'

/-- The counts that make up the skipped tests. -/
def skippedFields (e : Entry) : List (String × Option String) :=
  [("not-run", e.notRun), ("ignored", e.ignored), ("invalid", e.invalid)]

/-- The execution time in milliseconds, if there is one. -/
def executionTime (e : Entry) : Except Cause (Option Counter) :=
  match e.time with
  | none => .ok none
  | some time =>
    if isClock time then Field.sumTimes "time" e.suiteTimes
    else Field.milliseconds "time" (some time)

/-- The figures of the element, or the first thing wrong with it. -/
def figures (e : Entry) : Except Cause Summary := do
  let tests ← Field.required resultsTag "total" e.total
  let errors ← Field.required resultsTag "errors" e.errors
  let failures ← Field.required resultsTag "failures" e.failures
  let skipped ← Field.sum e.skippedFields
  let time ← e.executionTime
  pure { tests, errors, failures, skipped, time }

/-- The warning due if the element gives a time of day and no duration came of it. -/
def warnings (path : String) (e : Entry) (s : Summary) : List Event :=
  match e.time, s.time with
  | some time, none => if isClock time then [.clockOnly path time] else []
  | _, _ => []

/-- Counts the element. -/
def count (path : String) (e : Entry) : Logged Cause Summary :=
  match e.figures with
  | .error c => .fail c
  | .ok s => ⟨e.warnings path s ++ [.legacyCounted s], .ok s⟩

end Entry

/-- The elements that count in the tree, in document order. -/
def entries (root : Xml.Element) : List Entry :=
  (root.descendantsTagged resultsTag).map Entry.ofElement

/-- Counts every element that counts in the tree. -/
def count (path : String) (root : Xml.Element) : Logged Cause Summary :=
  Logged.tally (Entry.count path) (entries root)

end TestRollup.Report.Legacy
