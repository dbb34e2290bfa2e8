import TestRollup.Report.Field
import TestRollup.Report.Logged
import TestRollup.Xml.Element

/- Reports of NUnit 3. If the run gives its own total, that covers every suite and
   the run is the only element that counts. Otherwise the suites directly inside
   the run count; a suite below another one is part of what its parent counts.
   A run without a total is refused when it has no suite, or when it gives any
   other figure of its own, since then its total has gone missing.

   Total and failures must be given; inconclusive and skipped tests may be, and
   are summed up as skipped; errors may be. -/
namespace TestRollup.Report.Modern

def suiteTag : String := "test-suite"

/-- What a report says in one `test-run` or `test-suite` element, value by value. -/
structure Entry where
  tag : String
  total : Option String
  failed : Option String
  inconclusive : Option String
  skipped : Option String
  errors : Option String
  duration : Option String
  deriving DecidableEq

namespace Entry

def ofElement (e : Xml.Element) : Entry where
  tag := e.tag
  total := e.attribute? "total"
  failed := e.attribute? "failed"
  inconclusive := e.attribute? "inconclusive"
  skipped := e.attribute? "skipped"
  errors := e.attribute? "errors"
  duration := e.attribute? "duration"

/-- The counts that make up the skipped tests. -/
def skippedFields (e : Entry) : List (String × Option String) :=
  [("inconclusive", e.inconclusive), ("skipped", e.skipped)]

/-- The figures of the element, or the first thing wrong with it. -/
def figures (e : Entry) : Except Cause Summary := do
  let tests ← Field.required e.tag "total" e.total
  let failures ← Field.required e.tag "failed" e.failed
  let skipped ← Field.sum e.skippedFields
  let errors ← Field.orZero "errors" e.errors
  let time ← Field.milliseconds "duration" e.duration
  pure { tests, errors, failures, skipped, time }

/-- Counts the element. -/
def count (e : Entry) : Logged Cause Summary :=
  match e.figures with
  | .error c => .fail c
  | .ok s => ⟨[.modernCounted e.tag s], .ok s⟩

end Entry

/-- The figures of a run that mean something only next to its total. -/
def runFigures : List String :=
  ["testcasecount", "passed", "failed", "errors", "inconclusive", "skipped", "duration"]

/-- The elements that count, in document order. -/
def entries (root : Xml.Element) : Except Cause (List Entry) :=
  if root.hasAttribute "total" then .ok [Entry.ofElement root]
  else
    let suites := root.childrenTagged suiteTag
    if runFigures.any root.hasAttribute || suites.isEmpty then
      .error (.missingAttribute root.tag "total")
    else .ok (suites.map Entry.ofElement)

/-- Counts every element that counts. -/
def count (root : Xml.Element) : Logged Cause Summary :=
  match entries root with
  | .error c => .fail c
  | .ok es => Logged.tally Entry.count es

end TestRollup.Report.Modern
