import TestRollup.Summary
import TestRollup.Report.Dialect

/- Events. While reports are read and summed up, the program says what it does:
   which dialect a report has, what each element that counts contributes, when a
   time is left out, and what each file and the whole run came to. An event is
   data; its level, its place of origin, its words and its fields are read off
   it here, for whoever shows or filters events. -/
namespace TestRollup.Report

/-- How much an event matters, the most pressing first. -/
inductive Level where
  | error
  | warn
  | info
  | debug
  | trace
  deriving DecidableEq

/-- Something the program reports while it works. -/
inductive Event where
  /-- A report's dialect is known. -/
  | dispatching (path : String) (dialect : Dialect)
  /-- A `test-results` element has been counted. -/
  | legacyCounted (figures : Summary)
  /-- A `test-results` element gives a time of day and no suite in it a duration. -/
  | clockOnly (path time : String)
  /-- A `test-run` or `test-suite` element has been counted. -/
  | modernCounted (tag : String) (figures : Summary)
  /-- A file has been counted. -/
  | imported (path : String) (figures : Summary)
  /-- All files of a run have been counted. -/
  | aggregated (files : Nat)
  deriving DecidableEq

/-- The value of a field of an event, shown with quotes or without. -/
inductive FieldValue where
  | bare (text : String)
  | quoted (text : String)
  deriving DecidableEq

/-- The value itself. -/
def FieldValue.text : FieldValue → String
  | bare text => text
  | quoted text => text

namespace Event

def level : Event → Level
  | dispatching .. | legacyCounted .. | modernCounted .. => .debug
  | clockOnly .. => .warn
  | imported .. | aggregated .. => .info

/-- The place in the program that an event comes from, by which a log can be filtered. -/
def origin : Event → String
  | dispatching .. | imported .. => "nunit_report::parser"
  | legacyCounted .. | clockOnly .. => "nunit_report::schema::handlers::legacy"
  | modernCounted .. => "nunit_report::schema::handlers::modern"
  | aggregated .. => "nunit_report::cli"

def message : Event → String
  | dispatching .. => "Dispatching report"
  | legacyCounted .. => "Read <test-results> element"
  | clockOnly .. => "No suite durations next to clock time, execution time not reported"
  | modernCounted .. => "Read NUnit 3 element"
  | imported .. => "Imported test report"
  | aggregated .. => "Aggregated test reports"

/-- A time as a field shows it. -/
def timeText : Option Counter → String
  | none => "None"
  | some ms => "Some(" ++ ms.digits ++ ")"

/-- The fields of an event, in the order they are shown. -/
def fields : Event → List (String × FieldValue)
  | dispatching path dialect =>
    [("path", .bare path), ("dialect", .bare dialect.label), ("root", .quoted dialect.rootTag)]
  | legacyCounted s =>
    [("tests", .bare s.tests.digits), ("errors", .bare s.errors.digits),
      ("failures", .bare s.failures.digits), ("skipped", .bare s.skipped.digits),
      ("execution_time", .bare (timeText s.time))]
  | clockOnly path time => [("path", .bare path), ("time", .quoted time)]
  | modernCounted tag s =>
    [("element", .quoted tag), ("tests", .bare s.tests.digits),
      ("failures", .bare s.failures.digits), ("errors", .bare s.errors.digits),
      ("skipped", .bare s.skipped.digits), ("execution_time", .bare (timeText s.time))]
  | imported path s =>
    [("path", .bare path), ("tests", .bare s.tests.digits),
      ("failures", .bare s.failures.digits), ("errors", .bare s.errors.digits),
      ("skipped", .bare s.skipped.digits), ("execution_time", .bare (timeText s.time))]
  | aggregated files => [("files", .bare (toString files))]

end Event

end TestRollup.Report
