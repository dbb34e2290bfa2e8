import TestRollup.Summary
import TestRollup.Number.Decimal
import TestRollup.Report.Fault

/- Fields of a report's elements. A field is the value of one attribute, absent if
   the element does not carry it. A count is either required or counts as zero
   when absent; a time may be absent and then is no time. A value that is there
   must be of the right form, whether the field is required or not. -/
namespace TestRollup.Report.Field

/-- The whole number that a value gives. -/
def integer (key value : String) : Except Cause Counter :=
  match Number.readWhole? value.toList with
  | some n => .ok n
  | none => .error (.invalidInteger key value)

/-- A count that the element must give. -/
def required (element key : String) : Option String → Except Cause Counter
  | none => .error (.missingAttribute element key)
  | some value => integer key value

/-- A count that is zero if the element does not give it. -/
def orZero (key : String) : Option String → Except Cause Counter
  | none => .ok 0
  | some value => integer key value

/-- A number of seconds, if the element gives one, in milliseconds. -/
def milliseconds (key : String) : Option String → Except Cause (Option Counter)
  | none => .ok none
  | some value =>
    match Number.readDecimal? value.toList with
    | some d => .ok (some d.thousandths)
    | none => .error (.invalidDecimal key value)

/-- The sum of counts each of which may be absent, onto a sum already made. -/
def sumOnto (total : Counter) : List (String × Option String) → Except Cause Counter
  | [] => .ok total
  | (key, value) :: fields =>
    match orZero key value with
    | .error c => .error c
    | .ok n => sumOnto (total + n) fields

/-- The sum of counts each of which may be absent. -/
def sum (fields : List (String × Option String)) : Except Cause Counter := sumOnto 0 fields

/-- The sum of the times in one field of several elements, onto a sum already made. -/
def sumTimesOnto (key : String) (total : Option Counter) :
    List (Option String) → Except Cause (Option Counter)
  | [] => .ok total
  | value :: values =>
    match milliseconds key value with
    | .error c => .error c
    | .ok time => sumTimesOnto key (addTimes total time) values

/-- The sum of the times in one field of several elements; absent if none of them
    gives one. -/
def sumTimes (key : String) (values : List (Option String)) :
    Except Cause (Option Counter) :=
  sumTimesOnto key none values

end TestRollup.Report.Field
