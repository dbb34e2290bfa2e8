import TestRollup.Number.Digits
import TestRollup.Text.Blank

/- Decimal numbers in reports. The machine that wrote a report chose its decimal
   separator by its locale, so a point and a comma mean the same, and either
   may stand once. Blanks around the number are dropped. Anything else that a
   locale may add (grouping, signs, exponents) is refused.

   A decimal is kept as a whole number of thousandths: the first three digits
   after the separator count for 100, 10 and 1, and a fourth digit of five or
   more adds one, which is rounding to nearest with halves going up, whatever
   follows. For a number of seconds the thousandths are milliseconds.

   The thousandths are made step by step, and each step must fit in a counter: the
   whole part, its thousandfold, the sum with each digit of the fraction, and the
   thousandth that rounding adds (`thousandths?`). What they come to when nothing is
   in the way of it is `exactThousandths`. -/
namespace TestRollup.Number

/-- A decimal number, rounded to thousandths. -/
structure Decimal where
  thousandths : Counter
  deriving DecidableEq

instance : Ord Decimal := ⟨fun a b => compare a.thousandths b.thousandths⟩

/-- The two marks that may stand between the whole part and the fraction. -/
def isSeparator (c : Char) : Bool := c == '.' || c == ','

/-- The parts before and after the first separator; without a separator the
    fraction is empty. -/
def splitAtSeparator (cs : List Char) : List Char × List Char :=
  (cs.takeWhile (!isSeparator ·), (cs.dropWhile (!isSeparator ·)).drop 1)

/-- What the digits after the separator count for, in thousandths. -/
def places : List Nat := [100, 10, 1]

/-- The thousandths in a fraction, cut off after the third digit. -/
def fractionThousandths (fraction : List Char) : Nat :=
  (List.zipWith (fun c place => digitValue c * place) fraction places).foldr Nat.add 0

/-- One more thousandth if the fourth digit is five or more. -/
def roundingThousandth (fraction : List Char) : Nat :=
  match fraction[places.length]? with
  | some c => if '5' ≤ c then 1 else 0
  | none => 0

/-- The thousandths of a number with the given digits before and after the separator. -/
def exactThousandths (whole fraction : List Char) : Nat :=
  valueOfDigits whole * 1000 + fractionThousandths fraction + roundingThousandth fraction

/-- Reads the digits before the separator; there may be none. -/
def wholePart? (whole : List Char) : Option Counter :=
  if whole.isEmpty then some 0 else readWhole? whole

/-- Adds digits to a number of thousandths, the first for the given place and each for
    a tenth of the place before it, as long as the sum fits. -/
def addDigits? (total : Counter) (place : Nat) : List Char → Option Counter
  | [] => some total
  | c :: cs => do
    let total ← total.add? (digitValue c * place)
    addDigits? total (place / 10) cs

/-- Adds one thousandth for a digit of five or more behind the last place, if the sum fits. -/
def addRounding? (total : Counter) (fraction : List Char) : Option Counter :=
  match fraction[places.length]? with
  | some c => if '5' ≤ c then total.add? 1 else some total
  | none => some total

/-- The thousandths of a number with the given digits before and after the separator, if
    they fit at every step. -/
def thousandths? (whole fraction : List Char) : Option Counter := do
  let whole ← wholePart? whole
  let total ← whole.mul? 1000
  let total ← addDigits? total 100 (fraction.take places.length)
  addRounding? total fraction

/-- Reads a decimal number. -/
def readDecimal? (cs : List Char) : Option Decimal :=
  let (whole, fraction) := splitAtSeparator (Text.trim cs)
  if whole.isEmpty && fraction.isEmpty then none
  else if !allDigits whole || !allDigits fraction then none
  else (thousandths? whole fraction).map Decimal.mk

/-- The two marks are interchangeable. -/
theorem isSeparator_iff (c : Char) : isSeparator c = true ↔ c = '.' ∨ c = ',' := by
  simp [isSeparator]

end TestRollup.Number
