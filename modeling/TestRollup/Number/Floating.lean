import TestRollup.Number.Digits

/- Numbers in floating notation: an optional sign, and then digits with at most one
   point, with an exponent if need be, or the name of what is not finite or no
   number. Only which texts are of this form matters here, not their values. -/
namespace TestRollup.Number

/-- Takes the sign off. -/
def withoutSign : List Char → List Char
  | '+' :: cs | '-' :: cs => cs
  | cs => cs

/-- The names of what is not finite or no number, in letters of any case. -/
def isSpecialName (cs : List Char) : Bool :=
  let name := String.ofList (cs.map Char.toLower)
  name == "inf" || name == "infinity" || name == "nan"

/-- The end of a number behind its digits: nothing or an exponent. -/
def isExponent : List Char → Bool
  | [] => true
  | e :: cs => (e == 'e' || e == 'E') && !(withoutSign cs).isEmpty && allDigits (withoutSign cs)

/-- Digits with at most one point, and at least one digit, and perhaps an exponent. -/
def isUnsignedFloating (cs : List Char) : Bool :=
  let whole := cs.takeWhile Char.isDigit
  match cs.dropWhile Char.isDigit with
  | '.' :: rest =>
    !(whole.isEmpty && (rest.takeWhile Char.isDigit).isEmpty) &&
      isExponent (rest.dropWhile Char.isDigit)
  | rest => !whole.isEmpty && isExponent rest

/-- The text is a number in floating notation. -/
def isFloating (cs : List Char) : Bool :=
  isSpecialName (withoutSign cs) || isUnsignedFloating (withoutSign cs)

end TestRollup.Number
