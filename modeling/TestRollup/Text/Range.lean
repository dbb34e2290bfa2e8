/- Sets of characters as ranges of code points. -/
namespace TestRollup.Text

/-- The character is in one of the ranges. -/
def isWithin (ranges : List (Nat × Nat)) (c : Char) : Bool :=
  ranges.any fun r => r.1 ≤ c.toNat && c.toNat ≤ r.2

end TestRollup.Text
