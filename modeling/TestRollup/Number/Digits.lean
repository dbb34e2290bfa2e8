import TestRollup.Counter

/- Whole numbers in reports. A whole number is written with the ten ASCII digits
   and nothing else: no sign, no blank, no grouping. Leading zeros do not
   matter. A number that does not fit in a counter is not read.

   The digits are taken one by one: the number made so far is multiplied by ten and
   the next digit added, and each of these steps must fit (`appendDigits?`). No step
   makes the number smaller, so this decides the same as one check of the exact
   number at the end (`appendDigits?_eq`). -/
namespace TestRollup.Number

/-- A text of ASCII digits; the empty text is one. -/
def allDigits (cs : List Char) : Bool := cs.all Char.isDigit

/-- The number from 0 to 9 that a digit stands for. -/
def digitValue (c : Char) : Nat := c.toNat - '0'.toNat

/-- The exact number that a text of digits spells. -/
def valueOfDigits (cs : List Char) : Nat := Nat.ofDigitChars 10 cs 0

/-- Puts digits behind a number, as long as the number fits. -/
def appendDigits? (n : Counter) : List Char → Option Counter
  | [] => some n
  | c :: cs => do
    let tenfold ← n.mul? 10
    let n ← tenfold.add? (digitValue c)
    appendDigits? n cs

/-- Reads a whole number. -/
def readWhole? (cs : List Char) : Option Counter :=
  if cs.isEmpty || !allDigits cs then none else appendDigits? 0 cs

theorem digitValue_le {c : Char} (h : c.isDigit = true) : digitValue c ≤ 9 :=
  Nat.sub_le_of_le_add (Char.isDigit_iff_toNat.1 h).2

/-- What the digits of a number spell is the number. -/
theorem valueOfDigits_toDigits (n : Nat) : valueOfDigits (Nat.toDigits 10 n) = n :=
  Nat.ofDigitChars_ten_toDigits

/-- More digits never make a number smaller. -/
theorem le_ofDigitChars (n : Nat) (cs : List Char) : n ≤ Nat.ofDigitChars 10 cs n := by
  induction cs generalizing n with
  | nil => exact Nat.le_refl n
  | cons c cs ih =>
    rw [Nat.ofDigitChars_cons]
    apply Nat.le_trans _ (ih _)
    omega

/-- A number fits at every digit exactly if it fits at the last. -/
theorem appendDigits?_eq (n : Counter) (cs : List Char) :
    appendDigits? n cs = Counter.ofNat? (Nat.ofDigitChars 10 cs n.value) := by
  induction cs generalizing n with
  | nil => exact (Counter.ofNat?_value n).symm
  | cons c cs ih =>
    have hlast := le_ofDigitChars (10 * n.value + digitValue c) cs
    rw [Nat.ofDigitChars_cons]
    show _ = Counter.ofNat? (Nat.ofDigitChars 10 cs (10 * n.value + digitValue c))
    -- the tenfold is on the way to the number with the digit, and that to the last one
    refine Counter.ofNat?_bind (by omega) fun tenfold htenfold => ?_
    refine Counter.ofNat?_bind (by omega) fun next hnext => ?_
    rw [ih, hnext, htenfold, Nat.mul_comm]

theorem readWhole?_eq {cs : List Char} (hne : cs ≠ []) (h : allDigits cs = true) :
    readWhole? cs = Counter.ofNat? (valueOfDigits cs) := by
  rw [readWhole?, if_neg (by simp [hne, h]), appendDigits?_eq]
  rfl

/-- Exactly the non-empty digit texts below the ceiling are read, each as its value. -/
theorem readWhole?_eq_some_iff {cs : List Char} {n : Counter} :
    readWhole? cs = some n ↔ cs ≠ [] ∧ allDigits cs = true ∧ valueOfDigits cs = n.value := by
  by_cases hplain : cs ≠ [] ∧ allDigits cs = true
  · obtain ⟨hne, hdigits⟩ := hplain
    rw [readWhole?_eq hne hdigits, Counter.ofNat?_eq_some_iff]
    exact ⟨fun e => ⟨hne, hdigits, e.symm⟩, fun e => e.2.2.symm⟩
  · have hrefused : readWhole? cs = none := by
      rw [readWhole?, if_pos]
      cases cs with
      | nil => rfl
      | cons c cs => simpa using hplain
    rw [hrefused]
    refine ⟨fun e => ?_, fun e => absurd ⟨e.1, e.2.1⟩ hplain⟩
    cases e

end TestRollup.Number
