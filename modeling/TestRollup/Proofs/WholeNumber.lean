import TestRollup.Proofs.DecimalValue

/- Whole numbers by their exact value, and next to decimal numbers. `placeValue` counts
   every digit by its place, as one does on paper, while a whole number is read from left to
   right with a range check at each digit; the two come to the same (`ofDigitChars_eq`), so
   the checks refuse a text of digits exactly if its value does not fit, however many zeros
   it begins with.

   The reader of decimal numbers is built on other checks. Of a text that is read as a whole
   number it makes a thousand times as many thousandths, unless these do not fit; and what it
   reads without a separator and without blanks at the ends is a whole number
   (`readWhole?_exact_value`). -/
namespace TestRollup.Number

open Text (isBlank trim)

/-- The exact value of digits: each counts for a power of ten, the last for one. -/
def placeValue : List Char → Nat
  | [] => 0
  | c :: cs => digitValue c * 10 ^ cs.length + placeValue cs

/-- Digits behind a number move it up by their places. -/
theorem ofDigitChars_eq (n : Nat) (cs : List Char) :
    Nat.ofDigitChars 10 cs n = n * 10 ^ cs.length + placeValue cs := by
  induction cs generalizing n with
  | nil => simp [placeValue]
  | cons c cs ih =>
    have hdigit : c.toNat - '0'.toNat = digitValue c := rfl
    rw [Nat.ofDigitChars_cons, ih, hdigit, placeValue, List.length_cons]
    ring

theorem valueOfDigits_eq_placeValue (cs : List Char) : valueOfDigits cs = placeValue cs := by
  rw [valueOfDigits, ofDigitChars_eq, Nat.zero_mul, Nat.zero_add]

theorem isDigit_iff {c : Char} : c.isDigit = true ↔ '0' ≤ c ∧ c ≤ '9' := by
  simp only [Char.isDigit, Bool.and_eq_true, decide_eq_true_eq]
  rfl

theorem exactThousandths_nil (cs : List Char) :
    exactThousandths cs [] = 1000 * valueOfDigits cs := by
  have hfraction : fractionThousandths [] = 0 := rfl
  have hround : roundingThousandth [] = 0 := rfl
  rw [exactThousandths, hfraction, hround]
  omega

/-- A decimal number without a fraction is a thousand times as many thousandths. -/
theorem readDecimal?_of_digits {cs : List Char} {d : Decimal} (hne : cs ≠ [])
    (h : allDigits cs = true) :
    readDecimal? cs = some d ↔ d.thousandths.value = 1000 * valueOfDigits cs := by
  have htrim : trim cs = cs :=
    Text.trim_of_no_blank fun c hc => not_isBlank_of_isDigit (allDigits_iff.mp h c hc)
  have hparts : splitAtSeparator (trim cs) = (cs, []) := by
    rw [htrim]
    exact splitAtSeparator_of_digits h
  rw [readDecimal?_eq_some_of_parts hparts, List.append_nil, exactThousandths_nil]
  exact ⟨fun hd => hd.2.2, fun hd => ⟨hne, h, hd⟩⟩

/-- What is read as a decimal number without a separator is digits, and their value fits. -/
theorem digits_of_readDecimal? {cs : List Char} {d : Decimal} (htrim : trim cs = cs)
    (hbare : ∀ c ∈ cs, isSeparator c = false) (h : readDecimal? cs = some d) :
    cs ≠ [] ∧ allDigits cs = true ∧ valueOfDigits cs ≤ Counter.ceiling := by
  have hparts : splitAtSeparator (trim cs) = (cs, []) := by
    rw [htrim]
    rcases splitAtSeparator_cases cs with ⟨hsplit, -⟩ | ⟨whole, mark, fraction, rfl, hmark, -⟩
    · exact hsplit
    · have hno := hbare mark (by simp)
      rw [hmark] at hno
      cases hno
  rw [readDecimal?_eq_some_of_parts hparts, List.append_nil, exactThousandths_nil] at h
  obtain ⟨hne, hdigits, hvalue⟩ := h
  have hceiling := d.thousandths.value_le_ceiling
  exact ⟨hne, hdigits, by omega⟩

/-- A text is read as a whole number exactly if it is not empty, consists of the ten digits
and has an exact value that fits in 64 bits, and it is read as that. Such a text is read as a
decimal number exactly if a thousand times its value fits, and as so many thousandths. What is
read as a decimal number, has no separator and neither begins nor ends with a blank is read as
a whole number. -/
theorem readWhole?_exact_value (cs : List Char) :
    (∀ v : Nat, (readWhole? cs).map Counter.value = some v ↔
      cs ≠ [] ∧ (∀ c ∈ cs, '0' ≤ c ∧ c ≤ '9') ∧ placeValue cs = v ∧ v ≤ 2 ^ 64 - 1) ∧
    (∀ n, readWhole? cs = some n →
      ((∃ d, readDecimal? cs = some d) ↔ 1000 * n.value ≤ 2 ^ 64 - 1) ∧
      ∀ d, readDecimal? cs = some d → d.thousandths.value = 1000 * n.value) ∧
    ('.' ∉ cs → ',' ∉ cs → (∀ c ∈ cs.head?, isBlank c = false) →
      (∀ c ∈ cs.getLast?, isBlank c = false) →
        (∃ d, readDecimal? cs = some d) → ∃ n, readWhole? cs = some n) := by
  refine ⟨?_, ?_, ?_⟩
  · intro v
    have hplain : (∀ c ∈ cs, '0' ≤ c ∧ c ≤ '9') ↔ allDigits cs = true := by
      simp only [allDigits_iff, isDigit_iff]
    rw [hplain, ← valueOfDigits_eq_placeValue, Option.map_eq_some_iff]
    refine ⟨?_, ?_⟩
    · intro h
      obtain ⟨n, hn, hv⟩ := h
      obtain ⟨hne, hdigits, hvalue⟩ := readWhole?_eq_some_iff.mp hn
      exact ⟨hne, hdigits, hvalue.trans hv, hv ▸ n.value_le⟩
    · intro h
      obtain ⟨hne, hdigits, hvalue, hle⟩ := h
      exact ⟨⟨v, hle⟩, readWhole?_eq_some_iff.mpr ⟨hne, hdigits, hvalue⟩, rfl⟩
  · intro n hn
    obtain ⟨hne, hdigits, hvalue⟩ := readWhole?_eq_some_iff.mp hn
    simp only [readDecimal?_of_digits hne hdigits, hvalue]
    refine ⟨⟨?_, ?_⟩, fun d hd => hd⟩
    · intro h
      obtain ⟨d, hd⟩ := h
      exact hd ▸ d.thousandths.value_le
    · intro hle
      exact ⟨⟨⟨1000 * n.value, hle⟩⟩, rfl⟩
  · intro hpoint hcomma hhead hlast h
    obtain ⟨d, hd⟩ := h
    have hbare : ∀ c ∈ cs, isSeparator c = false := by
      intro c hc
      rw [← Bool.not_eq_true, isSeparator_iff]
      intro hmark
      apply hmark.elim
      · intro e
        exact hpoint (e ▸ hc)
      · intro e
        exact hcomma (e ▸ hc)
    obtain ⟨hne, hdigits, hle⟩ := digits_of_readDecimal? (Text.trim_of_ends hhead hlast) hbare hd
    exact ⟨⟨valueOfDigits cs, hle⟩, readWhole?_eq_some_iff.mpr ⟨hne, hdigits, rfl⟩⟩

/-- Zeros in front do not count towards the range, and one more than the ceiling is refused. -/
example :
    (readWhole? "00000000000000000000018446744073709551615".toList).map Counter.value =
        some 18446744073709551615 ∧
      readWhole? "18446744073709551616".toList = none := by decide

end TestRollup.Number
