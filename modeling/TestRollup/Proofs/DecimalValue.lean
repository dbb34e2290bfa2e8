import Mathlib.Data.List.TakeWhile
import Mathlib.Data.Rat.Floor
import Mathlib.Tactic.FieldSimp
import Mathlib.Tactic.Linarith
import Mathlib.Tactic.Ring
import TestRollup.Number.Decimal

/- What a decimal number means, and that reading it rounds this to the nearest thousandth.
   `Writes` gives every text of digits with at most one separator its exact rational
   value, and `Means` the same with blanks around it.

   The thousandths are made in steps that must each fit in a counter. No step makes them
   smaller, so a step that does not fit is one after which the whole would not fit either
   (`thousandths?_eq`): the range checks refuse what is too large once it is rounded, and
   nothing else. What the digits behind the fourth come to is less than one at the fourth
   place, so it never decides which way to round (`floor_fractionValue`).

   `readDecimal?_nearest_thousandth` puts this together: a text is read exactly if it means
   a number whose nearest thousandth fits, halves going up, and it is read as that. -/
namespace TestRollup.Number

open Text (isBlank trim exists_eq_trim trim_append takeWhile_append_stop dropWhile_append_stop)

/-! ## The exact value of a text -/

/-- The exact value of the digits behind a separator: each place is a tenth of the place
before it. -/
def fractionValue : List Char → ℚ
  | [] => 0
  | c :: cs => (digitValue c + fractionValue cs) / 10

/-- The text writes a number with this exact value: digits, at least one of them, with or
without a separator before, among or behind them. -/
inductive Writes : List Char → ℚ → Prop where
  | whole {digits : List Char} (nonempty : digits ≠ []) (plain : allDigits digits = true) :
      Writes digits (valueOfDigits digits)
  | separated {whole fraction : List Char} {mark : Char} (separator : mark = '.' ∨ mark = ',')
      (nonempty : whole ++ fraction ≠ []) (plain : allDigits (whole ++ fraction) = true) :
      Writes (whole ++ mark :: fraction) (valueOfDigits whole + fractionValue fraction)

/-- The text means a number with this exact value: it writes it, with any blanks around. -/
def Means (cs : List Char) (v : ℚ) : Prop :=
  ∃ left text right, cs = left ++ text ++ right ∧ (∀ c ∈ left ++ right, isBlank c = true) ∧
    Writes text v

theorem allDigits_iff {cs : List Char} : allDigits cs = true ↔ ∀ c ∈ cs, c.isDigit = true :=
  List.all_eq_true

theorem allDigits_append {cs ds : List Char} :
    allDigits (cs ++ ds) = true ↔ allDigits cs = true ∧ allDigits ds = true := by
  rw [allDigits, List.all_append, Bool.and_eq_true]
  rfl

theorem not_isSeparator_of_isDigit {c : Char} (h : c.isDigit = true) : isSeparator c = false := by
  rw [← Bool.not_eq_true, isSeparator_iff]
  rintro (rfl | rfl) <;> simp at h

theorem toNat_of_isDigit {c : Char} (h : c.isDigit = true) : c.toNat = 48 + digitValue c := by
  have hlow : 48 ≤ c.toNat := (Char.isDigit_iff_toNat.1 h).1
  have hvalue : digitValue c = c.toNat - 48 := rfl
  omega

theorem not_isBlank_of_isDigit {c : Char} (h : c.isDigit = true) : isBlank c = false := by
  have hvalue := toNat_of_isDigit h
  have hle := digitValue_le h
  simp only [isBlank]
  grind

theorem countP_isSeparator_of_digits {cs : List Char} (h : allDigits cs = true) :
    cs.countP isSeparator = 0 := by
  rw [List.countP_eq_zero]
  intro c hc
  rw [not_isSeparator_of_isDigit (allDigits_iff.mp h c hc)]
  exact Bool.false_ne_true

/-! ### The characters of a number -/

theorem Writes.isDigit_or_separator {text : List Char} {v : ℚ} (h : Writes text v) :
    ∀ c ∈ text, c.isDigit = true ∨ c = '.' ∨ c = ',' := by
  intro c hc
  cases h with
  | whole _ plain => exact .inl (allDigits_iff.mp plain c hc)
  | separated separator _ plain =>
    have hall := allDigits_iff.mp plain
    rcases List.mem_append.mp hc with hc | hc
    · exact .inl (hall c (by simp [hc]))
    · rcases List.mem_cons.mp hc with rfl | hc
      · exact .inr separator
      · exact .inl (hall c (by simp [hc]))

theorem Writes.countP_isSeparator_le {text : List Char} {v : ℚ} (h : Writes text v) :
    text.countP isSeparator ≤ 1 := by
  cases h with
  | whole _ plain =>
    rw [countP_isSeparator_of_digits plain]
    omega
  | separated _ _ plain =>
    obtain ⟨hwhole, hfraction⟩ := allDigits_append.mp plain
    rw [List.countP_append, List.countP_cons, countP_isSeparator_of_digits hwhole,
      countP_isSeparator_of_digits hfraction]
    split <;> omega

theorem Writes.exists_isDigit {text : List Char} {v : ℚ} (h : Writes text v) :
    ∃ c ∈ text, c.isDigit = true := by
  cases h with
  | whole nonempty plain =>
    obtain ⟨c, hc⟩ := List.exists_mem_of_ne_nil _ nonempty
    exact ⟨c, hc, allDigits_iff.mp plain c hc⟩
  | separated _ nonempty plain =>
    obtain ⟨c, hc⟩ := List.exists_mem_of_ne_nil _ nonempty
    refine ⟨c, ?_, allDigits_iff.mp plain c hc⟩
    rcases List.mem_append.mp hc with hc | hc <;> simp [hc]

/-- A text that writes a number holds no blank. -/
theorem Writes.not_isBlank {text : List Char} {v : ℚ} (h : Writes text v) :
    ∀ c ∈ text, isBlank c = false := by
  intro c hc
  rcases h.isDigit_or_separator c hc with hdigit | rfl | rfl
  · exact not_isBlank_of_isDigit hdigit
  · decide
  · decide

/-! ### The number in a text -/

theorem means_iff {cs : List Char} {v : ℚ} : Means cs v ↔ Writes (trim cs) v := by
  constructor
  · rintro ⟨left, text, right, rfl, hblank, h⟩
    rw [trim_append hblank h.not_isBlank]
    exact h
  · intro h
    obtain ⟨left, right, hcs, hblank⟩ := exists_eq_trim cs
    exact ⟨left, trim cs, right, hcs, hblank, h⟩

/-- A text falls into two parts at its first separator, unless it has none. -/
theorem splitAtSeparator_cases (cs : List Char) :
    (splitAtSeparator cs = (cs, []) ∧ ∀ c ∈ cs, isSeparator c = false) ∨
      ∃ whole mark fraction, cs = whole ++ mark :: fraction ∧ isSeparator mark = true ∧
        (∀ c ∈ whole, isSeparator c = false) ∧ splitAtSeparator cs = (whole, fraction) := by
  have hbefore : ∀ c ∈ cs.takeWhile (!isSeparator ·), isSeparator c = false := by
    intro c hc
    simpa using List.mem_takeWhile_imp hc
  have hsplit := List.takeWhile_append_dropWhile (p := (!isSeparator ·)) (l := cs)
  cases hdrop : cs.dropWhile (!isSeparator ·) with
  | nil =>
    rw [hdrop, List.append_nil] at hsplit
    rw [hsplit] at hbefore
    refine .inl ⟨?_, hbefore⟩
    rw [splitAtSeparator, hdrop, hsplit]
    rfl
  | cons mark fraction =>
    rw [hdrop] at hsplit
    have hmark : isSeparator mark = true := by
      have hhead := List.head?_dropWhile_not (!isSeparator ·) cs
      rw [hdrop] at hhead
      simpa using hhead
    refine .inr ⟨_, mark, fraction, hsplit.symm, hmark, hbefore, ?_⟩
    rw [splitAtSeparator, hdrop]
    rfl

theorem splitAtSeparator_of_digits {cs : List Char} (h : allDigits cs = true) :
    splitAtSeparator cs = (cs, []) := by
  rcases splitAtSeparator_cases cs with ⟨hsplit, -⟩ | ⟨whole, mark, fraction, rfl, hmark, -, -⟩
  · exact hsplit
  · have hdigit : mark.isDigit = true := allDigits_iff.mp h mark (by simp)
    rw [not_isSeparator_of_isDigit hdigit] at hmark
    cases hmark

theorem splitAtSeparator_append {whole fraction : List Char} {mark : Char}
    (h : allDigits whole = true) (hmark : isSeparator mark = true) :
    splitAtSeparator (whole ++ mark :: fraction) = (whole, fraction) := by
  have hbefore : ∀ c ∈ whole, (!isSeparator c) = true := by
    intro c hc
    rw [not_isSeparator_of_isDigit (allDigits_iff.mp h c hc)]
    rfl
  have hstop : ∀ c ∈ (mark :: fraction).head?, (!isSeparator c) = false := by simp [hmark]
  rw [splitAtSeparator, takeWhile_append_stop hbefore hstop, dropWhile_append_stop hbefore hstop]
  rfl

/-- Digits and at most one separator write a number, if there is a digit. -/
theorem exists_writes {text : List Char}
    (hall : ∀ c ∈ text, c.isDigit = true ∨ c = '.' ∨ c = ',') (hcount : text.countP isSeparator ≤ 1)
    (hdigit : ∃ c ∈ text, c.isDigit = true) : ∃ v, Writes text v := by
  obtain ⟨c, hc, hdigit⟩ := hdigit
  have hplain : ∀ d ∈ text, isSeparator d = false → d.isDigit = true := by
    intro d hd hno
    refine (hall d hd).resolve_right fun hmark => ?_
    rw [(isSeparator_iff d).2 hmark] at hno
    cases hno
  rcases splitAtSeparator_cases text with
    ⟨-, hbare⟩ | ⟨whole, mark, fraction, rfl, hmark, hbefore, -⟩
  · exact ⟨_, .whole (List.ne_nil_of_mem hc)
      (allDigits_iff.mpr fun d hd => hplain d hd (hbare d hd))⟩
  · -- a second separator would be one too many
    have hafter : ∀ d ∈ fraction, isSeparator d = false := by
      rw [List.countP_append, List.countP_cons_of_pos hmark] at hcount
      have hzero : fraction.countP isSeparator = 0 := by omega
      intro d hd
      simpa using List.countP_eq_zero.mp hzero d hd
    have hnonempty : whole ++ fraction ≠ [] := by
      intro hempty
      obtain ⟨rfl, rfl⟩ := List.append_eq_nil_iff.mp hempty
      rw [List.nil_append, List.mem_singleton] at hc
      rw [← hc, not_isSeparator_of_isDigit hdigit] at hmark
      cases hmark
    refine ⟨_, .separated ((isSeparator_iff mark).1 hmark) hnonempty ?_⟩
    apply allDigits_iff.mpr
    intro d hd
    rcases List.mem_append.mp hd with hd | hd
    · exact hplain d (by simp [hd]) (hbefore d hd)
    · exact hplain d (by simp [hd]) (hafter d hd)

/-- Whether a text writes a number, and which, is told from its two parts. -/
theorem writes_iff {text whole fraction : List Char} {v : ℚ}
    (h : splitAtSeparator text = (whole, fraction)) :
    Writes text v ↔ whole ++ fraction ≠ [] ∧ allDigits (whole ++ fraction) = true ∧
      v = valueOfDigits whole + fractionValue fraction := by
  constructor
  · intro hw
    cases hw with
    | whole nonempty plain =>
      rw [splitAtSeparator_of_digits plain] at h
      obtain ⟨rfl, rfl⟩ := Prod.mk.inj h
      simp [nonempty, plain, fractionValue]
    | separated separator nonempty plain =>
      have hwhole := (allDigits_append.mp plain).1
      rw [splitAtSeparator_append hwhole ((isSeparator_iff _).2 separator)] at h
      obtain ⟨rfl, rfl⟩ := Prod.mk.inj h
      exact ⟨nonempty, plain, rfl⟩
  · rintro ⟨nonempty, plain, rfl⟩
    rcases splitAtSeparator_cases text with ⟨hsplit, -⟩ | ⟨w, mark, f, rfl, hmark, -, hsplit⟩
    · obtain ⟨rfl, rfl⟩ := Prod.mk.inj (hsplit.symm.trans h)
      rw [List.append_nil] at nonempty plain
      have hvalue : (valueOfDigits text + fractionValue [] : ℚ) = valueOfDigits text := by
        rw [fractionValue, add_zero]
      rw [hvalue]
      exact .whole nonempty plain
    · obtain ⟨rfl, rfl⟩ := Prod.mk.inj (hsplit.symm.trans h)
      exact .separated ((isSeparator_iff mark).1 hmark) nonempty plain

/-! ## The steps and the whole -/

/-- What digits count for, the first for the given place. -/
def countedFrom (place : Nat) : List Char → Nat
  | [] => 0
  | c :: cs => digitValue c * place + countedFrom (place / 10) cs

theorem addDigits?_eq (total : Counter) (place : Nat) (digits : List Char) :
    addDigits? total place digits = Counter.ofNat? (total.value + countedFrom place digits) := by
  induction digits generalizing total place with
  | nil => exact (Counter.ofNat?_value total).symm
  | cons c cs ih =>
    -- the sum with the first digit is on the way to the sum with all of them
    refine Counter.ofNat?_bind (by rw [countedFrom]; omega) fun a ha => ?_
    rw [ih, ha, countedFrom, Nat.add_assoc]

theorem countedFrom_hundred (fraction : List Char) :
    countedFrom 100 (fraction.take places.length) = fractionThousandths fraction := by
  match fraction with
  | [] => rfl
  | [a] => rfl
  | [a, b] => rfl
  | a :: b :: c :: rest => simp [countedFrom, fractionThousandths, places]

theorem addRounding?_eq (total : Counter) (fraction : List Char) :
    addRounding? total fraction = Counter.ofNat? (total.value + roundingThousandth fraction) := by
  unfold addRounding? roundingThousandth
  split
  · split
    · rfl
    · exact (Counter.ofNat?_value total).symm
  · exact (Counter.ofNat?_value total).symm

theorem wholePart?_eq {whole : List Char} (h : allDigits whole = true) :
    wholePart? whole = Counter.ofNat? (valueOfDigits whole) := by
  cases whole with
  | nil => rfl
  | cons c cs => exact readWhole?_eq (List.cons_ne_nil c cs) h

/-- A number of thousandths fits at every step exactly if all of them fit at the end. -/
theorem thousandths?_eq {whole : List Char} (h : allDigits whole = true) (fraction : List Char) :
    thousandths? whole fraction = Counter.ofNat? (exactThousandths whole fraction) := by
  have htotal : exactThousandths whole fraction =
      valueOfDigits whole * 1000 + countedFrom 100 (fraction.take places.length) +
        roundingThousandth fraction := by
    rw [countedFrom_hundred, exactThousandths]
  unfold thousandths?
  rw [wholePart?_eq h, htotal]
  refine Counter.ofNat?_bind (by omega) fun seconds hwhole => ?_
  refine Counter.ofNat?_bind (by omega) fun total hthousandfold => ?_
  rw [addDigits?_eq, hthousandfold, hwhole]
  refine Counter.ofNat?_bind (by omega) fun total hdigits => ?_
  rw [addRounding?_eq, hdigits]

/-! ## Rounding -/

theorem fractionValue_bounds {digits : List Char} (h : allDigits digits = true) :
    0 ≤ fractionValue digits ∧ fractionValue digits < 1 := by
  induction digits with
  | nil => simp [fractionValue]
  | cons c cs ih =>
    obtain ⟨hc, hcs⟩ := List.forall_mem_cons.mp (allDigits_iff.mp h)
    obtain ⟨hnonneg, hlt⟩ := ih (allDigits_iff.mpr hcs)
    have hdigit : (digitValue c : ℚ) ≤ 9 := by exact_mod_cast digitValue_le hc
    have hpos : (0 : ℚ) ≤ digitValue c := Nat.cast_nonneg _
    rw [fractionValue]
    constructor <;> linarith

/-- Of what is left behind the third place, the first digit decides. -/
theorem floor_fractionValue {fraction : List Char}
    (h : allDigits (fraction.drop places.length) = true) :
    ⌊fractionValue (fraction.drop places.length) + 1 / 2⌋ = roundingThousandth fraction := by
  have hhead : fraction[places.length]? = (fraction.drop places.length).head? :=
    List.head?_drop.symm
  rw [roundingThousandth, hhead]
  generalize fraction.drop places.length = digits at h ⊢
  cases digits with
  | nil => norm_num [fractionValue]
  | cons c cs =>
    obtain ⟨hc, hcs⟩ := List.forall_mem_cons.mp (allDigits_iff.mp h)
    obtain ⟨hnonneg, hlt⟩ := fractionValue_bounds (allDigits_iff.mpr hcs)
    have hfive : '5' ≤ c ↔ 5 ≤ digitValue c := by
      have hle : '5' ≤ c ↔ 53 ≤ c.toNat := UInt32.le_iff_toNat_le
      rw [hle, toNat_of_isDigit hc]
      omega
    show ⌊(digitValue c + fractionValue cs) / 10 + 1 / 2⌋ = ((if '5' ≤ c then 1 else 0 : ℕ) : ℤ)
    rw [Int.floor_eq_iff]
    split
    · next hup =>
      have hlow : (5 : ℚ) ≤ digitValue c := by exact_mod_cast hfive.mp hup
      have hhigh : (digitValue c : ℚ) ≤ 9 := by exact_mod_cast digitValue_le hc
      constructor <;> push_cast <;> linarith
    · next hdown =>
      have hfour : digitValue c ≤ 4 := by
        rw [hfive] at hdown
        omega
      have hlow : (0 : ℚ) ≤ digitValue c := Nat.cast_nonneg _
      have hhigh : (digitValue c : ℚ) ≤ 4 := by exact_mod_cast hfour
      constructor <;> push_cast <;> linarith

/-- The first three places are thousandths in full, and what is left is behind them. -/
theorem fractionValue_eq (fraction : List Char) :
    1000 * fractionValue fraction =
      fractionThousandths fraction + fractionValue (fraction.drop places.length) := by
  match fraction with
  | [] => simp [fractionThousandths, fractionValue]
  | [a] =>
    simp [fractionThousandths, fractionValue, places]
    ring
  | [a, b] =>
    simp [fractionThousandths, fractionValue, places]
    ring
  | a :: b :: c :: rest =>
    simp [fractionThousandths, fractionValue, places]
    ring

/-- The thousandths of a number are those nearest to its exact value, halves going up. -/
theorem exactThousandths_eq_floor {fraction : List Char} (h : allDigits fraction = true)
    (whole : List Char) :
    (exactThousandths whole fraction : ℤ) =
      ⌊1000 * (valueOfDigits whole + fractionValue fraction) + 1 / 2⌋ := by
  have hrest : allDigits (fraction.drop places.length) = true :=
    allDigits_iff.mpr fun c hc => allDigits_iff.mp h c (List.mem_of_mem_drop hc)
  have hsum : 1000 * (valueOfDigits whole + fractionValue fraction) + 1 / 2 =
      ((valueOfDigits whole * 1000 + fractionThousandths fraction : ℕ) : ℚ) +
        (fractionValue (fraction.drop places.length) + 1 / 2) := by
    rw [mul_add, fractionValue_eq]
    push_cast
    ring
  rw [hsum, Int.floor_natCast_add, floor_fractionValue hrest, exactThousandths]
  push_cast
  ring

/-! ## The law of reading -/

/-- A text is read as its thousandths if its two parts are digits and the thousandths fit. -/
theorem readDecimal?_eq_some_of_parts {cs whole fraction : List Char} {d : Decimal}
    (h : splitAtSeparator (trim cs) = (whole, fraction)) :
    readDecimal? cs = some d ↔ whole ++ fraction ≠ [] ∧ allDigits (whole ++ fraction) = true ∧
      d.thousandths.value = exactThousandths whole fraction := by
  unfold readDecimal?
  rw [h, allDigits_append]
  dsimp only
  split
  · next hempty =>
    simp only [Bool.and_eq_true, List.isEmpty_iff] at hempty
    simp [hempty.1, hempty.2]
  · next hnonempty =>
    have hdigit : whole ++ fraction ≠ [] := by
      intro hnone
      obtain ⟨rfl, rfl⟩ := List.append_eq_nil_iff.mp hnone
      exact hnonempty rfl
    split
    · next hother =>
      have hno : ¬ (allDigits whole = true ∧ allDigits fraction = true) := by
        simpa [Bool.or_eq_true, imp_iff_not_or] using hother
      simp [hno]
    · next hplain =>
      have hparts : allDigits whole = true ∧ allDigits fraction = true := by
        simpa using hplain
      rw [thousandths?_eq hparts.1, Option.map_eq_some_iff]
      simp only [Counter.ofNat?_eq_some_iff, ne_eq, hdigit, not_false_eq_true, hparts, and_self,
        true_and]
      constructor
      · rintro ⟨n, hn, rfl⟩
        exact hn
      · exact fun hvalue => ⟨d.thousandths, hvalue, rfl⟩

theorem readDecimal?_eq_some_iff {cs : List Char} {d : Decimal} :
    readDecimal? cs = some d ↔
      ∃ v, Means cs v ∧ (d.thousandths.value : ℤ) = ⌊1000 * v + 1 / 2⌋ := by
  rcases hparts : splitAtSeparator (trim cs) with ⟨whole, fraction⟩
  rw [readDecimal?_eq_some_of_parts hparts]
  simp only [means_iff, writes_iff hparts]
  constructor
  · rintro ⟨hdigit, hplain, hvalue⟩
    refine ⟨_, ⟨hdigit, hplain, rfl⟩, ?_⟩
    rw [hvalue, exactThousandths_eq_floor (allDigits_append.mp hplain).2]
  · rintro ⟨v, ⟨hdigit, hplain, rfl⟩, hfloor⟩
    rw [← exactThousandths_eq_floor (allDigits_append.mp hplain).2] at hfloor
    exact ⟨hdigit, hplain, by exact_mod_cast hfloor⟩

theorem Means.unique {cs : List Char} {v w : ℚ} (hv : Means cs v) (hw : Means cs w) : v = w := by
  rcases hparts : splitAtSeparator (trim cs) with ⟨whole, fraction⟩
  rw [means_iff, writes_iff hparts] at hv hw
  rw [hv.2.2, hw.2.2]

theorem Means.floor_nonneg {cs : List Char} {v : ℚ} (h : Means cs v) :
    0 ≤ ⌊1000 * v + 1 / 2⌋ := by
  rcases hparts : splitAtSeparator (trim cs) with ⟨whole, fraction⟩
  rw [means_iff, writes_iff hparts] at h
  obtain ⟨-, hplain, rfl⟩ := h
  rw [← exactThousandths_eq_floor (allDigits_append.mp hplain).2]
  exact Int.natCast_nonneg _

/-- The texts that mean a number, by their characters. -/
theorem exists_means_iff {cs : List Char} :
    (∃ v, Means cs v) ↔
      (∀ c ∈ trim cs, c.isDigit = true ∨ c = '.' ∨ c = ',') ∧
        (trim cs).countP isSeparator ≤ 1 ∧ ∃ c ∈ trim cs, c.isDigit = true := by
  simp only [means_iff]
  constructor
  · rintro ⟨v, h⟩
    exact ⟨h.isDigit_or_separator, h.countP_isSeparator_le, h.exists_isDigit⟩
  · rintro ⟨hall, hcount, c, hc, hdigit⟩
    exact exists_writes hall hcount ⟨c, hc, hdigit⟩

/-- A text is read exactly if it means a number whose nearest thousandth fits in a counter,
halves going up, and it is read as this thousandth. A text means at most one number; it
means one exactly if, without the blanks at its ends, it consists of digits, at least one,
and of at most one separator. -/
theorem readDecimal?_nearest_thousandth (cs : List Char) :
    ((∃ d, readDecimal? cs = some d) ↔
      ∃ v, Means cs v ∧ ⌊1000 * v + 1 / 2⌋ ≤ (2 ^ 64 - 1 : ℤ)) ∧
    (∀ d v, readDecimal? cs = some d → Means cs v →
      (d.thousandths.value : ℤ) = ⌊1000 * v + 1 / 2⌋) ∧
    (∀ v w, Means cs v → Means cs w → v = w) ∧
    ((∃ v, Means cs v) ↔
      (∀ c ∈ trim cs, c.isDigit = true ∨ c = '.' ∨ c = ',') ∧
        (trim cs).countP isSeparator ≤ 1 ∧ ∃ c ∈ trim cs, c.isDigit = true) := by
  refine ⟨?_, ?_, fun v w => Means.unique, exists_means_iff⟩
  · constructor
    · rintro ⟨d, hd⟩
      obtain ⟨v, hv, hfloor⟩ := readDecimal?_eq_some_iff.mp hd
      have hle : d.thousandths.value ≤ 18446744073709551615 := d.thousandths.value_le
      exact ⟨v, hv, by omega⟩
    · rintro ⟨v, hv, hle⟩
      have hnonneg := hv.floor_nonneg
      let n : Counter := ⟨⌊1000 * v + 1 / 2⌋.toNat, by omega⟩
      have hn : (n.value : ℤ) = ⌊1000 * v + 1 / 2⌋ := Int.toNat_of_nonneg hnonneg
      exact ⟨⟨n⟩, readDecimal?_eq_some_iff.mpr ⟨v, hv, hn⟩⟩
  · intro d v hd hv
    obtain ⟨w, hw, hfloor⟩ := readDecimal?_eq_some_iff.mp hd
    rw [hfloor, hw.unique hv]

/-- The largest number that is read lies just below a half, and that half goes up to one too
many. -/
example :
    (readDecimal? "18446744073709551,61549".toList).map (·.thousandths.value) =
        some 18446744073709551615 ∧
      readDecimal? "18446744073709551.6155".toList = none := by decide

end TestRollup.Number
