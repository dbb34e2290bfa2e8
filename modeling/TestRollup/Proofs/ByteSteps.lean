import Mathlib.Control.Monad.Writer
import Mathlib.Tactic.SplitIfs
import TestRollup.Proofs.DecimalValue
import TestRollup.Text.Bytes

/- Decimal numbers read by their bytes. A text in store is a row of bytes, and `readBytes`
   reads a decimal number from it as a machine does: it looks for the byte where the
   separator begins, cuts the text there and one byte further on, takes the byte of `0` off
   the bytes of digits, and multiplies in 64 bits.

   Guards stand in front of some of these steps and refuse the text. In front of others, the
   bare steps, stands nothing: a cut inside a character, a byte below that of `0` or a product
   beyond 64 bits would break the run. So a run notes its bare steps, and ends in a value, at
   a guard or at a step that broke it. `Run.Safe` says of a run that its steps are sound and
   that it ends as it may; it is kept by doing one thing after the other.

   Bare steps are sound because of what was found out earlier: both cuts fall on the ends of
   the separator, which is one byte, and whatever is behind the guard for digits is a byte of
   a digit (`all_isDigitByte_bytes`), never a part of a longer character. `readBytes_never_breaks`
   puts this together: nothing breaks a run, the outcome is that of `readDecimal?`, and each
   guard refuses the numbers that fail at it and no others. -/
namespace TestRollup.Number

open Text (trim bytes byteCount takeBytes? dropBytes? takeBytes?_byteCount_append
  dropBytes?_byteCount_append exists_takeBytes?_iff exists_dropBytes?_iff)

/-! ## Runs -/

/-- A step that no guard stands in front of. -/
inductive BareStep where
  /-- The text is cut behind so many bytes. -/
  | cut (position : Nat)
  /-- The byte of `0` is taken off a byte. -/
  | lessZero (byte : UInt8)
  /-- A digit is multiplied by what its place counts for. -/
  | times (digit place : Nat)

/-- The guards, in the order in which a text meets them. -/
inductive Guard where
  /-- There is something before or behind the separator. -/
  | nonempty
  /-- There are only digits there. -/
  | digits
  /-- The number before the separator fits. -/
  | wholePart
  /-- A thousand times that number fits. -/
  | thousandfold
  /-- The sum fits with each digit behind the separator. -/
  | sum
  /-- The thousandth fits that rounding adds. -/
  | rounding

/-- Where a run ends that comes to no value. -/
inductive Stop where
  | refused (guard : Guard)
  | broken (step : BareStep)

/-- A run comes to a value or a stop, and notes the bare steps on the way. -/
abbrev Run := ExceptT Stop (Writer (List BareStep))

namespace Run

variable {α β : Type}

def outcome (x : Run α) : Except Stop α := x.run.run.1

/-- The bare steps of a run; the last may be the one that broke it. -/
def steps (x : Run α) : List BareStep := x.run.run.2

/-- Makes a bare step. Without a result it breaks the run. -/
def make (step : BareStep) (result : Option α) : Run α := do
  ExceptT.lift (tell [step])
  match result with
  | some a => pure a
  | none => throw (.broken step)

/-- Goes on with what a guard lets through. -/
def check (guard : Guard) (result : Option α) : Run α :=
  match result with
  | some a => pure a
  | none => throw (.refused guard)

theorem bind_of_ok {x : Run α} {a : α} (h : x.outcome = .ok a) (f : α → Run β) :
    (x >>= f).outcome = (f a).outcome ∧ (x >>= f).steps = x.steps ++ (f a).steps := by
  obtain ⟨outcome, steps⟩ := x
  cases h
  exact ⟨rfl, rfl⟩

theorem bind_of_error {x : Run α} {stop : Stop} (h : x.outcome = .error stop) (f : α → Run β) :
    (x >>= f).outcome = .error stop ∧ (x >>= f).steps = x.steps := by
  obtain ⟨outcome, steps⟩ := x
  cases h
  exact ⟨rfl, List.append_nil steps⟩

end Run

open Run (make check)

/-! ## The reader -/

/-- What is left of a byte without the byte of `0`, unless that falls below nothing. -/
def lessZero? (byte : UInt8) : Option Nat :=
  if '0'.toUInt8 ≤ byte then some (byte.toNat - '0'.toNat) else none

/-- The product of two numbers, if it fits in 64 bits. -/
def product? (a b : Nat) : Option Nat := if a * b ≤ Counter.ceiling then some (a * b) else none

/-- The byte of an ASCII digit. -/
def isDigitByte (byte : UInt8) : Bool := '0'.toUInt8 ≤ byte && byte ≤ '9'.toUInt8

/-- Behind how many bytes the first separator begins. -/
def separatorPosition? : List Char → Option Nat
  | [] => none
  | c :: cs => if isSeparator c then some 0 else (separatorPosition? cs).map (c.utf8Size + ·)

/-- Cuts a text where its first separator begins and one byte further on. -/
def cutAtSeparator (text : List Char) : Run (List Char × List Char) :=
  match separatorPosition? text with
  | none => pure (text, [])
  | some position => do
    let whole ← make (.cut position) (takeBytes? position text)
    let fraction ← make (.cut (position + 1)) (dropBytes? (position + 1) text)
    pure (whole, fraction)

/-- Adds digits to a number of thousandths, the first for the given place and each for a
tenth of the place before it. -/
def addBytes (total : Counter) (place : Nat) : List UInt8 → Run Counter
  | [] => pure total
  | byte :: rest => do
    let digit ← make (.lessZero byte) (lessZero? byte)
    let product ← make (.times digit place) (product? digit place)
    let total ← check .sum (total.add? product)
    addBytes total (place / 10) rest

/-- Adds one thousandth for a digit of five or more behind the last place. -/
def addRoundingByte (total : Counter) (digits : List UInt8) : Run Counter :=
  match digits[places.length]? with
  | some byte => if '5'.toUInt8 ≤ byte then check .rounding (total.add? 1) else pure total
  | none => pure total

/-- The thousandths of a number with the given digits before and behind the separator. -/
def thousandthsOfBytes (whole : List Char) (digits : List UInt8) : Run Counter := do
  let seconds ← check .wholePart (wholePart? whole)
  let total ← check .thousandfold (seconds.mul? 1000)
  let total ← addBytes total 100 (digits.take places.length)
  addRoundingByte total digits

/-- Reads a decimal number by its bytes. -/
def readBytes (cs : List Char) : Run Decimal := do
  let (whole, fraction) ← cutAtSeparator (trim cs)
  if whole.isEmpty && fraction.isEmpty then throw (.refused .nonempty)
  else if !(bytes whole).all isDigitByte || !(bytes fraction).all isDigitByte then
    throw (.refused .digits)
  else do
    let total ← thousandthsOfBytes whole (bytes fraction)
    pure ⟨total⟩

/-! ## Steps and guards by what they stand for -/

/-- A bare step is sound: a cut falls on the end of a character of the text or on its start,
the byte of `0` is taken off the byte of an ASCII digit, and a product is small, its place
being one of the three that are kept. -/
def BareStep.Sound (text : List Char) : BareStep → Prop
  | .cut position => String.Pos.Raw.IsValid (String.ofList text) ⟨position⟩
  | .lessZero byte => '0'.toUInt8 ≤ byte ∧ byte ≤ '9'.toUInt8
  | .times digit place => digit * place ≤ 900 ∧ place ∈ [100, 10, 1]

/-- There are digits before or behind the separator, and nothing else. -/
def Plain (whole fraction : List Char) : Prop :=
  whole ++ fraction ≠ [] ∧ allDigits (whole ++ fraction) = true

/-- Which numbers a guard refuses, by their parts. Two guards look at what is written. Each of
the others looks at one number on the way to the thousandths: it is too large, and the one
before it was not. -/
def Guard.Rejects (whole fraction : List Char) : Guard → Prop
  | .nonempty => whole ++ fraction = []
  | .digits => allDigits (whole ++ fraction) = false
  | .wholePart => Plain whole fraction ∧ Counter.ceiling < valueOfDigits whole
  | .thousandfold => Plain whole fraction ∧ valueOfDigits whole ≤ Counter.ceiling ∧
      Counter.ceiling < valueOfDigits whole * 1000
  | .sum => Plain whole fraction ∧ valueOfDigits whole * 1000 ≤ Counter.ceiling ∧
      Counter.ceiling < valueOfDigits whole * 1000 + fractionThousandths fraction
  | .rounding => Plain whole fraction ∧
      valueOfDigits whole * 1000 + fractionThousandths fraction ≤ Counter.ceiling ∧
      Counter.ceiling < exactThousandths whole fraction

/-- The cuts before and behind the first separator, if there is one. -/
def cutSteps (text : List Char) : List BareStep :=
  let before := byteCount (splitAtSeparator text).1
  if text.any isSeparator then [.cut before, .cut (before + 1)] else []

/-- The steps for a digit and its place. -/
def digitSteps (digit : UInt8 × Nat) : List BareStep :=
  [.lessZero digit.1, .times (digit.1.toNat - '0'.toNat) digit.2]

/-- The bare steps on the way to a value: the cuts, and then those for the first three digits
behind the separator, with the places in turn. -/
def bareSteps (text : List Char) : List BareStep :=
  cutSteps text ++
    (((bytes (splitAtSeparator text).2).take places.length).zip places).flatMap digitSteps

/-! ## Safe runs -/

/-- A run is safe on a text: its bare steps are sound and none breaks it, a guard refuses only
what it may, and the steps and the value of a run that is not stopped are as they are to be. -/
structure Run.Safe {α : Type} (text : List Char) (refuses : Guard → Prop)
    (gives : List BareStep → α → Prop) (x : Run α) : Prop where
  sound : ∀ step ∈ x.steps, step.Sound text
  unbroken : ∀ step, x.outcome ≠ .error (.broken step)
  refuses : ∀ guard, x.outcome = .error (.refused guard) → refuses guard
  gives : ∀ a, x.outcome = .ok a → gives x.steps a

namespace Run.Safe

variable {α β : Type} {text : List Char} {refuses : Guard → Prop}

theorem pure' {gives : List BareStep → α → Prop} {a : α} (h : gives [] a) :
    Safe text refuses gives (pure a : Run α) where
  sound := fun _ hstep => absurd hstep List.not_mem_nil
  unbroken := by
    intro _ hbroken
    cases hbroken
  refuses := by
    intro _ hrefused
    cases hrefused
  gives := by
    intro b hb
    cases hb
    exact h

theorem refuse {gives : List BareStep → α → Prop} {guard : Guard} (h : refuses guard) :
    Safe text refuses gives (throw (.refused guard) : Run α) where
  sound := fun _ hstep => absurd hstep List.not_mem_nil
  unbroken := by
    intro _ hbroken
    cases hbroken
  refuses := by
    intro other hother
    cases hother
    exact h
  gives := by
    intro _ ha
    cases ha

theorem make' {step : BareStep} {result : Option α} {a : α} (hsound : step.Sound text)
    (hresult : result = some a) :
    Safe text refuses (fun steps b => steps = [step] ∧ b = a) (make step result) := by
  subst hresult
  refine ⟨?_, ?_, ?_, ?_⟩
  · intro other hother
    rw [List.mem_singleton.mp hother]
    exact hsound
  · intro _ hbroken
    cases hbroken
  · intro _ hrefused
    cases hrefused
  · intro b hb
    cases hb
    exact ⟨rfl, rfl⟩

theorem check' {gives : List BareStep → α → Prop} {guard : Guard} {result : Option α}
    (hnone : result = none → refuses guard) (hsome : ∀ a, result = some a → gives [] a) :
    Safe text refuses gives (check guard result) := by
  cases result with
  | none => exact refuse (hnone rfl)
  | some a => exact pure' (hsome a rfl)

theorem mono {gives gives' : List BareStep → α → Prop} {x : Run α}
    (hx : Safe text refuses gives x) (h : ∀ steps a, gives steps a → gives' steps a) :
    Safe text refuses gives' x :=
  ⟨hx.sound, hx.unbroken, hx.refuses, fun a ha => h x.steps a (hx.gives a ha)⟩

/-- What follows a safe run is only entered with what the run gives. -/
theorem bind' {before : List BareStep → α → Prop} {gives : List BareStep → β → Prop} {x : Run α}
    {f : α → Run β} (hx : Safe text refuses before x)
    (hf : ∀ steps a, before steps a → Safe text refuses (fun more => gives (steps ++ more)) (f a)) :
    Safe text refuses gives (x >>= f) := by
  cases h : x.outcome with
  | error stop =>
    obtain ⟨houtcome, hsteps⟩ := bind_of_error h f
    refine ⟨?_, ?_, ?_, ?_⟩
    · rw [hsteps]
      exact hx.sound
    · intro step hbroken
      cases houtcome.symm.trans hbroken
      exact hx.unbroken step h
    · intro guard hrefused
      cases houtcome.symm.trans hrefused
      exact hx.refuses guard h
    · intro a ha
      cases houtcome.symm.trans ha
  | ok a =>
    obtain ⟨houtcome, hsteps⟩ := bind_of_ok h f
    have hrest := hf x.steps a (hx.gives a h)
    refine ⟨?_, ?_, ?_, ?_⟩
    · rw [hsteps]
      intro step hstep
      exact (List.mem_append.mp hstep).elim (hx.sound step) (hrest.sound step)
    · rw [houtcome]
      exact hrest.unbroken
    · rw [houtcome]
      exact hrest.refuses
    · rw [houtcome, hsteps]
      exact hrest.gives

/-- A sound bare step that has a result leads on to what follows. -/
theorem bind_make {gives : List BareStep → β → Prop} {step : BareStep} {result : Option α} {a : α}
    {f : α → Run β} (hsound : step.Sound text) (hresult : result = some a)
    (hf : Safe text refuses (fun more => gives (step :: more)) (f a)) :
    Safe text refuses gives (make step result >>= f) := by
  refine bind' (make' hsound hresult) fun steps b hgives => ?_
  obtain ⟨rfl, rfl⟩ := hgives
  exact hf

theorem bind_check {gives : List BareStep → β → Prop} {guard : Guard} {result : Option α}
    {f : α → Run β} (hnone : result = none → refuses guard)
    (hf : ∀ a, result = some a → Safe text refuses gives (f a)) :
    Safe text refuses gives (check guard result >>= f) := by
  have hcheck : Safe text refuses (fun steps a => steps = [] ∧ result = some a)
      (check guard result) := check' hnone fun a ha => ⟨rfl, ha⟩
  refine bind' hcheck fun steps a hgives => ?_
  obtain ⟨rfl, ha⟩ := hgives
  exact hf a ha

end Run.Safe

/-! ## Digits as bytes -/

theorem isDigitByte_iff {byte : UInt8} :
    isDigitByte byte = true ↔ 48 ≤ byte.toNat ∧ byte.toNat ≤ 57 := by
  simp only [isDigitByte, Bool.and_eq_true, decide_eq_true_eq, UInt8.le_iff_toNat_le]
  rfl

/-- All bytes of a character are bytes of digits exactly if it is a digit. -/
theorem all_isDigitByte_utf8EncodeChar (c : Char) :
    (String.utf8EncodeChar c).all isDigitByte = c.isDigit := by
  have hnat : c.val.toNat = c.toNat := rfl
  have hdigit : c.isDigit = true ↔ 48 ≤ c.toNat ∧ c.toNat ≤ 57 := Char.isDigit_iff_toNat
  rw [Bool.eq_iff_iff, hdigit, String.utf8EncodeChar]
  simp only [hnat]
  -- a character of several bytes begins with one beyond those of the digits
  split_ifs <;>
    simp only [List.all_cons, List.all_nil, Bool.and_true, Bool.and_eq_true, isDigitByte_iff,
      UInt8.toNat_ofNat'] <;>
    omega

theorem all_isDigitByte_bytes (cs : List Char) : (bytes cs).all isDigitByte = allDigits cs := by
  simp only [bytes, List.all_flatMap, all_isDigitByte_utf8EncodeChar, allDigits]

theorem utf8EncodeChar_of_isDigit {c : Char} (h : c.isDigit = true) :
    String.utf8EncodeChar c = [c.toUInt8] := by
  have hascii : c.toNat ≤ 127 := (Char.isDigit_iff_toNat.mp h).2.trans (by decide)
  have hsize : c.utf8Size = 1 := Char.utf8Size_eq_one_iff.mpr (UInt32.le_iff_toNat_le.mpr hascii)
  exact String.utf8EncodeChar_eq_singleton hsize

theorem bytes_of_digits {cs : List Char} (h : allDigits cs = true) :
    bytes cs = cs.map Char.toUInt8 := by
  rw [bytes, List.map_eq_flatMap]
  exact List.flatMap_congr fun c hc => utf8EncodeChar_of_isDigit (allDigits_iff.mp h c hc)

theorem toNat_toUInt8_of_isDigit {c : Char} (h : c.isDigit = true) :
    c.toUInt8.toNat = c.toNat := by
  have hsmall : c.toNat ≤ 57 := (Char.isDigit_iff_toNat.mp h).2
  exact Nat.mod_eq_of_lt (hsmall.trans_lt (by decide))

theorem sound_lessZero {c : Char} (h : c.isDigit = true) (text : List Char) :
    (BareStep.lessZero c.toUInt8).Sound text := by
  have hbyte : isDigitByte c.toUInt8 = true := by
    rw [isDigitByte_iff, toNat_toUInt8_of_isDigit h]
    exact Char.isDigit_iff_toNat.mp h
  rw [isDigitByte, Bool.and_eq_true, decide_eq_true_eq, decide_eq_true_eq] at hbyte
  exact hbyte

theorem lessZero?_of_isDigit {c : Char} (h : c.isDigit = true) :
    lessZero? c.toUInt8 = some (digitValue c) := by
  rw [lessZero?, if_pos (sound_lessZero h []).1, toNat_toUInt8_of_isDigit h]
  rfl

theorem five_le_toUInt8_iff {c : Char} (h : c.isDigit = true) :
    '5'.toUInt8 ≤ c.toUInt8 ↔ '5' ≤ c := by
  have hchar : '5' ≤ c ↔ 53 ≤ c.toNat := UInt32.le_iff_toNat_le
  have hbyte : '5'.toUInt8 ≤ c.toUInt8 ↔ 53 ≤ c.toUInt8.toNat := UInt8.le_iff_toNat_le
  rw [hchar, hbyte, toNat_toUInt8_of_isDigit h]

theorem digitSteps_of_isDigit {c : Char} (h : c.isDigit = true) (place : Nat) :
    digitSteps (c.toUInt8, place) = [.lessZero c.toUInt8, .times (digitValue c) place] := by
  rw [digitSteps, toNat_toUInt8_of_isDigit h]
  rfl

/-! ## The cuts -/

theorem separatorPosition?_of_bare {text : List Char} (h : ∀ c ∈ text, isSeparator c = false) :
    separatorPosition? text = none := by
  induction text with
  | nil => rfl
  | cons c cs ih =>
    obtain ⟨hc, hcs⟩ := List.forall_mem_cons.mp h
    simp [separatorPosition?, hc, ih hcs]

/-- The first separator begins behind the bytes of what stands before it. -/
theorem separatorPosition?_append {whole fraction : List Char} {mark : Char}
    (h : ∀ c ∈ whole, isSeparator c = false) (hmark : isSeparator mark = true) :
    separatorPosition? (whole ++ mark :: fraction) = some (byteCount whole) := by
  induction whole with
  | nil => simp [separatorPosition?, hmark, byteCount]
  | cons c cs ih =>
    obtain ⟨hc, hcs⟩ := List.forall_mem_cons.mp h
    simp [separatorPosition?, hc, ih hcs, byteCount]

theorem byteCount_mark {mark : Char} (h : isSeparator mark = true) : byteCount [mark] = 1 := by
  rcases (isSeparator_iff mark).mp h with rfl | rfl <;> rfl

theorem safe_cutAtSeparator (text : List Char) (refuses : Guard → Prop) :
    Run.Safe text refuses (fun steps parts => steps = cutSteps text ∧ parts = splitAtSeparator text)
      (cutAtSeparator text) := by
  rcases splitAtSeparator_cases text with
    ⟨hsplit, hbare⟩ | ⟨whole, mark, fraction, rfl, hmark, hbefore, hsplit⟩
  · have hnone : text.any isSeparator = false := by simpa using hbare
    rw [cutAtSeparator, separatorPosition?_of_bare hbare]
    refine .pure' ⟨?_, hsplit.symm⟩
    rw [cutSteps, hnone]
    rfl
  · have hsome : (whole ++ mark :: fraction).any isSeparator = true := by simp [hmark]
    have hfirst : takeBytes? (byteCount whole) (whole ++ mark :: fraction) = some whole :=
      takeBytes?_byteCount_append whole (mark :: fraction)
    -- the separator is one byte, so the second cut falls behind it
    have hsecond :
        dropBytes? (byteCount whole + 1) (whole ++ mark :: fraction) = some fraction := by
      have hdrop := dropBytes?_byteCount_append (whole ++ [mark]) fraction
      rwa [Text.byteCount_append, byteCount_mark hmark, List.append_assoc] at hdrop
    rw [cutAtSeparator, separatorPosition?_append hbefore hmark]
    refine .bind_make (exists_takeBytes?_iff.mp ⟨whole, hfirst⟩) hfirst ?_
    refine .bind_make (exists_dropBytes?_iff.mp ⟨fraction, hsecond⟩) hsecond ?_
    refine .pure' ⟨?_, hsplit.symm⟩
    rw [cutSteps, hsplit, hsome]
    rfl

/-! ## The thousandths -/

/-- One digit is taken with the first of the places that are left, and what is behind this
place is left for the other digits. -/
theorem safe_addBytes {text digits : List Char} {refuses : Guard → Prop} {left : List Nat}
    {place : Nat} {total : Counter} (hdigits : allDigits digits = true)
    (hleft : ∀ p ∈ left, p ∈ places)
    (hplace : ∀ k < digits.length, left[k]? = some (place / 10 ^ k))
    (hrefuse : Counter.ceiling < total.value + countedFrom place digits → refuses .sum) :
    Run.Safe text refuses
      (fun steps sum => steps = ((digits.map Char.toUInt8).zip left).flatMap digitSteps ∧
        sum.value = total.value + countedFrom place digits)
      (addBytes total place (digits.map Char.toUInt8)) := by
  induction digits generalizing left place total with
  | nil => exact .pure' ⟨rfl, rfl⟩
  | cons c cs ih =>
    obtain ⟨hc, hcs⟩ := List.forall_mem_cons.mp (allDigits_iff.mp hdigits)
    obtain ⟨rest, rfl⟩ : ∃ rest, left = place :: rest := by
      have hhead := hplace 0 (Nat.succ_pos _)
      rw [Nat.pow_zero, Nat.div_one, ← List.head?_eq_getElem?] at hhead
      exact List.head?_eq_some_iff.mp hhead
    obtain ⟨hmem, hrest⟩ := List.forall_mem_cons.mp hleft
    have hsmall : digitValue c * place ≤ 900 := by
      have hlarge : ∀ p ∈ places, p ≤ 100 := by decide
      exact Nat.mul_le_mul (digitValue_le hc) (hlarge place hmem)
    have hproduct : product? (digitValue c) place = some (digitValue c * place) :=
      if_pos (hsmall.trans (by decide))
    rw [List.map_cons, addBytes]
    refine .bind_make (sound_lessZero hc text) (lessZero?_of_isDigit hc) ?_
    refine .bind_make ⟨hsmall, hmem⟩ hproduct (.bind_check ?_ ?_)
    · intro hnone
      have hover := Counter.ofNat?_eq_none_iff.mp hnone
      exact hrefuse (by rw [countedFrom]; omega)
    · intro sum hsum
      have htotal : sum.value + countedFrom (place / 10) cs =
          total.value + countedFrom place (c :: cs) := by
        rw [countedFrom, Counter.ofNat?_eq_some_iff.mp hsum, Nat.add_assoc]
      have hnext : ∀ k < cs.length, rest[k]? = some (place / 10 / 10 ^ k) := by
        intro k hk
        rw [Nat.div_div_eq_div_mul, ← Nat.pow_succ', ← hplace (k + 1) (Nat.succ_lt_succ hk),
          List.getElem?_cons_succ]
      rw [← htotal] at hrefuse
      refine (ih (allDigits_iff.mpr hcs) hrest hnext hrefuse).mono fun steps last hgives => ?_
      obtain ⟨rfl, hlast⟩ := hgives
      refine ⟨?_, hlast.trans htotal⟩
      rw [List.zip_cons_cons, List.flatMap_cons, digitSteps_of_isDigit hc]
      rfl

/-- Where no guard has kept it away, a byte below those of the digits breaks the run. -/
example : (addBytes 0 100 (bytes "5.1".toList)).outcome =
    .error (.broken (.lessZero '.'.toUInt8)) := rfl

theorem safe_addRoundingByte {text fraction : List Char} {refuses : Guard → Prop} {total : Counter}
    (hdigits : allDigits fraction = true)
    (hrefuse : Counter.ceiling < total.value + roundingThousandth fraction → refuses .rounding) :
    Run.Safe text refuses
      (fun steps sum => steps = [] ∧ sum.value = total.value + roundingThousandth fraction)
      (addRoundingByte total (fraction.map Char.toUInt8)) := by
  unfold addRoundingByte
  unfold roundingThousandth at hrefuse ⊢
  rw [List.getElem?_map]
  cases hfourth : fraction[places.length]? with
  | none => exact .pure' ⟨rfl, rfl⟩
  | some c =>
    have hc := allDigits_iff.mp hdigits c (List.mem_of_getElem? hfourth)
    simp only [hfourth, Option.map_some, five_le_toUInt8_iff hc] at hrefuse ⊢
    split
    · next hup =>
      rw [if_pos hup] at hrefuse
      exact .check' (fun hnone => hrefuse (Counter.ofNat?_eq_none_iff.mp hnone))
        fun sum hsum => ⟨rfl, Counter.ofNat?_eq_some_iff.mp hsum⟩
    · exact .pure' ⟨rfl, rfl⟩

/-- A guard on the way to the thousandths refuses a number that does not fit, the one before it
having fitted. -/
theorem safe_thousandthsOfBytes {text whole fraction : List Char} (hplain : Plain whole fraction) :
    Run.Safe text (·.Rejects whole fraction)
      (fun steps sum =>
        steps = (((bytes fraction).take places.length).zip places).flatMap digitSteps ∧
          sum.value = exactThousandths whole fraction)
      (thousandthsOfBytes whole (bytes fraction)) := by
  obtain ⟨hwhole, hfraction⟩ := allDigits_append.mp hplain.2
  have htake : allDigits (fraction.take places.length) = true :=
    allDigits_iff.mpr fun c hc => allDigits_iff.mp hfraction c (List.mem_of_mem_take hc)
  have hplaces : ∀ k < (fraction.take places.length).length, places[k]? = some (100 / 10 ^ k) := by
    have hthree : ∀ k < 3, places[k]? = some (100 / 10 ^ k) := by decide
    exact fun k hk => hthree k (hk.trans_le (List.length_take_le _ _))
  rw [thousandthsOfBytes, bytes_of_digits hfraction, ← List.map_take, wholePart?_eq hwhole]
  refine .bind_check (fun hnone => ⟨hplain, Counter.ofNat?_eq_none_iff.mp hnone⟩) ?_
  intro seconds hseconds
  have hvalue := Counter.ofNat?_eq_some_iff.mp hseconds
  have hfits := hvalue ▸ seconds.value_le_ceiling
  rw [Counter.mul?, hvalue]
  refine .bind_check (fun hnone => ⟨hplain, hfits, Counter.ofNat?_eq_none_iff.mp hnone⟩) ?_
  intro thousandfold hthousandfold
  have hvalue' := Counter.ofNat?_eq_some_iff.mp hthousandfold
  have hfits' := hvalue' ▸ thousandfold.value_le_ceiling
  refine .bind' (safe_addBytes htake (fun _ hp => hp) hplaces ?_) fun steps sum hgives => ?_
  · rw [countedFrom_hundred, hvalue']
    exact fun hover => ⟨hplain, hfits', hover⟩
  · obtain ⟨rfl, hsum⟩ := hgives
    rw [countedFrom_hundred, hvalue'] at hsum
    have hfits'' := hsum ▸ sum.value_le_ceiling
    refine (safe_addRoundingByte hfraction ?_).mono fun steps last hgives => ?_
    · rw [hsum]
      exact fun hover => ⟨hplain, hfits'', hover⟩
    · obtain ⟨rfl, hlast⟩ := hgives
      refine ⟨List.append_nil _, ?_⟩
      rw [hlast, hsum, exactThousandths]

/-! ## The whole reader -/

theorem safe_readBytes {cs whole fraction : List Char}
    (h : splitAtSeparator (trim cs) = (whole, fraction)) :
    Run.Safe (trim cs) (·.Rejects whole fraction)
      (fun steps d => steps = bareSteps (trim cs) ∧ readDecimal? cs = some d) (readBytes cs) := by
  rw [readBytes]
  refine .bind' (safe_cutAtSeparator (trim cs) _) fun cuts parts hgives => ?_
  obtain ⟨rfl, hparts⟩ := hgives
  obtain rfl := hparts.trans h
  have hempty : (whole.isEmpty && fraction.isEmpty) = (whole ++ fraction).isEmpty := by
    cases whole <;> rfl
  have hother : (!allDigits whole || !allDigits fraction) = !allDigits (whole ++ fraction) := by
    rw [allDigits, allDigits, allDigits, List.all_append, Bool.not_and]
  simp only [all_isDigitByte_bytes, hempty, hother, List.isEmpty_iff, Bool.not_eq_true']
  split
  · next hnothing => exact .refuse hnothing
  · next hnonempty =>
    split
    · next hforeign => exact .refuse hforeign
    · next hdigits =>
      have hplain : Plain whole fraction := ⟨hnonempty, by simpa using hdigits⟩
      refine .bind' (safe_thousandthsOfBytes hplain) fun steps total hgives => ?_
      obtain ⟨rfl, hvalue⟩ := hgives
      refine .pure' ⟨?_, (readDecimal?_eq_some_of_parts h).mpr ⟨hplain.1, hplain.2, hvalue⟩⟩
      rw [bareSteps, h, List.append_nil]

/-- What a guard rejects is not read. -/
theorem readDecimal?_of_rejects {cs whole fraction : List Char} {guard : Guard}
    (h : splitAtSeparator (trim cs) = (whole, fraction)) (hrejects : guard.Rejects whole fraction) :
    readDecimal? cs = none := by
  rw [Option.eq_none_iff_forall_ne_some]
  intro d hd
  obtain ⟨hnonempty, hdigits, hvalue⟩ := (readDecimal?_eq_some_of_parts h).mp hd
  have hfits := d.thousandths.value_le_ceiling
  rw [hvalue, exactThousandths] at hfits
  cases guard with
  | nonempty => exact hnonempty hrejects
  | digits =>
    rw [Guard.Rejects, hdigits] at hrejects
    cases hrejects
  | wholePart | thousandfold | sum =>
    have hover := hrejects.2
    omega
  | rounding =>
    have hover := hrejects.2
    rw [exactThousandths] at hover
    omega

/-- No number is rejected by two guards. -/
theorem Guard.Rejects.unique {whole fraction : List Char} {guard other : Guard}
    (h : guard.Rejects whole fraction) (h' : other.Rejects whole fraction) : guard = other := by
  -- the numbers on the way grow, and only one of them is the first that does not fit
  cases guard <;> cases other <;> grind [Guard.Rejects, Plain, allDigits]

/-- A run gives what is read, or a guard rejects the number and there is nothing to read. -/
theorem readBytes_cases {cs whole fraction : List Char}
    (h : splitAtSeparator (trim cs) = (whole, fraction)) :
    (∃ d, (readBytes cs).outcome = .ok d ∧ readDecimal? cs = some d) ∨
      ∃ guard : Guard, (readBytes cs).outcome = .error (.refused guard) ∧
        guard.Rejects whole fraction ∧ readDecimal? cs = none := by
  have hsafe := safe_readBytes h
  cases houtcome : (readBytes cs).outcome with
  | ok d => exact .inl ⟨d, rfl, (hsafe.gives d houtcome).2⟩
  | error stop =>
    cases stop with
    | broken step => exact absurd houtcome (hsafe.unbroken step)
    | refused guard =>
      have hrejects := hsafe.refuses guard houtcome
      exact .inr ⟨guard, rfl, hrejects, readDecimal?_of_rejects h hrejects⟩

/-- Whatever the text, every bare step of a run is sound: the trimmed text is cut where a
character begins or ends, the byte of `0` is taken off bytes of ASCII digits, and digits are
multiplied by 100, 10 and 1, to 900 at most. So no step breaks a run. A run comes to the number
that is read, having made the cuts and taken up to three digits in turn, or else to a guard;
and it comes to a guard exactly if this is the one that rejects the number. -/
theorem readBytes_never_breaks (cs : List Char) :
    (∀ step ∈ (readBytes cs).steps, step.Sound (trim cs)) ∧
    (∀ step, (readBytes cs).outcome ≠ .error (.broken step)) ∧
    (∀ d, readDecimal? cs = some d ↔ (readBytes cs).outcome = .ok d) ∧
    (∀ d, readDecimal? cs = some d → (readBytes cs).steps = bareSteps (trim cs)) ∧
    (readDecimal? cs = none ↔
      ∃ guard, (readBytes cs).outcome = .error (.refused guard)) ∧
    (∀ guard : Guard, (readBytes cs).outcome = .error (.refused guard) ↔
      guard.Rejects (splitAtSeparator (trim cs)).1 (splitAtSeparator (trim cs)).2) := by
  rcases hparts : splitAtSeparator (trim cs) with ⟨whole, fraction⟩
  have hsafe := safe_readBytes hparts
  have hcases := readBytes_cases hparts
  have hvalue : ∀ d, readDecimal? cs = some d ↔ (readBytes cs).outcome = .ok d := by
    intro d
    rcases hcases with ⟨e, houtcome, hread⟩ | ⟨guard, houtcome, -, hread⟩
    · rw [houtcome, hread, Option.some.injEq, Except.ok.injEq]
    · simp [houtcome, hread]
  have hnone : readDecimal? cs = none ↔
      ∃ guard, (readBytes cs).outcome = .error (.refused guard) := by
    rcases hcases with ⟨e, houtcome, hread⟩ | ⟨guard, houtcome, -, hread⟩
    · simp [houtcome, hread]
    · simp [houtcome, hread]
  refine ⟨hsafe.sound, hsafe.unbroken, hvalue, ?_, hnone, ?_⟩
  · intro d hd
    exact (hsafe.gives d ((hvalue d).mp hd)).1
  · intro guard
    refine ⟨hsafe.refuses guard, fun hrejects => ?_⟩
    obtain ⟨other, hother⟩ := hnone.mp (readDecimal?_of_rejects hparts hrejects)
    rw [hother, hrejects.unique (hsafe.refuses other hother)]

/-- The first digit behind the separator still fits here, and the third no longer does. A
character of two bytes moves the cuts and is refused before its bytes are taken for digits. -/
example :
    (readBytes "18446744073709551,616".toList).outcome = .error (.refused .sum) ∧
      (readBytes "é,5".toList).steps = [.cut 2, .cut 3] ∧
      (readBytes "é,5".toList).outcome = .error (.refused .digits) := ⟨rfl, rfl, rfl⟩

end TestRollup.Number
