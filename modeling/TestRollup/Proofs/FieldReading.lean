import TestRollup.Proofs.ExactSum
import TestRollup.Report.Logged
import TestRollup.Report.Field
import TestRollup.Xml.Element

/- What reading a field says about its value. A count is read exactly when its text
   is a whole number below the ceiling (`IsInteger`), a time exactly when its text is
   a decimal number (`IsDecimal`); what is read is the number the text spells, and
   nothing for a field that is absent. The sums over several fields are the exact
   sums, cut off at the ceiling once.

   `Logged.tally_eq_ok_iff` lifts such a law from the members of a list to what they
   come to together.

   A law about elements is stated for a `Finder`, because there are two ways to find
   the value that an element gives under a name: in the first attribute with that
   local name, or in the one that has that name without a qualifier. Reports are read
   in the first way. -/
namespace TestRollup

/-- A way to find the value that an element gives under a name. -/
abbrev Finder : Type := Xml.Element → String → Option String

/-- The value of the attribute that has this name and no qualifier. -/
def Xml.Element.unqualified? (e : Xml.Element) (name : String) : Option String :=
  (e.attributes.find? fun a => a.name.qualifier == "" && a.name.localName == name).map (·.value)

namespace Report

theorem bind_eq_ok_iff {ε α β : Type} {x : Except ε α} {f : α → Except ε β} {b : β} :
    (x >>= f) = .ok b ↔ ∃ a, x = .ok a ∧ f a = .ok b := by
  cases x <;> simp [bind, Except.bind]

/-- Members that are alike one by one in what something depends on are alike in it. -/
theorem map_eq_of_factorsThrough {α β γ : Type} {f : α → β} {g : α → γ}
    (hg : Function.FactorsThrough g f) {xs ys : List α} (h : xs.map f = ys.map f) :
    xs.map g = ys.map g := by
  rw [← List.forall₂_eq_eq_eq, List.forall₂_map_left_iff, List.forall₂_map_right_iff] at h ⊢
  exact h.imp hg

/-- What cannot be read is not as it should be. -/
theorem not_of_eq_error {ε α : Type} {x : Except ε α} {ok : Prop} {a : α} {e : ε}
    (law : ∀ b, x = .ok b ↔ ok ∧ b = a) (h : x = .error e) : ¬ ok := by
  intro hok
  have hread : x = .ok a := (law a).mpr ⟨hok, rfl⟩
  rw [hread] at h
  cases h

namespace Field

/-- The text is a whole number in plain digits that fits in a counter. -/
def IsInteger (text : String) : Prop :=
  text.toList ≠ [] ∧ Number.allDigits text.toList = true ∧
    Number.valueOfDigits text.toList ≤ Counter.ceiling

/-- The text is a decimal number that fits in a counter of thousandths. -/
def IsDecimal (text : String) : Prop := (Number.readDecimal? text.toList).isSome = true

/-- The field is there, and its value is as it should be. -/
def Given (ok : String → Prop) (value : Option String) : Prop := ∃ text, value = some text ∧ ok text

/-- The value of the field is as it should be if the field is there at all. -/
def AbsentOr (ok : String → Prop) (value : Option String) : Prop := ∀ text, value = some text → ok text

/-- The number in a field of digits; zero if the field is absent. -/
def amount : Option String → Nat
  | none => 0
  | some text => Number.valueOfDigits text.toList

/-- The milliseconds in a field of seconds, if there are any. -/
def duration (value : Option String) : Option Nat :=
  (value.bind fun text => Number.readDecimal? text.toList).map (·.thousandths.value)

@[simp] theorem absentOr_none (ok : String → Prop) : AbsentOr ok none := by simp [AbsentOr]

@[simp] theorem absentOr_some {ok : String → Prop} {text : String} :
    AbsentOr ok (some text) ↔ ok text := by simp [AbsentOr]

@[simp] theorem not_given_none (ok : String → Prop) : ¬ Given ok none := by simp [Given]

@[simp] theorem given_some {ok : String → Prop} {text : String} :
    Given ok (some text) ↔ ok text := by simp [Given]

/-! ## Counts -/

theorem integer_eq_ok_iff {key text : String} {n : Counter} :
    integer key text = .ok n ↔
      IsInteger text ∧ n = .saturate (Number.valueOfDigits text.toList) := by
  unfold integer IsInteger
  constructor
  · intro h
    split at h
    · next m hm =>
      obtain ⟨hne, hdigits, hvalue⟩ := Number.readWhole?_eq_some_iff.mp hm
      have hmn : m = n := Except.ok.inj h
      subst hmn
      refine ⟨⟨hne, hdigits, hvalue ▸ m.value_le_ceiling⟩, ?_⟩
      rw [hvalue, Counter.saturate_value]
    · simp at h
  · rintro ⟨⟨hne, hdigits, hle⟩, rfl⟩
    have hread : Number.readWhole? text.toList =
        some (.saturate (Number.valueOfDigits text.toList)) :=
      Number.readWhole?_eq_some_iff.mpr ⟨hne, hdigits, (Nat.min_eq_left hle).symm⟩
    rw [hread]

theorem required_eq_ok_iff {element key : String} {value : Option String} {n : Counter} :
    required element key value = .ok n ↔ Given IsInteger value ∧ n = .saturate (amount value) := by
  cases value with
  | none => simp [required]
  | some text => simp only [required, integer_eq_ok_iff, given_some, amount]

theorem orZero_eq_ok_iff {key : String} {value : Option String} {n : Counter} :
    orZero key value = .ok n ↔ AbsentOr IsInteger value ∧ n = .saturate (amount value) := by
  cases value with
  | none =>
    have hzero : Counter.saturate 0 = 0 := rfl
    simp only [orZero, absentOr_none, amount, hzero, Except.ok.injEq, true_and]
    exact eq_comm
  | some text => simp only [orZero, integer_eq_ok_iff, absentOr_some, amount]

/-- The sum onto a total: the fields are added up exactly and cut off once. -/
theorem sumOnto_eq_ok_iff {total n : Counter} {fields : List (String × Option String)} :
    sumOnto total fields = .ok n ↔
      (∀ field ∈ fields, AbsentOr IsInteger field.2) ∧
        n = total + .saturate ((fields.map (amount ·.2)).sum) := by
  induction fields generalizing total with
  | nil =>
    have hzero : Counter.saturate 0 = 0 := rfl
    simp only [sumOnto, List.map_nil, List.sum_nil, hzero, Counter.add_zero, Except.ok.injEq]
    exact ⟨fun h => ⟨by simp, h.symm⟩, fun h => h.2.symm⟩
  | cons field fields ih =>
    obtain ⟨key, value⟩ := field
    -- the first field joins the total before the others are read
    rw [sumOnto, List.forall_mem_cons, List.map_cons, List.sum_cons, Counter.saturate_add,
      ← Counter.add_assoc]
    cases h : orZero key value with
    | error c =>
      have hbad : ¬ AbsentOr IsInteger value := not_of_eq_error (fun _ => orZero_eq_ok_iff) h
      simp [hbad]
    | ok m =>
      obtain ⟨hv, rfl⟩ := orZero_eq_ok_iff.mp h
      rw [ih]
      simp only [hv, true_and]

theorem sum_eq_ok_iff {n : Counter} {fields : List (String × Option String)} :
    sum fields = .ok n ↔
      (∀ field ∈ fields, AbsentOr IsInteger field.2) ∧
        n = .saturate ((fields.map (amount ·.2)).sum) := by
  rw [sum, sumOnto_eq_ok_iff, Counter.zero_add]

/-! ## Times -/

theorem milliseconds_eq_ok_iff {key : String} {value : Option String} {time : Option Counter} :
    milliseconds key value = .ok time ↔
      AbsentOr IsDecimal value ∧ time = (duration value).map .saturate := by
  cases value with
  | none =>
    simp only [milliseconds, absentOr_none, duration, Option.bind_none, Option.map_none,
      Except.ok.injEq, true_and]
    exact eq_comm
  | some text =>
    simp only [milliseconds, absentOr_some, duration, Option.bind_some, IsDecimal]
    cases Number.readDecimal? text.toList with
    | none => simp
    | some d =>
      simp only [Option.map_some, Counter.saturate_value, Except.ok.injEq, Option.isSome_some,
        true_and]
      exact eq_comm

theorem duration_eq_none_iff {value : Option String} (h : AbsentOr IsDecimal value) :
    duration value = none ↔ value = none := by
  cases value with
  | none => simp [duration]
  | some text =>
    obtain ⟨d, hd⟩ := Option.isSome_iff_exists.mp (absentOr_some.mp h)
    simp [duration, hd]

/-- The sum onto a total: the times that are there are added up exactly and cut off
once. -/
theorem sumTimesOnto_eq_ok_iff {key : String} {total time : Option Counter}
    {values : List (Option String)} :
    sumTimesOnto key total values = .ok time ↔
      (∀ value ∈ values, AbsentOr IsDecimal value) ∧
        time = addTimes total ((sumPresent (values.map duration)).map .saturate) := by
  induction values generalizing total with
  | nil =>
    simp only [sumTimesOnto, List.map_nil, sumPresent_nil, Option.map_none, addTimes_none,
      Except.ok.injEq]
    exact ⟨fun h => ⟨by simp, h.symm⟩, fun h => h.2.symm⟩
  | cons value values ih =>
    rw [sumTimesOnto, List.forall_mem_cons, List.map_cons, sumPresent_cons, saturate_merge_times,
      ← addTimes_assoc]
    cases h : milliseconds key value with
    | error c =>
      have hbad : ¬ AbsentOr IsDecimal value :=
        not_of_eq_error (fun _ => milliseconds_eq_ok_iff) h
      simp [hbad]
    | ok m =>
      obtain ⟨hv, rfl⟩ := milliseconds_eq_ok_iff.mp h
      rw [ih]
      simp only [hv, true_and]

theorem sumTimes_eq_ok_iff {key : String} {time : Option Counter} {values : List (Option String)} :
    sumTimes key values = .ok time ↔
      (∀ value ∈ values, AbsentOr IsDecimal value) ∧
        time = (sumPresent (values.map duration)).map .saturate := by
  rw [sumTimes, sumTimesOnto_eq_ok_iff, none_addTimes]

end Field

namespace Logged

/-- If a member is read exactly when it is as it should be, then so is the list, and it
comes to the sum of what its members give. -/
theorem tally_eq_ok_iff {ε α : Type} {read : α → Logged ε Summary} {ok : α → Prop}
    {gives : α → Summary} (h : ∀ x s, (read x).outcome = .ok s ↔ ok x ∧ s = gives x)
    (xs : List α) (s : Summary) :
    (tally read xs).outcome = .ok s ↔ (∀ x ∈ xs, ok x) ∧ s = (xs.map gives).sum := by
  induction xs generalizing s with
  | nil =>
    show Except.ok Summary.empty = Except.ok s ↔ _
    simp only [Except.ok.injEq, List.map_nil, List.sum_nil]
    exact ⟨fun e => ⟨by simp, e.symm⟩, fun e => e.2.symm⟩
  | cons x xs ih =>
    have hcons : (tally read (x :: xs)).outcome =
        (read x).outcome >>= fun first => (first + ·) <$> (tally read xs).outcome := by
      rw [tally, outcome_bind]
      simp only [outcome_map]
      rfl
    rw [hcons, bind_eq_ok_iff, List.forall_mem_cons, List.map_cons, List.sum_cons]
    constructor
    · rintro ⟨first, hfirst, hs⟩
      obtain ⟨hok, rfl⟩ := (h x first).mp hfirst
      cases hxs : (tally read xs).outcome with
      | error e => rw [hxs] at hs; cases hs
      | ok rest =>
        obtain ⟨hall, rfl⟩ := (ih rest).mp hxs
        rw [hxs] at hs
        exact ⟨⟨hok, hall⟩, (Except.ok.inj hs).symm⟩
    · rintro ⟨⟨hok, hall⟩, rfl⟩
      refine ⟨gives x, (h x _).mpr ⟨hok, rfl⟩, ?_⟩
      rw [(ih _).mpr ⟨hall, rfl⟩]
      rfl

end Logged

end Report

end TestRollup
