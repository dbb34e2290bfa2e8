/- Counters. Every figure of a summary is a natural number that fits in 64 bits,
   and adding two of them stops at the largest such number (`Counter.ceiling`)
   instead of wrapping round. The type carries the bound, so no figure beyond it
   can be formed; the lemmas say what each operation does to the exact value,
   and that addition is commutative and associative in spite of the ceiling:
   however a list of counters is grouped, the outcome is the smaller of the
   exact sum and the ceiling. -/
namespace TestRollup

/-- A natural number below 2 ^ 64. -/
structure Counter where
  value : Nat
  value_le : value ≤ 18446744073709551615 := by decide
  deriving DecidableEq

namespace Counter

/-- The largest counter, 2 ^ 64 - 1. -/
def ceiling : Nat := 18446744073709551615

/-- The counter nearest to an exact number. -/
def saturate (n : Nat) : Counter := ⟨min n ceiling, Nat.min_le_right n ceiling⟩

/-- The counter of an exact number, if it fits. -/
def ofNat? (n : Nat) : Option Counter :=
  if h : n ≤ ceiling then some ⟨n, h⟩ else none

instance : Zero Counter := ⟨⟨0, by decide⟩⟩

instance : Inhabited Counter := ⟨0⟩

instance : Add Counter := ⟨fun a b => saturate (a.value + b.value)⟩

/-- Subtraction stops at zero. -/
instance : Sub Counter :=
  ⟨fun a b => ⟨a.value - b.value, Nat.le_trans (Nat.sub_le _ _) a.value_le⟩⟩

/-- The sum with a number, if it fits. -/
def add? (a : Counter) (n : Nat) : Option Counter := ofNat? (a.value + n)

/-- The product with a number, if it fits. -/
def mul? (a : Counter) (n : Nat) : Option Counter := ofNat? (a.value * n)

instance : LE Counter := ⟨fun a b => a.value ≤ b.value⟩

instance (a b : Counter) : Decidable (a ≤ b) := inferInstanceAs (Decidable (a.value ≤ b.value))

instance : Ord Counter := ⟨fun a b => compare a.value b.value⟩

/-- The plain decimal digits of a counter, without leading zeros. -/
def digits (a : Counter) : String := toString a.value

instance : ToString Counter := ⟨digits⟩

/-! ## The exact value of each operation -/

@[ext] theorem ext {a b : Counter} (h : a.value = b.value) : a = b := by
  cases a; cases b; cases h; rfl

theorem value_le_ceiling (a : Counter) : a.value ≤ ceiling := a.value_le

@[simp] theorem value_zero : (0 : Counter).value = 0 := rfl

@[simp] theorem value_saturate (n : Nat) : (saturate n).value = min n ceiling := rfl

@[simp] theorem value_add (a b : Counter) : (a + b).value = min (a.value + b.value) ceiling := rfl

@[simp] theorem value_sub (a b : Counter) : (a - b).value = a.value - b.value := rfl

theorem le_iff (a b : Counter) : a ≤ b ↔ a.value ≤ b.value := Iff.rfl

theorem ofNat?_eq_some_iff {n : Nat} {a : Counter} : ofNat? n = some a ↔ a.value = n := by
  unfold ofNat?
  split
  · next h =>
    simp only [Option.some.injEq]
    exact ⟨fun e => e ▸ rfl, fun e => ext e.symm⟩
  · next h =>
    have := a.value_le_ceiling
    simp only [reduceCtorEq, false_iff]
    omega

theorem ofNat?_value (a : Counter) : ofNat? a.value = some a := ofNat?_eq_some_iff.2 rfl

theorem ofNat?_eq_none_iff {n : Nat} : ofNat? n = none ↔ ceiling < n := by
  unfold ofNat?
  split <;> simp <;> omega

/-- A range check on the way to a number that is no smaller changes nothing. -/
theorem ofNat?_bind {m n : Nat} (h : m ≤ n) {f : Counter → Option Counter}
    (hf : ∀ a : Counter, a.value = m → f a = ofNat? n) : (ofNat? m).bind f = ofNat? n := by
  cases hm : ofNat? m with
  | some a => exact hf a (ofNat?_eq_some_iff.1 hm)
  | none =>
    have hceiling := ofNat?_eq_none_iff.1 hm
    exact (ofNat?_eq_none_iff.2 (Nat.lt_of_lt_of_le hceiling h)).symm

/-! ## Addition under the ceiling -/

theorem add_comm (a b : Counter) : a + b = b + a := by
  ext; simp only [value_add, Nat.add_comm]

theorem add_assoc (a b c : Counter) : a + b + c = a + (b + c) := by
  ext; simp only [value_add]; omega

@[simp] theorem zero_add (a : Counter) : 0 + a = a := by
  have := a.value_le_ceiling
  ext; simp only [value_add, value_zero]; omega

@[simp] theorem add_zero (a : Counter) : a + 0 = a := by
  rw [add_comm, zero_add]

end Counter

end TestRollup
