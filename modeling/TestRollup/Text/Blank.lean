/- Blank characters: those with the Unicode property White_Space, and the
   removal of them from both ends of a text. -/
namespace TestRollup.Text

/-- The characters with the Unicode property White_Space. -/
def isBlank (c : Char) : Bool :=
  let n := c.toNat
  (0x09 ≤ n && n ≤ 0x0D) || n == 0x20 || n == 0x85 || n == 0xA0 || n == 0x1680 ||
    (0x2000 ≤ n && n ≤ 0x200A) || n == 0x2028 || n == 0x2029 || n == 0x202F || n == 0x205F ||
    n == 0x3000

/-- Removes blanks from the right end. -/
def trimRight (cs : List Char) : List Char := (cs.reverse.dropWhile isBlank).reverse

/-- Removes blanks from both ends. -/
def trim (cs : List Char) : List Char := trimRight (cs.dropWhile isBlank)

/-! ## Runs of characters -/

/-- A run of characters ends where the rest of the text stops it. -/
theorem takeWhile_append_stop {p : Char → Bool} {cs rest : List Char} (h : ∀ c ∈ cs, p c = true)
    (hrest : ∀ c ∈ rest.head?, p c = false) : (cs ++ rest).takeWhile p = cs := by
  rw [List.takeWhile_append_of_pos h]
  cases rest with
  | nil => simp
  | cons c rest => simp [hrest c rfl]

theorem dropWhile_append_stop {p : Char → Bool} {cs rest : List Char} (h : ∀ c ∈ cs, p c = true)
    (hrest : ∀ c ∈ rest.head?, p c = false) : (cs ++ rest).dropWhile p = rest := by
  rw [List.dropWhile_append_of_pos h]
  cases rest with
  | nil => rfl
  | cons c rest => simp [hrest c rfl]

/-! ## What is trimmed off -/

theorem dropWhile_isBlank_of_head {cs : List Char} (h : ∀ c ∈ cs.head?, isBlank c = false) :
    cs.dropWhile isBlank = cs := by
  cases cs with
  | nil => rfl
  | cons c cs => rw [List.dropWhile_cons_of_neg]; simp [h c rfl]

/-- A text without blanks at its ends is left as it is. -/
theorem trim_of_ends {cs : List Char} (hhead : ∀ c ∈ cs.head?, isBlank c = false)
    (hlast : ∀ c ∈ cs.getLast?, isBlank c = false) : trim cs = cs := by
  have hreverse : cs.reverse.dropWhile isBlank = cs.reverse :=
    dropWhile_isBlank_of_head (by simpa using hlast)
  rw [trim, dropWhile_isBlank_of_head hhead, trimRight, hreverse, List.reverse_reverse]

theorem trim_of_no_blank {cs : List Char} (h : ∀ c ∈ cs, isBlank c = false) : trim cs = cs := by
  apply trim_of_ends
  · intro c hc
    exact h c (List.mem_of_mem_head? hc)
  · intro c hc
    exact h c (List.mem_of_mem_getLast? hc)

/-- What is trimmed off a text stands at its ends and is blank. -/
theorem exists_eq_trim (cs : List Char) :
    ∃ left right, cs = left ++ trim cs ++ right ∧ ∀ c ∈ left ++ right, isBlank c = true := by
  let inner := cs.dropWhile isBlank
  refine ⟨cs.takeWhile isBlank, (inner.reverse.takeWhile isBlank).reverse, ?_, ?_⟩
  · have hinner : trim cs ++ (inner.reverse.takeWhile isBlank).reverse = inner := by
      rw [trim, trimRight, ← List.reverse_append, List.takeWhile_append_dropWhile,
        List.reverse_reverse]
    rw [List.append_assoc, hinner, List.takeWhile_append_dropWhile]
  · intro c hc
    rcases List.mem_append.1 hc with hc | hc
    · exact List.all_eq_true.1 List.all_takeWhile c hc
    · exact List.all_eq_true.1 List.all_takeWhile c (List.mem_reverse.1 hc)

/-- Blanks around a text that holds none are trimmed off. -/
theorem trim_append {left text right : List Char} (hblank : ∀ c ∈ left ++ right, isBlank c = true)
    (htext : ∀ c ∈ text, isBlank c = false) : trim (left ++ text ++ right) = text := by
  have hleft : ∀ c ∈ left, isBlank c = true := fun c hc => hblank c (by simp [hc])
  have hright : ∀ c ∈ right, isBlank c = true := fun c hc => hblank c (by simp [hc])
  cases text with
  | nil =>
    have hall : ∀ c ∈ left ++ [] ++ right, isBlank c = true := by simpa using hblank
    have hnone := @dropWhile_append_stop _ _ [] hall (by simp)
    rw [List.append_nil] at hnone
    rw [trim, hnone]
    rfl
  | cons c text =>
    have hfront : (left ++ (c :: text) ++ right).dropWhile isBlank = (c :: text) ++ right := by
      rw [List.append_assoc]
      exact dropWhile_append_stop hleft (by simpa using htext c)
    have hback : ((c :: text) ++ right).reverse.dropWhile isBlank = (c :: text).reverse := by
      rw [List.reverse_append]
      refine dropWhile_append_stop (by simpa using hright) fun d hd => htext d ?_
      exact List.mem_reverse.1 (List.mem_of_mem_head? hd)
    rw [trim, hfront, trimRight, hback, List.reverse_reverse]

end TestRollup.Text
