/- Texts by the bytes of their UTF-8 form. A text can be cut at a number of bytes if
   that is the end of a character: these are the positions that core calls valid
   (`exists_takeBytes?_iff`, `exists_dropBytes?_iff`). -/
namespace TestRollup.Text

/-- The bytes of a text. -/
def bytes (cs : List Char) : List UInt8 := cs.flatMap String.utf8EncodeChar

/-- How many bytes a text takes. -/
def byteCount : List Char → Nat
  | [] => 0
  | c :: cs => c.utf8Size + byteCount cs

/-- Drops so many bytes from the start. -/
def dropBytes? : (bytes : Nat) → List Char → Option (List Char)
  | 0, cs => some cs
  | _ + 1, [] => none
  | bytes + 1, c :: cs =>
    if c.utf8Size ≤ bytes + 1 then dropBytes? (bytes + 1 - c.utf8Size) cs else none

/-- Takes so many bytes from the start. -/
def takeBytes? : (bytes : Nat) → List Char → Option (List Char)
  | 0, _ => some []
  | _ + 1, [] => none
  | bytes + 1, c :: cs =>
    if c.utf8Size ≤ bytes + 1 then (takeBytes? (bytes + 1 - c.utf8Size) cs).map (c :: ·) else none

/-- The part of a text that takes so many bytes behind the first ones. -/
def sliceBytes? (start bytes : Nat) (text : List Char) : Option (List Char) :=
  (dropBytes? start text).bind (takeBytes? bytes)

theorem byteCount_append (cs ds : List Char) :
    byteCount (cs ++ ds) = byteCount cs + byteCount ds := by
  induction cs with
  | nil => simp [byteCount]
  | cons c cs ih => simp [byteCount, ih, Nat.add_assoc]

/-- Dropping as many bytes as a text takes drops the text. -/
theorem dropBytes?_byteCount_append (cs ds : List Char) :
    dropBytes? (byteCount cs) (cs ++ ds) = some ds := by
  induction cs with
  | nil => cases ds <;> rfl
  | cons c cs ih =>
    have pos := c.utf8Size_pos
    obtain ⟨n, hn⟩ : ∃ n, byteCount (c :: cs) = n + 1 :=
      ⟨byteCount (c :: cs) - 1, by simp only [byteCount]; omega⟩
    have rest : n + 1 - c.utf8Size = byteCount cs := by simp only [byteCount] at hn; omega
    have fits : c.utf8Size ≤ n + 1 := by simp only [byteCount] at hn; omega
    rw [hn, List.cons_append, dropBytes?, if_pos fits, rest, ih]

/-- Taking as many bytes as a text takes gives the text. -/
theorem takeBytes?_byteCount_append (cs ds : List Char) :
    takeBytes? (byteCount cs) (cs ++ ds) = some cs := by
  induction cs with
  | nil => cases ds <;> rfl
  | cons c cs ih =>
    have pos := c.utf8Size_pos
    obtain ⟨n, hn⟩ : ∃ n, byteCount (c :: cs) = n + 1 :=
      ⟨byteCount (c :: cs) - 1, by simp only [byteCount]; omega⟩
    have rest : n + 1 - c.utf8Size = byteCount cs := by simp only [byteCount] at hn; omega
    have fits : c.utf8Size ≤ n + 1 := by simp only [byteCount] at hn; omega
    rw [hn, List.cons_append, takeBytes?, if_pos fits, rest, ih, Option.map_some]

/-! ## Where a text can be cut -/

theorem utf8ByteSize_ofList (cs : List Char) : (String.ofList cs).utf8ByteSize = byteCount cs := by
  induction cs with
  | nil => rfl
  | cons c cs ih => simp [String.ofList_cons, byteCount, ih]

/-- The valid positions in a text are the ends of its front parts. -/
theorem isValid_ofList_iff {cs : List Char} {position : Nat} :
    String.Pos.Raw.IsValid (String.ofList cs) ⟨position⟩ ↔
      ∃ front rest, cs = front ++ rest ∧ byteCount front = position := by
  rw [String.Pos.Raw.isValid_ofList]
  simp only [utf8ByteSize_ofList]
  constructor
  · rintro ⟨i, rfl⟩
    exact ⟨cs.take i, cs.drop i, (List.take_append_drop i cs).symm, rfl⟩
  · rintro ⟨front, rest, rfl, rfl⟩
    exact ⟨front.length, by rw [List.take_left]⟩

theorem exists_takeBytes?_iff {cs : List Char} {position : Nat} :
    (∃ front, takeBytes? position cs = some front) ↔
      String.Pos.Raw.IsValid (String.ofList cs) ⟨position⟩ := by
  rw [isValid_ofList_iff]
  constructor
  · rintro ⟨front, h⟩
    fun_induction takeBytes? position cs generalizing front with
    | case1 cs => exact ⟨[], cs, rfl, rfl⟩
    | case2 => cases h
    | case3 bytes c cs hfits ih =>
      obtain ⟨tail, htail, -⟩ := Option.map_eq_some_iff.mp h
      obtain ⟨front, rest, rfl, hcount⟩ := ih tail htail
      exact ⟨c :: front, rest, rfl, by rw [byteCount]; omega⟩
    | case4 => cases h
  · rintro ⟨front, rest, rfl, rfl⟩
    exact ⟨front, takeBytes?_byteCount_append front rest⟩

theorem exists_dropBytes?_iff {cs : List Char} {position : Nat} :
    (∃ rest, dropBytes? position cs = some rest) ↔
      String.Pos.Raw.IsValid (String.ofList cs) ⟨position⟩ := by
  rw [isValid_ofList_iff]
  constructor
  · rintro ⟨rest, h⟩
    fun_induction dropBytes? position cs with
    | case1 cs => exact ⟨[], cs, rfl, rfl⟩
    | case2 => cases h
    | case3 bytes c cs hfits ih =>
      obtain ⟨front, rest, rfl, hcount⟩ := ih h
      exact ⟨c :: front, rest, rfl, by rw [byteCount]; omega⟩
    | case4 => cases h
  · rintro ⟨front, rest, rfl, rfl⟩
    exact ⟨rest, dropBytes?_byteCount_append front rest⟩

end TestRollup.Text
