import TestRollup.Xml.Name

/- References. Between `&` and `;` stands the name of one of five characters, or
   `#` and the decimal number of a character, or `#x` and its hexadecimal
   number. A number that belongs to no character (a surrogate, or one beyond the
   last code point) stands for U+FFFD; a number of 2 ^ 32 or more, or of a
   character that a document may not hold, is an error.

   In an attribute value each tab and line end is one space, but a character that
   comes from a reference stays what it is. -/
namespace TestRollup.Xml

namespace Reference

/-- The five characters that have a name of their own. -/
def named? (name : List Char) : Option Char :=
  if name = ['a', 'm', 'p'] then some '&'
  else if name = ['l', 't'] then some '<'
  else if name = ['g', 't'] then some '>'
  else if name = ['q', 'u', 'o', 't'] then some '"'
  else if name = ['a', 'p', 'o', 's'] then some '\''
  else none

/-- A hexadecimal digit of either case. -/
def isHexDigit (c : Char) : Bool :=
  c.isDigit || ('a' ≤ c && c ≤ 'f') || ('A' ≤ c && c ≤ 'F')

def hexValue (c : Char) : Nat :=
  if c.isDigit then c.toNat - '0'.toNat
  else if 'a' ≤ c then c.toNat - 'a'.toNat + 10
  else c.toNat - 'A'.toNat + 10

/-- The number that a text of hexadecimal digits spells. -/
def valueOfHex (cs : List Char) : Nat := cs.foldl (fun n c => 16 * n + hexValue c) 0

/-- The character that a number stands for. -/
def numbered? (n : Nat) : Option Char :=
  if n < 4294967296 then
    let c := if n.isValidChar then Char.ofNat n else '\uFFFD'
    if isAllowed c then some c else none
  else none

/-- Takes the closing semicolon off. -/
def closed? (c? : Option Char) : List Char → Option (Char × List Char)
  | ';' :: rest => c?.map (·, rest)
  | _ => none

/-- Reads a reference from behind its `&`. -/
def read? : List Char → Option (Char × List Char)
  | '#' :: 'x' :: cs =>
    let digits := cs.takeWhile isHexDigit
    closed? (if digits.isEmpty then none else numbered? (valueOfHex digits))
      (cs.dropWhile isHexDigit)
  | '#' :: cs =>
    let digits := cs.takeWhile Char.isDigit
    closed? (if digits.isEmpty then none else numbered? (Nat.ofDigitChars 10 digits 0))
      (cs.dropWhile Char.isDigit)
  | cs => closed? (named? (cs.takeWhile isNameChar)) (cs.dropWhile isNameChar)

theorem closed?_length {c? : Option Char} {cs rest : List Char} {c : Char}
    (h : closed? c? cs = some (c, rest)) : rest.length ≤ cs.length := by
  unfold closed? at h
  split at h
  · simp only [Option.map_eq_some_iff, Prod.mk.injEq] at h
    obtain ⟨_, _, _, rfl⟩ := h
    exact Nat.le_succ _
  · simp at h

theorem read?_length {cs rest : List Char} {c : Char} (h : read? cs = some (c, rest)) :
    rest.length ≤ cs.length := by
  unfold read? at h
  split at h
  · exact Nat.le_trans (closed?_length h) (Nat.le_succ_of_le (Nat.le_succ_of_le
      (length_dropWhile_le _ _)))
  · exact Nat.le_trans (closed?_length h) (Nat.le_succ_of_le (length_dropWhile_le _ _))
  · exact Nat.le_trans (closed?_length h) (length_dropWhile_le _ _)

end Reference

/-- Replaces every reference by its character, behind the characters already
    done, which are kept in reverse. -/
def expandOnto? (done : List Char) (cs : List Char) : Option (List Char) :=
  match cs with
  | [] => some done.reverse
  | '&' :: cs =>
    match _read : Reference.read? cs with
    | none => none
    | some (c, rest) => expandOnto? (c :: done) rest
  | c :: cs => expandOnto? (c :: done) cs
termination_by cs.length
decreasing_by
  · exact Nat.lt_succ_of_le (Reference.read?_length _read)
  · exact Nat.lt_succ_self _

/-- Replaces every reference by its character. -/
def expand? (cs : List Char) : Option (List Char) := expandOnto? [] cs

/-- Makes each tab and each line end one space, behind the characters already
    done, which are kept in reverse. -/
def flattenOnto (done : List Char) : List Char → List Char
  | [] => done.reverse
  | '\r' :: '\n' :: cs => flattenOnto (' ' :: done) cs
  | c :: cs => flattenOnto ((if isSpace c then ' ' else c) :: done) cs

/-- Makes each tab and each line end one space. -/
def flatten (cs : List Char) : List Char := flattenOnto [] cs

/-- The value of an attribute that is written so between its quotes. -/
def attributeValue? (raw : List Char) : Option String :=
  (expand? (flatten raw)).map String.ofList

/-! ## Values that hold nothing to replace -/

theorem expandOnto?_eq (done cs : List Char) :
    expandOnto? done cs = (expand? cs).map (done.reverse ++ ·) := by
  unfold expand?
  suffices h : ∀ n (cs done more : List Char), cs.length ≤ n →
      expandOnto? (done ++ more) cs = (expandOnto? done cs).map (more.reverse ++ ·) by
    simpa using h cs.length cs [] done (Nat.le_refl _)
  intro n
  induction n with
  | zero =>
    intro cs done more hn
    have : cs = [] := List.length_eq_zero_iff.1 (Nat.le_zero.1 hn)
    subst this
    simp [expandOnto?]
  | succ n ih =>
    intro cs done more hn
    match cs, hn with
    | [], _ => simp [expandOnto?]
    | c :: cs, hn =>
      have hcs : cs.length ≤ n := Nat.le_of_succ_le_succ hn
      by_cases hc : c = '&'
      · subst hc
        rw [expandOnto?, expandOnto?]
        split
        · rfl
        · next d rest hd =>
          exact ih rest (d :: done) more (Nat.le_trans (Reference.read?_length hd) hcs)
      · rw [expandOnto?, expandOnto?]
        · exact ih cs (c :: done) more hcs
        · intro e; exact hc e
        · intro e; exact hc e

/-- A character that opens no reference stays. -/
theorem expand?_cons {c : Char} (hc : c ≠ '&') (cs : List Char) :
    expand? (c :: cs) = (expand? cs).map (c :: ·) := by
  rw [expand?, expandOnto?]
  · rw [expandOnto?_eq]; rfl
  · exact hc

/-- A reference is replaced by its character. -/
theorem expand?_of_read {cs rest : List Char} {c : Char} (h : Reference.read? cs = some (c, rest)) :
    expand? ('&' :: cs) = (expand? rest).map (c :: ·) := by
  rw [expand?, expandOnto?]
  split
  · next hn => rw [h] at hn; simp at hn
  · next d r hr =>
    rw [h] at hr
    simp only [Option.some.injEq, Prod.mk.injEq] at hr
    obtain ⟨rfl, rfl⟩ := hr
    rw [expandOnto?_eq]; rfl

/-- A text without `&` expands to itself. -/
theorem expand?_of_plain {cs : List Char} (h : '&' ∉ cs) : expand? cs = some cs := by
  induction cs with
  | nil => simp [expand?, expandOnto?]
  | cons c cs ih =>
    simp only [List.mem_cons, not_or] at h
    rw [expand?_cons (fun e => h.1 e.symm), ih h.2]
    rfl

theorem flattenOnto_of_flat {cs : List Char} (h : ∀ c ∈ cs, isSpace c = true → c = ' ')
    (done : List Char) : flattenOnto done cs = done.reverse ++ cs := by
  induction cs generalizing done with
  | nil => simp [flattenOnto]
  | cons c cs ih =>
    have hc : (if isSpace c then ' ' else c) = c := by
      split
      · next hs => exact (h c (by simp) hs).symm
      · rfl
    rw [flattenOnto]
    · rw [ih fun d hd => h d (by simp [hd]), hc]
      simp
    · intro r e
      subst e
      exact absurd (h '\r' (by simp) (by decide)) (by decide)

/-- A text without tabs and line ends flattens to itself. -/
theorem flatten_of_flat {cs : List Char} (h : ∀ c ∈ cs, isSpace c = true → c = ' ') :
    flatten cs = cs := by
  rw [flatten, flattenOnto_of_flat h]; rfl

end TestRollup.Xml
