/- Characters and names of XML. Three classes of characters (those a document
   may hold, those a name may start with, those a name may go on with) and the
   four characters that count as space. A name has a local part and may have a
   qualifier in front of it, divided by one colon. A colon in front of the local
   part with nothing before it leaves the name unqualified. -/
namespace TestRollup.Xml

/-- The four characters that markup treats as space. -/
def isSpace (c : Char) : Bool := c == ' ' || c == '\t' || c == '\n' || c == '\r'

/-- The characters a document may hold. -/
def isAllowed (c : Char) : Bool :=
  isSpace c || (0x20 ≤ c.toNat && c.toNat != 0xFFFE && c.toNat != 0xFFFF)

/-- The characters a name may start with, as ranges of code points. -/
def nameStartRanges : List (Nat × Nat) :=
  [(0x3A, 0x3A), (0x41, 0x5A), (0x5F, 0x5F), (0x61, 0x7A), (0xC0, 0xD6), (0xD8, 0xF6),
    (0xF8, 0x2FF), (0x370, 0x37D), (0x37F, 0x1FFF), (0x200C, 0x200D), (0x2070, 0x218F),
    (0x2C00, 0x2FEF), (0x3001, 0xD7FF), (0xF900, 0xFDCF), (0xFDF0, 0xFFFD), (0x10000, 0xEFFFF)]

/-- The further characters that a name may hold after its first. -/
def nameRestRanges : List (Nat × Nat) :=
  [(0x2D, 0x2E), (0x30, 0x39), (0xB7, 0xB7), (0x300, 0x36F), (0x203F, 0x2040)]

/-- The code point lies in one of the ranges, ends included. -/
def inRanges (ranges : List (Nat × Nat)) (n : Nat) : Bool :=
  ranges.any fun r => r.1 ≤ n && n ≤ r.2

def isNameStart (c : Char) : Bool := inRanges nameStartRanges c.toNat

def isNameChar (c : Char) : Bool := isNameStart c || inRanges nameRestRanges c.toNat

/-- A name, with the empty qualifier when it has none. -/
structure Name where
  qualifier : String
  localName : String
  deriving DecidableEq, Inhabited

namespace Name

/-- A part of a name, around the colon, starts as a name does. -/
def startsAsName : List Char → Bool
  | [] => false
  | c :: _ => isNameStart c

/-- The name that a run of name characters spells, if it is one: at most one
    colon, a local part, and a start character on both sides of the colon. -/
def ofChars? (cs : List Char) : Option Name :=
  let before := cs.takeWhile (· != ':')
  match cs.dropWhile (· != ':') with
  | [] =>
    if startsAsName before then some ⟨"", String.ofList before⟩ else none
  | _ :: after =>
    if after.contains ':' || !startsAsName after then none
    else if before.isEmpty || startsAsName before then
      some ⟨String.ofList before, String.ofList after⟩
    else none

/-- Reads a name and hands back what follows it. -/
def read? (cs : List Char) : Option (Name × List Char) :=
  match ofChars? (cs.takeWhile isNameChar) with
  | none => none
  | some name => some (name, cs.dropWhile isNameChar)

end Name

/-- Dropping characters makes a text no longer. -/
theorem length_dropWhile_le (p : Char → Bool) (cs : List Char) :
    (cs.dropWhile p).length ≤ cs.length := by
  induction cs with
  | nil => simp
  | cons c cs ih =>
    rw [List.dropWhile_cons]
    split
    · exact Nat.le_succ_of_le ih
    · exact Nat.le_refl _

theorem Name.read?_length {cs rest : List Char} {name : Name}
    (h : Name.read? cs = some (name, rest)) : rest.length ≤ cs.length := by
  unfold Name.read? at h
  split at h
  · simp at h
  · simp only [Option.some.injEq, Prod.mk.injEq] at h
    rw [← h.2]
    exact length_dropWhile_le _ _

end TestRollup.Xml
