import TestRollup.Pattern.Flags

/- Atoms of patterns: what stands for a single character, or for a place between
   two. Most characters stand for themselves; behind a backslash, punctuation
   stands for itself, and letters have meanings of their own. No tables of scripts
   are at hand: classes by property, the shorthands for digits, blanks and letters,
   the ends of words, and letters in either case are only known among bytes, and
   then only among those of ASCII. -/
namespace TestRollup.Pattern

/-- What stands for a single character or for a place between two. -/
inductive Atom where
  /-- A character; it may be written as a byte, by two hexadecimal digits. -/
  | literal (c : Char) (asByte : Bool)
  /-- Any character of a line. -/
  | any
  /-- A digit, a blank or a letter, or anything else than that. -/
  | shorthand (negated : Bool)
  /-- An end of a word, or any other place. -/
  | wordEdge
  /-- An end of a line or of the text. -/
  | edge
  deriving DecidableEq

namespace Atom

/-- The atom can be used outside of brackets. -/
def isUsable (f : Flags) : Atom → Bool
  | literal c asByte => if f.unicode then !f.ignoreCase else !(asByte && 127 < c.toNat)
  | any => f.unicode
  | shorthand negated => !f.unicode && !negated
  | wordEdge => !f.unicode
  | edge => true

/-- The atom can be used inside of brackets. -/
def isUsableInClass (f : Flags) : Atom → Bool
  | literal c _ => if f.unicode then !f.ignoreCase else c.toNat ≤ 127
  | shorthand negated => !f.unicode && !negated
  | _ => false

/-- The value of a hexadecimal digit. -/
def hexValue? (c : Char) : Option Nat :=
  if '0'.toNat ≤ c.toNat && c.toNat ≤ '9'.toNat then some (c.toNat - '0'.toNat)
  else if 'a'.toNat ≤ c.toNat && c.toNat ≤ 'f'.toNat then some (c.toNat - 'a'.toNat + 10)
  else if 'A'.toNat ≤ c.toNat && c.toNat ≤ 'F'.toNat then some (c.toNat - 'A'.toNat + 10)
  else none

/-- Reads so many hexadecimal digits behind a number that has been read; what
follows them is left. -/
def hexDigits? (f : Flags) : (count : Nat) → (value : Nat) → List Char → Option (Nat × List Char)
  | 0, value, cs => some (value, cs)
  | _ + 1, _, [] => none
  | count + 1, value, c :: cs =>
    match hexValue? c with
    | none => none
    | some digit => hexDigits? f count (value * 16 + digit) (f.skip cs)

/-- Reads a character by its code point in so many hexadecimal digits. -/
def codePoint? (f : Flags) (count : Nat) (cs : List Char) : Option (Atom × List Char) :=
  match hexDigits? f count 0 (f.skip cs) with
  | none => none
  | some (n, rest) =>
    if n.isValidChar then some (literal (Char.ofNat n) (count == 2), rest) else none

/-- What a single character means behind a backslash. -/
def escaped? (c : Char) : Option Atom :=
  match c with
  | 'a' => some (literal '\x07' false)
  | 'f' => some (literal '\x0c' false)
  | 't' => some (literal '\t' false)
  | 'n' => some (literal '\n' false)
  | 'r' => some (literal '\r' false)
  | 'v' => some (literal '\x0b' false)
  | 'd' | 's' | 'w' => some (shorthand false)
  | 'D' | 'S' | 'W' => some (shorthand true)
  | 'b' | 'B' | '<' | '>' => some wordEdge
  | 'A' | 'z' => some edge
  | _ => if c.toNat < 128 && !c.isAlphanum then some (literal c false) else none

/-- Reads an atom behind its backslash. -/
def readEscaped? (f : Flags) : List Char → Option (Atom × List Char)
  | [] => none
  | 'x' :: cs => codePoint? f 2 cs
  | 'u' :: cs => codePoint? f 4 cs
  | 'U' :: cs => codePoint? f 8 cs
  | c :: cs => (escaped? c).map fun atom => (atom, cs)

/-- Reads an atom outside of brackets. -/
def read? (f : Flags) : List Char → Option (Atom × List Char)
  | [] => none
  | '\\' :: cs => readEscaped? f cs
  | '.' :: cs => some (any, cs)
  | '^' :: cs | '$' :: cs => some (edge, cs)
  | c :: cs => some (literal c false, cs)

/-- Reads an atom inside of brackets, where only the backslash is special. -/
def readInClass? (f : Flags) : List Char → Option (Atom × List Char)
  | [] => none
  | '\\' :: cs => readEscaped? f cs
  | c :: cs => some (literal c false, cs)

end Atom

end TestRollup.Pattern
