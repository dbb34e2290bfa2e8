import TestRollup.Text.Blank

/- Flags of patterns. A flag is a letter. Flags are set by a list of letters, which
   switches the letters behind a minus sign off and the others on, and hold up to
   the end of the group they stand in. Only three of them have a say in whether a
   pattern can be used. -/
namespace TestRollup.Pattern

/-- The flags in force. -/
structure Flags where
  /-- Letters stand for their capitals too, and the other way round. -/
  ignoreCase : Bool
  /-- The pattern is about characters of all scripts, and not about bytes. -/
  unicode : Bool
  /-- Blanks and comments are left out. -/
  extended : Bool
  deriving DecidableEq

namespace Flags

/-- The flags at the start of a pattern. -/
def standard : Flags := ⟨false, true, false⟩

/-- The letters that are flags. -/
def isFlag (c : Char) : Bool := ['i', 'm', 's', 'U', 'u', 'R', 'x'].contains c

/-- No character is there twice. -/
def areDistinct : List Char → Bool
  | [] => true
  | c :: cs => !cs.contains c && areDistinct cs

/-- A list of letters sets flags if each letter is one, none is there twice, and
at most one minus sign is there, with a letter behind it. -/
def isSetting (letters : List Char) : Bool :=
  letters.all (fun c => isFlag c || c == '-') && areDistinct letters &&
    letters.getLast? != some '-'

/-- What a list of letters makes of one flag. -/
def switch (letters : List Char) (flag : Char) (before : Bool) : Bool :=
  if (letters.takeWhile (· != '-')).contains flag then true
  else if letters.contains flag then false
  else before

/-- The flags in force behind a list of letters. -/
def set (f : Flags) (letters : List Char) : Flags :=
  ⟨switch letters 'i' f.ignoreCase, switch letters 'u' f.unicode, switch letters 'x' f.extended⟩

end Flags

/-- Skips blanks and comments, from inside a comment or from outside. A comment
goes from a number sign to the end of the line. -/
def skipLayout : (inComment : Bool) → List Char → List Char
  | _, [] => []
  | true, c :: cs => skipLayout (c != '\n') cs
  | false, c :: cs =>
    if Text.isBlank c then skipLayout false cs
    else if c == '#' then skipLayout true cs
    else c :: cs

/-- Skips blanks and comments where they are left out. -/
def Flags.skip (f : Flags) (cs : List Char) : List Char :=
  if f.extended then skipLayout false cs else cs

end TestRollup.Pattern
