import TestRollup.Pattern.Atom

/- Classes of characters in brackets. A class holds characters, ranges, named
   classes and classes in brackets, and lists of these can be combined by doubled
   signs for what is in both, in the first only, or in just one. A complement of
   bytes would have bytes beyond ASCII and cannot be used; nor can a character
   where case is ignored among all scripts.

   What a class stands for does not matter here. All that is kept of what has been
   read is how deep it is nested: brackets count, lists of more than one member,
   and signs. -/
namespace TestRollup.Pattern

/-- The depth of a list whose members have these depths: a list of one is that one. -/
def listDepth : List Nat → Nat
  | [] => 0
  | [depth] => depth
  | depths => depths.foldl Nat.max 0 + 1

/-- A class that has been opened and not been closed. -/
structure OpenClass where
  /-- The depth of what stands before the last sign. -/
  before : Option Nat
  /-- The depths of the members behind it, the last one first. -/
  members : List Nat

namespace OpenClass

/-- The depth of everything up to here. -/
def depth (o : OpenClass) : Nat :=
  match o.before with
  | none => listDepth o.members
  | some before => Nat.max before (listDepth o.members) + 1

/-- Adds a member. -/
def add (o : OpenClass) (depth : Nat) : OpenClass := { o with members := depth :: o.members }

/-- Starts a new list behind a sign. -/
def addSign (o : OpenClass) : OpenClass := ⟨some o.depth, []⟩

end OpenClass

/-- The classes that have names. -/
def classNames : List String :=
  ["alnum", "alpha", "ascii", "blank", "cntrl", "digit", "graph", "lower", "print", "punct",
    "space", "upper", "word", "xdigit"]

/-- Reads a named class behind its opening bracket: its name between colons,
perhaps behind a caret for the complement, and a closing bracket. -/
def named? (cs : List Char) : Option (Bool × List Char) :=
  match cs with
  | ':' :: cs =>
    let negated := ['^'].isPrefixOf cs
    let cs := if negated then cs.drop 1 else cs
    match cs.dropWhile (· != ':') with
    | ':' :: ']' :: rest =>
      if classNames.contains (String.ofList (cs.takeWhile (· != ':'))) then some (negated, rest)
      else none
    | _ => none
  | _ => none

/-- A named class or its complement can be used. -/
def isUsableNamed (f : Flags) (negated : Bool) : Bool :=
  if f.unicode then !f.ignoreCase else !negated

/-- The character that follows a hyphen, to tell a range from a hyphen. Where
blanks are left out they are passed over, and so is the number sign of a comment,
but not the comment. -/
def following? (f : Flags) (cs : List Char) : Option Char :=
  if !f.extended then cs.head?
  else
    match cs.dropWhile Text.isBlank with
    | [] => cs.head?
    | '#' :: rest =>
      match rest.dropWhile Text.isBlank with
      | [] => cs.head?
      | c :: _ => some c
    | c :: _ => some c

/-- The first character of a range is not behind the last one. -/
def isRange : Atom → Atom → Bool
  | .literal a _, .literal b _ => a.toNat ≤ b.toNat
  | _, _ => false

/-- Reads a character or a range; what follows it is left. -/
def readMember? (f : Flags) (cs : List Char) : Option (List Char) :=
  match Atom.readInClass? f cs with
  | none => none
  | some (low, rest) =>
    match low.isUsableInClass f, f.skip rest with
    | false, _ | _, [] => none
    | _, '-' :: behind =>
      if following? f behind = some ']' || following? f behind = some '-' then some ('-' :: behind)
      else
        match Atom.readInClass? f (f.skip behind) with
        | none => none
        | some (high, rest) =>
          if high.isUsableInClass f && isRange low high then some rest else none
    | _, rest => some rest

/-- The hyphens at the start of a class, which stand for themselves, with what
follows them. -/
def leadingHyphens (f : Flags) : (inComment : Bool) → List Char → Nat × List Char
  | _, [] => (0, [])
  | true, c :: cs => leadingHyphens f (c != '\n') cs
  | false, c :: cs =>
    if c == '-' then
      match leadingHyphens f false cs with
      | (hyphens, rest) => (hyphens + 1, rest)
    else if f.extended && Text.isBlank c then leadingHyphens f false cs
    else if f.extended && c == '#' then leadingHyphens f true cs
    else (0, c :: cs)

/-- Opens a class behind its bracket. Hyphens that come first stand for
themselves, and so does a closing bracket that comes first. -/
def openClass? (f : Flags) (cs : List Char) : Option (OpenClass × List Char) :=
  let negated := ['^'].isPrefixOf (f.skip cs)
  let cs := if negated then f.skip ((f.skip cs).drop 1) else f.skip cs
  let isLiteralUsable := (Atom.literal '-' false).isUsableInClass f
  if negated && !f.unicode then none
  else
    match leadingHyphens f false cs with
    | (_, []) => none
    | (0, ']' :: rest) =>
      match isLiteralUsable, f.skip rest with
      | false, _ | _, [] => none
      | _, rest => some (⟨none, [0]⟩, rest)
    | (0, rest) => some (⟨none, []⟩, rest)
    | (hyphens, rest) =>
      if isLiteralUsable then some (⟨none, List.replicate hyphens 0⟩, rest) else none

/-- Reads the rest of a class from inside of these open classes, the innermost
first, up to the depth of the outermost; each step takes a character at least. -/
def readClassWithin? (f : Flags) :
    (steps : Nat) → List OpenClass → List Char → Option (Nat × List Char)
  | 0, _, _ => none
  | _ + 1, [], _ => none
  | steps + 1, inner :: outer, cs =>
    match f.skip cs with
    | [] => none
    | '[' :: rest =>
      match named? rest with
      | some (negated, rest) =>
        if isUsableNamed f negated then readClassWithin? f steps (inner.add 0 :: outer) rest
        else none
      | none =>
        match openClass? f rest with
        | none => none
        | some (opened, rest) => readClassWithin? f steps (opened :: inner :: outer) rest
    | ']' :: rest =>
      match outer with
      | [] => some (inner.depth + 1, rest)
      | next :: outer => readClassWithin? f steps (next.add (inner.depth + 1) :: outer) rest
    | '&' :: '&' :: rest | '-' :: '-' :: rest | '~' :: '~' :: rest =>
      readClassWithin? f steps (inner.addSign :: outer) rest
    | cs =>
      match readMember? f cs with
      | none => none
      | some rest => readClassWithin? f steps (inner.add 0 :: outer) rest

/-- Reads a class behind its opening bracket, up to its depth. -/
def readClass? (f : Flags) (cs : List Char) : Option (Nat × List Char) :=
  match openClass? f cs with
  | none => none
  | some (opened, rest) => readClassWithin? f (rest.length + 1) [opened] rest

end TestRollup.Pattern
