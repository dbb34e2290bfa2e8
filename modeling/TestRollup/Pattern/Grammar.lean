import TestRollup.Pattern.CharClass
import TestRollup.Text.Alphanumeric

/- Patterns: regular expressions for texts. A pattern is a choice of sequences of
   atoms, classes and groups, each of which can be repeated. Here a text is only
   told to be a pattern that can be used or not to be one; nothing is matched.

   A pattern is read from the left with the groups that are open, and of what has
   been read only how deep it is nested is kept: sequences, choices, repetitions,
   groups and the brackets of classes must not nest deeper than a limit. -/
namespace TestRollup.Pattern

/-- How deep a pattern can be nested. -/
def depthLimit : Nat := 250

/-- A member of a sequence. -/
inductive Member where
  /-- A setting of flags, which cannot be repeated. -/
  | setting
  /-- Anything else, nested so deep. -/
  | part (depth : Nat)
  deriving DecidableEq

def Member.depth : Member → Nat
  | setting => 0
  | part depth => depth

/-- A choice that is being read. -/
structure Choice where
  /-- The depths of the sequences before the last bar. -/
  before : List Nat
  /-- The sequence behind it, the last member first. -/
  members : List Member

namespace Choice

/-- A choice of which nothing has been read. -/
def start : Choice := ⟨[], []⟩

/-- Adds a member. -/
def add (c : Choice) (m : Member) : Choice := { c with members := m :: c.members }

/-- Starts a new sequence behind a bar. -/
def addBar (c : Choice) : Choice :=
  ⟨listDepth (c.members.map Member.depth) :: c.before, []⟩

/-- The depth of the whole choice. -/
def depth (c : Choice) : Nat := listDepth c.addBar.before

/-- Repeats the last member, if there is one that can be repeated. -/
def repeated? (c : Choice) : Option Choice :=
  match c.members with
  | .part depth :: members => some { c with members := .part (depth + 1) :: members }
  | _ => none

end Choice

/-- What has been read of a pattern. -/
structure Progress where
  flags : Flags
  /-- The names of groups. -/
  names : List (List Char)
  /-- What is being read. -/
  choice : Choice
  /-- What the open groups stand in, the innermost first, with the flags there. -/
  outer : List (Flags × Choice)

namespace Progress

/-- Nothing has been read. -/
def start : Progress := ⟨.standard, [], .start, []⟩

/-- Opens a group in which these flags are in force. -/
def openGroup (p : Progress) (flags : Flags) : Progress :=
  { p with flags := flags, choice := .start, outer := (p.flags, p.choice) :: p.outer }

/-- Closes the innermost group. -/
def closeGroup? (p : Progress) : Option Progress :=
  match p.outer with
  | [] => none
  | (flags, choice) :: outer =>
    some { p with
      flags := flags, choice := choice.add (.part (p.choice.depth + 1)), outer := outer }

/-- A name of a group starts with a letter or a low line, and goes on with these,
digits, points and brackets. -/
def isGroupName : List Char → Bool
  | [] => false
  | c :: cs =>
    (c == '_' || Text.isAlphabetic c) &&
      cs.all fun c => ['_', '.', '[', ']'].contains c || Text.isAlphanumeric c

/-- Opens a group with a name, behind the angle bracket. -/
def openNamed? (p : Progress) (cs : List Char) : Option (Progress × List Char) :=
  let name := cs.takeWhile (· != '>')
  match cs.dropWhile (· != '>') with
  | '>' :: rest =>
    if isGroupName name && !p.names.contains name then
      some ({ p.openGroup p.flags with names := name :: p.names }, rest)
    else none
  | _ => none

/-- Sets flags, for the group that they open or for the rest of the group they
stand in, behind the question mark. -/
def setFlags? (p : Progress) (cs : List Char) : Option (Progress × List Char) :=
  let isLetter := fun c => c != ':' && c != ')'
  let letters := cs.takeWhile isLetter
  if !Flags.isSetting letters then none
  else
    match cs.dropWhile isLetter with
    | ':' :: rest => some (p.openGroup (p.flags.set letters), rest)
    | ')' :: rest =>
      if letters.isEmpty then none
      else some ({ p with flags := p.flags.set letters, choice := p.choice.add .setting }, rest)
    | _ => none

/-- Takes up what an opening parenthesis begins. Looking ahead or behind is not
possible. -/
def parenthesis? (p : Progress) (cs : List Char) : Option (Progress × List Char) :=
  match p.flags.skip cs with
  | '?' :: '<' :: '=' :: _ | '?' :: '<' :: '!' :: _ => none
  | '?' :: 'P' :: '<' :: rest | '?' :: '<' :: rest => p.openNamed? rest
  | '?' :: rest => p.setFlags? rest
  | rest => some (p.openGroup p.flags, rest)

/-- Repeats the last member. A question mark that follows directly belongs to the
repetition. -/
def repeat? (p : Progress) (cs : List Char) : Option (Progress × List Char) :=
  p.choice.repeated?.map fun choice =>
    ({ p with choice := choice }, if ['?'].isPrefixOf cs then cs.drop 1 else cs)

/-- Takes up an atom. -/
def atom? (p : Progress) (cs : List Char) : Option (Progress × List Char) :=
  match Atom.read? p.flags cs with
  | none => none
  | some (atom, rest) =>
    if atom.isUsable p.flags then some ({ p with choice := p.choice.add (.part 0) }, rest)
    else none

/-- Takes up the next piece of a text that is not empty. A repetition with counts
between braces is not possible, as nothing in a field can close a brace. -/
def next? (p : Progress) (cs : List Char) : Option (Progress × List Char) :=
  match cs with
  | '(' :: rest => p.parenthesis? rest
  | ')' :: rest => p.closeGroup?.map fun p => (p, rest)
  | '|' :: rest => some ({ p with choice := p.choice.addBar }, rest)
  | '[' :: rest =>
    (readClass? p.flags rest).map fun (depth, rest) =>
      ({ p with choice := p.choice.add (.part depth) }, rest)
  | '?' :: rest | '*' :: rest | '+' :: rest => p.repeat? rest
  | '\x7b' :: _ => none
  | cs => p.atom? cs

/-- What has been read is a whole pattern. -/
def isComplete (p : Progress) : Bool := p.outer.isEmpty && p.choice.depth ≤ depthLimit

/-- Reads the rest of a pattern; each step takes a character at least. -/
def finish (p : Progress) : (steps : Nat) → List Char → Bool
  | 0, _ => false
  | steps + 1, cs =>
    match p.flags.skip cs with
    | [] => p.isComplete
    | cs =>
      match p.next? cs with
      | none => false
      | some (p, rest) => p.finish steps rest

end Progress

/-- The text is a pattern that can be used. -/
def isPattern (cs : List Char) : Bool := Progress.start.finish (cs.length + 1) cs

end TestRollup.Pattern
