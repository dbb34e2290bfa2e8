import TestRollup.Xml.Namespace

/- Documents. A document is one element with white space and remarks around it,
   and an XML declaration in front if it has one. Reading goes over the tokens
   once and keeps the elements that are still open in a list, so elements may nest
   to any depth. A document type declaration is refused, and with it every entity
   beyond the five named characters.

   Whether a text is a document is all that a failure tells; the reason is not
   kept. -/
namespace TestRollup.Xml

/-- An element whose end has not been read yet, with what it holds so far in
    reverse. -/
structure OpenElement where
  name : Name
  attributes : List Attribute
  scope : Namespace.Scope
  children : List Element

/-- The element that is complete once its end has been read. -/
def OpenElement.close (o : OpenElement) : Element := ⟨o.name, o.attributes, o.children.reverse⟩

/-- A document read in part: the open elements, the innermost first, and the root
    element once it is complete. -/
structure Builder where
  opened : List OpenElement
  root : Option Element

namespace Builder

def start : Builder := ⟨[], none⟩

/-- The namespaces declared at this place. -/
def scope (b : Builder) : Namespace.Scope :=
  match b.opened with
  | [] => []
  | o :: _ => o.scope

/-- A tag may open an element here: inside another one, or as the root. -/
def admitsElement (b : Builder) : Bool := !b.opened.isEmpty || b.root.isNone

/-- Puts a complete element where it belongs. -/
def attach (e : Element) : List OpenElement → Option Element → Builder
  | [], _ => ⟨[], some e⟩
  | o :: os, root => ⟨{ o with children := e :: o.children } :: os, root⟩

/-- The characters may stand between tags. -/
def isCharacterData (raw : List Char) : Bool :=
  !holdsMark [']', ']', '>'] raw && (expand? raw).isSome

/-- Takes one token up. -/
def add? (b : Builder) : Token → Option Builder
  | .startTag name attributes =>
    if b.admitsElement then
      match Namespace.settle? b.scope name attributes with
      | none => none
      | some (scope, attributes) => some ⟨⟨name, attributes, scope, []⟩ :: b.opened, b.root⟩
    else none
  | .emptyTag name attributes =>
    if b.admitsElement then
      match Namespace.settle? b.scope name attributes with
      | none => none
      | some (_, attributes) => some (attach ⟨name, attributes, []⟩ b.opened b.root)
    else none
  | .endTag name =>
    match b.opened with
    | [] => none
    | o :: os => if o.name = name then some (attach o.close os b.root) else none
  | .text raw =>
    if b.opened.isEmpty then
      if raw.all isSpace then some b else none
    else if isCharacterData raw then some b
    else none
  | .verbatim => if b.opened.isEmpty then none else some b
  | .remark => some b

/-- Takes all tokens of a text up. -/
def addText? (b : Builder) (cs : List Char) : Option Builder :=
  match cs with
  | [] => some b
  | c :: cs =>
    match _read : Token.read? (c :: cs) with
    | none => none
    | some (token, rest) =>
      match b.add? token with
      | none => none
      | some b => addText? b rest
termination_by cs.length
decreasing_by exact Token.read?_length _read

theorem addText?_nil (b : Builder) : b.addText? [] = some b := by
  rw [addText?]

/-- A text whose first token can be read is taken up token by token. -/
theorem addText?_of_read {cs rest : List Char} {token : Token}
    (h : Token.read? cs = some (token, rest)) (b : Builder) :
    b.addText? cs = (b.add? token).bind (·.addText? rest) := by
  cases cs with
  | nil => simp [Token.read?] at h
  | cons c cs =>
    rw [addText?]
    split
    · next hn => rw [h] at hn; simp at hn
    · next t r hr =>
      rw [h] at hr
      simp only [Option.some.injEq, Prod.mk.injEq] at hr
      obtain ⟨rfl, rfl⟩ := hr
      cases b.add? token <;> rfl

/-- The root element, once nothing is open any more. -/
def finished? (b : Builder) : Option Element :=
  match b.opened with
  | [] => b.root
  | _ :: _ => none

end Builder

/-! ## What may stand in front -/

/-- A mark that begins a text may stand there once. -/
def byteOrderMark : Char := '\uFEFF'

def withoutByteOrderMark : List Char → List Char
  | c :: cs => if c = byteOrderMark then cs else c :: cs
  | [] => []

namespace Declaration

/-- Reads an assignment to a name with this beginning. -/
def item? (key : String) (cs : List Char) : Option (List Char) :=
  if key.toList.isPrefixOf cs then (assignment? cs).map (·.2.2) else none

/-- Drops the space behind an item, which may be absent only before the end. -/
def gap? (cs : List Char) : Option (List Char) :=
  if cs.head?.any isSpace || ['?', '>'].isPrefixOf cs then some (dropSpace cs) else none

/-- What follows an XML declaration, from behind its opening. Its values are not
    looked at. -/
def rest? (cs : List Char) : Option (List Char) := do
  let cs ← item? "version" (dropSpace cs)
  let cs ← gap? cs
  let cs ← match item? "encoding" cs with
    | some rest => gap? rest
    | none => some cs
  let cs := (item? "standalone" cs).getD cs
  withoutMark? ['?', '>'] (dropSpace cs)

end Declaration

/-- The text of a document behind its XML declaration, if it has one. -/
def withoutDeclaration? (cs : List Char) : Option (List Char) :=
  if declarationMark.isPrefixOf cs then Declaration.rest? (cs.drop declarationMark.length)
  else some cs

/-- Reads a document: its root element. -/
def readDocument? (cs : List Char) : Option Element :=
  if cs.all isAllowed then
    match withoutDeclaration? (withoutByteOrderMark cs) with
    | none => none
    | some cs =>
      match Builder.start.addText? cs with
      | none => none
      | some b => b.finished?
  else none

end TestRollup.Xml
