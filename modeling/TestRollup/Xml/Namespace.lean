import TestRollup.Xml.Element

/- Namespaces. An attribute qualified with `xmlns` declares a qualifier for its
   element and everything inside; an attribute with the local name `xmlns`
   declares the namespace of unqualified elements. Both are declarations and
   not attributes of the element.

   A qualifier must have been declared before it is used, apart from the attribute
   qualifier `xml`, which is built in and cannot be bound to another namespace.
   Nothing in a report depends on which namespace an element is in; namespaces
   decide only whether two attributes of one tag have the same name, which is an
   error. -/
namespace TestRollup.Xml

namespace Namespace

/-- The namespace of the qualifier `xml`. -/
def builtIn : String := "http://www.w3.org/XML/1998/namespace"

/-- The namespace of declarations, which cannot be declared. -/
def reserved : String := "http://www.w3.org/2000/xmlns/"

/-- Declared qualifiers with their namespaces, the innermost first. -/
abbrev Scope := List (String × String)

/-- The attribute declares a namespace. -/
def declares (a : Attribute) : Bool :=
  a.name.qualifier == "xmlns" || a.name.localName == "xmlns"

/-- The attribute declares a qualifier, other than the built-in one. -/
def binds (a : Attribute) : Bool :=
  a.name.qualifier == "xmlns" && a.name.localName != "xml"

/-- The namespace may be declared under this name: the built-in one only for its
    own qualifier, and no other for that. -/
def permitted (a : Attribute) : Bool :=
  if a.name.qualifier == "xmlns" && a.name.localName == "xml" then a.value == builtIn
  else a.value != builtIn && a.value != reserved

/-- The qualifiers that a tag declares. -/
def bindings (attributes : List Attribute) : Scope :=
  (attributes.filter binds).map fun a => (a.name.localName, a.value)

/-- The scope inside a tag, if its declarations may stand together. -/
def enter? (scope : Scope) (attributes : List Attribute) : Option Scope :=
  let own := bindings attributes
  if (attributes.filter declares).all permitted && (own.map (·.1)).Nodup then
    some (own ++ scope)
  else none

/-- The name of an attribute with its namespace in place of its qualifier. An
    unqualified attribute is in no namespace. -/
def expanded? (scope : Scope) (name : Name) : Option (Option String × String) :=
  if name.qualifier == "" then some (none, name.localName)
  else if name.qualifier == "xml" then some (some builtIn, name.localName)
  else (scope.lookup name.qualifier).map fun uri => (some uri, name.localName)

/-- An element may carry this name. -/
def elementNamePermitted (scope : Scope) (name : Name) : Bool :=
  name.qualifier == "" ||
    (name.qualifier != "xml" && name.qualifier != "xmlns" &&
      (scope.lookup name.qualifier).isSome)

/-- Settles a tag: the scope inside it and its attributes without the
    declarations, if all its qualifiers are declared and no two of its
    attributes have the same name. -/
def settle? (scope : Scope) (name : Name) (attributes : List Attribute) :
    Option (Scope × List Attribute) :=
  match enter? scope attributes with
  | none => none
  | some inner =>
    let plain := attributes.filter (!declares ·)
    match plain.mapM fun a => expanded? inner a.name with
    | none => none
    | some names =>
      if elementNamePermitted inner name && names.Nodup then some (inner, plain) else none

end Namespace

end TestRollup.Xml
