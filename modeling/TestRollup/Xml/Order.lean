import TestRollup.Xml.Element

/- Numbers of elements. The elements of a document are numbered in document order
   from 0, the root. A placed element is an element with its number; the numbers
   inside its tree go on from there without a gap, and each child comes after the
   whole tree of the child before it. -/
namespace TestRollup.Xml

/-- An element with its number in document order. -/
structure Placed where
  number : Nat
  element : Element

namespace Placed

/-- The elements of a tree with their numbers, in document order. -/
def subtree (p : Placed) : List Placed :=
  (p.element.documentOrder.zipIdx p.number).map fun x => ⟨x.2, x.1⟩

/-- Neighbouring trees, the first of which has the given number. -/
def row (number : Nat) : List Element → List Placed
  | [] => []
  | e :: es => ⟨number, e⟩ :: row (number + e.documentOrder.length) es

/-- The elements directly inside, with their numbers. -/
def children (p : Placed) : List Placed := row (p.number + 1) p.element.children

/-- The elements directly inside that have this local name. -/
def childrenTagged (p : Placed) (tag : String) : List Placed :=
  p.children.filter (·.element.hasTag tag)

/-- The elements of this local name in the tree, the element itself included. -/
def descendantsTagged (p : Placed) (tag : String) : List Placed :=
  p.subtree.filter (·.element.hasTag tag)

end Placed

/-- The elements of a document with their numbers. -/
def Element.numbered (root : Element) : List Placed := Placed.subtree ⟨0, root⟩

namespace Placed

theorem map_element_row (number : Nat) (es : List Element) :
    (row number es).map (·.element) = es := by
  induction es generalizing number with
  | nil => rfl
  | cons e es ih => simp [row, ih]

theorem map_element_subtree (p : Placed) :
    p.subtree.map (·.element) = p.element.documentOrder := by
  simp [subtree, List.map_map, Function.comp_def]

/-- Numbers aside, the placed children are the children. -/
theorem map_element_childrenTagged (p : Placed) (tag : String) :
    (p.childrenTagged tag).map (·.element) = p.element.childrenTagged tag := by
  rw [childrenTagged, Element.childrenTagged, children,
    ← map_element_row (p.number + 1) p.element.children, List.filter_map]
  simp [map_element_row, Function.comp_def]

/-- Numbers aside, the placed descendants are the descendants. -/
theorem map_element_descendantsTagged (p : Placed) (tag : String) :
    (p.descendantsTagged tag).map (·.element) = p.element.descendantsTagged tag := by
  rw [descendantsTagged, Element.descendantsTagged, ← map_element_subtree, List.filter_map]
  simp [Function.comp_def]

end Placed

end TestRollup.Xml
