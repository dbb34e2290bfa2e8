import TestRollup.Xml.Token

/- Elements. A document that has been read is a tree of elements: a report says
   all it has to say in names, attributes and nesting, so character data is
   checked when it is read and then dropped.

   Elements and attributes are looked up by their local names. A tag may carry
   several attributes of one local name under different qualifiers; the first one
   written is the one that counts.

   Document order lists an element before its children and those before its next
   sibling. `documentOrder` walks a tree by keeping the elements still to be
   visited in a list, so that the depth of a document costs no stack, and
   `documentOrder_eq` says that this is the order given by the shape of the tree. -/
namespace TestRollup.Xml

/-- An element with its attributes, in the order they are written, and the
    elements directly inside it. -/
structure Element where
  name : Name
  attributes : List Attribute
  children : List Element
  deriving Inhabited

namespace Element

/-- The local name. -/
def tag (e : Element) : String := e.name.localName

def hasTag (e : Element) (tag : String) : Bool := e.tag == tag

/-- The value of the first attribute with this local name. -/
def attribute? (e : Element) (name : String) : Option String :=
  (e.attributes.find? fun a => a.name.localName == name).map (·.value)

def hasAttribute (e : Element) (name : String) : Bool := (e.attribute? name).isSome

/-- The elements directly inside that have this local name. -/
def childrenTagged (e : Element) (tag : String) : List Element :=
  e.children.filter (·.hasTag tag)

theorem forall_mem_childrenTagged {e : Element} {tag : String} {p : Element → Prop} :
    (∀ c ∈ e.childrenTagged tag, p c) ↔ ∀ c ∈ e.children, c.tag = tag → p c := by
  simp [childrenTagged, hasTag]

/-! ## Document order, by the shape of the tree -/

mutual

/-- The element and all elements inside it, in document order. -/
def preorder : Element → List Element
  | ⟨name, attributes, children⟩ => ⟨name, attributes, children⟩ :: preorderAll children

/-- The trees of a list one after the other, each in document order. -/
def preorderAll : List Element → List Element
  | [] => []
  | e :: es => preorder e ++ preorderAll es

end

mutual

/-- The number of elements in a tree. -/
def weight : Element → Nat
  | ⟨_, _, children⟩ => weightAll children + 1

/-- The number of elements in a list of trees. -/
def weightAll : List Element → Nat
  | [] => 0
  | e :: es => weight e + weightAll es

end

theorem preorder_eq (e : Element) : e.preorder = e :: preorderAll e.children := by
  cases e; simp [preorder]

theorem weight_eq (e : Element) : e.weight = weightAll e.children + 1 := by
  cases e; simp [weight]

theorem preorderAll_append (es fs : List Element) :
    preorderAll (es ++ fs) = preorderAll es ++ preorderAll fs := by
  induction es with
  | nil => rfl
  | cons e es ih => simp [preorderAll, ih]

theorem weightAll_append (es fs : List Element) :
    weightAll (es ++ fs) = weightAll es + weightAll fs := by
  induction es with
  | nil => simp [weightAll]
  | cons e es ih => simp [weightAll, ih, Nat.add_assoc]

/-! ## Document order, by a walk -/

/-- Visits the pending elements and all elements inside them, behind those
    already visited. -/
def walk (visited : Array Element) (pending : List Element) : Array Element :=
  match pending with
  | [] => visited
  | e :: rest => walk (visited.push e) (e.children ++ rest)
termination_by weightAll pending
decreasing_by
  rw [weightAll_append, weightAll, weight_eq]
  omega

/-- The element and all elements inside it, in document order. -/
def documentOrder (e : Element) : List Element := (walk #[] [e]).toList

/-- The elements of this local name in the tree, the element itself included, in
    document order. -/
def descendantsTagged (e : Element) (tag : String) : List Element :=
  e.documentOrder.filter (·.hasTag tag)

theorem walk_toList (visited : Array Element) (pending : List Element) :
    (walk visited pending).toList = visited.toList ++ preorderAll pending := by
  fun_induction walk visited pending with
  | case1 => simp [preorderAll]
  | case2 visited e rest ih =>
    rw [ih, preorderAll_append, preorderAll, preorder_eq]
    simp

/-- The walk visits a tree in the order of its shape. -/
theorem documentOrder_eq (e : Element) : e.documentOrder = e.preorder := by
  simp [documentOrder, walk_toList, preorderAll]

end Element

end TestRollup.Xml
