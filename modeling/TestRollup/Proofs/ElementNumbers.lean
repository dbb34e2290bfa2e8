import Mathlib.Data.List.Nodup
import Mathlib.Data.List.Pairwise
import Mathlib.Data.List.Flatten
import Mathlib.Data.List.Perm.Basic
import Mathlib.Logic.Relation
import TestRollup.Xml.Order

/- Numbers of elements and the shape of the tree. `HasChild` says which element stands directly
   inside which, told by the siblings in front of it and the numbers that their trees take up.
   The equation `subtree_eq` ties the flat list of a tree to this relation: an element, and
   then the trees of its children one after the other. What is said of a tree is proved from
   its children upwards with it (`induct`).

   The numbers of a tree go on without a gap (`numbers_subtree`), so no number is given twice,
   lists in document order are strictly increasing, and the trees inside a document are
   intervals of its numbers. Each element but the root is listed under one parent, because the
   lists of all children put together are the elements of the tree without its root
   (`subtree_perm`). -/
namespace TestRollup.Xml

open Relation (ReflTransGen)
open Element (weightAll)

namespace Element

mutual

theorem length_preorder : ∀ e : Element, e.preorder.length = e.weight
  | ⟨name, attributes, children⟩ => by
    rw [preorder, weight, List.length_cons, length_preorderAll children]

theorem length_preorderAll : ∀ es : List Element, (preorderAll es).length = weightAll es
  | [] => rfl
  | e :: es => by
    rw [preorderAll, weightAll, List.length_append, length_preorder e, length_preorderAll es]

end

theorem length_documentOrder (e : Element) : e.documentOrder.length = e.weight := by
  rw [documentOrder_eq, length_preorder]

theorem weight_le_weightAll {e : Element} {es : List Element} (h : e ∈ es) :
    e.weight ≤ weightAll es := by
  obtain ⟨before, after, rfl⟩ := List.append_of_mem h
  rw [weightAll_append, weightAll]
  omega

end Element

namespace Placed

/-- The second element stands directly inside the first. The numbers from that of the first to
its own go to the trees of the elements that stand before it there. -/
def HasChild (p q : Placed) : Prop :=
  ∃ before after, p.element.children = before ++ q.element :: after ∧
    q.number = p.number + 1 + weightAll before

/-- The list holds exactly the elements with the property, by strictly increasing numbers. -/
structure Lists (l : List Placed) (P : Placed → Prop) : Prop where
  increasing : l.Pairwise (·.number < ·.number)
  mem_iff : ∀ q, q ∈ l ↔ P q

variable {p q r : Placed}

theorem Lists.filter {l : List Placed} {P : Placed → Prop} (h : Lists l P) (tag : String) :
    Lists (l.filter (·.element.hasTag tag)) fun q => q.element.tag = tag ∧ P q where
  increasing := h.increasing.filter _
  mem_iff q := by
    rw [List.mem_filter, h.mem_iff, Element.hasTag, beq_iff_eq, and_comm]

/-! ## Children -/

theorem mem_row_iff {number : Nat} {es : List Element} :
    q ∈ row number es ↔ ∃ before after, es = before ++ q.element :: after ∧
      q.number = number + weightAll before := by
  induction es generalizing number with
  | nil => simp [row]
  | cons e es ih =>
    rw [row, List.mem_cons, ih, Element.length_documentOrder]
    constructor
    · rintro (rfl | ⟨before, after, rfl, hnumber⟩)
      · exact ⟨[], es, rfl, rfl⟩
      · refine ⟨e :: before, after, rfl, ?_⟩
        rw [hnumber, weightAll]
        omega
    · rintro ⟨before, after, hes, hnumber⟩
      cases before with
      | nil =>
        obtain ⟨rfl, rfl⟩ := List.cons.inj hes
        left
        cases q
        simp_all [weightAll]
      | cons first before =>
        obtain ⟨rfl, rfl⟩ := List.cons.inj hes
        refine .inr ⟨before, after, rfl, ?_⟩
        rw [hnumber, weightAll]
        omega

theorem mem_children_iff : q ∈ p.children ↔ p.HasChild q := mem_row_iff

theorem weight_lt_of_mem_children (h : q ∈ p.children) : q.element.weight < p.element.weight := by
  obtain ⟨before, after, hchildren, -⟩ := mem_children_iff.mp h
  have hmem : q.element ∈ p.element.children := by
    rw [hchildren]
    simp
  have hle := Element.weight_le_weightAll hmem
  rw [Element.weight_eq p.element]
  omega

/-- What passes from the children of an element to the element holds of every element. -/
@[elab_as_elim]
theorem induct {motive : Placed → Prop} (step : ∀ p, (∀ c ∈ p.children, motive c) → motive p)
    (p : Placed) : motive p :=
  step p fun c _hc => induct step c
termination_by p.element.weight
decreasing_by exact weight_lt_of_mem_children _hc

/-! ## The elements of a tree -/

theorem map_zipIdx_preorderAll (number : Nat) (es : List Element) :
    ((Element.preorderAll es).zipIdx number).map (fun x => Placed.mk x.2 x.1) =
      (row number es).flatMap subtree := by
  induction es generalizing number with
  | nil => rfl
  | cons e es ih =>
    rw [Element.preorderAll, List.zipIdx_append, List.map_append, ih, row, List.flatMap_cons,
      subtree, Element.documentOrder_eq]

/-- A tree is its first element and the trees of the children, one after the other. -/
theorem subtree_eq (p : Placed) : p.subtree = p :: p.children.flatMap subtree := by
  rw [subtree, Element.documentOrder_eq, Element.preorder_eq, List.zipIdx_cons, List.map_cons,
    map_zipIdx_preorderAll]
  rfl

theorem mem_subtree_self (p : Placed) : p ∈ p.subtree := by
  rw [subtree_eq]
  exact List.mem_cons_self

theorem mem_subtree_iff : q ∈ p.subtree ↔ ReflTransGen HasChild p q := by
  constructor
  · intro h
    induction p using induct with
    | step p ih =>
      rw [subtree_eq, List.mem_cons, List.mem_flatMap] at h
      rcases h with rfl | ⟨c, hc, hq⟩
      · exact .refl
      · exact .head (mem_children_iff.mp hc) (ih c hc hq)
  · intro h
    induction h using ReflTransGen.head_induction_on with
    | refl => exact mem_subtree_self q
    | head hchild _ ih =>
      rw [subtree_eq]
      exact List.mem_cons_of_mem _
        (List.mem_flatMap.mpr ⟨_, mem_children_iff.mpr hchild, ih⟩)

theorem subtree_subset (h : q ∈ p.subtree) : q.subtree ⊆ p.subtree := by
  intro r hr
  rw [mem_subtree_iff] at h hr ⊢
  exact h.trans hr

/-! ## Their numbers -/

theorem numbers_subtree (p : Placed) :
    p.subtree.map number = List.range' p.number p.element.weight := by
  rw [subtree, List.map_map, ← Element.length_documentOrder]
  exact List.zipIdx_map_snd p.number p.element.documentOrder

theorem nodup_numbers (p : Placed) : (p.subtree.map number).Nodup := by
  rw [numbers_subtree]
  exact List.nodup_range'

theorem lists_subtree (p : Placed) : Lists p.subtree (ReflTransGen HasChild p) where
  increasing := by
    apply List.pairwise_map.mp
    rw [numbers_subtree]
    exact List.pairwise_lt_range'
  mem_iff _ := mem_subtree_iff

theorem lists_children (p : Placed) : Lists p.children p.HasChild where
  increasing := by
    have hsublist : p.children.Sublist p.subtree := by
      rw [subtree_eq]
      apply List.Sublist.cons
      -- each child is the first element of its own tree
      induction p.children with
      | nil => exact .slnil
      | cons c cs ih =>
        rw [List.flatMap_cons, subtree_eq, List.cons_append]
        exact (ih.trans (List.sublist_append_right _ _)).cons_cons c
    exact p.lists_subtree.increasing.sublist hsublist
  mem_iff _ := mem_children_iff

/-- The elements of a tree inside a document are those with the numbers from that of its first
element on, as many as the tree has elements. -/
theorem mem_subtree_iff_number (hp : p ∈ r.subtree) (hq : q ∈ r.subtree) :
    q ∈ p.subtree ↔ p.number ≤ q.number ∧ q.number < p.number + p.element.weight := by
  rw [← List.mem_range'_1, ← numbers_subtree, List.mem_map]
  constructor
  · intro h
    exact ⟨q, h, rfl⟩
  · rintro ⟨other, hother, hnumber⟩
    have hsame : other = q :=
      List.inj_on_of_nodup_map (nodup_numbers r) (subtree_subset hp hother) hq hnumber
    rwa [← hsame]

/-! ## Parents -/

/-- The elements of a tree are its first one and all children of its elements. -/
theorem subtree_perm (p : Placed) : p.subtree.Perm (p :: p.subtree.flatMap children) := by
  induction p using induct with
  | step p ih =>
    have htrees : (p.children.flatMap subtree).Perm
        (p.children.flatMap fun c => c :: c.subtree.flatMap children) := .flatMap_left _ ih
    have hsplit := List.map_append_flatMap_perm p.children id fun c => c.subtree.flatMap children
    rw [List.map_id] at hsplit
    rw [subtree_eq, List.flatMap_cons, List.flatMap_assoc]
    exact (htrees.trans hsplit.symm).cons p

/-- Every element of a tree but the first one is a child of exactly one element of the tree. -/
theorem existsUnique_parent (hq : q ∈ p.subtree) (hne : q ≠ p) :
    ∃! r, r ∈ p.subtree ∧ q ∈ r.children := by
  have hperm := p.subtree_perm
  have hnodup : (p.subtree.flatMap children).Nodup :=
    (List.nodup_cons.mp (hperm.nodup_iff.mp (p.nodup_numbers.of_map number))).2
  have hmem : q ∈ p.subtree.flatMap children :=
    List.mem_of_ne_of_mem hne (hperm.mem_iff.mp hq)
  obtain ⟨r, hr, hqr⟩ := List.mem_flatMap.mp hmem
  refine ⟨r, ⟨hr, hqr⟩, ?_⟩
  rintro other ⟨hother, hqother⟩
  by_contra hdiffer
  have hsymm : Std.Symm (Function.onFun List.Disjoint children) :=
    ⟨fun _ _ h => List.disjoint_symm h⟩
  -- no element stands twice in the children put together
  have hdisjoint := (List.nodup_flatMap.mp hnodup).2.forall hother hr hdiffer
  exact hdisjoint hqother hqr

/-! ## Traversals -/

theorem lists_descendantsTagged (p : Placed) (tag : String) :
    Lists (p.descendantsTagged tag) fun q => q.element.tag = tag ∧ ReflTransGen HasChild p q :=
  p.lists_subtree.filter tag

theorem lists_childrenTagged (p : Placed) (tag : String) :
    Lists (p.childrenTagged tag) fun q => q.element.tag = tag ∧ p.HasChild q :=
  p.lists_children.filter tag

theorem descendantsTagged_eq (p : Placed) (tag : String) :
    p.descendantsTagged tag = (if p.element.tag = tag then [p] else []) ++
      p.children.flatMap fun c => c.descendantsTagged tag := by
  rw [descendantsTagged, subtree_eq, List.filter_cons, List.filter_flatMap, Element.hasTag]
  by_cases h : p.element.tag = tag
  · simp [h, descendantsTagged]
  · simp [h, descendantsTagged]

end Placed

open Placed

/-- The elements of a document are numbered from 0 on in document order. From each of them, the
elements that child steps lead to are those with the numbers of one interval, which begins at
its own. Among these, the descendants of a local name are listed by strictly increasing numbers;
so are the children, and those of that name. The descendants are the element itself, if it has
the name, and then the descendants of its children, one child after the other. Every element but
the root is listed among the children of exactly one element. -/
theorem numbered_traversals (root : Element) (tag : String) :
    root.numbered.map (·.element) = root.preorder ∧
    root.numbered.map (·.number) = List.range root.weight ∧
    (∀ p ∈ root.numbered,
      (∀ q, ReflTransGen HasChild p q ↔
        q ∈ root.numbered ∧ p.number ≤ q.number ∧ q.number < p.number + p.element.weight) ∧
      Lists (p.descendantsTagged tag)
        (fun q => q.element.tag = tag ∧ ReflTransGen HasChild p q) ∧
      Lists p.children p.HasChild ∧
      Lists (p.childrenTagged tag) (fun q => q.element.tag = tag ∧ p.HasChild q) ∧
      p.descendantsTagged tag = (if p.element.tag = tag then [p] else []) ++
        p.children.flatMap fun c => c.descendantsTagged tag) ∧
    (∀ q ∈ root.numbered, q ≠ ⟨0, root⟩ → q.element.tag = tag →
      ∃! p, p ∈ root.numbered ∧ q ∈ p.childrenTagged tag) := by
  refine ⟨?_, ?_, ?_, ?_⟩
  · rw [Element.numbered, map_element_subtree, Element.documentOrder_eq]
  · rw [Element.numbered, numbers_subtree, List.range_eq_range']
  · intro p hp
    refine ⟨?_, p.lists_descendantsTagged tag, p.lists_children, p.lists_childrenTagged tag,
      p.descendantsTagged_eq tag⟩
    intro q
    rw [← mem_subtree_iff]
    constructor
    · intro h
      have hq := subtree_subset hp h
      exact ⟨hq, (mem_subtree_iff_number hp hq).mp h⟩
    · intro h
      exact (mem_subtree_iff_number hp h.1).mpr h.2
  · intro q hq hne htag
    obtain ⟨p, ⟨hp, hqp⟩, hunique⟩ := existsUnique_parent hq hne
    have hmem : ∀ r : Placed, q ∈ r.childrenTagged tag ↔ q ∈ r.children := by
      intro r
      rw [(r.lists_childrenTagged tag).mem_iff, r.lists_children.mem_iff]
      exact and_iff_right htag
    refine ⟨p, ⟨hp, (hmem p).mpr hqp⟩, ?_⟩
    rintro r ⟨hr, hqr⟩
    exact hunique r ⟨hr, (hmem r).mp hqr⟩

end TestRollup.Xml
