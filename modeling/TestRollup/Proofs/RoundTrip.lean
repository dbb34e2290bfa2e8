import TestRollup.Proofs.DocumentText
import TestRollup.Report.Counting

/- A proper tree is read back from its text (`Report.documentOf?_written`). A tag that
   stands behind the declarations it needs settles to itself in every scope, so an
   element is taken up as one complete element wherever an element may stand, and its
   children as its children, by induction on the tree. -/
namespace TestRollup.Xml

/-! ## Namespaces -/

theorem mem_qualifiersOf_iff {name : Name} {attributes : List Attribute} {q : String} :
    q ∈ qualifiersOf name attributes ↔
      (q = name.qualifier ∨ ∃ a ∈ attributes, a.name.qualifier = q) ∧ q ≠ "" ∧ q ≠ "xml" := by
  simp [qualifiersOf]

/-- The name with its namespace in a scope where qualifiers stand for themselves. -/
def Name.resolved (n : Name) : Option String × String :=
  (if n.qualifier = "" then none
    else if n.qualifier = "xml" then some Namespace.builtIn
    else some n.qualifier, n.localName)

/-- A namespace with a colon in it is named like no qualifier. -/
theorem ne_of_isNamePart {q uri : String} (h : IsNamePart q.toList) (huri : ':' ∈ uri.toList) :
    q ≠ uri := by
  rintro rfl
  exact (h.2 ':' huri).2 rfl

theorem Name.Proper.resolved_injective {m n : Name} (hm : m.Proper) (hn : n.Proper)
    (h : m.resolved = n.resolved) : m = n := by
  have hbuiltIn : ':' ∈ Namespace.builtIn.toList := by decide
  obtain ⟨q, l⟩ := m
  obtain ⟨q', l'⟩ := n
  have hq : q ≠ "" → q ≠ Namespace.builtIn :=
    fun he => ne_of_isNamePart (hm.qualifier.resolve_left he) hbuiltIn
  have hq' : q' ≠ "" → q' ≠ Namespace.builtIn :=
    fun he => ne_of_isNamePart (hn.qualifier.resolve_left he) hbuiltIn
  grind [Name.resolved]

namespace Namespace

/-- The qualifiers that a tag has to declare, each under itself. -/
def ownScope (name : Name) (attributes : List Attribute) : Scope :=
  (qualifiersOf name attributes).map fun q => (q, q)

theorem bindings_declared {name : Name} {attributes : List Attribute}
    (h : ProperTag name attributes) :
    bindings (declared name attributes) = ownScope name attributes := by
  have hown : ∀ q ∈ qualifiersOf name attributes, (binds ∘ declarationOf) q = true := by
    intro q hq
    simp [binds, declarationOf, (mem_qualifiersOf_iff.mp hq).2.2]
  have hgiven : ∀ a ∈ attributes, ¬ binds a = true := by
    intro a ha hb
    have hplain := (h.given a ha).plain
    simp only [binds, declares, Bool.and_eq_true, Bool.or_eq_false_iff] at hb hplain
    rw [hb.1] at hplain
    cases hplain.1
  rw [bindings, declared, List.filter_append, List.filter_map, List.filter_eq_self.mpr hown,
    List.filter_eq_nil_iff.mpr hgiven, List.append_nil, List.map_map]
  rfl

theorem filter_not_declares_declared {name : Name} {attributes : List Attribute}
    (h : ProperTag name attributes) :
    (declared name attributes).filter (!declares ·) = attributes := by
  have hgiven : ∀ a ∈ attributes, (!declares a) = true := by
    intro a ha
    simp [(h.given a ha).plain]
  have hown : ∀ a ∈ (qualifiersOf name attributes).map declarationOf, ¬ (!declares a) = true := by
    intro a ha
    obtain ⟨q, -, rfl⟩ := List.mem_map.mp ha
    simp [declares, declarationOf]
  rw [declared, List.filter_append, List.filter_eq_nil_iff.mpr hown,
    List.filter_eq_self.mpr hgiven, List.nil_append]

theorem permitted_declared {name : Name} {attributes : List Attribute}
    (h : ProperTag name attributes) :
    ((declared name attributes).filter declares).all permitted = true := by
  rw [List.all_eq_true]
  intro a ha
  obtain ⟨ha, hdeclares⟩ := List.mem_filter.mp ha
  rcases List.mem_append.mp ha with ha | ha
  · obtain ⟨q, hq, rfl⟩ := List.mem_map.mp ha
    have hpart := h.isNamePart_of_mem_qualifiersOf hq
    have hbuiltIn : q ≠ builtIn := ne_of_isNamePart hpart (by decide)
    have hreserved : q ≠ reserved := ne_of_isNamePart hpart (by decide)
    simp [permitted, declarationOf, (mem_qualifiersOf_iff.mp hq).2.2, hbuiltIn, hreserved]
  · rw [(h.given a ha).plain] at hdeclares
    cases hdeclares

theorem lookup_ownScope {name : Name} {attributes : List Attribute} {q : String}
    (h : q ∈ qualifiersOf name attributes) (scope : Scope) :
    (ownScope name attributes ++ scope).lookup q = some q := by
  unfold ownScope
  revert h
  induction qualifiersOf name attributes with
  | nil => simp
  | cons p qualifiers ih =>
    intro h
    rw [List.map_cons, List.cons_append, List.lookup_cons]
    split
    · next hp => rw [beq_iff_eq.mp hp]
    · next hp => exact ih (List.mem_of_ne_of_mem (beq_eq_false_iff_ne.mp hp) h)

/-- Inside its own declarations a tag has the names that its qualifiers give it. -/
theorem expanded?_ownScope {name : Name} {attributes : List Attribute} {a : Attribute}
    (ha : a ∈ attributes) (scope : Scope) :
    expanded? (ownScope name attributes ++ scope) a.name =
      some a.name.resolved := by
  unfold expanded? Name.resolved
  split
  · next hq => simp [beq_iff_eq.mp hq]
  · next hq =>
    split
    · next hx => simp [beq_iff_eq.mp hx]
    · next hx =>
      rw [beq_iff_eq] at hq hx
      have hmem : a.name.qualifier ∈ qualifiersOf name attributes :=
        mem_qualifiersOf_iff.mpr ⟨.inr ⟨a, ha, rfl⟩, hq, hx⟩
      simp [lookup_ownScope hmem, hq, hx]

theorem elementNamePermitted_ownScope {name : Name} {attributes : List Attribute}
    (h : ProperTag name attributes) (scope : Scope) :
    elementNamePermitted (ownScope name attributes ++ scope) name = true := by
  by_cases hq : name.qualifier = ""
  · simp [elementNamePermitted, hq]
  · have hmem : name.qualifier ∈ qualifiersOf name attributes :=
      mem_qualifiersOf_iff.mpr ⟨.inl rfl, hq, h.unreserved.1⟩
    simp [elementNamePermitted, lookup_ownScope hmem, h.unreserved]

theorem mapM_eq_some_iff {f : α → Option β} {xs : List α} {ys : List β} :
    xs.mapM f = some ys ↔ xs.map f = ys.map some := by
  induction xs generalizing ys with
  | nil => cases ys <;> simp
  | cons x xs ih =>
    rw [List.mapM_cons, List.map_cons]
    cases f x with
    | none => cases ys <;> simp
    | some y =>
      cases hxs : xs.mapM f with
      | none => cases ys <;> simp [← ih, hxs]
      | some zs => cases ys <;> simp [← ih, hxs]

/-- A tag behind its declarations settles to itself, whatever is declared around it. -/
theorem settle?_declared {name : Name} {attributes : List Attribute}
    (h : ProperTag name attributes) (scope : Scope) :
    settle? scope name (declared name attributes) =
      some (ownScope name attributes ++ scope, attributes) := by
  have hnodup : ((ownScope name attributes).map (·.1)).Nodup := by
    have hqualifiers : (ownScope name attributes).map (·.1) = qualifiersOf name attributes := by
      rw [ownScope, List.map_map]
      exact List.map_id _
    rw [hqualifiers]
    exact List.nodup_dedup _
  have henter : enter? scope (declared name attributes) =
      some (ownScope name attributes ++ scope) := by
    simp only [enter?, permitted_declared h, bindings_declared h, hnodup]
    rfl
  have hnames : attributes.mapM (fun a => expanded? (ownScope name attributes ++ scope) a.name) =
      some (attributes.map (·.name.resolved)) := by
    rw [mapM_eq_some_iff, List.map_map]
    exact List.map_congr_left fun a ha => expanded?_ownScope ha scope
  have hdistinct : (attributes.map (·.name.resolved)).Nodup := by
    have hmap : attributes.map (·.name.resolved) = (attributes.map (·.name)).map Name.resolved := by
      rw [List.map_map]
      rfl
    rw [hmap]
    -- the qualifiers stand for themselves, so names that differ do not meet in a namespace
    refine h.distinct.map_on fun m hm n hn heq => ?_
    obtain ⟨a, ha, rfl⟩ := List.mem_map.mp hm
    obtain ⟨a', ha', rfl⟩ := List.mem_map.mp hn
    exact (h.given a ha).name.resolved_injective (h.given a' ha').name heq
  simp only [settle?, henter, filter_not_declares_declared h, hnames,
    elementNamePermitted_ownScope h scope, hdistinct]
  rfl

end Namespace

/-! ## Trees -/

namespace Builder

variable {b : Builder}

theorem add?_startTag {name : Name} {attributes : List Attribute} (h : ProperTag name attributes)
    (hb : b.admitsElement = true) :
    ∃ scope, b.add? (.startTag name (declared name attributes)) =
      some ⟨⟨name, attributes, scope, []⟩ :: b.opened, b.root⟩ := by
  refine ⟨Namespace.ownScope name attributes ++ b.scope, ?_⟩
  rw [add?, if_pos hb, Namespace.settle?_declared h]

theorem add?_emptyTag {name : Name} {attributes : List Attribute} (h : ProperTag name attributes)
    (hb : b.admitsElement = true) :
    b.add? (.emptyTag name (declared name attributes)) =
      some (attach ⟨name, attributes, []⟩ b.opened b.root) := by
  rw [add?, if_pos hb, Namespace.settle?_declared h]

/-- The elements are taken up one after the other as children of an open element. -/
theorem addText?_writtenAll {es : List Element}
    (h : ∀ e ∈ es, ∀ (b : Builder) (rest : List Char), b.admitsElement = true →
      b.addText? (e.written ++ rest) = (attach e b.opened b.root).addText? rest)
    (o : OpenElement) (os : List OpenElement) (root : Option Element) (rest : List Char) :
    addText? ⟨o :: os, root⟩ (Element.writtenAll es ++ rest) =
      addText? ⟨{ o with children := es.reverse ++ o.children } :: os, root⟩ rest := by
  -- each element goes in front of the children that the open one already holds
  induction es generalizing o with
  | nil => rfl
  | cons e es ih =>
    obtain ⟨he, hes⟩ := List.forall_mem_cons.mp h
    rw [Element.writtenAll, List.append_assoc, he _ _ rfl, attach, ih hes]
    simp

/-- A proper element is taken up as one complete element wherever an element may stand. -/
theorem addText?_written {e : Element} (h : e.Proper) (b : Builder) (rest : List Char)
    (hb : b.admitsElement = true) :
    b.addText? (e.written ++ rest) = (attach e b.opened b.root).addText? rest := by
  induction h generalizing b rest with
  | @mk name attributes children tag inside ih =>
    rw [Element.written]
    split
    · next hempty =>
      have htext : '<' :: (tagWritten name attributes ++ ['/', '>']) ++ rest =
          '<' :: (tagWritten name attributes ++ '/' :: '>' :: rest) := by simp
      rw [htext, List.isEmpty_iff.mp hempty, addText?_of_read (Token.read?_emptyTag tag rest),
        add?_emptyTag tag hb, Option.bind_some]
    · obtain ⟨scope, hopen⟩ := add?_startTag (b := b) tag hb
      let o : OpenElement := ⟨name, attributes, scope, []⟩
      calc b.addText? ('<' :: (tagWritten name attributes ++ '>' :: (Element.writtenAll children ++
            '<' :: '/' :: (name.written ++ ['>']))) ++ rest)
          = b.addText? ('<' :: (tagWritten name attributes ++ '>' ::
              (Element.writtenAll children ++ '<' :: '/' :: (name.written ++ '>' :: rest)))) := by
            simp
        _ = addText? ⟨o :: b.opened, b.root⟩
              (Element.writtenAll children ++ '<' :: '/' :: (name.written ++ '>' :: rest)) := by
            rw [addText?_of_read (Token.read?_startTag tag _), hopen, Option.bind_some]
        _ = addText? ⟨{ o with children := children.reverse ++ [] } :: b.opened, b.root⟩
              ('<' :: '/' :: (name.written ++ '>' :: rest)) :=
            addText?_writtenAll ih o b.opened b.root _
        _ = (attach ⟨name, attributes, children⟩ b.opened b.root).addText? rest := by
            rw [addText?_of_read (Token.read?_endTag tag.named rest), add?]
            simp [OpenElement.close, o]

end Builder

/-! ## Documents -/

theorem allowed_escape {cs : List Char} (h : ∀ c ∈ cs, isAllowed c = true) :
    ∀ c ∈ escape cs, isAllowed c = true :=
  forall_mem_escape (by decide) fun c hc _ => h c hc

theorem Attribute.Writable.allowed {a : Attribute} (h : a.Writable) :
    ∀ c ∈ a.written, isAllowed c = true := by
  have hspace : isAllowed ' ' = true := by decide
  have hequals : isAllowed '=' = true := by decide
  have hquote : isAllowed '"' = true := by decide
  simp only [Attribute.written, List.forall_mem_cons, List.forall_mem_append]
  exact ⟨hspace, fun c hc => isAllowed_of_isNameChar (h.name.isNameChar_written c hc), hequals,
    hquote, allowed_escape h.value, hquote, by simp⟩

theorem ProperTag.allowed {name : Name} {attributes : List Attribute}
    (h : ProperTag name attributes) : ∀ c ∈ tagWritten name attributes, isAllowed c = true := by
  intro c hc
  rcases List.mem_append.mp hc with hc | hc
  · exact isAllowed_of_isNameChar (h.named.isNameChar_written c hc)
  · obtain ⟨a, ha, hc⟩ := List.mem_flatMap.mp hc
    exact (h.writable_declared a ha).allowed c hc

theorem Element.mem_writtenAll {es : List Element} {c : Char} (h : c ∈ writtenAll es) :
    ∃ e ∈ es, c ∈ e.written := by
  induction es with
  | nil => cases h
  | cons e es ih =>
    rw [writtenAll, List.mem_append] at h
    rcases h with h | h
    · exact ⟨e, by simp, h⟩
    · obtain ⟨f, hf, hc⟩ := ih h
      exact ⟨f, by simp [hf], hc⟩

/-- A text of a proper element holds only characters that a document may hold. -/
theorem Element.Proper.allowed {e : Element} (h : e.Proper) :
    ∀ c ∈ e.written, isAllowed c = true := by
  have hopen : isAllowed '<' = true := by decide
  have hclose : isAllowed '>' = true := by decide
  have hslash : isAllowed '/' = true := by decide
  induction h with
  | @mk name attributes children tag inside ih =>
    rw [Element.written]
    split <;> simp only [List.forall_mem_cons, List.forall_mem_append]
    · exact ⟨hopen, tag.allowed, hslash, hclose, by simp⟩
    · refine ⟨hopen, tag.allowed, hclose, ?_, hopen, hslash, ?_, hclose, by simp⟩
      · intro c hc
        obtain ⟨e, he, hc⟩ := mem_writtenAll hc
        exact ih e he c hc
      · exact fun c hc => isAllowed_of_isNameChar (tag.named.isNameChar_written c hc)

/-- An element starts with its tag, and nothing stands in front of it. -/
theorem Element.Proper.written_eq_cons {e : Element} (h : e.Proper) :
    ∃ cs, e.written = '<' :: cs ∧ Name.startsAsName cs = true := by
  obtain ⟨tag, inside⟩ := h
  rw [Element.written]
  split
  all_goals exact ⟨_, rfl, tag.startsAsName_tagWritten _⟩

theorem withoutDeclaration?_of_startsAsName {cs : List Char} (h : Name.startsAsName cs = true) :
    withoutDeclaration? ('<' :: cs) = some ('<' :: cs) := by
  cases cs with
  | nil => cases h
  | cons c cs =>
    have hc : c ≠ '?' := by
      rintro rfl
      cases h
    simp [withoutDeclaration?, declarationMark, hc.symm]

theorem Element.Proper.withoutByteOrderMark_written {e : Element} (h : e.Proper) :
    withoutByteOrderMark e.written = e.written := by
  obtain ⟨cs, hcs, -⟩ := h.written_eq_cons
  rw [hcs, withoutByteOrderMark, if_neg (by decide)]

/-- A proper element is read back from its text. -/
theorem readDocument?_written {e : Element} (h : e.Proper) : readDocument? e.written = some e := by
  obtain ⟨cs, hcs, hstart⟩ := h.written_eq_cons
  have hdeclaration : withoutDeclaration? e.written = some e.written := by
    rw [hcs, withoutDeclaration?_of_startsAsName hstart]
  have hread := Builder.addText?_written h .start [] rfl
  rw [List.append_nil, Builder.addText?_nil] at hread
  rw [readDocument?, if_pos (List.all_eq_true.mpr h.allowed), h.withoutByteOrderMark_written,
    hdeclaration]
  simp only [hread]
  rfl

end TestRollup.Xml

namespace TestRollup.Report

open Xml

/-- A report with the text of a proper element has this element as its root. -/
theorem documentOf?_written {e : Element} (h : e.Proper) :
    documentOf? (String.ofList e.written) = some e := by
  rw [documentOf?, String.toList_ofList, h.withoutByteOrderMark_written, readDocument?_written h]

end TestRollup.Report
