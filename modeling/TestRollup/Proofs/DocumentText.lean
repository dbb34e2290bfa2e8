import Mathlib.Data.List.Dedup
import Mathlib.Data.List.TakeWhile
import TestRollup.Text.Blank
import TestRollup.Xml.Document

/- The text of a document. `Element.written` writes an element with its attributes and
   children. Characters that would mean something else in an attribute value are written
   as references; each tag declares the qualifiers that it uses, each under a namespace of
   its own, so a tree needs nothing from around it.

   `Element.Proper` says which trees have a text: their names are names, no tag has two
   attributes of one name, none of them is a declaration, and their values hold only
   characters that a document may hold. The pieces of such a text are read back one by
   one, each in front of any rest: names, values, attributes, and then the three kinds of
   tags. -/
namespace TestRollup.Xml

open Text (takeWhile_append_stop dropWhile_append_stop)

/-! ## Writing -/

/-- The characters that are written as references, with what stands behind the `&`. -/
def references : List (Char × List Char) :=
  [('&', ['a', 'm', 'p', ';']), ('<', ['l', 't', ';']), ('"', ['q', 'u', 'o', 't', ';']),
    ('\t', ['#', '9', ';']), ('\n', ['#', '1', '0', ';']), ('\r', ['#', '1', '3', ';'])]

/-- A character of an attribute value between double quotes. -/
def escapeChar (c : Char) : List Char :=
  match references.lookup c with
  | some reference => '&' :: reference
  | none => [c]

def escape (cs : List Char) : List Char := cs.flatMap escapeChar

def Name.written (n : Name) : List Char :=
  if n.qualifier = "" then n.localName.toList
  else n.qualifier.toList ++ ':' :: n.localName.toList

/-- An attribute with the space in front of it. -/
def Attribute.written (a : Attribute) : List Char :=
  ' ' :: (a.name.written ++ '=' :: '"' :: (escape a.value.toList ++ ['"']))

/-- The qualifiers that a tag has to declare. -/
def qualifiersOf (name : Name) (attributes : List Attribute) : List String :=
  ((name.qualifier :: attributes.map (·.name.qualifier)).filter
    fun q => q != "" && q != "xml").dedup

/-- The declaration of a qualifier, under a namespace named like it. -/
def declarationOf (qualifier : String) : Attribute := ⟨⟨"xmlns", qualifier⟩, qualifier⟩

/-- The attributes of a tag behind the declarations it needs. -/
def declared (name : Name) (attributes : List Attribute) : List Attribute :=
  (qualifiersOf name attributes).map declarationOf ++ attributes

/-- The name and the attributes of a tag. -/
def tagWritten (name : Name) (attributes : List Attribute) : List Char :=
  name.written ++ (declared name attributes).flatMap Attribute.written

namespace Element

mutual

/-- The text of an element. -/
def written : Element → List Char
  | ⟨name, attributes, children⟩ =>
    if children.isEmpty then '<' :: (tagWritten name attributes ++ ['/', '>'])
    else '<' :: (tagWritten name attributes ++
      '>' :: (writtenAll children ++ '<' :: '/' :: (name.written ++ ['>'])))

/-- The texts of elements, one behind the other. -/
def writtenAll : List Element → List Char
  | [] => []
  | e :: es => written e ++ writtenAll es

end

end Element

/-! ## What can be written -/

/-- The characters are a name without a colon. -/
def IsNamePart (cs : List Char) : Prop :=
  Name.startsAsName cs = true ∧ ∀ c ∈ cs, isNameChar c = true ∧ c ≠ ':'

structure Name.Proper (n : Name) : Prop where
  qualifier : n.qualifier = "" ∨ IsNamePart n.qualifier.toList
  localName : IsNamePart n.localName.toList

/-- The attribute can stand in a tag, be it a declaration or not. -/
structure Attribute.Writable (a : Attribute) : Prop where
  name : a.name.Proper
  value : ∀ c ∈ a.value.toList, isAllowed c = true

structure Attribute.Proper (a : Attribute) : Prop extends a.Writable where
  plain : Namespace.declares a = false

/-- The name and the attributes of a tag without its declarations. -/
structure ProperTag (name : Name) (attributes : List Attribute) : Prop where
  named : name.Proper
  unreserved : name.qualifier ≠ "xml" ∧ name.qualifier ≠ "xmlns"
  given : ∀ a ∈ attributes, a.Proper
  distinct : (attributes.map (·.name)).Nodup

/-- Every tag of the tree can be written. -/
inductive Element.Proper : Element → Prop where
  | mk {name : Name} {attributes : List Attribute} {children : List Element}
      (tag : ProperTag name attributes) (inside : ∀ c ∈ children, Proper c) :
      Proper ⟨name, attributes, children⟩

section Decidable

instance (cs : List Char) : Decidable (IsNamePart cs) :=
  decidable_of_iff (Name.startsAsName cs = true ∧ cs.all (fun c => isNameChar c && c != ':') = true)
    (by simp [IsNamePart])

instance (n : Name) : Decidable n.Proper :=
  decidable_of_iff ((n.qualifier = "" ∨ IsNamePart n.qualifier.toList) ∧
      IsNamePart n.localName.toList)
    ⟨fun h => ⟨h.1, h.2⟩, fun h => ⟨h.qualifier, h.localName⟩⟩

instance (a : Attribute) : Decidable a.Proper :=
  decidable_of_iff (a.name.Proper ∧ a.value.toList.all isAllowed = true ∧
      Namespace.declares a = false)
    ⟨fun h => ⟨⟨h.1, List.all_eq_true.mp h.2.1⟩, h.2.2⟩,
      fun h => ⟨h.name, List.all_eq_true.mpr h.value, h.plain⟩⟩

instance (name : Name) (attributes : List Attribute) : Decidable (ProperTag name attributes) :=
  decidable_of_iff (name.Proper ∧ (name.qualifier ≠ "xml" ∧ name.qualifier ≠ "xmlns") ∧
      (∀ a ∈ attributes, a.Proper) ∧ (attributes.map (·.name)).Nodup)
    ⟨fun h => ⟨h.1, h.2.1, h.2.2.1, h.2.2.2⟩, fun h => ⟨h.named, h.unreserved, h.given, h.distinct⟩⟩

end Decidable

/-! ## Characters -/

theorem isSpace_iff {c : Char} : isSpace c = true ↔ c = ' ' ∨ c = '\t' ∨ c = '\n' ∨ c = '\r' := by
  simp [isSpace, or_assoc]

theorem isNameStart_of_isSpace {c : Char} (h : isSpace c = true) : isNameStart c = false := by
  rcases isSpace_iff.mp h with rfl | rfl | rfl | rfl <;> decide

theorem isSpace_of_isNameStart {c : Char} (h : isNameStart c = true) : isSpace c = false := by
  rw [← Bool.not_eq_true]
  intro hs
  rw [isNameStart_of_isSpace hs] at h
  cases h

theorem isAllowed_of_isNameChar {c : Char} (h : isNameChar c = true) : isAllowed c = true := by
  have hranges : ∀ r ∈ nameStartRanges ++ nameRestRanges,
      0x20 ≤ r.1 ∧ (r.2 < 0xFFFE ∨ 0xFFFF < r.1) := by decide
  rw [isNameChar, isNameStart, inRanges, inRanges, ← List.any_append, List.any_eq_true] at h
  obtain ⟨r, hr, hc⟩ := h
  obtain ⟨hlow, hhigh⟩ := hranges r hr
  simp only [Bool.and_eq_true, decide_eq_true_eq] at hc
  simp only [isAllowed, Bool.or_eq_true, Bool.and_eq_true, decide_eq_true_eq, bne_iff_ne]
  omega

/-- The rest of a text does not go on with a name. -/
def EndsName (rest : List Char) : Prop := ∀ c ∈ rest.head?, isNameChar c = false

theorem endsName_cons {c : Char} (h : isNameChar c = false) (rest : List Char) :
    EndsName (c :: rest) := by
  intro d hd
  cases hd
  exact h

/-! ## Names -/

namespace Name

variable {n : Name}

theorem Proper.isNameChar_written (h : n.Proper) : ∀ c ∈ n.written, isNameChar c = true := by
  intro c hc
  unfold written at hc
  split at hc
  · exact (h.localName.2 c hc).1
  · next hq =>
    rcases List.mem_append.mp hc with hc | hc
    · exact ((h.qualifier.resolve_left hq).2 c hc).1
    · rcases List.mem_cons.mp hc with rfl | hc
      · decide
      · exact (h.localName.2 c hc).1

theorem startsAsName_append {cs : List Char} (h : startsAsName cs = true) (rest : List Char) :
    startsAsName (cs ++ rest) = true := by
  cases cs with
  | nil => cases h
  | cons c cs => exact h

theorem Proper.startsAsName_written (h : n.Proper) : startsAsName n.written = true := by
  unfold written
  split
  · exact h.localName.1
  · next hq => exact startsAsName_append (h.qualifier.resolve_left hq).1 _

theorem ofChars?_written (h : n.Proper) : ofChars? n.written = some n := by
  have hpart : ∀ {cs : List Char}, IsNamePart cs → ∀ c ∈ cs, (c != ':') = true :=
    fun hcs c hc => by simp [(hcs.2 c hc).2]
  unfold written
  split
  · next hq =>
    have htake : n.localName.toList.takeWhile (· != ':') = n.localName.toList :=
      List.takeWhile_eq_self_iff.mpr (hpart h.localName)
    have hdrop : n.localName.toList.dropWhile (· != ':') = [] :=
      List.dropWhile_eq_nil_iff.mpr (hpart h.localName)
    simp only [ofChars?, htake, hdrop, h.localName.1, if_true, String.ofList_toList, ← hq]
  · next hq =>
    -- the colon between the parts is the first one and the last one
    have hqualifier := h.qualifier.resolve_left hq
    have hstop : ∀ c ∈ (':' :: n.localName.toList).head?, (c != ':') = false := by simp
    have htake := takeWhile_append_stop (hpart hqualifier) hstop
    have hdrop := dropWhile_append_stop (hpart hqualifier) hstop
    have hcolon : n.localName.toList.contains ':' = false := by
      rw [← Bool.not_eq_true, List.contains_iff_mem]
      exact fun hc => (h.localName.2 ':' hc).2 rfl
    simp only [ofChars?, htake, hdrop, hcolon, h.localName.1, hqualifier.1]
    simp

theorem read?_written (h : n.Proper) {rest : List Char} (hrest : EndsName rest) :
    read? (n.written ++ rest) = some (n, rest) := by
  rw [read?, takeWhile_append_stop h.isNameChar_written hrest, ofChars?_written h,
    dropWhile_append_stop h.isNameChar_written hrest]

end Name

/-! ## Attribute values -/

theorem mem_references {c : Char} {reference : List Char}
    (h : references.lookup c = some reference) : (c, reference) ∈ references := by
  obtain ⟨before, after, hsplit, -⟩ := List.lookup_eq_some_iff.mp h
  rw [hsplit]
  simp

/-- What is true of the characters of references, and of those that are written as they
are, is true of all. -/
theorem forall_mem_escape {p : Char → Bool}
    (hreference : (references.all fun r => ('&' :: r.2).all p) = true) {cs : List Char}
    (hplain : ∀ c ∈ cs, references.lookup c = none → p c = true) :
    ∀ c ∈ escape cs, p c = true := by
  intro c hc
  obtain ⟨d, hd, hc⟩ := List.mem_flatMap.mp hc
  unfold escapeChar at hc
  split at hc
  · next reference hlookup =>
    exact List.all_eq_true.mp (List.all_eq_true.mp hreference _ (mem_references hlookup)) c hc
  · next hlookup =>
    rw [List.mem_singleton.mp hc]
    exact hplain d hd hlookup

/-- The characters that are written as they are. -/
theorem plain_of_lookup_eq_none {c : Char} (h : references.lookup c = none) :
    c ≠ '&' ∧ c ≠ '<' ∧ c ≠ '"' ∧ c ≠ '\t' ∧ c ≠ '\n' ∧ c ≠ '\r' := by
  have hne := List.lookup_eq_none_iff.mp h
  simpa [references] using hne

/-- An escaped text holds no space but blanks. -/
theorem escape_flat (cs : List Char) : ∀ c ∈ escape cs, isSpace c = true → c = ' ' := by
  have hflat : ∀ c ∈ escape cs, (!isSpace c || c == ' ') = true := by
    apply forall_mem_escape
    · decide
    · intro c _ hnone
      obtain ⟨-, -, -, htab, hfeed, hreturn⟩ := plain_of_lookup_eq_none hnone
      by_cases hblank : c = ' ' <;> simp [isSpace, htab, hfeed, hreturn, hblank]
  intro c hc hs
  simpa [hs] using hflat c hc

/-- An escaped text ends neither its quotes nor its tag. -/
theorem escape_closed (cs : List Char) : ∀ c ∈ escape cs, (c != '"' && c != '<') = true := by
  apply forall_mem_escape
  · decide
  · intro c _ hnone
    obtain ⟨-, hless, hquote, -⟩ := plain_of_lookup_eq_none hnone
    simp [hless, hquote]

theorem read?_reference : ∀ r ∈ references, ∀ rest,
    Reference.read? (r.2 ++ rest) = some (r.1, rest) := by
  simp only [references, List.forall_mem_cons]
  refine ⟨?_, ?_, ?_, ?_, ?_, ?_, by simp⟩
  all_goals intro rest; rfl

theorem expand?_escape (cs : List Char) : expand? (escape cs) = some cs := by
  induction cs with
  | nil => exact expand?_of_plain (by simp [escape])
  | cons c cs ih =>
    have hcons : escape (c :: cs) = escapeChar c ++ escape cs := rfl
    rw [hcons, escapeChar]
    split
    · next reference hlookup =>
      rw [List.cons_append, expand?_of_read (read?_reference _ (mem_references hlookup) _), ih]
      rfl
    · next hlookup =>
      rw [List.singleton_append, expand?_cons (plain_of_lookup_eq_none hlookup).1, ih]
      rfl

theorem attributeValue?_escape (value : String) :
    attributeValue? (escape value.toList) = some value := by
  rw [attributeValue?, flatten_of_flat (escape_flat _), expand?_escape]
  simp

theorem quoted?_escape (cs rest : List Char) :
    quoted? ('"' :: (escape cs ++ '"' :: rest)) = some (escape cs, rest) := by
  have hstop : ∀ c ∈ ('"' :: rest).head?, (c != '"' && c != '<') = false := by simp
  have htake := takeWhile_append_stop (escape_closed cs) hstop
  have hdrop := dropWhile_append_stop (escape_closed cs) hstop
  simp only [quoted?, htake, hdrop, if_true, true_or]

/-! ## Tags -/

theorem dropSpace_of_startsAsName {cs : List Char} (h : Name.startsAsName cs = true) :
    dropSpace cs = cs := by
  cases cs with
  | nil => rfl
  | cons c cs =>
    have hc : isSpace c = false := isSpace_of_isNameStart h
    simp [dropSpace, hc]

theorem dropSpace_cons_space (cs : List Char) : dropSpace (' ' :: cs) = dropSpace cs := by
  rw [dropSpace, List.dropWhile_cons_of_pos (by decide)]
  rfl

/-- An attribute is read back, and its value ends at its quotes. -/
theorem Attribute.read?_written {a : Attribute} (h : a.Writable) (rest : List Char) :
    Attribute.read? (dropSpace (a.written ++ rest)) = some (a, rest) := by
  have htext : dropSpace (a.written ++ rest) =
      a.name.written ++ '=' :: '"' :: (escape a.value.toList ++ '"' :: rest) := by
    rw [written, List.cons_append, dropSpace_cons_space, List.append_assoc,
      dropSpace_of_startsAsName (Name.startsAsName_append h.name.startsAsName_written _)]
    simp
  have hends : EndsName ('=' :: '"' :: (escape a.value.toList ++ '"' :: rest)) :=
    endsName_cons (by decide) _
  have hequals : ∀ cs, dropSpace ('=' :: cs) = '=' :: cs := fun _ => rfl
  have hquote : ∀ cs, dropSpace ('"' :: cs) = '"' :: cs := fun _ => rfl
  have hassign : assignment? (dropSpace (a.written ++ rest)) =
      some (a.name, escape a.value.toList, rest) := by
    rw [htext, assignment?, Name.read?_written h.name hends]
    simp only [hequals, hquote, quoted?_escape]
  rw [Attribute.read?, hassign]
  simp only [attributeValue?_escape]

/-- The attributes of a tag are read back in order, up to what closes the tag. -/
theorem tagRestOnto?_written {attributes : List Attribute} (h : ∀ a ∈ attributes, a.Writable)
    {close rest : List Char} {closed : Bool}
    (hclose : ∀ done, tagRestOnto? done close = some (done.reverse, closed, rest))
    (done : List Attribute) :
    tagRestOnto? done (attributes.flatMap Attribute.written ++ close) =
      some (done.reverse ++ attributes, closed, rest) := by
  -- the attributes already read stand in reverse, whatever they are
  induction attributes generalizing done with
  | nil => simpa using hclose done
  | cons a attributes ih =>
    obtain ⟨ha, hattributes⟩ := List.forall_mem_cons.mp h
    have hspace : (a.written ++ (attributes.flatMap Attribute.written ++ close)).head?.any isSpace =
        true := rfl
    rw [List.flatMap_cons, List.append_assoc,
      tagRestOnto?_of_read hspace (Attribute.read?_written ha _), ih hattributes]
    simp

theorem tagRestOnto?_close (done : List Attribute) (rest : List Char) :
    tagRestOnto? done ('>' :: rest) = some (done.reverse, false, rest) := by
  rw [tagRestOnto?]
  rfl

theorem tagRestOnto?_closeEmpty (done : List Attribute) (rest : List Char) :
    tagRestOnto? done ('/' :: '>' :: rest) = some (done.reverse, true, rest) := by
  rw [tagRestOnto?]
  rfl

theorem endsName_attributes (attributes : List Attribute) {close : List Char}
    (hclose : EndsName close) : EndsName (attributes.flatMap Attribute.written ++ close) := by
  cases attributes with
  | nil => exact hclose
  | cons a attributes => exact endsName_cons (by decide) _

namespace ProperTag

variable {name : Name} {attributes : List Attribute}

theorem isNamePart_of_mem_qualifiersOf (h : ProperTag name attributes) {q : String}
    (hq : q ∈ qualifiersOf name attributes) : IsNamePart q.toList := by
  rw [qualifiersOf, List.mem_dedup, List.mem_filter, Bool.and_eq_true, bne_iff_ne] at hq
  obtain ⟨hmem, hempty, -⟩ := hq
  rcases List.mem_cons.mp hmem with rfl | hmem
  · exact h.named.qualifier.resolve_left hempty
  · obtain ⟨a, ha, rfl⟩ := List.mem_map.mp hmem
    exact (h.given a ha).name.qualifier.resolve_left hempty

theorem writable_declared (h : ProperTag name attributes) :
    ∀ a ∈ declared name attributes, a.Writable := by
  intro a ha
  have hxmlns : IsNamePart "xmlns".toList := by decide
  rcases List.mem_append.mp ha with ha | ha
  · obtain ⟨q, hq, rfl⟩ := List.mem_map.mp ha
    have hpart := h.isNamePart_of_mem_qualifiersOf hq
    exact ⟨⟨.inr hxmlns, hpart⟩, fun c hc => isAllowed_of_isNameChar (hpart.2 c hc).1⟩
  · exact (h.given a ha).toWritable

theorem startsAsName_tagWritten (h : ProperTag name attributes) (rest : List Char) :
    Name.startsAsName (tagWritten name attributes ++ rest) = true := by
  rw [tagWritten, List.append_assoc]
  exact Name.startsAsName_append h.named.startsAsName_written _

/-- Behind its opening mark a tag is read back, whatever closes it. -/
theorem tagRest_written (h : ProperTag name attributes) {close rest : List Char} {closed : Bool}
    (hends : EndsName close)
    (hclose : ∀ done, tagRestOnto? done close = some (done.reverse, closed, rest)) :
    Name.read? (tagWritten name attributes ++ close) =
        some (name, (declared name attributes).flatMap Attribute.written ++ close) ∧
      tagRestOnto? [] ((declared name attributes).flatMap Attribute.written ++ close) =
        some (declared name attributes, closed, rest) := by
  constructor
  · rw [tagWritten, List.append_assoc, Name.read?_written h.named (endsName_attributes _ hends)]
  · exact tagRestOnto?_written h.writable_declared hclose []

end ProperTag

theorem Token.read?_of_startsAsName {cs : List Char} (h : Name.startsAsName cs = true) :
    Token.read? ('<' :: cs) = Token.opening? cs := by
  cases cs with
  | nil => cases h
  | cons c cs =>
    -- no other token starts with a name behind its `<`
    have hslash : c ≠ '/' := by
      rintro rfl
      cases h
    have hquestion : c ≠ '?' := by
      rintro rfl
      cases h
    have hbang : c ≠ '!' := by
      rintro rfl
      cases h
    rw [Token.read?]
    · exact fun _ e => hslash (List.cons.inj e).1
    · exact fun _ e => hquestion (List.cons.inj e).1
    · exact fun _ e => hbang (List.cons.inj e).1
    · exact fun _ e => hbang (List.cons.inj e).1

/-- A tag that opens an element is read back with its declarations. -/
theorem Token.read?_startTag {name : Name} {attributes : List Attribute}
    (h : ProperTag name attributes) (rest : List Char) :
    Token.read? ('<' :: (tagWritten name attributes ++ '>' :: rest)) =
      some (.startTag name (declared name attributes), rest) := by
  have hends : EndsName ('>' :: rest) := endsName_cons (by decide) rest
  obtain ⟨hname, hrest⟩ := h.tagRest_written hends fun done => tagRestOnto?_close done rest
  rw [Token.read?_of_startsAsName (h.startsAsName_tagWritten _), Token.opening?, hname]
  simp only [hrest]

/-- A tag that opens an element and closes it at once is read back with its declarations. -/
theorem Token.read?_emptyTag {name : Name} {attributes : List Attribute}
    (h : ProperTag name attributes) (rest : List Char) :
    Token.read? ('<' :: (tagWritten name attributes ++ '/' :: '>' :: rest)) =
      some (.emptyTag name (declared name attributes), rest) := by
  have hends : EndsName ('/' :: '>' :: rest) := endsName_cons (by decide) _
  obtain ⟨hname, hrest⟩ := h.tagRest_written hends fun done => tagRestOnto?_closeEmpty done rest
  rw [Token.read?_of_startsAsName (h.startsAsName_tagWritten _), Token.opening?, hname]
  simp only [hrest]

theorem Token.read?_endTag {name : Name} (h : name.Proper) (rest : List Char) :
    Token.read? ('<' :: '/' :: (name.written ++ '>' :: rest)) = some (.endTag name, rest) := by
  have hends : EndsName ('>' :: rest) := endsName_cons (by decide) rest
  rw [Token.read?, Token.closing?, Name.read?_written h hends]
  rfl

end TestRollup.Xml
