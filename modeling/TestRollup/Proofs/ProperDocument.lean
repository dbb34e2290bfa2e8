import TestRollup.Proofs.RoundTrip

/- What is read as a document is proper (`Element.Proper.of_readDocument?`), so every
   document has a text of its own. A reader hands back an end of what it was given, and
   what it reads has only characters from there: names are cut out of name characters,
   values out of characters that a document may hold or out of references to such. The
   tags that have been settled are proper tags, and every step of building a tree keeps
   the open elements and the root proper. -/
namespace TestRollup.Xml

/-! ## Names -/

theorem mem_of_mem_takeWhile {p : Char → Bool} {cs : List Char} {c : Char}
    (h : c ∈ cs.takeWhile p) : c ∈ cs ∧ p c = true :=
  ⟨(List.takeWhile_prefix p).subset h, List.mem_takeWhile_imp h⟩

/-- Behind the first character of an end of a text stands an end of it. -/
theorem suffix_of_eq_cons {cs ds rest : List Char} {c : Char} (h : ds = c :: rest)
    (hds : ds <:+ cs) : rest <:+ cs :=
  (List.suffix_cons c rest).trans (h ▸ hds)

namespace Name

theorem proper_of_ofChars? {cs : List Char} {n : Name} (hcs : ∀ c ∈ cs, isNameChar c = true)
    (h : ofChars? cs = some n) : n.Proper := by
  have hbefore : ∀ c ∈ cs.takeWhile (· != ':'), isNameChar c = true ∧ c ≠ ':' := by
    intro c hc
    obtain ⟨hmem, hne⟩ := mem_of_mem_takeWhile hc
    exact ⟨hcs c hmem, by simpa using hne⟩
  unfold ofChars? at h
  dsimp only at h
  split at h
  · split at h
    · next hstart =>
      cases h
      exact ⟨.inl rfl, by simpa [IsNamePart] using ⟨hstart, hbefore⟩⟩
    · cases h
  · next colon after hdrop =>
    have hsuffix : after <:+ cs := suffix_of_eq_cons hdrop (List.dropWhile_suffix _)
    split at h
    · cases h
    · next hafter =>
      simp only [Bool.or_eq_true, Bool.not_eq_true', not_or, Bool.not_eq_true,
        Bool.not_eq_false] at hafter
      have hlocal : IsNamePart after := by
        refine ⟨hafter.2, fun c hc => ⟨hcs c (hsuffix.subset hc), ?_⟩⟩
        rintro rfl
        simp [hc] at hafter
      split at h
      · next hfront =>
        cases h
        refine ⟨?_, by simpa using hlocal⟩
        rcases Bool.or_eq_true_iff.mp hfront with hempty | hstart
        · left
          rw [List.isEmpty_iff.mp hempty]
        · right
          simpa [IsNamePart] using ⟨hstart, hbefore⟩
      · cases h

theorem read?_proper {cs rest : List Char} {n : Name} (h : read? cs = some (n, rest)) :
    n.Proper ∧ rest <:+ cs := by
  unfold read? at h
  split at h
  · cases h
  · next hn =>
    cases h
    exact ⟨proper_of_ofChars? (fun c hc => (mem_of_mem_takeWhile hc).2) hn,
      List.dropWhile_suffix _⟩

end Name

/-! ## References and values -/

namespace Reference

theorem allowed_of_named? {name : List Char} {c : Char} (h : named? name = some c) :
    isAllowed c = true := by
  unfold named? at h
  split_ifs at h <;> cases h <;> decide

theorem allowed_of_numbered? {n : Nat} {c : Char} (h : numbered? n = some c) :
    isAllowed c = true := by
  unfold numbered? at h
  grind

theorem closed?_eq_some_iff {c? : Option Char} {cs rest : List Char} {c : Char} :
    closed? c? cs = some (c, rest) ↔ c? = some c ∧ cs = ';' :: rest := by
  unfold closed?
  split <;> simp_all

theorem read?_allowed {cs rest : List Char} {c : Char} (h : read? cs = some (c, rest)) :
    isAllowed c = true ∧ rest <:+ cs := by
  have hend : ∀ {p : Char → Bool} {ds : List Char},
      ds.dropWhile p = ';' :: rest → ds <:+ cs → rest <:+ cs :=
    fun hd hds => suffix_of_eq_cons hd ((List.dropWhile_suffix _).trans hds)
  unfold read? at h
  split at h <;> obtain ⟨hc, hrest⟩ := closed?_eq_some_iff.mp h
  · split at hc
    · cases hc
    · exact ⟨allowed_of_numbered? hc, hend hrest ⟨['#', 'x'], rfl⟩⟩
  · split at hc
    · cases hc
    · exact ⟨allowed_of_numbered? hc, hend hrest ⟨['#'], rfl⟩⟩
  · exact ⟨allowed_of_named? hc, hend hrest (List.suffix_rfl)⟩

end Reference

theorem expandOnto?_allowed {done cs ds : List Char} (hdone : ∀ c ∈ done, isAllowed c = true)
    (hcs : ∀ c ∈ cs, isAllowed c = true) (h : expandOnto? done cs = some ds) :
    ∀ c ∈ ds, isAllowed c = true := by
  fun_induction expandOnto? done cs with
  | case1 done =>
    cases h
    simpa using hdone
  | case2 => cases h
  | case3 done cs d rest hread ih =>
    obtain ⟨hd, hrest⟩ := Reference.read?_allowed hread
    refine ih (List.forall_mem_cons.mpr ⟨hd, hdone⟩) (fun c hc => hcs c ?_) h
    exact List.mem_cons_of_mem _ (hrest.subset hc)
  | case4 done c cs _ ih =>
    obtain ⟨hc, hcs⟩ := List.forall_mem_cons.mp hcs
    exact ih (List.forall_mem_cons.mpr ⟨hc, hdone⟩) hcs h

theorem flattenOnto_allowed {done cs : List Char} (hdone : ∀ c ∈ done, isAllowed c = true)
    (hcs : ∀ c ∈ cs, isAllowed c = true) : ∀ c ∈ flattenOnto done cs, isAllowed c = true := by
  have hblank : isAllowed ' ' = true := by decide
  fun_induction flattenOnto done cs with
  | case1 done => simpa using hdone
  | case2 done cs ih =>
    simp only [List.forall_mem_cons] at hcs
    exact ih (List.forall_mem_cons.mpr ⟨hblank, hdone⟩) hcs.2.2
  | case3 done c cs _ ih =>
    obtain ⟨hc, hcs⟩ := List.forall_mem_cons.mp hcs
    refine ih (List.forall_mem_cons.mpr ⟨?_, hdone⟩) hcs
    split <;> assumption

/-- A value has only characters that a document may hold if its raw text has. -/
theorem attributeValue?_allowed {raw : List Char} {value : String}
    (hraw : ∀ c ∈ raw, isAllowed c = true) (h : attributeValue? raw = some value) :
    ∀ c ∈ value.toList, isAllowed c = true := by
  obtain ⟨cs, hcs, rfl⟩ := Option.map_eq_some_iff.mp h
  rw [String.toList_ofList]
  exact expandOnto?_allowed (by simp) (flattenOnto_allowed (by simp) hraw) hcs

/-! ## Attributes -/

theorem dropSpace_suffix (cs : List Char) : dropSpace cs <:+ cs := List.dropWhile_suffix _

theorem quoted?_subset {cs raw rest : List Char} (h : quoted? cs = some (raw, rest)) :
    raw ⊆ cs ∧ rest <:+ cs := by
  unfold quoted? at h
  split at h
  · next q cs =>
    split at h
    · split at h
      · next e tail hdrop =>
        split at h
        · cases h
          constructor
          · exact fun c hc => List.mem_cons_of_mem _ (mem_of_mem_takeWhile hc).1
          · exact suffix_of_eq_cons hdrop ((List.dropWhile_suffix _).trans (List.suffix_cons _ _))
        · cases h
      · cases h
    · cases h
  · cases h

theorem assignment?_proper {cs raw rest : List Char} {n : Name}
    (h : assignment? cs = some (n, raw, rest)) : n.Proper ∧ raw ⊆ cs ∧ rest <:+ cs := by
  unfold assignment? at h
  split at h
  · cases h
  · next m r hread =>
    obtain ⟨hm, hr⟩ := Name.read?_proper hread
    split at h
    · next r' hspace =>
      have hr' : r' <:+ cs := suffix_of_eq_cons hspace ((dropSpace_suffix r).trans hr)
      split at h
      · cases h
      · next hquoted =>
        cases h
        obtain ⟨hraw, hrest⟩ := quoted?_subset hquoted
        have hquote := (dropSpace_suffix r').trans hr'
        exact ⟨hm, fun c hc => hquote.subset (hraw hc), hrest.trans hquote⟩
    · cases h

theorem Attribute.read?_writable {cs rest : List Char} {a : Attribute}
    (hcs : ∀ c ∈ cs, isAllowed c = true) (h : Attribute.read? cs = some (a, rest)) :
    a.Writable ∧ rest <:+ cs := by
  unfold Attribute.read? at h
  split at h
  · cases h
  · next hread =>
    obtain ⟨hname, hraw, hrest⟩ := assignment?_proper hread
    split at h
    · cases h
    · next hvalue =>
      cases h
      exact ⟨⟨hname, attributeValue?_allowed (fun c hc => hcs c (hraw hc)) hvalue⟩, hrest⟩

theorem tagRestOnto?_writable {done attributes : List Attribute} {cs rest : List Char}
    {closed : Bool} (hcs : ∀ c ∈ cs, isAllowed c = true) (hdone : ∀ a ∈ done, a.Writable)
    (h : tagRestOnto? done cs = some (attributes, closed, rest)) :
    (∀ a ∈ attributes, a.Writable) ∧ rest <:+ cs := by
  have hspace := dropSpace_suffix cs
  -- the attributes already read and the characters still to come are both kept good
  fun_induction tagRestOnto? done cs with
  | case1 done cs r hd =>
    cases h
    exact ⟨by simpa using hdone, suffix_of_eq_cons hd hspace⟩
  | case2 done cs r hd =>
    cases h
    exact ⟨by simpa using hdone, suffix_of_eq_cons rfl (suffix_of_eq_cons hd hspace)⟩
  | case3 => cases h
  | case4 done cs _ a r hread _ _ ih =>
    obtain ⟨ha, hr⟩ := Attribute.read?_writable (fun c hc => hcs c (hspace.subset hc)) hread
    have hrest := hr.trans hspace
    obtain ⟨hall, hend⟩ := ih (fun c hc => hcs c (hrest.subset hc))
      (List.forall_mem_cons.mpr ⟨ha, hdone⟩) h (dropSpace_suffix r)
    exact ⟨hall, hend.trans hrest⟩
  | case5 => cases h

/-! ## Tokens -/

namespace Token

/-- The name and the attributes of a tag that opens an element can be written. -/
def Writable : Token → Prop
  | .startTag name attributes | .emptyTag name attributes =>
    name.Proper ∧ ∀ a ∈ attributes, a.Writable
  | _ => True

theorem afterMark?_suffix {mark cs rest : List Char} (h : afterMark? mark cs = some rest) :
    rest <:+ cs := by
  induction cs with
  | nil => cases h
  | cons c cs ih =>
    rw [afterMark?] at h
    split at h
    · cases h
      exact List.drop_suffix _ _
    · exact (ih h).trans (List.suffix_cons _ _)

theorem withoutMark?_suffix {mark cs rest : List Char} (h : withoutMark? mark cs = some rest) :
    rest <:+ cs := by
  unfold withoutMark? at h
  split at h
  · cases h
    exact List.drop_suffix _ _
  · cases h

theorem opening?_writable {cs rest : List Char} {t : Token} (hcs : ∀ c ∈ cs, isAllowed c = true)
    (h : opening? cs = some (t, rest)) : t.Writable ∧ rest <:+ cs := by
  unfold opening? at h
  split at h
  · cases h
  · next hread =>
    obtain ⟨hname, hr⟩ := Name.read?_proper hread
    have hrest := fun c hc => hcs c (hr.subset hc)
    split at h
    · cases h
    all_goals
      next htag =>
        cases h
        obtain ⟨hall, hend⟩ := tagRestOnto?_writable hrest (by simp) htag
        exact ⟨⟨hname, hall⟩, hend.trans hr⟩

theorem closing?_writable {cs rest : List Char} {t : Token}
    (h : closing? cs = some (t, rest)) : t.Writable ∧ rest <:+ cs := by
  unfold closing? at h
  split at h
  · cases h
  · next r hread =>
    split at h
    · next r' hspace =>
      cases h
      exact ⟨trivial, suffix_of_eq_cons hspace
        ((dropSpace_suffix r).trans (Name.read?_proper hread).2)⟩
    · cases h

theorem instruction?_writable {cs rest : List Char} {t : Token}
    (h : instruction? cs = some (t, rest)) : t.Writable ∧ rest <:+ cs := by
  unfold instruction? at h
  split at h
  · cases h
  · split at h
    · cases h
    · next hmark =>
      cases h
      exact ⟨trivial, (afterMark?_suffix hmark).trans (List.dropWhile_suffix _)⟩

theorem comment?_writable {cs rest : List Char} {t : Token}
    (h : comment? cs = some (t, rest)) : t.Writable ∧ rest <:+ cs := by
  unfold comment? at h
  split at h
  · next hmark =>
    cases h
    exact ⟨trivial, suffix_of_eq_cons rfl (afterMark?_suffix hmark)⟩
  · cases h

theorem verbatim?_writable {cs rest : List Char} {t : Token}
    (h : verbatim? cs = some (t, rest)) : t.Writable ∧ rest <:+ cs := by
  unfold verbatim? at h
  split at h
  · cases h
  · next hmark =>
    cases h
    exact ⟨trivial, afterMark?_suffix hmark⟩

theorem read?_writable {cs rest : List Char} {t : Token} (hcs : ∀ c ∈ cs, isAllowed c = true)
    (h : read? cs = some (t, rest)) : t.Writable ∧ rest <:+ cs := by
  unfold read? at h
  split at h
  · cases h
  · exact (closing?_writable h).imp id (·.trans ⟨['<', '/'], rfl⟩)
  · exact (instruction?_writable h).imp id (·.trans ⟨['<', '?'], rfl⟩)
  · exact (comment?_writable h).imp id (·.trans ⟨['<', '!', '-', '-'], rfl⟩)
  · split at h
    · cases h
    · next hmark =>
      exact (verbatim?_writable h).imp id
        fun hend => (hend.trans (withoutMark?_suffix hmark)).trans ⟨['<', '!'], rfl⟩
  · exact (opening?_writable (List.forall_mem_cons.mp hcs).2 h).imp id (·.trans ⟨['<'], rfl⟩)
  · cases h
    exact ⟨trivial, (List.dropWhile_suffix _).trans (List.suffix_cons _ _)⟩

end Token

/-! ## Tags -/

namespace Namespace

/-- The tags that settle are proper. -/
theorem properTag_of_settle? {scope inner : Scope} {name : Name}
    {attributes plain : List Attribute} (hname : name.Proper)
    (hall : ∀ a ∈ attributes, a.Writable)
    (h : settle? scope name attributes = some (inner, plain)) : ProperTag name plain := by
  unfold settle? at h
  split at h
  · cases h
  · next inner' _ =>
    dsimp only at h
    split at h
    · cases h
    · next names hnames =>
      split at h
      · next hgood =>
        cases h
        rw [Bool.and_eq_true, decide_eq_true_eq] at hgood
        obtain ⟨hpermitted, hdistinct⟩ := hgood
        refine ⟨hname, ?_, ?_, ?_⟩
        · simp only [elementNamePermitted, Bool.or_eq_true, beq_iff_eq, Bool.and_eq_true,
            bne_iff_ne] at hpermitted
          rcases hpermitted with hempty | ⟨hne, -⟩
          · simp [hempty]
          · exact hne
        · intro a ha
          obtain ⟨ha, hplain⟩ := List.mem_filter.mp ha
          exact ⟨hall a ha, by simpa using hplain⟩
        · -- two equal names would be equal in any namespace
          have hmap := mapM_eq_some_iff.mp hnames
          have hnodup : (names.map some).Nodup := hdistinct.map fun _ _ => Option.some.inj
          rw [← hmap] at hnodup
          refine List.Nodup.of_map (expanded? inner) ?_
          rw [List.map_map]
          exact hnodup
      · cases h

end Namespace

/-! ## Trees -/

/-- The tag and the children read so far can be written. -/
structure OpenElement.Proper (o : OpenElement) : Prop where
  tag : ProperTag o.name o.attributes
  inside : ∀ c ∈ o.children, c.Proper

namespace Builder

/-- Everything read so far can be written. -/
structure Proper (b : Builder) : Prop where
  opened : ∀ o ∈ b.opened, o.Proper
  root : ∀ e ∈ b.root, e.Proper

theorem Proper.attach {e : Element} {os : List OpenElement} {root : Option Element}
    (he : e.Proper) (hos : ∀ o ∈ os, o.Proper) (hroot : ∀ e ∈ root, e.Proper) :
    (attach e os root).Proper := by
  cases os with
  | nil => exact ⟨by simp [Builder.attach], by simpa [Builder.attach] using he⟩
  | cons o os =>
    obtain ⟨ho, hos⟩ := List.forall_mem_cons.mp hos
    refine ⟨List.forall_mem_cons.mpr ⟨⟨ho.tag, ?_⟩, hos⟩, hroot⟩
    exact List.forall_mem_cons.mpr ⟨he, ho.inside⟩

/-- Taking a token up keeps everything proper. -/
theorem Proper.add? {b b' : Builder} {t : Token} (hb : b.Proper) (ht : t.Writable)
    (h : b.add? t = some b') : b'.Proper := by
  cases t with
  | startTag name attributes =>
    simp only [Builder.add?] at h
    split at h
    · split at h
      · cases h
      · next hsettle =>
        cases h
        have htag := Namespace.properTag_of_settle? ht.1 ht.2 hsettle
        exact ⟨List.forall_mem_cons.mpr ⟨⟨htag, by simp⟩, hb.opened⟩, hb.root⟩
    · cases h
  | emptyTag name attributes =>
    simp only [Builder.add?] at h
    split at h
    · split at h
      · cases h
      · next hsettle =>
        cases h
        have htag := Namespace.properTag_of_settle? ht.1 ht.2 hsettle
        exact .attach (.mk htag (by simp)) hb.opened hb.root
    · cases h
  | endTag name =>
    simp only [Builder.add?] at h
    split at h
    · cases h
    · next o os hopened =>
      split at h
      · cases h
        obtain ⟨ho, hos⟩ := List.forall_mem_cons.mp (hopened ▸ hb.opened)
        exact .attach (.mk ho.tag (by simpa using ho.inside)) hos hb.root
      · cases h
  | text raw =>
    simp only [Builder.add?] at h
    split_ifs at h <;> cases h <;> exact hb
  | verbatim =>
    simp only [Builder.add?] at h
    split_ifs at h
    cases h
    exact hb
  | remark =>
    cases h
    exact hb

/-- So does taking a whole text up. -/
theorem Proper.addText? {b b' : Builder} {cs : List Char} (hb : b.Proper)
    (hcs : ∀ c ∈ cs, isAllowed c = true) (h : b.addText? cs = some b') : b'.Proper := by
  -- behind each token the rest is an end of the text, so its characters are still allowed
  fun_induction Builder.addText? b cs with
  | case1 b =>
    cases h
    exact hb
  | case2 => cases h
  | case3 => cases h
  | case4 b c cs t rest hread b'' hadd ih =>
    obtain ⟨ht, hrest⟩ := Token.read?_writable hcs hread
    exact ih (hb.add? ht hadd) (fun c hc => hcs c (hrest.subset hc)) h

end Builder

/-! ## Documents -/

theorem withoutByteOrderMark_suffix (cs : List Char) : withoutByteOrderMark cs <:+ cs := by
  cases cs with
  | nil => exact List.suffix_rfl
  | cons c cs =>
    rw [withoutByteOrderMark]
    split
    · exact List.suffix_cons _ _
    · exact List.suffix_rfl

namespace Declaration

theorem item?_suffix {key : String} {cs rest : List Char} (h : item? key cs = some rest) :
    rest <:+ cs := by
  unfold item? at h
  split at h
  · obtain ⟨⟨n, raw, r⟩, hread, rfl⟩ := Option.map_eq_some_iff.mp h
    exact (assignment?_proper hread).2.2
  · cases h

theorem gap?_suffix {cs rest : List Char} (h : gap? cs = some rest) : rest <:+ cs := by
  unfold gap? at h
  split at h
  · cases h
    exact dropSpace_suffix _
  · cases h

theorem rest?_suffix {cs rest : List Char} (h : rest? cs = some rest) : rest <:+ cs := by
  obtain ⟨afterVersion, hversion, h⟩ := Option.bind_eq_some_iff.mp h
  obtain ⟨beforeEncoding, hgap, h⟩ := Option.bind_eq_some_iff.mp h
  have hbefore : beforeEncoding <:+ cs :=
    ((gap?_suffix hgap).trans (item?_suffix hversion)).trans (dropSpace_suffix _)
  have hlast : ∀ ds : List Char,
      withoutMark? ['?', '>'] (dropSpace ((item? "standalone" ds).getD ds)) = some rest →
      rest <:+ ds := by
    intro ds hmark
    have hitem : (item? "standalone" ds).getD ds <:+ ds := by
      cases hitem : item? "standalone" ds with
      | none => exact List.suffix_rfl
      | some r => exact item?_suffix hitem
    exact (Token.withoutMark?_suffix hmark).trans ((dropSpace_suffix _).trans hitem)
  dsimp only at h
  split at h
  · next hencoding =>
    obtain ⟨ds, hds, h⟩ := Option.bind_eq_some_iff.mp h
    exact (hlast ds h).trans (((gap?_suffix hds).trans (item?_suffix hencoding)).trans hbefore)
  · exact (hlast beforeEncoding h).trans hbefore

end Declaration

theorem withoutDeclaration?_suffix {cs rest : List Char} (h : withoutDeclaration? cs = some rest) :
    rest <:+ cs := by
  unfold withoutDeclaration? at h
  split at h
  · exact (Declaration.rest?_suffix h).trans (List.drop_suffix _ _)
  · cases h
    exact List.suffix_rfl

/-- What is read as a document can be written. -/
theorem Element.Proper.of_readDocument? {cs : List Char} {e : Element}
    (h : readDocument? cs = some e) : e.Proper := by
  unfold readDocument? at h
  split at h
  · next hallowed =>
    split at h
    · cases h
    · next rest hfront =>
      have hrest : rest <:+ cs :=
        (withoutDeclaration?_suffix hfront).trans (withoutByteOrderMark_suffix cs)
      have hcs : ∀ c ∈ rest, isAllowed c = true :=
        fun c hc => List.all_eq_true.mp hallowed c (hrest.subset hc)
      split at h
      · cases h
      · next b htext =>
        have hb : b.Proper := Builder.Proper.addText? ⟨by simp [Builder.start], by
          simp [Builder.start]⟩ hcs htext
        unfold Builder.finished? at h
        split at h
        · exact hb.root e h
        · cases h
  · cases h

end TestRollup.Xml
