import TestRollup.Xml.Reference

/- Tokens of XML. A document falls into tags, character data, and remarks
   (comments and processing instructions, which say nothing about a report). A
   token is read from the front of a text and the rest is handed back; the rest is
   always shorter (`Token.read?_length`), so reading one token after the other
   ends.

   Attributes stand in a tag with the value that their raw text spells.
   Declarations of namespaces are attributes here; they are told apart where the
   namespaces of a tag are settled. -/
namespace TestRollup.Xml

/-- A name in a tag with the value that the tag gives it. -/
structure Attribute where
  name : Name
  value : String
  deriving DecidableEq, Inhabited

/-- One piece of a document. -/
inductive Token where
  | startTag (name : Name) (attributes : List Attribute)
  /-- A tag that opens an element and closes it at once. -/
  | emptyTag (name : Name) (attributes : List Attribute)
  | endTag (name : Name)
  /-- Characters between two pieces of markup, as they are written. -/
  | text (raw : List Char)
  /-- Characters in which nothing counts as markup. -/
  | verbatim
  /-- A comment or a processing instruction. -/
  | remark

/-- What follows the first occurrence of a mark. -/
def afterMark? (mark : List Char) : List Char → Option (List Char)
  | [] => none
  | c :: cs =>
    if mark.isPrefixOf (c :: cs) then some ((c :: cs).drop mark.length)
    else afterMark? mark cs

/-- The mark occurs somewhere in the text. -/
def holdsMark (mark cs : List Char) : Bool := (afterMark? mark cs).isSome

/-- What follows a mark that the text starts with. -/
def withoutMark? (mark cs : List Char) : Option (List Char) :=
  if mark.isPrefixOf cs then some (cs.drop mark.length) else none

def dropSpace (cs : List Char) : List Char := cs.dropWhile isSpace

/-! ## Attributes -/

/-- Reads a quoted text without `<`, as it stands between its quotes. -/
def quoted? : List Char → Option (List Char × List Char)
  | q :: cs =>
    if q = '"' ∨ q = '\'' then
      match cs.dropWhile fun c => c != q && c != '<' with
      | e :: rest => if e = q then some (cs.takeWhile fun c => c != q && c != '<', rest) else none
      | [] => none
    else none
  | [] => none

/-- Reads a name, an equals sign and a quoted text. -/
def assignment? (cs : List Char) : Option (Name × List Char × List Char) :=
  match Name.read? cs with
  | none => none
  | some (name, rest) =>
    match dropSpace rest with
    | '=' :: rest =>
      match quoted? (dropSpace rest) with
      | none => none
      | some (raw, rest) => some (name, raw, rest)
    | _ => none

/-- Reads an attribute. -/
def Attribute.read? (cs : List Char) : Option (Attribute × List Char) :=
  match assignment? cs with
  | none => none
  | some (name, raw, rest) =>
    match attributeValue? raw with
    | none => none
    | some value => some (⟨name, value⟩, rest)

theorem length_dropSpace_le (cs : List Char) : (dropSpace cs).length ≤ cs.length :=
  length_dropWhile_le _ _

theorem quoted?_length {cs raw rest : List Char} (h : quoted? cs = some (raw, rest)) :
    rest.length < cs.length := by
  unfold quoted? at h
  split at h
  · next q cs =>
    split at h
    · split at h
      · next e tail hd =>
        split at h
        · simp only [Option.some.injEq, Prod.mk.injEq] at h
          have hl := length_dropWhile_le (fun c => c != q && c != '<') cs
          rw [hd] at hl
          rw [← h.2]
          exact Nat.lt_succ_of_lt hl
        · simp at h
      · simp at h
    · simp at h
  · simp at h

theorem assignment?_length {cs raw rest : List Char} {name : Name}
    (h : assignment? cs = some (name, raw, rest)) : rest.length < cs.length := by
  unfold assignment? at h
  split at h
  · simp at h
  · next n r hn =>
    split at h
    · next r' hs =>
      split at h
      · simp at h
      · next raw' rest' hq =>
        simp only [Option.some.injEq, Prod.mk.injEq] at h
        have h1 := Name.read?_length hn
        have h2 := length_dropSpace_le r
        have h3 := length_dropSpace_le r'
        have h4 := quoted?_length hq
        rw [hs, List.length_cons] at h2
        rw [← h.2.2]
        omega
    · simp at h

theorem Attribute.read?_length {cs rest : List Char} {a : Attribute}
    (h : Attribute.read? cs = some (a, rest)) : rest.length < cs.length := by
  unfold Attribute.read? at h
  split at h
  · simp at h
  · next n raw r hr =>
    split at h
    · simp at h
    · simp only [Option.some.injEq, Prod.mk.injEq] at h
      rw [← h.2]
      exact assignment?_length hr

/-- No attribute starts with a character that no name holds. -/
theorem Attribute.read?_of_not_name {c : Char} (h : isNameChar c = false) (cs : List Char) :
    Attribute.read? (c :: cs) = none := by
  simp [Attribute.read?, assignment?, Name.read?, Name.ofChars?, Name.startsAsName, h]

/-! ## Tags -/

/-- Reads the attributes of a tag and its end, behind the attributes already
    read, which are kept in reverse. The flag says that the tag closes its
    element at once. Space must stand in front of each attribute. -/
def tagRestOnto? (done : List Attribute) (cs : List Char) :
    Option (List Attribute × Bool × List Char) :=
  match dropSpace cs with
  | '>' :: rest => some (done.reverse, false, rest)
  | '/' :: '>' :: rest => some (done.reverse, true, rest)
  | _ =>
    if cs.head?.any isSpace then
      match _read : Attribute.read? (dropSpace cs) with
      | none => none
      | some (a, rest) => tagRestOnto? (a :: done) rest
    else none
termination_by cs.length
decreasing_by exact Nat.lt_of_lt_of_le (Attribute.read?_length _read) (length_dropSpace_le cs)

/-- An attribute behind space goes to those already read. -/
theorem tagRestOnto?_of_read {cs rest : List Char} {a : Attribute} {done : List Attribute}
    (hs : cs.head?.any isSpace = true) (h : Attribute.read? (dropSpace cs) = some (a, rest)) :
    tagRestOnto? done cs = tagRestOnto? (a :: done) rest := by
  rw [tagRestOnto?]
  split
  · next r hd =>
    rw [hd, Attribute.read?_of_not_name (by decide)] at h
    simp at h
  · next r hd =>
    rw [hd, Attribute.read?_of_not_name (by decide)] at h
    simp at h
  · rw [if_pos hs]
    split
    · next hn => rw [h] at hn; simp at hn
    · next a' r' hr =>
      rw [h] at hr
      simp only [Option.some.injEq, Prod.mk.injEq] at hr
      obtain ⟨rfl, rfl⟩ := hr
      rfl

/-- Reads a tag that opens an element, from behind its `<`. -/
def Token.opening? (cs : List Char) : Option (Token × List Char) :=
  match Name.read? cs with
  | none => none
  | some (name, rest) =>
    match tagRestOnto? [] rest with
    | none => none
    | some (attributes, true, rest) => some (.emptyTag name attributes, rest)
    | some (attributes, false, rest) => some (.startTag name attributes, rest)

/-- Reads a tag that closes an element, from behind its `</`. -/
def Token.closing? (cs : List Char) : Option (Token × List Char) :=
  match Name.read? cs with
  | none => none
  | some (name, rest) =>
    match dropSpace rest with
    | '>' :: rest => some (.endTag name, rest)
    | _ => none

/-! ## The other tokens -/

/-- Reads a comment from behind its `<!--`: the first two hyphens end it. -/
def Token.comment? (cs : List Char) : Option (Token × List Char) :=
  match afterMark? ['-', '-'] cs with
  | some ('>' :: rest) => some (.remark, rest)
  | _ => none

/-- The opening of an XML declaration. -/
def declarationMark : List Char := ['<', '?', 'x', 'm', 'l', ' ']

/-- Reads a processing instruction, which must have a name and must not look like
    an XML declaration, from behind its `<?`. -/
def Token.instruction? (cs : List Char) : Option (Token × List Char) :=
  if declarationMark.isPrefixOf ('<' :: '?' :: cs) || !Name.startsAsName cs then none
  else
    match afterMark? ['?', '>'] (cs.dropWhile isNameChar) with
    | none => none
    | some rest => some (.remark, rest)

/-- Reads a run of verbatim characters from behind its opening mark. -/
def Token.verbatim? (cs : List Char) : Option (Token × List Char) :=
  match afterMark? [']', ']', '>'] cs with
  | none => none
  | some rest => some (.verbatim, rest)

/-- The opening of a run of verbatim characters, behind its `<!`. -/
def verbatimMark : List Char := ['[', 'C', 'D', 'A', 'T', 'A', '[']

/-- Reads the first token of a text. -/
def Token.read? : List Char → Option (Token × List Char)
  | [] => none
  | '<' :: '/' :: cs => Token.closing? cs
  | '<' :: '?' :: cs => Token.instruction? cs
  | '<' :: '!' :: '-' :: '-' :: cs => Token.comment? cs
  | '<' :: '!' :: cs =>
    match withoutMark? verbatimMark cs with
    | none => none
    | some cs => Token.verbatim? cs
  | '<' :: cs => Token.opening? cs
  | c :: cs => some (.text (c :: cs.takeWhile (· != '<')), cs.dropWhile (· != '<'))

/-! ## Each token takes something off the text -/

theorem afterMark?_length {mark cs rest : List Char} (h : afterMark? mark cs = some rest) :
    rest.length ≤ cs.length := by
  induction cs with
  | nil => simp [afterMark?] at h
  | cons c cs ih =>
    rw [afterMark?] at h
    split at h
    · simp only [Option.some.injEq] at h
      rw [← h, List.length_drop]
      exact Nat.sub_le _ _
    · exact Nat.le_succ_of_le (ih h)

theorem withoutMark?_length {mark cs rest : List Char} (h : withoutMark? mark cs = some rest) :
    rest.length ≤ cs.length := by
  unfold withoutMark? at h
  split at h
  · simp only [Option.some.injEq] at h
    rw [← h, List.length_drop]
    exact Nat.sub_le _ _
  · simp at h

theorem tagRestOnto?_length {done : List Attribute} {cs rest : List Char}
    {attributes : List Attribute} {closed : Bool}
    (h : tagRestOnto? done cs = some (attributes, closed, rest)) : rest.length ≤ cs.length := by
  have hs := length_dropSpace_le cs
  fun_induction tagRestOnto? done cs with
  | case1 done cs r hd =>
    simp only [Option.some.injEq, Prod.mk.injEq] at h
    rw [hd, List.length_cons] at hs
    rw [← h.2.2]; omega
  | case2 done cs r hd =>
    simp only [Option.some.injEq, Prod.mk.injEq] at h
    rw [hd, List.length_cons, List.length_cons] at hs
    rw [← h.2.2]; omega
  | case3 => simp at h
  | case4 done cs _ a r hr _ _ ih =>
    have h1 := ih h (length_dropSpace_le r)
    have h2 := Attribute.read?_length hr
    omega
  | case5 => simp at h

theorem Token.opening?_length {cs rest : List Char} {t : Token}
    (h : Token.opening? cs = some (t, rest)) : rest.length ≤ cs.length := by
  unfold Token.opening? at h
  split at h
  · simp at h
  · next n r hn =>
    have h1 := Name.read?_length hn
    split at h
    · simp at h
    all_goals
      next hr =>
        have h2 := tagRestOnto?_length hr
        simp only [Option.some.injEq, Prod.mk.injEq] at h
        rw [← h.2]; omega

theorem Token.closing?_length {cs rest : List Char} {t : Token}
    (h : Token.closing? cs = some (t, rest)) : rest.length ≤ cs.length := by
  unfold Token.closing? at h
  split at h
  · simp at h
  · next n r hn =>
    have h1 := Name.read?_length hn
    have h2 := length_dropSpace_le r
    split at h
    · next r' hr =>
      simp only [Option.some.injEq, Prod.mk.injEq] at h
      rw [hr, List.length_cons] at h2
      rw [← h.2]; omega
    · simp at h

theorem Token.comment?_length {cs rest : List Char} {t : Token}
    (h : Token.comment? cs = some (t, rest)) : rest.length ≤ cs.length := by
  unfold Token.comment? at h
  split at h
  · next r hr =>
    have h1 := afterMark?_length hr
    simp only [Option.some.injEq, Prod.mk.injEq] at h
    rw [List.length_cons] at h1
    rw [← h.2]; omega
  · simp at h

theorem Token.instruction?_length {cs rest : List Char} {t : Token}
    (h : Token.instruction? cs = some (t, rest)) : rest.length ≤ cs.length := by
  unfold Token.instruction? at h
  split at h
  · simp at h
  · split at h
    · simp at h
    · next r hr =>
      have h1 := afterMark?_length hr
      have h2 := length_dropWhile_le isNameChar cs
      simp only [Option.some.injEq, Prod.mk.injEq] at h
      rw [← h.2]; omega

theorem Token.verbatim?_length {cs rest : List Char} {t : Token}
    (h : Token.verbatim? cs = some (t, rest)) : rest.length ≤ cs.length := by
  unfold Token.verbatim? at h
  split at h
  · simp at h
  · next r hr =>
    simp only [Option.some.injEq, Prod.mk.injEq] at h
    rw [← h.2]
    exact afterMark?_length hr

/-- Behind a token there is less text than before it. -/
theorem Token.read?_length {cs rest : List Char} {t : Token}
    (h : Token.read? cs = some (t, rest)) : rest.length < cs.length := by
  unfold Token.read? at h
  split at h
  · simp at h
  · have := Token.closing?_length h
    simp only [List.length_cons]; omega
  · have := Token.instruction?_length h
    simp only [List.length_cons]; omega
  · have := Token.comment?_length h
    simp only [List.length_cons]; omega
  · split at h
    · simp at h
    · next r hr =>
      have h1 := withoutMark?_length hr
      have h2 := Token.verbatim?_length h
      simp only [List.length_cons]; omega
  · have := Token.opening?_length h
    simp only [List.length_cons]; omega
  · next c cs _ =>
    simp only [Option.some.injEq, Prod.mk.injEq] at h
    rw [← h.2]
    exact Nat.lt_succ_of_le (length_dropWhile_le _ _)

end TestRollup.Xml
