import TestRollup.Text.Blank

/- Texts on a terminal. A style sequence is an escape character, a bracket, a code and the
   letter `m`; all else is shown. `pieces` takes a text as a terminal does.

   `TakenAs` says how a text is taken whatever follows it, so it is kept by putting texts side
   by side, and no text that is cut within a sequence has it. From it `Dresses` relates a text
   to what is shown of it and says that its styles are closed (`Dresses.withoutStyles_eq`,
   `Dresses.closed`). -/
namespace TestRollup.Terminal

open Text (takeWhile_append_stop dropWhile_append_stop)

/-- A piece of a text as a terminal takes it. -/
inductive Piece where
  | shown (c : Char)
  /-- A style sequence, by its code. -/
  | style (code : String)

def Piece.shown? : Piece → Option Char
  | shown c => some c
  | style _ => none

def Piece.style? : Piece → Option String
  | shown _ => none
  | style code => some code

/-- The characters that the code of a style sequence is made of. -/
def isCodeChar (c : Char) : Bool := c.isDigit || c == ';'

/-- The code of the style sequence that a text begins with, and the text behind it. -/
def sequence? : List Char → Option (String × List Char)
  | '\x1b' :: '[' :: cs =>
    match cs.dropWhile isCodeChar with
    | 'm' :: rest => some (String.ofList (cs.takeWhile isCodeChar), rest)
    | _ => none
  | _ => none

theorem sequence?_length {cs rest : List Char} {code : String}
    (h : sequence? cs = some (code, rest)) : rest.length < cs.length := by
  unfold sequence? at h
  split at h
  · next cs =>
    split at h
    · next rest' hrest =>
      have hdrop := (List.dropWhile_sublist isCodeChar (l := cs)).length_le
      rw [hrest] at hdrop
      simp only [Option.some.injEq, Prod.mk.injEq] at h
      obtain ⟨-, rfl⟩ := h
      simp only [List.length_cons] at hdrop ⊢
      omega
    · cases h
  · cases h

/-- Takes a text piece by piece. -/
def pieces : List Char → List Piece
  | [] => []
  | c :: cs =>
    match _h : sequence? (c :: cs) with
    | some (code, rest) => .style code :: pieces rest
    | none => .shown c :: pieces cs
termination_by cs => cs.length
decreasing_by
  · exact sequence?_length _h
  · simp

/-- The text as it is shown, without its style sequences. -/
def withoutStyles (text : String) : String :=
  String.ofList ((pieces text.toList).filterMap Piece.shown?)

/-- The codes of the style sequences in a text. -/
def stylesIn (cs : List Char) : List String := (pieces cs).filterMap Piece.style?

/-- Every style is followed by the return to plain text before the next one. -/
inductive Closed : List String → Prop where
  | none : Closed []
  | pair {code : String} {codes : List String} (opens : code ≠ "0") (rest : Closed codes) :
      Closed (code :: "0" :: codes)

theorem Closed.append {codes others : List String} (h : Closed codes) (hothers : Closed others) :
    Closed (codes ++ others) := by
  induction h with
  | none => exact hothers
  | pair opens _ ih => exact .pair opens ih

theorem filterMap_shown? (cs : List Char) :
    (cs.map Piece.shown).filterMap Piece.shown? = cs := by
  rw [List.filterMap_map]
  exact List.filterMap_some

theorem filterMap_style? (cs : List Char) :
    (cs.map Piece.shown).filterMap Piece.style? = [] := by
  rw [List.filterMap_map, List.filterMap_eq_nil_iff]
  exact fun _ _ => rfl

/-- Whatever follows the text, it is taken as these pieces. -/
def TakenAs (cs : List Char) (ps : List Piece) : Prop :=
  ∀ rest, pieces (cs ++ rest) = ps ++ pieces rest

theorem pieces_cons_of_ne {c : Char} (h : c ≠ '\x1b') (cs : List Char) :
    pieces (c :: cs) = .shown c :: pieces cs := by
  have hnone : sequence? (c :: cs) = none := by
    unfold sequence?
    split
    · next heq => exact absurd (List.cons.inj heq).1 h
    · rfl
  rw [pieces]
  split
  · next heq => rw [hnone] at heq; cases heq
  · rfl

theorem pieces_of_sequence {cs rest : List Char} {code : String}
    (h : sequence? cs = some (code, rest)) : pieces cs = .style code :: pieces rest := by
  cases cs with
  | nil => cases h
  | cons c cs =>
    rw [pieces]
    split
    · next heq =>
      rw [h] at heq
      cases heq
      rfl
    · next heq =>
      rw [h] at heq
      cases heq

namespace TakenAs

variable {cs ds : List Char} {ps qs : List Piece}

theorem append (h : TakenAs cs ps) (h' : TakenAs ds qs) : TakenAs (cs ++ ds) (ps ++ qs) := by
  intro rest
  rw [List.append_assoc, h, h', List.append_assoc]

theorem plain (h : '\x1b' ∉ cs) : TakenAs cs (cs.map .shown) := by
  intro rest
  induction cs with
  | nil => rfl
  | cons c cs ih =>
    rw [List.mem_cons, not_or] at h
    rw [List.cons_append, pieces_cons_of_ne (Ne.symm h.1), ih h.2]
    rfl

theorem sequence {code : String} (h : code.toList.all isCodeChar = true) :
    TakenAs ("\x1b[" ++ code ++ "m").toList [.style code] := by
  intro rest
  apply pieces_of_sequence
  have htext : ("\x1b[" ++ code ++ "m").toList ++ rest =
      '\x1b' :: '[' :: (code.toList ++ 'm' :: rest) := by
    simp [String.toList_append]
  have hcode : ∀ c ∈ code.toList, isCodeChar c = true := List.all_eq_true.mp h
  have hstop : ∀ c ∈ ('m' :: rest).head?, isCodeChar c = false := by
    intro c hc
    cases hc
    decide
  rw [htext, sequence?, dropWhile_append_stop hcode hstop, takeWhile_append_stop hcode hstop,
    String.ofList_toList]
  rfl

theorem pieces_eq (h : TakenAs cs ps) : pieces cs = ps := by
  have hend := h []
  rwa [List.append_nil, pieces, List.append_nil] at hend

end TakenAs

/-- The first text is shown as the second, and closes its styles. -/
def Dresses (cs plain : List Char) : Prop :=
  ∃ ps, TakenAs cs ps ∧ ps.filterMap Piece.shown? = plain ∧ Closed (ps.filterMap Piece.style?)

namespace Dresses

variable {cs ds plain bare : List Char}

theorem append (h : Dresses cs plain) (h' : Dresses ds bare) :
    Dresses (cs ++ ds) (plain ++ bare) := by
  obtain ⟨ps, hps, hshown, hclosed⟩ := h
  obtain ⟨qs, hqs, hshown', hclosed'⟩ := h'
  refine ⟨ps ++ qs, hps.append hqs, ?_, ?_⟩
  · rw [List.filterMap_append, hshown, hshown']
  · rw [List.filterMap_append]
    exact hclosed.append hclosed'

theorem refl (h : '\x1b' ∉ cs) : Dresses cs cs := by
  refine ⟨cs.map .shown, .plain h, filterMap_shown? cs, ?_⟩
  rw [filterMap_style?]
  exact .none

/-- A text between a style and the return to plain text. -/
theorem between {text code : String} (h : '\x1b' ∉ text.toList)
    (hcode : code.toList.all isCodeChar = true) (hopens : code ≠ "0") :
    Dresses ("\x1b[" ++ code ++ "m" ++ text ++ "\x1b[0m").toList text.toList := by
  have hopen : TakenAs ("\x1b[" ++ code ++ "m").toList [.style code] := .sequence hcode
  have htext : TakenAs text.toList (text.toList.map .shown) := .plain h
  have hclose : TakenAs ("\x1b[" ++ "0" ++ "m").toList [.style "0"] := .sequence (by decide)
  have htaken := (hopen.append htext).append hclose
  rw [← String.toList_append, ← String.toList_append] at htaken
  refine ⟨_, htaken, ?_, ?_⟩
  · rw [List.filterMap_append, List.filterMap_append, filterMap_shown?]
    exact List.append_nil _
  · rw [List.filterMap_append, List.filterMap_append, filterMap_style?]
    exact .pair hopens .none

theorem flatMap {α : Type} {xs : List α} {f g : α → List Char}
    (h : ∀ x ∈ xs, Dresses (f x) (g x)) : Dresses (xs.flatMap f) (xs.flatMap g) := by
  induction xs with
  | nil => exact refl (by simp)
  | cons x xs ih =>
    obtain ⟨hx, hxs⟩ := List.forall_mem_cons.mp h
    rw [List.flatMap_cons, List.flatMap_cons]
    exact hx.append (ih hxs)

theorem withoutStyles_eq {text shown : String} (h : Dresses text.toList shown.toList) :
    withoutStyles text = shown := by
  obtain ⟨ps, hps, hshown, -⟩ := h
  rw [withoutStyles, hps.pieces_eq, hshown, String.ofList_toList]

theorem closed (h : Dresses cs plain) : Closed (stylesIn cs) := by
  obtain ⟨ps, hps, -, hclosed⟩ := h
  rw [stylesIn, hps.pieces_eq]
  exact hclosed

end Dresses

end TestRollup.Terminal
