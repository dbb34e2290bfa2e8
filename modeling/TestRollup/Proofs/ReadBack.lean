import TestRollup.Proofs.PassedTests
import TestRollup.Proofs.Spelling
import TestRollup.Proofs.TerminalStyles
import TestRollup.Summary.Rendering

/- Reading a summary back from what is shown of it. Each format puts every figure on a line
   of its own, with a label and a value (`labelled?`); the formats have other labels, other
   orders and other marks around them. A reader that looks the figures up by their labels
   therefore needs no order, and one reader serves all formats (`readBack?`). It gives back
   the summary that was shown, all figures up to the ceiling and an absent time as absent, so
   no two summaries are shown alike.

   On a terminal the text has styles. `Terminal.Dresses` holds of one styled figure and is kept
   by putting texts side by side, so it holds of every line and of the whole
   (`withoutStyles_renderText`, `closed_of_mem_linesOf`). -/
namespace TestRollup.Summary

open Terminal
open Text (takeWhile_append_stop dropWhile_append_stop)

/-! ## The text of a figure -/

/-- The text can be a value on a line: it does not end the line, nor the value before it ends,
nor does it begin a style. -/
structure FitsLine (text : String) : Prop where
  newline : '\n' ∉ text.toList
  comma : ',' ∉ text.toList
  escape : '\x1b' ∉ text.toList

instance (text : String) : Decidable (FitsLine text) :=
  decidable_of_iff ('\n' ∉ text.toList ∧ ',' ∉ text.toList ∧ '\x1b' ∉ text.toList)
    ⟨fun h => ⟨h.1, h.2.1, h.2.2⟩, fun h => ⟨h.newline, h.comma, h.escape⟩⟩

theorem digit_of_mem_digits {n : Counter} {c : Char} (h : c ∈ n.digits.toList) :
    c.isDigit = true := by
  rw [Counter.digits, Report.toList_toString] at h
  exact Number.allDigits_iff.mp (Report.allDigits_toDigits n.value) c h

theorem notMem_digits (n : Counter) {c : Char} (hc : c.isDigit = false) : c ∉ n.digits.toList := by
  intro hmem
  rw [digit_of_mem_digits hmem] at hc
  cases hc

theorem fitsLine_digits (n : Counter) : FitsLine n.digits where
  newline := notMem_digits n (by decide)
  comma := notMem_digits n (by decide)
  escape := notMem_digits n (by decide)

theorem FitsLine.append {text unit : String} (h : FitsLine text) (hunit : FitsLine unit) :
    FitsLine (text ++ unit) where
  newline := by simp [String.toList_append, h.newline, hunit.newline]
  comma := by simp [String.toList_append, h.comma, hunit.comma]
  escape := by simp [String.toList_append, h.escape, hunit.escape]

theorem fitsLine_timeText (s : Summary) : FitsLine s.timeText := by
  unfold timeText
  cases s.time with
  | none => exact (by decide : FitsLine "n/a")
  | some ms => exact (fitsLine_digits ms).append (by decide)

theorem dresses_styled {text : String} (h : FitsLine text) (colors : Bool) (style : Style) :
    Dresses (styled colors style text).toList text.toList := by
  cases colors with
  | false => exact .refl h.escape
  | true =>
    apply Dresses.between h.escape
    · cases style <;> decide
    · cases style <;> decide

/-! ## Lines -/

/-- The lines of an output. -/
def linesOf (output : String) : List (List Char) := output.toList.splitOn '\n'

/-- A text made of lines falls into these lines again, and what follows the last of them. -/
theorem linesOf_eq {output : String} {lines : List (List Char)}
    (h : output.toList = lines.flatMap (· ++ ['\n'])) (hlines : ∀ line ∈ lines, '\n' ∉ line) :
    linesOf output = lines ++ [[]] := by
  rw [linesOf, h]
  clear h
  induction lines with
  | nil => rfl
  | cons line lines ih =>
    obtain ⟨hline, hrest⟩ := List.forall_mem_cons.mp hlines
    rw [List.flatMap_cons, List.append_assoc, List.singleton_append,
      List.splitOn_append_cons_self_of_not_mem hline, ih hrest, List.cons_append]

/-- The label and the value on a line: the label stands before a colon and is behind blanks
and between quotation marks, or not; the value stands behind the colon and a blank, up to a
comma if there is one. -/
def labelled? (line : List Char) : Option (String × String) :=
  if ':' ∈ line then
    some (String.ofList (((line.takeWhile (· != ':')).filter (· != '"')).dropWhile (· == ' ')),
      String.ofList (((line.dropWhile (· != ':')).drop 2).takeWhile (· != ',')))
  else none

/-- The text can be a label in any of the formats. -/
structure IsLabel (text : String) : Prop extends FitsLine text where
  colon : ':' ∉ text.toList
  quotes : '"' ∉ text.toList
  blank : text.toList.head? ≠ some ' '

instance (text : String) : Decidable (IsLabel text) :=
  decidable_of_iff
    (FitsLine text ∧ ':' ∉ text.toList ∧ '"' ∉ text.toList ∧ text.toList.head? ≠ some ' ')
    ⟨fun h => ⟨h.1, h.2.1, h.2.2.1, h.2.2.2⟩, fun h => ⟨h.toFitsLine, h.colon, h.quotes, h.blank⟩⟩

/-- A line with a label, its value, and what may stand around the label and behind the value. -/
def lineOf (pad close tail : List Char) (field : String × String) : List Char :=
  pad ++ field.1.toList ++ close ++ ':' :: ' ' :: (field.2.toList ++ tail)

theorem lineOf_nil (pad close : List Char) (field : String × String) :
    lineOf pad close [] field = pad ++ field.1.toList ++ close ++ [':', ' '] ++ field.2.toList := by
  simp [lineOf]

/-- The label is found between what may stand around it, and the value behind the colon. -/
theorem labelled?_line {pad close tail : List Char} {label value : String} (hlabel : IsLabel label)
    (hvalue : FitsLine value) (hpad : ∀ c ∈ pad, c = ' ' ∨ c = '"') (hclose : ∀ c ∈ close, c = '"')
    (htail : ∀ c ∈ tail.head?, c = ',') :
    labelled? (lineOf pad close tail (label, value)) = some (label, value) := by
  have hbefore : ∀ c ∈ pad ++ label.toList ++ close, (c != ':') = true := by
    intro c hc
    rw [List.mem_append, List.mem_append] at hc
    rcases hc with (hc | hc) | hc
    · rcases hpad c hc with rfl | rfl <;> decide
    · exact bne_iff_ne.mpr (ne_of_mem_of_not_mem hc hlabel.colon)
    · rw [hclose c hc]
      decide
  have hcolon : ∀ c ∈ (':' :: ' ' :: (value.toList ++ tail)).head?, (c != ':') = false := by simp
  have hquoteless : (pad ++ label.toList ++ close).filter (· != '"') =
      pad.filter (· != '"') ++ label.toList := by
    have hkept : label.toList.filter (· != '"') = label.toList :=
      List.filter_eq_self.mpr fun c hc =>
        bne_iff_ne.mpr (ne_of_mem_of_not_mem hc hlabel.quotes)
    have hdropped : close.filter (· != '"') = [] :=
      List.filter_eq_nil_iff.mpr fun c hc => by simp [hclose c hc]
    rw [List.filter_append, List.filter_append, hkept, hdropped, List.append_nil]
  have hblanks : ∀ c ∈ pad.filter (· != '"'), (c == ' ') = true := by
    intro c hc
    rw [List.mem_filter, bne_iff_ne] at hc
    simpa using (hpad c hc.1).resolve_right hc.2
  have hname : (pad.filter (· != '"') ++ label.toList).dropWhile (· == ' ') = label.toList :=
    dropWhile_append_stop hblanks fun c hc => by
      have hne : c ≠ ' ' := ne_of_mem_of_not_mem hc hlabel.blank
      simpa using hne
  have hend : (value.toList ++ tail).takeWhile (· != ',') = value.toList := by
    apply takeWhile_append_stop
    · intro c hc
      exact bne_iff_ne.mpr (ne_of_mem_of_not_mem hc hvalue.comma)
    · intro c hc
      rw [htail c hc]
      decide
  rw [labelled?, lineOf, if_pos (by simp), takeWhile_append_stop hbefore hcolon,
    dropWhile_append_stop hbefore hcolon, hquoteless, hname]
  simp only [List.drop_succ_cons, List.drop_zero, hend, String.ofList_toList]

/-- The entries in an output, in the order of its lines. -/
def entriesIn (output : String) : List (String × String) := (linesOf output).filterMap labelled?

/-- Labels and values that can be shown in any of the formats. -/
def Showable (fields : List (String × String)) : Prop :=
  ∀ field ∈ fields, IsLabel field.1 ∧ FitsLine field.2

variable {fields : List (String × String)} {pad close tail : List Char}

theorem newline_notMem_lineOf {field : String × String} (hlabel : IsLabel field.1)
    (hvalue : '\n' ∉ field.2.toList) (hpad : '\n' ∉ pad ++ close ++ tail) :
    '\n' ∉ lineOf pad close tail field := by
  simp only [List.mem_append, not_or] at hpad
  simp [lineOf, hlabel.newline, hvalue, hpad]

/-- Entries that stand on lines of their own are found again. -/
theorem filterMap_labelled?_lines (h : Showable fields) (hpad : ∀ c ∈ pad, c = ' ' ∨ c = '"')
    (hclose : ∀ c ∈ close, c = '"') (htail : ∀ c ∈ tail.head?, c = ',') :
    (fields.map (lineOf pad close tail)).filterMap labelled? = fields := by
  induction fields with
  | nil => rfl
  | cons field fields ih =>
    obtain ⟨hfield, hfields⟩ := List.forall_mem_cons.mp h
    have hline := labelled?_line hfield.1 hfield.2 hpad hclose htail
    rw [List.map_cons, List.filterMap_cons_some hline, ih hfields]

/-! ### The text format -/

/-- A figure of the text format. -/
structure Item where
  label : String
  /-- The style it is shown in, if it has one. -/
  style : Option Style
  value : String

namespace Item

/-- The figure as it is shown. -/
def field (colors : Bool) (item : Item) : String × String :=
  (item.label, match item.style with
    | some style => styled colors style item.value
    | none => item.value)

/-- The line with the figure. -/
def line (colors : Bool) (item : Item) : List Char := lineOf [' ', ' '] [] [] (item.field colors)

/-- The label and the value can be shown. -/
def Fits (item : Item) : Prop := IsLabel item.label ∧ FitsLine item.value

variable {item : Item}

theorem field_false (item : Item) : item.field false = (item.label, item.value) := by
  unfold field
  cases item.style <;> rfl

theorem dresses_field (h : item.Fits) (colors : Bool) :
    Dresses (item.field colors).2.toList item.value.toList := by
  unfold field
  cases item.style with
  | none => exact .refl h.2.escape
  | some style => exact dresses_styled h.2 colors style

theorem dresses_line (h : item.Fits) (colors : Bool) :
    Dresses (item.line colors) (item.line false) := by
  have hlabel : '\x1b' ∉ [' ', ' '] ++ item.label.toList ++ [] ++ [':', ' '] := by
    simp [h.1.escape]
  rw [line, line, lineOf_nil, lineOf_nil, field_false]
  exact (Dresses.refl hlabel).append (dresses_field h colors)

theorem newline_notMem_line (h : item.Fits) (colors : Bool) : '\n' ∉ item.line colors := by
  refine newline_notMem_lineOf h.1 ?_ (by decide)
  have hvalue : '\n' ∉ item.value.toList := h.2.newline
  unfold field
  cases item.style with
  | none => exact hvalue
  | some style =>
    cases colors with
    | false => exact hvalue
    | true => cases style <;> simp [styled, Style.code, hvalue]

end Item

/-- The figures of the text format, in order. -/
def textItems (s : Summary) : List Item :=
  [⟨"Tests", some .bold, s.tests.digits⟩, ⟨"Passed", some .green, s.passed.digits⟩,
    ⟨"Failures", some .red, s.failures.digits⟩, ⟨"Errors", some .red, s.errors.digits⟩,
    ⟨"Skipped", some .yellow, s.skipped.digits⟩, ⟨"Execution time", none, s.timeText⟩]

theorem textFields_eq (colors : Bool) (s : Summary) :
    s.textFields colors = s.textItems.map (Item.field colors) := rfl

theorem fits_textItems (s : Summary) : ∀ item ∈ s.textItems, item.Fits := by
  simp only [textItems, List.forall_mem_cons]
  exact ⟨⟨(by decide : IsLabel "Tests"), fitsLine_digits _⟩,
    ⟨(by decide : IsLabel "Passed"), fitsLine_digits _⟩,
    ⟨(by decide : IsLabel "Failures"), fitsLine_digits _⟩,
    ⟨(by decide : IsLabel "Errors"), fitsLine_digits _⟩,
    ⟨(by decide : IsLabel "Skipped"), fitsLine_digits _⟩,
    ⟨(by decide : IsLabel "Execution time"), fitsLine_timeText s⟩, by simp⟩

theorem toList_renderText (colors : Bool) (s : Summary) :
    (s.renderText colors).toList = (s.textItems.map (Item.line colors)).flatMap (· ++ ['\n']) := by
  rw [renderText, String.toList_join, textFields_eq, List.map_map, List.flatMap_map,
    List.flatMap_map]
  apply congrArg (List.flatMap · s.textItems)
  funext item
  simp [Item.line, lineOf, String.toList_append]

theorem linesOf_renderText (colors : Bool) (s : Summary) :
    linesOf (s.renderText colors) = s.textItems.map (Item.line colors) ++ [[]] := by
  apply linesOf_eq (toList_renderText colors s)
  intro line hline
  obtain ⟨item, hitem, rfl⟩ := List.mem_map.mp hline
  exact Item.newline_notMem_line (fits_textItems s item hitem) colors

theorem entriesIn_renderText (s : Summary) :
    entriesIn (s.renderText false) = s.textFields false := by
  have hshowable : Showable (s.textItems.map (Item.field false)) := by
    intro field hfield
    obtain ⟨item, hitem, rfl⟩ := List.mem_map.mp hfield
    rw [Item.field_false]
    exact fits_textItems s item hitem
  have hlines : s.textItems.map (Item.line false) =
      (s.textItems.map (Item.field false)).map (lineOf [' ', ' '] [] []) := by
    rw [List.map_map]
    rfl
  rw [entriesIn, linesOf_renderText, List.filterMap_append, hlines,
    filterMap_labelled?_lines hshowable (by simp) (by simp) (by simp)]
  exact List.append_nil _

/-- Without its styles the coloured text is the plain one. -/
theorem withoutStyles_renderText (colors : Bool) (s : Summary) :
    withoutStyles (s.renderText colors) = s.renderText false := by
  apply Dresses.withoutStyles_eq
  rw [toList_renderText, toList_renderText, List.flatMap_map, List.flatMap_map]
  apply Dresses.flatMap
  intro item hitem
  exact (Item.dresses_line (fits_textItems s item hitem) colors).append (.refl (by decide))

theorem closed_of_mem_linesOf (colors : Bool) (s : Summary) :
    ∀ line ∈ linesOf (s.renderText colors), Closed (stylesIn line) := by
  intro line hline
  rw [linesOf_renderText, List.mem_append, List.mem_singleton, List.mem_map] at hline
  rcases hline with ⟨item, hitem, rfl⟩ | rfl
  · exact (Item.dresses_line (fits_textItems s item hitem) colors).closed
  · exact (Dresses.refl (by simp)).closed

/-! ### Records -/

theorem showable_recordFields (s : Summary) : Showable s.recordFields := by
  have hcounts : Showable [("tests", s.tests.digits), ("errors", s.errors.digits),
      ("failures", s.failures.digits), ("skipped", s.skipped.digits)] := by
    simp only [Showable, List.forall_mem_cons]
    exact ⟨⟨by decide, fitsLine_digits _⟩, ⟨by decide, fitsLine_digits _⟩,
      ⟨by decide, fitsLine_digits _⟩, ⟨by decide, fitsLine_digits _⟩, by simp⟩
  intro field hfield
  rw [recordFields, List.mem_append] at hfield
  apply hfield.elim (hcounts field)
  intro htime
  cases hms : s.time with
  | none => simp [hms] at htime
  | some ms =>
    simp only [hms, List.mem_singleton] at htime
    rw [htime]
    exact ⟨(by decide : IsLabel "execution_time_ms"), fitsLine_digits ms⟩

theorem entriesIn_renderYaml (s : Summary) : entriesIn s.renderYaml = s.recordFields := by
  have hshowable := showable_recordFields s
  have htext : s.renderYaml.toList =
      (s.recordFields.map (lineOf [] [] [])).flatMap (· ++ ['\n']) := by
    rw [renderYaml, String.toList_join, List.flatMap_map, List.flatMap_map]
    apply congrArg (List.flatMap · s.recordFields)
    funext field
    simp [lineOf, String.toList_append]
  have hlines : ∀ line ∈ s.recordFields.map (lineOf [] [] []), '\n' ∉ line := by
    intro line hline
    obtain ⟨field, hfield, rfl⟩ := List.mem_map.mp hline
    obtain ⟨hlabel, hvalue⟩ := hshowable field hfield
    exact newline_notMem_lineOf hlabel hvalue.newline (by decide)
  rw [entriesIn, linesOf_eq htext hlines, List.filterMap_append,
    filterMap_labelled?_lines hshowable (by simp) (by simp) (by simp)]
  exact List.append_nil _

/-- The lines with the members of an object: all but the last end with a comma. -/
def memberLines : List (String × String) → List (List Char)
  | [] => []
  | [field] => [lineOf [' ', ' ', '"'] ['"'] [] field]
  | field :: next :: fields =>
    lineOf [' ', ' ', '"'] ['"'] [','] field :: memberLines (next :: fields)

theorem mem_memberLines {line : List Char} (h : line ∈ memberLines fields) :
    ∃ field ∈ fields, ∃ tail, '\n' ∉ tail ∧ line = lineOf [' ', ' ', '"'] ['"'] tail field := by
  fun_induction memberLines fields with
  | case1 => cases h
  | case2 field => exact ⟨field, List.mem_cons_self, [], by simp, List.mem_singleton.mp h⟩
  | case3 field next fields ih =>
    apply (List.mem_cons.mp h).elim
    · intro hline
      exact ⟨field, List.mem_cons_self, [','], by decide, hline⟩
    · intro hline
      obtain ⟨other, hother, tail, htail, heq⟩ := ih hline
      exact ⟨other, List.mem_cons_of_mem _ hother, tail, htail, heq⟩

theorem filterMap_labelled?_memberLines (h : Showable fields) :
    (memberLines fields).filterMap labelled? = fields := by
  fun_induction memberLines fields with
  | case1 => rfl
  | case2 field =>
    obtain ⟨hlabel, hvalue⟩ := h field List.mem_cons_self
    rw [List.filterMap_cons_some (labelled?_line hlabel hvalue (by simp) (by simp) (by simp))]
    rfl
  | case3 field next fields ih =>
    obtain ⟨⟨hlabel, hvalue⟩, hrest⟩ := List.forall_mem_cons.mp h
    rw [List.filterMap_cons_some (labelled?_line hlabel hvalue (by simp) (by simp) (by simp)),
      ih hrest]

/-- Members with commas between them are lines, once the last of them is ended. -/
theorem intercalate_memberLines (hne : fields ≠ []) :
    List.intercalate [',', '\n'] (fields.map (lineOf [' ', ' ', '"'] ['"'] [])) ++ ['\n'] =
      (memberLines fields).flatMap (· ++ ['\n']) := by
  fun_induction memberLines fields with
  | case1 => exact absurd rfl hne
  | case2 field => simp
  | case3 field next fields ih =>
    have hrest := ih (List.cons_ne_nil next fields)
    have hcomma : lineOf [' ', ' ', '"'] ['"'] [','] field =
        lineOf [' ', ' ', '"'] ['"'] [] field ++ [','] := by
      simp [lineOf]
    rw [List.flatMap_cons, ← hrest, hcomma, List.map_cons, List.map_cons,
      List.intercalate_cons_cons]
    simp

theorem recordFields_ne_nil (s : Summary) : s.recordFields ≠ [] := by
  simp [recordFields]

theorem toList_renderJson (s : Summary) :
    s.renderJson.toList =
      ((['\x7b'] :: memberLines s.recordFields) ++ [['\x7d']]).flatMap (· ++ ['\n']) := by
  have hmembers : (s.recordFields.map fun f => "  \"" ++ f.1 ++ "\": " ++ f.2).map String.toList =
      s.recordFields.map (lineOf [' ', ' ', '"'] ['"'] []) := by
    rw [List.map_map]
    apply List.map_congr_left
    intro field _
    simp [lineOf, String.toList_append]
  have hlines := intercalate_memberLines (recordFields_ne_nil s)
  rw [List.flatMap_append, List.flatMap_cons, ← hlines, renderJson]
  simp [String.toList_append, String.toList_intercalate, hmembers]

theorem entriesIn_renderJson (s : Summary) : entriesIn s.renderJson = s.recordFields := by
  have hshowable := showable_recordFields s
  have hlines : ∀ line ∈ (['\x7b'] :: memberLines s.recordFields) ++ [['\x7d']], '\n' ∉ line := by
    intro line hline
    rw [List.mem_append, List.mem_cons, List.mem_singleton] at hline
    rcases hline with (rfl | hline) | rfl
    · decide
    · obtain ⟨field, hfield, tail, htail, rfl⟩ := mem_memberLines hline
      obtain ⟨hlabel, hvalue⟩ := hshowable field hfield
      exact newline_notMem_lineOf hlabel hvalue.newline (by simp [htail])
    · decide
  have hbraces : labelled? ['\x7b'] = none ∧ labelled? ['\x7d'] = none := ⟨rfl, rfl⟩
  rw [entriesIn, linesOf_eq (toList_renderJson s) hlines, List.filterMap_append,
    List.filterMap_append, List.filterMap_cons_none hbraces.1,
    filterMap_labelled?_memberLines hshowable, List.filterMap_cons_none hbraces.2]
  simp [labelled?]

/-! ## Reading a summary back -/

/-- The labels of the figures that a summary is read back from. -/
structure Labels where
  tests : String
  errors : String
  failures : String
  skipped : String
  time : String

/-- The labels in each format. -/
def labels : Format → Labels
  | .text => ⟨"Tests", "Errors", "Failures", "Skipped", "Execution time"⟩
  | .json | .yaml => ⟨"tests", "errors", "failures", "skipped", "execution_time_ms"⟩

/-- The output without styles, which only text has. -/
def plainOutput : Format → String → String
  | .text, output => withoutStyles output
  | .json, output | .yaml, output => output

/-- The number that the value under a label begins with, wherever the label stands. -/
def figure? (entries : List (String × String)) (label : String) : Option Counter :=
  (entries.lookup label).bind fun value =>
    Number.readWhole? (value.toList.takeWhile Char.isDigit)

/-- Reads a summary back from an output in some format. -/
def readBack? (format : Format) (output : String) : Option Summary := do
  let entries := entriesIn (plainOutput format output)
  let tests ← figure? entries (labels format).tests
  let errors ← figure? entries (labels format).errors
  let failures ← figure? entries (labels format).failures
  let skipped ← figure? entries (labels format).skipped
  pure { tests, errors, failures, skipped, time := figure? entries (labels format).time }

theorem readWhole?_digits (n : Counter) (unit : List Char)
    (hunit : ∀ c ∈ unit.head?, c.isDigit = false) :
    Number.readWhole? ((n.digits.toList ++ unit).takeWhile Char.isDigit) = some n := by
  rw [takeWhile_append_stop (fun c => digit_of_mem_digits) hunit, Number.readWhole?_eq_some_iff,
    Counter.digits, Report.toList_toString]
  exact ⟨Nat.toDigits_ne_nil, Report.allDigits_toDigits n.value,
    Number.valueOfDigits_toDigits n.value⟩

theorem figure?_of_lookup {entries : List (String × String)} {label : String} {n : Counter}
    (h : entries.lookup label = some n.digits) : figure? entries label = some n := by
  have hread := readWhole?_digits n [] (by simp)
  rw [List.append_nil] at hread
  rw [figure?, h, Option.bind_some, hread]

theorem figure?_timeText (s : Summary) :
    figure? (s.textFields false) "Execution time" = s.time := by
  have hlookup : (s.textFields false).lookup "Execution time" = some s.timeText := rfl
  rw [figure?, hlookup, Option.bind_some, timeText]
  cases s.time with
  | none => rfl
  | some ms =>
    simp only [String.toList_append]
    exact readWhole?_digits ms [' ', 'm', 's'] (by simp)

theorem figure?_recordTime (s : Summary) :
    figure? s.recordFields "execution_time_ms" = s.time := by
  cases hms : s.time with
  | none =>
    have hlookup : s.recordFields.lookup "execution_time_ms" = none := by
      rw [recordFields, hms]
      rfl
    rw [figure?, hlookup, Option.bind_none]
  | some ms =>
    apply figure?_of_lookup
    rw [recordFields, hms]
    rfl

/-- A record is read back from its fields, whatever format shows it. -/
theorem entriesIn_plainOutput (s : Summary) (format : Format) (colors : Bool) :
    entriesIn (plainOutput format (s.render format colors)) =
      match format with
      | .text => s.textFields false
      | .json | .yaml => s.recordFields := by
  cases format with
  | text =>
    show entriesIn (withoutStyles (s.renderText colors)) = _
    rw [withoutStyles_renderText, entriesIn_renderText]
  | json => exact entriesIn_renderJson s
  | yaml => exact entriesIn_renderYaml s

theorem readBack?_render (s : Summary) (format : Format) (colors : Bool) :
    readBack? format (s.render format colors) = some s := by
  unfold readBack?
  rw [entriesIn_plainOutput]
  cases format with
  | text =>
    have htests : figure? (s.textFields false) "Tests" = some s.tests := figure?_of_lookup rfl
    have herrors : figure? (s.textFields false) "Errors" = some s.errors := figure?_of_lookup rfl
    have hfailures : figure? (s.textFields false) "Failures" = some s.failures :=
      figure?_of_lookup rfl
    have hskipped : figure? (s.textFields false) "Skipped" = some s.skipped :=
      figure?_of_lookup rfl
    simp only [labels, htests, herrors, hfailures, hskipped, figure?_timeText]
    rfl
  | json | yaml =>
    have htests : figure? s.recordFields "tests" = some s.tests := figure?_of_lookup rfl
    have herrors : figure? s.recordFields "errors" = some s.errors := figure?_of_lookup rfl
    have hfailures : figure? s.recordFields "failures" = some s.failures := figure?_of_lookup rfl
    have hskipped : figure? s.recordFields "skipped" = some s.skipped := figure?_of_lookup rfl
    simp only [labels, htests, herrors, hfailures, hskipped, figure?_recordTime]
    rfl

/-- The second line of the text is that of the tests that passed, and no other is. -/
theorem filter_passed_lines (s : Summary) :
    (linesOf (s.render .text false)).filter ("  Passed".toList.isPrefixOf ·) =
      [("  Passed: " ++ s.passed.digits).toList] := by
  show (linesOf (s.renderText false)).filter _ = _
  rw [linesOf_renderText]
  simp [textItems, Item.line, Item.field_false, lineOf, String.toList_append]

/-- From what is shown of a summary in any format, with or without colours, the summary is read
back, so summaries that are shown alike in one format are equal. The text shows the number of
tests that passed on one line, which is that of all tests less those that errored, failed or
were skipped, or zero. Without its style sequences the coloured text is the plain one, and the
styles of a line are closed on that line. -/
theorem render_determines_summary (s : Summary) :
    (∀ format colors, readBack? format (s.render format colors) = some s) ∧
    (∀ t format colors colors', s.render format colors = t.render format colors' → s = t) ∧
    (linesOf (s.render .text false)).filter ("  Passed".toList.isPrefixOf ·) =
      [("  Passed: " ++ toString (max (0 : Int)
        (s.tests.value - (s.errors.value + s.failures.value + s.skipped.value)))).toList] ∧
    withoutStyles (s.render .text true) = s.render .text false ∧
    ∀ line ∈ linesOf (s.render .text true), Closed (stylesIn line) := by
  refine ⟨readBack?_render s, ?_, ?_, withoutStyles_renderText true s, closed_of_mem_linesOf true s⟩
  · intro t format colors colors' h
    have hread := readBack?_render s format colors
    rw [h, readBack?_render t format colors'] at hread
    exact (Option.some.inj hread).symm
  · have hpassed := s.passed_eq_max
    rw [filter_passed_lines, ← hpassed]
    rfl

/-- A time of zero is shown and an absent one is not. -/
example :
    (render { tests := .saturate 3, time := some 0 } .yaml false, render {} .yaml false) =
      ("tests: 3\nerrors: 0\nfailures: 0\nskipped: 0\nexecution_time_ms: 0\n",
        "tests: 0\nerrors: 0\nfailures: 0\nskipped: 0\n") := by decide

end TestRollup.Summary
