import TestRollup.Intake
import TestRollup.Proofs.DecimalValue
import TestRollup.Proofs.EventAudit
import TestRollup.Proofs.Spreading

/- Every summary is what some report comes to, in either dialect. `Spells` says which
   texts of one empty tag spell a summary: the counts in plain digits, the skipped tests
   in any parts that add up to them, the time as seconds with three places behind either
   mark, or no time at all. Such a text is read back to the summary it spells, whatever
   the figures are, up to the ceiling of each.

   The pieces are taken back one by one: a number from its digits, a time from its
   seconds (`readDecimal?_secondsText`), the tag from its text (`documentOf?_tagText`),
   a field from its tag (`attribute?_elementOf`). -/
namespace TestRollup.Report

open TestRollup.Xml
open Number (allDigits readDecimal? exactThousandths isSeparator digitValue valueOfDigits)

/-! ## Writing a summary -/

/-- The digits of a number below a thousand, always three. -/
def threeDigits (n : Nat) : List Char :=
  [Nat.digitChar (n / 100), Nat.digitChar (n / 10 % 10), Nat.digitChar (n % 10)]

/-- Milliseconds as a number of seconds, with three places behind the mark. -/
def secondsText (mark : Char) (ms : Counter) : String :=
  toString (ms.value / 1000) ++ String.ofList (mark :: threeDigits (ms.value % 1000))

/-- A text that is one empty tag with the fields that are given. -/
def tagText (tag : String) (fields : List (String × Option String)) : String :=
  "<" ++ tag ++ String.join (fields.map fun field =>
    match field.2 with
    | none => ""
    | some value => " " ++ field.1 ++ "=\"" ++ value ++ "\"") ++ "/>"

/-- The fields of a `test-results` element. -/
def Legacy.spelled (mark : Char) (s : Summary) (notRun ignored invalid : Option Nat) :
    List (String × Option String) :=
  [("total", some s.tests.digits), ("errors", some s.errors.digits),
    ("failures", some s.failures.digits), ("not-run", notRun.map toString),
    ("ignored", ignored.map toString), ("invalid", invalid.map toString),
    ("time", s.time.map (secondsText mark))]

/-- The fields of a `test-run` element. -/
def Modern.spelled (mark : Char) (s : Summary) (inconclusive skipped : Option Nat) :
    List (String × Option String) :=
  [("total", some s.tests.digits), ("failed", some s.failures.digits),
    ("errors", some s.errors.digits), ("inconclusive", inconclusive.map toString),
    ("skipped", skipped.map toString), ("duration", s.time.map (secondsText mark))]

/-- The text spells the summary in a dialect. A part of the skipped tests that is not
given counts as none. -/
inductive Spells (s : Summary) : Dialect → String → Prop where
  | legacy {mark : Char} {notRun ignored invalid : Option Nat} (separator : mark = '.' ∨ mark = ',')
      (parts : notRun.getD 0 + ignored.getD 0 + invalid.getD 0 = s.skipped.value) :
      Spells s .legacy (tagText "test-results" (Legacy.spelled mark s notRun ignored invalid))
  | modern {mark : Char} {inconclusive skipped : Option Nat} (separator : mark = '.' ∨ mark = ',')
      (parts : inconclusive.getD 0 + skipped.getD 0 = s.skipped.value) :
      Spells s .modern (tagText "test-run" (Modern.spelled mark s inconclusive skipped))

/-! ## Numbers -/

theorem allDigits_toDigits (n : Nat) : allDigits (Nat.toDigits 10 n) = true :=
  Number.allDigits_iff.mpr fun _ hc => Nat.isDigit_of_mem_toDigits (by decide) (by decide) hc

theorem toList_toString (n : Nat) : (toString n).toList = Nat.toDigits 10 n := Nat.toList_repr

theorem isInteger_toString {n : Nat} (h : n ≤ Counter.ceiling) : Field.IsInteger (toString n) := by
  rw [Field.IsInteger, toList_toString, Number.valueOfDigits_toDigits]
  exact ⟨Nat.toDigits_ne_nil, allDigits_toDigits n, h⟩

theorem amount_toString (n : Option Nat) : Field.amount (n.map toString) = n.getD 0 := by
  cases n with
  | none => rfl
  | some n =>
    rw [Option.map_some, Field.amount, toList_toString, Number.valueOfDigits_toDigits]
    rfl

theorem absentOr_isInteger {n : Option Nat} (h : n.getD 0 ≤ Counter.ceiling) :
    Field.AbsentOr Field.IsInteger (n.map toString) := by
  cases n with
  | none => exact Field.absentOr_none _
  | some n => exact Field.absentOr_some.mpr (isInteger_toString h)

theorem allDigits_threeDigits {n : Nat} (h : n < 1000) : allDigits (threeDigits n) = true := by
  simp only [allDigits, threeDigits, List.all_cons, List.all_nil, Nat.isDigit_digitChar,
    Bool.and_true, Bool.and_eq_true, decide_eq_true_eq]
  omega

/-- Three digits behind the mark are as many thousandths, and nothing is left to round. -/
theorem exactThousandths_threeDigits {n : Nat} (h : n < 1000) (whole : List Char) :
    exactThousandths whole (threeDigits n) = valueOfDigits whole * 1000 + n := by
  have hdigit : ∀ {d : Nat}, d < 10 → digitValue (Nat.digitChar d) = d :=
    fun hd => Nat.toNat_digitChar_sub_48_of_lt_ten hd
  have hhundreds := hdigit (show n / 100 < 10 by omega)
  have htens := hdigit (show n / 10 % 10 < 10 by omega)
  have hones := hdigit (show n % 10 < 10 by omega)
  have hfraction : Number.fractionThousandths (threeDigits n) = n := by
    show digitValue _ * 100 + (digitValue _ * 10 + (digitValue _ * 1 + 0)) = n
    rw [hhundreds, htens, hones]
    omega
  have hround : Number.roundingThousandth (threeDigits n) = 0 := rfl
  rw [exactThousandths, hfraction, hround, Nat.add_zero]

theorem toList_secondsText (mark : Char) (ms : Counter) :
    (secondsText mark ms).toList =
      Nat.toDigits 10 (ms.value / 1000) ++ mark :: threeDigits (ms.value % 1000) := by
  rw [secondsText, String.toList_append, toList_toString, String.toList_ofList]

/-- Seconds are read as the milliseconds they were made of. -/
theorem readDecimal?_secondsText {mark : Char} (h : mark = '.' ∨ mark = ',') (ms : Counter) :
    readDecimal? (secondsText mark ms).toList = some ⟨ms⟩ := by
  have hbelow : ms.value % 1000 < 1000 := Nat.mod_lt _ (by decide)
  have hplain : allDigits (Nat.toDigits 10 (ms.value / 1000) ++ threeDigits (ms.value % 1000)) =
      true :=
    Number.allDigits_append.mpr ⟨allDigits_toDigits _, allDigits_threeDigits hbelow⟩
  have hnonempty : Nat.toDigits 10 (ms.value / 1000) ++ threeDigits (ms.value % 1000) ≠ [] := by
    simp [threeDigits]
  have htrim : Text.trim (secondsText mark ms).toList =
      Nat.toDigits 10 (ms.value / 1000) ++ mark :: threeDigits (ms.value % 1000) := by
    rw [toList_secondsText]
    exact Text.trim_of_no_blank (Number.Writes.separated h hnonempty hplain).not_isBlank
  have hparts : Number.splitAtSeparator (Text.trim (secondsText mark ms).toList) =
      (Nat.toDigits 10 (ms.value / 1000), threeDigits (ms.value % 1000)) := by
    rw [htrim]
    exact Number.splitAtSeparator_append (allDigits_toDigits _) ((Number.isSeparator_iff mark).2 h)
  rw [Number.readDecimal?_eq_some_of_parts hparts]
  refine ⟨hnonempty, hplain, ?_⟩
  rw [exactThousandths_threeDigits hbelow, Number.valueOfDigits_toDigits]
  show ms.value = _
  omega

/-! ## Tags -/

/-- The characters of a number. -/
def isFigure (c : Char) : Bool := c.isDigit || isSeparator c

/-- The text holds the characters of a number and no others. -/
def IsNumeral (text : String) : Prop := ∀ c ∈ text.toList, isFigure c = true

theorem isFigure_iff {c : Char} : isFigure c = true ↔ c.isDigit = true ∨ c = '.' ∨ c = ',' := by
  rw [isFigure, Bool.or_eq_true, Number.isSeparator_iff]

/-- No character of a number has to be written as a reference. -/
theorem escape_of_figures {cs : List Char} (h : ∀ c ∈ cs, isFigure c = true) : escape cs = cs := by
  have hone : ∀ c, isFigure c = true → escapeChar c = [c] := by
    intro c hc
    have hnone : references.lookup c = none := by
      rw [List.lookup_eq_none_iff]
      simp only [references, List.forall_mem_cons]
      refine ⟨?_, ?_, ?_, ?_, ?_, ?_, by simp⟩
      all_goals
        rw [bne_iff_ne]
        rintro rfl
        revert hc
        decide
    rw [escapeChar, hnone]
  induction cs with
  | nil => rfl
  | cons c cs ih =>
    obtain ⟨hc, hcs⟩ := List.forall_mem_cons.mp h
    have hcons : escape (c :: cs) = escapeChar c ++ escape cs := rfl
    rw [hcons, hone c hc, ih hcs]
    rfl

theorem isAllowed_of_isFigure {c : Char} (h : isFigure c = true) : isAllowed c = true := by
  rcases isFigure_iff.mp h with hdigit | rfl | rfl
  · have hvalue := Number.toNat_of_isDigit hdigit
    have hle := Number.digitValue_le hdigit
    simp only [isAllowed, Bool.or_eq_true, Bool.and_eq_true, decide_eq_true_eq, bne_iff_ne]
    omega
  · decide
  · decide

/-- The fields that are given, as attributes. -/
def attributesOf (fields : List (String × Option String)) : List Attribute :=
  fields.filterMap fun field => field.2.map fun value => ⟨⟨"", field.1⟩, value⟩

def elementOf (tag : String) (fields : List (String × Option String)) : Element :=
  ⟨⟨"", tag⟩, attributesOf fields, []⟩

/-- The fields have names of their own, and their values are numbers. -/
structure Spellable (tag : String) (fields : List (String × Option String)) : Prop where
  named : IsNamePart tag.toList
  keys : ∀ key ∈ fields.map (·.1), IsNamePart key.toList ∧ key ≠ "xmlns"
  distinct : (fields.map (·.1)).Nodup
  values : ∀ field ∈ fields, Field.AbsentOr IsNumeral field.2

variable {tag : String} {fields : List (String × Option String)}

theorem mem_attributesOf {a : Attribute} :
    a ∈ attributesOf fields ↔ ∃ key value, (key, some value) ∈ fields ∧ a = ⟨⟨"", key⟩, value⟩ := by
  simp only [attributesOf, List.mem_filterMap, Option.map_eq_some_iff]
  constructor
  · rintro ⟨⟨key, value?⟩, hmem, value, rfl, rfl⟩
    exact ⟨key, value, hmem, rfl⟩
  · rintro ⟨key, value, hmem, rfl⟩
    exact ⟨(key, some value), hmem, value, rfl, rfl⟩

theorem names_attributesOf :
    ((attributesOf fields).map (·.name)).Sublist (fields.map fun field => ⟨"", field.1⟩) := by
  induction fields with
  | nil => exact .slnil
  | cons field fields ih =>
    obtain ⟨key, value?⟩ := field
    cases value? with
    | none => exact ih.cons _
    | some value => exact ih.cons_cons _

theorem proper_elementOf (h : Spellable tag fields) : (elementOf tag fields).Proper := by
  refine .mk ⟨⟨.inl rfl, h.named⟩, by simp, ?_, ?_⟩ (by simp)
  · intro a ha
    obtain ⟨key, value, hmem, rfl⟩ := mem_attributesOf.mp ha
    obtain ⟨hkey, hplain⟩ := h.keys key (List.mem_map_of_mem hmem)
    refine ⟨⟨⟨.inl rfl, hkey⟩, ?_⟩, by simp [Namespace.declares, hplain]⟩
    exact fun c hc => isAllowed_of_isFigure (h.values _ hmem value rfl c hc)
  · have hnames : (fields.map fun field => (⟨"", field.1⟩ : Name)).Nodup := by
      have hmap := h.distinct.map (f := Name.mk "") fun _ _ heq => (Name.mk.inj heq).2
      rwa [List.map_map] at hmap
    exact hnames.sublist names_attributesOf

theorem qualifiersOf_elementOf :
    qualifiersOf ⟨"", tag⟩ (attributesOf fields) = [] := by
  rw [List.eq_nil_iff_forall_not_mem]
  intro q hq
  obtain ⟨heq, hne, -⟩ := mem_qualifiersOf_iff.mp hq
  rcases heq with rfl | ⟨a, ha, rfl⟩
  · exact hne rfl
  · obtain ⟨key, value, -, rfl⟩ := mem_attributesOf.mp ha
    exact hne rfl

/-- Field by field, the text of a tag is the text of its element. -/
theorem tagText_eq (h : Spellable tag fields) : tagText tag fields = textOf (elementOf tag fields) := by
  have hfields : (fields.map fun field =>
        match field.2 with
        | none => ""
        | some value => " " ++ field.1 ++ "=\"" ++ value ++ "\"").flatMap String.toList =
      (attributesOf fields).flatMap Attribute.written := by
    have hvalues := h.values
    clear h
    induction fields with
    | nil => rfl
    | cons field fields ih =>
      obtain ⟨hfield, hrest⟩ := List.forall_mem_cons.mp hvalues
      obtain ⟨key, value?⟩ := field
      rw [List.map_cons, List.flatMap_cons, ih hrest]
      cases value? with
      | none => rfl
      | some value =>
        have hwritten : Attribute.written ⟨⟨"", key⟩, value⟩ =
            (" " ++ key ++ "=\"" ++ value ++ "\"").toList := by
          rw [Attribute.written, escape_of_figures (hfield value rfl)]
          simp [Name.written, String.toList_append]
        rw [← hwritten]
        rfl
  have hdeclared : declared ⟨"", tag⟩ (attributesOf fields) = attributesOf fields := by
    rw [declared, qualifiersOf_elementOf]
    rfl
  have htext : (elementOf tag fields).written =
      '<' :: (tag.toList ++ (attributesOf fields).flatMap Attribute.written ++ ['/', '>']) := by
    rw [elementOf, Element.written, tagWritten, hdeclared]
    rfl
  rw [← String.toList_inj, textOf, String.toList_ofList, htext, ← hfields, tagText]
  simp only [String.toList_append, String.toList_join]
  rfl

/-- The tag is read back from its text. -/
theorem documentOf?_tagText (h : Spellable tag fields) :
    documentOf? (tagText tag fields) = some (elementOf tag fields) := by
  rw [tagText_eq h]
  exact documentOf?_written (proper_elementOf h)

/-- Every field is found under its name, or not found if it is not given. -/
theorem attribute?_elementOf (tag : String) (h : (fields.map (·.1)).Nodup) :
    ∀ field ∈ fields, (elementOf tag fields).attribute? field.1 = field.2 := by
  rintro ⟨key, value⟩ hmem
  show (elementOf tag fields).attribute? key = value
  have hcons : ∀ (field : String × Option String) (rest : List (String × Option String)),
      (elementOf tag (field :: rest)).attribute? key =
        if field.1 = key then field.2.or ((elementOf tag rest).attribute? key)
        else (elementOf tag rest).attribute? key := by
    rintro ⟨name, value?⟩ rest
    cases value? with
    | none => simp [elementOf, attributesOf, Element.attribute?]
    | some text =>
      by_cases hname : name = key
      · simp [elementOf, attributesOf, Element.attribute?, hname]
      · simp [elementOf, attributesOf, Element.attribute?, hname]
  have hother : ∀ rest : List (String × Option String), key ∉ rest.map (·.1) →
      (elementOf tag rest).attribute? key = none := by
    intro rest hrest
    induction rest with
    | nil => rfl
    | cons field rest ih =>
      rw [List.map_cons, List.mem_cons, not_or] at hrest
      rw [hcons, if_neg (Ne.symm hrest.1), ih hrest.2]
  induction fields with
  | nil => cases hmem
  | cons field rest ih =>
    obtain ⟨hhead, hrest⟩ := List.nodup_cons.mp h
    rw [hcons]
    rcases List.mem_cons.mp hmem with rfl | hmem
    · rw [if_pos rfl, hother rest hhead, Option.or_none]
    · have hne : field.1 ≠ key := by
        rintro rfl
        exact hhead (List.mem_map.mpr ⟨_, hmem, rfl⟩)
      rw [if_neg hne, ih hrest hmem]

/-! ## Reports of one element -/

theorem isNumeral_toString (n : Nat) : IsNumeral (toString n) := by
  intro c hc
  rw [toList_toString] at hc
  exact isFigure_iff.mpr (.inl (Number.allDigits_iff.mp (allDigits_toDigits n) c hc))

theorem isNumeral_secondsText {mark : Char} (h : mark = '.' ∨ mark = ',') (ms : Counter) :
    IsNumeral (secondsText mark ms) := by
  have hbelow : ms.value % 1000 < 1000 := Nat.mod_lt _ (by decide)
  intro c hc
  rw [toList_secondsText, List.mem_append, List.mem_cons] at hc
  rcases hc with hc | rfl | hc
  · exact isFigure_iff.mpr (.inl (Number.allDigits_iff.mp (allDigits_toDigits _) c hc))
  · exact isFigure_iff.mpr (.inr h)
  · exact isFigure_iff.mpr (.inl (Number.allDigits_iff.mp (allDigits_threeDigits hbelow) c hc))

theorem absentOr_map {α : Type} {ok : String → Prop} {f : α → String} (h : ∀ a, ok (f a))
    (value : Option α) : Field.AbsentOr ok (value.map f) := by
  cases value with
  | none => exact Field.absentOr_none ok
  | some a => exact Field.absentOr_some.mpr (h a)

variable {mark : Char}

theorem Legacy.spellable (h : mark = '.' ∨ mark = ',') (s : Summary)
    (notRun ignored invalid : Option Nat) :
    Spellable "test-results" (Legacy.spelled mark s notRun ignored invalid) where
  named := by decide
  keys := by
    show ∀ key ∈ ["total", "errors", "failures", "not-run", "ignored", "invalid", "time"], _
    decide
  distinct := by
    show ["total", "errors", "failures", "not-run", "ignored", "invalid", "time"].Nodup
    decide
  values := by
    have hcount := absentOr_map isNumeral_toString
    simp only [Legacy.spelled, List.forall_mem_cons]
    exact ⟨hcount (some _), hcount (some _), hcount (some _), hcount _, hcount _, hcount _,
      absentOr_map (isNumeral_secondsText h) _, by simp⟩

theorem Modern.spellable (h : mark = '.' ∨ mark = ',') (s : Summary)
    (inconclusive skipped : Option Nat) :
    Spellable "test-run" (Modern.spelled mark s inconclusive skipped) where
  named := by decide
  keys := by
    show ∀ key ∈ ["total", "failed", "errors", "inconclusive", "skipped", "duration"], _
    decide
  distinct := by
    show ["total", "failed", "errors", "inconclusive", "skipped", "duration"].Nodup
    decide
  values := by
    have hcount := absentOr_map isNumeral_toString
    simp only [Modern.spelled, List.forall_mem_cons]
    exact ⟨hcount (some _), hcount (some _), hcount (some _), hcount _, hcount _,
      absentOr_map (isNumeral_secondsText h) _, by simp⟩

theorem isDecimal_secondsText (h : mark = '.' ∨ mark = ',') (ms : Counter) :
    Field.IsDecimal (secondsText mark ms) := by
  rw [Field.IsDecimal, readDecimal?_secondsText h]
  rfl

theorem duration_secondsText (h : mark = '.' ∨ mark = ',') (time : Option Counter) :
    Field.duration (time.map (secondsText mark)) = time.map Counter.value := by
  cases time with
  | none => rfl
  | some ms =>
    rw [Option.map_some, Field.duration, Option.bind_some, readDecimal?_secondsText h]
    rfl

/-- A number of seconds is no time of day. -/
theorem colon_notMem_secondsText (h : mark = '.' ∨ mark = ',') (ms : Counter) :
    ':' ∉ (secondsText mark ms).toList := by
  intro hcolon
  have hfigure := isNumeral_secondsText h ms ':' hcolon
  revert hfigure
  decide

/-- The one element of the report gives the figures of the summary. -/
theorem Legacy.count_spelled (h : mark = '.' ∨ mark = ',') {s : Summary}
    {notRun ignored invalid : Option Nat}
    (hskipped : notRun.getD 0 + ignored.getD 0 + invalid.getD 0 = s.skipped.value) (path : String) :
    (Legacy.count path
      (elementOf "test-results" (Legacy.spelled mark s notRun ignored invalid))).outcome = .ok s := by
  have hvalues := attribute?_elementOf "test-results"
    (Legacy.spellable h s notRun ignored invalid).distinct
  generalize helement : elementOf "test-results" (Legacy.spelled mark s notRun ignored invalid) = e
    at hvalues ⊢
  simp only [Legacy.spelled, List.forall_mem_cons] at hvalues
  obtain ⟨htotal, herrors, hfailures, hnotRun, hignored, hinvalid, htime, -⟩ := hvalues
  have hceiling := s.skipped.value_le_ceiling
  have hresults : Legacy.results e = [e] := by
    rw [← helement, elementOf, Legacy.results_mk, if_pos rfl]
    rfl
  have hvalid : Legacy.Valid Element.attribute? e := by
    refine ⟨?_, ?_, ?_, ?_, ?_, ?_⟩
    · rw [htotal]
      exact Field.given_some.mpr (isInteger_toString s.tests.value_le_ceiling)
    · rw [herrors]
      exact Field.given_some.mpr (isInteger_toString s.errors.value_le_ceiling)
    · rw [hfailures]
      exact Field.given_some.mpr (isInteger_toString s.failures.value_le_ceiling)
    · simp only [List.forall_mem_cons, hnotRun, hignored, hinvalid]
      exact ⟨absentOr_isInteger (by omega), absentOr_isInteger (by omega),
        absentOr_isInteger (by omega), by simp⟩
    · rw [htime]
      exact absentOr_map (fun ms _ => isDecimal_secondsText h ms) _
    · rw [htime]
      exact absentOr_map (fun ms hcolon => absurd hcolon (colon_notMem_secondsText h ms)) _
  have htimeOf : Legacy.timeOf e = s.time.map Counter.value := by
    rw [← duration_secondsText h, Legacy.timeOf, htime]
    cases s.time with
    | none => rfl
    | some ms => exact if_neg (colon_notMem_secondsText h ms)
  have hfigures : Legacy.figuresOf e = s.exact := by
    rw [Legacy.figuresOf, htotal, herrors, hfailures, hnotRun, hignored, hinvalid, htimeOf]
    simp only [amount_toString, hskipped, amount_digits]
    rfl
  rw [Legacy.count_eq_ok_iff, hresults]
  refine ⟨?_, ?_⟩
  · simpa using hvalid
  · rw [List.map_singleton, List.sum_singleton, hfigures, exact_saturate]

theorem Modern.count_spelled (h : mark = '.' ∨ mark = ',') {s : Summary}
    {inconclusive skipped : Option Nat}
    (hskipped : inconclusive.getD 0 + skipped.getD 0 = s.skipped.value) :
    (Modern.count
      (elementOf "test-run" (Modern.spelled mark s inconclusive skipped))).outcome = .ok s := by
  have hvalues := attribute?_elementOf "test-run"
    (Modern.spellable h s inconclusive skipped).distinct
  generalize elementOf "test-run" (Modern.spelled mark s inconclusive skipped) = e at hvalues ⊢
  simp only [Modern.spelled, List.forall_mem_cons] at hvalues
  obtain ⟨htotal, hfailed, herrors, hinconclusive, hskip, hduration, -⟩ := hvalues
  have hceiling := s.skipped.value_le_ceiling
  have hvalid : Modern.Valid Element.attribute? e := by
    refine ⟨?_, ?_, ?_, ?_, ?_, ?_⟩
    · rw [htotal]
      exact Field.given_some.mpr (isInteger_toString s.tests.value_le_ceiling)
    · rw [hfailed]
      exact Field.given_some.mpr (isInteger_toString s.failures.value_le_ceiling)
    · rw [hinconclusive]
      exact absentOr_isInteger (by omega)
    · rw [hskip]
      exact absentOr_isInteger (by omega)
    · rw [herrors]
      exact Field.absentOr_some.mpr (isInteger_toString s.errors.value_le_ceiling)
    · rw [hduration]
      exact absentOr_map (isDecimal_secondsText h) _
  have hfigures : Modern.figuresOf e = s.exact := by
    rw [Modern.figuresOf, htotal, hfailed, herrors, hinconclusive, hskip, hduration]
    simp only [amount_toString, hskipped, amount_digits, duration_secondsText h]
    rfl
  have hcounted : Modern.counted e = [e] := by simp [Modern.counted, htotal]
  rw [Modern.count_eq_ok_iff, hcounted]
  refine ⟨.inl ⟨by simp [htotal], hvalid⟩, ?_⟩
  rw [List.map_singleton, List.sum_singleton, hfigures, exact_saturate]

/-! ## The law of spelling -/

theorem exists_spells (s : Summary) (d : Dialect) : ∃ text, Spells s d text := by
  -- all skipped tests may stand in one of the parts
  cases d with
  | legacy => exact ⟨_, @Spells.legacy s '.' (some s.skipped.value) none none (.inl rfl) rfl⟩
  | modern =>
    exact ⟨_, @Spells.modern s '.' none (some s.skipped.value) (.inl rfl) (Nat.zero_add _)⟩

namespace Spells

variable {s : Summary} {d : Dialect} {text : String}

theorem outcome_countText (h : Spells s d text) (path : String) :
    (countText path text).outcome = .ok s := by
  cases h with
  | @legacy mark notRun ignored invalid separator parts =>
    have hdocument := documentOf?_tagText (Legacy.spellable separator s notRun ignored invalid)
    exact (countText_report_eq_ok_iff (d := .legacy) hdocument rfl).mpr
      (Legacy.count_spelled separator parts path)
  | @modern mark inconclusive skipped separator parts =>
    have hdocument := documentOf?_tagText (Modern.spellable separator s inconclusive skipped)
    exact (countText_report_eq_ok_iff (d := .modern) hdocument rfl).mpr
      (Modern.count_spelled separator parts)

theorem outcome_countFile (h : Spells s d text) {w : Intake.Workspace} {path : String}
    (hread : w.read (Files.absolute w.folder path) = .ok text.toUTF8) :
    (Intake.countFile w path).outcome = .ok s := by
  rw [Intake.countFile_of_text (Intake.Workspace.text_of_read hread)]
  exact h.outcome_countText _

/-- No text spells two summaries, be it in one dialect or in two. -/
theorem unique (h : Spells s d text) {s' : Summary} {d' : Dialect} (h' : Spells s' d' text) :
    s' = s := by
  have hsame := (h'.outcome_countText "").symm.trans (h.outcome_countText "")
  exact Except.ok.inj hsame

end Spells

/-- Every summary is spelled in both dialects. Whatever text spells it, in either dialect,
comes to just this summary, and so does every file that holds such a text; and it spells no
other. -/
theorem spelled_summary (s : Summary) (d : Dialect) :
    (∃ text, Spells s d text) ∧
    ∀ text, Spells s d text →
      (∀ path, (countText path text).outcome = .ok s) ∧
      (∀ (w : Intake.Workspace) (path : String),
        w.read (Files.absolute w.folder path) = .ok text.toUTF8 →
          (Intake.countFile w path).outcome = .ok s) ∧
      ∀ s' d', Spells s' d' text → s' = s := by
  refine ⟨exists_spells s d, ?_⟩
  intro text h
  refine ⟨h.outcome_countText, ?_, ?_⟩
  · intro w path hread
    exact h.outcome_countFile hread
  · intro s' d' h'
    exact h.unique h'

/-- A time at the ceiling is spelled just below the number of seconds that is too large. -/
example : tagText "test-run" (Modern.spelled ',' ⟨.saturate 7, 0, 0, .saturate 3,
      some (.saturate Counter.ceiling)⟩ (some 1) (some 2)) =
    "<test-run total=\"7\" failed=\"0\" errors=\"0\" inconclusive=\"1\" skipped=\"2\"" ++
      " duration=\"18446744073709551,615\"/>" := by
  decide

end TestRollup.Report
