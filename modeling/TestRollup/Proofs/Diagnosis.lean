import Mathlib.Data.List.DropRight
import TestRollup.Proofs.AbsolutePath
import TestRollup.Proofs.Spreading

/- What a message tells. The message of a fault is made of fixed words, the path, and what the
   fault names, unescaped: a value may hold quotation marks, line breaks and the very words of
   a message. All the same nothing is lost. The first words tell the kind of fault; the path
   is known and stands at the end; and the attribute is one of those that reports are looked
   at for, whose names hold no quotation mark (`field_mem_fieldNames`), so the first mark
   inside, or the last one where a value comes before, ends the attribute's name.

   `diagnosis?` reads the cause back in this way. It finds the cause of every fault of a text
   (`diagnosis?_of_fault`), hence faults with one message have one cause
   (`message_eq_iff_cause_eq`).

   Texts that are no documents have one cause, whatever is wrong with them, and what a reader
   of documents has to say of them is no part of the message. Of such texts a message tells
   the kind of fault and the path, and no more. -/
namespace TestRollup.Report

open Text (takeWhile_append_stop)

/-! ## Reading a cause back from a message -/

/-- What stands between two given texts, if the whole begins and ends with them. -/
def between? (opening closing whole : List Char) : Option (List Char) :=
  (whole.dropPrefix? opening).bind (·.dropSuffix? closing)

/-- What stands before the first quotation mark. -/
def beforeQuote (cs : List Char) : List Char := cs.takeWhile (· != '"')

/-- What stands behind the last quotation mark. -/
def behindQuote (cs : List Char) : List Char := cs.rtakeWhile (· != '"')

namespace Cause

def rootIn? (path message : List Char) : Option Cause :=
  (between? "Unrecognized root element <".toList ("> in ".toList ++ path) message).map
    fun root => unrecognizedRoot (.ofList root)

def missingIn? (path message : List Char) : Option Cause :=
  (between? "Missing attribute \"".toList ("> in ".toList ++ path) message).bind fun inner =>
    (inner.dropPrefix? (beforeQuote inner ++ "\" in element <".toList)).map fun element =>
      missingAttribute (.ofList element) (.ofList (beforeQuote inner))

/-- Reads a message about a value, which begins with the given words. -/
def valueIn? (opening : List Char) (cause : String → String → Cause) (path message : List Char) :
    Option Cause :=
  (between? opening ("\" in ".toList ++ path) message).bind fun inner =>
    (inner.dropSuffix? ("\" for the attribute \"".toList ++ behindQuote inner)).map fun value =>
      cause (.ofList (behindQuote inner)) (.ofList value)

/-- Reads a message that ends before a reader's own words on a text. -/
def malformedIn? (path message : List Char) : Option Cause :=
  if message = "Unable to parse ".toList ++ path ++ " as XML".toList then some malformed else none

/-- The cause that a message about the report at this path tells. -/
def diagnosis? (path message : List Char) : Option Cause :=
  (rootIn? path message).or <| (missingIn? path message).or <|
    (valueIn? "Expected an integer instead of \"".toList invalidInteger path message).or <|
      (valueIn? "Expected a decimal number instead of \"".toList invalidDecimal path message).or <|
        malformedIn? path message

end Cause

theorem dropPrefix?_append (opening rest : List Char) :
    (opening ++ rest).dropPrefix? opening = some rest :=
  List.dropPrefix?_eq_some_iff.mpr ⟨opening, rfl, beq_self_eq_true opening⟩

theorem dropSuffix?_append (rest closing : List Char) :
    (rest ++ closing).dropSuffix? closing = some rest :=
  List.dropSuffix?_eq_some_iff.mpr ⟨closing, rfl, beq_self_eq_true closing⟩

theorem between?_append (opening inner closing : List Char) :
    between? opening closing (opening ++ (inner ++ closing)) = some inner := by
  rw [between?, dropPrefix?_append]
  exact dropSuffix?_append inner closing

theorem beforeQuote_append {name : List Char} (h : '"' ∉ name) (rest : List Char) :
    beforeQuote (name ++ '"' :: rest) = name := by
  apply takeWhile_append_stop
  · intro c hc
    exact bne_iff_ne.mpr (ne_of_mem_of_not_mem hc h)
  · simp

theorem behindQuote_append {name : List Char} (h : '"' ∉ name) (rest : List Char) :
    behindQuote (rest ++ '"' :: name) = name := by
  have hreverse : (rest ++ '"' :: name).reverse = name.reverse ++ '"' :: rest.reverse := by simp
  rw [behindQuote, List.rtakeWhile, hreverse]
  show (beforeQuote _).reverse = name
  rw [beforeQuote_append (by simpa using h), List.reverse_reverse]

namespace Cause

variable (path : List Char)

theorem rootIn?_append (root : String) :
    rootIn? path ("Unrecognized root element <".toList ++
      (root.toList ++ ("> in ".toList ++ path))) = some (unrecognizedRoot root) := by
  rw [rootIn?, between?_append]
  simp

theorem missingIn?_append (element : String) {field : String} (h : '"' ∉ field.toList) :
    missingIn? path ("Missing attribute \"".toList ++
      (field.toList ++ ("\" in element <".toList ++ (element.toList ++
        ("> in ".toList ++ path))))) = some (missingAttribute element field) := by
  have hinner : field.toList ++ ("\" in element <".toList ++ (element.toList ++
      ("> in ".toList ++ path))) =
      (field.toList ++ ("\" in element <".toList ++ element.toList)) ++
        ("> in ".toList ++ path) := by simp only [List.append_assoc]
  have hfield : beforeQuote (field.toList ++ ("\" in element <".toList ++ element.toList)) =
      field.toList := beforeQuote_append h _
  rw [missingIn?, hinner, between?_append, Option.bind_some, hfield, ← List.append_assoc,
    dropPrefix?_append]
  simp

theorem valueIn?_append (opening : List Char) (cause : String → String → Cause) {field : String}
    (value : String) (h : '"' ∉ field.toList) :
    valueIn? opening cause path (opening ++
      (value.toList ++ ("\" for the attribute \"".toList ++ (field.toList ++
        ("\" in ".toList ++ path))))) = some (cause field value) := by
  have hinner : value.toList ++ ("\" for the attribute \"".toList ++ (field.toList ++
      ("\" in ".toList ++ path))) =
      (value.toList ++ ("\" for the attribute \"".toList ++ field.toList)) ++
        ("\" in ".toList ++ path) := by simp only [List.append_assoc]
  -- the value may hold marks of its own, but the last one is that before the field
  have hmark : value.toList ++ ("\" for the attribute \"".toList ++ field.toList) =
      (value.toList ++ "\" for the attribute ".toList) ++ '"' :: field.toList := by simp
  have hfield : behindQuote (value.toList ++ ("\" for the attribute \"".toList ++ field.toList)) =
      field.toList := by
    rw [hmark]
    exact behindQuote_append h _
  rw [valueIn?, hinner, between?_append, Option.bind_some, hfield, dropSuffix?_append]
  simp

/-- The field that the cause names, if it lies in one. -/
def field? : Cause → Option String
  | missingAttribute _ field | invalidInteger field _ | invalidDecimal field _ => some field
  | unrecognizedRoot _ | unreadable _ | malformed => none

end Cause

/-- The cause of a fault is read back from its message, unless the field that it names has a
quotation mark in its name. -/
theorem Fault.diagnosis?_message {f : Fault} (hfield : ∀ key ∈ f.cause.field?, '"' ∉ key.toList)
    (htext : ∀ reason, f.cause ≠ .unreadable reason) :
    Cause.diagnosis? f.path.toList f.message.toList = some f.cause := by
  obtain ⟨path, cause⟩ := f
  -- the readers of other kinds of messages refuse the first words, which evaluation shows
  cases cause with
  | unrecognizedRoot root =>
    simp only [message, String.toList_append, List.append_assoc]
    exact congrArg (Option.or · _) (Cause.rootIn?_append path.toList root)
  | missingAttribute element field =>
    simp only [message, String.toList_append, List.append_assoc]
    exact congrArg (Option.or · _) (Cause.missingIn?_append path.toList element (hfield field rfl))
  | invalidInteger field value =>
    simp only [message, String.toList_append, List.append_assoc]
    exact congrArg (Option.or · _)
      (Cause.valueIn?_append path.toList _ .invalidInteger value (hfield field rfl))
  | invalidDecimal field value =>
    simp only [message, String.toList_append, List.append_assoc]
    exact congrArg (Option.or · _)
      (Cause.valueIn?_append path.toList _ .invalidDecimal value (hfield field rfl))
  | unreadable reason => exact absurd rfl (htext reason)
  | malformed =>
    simp only [message, String.toList_append]
    show Cause.malformedIn? path.toList _ = some .malformed
    exact if_pos rfl

/-! ## The fields that faults name -/

/-- The fields that reports are looked at for. -/
def fieldNames : List String :=
  ["total", "errors", "failures", "not-run", "ignored", "invalid", "time", "failed",
    "inconclusive", "skipped", "duration"]

theorem quote_notMem_fieldNames : ∀ key ∈ fieldNames, '"' ∉ key.toList := by decide

/-- The field that a check looks at. -/
def Check.key? : Check → Option String
  | root _ => none
  | required _ key _ | optional key _ | seconds key _ => some key

theorem Check.Fails.field?_eq {c : Check} {cause : Cause} (h : c.Fails cause) :
    cause.field? = c.key? := by
  cases h <;> rfl

theorem Dialect.key_mem_fieldNames {d : Dialect} {e : Xml.Element} {c : Check}
    (h : c ∈ d.checks e) : ∀ key ∈ c.key?, key ∈ fieldNames := by
  cases d with
  | legacy =>
    have htime : ∀ c ∈ Legacy.timeChecks e, c.key? = some "time" := by
      unfold Legacy.timeChecks
      split
      · simp
      · split <;> simp [Check.key?]
    obtain h | h := List.mem_append.mp h
    · simp only [List.mem_cons, List.not_mem_nil, or_false] at h
      rcases h with rfl | rfl | rfl | rfl | rfl | rfl <;> simp [Check.key?, fieldNames]
    · rw [htime c h]
      simp [fieldNames]
  | modern =>
    simp only [checks, Modern.checks, List.mem_cons, List.not_mem_nil, or_false] at h
    rcases h with rfl | rfl | rfl | rfl | rfl | rfl <;> simp [Check.key?, fieldNames]

/-! ## The faults of texts -/

section Texts

variable {path text : String} {f : Fault}

/-- A fault in a field of a report names one of the fields that are looked at. -/
theorem field_mem_fieldNames (h : (countText path text).outcome = .error f) :
    ∀ key ∈ f.cause.field?, key ∈ fieldNames := by
  obtain ⟨-, hcause⟩ := countText_eq_error_iff.mp h
  generalize f.cause = cause at hcause
  cases hcause with
  | malformed | unrecognized => simp [Cause.field?]
  | @field root d _ hdocument htag h hfield =>
    obtain ⟨c, hc, hfails⟩ := ((d.inspects_count path root _).mp h).exists_fails
    obtain ⟨e, -, hc⟩ := List.mem_flatMap.mp hc
    rw [hfails.field?_eq]
    exact d.key_mem_fieldNames hc

/-- A report of a known dialect has the fault that its dialect finds. -/
theorem countText_report_eq_error_iff {root : Xml.Element} {d : Dialect} {cause : Cause}
    (hdocument : documentOf? text = some root) (htag : root.tag = d.rootTag) :
    (countText path text).outcome = .error ⟨path, cause⟩ ↔
      (d.count path root).outcome = .error cause := by
  rw [countText_of_document hdocument, Logged.outcome_mapError_eq_error_iff,
    countDocument_of_dialect htag]
  simp

/-- What has been given as a text need not be read. -/
theorem cause_ne_unreadable (h : (countText path text).outcome = .error f)
    (reason : Files.Failure) : f.cause ≠ .unreadable reason := by
  obtain ⟨-, hcause⟩ := countText_eq_error_iff.mp h
  intro hreason
  rw [hreason] at hcause
  cases hcause with
  | field _ _ _ hfield => cases hfield

theorem diagnosis?_of_fault (h : (countText path text).outcome = .error f) :
    Cause.diagnosis? path.toList f.message.toList = some f.cause := by
  rw [← (countText_eq_error_iff.mp h).1]
  apply Fault.diagnosis?_message
  · intro key hkey
    exact quote_notMem_fieldNames key (field_mem_fieldNames h key hkey)
  · exact cause_ne_unreadable h

end Texts

/-- The faults of two texts under one path have the same message exactly if they have the same
cause: the same kind, and the same root, element, attribute and value, whatever quotation marks,
line breaks or parts of a message stand in the values or in the path. For two texts that are no
documents this is the kind alone: the reader's own words on them are left out of both. -/
theorem message_eq_iff_cause_eq {path text other : String} {f g : Fault}
    (hf : (countText path text).outcome = .error f)
    (hg : (countText path other).outcome = .error g) :
    f.message = g.message ↔ f.cause = g.cause := by
  constructor
  · intro h
    apply Option.some.inj
    calc some f.cause
        = Cause.diagnosis? path.toList f.message.toList := (diagnosis?_of_fault hf).symm
      _ = Cause.diagnosis? path.toList g.message.toList := by rw [h]
      _ = some g.cause := diagnosis?_of_fault hg
  · intro h
    have hpath : f.path = g.path :=
      (countText_eq_error_iff.mp hf).1.trans (countText_eq_error_iff.mp hg).1.symm
    rw [Fault.message, Fault.message, h, hpath]

/-- Results with a total in which a message about the errors stands. -/
def imitation : Xml.Element :=
  ⟨⟨"", "test-results"⟩, [⟨⟨"", "total"⟩, "x\" for the attribute \"errors\" in /r.xml"⟩], []⟩

/-- Results with the errors that this message is about. -/
def imitated : Xml.Element :=
  ⟨⟨"", "test-results"⟩, [⟨⟨"", "total"⟩, "1"⟩, ⟨⟨"", "errors"⟩, "x"⟩], []⟩

/-- The messages of these two are not alike, though one continues the other. -/
theorem message_eq_iff_cause_eq_imitation :
    (countText "/r.xml" (textOf imitation)).outcome = .error
        ⟨"/r.xml", .invalidInteger "total" "x\" for the attribute \"errors\" in /r.xml"⟩ ∧
      (countText "/r.xml" (textOf imitated)).outcome =
        .error ⟨"/r.xml", .invalidInteger "errors" "x"⟩ ∧
      Fault.message
          ⟨"/r.xml", .invalidInteger "total" "x\" for the attribute \"errors\" in /r.xml"⟩ ≠
        Fault.message ⟨"/r.xml", .invalidInteger "errors" "x"⟩ := by
  have himitation : documentOf? (textOf imitation) = some imitation :=
    documentOf?_written (.mk (by decide) (by simp))
  have himitated : documentOf? (textOf imitated) = some imitated :=
    documentOf?_written (.mk (by decide) (by simp))
  have hf : (countText "/r.xml" (textOf imitation)).outcome = .error
      ⟨"/r.xml", .invalidInteger "total" "x\" for the attribute \"errors\" in /r.xml"⟩ := by
    rw [countText_report_eq_error_iff (d := .legacy) himitation rfl, Dialect.count_eq_tally]
    rfl
  have hg : (countText "/r.xml" (textOf imitated)).outcome =
      .error ⟨"/r.xml", .invalidInteger "errors" "x"⟩ := by
    rw [countText_report_eq_error_iff (d := .legacy) himitated rfl, Dialect.count_eq_tally]
    rfl
  refine ⟨hf, hg, ?_⟩
  rw [Ne, message_eq_iff_cause_eq hf hg]
  decide

end TestRollup.Report
