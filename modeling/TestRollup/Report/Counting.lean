import TestRollup.Report.Legacy
import TestRollup.Report.Modern
import TestRollup.Xml.Document

/- Counting a report. The text of a report is read as a document, its root element
   tells the dialect, and the dialect says which elements count. A report is
   counted in full or not at all: the first thing wrong with it is its fault,
   and it contributes nothing. -/
namespace TestRollup.Report

/-- Counts the elements that count in this dialect. -/
def Dialect.count (d : Dialect) (path : String) (root : Xml.Element) : Logged Cause Summary :=
  match d with
  | .legacy => Legacy.count path root
  | .modern => Modern.count root

/-- Counts a document. -/
def countDocument (path : String) (root : Xml.Element) : Logged Cause Summary :=
  match Dialect.ofRootTag? root.tag with
  | none => .fail (.unrecognizedRoot root.tag)
  | some d => do
    Logged.emit (.dispatching path d)
    d.count path root

/-- Counts the report with this text. One byte order mark may stand in front of
    the document, which may begin with one itself. -/
def countText (path text : String) : Logged Fault Summary :=
  Logged.mapError (Fault.mk path) <|
    match Xml.readDocument? (Xml.withoutByteOrderMark text.toList) with
    | none => .fail .malformed
    | some root => countDocument path root

/-! ## The document that is counted -/

/-- The document that a text spells, behind a byte order mark if it has one. -/
def documentOf? (text : String) : Option Xml.Element :=
  Xml.readDocument? (Xml.withoutByteOrderMark text.toList)

/-- A document of a known dialect is counted in that dialect. -/
theorem countDocument_of_dialect {root : Xml.Element} {d : Dialect} (h : root.tag = d.rootTag)
    (path : String) :
    countDocument path root =
      ⟨.dispatching path d :: (d.count path root).events, (d.count path root).outcome⟩ := by
  rw [countDocument, Dialect.ofRootTag?_eq_some_iff.mpr h]
  rfl

theorem countDocument_of_no_dialect {root : Xml.Element} (h : ∀ d : Dialect, root.tag ≠ d.rootTag)
    (path : String) : countDocument path root = .fail (.unrecognizedRoot root.tag) := by
  rw [countDocument, Dialect.ofRootTag?_eq_none_iff.mpr h]

theorem countText_of_document {text : String} {root : Xml.Element}
    (h : documentOf? text = some root) (path : String) :
    countText path text = (countDocument path root).mapError (Fault.mk path) := by
  rw [documentOf?] at h
  rw [countText, h]

theorem countText_of_no_document {text : String} (h : documentOf? text = none) (path : String) :
    countText path text = .fail ⟨path, .malformed⟩ := by
  rw [documentOf?] at h
  rw [countText, h]
  rfl

theorem events_countText {text : String} {root : Xml.Element} {d : Dialect}
    (hdocument : documentOf? text = some root) (htag : root.tag = d.rootTag) (path : String) :
    (countText path text).events = .dispatching path d :: (d.count path root).events := by
  rw [countText_of_document hdocument, countDocument_of_dialect htag]
  rfl

/-- Exactly the texts that spell a report that can be counted are counted. -/
theorem countText_eq_ok_iff {path text : String} {s : Summary} :
    (countText path text).outcome = .ok s ↔
      ∃ root d, documentOf? text = some root ∧ root.tag = Dialect.rootTag d ∧
        (d.count path root).outcome = .ok s := by
  constructor
  · intro h
    cases hdocument : documentOf? text with
    | none =>
      rw [countText_of_no_document hdocument] at h
      cases h
    | some root =>
      rw [countText_of_document hdocument, Logged.outcome_mapError_eq_ok_iff] at h
      cases hroot : Dialect.ofRootTag? root.tag with
      | none =>
        rw [countDocument_of_no_dialect (Dialect.ofRootTag?_eq_none_iff.mp hroot)] at h
        cases h
      | some d =>
        have htag := Dialect.ofRootTag?_eq_some_iff.mp hroot
        rw [countDocument_of_dialect htag] at h
        exact ⟨root, d, rfl, htag, h⟩
  · rintro ⟨root, d, hdocument, htag, h⟩
    rw [countText_of_document hdocument, Logged.outcome_mapError_eq_ok_iff,
      countDocument_of_dialect htag]
    exact h

/-- A report of a known dialect is counted exactly if its dialect counts it. -/
theorem countText_report_eq_ok_iff {text : String} {root : Xml.Element} {d : Dialect}
    (hdocument : documentOf? text = some root) (htag : root.tag = d.rootTag) {path : String}
    {s : Summary} :
    (countText path text).outcome = .ok s ↔ (d.count path root).outcome = .ok s := by
  rw [countText_of_document hdocument, Logged.outcome_mapError_eq_ok_iff,
    countDocument_of_dialect htag]

end TestRollup.Report
