import TestRollup.Proofs.LegacyCount
import TestRollup.Proofs.ModernCount
import TestRollup.Report.Counting

/- What the two dialects have in common. In both a report is counted by looking at some
   of its elements one after the other (`scanned`, `read`) and adding up what they come
   to (`count_eq_tally`); one that cannot be counted ends it. A run that has left its
   total out wrongly is refused before any element is counted, but with the very cause
   that reading the run itself would have, so it is taken as looked at.

   An element that is valid is read to its figures, and any other leaves nothing behind
   but a cause (`read_of_valid`, `read_of_not_valid`). -/
namespace TestRollup.Report

namespace Legacy

/-- The warning about a valid element that gives a time of day while no suite directly
inside it gives a duration. -/
def warningsOf (path : String) (e : Xml.Element) : List Event :=
  match e.attribute? "time" with
  | some text => if ':' ∈ text.toList ∧ timeOf e = none then [.clockOnly path text] else []
  | none => []

theorem warnings_eq (path : String) (e : Xml.Element) :
    (Entry.ofElement e).warnings path (figuresOf e).saturate = warningsOf path e := by
  have htime : (figuresOf e).saturate.time = (timeOf e).map .saturate := rfl
  have hfield : (Entry.ofElement e).time = e.attribute? "time" := rfl
  unfold Entry.warnings warningsOf
  rw [htime, hfield]
  cases e.attribute? "time" with
  | none => rfl
  | some text => cases timeOf e <;> simp [isClock_iff]

end Legacy

namespace Modern

/-- The elements that are looked at: the run if it gives its total or has left it out
wrongly, otherwise the suites directly inside it. -/
def scanned (root : Xml.Element) : List Xml.Element :=
  if (root.attribute? "total").isSome || lacksTotal root then [root]
  else root.childrenTagged "test-suite"

theorem count_eq_tally (root : Xml.Element) :
    count root = Logged.tally (fun e => (Entry.ofElement e).count) (scanned root) := by
  rw [count, entries_eq]
  by_cases hlacks : (root.attribute? "total").isSome = false ∧ lacksTotal root = true
  · have htotal : root.attribute? "total" = none := by simpa using hlacks.1
    have hfigures : (Entry.ofElement root).figures = .error (.missingAttribute root.tag "total") := by
      simp only [Entry.figures, Entry.ofElement, htotal]
      rfl
    have hscanned : scanned root = [root] := by simp [scanned, hlacks]
    rw [if_pos hlacks, hscanned, Logged.tally, Entry.count, hfigures]
    rfl
  · have hscanned : scanned root = counted root := by
      unfold scanned counted
      cases htotal : (root.attribute? "total").isSome <;> simp_all
    rw [if_neg hlacks, hscanned]
    exact Logged.tally_map _ _ _

end Modern

namespace Dialect

/-- The elements that are looked at, in document order. -/
def scanned : Dialect → Xml.Element → List Xml.Element
  | legacy => Legacy.results
  | modern => Modern.scanned

/-- What an element must give to be counted. -/
def Valid : Dialect → Xml.Element → Prop
  | legacy => Legacy.Valid Xml.Element.attribute?
  | modern => Modern.Valid Xml.Element.attribute?

/-- What a valid element contributes. -/
def figuresOf : Dialect → Xml.Element → ExactSummary
  | legacy => Legacy.figuresOf
  | modern => Modern.figuresOf

/-- The warnings about a valid element. -/
def warningsOf (path : String) : Dialect → Xml.Element → List Event
  | legacy => Legacy.warningsOf path
  | modern => fun _ => []

/-- The event that says what a valid element contributes. -/
def readEvent : Dialect → Xml.Element → Event
  | legacy, e => .legacyCounted (Legacy.figuresOf e).saturate
  | modern, e => .modernCounted e.tag (Modern.figuresOf e).saturate

/-- The events of a valid element. -/
def eventsOf (path : String) (d : Dialect) (e : Xml.Element) : List Event :=
  d.warningsOf path e ++ [d.readEvent e]

/-- Counts one element. -/
def read (path : String) : Dialect → Xml.Element → Logged Cause Summary
  | legacy, e => (Legacy.Entry.ofElement e).count path
  | modern, e => (Modern.Entry.ofElement e).count

theorem count_eq_tally (d : Dialect) (path : String) (root : Xml.Element) :
    d.count path root = Logged.tally (d.read path) (d.scanned root) := by
  cases d with
  | legacy =>
    show Legacy.count path root = _
    rw [Legacy.count, Legacy.entries_eq]
    exact Logged.tally_map _ _ _
  | modern => exact Modern.count_eq_tally root

/-! ## One element -/

variable {d : Dialect} {e : Xml.Element}

theorem outcome_read_eq_ok_iff {path : String} {s : Summary} :
    (d.read path e).outcome = .ok s ↔ d.Valid e ∧ s = (d.figuresOf e).saturate := by
  cases d with
  | legacy =>
    show (Legacy.Entry.count path _).outcome = _ ↔ _
    rw [Legacy.outcome_entry_count]
    exact Legacy.figures_eq_ok_iff
  | modern =>
    show (Modern.Entry.count _).outcome = _ ↔ _
    rw [Modern.outcome_entry_count]
    exact Modern.figures_eq_ok_iff

/-- The only warnings are those about times of day. -/
theorem eq_clockOnly_of_mem_warningsOf {path : String} {event : Event}
    (h : event ∈ d.warningsOf path e) : ∃ text, event = .clockOnly path text := by
  cases d with
  | legacy =>
    change event ∈ Legacy.warningsOf path e at h
    unfold Legacy.warningsOf at h
    split at h
    · next text _ =>
      split at h
      · exact ⟨text, List.mem_singleton.mp h⟩
      · cases h
    · cases h
  | modern => cases h

/-- A valid element is read to its figures, and its events tell them. -/
theorem read_of_valid (h : d.Valid e) (path : String) :
    d.read path e = ⟨d.eventsOf path e, .ok (d.figuresOf e).saturate⟩ := by
  cases d with
  | legacy =>
    have hfigures := Legacy.figures_eq_ok_iff.mpr ⟨h, rfl⟩
    show (Legacy.Entry.ofElement e).count path = _
    rw [Legacy.Entry.count, hfigures]
    show Logged.mk (_ ++ _) _ = _
    rw [Legacy.warnings_eq]
    rfl
  | modern =>
    have hfigures := Modern.figures_eq_ok_iff.mpr ⟨h, rfl⟩
    show (Modern.Entry.ofElement e).count = _
    rw [Modern.Entry.count, hfigures]
    rfl

/-- Any other element has a cause and no events. -/
theorem read_of_not_valid (h : ¬ d.Valid e) (path : String) :
    ∃ cause, d.read path e = .fail cause := by
  cases d with
  | legacy =>
    show ∃ cause, (Legacy.Entry.ofElement e).count path = _
    rw [Legacy.Entry.count]
    cases hfigures : (Legacy.Entry.ofElement e).figures with
    | ok s => exact absurd (Legacy.figures_eq_ok_iff.mp hfigures).1 h
    | error cause => exact ⟨cause, rfl⟩
  | modern =>
    show ∃ cause, (Modern.Entry.ofElement e).count = _
    rw [Modern.Entry.count]
    cases hfigures : (Modern.Entry.ofElement e).figures with
    | ok s => exact absurd (Modern.figures_eq_ok_iff.mp hfigures).1 h
    | error cause => exact ⟨cause, rfl⟩

/-! ## All elements -/

/-- A report is counted exactly if all elements that are looked at are valid, and then it
comes to the sum of their figures. -/
theorem outcome_count_eq_ok_iff {path : String} {root : Xml.Element} {s : Summary} :
    (d.count path root).outcome = .ok s ↔
      (∀ e ∈ d.scanned root, d.Valid e) ∧
        s = ((d.scanned root).map fun e => (d.figuresOf e).saturate).sum := by
  rw [count_eq_tally]
  exact Logged.tally_eq_ok_iff (fun _ _ => outcome_read_eq_ok_iff) _ _

end Dialect

end TestRollup.Report
