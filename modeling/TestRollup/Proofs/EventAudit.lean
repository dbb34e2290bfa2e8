import TestRollup.Proofs.ElementReading
import TestRollup.Proofs.LedgerRun

/- What the events of a count tell. An auditor sees the events only, and of an event the
   fields that it shows, each found by its name: the two dialects show the same figures in
   different orders. `audited` is what the events of the elements add up to in these
   fields, exactly and without a ceiling.

   A text that spells no report has no events. Any other has one event for its dialect
   and then the events of the elements up to the first that is not valid, each with
   exactly one event of its own that tells its figures, and perhaps a warning before it
   (`countText_events_audit`). If there is no such element, the audit is the summary,
   once it is cut off at the ceiling. -/
namespace TestRollup.Report

namespace Event

/-- The value that an event shows under a name. -/
def shown? (event : Event) (key : String) : Option String :=
  (event.fields.lookup key).map FieldValue.text

/-- The time that an event shows, if it shows one. -/
def shownTime (event : Event) : Option Nat :=
  match event.shown? "execution_time" with
  | some text =>
    if text = "None" then none
    else some (Number.valueOfDigits (text.toList.filter Char.isDigit))
  | none => none

/-- The figures that an event shows. -/
def account (event : Event) : ExactSummary where
  tests := Field.amount (event.shown? "tests")
  errors := Field.amount (event.shown? "errors")
  failures := Field.amount (event.shown? "failures")
  skipped := Field.amount (event.shown? "skipped")
  time := event.shownTime

/-- The event tells the figures of an element. -/
def isRead : Event → Bool
  | legacyCounted .. | modernCounted .. => true
  | _ => false

end Event

/-- What the events of elements add up to. -/
def audited (events : List Event) : ExactSummary where
  tests := ((events.filter Event.isRead).map (·.account.tests)).sum
  errors := ((events.filter Event.isRead).map (·.account.errors)).sum
  failures := ((events.filter Event.isRead).map (·.account.failures)).sum
  skipped := ((events.filter Event.isRead).map (·.account.skipped)).sum
  time := sumPresent ((events.filter Event.isRead).map (·.account.time))

theorem audited_eq (events : List Event) :
    audited events = ((events.filter Event.isRead).map Event.account).sum := by
  rw [ExactSummary.sum_eq]
  simp only [List.map_map]
  rfl

/-! ## What one event shows -/

theorem digits_toList (n : Counter) : n.digits.toList = Nat.toDigits 10 n.value :=
  Nat.toList_repr

theorem amount_digits (n : Counter) : Field.amount (some n.digits) = n.value := by
  rw [Field.amount, digits_toList, Number.valueOfDigits_toDigits]

theorem timeText_ne_none (ms : Counter) : Event.timeText (some ms) ≠ "None" := by
  intro h
  have hchars := congrArg String.toList h
  simp [Event.timeText, String.toList_append] at hchars

theorem filter_isDigit_timeText (ms : Counter) :
    (Event.timeText (some ms)).toList.filter Char.isDigit = Nat.toDigits 10 ms.value := by
  have hdigits : (Nat.toDigits 10 ms.value).filter Char.isDigit = Nat.toDigits 10 ms.value := by
    rw [List.filter_eq_self]
    intro c hc
    exact Nat.isDigit_of_mem_toDigits (by decide) (by decide) hc
  have hopen : "Some(".toList.filter Char.isDigit = [] := by decide
  have hclose : ")".toList.filter Char.isDigit = [] := by decide
  simp only [Event.timeText, String.toList_append, digits_toList, List.filter_append, hdigits, hopen,
    hclose, List.nil_append, List.append_nil]

theorem shownTime_eq {event : Event} {time : Option Counter}
    (h : event.shown? "execution_time" = some (Event.timeText time)) :
    event.shownTime = time.map Counter.value := by
  rw [Event.shownTime, h]
  cases time with
  | none => rfl
  | some ms =>
    show (if Event.timeText (some ms) = "None" then none else _) = _
    rw [if_neg (timeText_ne_none ms), filter_isDigit_timeText, Number.valueOfDigits_toDigits]
    rfl

/-- An event that shows the figures of a summary under their names accounts for it,
whatever their order. -/
theorem account_eq {event : Event} {s : Summary}
    (tests : event.shown? "tests" = some s.tests.digits)
    (errors : event.shown? "errors" = some s.errors.digits)
    (failures : event.shown? "failures" = some s.failures.digits)
    (skipped : event.shown? "skipped" = some s.skipped.digits)
    (time : event.shown? "execution_time" = some (Event.timeText s.time)) :
    event.account = s.exact := by
  simp only [Event.account, tests, errors, failures, skipped, amount_digits, shownTime_eq time,
    Summary.exact]

theorem account_readEvent (d : Dialect) (e : Xml.Element) :
    (d.readEvent e).account = (d.figuresOf e).saturate.exact := by
  cases d with
  | legacy => exact account_eq rfl rfl rfl rfl rfl
  | modern => exact account_eq rfl rfl rfl rfl rfl

/-! ## The events of a report -/

theorem isRead_readEvent (d : Dialect) (e : Xml.Element) : (d.readEvent e).isRead = true := by
  cases d <;> rfl

/-- Of the events of elements, one for each element tells its figures. -/
theorem filter_isRead_flatMap (path : String) (d : Dialect) (es : List Xml.Element) :
    (es.flatMap (d.eventsOf path)).filter Event.isRead = es.map d.readEvent := by
  have hone : ∀ e, (d.eventsOf path e).filter Event.isRead = [d.readEvent e] := by
    intro e
    have hwarnings : (d.warningsOf path e).filter Event.isRead = [] := by
      rw [List.filter_eq_nil_iff]
      intro event hevent
      obtain ⟨text, rfl⟩ := Dialect.eq_clockOnly_of_mem_warningsOf hevent
      simp [Event.isRead]
    rw [Dialect.eventsOf, List.filter_append, hwarnings]
    simp [isRead_readEvent]
  induction es with
  | nil => rfl
  | cons e es ih => rw [List.flatMap_cons, List.filter_append, hone, ih]; rfl

/-- Reading stops at the first member that cannot be counted. The events are those of the
members before it. -/
theorem Logged.tally_stops {α : Type} {read : α → Logged Cause Summary} {ok : α → Prop}
    {events : α → List Event} (good : ∀ x, ok x → ∃ s, read x = ⟨events x, .ok s⟩)
    (bad : ∀ x, ¬ ok x → ∃ cause, read x = .fail cause) (xs : List α) :
    ∃ before after, xs = before ++ after ∧ (∀ x ∈ before, ok x) ∧ (∀ x ∈ after.head?, ¬ ok x) ∧
      (tally read xs).events = before.flatMap events ∧
      ((∃ s, (tally read xs).outcome = .ok s) ↔ after = []) := by
  -- a member that can be counted joins those before the cut, and the first that cannot is it
  induction xs with
  | nil =>
    refine ⟨[], [], rfl, by simp, by simp, rfl, ?_⟩
    simp [tally]
  | cons x xs ih =>
    by_cases hx : ok x
    · obtain ⟨s, hs⟩ := good x hx
      obtain ⟨before, after, rfl, hbefore, hafter, hevents, hok⟩ := ih
      refine ⟨x :: before, after, rfl, List.forall_mem_cons.mpr ⟨hx, hbefore⟩, hafter, ?_, ?_⟩
      · rw [tally, hs, bind_of_ok rfl, events_map, hevents, List.flatMap_cons]
      · rw [← hok, tally, hs, bind_of_ok rfl, outcome_map]
        cases (tally read (before ++ after)).outcome <;> simp
    · obtain ⟨cause, hcause⟩ := bad x hx
      refine ⟨[], x :: xs, rfl, by simp, by simpa using hx, ?_, ?_⟩
      · rw [tally, hcause, bind_of_error rfl]
        rfl
      · rw [tally, hcause, bind_of_error rfl]
        simp

theorem events_of_no_report {path text : String}
    (h : ∀ root, documentOf? text = some root → ∀ d : Dialect, root.tag ≠ d.rootTag) :
    (countText path text).events = [] := by
  cases hdocument : documentOf? text with
  | none =>
    rw [countText_of_no_document hdocument]
    rfl
  | some root =>
    rw [countText_of_document hdocument, countDocument_of_no_dialect (h root hdocument)]
    rfl

theorem count_stops (d : Dialect) (path : String) (root : Xml.Element) :
    ∃ before after, d.scanned root = before ++ after ∧ (∀ e ∈ before, d.Valid e) ∧
      (∀ e ∈ after.head?, ¬ d.Valid e) ∧
      (d.count path root).events = before.flatMap (d.eventsOf path) ∧
      ((∃ s, (d.count path root).outcome = .ok s) ↔ after = []) := by
  rw [Dialect.count_eq_tally]
  exact Logged.tally_stops (fun e he => ⟨_, Dialect.read_of_valid he path⟩)
    (fun e he => Dialect.read_of_not_valid he path) _

/-- Of a report that is counted, all elements that are looked at are valid. It comes to the
sum of their figures, and its events are those of all of them. -/
theorem countText_of_counted {path text : String} {root : Xml.Element} {d : Dialect} {s : Summary}
    (hdocument : documentOf? text = some root) (htag : root.tag = d.rootTag)
    (h : (countText path text).outcome = .ok s) :
    (∀ e ∈ d.scanned root, d.Valid e) ∧
      s = ((d.scanned root).map fun e => (d.figuresOf e).saturate).sum ∧
      (countText path text).events =
        .dispatching path d :: (d.scanned root).flatMap (d.eventsOf path) := by
  have hcount := (countText_report_eq_ok_iff hdocument htag).mp h
  obtain ⟨before, after, hscanned, -, -, hevents, hok⟩ := count_stops d path root
  have hall : before = d.scanned root := by
    rw [hscanned, hok.mp ⟨s, hcount⟩, List.append_nil]
  obtain ⟨hvalid, hsum⟩ := Dialect.outcome_count_eq_ok_iff.mp hcount
  refine ⟨hvalid, hsum, ?_⟩
  rw [events_countText hdocument htag, hevents, hall]

/-- A text that spells no report of a known dialect has no events. For any other, the first
event tells the dialect; then the elements before the first that is not valid have theirs,
in document order, one of each telling its figures; and there is no such element exactly
if the report is counted. The summary is then what an audit of the events comes to, cut
off at the ceiling. -/
theorem countText_events_audit (path text : String) :
    ((∀ root, documentOf? text = some root → ∀ d : Dialect, root.tag ≠ d.rootTag) →
      (countText path text).events = []) ∧
    (∀ root d, documentOf? text = some root → root.tag = Dialect.rootTag d →
      ∃ before after, d.scanned root = before ++ after ∧ (∀ e ∈ before, d.Valid e) ∧
        (∀ e ∈ after.head?, ¬ d.Valid e) ∧
        (countText path text).events = .dispatching path d :: before.flatMap (d.eventsOf path) ∧
        (countText path text).events.filter Event.isRead = before.map d.readEvent ∧
        ((∃ s, (countText path text).outcome = .ok s) ↔ after = [])) ∧
    (∀ s, (countText path text).outcome = .ok s →
      s.Caps (audited (countText path text).events)) := by
  refine ⟨events_of_no_report, ?_, ?_⟩
  · intro root d hdocument htag
    obtain ⟨before, after, hscanned, hbefore, hafter, hevents, hok⟩ := count_stops d path root
    refine ⟨before, after, hscanned, hbefore, hafter, ?_, ?_, ?_⟩
    · rw [events_countText hdocument htag, hevents]
    · rw [events_countText hdocument htag, hevents]
      exact filter_isRead_flatMap path d before
    · rw [← hok]
      exact exists_congr fun s => countText_report_eq_ok_iff hdocument htag
  · intro s hs
    obtain ⟨root, d, hdocument, htag, hcount⟩ := countText_eq_ok_iff.mp hs
    obtain ⟨before, after, hscanned, -, -, hevents, hok⟩ := count_stops d path root
    have hall : before = d.scanned root := by
      rw [hscanned, hok.mp ⟨s, hcount⟩, List.append_nil]
    have hread : (countText path text).events.filter Event.isRead =
        (d.scanned root).map d.readEvent := by
      rw [events_countText hdocument htag, hevents, hall]
      exact filter_isRead_flatMap path d _
    -- what an event shows is already cut off, and adding up under the ceiling cuts off again
    have haccount : ∀ e, (d.figuresOf e).saturate = (d.readEvent e).account.saturate := by
      intro e
      rw [account_readEvent, exact_saturate]
    rw [Summary.caps_iff]
    calc s
        = ((d.scanned root).map fun e => (d.figuresOf e).saturate).sum :=
          (Dialect.outcome_count_eq_ok_iff.mp hcount).2
      _ = ((((d.scanned root).map d.readEvent).map Event.account).map ExactSummary.saturate).sum := by
          simp only [haccount, List.map_map]
          rfl
      _ = ((((d.scanned root).map d.readEvent).map Event.account).sum).saturate :=
          (ExactSummary.saturate_sum _).symm
      _ = (audited (countText path text).events).saturate := by rw [audited_eq, hread]

end TestRollup.Report
