import TestRollup.Report.Event

/- Logged outcomes. Work on a report ends in a value or an error and leaves a list
   of events behind either way: what happened before an error is not lost. A
   sequence of such works stops at the first error (`bind_of_error`), and its events
   are those of its parts, one after the other (`bind_of_ok`).

   `tally` sums up what each member of a list contributes. It fails with the
   error of the first member that fails, and then its events are those of the
   members up to there. -/
namespace TestRollup.Report

/-- An outcome with the events on the way to it. -/
structure Logged (ε α : Type) where
  events : List Event
  outcome : Except ε α

namespace Logged

variable {ε δ α β : Type}

def fail (e : ε) : Logged ε α := ⟨[], .error e⟩

/-- Nothing but an event. -/
def emit (event : Event) : Logged ε Unit := ⟨[event], .ok ()⟩

/-- Goes on with a value, unless there is none. -/
def andThen (x : Logged ε α) (f : α → Logged ε β) : Logged ε β :=
  match x.outcome with
  | .error e => ⟨x.events, .error e⟩
  | .ok a =>
    let y := f a
    ⟨x.events ++ y.events, y.outcome⟩

/-- Makes something else of the value, if there is one. -/
def map (f : α → β) (x : Logged ε α) : Logged ε β where
  events := x.events
  outcome := match x.outcome with
    | .error e => .error e
    | .ok a => .ok (f a)

instance : Monad (Logged ε) where
  pure a := ⟨[], .ok a⟩
  bind := andThen
  map := map

/-- Says the same of an error in other terms. -/
def mapError (f : ε → δ) (x : Logged ε α) : Logged δ α where
  events := x.events
  outcome := match x.outcome with
    | .error e => .error (f e)
    | .ok a => .ok a

/-- The sum of what the members of a list contribute. -/
def tally (read : α → Logged ε Summary) : List α → Logged ε Summary
  | [] => pure Summary.empty
  | x :: xs => do
    let s ← read x
    (s + ·) <$> tally read xs

/-! ## Events and outcome of each operation -/

@[simp] theorem events_pure (a : α) : (pure a : Logged ε α).events = [] := rfl

@[simp] theorem outcome_pure (a : α) : (pure a : Logged ε α).outcome = .ok a := rfl

@[simp] theorem events_map (f : α → β) (x : Logged ε α) : (f <$> x).events = x.events := rfl

theorem outcome_map (f : α → β) (x : Logged ε α) : (f <$> x).outcome = f <$> x.outcome := by
  show (map f x).outcome = _
  unfold map
  cases x.outcome <;> rfl

theorem bind_of_error {x : Logged ε α} {e : ε} (h : x.outcome = .error e)
    (f : α → Logged ε β) : x >>= f = ⟨x.events, .error e⟩ := by
  show andThen x f = _
  rw [andThen, h]

theorem bind_of_ok {x : Logged ε α} {a : α} (h : x.outcome = .ok a) (f : α → Logged ε β) :
    x >>= f = ⟨x.events ++ (f a).events, (f a).outcome⟩ := by
  show andThen x f = _
  rw [andThen, h]

theorem outcome_bind (x : Logged ε α) (f : α → Logged ε β) :
    (x >>= f).outcome = x.outcome.bind fun a => (f a).outcome := by
  cases h : x.outcome with
  | error e => rw [bind_of_error h]; rfl
  | ok a => rw [bind_of_ok h]; rfl

/-- Going on with nothing but a value. -/
theorem bind_pure_eq_map (f : α → β) (x : Logged ε α) :
    (x >>= fun a => pure (f a)) = f <$> x := by
  show andThen x _ = map f x
  unfold andThen map
  cases x.outcome with
  | error e => rfl
  | ok a => simp

/-- What a list of images comes to is what the list comes to, each member read through
its image. -/
theorem tally_map (read : β → Logged ε Summary) (f : α → β) (xs : List α) :
    tally read (xs.map f) = tally (fun x => read (f x)) xs := by
  induction xs with
  | nil => rfl
  | cons x xs ih => rw [List.map_cons, tally, tally, ih]

theorem outcome_mapError_eq_ok_iff {f : ε → δ} {x : Logged ε α} {a : α} :
    (x.mapError f).outcome = .ok a ↔ x.outcome = .ok a := by
  unfold mapError
  cases x.outcome <;> simp

theorem outcome_mapError_eq_error_iff {f : ε → δ} {x : Logged ε α} {e : δ} :
    (x.mapError f).outcome = .error e ↔ ∃ c, x.outcome = .error c ∧ f c = e := by
  unfold mapError
  cases x.outcome <;> simp

end Logged

end TestRollup.Report
