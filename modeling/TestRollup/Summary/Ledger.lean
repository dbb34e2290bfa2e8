import TestRollup.Summary

/- Ledgers. A ledger keeps summaries under names, so that several of them can be
   made side by side and put together. A posting puts a new summary under one
   name, in front of the one that was there; it may draw on others, and on the
   same one. -/
namespace TestRollup

/-- Summaries under names, the latest under each name first. -/
structure Ledger where
  accounts : List (String × Summary) := []

/-- A change to a ledger. -/
inductive Posting where
  /-- Begins an empty summary. -/
  | start (account : String)
  /-- Counts the figures of one more element. -/
  | addCounts (account : String) (tests skipped failures errors : Counter) (time : Option Counter)
  /-- Counts what another summary holds. -/
  | merge (account other : String)
  /-- Puts the sum of two summaries. -/
  | add (account a b : String)
  /-- Puts the sum of any number of summaries. -/
  | sum (account : String) (parts : List String)

namespace Ledger

def get? (l : Ledger) (account : String) : Option Summary := l.accounts.lookup account

def put (l : Ledger) (account : String) (s : Summary) : Ledger :=
  ⟨(account, s) :: l.accounts⟩

/-- Carries a posting out, if the summaries it names are there. -/
def post? (l : Ledger) : Posting → Option Ledger
  | .start account => some (l.put account Summary.empty)
  | .addCounts account tests skipped failures errors time =>
    (l.get? account).map fun s => l.put account (s.addCounts tests skipped failures errors time)
  | .merge account other =>
    match l.get? account, l.get? other with
    | some s, some t => some (l.put account (s.merge t))
    | _, _ => none
  | .add account a b =>
    match l.get? a, l.get? b with
    | some s, some t => some (l.put account (s + t))
    | _, _ => none
  | .sum account parts =>
    (parts.mapM l.get?).map fun ss => l.put account (Summary.sum ss)

/-- A summary that is put is the one under its name, and all others stay. -/
theorem get?_put (l : Ledger) (account name : String) (s : Summary) :
    (l.put account s).get? name = if name = account then some s else l.get? name := by
  by_cases h : name = account
  · simp [put, get?, h]
  · have hb : (name == account) = false := by simp [h]
    simp [put, get?, List.lookup_cons, hb, h]

end Ledger

end TestRollup
