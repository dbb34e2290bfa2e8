/- Dialects. The two generations of NUnit write reports with different elements
   and attributes; the local name of the root element tells them apart. -/
namespace TestRollup.Report

/-- A generation of report formats. -/
inductive Dialect where
  /-- Reports of NUnit 2, in which every `test-results` element counts. -/
  | legacy
  /-- Reports of NUnit 3, one `test-run` element around suites. -/
  | modern
  deriving DecidableEq

namespace Dialect

/-- The local name of a report's root element. -/
def rootTag : Dialect → String
  | legacy => "test-results"
  | modern => "test-run"

/-- The name shown to users. -/
def label : Dialect → String
  | legacy => "NUnit 2.x"
  | modern => "NUnit 3.x"

/-- The dialect of a report whose root element has this local name. -/
def ofRootTag? (tag : String) : Option Dialect :=
  if tag = rootTag legacy then some legacy
  else if tag = rootTag modern then some modern
  else none

/-- A root tag has the dialect whose root tag it is, and no other. -/
theorem ofRootTag?_eq_some_iff {tag : String} {d : Dialect} :
    ofRootTag? tag = some d ↔ tag = d.rootTag := by
  unfold ofRootTag?
  constructor
  · intro h
    split at h
    · next e => simp only [Option.some.injEq] at h; rw [← h]; exact e
    · split at h
      · next e => simp only [Option.some.injEq] at h; rw [← h]; exact e
      · simp at h
  · rintro rfl
    cases d
    · simp
    · simp [rootTag]

/-- A tag that is no root tag has no dialect. -/
theorem ofRootTag?_eq_none_iff {tag : String} :
    ofRootTag? tag = none ↔ ∀ d : Dialect, tag ≠ d.rootTag := by
  rw [Option.eq_none_iff_forall_ne_some]
  exact forall_congr' fun d => not_congr ofRootTag?_eq_some_iff

end Dialect

end TestRollup.Report
