import TestRollup.Proofs.Spreading
import Mathlib.Logic.Relation

/- What the result for a text depends on. Two trees of one dialect agree if they have the
   same footprint: the same values in the elements that count, in document order. Texts
   that spell trees which agree have the same summary or the same fault, after the same
   events, whatever else they hold.

   A change is unread if it touches nothing of a footprint: the time of a suite that no
   time of day stands over, what stands inside a suite of a run, and all that stands
   inside a run with a total. No number of such changes makes a difference.

   Values are found by local name. `agree_ne_unqualified` has two texts that agree
   in all values without a qualifier and yet come to different summaries. -/
namespace TestRollup.Report

open TestRollup.Xml

namespace Dialect

/-- The trees hold the same values wherever the dialect reads one. -/
def Agree (d : Dialect) (find : Finder) (root root' : Element) : Prop :=
  match d with
  | legacy => (Legacy.results root).map (Legacy.footprint find) =
      (Legacy.results root').map (Legacy.footprint find)
  | modern => Modern.footprint find root = Modern.footprint find root'

/-- One change to a tree in a place where the dialect reads nothing. -/
inductive Unread : Dialect → Element → Element → Prop where
  /-- Another time in a suite that does not stand next to a time of day. -/
  | suiteTime {root root' : Element} (change : Legacy.Retimed false root root') :
      Unread legacy root root'
  /-- Other elements inside the children of a run. -/
  | insideSuites (root : Element) (inner : Element → List Element) :
      Unread modern root (Modern.withInner inner root)
  /-- Other children of a run that gives its total. -/
  | belowRun {root : Element} (total : (root.attribute? "total").isSome = true)
      (children : List Element) : Unread modern root { root with children }

variable {d : Dialect} {root root' : Element}

/-- An unread change leaves the footprint as it is. -/
theorem Unread.agree (h : Unread d root root') : d.Agree Element.attribute? root root' := by
  cases h with
  | suiteTime change => exact Legacy.map_footprint_retimed change
  | insideSuites _ inner => exact (Modern.footprint_withInner inner root).symm
  | belowRun total children => exact (Modern.footprint_of_total total children).symm

/-- Any number of unread changes does, by induction on the number. -/
theorem agree_of_unread (h : Relation.ReflTransGen (Unread d) root root') :
    d.Agree Element.attribute? root root' := by
  induction h with
  | refl => cases d <;> exact rfl
  | tail _ change ih =>
    have hlast := change.agree
    cases d with
    | legacy => exact Eq.trans ih hlast
    | modern => exact Eq.trans ih hlast

theorem count_of_agree (htag : root.tag = root'.tag)
    (h : d.Agree Element.attribute? root root') (path : String) :
    d.count path root = d.count path root' := by
  cases d with
  | legacy => exact Legacy.count_of_footprints path h
  | modern =>
    show Modern.count root = Modern.count root'
    rw [Modern.count, Modern.count, Modern.entries_of_footprint htag h]

end Dialect

/-- Texts that spell trees which agree have the same result and the same events, and so
have texts whose trees differ by changes that nobody reads. -/
theorem countText_of_agree {d : Dialect} {text text' : String} {root root' : Element}
    (hdocument : documentOf? text = some root) (hdocument' : documentOf? text' = some root')
    (htag : root.tag = d.rootTag) (htag' : root'.tag = d.rootTag) (path : String) :
    (d.Agree Element.attribute? root root' → countText path text = countText path text') ∧
    (Relation.ReflTransGen d.Unread root root' → countText path text = countText path text') := by
  have hsame : d.Agree Element.attribute? root root' →
      countText path text = countText path text' := by
    intro h
    have hcount := Dialect.count_of_agree (htag.trans htag'.symm) h path
    calc countText path text
        = (countDocument path root).mapError (Fault.mk path) := countText_of_document hdocument path
      _ = (countDocument path root').mapError (Fault.mk path) := by
          rw [countDocument_of_dialect htag, countDocument_of_dialect htag', hcount]
      _ = countText path text' := (countText_of_document hdocument' path).symm
  exact ⟨hsame, fun h => hsame (Dialect.agree_of_unread h)⟩

/-! ## Two texts of one run -/

/-- A run with a suite inside it. -/
def plainRun : Element :=
  ⟨⟨"", "test-run"⟩, [⟨⟨"", "total"⟩, "3"⟩, ⟨⟨"", "failed"⟩, "1"⟩],
    [⟨⟨"", "test-suite"⟩, [⟨⟨"", "total"⟩, "3"⟩], []⟩]⟩

/-- The same run in a namespace, its values in another order and among others, with
something else inside it. -/
def dressedRun : Element :=
  ⟨⟨"n", "test-run"⟩,
    [⟨⟨"", "id"⟩, "7"⟩, ⟨⟨"", "failed"⟩, "1"⟩, ⟨⟨"n", "passed"⟩, "two"⟩, ⟨⟨"", "total"⟩, "3"⟩],
    [⟨⟨"", "test-suite"⟩, [⟨⟨"", "total"⟩, "many"⟩], []⟩, ⟨⟨"", "environment"⟩, [], []⟩]⟩

theorem plainRun_proper : plainRun.Proper := by
  refine .mk (by decide) ?_
  intro c hc
  obtain rfl := List.mem_singleton.mp hc
  exact .mk (by decide) (by simp)

theorem dressedRun_proper : dressedRun.Proper := by
  refine .mk (by decide) ?_
  simp only [List.forall_mem_cons]
  exact ⟨.mk (by decide) (by simp), .mk (by decide) (by simp), by simp⟩

/-- Both runs have a text, they agree, and the two texts have one result. -/
theorem countText_of_agree_runs :
    documentOf? (textOf plainRun) = some plainRun ∧
    documentOf? (textOf dressedRun) = some dressedRun ∧
    Dialect.modern.Agree Element.attribute? plainRun dressedRun ∧
    countText "/r.xml" (textOf plainRun) = countText "/r.xml" (textOf dressedRun) := by
  have hplain := documentOf?_written plainRun_proper
  have hdressed := documentOf?_written dressedRun_proper
  have hagree : Dialect.modern.Agree Element.attribute? plainRun dressedRun := by rfl
  exact ⟨hplain, hdressed, hagree,
    (countText_of_agree (d := .modern) hplain hdressed rfl rfl "/r.xml").1 hagree⟩

/-! ## A qualifier is not looked at -/

/-- A total behind another one that has a qualifier. -/
def twoTotals : Element :=
  ⟨⟨"", "test-results"⟩, [⟨⟨"x", "total"⟩, "5"⟩, ⟨⟨"", "total"⟩, "3"⟩, ⟨⟨"", "errors"⟩, "0"⟩,
    ⟨⟨"", "failures"⟩, "0"⟩], []⟩

/-- The same without the other one. -/
def oneTotal : Element :=
  ⟨⟨"", "test-results"⟩, [⟨⟨"", "total"⟩, "3"⟩, ⟨⟨"", "errors"⟩, "0"⟩,
    ⟨⟨"", "failures"⟩, "0"⟩], []⟩

example : textOf twoTotals =
    "<test-results xmlns:x=\"x\" x:total=\"5\" total=\"3\" errors=\"0\" failures=\"0\"/>" := by
  decide

/-- Texts whose trees hold the same values without a qualifier may differ in the result. -/
theorem agree_ne_unqualified :
    ¬ ∀ (d : Dialect) (text text' : String) (root root' : Element),
      documentOf? text = some root → documentOf? text' = some root' →
      root.tag = d.rootTag → root'.tag = d.rootTag → d.Agree Element.unqualified? root root' →
      ∀ path, countText path text = countText path text' := by
  intro h
  have htwo : documentOf? (textOf twoTotals) = some twoTotals :=
    documentOf?_written (.mk (by decide) (by simp))
  have hone : documentOf? (textOf oneTotal) = some oneTotal :=
    documentOf?_written (.mk (by decide) (by simp))
  have hfive : (countText "/r.xml" (textOf twoTotals)).outcome =
      .ok ⟨.saturate 5, 0, 0, 0, none⟩ := by
    rw [countText_report_eq_ok_iff (d := .legacy) htwo rfl, Dialect.count_eq_tally]
    rfl
  have hthree : (countText "/r.xml" (textOf oneTotal)).outcome =
      .ok ⟨.saturate 3, 0, 0, 0, none⟩ := by
    rw [countText_report_eq_ok_iff (d := .legacy) hone rfl, Dialect.count_eq_tally]
    rfl
  have hagree : Dialect.legacy.Agree Element.unqualified? twoTotals oneTotal := by rfl
  have hsame := h .legacy _ _ _ _ htwo hone rfl rfl hagree "/r.xml"
  rw [hsame, hthree] at hfive
  revert hfive
  decide

end TestRollup.Report
