import TestRollup.Proofs.ElementReading
import TestRollup.Proofs.ProperDocument

/- Spreading the results of one report over several. A report of NUnit 2 falls into one
   report for each of its results, at whatever depth it stands; a report of NUnit 3 whose
   run gives no figures falls into one run for each suite directly inside it
   (`FallsInto`). Each part stands for one element of the whole: it is looked at alone,
   and it is valid and gives the figures exactly as that element does. So the whole is
   counted exactly if all its parts are, and then it comes to what they come to, merged
   in any order (`countText_spread`).

   Attributes are found by local name here, as everywhere in counting. -/
namespace TestRollup.Report

open Xml

/-- The tag of an element with nothing inside. -/
def bare (e : Element) : Element := { e with children := [] }

/-- Results as a report of their own, with the suites directly inside but nothing else. -/
def Legacy.standalone (e : Element) : Element :=
  { e with children := (e.childrenTagged "test-suite").map bare }

/-- A run with nothing inside that gives the figures of a suite as its own. -/
def Modern.runOf (suite : Element) : Element := ⟨⟨"", "test-run"⟩, suite.attributes, []⟩

/-- A report with the reports that its results spread over, in document order. -/
inductive FallsInto : Element → List Element → Prop where
  | legacy {root : Element} (tag : root.tag = "test-results") :
      FallsInto root ((Legacy.results root).map Legacy.standalone)
  /-- A run that gives no figure of its own and has a suite directly inside. -/
  | modern {root : Element} (tag : root.tag = "test-run")
      (figures : ∀ key ∈ ["total", "testcasecount", "passed", "failed", "errors", "inconclusive",
        "skipped", "duration"], root.attribute? key = none)
      (suite : ∃ suite ∈ root.children, suite.tag = "test-suite") :
      FallsInto root ((root.childrenTagged "test-suite").map Modern.runOf)

/-- A text that spells the document. -/
def textOf (root : Element) : String := String.ofList root.written

/-- The files, paths with their texts, hold these documents, each of them once, in any
order. -/
def Hold (files : List (String × String)) (documents : List Element) : Prop :=
  (files.map fun f => documentOf? f.2).Perm (documents.map some)

/-! ## A part and its element -/

/-- The report is counted as the element is: it is looked at alone, and it is read to the
same figures. -/
structure Dialect.StandsFor (d : Dialect) (part e : Element) : Prop where
  tag : part.tag = d.rootTag
  scanned : d.scanned part = [part]
  read : ∀ path s, (d.read path part).outcome = .ok s ↔ (d.read path e).outcome = .ok s

theorem Dialect.StandsFor.countText_eq_ok_iff {d : Dialect} {part e : Element}
    (h : d.StandsFor part e) {path text : String} (hdocument : documentOf? text = some part)
    {s : Summary} :
    (countText path text).outcome = .ok s ↔ d.Valid e ∧ s = (d.figuresOf e).saturate := by
  calc (countText path text).outcome = .ok s
      ↔ (d.count path part).outcome = .ok s := countText_report_eq_ok_iff hdocument h.tag
    _ ↔ (d.read path part).outcome = .ok s := by
      rw [Dialect.outcome_count_eq_ok_iff, Dialect.outcome_read_eq_ok_iff, h.scanned,
        List.forall_mem_singleton, List.map_singleton, List.sum_singleton]
    _ ↔ (d.read path e).outcome = .ok s := h.read path s
    _ ↔ d.Valid e ∧ s = (d.figuresOf e).saturate := Dialect.outcome_read_eq_ok_iff

namespace Legacy

theorem preorderAll_map_bare (es : List Element) :
    Element.preorderAll (es.map bare) = es.map bare := by
  induction es with
  | nil => rfl
  | cons e es ih =>
    rw [List.map_cons, Element.preorderAll, ih, Element.preorder_eq]
    rfl

theorem tag_of_mem_suites {e c : Element} (h : c ∈ (e.childrenTagged "test-suite").map bare) :
    c.tag = "test-suite" := by
  obtain ⟨suite, hsuite, rfl⟩ := List.mem_map.mp h
  exact beq_iff_eq.mp (List.mem_filter.mp hsuite).2

theorem results_standalone {e : Element} (htag : e.tag = "test-results") :
    results (standalone e) = [standalone e] := by
  have hinside : ((e.childrenTagged "test-suite").map bare).filter (·.tag == "test-results") =
      [] := by
    rw [List.filter_eq_nil_iff]
    intro c hc
    simp [tag_of_mem_suites hc]
  have hlocal : e.name.localName = "test-results" := htag
  rw [standalone, results_mk, if_pos hlocal, preorderAll_map_bare, hinside]

theorem ofElement_standalone (e : Element) :
    Entry.ofElement (standalone e) = Entry.ofElement e := by
  have hsuites : (standalone e).childrenTagged suiteTag = (e.childrenTagged suiteTag).map bare :=
    List.filter_eq_self.mpr fun c hc => beq_iff_eq.mpr (tag_of_mem_suites hc)
  unfold Entry.ofElement
  rw [hsuites, List.map_map]
  rfl

theorem standsFor_standalone {e : Element} (htag : e.tag = "test-results") :
    Dialect.legacy.StandsFor (standalone e) e where
  tag := htag
  scanned := results_standalone htag
  read path s := by simp only [Dialect.read, ofElement_standalone]

end Legacy

theorem Modern.valid_runOf {suite : Element} :
    Dialect.modern.Valid (runOf suite) ↔ Dialect.modern.Valid suite :=
  ⟨fun h => ⟨h.total, h.failed, h.inconclusive, h.skipped, h.errors, h.duration⟩,
    fun h => ⟨h.total, h.failed, h.inconclusive, h.skipped, h.errors, h.duration⟩⟩

/-- A run is read as the suite is whose figures it gives. -/
theorem Modern.standsFor_runOf (suite : Element) :
    Dialect.modern.StandsFor (runOf suite) suite where
  tag := rfl
  scanned := by simp [Dialect.scanned, scanned, lacksTotal, runOf, Element.childrenTagged]
  read path s := by
    have hfigures : Dialect.modern.figuresOf (runOf suite) = Dialect.modern.figuresOf suite := rfl
    rw [Dialect.outcome_read_eq_ok_iff, Dialect.outcome_read_eq_ok_iff, valid_runOf, hfigures]

/-- Each part of a report stands for one of the elements that are looked at. -/
theorem FallsInto.standsFor {root : Element} {parts : List Element} (h : FallsInto root parts) :
    ∃ (d : Dialect) (part : Element → Element), root.tag = d.rootTag ∧
      parts = (d.scanned root).map part ∧ ∀ e ∈ d.scanned root, d.StandsFor (part e) e := by
  cases h with
  | legacy tag =>
    refine ⟨.legacy, Legacy.standalone, tag, rfl, fun e he => ?_⟩
    exact Legacy.standsFor_standalone (Legacy.mem_results.mp he).2
  | modern tag figures suite =>
    obtain ⟨htotal, hfigures⟩ := List.forall_mem_cons.mp figures
    -- a run without any figure of its own, but with a suite, leaves counting to the suites
    have hlacks : Modern.lacksTotal root = false :=
      Modern.lacksTotal_eq_false_iff.mpr ⟨hfigures, suite⟩
    have hscanned : Dialect.modern.scanned root = root.childrenTagged "test-suite" := by
      simp [Dialect.scanned, Modern.scanned, htotal, hlacks]
    refine ⟨.modern, Modern.runOf, tag, by rw [hscanned], fun e _ => Modern.standsFor_runOf e⟩

/-! ## The texts of the parts -/

theorem mem_preorderAll_iff {es : List Element} {e : Element} :
    e ∈ Element.preorderAll es ↔ ∃ c ∈ es, e ∈ c.preorder := by
  induction es with
  | nil => simp [Element.preorderAll]
  | cons c es ih => simp [Element.preorderAll, ih]

theorem proper_of_mem_preorder {root e : Element} (h : root.Proper) (he : e ∈ root.preorder) :
    e.Proper := by
  induction h with
  | mk tag inside ih =>
    rw [Element.preorder_eq, List.mem_cons] at he
    rcases he with rfl | he
    · exact .mk tag inside
    · obtain ⟨c, hc, he⟩ := mem_preorderAll_iff.mp he
      exact ih c hc he

theorem proper_children {e : Element} (h : e.Proper) : ∀ c ∈ e.children, c.Proper := by
  obtain ⟨-, inside⟩ := h
  exact inside

theorem proper_bare {e : Element} (h : e.Proper) : (bare e).Proper := by
  obtain ⟨tag, -⟩ := h
  exact .mk tag (by simp)

theorem proper_standalone {e : Element} (h : e.Proper) : (Legacy.standalone e).Proper := by
  have hinside : ∀ c ∈ (e.childrenTagged "test-suite").map bare, c.Proper := by
    intro c hc
    obtain ⟨suite, hsuite, rfl⟩ := List.mem_map.mp hc
    exact proper_bare (proper_children h suite (List.mem_filter.mp hsuite).1)
  obtain ⟨tag, -⟩ := h
  exact .mk tag hinside

theorem proper_runOf {suite : Element} (h : suite.Proper) : (Modern.runOf suite).Proper := by
  have hrun : IsNamePart "test-run".toList := by decide
  obtain ⟨tag, -⟩ := h
  exact .mk ⟨⟨.inl rfl, hrun⟩, by decide, tag.given, tag.distinct⟩ (by simp)

/-- The parts of a document can be written. -/
theorem FallsInto.proper {root : Element} {parts : List Element} (h : FallsInto root parts)
    (hroot : root.Proper) : ∀ part ∈ parts, part.Proper := by
  intro part hpart
  cases h with
  | legacy =>
    obtain ⟨e, he, rfl⟩ := List.mem_map.mp hpart
    exact proper_standalone (proper_of_mem_preorder hroot (List.mem_filter.mp he).1)
  | modern =>
    obtain ⟨suite, hsuite, rfl⟩ := List.mem_map.mp hpart
    exact proper_runOf (proper_children hroot suite (List.mem_filter.mp hsuite).1)

/-! ## The whole and its parts -/

section Parts

variable {d : Dialect} {part : Element → Element} {es : List Element}
  {files : List (String × String)}

/-- Files that hold the parts hold, one by one, the parts of a permutation of the elements. -/
theorem Hold.exists_order (h : Hold files (es.map part)) :
    ∃ order, order.Perm es ∧
      List.Forall₂ (fun f e => documentOf? f.2 = some (part e)) files order := by
  have hparts : List.Forall₂ (fun document e => document = some (part e))
      ((es.map part).map some) es := by
    simp [List.forall₂_map_left_iff, List.forall₂_same]
  obtain ⟨order, hfiles, hperm⟩ := List.perm_comp_forall₂ h hparts
  exact ⟨order, hperm, List.forall₂_map_left_iff.mp hfiles⟩

/-- Parts can be counted exactly if the elements are valid for which they stand. -/
theorem counts_iff_valid (hstands : ∀ e ∈ es, d.StandsFor (part e) e)
    (h : List.Forall₂ (fun f e => documentOf? f.2 = some (part e)) files es) :
    (∀ f ∈ files, ∃ s, (countText f.1 f.2).outcome = .ok s) ↔ ∀ e ∈ es, d.Valid e := by
  induction h with
  | nil => simp
  | cons hdocument _ ih =>
    obtain ⟨he, hes⟩ := List.forall_mem_cons.mp hstands
    rw [List.forall_mem_cons, List.forall_mem_cons, ih hes]
    simp only [he.countText_eq_ok_iff hdocument, exists_and_left, exists_eq, and_true]

/-- And then they come to the figures of these elements. -/
theorem outcomes_of_valid (hstands : ∀ e ∈ es, d.StandsFor (part e) e)
    (h : List.Forall₂ (fun f e => documentOf? f.2 = some (part e)) files es)
    (hvalid : ∀ e ∈ es, d.Valid e) :
    files.map (fun f => (countText f.1 f.2).outcome) =
      (es.map fun e => (d.figuresOf e).saturate).map .ok := by
  induction h with
  | nil => rfl
  | cons hdocument _ ih =>
    obtain ⟨he, hes⟩ := List.forall_mem_cons.mp hstands
    obtain ⟨hv, hvs⟩ := List.forall_mem_cons.mp hvalid
    rw [List.map_cons, (he.countText_eq_ok_iff hdocument).mpr ⟨hv, rfl⟩, ih hes hvs]
    rfl

end Parts

/-- Spreading the results of a report over several makes no difference. Each part has a
text. Whatever files hold the parts, in any order, the whole can be counted exactly if
each of the files can, and then it comes to what they come to, merged. -/
theorem countText_spread {text : String} {root : Element} {parts : List Element}
    (hdocument : documentOf? text = some root) (hparts : FallsInto root parts) (path : String) :
    (∀ part ∈ parts, documentOf? (textOf part) = some part) ∧
    ∀ files, Hold files parts →
      ((∃ s, (countText path text).outcome = .ok s) ↔
        ∀ f ∈ files, ∃ s, (countText f.1 f.2).outcome = .ok s) ∧
      ∀ s, (countText path text).outcome = .ok s →
        ∃ ss : List Summary, files.map (fun f => (countText f.1 f.2).outcome) = ss.map .ok ∧
          s = ss.foldl Summary.merge Summary.empty := by
  constructor
  · intro part hpart
    exact documentOf?_written (hparts.proper (.of_readDocument? hdocument) part hpart)
  · intro files hfiles
    obtain ⟨d, part, htag, rfl, hstands⟩ := hparts.standsFor
    -- the files need not come in document order; `order` is theirs
    obtain ⟨order, hperm, hforall⟩ := hfiles.exists_order
    have hwhole : ∀ s, (countText path text).outcome = .ok s ↔
        (∀ e ∈ d.scanned root, d.Valid e) ∧
          s = ((d.scanned root).map fun e => (d.figuresOf e).saturate).sum :=
      fun s => (countText_report_eq_ok_iff hdocument htag).trans Dialect.outcome_count_eq_ok_iff
    have horder : (∀ e ∈ order, d.Valid e) ↔ ∀ e ∈ d.scanned root, d.Valid e :=
      forall_congr' fun e => by rw [hperm.mem_iff]
    have hstands' : ∀ e ∈ order, d.StandsFor (part e) e :=
      fun e he => hstands e (hperm.mem_iff.mp he)
    constructor
    · rw [counts_iff_valid hstands' hforall, horder]
      simp only [hwhole, exists_and_left, exists_eq, and_true]
    · intro s hs
      obtain ⟨hvalid, rfl⟩ := (hwhole s).mp hs
      refine ⟨_, outcomes_of_valid hstands' hforall (horder.mpr hvalid), ?_⟩
      calc ((d.scanned root).map fun e => (d.figuresOf e).saturate).sum
          = (order.map fun e => (d.figuresOf e).saturate).sum := (hperm.map _).sum_eq.symm
        _ = Summary.empty + (order.map fun e => (d.figuresOf e).saturate).sum :=
            (zero_add _).symm
        _ = _ := (Summary.foldl_merge_eq_add_sum Summary.empty _).symm

/-! ## A report of each kind -/

/-- Files with the texts of these documents, the last one first. -/
def reversedFiles (documents : List Element) : List (String × String) :=
  documents.reverse.map fun document => ("part.xml", textOf document)

theorem hold_reversedFiles {documents : List Element}
    (htexts : ∀ document ∈ documents, documentOf? (textOf document) = some document) :
    Hold (reversedFiles documents) documents := by
  have hmap : (reversedFiles documents).map (fun f => documentOf? f.2) =
      documents.reverse.map some := by
    rw [reversedFiles, List.map_map]
    exact List.map_congr_left fun document h => htexts document (List.mem_reverse.mp h)
  rw [Hold, hmap]
  exact (List.reverse_perm documents).map some

/-- Results inside the suite of other results. -/
def nestedResults : Element :=
  ⟨⟨"", "test-results"⟩, [⟨⟨"", "total"⟩, "2"⟩, ⟨⟨"", "errors"⟩, "0"⟩, ⟨⟨"", "failures"⟩, "1"⟩,
      ⟨⟨"", "time"⟩, "10:11:12"⟩],
    [⟨⟨"", "test-suite"⟩, [⟨⟨"", "time"⟩, "0.5"⟩],
      [⟨⟨"", "test-results"⟩, [⟨⟨"", "total"⟩, "3"⟩, ⟨⟨"", "errors"⟩, "1"⟩,
        ⟨⟨"", "failures"⟩, "0"⟩], []⟩]⟩]⟩

theorem nestedResults_proper : nestedResults.Proper := by
  refine .mk (by decide) fun suite hsuite => ?_
  rw [List.mem_singleton.mp hsuite]
  refine .mk (by decide) fun results hresults => ?_
  rw [List.mem_singleton.mp hresults]
  exact .mk (by decide) (by simp)

/-- The parts of the nested results, the outer one first. -/
def resultParts : List Element := (Legacy.results nestedResults).map Legacy.standalone

/-- A run without figures of its own. Its first suite covers the suite inside it. -/
def nestedRun : Element :=
  ⟨⟨"", "test-run"⟩, [],
    [⟨⟨"", "test-suite"⟩, [⟨⟨"", "total"⟩, "4"⟩, ⟨⟨"", "failed"⟩, "1"⟩,
        ⟨⟨"", "inconclusive"⟩, "1"⟩, ⟨⟨"", "duration"⟩, "0.25"⟩],
      [⟨⟨"", "test-suite"⟩, [⟨⟨"", "total"⟩, "3"⟩, ⟨⟨"", "failed"⟩, "1"⟩], []⟩]⟩,
    ⟨⟨"", "test-suite"⟩, [⟨⟨"", "total"⟩, "2"⟩, ⟨⟨"", "failed"⟩, "0"⟩,
      ⟨⟨"", "skipped"⟩, "2"⟩], []⟩]⟩

theorem nestedRun_proper : nestedRun.Proper := by
  refine .mk (by decide) fun suite hsuite => ?_
  rcases List.mem_pair.mp hsuite with rfl | rfl
  · refine .mk (by decide) fun inner hinner => ?_
    rw [List.mem_singleton.mp hinner]
    exact .mk (by decide) (by simp)
  · exact .mk (by decide) (by simp)

/-- The parts of the nested run, one for each suite directly inside. -/
def runParts : List Element := (nestedRun.childrenTagged "test-suite").map Modern.runOf

/-- Both reports fall into two parts, which come to what the whole comes to. -/
theorem countText_spread_nested :
    (documentOf? (textOf nestedResults) = some nestedResults ∧
      FallsInto nestedResults resultParts ∧
      ∃ ss : List Summary,
        (reversedFiles resultParts).map (fun f => (countText f.1 f.2).outcome) = ss.map .ok ∧
        ⟨.saturate 5, .saturate 1, .saturate 1, .saturate 0, some (.saturate 500)⟩ =
          ss.foldl Summary.merge Summary.empty) ∧
    documentOf? (textOf nestedRun) = some nestedRun ∧
      FallsInto nestedRun runParts ∧
      ∃ ss : List Summary,
        (reversedFiles runParts).map (fun f => (countText f.1 f.2).outcome) = ss.map .ok ∧
        ⟨.saturate 6, .saturate 0, .saturate 1, .saturate 3, some (.saturate 250)⟩ =
          ss.foldl Summary.merge Summary.empty := by
  have hresults : documentOf? (textOf nestedResults) = some nestedResults :=
    documentOf?_written nestedResults_proper
  have hrun : documentOf? (textOf nestedRun) = some nestedRun :=
    documentOf?_written nestedRun_proper
  refine ⟨?_, ?_⟩
  · have hparts : FallsInto nestedResults resultParts := .legacy rfl
    obtain ⟨htexts, hspread⟩ := countText_spread hresults hparts "whole.xml"
    refine ⟨hresults, hparts, (hspread _ (hold_reversedFiles htexts)).2 _ ?_⟩
    rw [countText_report_eq_ok_iff (d := .legacy) hresults rfl, Dialect.count_eq_tally]
    rfl
  · have hparts : FallsInto nestedRun runParts := .modern rfl (by decide) ⟨_, .head _, rfl⟩
    obtain ⟨htexts, hspread⟩ := countText_spread hrun hparts "whole.xml"
    refine ⟨hrun, hparts, (hspread _ (hold_reversedFiles htexts)).2 _ ?_⟩
    rw [countText_report_eq_ok_iff (d := .modern) hrun rfl]
    rfl

end TestRollup.Report
