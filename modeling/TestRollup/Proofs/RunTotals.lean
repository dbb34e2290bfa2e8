import TestRollup.Proofs.Spelling

/- Runs with totals of their own. A run of NUnit 3 that gives no figure is counted by its
   suites; one that gives its totals is counted by them alone, and nobody looks at the suites
   inside. The two ways agree wherever the totals are right: a run comes to the same summary
   with and without them (`countText_of_run_totals`).

   The totals are attributes besides those that the run has, in any places among them. The
   run had none of these names, so each of the totals is found (`attribute?_of_added`), and
   the run is then read for the same values as an empty tag that spells the summary
   (`footprint_of_totalled`). That tag is read back to the summary, and the suites add up to
   it, since what fits in the end has not reached the ceiling on the way. -/
namespace TestRollup.Report

open Xml

namespace Modern

/-- The totals of a run that comes to the summary: the skipped tests all in one field, and the
time in seconds with three places, if there is one. -/
def totals (mark : Char) (s : Summary) : List (String × Option String) :=
  spelled mark s none (some s.skipped.value)

/-- The run with the totals besides. -/
structure Totalled (mark : Char) (s : Summary) (root root' : Element) : Prop where
  name : root'.name = root.name
  attributes : root'.attributes.Perm (root.attributes ++ attributesOf (totals mark s))
  children : root'.children = root.children

/-- The run gives no figure of its own. -/
def WithoutFigures (root : Element) : Prop :=
  ∀ key ∈ ["total", "testcasecount", "passed", "failed", "errors", "inconclusive", "skipped",
    "duration"], root.attribute? key = none

instance (root : Element) : Decidable (WithoutFigures root) :=
  inferInstanceAs (Decidable (∀ key ∈ ["total", "testcasecount", "passed", "failed", "errors",
    "inconclusive", "skipped", "duration"], root.attribute? key = none))

end Modern

/-! ## Attributes that are added -/

section Added

variable {e e' : Element} {tag : String} {fields : List (String × Option String)}

theorem attribute?_eq_head? (e : Element) (key : String) :
    e.attribute? key =
      ((e.attributes.filter fun a => a.name.localName == key).head?).map (·.value) := by
  rw [List.head?_filter]
  rfl

theorem attribute?_eq_none_iff {key : String} :
    e.attribute? key = none ↔ ∀ a ∈ e.attributes, a.name.localName ≠ key := by
  simp [Element.attribute?]

/-- Fields with names of their own are no more than one attribute of each name. -/
theorem length_filter_attributesOf_le (h : (fields.map (·.1)).Nodup) (key : String) :
    ((attributesOf fields).filter fun a => a.name.localName == key).length ≤ 1 := by
  have hnames : ((attributesOf fields).map (·.name.localName)).Sublist (fields.map (·.1)) := by
    have hmap := (@names_attributesOf fields).map Name.localName
    rwa [List.map_map, List.map_map] at hmap
  have hcount := List.nodup_iff_count_le_one.mp (h.sublist hnames) key
  rwa [List.count_eq_countP, List.countP_map, List.countP_eq_length_filter] at hcount

/-- What is added under a name that was not there is found under it, whatever its place. -/
theorem attribute?_of_added (hadded : e'.attributes.Perm (e.attributes ++ attributesOf fields))
    (hdistinct : (fields.map (·.1)).Nodup) {key : String} (hnone : e.attribute? key = none) :
    e'.attribute? key = (elementOf tag fields).attribute? key := by
  have hold : (e.attributes.filter fun a => a.name.localName == key) = [] := by
    rw [List.filter_eq_nil_iff]
    simpa using attribute?_eq_none_iff.mp hnone
  have hperm : (e'.attributes.filter fun a => a.name.localName == key).Perm
      ((attributesOf fields).filter fun a => a.name.localName == key) := by
    have hfilter := hadded.filter fun a => a.name.localName == key
    rwa [List.filter_append, hold, List.nil_append] at hfilter
  have hone := length_filter_attributesOf_le hdistinct key
  have hfields : (elementOf tag fields).attribute? key =
      (((attributesOf fields).filter fun a => a.name.localName == key).head?).map (·.value) :=
    attribute?_eq_head? _ key
  rw [attribute?_eq_head?, hfields]
  -- no more than one of them has the name, so that their order says nothing
  rcases hnew : (attributesOf fields).filter fun a => a.name.localName == key with _ | ⟨a, rest⟩
  · rw [hnew] at hperm
    rw [hperm.eq_nil, hnew]
  · rw [hnew] at hperm hone
    obtain rfl : rest = [] := by simpa using hone
    rw [List.perm_singleton.mp hperm, hnew]

theorem properTag_of_added {name : Name} {attributes attributes' : List Attribute}
    (h : ProperTag name attributes) (hfields : Spellable tag fields)
    (hadded : attributes'.Perm (attributes ++ attributesOf fields))
    (hnone : ∀ key ∈ fields.map (·.1), ∀ a ∈ attributes, a.name.localName ≠ key) :
    ProperTag name attributes' := by
  obtain ⟨hfieldsTag, -⟩ := proper_elementOf hfields
  refine ⟨h.named, h.unreserved, ?_, ?_⟩
  · intro a ha
    rcases List.mem_append.mp (hadded.mem_iff.mp ha) with ha | ha
    · exact h.given a ha
    · exact hfieldsTag.given a ha
  · have hnames := hadded.map Attribute.name
    rw [hnames.nodup_iff, List.map_append, List.nodup_append]
    refine ⟨h.distinct, hfieldsTag.distinct, ?_⟩
    intro n hn m hm hnm
    obtain ⟨a, ha, rfl⟩ := List.mem_map.mp hn
    obtain ⟨b, hb, rfl⟩ := List.mem_map.mp hm
    obtain ⟨key, value, hmem, rfl⟩ := mem_attributesOf.mp hb
    exact hnone key (List.mem_map.mpr ⟨_, hmem, rfl⟩) a ha (congrArg Name.localName hnm)

end Added

/-! ## The run with its totals -/

namespace Modern

variable {mark : Char} {s : Summary} {root root' : Element}

theorem Totalled.tag_eq (h : Totalled mark s root root') : root'.tag = root.tag :=
  congrArg Name.localName h.name

theorem spellable_totals (h : mark = '.' ∨ mark = ',') (s : Summary) :
    Spellable "test-run" (totals mark s) :=
  spellable h s none (some s.skipped.value)

/-- A run that gives no figure gives none of its totals. -/
theorem WithoutFigures.none_of_totals (h : WithoutFigures root) :
    ∀ key ∈ (totals mark s).map (·.1), root.attribute? key = none := by
  intro key hkey
  apply h
  simp only [totals, spelled, List.map_cons, List.map_nil, List.mem_cons, List.not_mem_nil,
    or_false] at hkey ⊢
  tauto

/-- The run with its totals can be written. -/
theorem Totalled.proper (h : Totalled mark s root root') (hmark : mark = '.' ∨ mark = ',')
    (hno : WithoutFigures root) (hroot : root.Proper) : root'.Proper := by
  obtain ⟨name, attributes, children⟩ := root
  obtain ⟨name', attributes', children'⟩ := root'
  obtain ⟨rfl, hadded, rfl⟩ := h
  obtain ⟨htag, hinside⟩ := hroot
  refine .mk (properTag_of_added htag (spellable_totals hmark s) hadded ?_) hinside
  intro key hkey
  exact attribute?_eq_none_iff.mp (hno.none_of_totals key hkey)

/-- The run is read for its totals, as an empty tag is that gives them. -/
theorem footprint_of_totalled (h : Totalled mark s root root') (hmark : mark = '.' ∨ mark = ',')
    (hno : WithoutFigures root) :
    footprint Element.attribute? root' =
      footprint Element.attribute? (elementOf "test-run" (totals mark s)) := by
  have hdistinct := (spellable_totals hmark s).distinct
  have hfound : ∀ key ∈ (totals mark s).map (·.1),
      root'.attribute? key = (elementOf "test-run" (totals mark s)).attribute? key :=
    fun key hkey => attribute?_of_added h.attributes hdistinct (hno.none_of_totals key hkey)
  have hkey : "total" ∈ (totals mark s).map (·.1) := by simp [totals, spelled]
  have htotal := attribute?_elementOf "test-run" hdistinct ("total", some s.tests.digits)
    (by simp [totals, spelled])
  have hgiven : (root'.attribute? "total").isSome = true := by
    rw [hfound "total" hkey, htotal]
    rfl
  have hvalues : valuesOf Element.attribute? root' =
      valuesOf Element.attribute? (elementOf "test-run" (totals mark s)) := by
    apply List.map_congr_left
    intro key hkey
    apply hfound
    simpa [totals, spelled, or_comm, or_left_comm] using hkey
  rw [footprint, footprint, ← hfound "total" hkey, if_pos hgiven, if_pos hgiven, hvalues]

/-- The totals are counted as they are written. -/
theorem count_of_totalled (h : Totalled mark s root root') (hmark : mark = '.' ∨ mark = ',')
    (hno : WithoutFigures root) (htag : root.tag = "test-run") : (count root').outcome = .ok s := by
  have htag' : root'.tag = "test-run" := h.tag_eq.trans htag
  have hcount : count root' = count (elementOf "test-run" (totals mark s)) := by
    rw [count, count, entries_of_footprint htag' (footprint_of_totalled h hmark hno)]
  rw [hcount]
  exact count_spelled hmark (Nat.zero_add _)

/-- Without totals the run comes to what its suites add up to. -/
theorem count_of_suites (hno : WithoutFigures root)
    (hsuite : ∃ suite ∈ root.children, suite.tag = "test-suite")
    (hvalid : ∀ suite ∈ root.childrenTagged "test-suite", Valid Element.attribute? suite)
    (hsum : s.exact = ((root.childrenTagged "test-suite").map figuresOf).sum) :
    (count root).outcome = .ok s := by
  have htotal : root.attribute? "total" = none := hno "total" (by simp)
  have hcounted : counted root = root.childrenTagged "test-suite" := by
    rw [counted, htotal]
    rfl
  rw [count_eq_ok_iff, hcounted, ← hsum, exact_saturate]
  exact ⟨.inr ⟨hno, hsuite, Xml.Element.forall_mem_childrenTagged.mp hvalid⟩, rfl⟩

/-- A sum of durations is absent exactly if all of them are. -/
theorem time_of_suites {suites : List Element}
    (hvalid : ∀ suite ∈ suites, Valid Element.attribute? suite)
    (hsum : s.exact = (suites.map figuresOf).sum) :
    s.time = none ↔ ∀ suite ∈ suites, suite.attribute? "duration" = none := by
  rw [← exact_saturate s, hsum, ExactSummary.saturate_sum_time_eq_none_iff, List.forall_mem_map]
  exact forall₂_congr fun suite hsuite =>
    Field.duration_eq_none_iff (hvalid suite hsuite).duration

end Modern

/-- A run that gives no figure comes to the same with totals besides and without them, provided
that these are the sums over its suites and fit in counters, whatever else stands in the run
and in its suites. The totals name a duration exactly if some suite does. The run with the
totals has a text. -/
theorem countText_of_run_totals {mark : Char} (hmark : mark = '.' ∨ mark = ',') {text : String}
    {root : Element} {s : Summary} (hdocument : documentOf? text = some root)
    (htag : root.tag = "test-run") (hno : Modern.WithoutFigures root)
    (hsuite : ∃ suite ∈ root.children, suite.tag = "test-suite")
    (hvalid : ∀ suite ∈ root.childrenTagged "test-suite",
      Modern.Valid Element.attribute? suite)
    (hfits : s.exact =
      { tests := ((root.childrenTagged "test-suite").map fun e =>
          Field.amount (e.attribute? "total")).sum
        errors := ((root.childrenTagged "test-suite").map fun e =>
          Field.amount (e.attribute? "errors")).sum
        failures := ((root.childrenTagged "test-suite").map fun e =>
          Field.amount (e.attribute? "failed")).sum
        skipped := ((root.childrenTagged "test-suite").map fun e =>
          Field.amount (e.attribute? "inconclusive") + Field.amount (e.attribute? "skipped")).sum
        time := sumPresent ((root.childrenTagged "test-suite").map fun e =>
          Field.duration (e.attribute? "duration")) }) :
    (∀ path, (countText path text).outcome = .ok s) ∧
    (s.time = none ↔ ∀ suite ∈ root.childrenTagged "test-suite",
      suite.attribute? "duration" = none) ∧
    ∀ root', Modern.Totalled mark s root root' →
      documentOf? (textOf root') = some root' ∧
      ∀ text', documentOf? text' = some root' →
        ∀ path, (countText path text').outcome = .ok s := by
  have hsum : s.exact = ((root.childrenTagged "test-suite").map Modern.figuresOf).sum := by
    rw [hfits, ExactSummary.sum_eq]
    simp only [List.map_map]
    rfl
  refine ⟨?_, Modern.time_of_suites hvalid hsum, ?_⟩
  · intro path
    rw [countText_report_eq_ok_iff (d := .modern) hdocument htag]
    exact Modern.count_of_suites hno hsuite hvalid hsum
  · intro root' h
    refine ⟨documentOf?_written (h.proper hmark hno (.of_readDocument? hdocument)), ?_⟩
    intro text' hdocument' path
    rw [countText_report_eq_ok_iff (d := .modern) hdocument' (h.tag_eq.trans htag)]
    exact Modern.count_of_totalled h hmark hno htag

/-- A run of two suites, one with another inside it and one without a duration. -/
def suitesRun : Element :=
  ⟨⟨"", "test-run"⟩, [⟨⟨"", "id"⟩, "7"⟩],
    [⟨⟨"", "test-suite"⟩, [⟨⟨"", "total"⟩, "3"⟩, ⟨⟨"", "failed"⟩, "1"⟩, ⟨⟨"", "inconclusive"⟩, "1"⟩,
        ⟨⟨"", "duration"⟩, "0,0605"⟩],
      [⟨⟨"", "test-suite"⟩, [⟨⟨"", "total"⟩, "many"⟩], []⟩]⟩,
    ⟨⟨"", "test-suite"⟩, [⟨⟨"", "total"⟩, "2"⟩, ⟨⟨"", "failed"⟩, "0"⟩, ⟨⟨"", "skipped"⟩, "1"⟩],
      []⟩]⟩

/-- The same run with its totals, in front of the attribute that it had. -/
def totalledRun : Element :=
  { suitesRun with
    attributes := [⟨⟨"", "total"⟩, "5"⟩, ⟨⟨"", "failed"⟩, "1"⟩, ⟨⟨"", "errors"⟩, "0"⟩,
      ⟨⟨"", "skipped"⟩, "2"⟩, ⟨⟨"", "duration"⟩, "0.061"⟩, ⟨⟨"", "id"⟩, "7"⟩] }

theorem suitesRun_proper : suitesRun.Proper := by
  refine .mk (by decide) ?_
  simp only [List.forall_mem_cons]
  refine ⟨.mk (by decide) ?_, .mk (by decide) (by simp), by simp⟩
  simp only [List.forall_mem_cons]
  exact ⟨.mk (by decide) (by simp), by simp⟩

theorem countText_of_run_totals_suites :
    documentOf? (textOf suitesRun) = some suitesRun ∧
      documentOf? (textOf totalledRun) = some totalledRun ∧
      (countText "/r.xml" (textOf suitesRun)).outcome =
        .ok ⟨.saturate 5, 0, .saturate 1, .saturate 2, some (.saturate 61)⟩ ∧
      (countText "/r.xml" (textOf totalledRun)).outcome =
        .ok ⟨.saturate 5, 0, .saturate 1, .saturate 2, some (.saturate 61)⟩ := by
  have hdocument : documentOf? (textOf suitesRun) = some suitesRun :=
    documentOf?_written suitesRun_proper
  have hvalid : ∀ suite ∈ suitesRun.childrenTagged "test-suite",
      Modern.Valid Element.attribute? suite := by
    have hsuites : suitesRun.childrenTagged "test-suite" = suitesRun.children := rfl
    rw [hsuites]
    simp only [suitesRun, List.forall_mem_cons]
    exact ⟨(Modern.figures_eq_ok_iff.mp rfl).1, (Modern.figures_eq_ok_iff.mp rfl).1, by simp⟩
  have htotalled : Modern.Totalled '.'
      ⟨.saturate 5, 0, .saturate 1, .saturate 2, some (.saturate 61)⟩ suitesRun totalledRun :=
    ⟨rfl, by decide, rfl⟩
  have hmark : '.' = '.' ∨ '.' = ',' := .inl rfl
  obtain ⟨hcounted, -, htotals⟩ := countText_of_run_totals
    (s := ⟨.saturate 5, 0, .saturate 1, .saturate 2, some (.saturate 61)⟩) hmark hdocument rfl
    (by decide) ⟨_, List.mem_cons_self, rfl⟩ hvalid rfl
  obtain ⟨hdocument', hsame⟩ := htotals totalledRun htotalled
  exact ⟨hdocument, hdocument', hcounted "/r.xml", hsame _ hdocument' "/r.xml"⟩

end TestRollup.Report
