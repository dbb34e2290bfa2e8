import TestRollup.Proofs.IntakeRun
import TestRollup.Proofs.Inspection

/- Files by their absolute paths. A file is looked for under the absolute form of the path
   that is given, and every fault says where that is. An absolute form is its own absolute
   form (`Files.absolute_absolute`): its steps are read back from its text, since a step is
   neither empty nor a dot and holds no slash, and so are the slashes it begins with and the
   one at its end. Hence a path and its absolute form name the same file, with the same
   figures, faults and events, and only the report of an import shows which was given.

   A file is looked at in stages: it is read, its bytes are taken as text, the text as a
   document, the document as a report of a known kind, and only then are the fields looked
   at. `TextFails` and `FileFails` list the causes that each stage can end in, once those
   before it have passed; they are the causes that faults have (`countFile_eq_error_iff`). -/
namespace TestRollup

namespace Files

/-- Each part is a step and holds no slash. -/
def AreSteps (parts : List Part) : Prop := ∀ part ∈ parts, isStep part = true ∧ '/' ∉ part

theorem areSteps_steps (path : List Char) : AreSteps (steps path) := by
  intro part h
  exact ⟨isStep_of_mem_steps h, not_mem_of_mem_steps h⟩

/-- The steps on both sides of a slash are the steps of the whole. -/
theorem steps_append_slash (cs ds : List Char) :
    steps (cs ++ '/' :: ds) = steps cs ++ steps ds := by
  rw [steps, List.splitOn_append_cons_self, List.filter_append]
  rfl

theorem steps_slash (cs : List Char) : steps ('/' :: cs) = steps cs := steps_append_slash [] cs

theorem steps_of_isStep {part : Part} (h : isStep part = true) (hslash : '/' ∉ part) :
    steps part = [part] := by
  rw [steps, List.splitOn_eq_singleton hslash, List.filter_cons_of_pos h]
  rfl

variable {parts : List Part}

theorem steps_joined (h : AreSteps parts) : steps (List.intercalate ['/'] parts) = parts := by
  induction parts with
  | nil => rfl
  | cons part parts ih =>
    obtain ⟨hpart, hparts⟩ := List.forall_mem_cons.mp h
    cases parts with
    | nil => rw [List.intercalate_singleton, steps_of_isStep hpart.1 hpart.2]
    | cons next rest =>
      rw [List.intercalate_cons_cons, List.append_assoc, List.singleton_append,
        steps_append_slash, steps_of_isStep hpart.1 hpart.2, ih hparts]
      rfl

/-- Wherever joined steps are cut at a slash, there is something on both sides. -/
theorem ne_nil_of_joined_eq (h : AreSteps parts) {cs ds : List Char}
    (heq : List.intercalate ['/'] parts = cs ++ '/' :: ds) : cs ≠ [] ∧ ds ≠ [] := by
  have hne : parts ≠ [] := by
    intro hnone
    rw [hnone, List.intercalate_nil] at heq
    simp at heq
  have hparts : parts = cs.splitOn '/' ++ ds.splitOn '/' := by
    rw [← List.splitOn_append_cons_self, ← heq,
      List.splitOn_intercalate '/' (fun part hpart => (h part hpart).2) hne]
  have hempty : [] ∉ parts := fun hmem => Bool.noConfusion (h [] hmem).1
  refine ⟨?_, ?_⟩
  · intro hcs
    apply hempty
    rw [hparts, hcs, List.splitOn_nil]
    exact List.mem_append_left _ List.mem_cons_self
  · intro hds
    apply hempty
    rw [hparts, hds, List.splitOn_nil]
    exact List.mem_append_right _ List.mem_cons_self

theorem joined_ne_nil (h : AreSteps parts) (hne : parts ≠ []) :
    List.intercalate ['/'] parts ≠ [] := by
  intro hnone
  have hsteps := steps_joined h
  rw [hnone] at hsteps
  exact hne hsteps.symm

namespace Absolute

/-- What stands behind the slashes that a path begins with. -/
def rest (a : Absolute) : List Char :=
  List.intercalate ['/'] a.parts ++ (if a.trailing && !a.parts.isEmpty then ['/'] else [])

theorem path_eq (a : Absolute) : a.path = (if a.doubled then ['/', '/'] else ['/']) ++ a.rest :=
  List.append_assoc _ _ _

variable {a : Absolute}

theorem steps_path (h : AreSteps a.parts) : steps a.path = a.parts := by
  have hrest : steps a.rest = a.parts := by
    unfold rest
    split
    · rw [steps_append_slash, steps_joined h]
      exact List.append_nil _
    · rw [List.append_nil, steps_joined h]
  rw [path_eq]
  split
  · show steps ('/' :: '/' :: a.rest) = a.parts
    rw [steps_slash, steps_slash, hrest]
  · show steps ('/' :: a.rest) = a.parts
    rw [steps_slash, hrest]

theorem head?_rest (h : AreSteps a.parts) : ∀ c ∈ a.rest.head?, c ≠ '/' := by
  intro c hc hslash
  by_cases hne : a.parts = []
  · simp [rest, hne] at hc
  · obtain ⟨first, others, hjoined⟩ := List.exists_cons_of_ne_nil (joined_ne_nil h hne)
    rw [rest, hjoined, List.cons_append, List.head?_cons, Option.mem_some_iff] at hc
    rw [hc, hslash] at hjoined
    have hslashed : List.intercalate ['/'] a.parts = [] ++ '/' :: others := hjoined
    exact (ne_nil_of_joined_eq h hslashed).1 rfl

theorem isPrefixOf_rest (h : AreSteps a.parts) (slashes : List Char) :
    ('/' :: slashes).isPrefixOf a.rest = false := by
  have hhead := head?_rest h
  cases hrest : a.rest with
  | nil => rfl
  | cons c cs =>
    have hc : c ≠ '/' := hhead c (by rw [hrest]; rfl)
    simp [List.isPrefixOf, Ne.symm hc]

theorem doubled_ofPath_path (h : AreSteps a.parts) (folder : Folder) :
    (ofPath folder a.path).doubled = a.doubled := by
  show (['/', '/'].isPrefixOf a.path && !(['/', '/', '/'].isPrefixOf a.path)) = a.doubled
  rw [path_eq]
  cases a.doubled with
  | true => simp [List.isPrefixOf, isPrefixOf_rest h]
  | false => simp [isPrefixOf_rest h]

theorem parts_ofPath_path (h : AreSteps a.parts) (folder : Folder) :
    (ofPath folder a.path).parts = a.parts := by
  have hroot : ['/'].isPrefixOf a.path = true := by
    rw [path_eq]
    cases a.doubled <;> rfl
  show (if ['/'].isPrefixOf a.path then steps a.path else _) = a.parts
  rw [if_pos hroot, steps_path h]

theorem trailing_ofPath_path (h : AreSteps a.parts) (hne : a.parts ≠ []) (folder : Folder) :
    (ofPath folder a.path).trailing = a.trailing := by
  have hjoined := joined_ne_nil h hne
  have hrest : a.rest ≠ [] := List.append_ne_nil_of_left_ne_nil hjoined _
  have hlast : a.path.getLast? = a.rest.getLast? := by
    rw [path_eq, List.getLast?_append_of_ne_nil _ hrest]
  show ['/'].isSuffixOf a.path = a.trailing
  rw [Bool.eq_iff_iff, List.isSuffixOf_iff_suffix, List.singleton_suffix_iff_getLast?_eq_some,
    hlast]
  cases htrailing : a.trailing with
  | true => simp [rest, htrailing, hne]
  | false =>
    refine ⟨fun hslash => ?_, fun hno => Bool.noConfusion hno⟩
    obtain ⟨before, hbefore⟩ := List.getLast?_eq_some_iff.mp hslash
    rw [rest, htrailing, Bool.false_and, if_neg Bool.false_ne_true, List.append_nil] at hbefore
    exact absurd rfl (ne_nil_of_joined_eq h hbefore).2

/-- A path of steps is its own absolute form, from wherever it is seen. -/
theorem path_ofPath_path (h : AreSteps a.parts) (folder : Folder) :
    (ofPath folder a.path).path = a.path := by
  have hrest : (ofPath folder a.path).rest = a.rest := by
    unfold rest
    rw [parts_ofPath_path h]
    by_cases hne : a.parts = []
    · simp [hne]
    · rw [trailing_ofPath_path h hne]
  rw [path_eq, doubled_ofPath_path h, hrest, ← path_eq]

theorem areSteps_ofPath (folder : Folder) (path : List Char) :
    AreSteps (ofPath folder path).parts := by
  show AreSteps (if ['/'].isPrefixOf path then steps path else folder.names ++ steps path)
  split
  · exact areSteps_steps path
  · intro part h
    apply (List.mem_append.mp h).elim
    · exact folder.names_are_steps part
    · exact areSteps_steps path part

end Absolute

theorem toList_absolute {path : String} (h : path ≠ "") (folder : Folder) :
    (absolute folder path).toList = (Absolute.ofPath folder path.toList).path := by
  rw [absolute, if_neg (by simpa using h), String.toList_ofList]

/-- The absolute form of a path begins with a slash. -/
theorem slash_prefix_absolute {path : String} (h : path ≠ "") (folder : Folder) :
    ['/'] <+: (absolute folder path).toList := by
  rw [toList_absolute h, Absolute.path_eq]
  split
  · exact List.prefix_append ['/'] _
  · exact List.prefix_append ['/'] _

/-- An absolute form is its own absolute form, from whatever folder it is seen. -/
theorem absolute_absolute (folder other : Folder) (path : String) :
    absolute other (absolute folder path) = absolute folder path := by
  by_cases h : path = ""
  · rw [h]
    rfl
  · have hne : absolute folder path ≠ "" := by
      intro hnone
      have hslash := slash_prefix_absolute h folder
      rw [hnone] at hslash
      exact absurd hslash (by simp)
    rw [← String.toList_inj, toList_absolute hne, toList_absolute h]
    exact Absolute.path_ofPath_path (Absolute.areSteps_ofPath folder path.toList) other

end Files

namespace Report

/-- The cause lies in one field of an element. -/
def Cause.isOfField : Cause → Bool
  | missingAttribute .. | invalidInteger .. | invalidDecimal .. => true
  | unrecognizedRoot _ | unreadable _ | malformed => false

theorem FirstFailure.exists_fails {cs : List Check} {cause : Cause} (h : FirstFailure cs cause) :
    ∃ c ∈ cs, c.Fails cause := by
  induction h with
  | @here c cs cause h => exact ⟨c, List.mem_cons_self, h⟩
  | later _ _ ih =>
    obtain ⟨c, hc, hfails⟩ := ih
    exact ⟨c, List.mem_cons_of_mem _ hc, hfails⟩

/-- No check of an element is one of the root. -/
theorem Dialect.root_notMem_checks (d : Dialect) (e : Xml.Element) (tag : String) :
    Check.root tag ∉ d.checks e := by
  cases d with
  | legacy =>
    have htime : Check.root tag ∉ Legacy.timeChecks e := by
      unfold Legacy.timeChecks
      split
      · simp
      · split <;> simp
    simp [checks, Legacy.checks, htime]
  | modern => simp [checks, Modern.checks]

/-- Whatever is wrong with a report of a known kind lies in a field. -/
theorem Dialect.isOfField_of_count {d : Dialect} {path : String} {root : Xml.Element}
    {cause : Cause} (h : (d.count path root).outcome = .error cause) : cause.isOfField = true := by
  obtain ⟨c, hc, hfails⟩ := ((d.inspects_count path root cause).mp h).exists_fails
  obtain ⟨e, -, hc⟩ := List.mem_flatMap.mp hc
  cases hfails with
  | root => exact absurd hc (d.root_notMem_checks e _)
  | absent | required | optional | seconds => rfl

/-- Why the report with this text cannot be counted: the cause is that of the first stage that
does not pass. -/
inductive TextFails (path text : String) : Cause → Prop where
  | malformed (h : documentOf? text = none) : TextFails path text .malformed
  | unrecognized {root : Xml.Element} (hdocument : documentOf? text = some root)
      (h : ∀ d : Dialect, root.tag ≠ d.rootTag) : TextFails path text (.unrecognizedRoot root.tag)
  | field {root : Xml.Element} {d : Dialect} {cause : Cause}
      (hdocument : documentOf? text = some root) (htag : root.tag = d.rootTag)
      (h : (d.count path root).outcome = .error cause) (hfield : cause.isOfField = true) :
      TextFails path text cause

theorem countText_eq_error_iff {path text : String} {f : Fault} :
    (countText path text).outcome = .error f ↔ f.path = path ∧ TextFails path text f.cause := by
  refine ⟨?_, ?_⟩
  · intro h
    cases hdocument : documentOf? text with
    | none =>
      rw [countText_of_no_document hdocument] at h
      cases h
      exact ⟨rfl, .malformed hdocument⟩
    | some root =>
      rw [countText_of_document hdocument, Logged.outcome_mapError_eq_error_iff] at h
      obtain ⟨cause, hcause, rfl⟩ := h
      refine ⟨rfl, ?_⟩
      cases hroot : Dialect.ofRootTag? root.tag with
      | none =>
        have hno := Dialect.ofRootTag?_eq_none_iff.mp hroot
        rw [countDocument_of_no_dialect hno] at hcause
        cases hcause
        exact .unrecognized hdocument hno
      | some d =>
        have htag := Dialect.ofRootTag?_eq_some_iff.mp hroot
        rw [countDocument_of_dialect htag] at hcause
        exact .field hdocument htag hcause (Dialect.isOfField_of_count hcause)
  · intro h
    obtain ⟨place, cause⟩ := f
    obtain ⟨rfl, hcause⟩ := h
    cases hcause with
    | malformed h =>
      rw [countText_of_no_document h]
      rfl
    | unrecognized hdocument h =>
      rw [countText_of_document hdocument, countDocument_of_no_dialect h]
      rfl
    | field hdocument htag h _ =>
      rw [countText_of_document hdocument, countDocument_of_dialect htag,
        Logged.outcome_mapError_eq_error_iff]
      exact ⟨cause, h, rfl⟩

end Report

namespace Intake

open Report

variable {w : Workspace} {path : String}

/-- The absolute form of a path, seen from the current folder. -/
abbrev Workspace.absolute (w : Workspace) (path : String) : String :=
  Files.absolute w.folder path

/-- Why the file at an absolute path cannot be counted: it is first read, then taken as text,
and then the text is counted. -/
inductive FileFails (w : Workspace) (path : String) : Cause → Prop where
  | unreadable {reason : Files.Failure} (h : w.read path = .error reason) :
      FileFails w path (.unreadable reason)
  | notText {bytes : ByteArray} (hread : w.read path = .ok bytes)
      (h : String.fromUTF8? bytes = none) : FileFails w path (.unreadable .notUtf8)
  | text {bytes : ByteArray} {text : String} {cause : Cause} (hread : w.read path = .ok bytes)
      (htext : String.fromUTF8? bytes = some text) (h : TextFails path text cause) :
      FileFails w path cause

theorem countFile_of_refused {reason : Files.Failure}
    (h : w.read (w.absolute path) = .error reason) :
    countFile w path = .fail ⟨w.absolute path, .unreadable reason⟩ := by
  apply countFile_of_unreadable
  rw [Workspace.text, h]

theorem countFile_of_no_text {bytes : ByteArray} (hread : w.read (w.absolute path) = .ok bytes)
    (h : String.fromUTF8? bytes = none) :
    countFile w path = .fail ⟨w.absolute path, .unreadable .notUtf8⟩ := by
  apply countFile_of_unreadable
  rw [Workspace.text, hread]
  simp only [h]

theorem countFile_of_bytes {bytes : ByteArray} {text : String}
    (hread : w.read (w.absolute path) = .ok bytes) (htext : String.fromUTF8? bytes = some text) :
    countFile w path = countText (w.absolute path) text := by
  apply countFile_of_text
  rw [Workspace.text, hread]
  simp only [htext]

/-- A file cannot be counted exactly if one of the stages does not pass, and the fault is that
of the first of them, at the absolute path. -/
theorem countFile_eq_error_iff {f : Fault} :
    (countFile w path).outcome = .error f ↔
      f.path = w.absolute path ∧ FileFails w (w.absolute path) f.cause := by
  refine ⟨?_, ?_⟩
  · intro h
    cases hread : w.read (w.absolute path) with
    | error reason =>
      rw [countFile_of_refused hread] at h
      cases h
      exact ⟨rfl, .unreadable hread⟩
    | ok bytes =>
      cases htext : String.fromUTF8? bytes with
      | none =>
        rw [countFile_of_no_text hread htext] at h
        cases h
        exact ⟨rfl, .notText hread htext⟩
      | some text =>
        rw [countFile_of_bytes hread htext, countText_eq_error_iff] at h
        exact ⟨h.1, .text hread htext h.2⟩
  · intro h
    obtain ⟨place, cause⟩ := f
    obtain ⟨rfl, hcause⟩ := h
    cases hcause with
    | unreadable h =>
      rw [countFile_of_refused h]
      rfl
    | notText hread h =>
      rw [countFile_of_no_text hread h]
      rfl
    | text hread htext h =>
      rw [countFile_of_bytes hread htext]
      exact countText_eq_error_iff.mpr ⟨rfl, h⟩

/-- A path and its absolute form are counted alike. -/
theorem countFile_absolute (w : Workspace) (path : String) :
    countFile w (w.absolute path) = countFile w path := by
  unfold countFile
  rw [Workspace.absolute, Files.absolute_absolute]

theorem outcome_accept_eq_error_iff {total : Summary} {f : Fault} :
    (accept w path total).outcome = .error f ↔ (countFile w path).outcome = .error f := by
  rw [outcome_accept]
  cases (countFile w path).outcome <;> simp [Except.map]

/-- A file is looked for under its absolute path, which begins with a slash unless no path is
given, and every fault has this path: of counting the file, of accepting it, and of aggregating
files, where it is that of the first file that fails. A file that cannot be read or is no text
is unreadable, whatever it holds; otherwise counting the file is counting its text, and the
text has to be a document before its root is looked at, and the root that of a known report
before any field is. The absolute path leads to the same file as the path itself: it is its own
absolute form, and counting it gives the same figures or fault and the same events; accepting it
differs in nothing but the path that the import is reported with. -/
theorem countFile_by_absolute_path (w : Workspace) (path : String) :
    (path ≠ "" → ['/'] <+: (w.absolute path).toList) ∧
    (∀ f, (countFile w path).outcome = .error f ↔
      f.path = w.absolute path ∧ FileFails w (w.absolute path) f.cause) ∧
    (∀ bytes text, w.read (w.absolute path) = .ok bytes → String.fromUTF8? bytes = some text →
      countFile w path = countText (w.absolute path) text) ∧
    (∀ total f, (accept w path total).outcome = .error f ↔
      (countFile w path).outcome = .error f) ∧
    (∀ paths f, (aggregate w paths).outcome = .error f →
      ∃ before file after, paths = before ++ file :: after ∧
        (∀ q ∈ before, ∃ s, (countFile w q).outcome = .ok s) ∧
        (countFile w file).outcome = .error f ∧ f.path = w.absolute file) ∧
    w.absolute (w.absolute path) = w.absolute path ∧
    countFile w (w.absolute path) = countFile w path ∧
    (∀ total s, (countFile w path).outcome = .ok s →
      accept w path total =
        ⟨(countFile w path).events ++ [.imported path s], .ok (total.merge s)⟩ ∧
      accept w (w.absolute path) total =
        ⟨(countFile w path).events ++ [.imported (w.absolute path) s], .ok (total.merge s)⟩) ∧
    (∀ total f, (countFile w path).outcome = .error f →
      accept w (w.absolute path) total = accept w path total) := by
  refine ⟨fun h => Files.slash_prefix_absolute h w.folder, fun f => countFile_eq_error_iff,
    fun bytes text => countFile_of_bytes, fun total f => outcome_accept_eq_error_iff, ?_,
    Files.absolute_absolute w.folder w.folder path, countFile_absolute w path, ?_, ?_⟩
  · intro paths f h
    obtain ⟨before, file, after, hpaths, hbefore, hf⟩ := aggregate_error_iff.mp h
    exact ⟨before, file, after, hpaths, hbefore, hf, (countFile_eq_error_iff.mp hf).1⟩
  · intro total s hs
    refine ⟨accept_of_counted hs total, ?_⟩
    rw [accept_of_counted ((congrArg Logged.outcome (countFile_absolute w path)).trans hs),
      countFile_absolute]
  · intro total f hf
    rw [accept_of_fault hf,
      accept_of_fault ((congrArg Logged.outcome (countFile_absolute w path)).trans hf),
      countFile_absolute]

end Intake

end TestRollup
