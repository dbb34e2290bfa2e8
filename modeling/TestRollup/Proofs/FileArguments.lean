import Mathlib.Data.List.Basic
import TestRollup.Command.Arguments
import TestRollup.Proofs.FieldReading

/- Which arguments are files. A scan gathers files and looks at the values it gathered last only
   when it has to, so what it has come to is not all in one place: `gathered` are the files of
   a scan wherever they are, and `Settles s names format` says that the scan, if it looked at
   its values now, would have these files and this format.

   From an accepted command line backwards: no step of a scan gathers anything but the argument
   it takes up, and no file without a name gets through (`names_run`). From the files forwards:
   an argument that can only be a file is gathered, a format option in any of its spellings is
   taken up, wherever it stands, and behind a double hyphen everything is gathered
   (`Settles.run_fileNames`, `Settles.run_option`, `Settles.finishWithFiles`). So the files of a
   command line are what they seem to be (`parseArguments_files`). -/
namespace TestRollup.Command

open Report (bind_eq_ok_iff)
open scoped List

/-- The name of a file that cannot be taken for an option. -/
def IsFileName (name : String) : Prop :=
  name ≠ "" ∧ (name = "-" ∨ name.toList.head? ≠ some '-')

/-- The spellings of the format option. -/
inductive FormatSpelling where
  | shortApart
  | shortAttached
  | shortEquals
  | longApart
  | longEquals

/-- The arguments by which an option asks for a format. -/
def FormatSpelling.arguments (format : Format) : FormatSpelling → List String
  | shortApart => ["-f", format.name]
  | shortAttached => ["-f" ++ format.name]
  | shortEquals => ["-f=" ++ format.name]
  | longApart => ["--format", format.name]
  | longEquals => ["--format=" ++ format.name]

/-- The arguments of a format option, if there is one. -/
def optionArguments : Option (FormatSpelling × Format) → List String
  | none => []
  | some (spelling, format) => spelling.arguments format

/-! ## Single arguments -/

theorem eq_of_ofString_eq_word {a text : String} (h : Argument.ofString a = .word text) :
    text = a := by
  unfold Argument.ofString at h
  split at h <;> simp_all

theorem ofString_of_isFileName {name : String} (h : IsFileName name) :
    Argument.ofString name = .word name := by
  obtain ⟨-, rfl | h⟩ := h
  · rfl
  · unfold Argument.ofString
    split <;> simp_all

namespace Scan

/-! ## What a scan gathers -/

/-- The files that have been gathered, looked at or not. -/
def gathered (s : Scan) : List String :=
  match s.pending with
  | .files names => s.files ++ names
  | .nothing | .format _ => s.files

/-- No file that has been looked at is without a name. -/
def Named (s : Scan) : Prop := "" ∉ s.files

variable {s t : Scan}

theorem of_settle (h : s.settle = .ok t) :
    t.files = s.gathered ∧ t.pending = .nothing ∧ (s.Named → t.Named) := by
  unfold settle at h
  unfold gathered
  cases hpending : s.pending with
  | nothing =>
    rw [hpending] at h
    cases h
    exact ⟨rfl, hpending, id⟩
  | files names =>
    simp only [hpending] at h
    split at h
    · cases h
    · next hnames =>
      cases h
      refine ⟨rfl, rfl, ?_⟩
      intro hs hmem
      rcases List.mem_append.mp hmem with hfile | hname
      · exact hs hfile
      · exact hnames (List.any_eq_true.mpr ⟨"", hname, rfl⟩)
  | format value =>
    cases value with
    | none =>
      rw [hpending] at h
      cases h
    | some value =>
      simp only [hpending] at h
      split at h
      · cases h
      · split at h
        · cases h
        · cases h
          exact ⟨rfl, rfl, id⟩

theorem of_addFile {name : String} (h : s.addFile name = .ok t) :
    t.gathered = s.gathered ++ [name] ∧ (s.Named → t.Named) := by
  unfold addFile at h
  split at h
  · next names hpending =>
    cases h
    refine ⟨?_, id⟩
    simp only [gathered, hpending, List.append_assoc]
  · obtain ⟨settled, hsettled, hrest⟩ := bind_eq_ok_iff.mp h
    obtain ⟨hfiles, -, hnamed⟩ := of_settle hsettled
    cases hrest
    refine ⟨?_, hnamed⟩
    simp only [gathered, hfiles]

theorem of_addWord {text : String} (h : s.addWord text = .ok t) :
    t.gathered <+ s.gathered ++ [text] ∧ (s.Named → t.Named) := by
  unfold addWord at h
  split at h
  · next hpending =>
    cases h
    refine ⟨?_, id⟩
    simp [gathered, hpending]
  · obtain ⟨hgathered, hnamed⟩ := of_addFile h
    exact ⟨hgathered ▸ .refl _, hnamed⟩

theorem of_addFormat {value : Option String} (h : s.addFormat value = .ok t) :
    t.gathered = s.gathered ∧ (s.Named → t.Named) := by
  obtain ⟨settled, hsettled, hrest⟩ := bind_eq_ok_iff.mp h
  obtain ⟨hfiles, -, hnamed⟩ := of_settle hsettled
  cases value with
  | none =>
    cases hrest
    exact ⟨hfiles, hnamed⟩
  | some value =>
    obtain ⟨hfiles', hpending, hnamed'⟩ := of_settle hrest
    refine ⟨?_, fun hs => hnamed' (hnamed hs)⟩
    rw [gathered, hpending, ← hfiles]
    exact hfiles'

/-! ## From the request back to the arguments -/

variable {r : Request}

/-- The request has files, in the order of the given arguments, and each of them has a name. -/
structure Names (r : Request) (arguments : List String) : Prop where
  sublist : r.files <+ arguments
  named : "" ∉ r.files
  nonempty : r.files ≠ []

theorem names_finish (hs : s.Named) (h : s.finish = .ok r) : Names r s.gathered := by
  obtain ⟨settled, hsettled, hrest⟩ := bind_eq_ok_iff.mp h
  obtain ⟨hfiles, -, hnamed⟩ := of_settle hsettled
  split at hrest
  · cases hrest
  · next hne =>
    cases hrest
    exact ⟨hfiles ▸ .refl _, hnamed hs, by simpa using hne⟩

theorem names_finishWithFiles {arguments : List String} (hs : s.Named)
    (h : s.finishWithFiles arguments = .ok r) : Names r (s.gathered ++ arguments) := by
  induction arguments generalizing s with
  | nil =>
    rw [List.append_nil]
    exact names_finish hs h
  | cons a arguments ih =>
    rw [finishWithFiles] at h
    split at h
    · cases h
    · next t ht =>
      obtain ⟨hgathered, hnamed⟩ := of_addFile ht
      have hnames := ih (hnamed hs) h
      rw [hgathered, List.append_assoc] at hnames
      exact hnames

theorem Names.mono {arguments others : List String} (h : Names r arguments)
    (hsub : arguments <+ others) : Names r others :=
  ⟨h.sublist.trans hsub, h.named, h.nonempty⟩

theorem help_ne_ok : s.help ≠ .ok r := by
  intro h
  obtain ⟨settled, -, hrest⟩ := bind_eq_ok_iff.mp h
  cases hrest

/-- One step of an accepted run: the rest are files, or the scan goes on with no more gathered
than the argument. -/
theorem of_run_cons {a : String} {rest : List String} (h : s.run (a :: rest) = .ok r) :
    s.finishWithFiles rest = .ok r ∨
      ∃ t : Scan, t.run rest = .ok r ∧ t.gathered <+ s.gathered ++ [a] ∧ (s.Named → t.Named) := by
  have hformat : ∀ {t : Scan} {value : Option String}, s.addFormat value = .ok t →
      t.gathered <+ s.gathered ++ [a] ∧ (s.Named → t.Named) := by
    intro t value ht
    obtain ⟨hgathered, hnamed⟩ := of_addFormat ht
    rw [hgathered]
    exact ⟨List.sublist_append_left _ _, hnamed⟩
  rw [run] at h
  -- one case for each kind of argument, and the errors among them are no requests
  split at h
  · exact .inl h
  · next text htext =>
    split at h
    · cases h
    · next t ht =>
      rw [eq_of_ofString_eq_word htext] at ht
      exact .inr ⟨t, h, of_addWord ht⟩
  · split at h
    · split at h
      · cases h
      · next t ht => exact .inr ⟨t, h, hformat ht⟩
    · split at h
      · split at h
        · cases h
        · exact absurd h help_ne_ok
      · cases h
  · split at h
    · split at h
      · cases h
      · next t ht => exact .inr ⟨t, h, hformat ht⟩
    · split at h
      · exact absurd h help_ne_ok
      · cases h

theorem names_run {arguments : List String} (hs : s.Named) (h : s.run arguments = .ok r) :
    Names r (s.gathered ++ arguments) := by
  induction arguments generalizing s with
  | nil =>
    rw [List.append_nil]
    exact names_finish hs h
  | cons a arguments ih =>
    obtain hrest | ⟨t, hrun, hgathered, hnamed⟩ := of_run_cons h
    · apply (names_finishWithFiles hs hrest).mono
      simp
    · apply (ih (hnamed hs) hrun).mono
      simpa using hgathered.append_right arguments

/-! ## From the arguments to the request -/

/-- The argument is the format option, with a value in the same argument or without. -/
def AsksForFormat (argument : String) (value : Option String) : Prop :=
  (∃ rest, Argument.ofString argument = .short 'f' rest ∧ attachedValue? rest = value) ∨
    ∃ rest, Argument.ofString argument = .long "format".toList rest ∧
      rest.map String.ofList = value

theorem AsksForFormat.run_eq {argument : String} {value : Option String}
    (h : AsksForFormat argument value) (ht : s.addFormat value = .ok t) {rest : List String} :
    s.run (argument :: rest) = t.run rest := by
  obtain ⟨_, hargument, rfl⟩ | ⟨_, hargument, rfl⟩ := h
  · rw [run, hargument]
    simp only [if_true, ht]
  · rw [run, hargument]
    simp only [if_true, ht]

theorem ofString_formatName (format : Format) :
    Argument.ofString format.name = .word format.name := by
  cases format <;> rfl

/-- Looked at now, the values that have been gathered give these files and this format. -/
def Settles (s : Scan) (names : List String) (format : Option Format) : Prop :=
  s.settle = .ok { files := names, format }

variable {names : List String} {format : Option Format}

namespace Settles

theorem any_isEmpty_eq_false {name : String} (h : name ≠ "") :
    [name].any (·.isEmpty) = false := by
  simpa using h

theorem addFile (h : s.Settles names format) {name : String} (hname : name ≠ "") :
    ∃ t, s.addFile name = .ok t ∧ t.Settles (names ++ [name]) format := by
  unfold Scan.addFile
  split
  · next others hpending =>
    refine ⟨_, rfl, ?_⟩
    unfold Settles settle at h ⊢
    simp only [hpending] at h ⊢
    split at h
    · cases h
    · next hothers =>
      cases h
      rw [List.any_append, any_isEmpty_eq_false hname, Bool.or_false, if_neg hothers,
        List.append_assoc]
  · refine ⟨{ files := names, format, pending := .files [name] }, ?_, ?_⟩
    · rw [h]
      rfl
    · unfold Settles settle
      simp only [any_isEmpty_eq_false hname]
      rfl

theorem addWord (h : s.Settles names format) {name : String} (hname : name ≠ "") :
    ∃ t, s.addWord name = .ok t ∧ t.Settles (names ++ [name]) format := by
  unfold Scan.addWord
  split
  · next hpending =>
    -- a format without its value could not be looked at
    rw [Settles, settle, hpending] at h
    cases h
  · exact h.addFile hname

theorem run_fileNames (h : s.Settles names format) {files : List String}
    (hfiles : ∀ file ∈ files, IsFileName file) :
    ∃ t : Scan, t.Settles (names ++ files) format ∧
      ∀ rest, s.run (files ++ rest) = t.run rest := by
  induction files generalizing s names with
  | nil => exact ⟨s, by rwa [List.append_nil], fun rest => rfl⟩
  | cons file files ih =>
    obtain ⟨hfile, hfiles⟩ := List.forall_mem_cons.mp hfiles
    obtain ⟨t, ht, hsettles⟩ := h.addWord hfile.1
    obtain ⟨u, hu, hrun⟩ := ih hsettles hfiles
    refine ⟨u, ?_, ?_⟩
    · rw [List.append_cons]
      exact hu
    · intro rest
      rw [← hrun rest, List.cons_append, run, ofString_of_isFileName hfile]
      simp only [ht]

theorem addFormat (h : s.Settles names none) (format : Format) :
    s.addFormat (some format.name) = .ok { files := names, format := some format } := by
  have hname : Format.ofName? format.name = some format := by cases format <;> rfl
  rw [Scan.addFormat, h]
  show settle { files := names, pending := .format (some format.name) } = _
  unfold settle
  simp only [hname]
  rfl

/-- The value of a format option that comes as the next argument is gathered. -/
theorem addFormat_none (h : s.Settles names none) (format : Format) :
    ∃ t u, s.addFormat none = .ok t ∧ t.addWord format.name = .ok u ∧
      u.Settles names (some format) := by
  have hname : Format.ofName? format.name = some format := by cases format <;> rfl
  refine ⟨{ files := names, pending := .format none },
    { files := names, pending := .format (some format.name) }, ?_, rfl, ?_⟩
  · rw [Scan.addFormat, h]
    rfl
  · unfold Settles settle
    simp only [hname]
    rfl

theorem run_option (h : s.Settles names none) (spelling : FormatSpelling) (format : Format) :
    ∃ t : Scan, t.Settles names (some format) ∧
      ∀ rest, s.run (spelling.arguments format ++ rest) = t.run rest := by
  have happart : ∀ option, AsksForFormat option none →
      ∃ t : Scan, t.Settles names (some format) ∧
        ∀ rest, s.run (option :: format.name :: rest) = t.run rest := by
    intro option hoption
    obtain ⟨t, u, ht, hu, hsettles⟩ := h.addFormat_none format
    refine ⟨u, hsettles, fun rest => ?_⟩
    rw [hoption.run_eq ht, run, ofString_formatName]
    simp only [hu]
  have hattached : ∀ option, AsksForFormat option (some format.name) →
      ∃ t : Scan, t.Settles names (some format) ∧ ∀ rest, s.run (option :: rest) = t.run rest :=
    fun option hoption => ⟨{ files := names, format := some format }, rfl,
      fun rest => hoption.run_eq (h.addFormat format)⟩
  cases spelling with
  | shortApart => exact happart "-f" (.inl ⟨[], rfl, rfl⟩)
  | shortAttached => exact hattached _ (.inl (by cases format <;> exact ⟨_, rfl, rfl⟩))
  | shortEquals => exact hattached _ (.inl (by cases format <;> exact ⟨_, rfl, rfl⟩))
  | longApart => exact happart "--format" (.inr ⟨none, rfl, rfl⟩)
  | longEquals => exact hattached _ (.inr (by cases format <;> exact ⟨_, rfl, rfl⟩))

theorem finish (h : s.Settles names format) (hne : names ≠ []) :
    s.finish = .ok ⟨names, format.getD .text⟩ := by
  have hfiles : names.isEmpty = false := by simpa using hne
  rw [Scan.finish, h]
  show (if names.isEmpty then _ else _) = _
  rw [hfiles]
  rfl

theorem finishWithFiles (h : s.Settles names format) {files : List String}
    (hfiles : ∀ file ∈ files, file ≠ "") (hne : names ++ files ≠ []) :
    s.finishWithFiles files = .ok ⟨names ++ files, format.getD .text⟩ := by
  induction files generalizing s names with
  | nil =>
    rw [List.append_nil] at hne ⊢
    exact h.finish hne
  | cons file files ih =>
    obtain ⟨hfile, hfiles⟩ := List.forall_mem_cons.mp hfiles
    obtain ⟨t, ht, hsettles⟩ := h.addFile hfile
    rw [List.append_cons] at hne ⊢
    rw [Scan.finishWithFiles, ht]
    exact ih hsettles hfiles hne

end Settles

/-- Files and then at most one option, as a scan from the beginning takes them up. -/
theorem exists_settles {before between : List String} (option : Option (FormatSpelling × Format))
    (hnames : ∀ name ∈ before ++ between, IsFileName name) :
    ∃ t : Scan, t.Settles (before ++ between) (option.map Prod.snd) ∧
      ∀ rest, run {} (before ++ optionArguments option ++ between ++ rest) = t.run rest := by
  obtain ⟨hbefore, hbetween⟩ := List.forall_mem_append.mp hnames
  have hstart : Settles {} [] none := rfl
  obtain ⟨t, ht, hrun⟩ := hstart.run_fileNames hbefore
  have hoption : ∃ u : Scan, u.Settles before (option.map Prod.snd) ∧
      ∀ rest, t.run (optionArguments option ++ rest) = u.run rest := by
    cases option with
    | none => exact ⟨t, ht, fun rest => rfl⟩
    | some option => exact ht.run_option option.1 option.2
  obtain ⟨u, hu, hrunOption⟩ := hoption
  obtain ⟨v, hv, hrunBetween⟩ := hu.run_fileNames hbetween
  refine ⟨v, hv, fun rest => ?_⟩
  rw [List.append_assoc, List.append_assoc, hrun, hrunOption, hrunBetween]

end Scan

/-! ## Whole command lines -/

theorem names_of_parseArguments {arguments : List String} {r : Request}
    (h : parseArguments arguments = .ok r) :
    ∃ rest, arguments = "summarize" :: rest ∧ Scan.Names r rest := by
  cases arguments with
  | nil => cases h
  | cons first rest =>
    rw [parseArguments] at h
    split at h
    · next hfirst =>
      have hstart : Scan.Named {} := List.not_mem_nil
      exact ⟨rest, by rw [hfirst], Scan.names_run hstart h⟩
    · split at h <;> cases h

variable {before between tail : List String}

theorem parseArguments_fileNames (option : Option (FormatSpelling × Format))
    (hnames : ∀ name ∈ before ++ between, IsFileName name) (hne : before ++ between ≠ []) :
    parseArguments ("summarize" :: (before ++ optionArguments option ++ between)) =
      .ok ⟨before ++ between, (option.map Prod.snd).getD .text⟩ := by
  obtain ⟨t, ht, hrun⟩ := Scan.exists_settles option hnames
  have hend := hrun []
  rw [List.append_nil] at hend
  calc parseArguments ("summarize" :: (before ++ optionArguments option ++ between))
      = t.run [] := hend
    _ = .ok ⟨before ++ between, (option.map Prod.snd).getD .text⟩ := ht.finish hne

theorem parseArguments_separator (option : Option (FormatSpelling × Format))
    (hnames : ∀ name ∈ before ++ between, IsFileName name) (htail : ∀ name ∈ tail, name ≠ "")
    (hne : before ++ between ++ tail ≠ []) :
    parseArguments
        ("summarize" :: (before ++ optionArguments option ++ between ++ "--" :: tail)) =
      .ok ⟨before ++ between ++ tail, (option.map Prod.snd).getD .text⟩ := by
  obtain ⟨t, ht, hrun⟩ := Scan.exists_settles option hnames
  calc parseArguments
        ("summarize" :: (before ++ optionArguments option ++ between ++ "--" :: tail))
      = t.run ("--" :: tail) := hrun ("--" :: tail)
    _ = t.finishWithFiles tail := by rw [Scan.run]; rfl
    _ = .ok ⟨before ++ between ++ tail, (option.map Prod.snd).getD .text⟩ :=
        ht.finishWithFiles htail hne

/-- A command line that is accepted asks for the files among its arguments, at least one, in
their order and none without a name. The other way round, files that cannot be taken for
options and at most one format option among them, in whatever spelling and place, ask for these
files in this order and for this format, or for text. A double hyphen before the last of the
files, behind the option, changes nothing, but behind it every name may begin with a hyphen. -/
theorem parseArguments_files :
    (∀ arguments r, parseArguments arguments = .ok r →
      ∃ rest, arguments = "summarize" :: rest ∧
        r.files ≠ [] ∧ r.files.Sublist rest ∧ ∀ file ∈ r.files, file ≠ "") ∧
    (∀ (option : Option (FormatSpelling × Format)) (before after : List String),
      (∀ name ∈ before ++ after, IsFileName name) → before ++ after ≠ [] →
      parseArguments ("summarize" :: (before ++ optionArguments option ++ after)) =
        .ok ⟨before ++ after, (option.map Prod.snd).getD .text⟩) ∧
    (∀ (option : Option (FormatSpelling × Format)) (before between tail : List String),
      (∀ name ∈ before ++ between, IsFileName name) → (∀ name ∈ tail, name ≠ "") →
      before ++ between ++ tail ≠ [] →
      parseArguments
          ("summarize" :: (before ++ optionArguments option ++ between ++ "--" :: tail)) =
        .ok ⟨before ++ between ++ tail, (option.map Prod.snd).getD .text⟩ ∧
      ((∀ name ∈ tail, IsFileName name) →
        parseArguments
            ("summarize" :: (before ++ optionArguments option ++ between ++ "--" :: tail)) =
          parseArguments
            ("summarize" :: (before ++ optionArguments option ++ (between ++ tail))))) := by
  refine ⟨?_, ?_, ?_⟩
  · intro arguments r h
    obtain ⟨rest, harguments, hnames⟩ := names_of_parseArguments h
    exact ⟨rest, harguments, hnames.nonempty, hnames.sublist,
      fun file hfile => ne_of_mem_of_not_mem hfile hnames.named⟩
  · intro option before after hnames hne
    exact parseArguments_fileNames option hnames hne
  · intro option before between tail hnames htail hne
    have hseparated := parseArguments_separator option hnames htail hne
    refine ⟨hseparated, ?_⟩
    intro hplain
    rw [hseparated]
    rw [List.append_assoc] at hne ⊢
    refine (parseArguments_fileNames option ?_ hne).symm
    rw [← List.append_assoc]
    exact List.forall_mem_append.mpr ⟨hnames, hplain⟩

/-- The value of an option that stands alone is no file, and a double hyphen is one behind
another. -/
example :
    parseArguments ["summarize", "a.xml", "-f", "json", "-", "--", "--", "-f"] =
      .ok ⟨["a.xml", "-", "--", "-f"], .json⟩ := by decide

end TestRollup.Command
