/- Paths. A path is made absolute by putting the current folder in front of it,
   unless it starts with a slash; single dots and repeated slashes go away on the
   way, while double dots stay, since what they lead to depends on the files. A
   path that begins with exactly two slashes keeps them, and a slash at the end
   stays, because it says that the path is that of a directory. -/
namespace TestRollup.Files

/-- One step of a path. -/
abbrev Part := List Char

/-- The step says where to go: it is neither empty nor the single dot. -/
def isStep (part : Part) : Bool := !part.isEmpty && part != ['.']

/-- The steps of a path. -/
def steps (path : List Char) : List Part := (path.splitOn '/').filter isStep

/-- A folder by the names on the way from the root to it. -/
structure Folder where
  names : List Part
  names_are_steps : ∀ name ∈ names, isStep name = true ∧ '/' ∉ name := by simp

/-- A path from the root in its normal form. -/
structure Absolute where
  /-- The path begins with two slashes. -/
  doubled : Bool
  parts : List Part
  /-- The path ends with a slash behind its last step. -/
  trailing : Bool

namespace Absolute

/-- The path as it is written. -/
def path (a : Absolute) : List Char :=
  (if a.doubled then ['/', '/'] else ['/']) ++ List.intercalate ['/'] a.parts ++
    (if a.trailing && !a.parts.isEmpty then ['/'] else [])

/-- The absolute form of a path, seen from a folder. -/
def ofPath (folder : Folder) (path : List Char) : Absolute where
  doubled := ['/', '/'].isPrefixOf path && !(['/', '/', '/'].isPrefixOf path)
  parts := if ['/'].isPrefixOf path then steps path else folder.names ++ steps path
  trailing := ['/'].isSuffixOf path

end Absolute

/-- Makes a path absolute. The empty path has no absolute form and stays. -/
def absolute (folder : Folder) (path : String) : String :=
  if path.toList.isEmpty then path
  else String.ofList (Absolute.ofPath folder path.toList).path

/-- Every step that is left says where to go. -/
theorem isStep_of_mem_steps {path : List Char} {part : Part} (h : part ∈ steps path) :
    isStep part = true :=
  (List.mem_filter.1 h).2

theorem not_mem_of_mem_splitOn {part path : List Char} (h : part ∈ path.splitOn '/') :
    '/' ∉ part := by
  rw [List.splitOn_eq_splitOnP] at h
  induction path generalizing part with
  | nil =>
    simp [List.splitOnP_nil] at h
    simp [h]
  | cons c cs ih =>
    rw [List.splitOnP_cons_eq_if_modifyHead] at h
    split at h
    · rcases List.mem_cons.1 h with rfl | h
      · simp
      · exact ih h
    · next hc =>
      obtain ⟨first, others, e⟩ := List.exists_cons_of_ne_nil (List.splitOnP_ne_nil (· == '/') cs)
      rw [e, List.modifyHead_cons] at h
      rcases List.mem_cons.1 h with rfl | h
      · have := ih (e ▸ List.mem_cons_self)
        simp only [List.mem_cons, not_or]
        exact ⟨fun e => hc (by simp [← e]), this⟩
      · exact ih (e ▸ List.mem_cons_of_mem _ h)

/-- No step of a path holds a slash. -/
theorem not_mem_of_mem_steps {path : List Char} {part : Part} (h : part ∈ steps path) :
    '/' ∉ part :=
  not_mem_of_mem_splitOn (List.mem_filter.1 h).1

/-- The folder that a path from the root leads to. -/
def Folder.ofPath (path : String) : Folder where
  names := steps path.toList
  names_are_steps _ h := ⟨isStep_of_mem_steps h, not_mem_of_mem_steps h⟩

end TestRollup.Files
