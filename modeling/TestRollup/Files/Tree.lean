import TestRollup.Files.Failure
import TestRollup.Files.Path

/- File trees. A tree holds folders and files, each by the names on the way to it.
   Opening a path goes from the root step by step: every step but the last must be
   a folder, `..` goes back to the folder above (or stays at the root), and a name
   must be there. A path that ends with a slash must lead to a folder. Only a file
   can be read. -/
namespace TestRollup.Files

/-- What a path can lead to. -/
inductive Node where
  | folder
  | file (bytes : ByteArray)

/-- Folders and files by the names on the way to them, the latest first. The root
    is a folder. -/
structure Tree where
  nodes : List (List Part × Node) := []

namespace Tree

/-- The longest name of a folder or file, in bytes. -/
def longestName : Nat := 255

/-- The longest path, in bytes. -/
def longestPath : Nat := 4095

/-- The number of bytes of a text. -/
def byteLength (cs : List Char) : Nat := cs.foldl (fun n c => n + c.utf8Size) 0

def node? (t : Tree) (names : List Part) : Option Node :=
  if names.isEmpty then some .folder else t.nodes.lookup names

def put (t : Tree) (names : List Part) (node : Node) : Tree :=
  ⟨(names, node) :: t.nodes⟩

/-- Makes a folder and those above it, behind the names of the one to begin in. -/
def makeFolder (t : Tree) (above : List Part) : List Part → Tree
  | [] => t
  | name :: names =>
    let here := above ++ [name]
    let t := match t.node? here with
      | some .folder => t
      | _ => t.put here .folder
    t.makeFolder here names

/-- Writes a file and makes the folders above it. -/
def writeFile (t : Tree) (names : List Part) (bytes : ByteArray) : Tree :=
  (t.makeFolder [] names.dropLast).put names (.file bytes)

/-- Goes one step on from a place, which is given by its names. -/
def enter (t : Tree) (place : List Part) (part : Part) : Except Failure (List Part) :=
  match t.node? place with
  | none => .error .notFound
  | some (.file _) => .error .notDirectory
  | some .folder =>
    if part = ['.'] then .ok place
    else if part = ['.', '.'] then .ok place.dropLast
    else if longestName < byteLength part then .error .nameTooLong
    else
      match t.node? (place ++ [part]) with
      | none => .error .notFound
      | some _ => .ok (place ++ [part])

/-- Goes several steps on from a place. -/
def follow (t : Tree) (place : List Part) : List Part → Except Failure (List Part)
  | [] => .ok place
  | part :: parts =>
    match t.enter place part with
    | .error f => .error f
    | .ok place => t.follow place parts

/-- The bytes of the file that a path from the root leads to. -/
def read (t : Tree) (path : String) : Except Failure ByteArray :=
  let cs := path.toList
  if cs.contains '\x00' then .error .nulInPath
  else if longestPath < byteLength cs then .error .nameTooLong
  else if cs.isEmpty then .error .notFound
  else
    match t.follow [] ((cs.splitOn '/').filter (!·.isEmpty)) with
    | .error f => .error f
    | .ok place =>
      match t.node? place with
      | none => .error .notFound
      | some .folder => .error .isDirectory
      | some (.file bytes) => if ['/'].isSuffixOf cs then .error .notDirectory else .ok bytes

end Tree

end TestRollup.Files
