import GraphqlClient.Entries
import GraphqlClient.Files.Basic

/-!
# File trees

Folders and files below one folder.  Paths are relative to it, and nothing is found outside.
-/

namespace GraphqlClient

inductive FileTree where
  | file (content : Bytes)
  | folder (entries : List (String × FileTree))

namespace FileTree

instance : Inhabited FileTree := ⟨.folder []⟩

def empty : FileTree := .folder []

/-- The entries of a folder.  A file has none. -/
def entries : FileTree → Entries FileTree
  | .file _ => []
  | .folder entries => entries

def content? : FileTree → Option Bytes
  | .file content => some content
  | .folder _ => none

/-! ### Finding -/

/-- Follows steps through folders.  `above` holds the folders on the way, the nearest first.  An
empty step and a single dot stay where they are, but only a folder can be stepped into. -/
def find (above : List FileTree) (here : FileTree) : List String → Except FileFault FileTree
  | [] => .ok here
  | step :: rest =>
    match here with
    | .file _ => .error .notADirectory
    | .folder entries =>
      if step = "" || step = "." then find above here rest
      else if step = ".." then
        match above with
        | [] => .error .notFound
        | nearest :: above => find above nearest rest
      else
        match entries.lookup step with
        | none => .error .notFound
        | some next => find (here :: above) next rest

/-- The tree as a place to open files in. -/
def disk (tree : FileTree) : Disk := fun path =>
  match path.splitOn "/" with
  -- No path is empty, and a path that starts with a slash leads outside.
  | "" :: _ => .error .notFound
  | steps => (tree.find [] steps).map content?

/-! ### Changing -/

/-- The names along a path. -/
def names (path : String) : List String :=
  (path.splitOn "/").filter fun step => step ≠ "" && step ≠ "."

/-- The entries with a file at some names.  Folders on the way are made. -/
def putEntries (content : Bytes) : List String → Entries FileTree → Entries FileTree
  | [], entries => entries
  | [name], entries => entries.insert name (.file content)
  | name :: rest, entries =>
    let inner := ((entries.lookup name).map FileTree.entries).getD []
    entries.insert name (.folder (putEntries content rest inner))

/-- The entries without what is at some names. -/
def dropEntries : List String → Entries FileTree → Entries FileTree
  | [], entries => entries
  | [name], entries => entries.filter (·.1 ≠ name)
  | name :: rest, entries =>
    match entries.lookup name with
    | some (.folder inner) => entries.insert name (.folder (dropEntries rest inner))
    | _ => entries

def write (tree : FileTree) (path : String) (content : Bytes) : FileTree :=
  .folder (putEntries content (names path) tree.entries)

def remove (tree : FileTree) (path : String) : FileTree :=
  .folder (dropEntries (names path) tree.entries)

end FileTree

end GraphqlClient
