import GraphqlClient.Text.Utf8

/-!
# Files

Files are found by path, and opening one can fail.
-/

namespace GraphqlClient

/-- Why a file cannot be opened. -/
inductive FileFault where
  | notFound
  /-- The path goes on after a file. -/
  | notADirectory
  deriving Repr, DecidableEq, Inhabited

def FileFault.message : FileFault → String
  | .notFound => "No such file or directory (os error 2)"
  | .notADirectory => "Not a directory (os error 20)"

/-- What opening each path gives: the content, or nothing if there is no content to read, as in a
folder. -/
abbrev Disk := String → Except FileFault (Option Bytes)

end GraphqlClient
