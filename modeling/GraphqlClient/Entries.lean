/-!
# Entries by key

Collections whose order is that in which their keys first came.
-/

namespace GraphqlClient

/-- Values under keys, in order. -/
abbrev Entries (α : Type) := List (String × α)

namespace Entries

variable {α : Type}

/-- Puts a value under a key.  A key that is present keeps its place and changes its value; another
goes to the end. -/
def insert (entries : Entries α) (key : String) (value : α) : Entries α :=
  match entries with
  | [] => [(key, value)]
  | (k, v) :: rest => if k = key then (k, value) :: rest else (k, v) :: insert rest key value

/-- The entries with every key at its first place and with its last value. -/
def merge (entries : Entries α) : Entries α :=
  entries.foldl (fun merged (key, value) => insert merged key value) []

end Entries

end GraphqlClient
