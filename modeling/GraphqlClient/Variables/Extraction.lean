import GraphqlClient.Variables.Path

/-!
# Taking uploads out of variables

Files are sent apart from the variables they belong to.  Each upload is taken out, null stays in its
place, and a map says where the file of each form field belongs.

The parts that are still to be looked at form a stack.  The parts of a part go on top of it in
order, so that the last is looked at first: of a list of two files, the second gets the first form
field.  Receivers may rely on that numbering.
-/

namespace GraphqlClient

/-- A file that was taken out of variables. -/
structure FilePart where
  /-- The form field that carries the file: `1` for the first. -/
  formIndex : String
  /-- Where the file belongs.  The first segment is `variables`. -/
  path : Path
  file : Upload
  deriving Repr, BEq, DecidableEq, Inhabited

/-- The path as one text. -/
def Path.dotted (path : Path) : String := ".".intercalate path

/-- Form fields with the paths at which their files are used. -/
abbrev FileMap := Entries (List String)

def FileMap.toJson (map : FileMap) : Json :=
  .object (map.map fun (formIndex, paths) => (formIndex, .array (paths.map .string)))

/-- The variables without uploads, and the files that were taken out of them. -/
structure Extraction where
  remainder : Variables
  files : List FilePart
  map : FileMap

namespace Extraction

/-- A part of the variables that is still to be looked at, with the path to it. -/
abbrev Pending := Path × Variable

/-! ### Termination

A part counts as many as there are parts in it, itself included.  The stack then counts less with
every part that is looked at. -/

mutual

def size : Variable → Nat
  | .list items => sizeOfItems items + 1
  | .object fields => sizeOfFields fields + 1
  | _ => 1

def sizeOfItems : List Variable → Nat
  | [] => 0
  | item :: items => size item + sizeOfItems items

def sizeOfFields : List (String × Variable) → Nat
  | [] => 0
  | (_, field) :: fields => size field + sizeOfFields fields

end

def sizeOfPending : List Pending → Nat
  | [] => 0
  | (_, part) :: pending => size part + sizeOfPending pending

/-! ### The walk -/

/-- Puts the items of a list on the stack, the first at the bottom. -/
def pushItems (path : Path) (index : Nat) (items : List Variable) (stack : List Pending) :
    List Pending :=
  match items with
  | [] => stack
  | item :: items =>
    pushItems path (index + 1) items ((path ++ [toString index], item) :: stack)

/-- Puts fields on the stack, the first at the bottom. -/
def pushFields (path : Path) (fields : List (String × Variable)) (stack : List Pending) :
    List Pending :=
  match fields with
  | [] => stack
  | (key, field) :: fields => pushFields path fields ((path ++ [key], field) :: stack)

/-- Items that become pending add their size. -/
theorem sizeOfPending_pushItems (path : Path) (index : Nat) (items : List Variable)
    (stack : List Pending) :
    sizeOfPending (pushItems path index items stack) = sizeOfItems items + sizeOfPending stack := by
  induction items generalizing index stack with
  | nil => simp [pushItems, sizeOfItems]
  | cons item items ih => simp only [pushItems, ih, sizeOfItems, sizeOfPending]; omega

/-- Fields that become pending add their size. -/
theorem sizeOfPending_pushFields (path : Path) (fields : List (String × Variable))
    (stack : List Pending) :
    sizeOfPending (pushFields path fields stack) = sizeOfFields fields + sizeOfPending stack := by
  induction fields generalizing stack with
  | nil => simp [pushFields, sizeOfFields]
  | cons field fields ih =>
    obtain ⟨key, field⟩ := field
    simp only [pushFields, ih, sizeOfFields, sizeOfPending]; omega

/-- Takes the upload at `path` out, where the first segment of the path is `variables`. -/
def take (e : Extraction) (path : Path) (file : Upload) : Extraction :=
  let formIndex := toString (e.files.length + 1)
  { remainder := e.remainder.write path.tail .null
    files := e.files ++ [{ formIndex := formIndex, path := path, file := file }]
    map := e.map.insert formIndex [path.dotted] }

/-- Looks at all parts on the stack, and at their parts. -/
def walk (stack : List Pending) (e : Extraction) : Extraction :=
  match stack with
  | [] => e
  | (path, .object fields) :: stack => walk (pushFields path fields stack) e
  | (path, .list items) :: stack => walk (pushItems path 0 items stack) e
  | (path, .upload file) :: stack => walk stack (e.take path file)
  | (_, .value _) :: stack => walk stack e
termination_by sizeOfPending stack
decreasing_by
  all_goals
    simp only [sizeOfPending, size, sizeOfPending_pushFields, sizeOfPending_pushItems]; omega

end Extraction

/-- What is left of the variables, and what was taken, when the walk over all of them has ended. -/
def Variables.extraction (vs : Variables) : Extraction :=
  Extraction.walk (Extraction.pushFields ["variables"] vs [])
    { remainder := vs, files := [], map := [] }

/-- Takes every upload out of the variables, if there is one. -/
def Variables.extractFiles? (vs : Variables) : Option Extraction :=
  if vs.extraction.files.isEmpty then none else some vs.extraction

end GraphqlClient
