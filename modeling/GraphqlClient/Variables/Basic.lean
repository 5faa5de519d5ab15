import GraphqlClient.Json.Basic

/-!
# Variables

The values that a request gives to the variables of its operation.  Beside JSON they may hold files
to upload.  What is plain JSON can be given as one value, or spelled out as lists and objects of
variables.
-/

namespace GraphqlClient

/-! ### Uploads -/

/-- A file that is sent along with a request. -/
structure Upload where
  path : String
  contentType? : Option String
  deriving Repr, BEq, DecidableEq, Inhabited

/-- What stands between the slashes of a path. -/
def pathComponents : List Char → List (List Char)
  | [] => [[]]
  | '/' :: rest => [] :: pathComponents rest
  | c :: rest =>
    match pathComponents rest with
    | [] => [[c]]
    | first :: more => (c :: first) :: more

/-- The last component of the path of the file: empty if the path ends in `..` or has no component
beside `.` and the root. -/
def Upload.fileName (u : Upload) : String :=
  match (pathComponents u.path.toList).reverse.dropWhile
      (fun part => part = [] || part = ['.']) with
  | [] | ['.', '.'] :: _ => ""
  | name :: _ => String.ofList name

/-! ### Variables -/

/-- The value of a variable, or a part of one. -/
inductive Variable where
  | value (json : Json)
  | list (items : List Variable)
  | object (fields : List (String × Variable))
  | upload (file : Upload)

/-- The variables of a request by name, in order. -/
abbrev Variables := Entries Variable

namespace Variable

instance : Inhabited Variable := ⟨.value .null⟩

def null : Variable := .value .null

def isNull : Variable → Bool
  | .value .null => true
  | _ => false

mutual

/-- The variable as JSON.  An upload is null there, since its file goes elsewhere. -/
def toJson : Variable → Json
  | .value json => json
  | .list items => .array (itemsToJson items)
  | .object fields => .object (fieldsToJson fields)
  | .upload _ => .null

def itemsToJson : List Variable → List Json
  | [] => []
  | item :: items => item.toJson :: itemsToJson items

def fieldsToJson : List (String × Variable) → List (String × Json)
  | [] => []
  | (key, field) :: fields => (key, field.toJson) :: fieldsToJson fields

end

end Variable

/-- The variables as a JSON object. -/
def Variables.toJson (vs : Variables) : Json := .object (Variable.fieldsToJson vs)

end GraphqlClient
