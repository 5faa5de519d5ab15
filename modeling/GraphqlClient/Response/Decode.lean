import GraphqlClient.Json.Located
import GraphqlClient.Response.Basic

/-!
# Responses from JSON values

The response that a body holds.  The body is read as a JSON value first, in which of repeated keys
the last counts, and then the value is taken apart.
-/

namespace GraphqlClient

/-! ### Parts of values -/

namespace Json

/-- What a value is called where it is not wanted.  Integers are called by their nearest binary
number. -/
def found : Json → Found
  | .null => .null
  | .boolean b => .boolean b
  | .number (.integer n _) =>
    match ({ digits := n.natAbs, exponent := 0 } : Decimal).toBinary64? (n < 0) with
    | some x => .real x
    | none => .integer n
  | .number (.real x) => .real x
  | .string text => .string text
  | .array _ => .array
  | .object _ => .object

def mismatch {α : Type} (expected : String) (v : Json) : Except ShapeError α :=
  .error (.invalidType v.found expected)

def decodeText : Json → Except ShapeError String
  | .string text => .ok text
  | v => v.mismatch "a string"

/-- An integer of 32 bits. -/
def decodeWord32 : Json → Except ShapeError UInt32
  | .number (.integer n _) =>
    if 0 ≤ n && n < UInt32.size then .ok n.toNat.toUInt32
    else .error (.invalidValue (.integer n) "u32")
  | v => v.mismatch "u32"

def decodeNullable {α : Type} (decode : Json → Except ShapeError α) :
    Json → Except ShapeError (Option α)
  | .null => .ok none
  | v => return some (← decode v)

def decodeItems {α : Type} (decode : Json → Except ShapeError α) :
    Json → Except ShapeError (List α)
  | .array items => items.mapM decode
  | v => v.mismatch "a sequence"

def decodeEntries : Json → Except ShapeError (Entries Json)
  | .object entries => .ok entries
  | v => v.mismatch "a map"

end Json

open Json

/-! ### Locations -/

namespace Location

/-- What has been gathered of a location. -/
structure Fields where
  line? : Option UInt32
  column? : Option UInt32

def Fields.add (fields : Fields) (entry : String × Json) : Except ShapeError Fields :=
  match entry with
  | ("line", v) => return { fields with line? := some (← decodeWord32 v) }
  | ("column", v) => return { fields with column? := some (← decodeWord32 v) }
  | _ => .ok fields

def Fields.location (fields : Fields) : Except ShapeError Location :=
  match fields.line?, fields.column? with
  | none, _ => .error (.missingField "line")
  | _, none => .error (.missingField "column")
  | some line, some column => .ok { line := line, column := column }

/-- The fields of a location in their order may stand in an array. -/
def expectedItems : String := "struct Location with 2 elements"

def decode : Json → Except ShapeError Location
  | .object entries => do (← entries.foldlM Fields.add { line? := none, column? := none }).location
  | .array [] => .error (.invalidLength 0 expectedItems)
  | .array (line :: items) => do
    let line ← decodeWord32 line
    match items with
    | [] => .error (.invalidLength 1 expectedItems)
    | column :: more =>
      let column ← decodeWord32 column
      if more.isEmpty then return { line := line, column := column }
      else .error (.invalidLength (more.length + 2) "fewer elements in array")
  | v => v.mismatch "struct Location"

end Location

/-! ### Paths -/

/-- A step of a path: an index, or a key.  No other value is one. -/
def PathElement.decode : Json → Except ShapeError PathElement
  | .number (.integer n _) =>
    if 0 ≤ n then .ok (.index n.toNat.toUInt64) else .error (.noVariant "PathElement")
  | .string name => .ok (.key name)
  | _ => .error (.noVariant "PathElement")

/-! ### Errors -/

/-- Adds what stands under a key of an error.  Lists that are null count as empty. -/
def GraphqlError.addEntry (e : GraphqlError) (entry : String × Json) :
    Except ShapeError GraphqlError :=
  match entry with
  | ("message", v) => return { e with message := ← decodeText v }
  | ("locations", v) => do
    return { e with locations := (← decodeNullable (decodeItems Location.decode) v).getD [] }
  | ("path", v) => return { e with path? := ← decodeNullable (decodeItems PathElement.decode) v }
  | ("extensions", v) => do
    return { e with extensions := (← decodeNullable decodeEntries v).getD [] }
  | (key, v) => .ok { e with other := e.other.insert key v }

def GraphqlError.decode : Json → Except ShapeError GraphqlError
  | .object entries => entries.foldlM addEntry (ofMessage "")
  | v => v.mismatch "struct Error"

/-! ### Responses -/

namespace Response

/-- A response without anything. -/
def empty : Response := { data? := none, errors := [], extensions := [] }

/-- Adds what stands under a key of a response.  Keys that are no part of the format are left
out. -/
def addEntry (r : Response) (entry : String × Json) : Except ShapeError Response :=
  match entry with
  | ("data", v) => .ok { r with data? := some v }
  | ("errors", v) => do
    return { r with errors := (← decodeNullable (decodeItems GraphqlError.decode) v).getD [] }
  | ("extensions", v) => do
    return { r with extensions := (← decodeNullable decodeEntries v).getD [] }
  | _ => .ok r

/-- The response with the entries of an object. -/
def ofEntries (entries : Entries Json) : Except ShapeError Response :=
  entries.foldlM addEntry empty

/-- Why a body holds no response. -/
inductive Malformed where
  | notJson (fault : Fault)
  | notAnObject
  | wrongShape (error : ShapeError)

/-- The reason in words.  `body` is what was read. -/
def Malformed.message (body : Bytes) : Malformed → String
  | .notJson fault => fault.message body
  | .notAnObject => "expected a JSON object"
  | .wrongShape error => error.message

/-- The response that a body holds. -/
def ofBytes (body : Bytes) : Except Malformed Response :=
  match Json.parse body with
  | .error fault => .error (.notJson fault)
  | .ok (.object entries) => (ofEntries entries).mapError .wrongShape
  | .ok _ => .error .notAnObject

end Response

end GraphqlClient
