import GraphqlClient.Json.Reader
import GraphqlClient.Response.Decode

/-!
# Responses from texts

A response that is read straight from a text, without reading it as a value first.  What is not
wanted is passed over, no key of the format may be repeated, and the parts of a response may stand
in an array in place of an object.
-/

namespace GraphqlClient

open Json

/-! ### Locations -/

namespace Location

/-- How the values of a location are read. -/
def field : FieldReader Fields := fun fields key =>
  if key = "line" then
    once key fields.line? Located.readWord32 fun n => { fields with line? := some n }
  else if key = "column" then
    once key fields.column? Located.readWord32 fun n => { fields with column? := some n }
  else .ok fun v => do
    v.skip
    return fields

def read : Located → Except Fault Location
  | .object _ members => do
    let fields ← members.gather field { line? := none, column? := none }
    match fields.location with
    | .ok location => return location
    | .error error => .error (error.before (← members.rest))
  | .array start items => do
    let cursor : Cursor := { items := items, rest := start.drop 1 }
    let (line, cursor) ← cursor.next Located.readWord32 (.invalidLength 0 expectedItems)
    let (column, cursor) ← cursor.next Located.readWord32 (.invalidLength 1 expectedItems)
    cursor.finish
    return { line := line, column := column }
  | v => .error (v.mismatch "struct Location")

end Location

/-- Null or an array, whose items `read` takes. -/
def readList {α : Type} (read : Located → Except Fault α) :
    Located → Except Fault (Option (List α)) :=
  Located.readNullable fun
    | .array _ items => items.readAll read
    | v => .error (v.mismatch "a sequence")

/-! ### Paths -/

/-- Null or a path.  `depth` levels may be open in an element, which then is none. -/
def PathElement.readPath (depth : Nat) : Located → Except Fault (Option (List PathElement)) :=
  Located.readNullable fun
    | .array _ items => items.readChecked (·.value depth) PathElement.decode
    | v => .error (v.mismatch "a sequence")

/-! ### Errors -/

namespace GraphqlError

/-- What has been gathered of an error. -/
structure Fields where
  message? : Option String
  locations? : Option (Option (List Location))
  path? : Option (Option (List PathElement))
  extensions? : Option (Option (Entries Json))
  /-- The other keys, which may be repeated. -/
  other : Entries Json

/-- How the values of an error are read, in which `depth` levels may be open. -/
def field (depth : Nat) : FieldReader Fields := fun fields key =>
  if key = "message" then
    once key fields.message? (Located.readText "a string") fun x =>
      { fields with message? := some x }
  else if key = "locations" then
    once key fields.locations? (readList Location.read) fun x =>
      { fields with locations? := some x }
  else if key = "path" then
    once key fields.path? (PathElement.readPath (depth - 1)) fun x =>
      { fields with path? := some x }
  else if key = "extensions" then
    once key fields.extensions? (Located.readNullable (Located.readEntries depth)) fun x =>
      { fields with extensions? := some x }
  else .ok fun v => do return { fields with other := fields.other ++ [(key, ← v.value depth)] }

def Fields.error (fields : Fields) : GraphqlError where
  message := fields.message?.getD ""
  locations := (fields.locations?.getD none).getD []
  path? := fields.path?.getD none
  extensions := (fields.extensions?.getD none).getD []
  other := fields.other.merge

/-- An error, inside of which `depth` levels may be open. -/
def read (depth : Nat) : Located → Except Fault GraphqlError
  | .object _ members => do
    return (← members.gather (field depth)
      { message? := none, locations? := none, path? := none, extensions? := none,
        other := [] }).error
  | v => .error (v.mismatch "struct Error")

end GraphqlError

/-! ### Responses -/

namespace Response

/-- What has been gathered of a response. -/
structure Fields where
  data? : Option Json
  errors? : Option (Option (List GraphqlError))
  extensions? : Option (Option (Entries Json))

def Fields.empty : Fields := { data? := none, errors? := none, extensions? := none }

def Fields.response (fields : Fields) : Response where
  data? := fields.data?
  errors := (fields.errors?.getD none).getD []
  extensions := (fields.extensions?.getD none).getD []

/-- How many levels may be open inside of a response. -/
def innerDepth : Nat := Located.nestingLimit - 1

/-- Null or errors.  Each lies one level deeper than the response, and its values two. -/
def readErrors : Located → Except Fault (Option (List GraphqlError)) :=
  readList (GraphqlError.read (innerDepth - 2))

def field : FieldReader Fields := fun fields key =>
  if key = "data" then
    once key fields.data? (·.value innerDepth) fun x => { fields with data? := some x }
  else if key = "errors" then
    once key fields.errors? readErrors fun x => { fields with errors? := some x }
  else if key = "extensions" then
    once key fields.extensions? (Located.readNullable (Located.readEntries innerDepth)) fun x =>
      { fields with extensions? := some x }
  else .ok fun v => do
    v.skip
    return fields

/-- Parts that are missing at the end of an array are as if their keys were absent. -/
def read : Located → Except Fault Response
  | .object _ members => return (← members.gather field .empty).response
  | .array start items => do
    let cursor : Cursor := { items := items, rest := start.drop 1 }
    let (data?, cursor) ← cursor.next? (·.value innerDepth)
    let (errors?, cursor) ← cursor.next? readErrors
    let (extensions?, cursor) ←
      cursor.next? (Located.readNullable (Located.readEntries innerDepth))
    cursor.finish
    return ({ data? := data?, errors? := errors?, extensions? := extensions? } : Fields).response
  | v => .error (v.mismatch "struct Response")

/-- The response that a text writes. -/
def parse (text : Bytes) : Except Fault Response := readAs read text

end Response

end GraphqlClient
