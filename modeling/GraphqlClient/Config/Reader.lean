import GraphqlClient.Config.Basic
import GraphqlClient.Json.Reader

/-!
# Reading configurations

A configuration is a JSON object with the members `timeout`, `connect_timeout` and `headers`, or an
array of their values in this order.  What is missing has its default.
-/

namespace GraphqlClient.Config

open Json

/-! ### Durations -/

def readDuration (v : Located) : Except Fault Duration := do
  let text ← v.readText "a duration"
  match Duration.parse? text with
  | some duration => return duration
  | none => .error ((ShapeError.invalidValue (.string text) "a duration").before (← v.rest))

/-! ### Header fields -/

/-- The values of a header: one, or a list that is added to what came before. -/
inductive HeaderValues where
  | one (text : String)
  | more (texts : List String)

def expectedValue : String := "byte strings"

/-- The fault of a value that is no text.  Arrays and objects are entered before they are found to
be of the wrong kind. -/
def notText : Located → Fault
  | .array start _ =>
    (ShapeError.invalidType .array expectedValue).before (closeArray (start.drop 1))
  | .object start _ =>
    (ShapeError.invalidType .object expectedValue).before (closeObject (start.drop 1))
  | v => v.mismatch expectedValue

def readValue : Located → Except Fault String
  | .string start _ => (readString start).map (·.1)
  | v => .error (notText v)

def readValues : Located → Except Fault HeaderValues
  | .array _ items => return .more (← items.readAll readValue)
  | v => return .one (← readValue v)

/-- The header fields with further values for a name.  One value takes the place of all those that
the name has, and a list goes after them. -/
def addHeader (headers : Headers) (name : String) (values : HeaderValues) :
    Except ShapeError Headers :=
  match headerName? name with
  | none => .error (.invalidValue (.string name) "multi-valued HeaderMap")
  | some name =>
    let value (text : String) : Except ShapeError Bytes :=
      match headerValue? text with
      | some value => .ok value
      | none => .error .notAHeaderValue
    match values with
    | .one text => return headers.insert name (← value text)
    | .more texts =>
      texts.foldlM (fun headers text => do return headers.append name (← value text)) headers

/-- Adds members to header fields.  A name is looked at after its values have been read. -/
def gatherHeaders (headers : Headers) : Members → Except Fault Headers
  | .done _ => .ok headers
  | .member key _ v more => do
    let (name, _) ← readString key
    match addHeader headers name (← readValues v) with
    | .error error => .error (error.before (closeObject (← v.rest)))
    | .ok headers => gatherHeaders headers more
  | .broken fault => .error fault.wanted

def readHeaders : Located → Except Fault Headers
  | .object _ members => gatherHeaders [] members
  | v => .error (v.mismatch "multi-valued HeaderMap")

/-! ### Configurations -/

/-- What has been gathered of a configuration. -/
structure Fields where
  timeout? : Option Duration
  connectTimeout? : Option Duration
  headers? : Option Headers

def Fields.empty : Fields := { timeout? := none, connectTimeout? := none, headers? := none }

def Fields.config (fields : Fields) : Config where
  timeout := fields.timeout?.getD default.timeout
  connectTimeout := fields.connectTimeout?.getD default.connectTimeout
  headers := fields.headers?.getD default.headers

def field : FieldReader Fields := fun fields key =>
  if key = "timeout" then
    once key fields.timeout? readDuration fun x => { fields with timeout? := some x }
  else if key = "connect_timeout" then
    once key fields.connectTimeout? readDuration fun x => { fields with connectTimeout? := some x }
  else if key = "headers" then
    once key fields.headers? readHeaders fun x => { fields with headers? := some x }
  else .error (.unknownField key memberNames)

def read : Located → Except Fault Config
  | .object _ members => return (← members.gather field .empty).config
  | .array start items => do
    let cursor : Cursor := { items := items, rest := start.drop 1 }
    let (timeout?, cursor) ← cursor.next? readDuration
    let (connectTimeout?, cursor) ← cursor.next? readDuration
    let (headers?, cursor) ← cursor.next? readHeaders
    cursor.finish
    return ({ timeout? := timeout?, connectTimeout? := connectTimeout?, headers? := headers? } :
      Fields).config
  | v => .error (v.mismatch "struct TransportConfig")

/-- The configuration that a text writes. -/
def parse (text : Bytes) : Except Fault Config := readAs read text

end GraphqlClient.Config
