import GraphqlClient.Text.Utf8

/-!
# Header fields

A message has header fields in order, and several of them may share a name.  Names are in lower
case; values are bytes.
-/

namespace GraphqlClient

/-- One header field. -/
structure HeaderField where
  name : String
  value : Bytes
  deriving Repr, BEq, DecidableEq, Inhabited

/-- The header fields of a message. -/
abbrev Headers := List HeaderField

/-! ### Names and values -/

/-- The characters of header names. -/
def isNameCharacter (c : Char) : Bool :=
  c.isAlphanum || "!#$%&'*+-.^_`|~".toList.contains c

/-- The header name that a text writes, in lower case. -/
def headerName? (text : String) : Option String :=
  if !text.isEmpty && text.length < UInt16.size && text.toList.all isNameCharacter then
    some (String.ofList (text.toList.map Char.toLower))
  else none

/-- The bytes of header values: no control character but the tab. -/
def isValueByte (b : UInt8) : Bool := (0x20 ≤ b && b ≠ 0x7F) || b = octet '\t'

/-- The header value that a text writes. -/
def headerValue? (text : String) : Option Bytes :=
  let bytes := bytesOf text
  if bytes.all isValueByte then some bytes else none

/-- The bytes that show as a character of their own. -/
def isPrintable (b : UInt8) : Bool := (0x20 ≤ b && b < 0x7F) || b = octet '\t'

namespace Headers

/-! ### Looking up -/

/-- The values of all fields with a name, in order. -/
def values (headers : Headers) (name : String) : List Bytes :=
  (headers.filter (·.name = name)).map (·.value)

def has (headers : Headers) (name : String) : Bool := headers.any (·.name = name)

/-- The value of the first field with a name. -/
def first? (headers : Headers) (name : String) : Option Bytes :=
  (headers.find? (·.name = name)).map (·.value)

/-- The names in the order in which they first come, with all values of each. -/
def grouped (headers : Headers) : List (String × List Bytes) :=
  (headers.map (·.name)).eraseDups.map fun name => (name, headers.values name)

/-! ### Changing -/

/-- Leaves out all fields with a name. -/
def remove (headers : Headers) (name : String) : Headers := headers.filter (·.name ≠ name)

/-- Adds a field after those with its name, if there are any. -/
def append (headers : Headers) (name : String) (value : Bytes) : Headers :=
  let after := headers.reverse.takeWhile (·.name ≠ name)
  let field : HeaderField := { name := name, value := value }
  if headers.has name then headers.take (headers.length - after.length) ++ field :: after.reverse
  else headers ++ [field]

/-- Puts one field in place of all those with its name. -/
def insert (headers : Headers) (name : String) (value : Bytes) : Headers :=
  let field : HeaderField := { name := name, value := value }
  let before := headers.takeWhile (·.name ≠ name)
  before ++ field :: (headers.drop before.length).filter (·.name ≠ name)

/-! ### Merging -/

/-- The fields with one name as they are taken out: only the first of them says the name. -/
def drainedGroup (name : String) : List Bytes → List (Option String × Bytes)
  | [] => []
  | value :: more => (some name, value) :: more.map (none, ·)

/-- The fields as they are taken out, where those with a name come together. -/
def drained (headers : Headers) : List (Option String × Bytes) :=
  headers.grouped.flatMap fun (name, values) => drainedGroup name values

/-- What has been merged so far, and the name that was said last. -/
structure Merging where
  merged : Headers
  name? : Option String

/-- Takes one value over.  A name that is said takes the place of all fields with it. -/
def Merging.take (m : Merging) (item : Option String × Bytes) : Merging :=
  let cleared : Merging := match item.1 with
    | some name => { merged := m.merged.remove name, name? := some name }
    | none => m
  match cleared.name? with
  | some name => { cleared with merged := cleared.merged.append name item.2 }
  | none => cleared

/-- The fields of two messages.  Where both have fields with a name, those of the second count. -/
def merge (headers overrides : Headers) : Headers :=
  (overrides.drained.foldl Merging.take ⟨headers, none⟩).merged

end Headers

end GraphqlClient
