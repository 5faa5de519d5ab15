import GraphqlClient.Json.Located

/-!
# Reading values of a known shape from a text

A text of a known shape is read from the front to the back, and the first fault ends the reading,
be it that the text is not JSON there or that the value has another shape.

Whether a member of an object or an item of an array may stand where it does can only be told once
its key or value has been read.  A fault of this kind is placed after the end of the array or
object, if that end comes right there.
-/

namespace GraphqlClient.Json

/-! ### Places of faults -/

/-- A fault of shape that lies before `rest`. -/
def ShapeError.before (error : ShapeError) (rest : Bytes) : Fault :=
  { problem := .shape error, rest := rest }

/-- What follows the closing bracket, if one comes next, or the comma that comes next. -/
def closeArray (text : Bytes) : Bytes :=
  match skipBlanks text with
  | [] => []
  | b :: rest =>
    if b = octet ']' then rest
    else if b = octet ',' then skipBlanks rest
    else b :: rest

/-- What follows the closing brace, if one comes next. -/
def closeObject (text : Bytes) : Bytes :=
  match skipBlanks text with
  | [] => []
  | b :: rest => if b = octet '\x7d' then rest else b :: rest

/-- An array has to end here. -/
def endArray (text : Bytes) : Except Fault Unit :=
  match skipBlanks text with
  | [] => .error (SyntaxError.endOfArray.before [])
  | b :: rest =>
    if b = octet ']' then .ok ()
    else if b = octet ',' then
      match skipBlanks rest with
      | [] => .error (SyntaxError.trailingCharacters.before [])
      | c :: rest =>
        if c = octet ']' then .error (SyntaxError.trailingComma.before rest)
        else .error (SyntaxError.trailingCharacters.before rest)
    else .error (SyntaxError.trailingCharacters.before rest)

namespace Located

/-- What follows a value that is wanted. -/
def rest (v : Located) : Except Fault Bytes :=
  match v.after with
  | .ok rest => .ok rest
  | .error fault => .error fault.wanted

/-- The fault of a value that stands where something else is expected.  A word, number or string is
read to its end before it is found to be of the wrong kind; an array or object is not entered. -/
def mismatch (expected : String) : Located → Fault
  | .null after => (ShapeError.invalidType .null expected).before after
  | .boolean b after => (ShapeError.invalidType (.boolean b) expected).before after
  | .number start after =>
    match readNumber start with
    | .ok (.integer n _, _) => (ShapeError.invalidType (.integer n) expected).before after
    | .ok (.real x, _) => (ShapeError.invalidType (.real x) expected).before after
    | .error fault => fault
  | .string start after =>
    match readString start with
    | .ok (text, _) => (ShapeError.invalidType (.string text) expected).before after
    | .error fault => fault
  | .array start _ => (ShapeError.invalidType .array expected).before start
  | .object start _ => (ShapeError.invalidType .object expected).before start
  | .broken fault => fault.wanted

/-! ### Scalars -/

def readText (expected : String) : Located → Except Fault String
  | .string start _ => (readString start).map (·.1)
  | v => .error (v.mismatch expected)

/-- An integer of 32 bits. -/
def readWord32 : Located → Except Fault UInt32
  | .number start after => do
    match (← readNumber start).1 with
    | .integer n _ =>
      if 0 ≤ n && n < UInt32.size then return n.toNat.toUInt32
      else .error ((ShapeError.invalidValue (.integer n) "u32").before after)
    | .real x => .error ((ShapeError.invalidType (.real x) "u32").before after)
  | v => .error (v.mismatch "u32")

/-- Null, or a value that `read` takes. -/
def readNullable {α : Type} (read : Located → Except Fault α) : Located → Except Fault (Option α)
  | .null _ => .ok none
  | v => return some (← read v)

/-- An object with any members. -/
def readEntries (depth : Nat) (v : Located) : Except Fault (Entries Json) :=
  match v with
  | .object .. => do
    match ← v.value depth with
    | .object entries => return entries
    | _ => return []
  | v => .error (v.mismatch "a map")

end Located

/-! ### Arrays -/

/-- The items, each read by `read`. -/
def Items.readAll {α : Type} (read : Located → Except Fault α) : Items → Except Fault (List α)
  | .done _ => .ok []
  | .item v more => do
    let x ← read v
    return x :: (← more.readAll read)
  | .broken fault => .error fault.wanted

/-- The items, each read by `read` and then judged by `check`. -/
def Items.readChecked {α β : Type} (read : Located → Except Fault α)
    (check : α → Except ShapeError β) : Items → Except Fault (List β)
  | .done _ => .ok []
  | .item v more => do
    match check (← read v) with
    | .error error => .error (error.before (closeArray (← v.rest)))
    | .ok x => return x :: (← more.readChecked read check)
  | .broken fault => .error fault.wanted

/-- The items of an array that are still to be taken.  `rest` follows those that were. -/
structure Cursor where
  items : Items
  rest : Bytes

namespace Cursor

/-- Takes the next item, if there is one. -/
def next? {α : Type} (c : Cursor) (read : Located → Except Fault α) :
    Except Fault (Option α × Cursor) :=
  match c.items with
  | .done _ => .ok (none, c)
  | .item v more => do
    let x ← read v
    return (some x, { items := more, rest := ← v.rest })
  | .broken fault => .error fault.wanted

/-- Takes the next item, and fails if there is none. -/
def next {α : Type} (c : Cursor) (read : Located → Except Fault α) (missing : ShapeError) :
    Except Fault (α × Cursor) := do
  match ← c.next? read with
  | (some x, c) => return (x, c)
  | (none, c) => .error (missing.before (closeArray c.rest))

/-- There may be no further item. -/
def finish (c : Cursor) : Except Fault Unit := endArray c.rest

end Cursor

/-! ### Objects -/

/-- How the value under a key is read, given what has been gathered so far; or why the key may not
stand here. -/
abbrev FieldReader (σ : Type) := σ → String → Except ShapeError (Located → Except Fault σ)

/-- Gathers the members one after the other. -/
def Members.gather {σ : Type} (field : FieldReader σ) (gathered : σ) : Members → Except Fault σ
  | .done _ => .ok gathered
  | .member key afterKey v more => do
    match field gathered (← readString key).1 with
    | .error error => .error (error.before (closeObject afterKey))
    | .ok read => do
      let gathered ← read v
      more.gather field gathered
  | .broken fault => .error fault.wanted

/-- What follows members that were gathered. -/
def Members.rest (members : Members) : Except Fault Bytes :=
  match members.after with
  | .ok rest => .ok rest
  | .error fault => .error fault.wanted

/-- A field that may come once.  `old?` is what came under its key before. -/
def once {α σ : Type} (name : String) (old? : Option α) (read : Located → Except Fault α)
    (set : α → σ) : Except ShapeError (Located → Except Fault σ) :=
  match old? with
  | some _ => .error (.duplicateField name)
  | none => .ok fun v => return set (← read v)

/-- A whole text whose value `read` takes. -/
def readAs {α : Type} (read : Located → Except Fault α) (text : Bytes) : Except Fault α := do
  let located := Located.ofBytes text
  let x ← read located
  located.finish
  return x

end GraphqlClient.Json
