import GraphqlClient.Json.Lexeme

/-!
# JSON values in their text

A text is read into a tree whose nodes keep what of the text follows them, and which ends where the
text stops being JSON.  Whoever goes through the tree from the front meets the faults of the text
in the order in which they stand there, together with the faults that lie in what is wanted of the
values.  A value that is passed over may have faults that its reader would meet: numbers out of
range, halves of surrogate pairs, and any depth of nesting.
-/

namespace GraphqlClient.Json

/-! ### The tree -/

/-- Where a text stops being JSON: the fault that a reader of the value meets, and the one that is
met by who passes over it. -/
structure Break where
  wanted : Fault
  skipped : Fault

/-- The break that everyone meets as the same fault. -/
def Break.same (fault : Fault) : Break := { wanted := fault, skipped := fault }

/-- The break at which a reading fails. -/
def Break.ofReading {α : Type} (reading : Except Fault α) (skipped : Fault) : Break :=
  match reading with
  | .ok _ => .same skipped
  | .error wanted => { wanted := wanted, skipped := skipped }

mutual

/-- A value in its text.  `after` follows it; `start` begins with its first byte, or for a string
with the first byte after the opening quote. -/
inductive Located where
  | null (after : Bytes)
  | boolean (value : Bool) (after : Bytes)
  | number (start after : Bytes)
  | string (start after : Bytes)
  | array (start : Bytes) (items : Items)
  | object (start : Bytes) (members : Members)
  | broken (fault : Break)

/-- The items of an array. -/
inductive Items where
  | done (after : Bytes)
  | item (value : Located) (more : Items)
  | broken (fault : Break)

/-- The members of an object.  `key` begins after the opening quote. -/
inductive Members where
  | done (after : Bytes)
  | member (key afterKey : Bytes) (value : Located) (more : Members)
  | broken (fault : Break)

end

/-- What follows the items and the closing bracket. -/
def Items.after : Items → Except Break Bytes
  | .done after => .ok after
  | .item _ more => more.after
  | .broken fault => .error fault

/-- What follows the members and the closing brace. -/
def Members.after : Members → Except Break Bytes
  | .done after => .ok after
  | .member _ _ _ more => more.after
  | .broken fault => .error fault

namespace Located

/-- What follows the value. -/
def after : Located → Except Break Bytes
  | .null after | .boolean _ after | .number _ after | .string _ after => .ok after
  | .array _ items => items.after
  | .object _ members => members.after
  | .broken fault => .error fault

/-! ### Reading

Loops are bounded by the length of the text at hand, since every item takes at least one byte. -/

/-- The items of an array from one on that starts at the front of a text. -/
def items (read : Bytes → Located) : Nat → Bytes → Items
  | 0, _ => .broken (.same (SyntaxError.endOfArray.before []))
  | n + 1, text =>
    let value := read text
    .item value <| match value.after with
      | .error fault => .broken fault
      | .ok rest =>
        match skipBlanks rest with
        | [] => .broken (.same (SyntaxError.endOfArray.before []))
        | b :: rest =>
          if b = octet ']' then .done rest
          else if b = octet ',' then
            match skipBlanks rest with
            | [] => .broken (.same (SyntaxError.endOfValue.before []))
            | c :: rest =>
              if c = octet ']' then
                .broken
                  { wanted := SyntaxError.trailingComma.before rest
                    skipped := SyntaxError.expectedValue.before rest }
              else items read n (c :: rest)
          else .broken (.same (SyntaxError.expectedArrayEnd.before rest))

/-- The items of an array whose opening bracket comes before `text`. -/
def arrayItems (read : Bytes → Located) (text : Bytes) : Items :=
  match skipBlanks text with
  | [] => .broken (.same (SyntaxError.endOfArray.before []))
  | b :: rest => if b = octet ']' then .done rest else items read text.length (b :: rest)

/-- The value of a member whose key comes before `text`. -/
def memberValue (read : Bytes → Located) (text : Bytes) : Located :=
  match skipBlanks text with
  | [] => .broken (.same (SyntaxError.endOfObject.before []))
  | b :: rest =>
    if b = octet ':' then read rest
    else .broken (.same (SyntaxError.expectedColon.before rest))

/-- The members of an object from one on whose key has its opening quote before `key`. -/
def members (read : Bytes → Located) : Nat → Bytes → Members
  | 0, _ => .broken (.same (SyntaxError.endOfObject.before []))
  | n + 1, key =>
    match skipString key with
    | .error skipped => .broken (.ofReading (readString key) skipped)
    | .ok afterKey =>
      let value := memberValue read afterKey
      .member key afterKey value <| match value.after with
        | .error fault => .broken fault
        | .ok rest =>
          match skipBlanks rest with
          | [] => .broken (.same (SyntaxError.endOfObject.before []))
          | b :: rest =>
            if b = octet '\x7d' then .done rest
            else if b = octet ',' then
              match skipBlanks rest with
              | [] =>
                .broken
                  { wanted := SyntaxError.endOfValue.before []
                    skipped := SyntaxError.endOfObject.before [] }
              | c :: rest =>
                if c = octet '"' then members read n rest
                else if c = octet '\x7d' then
                  .broken
                    { wanted := SyntaxError.trailingComma.before rest
                      skipped := SyntaxError.keyNotString.before rest }
                else .broken (.same (SyntaxError.keyNotString.before rest))
            else .broken (.same (SyntaxError.expectedObjectEnd.before rest))

/-- The members of an object whose opening brace comes before `text`. -/
def objectMembers (read : Bytes → Located) (text : Bytes) : Members :=
  match skipBlanks text with
  | [] => .broken (.same (SyntaxError.endOfObject.before []))
  | b :: rest =>
    if b = octet '\x7d' then .done rest
    else if b = octet '"' then members read text.length rest
    else .broken (.same (SyntaxError.keyNotString.before rest))

/-- A value that is a word, of which the first letter has been taken. -/
def ofWord (letters : List Char) (text : Bytes) (node : Bytes → Located) : Located :=
  match word letters text with
  | .ok after => node after
  | .error fault => .broken (.same fault)

/-- The value at the front of a text, in which values are nested less than `fuel` deep. -/
def valueWithin : Nat → Bytes → Located
  | 0, _ => .broken (.same (SyntaxError.endOfValue.before []))
  | fuel + 1, text =>
    match skipBlanks text with
    | [] => .broken (.same (SyntaxError.endOfValue.before []))
    | b :: rest =>
      if b = octet 'n' then ofWord ['u', 'l', 'l'] rest .null
      else if b = octet 't' then ofWord ['r', 'u', 'e'] rest (.boolean true)
      else if b = octet 'f' then ofWord ['a', 'l', 's', 'e'] rest (.boolean false)
      else if b = octet '"' then
        match skipString rest with
        | .ok after => .string rest after
        | .error skipped => .broken (.ofReading (readString rest) skipped)
      else if b = octet '-' || isDigit b then
        match skipNumber (b :: rest) with
        | .ok after => .number (b :: rest) after
        | .error skipped => .broken (.ofReading (readNumber (b :: rest)) skipped)
      else if b = octet '[' then .array (b :: rest) (arrayItems (valueWithin fuel) rest)
      else if b = octet '\x7b' then .object (b :: rest) (objectMembers (valueWithin fuel) rest)
      else .broken (.same (SyntaxError.expectedValue.before rest))

/-- The value at the front of a text. -/
def ofBytes (text : Bytes) : Located := valueWithin (text.length + 1) text

/-! ### Values -/

/-- How many arrays and objects may be open at once in a value that is read. -/
def nestingLimit : Nat := 127

mutual

/-- The value by itself, with at most `depth` arrays and objects open at once. -/
def value (depth : Nat) : Located → Except Fault Json
  | .null _ => .ok .null
  | .boolean b _ => .ok (.boolean b)
  | .number start _ => do return .number (← readNumber start).1
  | .string start _ => do return .string (← readString start).1
  | .array start items =>
    match depth with
    | 0 => .error (SyntaxError.nestedTooDeeply.with start)
    | depth + 1 => do return .array (← itemValues depth items)
  | .object start members =>
    match depth with
    | 0 => .error (SyntaxError.nestedTooDeeply.with start)
    | depth + 1 => do return .object (Entries.merge (← memberValues depth members))
  | .broken fault => .error fault.wanted

def itemValues (depth : Nat) : Items → Except Fault (List Json)
  | .done _ => .ok []
  | .item v more => do
    let v ← value depth v
    return v :: (← itemValues depth more)
  | .broken fault => .error fault.wanted

/-- The members in the order of the text.  A key may be repeated. -/
def memberValues (depth : Nat) : Members → Except Fault (Entries Json)
  | .done _ => .ok []
  | .member key _ v more => do
    let (key, _) ← readString key
    let v ← value depth v
    return (key, v) :: (← memberValues depth more)
  | .broken fault => .error fault.wanted

end

/-- Passes over the value. -/
def skip (v : Located) : Except Fault Unit :=
  match v.after with
  | .ok _ => .ok ()
  | .error fault => .error fault.skipped

/-- Nothing but blanks may follow the value of a whole text. -/
def finish (v : Located) : Except Fault Unit :=
  match v.after with
  | .error fault => .error fault.wanted
  | .ok rest =>
    match skipBlanks rest with
    | [] => .ok ()
    | _ :: rest => .error (SyntaxError.trailingCharacters.before rest)

end Located

/-- The value that a text writes. -/
def parse (text : Bytes) : Except Fault Json := do
  let located := Located.ofBytes text
  let value ← located.value Located.nestingLimit
  located.finish
  return value

end GraphqlClient.Json
