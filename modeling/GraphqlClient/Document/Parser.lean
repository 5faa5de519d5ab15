import GraphqlClient.Document.Basic
import GraphqlClient.Document.Lexeme

/-!
# Reading documents

Recursive descent over the tokens of a text.  Each reader takes the tokens it needs from the front,
or fails.  Readers of nested phrases take a `depth`, the number of levels that may still be opened:
selection sets, list and object values and list types share one budget of `nestingLimit` levels.
-/

namespace GraphqlClient

/-- A reader takes tokens from the front of a list, or fails. -/
abbrev Parse (α : Type) := StateT (List PlacedToken) Option α

/-- How many selection sets, lists and objects may stand inside each other. -/
def nestingLimit : Nat := 500

namespace Parse

/-! ### Single tokens -/

/-- The next token, which is left in place. -/
def peek? : Parse (Option Token) := return (← get).head?.map (·.token)

/-- The line of the next token. -/
def line : Parse Nat := return ((← get).head?.map (·.line)).getD 0

/-- Takes the next token. -/
def next : Parse Token := do
  match ← get with
  | t :: ts => set ts; return t.token
  | [] => failure

/-- Takes the token `expected`. -/
def expect (expected : Token) : Parse Unit := do
  if (← next) = expected then return else failure

def expectPunctuator (c : Char) : Parse Unit := expect (.punctuator c)

/-- Takes the token `t` if it comes next, and tells whether it did. -/
def accept (t : Token) : Parse Bool := do
  if (← peek?) = some t then
    expect t
    return true
  else return false

def acceptPunctuator (c : Char) : Parse Bool := accept (.punctuator c)

/-- Whether the token `t` comes next. -/
def sees (t : Token) : Parse Bool := return (← peek?) = some t

/-- Takes a name, whatever it is: no word is reserved. -/
def identifier : Parse String := do
  match ← next with
  | .name text => return text
  | _ => failure

/-- Takes the word `word`. -/
def keyword (word : String) : Parse Unit := expect (.name word)

/-- Takes a phrase if the next token is `start`. -/
def whenSees {α : Type} (start : Token) (phrase : Parse α) : Parse (Option α) := do
  if ← sees start then return some (← phrase) else return none

/-! ### Repetition

A repetition is bounded by the number of tokens at hand, which suffices since every item takes at
least one. -/

def itemsUpTo {α : Type} (close : Token) (item : Parse α) : Nat → Parse (List α)
  | 0 => failure
  | n + 1 => do
    if ← accept close then return []
    return (← item) :: (← itemsUpTo close item n)

/-- Items up to a closing punctuator, which is taken too. -/
def itemsUntil {α : Type} (close : Char) (item : Parse α) : Parse (List α) := do
  itemsUpTo (.punctuator close) item (← get).length

/-- One or more items between punctuators. -/
def enclosed {α : Type} (opening close : Char) (item : Parse α) : Parse (List α) := do
  expectPunctuator opening
  match ← itemsUntil close item with
  | [] => failure
  | items => return items

/-- The items between punctuators, if the opening one comes next: then there must be one or more. -/
def enclosedIfAny {α : Type} (opening close : Char) (item : Parse α) : Parse (List α) := do
  return (← whenSees (.punctuator opening) (enclosed opening close item)).getD []

def separatedUpTo {α : Type} (separator : Char) (item : Parse α) : Nat → Parse (List α)
  | 0 => failure
  | n + 1 => do
    let first ← item
    if ← acceptPunctuator separator then
      return first :: (← separatedUpTo separator item n)
    else return [first]

/-- One or more items with a separator between them, and possibly one before the first. -/
def separated {α : Type} (separator : Char) (item : Parse α) : Parse (List α) := do
  let _ ← acceptPunctuator separator
  separatedUpTo separator item (← get).length

def prefixedUpTo {α : Type} (start : Token) (item : Parse α) : Nat → Parse (List α)
  | 0 => failure
  | n + 1 => do
    if ← sees start then return (← item) :: (← prefixedUpTo start item n) else return []

/-- Items for as long as the next token is one that an item starts with. -/
def whileSees {α : Type} (start : Char) (item : Parse α) : Parse (List α) := do
  prefixedUpTo (.punctuator start) item ((← get).length + 1)

end Parse

open Parse

/-! ### Values and types -/

/-- A name that stands for a value: a constant, or a literal of an enum. -/
def Value.ofName (name : String) (line : Nat) : Value :=
  match name with
  | "true" => .boolean true
  | "false" => .boolean false
  | "null" => .null
  | name => .enum name line

/-- Reads a value that opens no level.  Where a constant is asked for, no variable may stand. -/
def Value.parseLeaf (constant : Bool) : Parse Value := do
  let line ← line
  match ← next with
  | .int text => return .int text
  | .float text => return .float text
  | .string text => return .string text
  | .name text => return Value.ofName text line
  | .punctuator '$' => if constant then failure else return .var (← identifier)
  | _ => failure

/-- Reads a value. -/
def Value.parse (constant : Bool) (depth : Nat) : Parse Value := do
  match depth with
  | 0 => Value.parseLeaf constant
  | depth + 1 =>
    if ← acceptPunctuator '[' then
      return .list (← itemsUntil ']' (Value.parse constant depth))
    else if ← acceptPunctuator '\x7b' then
      let field : Parse (String × Value) := do
        let key ← identifier
        expectPunctuator ':'
        return (key, ← Value.parse constant depth)
      return .object (← itemsUntil '\x7d' field)
    else Value.parseLeaf constant

/-- Reads a type. -/
def TypeRef.parse (depth : Nat) : Parse TypeRef := do
  let type ← (do
    if ← acceptPunctuator '[' then
      match depth with
      | 0 => failure
      | depth + 1 => do
        let item ← TypeRef.parse depth
        expectPunctuator ']'
        return .list item
    else return .named (← identifier))
  if ← acceptPunctuator '!' then return .nonNull type else return type

/-! ### Arguments and directives -/

/-- Reads a name, a colon and a value. -/
def Argument.parse (constant : Bool) (depth : Nat) : Parse Argument := do
  let name ← identifier
  expectPunctuator ':'
  return { name := name, value := ← Value.parse constant depth }

def Argument.parseAll (constant : Bool) (depth : Nat) : Parse (List Argument) :=
  enclosedIfAny '(' ')' (Argument.parse constant depth)

/-- Reads any number of directives. -/
def Directive.parseAll (constant : Bool) (depth : Nat) : Parse (List Directive) :=
  whileSees '@' do
    expectPunctuator '@'
    let name ← identifier
    return { name := name, arguments := ← Argument.parseAll constant depth }

/-! ### Selections -/

/-- Reads a field.  Its own selections are read by `nested`. -/
def Selection.parseField (depth : Nat) (nested : Parse (List Selection)) : Parse Selection := do
  let line ← line
  let first ← identifier
  let second? ← if ← acceptPunctuator ':' then some <$> identifier else pure none
  let arguments ← Argument.parseAll false depth
  let directives ← Directive.parseAll false depth
  let selections ← whenSees (.punctuator '\x7b') nested
  let head : FieldHead :=
    { responseKey? := second?.map fun _ => first
      name := second?.getD first
      arguments := arguments
      directives := directives
      line := line }
  return .field head (selections.getD [])

/-- Reads a fragment spread or an inline fragment.  No fragment is named `on`, so after that word
comes the type of an inline fragment. -/
def Selection.parseSpread (depth : Nat) (nested : Parse (List Selection)) : Parse Selection := do
  expect .spread
  match ← peek? with
  | some (.name "on") =>
    keyword "on"
    let onType ← identifier
    let directives ← Directive.parseAll false depth
    return .inlineFragment (some onType) directives (← nested)
  | some (.name _) =>
    let fragment ← identifier
    return .spread fragment (← Directive.parseAll false depth)
  | _ =>
    let directives ← Directive.parseAll false depth
    return .inlineFragment none directives (← nested)

/-- Reads a selection set, which has at least one selection. -/
def Selection.parseSet : Nat → Parse (List Selection)
  | 0 => failure
  | depth + 1 => enclosed '\x7b' '\x7d' do
    if ← sees .spread then Selection.parseSpread depth (Selection.parseSet depth)
    else Selection.parseField depth (Selection.parseSet depth)

/-! ### Executable definitions -/

def VariableDefinition.parse (depth : Nat) : Parse VariableDefinition := do
  expectPunctuator '$'
  let name ← identifier
  expectPunctuator ':'
  let type ← TypeRef.parse depth
  let default? ← whenSees (.punctuator '=') do
    expectPunctuator '='
    Value.parse true depth
  return { name := name, type := type, default? := default?,
           directives := ← Directive.parseAll true depth }

/-- Reads an operation that starts with the word for its kind. -/
def Operation.parse (kind : OperationKind) (depth : Nat) : Parse Operation := do
  keyword kind.keyword
  let name? ← match ← peek? with
    | some (.name _) => some <$> identifier
    | _ => pure none
  let definitions ← enclosedIfAny '(' ')' (VariableDefinition.parse depth)
  let directives ← Directive.parseAll false depth
  return { kind := kind, name? := name?, variableDefinitions := definitions,
           directives := directives, selections := ← Selection.parseSet depth }

def Fragment.parse (depth : Nat) : Parse Fragment := do
  keyword "fragment"
  let name ← identifier
  if name = "on" then failure
  keyword "on"
  let onType ← identifier
  let directives ← Directive.parseAll false depth
  return { name := name, onType := onType, directives := directives,
           selections := ← Selection.parseSet depth }

/-! ### Type system definitions -/

/-- Reads the string that describes a definition, if there is one. -/
def parseDescription : Parse (Option String) := do
  match ← peek? with
  | some (.string text) => let _ ← next; return some text
  | _ => return none

def InputValue.parse (depth : Nat) : Parse InputValue := do
  let description? ← parseDescription
  let name ← identifier
  expectPunctuator ':'
  let type ← TypeRef.parse depth
  let default? ← whenSees (.punctuator '=') do
    expectPunctuator '='
    Value.parse true depth
  return { description? := description?, name := name, type := type, default? := default?,
           directives := ← Directive.parseAll true depth }

def FieldDefinition.parse (depth : Nat) : Parse FieldDefinition := do
  let description? ← parseDescription
  let name ← identifier
  let arguments ← enclosedIfAny '(' ')' (InputValue.parse depth)
  expectPunctuator ':'
  let type ← TypeRef.parse depth
  return { description? := description?, name := name, arguments := arguments, type := type,
           directives := ← Directive.parseAll true depth }

/-- Reads a value of an enum.  The words for constants are no values. -/
def EnumValueDefinition.parse (depth : Nat) : Parse EnumValueDefinition := do
  let description? ← parseDescription
  let name ← identifier
  if name = "true" || name = "false" || name = "null" then failure
  return { description? := description?, name := name,
           directives := ← Directive.parseAll true depth }

/-- Reads the interfaces that a type implements. -/
def parseInterfaces : Parse (List String) := do
  if ← accept (.name "implements") then separated '&' identifier else return []

/-- The words that introduce a type, one for each kind. -/
def typeKeywords : List String := ["scalar", "type", "interface", "union", "enum", "input"]

/-- Reads the definition of a type, from the word for its kind on. -/
def TypeDeclaration.parse (description? : Option String) (depth : Nat) : Parse TypeDeclaration := do
  let word ← identifier
  let name ← identifier
  let interfaces ← if word = "type" || word = "interface" then parseInterfaces else pure []
  let directives ← Directive.parseAll true depth
  let fields := enclosedIfAny '\x7b' '\x7d' (FieldDefinition.parse depth)
  let body : TypeBody ← match word with
    | "scalar" => pure .scalar
    | "type" => .object interfaces <$> fields
    | "interface" => .interface interfaces <$> fields
    | "union" =>
      if ← acceptPunctuator '=' then .union <$> separated '|' identifier else pure (.union [])
    | "enum" => .enum <$> enclosedIfAny '\x7b' '\x7d' (EnumValueDefinition.parse depth)
    | "input" => .inputObject <$> enclosedIfAny '\x7b' '\x7d' (InputValue.parse depth)
    | _ => failure
  return { description? := description?, name := name, directives := directives, body := body }

/-- Whether a type has no parts of its own. -/
def TypeBody.isEmpty : TypeBody → Bool
  | .scalar => true
  | .object interfaces fields => interfaces.isEmpty && fields.isEmpty
  | .interface interfaces fields => interfaces.isEmpty && fields.isEmpty
  | .union members => members.isEmpty
  | .enum values => values.isEmpty
  | .inputObject fields => fields.isEmpty

/-- The places that a directive may be declared for. -/
def directiveLocations : List String :=
  ["QUERY", "MUTATION", "SUBSCRIPTION", "FIELD", "FRAGMENT_DEFINITION", "FRAGMENT_SPREAD",
   "INLINE_FRAGMENT", "VARIABLE_DEFINITION", "SCHEMA", "SCALAR", "OBJECT", "FIELD_DEFINITION",
   "ARGUMENT_DEFINITION", "INTERFACE", "UNION", "ENUM", "ENUM_VALUE", "INPUT_OBJECT",
   "INPUT_FIELD_DEFINITION"]

def DirectiveDefinition.parse (description? : Option String) (depth : Nat) :
    Parse DirectiveDefinition := do
  keyword "directive"
  expectPunctuator '@'
  let name ← identifier
  let arguments ← enclosedIfAny '(' ')' (InputValue.parse depth)
  let repeatable ← accept (.name "repeatable")
  keyword "on"
  let locations ← separated '|' identifier
  if !locations.all directiveLocations.contains then failure
  return { description? := description?, name := name, arguments := arguments,
           repeatable := repeatable, locations := locations }

/-- Reads the kind of an operation and the name of its root type. -/
def parseRoot : Parse (OperationKind × String) := do
  let word ← identifier
  expectPunctuator ':'
  let type ← identifier
  match [OperationKind.query, .mutation, .subscription].find? (·.keyword = word) with
  | some kind => return (kind, type)
  | none => failure

/-- Reads a schema definition, from its word on. -/
def RootDeclaration.parse (description? : Option String) (depth : Nat) : Parse RootDeclaration := do
  keyword "schema"
  let directives ← Directive.parseAll true depth
  let roots ← enclosed '\x7b' '\x7d' parseRoot
  return { description? := description?, directives := directives, roots := roots }

/-- Reads an extension, which adds at least a directive or a part. -/
def Definition.parseExtension (depth : Nat) : Parse Definition := do
  keyword "extend"
  if ← accept (.name "schema") then
    let directives ← Directive.parseAll true depth
    let roots ← enclosedIfAny '\x7b' '\x7d' parseRoot
    if directives.isEmpty && roots.isEmpty then failure
    return .schemaExtension { description? := none, directives := directives, roots := roots }
  else
    let declaration ← TypeDeclaration.parse none depth
    if declaration.directives.isEmpty && declaration.body.isEmpty then failure
    return .typeExtension declaration

/-! ### Documents -/

/-- Reads a definition.  Only definitions of the type system have a description. -/
def Definition.parse (depth : Nat) : Parse Definition := do
  let description? ← parseDescription
  match ← peek? with
  | some (.name "schema") => return .schema (← RootDeclaration.parse description? depth)
  | some (.name "directive") => return .directive (← DirectiveDefinition.parse description? depth)
  | some (.name word) =>
    if typeKeywords.contains word then return .type (← TypeDeclaration.parse description? depth)
    else if description?.isSome then failure
    else match word with
      | "query" => return .operation (← Operation.parse .query depth)
      | "mutation" => return .operation (← Operation.parse .mutation depth)
      | "subscription" => return .operation (← Operation.parse .subscription depth)
      | "fragment" => return .fragment (← Fragment.parse depth)
      | "extend" => Definition.parseExtension depth
      | _ => failure
  | some (.punctuator '\x7b') =>
    if description?.isSome then failure
    return .operation
      { kind := .query, name? := none, variableDefinitions := [], directives := [],
        selections := ← Selection.parseSet depth }
  | _ => failure

/-- Definitions up to the end of the tokens, of which there are no more than `n`. -/
def Document.parseUpTo : Nat → Parse Document
  | 0 => return []
  | n + 1 => do
    if (← get).isEmpty then return []
    return (← Definition.parse nestingLimit) :: (← Document.parseUpTo n)

/-- The document that a text holds.  It has at least one definition, and nothing may be left. -/
def Document.parse? (text : String) : Option Document := do
  let tokens ← tokens? text
  let (document, rest) ← (Document.parseUpTo tokens.length).run tokens
  if document.isEmpty || !rest.isEmpty then none else some document

end GraphqlClient
