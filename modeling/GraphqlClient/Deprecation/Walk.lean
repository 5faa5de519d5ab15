import GraphqlClient.Deprecation.Notice
import GraphqlClient.Schema.Basic

/-!
# Walking documents for deprecated uses

The walk goes through a document in the order it is written, looks everything it meets up in the
schema, and hands each deprecated use to a reporter as soon as it is found.  It stops at the first
thing that the schema does not know; the uses found before have been reported by then.

A use is a field, or an enum literal anywhere in an argument.  What a spread refers to is not
followed, since fragment definitions are walked on their own.  Enum types and directive definitions
are looked up once and then remembered.
-/

namespace GraphqlClient.Deprecation

/-! ### The walk -/

/-- What is looked for where: a schema, and the file and line that a document starts at. -/
structure Visitor where
  schema : Schema
  sourceFile : String
  /-- The lines of the file before the document.  Is added to the line of a use within its
  document. -/
  baseLine : Nat
  deriving Repr, Inhabited

/-- What the walk has found in the schema so far. -/
structure Tables where
  enums : List (String × List EnumValueDefinition)
  directives : List (String × DirectiveDefinition)
  deriving Repr, Inhabited

/-- Nothing has been looked up. -/
def Tables.empty : Tables := { enums := [], directives := [] }

/-- How far a walk is: what it remembers, and what the reporter has made of the notices. -/
structure Progress (σ : Type) where
  tables : Tables
  reported : σ

/-- A step of a walk.  The progress made before a mismatch is not lost. -/
abbrev Walk (σ : Type) := ExceptT Mismatch (StateM (Progress σ))

/-- A reporter takes notices one by one into a state of its own. -/
abbrev Reporter (σ : Type) := σ → Notice → σ

/-- The type or directive whose declared arguments count. -/
structure Owner where
  /-- How the owner is called in a mismatch. -/
  label : String
  declared : List InputValue

namespace Walk

section

variable {σ : Type}

/-- The value of an option that must be there. -/
def required {α : Type} (found? : Option α) (mismatch : Mismatch) : Walk σ α :=
  match found? with
  | some found => pure found
  | none => throw mismatch

/-- Hands on a notice if the member with these directives is deprecated. -/
def noteUse (v : Visitor) (report : Reporter σ) (qualifiedName : String)
    (directives : List Directive) (line : Nat) : Walk σ Unit :=
  match reason? directives with
  | none => pure ()
  | some reason =>
    let notice : Notice :=
      { qualifiedName := qualifiedName, reason := reason, sourceFile := v.sourceFile,
        line := v.baseLine + line }
    modify fun p => { p with reported := report p.reported notice }

/-! ### Looking up -/

/-- The values of an enum type, or nothing for a scalar, which takes any literal. -/
def enumValues? (v : Visitor) (typeName : String) :
    Walk σ (Option (List EnumValueDefinition)) := do
  match (← get).tables.enums.lookup typeName with
  | some values => return some values
  | none =>
    match v.schema.type? typeName with
    | some (.enum values) =>
      modify fun p =>
        { p with tables := { p.tables with enums := (typeName, values) :: p.tables.enums } }
      return some values
    | some .scalar => return none
    | some _ => throw (.notAnEnum typeName)
    | none => throw (.unknownType typeName)

/-- The fields of an input object type, or nothing for any other type, into whose literals the walk
does not look. -/
def inputFields? (v : Visitor) (typeName : String) : Walk σ (Option (List InputValue)) :=
  match v.schema.type? typeName with
  | some (.inputObject fields) => pure (some fields)
  | some _ => pure none
  | none => throw (.unknownType typeName)

def directiveDefinition (v : Visitor) (name : String) : Walk σ DirectiveDefinition := do
  match (← get).tables.directives.lookup name with
  | some definition => return definition
  | none =>
    let definition ← required (v.schema.directive? name) (.unknownDirective name)
    modify fun p =>
      { p with
        tables := { p.tables with directives := (name, definition) :: p.tables.directives } }
    return definition

/-- The declaration of an argument, or of a field of an input object. -/
def declaration (owner : Owner) (name : String) : Walk σ InputValue :=
  required (findInput? owner.declared name) (.unknownArgument owner.label name)

/-! ### Values and directives -/

/-- Looks at an enum literal where a value of `typeName` is asked for. -/
def enumLiteral (v : Visitor) (report : Reporter σ) (typeName name : String) (line : Nat) :
    Walk σ Unit := do
  match ← enumValues? v typeName with
  | none => return
  | some values =>
    let found ← required (values.find? (·.name = name)) (.unknownEnumValue typeName name)
    noteUse v report (typeName ++ "." ++ name) found.directives line

mutual

/-- Looks at a value where one of `typeName`, or a list of them, is asked for. -/
def value (v : Visitor) (report : Reporter σ) (typeName : String) : Value → Walk σ Unit
  | .enum name line => enumLiteral v report typeName name line
  | .list items => valueItems v report typeName items
  | .object fields => do
    match ← inputFields? v typeName with
    | none => return
    | some declared => valueFields v report { label := typeName, declared := declared } fields
  | _ => return

def valueItems (v : Visitor) (report : Reporter σ) (typeName : String) : List Value → Walk σ Unit
  | [] => return
  | item :: items => do
    value v report typeName item
    valueItems v report typeName items

def valueFields (v : Visitor) (report : Reporter σ) (owner : Owner) :
    List (String × Value) → Walk σ Unit
  | [] => return
  | (name, given) :: fields => do
    let declared ← declaration owner name
    value v report declared.type.innerName given
    valueFields v report owner fields

end

def arguments (v : Visitor) (report : Reporter σ) (owner : Owner) (given : List Argument) :
    Walk σ Unit :=
  given.forM fun argument => do
    let declared ← declaration owner argument.name
    value v report declared.type.innerName argument.value

def directives (v : Visitor) (report : Reporter σ) (given : List Directive) : Walk σ Unit :=
  given.forM fun directive => do
    let definition ← directiveDefinition v directive.name
    arguments v report { label := "@" ++ definition.name, declared := definition.arguments }
      directive.arguments

/-! ### Selections -/

/-- The definition of the field `name` of a type. -/
def fieldDefinition (v : Visitor) (typeName name : String) : Walk σ FieldDefinition := do
  let body ← required (v.schema.type? typeName) (.unknownType typeName)
  required (v.schema.fieldOf? typeName body name) (.unknownField typeName name)

/-- Looks at a field apart from its selections, and gives the type that these are made on. -/
def fieldHead (v : Visitor) (report : Reporter σ) (typeName : String) (head : FieldHead) :
    Walk σ String := do
  let definition ← fieldDefinition v typeName head.name
  let qualifiedName := typeName ++ "." ++ head.name
  noteUse v report qualifiedName definition.directives head.line
  arguments v report { label := qualifiedName, declared := definition.arguments } head.arguments
  directives v report head.directives
  return definition.type.innerName

mutual

/-- Looks at a selection that is made on the type `typeName`. -/
def selection (v : Visitor) (report : Reporter σ) (typeName : String) : Selection → Walk σ Unit
  | .field head selections => do
    selectionSet v report (← fieldHead v report typeName head) selections
  | .spread _ given => directives v report given
  | .inlineFragment onType? given selections => do
    directives v report given
    selectionSet v report (onType?.getD typeName) selections

def selectionSet (v : Visitor) (report : Reporter σ) (typeName : String) :
    List Selection → Walk σ Unit
  | [] => return
  | s :: ss => do
    selection v report typeName s
    selectionSet v report typeName ss

end

/-! ### Definitions -/

def operation (v : Visitor) (report : Reporter σ) (o : Operation) : Walk σ Unit := do
  let root ← required (v.schema.root? o.kind) (.missingRoot o.kind)
  directives v report o.directives
  selectionSet v report root o.selections

def fragment (v : Visitor) (report : Reporter σ) (f : Fragment) : Walk σ Unit := do
  let _ ← required (v.schema.type? f.onType) (.unknownType f.onType)
  directives v report f.directives
  selectionSet v report f.onType f.selections

/-- Looks at a definition.  Those of the type system use nothing. -/
def definition (v : Visitor) (report : Reporter σ) : Definition → Walk σ Unit
  | .operation o => operation v report o
  | .fragment f => fragment v report f
  | _ => return

def document (v : Visitor) (report : Reporter σ) (d : Document) : Walk σ Unit :=
  d.forM (definition v report)

end

end Walk

/-! ### Results -/

namespace Visitor

/-- Hands every deprecated use in the document to the reporter, and tells whether the document
fits the schema.  Nothing is remembered from one document to the next. -/
def report {σ : Type} (v : Visitor) (reporter : Reporter σ) (initial : σ) (d : Document) :
    σ × Except Mismatch Unit :=
  let (result, progress) :=
    (Walk.document v reporter d).run { tables := .empty, reported := initial }
  (progress.reported, result)

/-- The reporter that lists the notices. -/
def collect : Reporter (List Notice) := fun notices notice => notices ++ [notice]

/-- The notices for a document that fits the schema. -/
def visit (v : Visitor) (d : Document) : Except Mismatch (List Notice) :=
  match v.report collect [] d with
  | (notices, .ok ()) => .ok notices
  | (_, .error mismatch) => .error mismatch

/-- The reporter that logs the notices. -/
def log : Reporter (List LogEvent) := fun events notice => events ++ [notice.logEvent]

end Visitor

end GraphqlClient.Deprecation
