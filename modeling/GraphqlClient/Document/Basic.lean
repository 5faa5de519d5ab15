/-!
# GraphQL documents

The abstract syntax of GraphQL documents: values, types, selections, and the definitions that a
document lists.  Fields and enum literals carry the line they start on, since those are the two
things a deprecation notice can point at.  A node that was built rather than read from a text has
line `0`.
-/

namespace GraphqlClient

/-! ### Values and types -/

/-- A literal value.  Numbers keep the digits they were written with. -/
inductive Value where
  | null
  | boolean (value : Bool)
  | int (text : String)
  | float (text : String)
  | string (text : String)
  | enum (name : String) (line : Nat)
  | var (name : String)
  | list (items : List Value)
  | object (fields : List (String × Value))
  deriving Repr, BEq, Inhabited

/-- A reference to a type, with its list and non-null wrappers. -/
inductive TypeRef where
  | named (name : String)
  | list (item : TypeRef)
  | nonNull (inner : TypeRef)
  deriving Repr, BEq, DecidableEq, Inhabited

/-- The type that is left when all wrappers are taken off. -/
def TypeRef.innerName : TypeRef → String
  | .named name => name
  | .list item => item.innerName
  | .nonNull inner => inner.innerName

/-- A named value, given to a field or to a directive. -/
structure Argument where
  name : String
  value : Value
  deriving Repr, BEq, Inhabited

/-- A directive written on a node, as `@name(arguments)`. -/
structure Directive where
  name : String
  arguments : List Argument
  deriving Repr, BEq, Inhabited

/-! ### Selections -/

/-- A field of a selection set, without its own selections.  `line` is where the field starts,
which is at its alias if it has one. -/
structure FieldHead where
  responseKey? : Option String
  name : String
  arguments : List Argument
  directives : List Directive
  line : Nat
  deriving Repr, BEq, Inhabited

/-- One entry of a selection set. -/
inductive Selection where
  | field (head : FieldHead) (selections : List Selection)
  | spread (fragment : String) (directives : List Directive)
  | inlineFragment (onType? : Option String) (directives : List Directive)
      (selections : List Selection)
  deriving Repr, BEq, Inhabited

/-! ### Executable definitions -/

/-- The three kinds of operation. -/
inductive OperationKind where
  | query
  | mutation
  | subscription
  deriving Repr, BEq, DecidableEq, Inhabited

/-- The word that introduces an operation of this kind. -/
def OperationKind.keyword : OperationKind → String
  | .query => "query"
  | .mutation => "mutation"
  | .subscription => "subscription"

/-- A variable that an operation declares. -/
structure VariableDefinition where
  name : String
  type : TypeRef
  default? : Option Value
  directives : List Directive
  deriving Repr, BEq, Inhabited

structure Operation where
  kind : OperationKind
  name? : Option String
  variableDefinitions : List VariableDefinition
  directives : List Directive
  selections : List Selection
  deriving Repr, BEq, Inhabited

structure Fragment where
  name : String
  onType : String
  directives : List Directive
  selections : List Selection
  deriving Repr, BEq, Inhabited

/-! ### Type system definitions -/

/-- The declaration of an argument, or of a field of an input object. -/
structure InputValue where
  description? : Option String
  name : String
  type : TypeRef
  default? : Option Value
  directives : List Directive
  deriving Repr, BEq, Inhabited

/-- The declaration of a field of an object or interface type. -/
structure FieldDefinition where
  description? : Option String
  name : String
  arguments : List InputValue
  type : TypeRef
  directives : List Directive
  deriving Repr, BEq, Inhabited

structure EnumValueDefinition where
  description? : Option String
  name : String
  directives : List Directive
  deriving Repr, BEq, Inhabited

/-- What a type consists of, by its kind. -/
inductive TypeBody where
  | scalar
  | object (interfaces : List String) (fields : List FieldDefinition)
  | interface (interfaces : List String) (fields : List FieldDefinition)
  | union (members : List String)
  | enum (values : List EnumValueDefinition)
  | inputObject (fields : List InputValue)
  deriving Repr, BEq, Inhabited

/-- A definition of a type, or an extension of one. -/
structure TypeDeclaration where
  description? : Option String
  name : String
  directives : List Directive
  body : TypeBody
  deriving Repr, BEq, Inhabited

structure DirectiveDefinition where
  description? : Option String
  name : String
  arguments : List InputValue
  repeatable : Bool
  locations : List String
  deriving Repr, BEq, Inhabited

/-- A `schema` definition or extension: the root type of each kind of operation it names. -/
structure RootDeclaration where
  description? : Option String
  directives : List Directive
  roots : List (OperationKind × String)
  deriving Repr, BEq, Inhabited

/-! ### Documents -/

inductive Definition where
  | operation (operation : Operation)
  | fragment (fragment : Fragment)
  | type (declaration : TypeDeclaration)
  | typeExtension (declaration : TypeDeclaration)
  | directive (definition : DirectiveDefinition)
  | schema (declaration : RootDeclaration)
  | schemaExtension (declaration : RootDeclaration)
  deriving Repr, BEq, Inhabited

/-- A document lists its definitions in the order they are written. -/
abbrev Document := List Definition

/-! ### Documents without positions

The definitions of a document that reaches a program in pieces may come from a text that is not
at hand.  Their nodes then have no line. -/

mutual

/-- The value with no line on any enum literal. -/
def Value.unplaced : Value → Value
  | .enum name _ => .enum name 0
  | .list items => .list (Value.unplacedItems items)
  | .object fields => .object (Value.unplacedFields fields)
  | v => v

def Value.unplacedItems : List Value → List Value
  | [] => []
  | v :: vs => v.unplaced :: Value.unplacedItems vs

def Value.unplacedFields : List (String × Value) → List (String × Value)
  | [] => []
  | (name, v) :: fs => (name, v.unplaced) :: Value.unplacedFields fs

end

def Argument.unplaced (a : Argument) : Argument := { a with value := a.value.unplaced }

def Directive.unplaced (d : Directive) : Directive :=
  { d with arguments := d.arguments.map Argument.unplaced }

def FieldHead.unplaced (h : FieldHead) : FieldHead :=
  { h with
    arguments := h.arguments.map Argument.unplaced
    directives := h.directives.map Directive.unplaced
    line := 0 }

mutual

/-- The selection with no line on any field or enum literal. -/
def Selection.unplaced : Selection → Selection
  | .field head selections => .field head.unplaced (Selection.unplacedAll selections)
  | .spread fragment directives => .spread fragment (directives.map Directive.unplaced)
  | .inlineFragment onType? directives selections =>
    .inlineFragment onType? (directives.map Directive.unplaced) (Selection.unplacedAll selections)

def Selection.unplacedAll : List Selection → List Selection
  | [] => []
  | s :: ss => s.unplaced :: Selection.unplacedAll ss

end

/-- The definition with no line on any node of its selections and directives.  Type system
definitions hold no node that is ever pointed at, and stay as they are. -/
def Definition.unplaced : Definition → Definition
  | .operation o => .operation
      { o with
        directives := o.directives.map Directive.unplaced
        selections := Selection.unplacedAll o.selections }
  | .fragment f => .fragment
      { f with
        directives := f.directives.map Directive.unplaced
        selections := Selection.unplacedAll f.selections }
  | d => d

end GraphqlClient
