import GraphqlClient.Schema.Builtin

/-!
# Schemas

A schema as it is looked up in: the parts of each type, the directives, and the root type of each
kind of operation.  Nothing says that the names a schema mentions are defined; every look-up of a
name can fail.
-/

namespace GraphqlClient

/-- The types and directives by name, and the root types.  Of two entries with one name the first
counts. -/
structure Schema where
  types : List (String × TypeBody)
  directives : List DirectiveDefinition
  query? : Option String
  mutation? : Option String
  subscription? : Option String
  deriving Repr, BEq, Inhabited

namespace Schema

/-- The root type for a kind of operation. -/
def root? (s : Schema) : OperationKind → Option String
  | .query => s.query?
  | .mutation => s.mutation?
  | .subscription => s.subscription?

/-- What the type with this name consists of. -/
def type? (s : Schema) (name : String) : Option TypeBody := s.types.lookup name

def directive? (s : Schema) (name : String) : Option DirectiveDefinition :=
  s.directives.find? (·.name = name)

end Schema

/-! ### Members of types -/

/-- The fields that a type declares: none, unless it is an object or interface type. -/
def TypeBody.declaredFields : TypeBody → List FieldDefinition
  | .object _ fields => fields
  | .interface _ fields => fields
  | _ => []

/-- Whether values of the type have fields to select. -/
def TypeBody.isComposite : TypeBody → Bool
  | .object .. | .interface .. | .union .. => true
  | _ => false

/-- The field that an object of type `typeName`, with the given parts, has under `name`: a declared
one, or else one of those that need no declaration. -/
def Schema.fieldOf? (s : Schema) (typeName : String) (body : TypeBody) (name : String) :
    Option FieldDefinition :=
  match body.declaredFields.find? (·.name = name) with
  | some field => some field
  | none =>
    if name = "__typename" && body.isComposite then some Builtin.typenameField
    else if s.query? = some typeName then
      if name = "__schema" then some Builtin.schemaField
      else if name = "__type" then some Builtin.typeField
      else none
    else none

/-- The first declaration with this name. -/
def findInput? (declared : List InputValue) (name : String) : Option InputValue :=
  declared.find? (·.name = name)

end GraphqlClient
