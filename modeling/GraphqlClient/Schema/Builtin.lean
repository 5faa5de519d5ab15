import GraphqlClient.Document.Basic

/-!
# Built-in definitions

What every schema defines without saying so: the five scalars, the types that introspection answers
with, the directives of the language, and the fields that types have beside the declared ones.
-/

namespace GraphqlClient.Builtin

/-! ### Shorthands -/

private def named (name : String) : TypeRef := .named name

private def required (name : String) : TypeRef := .nonNull (.named name)

/-- A list, possibly null, of items that are not. -/
private def listOf (name : String) : TypeRef := .list (.nonNull (.named name))

private def field (name : String) (type : TypeRef) (arguments : List InputValue) :
    FieldDefinition :=
  { description? := none, name := name, arguments := arguments, type := type, directives := [] }

private def argument (name : String) (type : TypeRef) (default? : Option Value) : InputValue :=
  { description? := none, name := name, type := type, default? := default?, directives := [] }

private def declaration (name : String) (body : TypeBody) : TypeDeclaration :=
  { description? := none, name := name, directives := [], body := body }

private def object (name : String) (fields : List FieldDefinition) : TypeDeclaration :=
  declaration name (.object [] fields)

private def enumeration (name : String) (values : List String) : TypeDeclaration :=
  declaration name
    (.enum (values.map fun v => { description? := none, name := v, directives := [] }))

private def directive (name : String) (arguments : List InputValue) (locations : List String) :
    DirectiveDefinition :=
  { description? := none, name := name, arguments := arguments, repeatable := false,
    locations := locations }

/-- The argument by which deprecated members are asked for. -/
private def includeDeprecated : List InputValue :=
  [argument "includeDeprecated" (named "Boolean") (some (.boolean false))]

/-! ### Types -/

def scalars : List TypeDeclaration :=
  ["Int", "Float", "String", "Boolean", "ID"].map fun name => declaration name .scalar

/-- The fields that tell whether and why a member is deprecated. -/
private def deprecation : List FieldDefinition :=
  [field "isDeprecated" (required "Boolean") [],
   field "deprecationReason" (named "String") []]

/-- The fields that name and describe a member. -/
private def naming : List FieldDefinition :=
  [field "name" (required "String") [],
   field "description" (named "String") []]

/-- The types that introspection answers with. -/
def introspectionTypes : List TypeDeclaration :=
  [object "__Schema"
    [field "description" (named "String") [],
     field "types" (.nonNull (listOf "__Type")) [],
     field "queryType" (required "__Type") [],
     field "mutationType" (named "__Type") [],
     field "subscriptionType" (named "__Type") [],
     field "directives" (.nonNull (listOf "__Directive")) []],
   object "__Type"
    [field "kind" (required "__TypeKind") [],
     field "name" (named "String") [],
     field "description" (named "String") [],
     field "fields" (listOf "__Field") includeDeprecated,
     field "interfaces" (listOf "__Type") [],
     field "possibleTypes" (listOf "__Type") [],
     field "enumValues" (listOf "__EnumValue") includeDeprecated,
     field "inputFields" (listOf "__InputValue") includeDeprecated,
     field "ofType" (named "__Type") [],
     field "specifiedByURL" (named "String") []],
   enumeration "__TypeKind"
    ["SCALAR", "OBJECT", "INTERFACE", "UNION", "ENUM", "INPUT_OBJECT", "LIST", "NON_NULL"],
   object "__Field"
    (naming ++
     [field "args" (.nonNull (listOf "__InputValue")) includeDeprecated,
      field "type" (required "__Type") []] ++ deprecation),
   object "__InputValue"
    (naming ++
     [field "type" (required "__Type") [],
      field "defaultValue" (named "String") []] ++ deprecation),
   object "__EnumValue" (naming ++ deprecation),
   object "__Directive"
    (naming ++
     [field "locations" (.nonNull (listOf "__DirectiveLocation")) [],
      field "args" (.nonNull (listOf "__InputValue")) includeDeprecated,
      field "isRepeatable" (required "Boolean") []]),
   enumeration "__DirectiveLocation"
    ["QUERY", "MUTATION", "SUBSCRIPTION", "FIELD", "FRAGMENT_DEFINITION", "FRAGMENT_SPREAD",
     "INLINE_FRAGMENT", "VARIABLE_DEFINITION", "SCHEMA", "SCALAR", "OBJECT", "FIELD_DEFINITION",
     "ARGUMENT_DEFINITION", "INTERFACE", "UNION", "ENUM", "ENUM_VALUE", "INPUT_OBJECT",
     "INPUT_FIELD_DEFINITION"]]

def types : List TypeDeclaration := scalars ++ introspectionTypes

/-! ### Directives -/

/-- The directives of the language, which a schema may define anew. -/
def directives : List DirectiveDefinition :=
  [directive "skip" [argument "if" (required "Boolean") none]
    ["FIELD", "FRAGMENT_SPREAD", "INLINE_FRAGMENT"],
   directive "include" [argument "if" (required "Boolean") none]
    ["FIELD", "FRAGMENT_SPREAD", "INLINE_FRAGMENT"],
   directive "deprecated"
    [argument "reason" (named "String") (some (.string "No longer supported"))]
    ["FIELD_DEFINITION", "ARGUMENT_DEFINITION", "INPUT_FIELD_DEFINITION", "ENUM_VALUE"],
   directive "specifiedBy" [argument "url" (required "String") none] ["SCALAR"]]

/-! ### Fields beside the declared ones -/

/-- The field of every composite type that tells which type it is. -/
def typenameField : FieldDefinition := field "__typename" (required "String") []

/-- The fields of the query root that introspection starts from. -/
def schemaField : FieldDefinition := field "__schema" (required "__Schema") []

def typeField : FieldDefinition :=
  field "__type" (named "__Type") [argument "name" (required "String") none]

end GraphqlClient.Builtin
