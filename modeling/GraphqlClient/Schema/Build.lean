import GraphqlClient.Schema.Basic
import GraphqlClient.Document.Parser

/-!
# Building schemas

A document of type system definitions describes a schema.  Extensions add to the type they name,
wherever in the document they stand.  The definitions have to fit together, in that names which
must differ do and that each extension has something of its own kind to extend; whether the names
they mention are defined is not looked at.
-/

namespace GraphqlClient

/-! ### Extensions -/

/-- The parts of a type together with those that an extension of the same kind adds. -/
def TypeBody.extend? : TypeBody → TypeBody → Option TypeBody
  | .scalar, .scalar => some .scalar
  | .object is fs, .object is' fs' => some (.object (is ++ is') (fs ++ fs'))
  | .interface is fs, .interface is' fs' => some (.interface (is ++ is') (fs ++ fs'))
  | .union ms, .union ms' => some (.union (ms ++ ms'))
  | .enum vs, .enum vs' => some (.enum (vs ++ vs'))
  | .inputObject fs, .inputObject fs' => some (.inputObject (fs ++ fs'))
  | _, _ => none

/-- Whether no two elements of a list are equal. -/
def allDistinct (names : List String) : Bool :=
  match names with
  | [] => true
  | name :: more => !more.contains name && allDistinct more

/-- Whether no two members of a type have one name. -/
def TypeBody.hasDistinctMembers : TypeBody → Bool
  | .scalar => true
  | .object interfaces fields => allDistinct interfaces && allDistinct (fields.map (·.name))
  | .interface interfaces fields => allDistinct interfaces && allDistinct (fields.map (·.name))
  | .union members => allDistinct members
  | .enum values => allDistinct (values.map (·.name))
  | .inputObject fields => allDistinct (fields.map (·.name))

/-- A type with everything that its extensions add. -/
def TypeDeclaration.complete? (t : TypeDeclaration) (extensions : List TypeDeclaration) :
    Option (String × TypeBody) := do
  let body ← (extensions.filter (·.name = t.name)).foldlM (fun b e => b.extend? e.body) t.body
  if body.hasDistinctMembers then some (t.name, body) else none

/-! ### Root types -/

/-- The kinds of operation, and the name that an object type for each has by default. -/
def defaultRoots : List (OperationKind × String) :=
  [(.query, "Query"), (.mutation, "Mutation"), (.subscription, "Subscription")]

/-- The root types by their default names, which count where no schema definition stands. -/
def implicitRoots (types : List (String × TypeBody)) : List (OperationKind × String) :=
  defaultRoots.filter fun (_, name) =>
    match types.lookup name with
    | some (.object ..) => true
    | _ => false

/-- The roots that the schema definition and its extensions name, or the implicit ones.  There is
at most one definition, an extension needs something to extend, and no kind of operation has two
roots. -/
def mergedRoots? (types : List (String × TypeBody))
    (definitions extensions : List RootDeclaration) :
    Option (List (OperationKind × String)) := do
  let roots ← match definitions with
    | [] =>
      let implicit := implicitRoots types
      if implicit.isEmpty && !extensions.isEmpty then none else some implicit
    | [definition] => some definition.roots
    | _ => none
  let roots := roots ++ extensions.flatMap (·.roots)
  if allDistinct (roots.map (·.1.keyword)) then some roots else none

/-! ### Schemas from documents -/

/-- The schema that a document describes. -/
def Schema.ofDocument? (d : Document) : Option Schema := do
  if d.any (fun | .operation _ | .fragment _ => true | _ => false) then none
  let declared := Builtin.types ++ d.filterMap fun | .type t => some t | _ => none
  let extensions := d.filterMap fun | .typeExtension t => some t | _ => none
  let directives := d.filterMap fun | .directive t => some t | _ => none
  if !allDistinct (declared.map (·.name)) || !allDistinct (directives.map (·.name)) then none
  if !extensions.all (fun e => declared.any (·.name = e.name)) then none
  let types ← declared.mapM (·.complete? extensions)
  let roots ← mergedRoots? types
    (d.filterMap fun | .schema r => some r | _ => none)
    (d.filterMap fun | .schemaExtension r => some r | _ => none)
  return {
    types := types
    directives := directives ++ Builtin.directives
    query? := roots.lookup .query
    mutation? := roots.lookup .mutation
    subscription? := roots.lookup .subscription }

/-- The schema that a text describes. -/
def Schema.parse? (text : String) : Option Schema := do
  Schema.ofDocument? (← Document.parse? text)

end GraphqlClient
