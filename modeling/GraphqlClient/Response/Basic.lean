import GraphqlClient.Json.Printer

/-!
# Responses

What a server answers to an operation: data, errors, and extensions.  Data that is null is told
apart from data that is absent.
-/

namespace GraphqlClient

/-- A place in the document of a request. -/
structure Location where
  line : UInt32
  column : UInt32
  deriving Repr, BEq, DecidableEq, Inhabited

/-- A step into the data of a response. -/
inductive PathElement where
  | index (n : UInt64)
  | key (name : String)
  deriving Repr, BEq, DecidableEq, Inhabited

/-- An error that a server reports.  Keys that are no part of the format are kept in `other`. -/
structure GraphqlError where
  message : String
  locations : List Location
  path? : Option (List PathElement)
  extensions : Entries Json
  other : Entries Json
  deriving Inhabited

structure Response where
  data? : Option Json
  errors : List GraphqlError
  extensions : Entries Json
  deriving Inhabited

/-! ### As JSON -/

def Location.toJson (l : Location) : Json :=
  .object
    [("line", .ofWord l.line.toUInt64), ("column", .ofWord l.column.toUInt64)]

def PathElement.toJson : PathElement → Json
  | .index n => .ofWord n
  | .key name => .string name

/-- An entry, unless the list that it would hold is empty. -/
def entryUnlessEmpty {α : Type} (key : String) (list : List α) (json : List α → Json) :
    Entries Json :=
  if list.isEmpty then [] else [(key, json list)]

namespace GraphqlError

/-- The parts of an error that are written.  Only the message is always there. -/
def toJson (e : GraphqlError) : Json :=
  .object <|
    [("message", .string e.message)] ++
    entryUnlessEmpty "locations" e.locations (fun ls => .array (ls.map Location.toJson)) ++
    (e.path?.map fun path => ("path", Json.array (path.map PathElement.toJson))).toList ++
    entryUnlessEmpty "extensions" e.extensions .object ++
    e.other

/-- An error with nothing but a message. -/
def ofMessage (message : String) : GraphqlError :=
  { message := message, locations := [], path? := none, extensions := [], other := [] }

end GraphqlError

/-- The parts of a response that are written: data if present, and lists unless empty. -/
def Response.toJson (r : Response) : Json :=
  .object <|
    (r.data?.map fun data => ("data", data)).toList ++
    entryUnlessEmpty "errors" r.errors (fun es => .array (es.map GraphqlError.toJson)) ++
    entryUnlessEmpty "extensions" r.extensions .object

/-! ### Data or errors -/

/-- The server gave no data.  The errors say why, if it told. -/
structure QueryError where
  errors : List GraphqlError

def QueryError.message (e : QueryError) : String :=
  "query failed: " ++
    if e.errors.isEmpty then "no data returned" else "; ".intercalate (e.errors.map (·.message))

/-- The data of a response, whatever errors come with it.  Null is no data. -/
def Response.intoData (r : Response) : Except QueryError Json :=
  match r.data? with
  | none | some .null => .error { errors := r.errors }
  | some data => .ok data

end GraphqlClient
