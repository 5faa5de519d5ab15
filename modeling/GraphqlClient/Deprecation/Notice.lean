import GraphqlClient.Document.Basic

/-!
# Deprecation notices

A notice says that a document uses a deprecated field or enum value, and where.  A mismatch says
that the document does not fit the schema, so that no more can be said about its uses.
-/

namespace GraphqlClient.Deprecation

/-! ### Notices -/

/-- A use of a deprecated field (`Type.field`) or enum value (`Enum.VALUE`). -/
structure Notice where
  qualifiedName : String
  reason : String
  sourceFile : String
  /-- The line of the use in the source file: the base line of the visit, which says how many lines
  of the file come before the document, and the line within the document, counted from one. -/
  line : Nat
  deriving Repr, BEq, DecidableEq, Inhabited

/-- The notice as it is shown to people. -/
def Notice.message (n : Notice) : String :=
  "GRAPHQL DEPRECATION WARNING: " ++ n.qualifiedName ++ " is deprecated with reason: '" ++
    n.reason ++ "': " ++ n.sourceFile ++ ":" ++ toString n.line

/-- The reason for a deprecation that gives none. -/
def defaultReason : String := "No longer supported"

/-- The reason that a member with these directives is deprecated for, if it is.  The first
`@deprecated` counts, and of its arguments the first `reason`; one that is not a string is as if it
were not there. -/
def reason? (directives : List Directive) : Option String :=
  (directives.find? (·.name = "deprecated")).map fun deprecated =>
    match deprecated.arguments.find? (·.name = "reason") with
    | some { value := .string reason, .. } => reason
    | _ => defaultReason

/-! ### Log events -/

inductive LogLevel where
  | warning
  deriving Repr, BEq, DecidableEq, Inhabited

/-- An entry of a log: a level, and named fields sorted by name. -/
structure LogEvent where
  level : LogLevel
  fields : List (String × String)
  deriving Repr, BEq, DecidableEq, Inhabited

/-- The log entry for a notice.  The message holds the reason, which is no field of its own. -/
def Notice.logEvent (n : Notice) : LogEvent where
  level := .warning
  fields :=
    [("line_number", toString n.line), ("message", n.message),
      ("qualified_name", n.qualifiedName), ("source_file", n.sourceFile)]

/-! ### Mismatches -/

/-- Why a document does not fit a schema. -/
inductive Mismatch where
  | missingRoot (kind : OperationKind)
  | unknownType (name : String)
  | unknownField (typeName field : String)
  | unknownDirective (name : String)
  | unknownArgument (owner name : String)
  | notAnEnum (name : String)
  | unknownEnumValue (enumType value : String)
  deriving Repr, BEq, DecidableEq, Inhabited

def Mismatch.message : Mismatch → String
  | .missingRoot kind => s!"schema does not define a root type for {kind.keyword} operations"
  | .unknownType name => "type `" ++ name ++ "` not defined"
  | .unknownField typeName field => "no field `" ++ field ++ "` in type `" ++ typeName ++ "`"
  | .unknownDirective name => "directive `@" ++ name ++ "` not defined"
  | .unknownArgument owner name => "no argument `" ++ name ++ "` on `" ++ owner ++ "`"
  | .notAnEnum name => "type `" ++ name ++ "` is not an enum"
  | .unknownEnumValue enumType value => "no value `" ++ value ++ "` in enum `" ++ enumType ++ "`"

end GraphqlClient.Deprecation
