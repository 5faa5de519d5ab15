import GraphqlClient.Json.Basic
import GraphqlClient.Proofs.Entries
import Mathlib

/-!
# Values that are valid under a schema

A schema is a JSON value that says which values are valid.  Three keywords of draft 7 are
understood, which are enough for schemas of records: `type` names the type of the value,
`properties` has schemas for the members with certain names, and `additionalProperties` is the
schema for members with any other name.  All other keywords are passed over, as those are that only
describe (`title`, `description`, `default`).
-/

namespace GraphqlClient.Json

/-- The type of a value, by its name in schemas.  Whole numbers have no type of their own here. -/
def typeName : Json → String
  | .null => "null"
  | .boolean _ => "boolean"
  | .number _ => "number"
  | .string _ => "string"
  | .array _ => "array"
  | .object _ => "object"

/-- What stands under a keyword of a schema. -/
def keyword? (schema : Json) (name : String) : Option Json :=
  match schema with
  | .object keywords => keywords.lookup name
  | _ => none

/-- The schema for a member, by the name of the member.  Where nothing is said about it, everything
is valid. -/
def forMember (schema : Json) (name : String) : Json :=
  match (schema.keyword? "properties").bind (·.keyword? name) with
  | some property => property
  | none => (schema.keyword? "additionalProperties").getD (.boolean true)

/-- Whether a schema allows values of a type.  A truth value allows all values or none. -/
def allowsType (schema : Json) (type : String) : Bool :=
  match schema with
  | .boolean allowed => allowed
  | .object keywords =>
    match keywords.lookup "type" with
    | some (.string name) => name = type
    | _ => true
  | _ => false

mutual

/-- Whether a value is valid under a schema: it has a type that is allowed, and so have its
members. -/
def validates (schema : Json) : Json → Bool
  | .object members => schema.allowsType "object" && validatesMembers schema members
  | v => schema.allowsType v.typeName

/-- Whether each member of an object is valid under the schema for it. -/
def validatesMembers (schema : Json) : List (String × Json) → Bool
  | [] => true
  | (name, v) :: members => (schema.forMember name).validates v && validatesMembers schema members

end

variable {schema v : Json} {members : Entries Json}

/-- Members are valid exactly if each is under the schema for its name. -/
lemma validatesMembers_iff :
    schema.validatesMembers members = true ↔
      ∀ member ∈ members, (schema.forMember member.1).validates member.2 = true := by
  induction members with
  | nil => simp [validatesMembers]
  | cons member members ih => rw [validatesMembers, Bool.and_eq_true, ih, List.forall_mem_cons]

/-- An object is valid exactly if objects are allowed and each of its members is valid. -/
lemma validates_object_iff :
    schema.validates (.object members) = true ↔ schema.allowsType "object" = true ∧
      ∀ member ∈ members, (schema.forMember member.1).validates member.2 = true := by
  rw [validates, Bool.and_eq_true, validatesMembers_iff]

/-- A string is valid exactly if strings are allowed. -/
lemma validates_string (text : String) :
    schema.validates (.string text) = schema.allowsType "string" :=
  rfl

/-- The values of type string are the strings. -/
lemma typeName_eq_string_iff : v.typeName = "string" ↔ ∃ text, v = .string text := by
  cases v <;> simp [typeName]

/-- The values of type object are the objects. -/
lemma typeName_eq_object_iff : v.typeName = "object" ↔ ∃ members, v = .object members := by
  cases v <;> simp [typeName]

/-- A valid value has a type that the schema allows. -/
lemma allowsType_of_validates (h : schema.validates v = true) :
    schema.allowsType v.typeName = true := by
  cases v with
  | object members => exact (validates_object_iff.mp h).1
  | null | boolean | number | string | array => exact h

end GraphqlClient.Json
