import GraphqlClient.Schema.Basic
import Mathlib.Tactic.Lemma

/-!
# What names stand for in a schema

What a schema says about a name, without a word about how it is looked up.  Of several types,
directives, arguments or enum values with one name the first counts (`IsFirst`).  A type has the
fields that it declares, and a few that need no declaration (`Schema.HasField`).  A reference to a
type names what its wrappers are around (`TypeRef.Names`).

Each look-up finds exactly what the name stands for (`Schema.type?_eq_some_iff`,
`Schema.fieldOf?_eq_some_iff`, `findInput?_eq_some_iff` and so on).
-/

namespace GraphqlClient

/-! ### The first of several -/

/-- The item is the first one in a list with a property. -/
def IsFirst {α : Type} (p : α → Prop) (items : List α) (x : α) : Prop :=
  p x ∧ ∃ before after, items = before ++ x :: after ∧ ∀ y ∈ before, ¬ p y

section

variable {α : Type} {p : α → Prop} {items : List α} {x y : α}

/-- Searching a list from the front finds the first item. -/
lemma find?_eq_some_iff_isFirst [DecidablePred p] :
    items.find? (fun y => decide (p y)) = some x ↔ IsFirst p items x := by
  rw [List.find?_eq_some_iff_append, IsFirst]
  simp

/-- Only one item is the first. -/
lemma IsFirst.unique (h : IsFirst p items x) (h' : IsFirst p items y) : x = y := by
  classical
  have hfind := find?_eq_some_iff_isFirst.mpr h
  exact Option.some.inj (hfind.symm.trans (find?_eq_some_iff_isFirst.mpr h'))

end

/-! ### Types -/

/-- The name that is left of a reference to a type when all its wrappers are taken off. -/
inductive TypeRef.Names : TypeRef → String → Prop
  | named {name} : Names (.named name) name
  | list {item name} (inside : Names item name) : Names (.list item) name
  | nonNull {inner name} (inside : Names inner name) : Names (.nonNull inner) name

/-- Taking the wrappers off gives the name that is left. -/
lemma TypeRef.innerName_eq_iff {type : TypeRef} {name : String} :
    type.innerName = name ↔ type.Names name := by
  induction type with
  | named given =>
    constructor
    · rintro rfl
      exact .named
    · rintro ⟨⟩
      rfl
  | list item ih =>
    rw [innerName, ih]
    constructor
    · exact .list
    · rintro ⟨⟩
      assumption
  | nonNull inner ih =>
    rw [innerName, ih]
    constructor
    · exact .nonNull
    · rintro ⟨⟩
      assumption

/-- A reference to a type names the one that is left of it. -/
lemma TypeRef.names_innerName (type : TypeRef) : type.Names type.innerName :=
  innerName_eq_iff.mp rfl

/-- The type has values from which fields can be selected. -/
inductive TypeBody.Composite : TypeBody → Prop
  | object {interfaces fields} : Composite (.object interfaces fields)
  | interface {interfaces fields} : Composite (.interface interfaces fields)
  | union {members} : Composite (.union members)

/-- The kind of a type tells whether it is composite. -/
lemma TypeBody.isComposite_iff {body : TypeBody} : body.isComposite = true ↔ body.Composite := by
  cases body with
  | object | interface | union => exact iff_of_true rfl (by constructor)
  | scalar | enum | inputObject => exact iff_of_false (by simp [isComposite]) nofun

/-- An object or interface type declares a field under a name. -/
inductive TypeBody.Declares : TypeBody → String → FieldDefinition → Prop
  | object {interfaces fields name field} (first : IsFirst (·.name = name) fields field) :
      Declares (.object interfaces fields) name field
  | interface {interfaces fields name field} (first : IsFirst (·.name = name) fields field) :
      Declares (.interface interfaces fields) name field

/-- Among the declared fields of a type, the search finds those that it declares. -/
lemma TypeBody.find?_declaredFields_eq_some_iff {body : TypeBody} {name : String}
    {field : FieldDefinition} :
    body.declaredFields.find? (·.name = name) = some field ↔ body.Declares name field := by
  cases body with
  | object interfaces fields =>
    rw [declaredFields, find?_eq_some_iff_isFirst]
    constructor
    · exact .object
    · rintro ⟨⟩
      assumption
  | interface interfaces fields =>
    rw [declaredFields, find?_eq_some_iff_isFirst]
    constructor
    · exact .interface
    · rintro ⟨⟩
      assumption
  | scalar | union | enum | inputObject => exact ⟨nofun, nofun⟩

/-- Where the search finds nothing, no field is declared. -/
lemma TypeBody.find?_declaredFields_eq_none_iff {body : TypeBody} {name : String} :
    body.declaredFields.find? (·.name = name) = none ↔ ∀ field, ¬ body.Declares name field := by
  simp only [← find?_declaredFields_eq_some_iff]
  exact Option.eq_none_iff_forall_ne_some

/-! ### Schemas -/

namespace Schema

variable {s : Schema} {name typeName : String}

/-- The type with this name consists of the given parts. -/
def HasType (s : Schema) (name : String) (body : TypeBody) : Prop :=
  IsFirst (·.1 = name) s.types (name, body)

/-- The directive with this name has the given definition. -/
def HasDirective (s : Schema) (name : String) (definition : DirectiveDefinition) : Prop :=
  IsFirst (·.name = name) s.directives definition

/-- Operations of the given kind start at the named type. -/
inductive HasRoot (s : Schema) : OperationKind → String → Prop
  | query {root} (h : s.query? = some root) : HasRoot s .query root
  | mutation {root} (h : s.mutation? = some root) : HasRoot s .mutation root
  | subscription {root} (h : s.subscription? = some root) : HasRoot s .subscription root

/-- A type has the fields that it declares.  Every composite type also has the field `__typename`,
and the type that queries start at has the two fields that the schema is asked for with, unless a
declared field has the same name. -/
inductive HasField (s : Schema) (typeName : String) (body : TypeBody) :
    String → FieldDefinition → Prop
  | declared {name field} (declares : body.Declares name field) :
      HasField s typeName body name field
  | typename (undeclared : ∀ field, ¬ body.Declares "__typename" field)
      (composite : body.Composite) :
      HasField s typeName body "__typename" Builtin.typenameField
  | schema (undeclared : ∀ field, ¬ body.Declares "__schema" field)
      (isQuery : s.HasRoot .query typeName) :
      HasField s typeName body "__schema" Builtin.schemaField
  | type (undeclared : ∀ field, ¬ body.Declares "__type" field)
      (isQuery : s.HasRoot .query typeName) :
      HasField s typeName body "__type" Builtin.typeField

/-- A type is found under its name. -/
lemma type?_eq_some_iff {body : TypeBody} : s.type? name = some body ↔ s.HasType name body := by
  rw [type?, List.lookup_eq_some_iff]
  simp only [bne_iff_ne]
  constructor
  · rintro ⟨before, after, hsplit, hbefore⟩
    exact ⟨rfl, before, after, hsplit, fun entry hentry => (hbefore entry hentry).symm⟩
  · rintro ⟨-, before, after, hsplit, hbefore⟩
    exact ⟨before, after, hsplit, fun entry hentry => Ne.symm (hbefore entry hentry)⟩

/-- A directive is found under its name. -/
lemma directive?_eq_some_iff {definition : DirectiveDefinition} :
    s.directive? name = some definition ↔ s.HasDirective name definition :=
  find?_eq_some_iff_isFirst

/-- A root type is found under its kind of operation. -/
lemma root?_eq_some_iff {kind : OperationKind} {root : String} :
    s.root? kind = some root ↔ s.HasRoot kind root := by
  cases kind with
  | query =>
    constructor
    · exact .query
    · rintro ⟨⟩
      assumption
  | mutation =>
    constructor
    · exact .mutation
    · rintro ⟨⟩
      assumption
  | subscription =>
    constructor
    · exact .subscription
    · rintro ⟨⟩
      assumption

/-- A field is found under its name, whether it is declared or not. -/
lemma fieldOf?_eq_some_iff {body : TypeBody} {field : FieldDefinition} :
    s.fieldOf? typeName body name = some field ↔ s.HasField typeName body name field := by
  unfold fieldOf?
  split
  · next found hfound =>
    -- a declared field hides the others
    have hdeclares := TypeBody.find?_declaredFields_eq_some_iff.mp hfound
    constructor
    · intro h
      cases h
      exact .declared hdeclares
    · intro h
      cases h with
      | declared declares =>
        rw [← hfound]
        exact TypeBody.find?_declaredFields_eq_some_iff.mpr declares
      | typename undeclared | schema undeclared | type undeclared =>
        exact absurd hdeclares (undeclared found)
  · next hnone =>
    have hundeclared := TypeBody.find?_declaredFields_eq_none_iff.mp hnone
    -- Nothing is declared under the name, so that one of the fields without a declaration is meant.
    have htypename : (decide (name = "__typename") && body.isComposite) = true ↔
        name = "__typename" ∧ body.Composite := by
      rw [Bool.and_eq_true, decide_eq_true_eq, TypeBody.isComposite_iff]
    constructor
    · intro h
      split at h
      · next hboth =>
        obtain ⟨rfl, hcomposite⟩ := htypename.mp hboth
        cases h
        exact .typename hundeclared hcomposite
      · split at h
        · next hquery =>
          split at h
          · next hname =>
            subst hname
            cases h
            exact .schema hundeclared (.query hquery)
          · split at h
            · next hname =>
              subst hname
              cases h
              exact .type hundeclared (.query hquery)
            · cases h
        · cases h
    · intro h
      cases h with
      | declared declares => exact absurd declares (hundeclared field)
      | typename _ composite => exact if_pos (htypename.mpr ⟨rfl, composite⟩)
      | schema _ isQuery =>
        cases isQuery with
        | query hquery => rw [if_neg (by simp), if_pos hquery, if_pos rfl]
      | type _ isQuery =>
        cases isQuery with
        | query hquery => rw [if_neg (by simp), if_pos hquery, if_neg (by simp), if_pos rfl]

end Schema

/-- The input that is declared under a name is found. -/
lemma findInput?_eq_some_iff {declared : List InputValue} {name : String} {input : InputValue} :
    findInput? declared name = some input ↔ IsFirst (·.name = name) declared input :=
  find?_eq_some_iff_isFirst

end GraphqlClient
