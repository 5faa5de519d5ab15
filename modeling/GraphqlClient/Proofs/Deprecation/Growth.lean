import GraphqlClient.Proofs.Deprecation.Resolution
import GraphqlClient.Proofs.Deprecation.Steps
import GraphqlClient.Proofs.Entries
import Mathlib

/-!
# Growing schemas

A schema grows if nothing that is found in it is lost or changed: its types stay of the same kind,
and every look-up that succeeds still does (`Schema.GrowsInto`).  Types may get new members, fields
and directives new arguments, and there may be new types, directives and roots.

A walk that comes to an end has succeeded in all its look-ups but two: an enum literal is left alone
where a scalar is asked for, and an object literal is left alone where no input object is.  These
two depend on the kind of a type alone, which is why the kind has to stay.  So a document that
resolves against a schema resolves with the same notices against every schema that the first one
grows into (`ResolvesDocument.of_growsInto`).
-/

namespace GraphqlClient

/-! ### Larger schemas -/

/-- The kinds of types. -/
inductive TypeKind where
  | scalar
  | object
  | interface
  | union
  | enum
  | inputObject
  deriving DecidableEq

def TypeBody.kind : TypeBody → TypeKind
  | .scalar => .scalar
  | .object .. => .object
  | .interface .. => .interface
  | .union .. => .union
  | .enum .. => .enum
  | .inputObject .. => .inputObject

/-- The field that a type of the schema has under a name. -/
def Schema.field? (s : Schema) (typeName name : String) : Option FieldDefinition :=
  (s.type? typeName).bind (s.fieldOf? typeName · name)

/-- The names of a type's fields: those that it declares, and those that need no declaration. -/
lemma Schema.name_of_fieldOf? {s : Schema} {typeName name : String} {body : TypeBody}
    {field : FieldDefinition} (h : s.fieldOf? typeName body name = some field) :
    name ∈ body.declaredFields.map (·.name) ∨ name = "__typename" ∨ name = "__schema" ∨
      name = "__type" := by
  unfold fieldOf? at h
  split at h
  · next found hfound =>
    have hname := List.find?_some hfound
    exact .inl (List.mem_map.mpr ⟨found, List.mem_of_find?_eq_some hfound, of_decide_eq_true hname⟩)
  · grind

/-- Whatever the first look-up finds, the second one finds as well. -/
def Keeps {κ α : Type} (find find' : κ → Option α) : Prop :=
  ∀ key x, find key = some x → find' key = some x

/-- The second schema has everything that the first one has, and perhaps more. -/
structure Schema.GrowsInto (s s' : Schema) : Prop where
  roots : Keeps s.root? s'.root?
  kinds : ∀ name body, s.type? name = some body → ∃ body', s'.type? name = some body' ∧
    body'.kind = body.kind
  /-- A field keeps its type and its directives, and may take more arguments. -/
  fields : ∀ typeName name field, s.field? typeName name = some field →
    ∃ field', s'.field? typeName name = some field' ∧ field'.type = field.type ∧
      field'.directives = field.directives ∧
        Keeps (findInput? field.arguments) (findInput? field'.arguments)
  enumValues : ∀ typeName values values', s.type? typeName = some (.enum values) →
    s'.type? typeName = some (.enum values') →
      Keeps (fun name => values.find? (·.name = name)) (fun name => values'.find? (·.name = name))
  inputFields : ∀ typeName declared declared', s.type? typeName = some (.inputObject declared) →
    s'.type? typeName = some (.inputObject declared') →
      Keeps (findInput? declared) (findInput? declared')
  /-- A directive may take more arguments. -/
  directives : ∀ name definition, s.directive? name = some definition →
    ∃ definition', s'.directive? name = some definition' ∧
      Keeps (findInput? definition.arguments) (findInput? definition'.arguments)

section

variable {κ α : Type} {s s' : Schema} {typeName name : String}

/-- A look-up keeps what it finds. -/
lemma Keeps.refl (find : κ → Option α) : Keeps find find := fun _ _ h => h

/-- What is declared after everything else hides nothing. -/
lemma keeps_find?_append (p : κ → α → Bool) (xs more : List α) :
    Keeps (fun key => xs.find? (p key)) (fun key => (xs ++ more).find? (p key)) := by
  intro key x (h : xs.find? (p key) = some x)
  change (xs ++ more).find? (p key) = some x
  rw [List.find?_append, h]
  rfl

/-- An input that was declared under a name still is. -/
lemma Keeps.input {declared declared' : List InputValue} {input : InputValue}
    (h : Keeps (findInput? declared) (findInput? declared'))
    (hfirst : IsFirst (·.name = name) declared input) : IsFirst (·.name = name) declared' input :=
  findInput?_eq_some_iff.mp (h name input (findInput?_eq_some_iff.mpr hfirst))

namespace Schema.GrowsInto

/-- The kind of a type stays. -/
lemma type {body : TypeBody} (h : s.GrowsInto s') (htype : s.HasType typeName body) :
    ∃ body', s'.HasType typeName body' ∧ body'.kind = body.kind := by
  obtain ⟨body', htype', hkind⟩ := h.kinds typeName body (type?_eq_some_iff.mpr htype)
  exact ⟨body', type?_eq_some_iff.mp htype', hkind⟩

/-- The root of each kind of operation stays. -/
lemma root {kind : OperationKind} {root : String} (h : s.GrowsInto s')
    (hroot : s.HasRoot kind root) :
    s'.HasRoot kind root :=
  root?_eq_some_iff.mp (h.roots kind root (root?_eq_some_iff.mpr hroot))

/-- A scalar stays a scalar. -/
lemma scalar (h : s.GrowsInto s') (htype : s.HasType typeName .scalar) :
    s'.HasType typeName .scalar := by
  obtain ⟨body', htype', hkind⟩ := h.type htype
  cases body' with
  | scalar => exact htype'
  | _ => cases hkind

/-- An enum keeps each of its values. -/
lemma enum {values : List EnumValueDefinition} {found : EnumValueDefinition} (h : s.GrowsInto s')
    (htype : s.HasType typeName (.enum values)) (hfound : IsFirst (·.name = name) values found) :
    ∃ values', s'.HasType typeName (.enum values') ∧ IsFirst (·.name = name) values' found := by
  obtain ⟨body', htype', hkind⟩ := h.type htype
  cases body' with
  | enum values' =>
    have hkeeps := h.enumValues typeName values values' (type?_eq_some_iff.mpr htype)
      (type?_eq_some_iff.mpr htype')
    have hfound' := hkeeps name found (find?_eq_some_iff_isFirst.mpr hfound)
    exact ⟨values', htype', find?_eq_some_iff_isFirst.mp hfound'⟩
  | _ => cases hkind

/-- An input object keeps each of its fields. -/
lemma inputObject {declared : List InputValue} (h : s.GrowsInto s')
    (htype : s.HasType typeName (.inputObject declared)) :
    ∃ declared', s'.HasType typeName (.inputObject declared') ∧
      Keeps (findInput? declared) (findInput? declared') := by
  obtain ⟨body', htype', hkind⟩ := h.type htype
  cases body' with
  | inputObject declared' =>
    exact ⟨declared', htype', h.inputFields typeName declared declared'
      (type?_eq_some_iff.mpr htype) (type?_eq_some_iff.mpr htype')⟩
  | _ => cases hkind

/-- No other type becomes an input object. -/
lemma not_inputObject {body : TypeBody} (h : s.GrowsInto s') (htype : s.HasType typeName body)
    (hother : ∀ declared, body ≠ .inputObject declared) :
    ∃ body', s'.HasType typeName body' ∧ ∀ declared, body' ≠ .inputObject declared := by
  obtain ⟨body', htype', hkind⟩ := h.type htype
  refine ⟨body', htype', ?_⟩
  rintro declared' rfl
  cases body with
  | inputObject declared => exact hother declared rfl
  | _ => cases hkind

/-- A type keeps each of its fields. -/
lemma field {body : TypeBody} {definition : FieldDefinition} (h : s.GrowsInto s')
    (htype : s.HasType typeName body) (hfield : s.HasField typeName body name definition) :
    ∃ body' definition', s'.HasType typeName body' ∧ s'.HasField typeName body' name definition' ∧
      definition'.type = definition.type ∧ definition'.directives = definition.directives ∧
      Keeps (findInput? definition.arguments) (findInput? definition'.arguments) := by
  have hfound : s.field? typeName name = some definition := by
    rw [Schema.field?, type?_eq_some_iff.mpr htype]
    exact fieldOf?_eq_some_iff.mpr hfield
  obtain ⟨definition', hfound', hsame⟩ := h.fields typeName name definition hfound
  obtain ⟨body', htype', hfield'⟩ := Option.bind_eq_some_iff.mp hfound'
  exact ⟨body', definition', type?_eq_some_iff.mp htype', fieldOf?_eq_some_iff.mp hfield', hsame⟩

/-- A directive stays, with each of its arguments. -/
lemma directive {definition : DirectiveDefinition} (h : s.GrowsInto s')
    (hdirective : s.HasDirective name definition) :
    ∃ definition', s'.HasDirective name definition' ∧
      Keeps (findInput? definition.arguments) (findInput? definition'.arguments) := by
  obtain ⟨definition', hdirective', hkeeps⟩ :=
    h.directives name definition (directive?_eq_some_iff.mpr hdirective)
  exact ⟨definition', directive?_eq_some_iff.mp hdirective', hkeeps⟩

end Schema.GrowsInto

end

namespace Deprecation

/-! ### Resolving against a larger schema -/

section

variable {v : Visitor} {s' : Schema}

/-- The notices of a use do not depend on the rest of the schema. -/
lemma NotesUse.withSchema {qualifiedName : String} {directives : List Directive} {line : Nat}
    {ns : List Notice} (h : NotesUse v qualifiedName directives line ns) (s' : Schema) :
    NotesUse { v with schema := s' } qualifiedName directives line ns := by
  cases h with
  | deprecated deprecates => exact .deprecated deprecates
  | supported never => exact .supported never

mutual

/-- A value that resolves still does when the schema grows. -/
lemma ResolvesValue.of_growsInto (h : v.schema.GrowsInto s') : (x : Value) → {typeName : String} →
    {ns : List Notice} → ResolvesValue v typeName x ns →
    ResolvesValue { v with schema := s' } typeName x ns
  | .enum name line, typeName, ns, hx => by
    cases hx with
    | plain plain => exact plain.elim
    | enum isEnum member use =>
      obtain ⟨values', isEnum', member'⟩ := h.enum isEnum member
      exact .enum isEnum' member' (use.withSchema s')
    -- A scalar has to stay one, or else the literal would be looked up.
    | enumAtScalar isScalar => exact .enumAtScalar (h.scalar isScalar)
  | .list items, typeName, ns, hx => by
    cases hx with
    | plain plain => exact plain.elim
    | list each => exact .list (ResolvesItems.of_growsInto h items each)
  | .object fields, typeName, ns, hx => by
    cases hx with
    | plain plain => exact plain.elim
    | object isInput each =>
      obtain ⟨declared', isInput', hkeeps⟩ := h.inputObject isInput
      exact .object isInput' (ResolvesFields.of_growsInto h fields hkeeps each)
    -- And what is no input object must not become one.
    | closedObject isDefined isOther =>
      obtain ⟨body', isDefined', isOther'⟩ := h.not_inputObject isDefined isOther
      exact .closedObject isDefined' isOther'
  | .null, _, _, hx | .boolean _, _, _, hx | .int _, _, _, hx | .float _, _, _, hx
    | .string _, _, _, hx
  | .var _, _, _, hx => by
    cases hx
    exact .plain trivial

/-- The items of a list that resolve still do when the schema grows. -/
lemma ResolvesItems.of_growsInto (h : v.schema.GrowsInto s') :
    (items : List Value) → {typeName : String} →
    {ns : List Notice} → ResolvesItems v typeName items ns →
    ResolvesItems { v with schema := s' } typeName items ns
  | [], _, _, hitems => by
    cases hitems
    exact .nil
  | item :: items, _, _, hitems => by
    cases hitems with
    | cons head tail =>
      exact .cons (ResolvesValue.of_growsInto h item head) (ResolvesItems.of_growsInto h items tail)

/-- More fields may be declared by an input object. -/
lemma ResolvesFields.of_growsInto (h : v.schema.GrowsInto s') : (fields : List (String × Value)) →
    {declared declared' : List InputValue} → {ns : List Notice} →
    Keeps (findInput? declared) (findInput? declared') → ResolvesFields v declared fields ns →
    ResolvesFields { v with schema := s' } declared' fields ns
  | [], _, _, _, _, hfields => by
    cases hfields
    exact .nil
  | (name, given) :: fields, _, _, _, hkeeps, hfields => by
    cases hfields with
    | cons key type head tail =>
      exact .cons (hkeeps.input key) type (ResolvesValue.of_growsInto h given head)
        (ResolvesFields.of_growsInto h fields hkeeps tail)

end

/-- More arguments may be declared by a field or directive. -/
lemma ResolvesArguments.of_growsInto (h : v.schema.GrowsInto s')
    {declared declared' : List InputValue} {given : List Argument} {ns : List Notice}
    (hkeeps : Keeps (findInput? declared) (findInput? declared'))
    (hgiven : ResolvesArguments v declared given ns) :
    ResolvesArguments { v with schema := s' } declared' given ns := by
  induction hgiven with
  | nil => exact .nil
  | cons name type head tail ih =>
    exact .cons (hkeeps.input name) type (ResolvesValue.of_growsInto h _ head) ih

/-- Directives that resolve still do when the schema grows. -/
lemma ResolvesDirectives.of_growsInto (h : v.schema.GrowsInto s') {given : List Directive}
    {ns : List Notice} (hgiven : ResolvesDirectives v given ns) :
    ResolvesDirectives { v with schema := s' } given ns := by
  induction hgiven with
  | nil => exact .nil
  | cons name head tail ih =>
    obtain ⟨definition', name', hkeeps⟩ := h.directive name
    exact .cons name' (head.of_growsInto h hkeeps) ih

mutual

/-- A selection that resolves still does when the schema grows. -/
lemma ResolvesSelection.of_growsInto (h : v.schema.GrowsInto s') :
    (s : Selection) → {typeName : String} →
    {ns : List Notice} → ResolvesSelection v typeName s ns →
    ResolvesSelection { v with schema := s' } typeName s ns
  | .field head selections, typeName, _, hs => by
    cases hs with
    | field isDefined member use arguments directives type set =>
      obtain ⟨body', definition', isDefined', member', htype, hdirectives, hkeeps⟩ :=
        h.field isDefined member
      rw [← hdirectives] at use
      rw [← htype] at type
      exact .field isDefined' member' (use.withSchema s') (arguments.of_growsInto h hkeeps)
        (directives.of_growsInto h) type (ResolvesSelections.of_growsInto h selections set)
  | .spread _ _, _, _, hs => by
    cases hs with
    | spread each => exact .spread (each.of_growsInto h)
  | .inlineFragment (some _) _ selections, _, _, hs => by
    cases hs with
    | inlineOn each set =>
      exact .inlineOn (each.of_growsInto h) (ResolvesSelections.of_growsInto h selections set)
  | .inlineFragment none _ selections, _, _, hs => by
    cases hs with
    | inline each set =>
      exact .inline (each.of_growsInto h) (ResolvesSelections.of_growsInto h selections set)

/-- Selections that resolve still do when the schema grows. -/
lemma ResolvesSelections.of_growsInto (h : v.schema.GrowsInto s') :
    (ss : List Selection) → {typeName : String} →
    {ns : List Notice} → ResolvesSelections v typeName ss ns →
    ResolvesSelections { v with schema := s' } typeName ss ns
  | [], _, _, hss => by
    cases hss
    exact .nil
  | s :: ss, _, _, hss => by
    cases hss with
    | cons head tail =>
      exact .cons (ResolvesSelection.of_growsInto h s head)
        (ResolvesSelections.of_growsInto h ss tail)

end

/-- A definition that resolves still does when the schema grows. -/
lemma ResolvesDefinition.of_growsInto (h : v.schema.GrowsInto s') {d : Definition}
    {ns : List Notice} (hd : ResolvesDefinition v d ns) :
    ResolvesDefinition { v with schema := s' } d ns := by
  cases hd with
  | operation isRoot directives set =>
    exact .operation (h.root isRoot) (directives.of_growsInto h)
      (ResolvesSelections.of_growsInto h _ set)
  | fragment isDefined directives set =>
    obtain ⟨body', isDefined', -⟩ := h.type isDefined
    exact .fragment isDefined' (directives.of_growsInto h)
      (ResolvesSelections.of_growsInto h _ set)
  | typeSystem other => exact .typeSystem other

/-- What resolves against a schema resolves with the same notices against a larger one. -/
theorem ResolvesDocument.of_growsInto (h : v.schema.GrowsInto s') {d : Document} {ns : List Notice}
    (hd : ResolvesDocument v d ns) : ResolvesDocument { v with schema := s' } d ns := by
  induction hd with
  | nil => exact .nil
  | cons head tail ih => exact .cons (head.of_growsInto h) ih

end

/-! ### Visits -/

namespace Visitor

/-- A schema can grow without harm: a document that fits it fits what it grows into, and has the
same notices. -/
theorem visit_of_growsInto {v : Visitor} {s' : Schema} (h : v.schema.GrowsInto s') {d : Document}
    {ns : List Notice} (hvisit : v.visit d = .ok ns) :
    ({ v with schema := s' } : Visitor).visit d = .ok ns :=
  visit_of_resolves ((resolves_of_visit hvisit).of_growsInto h)

/-! ### A schema that gets more of everything -/

/-- The argument that names a color. -/
def colorArgument : InputValue :=
  { description? := none, name := "color", type := .named "Color", default? := none,
    directives := [] }

/-- The field of the painter's schema, with some more arguments. -/
def paintField (more : List InputValue) : FieldDefinition :=
  { description? := none, name := "paint", arguments := colorArgument :: more,
    type := .named "Color", directives := [] }

/-- The painter's schema with another color, another argument, another field, a mutation and a
directive. -/
def studio : Schema where
  types :=
    [("Brush", .scalar),
      ("Mutation", .object [] [paintField []]),
      ("Color", .enum (colors ++ [{ description? := none, name := "GREEN", directives := [] }])),
      ("Query", .object ["Canvas"]
        [paintField [{ colorArgument with name := "under" }],
          { paintField [] with name := "erase" }])]
  directives :=
    [{ description? := none, name := "wet", arguments := [], repeatable := false,
       locations := ["FIELD"] }]
  query? := some "Query"
  mutation? := some "Mutation"
  subscription? := none

/-- The studio has everything that the painter's schema has. -/
lemma painter_growsInto_studio : painter.schema.GrowsInto studio where
  roots kind root h := by
    cases kind with
    | query => exact h
    | mutation | subscription => cases h
  kinds name body h := by
    have hmem := Entries.mem_of_lookup h
    simp only [painter, List.mem_cons, List.not_mem_nil, or_false, Prod.mk.injEq] at hmem
    rcases hmem with ⟨rfl, rfl⟩ | ⟨rfl, rfl⟩
    · exact ⟨_, rfl, rfl⟩
    · exact ⟨_, rfl, rfl⟩
  fields typeName name field h := by
    obtain ⟨body, htype, hfield⟩ := Option.bind_eq_some_iff.mp h
    have hmem := Entries.mem_of_lookup htype
    simp only [painter, List.mem_cons, List.not_mem_nil, or_false, Prod.mk.injEq] at hmem
    rcases hmem with ⟨rfl, rfl⟩ | ⟨rfl, rfl⟩
    · -- Enums have no fields.
      simp [Schema.fieldOf?, TypeBody.declaredFields, TypeBody.isComposite, painter] at hfield
    · rcases Schema.name_of_fieldOf? hfield with hname | hname | hname | hname
      · obtain rfl : name = "paint" := by simpa [TypeBody.declaredFields] using hname
        cases hfield
        exact ⟨_, rfl, rfl, rfl, keeps_find?_append _ _ _⟩
      all_goals
        subst hname
        cases hfield
        exact ⟨_, rfl, rfl, rfl, Keeps.refl _⟩
  enumValues typeName values values' htype htype' := by
    have hmem := Entries.mem_of_lookup htype
    simp only [painter, List.mem_cons, List.not_mem_nil, or_false, Prod.mk.injEq,
      TypeBody.enum.injEq, reduceCtorEq, and_false] at hmem
    obtain ⟨rfl, rfl⟩ := hmem
    cases htype'
    exact keeps_find?_append _ _ _
  inputFields typeName declared declared' htype htype' := by
    have hmem := Entries.mem_of_lookup htype
    simp [painter] at hmem
  directives name definition h := by
    cases h

/-- Red is the one color to be warned of before and after. -/
theorem visit_of_growsInto_studio :
    painter.schema.GrowsInto studio ∧
    painter.visit (painting ["BLUE", "RED"]) =
      .ok [{ qualifiedName := "Color.RED", reason := "too warm", sourceFile := "paint.rb",
             line := 12 }] ∧
    ({ painter with schema := studio } : Visitor).visit (painting ["BLUE", "RED"]) =
      .ok [{ qualifiedName := "Color.RED", reason := "too warm", sourceFile := "paint.rb",
             line := 12 }] := by
  have hvisit : painter.visit (painting ["BLUE", "RED"]) =
      .ok [{ qualifiedName := "Color.RED", reason := "too warm", sourceFile := "paint.rb",
             line := 12 }] := rfl
  exact ⟨painter_growsInto_studio, hvisit, visit_of_growsInto painter_growsInto_studio hvisit⟩

end Visitor

end Deprecation

end GraphqlClient
