import GraphqlClient.Proofs.Deprecation.Agreement
import GraphqlClient.Proofs.Deprecation.Uses
import GraphqlClient.Proofs.Outcome
import GraphqlClient.Document.Parser
import GraphqlClient.Schema.Build

/-!
# Documents that resolve against a schema

A document resolves against a schema if everything it names is there: the root type of each
operation, the type condition of each fragment definition, each field on the type that encloses it
most closely, each directive, each argument on its own field or directive, each enum literal in the
enum that is asked for, and each key of an object literal in the input object that is asked for.
The relations below say so part by part, each with the notices of the deprecated members that the
part uses, in the order in which they are written.  They mention neither errors nor tables nor a
reporter, and nothing is looked up in them: what a name stands for, and whether a member is
deprecated, is said by `Schema.HasType`, `IsFirst`, `NotesUse` and the like.

A visit answers with notices exactly when the document resolves with them (`visit_eq_ok_iff`).
-/

namespace GraphqlClient.Deprecation

/-! ### Values -/

/-- A literal that names no member of a schema, or a variable. -/
def PlainLiteral : Value → Prop
  | .enum .. | .list _ | .object _ => False
  | _ => True

mutual

/-- A value resolves where one of the named type, or a list of them at any depth, is asked for. -/
inductive ResolvesValue (v : Visitor) : String → Value → List Notice → Prop
  | plain {typeName x} (plain : PlainLiteral x) : ResolvesValue v typeName x []
  /-- An enum literal is one of the values of the enum that is asked for. -/
  | enum {typeName name line values found ns} (isEnum : v.schema.HasType typeName (.enum values))
      (member : IsFirst (·.name = name) values found)
      (use : NotesUse v (typeName ++ "." ++ name) found.directives line ns) :
      ResolvesValue v typeName (.enum name line) ns
  /-- A scalar takes any enum literal. -/
  | enumAtScalar {typeName name line} (isScalar : v.schema.HasType typeName .scalar) :
      ResolvesValue v typeName (.enum name line) []
  | list {typeName items ns} (each : ResolvesItems v typeName items ns) :
      ResolvesValue v typeName (.list items) ns
  | object {typeName fields declared ns}
      (isInput : v.schema.HasType typeName (.inputObject declared))
      (each : ResolvesFields v declared fields ns) :
      ResolvesValue v typeName (.object fields) ns
  /-- An object literal is not looked into where no input object is asked for. -/
  | closedObject {typeName fields body} (isDefined : v.schema.HasType typeName body)
      (isOther : ∀ declared, body ≠ .inputObject declared) :
      ResolvesValue v typeName (.object fields) []

inductive ResolvesItems (v : Visitor) : String → List Value → List Notice → Prop
  | nil {typeName} : ResolvesItems v typeName [] []
  | cons {typeName item items ns ns'} (head : ResolvesValue v typeName item ns)
      (tail : ResolvesItems v typeName items ns') :
      ResolvesItems v typeName (item :: items) (ns ++ ns')

/-- Each key of an object literal is declared, and what stands under it resolves at the type that is
declared for it. -/
inductive ResolvesFields (v : Visitor) :
    List InputValue → List (String × Value) → List Notice → Prop
  | nil {declared} : ResolvesFields v declared [] []
  | cons {declared name given fields input inner ns ns'}
      (key : IsFirst (·.name = name) declared input) (type : input.type.Names inner)
      (head : ResolvesValue v inner given ns)
      (tail : ResolvesFields v declared fields ns') :
      ResolvesFields v declared ((name, given) :: fields) (ns ++ ns')

end

/-! ### Arguments and directives -/

/-- Each argument is among those declared by the field or directive it is given to, and its value
resolves at the type that is declared for it. -/
inductive ResolvesArguments (v : Visitor) (declared : List InputValue) :
    List Argument → List Notice → Prop
  | nil : ResolvesArguments v declared [] []
  | cons {given rest input inner ns ns'} (name : IsFirst (·.name = given.name) declared input)
      (type : input.type.Names inner) (head : ResolvesValue v inner given.value ns)
      (tail : ResolvesArguments v declared rest ns') :
      ResolvesArguments v declared (given :: rest) (ns ++ ns')

inductive ResolvesDirectives (v : Visitor) : List Directive → List Notice → Prop
  | nil : ResolvesDirectives v [] []
  | cons {given rest definition ns ns'} (name : v.schema.HasDirective given.name definition)
      (head : ResolvesArguments v definition.arguments given.arguments ns)
      (tail : ResolvesDirectives v rest ns') :
      ResolvesDirectives v (given :: rest) (ns ++ ns')

/-! ### Selections -/

mutual

/-- A selection resolves on the type that encloses it. -/
inductive ResolvesSelection (v : Visitor) : String → Selection → List Notice → Prop
  /-- A field is one of the enclosing type.  It encloses its own selections with the type that is
  left of its declared one without wrappers. -/
  | field {typeName head selections body definition inner used given applied selected}
      (isDefined : v.schema.HasType typeName body)
      (member : v.schema.HasField typeName body head.name definition)
      (use : NotesUse v (typeName ++ "." ++ head.name) definition.directives head.line used)
      (arguments : ResolvesArguments v definition.arguments head.arguments given)
      (directives : ResolvesDirectives v head.directives applied)
      (type : definition.type.Names inner) (set : ResolvesSelections v inner selections selected) :
      ResolvesSelection v typeName (.field head selections) (used ++ given ++ applied ++ selected)
  /-- What a spread refers to is not part of the selection. -/
  | spread {typeName fragment directives ns} (each : ResolvesDirectives v directives ns) :
      ResolvesSelection v typeName (.spread fragment directives) ns
  /-- An inline fragment with a type condition encloses its selections with that type. -/
  | inlineOn {typeName onType directives selections ns ns'}
      (each : ResolvesDirectives v directives ns)
      (set : ResolvesSelections v onType selections ns') :
      ResolvesSelection v typeName (.inlineFragment (some onType) directives selections) (ns ++ ns')
  /-- Without one, the enclosing type stays. -/
  | inline {typeName directives selections ns ns'}
      (each : ResolvesDirectives v directives ns)
      (set : ResolvesSelections v typeName selections ns') :
      ResolvesSelection v typeName (.inlineFragment none directives selections) (ns ++ ns')

inductive ResolvesSelections (v : Visitor) : String → List Selection → List Notice → Prop
  | nil {typeName} : ResolvesSelections v typeName [] []
  | cons {typeName s ss ns ns'} (head : ResolvesSelection v typeName s ns)
      (tail : ResolvesSelections v typeName ss ns') :
      ResolvesSelections v typeName (s :: ss) (ns ++ ns')

end

/-! ### Documents -/

/-- A definition that can be executed. -/
def Executable : Definition → Prop
  | .operation _ | .fragment _ => True
  | _ => False

inductive ResolvesDefinition (v : Visitor) : Definition → List Notice → Prop
  | operation {o root ns ns'} (isRoot : v.schema.HasRoot o.kind root)
      (directives : ResolvesDirectives v o.directives ns)
      (set : ResolvesSelections v root o.selections ns') :
      ResolvesDefinition v (.operation o) (ns ++ ns')
  | fragment {f body ns ns'} (isDefined : v.schema.HasType f.onType body)
      (directives : ResolvesDirectives v f.directives ns)
      (set : ResolvesSelections v f.onType f.selections ns') :
      ResolvesDefinition v (.fragment f) (ns ++ ns')
  /-- A definition of the type system uses nothing. -/
  | typeSystem {d} (other : ¬ Executable d) : ResolvesDefinition v d []

/-- The document resolves against the schema of the visitor, and uses the deprecated members that
the notices name. -/
inductive ResolvesDocument (v : Visitor) : Document → List Notice → Prop
  | nil : ResolvesDocument v [] []
  | cons {d ds ns ns'} (head : ResolvesDefinition v d ns) (tail : ResolvesDocument v ds ns') :
      ResolvesDocument v (d :: ds) (ns ++ ns')

/-! ### Surveys and resolution

A survey comes to an end with some notices exactly when the part resolves with them.  The proofs
follow the recursion of the syntax; at each node the parts of the survey answer to the premises of
one rule. -/

namespace Survey

variable {v : Visitor}

/-- The survey finds the values of an enum, or nothing for a scalar, and fails for other types. -/
lemma yields_enumValues?_iff {typeName : String} {ns : List Notice}
    {values? : Option (List EnumValueDefinition)} :
    (enumValues? v typeName).Yields ns values? ↔
      ns = [] ∧ ((∃ values, v.schema.HasType typeName (.enum values) ∧ values? = some values) ∨
        (v.schema.HasType typeName .scalar ∧ values? = none)) := by
  simp only [← Schema.type?_eq_some_iff]
  unfold enumValues?
  cases v.schema.type? typeName with
  | none => simp [not_yields_fail]
  | some body => cases body <;> simp [yields_pure_iff, not_yields_fail, eq_comm]

/-- The survey finds the fields of an input object, or nothing for other types. -/
lemma yields_inputFields?_iff {typeName : String} {ns : List Notice}
    {declared? : Option (List InputValue)} :
    (inputFields? v typeName).Yields ns declared? ↔
      ns = [] ∧
        ((∃ declared, v.schema.HasType typeName (.inputObject declared) ∧
          declared? = some declared) ∨
        (∃ body, v.schema.HasType typeName body ∧ (∀ declared, body ≠ .inputObject declared) ∧
          declared? = none)) := by
  simp only [← Schema.type?_eq_some_iff]
  unfold inputFields?
  cases v.schema.type? typeName with
  | none => simp [not_yields_fail]
  | some body => cases body <;> simp [yields_pure_iff, eq_comm]

/-- A use comes to its notices. -/
lemma yields_ofUse_iff_notesUse {qualifiedName : String} {directives : List Directive} {line : Nat}
    {ns : List Notice} :
    (ofUse v qualifiedName directives line).Yields ns () ↔
      NotesUse v qualifiedName directives line ns :=
  yields_ofUse_iff.trans notesUse_iff.symm

/-- The survey of an enum literal comes to an end exactly if the literal resolves. -/
lemma yields_enumLiteral_iff {typeName name : String} {line : Nat} {ns : List Notice} :
    (enumLiteral v typeName name line).Yields ns () ↔
      ResolvesValue v typeName (.enum name line) ns := by
  unfold enumLiteral
  rw [yields_bind_iff]
  constructor
  · rintro ⟨before, values?, after, hlookup, hrest, rfl⟩
    rcases yields_enumValues?_iff.mp hlookup with ⟨rfl, ⟨values, htype, rfl⟩ | ⟨htype, rfl⟩⟩
    · obtain ⟨found, hmember, huse⟩ := yields_required_bind_iff.mp hrest
      exact .enum htype (find?_eq_some_iff_isFirst.mp hmember) (yields_ofUse_iff_notesUse.mp huse)
    · obtain ⟨rfl, -⟩ := yields_pure_iff.mp hrest
      exact .enumAtScalar htype
  · intro h
    cases h with
    | plain plain => exact plain.elim
    | @enum _ _ _ values found _ htype hmember huse =>
      refine ⟨[], some values, _, yields_enumValues?_iff.mpr ⟨rfl, .inl ⟨values, htype, rfl⟩⟩,
        ?_, rfl⟩
      exact yields_required_bind_iff.mpr
        ⟨found, find?_eq_some_iff_isFirst.mpr hmember, yields_ofUse_iff_notesUse.mpr huse⟩
    | enumAtScalar htype =>
      exact ⟨[], none, [], yields_enumValues?_iff.mpr ⟨rfl, .inr ⟨htype, rfl⟩⟩,
        yields_pure_iff.mpr ⟨rfl, rfl⟩, rfl⟩

/-- A plain literal resolves, and with no notices. -/
lemma resolvesValue_plain_iff {typeName : String} {x : Value} {ns : List Notice}
    (plain : PlainLiteral x) : ResolvesValue v typeName x ns ↔ ns = [] := by
  constructor
  · intro h
    cases h with
    | plain => rfl
    | _ => exact plain.elim
  · rintro rfl
    exact .plain plain

mutual

/-- The survey of a value comes to an end exactly if the value resolves. -/
lemma yields_value_iff (typeName : String) : (x : Value) → {ns : List Notice} →
    ((value v typeName x).Yields ns () ↔ ResolvesValue v typeName x ns)
  | .enum name line, ns => by
    rw [value]
    exact yields_enumLiteral_iff
  | .list items, ns => by
    rw [value, yields_valueItems_iff typeName items]
    constructor
    · exact .list
    · intro h
      cases h with
      | plain plain => exact plain.elim
      | list each => exact each
  | .object fields, ns => by
    rw [value, yields_bind_iff]
    constructor
    · rintro ⟨before, declared?, after, hlookup, hrest, rfl⟩
      -- What is asked for is an input object, or else its fields are left alone.
      obtain ⟨rfl, ⟨declared, htype, rfl⟩ | ⟨body, htype, hother, rfl⟩⟩ :=
        yields_inputFields?_iff.mp hlookup
      · exact .object htype ((yields_valueFields_iff ⟨typeName, declared⟩ fields).mp hrest)
      · obtain ⟨rfl, -⟩ := yields_pure_iff.mp hrest
        exact .closedObject htype hother
    · intro h
      cases h with
      | plain plain => exact plain.elim
      | @object _ _ declared _ htype each =>
        exact ⟨[], some declared, ns,
          yields_inputFields?_iff.mpr ⟨rfl, .inl ⟨declared, htype, rfl⟩⟩,
          (yields_valueFields_iff ⟨typeName, declared⟩ fields).mpr each, rfl⟩
      | closedObject htype hother =>
        exact ⟨[], none, [], yields_inputFields?_iff.mpr ⟨rfl, .inr ⟨_, htype, hother, rfl⟩⟩,
          yields_pure_iff.mpr ⟨rfl, rfl⟩, rfl⟩
  | .null, _ | .boolean _, _ | .int _, _ | .float _, _ | .string _, _ | .var _, _ => by
    refine Iff.trans ?_ (resolvesValue_plain_iff (by trivial)).symm
    simp [value, yields_pure_iff]

/-- The survey of the items of a list comes to an end exactly if they resolve. -/
lemma yields_valueItems_iff (typeName : String) : (items : List Value) → {ns : List Notice} →
    ((valueItems v typeName items).Yields ns () ↔ ResolvesItems v typeName items ns)
  | [], ns => by
    rw [valueItems, yields_pure_iff]
    constructor
    · rintro ⟨rfl, -⟩
      exact .nil
    · rintro ⟨⟩
      exact ⟨rfl, rfl⟩
  | item :: items, ns => by
    rw [valueItems, yields_seq_iff]
    constructor
    · rintro ⟨before, after, hhead, htail, rfl⟩
      exact .cons ((yields_value_iff typeName item).mp hhead)
        ((yields_valueItems_iff typeName items).mp htail)
    · intro h
      cases h with
      | cons head tail =>
        exact ⟨_, _, (yields_value_iff typeName item).mpr head,
          (yields_valueItems_iff typeName items).mpr tail, rfl⟩

/-- The survey of the fields of an object literal comes to an end exactly if they resolve. -/
lemma yields_valueFields_iff (owner : Owner) : (fields : List (String × Value)) →
    {ns : List Notice} →
    ((valueFields v owner fields).Yields ns () ↔ ResolvesFields v owner.declared fields ns)
  | [], ns => by
    rw [valueFields, yields_pure_iff]
    constructor
    · rintro ⟨rfl, -⟩
      exact .nil
    · rintro ⟨⟩
      exact ⟨rfl, rfl⟩
  | (name, given) :: fields, ns => by
    rw [valueFields, declaration, yields_required_bind_iff]
    simp only [findInput?_eq_some_iff]
    constructor
    · rintro ⟨input, hkey, hrest⟩
      obtain ⟨before, after, hhead, htail, rfl⟩ := yields_seq_iff.mp hrest
      exact .cons hkey input.type.names_innerName
        ((yields_value_iff input.type.innerName given).mp hhead)
        ((yields_valueFields_iff owner fields).mp htail)
    · intro h
      cases h with
      | cons key type head tail =>
        rw [← TypeRef.innerName_eq_iff] at type
        subst type
        exact ⟨_, key, yields_seq_iff.mpr ⟨_, _, (yields_value_iff _ given).mpr head,
          (yields_valueFields_iff owner fields).mpr tail, rfl⟩⟩

end

/-- The survey of an argument ends well exactly if the argument is declared and its value
resolves. -/
lemma yields_argument_iff {owner : Owner} {given : Argument} {ns : List Notice} :
    (argument v owner given).Yields ns () ↔
      ∃ input, IsFirst (·.name = given.name) owner.declared input ∧
        ResolvesValue v input.type.innerName given.value ns := by
  unfold argument declaration
  rw [yields_required_bind_iff]
  simp only [yields_value_iff, findInput?_eq_some_iff]

/-- The survey of arguments comes to an end exactly if they resolve. -/
lemma yields_arguments_iff {owner : Owner} {given : List Argument} {ns : List Notice} :
    (arguments v owner given).Yields ns () ↔ ResolvesArguments v owner.declared given ns := by
  unfold arguments
  refine yields_forM_iff ⟨?_, ?_⟩ ⟨?_, ?_⟩
  · rintro ⟨⟩
    rfl
  · rintro rfl
    exact .nil
  · intro h
    cases h with
    | cons name type head tail =>
      rw [← TypeRef.innerName_eq_iff] at type
      subst type
      exact ⟨_, _, yields_argument_iff.mpr ⟨_, name, head⟩, tail, rfl⟩
  · rintro ⟨before, after, hhead, htail, rfl⟩
    obtain ⟨input, hname, hvalue⟩ := yields_argument_iff.mp hhead
    exact .cons hname input.type.names_innerName hvalue htail

/-- The survey of a directive ends well exactly if the directive is defined and its arguments
resolve. -/
lemma yields_directive_iff {given : Directive} {ns : List Notice} :
    (directive v given).Yields ns () ↔
      ∃ definition, v.schema.HasDirective given.name definition ∧
        ResolvesArguments v definition.arguments given.arguments ns := by
  unfold directive directiveDefinition
  rw [yields_required_bind_iff]
  simp only [yields_arguments_iff, Schema.directive?_eq_some_iff]

/-- The survey of directives comes to an end exactly if they resolve. -/
lemma yields_directives_iff {given : List Directive} {ns : List Notice} :
    (directives v given).Yields ns () ↔ ResolvesDirectives v given ns := by
  unfold directives
  refine yields_forM_iff ⟨?_, ?_⟩ ⟨?_, ?_⟩
  · rintro ⟨⟩
    rfl
  · rintro rfl
    exact .nil
  · intro h
    cases h with
    | cons name head tail => exact ⟨_, _, yields_directive_iff.mpr ⟨_, name, head⟩, tail, rfl⟩
  · rintro ⟨before, after, hhead, htail, rfl⟩
    obtain ⟨definition, hname, harguments⟩ := yields_directive_iff.mp hhead
    exact .cons hname harguments htail

/-- The survey finds the field that the named type has under a name. -/
lemma yields_fieldDefinition_iff {typeName name : String} {ns : List Notice}
    {definition : FieldDefinition} :
    (fieldDefinition v typeName name).Yields ns definition ↔
      ∃ body, v.schema.HasType typeName body ∧
        v.schema.HasField typeName body name definition ∧ ns = [] := by
  unfold fieldDefinition
  rw [yields_required_bind_iff]
  simp only [yields_required_iff, Schema.type?_eq_some_iff, Schema.fieldOf?_eq_some_iff]

/-- What the survey of a field gives apart from its selections, from its definition on. -/
lemma yields_fieldHead_iff {typeName inner : String} {head : FieldHead} {ns : List Notice} :
    (fieldHead v typeName head).Yields ns inner ↔
      ∃ body definition used given applied, v.schema.HasType typeName body ∧
        v.schema.HasField typeName body head.name definition ∧
        NotesUse v (typeName ++ "." ++ head.name) definition.directives head.line used ∧
        ResolvesArguments v definition.arguments head.arguments given ∧
        ResolvesDirectives v head.directives applied ∧
        definition.type.Names inner ∧ ns = used ++ given ++ applied := by
  unfold fieldHead
  rw [yields_bind_iff]
  constructor
  · rintro ⟨none, definition, rest, hdefinition, hrest, rfl⟩
    obtain ⟨body, htype, hfield, rfl⟩ := yields_fieldDefinition_iff.mp hdefinition
    obtain ⟨use, rest, huse, hafterUse, rfl⟩ := yields_seq_iff.mp hrest
    obtain ⟨given, rest, hgiven, hafterGiven, rfl⟩ := yields_seq_iff.mp hafterUse
    obtain ⟨applied, rest, happlied, hafterApplied, rfl⟩ := yields_seq_iff.mp hafterGiven
    obtain ⟨rfl, hinner⟩ := yields_pure_iff.mp hafterApplied
    exact ⟨body, definition, use, given, applied, htype, hfield, yields_ofUse_iff_notesUse.mp huse,
      yields_arguments_iff.mp hgiven, yields_directives_iff.mp happlied,
      TypeRef.innerName_eq_iff.mp hinner, by simp⟩
  · rintro ⟨body, definition, used, given, applied, htype, hfield, huse, hgiven, happlied,
      hinner, rfl⟩
    refine ⟨[], definition, _, yields_fieldDefinition_iff.mpr ⟨body, htype, hfield, rfl⟩, ?_, rfl⟩
    refine yields_seq_iff.mpr
      ⟨used, given ++ applied, yields_ofUse_iff_notesUse.mpr huse, ?_, by simp⟩
    refine yields_seq_iff.mpr ⟨given, applied, yields_arguments_iff.mpr hgiven, ?_, rfl⟩
    exact yields_seq_iff.mpr ⟨applied, [], yields_directives_iff.mpr happlied,
      yields_pure_iff.mpr ⟨rfl, TypeRef.innerName_eq_iff.mpr hinner⟩, by simp⟩

mutual

/-- The survey of a selection comes to an end exactly if the selection resolves. -/
lemma yields_selection_iff (typeName : String) : (s : Selection) → {ns : List Notice} →
    ((selection v typeName s).Yields ns () ↔ ResolvesSelection v typeName s ns)
  | .field head selections, ns => by
    rw [selection, yields_bind_iff]
    constructor
    · rintro ⟨before, inner, after, hhead, hset, rfl⟩
      obtain ⟨body, definition, used, given, applied, htype, hfield, huse, hgiven, happlied, hinner,
        rfl⟩ := yields_fieldHead_iff.mp hhead
      exact .field htype hfield huse hgiven happlied hinner
        ((yields_selectionSet_iff _ selections).mp hset)
    · intro h
      cases h with
      | @field _ _ _ body definition inner used given applied selected htype hfield huse hgiven
          happlied hinner hset =>
        exact ⟨_, inner, selected,
          yields_fieldHead_iff.mpr
            ⟨body, definition, used, given, applied, htype, hfield, huse, hgiven, happlied, hinner,
              rfl⟩,
          (yields_selectionSet_iff _ selections).mpr hset, rfl⟩
  | .spread fragment directives, ns => by
    rw [selection, yields_directives_iff]
    constructor
    · exact .spread
    · rintro ⟨⟩
      assumption
  | .inlineFragment (some onType) directives selections, ns => by
    rw [selection, yields_seq_iff]
    constructor
    · rintro ⟨before, after, hdirectives, hset, rfl⟩
      exact .inlineOn (yields_directives_iff.mp hdirectives)
        ((yields_selectionSet_iff onType selections).mp hset)
    · intro h
      cases h with
      | inlineOn each set =>
        exact ⟨_, _, yields_directives_iff.mpr each,
          (yields_selectionSet_iff onType selections).mpr set, rfl⟩
  | .inlineFragment none directives selections, ns => by
    rw [selection, yields_seq_iff]
    constructor
    · rintro ⟨before, after, hdirectives, hset, rfl⟩
      exact .inline (yields_directives_iff.mp hdirectives)
        ((yields_selectionSet_iff typeName selections).mp hset)
    · intro h
      cases h with
      | inline each set =>
        exact ⟨_, _, yields_directives_iff.mpr each,
          (yields_selectionSet_iff typeName selections).mpr set, rfl⟩

/-- The survey of selections comes to an end exactly if they resolve. -/
lemma yields_selectionSet_iff (typeName : String) : (ss : List Selection) → {ns : List Notice} →
    ((selectionSet v typeName ss).Yields ns () ↔ ResolvesSelections v typeName ss ns)
  | [], ns => by
    rw [selectionSet, yields_pure_iff]
    constructor
    · rintro ⟨rfl, -⟩
      exact .nil
    · rintro ⟨⟩
      exact ⟨rfl, rfl⟩
  | s :: ss, ns => by
    rw [selectionSet, yields_seq_iff]
    constructor
    · rintro ⟨before, after, hhead, htail, rfl⟩
      exact .cons ((yields_selection_iff typeName s).mp hhead)
        ((yields_selectionSet_iff typeName ss).mp htail)
    · intro h
      cases h with
      | cons head tail =>
        exact ⟨_, _, (yields_selection_iff typeName s).mpr head,
          (yields_selectionSet_iff typeName ss).mpr tail, rfl⟩

end

/-- The survey of an operation comes to an end exactly if the operation resolves. -/
lemma yields_operation_iff {o : Operation} {ns : List Notice} :
    (operation v o).Yields ns () ↔ ResolvesDefinition v (.operation o) ns := by
  unfold operation
  rw [yields_required_bind_iff]
  simp only [Schema.root?_eq_some_iff]
  constructor
  · rintro ⟨root, hroot, hrest⟩
    obtain ⟨before, after, hdirectives, hset, rfl⟩ := yields_seq_iff.mp hrest
    exact .operation hroot (yields_directives_iff.mp hdirectives)
      ((yields_selectionSet_iff root o.selections).mp hset)
  · intro h
    cases h with
    | operation isRoot directives set =>
      exact ⟨_, isRoot, yields_seq_iff.mpr ⟨_, _, yields_directives_iff.mpr directives,
        (yields_selectionSet_iff _ o.selections).mpr set, rfl⟩⟩
    | typeSystem other => exact (other trivial).elim

/-- The survey of a fragment definition comes to an end exactly if the definition resolves. -/
lemma yields_fragment_iff {f : Fragment} {ns : List Notice} :
    (fragment v f).Yields ns () ↔ ResolvesDefinition v (.fragment f) ns := by
  unfold fragment
  rw [yields_required_bind_iff]
  simp only [Schema.type?_eq_some_iff]
  constructor
  · rintro ⟨body, hdefined, hrest⟩
    obtain ⟨before, after, hdirectives, hset, rfl⟩ := yields_seq_iff.mp hrest
    exact .fragment hdefined (yields_directives_iff.mp hdirectives)
      ((yields_selectionSet_iff f.onType f.selections).mp hset)
  · intro h
    cases h with
    | fragment isDefined directives set =>
      exact ⟨_, isDefined, yields_seq_iff.mpr ⟨_, _, yields_directives_iff.mpr directives,
        (yields_selectionSet_iff f.onType f.selections).mpr set, rfl⟩⟩
    | typeSystem other => exact (other trivial).elim

/-- A definition of the type system resolves, and with no notices. -/
lemma resolvesDefinition_typeSystem_iff {d : Definition} {ns : List Notice}
    (other : ¬ Executable d) :
    ResolvesDefinition v d ns ↔ ns = [] := by
  constructor
  · intro h
    cases h with
    | typeSystem => rfl
    | _ => exact (other trivial).elim
  · rintro rfl
    exact .typeSystem other

/-- The survey of a definition comes to an end exactly if the definition resolves. -/
lemma yields_definition_iff {d : Definition} {ns : List Notice} :
    (definition v d).Yields ns () ↔ ResolvesDefinition v d ns := by
  cases d with
  | operation o => exact yields_operation_iff
  | fragment f => exact yields_fragment_iff
  | _ =>
    refine Iff.trans ?_ (resolvesDefinition_typeSystem_iff (by exact id)).symm
    simp [definition, yields_pure_iff]

/-- The survey of a document comes to an end exactly if the document resolves. -/
lemma yields_document_iff {d : Document} {ns : List Notice} :
    (document v d).Yields ns () ↔ ResolvesDocument v d ns := by
  unfold document
  refine yields_forM_iff ⟨?_, ?_⟩ ⟨?_, ?_⟩
  · rintro ⟨⟩
    rfl
  · rintro rfl
    exact .nil
  · intro h
    cases h with
    | cons head tail => exact ⟨_, _, yields_definition_iff.mpr head, tail, rfl⟩
  · rintro ⟨before, after, hhead, htail, rfl⟩
    exact .cons (yields_definition_iff.mp hhead) htail

end Survey

/-! ### Visits -/

/-- The notices of a visit are those of the uses that the document resolves with. -/
lemma Visitor.resolves_of_visit {v : Visitor} {d : Document} {ns : List Notice}
    (h : v.visit d = .ok ns) : ResolvesDocument v d ns :=
  Survey.yields_document_iff.mp (visit_eq_ok_iff_yields.mp h)

/-- A document that resolves is answered with the notices of its uses. -/
lemma Visitor.visit_of_resolves {v : Visitor} {d : Document} {ns : List Notice}
    (h : ResolvesDocument v d ns) : v.visit d = .ok ns :=
  visit_eq_ok_iff_yields.mpr (Survey.yields_document_iff.mpr h)

namespace Visitor

end Visitor

end GraphqlClient.Deprecation
