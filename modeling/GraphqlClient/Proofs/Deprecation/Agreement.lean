import GraphqlClient.Proofs.Deprecation.Survey

/-!
# The walk does what the survey says

The walk remembers enum types and directive definitions, and hands notices to a reporter on the way.
From tables in which only what the schema says is remembered, it makes of the reporter's state what
taking the notices of the survey one by one makes of it, ends as the survey ends, and leaves tables
of the same kind (`follows_document`).  So a report is the survey of the document, folded into the
reporter (`Visitor.report_eq`).
-/

namespace GraphqlClient.Deprecation

/-! ### Coherent tables -/

/-- Whatever the tables hold under a name is what the schema has under it. -/
structure Tables.Coherent (tables : Tables) (s : Schema) : Prop where
  enums : ∀ name values, tables.enums.lookup name = some values →
    s.type? name = some (.enum values)
  directives : ∀ name definition, tables.directives.lookup name = some definition →
    s.directive? name = some definition

namespace Tables

variable {tables : Tables} {s : Schema}

/-- Empty tables agree with every schema. -/
lemma coherent_empty (s : Schema) : Tables.empty.Coherent s where
  enums := by simp [Tables.empty]
  directives := by simp [Tables.empty]

/-- Remembering an enum type of the schema keeps the tables coherent. -/
lemma Coherent.withEnum (h : tables.Coherent s) {name : String} {values : List EnumValueDefinition}
    (hname : s.type? name = some (.enum values)) :
    Coherent { tables with enums := (name, values) :: tables.enums } s where
  enums other values' hlookup := by
    rw [List.lookup_cons] at hlookup
    split at hlookup
    · next heq =>
      obtain rfl : other = name := by simpa using heq
      obtain rfl : values = values' := by simpa using hlookup
      exact hname
    · exact h.enums other values' hlookup
  directives := h.directives

/-- Remembering a directive definition of the schema keeps the tables coherent. -/
lemma Coherent.withDirective (h : tables.Coherent s) {name : String}
    {definition : DirectiveDefinition} (hname : s.directive? name = some definition) :
    Coherent { tables with directives := (name, definition) :: tables.directives } s where
  enums := h.enums
  directives other definition' hlookup := by
    rw [List.lookup_cons] at hlookup
    split at hlookup
    · next heq =>
      obtain rfl : other = name := by simpa using heq
      obtain rfl : definition = definition' := by simpa using hlookup
      exact hname
    · exact h.directives other definition' hlookup

end Tables

/-! ### Following a survey -/

section

variable {σ α β : Type} {v : Visitor} {report : Reporter σ}

/-- From coherent tables, the walk hands on the notices of the survey and ends as it does, with
coherent tables. -/
def Follows (v : Visitor) (report : Reporter σ) (w : Walk σ α) (s : Survey α) : Prop :=
  ∀ p : Progress σ, p.tables.Coherent v.schema → ∃ tables : Tables, tables.Coherent v.schema ∧
    w.run p = (s.result, { tables := tables, reported := s.notices.foldl report p.reported })

/-! ### Steps -/

/-- A walk that does nothing follows the survey that does nothing. -/
lemma follows_pure (a : α) : Follows v report (pure a) (pure a) :=
  fun p hp => ⟨p.tables, hp, rfl⟩

/-- A walk that stops follows the survey that stops. -/
lemma follows_throw (mismatch : Mismatch) :
    Follows v report (throw mismatch : Walk σ α) (Survey.fail mismatch) :=
  fun p hp => ⟨p.tables, hp, rfl⟩

/-- A step that ends with a mismatch keeps its progress and ends the walk. -/
lemma Walk.run_bind (w : Walk σ α) (f : α → Walk σ β) (p : Progress σ) :
    (w >>= f).run p =
      match w.run p with
      | (.ok a, q) => (f a).run q
      | (.error mismatch, q) => (.error mismatch, q) := by
  change (ExceptT.bindCont f (w.run p).1 : StateM (Progress σ) _) (w.run p).2 = _
  rcases w.run p with ⟨_ | _, q⟩ <;> rfl

/-- Asking for the progress made changes nothing. -/
lemma Walk.run_get (p : Progress σ) : (get : Walk σ (Progress σ)).run p = (.ok p, p) := rfl

/-- If two walks follow two surveys, then the one after the other follows both in turn. -/
lemma follows_bind {w : Walk σ α} {s : Survey α} {f : α → Walk σ β} {g : α → Survey β}
    (hw : Follows v report w s) (hf : ∀ a, Follows v report (f a) (g a)) :
    Follows v report (w >>= f) (s >>= g) := by
  intro p hp
  obtain ⟨tables, htables, hrun⟩ := hw p hp
  rw [Walk.run_bind, hrun]
  obtain ⟨notices, result⟩ := s
  -- The second walk starts from the tables of the first one, which is why these have to be
  -- coherent.
  cases result with
  | error mismatch => exact ⟨tables, htables, rfl⟩
  | ok a =>
    obtain ⟨tables', htables', hrun'⟩ := hf a ⟨tables, notices.foldl report p.reported⟩ htables
    refine ⟨tables', htables', ?_⟩
    change (f a).run _ = _
    rw [hrun', ← List.foldl_append]
    rfl

/-- If the walk over each item follows its survey, then so does the walk over a list of them. -/
lemma follows_forM {f : β → Walk σ Unit} {g : β → Survey Unit}
    (h : ∀ x, Follows v report (f x) (g x)) (xs : List β) :
    Follows v report (xs.forM f) (xs.forM g) := by
  induction xs with
  | nil => exact follows_pure ()
  | cons x xs ih => exact follows_bind (h x) fun _ => ih

/-- A walk asks for what must be there as the survey does. -/
lemma follows_required (found? : Option α) (mismatch : Mismatch) :
    Follows v report (Walk.required found? mismatch) (Survey.required found? mismatch) := by
  cases found? with
  | none => exact follows_throw mismatch
  | some found => exact follows_pure found

/-- A walk reports a use that the survey notes. -/
lemma follows_noteUse (qualifiedName : String) (directives : List Directive) (line : Nat) :
    Follows v report (Walk.noteUse v report qualifiedName directives line)
      (Survey.ofUse v qualifiedName directives line) := by
  intro p hp
  refine ⟨p.tables, hp, ?_⟩
  unfold Walk.noteUse Survey.ofUse Visitor.noticesOf
  cases reason? directives with
  | none => rfl
  | some reason => rfl

/-! ### Looking up -/

/-- A walk finds the values of an enum that the survey finds, whether in its tables or not. -/
lemma follows_enumValues? (typeName : String) :
    Follows v report (Walk.enumValues? v typeName) (Survey.enumValues? v typeName) := by
  intro p hp
  unfold Walk.enumValues? Survey.enumValues?
  rw [Walk.run_bind, Walk.run_get]
  dsimp only
  cases hlookup : p.tables.enums.lookup typeName with
  | some values =>
    rw [hp.enums typeName values hlookup]
    exact ⟨p.tables, hp, rfl⟩
  | none =>
    cases htype : v.schema.type? typeName with
    | none => exact ⟨p.tables, hp, rfl⟩
    | some body =>
      cases body with
      | enum values => exact ⟨_, hp.withEnum htype, rfl⟩
      | _ => exact ⟨p.tables, hp, rfl⟩

/-- A walk finds the fields of an input object that the survey finds. -/
lemma follows_inputFields? (typeName : String) :
    Follows v report (Walk.inputFields? v typeName) (Survey.inputFields? v typeName) := by
  unfold Walk.inputFields? Survey.inputFields?
  cases v.schema.type? typeName with
  | none => exact follows_throw _
  | some body =>
    cases body with
    | inputObject fields => exact follows_pure _
    | _ => exact follows_pure _

/-- A walk finds the directive that the survey finds, whether in its tables or not. -/
lemma follows_directiveDefinition (name : String) :
    Follows v report (Walk.directiveDefinition v name) (Survey.directiveDefinition v name) := by
  intro p hp
  unfold Walk.directiveDefinition Survey.directiveDefinition
  rw [Walk.run_bind, Walk.run_get]
  dsimp only
  cases hlookup : p.tables.directives.lookup name with
  | some definition =>
    rw [hp.directives name definition hlookup]
    exact ⟨p.tables, hp, rfl⟩
  | none =>
    cases hdirective : v.schema.directive? name with
    | none => exact ⟨p.tables, hp, rfl⟩
    | some definition => exact ⟨_, hp.withDirective hdirective, rfl⟩

/-- A walk finds the declaration that the survey finds. -/
lemma follows_declaration (owner : Owner) (name : String) :
    Follows v report (Walk.declaration owner name) (Survey.declaration owner name) :=
  follows_required _ _

/-! ### Values and directives -/

/-- The walk over an enum literal follows its survey. -/
lemma follows_enumLiteral (typeName name : String) (line : Nat) :
    Follows v report (Walk.enumLiteral v report typeName name line)
      (Survey.enumLiteral v typeName name line) := by
  refine follows_bind (follows_enumValues? typeName) fun values? => ?_
  cases values? with
  | none => exact follows_pure ()
  | some values => exact follows_bind (follows_required _ _) fun found => follows_noteUse _ _ _

mutual

/-- The walk over a value follows its survey. -/
lemma follows_value (typeName : String) : (x : Value) →
    Follows v report (Walk.value v report typeName x) (Survey.value v typeName x)
  | .enum name line => by
    rw [Walk.value, Survey.value]
    exact follows_enumLiteral typeName name line
  | .list items => by
    rw [Walk.value, Survey.value]
    exact follows_valueItems typeName items
  | .object fields => by
    rw [Walk.value, Survey.value]
    refine follows_bind (follows_inputFields? typeName) fun declared? => ?_
    cases declared? with
    | none => exact follows_pure ()
    | some declared => exact follows_valueFields _ fields
  | .null | .boolean _ | .int _ | .float _ | .string _ | .var _ => by
    simp only [Walk.value, Survey.value]
    exact follows_pure ()

/-- The walk over the items of a list follows their survey. -/
lemma follows_valueItems (typeName : String) : (items : List Value) →
    Follows v report (Walk.valueItems v report typeName items) (Survey.valueItems v typeName items)
  | [] => by
    rw [Walk.valueItems, Survey.valueItems]
    exact follows_pure ()
  | item :: items => by
    rw [Walk.valueItems, Survey.valueItems]
    exact follows_bind (follows_value typeName item) fun _ => follows_valueItems typeName items

/-- The walk over the fields of an object literal follows their survey. -/
lemma follows_valueFields (owner : Owner) : (fields : List (String × Value)) →
    Follows v report (Walk.valueFields v report owner fields) (Survey.valueFields v owner fields)
  | [] => by
    rw [Walk.valueFields, Survey.valueFields]
    exact follows_pure ()
  | (name, given) :: fields => by
    rw [Walk.valueFields, Survey.valueFields]
    refine follows_bind (follows_declaration owner name) fun declared => ?_
    exact follows_bind (follows_value declared.type.innerName given) fun _ =>
      follows_valueFields owner fields

end

/-- The walk over arguments follows their survey. -/
lemma follows_arguments (owner : Owner) (given : List Argument) :
    Follows v report (Walk.arguments v report owner given) (Survey.arguments v owner given) :=
  follows_forM (fun argument =>
    follows_bind (follows_declaration owner argument.name) fun declared =>
      follows_value declared.type.innerName argument.value) given

/-- The walk over directives follows their survey. -/
lemma follows_directives (given : List Directive) :
    Follows v report (Walk.directives v report given) (Survey.directives v given) :=
  follows_forM (fun directive => follows_bind (follows_directiveDefinition directive.name)
    fun _ => follows_arguments _ directive.arguments) given

/-! ### Selections -/

/-- A walk finds the definition of a field that the survey finds. -/
lemma follows_fieldDefinition (typeName name : String) :
    Follows v report (Walk.fieldDefinition v typeName name)
      (Survey.fieldDefinition v typeName name) :=
  follows_bind (follows_required _ _) fun _ => follows_required _ _

/-- The walk over a field apart from its selections follows its survey. -/
lemma follows_fieldHead (typeName : String) (head : FieldHead) :
    Follows v report (Walk.fieldHead v report typeName head)
      (Survey.fieldHead v typeName head) := by
  refine follows_bind (follows_fieldDefinition typeName head.name) fun _ => ?_
  refine follows_bind (follows_noteUse _ _ _) fun _ => ?_
  refine follows_bind (follows_arguments _ _) fun _ => ?_
  exact follows_bind (follows_directives _) fun _ => follows_pure _

mutual

/-- The walk over a selection follows its survey. -/
lemma follows_selection (typeName : String) : (s : Selection) →
    Follows v report (Walk.selection v report typeName s) (Survey.selection v typeName s)
  | .field head selections => by
    rw [Walk.selection, Survey.selection]
    exact follows_bind (follows_fieldHead typeName head) fun inner =>
      follows_selectionSet inner selections
  | .spread fragment given => by
    rw [Walk.selection, Survey.selection]
    exact follows_directives given
  | .inlineFragment onType? given selections => by
    rw [Walk.selection, Survey.selection]
    exact follows_bind (follows_directives given) fun _ =>
      follows_selectionSet (onType?.getD typeName) selections

/-- The walk over selections follows their survey. -/
lemma follows_selectionSet (typeName : String) : (ss : List Selection) →
    Follows v report (Walk.selectionSet v report typeName ss) (Survey.selectionSet v typeName ss)
  | [] => by
    rw [Walk.selectionSet, Survey.selectionSet]
    exact follows_pure ()
  | s :: ss => by
    rw [Walk.selectionSet, Survey.selectionSet]
    exact follows_bind (follows_selection typeName s) fun _ => follows_selectionSet typeName ss

end

/-! ### Documents -/

/-- The walk over a definition follows its survey. -/
lemma follows_definition (d : Definition) :
    Follows v report (Walk.definition v report d) (Survey.definition v d) := by
  cases d with
  | operation o =>
    refine follows_bind (follows_required _ _) fun root => ?_
    exact follows_bind (follows_directives o.directives) fun _ =>
      follows_selectionSet root o.selections
  | fragment f =>
    refine follows_bind (follows_required _ _) fun _ => ?_
    exact follows_bind (follows_directives f.directives) fun _ =>
      follows_selectionSet f.onType f.selections
  | _ => exact follows_pure ()

/-- The walk over a document does what the survey of the document says. -/
theorem follows_document (d : Document) :
    Follows v report (Walk.document v report d) (Survey.document v d) :=
  follows_forM follows_definition d

end

/-! ### Reports -/

namespace Visitor

/-- A report is the survey of the document: the reporter takes its notices one by one, and the
result is its result. -/
theorem report_eq {σ : Type} (v : Visitor) (reporter : Reporter σ) (initial : σ) (d : Document) :
    v.report reporter initial d =
      ((Survey.document v d).notices.foldl reporter initial, (Survey.document v d).result) := by
  have hfollows : Follows v reporter (Walk.document v reporter d) (Survey.document v d) :=
    follows_document d
  -- A report starts with empty tables, of which nothing has to be known.
  obtain ⟨tables, -, hrun⟩ := hfollows ⟨.empty, initial⟩ (Tables.coherent_empty v.schema)
  unfold Visitor.report
  rw [hrun]

/-- Collecting notices puts them after those collected before. -/
lemma foldl_collect (ns initial : List Notice) : ns.foldl collect initial = initial ++ ns := by
  induction ns generalizing initial with
  | nil => simp
  | cons n ns ih => simp [ih, collect]

/-- A visit comes to an end with some notices exactly when the survey of the document does. -/
theorem visit_eq_ok_iff_yields {v : Visitor} {d : Document} {ns : List Notice} :
    v.visit d = .ok ns ↔ (Survey.document v d).Yields ns () := by
  unfold Visitor.visit
  rw [report_eq, foldl_collect, List.nil_append]
  rcases hsurvey : Survey.document v d with ⟨notices, ⟨mismatch⟩ | ⟨⟨⟩⟩⟩ <;> simp [Survey.Yields]

end Visitor

end GraphqlClient.Deprecation
