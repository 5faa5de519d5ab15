import GraphqlClient.Proofs.Deprecation.Resolution
import GraphqlClient.Proofs.Deprecation.Steps
import GraphqlClient.Proofs.Outcome
import GraphqlClient.Schema.Build
import Mathlib

/-!
# Enum literals in documents

Where a document writes enum literals, and of which type a value is asked for there.  A visit has a
notice of its own for each literal that stands for a deprecated value
(`ResolvesDocument.sublist_notices`), except for those in the definitions of an operation's
variables: these are not walked, neither the default values nor the directives, so that they could
just as well not be there (`Walk.document_withoutVariables`).
-/

namespace GraphqlClient

/-! ### Literals and their types -/

/-- An enum literal where a value of some type is asked for. -/
structure EnumLiteral where
  typeName : String
  name : String
  line : Nat
  deriving Repr, DecidableEq

mutual

/-- The enum literals in a value where one of the named type, or a list of them, is asked for.  Only
the literals of input objects have fields with types. -/
def Value.literals (s : Schema) (typeName : String) : Value → List EnumLiteral
  | .enum name line => [{ typeName, name, line }]
  | .list items => Value.literalsOfItems s typeName items
  | .object fields =>
    match s.type? typeName with
    | some (.inputObject declared) => Value.literalsOfFields s declared fields
    | _ => []
  | _ => []

def Value.literalsOfItems (s : Schema) (typeName : String) : List Value → List EnumLiteral
  | [] => []
  | item :: items => item.literals s typeName ++ Value.literalsOfItems s typeName items

def Value.literalsOfFields (s : Schema) (declared : List InputValue) :
    List (String × Value) → List EnumLiteral
  | [] => []
  | (name, given) :: fields =>
    match findInput? declared name with
    | some input =>
      given.literals s input.type.innerName ++ Value.literalsOfFields s declared fields
    | none => Value.literalsOfFields s declared fields

end

/-- The literals in an argument that is one of those declared. -/
def Argument.literals (s : Schema) (declared : List InputValue) (given : Argument) :
    List EnumLiteral :=
  match findInput? declared given.name with
  | some input => given.value.literals s input.type.innerName
  | none => []

def Directive.literals (s : Schema) (given : Directive) : List EnumLiteral :=
  match s.directive? given.name with
  | some definition => given.arguments.flatMap (Argument.literals s definition.arguments)
  | none => []

mutual

/-- The literals in a selection that is made on the named type. -/
def Selection.literals (s : Schema) (typeName : String) : Selection → List EnumLiteral
  | .field head selections =>
    match (s.type? typeName).bind (s.fieldOf? typeName · head.name) with
    | some definition =>
      head.arguments.flatMap (Argument.literals s definition.arguments) ++
        head.directives.flatMap (Directive.literals s) ++
        Selection.literalsOfAll s definition.type.innerName selections
    | none => []
  | .spread _ given => given.flatMap (Directive.literals s)
  | .inlineFragment onType? given selections =>
    given.flatMap (Directive.literals s) ++ Selection.literalsOfAll s (onType?.getD typeName)
      selections

def Selection.literalsOfAll (s : Schema) (typeName : String) : List Selection → List EnumLiteral
  | [] => []
  | selection :: selections =>
    selection.literals s typeName ++ Selection.literalsOfAll s typeName selections

end

/-- The literals in the default value of a variable and in its directives. -/
def VariableDefinition.literals (s : Schema) (x : VariableDefinition) : List EnumLiteral :=
  x.default?.toList.flatMap (Value.literals s x.type.innerName) ++
    x.directives.flatMap (Directive.literals s)

namespace Definition

/-- The literals in the definitions of an operation's variables. -/
def variableLiterals (s : Schema) : Definition → List EnumLiteral
  | .operation o => o.variableDefinitions.flatMap (VariableDefinition.literals s)
  | _ => []

/-- The literals in the rest of an operation, or in a fragment definition. -/
def bodyLiterals (s : Schema) : Definition → List EnumLiteral
  | .operation o =>
    o.directives.flatMap (Directive.literals s) ++
      (s.root? o.kind).toList.flatMap (Selection.literalsOfAll s · o.selections)
  | .fragment f =>
    f.directives.flatMap (Directive.literals s) ++ Selection.literalsOfAll s f.onType f.selections
  | _ => []

/-- The definition with no variables, if it is one of an operation. -/
def withoutVariables : Definition → Definition
  | .operation o => .operation { o with variableDefinitions := [] }
  | d => d

end Definition

namespace Document

def variableLiterals (s : Schema) (d : Document) : List EnumLiteral :=
  d.flatMap (Definition.variableLiterals s)

def bodyLiterals (s : Schema) (d : Document) : List EnumLiteral :=
  d.flatMap (Definition.bodyLiterals s)

/-- All enum literals in the operations and fragment definitions of the document, in order. -/
def literals (s : Schema) (d : Document) : List EnumLiteral :=
  d.flatMap fun definition => definition.variableLiterals s ++ definition.bodyLiterals s

def withoutVariables (d : Document) : Document := d.map Definition.withoutVariables

end Document

namespace Deprecation

/-- The notice for a literal that stands for a deprecated value of an enum. -/
def Visitor.noticesOfLiteral (v : Visitor) (x : EnumLiteral) : List Notice :=
  match v.schema.type? x.typeName with
  | some (.enum values) =>
    match values.find? (·.name = x.name) with
    | some found => v.noticesOf (x.typeName ++ "." ++ x.name) found.directives x.line
    | none => []
  | _ => []

variable {v : Visitor}

/-! ### Notices of values and directives

Where nothing but enum literals can be deprecated, the notices are those of the literals. -/

mutual

/-- A value that resolves has the notices of its literals. -/
lemma ResolvesValue.notices_eq : (x : Value) → {typeName : String} → {ns : List Notice} →
    ResolvesValue v typeName x ns → ns = (x.literals v.schema typeName).flatMap v.noticesOfLiteral
  | .enum name line, _, _, h => by
    rw [Value.literals, List.flatMap_singleton, Visitor.noticesOfLiteral]
    cases h with
    | plain plain => exact plain.elim
    | enum isEnum member use =>
      simp only [Schema.type?_eq_some_iff.mpr isEnum, find?_eq_some_iff_isFirst.mpr member]
      exact notesUse_iff.mp use
    | enumAtScalar isScalar => simp only [Schema.type?_eq_some_iff.mpr isScalar]
  | .list items, _, _, h => by
    rw [Value.literals]
    cases h with
    | plain plain => exact plain.elim
    | list each => exact ResolvesItems.notices_eq items each
  | .object fields, _, _, h => by
    rw [Value.literals]
    cases h with
    | plain plain => exact plain.elim
    | object isInput each =>
      simp only [Schema.type?_eq_some_iff.mpr isInput]
      exact ResolvesFields.notices_eq fields each
    | @closedObject _ _ body isDefined isOther =>
      rw [Schema.type?_eq_some_iff.mpr isDefined]
      cases body with
      | inputObject declared => exact absurd rfl (isOther declared)
      | _ => rfl
  | .null, _, _, h | .boolean _, _, _, h | .int _, _, _, h | .float _, _, _, h | .string _, _, _, h
  | .var _, _, _, h => by
    cases h
    rfl

/-- The items of a list that resolve have the notices of their literals. -/
lemma ResolvesItems.notices_eq : (items : List Value) → {typeName : String} → {ns : List Notice} →
    ResolvesItems v typeName items ns →
    ns = (Value.literalsOfItems v.schema typeName items).flatMap v.noticesOfLiteral
  | [], _, _, h => by
    cases h
    rfl
  | item :: items, _, _, h => by
    cases h with
    | cons head tail =>
      rw [Value.literalsOfItems, List.flatMap_append, ResolvesValue.notices_eq item head,
        ResolvesItems.notices_eq items tail]

/-- The fields of an object literal that resolve have the notices of their literals. -/
lemma ResolvesFields.notices_eq : (fields : List (String × Value)) → {declared : List InputValue} →
    {ns : List Notice} → ResolvesFields v declared fields ns →
    ns = (Value.literalsOfFields v.schema declared fields).flatMap v.noticesOfLiteral
  | [], _, _, h => by
    cases h
    rfl
  | (name, given) :: fields, _, _, h => by
    cases h with
    | cons key type head tail =>
      rw [← TypeRef.innerName_eq_iff] at type
      subst type
      simp only [Value.literalsOfFields, findInput?_eq_some_iff.mpr key]
      rw [List.flatMap_append, ResolvesValue.notices_eq given head,
        ResolvesFields.notices_eq fields tail]

end

/-- Arguments that resolve have the notices of their literals. -/
lemma ResolvesArguments.notices_eq {declared : List InputValue} {given : List Argument}
    {ns : List Notice} (h : ResolvesArguments v declared given ns) :
    ns = (given.flatMap (Argument.literals v.schema declared)).flatMap v.noticesOfLiteral := by
  induction h with
  | nil => rfl
  | @cons given rest input inner ns ns' name type head tail ih =>
    rw [← TypeRef.innerName_eq_iff] at type
    subst type
    have hgiven : given.literals v.schema declared =
        given.value.literals v.schema input.type.innerName := by
      simp only [Argument.literals, findInput?_eq_some_iff.mpr name]
    rw [List.flatMap_cons, List.flatMap_append, hgiven, ← ResolvesValue.notices_eq _ head, ← ih]

/-- Directives that resolve have the notices of their literals. -/
lemma ResolvesDirectives.notices_eq {given : List Directive} {ns : List Notice}
    (h : ResolvesDirectives v given ns) :
    ns = (given.flatMap (Directive.literals v.schema)).flatMap v.noticesOfLiteral := by
  induction h with
  | nil => rfl
  | @cons given rest definition ns ns' name head tail ih =>
    have hgiven : given.literals v.schema =
        given.arguments.flatMap (Argument.literals v.schema definition.arguments) := by
      simp only [Directive.literals, Schema.directive?_eq_some_iff.mpr name]
    rw [List.flatMap_cons, List.flatMap_append, hgiven, ← head.notices_eq, ← ih]

/-! ### Notices of selections

Here fields have notices as well, between those of the literals. -/

mutual

/-- A selection that resolves has the notices of its literals among others. -/
lemma ResolvesSelection.sublist_notices :
    (s : Selection) → {typeName : String} → {ns : List Notice} →
    ResolvesSelection v typeName s ns →
    ((s.literals v.schema typeName).flatMap v.noticesOfLiteral).Sublist ns
  | .field head selections, _, _, h => by
    rw [Selection.literals]
    cases h with
    | field isDefined member use arguments directives type set =>
      rw [← TypeRef.innerName_eq_iff] at type
      subst type
      simp only [Schema.type?_eq_some_iff.mpr isDefined, Option.bind_some,
        Schema.fieldOf?_eq_some_iff.mpr member]
      rw [List.flatMap_append, List.flatMap_append, ← arguments.notices_eq, ← directives.notices_eq]
      -- The notice of the field itself comes first and is dropped; the others keep their order.
      have hinner := ResolvesSelections.sublist_notices selections set
      exact ((List.sublist_append_right _ _).append (List.Sublist.refl _)).append hinner
  | .spread _ _, _, _, h => by
    rw [Selection.literals]
    cases h with
    | spread each => exact each.notices_eq ▸ List.Sublist.refl _
  | .inlineFragment (some _) _ selections, _, _, h => by
    rw [Selection.literals]
    cases h with
    | inlineOn each set =>
      rw [List.flatMap_append, ← each.notices_eq]
      exact (List.Sublist.refl _).append (ResolvesSelections.sublist_notices selections set)
  | .inlineFragment none _ selections, _, _, h => by
    rw [Selection.literals]
    cases h with
    | inline each set =>
      rw [List.flatMap_append, ← each.notices_eq]
      exact (List.Sublist.refl _).append (ResolvesSelections.sublist_notices selections set)

/-- Selections that resolve have the notices of their literals among others. -/
lemma ResolvesSelections.sublist_notices : (ss : List Selection) → {typeName : String} →
    {ns : List Notice} → ResolvesSelections v typeName ss ns →
    ((Selection.literalsOfAll v.schema typeName ss).flatMap v.noticesOfLiteral).Sublist ns
  | [], _, _, h => by
    cases h
    exact List.Sublist.refl _
  | s :: ss, _, _, h => by
    cases h with
    | cons head tail =>
      rw [Selection.literalsOfAll, List.flatMap_append]
      exact (ResolvesSelection.sublist_notices s head).append
        (ResolvesSelections.sublist_notices ss tail)

end

/-! ### Notices of documents -/

/-- A definition that resolves has the notices of the literals in its body among others. -/
lemma ResolvesDefinition.sublist_notices {d : Definition} {ns : List Notice}
    (h : ResolvesDefinition v d ns) :
    ((d.bodyLiterals v.schema).flatMap v.noticesOfLiteral).Sublist ns := by
  cases h with
  | operation isRoot directives set =>
    rw [Definition.bodyLiterals, Schema.root?_eq_some_iff.mpr isRoot, Option.toList_some,
      List.flatMap_singleton, List.flatMap_append, ← directives.notices_eq]
    exact (List.Sublist.refl _).append (ResolvesSelections.sublist_notices _ set)
  | fragment isDefined directives set =>
    rw [Definition.bodyLiterals, List.flatMap_append, ← directives.notices_eq]
    exact (List.Sublist.refl _).append (ResolvesSelections.sublist_notices _ set)
  | typeSystem other =>
    cases d with
    | operation | fragment => exact absurd trivial other
    | _ => exact List.Sublist.refl _

/-- Each literal outside the definitions of variables has its own notices, in the order of the
document. -/
theorem ResolvesDocument.sublist_notices {d : Document} {ns : List Notice}
    (h : ResolvesDocument v d ns) :
    ((d.bodyLiterals v.schema).flatMap v.noticesOfLiteral).Sublist ns := by
  induction h with
  | nil => exact List.Sublist.refl _
  | cons head tail ih =>
    rw [Document.bodyLiterals, List.flatMap_cons, List.flatMap_append]
    exact head.sublist_notices.append ih

/-- Where the definitions of variables use no deprecated value, the literals of the whole document
have no further notices. -/
lemma flatMap_literals {d : Document}
    (h : ∀ x ∈ d.variableLiterals v.schema, v.noticesOfLiteral x = []) :
    (d.literals v.schema).flatMap v.noticesOfLiteral =
      (d.bodyLiterals v.schema).flatMap v.noticesOfLiteral := by
  unfold Document.literals Document.bodyLiterals
  rw [List.flatMap_assoc, List.flatMap_assoc]
  refine List.flatMap_congr fun definition hmem => ?_
  have hnone : (definition.variableLiterals v.schema).flatMap v.noticesOfLiteral = [] :=
    List.flatMap_eq_nil_iff.mpr fun x hx => h x (List.mem_flatMap.mpr ⟨definition, hmem, hx⟩)
  rw [List.flatMap_append, hnone, List.nil_append]

/-! ### Definitions of variables -/

/-- The walk does not enter the definitions of variables. -/
lemma Walk.document_withoutVariables {σ : Type} (report : Reporter σ) (d : Document) :
    Walk.document v report d.withoutVariables = Walk.document v report d := by
  have hdefinition : ∀ definition : Definition,
      Walk.definition v report definition.withoutVariables =
          Walk.definition v report definition := by
    intro definition
    cases definition <;> rfl
  unfold Walk.document Document.withoutVariables
  rw [List.forM_eq_forM, List.forM_map]
  simp only [hdefinition]

/-! ### Visits -/

namespace Visitor

/-- Where a visit answers, each literal of a deprecated value outside the definitions of variables
has a notice of its own, and so has every one in the document if those definitions use no deprecated
value.  If they do, the visit does not tell: it is the same without them. -/
theorem visit_literals {v : Visitor} {d : Document} {ns : List Notice} (h : v.visit d = .ok ns) :
    ((d.bodyLiterals v.schema).flatMap v.noticesOfLiteral).Sublist ns ∧
    ((∀ x ∈ d.variableLiterals v.schema, v.noticesOfLiteral x = []) →
      ((d.literals v.schema).flatMap v.noticesOfLiteral).Sublist ns) ∧
    ∀ {σ : Type} (reporter : Reporter σ) (initial : σ),
      v.report reporter initial d.withoutVariables = v.report reporter initial d := by
  have hresolves := resolves_of_visit h
  refine ⟨hresolves.sublist_notices, fun hnone => ?_, fun reporter initial => ?_⟩
  · rw [flatMap_literals hnone]
    exact hresolves.sublist_notices
  · unfold report
    rw [Walk.document_withoutVariables]

/-- Paints in red and in a color that is blue unless another is given. -/
def paintingByChoice : Document :=
  [.operation
    { kind := .query, name? := none,
      variableDefinitions :=
        [{ name := "choice", type := .named "Color", default? := some (.enum "BLUE" 1),
           directives := [] }],
      directives := [],
      selections :=
        [.field
          { responseKey? := none, name := "paint",
            arguments := [{ name := "color", value := .list [.enum "RED" 2, .var "choice"] }],
            directives := [], line := 2 } []] }]

/-- Of the two literals, the one in the list of colors is reported, and the default value need not
be. -/
theorem visit_literals_paintingByChoice :
    paintingByChoice.literals painter.schema = [⟨"Color", "BLUE", 1⟩, ⟨"Color", "RED", 2⟩] ∧
    ∃ ns, painter.visit paintingByChoice = .ok ns ∧
      [{ qualifiedName := "Color.RED", reason := "too warm", sourceFile := "paint.rb",
         line := 12 }].Sublist ns ∧
      painter.report collect [] paintingByChoice.withoutVariables =
        painter.report collect [] paintingByChoice := by
  have hok : (painter.visit paintingByChoice).isOk = true := by rfl
  obtain ⟨ns, hvisit⟩ := isOk_iff.mp hok
  obtain ⟨-, hall, hsame⟩ := visit_literals hvisit
  exact ⟨rfl, ns, hvisit, hall (by decide), hsame collect []⟩

/-- The text of a schema in which one color is deprecated. -/
def colorSchema : String :=
  "enum Color \x7bRED @deprecated BLUE\x7d " ++
    "directive @tint(color: Color) on FIELD|VARIABLE_DEFINITION " ++
    "type Query \x7bpaint(colors: [Color]): Color\x7d"

/-- A visitor that looks for uses in one file. -/
def inFile (s : Schema) : Visitor := { schema := s, sourceFile := "app/query.rb", baseLine := 0 }

def redNotice : Notice :=
  { qualifiedName := "Color.RED", reason := defaultReason, sourceFile := "app/query.rb", line := 1 }

/-- Neither the default value of a variable nor the directive on it has a notice. -/
theorem not_sublist_variableLiterals :
    ∃ s d, Schema.parse? colorSchema = some s ∧
      Document.parse? "query ($c: Color = RED @tint(color: RED)) \x7bpaint(colors: [$c])\x7d" =
        some d ∧
      (inFile s).visit d = .ok [] ∧
      (d.literals s).flatMap (inFile s).noticesOfLiteral = [redNotice, redNotice] ∧
      ¬ ((d.literals s).flatMap (inFile s).noticesOfLiteral).Sublist [] :=
  exists_of_any_any (by decide +kernel)

end Visitor

end Deprecation

end GraphqlClient
