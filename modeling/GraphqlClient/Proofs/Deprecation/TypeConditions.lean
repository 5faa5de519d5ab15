import GraphqlClient.Proofs.Deprecation.Resolution
import GraphqlClient.Proofs.Outcome
import GraphqlClient.Schema.Build
import Mathlib

/-!
# Type conditions

Which type conditions of a document a visit looks up.  That of a fragment definition is looked up
where the definition is entered.  That of an inline fragment only becomes the type that encloses its
selections, and it is a field among them that has the type looked up.  An inline fragment that
selects no field of its own type, but only spreads and fragments on other types, may so name any
type at all (`Survey.selection_relabelIdle`).
-/

namespace GraphqlClient

/-- There is a type with this name. -/
def Schema.Defines (s : Schema) (name : String) : Prop := ∃ body, s.type? name = some body

instance (s : Schema) (name : String) : Decidable (s.Defines name) :=
  decidable_of_iff ((s.type? name).isSome = true) Option.isSome_iff_exists

/-! ### Conditions of inline fragments -/

namespace Selection

mutual

/-- Whether the selection asks for a field of the type that encloses it. -/
def selectsField : Selection → Bool
  | .field .. => true
  | .spread .. => false
  | .inlineFragment none _ selections => anySelectsField selections
  | .inlineFragment (some _) _ _ => false

def anySelectsField : List Selection → Bool
  | [] => false
  | s :: ss => s.selectsField || anySelectsField ss

end

mutual

/-- The type conditions of inline fragments in the selection, at any depth, each with the selections
it encloses. -/
def conditions : Selection → List (String × List Selection)
  | .field _ selections => conditionsOfAll selections
  | .spread .. => []
  | .inlineFragment none _ selections => conditionsOfAll selections
  | .inlineFragment (some onType) _ selections => (onType, selections) :: conditionsOfAll selections

def conditionsOfAll : List Selection → List (String × List Selection)
  | [] => []
  | s :: ss => s.conditions ++ conditionsOfAll ss

end

mutual

/-- The selection with other type conditions on those inline fragments that select no field of their
type. -/
def relabelIdle (relabel : String → String) : Selection → Selection
  | .field head selections => .field head (relabelIdleAll relabel selections)
  | .spread fragment given => .spread fragment given
  | .inlineFragment none given selections =>
    .inlineFragment none given (relabelIdleAll relabel selections)
  | .inlineFragment (some onType) given selections =>
    .inlineFragment (some (if anySelectsField selections then onType else relabel onType)) given
      (relabelIdleAll relabel selections)

def relabelIdleAll (relabel : String → String) : List Selection → List Selection
  | [] => []
  | s :: ss => s.relabelIdle relabel :: relabelIdleAll relabel ss

end

end Selection

/-- The selections that a definition makes on its own type. -/
def Definition.selections : Definition → List Selection
  | .operation o => o.selections
  | .fragment f => f.selections
  | _ => []

def Definition.relabelIdle (relabel : String → String) : Definition → Definition
  | .operation o =>
    .operation { o with selections := Selection.relabelIdleAll relabel o.selections }
  | .fragment f => .fragment { f with selections := Selection.relabelIdleAll relabel f.selections }
  | d => d

namespace Document

/-- The type conditions of all inline fragments in the document, each with the selections it
encloses. -/
def inlineConditions (d : Document) : List (String × List Selection) :=
  d.flatMap fun definition => Selection.conditionsOfAll definition.selections

/-- The document with other type conditions on those inline fragments that select no field of their
type. -/
def relabelIdle (relabel : String → String) (d : Document) : Document :=
  d.map (Definition.relabelIdle relabel)

end Document

namespace Deprecation

variable {v : Visitor}

/-! ### Conditions that are looked up -/

open Selection in
mutual

/-- A type on which a selection asks for a field is there. -/
lemma defines_of_selectsField : (s : Selection) → {typeName : String} → {ns : List Notice} →
    ResolvesSelection v typeName s ns → s.selectsField = true → v.schema.Defines typeName
  | .field _ _, _, _, h, _ => by
    cases h with
    | field isDefined => exact ⟨_, Schema.type?_eq_some_iff.mpr isDefined⟩
  | .inlineFragment none _ selections, _, _, h, hfield => by
    rw [selectsField] at hfield
    cases h with
    | inline each set => exact defines_of_anySelectsField selections set hfield
  | .spread _ _, _, _, _, hfield | .inlineFragment (some _) _ _, _, _, _, hfield => by
    simp [selectsField] at hfield

/-- A type on which a field is selected is there. -/
lemma defines_of_anySelectsField :
    (ss : List Selection) → {typeName : String} → {ns : List Notice} →
    ResolvesSelections v typeName ss ns → anySelectsField ss = true → v.schema.Defines typeName
  | [], _, _, _, hfield => by simp [anySelectsField] at hfield
  | s :: ss, _, _, h, hfield => by
    rw [anySelectsField, Bool.or_eq_true] at hfield
    cases h with
    | cons head tail =>
      rcases hfield with hfield | hfield
      · exact defines_of_selectsField s head hfield
      · exact defines_of_anySelectsField ss tail hfield

end

/-- Each of these conditions names a type if a field is selected on it. -/
def DefinesConditions (s : Schema) (conditions : List (String × List Selection)) : Prop :=
  ∀ condition ∈ conditions, Selection.anySelectsField condition.2 = true → s.Defines condition.1

/-- No conditions name no types. -/
lemma DefinesConditions.nil (s : Schema) : DefinesConditions s [] :=
  fun _ hmem => absurd hmem List.not_mem_nil

/-- Conditions name types if those of two lists do. -/
lemma DefinesConditions.append {s : Schema} {cs cs' : List (String × List Selection)}
    (h : DefinesConditions s cs) (h' : DefinesConditions s cs') : DefinesConditions s (cs ++ cs') :=
  List.forall_mem_append.mpr ⟨h, h'⟩

open Selection in
mutual

/-- The conditions in a selection that resolves name types. -/
lemma definesConditions_of_resolves : (s : Selection) → {typeName : String} → {ns : List Notice} →
    ResolvesSelection v typeName s ns → DefinesConditions v.schema s.conditions
  | .field _ selections, _, _, h => by
    rw [conditions]
    cases h with
    | field _ _ _ _ _ _ set => exact definesConditions_of_resolvesSelections selections set
  | .spread _ _, _, _, _ => by
    rw [conditions]
    exact .nil _
  | .inlineFragment none _ selections, _, _, h => by
    rw [conditions]
    cases h with
    | inline each set => exact definesConditions_of_resolvesSelections selections set
  | .inlineFragment (some _) _ selections, _, _, h => by
    rw [conditions]
    cases h with
    | inlineOn each set =>
      exact List.forall_mem_cons.mpr ⟨defines_of_anySelectsField selections set,
        definesConditions_of_resolvesSelections selections set⟩

/-- The conditions in selections that resolve name types. -/
lemma definesConditions_of_resolvesSelections : (ss : List Selection) → {typeName : String} →
    {ns : List Notice} → ResolvesSelections v typeName ss ns →
    DefinesConditions v.schema (conditionsOfAll ss)
  | [], _, _, _ => by
    rw [conditionsOfAll]
    exact .nil _
  | s :: ss, _, _, h => by
    rw [conditionsOfAll]
    cases h with
    | cons head tail =>
      exact (definesConditions_of_resolves s head).append
        (definesConditions_of_resolvesSelections ss tail)

end

/-- The conditions in a document that resolves name types. -/
lemma definesConditions_of_resolvesDocument {d : Document} {ns : List Notice}
    (h : ResolvesDocument v d ns) : DefinesConditions v.schema d.inlineConditions := by
  induction h with
  | nil => exact .nil _
  | @cons d ds _ _ head tail ih =>
    have hhead : DefinesConditions v.schema (Selection.conditionsOfAll d.selections) := by
      cases head with
      | operation _ _ set => exact definesConditions_of_resolvesSelections _ set
      | fragment _ _ set => exact definesConditions_of_resolvesSelections _ set
      | typeSystem other =>
        cases d with
        | operation | fragment => exact absurd trivial other
        | _ => exact .nil _
    exact hhead.append ih

/-- The condition of a fragment definition is looked up whatever it selects. -/
lemma defines_onType_of_resolvesDocument {d : Document} {ns : List Notice}
    (h : ResolvesDocument v d ns) {f : Fragment} (hf : .fragment f ∈ d) :
    v.schema.Defines f.onType := by
  induction h with
  | nil => cases hf
  | cons head tail ih =>
    rcases List.mem_cons.mp hf with rfl | hf
    · cases head with
      | fragment isDefined => exact ⟨_, Schema.type?_eq_some_iff.mpr isDefined⟩
      | typeSystem other => exact absurd trivial other
    · exact ih hf

/-! ### Conditions that are not looked up -/

namespace Survey

open Selection in
mutual

/-- What encloses a selection does not matter if it asks for no field. -/
lemma selection_congr (typeName typeName' : String) : (s : Selection) → s.selectsField = false →
    selection v typeName s = selection v typeName' s
  | .field _ _, hfield => by simp [selectsField] at hfield
  | .spread _ _, _ => by rw [selection, selection]
  | .inlineFragment none _ selections, hfield => by
    rw [selectsField] at hfield
    simp only [selection, Option.getD_none, selectionSet_congr typeName typeName' selections hfield]
  | .inlineFragment (some _) _ _, _ => by
    rw [selection, selection]
    rfl

/-- What encloses selections does not matter if none of them is a field. -/
lemma selectionSet_congr (typeName typeName' : String) : (ss : List Selection) →
    anySelectsField ss = false → selectionSet v typeName ss = selectionSet v typeName' ss
  | [], _ => by rw [selectionSet, selectionSet]
  | s :: ss, hfield => by
    rw [anySelectsField, Bool.or_eq_false_iff] at hfield
    rw [selectionSet, selectionSet, selection_congr typeName typeName' s hfield.1,
      selectionSet_congr typeName typeName' ss hfield.2]

end

variable (relabel : String → String)

open Selection in
mutual

/-- A survey says the same whatever types the idle conditions name. -/
lemma selection_relabelIdle (typeName : String) : (s : Selection) →
    selection v typeName (s.relabelIdle relabel) = selection v typeName s
  | .field head selections => by
    simp only [relabelIdle, selection, selectionSet_relabelIdle _ selections]
  | .spread _ _ => by rw [relabelIdle]
  | .inlineFragment none _ selections => by
    simp only [relabelIdle, selection, selectionSet_relabelIdle _ selections]
  | .inlineFragment (some onType) _ selections => by
    simp only [relabelIdle, selection, Option.getD_some, selectionSet_relabelIdle _ selections]
    -- A condition with a field is not relabelled, and any other one can be, since nothing is looked
    -- up in it.
    by_cases hfield : anySelectsField selections = true
    · rw [if_pos hfield]
    · rw [if_neg hfield, selectionSet_congr (relabel onType)
        onType selections (Bool.eq_false_iff.mpr hfield)]

/-- The survey of selections is the same whatever types the idle conditions name. -/
lemma selectionSet_relabelIdle (typeName : String) : (ss : List Selection) →
    selectionSet v typeName (relabelIdleAll relabel ss) = selectionSet v typeName ss
  | [] => by rw [relabelIdleAll]
  | s :: ss => by
    rw [relabelIdleAll, selectionSet, selectionSet, selection_relabelIdle typeName s,
      selectionSet_relabelIdle typeName ss]

end

/-- The survey of a definition is the same whatever types the idle conditions name. -/
lemma definition_relabelIdle (d : Definition) :
    definition v (d.relabelIdle relabel) = definition v d := by
  cases d with
  | operation o =>
    simp only [Definition.relabelIdle, definition, operation, selectionSet_relabelIdle]
  | fragment f => simp only [Definition.relabelIdle, definition, fragment, selectionSet_relabelIdle]
  | _ => rfl

/-- The survey of a document is the same whatever types the idle conditions name. -/
lemma document_relabelIdle (d : Document) : document v (d.relabelIdle relabel) = document v d := by
  unfold document
  induction d with
  | nil => rfl
  | cons d ds ih =>
    change (definition v (d.relabelIdle relabel) >>= fun _ =>
      (Document.relabelIdle relabel ds).forM _) = (definition v d >>= fun _ => ds.forM _)
    rw [definition_relabelIdle, ih]

end Survey

/-! ### Visits -/

namespace Visitor

/-- A document that fits has a type for the condition of every fragment definition, and for that of
every inline fragment that selects a field on it, however deep.  The other conditions are never
looked up: whatever they name, every reporter takes the same notices and every report ends the same
way. -/
theorem visit_typeConditions (v : Visitor) (d : Document) :
    (∀ ns, v.visit d = .ok ns →
      (∀ f, .fragment f ∈ d → v.schema.Defines f.onType) ∧
      DefinesConditions v.schema d.inlineConditions) ∧
    ∀ {σ : Type} (reporter : Reporter σ) (initial : σ) (relabel : String → String),
      v.report reporter initial (d.relabelIdle relabel) = v.report reporter initial d := by
  refine ⟨fun ns hvisit => ?_, fun reporter initial relabel => ?_⟩
  · have hresolves := resolves_of_visit hvisit
    exact ⟨fun f hf => defines_onType_of_resolvesDocument hresolves hf,
      definesConditions_of_resolvesDocument hresolves⟩
  · rw [report_eq, report_eq, Survey.document_relabelIdle]

/-- Nodes have an identifier. -/
def nodes : Visitor where
  schema :=
    { types :=
        [("ID", .scalar),
          ("Node", .object []
            [{ description? := none, name := "id", arguments := [], type := .named "ID",
               directives := [] }]),
          ("Query", .object []
            [{ description? := none, name := "node", arguments := [], type := .named "Node",
               directives := [] }])],
      directives := [], query? := some "Query", mutation? := none, subscription? := none }
  sourceFile := "app/query.rb"
  baseLine := 0

/-- Asks for the identifier of a node within two inline fragments, and by a spread within a third
one, whose type is given. -/
def nodeParts (onType : String) : Document :=
  let field (name : String) := Selection.field
    { responseKey? := none, name, arguments := [], directives := [], line := 1 }
  [.operation
    { kind := .query, name? := none, variableDefinitions := [], directives := [],
      selections := [field "node"
        [.inlineFragment (some "Node") [] [.inlineFragment none [] [field "id" []]],
          .inlineFragment (some onType) [] [.spread "Parts" []]]] },
    .fragment { name := "Parts", onType := "Node", directives := [],
                selections := [field "id" []] }]

/-- The two conditions that are looked up name a type, and the third can name any. -/
theorem visit_typeConditions_nodeParts :
    nodes.visit (nodeParts "Robot") = .ok [] ∧ nodes.schema.Defines "Node" ∧
    (nodeParts "Robot").inlineConditions.map (·.1) = ["Node", "Robot"] ∧
    ∀ onType, nodes.report collect [] (nodeParts onType) = nodes.report collect []
      (nodeParts "Robot") := by
  have hvisit : nodes.visit (nodeParts "Robot") = .ok [] := by rfl
  obtain ⟨hok, hany⟩ := visit_typeConditions nodes (nodeParts "Robot")
  obtain ⟨-, hinline⟩ := hok [] hvisit
  exact ⟨hvisit, hinline ("Node", _) List.mem_cons_self (by decide +kernel), rfl,
    fun onType => hany collect [] fun _ => onType⟩

/-- A document may fit with an inline fragment on a type that the schema does not have. -/
theorem visit_ok_undefined_condition :
    ∃ s d, Schema.parse? "type Query \x7b node: Node \x7d type Node \x7b id: ID \x7d" = some s ∧
      Document.parse? ("query \x7b node \x7b ... on Robot \x7b ...Parts \x7d \x7d \x7d " ++
        "fragment Parts on Node \x7b id \x7d") = some d ∧
      ({ schema := s, sourceFile := "app/query.rb", baseLine := 0 } : Visitor).visit d = .ok [] ∧
      "Robot" ∈ d.inlineConditions.map (·.1) ∧ ¬ s.Defines "Robot" :=
  exists_of_any_any (by decide +kernel)

end Visitor

end Deprecation

end GraphqlClient
