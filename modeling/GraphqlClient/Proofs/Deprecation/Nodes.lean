import GraphqlClient.Proofs.Deprecation.Resolution
import Mathlib

/-!
# The nodes that a walk enters

A walk over a document enters its nodes one after the other: a node is looked up, its use is
reported, and then come its parts (`Node.visit`).  The recursive walk does just that
(`Node.walkAll_enter`); on a survey the same visit looks every name up in the schema (`Node.look`).
What it can come to where the node fits is said once, one rule for each kind of node (`Node.Looks`).
The parts of a node are smaller than the node (`Node.Looks.weightOf_lt`), so that an agenda of nodes
comes to an end.
-/

namespace GraphqlClient.Deprecation

/-! ### Nodes -/

/-- A node of a document, with what its place says about it. -/
inductive Node where
  | definition (d : Definition)
  /-- A selection that is made on a type. -/
  | selection (typeName : String) (s : Selection)
  | directive (given : Directive)
  /-- An argument of a field or directive, or a field of an object literal. -/
  | argument (owner : Owner) (name : String) (x : Value)
  /-- A value where one of a type, or a list of them, is asked for. -/
  | value (typeName : String) (x : Value)

/-- Nodes that are still to be entered, in order. -/
abbrev Agenda := List Node

/-- What a walk does where it enters a node, in some monad. -/
structure Actions (m : Type → Type) where
  required : {α : Type} → Option α → Mismatch → m α
  use : (qualifiedName : String) → List Directive → (line : Nat) → m Unit
  directiveDefinition : String → m DirectiveDefinition
  enumLiteral : (typeName name : String) → (line : Nat) → m Unit
  inputFields? : String → m (Option (List InputValue))

namespace Node

/-- Looks at the node apart from its parts, and gives these in order. -/
def visit {m : Type → Type} [Monad m] (act : Actions m) (s : Schema) : Node → m Agenda
  | .definition (.operation o) => do
    let root ← act.required (s.root? o.kind) (.missingRoot o.kind)
    return o.directives.map .directive ++ o.selections.map (.selection root)
  | .definition (.fragment f) => do
    let _ ← act.required (s.type? f.onType) (.unknownType f.onType)
    return f.directives.map .directive ++ f.selections.map (.selection f.onType)
  | .definition _ => return []
  | .selection typeName (.field head selections) => do
    let body ← act.required (s.type? typeName) (.unknownType typeName)
    let definition ← act.required (s.fieldOf? typeName body head.name)
      (.unknownField typeName head.name)
    act.use (typeName ++ "." ++ head.name) definition.directives head.line
    let owner : Owner := { label := typeName ++ "." ++ head.name, declared := definition.arguments }
    return head.arguments.map (fun given => .argument owner given.name given.value) ++
      (head.directives.map .directive ++ selections.map (.selection definition.type.innerName))
  | .selection _ (.spread _ given) => return given.map .directive
  | .selection typeName (.inlineFragment onType? given selections) =>
    return given.map .directive ++ selections.map (.selection (onType?.getD typeName))
  | .directive given => do
    let definition ← act.directiveDefinition given.name
    let owner : Owner := { label := "@" ++ definition.name, declared := definition.arguments }
    return given.arguments.map fun given => .argument owner given.name given.value
  | .argument owner name x => do
    let declared ← act.required (findInput? owner.declared name) (.unknownArgument owner.label name)
    return [.value declared.type.innerName x]
  | .value typeName (.enum name line) => do
    act.enumLiteral typeName name line
    return []
  | .value typeName (.list items) => return items.map (.value typeName)
  | .value typeName (.object fields) => do
    match ← act.inputFields? typeName with
    | none => return []
    | some declared =>
      let owner : Owner := { label := typeName, declared := declared }
      return fields.map fun field => .argument owner field.1 field.2
  | .value _ _ => return []

end Node

/-! ### The recursive walk enters a node, then its parts -/

section

variable {σ : Type}

/-- The walk looks names up with the help of its tables. -/
def Walk.actions (v : Visitor) (report : Reporter σ) : Actions (Walk σ) where
  required := Walk.required
  use := Walk.noteUse v report
  directiveDefinition := Walk.directiveDefinition v
  enumLiteral := Walk.enumLiteral v report
  inputFields? := Walk.inputFields? v

namespace Node

/-- Enters the node on a walk. -/
def enter (v : Visitor) (report : Reporter σ) (n : Node) : Walk σ Agenda :=
  n.visit (Walk.actions v report) v.schema

/-- The walk over the node and all its parts. -/
def walk (v : Visitor) (report : Reporter σ) : Node → Walk σ Unit
  | .definition d => Walk.definition v report d
  | .selection typeName s => Walk.selection v report typeName s
  | .directive given => Walk.directives v report [given]
  | .argument owner name x => Walk.arguments v report owner [{ name := name, value := x }]
  | .value typeName x => Walk.value v report typeName x

/-- The walk over nodes in order. -/
def walkAll (v : Visitor) (report : Reporter σ) (agenda : Agenda) : Walk σ Unit :=
  agenda.forM (walk v report)

variable {v : Visitor} {report : Reporter σ}

/-- There is nothing to walk over on an empty agenda. -/
lemma walkAll_nil : walkAll v report [] = pure () := rfl

/-- The walk over an agenda starts with its first node. -/
lemma walkAll_cons (n : Node) (agenda : Agenda) :
    walkAll v report (n :: agenda) = n.walk v report >>= fun _ => walkAll v report agenda := rfl

/-- The walk over an agenda of one node is the walk over that node. -/
lemma walkAll_singleton (n : Node) : walkAll v report [n] = n.walk v report := by
  rw [walkAll_cons, walkAll_nil]
  exact bind_pure _

/-- The walk over two agendas is the one walk after the other. -/
lemma walkAll_append (agenda agenda' : Agenda) :
    walkAll v report (agenda ++ agenda') =
      walkAll v report agenda >>= fun _ => walkAll v report agenda' := by
  induction agenda with
  | nil => rw [List.nil_append, walkAll_nil, pure_bind]
  | cons n agenda ih => rw [List.cons_append, walkAll_cons, walkAll_cons, ih, bind_assoc]

/-- Nodes of one kind are walked over one by one. -/
lemma walkAll_map {α : Type} {node : α → Node} {f : α → Walk σ Unit}
    (h : ∀ x, (node x).walk v report = f x) (xs : List α) :
    walkAll v report (xs.map node) = xs.forM f := by
  induction xs with
  | nil => rfl
  | cons x xs ih =>
    rw [List.map_cons, walkAll_cons, h, ih]
    rfl

/-- The walk over an argument looks for its declaration, and then walks over its value. -/
lemma walk_argument (owner : Owner) (name : String) (x : Value) :
    (Node.argument owner name x).walk v report =
      Walk.declaration owner name >>= fun declared =>
        Walk.value v report declared.type.innerName x :=
  bind_pure _

/-- The walk over a directive looks for its definition, and then walks over its arguments. -/
lemma walk_directive (given : Directive) :
    (Node.directive given).walk v report =
      Walk.directiveDefinition v given.name >>= fun definition =>
        Walk.arguments v report
          { label := "@" ++ definition.name, declared := definition.arguments }
          given.arguments :=
  bind_pure _

/-- Arguments are walked over one by one. -/
lemma walkAll_arguments (owner : Owner) (given : List Argument) :
    walkAll v report (given.map fun given => .argument owner given.name given.value) =
      Walk.arguments v report owner given :=
  walkAll_map (fun _ => bind_pure _) given

/-- Directives are walked over one by one. -/
lemma walkAll_directives (given : List Directive) :
    walkAll v report (given.map .directive) = Walk.directives v report given :=
  walkAll_map (fun _ => bind_pure _) given

/-- Selections are walked over one by one. -/
lemma walkAll_selections (typeName : String) (ss : List Selection) :
    walkAll v report (ss.map (.selection typeName)) = Walk.selectionSet v report typeName ss := by
  induction ss with
  | nil => rw [Walk.selectionSet]; rfl
  | cons s ss ih => rw [List.map_cons, walkAll_cons, ih, Walk.selectionSet]; rfl

/-- The items of a list are walked over one by one. -/
lemma walkAll_items (typeName : String) (items : List Value) :
    walkAll v report (items.map (.value typeName)) = Walk.valueItems v report typeName items := by
  induction items with
  | nil => rw [Walk.valueItems]; rfl
  | cons item items ih => rw [List.map_cons, walkAll_cons, ih, Walk.valueItems]; rfl

/-- The fields of an object literal are walked over one by one. -/
lemma walkAll_fields (owner : Owner) (fields : List (String × Value)) :
    walkAll v report (fields.map fun field => .argument owner field.1 field.2) =
      Walk.valueFields v report owner fields := by
  induction fields with
  | nil => rw [Walk.valueFields]; rfl
  | cons field fields ih =>
    obtain ⟨name, x⟩ := field
    rw [List.map_cons, walkAll_cons, ih, walk_argument, Walk.valueFields, bind_assoc]

/-- The walk over a value enters it, and walks over its parts in order. -/
lemma walk_value_eq (typeName : String) (x : Value) :
    Walk.value v report typeName x = (Node.value typeName x).enter v report >>=
      walkAll v report := by
  cases x with
  | enum name line =>
    rw [Walk.value, enter, visit, bind_assoc]
    simp only [pure_bind, walkAll_nil]
    exact (bind_pure _).symm
  | list items => rw [Walk.value, enter, visit, pure_bind, walkAll_items]
  | object fields =>
    rw [Walk.value, enter, visit, bind_assoc]
    refine bind_congr fun declared? => ?_
    cases declared? with
    -- Where no input object is asked for, the fields are no parts, and nothing is walked.
    | none => rw [pure_bind]; rfl
    | some declared => rw [pure_bind, walkAll_fields]
  | _ => simp only [Walk.value, enter, visit, pure_bind, walkAll_nil]

/-- The walk over a node enters it, and walks over its parts in order. -/
lemma walk_eq (n : Node) : n.walk v report = n.enter v report >>= walkAll v report := by
  cases n with
  | definition d =>
    cases d with
    | operation o =>
      simp only [walk, Walk.definition, Walk.operation, enter, visit, Walk.actions,
        bind_assoc, pure_bind, walkAll_append, walkAll_directives, walkAll_selections]
    | fragment f =>
      simp only [walk, Walk.definition, Walk.fragment, enter, visit, Walk.actions,
        bind_assoc, pure_bind, walkAll_append, walkAll_directives, walkAll_selections]
    | _ => simp only [walk, Walk.definition, enter, visit, pure_bind, walkAll_nil]
  | selection typeName s =>
    cases s with
    | field head selections =>
      simp only [walk, Walk.selection, Walk.fieldHead, Walk.fieldDefinition, enter, visit,
        Walk.actions, bind_assoc, pure_bind, walkAll_append, walkAll_arguments, walkAll_directives,
        walkAll_selections]
    | spread fragment given =>
      simp only [walk, Walk.selection, enter, visit, pure_bind, walkAll_directives]
    | inlineFragment onType? given selections =>
      simp only [walk, Walk.selection, enter, visit, pure_bind, walkAll_append, walkAll_directives,
        walkAll_selections]
  | directive given =>
    rw [walk_directive]
    simp only [enter, visit, Walk.actions, bind_assoc, pure_bind, walkAll_arguments]
  | argument owner name x =>
    rw [walk_argument]
    simp only [Walk.declaration, enter, visit, Walk.actions, bind_assoc, pure_bind,
      walkAll_singleton, walk]
  | value typeName x => exact walk_value_eq typeName x

/-- The walk over an agenda enters the first node, and goes on with its parts. -/
lemma walkAll_enter (n : Node) (rest : Agenda) :
    walkAll v report (n :: rest) =
      n.enter v report >>= fun parts => walkAll v report (parts ++ rest) := by
  rw [walkAll_cons, walk_eq, bind_assoc]
  simp only [walkAll_append]

/-- The walk over a document has the definitions on its agenda. -/
lemma walkAll_definitions (d : Document) :
    walkAll v report (d.map .definition) = Walk.document v report d :=
  walkAll_map (fun _ => rfl) d

end Node

/-! ### Nodes without tables -/

/-- A survey looks every name up in the schema. -/
def Survey.actions (v : Visitor) : Actions Survey where
  required := Survey.required
  use := Survey.ofUse v
  directiveDefinition := Survey.directiveDefinition v
  enumLiteral := Survey.enumLiteral v
  inputFields? := Survey.inputFields? v

namespace Node

/-- The survey of the node apart from its parts, which it gives. -/
def look (v : Visitor) (n : Node) : Survey Agenda := n.visit (Survey.actions v) v.schema

variable {v : Visitor} {report : Reporter σ}

/-- Entering a node follows the look at it. -/
lemma follows_enter (n : Node) : Follows v report (n.enter v report) (n.look v) := by
  cases n with
  | definition d =>
    cases d with
    | operation o => exact follows_bind (follows_required _ _) fun root => follows_pure _
    | fragment f => exact follows_bind (follows_required _ _) fun _ => follows_pure _
    | _ => exact follows_pure []
  | selection typeName s =>
    cases s with
    | field head selections =>
      refine follows_bind (follows_required _ _) fun body => ?_
      refine follows_bind (follows_required _ _) fun definition => ?_
      exact follows_bind (follows_noteUse _ _ _) fun _ => follows_pure _
    | spread fragment given => exact follows_pure _
    | inlineFragment onType? given selections => exact follows_pure _
  | directive given =>
    exact follows_bind (follows_directiveDefinition given.name) fun definition => follows_pure _
  | argument owner name x =>
    exact follows_bind (follows_required _ _) fun declared => follows_pure _
  | value typeName x =>
    cases x with
    | enum name line =>
      exact follows_bind (follows_enumLiteral typeName name line) fun _ => follows_pure _
    | list items => exact follows_pure _
    | object fields =>
      refine follows_bind (follows_inputFields? typeName) fun declared? => ?_
      cases declared? with
      | none => exact follows_pure _
      | some declared => exact follows_pure _
    | _ => exact follows_pure []

/-- What a look at a node comes to if the node fits: its notices and its parts. -/
inductive Looks (v : Visitor) : Node → List Notice → Agenda → Prop
  | operation {o root} (isRoot : v.schema.root? o.kind = some root) :
      Looks v (.definition (.operation o)) []
        (o.directives.map .directive ++ o.selections.map (.selection root))
  | fragment {f body} (isDefined : v.schema.type? f.onType = some body) :
      Looks v (.definition (.fragment f)) []
        (f.directives.map .directive ++ f.selections.map (.selection f.onType))
  | typeSystem {d} (other : ¬ Executable d) : Looks v (.definition d) [] []
  | field {typeName head selections body definition}
      (isDefined : v.schema.type? typeName = some body)
      (member : v.schema.fieldOf? typeName body head.name = some definition) :
      Looks v (.selection typeName (.field head selections))
        (v.noticesOf (typeName ++ "." ++ head.name) definition.directives head.line)
        (head.arguments.map (fun given =>
            .argument { label := typeName ++ "." ++ head.name, declared := definition.arguments }
              given.name given.value) ++
          (head.directives.map .directive ++ selections.map (.selection definition.type.innerName)))
  | spread {typeName fragment given} : Looks v (.selection typeName (.spread fragment given))
      [] (given.map .directive)
  | inlineFragment {typeName onType? given selections} :
      Looks v (.selection typeName (.inlineFragment onType? given selections)) []
        (given.map .directive ++ selections.map (.selection (onType?.getD typeName)))
  | directive {given definition} (isDefined : v.schema.directive? given.name = some definition) :
      Looks v (.directive given) []
        (given.arguments.map fun given =>
          .argument { label := "@" ++ definition.name, declared := definition.arguments }
            given.name given.value)
  | argument {owner name x declared} (isDeclared : findInput? owner.declared name = some declared) :
      Looks v (.argument owner name x) [] [.value declared.type.innerName x]
  | enum {typeName name line ns} (resolves : ResolvesValue v typeName (.enum name line) ns) :
      Looks v (.value typeName (.enum name line)) ns []
  | list {typeName items} : Looks v (.value typeName (.list items)) [] (items.map (.value typeName))
  | object {typeName fields declared}
      (isInput : v.schema.type? typeName = some (.inputObject declared)) :
      Looks v (.value typeName (.object fields)) []
        (fields.map fun field => .argument { label := typeName, declared := declared }
          field.1 field.2)
  /-- An object literal has no parts where no input object is asked for. -/
  | closedObject {typeName fields body} (isDefined : v.schema.type? typeName = some body)
      (isOther : ∀ declared, body ≠ .inputObject declared) :
      Looks v (.value typeName (.object fields)) [] []
  | plain {typeName x} (plain : PlainLiteral x) : Looks v (.value typeName x) [] []

open Survey in
/-- A survey of a node that comes to an end has looked at the node in one of these ways. -/
lemma looks_of_yields {n : Node} {ns : List Notice} {parts : Agenda}
    (h : (n.look v).Yields ns parts) :
    n.Looks v ns parts := by
  cases n with
  | definition d =>
    cases d with
    | operation o =>
      obtain ⟨root, hroot, hparts⟩ := yields_required_bind_iff.mp h
      obtain ⟨rfl, rfl⟩ := yields_pure_iff.mp hparts
      exact .operation hroot
    | fragment f =>
      obtain ⟨body, hbody, hparts⟩ := yields_required_bind_iff.mp h
      obtain ⟨rfl, rfl⟩ := yields_pure_iff.mp hparts
      exact .fragment hbody
    | _ =>
      obtain ⟨rfl, rfl⟩ := yields_pure_iff.mp h
      exact .typeSystem id
  | selection typeName s =>
    cases s with
    | field head selections =>
      obtain ⟨body, hbody, hmember⟩ := yields_required_bind_iff.mp h
      obtain ⟨definition, hdefinition, huse⟩ := yields_required_bind_iff.mp hmember
      obtain ⟨use, rest, hnotices, hparts, rfl⟩ := yields_seq_iff.mp huse
      obtain ⟨rfl, rfl⟩ := yields_pure_iff.mp hparts
      obtain rfl := yields_ofUse_iff.mp hnotices
      rw [List.append_nil]
      exact .field hbody hdefinition
    | spread fragment given =>
      obtain ⟨rfl, rfl⟩ := yields_pure_iff.mp h
      exact .spread
    | inlineFragment onType? given selections =>
      obtain ⟨rfl, rfl⟩ := yields_pure_iff.mp h
      exact .inlineFragment
  | directive given =>
    obtain ⟨definition, hdefinition, hparts⟩ := yields_required_bind_iff.mp h
    obtain ⟨rfl, rfl⟩ := yields_pure_iff.mp hparts
    exact .directive hdefinition
  | argument owner name x =>
    obtain ⟨declared, hdeclared, hparts⟩ := yields_required_bind_iff.mp h
    obtain ⟨rfl, rfl⟩ := yields_pure_iff.mp hparts
    exact .argument hdeclared
  | value typeName x =>
    cases x with
    | enum name line =>
      obtain ⟨use, rest, hliteral, hparts, rfl⟩ := yields_seq_iff.mp h
      obtain ⟨rfl, rfl⟩ := yields_pure_iff.mp hparts
      rw [List.append_nil]
      exact .enum (yields_enumLiteral_iff.mp hliteral)
    | list items =>
      obtain ⟨rfl, rfl⟩ := yields_pure_iff.mp h
      exact .list
    | object fields =>
      obtain ⟨before, declared?, after, hlookup, hparts, rfl⟩ := yields_bind_iff.mp h
      rcases yields_inputFields?_iff.mp hlookup with ⟨rfl, ⟨declared, htype, rfl⟩
        | ⟨body, htype, hother, rfl⟩⟩
      · obtain ⟨rfl, rfl⟩ := yields_pure_iff.mp hparts
        exact .object (Schema.type?_eq_some_iff.mpr htype)
      · obtain ⟨rfl, rfl⟩ := yields_pure_iff.mp hparts
        exact .closedObject (Schema.type?_eq_some_iff.mpr htype) hother
    | _ =>
      obtain ⟨rfl, rfl⟩ := yields_pure_iff.mp h
      exact .plain trivial

/-! ### The size of an agenda -/

/-- A bound for the number of nodes in a node, itself included. -/
noncomputable def weight : Node → Nat
  | .definition d => 2 * sizeOf d
  | .selection _ s => 2 * sizeOf s
  | .directive given => 2 * sizeOf given
  | .argument _ _ x => 2 * sizeOf x + 1
  | .value _ x => 2 * sizeOf x

noncomputable def weightOf (agenda : Agenda) : Nat := (agenda.map weight).sum

/-- Every node counts. -/
lemma weight_pos (n : Node) : 0 < n.weight := by
  cases n with
  | definition d => cases d <;> simp [weight]
  | selection typeName s => cases s <;> simp [weight]
  | directive given => cases given; simp [weight]
  | argument owner name x => simp [weight]
  | value typeName x => cases x <;> simp [weight]

/-- An empty agenda weighs nothing. -/
lemma weightOf_nil : weightOf [] = 0 := rfl

/-- The first node of an agenda weighs beside the others. -/
lemma weightOf_cons (n : Node) (agenda : Agenda) :
    weightOf (n :: agenda) = n.weight + weightOf agenda := by
  rw [weightOf, List.map_cons, List.sum_cons, weightOf]

/-- Two agendas weigh what each of them weighs. -/
lemma weightOf_append (agenda agenda' : Agenda) :
    weightOf (agenda ++ agenda') = weightOf agenda + weightOf agenda' := by
  rw [weightOf, List.map_append, List.sum_append, weightOf, weightOf]

/-- Parts that are no larger than the syntax they are made from. -/
lemma weightOf_map_lt {α : Type} [SizeOf α] {node : α → Node}
    (h : ∀ x, (node x).weight ≤ 2 * sizeOf x) (xs : List α) :
    weightOf (xs.map node) < 2 * sizeOf xs := by
  induction xs with
  | nil => simp [weightOf_nil]
  | cons x xs ih =>
    have hx := h x
    rw [List.map_cons, weightOf_cons, List.cons.sizeOf_spec]
    omega

/-- Directives weigh less than twice their size. -/
lemma weightOf_directives_lt (given : List Directive) :
    weightOf (given.map .directive) < 2 * sizeOf given :=
  weightOf_map_lt (fun _ => Nat.le_refl _) given

/-- Selections weigh less than twice their size. -/
lemma weightOf_selections_lt (typeName : String) (ss : List Selection) :
    weightOf (ss.map (.selection typeName)) < 2 * sizeOf ss :=
  weightOf_map_lt (fun _ => Nat.le_refl _) ss

/-- Arguments weigh less than twice their size. -/
lemma weightOf_arguments_lt (owner : Owner) (given : List Argument) :
    weightOf (given.map fun given => .argument owner given.name given.value) <
      2 * sizeOf given := by
  refine weightOf_map_lt (fun given => ?_) given
  obtain ⟨name, x⟩ := given
  simp only [weight, Argument.mk.sizeOf_spec]
  omega

/-- The fields of an object literal weigh less than twice their size. -/
lemma weightOf_fields_lt (owner : Owner) (fields : List (String × Value)) :
    weightOf (fields.map fun field => .argument owner field.1 field.2) < 2 * sizeOf fields := by
  refine weightOf_map_lt (fun field => ?_) fields
  obtain ⟨name, x⟩ := field
  simp only [weight, Prod.mk.sizeOf_spec]
  omega

/-- The parts of a node are smaller than the node. -/
lemma Looks.weightOf_lt {n : Node} {ns : List Notice} {parts : Agenda} (h : n.Looks v ns parts) :
    weightOf parts < n.weight := by
  cases h with
  | @operation o root isRoot =>
    have hdirectives := weightOf_directives_lt o.directives
    have hselections := weightOf_selections_lt root o.selections
    obtain ⟨kind, name?, variableDefinitions, directives, selections⟩ := o
    simp only [weightOf_append, weight, Definition.operation.sizeOf_spec,
      Operation.mk.sizeOf_spec] at *
    omega
  | @fragment f body isDefined =>
    have hdirectives := weightOf_directives_lt f.directives
    have hselections := weightOf_selections_lt f.onType f.selections
    obtain ⟨name, onType, directives, selections⟩ := f
    simp only [weightOf_append, weight, Definition.fragment.sizeOf_spec,
      Fragment.mk.sizeOf_spec] at *
    omega
  | @field typeName head selections body definition isDefined member =>
    have harguments := weightOf_arguments_lt
      { label := typeName ++ "." ++ head.name, declared := definition.arguments } head.arguments
    have hdirectives := weightOf_directives_lt head.directives
    have hselections := weightOf_selections_lt definition.type.innerName selections
    obtain ⟨responseKey?, name, arguments, directives, line⟩ := head
    simp only [weightOf_append, weight, Selection.field.sizeOf_spec, FieldHead.mk.sizeOf_spec] at *
    omega
  | @spread typeName fragment given =>
    have hdirectives := weightOf_directives_lt given
    simp only [weight, Selection.spread.sizeOf_spec]
    omega
  | @inlineFragment typeName onType? given selections =>
    have hdirectives := weightOf_directives_lt given
    have hselections := weightOf_selections_lt (onType?.getD typeName) selections
    simp only [weightOf_append, weight, Selection.inlineFragment.sizeOf_spec]
    omega
  | @directive given definition isDefined =>
    have harguments := weightOf_arguments_lt
      { label := "@" ++ definition.name, declared := definition.arguments } given.arguments
    obtain ⟨name, arguments⟩ := given
    simp only [weight, Directive.mk.sizeOf_spec] at *
    omega
  -- The argument weighs one more than its value.
  | argument =>
    simp only [weightOf_cons, weightOf_nil, weight]
    omega
  | @list typeName items =>
    have hitems : weightOf (items.map (.value typeName)) < 2 * sizeOf items :=
      weightOf_map_lt (fun _ => Nat.le_refl _) items
    simp only [weight, Value.list.sizeOf_spec]
    omega
  | @object typeName fields declared isInput =>
    have hfields := weightOf_fields_lt { label := typeName, declared := declared } fields
    simp only [weight, Value.object.sizeOf_spec]
    omega
  | _ => exact weight_pos _

end Node

end

end GraphqlClient.Deprecation
