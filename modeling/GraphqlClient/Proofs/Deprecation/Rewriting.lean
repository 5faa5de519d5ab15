import GraphqlClient.Proofs.Deprecation.Composition

/-!
# Other ways to write a document

What a document uses can be written in more than one way.  Consecutive selections can be put into an
inline fragment that has neither a type condition nor directives, a field can go under another alias
or under none, and a value can be put into a list of one.  Such rewrites can be made wherever
selections, fields and values stand, under any tower of fields, fragments, lists and input objects
(`Document.RewritesTo`); each node keeps its line.

A survey of what is rewritten is the survey of what stood there before: the inline fragment hands
the enclosing type on, the list hands on the type that is asked for, and nothing depends on an alias
(`Survey.value_of_rewrites`, `Survey.selection_of_rewrites`).  So a report does not change, whether
it ends with a mismatch or not (`Visitor.report_of_rewritesTo`).
-/

namespace GraphqlClient

/-! ### Rewrites -/

/-- One element of a list is changed, and the others stay. -/
inductive OneChanges {α : Type} (change : α → α → Prop) : List α → List α → Prop
  | among (before after : List α) {x x' : α} (h : change x x') :
      OneChanges change (before ++ x :: after) (before ++ x' :: after)

/-- A rewrite of a value that is given as an argument, or of a value within it. -/
inductive Value.Rewrites : Value → Value → Prop
  | wrap (x : Value) : Rewrites x (.list [x])
  | unwrap (x : Value) : Rewrites (.list [x]) x
  | item (before after : List Value) {x x' : Value} (h : Rewrites x x') :
      Rewrites (.list (before ++ x :: after)) (.list (before ++ x' :: after))
  | field (before after : List (String × Value)) (name : String) {x x' : Value}
      (h : Rewrites x x') :
      Rewrites (.object (before ++ (name, x) :: after)) (.object (before ++ (name, x') :: after))

inductive Argument.Rewrites : Argument → Argument → Prop
  | value (name : String) {x x' : Value} (h : x.Rewrites x') :
      Rewrites { name, value := x } { name, value := x' }

inductive Directive.Rewrites : Directive → Directive → Prop
  | argument (name : String) {given given' : List Argument}
      (h : OneChanges Argument.Rewrites given given') :
      Rewrites { name, arguments := given } { name, arguments := given' }

mutual

/-- A rewrite within a selection. -/
inductive Selection.Rewrites : Selection → Selection → Prop
  /-- A field is put under another alias, or under its own name. -/
  | alias (head : FieldHead) (alias? : Option String) (selections : List Selection) :
      Rewrites (.field head selections) (.field { head with responseKey? := alias? } selections)
  | argument (head : FieldHead) (selections : List Selection) {given : List Argument}
      (h : OneChanges Argument.Rewrites head.arguments given) :
      Rewrites (.field head selections) (.field { head with arguments := given } selections)
  | fieldDirective (head : FieldHead) (selections : List Selection) {given : List Directive}
      (h : OneChanges Directive.Rewrites head.directives given) :
      Rewrites (.field head selections) (.field { head with directives := given } selections)
  | fieldSelections (head : FieldHead) {selections selections' : List Selection}
      (h : Selection.RewritesAll selections selections') :
      Rewrites (.field head selections) (.field head selections')
  | spreadDirective (fragment : String) {given given' : List Directive}
      (h : OneChanges Directive.Rewrites given given') :
      Rewrites (.spread fragment given) (.spread fragment given')
  | inlineDirective (onType? : Option String) (selections : List Selection)
      {given given' : List Directive}
      (h : OneChanges Directive.Rewrites given given') :
      Rewrites (.inlineFragment onType? given selections)
        (.inlineFragment onType? given' selections)
  | inlineSelections (onType? : Option String) (given : List Directive)
      {selections selections' : List Selection}
      (h : Selection.RewritesAll selections selections') :
      Rewrites (.inlineFragment onType? given selections)
        (.inlineFragment onType? given selections')

/-- A rewrite of a selection set. -/
inductive Selection.RewritesAll : List Selection → List Selection → Prop
  /-- A run of selections is put into an inline fragment. -/
  | gather (before run after : List Selection) :
      RewritesAll (before ++ (run ++ after)) (before ++ .inlineFragment none [] run :: after)
  /-- Such a fragment is dissolved. -/
  | dissolve (before run after : List Selection) :
      RewritesAll (before ++ .inlineFragment none [] run :: after) (before ++ (run ++ after))
  | selection (before after : List Selection) {s s' : Selection} (h : Selection.Rewrites s s') :
      RewritesAll (before ++ s :: after) (before ++ s' :: after)

end

/-- A rewrite within a definition.  The definitions of variables and those of a type system may
become any others: that covers the rewrites of values within them. -/
inductive Definition.Rewrites : Definition → Definition → Prop
  | operationDirective (o : Operation) {given : List Directive}
      (h : OneChanges Directive.Rewrites o.directives given) :
      Rewrites (.operation o) (.operation { o with directives := given })
  | operationSelections (o : Operation) {selections : List Selection}
      (h : Selection.RewritesAll o.selections selections) :
      Rewrites (.operation o) (.operation { o with selections := selections })
  | fragmentDirective (f : Fragment) {given : List Directive}
      (h : OneChanges Directive.Rewrites f.directives given) :
      Rewrites (.fragment f) (.fragment { f with directives := given })
  | fragmentSelections (f : Fragment) {selections : List Selection}
      (h : Selection.RewritesAll f.selections selections) :
      Rewrites (.fragment f) (.fragment { f with selections := selections })
  | variableDefinitions (o : Operation) (definitions : List VariableDefinition) :
      Rewrites (.operation o) (.operation { o with variableDefinitions := definitions })
  | typeSystem {d d' : Definition} (h : d.isExecutable = false) (h' : d'.isExecutable = false) :
      Rewrites d d'

/-- Any number of rewrites, anywhere in a document. -/
def Document.RewritesTo : Document → Document → Prop :=
  Relation.ReflTransGen (OneChanges Definition.Rewrites)

namespace Deprecation

namespace Survey

variable {v : Visitor}

/-! ### Values and directives -/

/-- The survey of a list of parts stays if that of the changed part does. -/
lemma forM_of_oneChanges {α : Type} {change : α → α → Prop} {f : α → Survey Unit}
    (hf : ∀ x x', change x x' → f x' = f x) {xs xs' : List α} (h : OneChanges change xs xs') :
    xs'.forM f = xs.forM f := by
  obtain ⟨before, after, hchange⟩ := h
  rw [List.forM_eq_forM, List.forM_append, List.forM_append, List.forM_cons, List.forM_cons,
    hf _ _ hchange]

/-- The items of two lists are surveyed one list after the other. -/
lemma valueItems_append (typeName : String) (xs ys : List Value) :
    valueItems v typeName (xs ++ ys) = valueItems v typeName xs >>= fun _ =>
      valueItems v typeName ys := by
  induction xs with
  | nil => rw [List.nil_append, valueItems, pure_bind]
  | cons x xs ih => rw [List.cons_append, valueItems, valueItems, ih, bind_assoc]

/-- The fields of two object literals are surveyed one literal after the other. -/
lemma valueFields_append (owner : Owner) (xs ys : List (String × Value)) :
    valueFields v owner (xs ++ ys) = valueFields v owner xs >>= fun _ =>
      valueFields v owner ys := by
  induction xs with
  | nil => rw [List.nil_append, valueFields, pure_bind]
  | cons x xs ih =>
    obtain ⟨name, given⟩ := x
    simp only [List.cons_append, valueFields, ih, bind_assoc]

/-- What is asked for within a list is what is asked for where the list stands. -/
lemma value_list_singleton (typeName : String) (x : Value) :
    value v typeName (.list [x]) = value v typeName x := by
  rw [value, valueItems, valueItems]
  exact bind_pure_unit

/-- A value that is rewritten has the same survey. -/
theorem value_of_rewrites {x x' : Value} (h : x.Rewrites x') (typeName : String) :
    value v typeName x' = value v typeName x := by
  induction h generalizing typeName with
  | wrap x => exact value_list_singleton typeName x
  | unwrap x => exact (value_list_singleton typeName x).symm
  -- The other items are the same, and are asked for the same type.
  | item before after h ih =>
    rw [value, value, valueItems_append, valueItems_append, valueItems, valueItems, ih]
  | field before after name h ih =>
    rw [value, value]
    refine bind_congr fun declared? => ?_
    -- The fields may not be looked at, and then it does not matter what became of them.
    cases declared? with
    | none => rfl
    | some declared =>
      dsimp only
      rw [valueFields_append, valueFields_append, valueFields, valueFields]
      simp only [ih]

/-- Arguments of which one is rewritten have the same survey. -/
lemma arguments_of_oneChanges {given given' : List Argument}
    (h : OneChanges Argument.Rewrites given given') (owner : Owner) :
    arguments v owner given' = arguments v owner given := by
  refine forM_of_oneChanges (fun argument argument' hargument => ?_) h
  obtain ⟨name, hvalue⟩ := hargument
  exact bind_congr fun declared => value_of_rewrites hvalue declared.type.innerName

/-- Directives of which one is rewritten have the same survey. -/
lemma directives_of_oneChanges {given given' : List Directive}
    (h : OneChanges Directive.Rewrites given given') :
    directives v given' = directives v given := by
  refine forM_of_oneChanges (fun directive directive' hdirective => ?_) h
  obtain ⟨name, harguments⟩ := hdirective
  exact bind_congr fun definition => arguments_of_oneChanges harguments _

/-! ### Selections -/

/-- Two lists of selections are surveyed one after the other. -/
lemma selectionSet_append (typeName : String) (ss ts : List Selection) :
    selectionSet v typeName (ss ++ ts) =
      selectionSet v typeName ss >>= fun _ => selectionSet v typeName ts := by
  induction ss with
  | nil => rw [List.nil_append, selectionSet, pure_bind]
  | cons s ss ih => rw [List.cons_append, selectionSet, selectionSet, ih, bind_assoc]

/-- An inline fragment without condition and directives hands the enclosing type on to its
selections. -/
lemma selection_inline (typeName : String) (run : List Selection) :
    selection v typeName (.inlineFragment none [] run) = selectionSet v typeName run := by
  have hnone : directives v [] = pure () := rfl
  rw [selection, hnone, pure_bind, Option.getD_none]

/-- Selections that are gathered in an inline fragment without a type have the same survey. -/
lemma selectionSet_gather (typeName : String) (before run after : List Selection) :
    selectionSet v typeName (before ++ .inlineFragment none [] run :: after) =
      selectionSet v typeName (before ++ (run ++ after)) := by
  rw [selectionSet_append, selectionSet, selection_inline, selectionSet_append, selectionSet_append]

/-- The alias of a field is never looked at. -/
lemma fieldHead_alias (typeName : String) (head : FieldHead) (alias? : Option String) :
    fieldHead v typeName { head with responseKey? := alias? } = fieldHead v typeName head := rfl

/-- A field has the same survey if its arguments and its directives have. -/
lemma fieldHead_congr (typeName : String) (head : FieldHead) {given : List Argument}
    {applied : List Directive}
    (hgiven : ∀ owner, arguments v owner given = arguments v owner head.arguments)
    (happlied : directives v applied = directives v head.directives) :
    fieldHead v typeName { head with arguments := given, directives := applied } =
      fieldHead v typeName head := by
  unfold fieldHead
  dsimp only
  rw [happlied]
  simp only [hgiven]

mutual

/-- A selection that is rewritten has the same survey. -/
theorem selection_of_rewrites {s s' : Selection} (typeName : String) :
    s.Rewrites s' → selection v typeName s' = selection v typeName s
  | .alias head alias? selections => by rw [selection, selection, fieldHead_alias]
  | .argument head selections h => by
    have hhead := fieldHead_congr typeName head (arguments_of_oneChanges h) (v := v) rfl
    rw [selection, selection, hhead]
  | .fieldDirective head selections h => by
    have hhead := fieldHead_congr typeName head (fun _ => rfl) (directives_of_oneChanges h (v := v))
    rw [selection, selection, hhead]
  | .fieldSelections head h => by
    rw [selection, selection]
    exact bind_congr fun inner => selectionSet_of_rewritesAll inner h
  | .spreadDirective fragment h => by rw [selection, selection, directives_of_oneChanges h]
  | .inlineDirective onType? selections h =>
    by rw [selection, selection, directives_of_oneChanges h]
  | .inlineSelections onType? given h => by
    rw [selection, selection, selectionSet_of_rewritesAll (onType?.getD typeName) h]

/-- Selections that are rewritten have the same survey. -/
theorem selectionSet_of_rewritesAll {ss ss' : List Selection} (typeName : String) :
    Selection.RewritesAll ss ss' → selectionSet v typeName ss' = selectionSet v typeName ss
  | .gather before run after => selectionSet_gather typeName before run after
  | .dissolve before run after => (selectionSet_gather typeName before run after).symm
  | .selection before after h => by
    rw [selectionSet_append, selectionSet_append, selectionSet, selectionSet,
      selection_of_rewrites typeName h]

end

/-! ### Documents -/

/-- A definition that is rewritten has the same survey. -/
lemma definition_of_rewrites {d d' : Definition} (h : d.Rewrites d') :
    definition v d' = definition v d := by
  cases h with
  | operationDirective o h =>
    refine bind_congr fun root => ?_
    rw [directives_of_oneChanges h]
  | operationSelections o h =>
    refine bind_congr fun root => ?_
    rw [selectionSet_of_rewritesAll root h]
  | fragmentDirective f h =>
    refine bind_congr fun _ => ?_
    rw [directives_of_oneChanges h]
  | fragmentSelections f h =>
    refine bind_congr fun _ => ?_
    rw [selectionSet_of_rewritesAll f.onType h]
  | variableDefinitions o definitions => rfl
  | typeSystem h h' => rw [definition_of_not_isExecutable h, definition_of_not_isExecutable h']

/-- The survey of a document stays through all rewrites. -/
theorem document_of_rewritesTo {d d' : Document} (h : d.RewritesTo d') :
    document v d' = document v d := by
  induction h with
  | refl => rfl
  | tail _ hlast ih =>
    have hstep := forM_of_oneChanges (f := definition v)
      (fun _ _ hchange => definition_of_rewrites hchange) hlast
    exact hstep.trans ih

end Survey

namespace Visitor

/-- Whatever way the uses of a document are written in, a report on it hands the same notices to the
reporter, in the same order, and ends with the same result. -/
theorem report_of_rewritesTo {d d' : Document} (h : d.RewritesTo d') (v : Visitor) {σ : Type}
    (reporter : Reporter σ) (initial : σ) :
    v.report reporter initial d' = v.report reporter initial d := by
  rw [report_eq, report_eq, Survey.document_of_rewritesTo h]

/-- Paints in one color. -/
def paint (alias? : Option String) (color : Value) (line : Nat) : Selection :=
  .field
    { responseKey? := alias?, name := "paint", arguments := [{ name := "color", value := color }],
      directives := [], line } []

/-- A query for some selections. -/
def query (selections : List Selection) : Document :=
  [.operation { kind := .query, name? := none, variableDefinitions := [], directives := [],
                selections }]

/-- A color in two lists, another alias and an inline fragment about both fields change neither the
notice nor the mismatch after it. -/
theorem report_of_rewritesTo_paint :
    (query [paint none (.enum "RED" 1) 1, paint none (.enum "PINK" 2) 2]).RewritesTo
      (query [.inlineFragment none []
        [paint (some "wall") (.list [.list [.enum "RED" 1]]) 1, paint none (.enum "PINK" 2) 2]]) ∧
    painter.report collect []
      (query [.inlineFragment none []
        [paint (some "wall") (.list [.list [.enum "RED" 1]]) 1, paint none (.enum "PINK" 2) 2]]) =
      ([redAt 11], .error (.unknownEnumValue "Color" "PINK")) := by
  have hset : ∀ {ss ss' : List Selection}, Selection.RewritesAll ss ss' →
      (query ss).RewritesTo (query ss') :=
    fun h => .single (.among [] [] (.operationSelections _ h))
  have hcolor : ∀ x x' : Value, x.Rewrites x' →
      (query [paint none x 1, paint none (.enum "PINK" 2) 2]).RewritesTo
        (query [paint none x' 1, paint none (.enum "PINK" 2) 2]) :=
    fun x x' h => hset (.selection [] _ (.argument _ _ (.among [] [] (.value "color" h))))
  have hrewrites : (query [paint none (.enum "RED" 1) 1, paint none (.enum "PINK" 2) 2]).RewritesTo
      (query [.inlineFragment none []
        [paint (some "wall") (.list [.list [.enum "RED" 1]]) 1,
            paint none (.enum "PINK" 2) 2]]) := by
    refine (hcolor _ _ (.wrap _)).trans ?_
    refine (hcolor _ _ (.item [] [] (.wrap _))).trans ?_
    refine (hset (.selection [] _ (.alias _ (some "wall") _))).trans ?_
    exact hset (.gather [] [paint (some "wall") _ 1, paint none _ 2] [])
  have hreport : painter.report collect []
      (query [paint none (.enum "RED" 1) 1, paint none (.enum "PINK" 2) 2]) =
      ([redAt 11], .error (.unknownEnumValue "Color" "PINK")) := rfl
  exact ⟨hrewrites, (report_of_rewritesTo hrewrites painter collect []).trans hreport⟩

end Visitor

end Deprecation

end GraphqlClient
