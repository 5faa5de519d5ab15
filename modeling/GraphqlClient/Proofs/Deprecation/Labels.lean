import GraphqlClient.Proofs.Deprecation.Steps

/-!
# Labels of notices

The source file and the base line of a visitor are labels: they stand in the notices, and nothing
else depends on them.  Two visitors with one schema look the same things up at every node
(`Node.relabels_look`), go along the same trail (`trail_eq_of_schema_eq`), and hand over the same
notices up to these labels (`Survey.relabels_document`).
-/

namespace GraphqlClient.Deprecation

variable {v w : Visitor}

namespace Visitor

/-- The notice with the source file of `w`, and on a line counted from its base line. -/
def relabel (v w : Visitor) (n : Notice) : Notice :=
  { n with sourceFile := w.sourceFile, line := w.baseLine + (n.line - v.baseLine) }

/-- Two visitors differ in the labels of their notices only. -/
lemma noticesOf_relabel (v w : Visitor) (qualifiedName : String) (directives : List Directive)
    (line : Nat) :
    w.noticesOf qualifiedName directives line =
      (v.noticesOf qualifiedName directives line).map (v.relabel w) := by
  unfold noticesOf
  cases reason? directives with
  | none => rfl
  | some reason => simp [relabel]

end Visitor

namespace Survey

variable {α β : Type} {f : Notice → Notice} {s t : Survey α}

/-- The second survey is the first with other labels on its notices. -/
structure Relabels (f : Notice → Notice) (s t : Survey α) : Prop where
  notices : t.notices = s.notices.map f
  result : t.result = s.result

/-- Where there are no notices, none are relabelled. -/
lemma relabels_pure (a : α) : Relabels f (pure a) (pure a) := ⟨rfl, rfl⟩

/-- A survey that stops at once has no notices to relabel. -/
lemma relabels_fail (mismatch : Mismatch) : Relabels f (fail mismatch : Survey α) (fail mismatch) :=
  ⟨rfl, rfl⟩

/-- The notices of two surveys in turn are relabelled if those of each are. -/
lemma relabels_bind {g g' : α → Survey β} (hs : Relabels f s t)
    (hg : ∀ a, Relabels f (g a) (g' a)) :
    Relabels f (s >>= g) (t >>= g') := by
  obtain ⟨ns, result⟩ := s
  obtain ⟨ns', result'⟩ := t
  obtain rfl : ns' = ns.map f := hs.notices
  obtain rfl : result' = result := hs.result
  cases result' with
  | error mismatch => exact ⟨rfl, rfl⟩
  | ok a =>
    refine ⟨?_, (hg a).result⟩
    change ns.map f ++ (g' a).notices = (ns ++ (g a).notices).map f
    rw [(hg a).notices, List.map_append]

/-- Asking for what must be there gives no notices to relabel. -/
lemma relabels_required (found? : Option α) (mismatch : Mismatch) :
    Relabels f (required found? mismatch) (required found? mismatch) := by
  cases found? with
  | none => exact relabels_fail mismatch
  | some found => exact relabels_pure found

/-- A use has the same notices but for the labels. -/
lemma relabels_ofUse (qualifiedName : String) (directives : List Directive) (line : Nat) :
    Relabels (v.relabel w) (ofUse v qualifiedName directives line)
      (ofUse w qualifiedName directives line) :=
  ⟨v.noticesOf_relabel w qualifiedName directives line, rfl⟩

/-- An enum literal has the same notices but for the labels. -/
lemma relabels_enumLiteral (h : w.schema = v.schema) (typeName name : String) (line : Nat) :
    Relabels (v.relabel w) (enumLiteral v typeName name line)
      (enumLiteral w typeName name line) := by
  have hlookup : Relabels (v.relabel w) (enumValues? v typeName) (enumValues? w typeName) := by
    unfold enumValues?
    rw [h]
    cases v.schema.type? typeName with
    | none => exact relabels_fail _
    | some body =>
      cases body with
      | enum values => exact relabels_pure _
      | scalar => exact relabels_pure _
      | _ => exact relabels_fail _
  refine relabels_bind hlookup fun values? => ?_
  cases values? with
  | none => exact relabels_pure ()
  | some values => exact relabels_bind (relabels_required _ _) fun found => relabels_ofUse _ _ _

/-- Looking for the fields of an input object gives no notices to relabel. -/
lemma relabels_inputFields? (h : w.schema = v.schema) (typeName : String) :
    Relabels (v.relabel w) (inputFields? v typeName) (inputFields? w typeName) := by
  unfold inputFields?
  rw [h]
  cases v.schema.type? typeName with
  | none => exact relabels_fail _
  | some body =>
    cases body with
    | inputObject fields => exact relabels_pure _
    | _ => exact relabels_pure _

end Survey

/-! ### Nodes -/

open Survey

/-- What is looked up for a node depends on the schema alone, up to the labels of the notice. -/
lemma Node.relabels_look (h : w.schema = v.schema) (n : Node) :
    Relabels (v.relabel w) (n.look v) (n.look w) := by
  unfold Node.look
  rw [h]
  cases n with
  | definition d =>
    cases d with
    | operation o => exact relabels_bind (relabels_required _ _) fun root => relabels_pure _
    | fragment f => exact relabels_bind (relabels_required _ _) fun body => relabels_pure _
    | _ => exact relabels_pure []
  | selection typeName s =>
    cases s with
    | field head selections =>
      refine relabels_bind (relabels_required _ _) fun body => ?_
      refine relabels_bind (relabels_required _ _) fun definition => ?_
      exact relabels_bind (relabels_ofUse _ _ _) fun _ => relabels_pure _
    | spread fragment given => exact relabels_pure _
    | inlineFragment onType? given selections => exact relabels_pure _
  | directive given =>
    have hdefinition : Relabels (v.relabel w) (directiveDefinition v given.name)
        (directiveDefinition w given.name) := by
      unfold directiveDefinition
      rw [h]
      exact relabels_required _ _
    exact relabels_bind hdefinition fun definition => relabels_pure _
  | argument owner name x =>
    exact relabels_bind (relabels_required _ _) fun declared => relabels_pure _
  | value typeName x =>
    cases x with
    | enum name line =>
      exact relabels_bind (relabels_enumLiteral h typeName name line) fun _ => relabels_pure _
    | list items => exact relabels_pure _
    | object fields =>
      refine relabels_bind (relabels_inputFields? h typeName) fun declared? => ?_
      cases declared? with
      | none => exact relabels_pure _
      | some declared => exact relabels_pure _
    | _ => exact relabels_pure []

/-- The trail of an agenda depends on the schema alone. -/
lemma trail_eq_of_schema_eq (h : w.schema = v.schema) (agenda : Agenda) :
    trail w agenda = trail v agenda := by
  fun_induction trail v agenda with
  | case1 => rw [trail]
  | case2 n rest ih =>
    have hparts : n.parts w = n.parts v := by
      unfold Node.parts
      rw [(n.relabels_look h).result]
    rw [trail, hparts, ih]

/-- A document has the same notices but for the labels. -/
lemma Survey.relabels_document (h : w.schema = v.schema) (d : Document) :
    Relabels (v.relabel w) (Survey.document v d) (Survey.document w d) := by
  rw [document_eq_ofTrail, document_eq_ofTrail, trail_eq_of_schema_eq h]
  unfold ofTrail
  induction trail v (d.map .definition) with
  | nil => exact relabels_pure ()
  | cons n nodes ih =>
    exact relabels_bind (relabels_bind (n.relabels_look h) fun _ => relabels_pure ()) fun _ => ih

end GraphqlClient.Deprecation
