import GraphqlClient.Proofs.Deprecation.Steps

/-!
# Definitions on their own

A walk carries its tables and its reporter from one definition of a document to the next, and a
fragment is walked where it is defined, not where it is spread.  What is reported for a definition
still depends on that definition alone: surveys of documents compose (`Survey.document_append`), so
that a document fits if each of its definitions does, and its notices are then theirs, definition by
definition (`Survey.yields_document_iff_forall`).  Main statement: `Visitor.report_independent`.
-/

namespace GraphqlClient

/-- Operations and fragments can be executed.  The other definitions belong to a type system. -/
def Definition.isExecutable : Definition → Bool
  | .operation _ | .fragment _ => true
  | _ => false

namespace Deprecation

namespace Survey

variable {α β : Type} {v : Visitor} {ns : List Notice}

/-! ### Surveys in sequence -/

/-- A survey that comes to an end hands on its notices before those of the next. -/
lemma ok_bind (ns : List Notice) (a : α) (f : α → Survey β) :
    ({ notices := ns, result := .ok a } : Survey α) >>= f =
      { notices := ns ++ (f a).notices, result := (f a).result } := rfl

instance : LawfulMonad Survey := LawfulMonad.mk' Survey
  (fun s => by
    obtain ⟨notices, result⟩ := s
    cases result with
    | error mismatch => rfl
    | ok a => exact congrArg (mk · (.ok a)) (List.append_nil notices))
  (fun _ _ => rfl)
  (fun s f g => by
    obtain ⟨notices, result⟩ := s
    cases result with
    | error mismatch => rfl
    | ok a =>
      rw [ok_bind, ok_bind]
      obtain ⟨notices', result'⟩ := f a
      cases result' with
      | error mismatch => rfl
      | ok b => rw [ok_bind, ok_bind, List.append_assoc])

/-- The surveys of two documents make the survey of the document that holds the definitions of
both. -/
theorem document_append (v : Visitor) (a b : Document) :
    document v (a ++ b) = document v a >>= fun _ => document v b :=
  List.forM_append

/-- A document is surveyed definition by definition. -/
lemma document_cons (v : Visitor) (d : Definition) (ds : Document) :
    document v (d :: ds) = definition v d >>= fun _ => document v ds := rfl

/-- A document of one definition. -/
lemma document_singleton (v : Visitor) (d : Definition) : document v [d] = definition v d := by
  rw [document_cons]
  exact bind_pure_unit

/-- A document fits if its definitions do, and its notices are theirs, one definition after the
other. -/
theorem yields_document_iff_forall {ds : Document} :
    (document v ds).Yields ns () ↔
      (∀ d ∈ ds, (definition v d).result = .ok ()) ∧
        ns = ds.flatMap fun d => (definition v d).notices := by
  induction ds generalizing ns with
  | nil => exact yields_forM_nil_iff.trans (by simp)
  | cons d ds ih =>
    rw [document_cons, yields_seq_iff, List.forall_mem_cons, List.flatMap_cons]
    constructor
    · rintro ⟨before, after, hfirst, hrest, rfl⟩
      obtain ⟨hall, rfl⟩ := ih.mp hrest
      have hfirst' : definition v d = { notices := before, result := .ok () } := hfirst
      rw [hfirst']
      exact ⟨⟨rfl, hall⟩, rfl⟩
    · rintro ⟨⟨hfirst, hall⟩, rfl⟩
      have hyields : (definition v d).Yields (definition v d).notices () := by
        rw [Yields, ← hfirst]
      exact ⟨_, _, hyields, ih.mpr ⟨hall, rfl⟩, rfl⟩

/-- Nothing is looked up for a definition of a type system. -/
lemma definition_of_not_isExecutable {d : Definition} (h : d.isExecutable = false) :
    definition v d = pure () := by
  cases d with
  | operation o => cases h
  | fragment f => cases h
  | _ => rfl

/-- The definitions of the type system are surveyed without a trace. -/
lemma document_filter_isExecutable (v : Visitor) (ds : Document) :
    document v (ds.filter Definition.isExecutable) = document v ds := by
  induction ds with
  | nil => rfl
  | cons d ds ih =>
    cases hd : d.isExecutable with
    | true => rw [List.filter_cons_of_pos hd, document_cons, document_cons, ih]
    | false =>
      have hskipped : ¬ d.isExecutable = true := by simp [hd]
      rw [List.filter_cons_of_neg hskipped, document_cons, definition_of_not_isExecutable hd,
        pure_bind, ih]

end Survey

namespace Visitor

variable {v : Visitor} {d d' : Document} {ns : List Notice}

/-! ### Notices of a document -/

/-- The notices that a report on a document hands over, also before a mismatch. -/
def handed (v : Visitor) (d : Document) : List Notice := (v.report collect [] d).1

/-- The notices that are handed on for a document are those of its survey. -/
lemma handed_eq (v : Visitor) (d : Document) : v.handed d = (Survey.document v d).notices := by
  rw [handed, report_eq, foldl_collect, List.nil_append]

/-- The notices that are handed on for one definition are those of its survey. -/
lemma handed_singleton (v : Visitor) (x : Definition) :
    v.handed [x] = (Survey.definition v x).notices := by
  rw [handed_eq, Survey.document_singleton]

/-- A visit comes to an end exactly if it does so for each definition by itself, and then gives the
notices of each in turn. -/
theorem visit_eq_ok_iff_forall :
    v.visit d = .ok ns ↔
      (∀ x ∈ d, v.visit [x] = .ok (v.handed [x])) ∧ ns = d.flatMap fun x => v.handed [x] := by
  have hblock : ∀ x, v.visit [x] = .ok (v.handed [x]) ↔
      (Survey.definition v x).result = .ok () := by
    intro x
    rw [visit_eq_ok_iff_yields, Survey.document_singleton, handed_singleton]
    constructor
    · intro hyields
      exact congrArg Survey.result hyields
    · intro hresult
      rw [Survey.Yields, ← hresult]
  rw [visit_eq_ok_iff_yields, Survey.yields_document_iff_forall]
  simp only [hblock]
  simp only [handed_singleton]

/-- A visit that comes to an end also does so for fewer definitions, for the same ones in another
order, and for some of them more than once. -/
lemma visit_of_subset (h : v.visit d = .ok ns) (hsubset : d' ⊆ d) :
    v.visit d' = .ok (d'.flatMap fun x => v.handed [x]) := by
  obtain ⟨hall, -⟩ := visit_eq_ok_iff_forall.mp h
  exact visit_eq_ok_iff_forall.mpr ⟨fun x hx => hall x (hsubset hx), rfl⟩

/-! ### Independence -/

/-- What is reported for the definitions of a document is reported for each of them on its own. -/
structure Independent (v : Visitor) : Prop where
  /-- Of two parts of a document, the second is gone through if the first fits, and then as if it
  were alone. -/
  append : ∀ {σ : Type} (reporter : Reporter σ) (initial : σ) (a b : Document),
    v.report reporter initial (a ++ b) =
      match (v.report reporter initial a).2 with
      | .ok () =>
        ((v.handed a ++ v.handed b).foldl reporter initial, (v.report reporter initial b).2)
      | .error mismatch => ((v.handed a).foldl reporter initial, .error mismatch)
  /-- All that a reporter gets to see are these notices. -/
  reported : ∀ {σ : Type} (reporter : Reporter σ) (initial : σ) (d : Document),
    (v.report reporter initial d).1 = (v.handed d).foldl reporter initial
  /-- The notices for a document that fits come in one block for each definition. -/
  blocks : ∀ d ns, v.visit d = .ok ns →
    (∀ x ∈ d, v.visit [x] = .ok (v.handed [x])) ∧ ns = d.flatMap fun x => v.handed [x]
  /-- In another order of the definitions the blocks have that order. -/
  permuted : ∀ d ns, v.visit d = .ok ns → ∀ d' : Document, d'.Perm d →
    v.visit d' = .ok (d'.flatMap fun x => v.handed [x])
  /-- Definitions can be left out. -/
  thinned : ∀ d ns, v.visit d = .ok ns → ∀ d' : Document, d'.Sublist d →
    v.visit d' = .ok (d'.flatMap fun x => v.handed [x])
  /-- Definitions of a type system make no difference. -/
  typeSystem : ∀ d, v.visit (d.filter Definition.isExecutable) = v.visit d ∧
    ∀ {σ : Type} (reporter : Reporter σ) (initial : σ),
      v.report reporter initial (d.filter Definition.isExecutable) = v.report reporter initial d

/-- Definitions are visited independently of each other, though the walk remembers what it has
looked up. -/
theorem report_independent (v : Visitor) : v.Independent where
  append reporter initial a b := by
    simp only [handed_eq, report_eq, Survey.document_append]
    -- The tables that the first part leaves are not seen any more: surveys have none.
    obtain ⟨notices, result⟩ := Survey.document v a
    cases result with
    | ok u => rfl
    | error mismatch => rfl
  reported reporter initial d := by
    rw [handed_eq, report_eq]
  blocks d ns h := visit_eq_ok_iff_forall.mp h
  permuted d ns h d' hperm := visit_of_subset h hperm.subset
  thinned d ns h d' hsublist := visit_of_subset h hsublist.subset
  typeSystem d := by
    constructor
    · rw [visit_eq, visit_eq, Survey.document_filter_isExecutable]
    · intro σ reporter initial
      rw [report_eq, report_eq, Survey.document_filter_isExecutable]

/-- The notice for a use of red in the paintings. -/
def redAt (line : Nat) : Notice :=
  { qualifiedName := "Color.RED", reason := "too warm", sourceFile := "paint.rb", line }

/-- Two paintings in one document can be swapped, and the first left out. -/
theorem report_independent_paintings :
    painter.visit (painting ["RED"] ++ painting ["BLUE", "RED"]) = .ok [redAt 11, redAt 12] ∧
    painter.visit (painting ["BLUE", "RED"] ++ painting ["RED"]) = .ok [redAt 12, redAt 11] ∧
    painter.visit (painting ["BLUE", "RED"]) = .ok [redAt 12] := by
  have hvisit : painter.visit (painting ["RED"] ++ painting ["BLUE", "RED"]) =
    .ok [redAt 11, redAt 12] := rfl
  have hindependent := report_independent painter
  exact ⟨hvisit, hindependent.permuted _ _ hvisit _ List.perm_append_comm,
    hindependent.thinned _ _ hvisit _ (List.sublist_append_right _ _)⟩

end Visitor

end Deprecation

end GraphqlClient
