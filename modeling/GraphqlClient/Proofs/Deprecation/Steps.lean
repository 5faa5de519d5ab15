import GraphqlClient.Proofs.Deprecation.Nodes
import Mathlib.Logic.Relation

/-!
# The steps of a walk

A walk has an agenda of nodes.  Each step enters the first of them and puts its parts before the
others (`Step`), so that what holds at every stage that the steps reach holds at all that the
recursive walk passes through; in particular the tables are coherent throughout
(`Stage.coherent_of_reaches`).

Without tables, and going on after each mismatch, the nodes come in the order of `trail`.  What the
walk hands on are the notices of the nodes before the first mismatch there
(`Survey.document_eq_ofTrail`).  `Visitor.report_memoryless` puts this together: neither the tables
nor the early end of a walk show in a report.
-/

namespace GraphqlClient.Deprecation

/-! ### Stages -/

section

variable {σ : Type}

/-- Where a walk is: some nodes are still to be entered, or a mismatch has ended it. -/
inductive Stage (σ : Type) where
  | going (agenda : Agenda) (p : Progress σ)
  | stopped (mismatch : Mismatch) (p : Progress σ)

/-- A walk enters the node that is first on its agenda. -/
inductive Step (v : Visitor) (report : Reporter σ) : Stage σ → Stage σ → Prop
  | enter {n rest parts p q} (entered : (n.enter v report).run p = (.ok parts, q)) :
      Step v report (.going (n :: rest) p) (.going (parts ++ rest) q)
  | stop {n rest mismatch p q} (entered : (n.enter v report).run p = (.error mismatch, q)) :
      Step v report (.going (n :: rest) p) (.stopped mismatch q)

namespace Stage

def progress : Stage σ → Progress σ
  | .going _ p | .stopped _ p => p

/-- How the walk ended, if it has. -/
def result? : Stage σ → Option (Except Mismatch Unit)
  | .going [] _ => some (.ok ())
  | .going (_ :: _) _ => none
  | .stopped mismatch _ => some (.error mismatch)

/-- The stage at which a walk over a document starts. -/
def start (d : Document) (p : Progress σ) : Stage σ := .going (d.map .definition) p

/-- The steps lead from one stage to another. -/
abbrev Reaches (v : Visitor) (report : Reporter σ) : Stage σ → Stage σ → Prop :=
  Relation.ReflTransGen (Step v report)

/-- What the recursive walk comes to from here on. -/
def outcome (v : Visitor) (report : Reporter σ) : Stage σ → Except Mismatch Unit × Progress σ
  | .going agenda p => (Node.walkAll v report agenda).run p
  | .stopped mismatch p => (.error mismatch, p)

variable {v : Visitor} {report : Reporter σ} {s t : Stage σ}

/-! ### Steps and the recursive walk -/

/-- The outcome of the first stage is that of the walk over the document. -/
lemma outcome_start (d : Document) (p : Progress σ) :
    (start d p).outcome v report = (Walk.document v report d).run p := by
  rw [start, outcome, Node.walkAll_definitions]

/-- A step does not change the outcome. -/
lemma outcome_eq_of_step (h : Step v report s t) : s.outcome v report = t.outcome v report := by
  cases h with
  | enter entered => rw [outcome, Node.walkAll_enter, Walk.run_bind, entered, outcome]
  | stop entered => rw [outcome, Node.walkAll_enter, Walk.run_bind, entered, outcome]

/-- What the walk comes to is the same from every stage on. -/
lemma outcome_eq_of_reaches (h : Reaches v report s t) :
    s.outcome v report = t.outcome v report := by
  induction h with
  | refl => rfl
  | tail _ step ih => exact ih.trans (outcome_eq_of_step step)

/-- At its end, a walk comes to what it is. -/
lemma outcome_eq_of_result? {result : Except Mismatch Unit} (h : s.result? = some result) :
    s.outcome v report = (result, s.progress) := by
  cases s with
  | going agenda p =>
    cases agenda with
    | nil =>
      obtain rfl := Option.some.inj h
      rfl
    | cons n rest => cases h
  | stopped mismatch p =>
    obtain rfl := Option.some.inj h
    rfl

/-! ### Coherent tables on the way -/

/-- Entering a node from coherent tables does what its survey says, and leaves the tables
coherent. -/
lemma coherent_of_enter {n : Node} {p q : Progress σ} {result : Except Mismatch Agenda}
    (hp : p.tables.Coherent v.schema) (h : (n.enter v report).run p = (result, q)) :
    q.tables.Coherent v.schema ∧ result = (n.look v).result := by
  obtain ⟨tables, htables, hrun⟩ := Node.follows_enter n p hp
  obtain ⟨hresult, hprogress⟩ := Prod.mk.inj (h.symm.trans hrun)
  exact ⟨by rw [hprogress]; exact htables, hresult⟩

/-- A step keeps the tables in agreement with the schema. -/
lemma coherent_of_step (h : Step v report s t) (hs : s.progress.tables.Coherent v.schema) :
    t.progress.tables.Coherent v.schema := by
  cases h with
  | enter entered => exact (coherent_of_enter hs entered).1
  | stop entered => exact (coherent_of_enter hs entered).1

/-- The tables stay coherent at every stage. -/
theorem coherent_of_reaches (h : Reaches v report s t) (hs : s.progress.tables.Coherent v.schema) :
    t.progress.tables.Coherent v.schema := by
  induction h with
  | refl => exact hs
  | tail _ step ih => exact coherent_of_step step ih

/-- From coherent tables, the steps come to an end, since the agenda gets smaller with each of
them. -/
theorem exists_reaches_end (agenda : Agenda) (p : Progress σ) (hp : p.tables.Coherent v.schema) :
    ∃ last result, Reaches v report (.going agenda p) last ∧ last.result? = some result := by
  induction hsize : Node.weightOf agenda using Nat.strongRecOn generalizing agenda p with
  | _ size ih =>
    cases agenda with
    | nil => exact ⟨.going [] p, .ok (), .refl, rfl⟩
    | cons n rest =>
      rcases hentered : (n.enter v report).run p with ⟨mismatch | parts, q⟩
      · exact ⟨.stopped mismatch q, .error mismatch, .single (.stop hentered), rfl⟩
      · obtain ⟨hq, hlook⟩ := coherent_of_enter hp hentered
        have hyields : (n.look v).Yields (n.look v).notices parts := by
          rw [Survey.Yields, hlook]
        have hparts := (Node.looks_of_yields hyields).weightOf_lt
        have hless : Node.weightOf (parts ++ rest) < size := by
          rw [← hsize, Node.weightOf_append, Node.weightOf_cons]
          omega
        obtain ⟨last, result, hreaches, hresult⟩ := ih _ hless (parts ++ rest) q hq rfl
        exact ⟨last, result, .head (.enter hentered) hreaches, hresult⟩

end Stage

end

/-! ### The order of the nodes -/

namespace Node

variable {v : Visitor} {report : Reporter (List Notice)}

/-- The notice that the node itself gives rise to, if its member is deprecated. -/
def notices (v : Visitor) (n : Node) : List Notice := (n.look v).notices

/-- Why the node does not fit the schema, if it does not. -/
def mismatch? (v : Visitor) (n : Node) : Option Mismatch :=
  match (n.look v).result with
  | .ok _ => none
  | .error mismatch => some mismatch

/-- The parts of the node, or none if they are not known, since it does not fit. -/
def parts (v : Visitor) (n : Node) : Agenda :=
  match (n.look v).result with
  | .ok parts => parts
  | .error _ => []

/-- The parts of a node weigh less than the node. -/
lemma weightOf_parts_lt (v : Visitor) (n : Node) : weightOf (n.parts v) < n.weight := by
  rcases hlook : n.look v with ⟨ns, mismatch | parts⟩
  · simpa only [parts, hlook, weightOf_nil] using n.weight_pos
  · have hyields : (n.look v).Yields ns parts := hlook
    simpa only [Node.parts, hlook] using (looks_of_yields hyields).weightOf_lt

end Node

/-- All nodes on the agenda and below, in the order in which they are written, also after a node
that does not fit. -/
def trail (v : Visitor) : Agenda → List Node
  | [] => []
  | n :: rest => n :: trail v (n.parts v ++ rest)
termination_by agenda => Node.weightOf agenda
decreasing_by
  have hparts := Node.weightOf_parts_lt v n
  rw [Node.weightOf_append, Node.weightOf_cons]
  omega

/-! ### Nodes that do not fit -/

namespace Survey

variable {α β : Type} {s : Survey α} {f : α → Survey β}

/-- Where the survey fails, it has handed on nothing. -/
def Quiet (s : Survey α) : Prop := ∀ mismatch, s.result = .error mismatch → s.notices = []

/-- A survey without notices is quiet. -/
lemma Quiet.of_notices (h : s.notices = []) : s.Quiet := fun _ _ => h

/-- A survey that does nothing is quiet. -/
lemma quiet_pure (a : α) : (pure a : Survey α).Quiet := .of_notices rfl

/-- The survey of a use does not fail, and so is quiet. -/
lemma quiet_ofUse (v : Visitor) (qualifiedName : String) (directives : List Directive)
    (line : Nat) :
    (ofUse v qualifiedName directives line).Quiet := fun _ h => by cases h

/-- Asking for what must be there gives no notices. -/
lemma notices_required (found? : Option α) (mismatch : Mismatch) :
    (required found? mismatch).notices = [] := by
  cases found? <;> rfl

/-- A look-up hands on nothing, so that what comes after it counts. -/
lemma quiet_bind (hs : s.notices = []) (hf : ∀ a, (f a).Quiet) : (s >>= f).Quiet := by
  obtain ⟨notices, mismatch | a⟩ := s
  · exact .of_notices hs
  -- The notices of a failing sequence are those of its second part, which has none.
  · intro mismatch h
    have hnotices : (({ notices, result := .ok a } : Survey α) >>= f).notices =
        notices ++ (f a).notices := rfl
    rw [hnotices, hf a mismatch h]
    exact (List.append_nil notices).trans hs

/-- What is made of the outcome does not make a survey less quiet. -/
lemma quiet_bind_pure {g : α → β} (hs : s.Quiet) : (s >>= fun a => pure (g a)).Quiet := by
  obtain ⟨notices, mismatch | a⟩ := s
  · exact fun _ _ => hs mismatch rfl
  · intro mismatch h
    cases h

/-- Asking for something first does not make a survey less quiet. -/
lemma quiet_required_bind {found? : Option α} {mismatch : Mismatch} (hf : ∀ a, (f a).Quiet) :
    (required found? mismatch >>= f).Quiet := quiet_bind (notices_required found? mismatch) hf

/-- Looking for the values of an enum gives no notices. -/
lemma notices_enumValues? (v : Visitor) (typeName : String) :
    (enumValues? v typeName).notices = [] := by
  unfold enumValues?
  split <;> rfl

/-- Looking for the fields of an input object gives no notices. -/
lemma notices_inputFields? (v : Visitor) (typeName : String) :
    (inputFields? v typeName).notices = [] := by
  unfold inputFields?
  split <;> rfl

/-- The survey of an enum literal is quiet. -/
lemma quiet_enumLiteral (v : Visitor) (typeName name : String) (line : Nat) :
    (enumLiteral v typeName name line).Quiet := by
  refine quiet_bind (notices_enumValues? v typeName) fun values? => ?_
  cases values? with
  | none => exact quiet_pure ()
  | some values => exact quiet_required_bind fun found => quiet_ofUse v _ _ _

end Survey

namespace Node

variable {v : Visitor}

open Survey in
/-- A look at a node is quiet. -/
lemma quiet_look (n : Node) : (n.look v).Quiet := by
  cases n with
  | definition d =>
    cases d with
    | operation o => exact quiet_required_bind fun root => quiet_pure _
    | fragment f => exact quiet_required_bind fun body => quiet_pure _
    | _ => exact quiet_pure _
  | selection typeName s =>
    cases s with
    | field head selections =>
      refine quiet_required_bind fun body => quiet_required_bind fun definition => ?_
      exact quiet_bind_pure (quiet_ofUse v _ _ _)
    | _ => exact quiet_pure _
  | directive given => exact quiet_required_bind fun definition => quiet_pure _
  | argument owner name x => exact quiet_required_bind fun declared => quiet_pure _
  | value typeName x =>
    cases x with
    | enum name line => exact quiet_bind_pure (quiet_enumLiteral v typeName name line)
    | object fields =>
      refine quiet_bind (notices_inputFields? v typeName) fun declared? => ?_
      cases declared? with
      | none => exact quiet_pure _
      | some declared => exact quiet_pure _
    | _ => exact quiet_pure _

/-- A node fits exactly if a look at it gives its parts. -/
lemma mismatch?_eq_none_iff {n : Node} :
    n.mismatch? v = none ↔ (n.look v).result = .ok (n.parts v) := by
  unfold mismatch? parts
  cases (n.look v).result <;> simp

/-- A node does not fit exactly if a look at it fails. -/
lemma mismatch?_eq_some_iff {n : Node} {mismatch : Mismatch} :
    n.mismatch? v = some mismatch ↔ (n.look v).result = .error mismatch := by
  unfold mismatch?
  cases (n.look v).result <;> simp

end Node

/-! ### The walk along the trail -/

namespace Survey

/-- The survey of nodes one after the other, where their parts do not matter. -/
def ofTrail (v : Visitor) (nodes : List Node) : Survey Unit :=
  nodes.forM fun n => do
    let _ ← n.look v

variable {v : Visitor}

/-- The survey along a trail starts with a look at the first node. -/
lemma ofTrail_cons (n : Node) (nodes : List Node) :
    ofTrail v (n :: nodes) = (n.look v >>= fun _ => pure ()) >>= fun _ => ofTrail v nodes := rfl

/-- A node that fits hands on its notices before those of the rest of the trail. -/
lemma ofTrail_cons_of_ok {n : Node} {nodes : List Node} (h : n.mismatch? v = none) :
    ofTrail v (n :: nodes) =
      { notices := n.notices v ++ (ofTrail v nodes).notices,
        result := (ofTrail v nodes).result } := by
  have hresult := Node.mismatch?_eq_none_iff.mp h
  rw [ofTrail_cons, Node.notices]
  rcases hlook : n.look v with ⟨ns, mismatch | parts⟩
  · rw [hlook] at hresult
    cases hresult
  · change Survey.mk (ns ++ [] ++ (ofTrail v nodes).notices) _ = _
    rw [List.append_nil]

/-- At a node that does not fit the survey along a trail is over. -/
lemma ofTrail_cons_of_error {n : Node} {nodes : List Node} {mismatch : Mismatch}
    (h : n.mismatch? v = some mismatch) :
    ofTrail v (n :: nodes) = { notices := [], result := .error mismatch } := by
  have hresult := Node.mismatch?_eq_some_iff.mp h
  -- A field looks up its type and its definition before it notes a use, so that nothing is lost
  -- here.
  have hnotices := n.quiet_look mismatch hresult
  rw [ofTrail_cons]
  rcases hlook : n.look v with ⟨ns, mismatch' | parts⟩
  · rw [hlook] at hresult hnotices
    obtain rfl : mismatch' = mismatch := Except.error.inj hresult
    obtain rfl : ns = [] := hnotices
    rfl
  · rw [hlook] at hresult
    cases hresult

/-- Where every node fits, the notices of all of them are handed on. -/
lemma ofTrail_of_fits {nodes : List Node} (h : ∀ n ∈ nodes, n.mismatch? v = none) :
    ofTrail v nodes = { notices := nodes.flatMap (Node.notices v), result := .ok () } := by
  induction nodes with
  | nil => rfl
  | cons n nodes ih =>
    obtain ⟨hn, hnodes⟩ := List.forall_mem_cons.mp h
    rw [ofTrail_cons_of_ok hn, ih hnodes, List.flatMap_cons]

/-- Otherwise those of the nodes before the first that does not fit. -/
lemma ofTrail_of_mismatch {before after : List Node} {n : Node} {mismatch : Mismatch}
    (hbefore : ∀ n ∈ before, n.mismatch? v = none) (hn : n.mismatch? v = some mismatch) :
    ofTrail v (before ++ n :: after) =
      { notices := before.flatMap (Node.notices v), result := .error mismatch } := by
  induction before with
  | nil => exact ofTrail_cons_of_error hn
  | cons first before ih =>
    obtain ⟨hfirst, hrest⟩ := List.forall_mem_cons.mp hbefore
    rw [List.cons_append, ofTrail_cons_of_ok hfirst, ih hrest, List.flatMap_cons]

end Survey

/-- Nodes fit up to the first that does not. -/
lemma exists_first_mismatch (v : Visitor) (nodes : List Node) :
    (∀ n ∈ nodes, n.mismatch? v = none) ∨
      ∃ before n after mismatch, nodes = before ++ n :: after ∧
        (∀ n ∈ before, n.mismatch? v = none) ∧ n.mismatch? v = some mismatch := by
  induction nodes with
  | nil => exact .inl fun n hn => by cases hn
  | cons n nodes ih =>
    cases hn : n.mismatch? v with
    | some mismatch => exact .inr ⟨[], n, nodes, mismatch, rfl, fun m hm => by (cases hm), hn⟩
    | none =>
      rcases ih with hfits | ⟨before, failing, after, mismatch, rfl, hbefore, hfailing⟩
      · exact .inl (List.forall_mem_cons.mpr ⟨hn, hfits⟩)
      · exact .inr ⟨n :: before, failing, after, mismatch, rfl,
          List.forall_mem_cons.mpr ⟨hn, hbefore⟩, hfailing⟩

section

variable {σ α : Type} {v : Visitor} {report : Reporter σ}

/-- The walk over an agenda goes along its trail. -/
lemma follows_walkAll (agenda : Agenda) :
    Follows v report (Node.walkAll v report agenda) (Survey.ofTrail v (trail v agenda)) := by
  fun_induction trail v agenda with
  | case1 => exact follows_pure ()
  | case2 n rest ih =>
    -- The invariant is that the tables are coherent; the reporter may be in any state.
    intro p hp
    obtain ⟨tables, htables, hrun⟩ := Node.follows_enter n p hp
    rw [Node.walkAll_enter, Walk.run_bind, hrun]
    cases hn : n.mismatch? v with
    | some mismatch =>
      have hresult := Node.mismatch?_eq_some_iff.mp hn
      rw [Survey.ofTrail_cons_of_error hn, hresult, n.quiet_look mismatch hresult]
      exact ⟨tables, htables, rfl⟩
    | none =>
      rw [Survey.ofTrail_cons_of_ok hn, Node.mismatch?_eq_none_iff.mp hn]
      obtain ⟨tables', htables', hrest⟩ :=
        ih ⟨tables, (n.notices v).foldl report p.reported⟩ htables
      refine ⟨tables', htables', ?_⟩
      rw [List.foldl_append]
      exact hrest

/-- What a walk says is one survey only. -/
lemma Follows.unique {w : Walk (List Notice) α} {s s' : Survey α}
    (h : Follows v Visitor.collect w s) (h' : Follows v Visitor.collect w s') : s = s' := by
  have hempty := Tables.coherent_empty v.schema
  obtain ⟨tables, -, hrun⟩ := h ⟨.empty, []⟩ hempty
  obtain ⟨tables', -, hrun'⟩ := h' ⟨.empty, []⟩ hempty
  obtain ⟨hresult, hprogress⟩ := Prod.mk.inj (hrun.symm.trans hrun')
  have hnotices := congrArg Progress.reported hprogress
  simp only [Visitor.foldl_collect, List.nil_append] at hnotices
  calc s = ⟨s.notices, s.result⟩ := rfl
    _ = s' := by rw [hnotices, hresult]

/-- The survey of a document goes along the trail of its definitions. -/
theorem Survey.document_eq_ofTrail (v : Visitor) (d : Document) :
    Survey.document v d = Survey.ofTrail v (trail v (d.map .definition)) := by
  have hwalk : Follows v Visitor.collect _ _ := follows_walkAll (d.map .definition)
  rw [Node.walkAll_definitions] at hwalk
  exact Follows.unique (follows_document d) hwalk

end

/-! ### Reports -/

namespace Visitor

/-- What a report on a document does not show: that names are looked up once, and that the walk ends
early. -/
structure Memoryless (v : Visitor) (d : Document) : Prop where
  /-- The reporter gets the notices of the survey, which keeps no tables, one by one, and the result
  is that of the survey. -/
  survey : ∀ {σ : Type} (reporter : Reporter σ) (initial : σ),
    v.report reporter initial d =
      ((Survey.document v d).notices.foldl reporter initial, (Survey.document v d).result)
  /-- From any coherent tables, the steps of the walk lead to an end that is the same. -/
  ended : ∀ {σ : Type} (reporter : Reporter σ) (initial : σ) (tables : Tables),
    tables.Coherent v.schema → ∃ last,
      Stage.Reaches v reporter (.start d ⟨tables, initial⟩) last ∧
      last.result? = some (v.report reporter initial d).2 ∧
      last.progress.reported = (v.report reporter initial d).1 ∧
      (Walk.document v reporter d).run ⟨tables, initial⟩ =
        ((v.report reporter initial d).2, last.progress)
  /-- At every stage on the way the tables hold only what the schema says. -/
  coherent : ∀ {σ : Type} (reporter : Reporter σ) (initial : σ) (tables : Tables),
    tables.Coherent v.schema → ∀ stage,
      Stage.Reaches v reporter (.start d ⟨tables, initial⟩) stage →
      stage.progress.tables.Coherent v.schema
  /-- If the document fits, then every node fits, and all their notices have been handed on. -/
  fits : ∀ {σ : Type} (reporter : Reporter σ) (initial : σ),
    (v.report reporter initial d).2 = .ok () →
      (∀ n ∈ trail v (d.map .definition), n.mismatch? v = none) ∧
      (v.report reporter initial d).1 =
        ((trail v (d.map .definition)).flatMap (Node.notices v)).foldl reporter initial
  /-- If not, then those of the nodes before the first that does not fit. -/
  stops : ∀ {σ : Type} (reporter : Reporter σ) (initial : σ) (mismatch : Mismatch),
    (v.report reporter initial d).2 = .error mismatch →
      ∃ before failing after, trail v (d.map .definition) = before ++ failing :: after ∧
        (∀ n ∈ before, n.mismatch? v = none) ∧ failing.mismatch? v = some mismatch ∧
        (v.report reporter initial d).1 = (before.flatMap (Node.notices v)).foldl reporter initial
  /-- A visit gives the notices that a report hands on until it ends well. -/
  visit_ok : ∀ ns, v.visit d = .ok ns ↔ ∀ {σ : Type} (reporter : Reporter σ) (initial : σ),
    v.report reporter initial d = (ns.foldl reporter initial, .ok ())
  /-- A visit fails as a report does. -/
  visit_error : ∀ mismatch, v.visit d = .error mismatch ↔
    ∀ {σ : Type} (reporter : Reporter σ) (initial : σ),
      (v.report reporter initial d).2 = .error mismatch

variable {v : Visitor} {d : Document}

/-- If all nodes of the trail fit, then the notices of all are reported. -/
lemma report_fits (h : ∀ n ∈ trail v (d.map .definition), n.mismatch? v = none) {σ : Type}
    (reporter : Reporter σ) (initial : σ) :
    v.report reporter initial d =
      (((trail v (d.map .definition)).flatMap (Node.notices v)).foldl reporter initial,
        .ok ()) := by
  rw [report_eq, Survey.document_eq_ofTrail, Survey.ofTrail_of_fits h]

/-- The first node that does not fit ends a report, and the notices before it are reported. -/
lemma report_stops {before after : List Node} {failing : Node} {mismatch : Mismatch}
    (htrail : trail v (d.map .definition) = before ++ failing :: after)
    (hbefore : ∀ n ∈ before, n.mismatch? v = none) (hfailing : failing.mismatch? v = some mismatch)
    {σ : Type} (reporter : Reporter σ) (initial : σ) :
    v.report reporter initial d =
      ((before.flatMap (Node.notices v)).foldl reporter initial, .error mismatch) := by
  rw [report_eq, Survey.document_eq_ofTrail, htrail, Survey.ofTrail_of_mismatch hbefore hfailing]

/-- A visit gives the notices of the survey of the document, if that comes to an end. -/
lemma visit_eq (v : Visitor) (d : Document) :
    v.visit d = (Survey.document v d).result.map fun _ => (Survey.document v d).notices := by
  unfold visit
  rw [report_eq, foldl_collect, List.nil_append]
  rcases Survey.document v d with ⟨notices, mismatch | ⟨⟩⟩ <;> rfl

/-- A visit gives notices exactly if every reporter gets them and no report fails. -/
lemma visit_eq_ok_iff_report {ns : List Notice} :
    v.visit d = .ok ns ↔ ∀ {σ : Type} (reporter : Reporter σ) (initial : σ),
      v.report reporter initial d = (ns.foldl reporter initial, .ok ()) := by
  constructor
  · intro h σ reporter initial
    have hyields : Survey.document v d = { notices := ns, result := .ok () } :=
      visit_eq_ok_iff_yields.mp h
    rw [report_eq, hyields]
  · intro h
    have hreport := h collect []
    rw [foldl_collect, List.nil_append] at hreport
    unfold visit
    rw [hreport]

/-- A visit fails exactly if every report fails, and with the same mismatch. -/
lemma visit_eq_error_iff_report {mismatch : Mismatch} :
    v.visit d = .error mismatch ↔ ∀ {σ : Type} (reporter : Reporter σ) (initial : σ),
      (v.report reporter initial d).2 = .error mismatch := by
  simp only [report_eq, visit_eq]
  cases (Survey.document v d).result with
  | ok u =>
    constructor
    · intro h
      cases h
    · intro h
      cases h collect []
  | error other =>
    constructor
    · intro h σ reporter initial
      obtain rfl := Except.error.inj h
      rfl
    · intro h
      obtain rfl := Except.error.inj (h collect [])
      rfl

/-- Neither the tables nor the early end of a walk show in a report. -/
theorem report_memoryless (v : Visitor) (d : Document) : v.Memoryless d where
  survey reporter initial := report_eq v reporter initial d
  ended reporter initial tables htables := by
    obtain ⟨last, result, hreaches, hresult⟩ :=
      Stage.exists_reaches_end (d.map .definition) ⟨tables, initial⟩ htables
    -- The steps end as the walk does, and the walk as its survey.
    have hrun : (Walk.document v reporter d).run ⟨tables, initial⟩ = (result, last.progress) := by
      rw [← Stage.outcome_start, Stage.start, Stage.outcome_eq_of_reaches hreaches,
        Stage.outcome_eq_of_result? hresult]
    have hfollows : Follows v reporter (Walk.document v reporter d) (Survey.document v d) :=
      follows_document d
    obtain ⟨tables', -, hsurvey⟩ := hfollows ⟨tables, initial⟩ htables
    obtain ⟨rfl, hprogress⟩ := Prod.mk.inj (hrun.symm.trans hsurvey)
    rw [report_eq]
    exact ⟨last, hreaches, hresult, by rw [hprogress], hrun⟩
  coherent reporter initial tables htables stage hreaches :=
    Stage.coherent_of_reaches hreaches htables
  fits reporter initial hok := by
    rcases exists_first_mismatch v (trail v (d.map .definition)) with
      hfits | ⟨before, failing, after, mismatch, htrail, hbefore, hfailing⟩
    · exact ⟨hfits, by rw [report_fits hfits]⟩
    · rw [report_stops htrail hbefore hfailing] at hok
      cases hok
  stops reporter initial mismatch herror := by
    rcases exists_first_mismatch v (trail v (d.map .definition)) with
      hfits | ⟨before, failing, after, mismatch', htrail, hbefore, hfailing⟩
    · rw [report_fits hfits] at herror
      cases herror
    · have hreport := report_stops htrail hbefore hfailing reporter initial
      rw [hreport] at herror
      obtain rfl := Except.error.inj herror
      exact ⟨before, failing, after, htrail, hbefore, hfailing, by rw [hreport]⟩
  visit_ok ns := visit_eq_ok_iff_report
  visit_error mismatch := visit_eq_error_iff_report

/-! ### A document that fits up to its second field -/

/-- The values of an enum type, of which the first is deprecated. -/
def colors : List EnumValueDefinition :=
  [{ description? := none, name := "RED",
     directives :=
       [{ name := "deprecated",
          arguments := [{ name := "reason", value := .string "too warm" }] }] },
    { description? := none, name := "BLUE", directives := [] }]

/-- The one field of a schema takes a color. -/
def painter : Visitor where
  schema :=
    { types :=
        [("Color", .enum colors),
          ("Query", .object []
            [{ description? := none, name := "paint",
               arguments :=
                 [{ description? := none, name := "color", type := .named "Color", default? := none,
                    directives := [] }],
               type := .named "Color", directives := [] }])],
      directives := [], query? := some "Query", mutation? := none, subscription? := none }
  sourceFile := "paint.rb"
  baseLine := 10

/-- Paints in some colors, one on each line. -/
def painting (names : List String) : Document :=
  [.operation
    { kind := .query, name? := none, variableDefinitions := [], directives := [],
      selections := names.mapIdx fun i name =>
        .field
          { responseKey? := none, name := "paint",
            arguments := [{ name := "color", value := .enum name (i + 1) }], directives := [],
            line := i + 1 } [] }]

/-- The first use is reported, the unknown color ends the walk, and the last use is not reported, be
the enum type remembered from the start or not. -/
theorem report_memoryless_painting :
    ({ enums := [("Color", colors)], directives := [] } : Tables).Coherent painter.schema ∧
    ∃ last,
      Stage.Reaches painter collect
        (.start (painting ["RED", "PINK", "RED"])
          ⟨{ enums := [("Color", colors)], directives := [] }, []⟩)
        last ∧
      last.result? = some (.error (.unknownEnumValue "Color" "PINK")) ∧
      last.progress.reported =
        [{ qualifiedName := "Color.RED", reason := "too warm", sourceFile := "paint.rb",
            line := 11 }] := by
  have htables :
      ({ enums := [("Color", colors)], directives := [] } : Tables).Coherent painter.schema :=
    (Tables.coherent_empty painter.schema).withEnum rfl
  have hreport : painter.report collect [] (painting ["RED", "PINK", "RED"]) =
      ([{ qualifiedName := "Color.RED", reason := "too warm", sourceFile := "paint.rb",
          line := 11 }], .error (.unknownEnumValue "Color" "PINK")) := by rfl
  obtain ⟨last, hreaches, hresult, hreported, -⟩ :=
    (report_memoryless painter (painting ["RED", "PINK", "RED"])).ended collect [] _ htables
  rw [hreport] at hresult hreported
  exact ⟨htables, last, hreaches, hresult, hreported⟩

end Visitor

end GraphqlClient.Deprecation
