import GraphqlClient.Proofs.Deprecation.Composition
import GraphqlClient.Proofs.Deprecation.Labels
import GraphqlClient.Proofs.Deprecation.Resolution
import GraphqlClient.Proofs.Document.Written
import GraphqlClient.Proofs.Outcome
import GraphqlClient.Schema.Build

/-!
# Notices in document order

A walk enters the nodes of a document in the order in which they are written: what is marked in a
node and in its parts is marked in the text in that order (`Node.Looks.sublist_marks`), and so is
what is marked along a whole trail (`sublist_marks_trail`).  A node that gives rise to a notice is a
field or an enum literal, and the notice is on its line (`Node.notices_of_ne_nil`).  If the document
was read from a text, then these nodes start one after the other in the text, and hence on lines
that do not decrease.  Main statement: `Visitor.report_inDocumentOrder`.
-/

namespace GraphqlClient.Deprecation

variable {v : Visitor}

/-! ### Nodes in the order of the text -/

namespace Node

/-- Where the node is written, if it is a field or an enum literal.  A field starts with its
alias. -/
def mark? : Node → Option Mark
  | .selection _ (.field head _) =>
    some { name := head.name, start := head.responseKey?.getD head.name, line := head.line }
  | .value _ (.enum name line) => some { name, start := name, line }
  | _ => none

/-- The fields and enum literals in a node, itself included. -/
def marks : Node → List Mark
  | .definition d => d.marks
  | .selection _ s => Piece.marks s.pieces
  | .directive given => Piece.marks given.pieces
  | .argument _ _ x => Piece.marks x.pieces
  | .value _ x => Piece.marks x.pieces

/-- What is marked in nodes of one kind. -/
lemma marks_of_map {α : Type} (node : α → Node) (as : List α) :
    (as.map node).flatMap marks = as.flatMap fun a => (node a).marks := List.flatMap_map ..

/-- What is marked of a node itself is among what is marked in it. -/
lemma sublist_mark (n : Node) : n.mark?.toList.Sublist n.marks := by
  cases n with
  | selection typeName s =>
    cases s with
    | field head selections => simp [marks, mark?, Selection.pieces, FieldHead.pieces]
    | _ => exact List.nil_sublist _
  | value typeName x =>
    cases x with
    | enum name line => exact List.Sublist.refl _
    | _ => exact List.nil_sublist _
  | _ => exact List.nil_sublist _

/-- The parts of a node are written in their order, after the word that the node starts with. -/
lemma Looks.sublist_marks {n : Node} {ns : List Notice} {parts : Agenda} (h : n.Looks v ns parts) :
    (n.mark?.toList ++ parts.flatMap marks).Sublist n.marks := by
  cases h with
  | operation =>
    simp only [marks, Definition.marks, Operation.pieces, mark?, List.flatMap_append, marks_of_map,
      Piece.marks_word, Piece.marks_append, Piece.marks_flatMap, Piece.marks_enclosed,
      Selection.marks_piecesOfSet]
    -- the definitions of variables are not walked
    exact (List.sublist_append_right _ _).trans (List.sublist_append_right _ _)
  | fragment => simp [marks, Definition.marks, Fragment.pieces, mark?, marks_of_map]
  | field => simp [marks, mark?, Selection.pieces, FieldHead.pieces, Argument.pieces, marks_of_map]
  | spread => simp [marks, mark?, Selection.pieces, marks_of_map]
  | inlineFragment => simp [marks, mark?, Selection.pieces, marks_of_map]
  | directive => simp [marks, mark?, Directive.pieces, Argument.pieces, marks_of_map]
  | argument => simp [marks, mark?]
  | list => simp [marks, mark?, Value.pieces, Value.piecesOfItems_eq, marks_of_map]
  | object => simp [marks, mark?, Value.pieces, Value.piecesOfFields_eq, marks_of_map]
  | _ =>
    -- a node without parts
    rw [List.flatMap_nil, List.append_nil]
    exact sublist_mark _

/-- Where a node fits, its survey comes to an end. -/
lemma yields_look {n : Node} (h : n.mismatch? v = none) :
    (n.look v).Yields (n.notices v) (n.parts v) := by
  rw [Survey.Yields, ← mismatch?_eq_none_iff.mp h]
  rfl

/-- A node with a notice is a field or an enum literal that names a deprecated member, and the
notice is on its line. -/
lemma Looks.notices_of_ne_nil {n : Node} {ns : List Notice} {parts : Agenda}
    (h : n.Looks v ns parts) (hne : ns ≠ []) :
    ∃ m typeName directives, n.mark? = some m ∧
      ns = v.noticesOf (typeName ++ "." ++ m.name) directives m.line := by
  cases h with
  | @field typeName head selections body definition isDefined member =>
    exact ⟨_, typeName, definition.directives, rfl, rfl⟩
  | @enum typeName name line ns resolves =>
    cases resolves with
    | plain plain => exact plain.elim
    | @enum _ _ _ values found _ isEnum member use =>
      exact ⟨_, typeName, found.directives, rfl, notesUse_iff.mp use⟩
    | enumAtScalar isScalar => exact absurd rfl hne
  | _ => exact absurd rfl hne

/-- A node with a notice is a field or an enum literal, and the notice is on its line. -/
lemma notices_of_ne_nil {n : Node} (hne : n.notices v ≠ []) :
    ∃ m typeName directives, n.mark? = some m ∧
      n.notices v = v.noticesOf (typeName ++ "." ++ m.name) directives m.line := by
  cases hmismatch : n.mismatch? v with
  | none => exact (looks_of_yields (yields_look hmismatch)).notices_of_ne_nil hne
  | some mismatch => exact absurd (n.quiet_look mismatch (mismatch?_eq_some_iff.mp hmismatch)) hne

/-- A node and its parts are marked in the order in which they are written. -/
lemma sublist_marks_parts (v : Visitor) (n : Node) :
    (n.mark?.toList ++ (n.parts v).flatMap marks).Sublist n.marks := by
  cases hmismatch : n.mismatch? v with
  | none => exact (looks_of_yields (yields_look hmismatch)).sublist_marks
  | some mismatch =>
    rw [parts, mismatch?_eq_some_iff.mp hmismatch, List.flatMap_nil, List.append_nil]
    exact sublist_mark n

end Node

/-- Along a trail the fields and enum literals come in the order in which they are written. -/
theorem sublist_marks_trail (v : Visitor) (agenda : Agenda) :
    ((trail v agenda).filterMap Node.mark?).Sublist (agenda.flatMap Node.marks) := by
  fun_induction trail v agenda with
  | case1 => exact List.Sublist.refl []
  | case2 n rest ih =>
    have hfirst : (n :: trail v (n.parts v ++ rest)).filterMap Node.mark? =
        n.mark?.toList ++ (trail v (n.parts v ++ rest)).filterMap Node.mark? := by
      rw [List.filterMap_cons]
      cases n.mark? <;> rfl
    rw [List.flatMap_append] at ih
    have hrest := (List.Sublist.refl n.mark?.toList).append ih
    rw [← List.append_assoc] at hrest
    rw [hfirst, List.flatMap_cons]
    exact hrest.trans ((n.sublist_marks_parts v).append (List.Sublist.refl _))

/-! ### Notices and their nodes -/

/-- The notices of a survey are those of the nodes before the first that does not fit, and of all
nodes if each of them fits. -/
lemma exists_prefix_notices (v : Visitor) (nodes : List Node) :
    ∃ before, before <+: nodes ∧
      (Survey.ofTrail v nodes).notices = before.flatMap (Node.notices v) ∧
      ((Survey.ofTrail v nodes).result = .ok () → before = nodes) := by
  rcases exists_first_mismatch v nodes with hfits | ⟨before, n, after, mismatch, rfl, hbefore, hn⟩
  · rw [Survey.ofTrail_of_fits hfits]
    exact ⟨nodes, List.prefix_refl nodes, rfl, fun _ => rfl⟩
  · rw [Survey.ofTrail_of_mismatch hbefore hn]
    exact ⟨before, List.prefix_append before (n :: after), rfl, nofun⟩

/-- The notice is that of the node, and is named after the field or enum literal that the node
is. -/
structure Node.Notes (v : Visitor) (n : Node) (notice : Notice) : Prop where
  own : n.notices v = [notice]
  named : ∃ m typeName, n.mark? = some m ∧ notice.qualifiedName = typeName ++ "." ++ m.name ∧
    notice.line = v.baseLine + m.line

/-- Each notice is that of a node of its own. -/
lemma exists_nodes_notices (v : Visitor) (nodes : List Node) :
    ∃ noticed : List Node, noticed.Sublist nodes ∧
      List.Forall₂ (Node.Notes v) noticed (nodes.flatMap (Node.notices v)) := by
  induction nodes with
  | nil => exact ⟨[], List.Sublist.refl [], .nil⟩
  | cons n nodes ih =>
    obtain ⟨noticed, hsublist, hnotices⟩ := ih
    rw [List.flatMap_cons]
    by_cases hne : n.notices v = []
    · rw [hne]
      exact ⟨noticed, hsublist.cons n, hnotices⟩
    · obtain ⟨m, typeName, directives, hm, huse⟩ := Node.notices_of_ne_nil hne
      unfold Visitor.noticesOf at huse
      cases hreason : reason? directives with
      | none =>
        rw [hreason] at huse
        exact absurd huse hne
      | some reason =>
        rw [hreason] at huse
        rw [huse]
        have hnotes : n.Notes v _ := ⟨huse, m, typeName, hm, rfl, rfl⟩
        exact ⟨n :: noticed, hsublist.cons_cons n, .cons hnotes hnotices⟩

/-- The node is a field or an enum literal that starts at the place. -/
def Node.StartsAt (text : List Char) (n : Node) (place : Nat) : Prop :=
  ∃ m, n.mark? = some m ∧ m.StartsAt text place

/-! ### Reports on documents that were read from a text -/

namespace Visitor

/-- The notices for a document come in the order of the text that the document was read from. -/
structure InDocumentOrder (v : Visitor) (text : String) (d : Document) : Prop where
  /-- The lines do not decrease, whether there is a mismatch in the end or not. -/
  ordered : (v.handed d).Pairwise (·.line ≤ ·.line)
  /-- Each notice is that of a field or enum literal of its own, and these start one after the other
  in the text.  The line of the notice is the base line and that of the place, which is counted from
  one. -/
  placed : ∃ (nodes : List Node) (places : List Nat), nodes.Sublist (trail v (d.map .definition)) ∧
    List.Forall₂ (Node.Notes v) nodes (v.handed d) ∧
    List.Forall₂ (Node.StartsAt text.toList) nodes places ∧ places.Pairwise (· < ·) ∧
    (v.handed d).map (·.line) = places.map fun place => v.baseLine +
      (lineEnds (text.toList.take place) + 1)
  /-- Without a mismatch no notice of any node is missing. -/
  complete : (v.report collect [] d).2 = .ok () →
    v.handed d = (trail v (d.map .definition)).flatMap (Node.notices v)
  /-- The lines that the document has on its fields and enum literals are those of the tokens that
  these are written with, and the tokens stand in the text one after the other. -/
  written : ∃ (ts : List PlacedToken) (places : List Nat), tokens? text = some ts ∧ d.WrittenAs ts ∧
    List.Forall₂ (PlacedToken.StartsAt text.toList) ts places ∧ places.Pairwise (· < ·)
  /-- No line is too large for 64 bits. -/
  fits : ∀ n ∈ v.handed d, n.line < 2 ^ 64
  /-- With another base line or source file the notices have other labels, and all else is the
  same. -/
  relabelled : ∀ w : Visitor, w.schema = v.schema →
    w.handed d = (v.handed d).map (v.relabel w) ∧
    ∀ {σ : Type} (reporter : Reporter σ) (initial : σ), w.report reporter initial d =
      (((v.handed d).map (v.relabel w)).foldl reporter initial, (v.report reporter initial d).2)

variable {text : String} {d : Document}

/-- Fields and enum literals that come one after the other on a trail start one after the other in
the text. -/
lemma exists_places_of_nodes (hparse : Document.parse? text = some d) {nodes : List Node}
    (hnodes : nodes.Sublist (trail v (d.map .definition))) (hmarked : ∀ n ∈ nodes, n.mark?.isSome) :
    ∃ places : List Nat, List.Forall₂ (Node.StartsAt text.toList) nodes places ∧
      places.Pairwise (· < ·) := by
  obtain ⟨all, hall, hascending⟩ := Document.exists_places_of_parse? hparse
  have hmarks : (nodes.filterMap Node.mark?).Sublist d.marks := by
    have htrail := sublist_marks_trail v (d.map .definition)
    rw [Node.marks_of_map] at htrail
    exact (hnodes.filterMap Node.mark?).trans htrail
  obtain ⟨places, hplaces, hstarts⟩ := exists_sublist_of_forall₂ hmarks hall
  refine ⟨places, ?_, hascending.sublist hplaces⟩
  clear hnodes hmarks hplaces
  -- From here on it does not matter where the nodes come from, only that each starts a mark.
  induction nodes generalizing places with
  | nil =>
    cases hstarts
    exact .nil
  | cons n nodes ih =>
    obtain ⟨hn, hrest⟩ := List.forall_mem_cons.mp hmarked
    obtain ⟨m, hm⟩ := Option.isSome_iff_exists.mp hn
    rw [List.filterMap_cons_some hm] at hstarts
    obtain ⟨place, places, hfirst, hlater, rfl⟩ := List.forall₂_cons_left_iff.mp hstarts
    exact .cons ⟨m, hm, hfirst⟩ (ih hrest places hlater)

/-- The notice of a node is on the line where the node starts. -/
lemma line_of_startsAt {n : Node} {notice : Notice} {place : Nat} (hnotice : n.Notes v notice)
    (hplace : n.StartsAt text.toList place) :
    notice.line = v.baseLine + (lineEnds (text.toList.take place) + 1) := by
  obtain ⟨m, typeName, hm, -, hline⟩ := hnotice.named
  obtain ⟨m', hm', hstarts⟩ := hplace
  obtain rfl : m = m' := Option.some.inj (hm.symm.trans hm')
  rw [hline, hstarts.line]

/-- The lines of notices are those of the places at which their nodes start. -/
lemma map_line_of_startsAt {nodes : List Node} {ns : List Notice} {places : List Nat}
    (hnotices : List.Forall₂ (Node.Notes v) nodes ns)
    (hplaces : List.Forall₂ (Node.StartsAt text.toList) nodes places) :
    ns.map (·.line) = places.map fun place => v.baseLine +
      (lineEnds (text.toList.take place) + 1) := by
  induction hnotices generalizing places with
  | nil =>
    cases hplaces
    rfl
  | cons hnotice _ ih =>
    obtain ⟨place, places, hplace, hrest, rfl⟩ := List.forall₂_cons_left_iff.mp hplaces
    rw [List.map_cons, List.map_cons, line_of_startsAt hnotice hplace, ih hrest]

/-- The notices are those of nodes that start one after the other in the text. -/
lemma exists_nodes_places (v : Visitor) (hparse : Document.parse? text = some d) :
    ∃ (nodes : List Node) (places : List Nat), nodes.Sublist (trail v (d.map .definition)) ∧
      List.Forall₂ (Node.Notes v) nodes (v.handed d) ∧
      List.Forall₂ (Node.StartsAt text.toList) nodes places ∧ places.Pairwise (· < ·) := by
  obtain ⟨before, hbefore, hhanded, -⟩ := exists_prefix_notices v (trail v (d.map .definition))
  rw [← Survey.document_eq_ofTrail, ← handed_eq] at hhanded
  obtain ⟨nodes, hnodes, hnotices⟩ := exists_nodes_notices v before
  rw [← hhanded] at hnotices
  have htrail : nodes.Sublist (trail v (d.map .definition)) := hnodes.trans hbefore.sublist
  -- Only fields and enum literals have notices, and these start at a place.
  have hmarked : ∀ n ∈ nodes, n.mark?.isSome := by
    refine forall_mem_of_forall₂ hnotices fun n notice hnotice => ?_
    obtain ⟨m, -, hm, -⟩ := hnotice.named
    exact Option.isSome_iff_exists.mpr ⟨m, hm⟩
  obtain ⟨places, hplaces, hascending⟩ := exists_places_of_nodes hparse htrail hmarked
  exact ⟨nodes, places, htrail, hnotices, hplaces, hascending⟩

/-- A document that was read from a text, with a base line for which the last line of the text can
be counted, is reported in its order. -/
theorem report_inDocumentOrder (v : Visitor) (hparse : Document.parse? text = some d)
    (hlines : v.baseLine + lineCount text.toList < 2 ^ 64) : v.InDocumentOrder text d := by
  obtain ⟨nodes, places, htrail, hnotices, hplaces, hascending⟩ := exists_nodes_places v hparse
  have hnoticeLines : (v.handed d).map (·.line) =
      places.map fun place => v.baseLine + (lineEnds (text.toList.take place) + 1) :=
    map_line_of_startsAt hnotices hplaces
  -- No line of the text is behind its last one, for which there is room.
  have hbound : ∀ place ∈ places, lineEnds (text.toList.take place) + 1 ≤
      lineCount text.toList := by
    refine forall_mem_of_forall₂ hplaces.flip ?_
    rintro place n ⟨m, -, hm⟩
    rw [← hm.line]
    exact hm.line_le
  exact
    { ordered := by
        rw [← List.pairwise_map, hnoticeLines, List.pairwise_map]
        -- Two uses may share a line, so that the lines need not increase.
        refine hascending.imp fun hlt => ?_
        have hle := lineEnds_take_le hlt.le text.toList
        omega
      placed := ⟨nodes, places, htrail, hnotices, hplaces, hascending, hnoticeLines⟩
      complete := by
        intro hok
        obtain ⟨before, -, hhanded, hall⟩ := exists_prefix_notices v (trail v (d.map .definition))
        rw [report_eq, Survey.document_eq_ofTrail] at hok
        rw [handed_eq, Survey.document_eq_ofTrail, hhanded, hall hok]
      written := by
        obtain ⟨ts, hts, hwritten⟩ := Document.written_of_parse? hparse
        obtain ⟨starts, hstarts, hstartsAscending⟩ := exists_places hts
        exact ⟨ts, starts, hts, hwritten, hstarts, hstartsAscending⟩
      fits := by
        intro notice hnotice
        have hmem : notice.line ∈ (v.handed d).map (·.line) := List.mem_map_of_mem hnotice
        rw [hnoticeLines] at hmem
        obtain ⟨place, hplace, hline⟩ := List.mem_map.mp hmem
        have hle := hbound place hplace
        omega
      relabelled := by
        intro w h
        have hsurvey := Survey.relabels_document h d
        constructor
        · rw [handed_eq, handed_eq, hsurvey.notices]
        · intro σ reporter initial
          rw [report_eq, report_eq, handed_eq, hsurvey.notices, hsurvey.result] }

/-- One color and the only field are deprecated. -/
def muralSchema : String :=
  "enum Color \x7bRED @deprecated BLUE\x7d " ++
    "type Query \x7bpaint(color: Color): Color @deprecated\x7d"

/-- The first field has an alias, which is on a line before the name of the field.  The second color
is unknown. -/
def mural : String :=
  "\x7b\r\n  wall:\n    paint(\n      color: RED) # at noon\n  paint(color: PINK)\n\x7d\n"

def muralist (s : Schema) : Visitor := { schema := s, sourceFile := "mural.rb", baseLine := 10 }

def muralNotice (qualifiedName : String) (line : Nat) : Notice :=
  { qualifiedName, reason := defaultReason, sourceFile := "mural.rb", line }

/-- Three uses are reported before the unknown color. -/
theorem report_inDocumentOrder_mural :
    ∃ s d, Schema.parse? muralSchema = some s ∧ Document.parse? mural = some d ∧
      (muralist s).baseLine + lineCount mural.toList < 2 ^ 64 ∧
      (muralist s).report collect [] d =
        ([muralNotice "Query.paint" 12, muralNotice "Color.RED" 14, muralNotice "Query.paint" 15],
          .error (.unknownEnumValue "Color" "PINK")) ∧
      (muralist s).InDocumentOrder mural d := by
  obtain ⟨s, d, hschema, hparse, hnotices, hresult⟩ : ∃ s d, Schema.parse? muralSchema = some s ∧
      Document.parse? mural = some d ∧
      ((muralist s).report collect [] d).1 =
        [muralNotice "Query.paint" 12, muralNotice "Color.RED" 14, muralNotice "Query.paint" 15] ∧
      ((muralist s).report collect [] d).2 = .error (.unknownEnumValue "Color" "PINK") :=
    exists_of_any_any (by decide +kernel)
  have hlines : (muralist s).baseLine + lineCount mural.toList < 2 ^ 64 := by
    have hcount : lineCount mural.toList = 6 := by decide +kernel
    rw [hcount]
    simp [muralist]
  exact ⟨s, d, hschema, hparse, hlines, Prod.ext hnotices hresult,
    report_inDocumentOrder (muralist s) hparse hlines⟩

end Visitor

end GraphqlClient.Deprecation
