import GraphqlClient.Proofs.Document.Lines
import GraphqlClient.Proofs.Document.Pieces

/-!
# What is read is what is written

The readers are sound: the tokens that are taken for a tree are those that the tree is written with,
and a field or an enum literal carries the line of the token that it starts with
(`Value.reads_parse`, `Selection.reads_parseSet`, `Document.written_of_parse?`).  Hence the fields
and enum literals of a document that was read from a text start at places of the text that follow
one another (`Document.exists_places_of_parse?`).
-/

namespace GraphqlClient

open Piece (punctuator word)

namespace Parse

variable {α : Type} {item : Parse α} {pieces : α → List Piece}

/-- Items up to a closing punctuator are written with that punctuator at the end. -/
lemma writes_itemsUntil (close : Char) (hitem : Reads item fun a used => Writes (pieces a) used) :
    Reads (itemsUntil close item) fun as used =>
      Writes (as.flatMap pieces ++ [punctuator close]) used := by
  refine (reads_itemsUntil close hitem).mono ?_
  rintro as _ ⟨items, closing, hitems, hclosing, rfl⟩
  exact (Writes.of_each hitems).append (.of_isToken hclosing)

/-- Items in brackets are written with the brackets around them. -/
lemma writes_enclosed (opening close : Char)
    (hitem : Reads item fun a used => Writes (pieces a) used) :
    Reads (enclosed opening close item) fun as used =>
      Writes (Piece.enclosed opening close pieces as) used := by
  refine (reads_enclosed opening close hitem).mono ?_
  rintro as _ ⟨hne, first, items, last, hfirst, hitems, hlast, rfl⟩
  rw [Piece.enclosed.eq_2 _ _ _ _ hne]
  exact (Writes.of_isToken hfirst).append ((Writes.of_each hitems).append (.of_isToken hlast))

/-- What may be missing is written if it is there. -/
lemma writes_whenSees (start : Token) (hitem : Reads item fun a used => Writes (pieces a) used) :
    Reads (whenSees start item) fun a? used => Writes (a?.toList.flatMap pieces) used := by
  refine (reads_whenSees start hitem).mono fun a? used hused => ?_
  cases a? with
  | none =>
    obtain rfl : used = [] := hused
    exact .nil
  | some a =>
    rw [Option.toList_some, List.flatMap_singleton]
    exact hused

/-- Items that are not there are none. -/
lemma flatMap_toList {pieces : List α → List Piece} (hnone : pieces [] = [])
    (as? : Option (List α)) :
    as?.toList.flatMap pieces = pieces (as?.getD []) := by
  cases as? with
  | none => exact hnone.symm
  | some as => exact List.flatMap_singleton ..

/-- Items in brackets, if there are any, are written with the brackets around them. -/
lemma writes_enclosedIfAny (opening close : Char)
    (hitem : Reads item fun a used => Writes (pieces a) used) :
    Reads (enclosedIfAny opening close item) fun as used =>
      Writes (Piece.enclosed opening close pieces as) used := by
  refine (writes_whenSees _ (writes_enclosed opening close hitem)).map fun as? used hused => ?_
  rwa [flatMap_toList rfl] at hused

/-- Items that start with a punctuator are written one after the other. -/
lemma writes_whileSees (start : Char) (hitem : Reads item fun a used => Writes (pieces a) used) :
    Reads (whileSees start item) fun as used => Writes (as.flatMap pieces) used :=
  (reads_whileSees start hitem).mono fun _ _ => Writes.of_each

end Parse

open Parse

/-! ### Values, types, arguments and directives -/

/-- A value that is a single name is written with that name, on its line. -/
lemma Value.writes_ofName {name : String} {line : Nat} {used more : List PlacedToken}
    (h : IsToken (.name name) used) (hline : ∀ t ∈ (used ++ more).head?, t.line = line) :
    Writes (Value.ofName name line).pieces used := by
  unfold Value.ofName
  split
  · exact .of_isToken h
  · exact .of_isToken h
  · exact .of_isToken h
  · exact .marked h hline

/-- A value without parts is read as it is written. -/
lemma Value.reads_parseLeaf (constant : Bool) :
    Reads (Value.parseLeaf constant) fun x used => Writes x.pieces used := by
  refine reads_line_bind fun line => reads_next.bind fun t used hused => ?_
  split
  · refine .pure fun _ => ?_
    rw [List.append_nil]
    exact .of_isToken hused
  · refine .pure fun _ => ?_
    rw [List.append_nil]
    exact .of_isToken hused
  · refine .pure fun _ => ?_
    rw [List.append_nil]
    exact .of_isToken hused
  · refine .pure fun hline => ?_
    rw [List.append_nil]
    exact Value.writes_ofName hused hline
  · split
    · exact .failure
    · refine reads_identifier.map fun name more hmore _ => ?_
      exact (Writes.of_isToken hused).append (.of_isToken hmore)
  · exact .failure

/-- A value is read from the tokens that it is written with. -/
theorem Value.reads_parse (constant : Bool) (depth : Nat) :
    Reads (Value.parse constant depth) fun x used => Writes x.pieces used := by
  induction depth with
  | zero => exact Value.reads_parseLeaf constant
  | succ depth ih =>
    have hfield : Reads (do
        let key ← identifier
        expectPunctuator ':'
        return (key, ← Value.parse constant depth)) fun field used =>
          Writes (word field.1 :: punctuator ':' :: field.2.pieces) used := by
      refine reads_identifier.bind fun key first hkey =>
        (reads_expect _).bind fun _ colon hcolon => ?_
      refine ih.map fun x more hmore => ?_
      exact (Writes.of_isToken hkey).append ((Writes.of_isToken hcolon).append hmore)
    refine reads_accept_bind (fun opening hopening => ?_)
      (reads_accept_bind (fun opening hopening => ?_) ?_)
    · refine (writes_itemsUntil _ ih).map fun items more hmore => ?_
      rw [Value.pieces, Value.piecesOfItems_eq]
      exact (Writes.of_isToken hopening).append hmore
    · refine (writes_itemsUntil _ hfield).map fun fields more hmore => ?_
      rw [Value.pieces, Value.piecesOfFields_eq]
      exact (Writes.of_isToken hopening).append hmore
    · exact Value.reads_parseLeaf constant

/-- A reference to a type is read as it is written. -/
lemma TypeRef.reads_parse (depth : Nat) :
    Reads (TypeRef.parse depth) fun type used => Writes type.pieces used := by
  have hwrapped : ∀ p : Parse TypeRef, Reads p (fun type used => Writes type.pieces used) →
      Reads (do
        let type ← p
        if ← acceptPunctuator '!' then return .nonNull type else return type)
        fun type used => Writes type.pieces used := by
    intro p hp
    refine hp.bind fun type used hused => reads_accept_bind (fun mark hmark => ?_) ?_
    · refine .pure ?_
      rw [List.append_nil]
      exact hused.append (.of_isToken hmark)
    · refine .pure ?_
      rw [List.append_nil]
      exact hused
  have hnamed : Reads (do
      let name ← identifier
      return TypeRef.named name) fun type used => Writes type.pieces used :=
    reads_identifier.map fun name used hused => .of_isToken hused
  induction depth with
  | zero =>
    rw [TypeRef.parse]
    exact hwrapped _ (reads_accept_bind (fun opening hopening => .failure) hnamed)
  | succ depth ih =>
    rw [TypeRef.parse]
    refine hwrapped _ (reads_accept_bind (fun opening hopening => ?_) hnamed)
    refine ih.bind fun item inner hinner => (reads_expect _).map fun _ closing hclosing => ?_
    exact (Writes.of_isToken hopening).append (hinner.append (.of_isToken hclosing))

/-- An argument is read as it is written. -/
lemma Argument.reads_parse (constant : Bool) (depth : Nat) :
    Reads (Argument.parse constant depth) fun a used => Writes a.pieces used := by
  refine reads_identifier.bind fun name first hname =>
    (reads_expect _).bind fun _ colon hcolon => ?_
  refine (Value.reads_parse constant depth).map fun x more hmore => ?_
  exact (Writes.of_isToken hname).append ((Writes.of_isToken hcolon).append hmore)

/-- Arguments are read as they are written, in parentheses. -/
lemma Argument.reads_parseAll (constant : Bool) (depth : Nat) :
    Reads (Argument.parseAll constant depth) fun as used =>
      Writes (Piece.enclosed '(' ')' Argument.pieces as) used :=
  writes_enclosedIfAny _ _ (Argument.reads_parse constant depth)

/-- Directives are read as they are written. -/
lemma Directive.reads_parseAll (constant : Bool) (depth : Nat) :
    Reads (Directive.parseAll constant depth) fun ds used =>
      Writes (ds.flatMap Directive.pieces) used := by
  refine writes_whileSees _ ?_
  refine (reads_expect _).bind fun _ sign hsign => reads_identifier.bind fun name first hname => ?_
  refine (Argument.reads_parseAll constant depth).map fun arguments more hmore => ?_
  exact (Writes.of_isToken hsign).append ((Writes.of_isToken hname).append hmore)

/-! ### Selections -/

section

variable {depth : Nat} {nested : Parse (List Selection)}

/-- A field is read as it is written. -/
lemma Selection.reads_parseField
    (hnested : Reads nested fun ss used => Writes (Selection.piecesOfSet ss) used) :
    Reads (Selection.parseField depth nested) fun s used => Writes s.pieces used := by
  refine reads_line_bind fun line => reads_identifier.bind fun first used hfirst => ?_
  extract_lets rest
  -- the line is known to be that of the first token only when all tokens of the field are
  have hrest : ∀ second?, Reads (rest second?) fun s more => ∀ keyed,
      Writes (Piece.key (second?.map fun _ => first) (second?.getD first) line) keyed →
        Writes s.pieces (keyed ++ more) := by
    intro second?
    refine (Argument.reads_parseAll false depth).bind fun arguments given hgiven => ?_
    refine (Directive.reads_parseAll false depth).bind fun directives applied happlied => ?_
    refine (writes_whenSees _ hnested).map fun set? set hset keyed hkeyed => ?_
    rw [flatMap_toList rfl] at hset
    rw [Selection.pieces, FieldHead.pieces, ← List.append_assoc given, ← List.append_assoc keyed]
    exact (hkeyed.append (hgiven.append happlied)).append hset
  refine reads_accept_bind (fun colon hcolon => ?_) ?_
  · have hsecond : Reads (some <$> identifier) fun second? named => ∃ name, second? = some name ∧
        IsToken (.name name) named :=
          reads_identifier.fmap fun name named hname => ⟨name, rfl, hname⟩
    refine hsecond.bind ?_
    rintro _ named ⟨name, rfl, hname⟩
    refine (hrest (some name)).mono fun s more hs hline => ?_
    have hmarked : Writes [.marked { name, start := first, line }] used := .marked hfirst hline
    have hkeyed := hs _ (hmarked.append ((Writes.of_isToken hcolon).append (.of_isToken hname)))
    rwa [List.append_assoc, List.append_assoc] at hkeyed
  · exact (hrest none).mono fun s more hs hline => hs used (.marked hfirst hline)

/-- A spread or an inline fragment is read as it is written. -/
lemma Selection.reads_parseSpread
    (hnested : Reads nested fun ss used => Writes (Selection.piecesOfSet ss) used) :
    Reads (Selection.parseSpread depth nested) fun s used => Writes s.pieces used := by
  refine (reads_expect _).bind fun _ dots hdots => reads_peek_bind fun t? => ?_
  split
  · refine (reads_expect _).bind fun _ on hon =>
      reads_identifier.bind fun onType condition hcondition => ?_
    refine (Directive.reads_parseAll false depth).bind fun directives given hgiven => hnested.map ?_
    intro ss set hset
    have hcase : Writes [word "on", word onType] (on ++ condition) :=
      (Writes.of_isToken hon).append (.of_isToken hcondition)
    rw [← List.append_assoc on]
    exact (Writes.of_isToken hdots).append (hcase.append (hgiven.append hset))
  · refine reads_identifier.bind fun fragment name hname => ?_
    refine (Directive.reads_parseAll false depth).map fun directives given hgiven => ?_
    exact (Writes.of_isToken hdots).append ((Writes.of_isToken hname).append hgiven)
  · refine (Directive.reads_parseAll false depth).bind fun directives given hgiven => hnested.map ?_
    intro ss set hset
    exact (Writes.of_isToken hdots).append (hgiven.append hset)

end

/-- A selection set is read from the tokens that it is written with. -/
theorem Selection.reads_parseSet (depth : Nat) :
    Reads (Selection.parseSet depth) fun ss used => Writes (Selection.piecesOfSet ss) used := by
  induction depth with
  | zero => exact .failure
  | succ depth ih =>
    simp only [Selection.piecesOfSet_eq] at ih ⊢
    refine writes_enclosed _ _ (reads_sees_bind fun spread => ?_)
    simp only [← Selection.piecesOfSet_eq] at ih
    split
    · exact Selection.reads_parseSpread ih
    · exact Selection.reads_parseField ih

/-! ### Executable definitions -/

/-- A default value is read as it is written, with an equals sign before it. -/
lemma reads_default (depth : Nat) :
    Reads (whenSees (.punctuator '=') (do
      expectPunctuator '='
      Value.parse true depth))
      fun default? used =>
          Writes (default?.toList.flatMap fun x => punctuator '=' :: x.pieces) used := by
  refine writes_whenSees _ ((reads_expect _).bind fun _ equals hequals => ?_)
  exact (Value.reads_parse true depth).mono fun x value hvalue =>
    (Writes.of_isToken hequals).append hvalue

/-- The definition of a variable is read as it is written. -/
lemma VariableDefinition.reads_parse (depth : Nat) :
    Reads (VariableDefinition.parse depth) fun v used => Writes v.pieces used := by
  refine (reads_expect _).bind fun _ dollar hdollar =>
    reads_identifier.bind fun name first hname => ?_
  refine (reads_expect _).bind fun _ colon hcolon =>
    (TypeRef.reads_parse depth).bind fun type typed htype => ?_
  refine (reads_default depth).bind fun default? given hgiven => ?_
  refine (Directive.reads_parseAll true depth).map fun directives applied happlied => ?_
  exact (Writes.of_isToken hdollar).append
    ((Writes.of_isToken hname).append ((Writes.of_isToken hcolon).append
    (htype.append (hgiven.append happlied))))

/-- An operation that starts with a word is read from the tokens that it is written with. -/
lemma Operation.reads_parse (kind : OperationKind) (depth : Nat) :
    Reads (Operation.parse kind depth) fun o used => Writes o.pieces used := by
  refine (reads_expect _).bind fun _ keyword hkeyword => reads_peek_bind fun t? => ?_
  extract_lets rest
  have hrest : ∀ name?, Reads (rest name?) fun o more => ∀ named,
      Writes (name?.toList.map word) named →
      Writes o.pieces (keyword ++ (named ++ more)) := by
    intro name?
    refine (writes_enclosedIfAny _ _ (VariableDefinition.reads_parse depth)).bind
      fun definitions declared hdeclared => ?_
    refine (Directive.reads_parseAll false depth).bind fun directives applied happlied => ?_
    refine (Selection.reads_parseSet depth).map fun ss set hset named hnamed => ?_
    exact (Writes.of_isToken hkeyword).append
      (hnamed.append (hdeclared.append (happlied.append hset)))
  split
  · have hname : Reads (some <$> identifier) fun name? named =>
        Writes (name?.toList.map word) named :=
      reads_identifier.fmap fun name named hname => .of_isToken hname
    exact hname.bind fun name? named hnamed => (hrest name?).mono fun o more ho => ho named hnamed
  · have hnone : Reads (pure none) fun name? named => Writes (name?.toList.map word) named :=
      .pure .nil
    exact hnone.bind fun name? named hnamed => (hrest name?).mono fun o more ho => ho named hnamed

/-- A fragment definition is read as it is written. -/
lemma Fragment.reads_parse (depth : Nat) :
    Reads (Fragment.parse depth) fun f used => Writes f.pieces used := by
  refine (reads_expect _).bind fun _ keyword hkeyword =>
    reads_identifier.bind fun name named hname => ?_
  split
  · exact .failure_bind
  · refine (reads_expect _).bind fun _ on hon =>
      reads_identifier.bind fun onType condition hcondition => ?_
    refine (Directive.reads_parseAll false depth).bind fun directives applied happlied => ?_
    refine (Selection.reads_parseSet depth).map fun ss set hset => ?_
    exact (Writes.of_isToken hkeyword).append
      ((Writes.of_isToken hname).append ((Writes.of_isToken hon).append
      ((Writes.of_isToken hcondition).append (happlied.append hset))))

/-! ### Type system definitions

Which tokens they are written with does not matter, but what comes after them does. -/

/-- Where no description is read, no token is taken. -/
lemma reads_parseDescription :
    Reads parseDescription fun description? used => description? = none → used = [] := by
  refine reads_peek_bind fun t? => ?_
  split
  · exact reads_next.map fun _ used _ hnone => nomatch hnone
  · exact .pure fun _ => rfl

/-- The reader of a declared input takes tokens. -/
lemma InputValue.takes_parse (depth : Nat) : Takes (InputValue.parse depth) := by
  refine reads_parseDescription.takes.bind fun _ => reads_identifier.takes.bind fun _ => ?_
  refine (reads_expect _).takes.bind fun _ => (TypeRef.reads_parse depth).takes.bind fun _ => ?_
  refine (reads_default depth).takes.bind fun _ => ?_
  exact (Directive.reads_parseAll true depth).takes.bind fun _ => .pure _

/-- The reader of a declared field takes tokens. -/
lemma FieldDefinition.takes_parse (depth : Nat) : Takes (FieldDefinition.parse depth) := by
  refine reads_parseDescription.takes.bind fun _ => reads_identifier.takes.bind fun _ => ?_
  refine (takes_enclosedIfAny _ _ (InputValue.takes_parse depth)).bind fun _ => ?_
  refine (reads_expect _).takes.bind fun _ => (TypeRef.reads_parse depth).takes.bind fun _ => ?_
  exact (Directive.reads_parseAll true depth).takes.bind fun _ => .pure _

/-- The reader of a declared enum value takes tokens. -/
lemma EnumValueDefinition.takes_parse (depth : Nat) : Takes (EnumValueDefinition.parse depth) := by
  refine reads_parseDescription.takes.bind fun _ => reads_identifier.takes.bind fun _ => ?_
  split
  · exact .failure_bind
  · exact (Directive.reads_parseAll true depth).takes.bind fun _ => .pure _

/-- The reader of the interfaces of a type takes tokens. -/
lemma takes_parseInterfaces : Takes parseInterfaces := by
  refine (reads_accept _).takes.bind fun _ => ?_
  split
  · exact takes_separated _ reads_identifier.takes
  · exact .pure _

/-- The reader of a declared type takes tokens. -/
lemma TypeDeclaration.takes_parse (description? : Option String) (depth : Nat) :
    Takes (TypeDeclaration.parse description? depth) := by
  refine reads_identifier.takes.bind fun word => reads_identifier.takes.bind fun name => ?_
  extract_lets fields rest
  have hfields : Takes fields := takes_enclosedIfAny _ _ (FieldDefinition.takes_parse depth)
  have hrest : ∀ interfaces, Takes (rest interfaces) := by
    intro interfaces
    refine (Directive.reads_parseAll true depth).takes.bind fun _ => ?_
    split
    · exact .pure _
    · exact hfields.fmap.bind fun _ => .pure _
    · exact hfields.fmap.bind fun _ => .pure _
    · refine (reads_accept _).takes.bind fun _ => ?_
      split
      · exact (takes_separated _ reads_identifier.takes).fmap.bind fun _ => .pure _
      · exact .pure _
    · exact (takes_enclosedIfAny _ _ (EnumValueDefinition.takes_parse depth)).fmap.bind fun _ =>
        .pure _
    · exact (takes_enclosedIfAny _ _ (InputValue.takes_parse depth)).fmap.bind fun _ => .pure _
    · exact .failure_bind
  split
  · exact takes_parseInterfaces.bind hrest
  · exact hrest []

/-- The reader of a declared directive takes tokens. -/
lemma DirectiveDefinition.takes_parse (description? : Option String) (depth : Nat) :
    Takes (DirectiveDefinition.parse description? depth) := by
  refine (reads_expect _).takes.bind fun _ => (reads_expect _).takes.bind fun _ => ?_
  refine reads_identifier.takes.bind fun _ => ?_
  refine (takes_enclosedIfAny _ _ (InputValue.takes_parse depth)).bind fun _ => ?_
  refine (reads_accept _).takes.bind fun _ => (reads_expect _).takes.bind fun _ => ?_
  refine (takes_separated _ reads_identifier.takes).bind fun _ => ?_
  split
  · exact .failure_bind
  · exact .pure _

/-- The reader of a root type takes tokens. -/
lemma takes_parseRoot : Takes parseRoot := by
  refine reads_identifier.takes.bind fun _ => (reads_expect _).takes.bind fun _ => ?_
  refine reads_identifier.takes.bind fun _ => ?_
  split
  · exact .pure _
  · exact .failure

/-- The reader of the root types takes tokens. -/
lemma RootDeclaration.takes_parse (description? : Option String) (depth : Nat) :
    Takes (RootDeclaration.parse description? depth) := by
  refine (reads_expect _).takes.bind fun _ =>
    (Directive.reads_parseAll true depth).takes.bind fun _ => ?_
  exact (reads_enclosed _ _ takes_parseRoot).takes.bind fun _ => .pure _

/-! ### Documents -/

/-- An extension is read as it is written. -/
lemma Definition.reads_parseExtension (depth : Nat) :
    Reads (Definition.parseExtension depth) Definition.WrittenAs := by
  refine (reads_expect _).bind fun _ _ _ => (reads_accept _).bind fun _ _ _ => ?_
  split
  · refine (Directive.reads_parseAll true depth).bind fun _ _ _ => ?_
    refine Reads.bind (takes_enclosedIfAny _ _ takes_parseRoot) fun _ _ _ => ?_
    split
    · exact .failure_bind
    · exact .pure trivial
  · refine Reads.bind (TypeDeclaration.takes_parse none depth) fun _ _ _ => ?_
    split
    · exact .failure_bind
    · exact .pure trivial

/-- A definition is read as it is written. -/
lemma Definition.reads_parse (depth : Nat) :
    Reads (Definition.parse depth) Definition.WrittenAs := by
  refine reads_parseDescription.bind fun description? described hdescribed =>
    reads_peek_bind fun t? => ?_
  split
  · exact (RootDeclaration.takes_parse _ depth).map fun _ _ _ => trivial
  · exact (DirectiveDefinition.takes_parse _ depth).map fun _ _ _ => trivial
  · split
    · exact (TypeDeclaration.takes_parse _ depth).map fun _ _ _ => trivial
    · split
      · exact .failure
      · next hnone =>
        have hdescribed : described = [] := hdescribed (by simpa using hnone)
        subst hdescribed
        split
        · exact (Operation.reads_parse _ depth).map fun _ _ ho => .inl ho
        · exact (Operation.reads_parse _ depth).map fun _ _ ho => .inl ho
        · exact (Operation.reads_parse _ depth).map fun _ _ ho => .inl ho
        · exact (Fragment.reads_parse depth).map fun _ _ hf => hf
        · exact Definition.reads_parseExtension depth
        · exact .failure
  · split
    · exact .failure_bind
    · next hnone =>
      have hdescribed : described = [] := hdescribed (by simpa using hnone)
      subst hdescribed
      exact (Selection.reads_parseSet depth).map fun _ _ hset => .inr ⟨rfl, hset⟩
  · exact .failure

/-- The definitions of a document are read as they are written, one after the other. -/
lemma Document.reads_parseUpTo (n : Nat) : Reads (Document.parseUpTo n) Document.WrittenAs := by
  induction n with
  | zero => exact .pure .nil
  | succ n ih =>
    refine reads_get_bind fun ts => ?_
    split
    · exact .pure .nil
    · refine (Definition.reads_parse nestingLimit).bind fun d used hd =>
        ih.map fun ds more hds => ?_
      exact .cons hd hds

/-- What is read from a text is written with the tokens of the text. -/
theorem Document.written_of_parse? {text : String} {d : Document}
    (h : Document.parse? text = some d) :
    ∃ ts, tokens? text = some ts ∧ d.WrittenAs ts := by
  obtain ⟨ts, hts, h⟩ := Option.bind_eq_some_iff.mp h
  obtain ⟨⟨d', rest⟩, hrun, h⟩ := Option.bind_eq_some_iff.mp h
  dsimp only at h
  split at h
  · cases h
  · next hcomplete =>
    cases h
    obtain ⟨used, hused, hwritten⟩ := Document.reads_parseUpTo ts.length ts d rest hrun
    have hrest : rest = [] := by
      have hends : ¬ d = [] ∧ rest = [] := by simpa using hcomplete
      exact hends.2
    rw [hrest, List.append_nil] at hused
    exact ⟨ts, hts, hused ▸ hwritten⟩

/-! ### Lists that go together item by item -/

/-- What goes with the items of a list item by item goes with some of them as well. -/
lemma exists_sublist_of_forall₂ {α β : Type} {r : α → β → Prop} {as as' : List α} {bs : List β}
    (hsublist : as'.Sublist as) (h : List.Forall₂ r as bs) :
    ∃ bs', bs'.Sublist bs ∧ List.Forall₂ r as' bs' := by
  induction hsublist generalizing bs with
  | slnil =>
    cases h
    exact ⟨[], List.Sublist.refl [], .nil⟩
  | cons a _ ih =>
    obtain ⟨b, bs, -, hrest, rfl⟩ := List.forall₂_cons_left_iff.mp h
    obtain ⟨bs', hbs', hr⟩ := ih hrest
    exact ⟨bs', hbs'.cons b, hr⟩
  | cons_cons a _ ih =>
    obtain ⟨b, bs, hfirst, hrest, rfl⟩ := List.forall₂_cons_left_iff.mp h
    obtain ⟨bs', hbs', hr⟩ := ih hrest
    exact ⟨b :: bs', hbs'.cons_cons b, .cons hfirst hr⟩

/-- What holds of each item that stands in a relation holds of all items. -/
lemma forall_mem_of_forall₂ {α β : Type} {r : α → β → Prop} {p : α → Prop} {as : List α}
    {bs : List β} (h : List.Forall₂ r as bs) (hr : ∀ a b, r a b → p a) : ∀ a ∈ as, p a := by
  induction h with
  | nil => exact nofun
  | cons hfirst _ ih => exact List.forall_mem_cons.mpr ⟨hr _ _ hfirst, ih⟩

/-! ### Places -/

/-- The word that a field or an enum literal starts with is a name at this place of the text, and
its line is one more than the number of line ends before the place. -/
structure Mark.StartsAt (text : List Char) (m : Mark) (place : Nat) : Prop where
  word : ∃ n, lexemeLength? (text.drop place) = some (.name, n) ∧
    (text.drop place).take n = m.start.toList
  line : m.line = lineEnds (text.take place) + 1

/-- A mark starts at the place of the token that it is. -/
lemma Mark.Is.startsAt {m : Mark} {t : PlacedToken} {text : List Char} {place : Nat} (h : m.Is t)
    (ht : t.StartsAt text place) : m.StartsAt text place where
  word := ht.name h.word
  line := h.line.symm.trans ht.line

/-- The mark is on one of the lines of the text. -/
lemma Mark.StartsAt.line_le {m : Mark} {text : List Char} {place : Nat}
    (h : m.StartsAt text place) :
    m.line ≤ lineCount text := by
  obtain ⟨n, hlexeme, -⟩ := h.word
  rw [h.line]
  exact lineEnds_take_lt_lineCount hlexeme (by decide)

/-- The fields and enum literals of a document start one after the other in the text that it was
read from. -/
theorem Document.exists_places_of_parse? {text : String} {d : Document}
    (h : Document.parse? text = some d) :
    ∃ places : List Nat, List.Forall₂ (Mark.StartsAt text.toList) d.marks places ∧
      places.Pairwise (· < ·) := by
  obtain ⟨ts, hts, hwritten⟩ := Document.written_of_parse? h
  obtain ⟨marked, hmarked, hmarks⟩ := hwritten.marks_among
  obtain ⟨all, hall, hascending⟩ := exists_places hts
  obtain ⟨places, hplaces, hstarts⟩ := exists_sublist_of_forall₂ hmarked hall
  refine ⟨places, ?_, hascending.sublist hplaces⟩
  clear hmarked hplaces
  generalize d.marks = ms at hmarks ⊢
  induction hmarks generalizing places with
  | nil =>
    cases hstarts
    exact .nil
  | cons hm _ ih =>
    obtain ⟨place, places, ht, hrest, rfl⟩ := List.forall₂_cons_left_iff.mp hstarts
    exact .cons (hm.startsAt ht) (ih places hrest)

end GraphqlClient
