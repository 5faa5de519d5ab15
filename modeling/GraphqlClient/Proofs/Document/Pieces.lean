import GraphqlClient.Proofs.Document.Reading

/-!
# Documents as they are written

What has been read can be written out again, token by token: `Value.pieces`, `Selection.pieces` and
their kind list the tokens of a tree in the order in which they are written, and mark those with
which a field or an enum literal starts.  A field starts with its alias, if it has one.

Tokens are those that a tree is written with if they are its pieces, and each marked one stands on
the line that the field or literal carries (`Writes`, `Document.WrittenAs`).  Definitions of a type
system mark nothing, so that any tokens may stand for them.
-/

namespace GraphqlClient

/-! ### Pieces -/

/-- Where a field or an enum literal is written.  `start` is the word that it starts with. -/
structure Mark where
  name : String
  start : String
  line : Nat
  deriving Repr, DecidableEq

/-- A token to be written.  The word that a field or an enum literal starts with is marked. -/
inductive Piece where
  | plain (token : Token)
  | marked (mark : Mark)

namespace Piece

def token : Piece → Token
  | .plain token => token
  | .marked mark => .name mark.start

def mark? : Piece → Option Mark
  | .plain _ => none
  | .marked mark => some mark

def punctuator (c : Char) : Piece := .plain (.punctuator c)

def word (text : String) : Piece := .plain (.name text)

/-- One or more items between punctuators, or nothing. -/
def enclosed {α : Type} (opening closing : Char) (pieces : α → List Piece) : List α → List Piece
  | [] => []
  | items => punctuator opening :: (items.flatMap pieces ++ [punctuator closing])

/-- The fields and enum literals that start in a list of pieces. -/
def marks (pieces : List Piece) : List Mark := pieces.filterMap mark?

end Piece

open Piece (punctuator word)

mutual

def Value.pieces : Value → List Piece
  | .null => [word "null"]
  | .boolean value => [word (if value then "true" else "false")]
  | .int text => [.plain (.int text)]
  | .float text => [.plain (.float text)]
  | .string text => [.plain (.string text)]
  | .enum name line => [.marked { name, start := name, line }]
  | .var name => [punctuator '$', word name]
  | .list items => punctuator '[' :: (Value.piecesOfItems items ++ [punctuator ']'])
  | .object fields => punctuator '\x7b' :: (Value.piecesOfFields fields ++ [punctuator '\x7d'])

def Value.piecesOfItems : List Value → List Piece
  | [] => []
  | x :: xs => x.pieces ++ Value.piecesOfItems xs

def Value.piecesOfFields : List (String × Value) → List Piece
  | [] => []
  | (name, x) :: fs => word name :: punctuator ':' :: x.pieces ++ Value.piecesOfFields fs

end

def TypeRef.pieces : TypeRef → List Piece
  | .named name => [word name]
  | .list item => punctuator '[' :: (item.pieces ++ [punctuator ']'])
  | .nonNull inner => inner.pieces ++ [punctuator '!']

def Argument.pieces (a : Argument) : List Piece := word a.name :: punctuator ':' :: a.value.pieces

def Directive.pieces (d : Directive) : List Piece :=
  punctuator '@' :: word d.name :: Piece.enclosed '(' ')' Argument.pieces d.arguments

/-- The alias of a field, if there is one, and its name.  The field starts with the first of these
words. -/
def Piece.key (alias? : Option String) (name : String) (line : Nat) : List Piece :=
  match alias? with
  | some key => [.marked { name, start := key, line }, punctuator ':', word name]
  | none => [.marked { name, start := name, line }]

/-- A field up to its selections. -/
def FieldHead.pieces (h : FieldHead) : List Piece :=
  Piece.key h.responseKey? h.name h.line ++
    (Piece.enclosed '(' ')' Argument.pieces h.arguments ++ h.directives.flatMap Directive.pieces)

mutual

def Selection.pieces : Selection → List Piece
  | .field head selections => head.pieces ++ Selection.piecesOfSet selections
  | .spread fragment directives =>
    .plain .spread :: word fragment :: directives.flatMap Directive.pieces
  | .inlineFragment onType? directives selections =>
    .plain .spread :: ((onType?.toList.flatMap fun onType => [word "on", word onType]) ++
      (directives.flatMap Directive.pieces ++ Selection.piecesOfSet selections))

/-- A selection set, or nothing if there are no selections. -/
def Selection.piecesOfSet : List Selection → List Piece
  | [] => []
  | s :: ss => punctuator '\x7b' :: (s.pieces ++ Selection.piecesOfAll ss ++ [punctuator '\x7d'])

def Selection.piecesOfAll : List Selection → List Piece
  | [] => []
  | s :: ss => s.pieces ++ Selection.piecesOfAll ss

end

def VariableDefinition.pieces (v : VariableDefinition) : List Piece :=
  punctuator '$' :: word v.name :: punctuator ':' :: (v.type.pieces ++
    ((v.default?.toList.flatMap fun x => punctuator '=' :: x.pieces) ++
      v.directives.flatMap Directive.pieces))

def Operation.pieces (o : Operation) : List Piece :=
  word o.kind.keyword :: (o.name?.toList.map word ++
    (Piece.enclosed '(' ')' VariableDefinition.pieces o.variableDefinitions ++
      (o.directives.flatMap Directive.pieces ++ Selection.piecesOfSet o.selections)))

def Fragment.pieces (f : Fragment) : List Piece :=
  word "fragment" :: word f.name :: word "on" :: word f.onType ::
    (f.directives.flatMap Directive.pieces ++ Selection.piecesOfSet f.selections)

/-- The items of a list are written one after the other. -/
lemma Value.piecesOfItems_eq (items : List Value) :
    Value.piecesOfItems items = items.flatMap Value.pieces := by
  induction items with
  | nil => rfl
  | cons x xs ih => rw [Value.piecesOfItems, ih, List.flatMap_cons]

/-- The fields of an object literal are written one after the other, each with its name and a
colon. -/
lemma Value.piecesOfFields_eq (fields : List (String × Value)) :
    Value.piecesOfFields fields =
      fields.flatMap fun field => word field.1 :: punctuator ':' :: field.2.pieces := by
  induction fields with
  | nil => rfl
  | cons field fields ih => rw [Value.piecesOfFields, ih, List.flatMap_cons]

/-- Selections are written one after the other. -/
lemma Selection.piecesOfAll_eq (ss : List Selection) :
    Selection.piecesOfAll ss = ss.flatMap Selection.pieces := by
  induction ss with
  | nil => rfl
  | cons s ss ih => rw [Selection.piecesOfAll, ih, List.flatMap_cons]

/-- Selections are written in braces, and nothing is written for none. -/
lemma Selection.piecesOfSet_eq (ss : List Selection) :
    Selection.piecesOfSet ss = Piece.enclosed '\x7b' '\x7d' Selection.pieces ss := by
  cases ss with
  | nil => rfl
  | cons s ss => rw [Selection.piecesOfSet, Selection.piecesOfAll_eq, ← List.flatMap_cons]; rfl

/-! ### Written tokens -/

/-- The token is that of the piece, and stands on the line of what is marked there. -/
structure Piece.Is (p : Piece) (t : PlacedToken) : Prop where
  token : t.token = p.token
  line : ∀ m ∈ p.mark?, t.line = m.line

/-- The tokens are those of the pieces, on the lines that are marked. -/
def Writes (pieces : List Piece) (used : List PlacedToken) : Prop :=
  List.Forall₂ Piece.Is pieces used

namespace Writes

variable {α : Type} {ps qs : List Piece} {used more : List PlacedToken}

/-- Pieces are written one after the other. -/
lemma append (h : Writes ps used) (h' : Writes qs more) : Writes (ps ++ qs) (used ++ more) :=
  List.rel_append h h'

/-- One token is one piece. -/
lemma of_isToken {t : Token} (h : Parse.IsToken t used) : Writes [.plain t] used := by
  obtain ⟨line, rfl⟩ := h
  exact .cons ⟨rfl, nofun⟩ .nil

/-- The word that is taken first is marked with its line. -/
lemma marked {m : Mark} (h : Parse.IsToken (.name m.start) used)
    (hline : ∀ t ∈ (used ++ more).head?, t.line = m.line) : Writes [.marked m] used := by
  obtain ⟨line, rfl⟩ := h
  refine .cons ⟨rfl, ?_⟩ .nil
  rintro m' ⟨⟩
  exact hline _ rfl

/-- Items of which each writes its pieces write the pieces of all. -/
lemma of_each {pieces : α → List Piece} {items : List α}
    (h : Parse.Each (fun a used => Writes (pieces a) used) items used) :
    Writes (items.flatMap pieces) used := by
  induction h with
  | nil => exact .nil
  | cons first _ ih =>
    rw [List.flatMap_cons]
    exact first.append ih

end Writes

/-! ### Documents -/

/-- The tokens are those that the definition is written with.  A query that has nothing but
selections need not be introduced by a word.  Definitions of a type system may be written with any
tokens. -/
def Definition.WrittenAs : Definition → List PlacedToken → Prop
  | .operation o, used => Writes o.pieces used ∨
      (o = { kind := .query, name? := none, variableDefinitions := [], directives := [],
             selections := o.selections } ∧ Writes (Selection.piecesOfSet o.selections) used)
  | .fragment f, used => Writes f.pieces used
  | _, _ => True

/-- The tokens are those of the definitions, one after the other. -/
def Document.WrittenAs (d : Document) (ts : List PlacedToken) : Prop :=
  Parse.Each Definition.WrittenAs d ts

/-! ### Marks -/

namespace Piece

variable {α : Type} {ps qs : List Piece}

/-- Nothing is marked in no pieces. -/
@[simp] lemma marks_nil : marks [] = [] := rfl

/-- A plain token is not marked. -/
@[simp] lemma marks_plain (token : Token) : marks (.plain token :: ps) = marks ps := rfl

/-- A punctuator is not marked. -/
@[simp] lemma marks_punctuator (c : Char) : marks (punctuator c :: ps) = marks ps := rfl

/-- A word is not marked. -/
@[simp] lemma marks_word (text : String) : marks (word text :: ps) = marks ps := rfl

/-- A marked token is marked. -/
@[simp] lemma marks_marked (m : Mark) : marks (.marked m :: ps) = m :: marks ps := rfl

/-- What is marked in pieces is marked when more pieces follow. -/
@[simp] lemma marks_append : marks (ps ++ qs) = marks ps ++ marks qs := List.filterMap_append

/-- What is marked in items is marked item by item. -/
@[simp] lemma marks_flatMap (pieces : α → List Piece) (items : List α) :
    marks (items.flatMap pieces) = items.flatMap fun a => marks (pieces a) := by
  rw [marks, List.filterMap_flatMap]
  rfl

/-- Brackets around items are not marked. -/
@[simp] lemma marks_enclosed (opening closing : Char) (pieces : α → List Piece) (items : List α) :
    marks (enclosed opening closing pieces items) = items.flatMap fun a => marks (pieces a) := by
  cases items with
  | nil => rfl
  | cons a items => simp [enclosed]

/-- A key is marked once, with its alias if it has one. -/
@[simp] lemma marks_key (alias? : Option String) (name : String) (line : Nat) :
    marks (key alias? name line) = [{ name, start := alias?.getD name, line }] := by
  cases alias? with
  | none => rfl
  | some key => rfl

end Piece

/-- What is marked in selections is marked selection by selection. -/
@[simp] lemma Selection.marks_piecesOfSet (ss : List Selection) :
    Piece.marks (Selection.piecesOfSet ss) = ss.flatMap fun s => Piece.marks s.pieces := by
  rw [Selection.piecesOfSet_eq, Piece.marks_enclosed]

/-- The fields and enum literals of an operation or a fragment, in the order in which they are
written. -/
def Definition.marks : Definition → List Mark
  | .operation o => Piece.marks o.pieces
  | .fragment f => Piece.marks f.pieces
  | _ => []

def Document.marks (d : Document) : List Mark := d.flatMap Definition.marks

/-- The token is the word that the mark starts with, on the line of the mark. -/
structure Mark.Is (m : Mark) (t : PlacedToken) : Prop where
  word : t.token = .name m.start
  line : t.line = m.line

/-- The marks are those of some of the tokens, in their order. -/
def Mark.Among (ms : List Mark) (ts : List PlacedToken) : Prop :=
  ∃ marked : List PlacedToken, marked.Sublist ts ∧ List.Forall₂ Mark.Is ms marked

/-- Marks are among the tokens of two texts in turn if they are among those of each. -/
lemma Mark.Among.append {ms ms' : List Mark} {ts ts' : List PlacedToken} (h : Mark.Among ms ts)
    (h' : Mark.Among ms' ts') : Mark.Among (ms ++ ms') (ts ++ ts') := by
  obtain ⟨marked, hsublist, hmarked⟩ := h
  obtain ⟨marked', hsublist', hmarked'⟩ := h'
  exact ⟨marked ++ marked', hsublist.append hsublist', List.rel_append hmarked hmarked'⟩

/-- No marks are among any tokens. -/
lemma Mark.among_nil (ts : List PlacedToken) : Mark.Among [] ts := ⟨[], List.nil_sublist ts, .nil⟩

/-- What is marked in pieces is among the tokens that they are written with. -/
lemma Writes.marks_among {ps : List Piece} {used : List PlacedToken} (h : Writes ps used) :
    Mark.Among (Piece.marks ps) used := by
  induction h with
  | nil => exact Mark.among_nil []
  | @cons p t ps used hp _ ih =>
    have hfirst : Mark.Among (Piece.marks [p]) [t] := by
      cases p with
      | plain token => exact Mark.among_nil [t]
      | marked m => exact ⟨[t], List.Sublist.refl [t], .cons ⟨hp.token, hp.line m rfl⟩ .nil⟩
    have hall := hfirst.append ih
    rwa [← Piece.marks_append] at hall

/-- What is marked in a definition is among the tokens that it is written with. -/
lemma Definition.WrittenAs.marks_among {d : Definition} {used : List PlacedToken}
    (h : d.WrittenAs used) :
    Mark.Among d.marks used := by
  cases d with
  | operation o =>
    rcases h with h | ⟨ho, h⟩
    · exact h.marks_among
    · have hmarks : Piece.marks o.pieces = Piece.marks (Selection.piecesOfSet o.selections) := by
        rw [ho]
        simp [Operation.pieces]
      rw [Definition.marks, hmarks]
      exact h.marks_among
  | fragment f => exact Writes.marks_among h
  | _ => exact Mark.among_nil used

/-- The fields and enum literals of a document are written one after the other. -/
lemma Document.WrittenAs.marks_among {d : Document} {ts : List PlacedToken} (h : d.WrittenAs ts) :
    Mark.Among d.marks ts := by
  induction h with
  | nil => exact Mark.among_nil []
  | cons first _ ih => exact first.marks_among.append ih

end GraphqlClient
