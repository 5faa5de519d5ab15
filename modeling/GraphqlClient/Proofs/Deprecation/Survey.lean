import GraphqlClient.Deprecation.Walk
import Mathlib.Tactic.Lemma

/-!
# Surveys: the walk without memory

A survey of a part of a document is the value that a walk over it amounts to: the notices in the
order in which they are handed on, and either what the part gives or the mismatch at which the walk
ends.  A survey looks every name up in the schema where it meets it and keeps no table.

`Deprecation/Agreement.lean` shows that the walk does what the survey says; statements about what is
reported for a document are proved of surveys, in which there is no state to carry along.
-/

namespace GraphqlClient.Deprecation

/-- The notices that a part of a document gives rise to, and what comes of it. -/
structure Survey (α : Type) where
  notices : List Notice
  result : Except Mismatch α

namespace Survey

variable {α β : Type}

instance : Monad Survey where
  pure a := { notices := [], result := .ok a }
  bind s f :=
    match s.result with
    | .ok a => { notices := s.notices ++ (f a).notices, result := (f a).result }
    | .error mismatch => { notices := s.notices, result := .error mismatch }

/-! ### Steps -/

/-- A part that does not fit. -/
def fail (mismatch : Mismatch) : Survey α := { notices := [], result := .error mismatch }

/-- The value of an option that must be there. -/
def required (found? : Option α) (mismatch : Mismatch) : Survey α :=
  match found? with
  | some found => pure found
  | none => fail mismatch

end Survey

/-- The notice that a member is used, if it is deprecated. -/
def Visitor.noticesOf (v : Visitor) (qualifiedName : String) (directives : List Directive)
    (line : Nat) : List Notice :=
  match reason? directives with
  | none => []
  | some reason =>
    [{ qualifiedName := qualifiedName, reason := reason, sourceFile := v.sourceFile,
       line := v.baseLine + line }]

namespace Survey

/-- A use of a member with some directives. -/
def ofUse (v : Visitor) (qualifiedName : String) (directives : List Directive) (line : Nat) :
    Survey Unit :=
  { notices := v.noticesOf qualifiedName directives line, result := .ok () }

/-! ### Looking up -/

def enumValues? (v : Visitor) (typeName : String) : Survey (Option (List EnumValueDefinition)) :=
  match v.schema.type? typeName with
  | some (.enum values) => pure (some values)
  | some .scalar => pure none
  | some _ => fail (.notAnEnum typeName)
  | none => fail (.unknownType typeName)

def inputFields? (v : Visitor) (typeName : String) : Survey (Option (List InputValue)) :=
  match v.schema.type? typeName with
  | some (.inputObject fields) => pure (some fields)
  | some _ => pure none
  | none => fail (.unknownType typeName)

def directiveDefinition (v : Visitor) (name : String) : Survey DirectiveDefinition :=
  required (v.schema.directive? name) (.unknownDirective name)

def declaration (owner : Owner) (name : String) : Survey InputValue :=
  required (findInput? owner.declared name) (.unknownArgument owner.label name)

/-! ### Values and directives -/

def enumLiteral (v : Visitor) (typeName name : String) (line : Nat) : Survey Unit := do
  match ← enumValues? v typeName with
  | none => pure ()
  | some values =>
    let found ← required (values.find? (·.name = name)) (.unknownEnumValue typeName name)
    ofUse v (typeName ++ "." ++ name) found.directives line

mutual

/-- The survey of a value where one of `typeName`, or a list of them, is asked for. -/
def value (v : Visitor) (typeName : String) : Value → Survey Unit
  | .enum name line => enumLiteral v typeName name line
  | .list items => valueItems v typeName items
  | .object fields => do
    match ← inputFields? v typeName with
    | none => pure ()
    | some declared => valueFields v { label := typeName, declared := declared } fields
  | _ => pure ()

def valueItems (v : Visitor) (typeName : String) : List Value → Survey Unit
  | [] => pure ()
  | item :: items => do
    value v typeName item
    valueItems v typeName items

def valueFields (v : Visitor) (owner : Owner) : List (String × Value) → Survey Unit
  | [] => pure ()
  | (name, given) :: fields => do
    let declared ← declaration owner name
    value v declared.type.innerName given
    valueFields v owner fields

end

def argument (v : Visitor) (owner : Owner) (given : Argument) : Survey Unit := do
  let declared ← declaration owner given.name
  value v declared.type.innerName given.value

def arguments (v : Visitor) (owner : Owner) (given : List Argument) : Survey Unit :=
  given.forM (argument v owner)

def directive (v : Visitor) (given : Directive) : Survey Unit := do
  let definition ← directiveDefinition v given.name
  arguments v { label := "@" ++ definition.name, declared := definition.arguments } given.arguments

def directives (v : Visitor) (given : List Directive) : Survey Unit :=
  given.forM (directive v)

/-! ### Selections -/

def fieldDefinition (v : Visitor) (typeName name : String) : Survey FieldDefinition := do
  let body ← required (v.schema.type? typeName) (.unknownType typeName)
  required (v.schema.fieldOf? typeName body name) (.unknownField typeName name)

/-- The survey of a field apart from its selections, which gives the type that these are made on. -/
def fieldHead (v : Visitor) (typeName : String) (head : FieldHead) : Survey String := do
  let definition ← fieldDefinition v typeName head.name
  let qualifiedName := typeName ++ "." ++ head.name
  ofUse v qualifiedName definition.directives head.line
  arguments v { label := qualifiedName, declared := definition.arguments } head.arguments
  directives v head.directives
  return definition.type.innerName

mutual

/-- The survey of a selection that is made on the type `typeName`. -/
def selection (v : Visitor) (typeName : String) : Selection → Survey Unit
  | .field head selections => do
    let inner ← fieldHead v typeName head
    selectionSet v inner selections
  | .spread _ given => directives v given
  | .inlineFragment onType? given selections => do
    directives v given
    selectionSet v (onType?.getD typeName) selections

def selectionSet (v : Visitor) (typeName : String) : List Selection → Survey Unit
  | [] => pure ()
  | s :: ss => do
    selection v typeName s
    selectionSet v typeName ss

end

/-! ### Definitions -/

def operation (v : Visitor) (o : Operation) : Survey Unit := do
  let root ← required (v.schema.root? o.kind) (.missingRoot o.kind)
  directives v o.directives
  selectionSet v root o.selections

def fragment (v : Visitor) (f : Fragment) : Survey Unit := do
  let _ ← required (v.schema.type? f.onType) (.unknownType f.onType)
  directives v f.directives
  selectionSet v f.onType f.selections

def definition (v : Visitor) : Definition → Survey Unit
  | .operation o => operation v o
  | .fragment f => fragment v f
  | _ => pure ()

def document (v : Visitor) (d : Document) : Survey Unit := d.forM (definition v)

/-! ### Surveys that come to an end -/

/-- The survey meets no mismatch, hands on `ns`, and gives `a`. -/
def Yields (s : Survey α) (ns : List Notice) (a : α) : Prop :=
  s = { notices := ns, result := .ok a }

/-- A survey that does nothing yields its value and no notices. -/
lemma yields_pure_iff {a b : α} {ns : List Notice} :
    (pure a : Survey α).Yields ns b ↔ ns = [] ∧ a = b := by
  simp [Yields, pure, eq_comm]

/-- A survey that fails yields nothing. -/
lemma not_yields_fail {mismatch : Mismatch} {ns : List Notice} {a : α} :
    ¬ (fail mismatch : Survey α).Yields ns a := by
  simp [Yields, fail]

/-- What must be there is yielded if it is there, and with no notices. -/
lemma yields_required_iff {found? : Option α} {mismatch : Mismatch} {ns : List Notice} {a : α} :
    (required found? mismatch).Yields ns a ↔ found? = some a ∧ ns = [] := by
  cases found? with
  | none => simp [required, not_yields_fail]
  | some found => simp [required, yields_pure_iff, and_comm]

/-- A use yields its notices. -/
lemma yields_ofUse_iff {v : Visitor} {qualifiedName : String} {directives : List Directive}
    {line : Nat} {ns : List Notice} {u : Unit} :
    (ofUse v qualifiedName directives line).Yields ns u ↔
      ns = v.noticesOf qualifiedName directives line := by
  simp [Yields, ofUse, eq_comm]

/-- What comes to an end comes to an end in each of its parts, and hands on what they do. -/
lemma yields_bind_iff {s : Survey α} {f : α → Survey β} {ns : List Notice} {b : β} :
    (s >>= f).Yields ns b ↔
      ∃ before a after, s.Yields before a ∧ (f a).Yields after b ∧ ns = before ++ after := by
  obtain ⟨notices, result⟩ := s
  cases result with
  | error mismatch => simp [Yields, bind]
  | ok a =>
    simp only [Yields, bind, mk.injEq, Except.ok.injEq]
    constructor
    · rintro ⟨rfl, hresult⟩
      exact ⟨notices, a, (f a).notices, ⟨rfl, rfl⟩, by rw [← hresult], rfl⟩
    · rintro ⟨before, a', after, ⟨rfl, rfl⟩, hf, rfl⟩
      rw [hf]
      exact ⟨rfl, rfl⟩

/-- A survey that asks for something first yields what it yields for what is there. -/
lemma yields_required_bind_iff {found? : Option α} {mismatch : Mismatch} {f : α → Survey β}
    {ns : List Notice} {b : β} :
    (required found? mismatch >>= f).Yields ns b ↔
      ∃ found, found? = some found ∧ (f found).Yields ns b := by
  rw [yields_bind_iff]
  constructor
  · rintro ⟨before, found, after, hrequired, hrest, rfl⟩
    obtain ⟨hfound, rfl⟩ := yields_required_iff.mp hrequired
    exact ⟨found, hfound, hrest⟩
  · rintro ⟨found, hfound, hrest⟩
    exact ⟨[], found, ns, yields_required_iff.mpr ⟨hfound, rfl⟩, hrest, rfl⟩

/-- One survey after another. -/
lemma yields_seq_iff {s : Survey Unit} {t : Survey β} {ns : List Notice} {b : β} :
    (s >>= fun _ => t).Yields ns b ↔
      ∃ before after, s.Yields before () ∧ t.Yields after b ∧ ns = before ++ after := by
  rw [yields_bind_iff]
  constructor
  · rintro ⟨before, ⟨⟩, after, h⟩
    exact ⟨before, after, h⟩
  · rintro ⟨before, after, h⟩
    exact ⟨before, (), after, h⟩

/-- No items yield no notices. -/
lemma yields_forM_nil_iff {f : β → Survey Unit} {ns : List Notice} {u : Unit} :
    (([] : List β).forM f).Yields ns u ↔ ns = [] := by
  simp [List.forM, yields_pure_iff]

/-- The first item of several yields its notices before those of the others. -/
lemma yields_forM_cons_iff {f : β → Survey Unit} {x : β} {xs : List β} {ns : List Notice}
    {u : Unit} :
    ((x :: xs).forM f).Yields ns u ↔
      ∃ before after, (f x).Yields before () ∧ (xs.forM f).Yields after u ∧ ns = before ++ after :=
  yields_seq_iff

/-- Several items yield the notices that a relation gives them, if it gives none to no items, and
to others those that the first one yields before those of the rest. -/
lemma yields_forM_iff {f : β → Survey Unit} {r : List β → List Notice → Prop}
    (hnil : ∀ {ns}, r [] ns ↔ ns = [])
    (hcons : ∀ {x xs ns}, r (x :: xs) ns ↔
      ∃ before after, (f x).Yields before () ∧ r xs after ∧ ns = before ++ after)
    {xs : List β} {ns : List Notice} : (xs.forM f).Yields ns () ↔ r xs ns := by
  induction xs generalizing ns with
  | nil => rw [yields_forM_nil_iff, hnil]
  | cons x xs ih => simp only [yields_forM_cons_iff, hcons, ih]

end Survey

end GraphqlClient.Deprecation
