import GraphqlClient.Proofs.Entries
import GraphqlClient.Variables.Path
import Mathlib

/-!
# Reading and writing parts of variables

Lists and objects are both seen as entries: the items of a list by their indices in digits, the
fields of an object by their keys (`Variable.entries`).  A step of a path then finds an entry, and a
path finds the entry of an entry, so that the laws of reading and writing follow by induction on the
path from those of one step.
-/

namespace GraphqlClient

/-! ### Independent paths -/

/-- Neither path leads on from the end of the other. -/
def Path.Independent (p q : Path) : Prop := ¬ p <+: q ∧ ¬ q <+: p

namespace Path.Independent

variable {p q : Path} {a b : String}

/-- If one path does not lead through another, then neither does the other through it. -/
lemma symm (h : p.Independent q) : q.Independent p := ⟨h.2, h.1⟩

/-- Every path leads through the place where it starts. -/
lemma not_nil_left (h : Path.Independent [] q) : False := h.1 List.nil_prefix

/-- Every path leads through the place where it starts. -/
lemma not_nil_right (h : Path.Independent p []) : False := h.2 List.nil_prefix

/-- Two paths part at their first segments or later. -/
lemma cons_iff : Path.Independent (a :: p) (b :: q) ↔ a ≠ b ∨ p.Independent q := by
  unfold Path.Independent
  rw [List.cons_prefix_cons, List.cons_prefix_cons]
  by_cases h : a = b
  · subst h
    simp
  · simp [h, Ne.symm h]

/-- A common first segment does not matter. -/
lemma cons_self_iff : Path.Independent (a :: p) (a :: q) ↔ p.Independent q := by
  rw [cons_iff]
  exact or_iff_right fun hne => hne rfl

end Path.Independent

namespace Variable

/-! ### Entries of lists and objects -/

/-- The items of a list by their indices. -/
def keyed (index : Nat) : List Variable → Entries Variable
  | [] => []
  | item :: items => (toString index, item) :: keyed (index + 1) items

/-- The parts that one segment leads to, by that segment. -/
def entries : Variable → Entries Variable
  | .list items => keyed 0 items
  | .object fields => fields
  | .value _ | .upload _ => []

/-- The same list or object with other parts. -/
def withEntries : Variable → Entries Variable → Variable
  | .list _, es => .list (es.map (·.2))
  | .object _, es => .object es
  | v, _ => v

/-- The items are those that were given indices. -/
lemma map_snd_keyed (index : Nat) (items : List Variable) :
    (keyed index items).map (·.2) = items := by
  induction items generalizing index with
  | nil => rfl
  | cons item items ih => rw [keyed, List.map_cons, ih]

/-- With the entries that it has, a variable is the same. -/
lemma withEntries_entries (v : Variable) : v.withEntries v.entries = v := by
  cases v with
  | list items => rw [entries, withEntries, map_snd_keyed]
  | _ => rfl

/-- Items that keep their keys keep their indices. -/
lemma keyed_map_snd {index : Nat} {items : List Variable} {es : Entries Variable}
    (h : es.keys = (keyed index items).keys) : keyed index (es.map (·.2)) = es := by
  induction items generalizing index es with
  | nil =>
    obtain rfl : es = [] := List.map_eq_nil_iff.mp h
    rfl
  | cons item items ih =>
    cases es with
    | nil => cases h
    | cons entry es =>
      obtain ⟨k, v⟩ := entry
      rw [keyed, Entries.keys_cons, Entries.keys_cons] at h
      obtain ⟨rfl, hrest⟩ := List.cons.inj h
      rw [List.map_cons, keyed, ih hrest]

/-- Parts under the same segments take the place of the old ones. -/
lemma entries_withEntries {v : Variable} {es : Entries Variable} (h : es.keys = v.entries.keys) :
    (v.withEntries es).entries = es := by
  cases v with
  | list items => exact keyed_map_snd h
  | object fields => rfl
  | _ =>
    obtain rfl : es = [] := List.map_eq_nil_iff.mp h
    rfl

/-- Of two lists of entries the second one counts. -/
lemma withEntries_withEntries (v : Variable) (es es' : Entries Variable) :
    (v.withEntries es).withEntries es' = v.withEntries es' := by
  cases v <;> rfl

/-! ### One step -/

/-- A field is found under its name, and the rest of the path in it. -/
lemma readField?_eq (segment : String) (rest : Path) (fields : Entries Variable) :
    readField? segment rest fields = (fields.lookup segment).bind (read? · rest) := by
  induction fields with
  | nil => rfl
  | cons field fields ih =>
    obtain ⟨key, part⟩ := field
    rw [readField?]
    by_cases hkey : key = segment
    · subst hkey
      rw [if_pos rfl, List.lookup_cons_self]
      rfl
    · rw [if_neg hkey, List.lookup_cons, beq_false_of_ne (Ne.symm hkey)]
      exact ih

/-- An item is found under its index as a field is under its name. -/
lemma readItem?_eq (index : Nat) (segment : String) (rest : Path) (items : List Variable) :
    readItem? index segment rest items = readField? segment rest (keyed index items) := by
  induction items generalizing index with
  | nil => rfl
  | cons item items ih => rw [readItem?, keyed, readField?, ih]

/-- Writing into a field adjusts what is under its name. -/
lemma writeField_eq (new : Variable) (segment : String) (rest : Path) (fields : Entries Variable) :
    writeField new segment rest fields = fields.adjust (write new · rest) segment := by
  induction fields with
  | nil => rfl
  | cons field fields ih =>
    obtain ⟨key, part⟩ := field
    rw [writeField, Entries.adjust, ih]

/-- Writing into an item is writing into a field that is named by its index. -/
lemma writeItem_eq (new : Variable) (index : Nat) (segment : String) (rest : Path)
    (items : List Variable) :
    writeItem new index segment rest items =
      (writeField new segment rest (keyed index items)).map (·.2) := by
  induction items generalizing index with
  | nil => rfl
  | cons item items ih =>
    rw [writeItem, keyed, writeField, ih]
    split
    · rw [List.map_cons, map_snd_keyed]
    · rw [List.map_cons]

/-- At the end of a path there is the variable itself. -/
@[simp] lemma read?_nil (v : Variable) : v.read? [] = some v := by
  cases v <;> rfl

/-- A path finds the entry of its first segment, and goes on from there. -/
lemma read?_cons (v : Variable) (segment : String) (rest : Path) :
    v.read? (segment :: rest) = (v.entries.lookup segment).bind (read? · rest) := by
  cases v with
  | list items => rw [read?, readItem?_eq, readField?_eq, entries]
  | object fields => rw [read?, readField?_eq, entries]
  | _ => rfl

/-- Writing at the end of a path replaces the variable. -/
@[simp] lemma write_nil (new v : Variable) : write new v [] = new := by
  cases v <;> rfl

/-- Writing further down a path adjusts the entry that it leads through. -/
lemma write_cons (new v : Variable) (segment : String) (rest : Path) :
    write new v (segment :: rest) =
      v.withEntries (v.entries.adjust (write new · rest) segment) := by
  cases v with
  | list items => rw [write, writeItem_eq, writeField_eq, entries, withEntries]
  | object fields => rw [write, writeField_eq, entries, withEntries]
  | _ => rfl

/-- Writing changes the entry of the first segment only. -/
lemma entries_write_cons (new v : Variable) (segment : String) (rest : Path) :
    (write new v (segment :: rest)).entries = v.entries.adjust (write new · rest) segment := by
  rw [write_cons, entries_withEntries Entries.keys_adjust]

/-- Two writes below the same variable change its entries twice. -/
lemma write_write_cons (new new' v : Variable) (segment segment' : String) (rest rest' : Path) :
    write new' (write new v (segment :: rest)) (segment' :: rest') =
      v.withEntries ((v.entries.adjust (write new · rest) segment).adjust (write new' · rest')
        segment') := by
  rw [write_cons new', entries_write_cons, write_cons, withEntries_withEntries]

/-! ### Laws -/

variable {v part new new' : Variable} {p q : Path}

/-- What is written at the end of a path is read there. -/
lemma read?_write_self (h : v.read? p = some part) : (write new v p).read? p = some new := by
  induction p generalizing v with
  | nil => rw [write_nil, read?_nil]
  | cons segment p ih =>
    rw [read?_cons] at h
    obtain ⟨child, hchild, hpart⟩ := Option.bind_eq_some_iff.mp h
    rw [read?_cons, entries_write_cons, Entries.lookup_adjust_self, hchild]
    exact ih hpart

/-- Nothing changes at the end of an independent path. -/
lemma read?_write_of_independent (h : p.Independent q) : (write new v p).read? q = v.read? q := by
  induction p generalizing v q with
  | nil => exact h.not_nil_left.elim
  | cons segment p ih =>
    cases q with
    | nil => exact h.not_nil_right.elim
    | cons segment' q =>
      rw [read?_cons, read?_cons, entries_write_cons]
      by_cases hsegment : segment = segment'
      · subst hsegment
        have hrest := Path.Independent.cons_self_iff.mp h
        rw [Entries.lookup_adjust_self]
        cases v.entries.lookup segment with
        | none => rfl
        | some child => exact ih hrest
      · rw [Entries.lookup_adjust_of_ne hsegment]

/-- The last of two writes at the end of one path counts. -/
lemma write_write_self : write new' (write new v p) p = write new' v p := by
  induction p generalizing v with
  | nil => rw [write_nil, write_nil]
  | cons segment p ih =>
    rw [write_write_cons, Entries.adjust_adjust_self, write_cons]
    simp only [ih]

/-- Writing what is there changes nothing. -/
lemma write_eq_self (h : v.read? p = some part) : write part v p = v := by
  induction p generalizing v with
  | nil =>
    rw [read?_nil] at h
    rw [write_nil, Option.some.inj h]
  | cons segment p ih =>
    rw [read?_cons] at h
    have hsame : v.entries.adjust (write part · p) segment =
        v.entries.adjust (fun child => child) segment :=
      Entries.adjust_congr fun child hchild => ih (by rwa [hchild] at h)
    rw [write_cons, hsame, Entries.adjust_id, withEntries_entries]

/-- Writes at the ends of independent paths can be made in either order. -/
lemma write_comm (h : p.Independent q) :
    write new' (write new v p) q = write new (write new' v q) p := by
  induction p generalizing v q with
  | nil => exact h.not_nil_left.elim
  | cons segment p ih =>
    cases q with
    | nil => exact h.not_nil_right.elim
    | cons segment' q =>
      rw [write_write_cons, write_write_cons]
      by_cases hsegment : segment = segment'
      · subst hsegment
        have hrest := Path.Independent.cons_self_iff.mp h
        rw [Entries.adjust_adjust_self, Entries.adjust_adjust_self]
        simp only [ih hrest]
      · rw [Entries.adjust_comm hsegment]

end Variable

end GraphqlClient
