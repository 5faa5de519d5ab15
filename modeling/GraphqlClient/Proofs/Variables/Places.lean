import GraphqlClient.Proofs.Json.Values
import GraphqlClient.Proofs.Variables.Numbering
import Mathlib

/-!
# Places in JSON

Whoever gets variables as JSON no longer sees which lists and objects were spelled out.  A path
leads through JSON by the keys of objects and by indices in decimal digits, so that wherever it
leads in variables, it leads to the same place in their JSON: what is read there is the JSON of the
part (`Variable.at?_toJson`), and what is filled in there is what was written into the variables
(`Variable.toJson_writeAll`).
-/

namespace GraphqlClient

namespace Json

/-! ### Following a path -/

/-- The number that decimal digits write. -/
def index? (segment : String) : Option Nat :=
  if segment ≠ "" ∧ ∀ c ∈ segment.toList, c.isDigit = true then
    some (Nat.ofDigitChars 10 segment.toList 0)
  else none

/-- The part that one segment leads to: an item by its index, or the value of an entry by its
key. -/
def part? : Json → String → Option Json
  | .array items, segment => (index? segment).bind (items[·]?)
  | .object entries, segment => entries.lookup segment
  | _, _ => none

/-- The same array or object with another part where one segment leads to. -/
def withPart : Json → String → Json → Json
  | .array items, segment, new => .array ((index? segment).elim items (items.set · new))
  | .object entries, segment, new => .object (Entries.adjust (fun _ => new) segment entries)
  | v, _, _ => v

/-- What is at the end of a path. -/
def at? (v : Json) : Path → Option Json
  | [] => some v
  | segment :: rest => (v.part? segment).bind (at? · rest)

/-- The value with something else at the end of a path.  A path that leads nowhere changes
nothing. -/
def fill (v : Json) : Path → Json → Json
  | [], new => new
  | segment :: rest, new => (v.part? segment).elim v fun part =>
    v.withPart segment (fill part rest new)

/-- At the end of a path there is the value itself. -/
lemma at?_nil (v : Json) : v.at? [] = some v := rfl

/-- A path leads through the part that its first segment names. -/
lemma at?_cons (v : Json) (segment : String) (rest : Path) :
    v.at? (segment :: rest) = (v.part? segment).bind (at? · rest) := rfl

/-- Filling the end of a path replaces the value. -/
lemma fill_nil (v new : Json) : v.fill [] new = new := rfl

/-- Filling a place further down a path fills it in the part that the path leads through. -/
lemma fill_cons {v part : Json} {segment : String} (h : v.part? segment = some part) (rest : Path)
    (new : Json) :
    v.fill (segment :: rest) new = v.withPart segment (part.fill rest new) := by
  rw [fill, h, Option.elim_some]

/-- A number is written with digits. -/
lemma isDigit_toString (n : Nat) : ∀ c ∈ (toString n).toList, c.isDigit = true := by
  intro c hc
  rw [Nat.toString_eq_repr, Nat.toList_repr] at hc
  exact Nat.isDigit_of_mem_toDigits (by decide) (by decide) hc

/-- An index is found by its digits. -/
lemma index?_toString (n : Nat) : index? (toString n) = some n := by
  have hne : toString n ≠ "" := by
    intro hempty
    have hdigits : (toString n).toList = Nat.toDigits 10 n := by
      rw [Nat.toString_eq_repr, Nat.toList_repr]
    rw [hempty] at hdigits
    exact Nat.toDigits_ne_nil hdigits.symm
  rw [index?, if_pos ⟨hne, isDigit_toString n⟩, Nat.toString_eq_repr, Nat.toList_repr,
    Nat.ofDigitChars_ten_toDigits]

end Json

namespace Variable

/-! ### JSON of variables, part by part -/

/-- Items are written one by one. -/
lemma itemsToJson_eq (items : List Variable) : itemsToJson items = items.map toJson := by
  induction items with
  | nil => rfl
  | cons item items ih => rw [itemsToJson, ih, List.map_cons]

/-- Fields are written one by one, each under its name. -/
lemma fieldsToJson_eq (fields : Entries Variable) :
    fieldsToJson fields = fields.map fun field => (field.1, field.2.toJson) := by
  induction fields with
  | nil => rfl
  | cons field fields ih => rw [fieldsToJson, ih, List.map_cons]

/-- What is found under a name is what the field is written as. -/
lemma lookup_fieldsToJson (fields : Entries Variable) (key : String) :
    (fieldsToJson fields).lookup key = (fields.lookup key).map toJson := by
  induction fields with
  | nil => rfl
  | cons field fields ih =>
    obtain ⟨k, part⟩ := field
    rw [fieldsToJson, List.lookup_cons, List.lookup_cons, ih]
    cases key == k with
    | true => rfl
    | false => rfl

/-- Replacing a field replaces what it is written as. -/
lemma adjust_fieldsToJson (fields : Entries Variable) (key : String) (new : Variable) :
    fieldsToJson (Entries.adjust (fun _ => new) key fields) =
      Entries.adjust (fun _ => new.toJson) key (fieldsToJson fields) := by
  induction fields with
  | nil => rfl
  | cons field fields ih =>
    obtain ⟨k, part⟩ := field
    by_cases hkey : k = key
    · subst hkey
      rw [Entries.adjust_cons_self, fieldsToJson, fieldsToJson, Entries.adjust_cons_self]
    · rw [Entries.adjust_cons_of_ne hkey, fieldsToJson, fieldsToJson,
        Entries.adjust_cons_of_ne hkey, ih]

/-- The items of a list are found under the digits of their indices. -/
lemma exists_index_of_lookup_keyed {index : Nat} {items : List Variable} {segment : String}
    {part : Variable} (h : (keyed index items).lookup segment = some part) :
    ∃ i, segment = toString (index + i) ∧ items[i]? = some part := by
  induction items generalizing index with
  | nil => cases h
  | cons item items ih =>
    rw [keyed, List.lookup_cons] at h
    by_cases hsegment : segment = toString index
    · subst hsegment
      rw [beq_self_eq_true] at h
      exact ⟨0, rfl, h⟩
    · rw [beq_false_of_ne hsegment] at h
      obtain ⟨i, hi, hpart⟩ := ih h
      refine ⟨i + 1, ?_, hpart⟩
      rw [hi, Nat.add_assoc, Nat.add_comm 1 i]

/-- Putting another item under the digits of an index. -/
lemma map_snd_adjust_keyed (index i : Nat) (items : List Variable) (new : Variable) :
    (Entries.adjust (fun _ => new) (toString (index + i)) (keyed index items)).map (·.2) =
      items.set i new := by
  induction items generalizing index i with
  | nil => rfl
  | cons item items ih =>
    cases i with
    | zero => rw [keyed, Nat.add_zero, Entries.adjust_cons_self, List.map_cons, map_snd_keyed,
      List.set_cons_zero]
    | succ i =>
      have hne : toString index ≠ toString (index + (i + 1)) := by
        intro heq
        have hindex : index = index + (i + 1) := Nat.repr_inj.mp heq
        omega
      have hindex : index + (i + 1) = index + 1 + i := by omega
      rw [keyed, Entries.adjust_cons_of_ne hne, List.map_cons, hindex, ih, List.set_cons_succ]

variable {v part : Variable} {segment : String} {path : Path}

/-- A segment that leads to a part of a variable leads to the JSON of that part. -/
lemma part?_toJson (h : v.entries.lookup segment = some part) :
    v.toJson.part? segment = some part.toJson := by
  cases v with
  | value json => cases h
  | list items =>
    obtain ⟨i, rfl, hitem⟩ := exists_index_of_lookup_keyed h
    rw [Nat.zero_add, toJson, itemsToJson_eq, Json.part?, Json.index?_toString, Option.bind_some,
      List.getElem?_map, hitem, Option.map_some]
  | object fields =>
    have hfield : fields.lookup segment = some part := h
    rw [toJson, Json.part?, lookup_fieldsToJson, hfield, Option.map_some]
  | upload file => cases h

/-- The same for another part in its place. -/
lemma toJson_withEntries (h : v.entries.lookup segment = some part) (new : Variable) :
    (v.withEntries (Entries.adjust (fun _ => new) segment v.entries)).toJson =
      v.toJson.withPart segment new.toJson := by
  cases v with
  | value json => cases h
  | list items =>
    obtain ⟨i, rfl, hitem⟩ := exists_index_of_lookup_keyed h
    have hset := map_snd_adjust_keyed 0 i items new
    rw [entries, withEntries, hset, toJson, toJson, itemsToJson_eq, itemsToJson_eq, Nat.zero_add,
      Json.withPart, Json.index?_toString, Option.elim_some, List.map_set]
  | object fields => rw [entries, withEntries, toJson, toJson, adjust_fieldsToJson, Json.withPart]
  | upload file => cases h

/-! ### Following a path in JSON -/

/-- A path that leads to a part of a variable leads to the JSON of that part. -/
theorem at?_toJson (h : v.read? path = some part) : v.toJson.at? path = some part.toJson := by
  induction path generalizing v with
  | nil =>
    rw [read?_nil] at h
    rw [Option.some.inj h, Json.at?_nil]
  | cons segment rest ih =>
    rw [read?_cons] at h
    obtain ⟨child, hchild, hpart⟩ := Option.bind_eq_some_iff.mp h
    rw [Json.at?_cons, part?_toJson hchild, Option.bind_some]
    exact ih hpart

/-- What is written at the end of such a path is filled in in JSON. -/
theorem toJson_write (h : v.read? path = some part) (new : Variable) :
    (write new v path).toJson = v.toJson.fill path new.toJson := by
  induction path generalizing v with
  | nil => rw [write_nil, Json.fill_nil]
  | cons segment rest ih =>
    rw [read?_cons] at h
    obtain ⟨child, hchild, hpart⟩ := Option.bind_eq_some_iff.mp h
    have hadjust : Entries.adjust (write new · rest) segment v.entries =
        Entries.adjust (fun _ => write new child rest) segment v.entries := by
      apply Entries.adjust_congr
      intro other hother
      rw [Option.some.inj (hchild.symm.trans hother)]
    rw [write_cons, hadjust, toJson_withEntries hchild, Json.fill_cons (part?_toJson hchild),
      ih hpart]

/-- What is written at the ends of several paths is filled in one after the other. -/
theorem toJson_writeAll {parts : List (Path × Variable)}
    (hindependent : (parts.map (·.1)).Pairwise Path.Independent)
    (hread : ∀ part ∈ parts, ∃ old, v.read? part.1 = some old) :
    (v.writeAll parts).toJson = parts.foldl (fun json part => json.fill part.1 part.2.toJson)
      v.toJson := by
  induction parts generalizing v with
  | nil => rfl
  | cons first parts ih =>
    rw [List.map_cons, List.pairwise_cons] at hindependent
    obtain ⟨hfirst, hrest⟩ := hindependent
    obtain ⟨⟨old, hold⟩, hothers⟩ := List.forall_mem_cons.mp hread
    have hreadOthers : ∀ part ∈ parts, ∃ old, (write first.2 v first.1).read? part.1 =
        some old := by
      intro part hpart
      rw [read?_write_of_independent (hfirst part.1 (List.mem_map_of_mem hpart))]
      exact hothers part hpart
    rw [writeAll_cons, List.foldl_cons, ih hrest hreadOthers, toJson_write hold]

/-! ### JSON without uploads -/

mutual

/-- The JSON of a variable has null in place of uploads in any case. -/
lemma toJson_withoutUploads : (v : Variable) → v.withoutUploads.toJson = v.toJson
  | .value _ => rfl
  | .list items => by rw [withoutUploads, toJson, toJson, itemsToJson_withoutUploads items]
  | .object fields => by rw [withoutUploads, toJson, toJson, fieldsToJson_withoutUploads fields]
  | .upload _ => rfl

/-- Items are written in the same way without their uploads. -/
lemma itemsToJson_withoutUploads : (items : List Variable) →
    itemsToJson (itemsWithoutUploads items) = itemsToJson items
  | [] => rfl
  | item :: items => by
    rw [itemsWithoutUploads, itemsToJson, itemsToJson, toJson_withoutUploads item,
      itemsToJson_withoutUploads items]

/-- Fields are written in the same way without their uploads. -/
lemma fieldsToJson_withoutUploads : (fields : List (String × Variable)) →
    fieldsToJson (fieldsWithoutUploads fields) = fieldsToJson fields
  | [] => rfl
  | (key, field) :: fields => by
    rw [fieldsWithoutUploads, fieldsToJson, fieldsToJson, toJson_withoutUploads field,
      fieldsToJson_withoutUploads fields]

end

/-- Fields are written under their names. -/
lemma keys_fieldsToJson (fields : Entries Variable) :
    Entries.keys (fieldsToJson fields) = fields.keys := by
  rw [fieldsToJson_eq, Entries.keys, List.map_map]
  rfl

mutual

/-- Where no key occurs twice in the JSON, none does in the variable. -/
lemma distinctKeys_of_toJson : (v : Variable) → v.toJson.DistinctKeys → v.DistinctKeys
  | .value json, _ => .value json
  | .list items, h => .list (distinctKeys_of_itemsToJson items (Json.distinctKeys_array_iff.mp h))
  | .object fields, h => by
    obtain ⟨hkeys, hparts⟩ := Json.distinctKeys_object_iff.mp h
    rw [keys_fieldsToJson] at hkeys
    exact .object hkeys (distinctKeys_of_fieldsToJson fields hparts)
  | .upload file, _ => .upload file

/-- No key is repeated in items if none is in what they are written as. -/
lemma distinctKeys_of_itemsToJson :
    (items : List Variable) → (∀ json ∈ itemsToJson items, json.DistinctKeys) →
    ∀ item ∈ items, item.DistinctKeys
  | [], _ => nofun
  | item :: items, h => by
    obtain ⟨hitem, hrest⟩ := List.forall_mem_cons.mp h
    exact List.forall_mem_cons.mpr ⟨distinctKeys_of_toJson item hitem,
      distinctKeys_of_itemsToJson items hrest⟩

/-- No key is repeated in fields if none is in what they are written as. -/
lemma distinctKeys_of_fieldsToJson : (fields : List (String × Variable)) →
    (∀ entry ∈ fieldsToJson fields, entry.2.DistinctKeys) → ∀ field ∈ fields, field.2.DistinctKeys
  | [], _ => nofun
  | (key, field) :: fields, h => by
    obtain ⟨hfield, hrest⟩ := List.forall_mem_cons.mp h
    exact List.forall_mem_cons.mpr ⟨distinctKeys_of_toJson field hfield,
      distinctKeys_of_fieldsToJson fields hrest⟩

end

end Variable

end GraphqlClient
