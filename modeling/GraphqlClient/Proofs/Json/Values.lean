import GraphqlClient.Json.Basic
import GraphqlClient.Proofs.Entries
import Mathlib

/-!
# Keys and nesting of JSON values

A text may repeat the keys of an object, a value that is read never does: of repeated keys the last
value stays (`Json.collapsed`).
-/

namespace GraphqlClient.Json

/-- Induction over all the values inside of a value. -/
@[elab_as_elim]
theorem induction {motive : Json → Prop} (null : motive .null) (boolean : ∀ b, motive (.boolean b))
    (number : ∀ n, motive (.number n)) (string : ∀ s, motive (.string s))
    (array : ∀ items, (∀ item ∈ items, motive item) → motive (.array items))
    (object : ∀ entries, (∀ entry ∈ entries, motive entry.2) → motive (.object entries)) :
    ∀ v, motive v
  | .null => null
  | .boolean b => boolean b
  | .number n => number n
  | .string s => string s
  | .array items => array items fun item _ => induction null boolean number string array object item
  | .object entries => object entries fun entry _ =>
    induction null boolean number string array object entry.2
termination_by v => sizeOf v
decreasing_by
  · have := List.sizeOf_lt_of_mem ‹_›
    simp only [Json.array.sizeOf_spec]
    omega
  · have := List.sizeOf_lt_of_mem ‹_›
    have : sizeOf entry = 1 + sizeOf entry.1 + sizeOf entry.2 := rfl
    simp only [Json.object.sizeOf_spec]
    omega

/-! ### Nesting -/

/-- A bound for the depth of items is one for each of them. -/
lemma depthOfItems_le_iff {items : List Json} {n : Nat} :
    depthOfItems items ≤ n ↔ ∀ item ∈ items, item.depth ≤ n := by
  induction items with
  | nil => simp [depthOfItems]
  | cons item items ih => rw [depthOfItems, Nat.max_le, ih, List.forall_mem_cons]

/-- A bound for the depth of entries is one for each of their values. -/
lemma depthOfEntries_le_iff {entries : Entries Json} {n : Nat} :
    depthOfEntries entries ≤ n ↔ ∀ entry ∈ entries, entry.2.depth ≤ n := by
  induction entries with
  | nil => simp [depthOfEntries]
  | cons entry entries ih => rw [depthOfEntries, Nat.max_le, ih, List.forall_mem_cons]

/-! ### Distinct keys -/

/-- No object in the value has two entries with one key. -/
inductive DistinctKeys : Json → Prop
  | null : DistinctKeys .null
  | boolean (b : Bool) : DistinctKeys (.boolean b)
  | number (n : Number) : DistinctKeys (.number n)
  | string (s : String) : DistinctKeys (.string s)
  | array {items : List Json} (parts : ∀ item ∈ items, DistinctKeys item) :
      DistinctKeys (.array items)
  | object {entries : Entries Json} (keys : entries.keys.Nodup)
      (parts : ∀ entry ∈ entries, DistinctKeys entry.2) : DistinctKeys (.object entries)

/-- No key is repeated in an array exactly if none is in any of its items. -/
lemma distinctKeys_array_iff {items : List Json} :
    (array items).DistinctKeys ↔ ∀ item ∈ items, item.DistinctKeys :=
  ⟨fun | .array parts => parts, .array⟩

/-- No key is repeated in an object exactly if none of its own is and none in any of its values. -/
lemma distinctKeys_object_iff {entries : Entries Json} :
    (object entries).DistinctKeys ↔ entries.keys.Nodup ∧ ∀ entry ∈ entries, entry.2.DistinctKeys :=
  ⟨fun | .object keys parts => ⟨keys, parts⟩, fun ⟨keys, parts⟩ => .object keys parts⟩

/-! ### Repeated keys -/

mutual

/-- The value in which of the entries with one key, wherever there are several, the last value is
left, at the place of the first. -/
def collapsed : Json → Json
  | .array items => .array (collapsedItems items)
  | .object entries => .object (Entries.merge (collapsedEntries entries))
  | v => v

def collapsedItems : List Json → List Json
  | [] => []
  | item :: items => item.collapsed :: collapsedItems items

def collapsedEntries : List (String × Json) → List (String × Json)
  | [] => []
  | (key, value) :: entries => (key, value.collapsed) :: collapsedEntries entries

end

/-- Items are collapsed one by one. -/
lemma collapsedItems_eq (items : List Json) : collapsedItems items = items.map collapsed := by
  induction items with
  | nil => rfl
  | cons item items ih => rw [collapsedItems, ih, List.map_cons]

/-- The values of entries are collapsed one by one. -/
lemma collapsedEntries_eq (entries : Entries Json) :
    collapsedEntries entries = entries.map fun entry => (entry.1, entry.2.collapsed) := by
  induction entries with
  | nil => rfl
  | cons entry entries ih => rw [collapsedEntries, ih, List.map_cons]

/-- Collapsing values keeps the keys. -/
@[simp] lemma keys_collapsedEntries (entries : Entries Json) :
    Entries.keys (collapsedEntries entries) = entries.keys := by
  rw [collapsedEntries_eq, Entries.keys, List.map_map]
  rfl

/-- What is left under a key is what came last under it. -/
lemma lookup_merge_collapsedEntries (entries : Entries Json) (key : String) :
    (Entries.merge (collapsedEntries entries)).lookup key = (entries.last? key).map collapsed := by
  rw [Entries.lookup_merge, collapsedEntries_eq]
  induction entries using List.reverseRecOn with
  | nil => rfl
  | append_singleton entries entry ih =>
    obtain ⟨k, v⟩ := entry
    rw [List.map_append, List.map_singleton, Entries.last?_append_singleton,
      Entries.last?_append_singleton, ih]
    split <;> rfl

/-- What is merged of collapsed entries is a collapsed entry. -/
lemma exists_of_mem_merge_collapsedEntries {entries : Entries Json} {key : String} {v : Json}
    (h : (key, v) ∈ Entries.merge (collapsedEntries entries)) :
    ∃ w, (key, w) ∈ entries ∧ v = w.collapsed := by
  have hmem := Entries.mem_of_mem_merge h
  rw [collapsedEntries_eq, List.mem_map] at hmem
  obtain ⟨⟨key', w⟩, hentry, heq⟩ := hmem
  cases heq
  exact ⟨w, hentry, rfl⟩

/-- No key is repeated in a collapsed value. -/
theorem distinctKeys_collapsed (v : Json) : v.collapsed.DistinctKeys := by
  induction v using induction with
  | null => exact .null
  | boolean b => exact .boolean b
  | number n => exact .number n
  | string s => exact .string s
  | array items ih =>
    rw [collapsed, collapsedItems_eq]
    refine .array fun item hitem => ?_
    obtain ⟨item, hmem, rfl⟩ := List.mem_map.mp hitem
    exact ih item hmem
  | object entries ih =>
    rw [collapsed]
    refine .object (Entries.nodup_keys_merge _) fun entry hentry => ?_
    obtain ⟨w, hmem, heq⟩ := exists_of_mem_merge_collapsedEntries hentry
    rw [heq]
    exact ih _ hmem

/-- A value without repeated keys stays as it is. -/
theorem collapsed_eq_self {v : Json} (h : v.DistinctKeys) : v.collapsed = v := by
  induction h with
  | null | boolean | number | string => rfl
  | array _ ih =>
    rw [collapsed, collapsedItems_eq, List.map_congr_left ih, List.map_id']
  | @object entries keys _ ih =>
    have hentries : ∀ entry ∈ entries, (entry.1, entry.2.collapsed) = entry := fun entry hentry =>
      Prod.ext rfl (ih entry hentry)
    rw [collapsed, collapsedEntries_eq, List.map_congr_left hentries, List.map_id',
      Entries.merge_eq_self keys]

/-- Collapsing makes no value deeper. -/
theorem depth_collapsed_le (v : Json) : v.collapsed.depth ≤ v.depth := by
  induction v using induction with
  | null | boolean | number | string => exact Nat.le_refl _
  | array items ih =>
    have hitems : ∀ item ∈ items, item.depth ≤ depthOfItems items :=
      depthOfItems_le_iff.mp (Nat.le_refl _)
    rw [collapsed, collapsedItems_eq, depth, depth]
    refine Nat.succ_le_succ (depthOfItems_le_iff.mpr fun item hitem => ?_)
    obtain ⟨item, hmem, rfl⟩ := List.mem_map.mp hitem
    exact le_trans (ih item hmem) (hitems item hmem)
  | object entries ih =>
    have hentries : ∀ entry ∈ entries, entry.2.depth ≤ depthOfEntries entries :=
      depthOfEntries_le_iff.mp (Nat.le_refl _)
    rw [collapsed, depth, depth]
    refine Nat.succ_le_succ (depthOfEntries_le_iff.mpr fun entry hentry => ?_)
    obtain ⟨w, hmem, heq⟩ := exists_of_mem_merge_collapsedEntries hentry
    rw [heq]
    exact le_trans (ih _ hmem) (hentries _ hmem)

end GraphqlClient.Json
