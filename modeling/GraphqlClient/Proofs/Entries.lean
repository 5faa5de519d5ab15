import GraphqlClient.Entries
import Mathlib.Data.List.Induction
import Mathlib.Data.List.Nodup
import Mathlib.Tactic.Lemma

/-!
# Keys of entries

What is found under a key, and what changing the value under a key does to the rest.
-/

namespace GraphqlClient.Entries

variable {α : Type} {entries : Entries α} {key other : String} {value : α} {f g : α → α}

/-- The keys, in order. -/
def keys (entries : Entries α) : List String := entries.map (·.1)

/-- No entries have no keys. -/
@[simp] lemma keys_nil : keys ([] : Entries α) = [] := rfl

/-- The key of the first entry comes first. -/
@[simp] lemma keys_cons (entry : String × α) (entries : Entries α) :
    keys (entry :: entries) = entry.1 :: keys entries := rfl

/-- The key of an entry is among the keys. -/
lemma mem_keys_of_mem (h : (key, value) ∈ entries) : key ∈ entries.keys :=
  List.mem_map_of_mem h

/-! ### Finding -/

/-- What is found under a key is an entry. -/
lemma mem_of_lookup (h : entries.lookup key = some value) : (key, value) ∈ entries := by
  obtain ⟨before, after, rfl, -⟩ := List.lookup_eq_some_iff.mp h
  exact List.mem_append_right before List.mem_cons_self

/-- Where no key occurs twice, each value is found under its key. -/
lemma lookup_of_mem (hkeys : entries.keys.Nodup) (h : (key, value) ∈ entries) :
    entries.lookup key = some value := by
  induction entries with
  | nil => cases h
  | cons entry entries ih =>
    obtain ⟨k, v⟩ := entry
    obtain ⟨hfresh, hrest⟩ := List.nodup_cons.mp hkeys
    rw [List.lookup_cons]
    rcases List.mem_cons.mp h with heq | hmem
    · cases heq
      simp
    · have hk : key ≠ k := fun heq => hfresh (heq ▸ mem_keys_of_mem hmem)
      rw [beq_false_of_ne hk]
      exact ih hrest hmem

/-- If no key is repeated, then every entry is found under its key. -/
lemma lookup_eq_some_iff (hkeys : entries.keys.Nodup) :
    entries.lookup key = some value ↔ (key, value) ∈ entries :=
  ⟨mem_of_lookup, lookup_of_mem hkeys⟩

/-- Nothing is found under a key exactly if there is no such key. -/
lemma lookup_eq_none_iff : entries.lookup key = none ↔ key ∉ entries.keys := by
  rw [List.lookup_eq_none_iff]
  constructor
  · intro h hmem
    obtain ⟨entry, hentry, rfl⟩ := List.mem_map.mp hmem
    exact bne_iff_ne.mp (h entry hentry) rfl
  · intro h entry hentry
    refine bne_iff_ne.mpr ?_
    rintro rfl
    exact h (List.mem_map_of_mem hentry)

/-! ### Changing a value -/

/-- Changes the value at the first place of a key. -/
def adjust (f : α → α) (key : String) : Entries α → Entries α
  | [] => []
  | (k, v) :: rest => if k = key then (k, f v) :: rest else (k, v) :: adjust f key rest

/-- The first entry is adjusted if it has the key. -/
lemma adjust_cons_self (v : α) (rest : Entries α) :
    adjust f key ((key, v) :: rest) = (key, f v) :: rest := if_pos rfl

/-- The first entry stays if it has another key. -/
lemma adjust_cons_of_ne {k : String} (h : k ≠ key) (v : α) (rest : Entries α) :
    adjust f key ((k, v) :: rest) = (k, v) :: adjust f key rest := if_neg h

/-- Adjusting a value keeps the keys. -/
@[simp] lemma keys_adjust : (adjust f key entries).keys = entries.keys := by
  induction entries with
  | nil => rfl
  | cons entry entries ih =>
    obtain ⟨k, v⟩ := entry
    by_cases hk : k = key
    · subst hk
      rw [adjust_cons_self, keys_cons, keys_cons]
    · rw [adjust_cons_of_ne hk, keys_cons, keys_cons, ih]

/-- Under the key, the adjusted value is found. -/
lemma lookup_adjust_self : (adjust f key entries).lookup key = (entries.lookup key).map f := by
  induction entries with
  | nil => rfl
  | cons entry entries ih =>
    obtain ⟨k, v⟩ := entry
    by_cases hk : k = key
    · subst hk
      rw [adjust_cons_self, List.lookup_cons_self, List.lookup_cons_self]
      rfl
    · rw [adjust_cons_of_ne hk, List.lookup_cons, List.lookup_cons, beq_false_of_ne (Ne.symm hk)]
      exact ih

/-- Under other keys, the same is found as before. -/
lemma lookup_adjust_of_ne (h : key ≠ other) :
    (adjust f key entries).lookup other = entries.lookup other := by
  induction entries with
  | nil => rfl
  | cons entry entries ih =>
    obtain ⟨k, v⟩ := entry
    by_cases hk : k = key
    · subst hk
      rw [adjust_cons_self, List.lookup_cons, List.lookup_cons, beq_false_of_ne (Ne.symm h)]
    · rw [adjust_cons_of_ne hk, List.lookup_cons, List.lookup_cons, ih]

/-- Two adjustments of one value are one. -/
lemma adjust_adjust_self :
    adjust g key (adjust f key entries) = adjust (fun v => g (f v)) key entries := by
  induction entries with
  | nil => rfl
  | cons entry entries ih =>
    obtain ⟨k, v⟩ := entry
    by_cases hk : k = key
    · subst hk
      rw [adjust_cons_self, adjust_cons_self, adjust_cons_self]
    · rw [adjust_cons_of_ne hk, adjust_cons_of_ne hk, adjust_cons_of_ne hk, ih]

/-- Changes under different keys can be made in either order. -/
lemma adjust_comm (h : key ≠ other) :
    adjust g other (adjust f key entries) = adjust f key (adjust g other entries) := by
  induction entries with
  | nil => rfl
  | cons entry entries ih =>
    obtain ⟨k, v⟩ := entry
    by_cases hk : k = key
    · subst hk
      rw [adjust_cons_self, adjust_cons_of_ne h, adjust_cons_of_ne h, adjust_cons_self]
    · by_cases ho : k = other
      · subst ho
        rw [adjust_cons_of_ne hk, adjust_cons_self, adjust_cons_self, adjust_cons_of_ne hk]
      · rw [adjust_cons_of_ne hk, adjust_cons_of_ne ho, adjust_cons_of_ne ho,
          adjust_cons_of_ne hk, ih]

/-- A change matters only at the value that is found under the key. -/
lemma adjust_congr (h : ∀ v, entries.lookup key = some v → f v = g v) :
    adjust f key entries = adjust g key entries := by
  induction entries with
  | nil => rfl
  | cons entry entries ih =>
    obtain ⟨k, v⟩ := entry
    by_cases hk : k = key
    · subst hk
      rw [adjust_cons_self, adjust_cons_self, h v List.lookup_cons_self]
    · rw [List.lookup_cons, beq_false_of_ne (Ne.symm hk)] at h
      rw [adjust_cons_of_ne hk, adjust_cons_of_ne hk, ih h]

/-- Adjusting a value to itself changes nothing. -/
@[simp] lemma adjust_id : adjust (fun v => v) key entries = entries := by
  induction entries with
  | nil => rfl
  | cons entry entries ih =>
    obtain ⟨k, v⟩ := entry
    by_cases hk : k = key
    · subst hk
      rw [adjust_cons_self]
    · rw [adjust_cons_of_ne hk, ih]

/-! ### Putting values in -/

/-- Inserting adds the key to the others. -/
lemma mem_keys_insert :
    other ∈ (insert entries key value).keys ↔ other ∈ entries.keys ∨ other = key := by
  induction entries with
  | nil => simp [insert]
  | cons entry entries ih =>
    obtain ⟨k, v⟩ := entry
    by_cases hk : k = key
    · subst hk
      simp only [insert, if_true, keys_cons, List.mem_cons]
      tauto
    · simp only [insert, if_neg hk, keys_cons, List.mem_cons, ih, or_assoc]

/-- Inserting adds no entry but the new one. -/
lemma mem_of_mem_insert {entry : String × α} (h : entry ∈ insert entries key value) :
    entry ∈ entries ∨ entry = (key, value) := by
  induction entries with
  | nil => exact .inr (List.mem_singleton.mp h)
  | cons first entries ih =>
    obtain ⟨k, v⟩ := first
    by_cases hk : k = key
    · subst hk
      rw [insert, if_pos rfl] at h
      rcases List.mem_cons.mp h with rfl | hrest
      · exact .inr rfl
      · exact .inl (List.mem_cons_of_mem _ hrest)
    · rw [insert, if_neg hk] at h
      rcases List.mem_cons.mp h with rfl | hrest
      · exact .inl List.mem_cons_self
      · exact (ih hrest).imp_left (List.mem_cons_of_mem _)

/-- A value under a new key goes to the end. -/
lemma insert_of_not_mem (h : key ∉ entries.keys) :
    insert entries key value = entries ++ [(key, value)] := by
  induction entries with
  | nil => rfl
  | cons entry entries ih =>
    obtain ⟨k, v⟩ := entry
    rw [keys_cons, List.mem_cons, not_or] at h
    obtain ⟨hne, hrest⟩ := h
    rw [insert, if_neg (Ne.symm hne), ih hrest, List.cons_append]

/-- No key occurs twice after putting a value in, if none did before. -/
lemma nodup_keys_insert (h : entries.keys.Nodup) : (insert entries key value).keys.Nodup := by
  induction entries with
  | nil => simp [insert]
  | cons entry entries ih =>
    obtain ⟨k, v⟩ := entry
    obtain ⟨hfresh, hrest⟩ := List.nodup_cons.mp h
    by_cases hk : k = key
    · subst hk
      simpa [insert] using h
    · simp only [insert, if_neg hk, keys_cons]
      refine List.nodup_cons.mpr ⟨fun hmem => ?_, ih hrest⟩
      rcases mem_keys_insert.mp hmem with hold | hnew
      · exact hfresh hold
      · exact hk hnew

/-- What was inserted is found under its key. -/
lemma lookup_insert_self : (insert entries key value).lookup key = some value := by
  induction entries with
  | nil => exact List.lookup_cons_self
  | cons entry entries ih =>
    obtain ⟨k, v⟩ := entry
    by_cases hk : k = key
    · subst hk
      rw [insert, if_pos rfl, List.lookup_cons_self]
    · rw [insert, if_neg hk, List.lookup_cons, beq_false_of_ne (Ne.symm hk)]
      exact ih

/-- Under other keys, the same is found as before. -/
lemma lookup_insert_of_ne (h : key ≠ other) :
    (insert entries key value).lookup other = entries.lookup other := by
  induction entries with
  | nil => rw [insert, List.lookup_cons, beq_false_of_ne (Ne.symm h)]
  | cons entry entries ih =>
    obtain ⟨k, v⟩ := entry
    by_cases hk : k = key
    · subst hk
      rw [insert, if_pos rfl, List.lookup_cons, List.lookup_cons, beq_false_of_ne (Ne.symm h)]
    · rw [insert, if_neg hk, List.lookup_cons, List.lookup_cons, ih]

/-! ### Repeated keys -/

/-- The last value under a key. -/
def last? (entries : Entries α) (key : String) : Option α := entries.reverse.lookup key

/-- In no entries, nothing is the last one under a key. -/
@[simp] lemma last?_nil : last? ([] : Entries α) key = none := rfl

/-- An entry at the end is the last one under its key, and does not matter for others. -/
lemma last?_append_singleton :
    last? (entries ++ [(other, value)]) key =
      if key = other then some value else entries.last? key := by
  rw [last?, List.reverse_append, List.reverse_singleton, List.singleton_append, List.lookup_cons]
  split
  · next h => rw [if_pos (eq_of_beq h)]
  · next h => rw [if_neg (ne_of_beq_false h), last?]

/-- Nothing is the last one under a key exactly if there is no such key. -/
lemma last?_eq_none_iff : entries.last? key = none ↔ key ∉ entries.keys := by
  rw [last?, lookup_eq_none_iff, keys, List.map_reverse, List.mem_reverse, keys]

/-- An entry after which its key does not come again is the last one. -/
lemma last?_append_cons {before after : Entries α} (h : key ∉ after.keys) :
    (before ++ (key, value) :: after).last? key = some value := by
  have hafter : after.reverse.lookup key = none := last?_eq_none_iff.mpr h
  rw [last?, List.reverse_append, List.reverse_cons, List.append_assoc, List.lookup_append, hafter,
    Option.none_or, List.singleton_append, List.lookup_cons_self]

/-- Merging inserts the entries one after the other. -/
lemma merge_append_singleton :
    merge (entries ++ [(key, value)]) = insert (merge entries) key value := by
  rw [merge, List.foldl_append]
  rfl

/-- After merging no key occurs twice. -/
lemma nodup_keys_merge (entries : Entries α) : (merge entries).keys.Nodup := by
  induction entries using List.reverseRecOn with
  | nil => exact List.nodup_nil
  | append_singleton entries entry ih =>
    rw [merge_append_singleton]
    exact nodup_keys_insert ih

/-- Merging leaves the last value under each key. -/
lemma lookup_merge (entries : Entries α) (key : String) :
    (merge entries).lookup key = entries.last? key := by
  induction entries using List.reverseRecOn with
  | nil => rfl
  | append_singleton entries entry ih =>
    rw [merge_append_singleton, last?_append_singleton]
    split
    · next h => rw [h, lookup_insert_self]
    · next h => rw [lookup_insert_of_ne (Ne.symm h), ih]

/-- Merging adds no entry. -/
lemma mem_of_mem_merge {entry : String × α} (h : entry ∈ merge entries) : entry ∈ entries := by
  induction entries using List.reverseRecOn with
  | nil => exact h
  | append_singleton entries last ih =>
    rw [merge_append_singleton] at h
    rw [List.mem_append, List.mem_singleton]
    exact (mem_of_mem_insert h).imp_left ih

/-- Entries without repeated keys are merged already. -/
lemma merge_eq_self (h : entries.keys.Nodup) : merge entries = entries := by
  induction entries using List.reverseRecOn with
  | nil => rfl
  | append_singleton entries entry ih =>
    rw [keys, List.map_append, List.nodup_append] at h
    obtain ⟨hentries, -, hfresh⟩ := h
    have hnew : entry.1 ∉ keys entries := fun hmem => hfresh _ hmem _ List.mem_cons_self rfl
    rw [merge_append_singleton, ih hentries, insert_of_not_mem hnew]

/-- Picking entries by their keys can come before inserting one. -/
lemma filter_insert (p : String → Bool) :
    (insert entries key value).filter (p ·.1) =
      if p key then insert (entries.filter (p ·.1)) key value else entries.filter (p ·.1) := by
  induction entries with
  | nil =>
    rw [insert, List.filter_singleton]
    cases p key <;> rfl
  | cons entry entries ih =>
    obtain ⟨k, v⟩ := entry
    by_cases hk : k = key
    · subst hk
      rw [insert, if_pos rfl, List.filter_cons, List.filter_cons]
      split
      · rw [insert, if_pos rfl]
      · rfl
    · rw [insert, if_neg hk, List.filter_cons, List.filter_cons, ih]
      dsimp only
      by_cases hpk : p k = true
      · rw [if_pos hpk, if_pos hpk]
        split
        · rw [insert, if_neg hk]
        · rfl
      · rw [if_neg hpk, if_neg hpk]

/-- Keys can be left out before or after merging. -/
lemma merge_filter (p : String → Bool) (entries : Entries α) :
    merge (entries.filter (p ·.1)) = (merge entries).filter (p ·.1) := by
  induction entries using List.reverseRecOn with
  | nil => rfl
  | append_singleton entries entry ih =>
    rw [merge_append_singleton, filter_insert, List.filter_append, ← ih, List.filter_singleton]
    cases p entry.1 with
    | true => exact merge_append_singleton
    | false => exact congrArg merge (List.append_nil _)

end GraphqlClient.Entries
