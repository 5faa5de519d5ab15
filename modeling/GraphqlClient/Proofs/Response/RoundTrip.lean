import GraphqlClient.Proofs.Response.Shape

/-!
# Responses there and back

A response is read back from its text as it is.  What is decoded from a value can be written as a
value that fits where that one did: it repeats no keys and nests no deeper.  So whatever has been
read can be written and read again.
-/

namespace GraphqlClient

open Json

/-! ### Values that can be read back -/

namespace Json

/-- No object in the value repeats a key, and no more than so many arrays and objects are open at
once. -/
structure FitsIn (levels : Nat) (v : Json) : Prop where
  keys : v.DistinctKeys
  depth : v.depth ≤ levels

/-- A string fits at any depth. -/
lemma fitsIn_string (levels : Nat) (s : String) : FitsIn levels (.string s) :=
  ⟨.string s, Nat.zero_le _⟩

/-- A number fits at any depth. -/
lemma fitsIn_number (levels : Nat) (n : Number) : FitsIn levels (.number n) :=
  ⟨.number n, Nat.zero_le _⟩

/-- An array fits exactly if its items do, one level further down. -/
lemma fitsIn_array_iff {levels : Nat} {items : List Json} :
    FitsIn (levels + 1) (.array items) ↔ ∀ item ∈ items, FitsIn levels item := by
  have hdepth : (array items).depth ≤ levels + 1 ↔ ∀ item ∈ items, item.depth ≤ levels := by
    rw [depth, Nat.add_le_add_iff_right, depthOfItems_le_iff]
  constructor
  · intro h item hitem
    exact ⟨distinctKeys_array_iff.mp h.keys item hitem, hdepth.mp h.depth item hitem⟩
  · intro h
    exact ⟨distinctKeys_array_iff.mpr fun item hitem => (h item hitem).keys,
      hdepth.mpr fun item hitem => (h item hitem).depth⟩

/-- An object fits exactly if it repeats no key and its values fit, one level further down. -/
lemma fitsIn_object_iff {levels : Nat} {entries : Entries Json} :
    FitsIn (levels + 1) (.object entries) ↔ entries.keys.Nodup ∧
      ∀ entry ∈ entries, FitsIn levels entry.2 := by
  have hdepth : (object entries).depth ≤ levels + 1 ↔
      ∀ entry ∈ entries, entry.2.depth ≤ levels := by
    rw [depth, Nat.add_le_add_iff_right, depthOfEntries_le_iff]
  constructor
  · intro h
    obtain ⟨hkeys, hparts⟩ := distinctKeys_object_iff.mp h.keys
    exact ⟨hkeys, fun entry hentry => ⟨hparts entry hentry, hdepth.mp h.depth entry hentry⟩⟩
  · rintro ⟨hkeys, hparts⟩
    exact ⟨distinctKeys_object_iff.mpr ⟨hkeys, fun entry hentry => (hparts entry hentry).keys⟩,
      hdepth.mpr fun entry hentry => (hparts entry hentry).depth⟩

/-- A level is left for an array. -/
lemma FitsIn.exists_of_array {levels : Nat} {items : List Json} (h : FitsIn levels (.array items)) :
    ∃ inner, levels = inner + 1 := by
  have hdepth : depthOfItems items + 1 ≤ levels := h.depth
  exact Nat.exists_eq_add_of_le' (Nat.le_of_add_left_le hdepth)

/-- An object takes a level. -/
lemma FitsIn.exists_of_object {levels : Nat} {entries : Entries Json}
    (h : FitsIn levels (.object entries)) :
    ∃ inner, levels = inner + 1 := by
  have hdepth : depthOfEntries entries + 1 ≤ levels := h.depth
  exact Nat.exists_eq_add_of_le' (Nat.le_of_add_left_le hdepth)

end Json

/-! ### Codecs -/

section

variable {α : Type} {toJson : α → Json} {decode : Json → Except ShapeError α}

/-- What is written for some value is decoded as it. -/
lemma decodeItems_map_toJson {xs : List α} (h : ∀ x ∈ xs, decode (toJson x) = .ok x) :
    decodeItems decode (.array (xs.map toJson)) = .ok xs := by
  rw [decodeItems, mapM_eq_ok_iff, List.forall₂_map_left_iff, List.forall₂_same]
  exact h

/-- Items that are printed are decoded as they were, where there may be none. -/
lemma decodeNullable_map_toJson {xs : List α} (h : ∀ x ∈ xs, decode (toJson x) = .ok x) :
    decodeNullable (decodeItems decode) (.array (xs.map toJson)) = .ok (some xs) := by
  rw [decodeNullable_of_ne_null _ Json.noConfusion, decodeItems_map_toJson h]
  rfl

/-- Items that are printed are decoded as they were. -/
lemma decodeList_map_toJson {xs : List α} (h : ∀ x ∈ xs, decode (toJson x) = .ok x) :
    decodeList decode (.array (xs.map toJson)) = .ok xs := by
  rw [decodeList, decodeNullable_map_toJson h]
  rfl

/-- A list that has been decoded is empty, or it has what was decoded from each item of an array. -/
lemma decodeList_eq_ok {v : Json} {xs : List α} (h : decodeList decode v = .ok xs) :
    xs = [] ∨ decodeItems decode v = .ok xs := by
  rw [decodeList, bind_pure_eq_ok_iff] at h
  obtain ⟨xs?, hxs, rfl⟩ := h
  by_cases hv : v = .null
  · subst hv
    cases hxs
    exact .inl rfl
  · rw [decodeNullable_of_ne_null _ hv, bind_pure_eq_ok_iff] at hxs
    obtain ⟨xs, hitems, rfl⟩ := hxs
    exact .inr hitems

/-- What is decoded item by item from an array fits where the array did, if each item does where it
came from. -/
lemma Json.FitsIn.of_decodeItems {levels : Nat} {v : Json} {xs : List α}
    (each : ∀ {levels v x}, FitsIn levels v → decode v = .ok x → FitsIn levels (toJson x))
    (hv : FitsIn levels v) (h : decodeItems decode v = .ok xs) :
    FitsIn levels (.array (xs.map toJson)) := by
  cases v with
  | null | boolean | number | string | object => cases h
  | array items =>
    obtain ⟨levels, rfl⟩ := hv.exists_of_array
    rw [fitsIn_array_iff] at hv ⊢
    intro w hw
    obtain ⟨x, hx, rfl⟩ := List.mem_map.mp hw
    obtain ⟨item, hitem, hdecode⟩ := exists_of_mem_mapM h hx
    exact each (hv item hitem) hdecode

end

/-- A map that has been decoded is empty, or it is what the entries of an object are. -/
lemma decodeMap_eq_ok {v : Json} {entries : Entries Json} (h : decodeMap v = .ok entries) :
    entries = [] ∨ v = .object entries := by
  rw [decodeMap, bind_pure_eq_ok_iff] at h
  obtain ⟨entries?, hentries, rfl⟩ := h
  cases v with
  | null =>
    cases hentries
    exact .inl rfl
  | boolean | number | string | array => cases hentries
  | object es =>
    cases hentries
    exact .inr rfl

/-- What is decoded from under a key stands for its absence, or comes from a value under it. -/
lemma Entries.decodeOr_eq_ok {β : Type} {decode : Json → Except ShapeError β} {absent x : β}
    {key : String} {entries : Entries Json} (h : entries.decodeOr decode absent key = .ok x) :
    x = absent ∨ ∃ v, (key, v) ∈ entries ∧ decode v = .ok x := by
  cases hlookup : entries.lookup key with
  | none =>
    rw [decodeOr_of_lookup_none hlookup] at h
    cases h
    exact .inl rfl
  | some v =>
    rw [decodeOr_of_lookup_some hlookup] at h
    exact .inr ⟨v, Entries.mem_of_lookup hlookup, h⟩

section

variable {α : Type} {toJson : α → Json} {decode : Json → Except ShapeError α} {levels : Nat}
    {entries : Entries Json}
  {key : String}

/-- A list from under a key is empty, or it fits where the value under the key did. -/
lemma Json.FitsIn.of_decodeOr_list {xs : List α}
    (each : ∀ {levels v x}, FitsIn levels v → decode v = .ok x → FitsIn levels (toJson x))
    (hparts : ∀ entry ∈ entries, FitsIn levels entry.2)
    (h : entries.decodeOr (decodeList decode) [] key = .ok xs) :
    xs = [] ∨ FitsIn levels (.array (xs.map toJson)) := by
  rcases Entries.decodeOr_eq_ok h with rfl | ⟨v, hv, hdecode⟩
  · exact .inl rfl
  · rcases decodeList_eq_ok hdecode with rfl | hitems
    · exact .inl rfl
    · exact .inr (.of_decodeItems each (hparts _ hv) hitems)

/-- Each item of a list from under a key is decoded from a value inside of what stands there. -/
lemma exists_of_mem_decodeOr_list {xs : List α} {x : α}
    (hparts : ∀ entry ∈ entries, FitsIn levels entry.2)
    (h : entries.decodeOr (decodeList decode) [] key = .ok xs) (hx : x ∈ xs) :
    ∃ inner v, FitsIn inner v ∧ decode v = .ok x := by
  rcases Entries.decodeOr_eq_ok h with rfl | ⟨v, hv, hdecode⟩
  · cases hx
  · rcases decodeList_eq_ok hdecode with rfl | hitems
    · cases hx
    · cases v with
      | null | boolean | number | string | object => cases hitems
      | array items =>
        have hfits := hparts _ hv
        obtain ⟨inner, rfl⟩ := hfits.exists_of_array
        obtain ⟨item, hitem, hdecode⟩ := exists_of_mem_mapM hitems hx
        exact ⟨inner, item, fitsIn_array_iff.mp hfits item hitem, hdecode⟩

/-- The items that are decoded from an entry fit where the entry did. -/
lemma Json.FitsIn.of_decodeOr_nullable {xs : List α}
    (each : ∀ {levels v x}, FitsIn levels v → decode v = .ok x → FitsIn levels (toJson x))
    (hparts : ∀ entry ∈ entries, FitsIn levels entry.2)
    (h : entries.decodeOr (decodeNullable (decodeItems decode)) none key = .ok (some xs)) :
    FitsIn levels (.array (xs.map toJson)) := by
  rcases Entries.decodeOr_eq_ok h with habsent | ⟨v, hv, hdecode⟩
  · cases habsent
  · have hne : v ≠ .null := by
      rintro rfl
      cases hdecode
    rw [decodeNullable_of_ne_null _ hne, bind_pure_eq_ok_iff] at hdecode
    obtain ⟨ys, hitems, heq⟩ := hdecode
    cases heq
    exact .of_decodeItems each (hparts _ hv) hitems

/-- The map that is decoded from an entry fits where the entry did, unless it is empty. -/
lemma Json.FitsIn.of_decodeOr_map {x : Entries Json}
    (hparts : ∀ entry ∈ entries, FitsIn levels entry.2)
    (h : entries.decodeOr decodeMap [] key = .ok x) : x = [] ∨ FitsIn levels (.object x) := by
  rcases Entries.decodeOr_eq_ok h with rfl | ⟨v, hv, hdecode⟩
  · exact .inl rfl
  · rcases decodeMap_eq_ok hdecode with rfl | rfl
    · exact .inl rfl
    · exact .inr (hparts _ hv)

/-- An empty object repeats no key. -/
lemma distinctKeys_of_empty_or_fitsIn {x : Entries Json} (h : x = [] ∨ FitsIn levels (.object x)) :
    (object x).DistinctKeys := by
  rcases h with rfl | h
  · exact .object List.nodup_nil nofun
  · exact h.keys

end

/-! ### Locations and paths -/

/-- A number that is printed is decoded as it was. -/
lemma decodeWord32_ofWord (n : UInt32) : decodeWord32 (.ofWord n.toUInt64) = .ok n := by
  have hn := n.toNat_lt
  have hsize : UInt32.size = 2 ^ 32 := rfl
  rw [ofWord, decodeWord32, UInt32.toNat_toUInt64, if_pos]
  · simp
  · simp only [Bool.and_eq_true, decide_eq_true_eq]
    omega

/-- A location that is printed is decoded as it was. -/
lemma Location.decode_toJson (l : Location) : Location.decode l.toJson = .ok l := by
  have hkeys :
      (Entries.keys [("line", ofWord l.line.toUInt64),
          ("column", ofWord l.column.toUInt64)]).Nodup := by
    simp
  rw [toJson, decode_object_eq_ok_iff hkeys]
  exact ⟨⟨_, rfl, decodeWord32_ofWord l.line⟩, _, rfl, decodeWord32_ofWord l.column⟩

/-- A step of a path that is printed is decoded as it was. -/
lemma PathElement.decode_toJson (step : PathElement) :
    PathElement.decode step.toJson = .ok step := by
  cases step with
  | key name => rfl
  | index n =>
    have hn : (0 : Int) ≤ n.toNat := Int.natCast_nonneg _
    rw [toJson, ofWord, PathElement.decode, if_pos hn]
    simp

/-- A location fits where there is one level left. -/
lemma Location.fitsIn_toJson (levels : Nat) (l : Location) : FitsIn (levels + 1) l.toJson := by
  rw [Location.toJson, fitsIn_object_iff]
  refine ⟨by simp, fun entry hentry => ?_⟩
  simp only [List.mem_cons, List.not_mem_nil, or_false] at hentry
  rcases hentry with rfl | rfl
  · exact fitsIn_number _ _
  · exact fitsIn_number _ _

/-- A location is decoded from an object or an array, so that there is room for an object. -/
lemma Json.FitsIn.of_decodeLocation {levels : Nat} {v : Json} {l : Location} (hv : FitsIn levels v)
    (h : Location.decode v = .ok l) : FitsIn levels l.toJson := by
  obtain ⟨inner, rfl⟩ : ∃ inner, levels = inner + 1 := by
    cases v with
    | null | boolean | number | string => cases h
    | array items => exact hv.exists_of_array
    | object entries => exact hv.exists_of_object
  exact l.fitsIn_toJson inner

/-- A step of a path fits at any depth. -/
lemma PathElement.fitsIn_toJson (levels : Nat) (step : PathElement) :
    FitsIn levels step.toJson := by
  cases step with
  | index n => exact fitsIn_number _ _
  | key name => exact fitsIn_string _ _

/-! ### Entries that may be left out -/

section

variable {α : Type} {key : String} {entry : String × Json}

/-- The entry for a part that may be absent. -/
def entryIfPresent (key : String) (part? : Option α) (json : α → Json) : Entries Json :=
  (part?.map fun part => (key, json part)).toList

variable {part? : Option α} {list : List α} {json : α → Json} {jsonOfList : List α → Json}

/-- The entry of a part is there exactly if the part is. -/
lemma mem_entryIfPresent_iff :
    entry ∈ entryIfPresent key part? json ↔ entry.1 = key ∧ ∃ part, part? = some part ∧
      entry.2 = json part := by
  cases part? with
  | none => simp [entryIfPresent]
  | some part => simp [entryIfPresent, Prod.ext_iff]

/-- The entry of a part has its key. -/
lemma keys_entryIfPresent_sublist : (entryIfPresent key part? json).keys.Sublist [key] := by
  cases part? with
  | none => exact List.nil_sublist _
  | some part => exact List.Sublist.refl _

/-- The entry of a list is there exactly if the list is not empty. -/
lemma mem_entryUnlessEmpty_iff :
    entry ∈ entryUnlessEmpty key list jsonOfList ↔ entry.1 = key ∧ list ≠ [] ∧
      entry.2 = jsonOfList list := by
  cases list with
  | nil => simp [entryUnlessEmpty]
  | cons x xs => simp [entryUnlessEmpty, Prod.ext_iff]

/-- The entry of a list has its key. -/
lemma keys_entryUnlessEmpty_sublist :
    (entryUnlessEmpty key list jsonOfList).keys.Sublist [key] := by
  unfold entryUnlessEmpty
  split
  · exact List.nil_sublist _
  · exact List.Sublist.refl _

variable {entries : Entries Json} {v : Json}

/-- What is left out if empty is decoded as empty if absent. -/
lemma decodeOr_unless_empty {decode : Json → Except ShapeError (List α)}
    (hkeys : entries.keys.Nodup) (hmem : ∀ w, (key, w) ∈ entries ↔ list ≠ [] ∧ w = v)
    (hdecode : decode v = .ok list) :
    entries.decodeOr decode [] key = .ok list := by
  by_cases hempty : list = []
  · have hnone : entries.lookup key = none := by
      refine Option.eq_none_iff_forall_ne_some.mpr fun w hw => ?_
      exact ((hmem w).mp (Entries.mem_of_lookup hw)).1 hempty
    rw [Entries.decodeOr_of_lookup_none hnone, hempty]
  · have hsome : entries.lookup key = some v :=
      Entries.lookup_of_mem hkeys ((hmem v).mpr ⟨hempty, rfl⟩)
    rw [Entries.decodeOr_of_lookup_some hsome, hdecode]

/-- What is left out if absent is decoded as absent. -/
lemma decodeOr_if_present {decode : Json → Except ShapeError (Option α)}
    (hkeys : entries.keys.Nodup)
    (hmem : ∀ w, (key, w) ∈ entries ↔ ∃ part, part? = some part ∧ w = json part)
    (hdecode : ∀ part, decode (json part) = .ok (some part)) :
    entries.decodeOr decode none key = .ok part? := by
  cases part? with
  | none =>
    have hnone : entries.lookup key = none := by
      refine Option.eq_none_iff_forall_ne_some.mpr fun w hw => ?_
      obtain ⟨_, hpart, -⟩ := (hmem w).mp (Entries.mem_of_lookup hw)
      cases hpart
    rw [Entries.decodeOr_of_lookup_none hnone]
  | some part =>
    have hsome : entries.lookup key = some (json part) :=
      Entries.lookup_of_mem hkeys ((hmem _).mpr ⟨part, rfl, rfl⟩)
    rw [Entries.decodeOr_of_lookup_some hsome, hdecode]

end

/-! ### Errors -/

namespace GraphqlError

/-- No object that an error holds repeats a key.  The maps of a program never do. -/
structure DistinctKeys (e : GraphqlError) : Prop where
  extensions : (Json.object e.extensions).DistinctKeys
  other : (Json.object e.other).DistinctKeys

/-- The other keys of an error are none that the format knows. -/
def KeepsApart (e : GraphqlError) : Prop := ∀ key ∈ formatKeys, key ∉ e.other.keys

/-- The entries that the parts of the format are written as. -/
def formatEntries (e : GraphqlError) : Entries Json :=
  [("message", .string e.message)] ++
    entryUnlessEmpty "locations" e.locations (fun ls => .array (ls.map Location.toJson)) ++
    entryIfPresent "path" e.path? (fun path => .array (path.map PathElement.toJson)) ++
    entryUnlessEmpty "extensions" e.extensions .object

/-- An error is printed with the entries of the format before the others. -/
lemma toJson_eq (e : GraphqlError) : e.toJson = .object (e.formatEntries ++ e.other) := rfl

/-- The entries of the format are the message and those parts that there are. -/
lemma mem_formatEntries_iff {e : GraphqlError} {entry : String × Json} :
    entry ∈ e.formatEntries ↔
      (entry.1 = "message" ∧ entry.2 = .string e.message) ∨
        (entry.1 = "locations" ∧ e.locations ≠ [] ∧
          entry.2 = .array (e.locations.map Location.toJson)) ∨
        (entry.1 = "path" ∧ ∃ path, e.path? = some path ∧
          entry.2 = .array (path.map PathElement.toJson)) ∨
        (entry.1 = "extensions" ∧ e.extensions ≠ [] ∧ entry.2 = .object e.extensions) := by
  simp only [formatEntries, List.mem_append, List.mem_singleton, mem_entryUnlessEmpty_iff,
    mem_entryIfPresent_iff, Prod.ext_iff, or_assoc]

/-- The entries of the format come in their order. -/
lemma keys_formatEntries_sublist (e : GraphqlError) : e.formatEntries.keys.Sublist formatKeys := by
  rw [formatEntries, Entries.keys, List.map_append, List.map_append, List.map_append]
  have hmessage : [("message", Json.string e.message)].map Prod.fst = ["message"] := rfl
  rw [hmessage]
  exact (((List.Sublist.refl _).append keys_entryUnlessEmpty_sublist).append
    keys_entryIfPresent_sublist).append
    keys_entryUnlessEmpty_sublist

/-- No key is written twice, if the other keys are none of the format and distinct. -/
lemma nodup_keys_entries {e : GraphqlError} (hother : e.other.keys.Nodup) (happart : e.KeepsApart) :
    (Entries.keys (e.formatEntries ++ e.other)).Nodup := by
  have hformat : formatKeys.Nodup := by decide
  rw [Entries.keys, List.map_append]
  refine (hformat.sublist e.keys_formatEntries_sublist).append hother ?_
  intro key hkey
  exact happart key (e.keys_formatEntries_sublist.subset hkey)

/-- What an error is written as repeats no key either. -/
lemma distinctKeys_toJson {e : GraphqlError} (hkeys : e.DistinctKeys) (happart : e.KeepsApart) :
    e.toJson.DistinctKeys := by
  obtain ⟨hother, hotherParts⟩ := distinctKeys_object_iff.mp hkeys.other
  rw [toJson_eq, distinctKeys_object_iff]
  refine ⟨nodup_keys_entries hother happart, ?_⟩
  rintro ⟨key, v⟩ hentry
  rcases List.mem_append.mp hentry with hformat | hrest
  · rcases mem_formatEntries_iff.mp hformat with ⟨-, rfl⟩ | ⟨-, -, rfl⟩ | ⟨-, path, -, rfl⟩
      | ⟨-, -, rfl⟩
    · exact .string _
    · exact .array (List.forall_mem_map.mpr fun l _ => (l.fitsIn_toJson 0).keys)
    · exact .array (List.forall_mem_map.mpr fun step _ => (step.fitsIn_toJson 0).keys)
    · exact hkeys.extensions
  · exact hotherParts _ hrest

/-- Under a key of the format stands what is written for the part. -/
lemma mem_entries_iff {e : GraphqlError} (happart : e.KeepsApart) {key : String}
    (hkey : key ∈ formatKeys) {v : Json} :
    (key, v) ∈ e.formatEntries ++ e.other ↔ (key, v) ∈ e.formatEntries := by
  rw [List.mem_append]
  refine or_iff_left fun hmem => ?_
  exact happart key hkey (Entries.mem_keys_of_mem hmem)

/-- What is not an entry of the format is one of the others. -/
lemma filter_entries {e : GraphqlError} (happart : e.KeepsApart) :
    (e.formatEntries ++ e.other).filter (fun entry => entry.1 ∉ formatKeys) = e.other := by
  have hformat : e.formatEntries.filter (fun entry => entry.1 ∉ formatKeys) = [] := by
    rw [List.filter_eq_nil_iff]
    intro entry hentry
    have hmem := e.keys_formatEntries_sublist.subset (Entries.mem_keys_of_mem hentry)
    simpa using hmem
  have hkept : e.other.filter (fun entry => entry.1 ∉ formatKeys) = e.other := by
    rw [List.filter_eq_self]
    intro entry hentry
    have hkey : entry.1 ∉ formatKeys :=
      fun hmem => happart entry.1 hmem (Entries.mem_keys_of_mem hentry)
    simpa using hkey
  rw [List.filter_append, hformat, hkept, List.nil_append]

/-- An error is decoded from what is written for it. -/
theorem decode_toJson {e : GraphqlError} (hkeys : e.DistinctKeys) (happart : e.KeepsApart) :
    decode e.toJson = .ok e := by
  have hnodup := nodup_keys_entries (distinctKeys_object_iff.mp hkeys.other).1 happart
  -- The own keys of the error are none of the format, so that they do not hide its parts.
  have hmem : ∀ key ∈ formatKeys, ∀ v, (key, v) ∈ e.formatEntries ++ e.other ↔
      (key, v) ∈ e.formatEntries :=
    fun key hkey v => mem_entries_iff happart hkey
  simp only [mem_formatEntries_iff] at hmem
  rw [toJson_eq, decode_object_eq_ok_iff hnodup]
  constructor
  · have hmessage : ("message", Json.string e.message) ∈ e.formatEntries ++ e.other := by
      rw [hmem "message" (by decide)]
      exact .inl ⟨rfl, rfl⟩
    rw [Entries.decodeOr_of_lookup_some (Entries.lookup_of_mem hnodup hmessage)]
    rfl
  · have hlocations : ∀ v, ("locations", v) ∈ e.formatEntries ++ e.other ↔
        e.locations ≠ [] ∧ v = .array (e.locations.map Location.toJson) := by
      intro v
      simpa using hmem "locations" (by decide) v
    exact decodeOr_unless_empty hnodup hlocations (decodeList_map_toJson fun l _ =>
      Location.decode_toJson l)
  · have hpath : ∀ v, ("path", v) ∈ e.formatEntries ++ e.other ↔
        ∃ path, e.path? = some path ∧ v = .array (path.map PathElement.toJson) := by
      intro v
      simpa using hmem "path" (by decide) v
    exact decodeOr_if_present hnodup hpath fun path =>
      decodeNullable_map_toJson fun step _ => PathElement.decode_toJson step
  · have hextensions : ∀ v, ("extensions", v) ∈ e.formatEntries ++ e.other ↔
        e.extensions ≠ [] ∧ v = .object e.extensions := by
      intro v
      simpa using hmem "extensions" (by decide) v
    exact decodeOr_unless_empty hnodup hextensions rfl
  · exact (filter_entries happart).symm

/-- What is kept of an object as the other keys of an error are none of the format. -/
lemma Decoded.keepsApart {entries : Entries Json} {e : GraphqlError} (h : Decoded entries e) :
    e.KeepsApart := by
  intro key hkey hmem
  rw [h.other] at hmem
  obtain ⟨entry, hentry, rfl⟩ := List.mem_map.mp hmem
  have hother := (List.mem_filter.mp hentry).2
  simp only [decide_eq_true_eq] at hother
  exact hother hkey

/-- An error that has been decoded can be decoded from what is written for it, which fits where it
came from. -/
lemma fitsIn_of_decode {levels : Nat} {v : Json} {e : GraphqlError} (hv : FitsIn levels v)
    (h : decode v = .ok e) :
    FitsIn levels e.toJson ∧ e.DistinctKeys ∧ e.KeepsApart := by
  cases v with
  | null | boolean | number | string | array => cases h
  | object entries =>
    obtain ⟨inner, rfl⟩ := hv.exists_of_object
    obtain ⟨hnodup, hparts⟩ := fitsIn_object_iff.mp hv
    have hdecoded := (decode_object_eq_ok_iff hnodup).mp h
    have hlocations := FitsIn.of_decodeOr_list .of_decodeLocation hparts hdecoded.locations
    have hextensions := FitsIn.of_decodeOr_map hparts hdecoded.extensions
    have hsublist : e.other.Sublist entries := by
      rw [hdecoded.other]
      exact List.filter_sublist
    have hother : e.other.keys.Nodup := hnodup.sublist (hsublist.map Prod.fst)
    have hotherParts : ∀ entry ∈ e.other, FitsIn inner entry.2 := fun entry hentry =>
      hparts entry (hsublist.subset hentry)
    have hotherFits := fitsIn_object_iff.mpr ⟨hother, hotherParts⟩
    refine ⟨?_, ⟨distinctKeys_of_empty_or_fitsIn hextensions, hotherFits.keys⟩, hdecoded.keepsApart⟩
    rw [toJson_eq, fitsIn_object_iff]
    refine ⟨nodup_keys_entries hother hdecoded.keepsApart, ?_⟩
    rintro ⟨key, w⟩ hentry
    -- What is written for a part is no deeper than what the part was decoded from, and the rest is
    -- a part of the object itself.
    rcases List.mem_append.mp hentry with hformat | hrest
    · rcases mem_formatEntries_iff.mp hformat with
        ⟨-, rfl⟩ | ⟨-, hne, rfl⟩ | ⟨-, path, hpath, rfl⟩ | ⟨-, hne, rfl⟩
      · exact fitsIn_string _ _
      · exact hlocations.resolve_left hne
      · have hdecode := hdecoded.path.trans (congrArg Except.ok hpath)
        exact .of_decodeOr_nullable (fun _ _ => PathElement.fitsIn_toJson _ _) hparts hdecode
      · exact hextensions.resolve_left hne
    · exact hotherParts _ hrest

end GraphqlError

/-! ### Responses -/

namespace Response

/-- No object that a response holds repeats a key.  The maps of a program never do. -/
structure DistinctKeys (r : Response) : Prop where
  data : ∀ data ∈ r.data?, data.DistinctKeys
  errors : ∀ e ∈ r.errors, e.DistinctKeys
  extensions : (Json.object r.extensions).DistinctKeys

/-- The entries that a response is written as. -/
def entries (r : Response) : Entries Json :=
  entryIfPresent "data" r.data? id ++
    entryUnlessEmpty "errors" r.errors (fun es => .array (es.map GraphqlError.toJson)) ++
    entryUnlessEmpty "extensions" r.extensions .object

/-- A response is printed as the object of its entries. -/
lemma toJson_eq (r : Response) : r.toJson = .object r.entries := rfl

/-- The entries of a response are those parts that there are. -/
lemma mem_entries_iff {r : Response} {key : String} {v : Json} :
    (key, v) ∈ r.entries ↔
      (key = "data" ∧ r.data? = some v) ∨
        (key = "errors" ∧ r.errors ≠ [] ∧ v = .array (r.errors.map GraphqlError.toJson)) ∨
        (key = "extensions" ∧ r.extensions ≠ [] ∧ v = .object r.extensions) := by
  simp only [entries, List.mem_append, mem_entryUnlessEmpty_iff, mem_entryIfPresent_iff,
    id_eq, or_assoc, exists_eq_right']

/-- No key is repeated in the entries of a response. -/
lemma nodup_keys_entries (r : Response) : r.entries.keys.Nodup := by
  have hsublist : r.entries.keys.Sublist ["data", "errors", "extensions"] := by
    rw [entries, Entries.keys, List.map_append, List.map_append]
    exact (keys_entryIfPresent_sublist.append keys_entryUnlessEmpty_sublist).append
      keys_entryUnlessEmpty_sublist
  exact List.Nodup.sublist hsublist (by decide)

/-- A response is made of the entries that it is written as. -/
theorem ofEntries_entries {r : Response} (hkeys : r.DistinctKeys)
    (happart : ∀ e ∈ r.errors, e.KeepsApart) :
    ofEntries r.entries = .ok r := by
  have hnodup := r.nodup_keys_entries
  rw [ofEntries_eq_ok_iff hnodup]
  constructor
  · refine Option.ext fun v => ?_
    rw [Entries.lookup_eq_some_iff hnodup, mem_entries_iff]
    simp
  · have herrors : ∀ v, ("errors", v) ∈ r.entries ↔
        r.errors ≠ [] ∧ v = .array (r.errors.map GraphqlError.toJson) := by
      intro v
      rw [mem_entries_iff]
      simp
    exact decodeOr_unless_empty hnodup herrors (decodeList_map_toJson fun e he =>
      GraphqlError.decode_toJson (hkeys.errors e he) (happart e he))
  · have hextensions : ∀ v, ("extensions", v) ∈ r.entries ↔ r.extensions ≠ [] ∧
        v = .object r.extensions := by
      intro v
      rw [mem_entries_iff]
      simp
    exact decodeOr_unless_empty hnodup hextensions rfl

/-- What a response is written as repeats no key. -/
lemma distinctKeys_toJson {r : Response} (hkeys : r.DistinctKeys)
    (happart : ∀ e ∈ r.errors, e.KeepsApart) :
    r.toJson.DistinctKeys := by
  rw [toJson_eq, distinctKeys_object_iff]
  refine ⟨r.nodup_keys_entries, ?_⟩
  rintro ⟨key, v⟩ hentry
  rcases mem_entries_iff.mp hentry with ⟨-, hv⟩ | ⟨-, -, rfl⟩ | ⟨-, -, rfl⟩
  · exact hkeys.data v hv
  · exact .array (List.forall_mem_map.mpr fun e he =>
      GraphqlError.distinctKeys_toJson (hkeys.errors e he) (happart e he))
  · exact hkeys.extensions

/-- A response that is made of the entries of an object repeats no keys, and what is written for it
fits where the object did. -/
lemma fitsIn_of_ofEntries {levels : Nat} {entries : Entries Json} {r : Response}
    (hv : FitsIn levels (.object entries)) (h : ofEntries entries = .ok r) :
    FitsIn levels r.toJson ∧ r.DistinctKeys ∧ ∀ e ∈ r.errors, e.KeepsApart := by
  obtain ⟨inner, rfl⟩ := hv.exists_of_object
  obtain ⟨hnodup, hparts⟩ := fitsIn_object_iff.mp hv
  have hdecoded := (ofEntries_eq_ok_iff hnodup).mp h
  have hdata : ∀ data ∈ r.data?, FitsIn inner data := by
    intro data hmem
    rw [hdecoded.data] at hmem
    exact hparts _ (Entries.mem_of_lookup hmem)
  have herrors := FitsIn.of_decodeOr_list (fun hv h => (GraphqlError.fitsIn_of_decode hv h).1)
    hparts hdecoded.errors
  have heach : ∀ e ∈ r.errors, e.DistinctKeys ∧ e.KeepsApart := by
    intro e he
    obtain ⟨_, v, hv, hdecode⟩ := exists_of_mem_decodeOr_list hparts hdecoded.errors he
    exact (GraphqlError.fitsIn_of_decode hv hdecode).2
  have hextensions := FitsIn.of_decodeOr_map hparts hdecoded.extensions
  refine ⟨?_, ⟨fun data hmem => (hdata data hmem).keys, fun e he => (heach e he).1,
    distinctKeys_of_empty_or_fitsIn hextensions⟩, fun e he => (heach e he).2⟩
  rw [toJson_eq, fitsIn_object_iff]
  refine ⟨r.nodup_keys_entries, ?_⟩
  rintro ⟨key, v⟩ hentry
  rcases mem_entries_iff.mp hentry with ⟨-, hv⟩ | ⟨-, hne, rfl⟩ | ⟨-, hne, rfl⟩
  · exact hdata v hv
  · exact herrors.resolve_left hne
  · exact hextensions.resolve_left hne

/-- A response is read back from its text as it is, and whatever has been read is such a
response. -/
theorem ofBytes_text :
    (∀ r : Response, r.DistinctKeys → (∀ e ∈ r.errors, e.KeepsApart) → r.toJson.depth ≤ 127 →
      ofBytes (bytesOf r.toJson.text) = .ok r) ∧
    ∀ (body : Bytes) (r : Response), ofBytes body = .ok r →
      r.DistinctKeys ∧ (∀ e ∈ r.errors, e.KeepsApart) ∧ r.toJson.depth ≤ 127 ∧
        ofBytes (bytesOf r.toJson.text) = .ok r := by
  have hback : ∀ r : Response, r.DistinctKeys → (∀ e ∈ r.errors, e.KeepsApart) →
      r.toJson.depth ≤ 127 →
      ofBytes (bytesOf r.toJson.text) = .ok r := by
    intro r hkeys happart hdepth
    have hparse := parse_text (distinctKeys_toJson hkeys happart) hdepth
    exact ofBytes_eq_ok_iff.mpr ⟨r.entries, hparse, ofEntries_entries hkeys happart⟩
  refine ⟨hback, fun body r h => ?_⟩
  obtain ⟨entries, hparse, hentries⟩ := ofBytes_eq_ok_iff.mp h
  obtain ⟨text, raw, -, -, hdepth, hcollapsed⟩ := parse_eq_ok_iff.mp hparse
  have hfits : FitsIn 127 (.object entries) := by
    rw [← hcollapsed]
    exact ⟨distinctKeys_collapsed raw, (depth_collapsed_le raw).trans hdepth⟩
  obtain ⟨hjson, hkeys, happart⟩ := fitsIn_of_ofEntries hfits hentries
  exact ⟨hkeys, happart, hjson.depth, hback r hkeys happart hjson.depth⟩

/-- A response whose data is null, with an error that has an empty path and keys of its own, and an
error whose path has an index and a key that looks like one. -/
theorem ofBytes_text_null_data :
    let r : Response :=
      { data? := some .null
        errors :=
          [{ message := "denied", locations := [⟨1, 2⟩], path? := some [], extensions := [],
             other := [("type", .string "Auth"), ("codes", .array [.null])] },
           { message := "", locations := [], path? := some [.index 0, .key "0"], extensions := [],
             other := [] }]
        extensions := [("cost", .ofWord 3)] }
    ofBytes (bytesOf r.toJson.text) = .ok r ∧ r.DistinctKeys := by
  intro r
  have hkeys : r.DistinctKeys := by
    refine ⟨?_, ?_, .object (by decide) ?_⟩
    · rintro _ ⟨⟩
      exact .null
    · simp only [r, List.forall_mem_cons]
      refine ⟨⟨.object List.nodup_nil nofun, .object (by decide) ?_⟩,
        ⟨.object List.nodup_nil nofun, .object List.nodup_nil nofun⟩, nofun⟩
      simp only [List.forall_mem_cons]
      refine ⟨.string _, .array ?_, nofun⟩
      simpa using Json.DistinctKeys.null
    · simp only [r, List.forall_mem_cons]
      exact ⟨.number _, nofun⟩
  have happart : ∀ e ∈ r.errors, e.KeepsApart := by
    simp only [r, List.forall_mem_cons, GraphqlError.KeepsApart]
    exact ⟨by decide, by decide, nofun⟩
  have hread := ofBytes_text.1 r hkeys happart (by decide)
  exact ⟨hread, (ofBytes_text.2 _ r hread).1⟩

end Response

end GraphqlClient
