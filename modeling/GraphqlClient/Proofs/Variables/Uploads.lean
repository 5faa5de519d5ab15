import GraphqlClient.Proofs.Variables.Path

/-!
# Uploads in variables

Where the uploads in variables are, and what comes of writing at several of these places in turn.
No path to an upload leads on to another one, so that the order of the writes does not matter and
each of them can be undone (`Variable.writeAll_restore`).
-/

namespace GraphqlClient

namespace Variable

/-! ### Distinct keys -/

/-- No object in the variable has two fields with one key.  The fields of an object are a map, in
which setting a key again changes its value (`Entries.nodup_keys_insert`). -/
inductive DistinctKeys : Variable → Prop
  | value (json : Json) : DistinctKeys (.value json)
  | list {items : List Variable} (parts : ∀ item ∈ items, DistinctKeys item) :
      DistinctKeys (.list items)
  | object {fields : Entries Variable} (keys : fields.keys.Nodup)
      (parts : ∀ field ∈ fields, DistinctKeys field.2) : DistinctKeys (.object fields)
  | upload (file : Upload) : DistinctKeys (.upload file)

/-- The keys of items are their indices. -/
lemma mem_keys_keyed {index : Nat} {items : List Variable} {key : String}
    (h : key ∈ (keyed index items).keys) : ∃ i, index ≤ i ∧ key = toString i := by
  induction items generalizing index with
  | nil => cases h
  | cons item items ih =>
    rcases List.mem_cons.mp h with rfl | hrest
    · exact ⟨index, Nat.le_refl _, rfl⟩
    · obtain ⟨i, hi, rfl⟩ := ih hrest
      exact ⟨i, Nat.le_of_succ_le hi, rfl⟩

/-- No two items of a list have the same index in digits. -/
lemma nodup_keys_keyed (index : Nat) (items : List Variable) : (keyed index items).keys.Nodup := by
  induction items generalizing index with
  | nil => exact List.nodup_nil
  | cons item items ih =>
    refine List.nodup_cons.mpr ⟨fun hmem => ?_, ih (index + 1)⟩
    obtain ⟨i, hi, heq⟩ := mem_keys_keyed hmem
    have hindex : index = i := Nat.repr_inj.mp heq
    omega

/-- What stands under an index is an item. -/
lemma mem_of_mem_keyed {index : Nat} {items : List Variable} {entry : String × Variable}
    (h : entry ∈ keyed index items) : entry.2 ∈ items := by
  have hmem := List.mem_map_of_mem (f := (·.2)) h
  rwa [map_snd_keyed] at hmem

/-- A variable that repeats no key has no two entries with one key. -/
lemma DistinctKeys.nodup_keys_entries {v : Variable} (h : v.DistinctKeys) :
    v.entries.keys.Nodup := by
  cases h with
  | list => exact nodup_keys_keyed 0 _
  | object keys => exact keys
  | _ => exact List.nodup_nil

/-- The entries of a variable that repeats no key repeat none. -/
lemma DistinctKeys.of_mem_entries {v : Variable} (h : v.DistinctKeys) {entry : String × Variable}
    (hentry : entry ∈ v.entries) : entry.2.DistinctKeys := by
  cases h with
  | list parts => exact parts _ (mem_of_mem_keyed hentry)
  | object _ parts => exact parts _ hentry
  | _ => cases hentry

/-! ### Places of uploads -/

/-- Uploads with the paths to them, where all paths start further out. -/
def under (start : Path) (uploads : List (Path × Upload)) : List (Path × Upload) :=
  uploads.map fun (path, file) => (start ++ path, file)

mutual

/-- The uploads in a variable, from left to right, with the paths to them. -/
def uploads : Variable → List (Path × Upload)
  | .value _ => []
  | .list items => uploadsOfItems 0 items
  | .object fields => uploadsOfFields fields
  | .upload file => [([], file)]

def uploadsOfItems (index : Nat) : List Variable → List (Path × Upload)
  | [] => []
  | item :: items => under [toString index] item.uploads ++ uploadsOfItems (index + 1) items

def uploadsOfFields : List (String × Variable) → List (Path × Upload)
  | [] => []
  | (key, field) :: fields => under [key] field.uploads ++ uploadsOfFields fields

end

/-- The uploads in items are those in fields that are named by the indices. -/
lemma uploadsOfItems_eq (index : Nat) (items : List Variable) :
    uploadsOfItems index items = uploadsOfFields (keyed index items) := by
  induction items generalizing index with
  | nil => rfl
  | cons item items ih => rw [uploadsOfItems, keyed, uploadsOfFields, ih]

variable {v : Variable} {fields : Entries Variable} {path p q : Path} {file : Upload}

/-- An upload under a start has a longer path. -/
lemma under_singleton (start path : Path) (file : Upload) :
    under start [(path, file)] = [(start ++ path, file)] := rfl

/-- Two lists of uploads under a start are one list under it. -/
lemma under_append (start : Path) (us us' : List (Path × Upload)) :
    under start (us ++ us') = under start us ++ under start us' := List.map_append

/-- Uploads under a start may be reversed before or after. -/
lemma reverse_under (start : Path) (us : List (Path × Upload)) :
    (under start us).reverse = under start us.reverse := List.map_reverse.symm

/-- One start after the other is one start. -/
lemma under_under (start start' : Path) (us : List (Path × Upload)) :
    under start (under start' us) = under (start ++ start') us := by
  unfold under
  rw [List.map_map]
  exact List.map_congr_left fun ⟨path, file⟩ _ => by simp

/-- The paths of uploads under a start begin with it. -/
lemma map_fst_under (start : Path) (us : List (Path × Upload)) :
    (under start us).map (·.1) = (us.map (·.1)).map (start ++ ·) := by
  unfold under
  rw [List.map_map, List.map_map]
  rfl

/-- What is under a start is an upload whose path begins with it. -/
lemma mem_under {start : Path} {us : List (Path × Upload)} :
    (path, file) ∈ under start us ↔ ∃ rest, path = start ++ rest ∧ (rest, file) ∈ us := by
  unfold under
  rw [List.mem_map]
  constructor
  · rintro ⟨⟨rest, file⟩, hmem, heq⟩
    cases heq
    exact ⟨rest, rfl, hmem⟩
  · rintro ⟨rest, rfl, hmem⟩
    exact ⟨_, hmem, rfl⟩

/-- An upload in fields is an upload in one of them. -/
lemma mem_uploadsOfFields :
    (path, file) ∈ uploadsOfFields fields ↔
      ∃ segment rest part, path = segment :: rest ∧ (segment, part) ∈ fields ∧
        (rest, file) ∈ part.uploads := by
  induction fields with
  | nil => simp [uploadsOfFields]
  | cons field fields ih =>
    obtain ⟨key, part⟩ := field
    rw [uploadsOfFields, List.mem_append, mem_under, ih]
    constructor
    · rintro (⟨rest, rfl, hmem⟩ | ⟨segment, rest, part', rfl, hpart, hmem⟩)
      · exact ⟨key, rest, part, rfl, List.mem_cons_self, hmem⟩
      · exact ⟨segment, rest, part', rfl, List.mem_cons_of_mem _ hpart, hmem⟩
    · rintro ⟨segment, rest, part', rfl, hpart, hmem⟩
      rcases List.mem_cons.mp hpart with heq | hpart
      · cases heq
        exact .inl ⟨rest, rfl, hmem⟩
      · exact .inr ⟨segment, rest, part', rfl, hpart, hmem⟩

/-- The empty path leads to an upload only if the variable is one. -/
lemma nil_mem_uploads_iff : ([], file) ∈ v.uploads ↔ v = .upload file := by
  cases v with
  | value json => simp [uploads]
  | list items => simp [uploads, uploadsOfItems_eq, mem_uploadsOfFields]
  | object fields => simp [uploads, mem_uploadsOfFields]
  | upload file' => simp [uploads, eq_comm]

/-- Another path leads to an upload in the part that its first segment leads to. -/
lemma cons_mem_uploads_iff {segment : String} {rest : Path} :
    (segment :: rest, file) ∈ v.uploads ↔
      ∃ part, (segment, part) ∈ v.entries ∧ (rest, file) ∈ part.uploads := by
  have hfields : ∀ fields, (segment :: rest, file) ∈ uploadsOfFields fields ↔
      ∃ part, (segment, part) ∈ fields ∧ (rest, file) ∈ part.uploads := by
    intro fields
    rw [mem_uploadsOfFields]
    constructor
    · rintro ⟨segment, rest, part, heq, h⟩
      cases heq
      exact ⟨part, h⟩
    · rintro ⟨part, h⟩
      exact ⟨segment, rest, part, rfl, h⟩
  cases v with
  | value json => simp [uploads, entries]
  | list items => rw [uploads, uploadsOfItems_eq, hfields, entries]
  | object fields => rw [uploads, hfields, entries]
  | upload file' => simp [uploads, entries]

/-- The uploads are what can be read as one. -/
theorem mem_uploads_iff (h : v.DistinctKeys) :
    (path, file) ∈ v.uploads ↔ v.read? path = some (.upload file) := by
  induction path generalizing v with
  | nil => rw [nil_mem_uploads_iff, read?_nil, Option.some.injEq]
  | cons segment rest ih =>
    rw [cons_mem_uploads_iff, read?_cons, Option.bind_eq_some_iff]
    constructor
    · rintro ⟨part, hpart, hmem⟩
      exact ⟨part, Entries.lookup_of_mem h.nodup_keys_entries hpart,
        (ih (h.of_mem_entries hpart)).mp hmem⟩
    · rintro ⟨part, hpart, hread⟩
      have hentry := Entries.mem_of_lookup hpart
      exact ⟨part, hentry, (ih (h.of_mem_entries hentry)).mpr hread⟩

/-! ### Paths to uploads -/

/-- The uploads in fields have different paths if those in each field have. -/
lemma nodup_paths_uploadsOfFields (hkeys : fields.keys.Nodup)
    (hparts : ∀ field ∈ fields, (field.2.uploads.map (·.1)).Nodup) :
    ((uploadsOfFields fields).map (·.1)).Nodup := by
  induction fields with
  | nil => exact List.nodup_nil
  | cons field fields ih =>
    obtain ⟨key, part⟩ := field
    obtain ⟨hfresh, hrest⟩ := List.nodup_cons.mp hkeys
    rw [uploadsOfFields, List.map_append, List.nodup_append]
    refine ⟨?_, ih hrest fun field hfield => hparts field (List.mem_cons_of_mem _ hfield), ?_⟩
    · rw [map_fst_under]
      exact (hparts (key, part) List.mem_cons_self).map (List.append_right_injective [key])
    · intro p hp q hq heq
      obtain ⟨⟨_, file⟩, hfirst, rfl⟩ := List.mem_map.mp hp
      obtain ⟨⟨_, file'⟩, hlater, rfl⟩ := List.mem_map.mp hq
      obtain ⟨rest, rfl, -⟩ := mem_under.mp hfirst
      obtain ⟨segment, rest', part', rfl, hmem, -⟩ := mem_uploadsOfFields.mp hlater
      obtain rfl := (List.cons.inj heq).1
      exact hfresh (Entries.mem_keys_of_mem hmem)

/-- No two uploads are at the end of one path. -/
theorem nodup_paths_uploads (h : v.DistinctKeys) : (v.uploads.map (·.1)).Nodup := by
  induction h with
  | value => exact List.nodup_nil
  | list parts ih =>
    rw [uploads, uploadsOfItems_eq]
    exact nodup_paths_uploadsOfFields (nodup_keys_keyed 0 _) fun entry hentry =>
      ih _ (mem_of_mem_keyed hentry)
  | object keys parts ih =>
    rw [uploads]
    exact nodup_paths_uploadsOfFields keys ih
  | upload => exact List.nodup_singleton _

/-- What is found along a path is found along its two halves in turn. -/
lemma read?_append (v : Variable) (p q : Path) :
    v.read? (p ++ q) = (v.read? p).bind (read? · q) := by
  induction p generalizing v with
  | nil => rw [List.nil_append, read?_nil, Option.bind_some]
  | cons segment p ih =>
    rw [List.cons_append, read?_cons, read?_cons, Option.bind_assoc]
    simp only [ih]

/-- A path that leads to a part of an upload leads to the upload itself. -/
lemma eq_of_prefix_of_read? {file file' : Upload} (hp : v.read? p = some (.upload file))
    (hq : v.read? q = some (.upload file')) (hstart : p <+: q) : p = q := by
  obtain ⟨rest, rfl⟩ := hstart
  rw [read?_append, hp, Option.bind_some] at hq
  cases rest with
  | nil => rw [List.append_nil]
  | cons segment rest => cases hq

/-- The paths to two uploads are the same or independent. -/
lemma independent_of_read? {file file' : Upload} (hp : v.read? p = some (.upload file))
    (hq : v.read? q = some (.upload file')) (hne : p ≠ q) : p.Independent q :=
  ⟨fun hstart => hne (eq_of_prefix_of_read? hp hq hstart),
    fun hstart => hne (eq_of_prefix_of_read? hq hp hstart).symm⟩

/-- The paths to the uploads are independent of each other. -/
theorem pairwise_independent_uploads (h : v.DistinctKeys) :
    (v.uploads.map (·.1)).Pairwise Path.Independent := by
  have hnodup := nodup_paths_uploads h
  refine hnodup.imp_of_mem fun {p q} hp hq hne => ?_
  obtain ⟨⟨_, file⟩, hfile, rfl⟩ := List.mem_map.mp hp
  obtain ⟨⟨_, file'⟩, hfile', rfl⟩ := List.mem_map.mp hq
  exact independent_of_read? ((mem_uploads_iff h).mp hfile) ((mem_uploads_iff h).mp hfile') hne

/-! ### Writing at several places -/

/-- Writes parts at the ends of their paths, one after the other. -/
def writeAll (v : Variable) (parts : List (Path × Variable)) : Variable :=
  parts.foldl (fun v part => write part.2 v part.1) v

variable {parts : List (Path × Variable)} {new : Variable}

/-- Parts are written one after the other. -/
lemma writeAll_cons (v : Variable) (part : Path × Variable) (parts : List (Path × Variable)) :
    v.writeAll (part :: parts) = (write part.2 v part.1).writeAll parts := rfl

/-- Nothing changes at the end of a path that is independent of all that are written at. -/
lemma read?_writeAll_of_independent (h : ∀ part ∈ parts, part.1.Independent p) :
    (v.writeAll parts).read? p = v.read? p := by
  induction parts generalizing v with
  | nil => rfl
  | cons part parts ih =>
    obtain ⟨hpart, hparts⟩ := List.forall_mem_cons.mp h
    rw [writeAll_cons, ih hparts, read?_write_of_independent hpart]

/-- A write at the end of such a path can be made before or after. -/
lemma write_writeAll_comm (h : ∀ part ∈ parts, part.1.Independent p) :
    write new (v.writeAll parts) p = (write new v p).writeAll parts := by
  induction parts generalizing v with
  | nil => rfl
  | cons part parts ih =>
    obtain ⟨hpart, hparts⟩ := List.forall_mem_cons.mp h
    rw [writeAll_cons, writeAll_cons, ih hparts, write_comm hpart]

/-- Writes at the ends of independent paths can be made in any order. -/
lemma writeAll_perm {parts' : List (Path × Variable)} (h : parts.Perm parts')
    (hindependent : (parts.map (·.1)).Pairwise Path.Independent) :
    v.writeAll parts = v.writeAll parts' := by
  have hpairs := List.pairwise_map.mp hindependent
  have hsymm : Std.Symm fun a b : Path × Variable => a.1.Independent b.1 :=
    ⟨fun _ _ hab => hab.symm⟩
  refine h.foldl_eq' ?_ v
  intro a ha b hb u
  by_cases hab : a = b
  · rw [hab]
  · exact write_comm (hpairs.forall ha hb hab)

/-- The part at the end of each path is the one that was written there. -/
lemma read?_writeAll_of_mem (hindependent : (parts.map (·.1)).Pairwise Path.Independent)
    (hread : ∀ part ∈ parts, ∃ old, v.read? part.1 = some old) {part : Path × Variable}
    (hpart : part ∈ parts) : (v.writeAll parts).read? part.1 = some part.2 := by
  induction parts generalizing v with
  | nil => cases hpart
  | cons first parts ih =>
    rw [List.map_cons, List.pairwise_cons] at hindependent
    obtain ⟨hfirst, hrest⟩ := hindependent
    have hparts : ∀ other ∈ parts, first.1.Independent other.1 := fun other hother =>
      hfirst other.1 (List.mem_map_of_mem hother)
    rw [writeAll_cons]
    rcases List.mem_cons.mp hpart with rfl | hpart
    · obtain ⟨old, hold⟩ := hread _ List.mem_cons_self
      rw [read?_writeAll_of_independent fun other hother => (hparts other hother).symm,
        read?_write_self hold]
    · refine ih hrest (fun other hother => ?_) hpart
      rw [read?_write_of_independent (hparts other hother)]
      exact hread other (List.mem_cons_of_mem _ hother)

/-- What was written at the same places before does not count. -/
lemma writeAll_overwrite (old : Variable)
    (hindependent : (parts.map (·.1)).Pairwise Path.Independent) :
    (v.writeAll (parts.map fun part => (part.1, old))).writeAll parts = v.writeAll parts := by
  induction parts generalizing v with
  | nil => rfl
  | cons first parts ih =>
    rw [List.map_cons, List.pairwise_cons] at hindependent
    obtain ⟨hfirst, hrest⟩ := hindependent
    have hothers : ∀ other ∈ parts.map (fun part => (part.1, old)),
        other.1.Independent first.1 := by
      intro other hother
      obtain ⟨part, hpart, rfl⟩ := List.mem_map.mp hother
      exact (hfirst part.1 (List.mem_map_of_mem hpart)).symm
    -- The first new part is written at once, and there the variable is as without the old one.
    rw [List.map_cons, writeAll_cons, writeAll_cons, writeAll_cons, write_writeAll_comm hothers,
      write_write_self]
    exact ih hrest

/-- Writing what is there at all places changes nothing. -/
lemma writeAll_eq_self (hread : ∀ part ∈ parts, v.read? part.1 = some part.2) :
    v.writeAll parts = v := by
  induction parts with
  | nil => rfl
  | cons first parts ih =>
    obtain ⟨hfirst, hrest⟩ := List.forall_mem_cons.mp hread
    rw [writeAll_cons, write_eq_self hfirst]
    exact ih hrest

/-- Writing the old parts back undoes all writes. -/
theorem writeAll_restore (new : Variable)
    (hindependent : (parts.map (·.1)).Pairwise Path.Independent)
    (hread : ∀ part ∈ parts, v.read? part.1 = some part.2) :
    (v.writeAll (parts.map fun part => (part.1, new))).writeAll parts = v := by
  rw [writeAll_overwrite new hindependent, writeAll_eq_self hread]

end Variable

end GraphqlClient
