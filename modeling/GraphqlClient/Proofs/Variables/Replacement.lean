import GraphqlClient.Proofs.Variables.Uploads

/-!
# Something else in place of uploads

What stands in place of an upload may depend on the path to it (`Variable.replaceUploads`).  Going
down the variable and writing at the paths to all uploads come to the same
(`Variable.writeAll_uploads`): a write below one entry leaves the others alone, so that the entries
can be gone through in order.
-/

namespace GraphqlClient.Variable

mutual

/-- The variable with something else in place of every upload, by the path to it. -/
def replaceUploads (new : Path → Variable) : Variable → Variable
  | .value json => .value json
  | .list items => .list (replaceInItems new 0 items)
  | .object fields => .object (replaceInFields new fields)
  | .upload _ => new []

def replaceInItems (new : Path → Variable) (index : Nat) : List Variable → List Variable
  | [] => []
  | item :: items =>
    item.replaceUploads (fun path => new (toString index :: path)) ::
      replaceInItems new (index + 1) items

def replaceInFields (new : Path → Variable) : List (String × Variable) → List (String × Variable)
  | [] => []
  | (key, field) :: fields =>
    (key, field.replaceUploads fun path => new (key :: path)) :: replaceInFields new fields

end

/-- Uploads in items are replaced as in fields that are named by the indices. -/
lemma map_snd_replaceInFields_keyed (new : Path → Variable) (index : Nat) (items : List Variable) :
    (replaceInFields new (keyed index items)).map (·.2) = replaceInItems new index items := by
  induction items generalizing index with
  | nil => rfl
  | cons item items ih => rw [keyed, replaceInFields, List.map_cons, ih, replaceInItems]

/-! ### Writing below entries -/

variable {v : Variable} {es : Entries Variable} {key : String}

/-- Two lists of parts are written one after the other. -/
lemma writeAll_append (v : Variable) (parts parts' : List (Path × Variable)) :
    v.writeAll (parts ++ parts') = (v.writeAll parts).writeAll parts' := List.foldl_append

/-- Parts that are written further in, below a key. -/
def partsUnder (key : String) (parts : List (Path × Variable)) : List (Path × Variable) :=
  parts.map fun part => (key :: part.1, part.2)

/-- Writes below the first key change the first entry. -/
lemma writeAll_partsUnder_head (v part : Variable) (es : Entries Variable)
    (parts : List (Path × Variable)) (hkeys : key :: es.keys = v.entries.keys) :
    (v.withEntries ((key, part) :: es)).writeAll (partsUnder key parts) =
      v.withEntries ((key, part.writeAll parts) :: es) := by
  induction parts generalizing part with
  | nil => rfl
  | cons first parts ih =>
    have hentries : (v.withEntries ((key, part) :: es)).entries = (key, part) :: es :=
      entries_withEntries hkeys
    have hparts : partsUnder key (first :: parts) = (key :: first.1, first.2) ::
      partsUnder key parts := rfl
    rw [hparts, writeAll_cons, write_cons, hentries, Entries.adjust_cons_self,
      withEntries_withEntries, ih, writeAll_cons]

/-- Writes below other keys leave the first entry as it is. -/
lemma writeAll_tail (v part : Variable) {es es' : Entries Variable} {parts : List (Path × Variable)}
    (hkeys : key :: es.keys = v.entries.keys)
    (hparts : ∀ p ∈ parts, ∃ segment rest, p.1 = segment :: rest ∧ key ≠ segment)
    (h : (Variable.object es).writeAll parts = .object es') :
    (v.withEntries ((key, part) :: es)).writeAll parts = v.withEntries ((key, part) :: es') := by
  induction parts generalizing es with
  | nil =>
    obtain rfl := Variable.object.inj h
    rfl
  | cons p parts ih =>
    obtain ⟨path, new⟩ := p
    obtain ⟨⟨segment, rest, hpath, hne⟩, hrest⟩ := List.forall_mem_cons.mp hparts
    obtain rfl : path = segment :: rest := hpath
    have hentries : (v.withEntries ((key, part) :: es)).entries = (key, part) :: es :=
      entries_withEntries hkeys
    have hkeys' : key :: (es.adjust (write new · rest) segment).keys = v.entries.keys := by
      rw [Entries.keys_adjust, hkeys]
    rw [writeAll_cons, write_cons, hentries, Entries.adjust_cons_of_ne hne, withEntries_withEntries]
    -- The keys stay the same under all writes, so that the first entry stays the first.
    refine ih hkeys' hrest ?_
    rwa [writeAll_cons, write_cons] at h

/-! ### Writing at the paths to uploads -/

/-- What is to be written at the paths to some uploads. -/
def replacements (new : Path → Variable) (us : List (Path × Upload)) : List (Path × Variable) :=
  us.map fun u => (u.1, new u.1)

/-- The replacements for two lists of uploads are those for each. -/
lemma replacements_append (new : Path → Variable) (us us' : List (Path × Upload)) :
    replacements new (us ++ us') = replacements new us ++ replacements new us' := List.map_append

/-- The replacements for uploads under a key are parts under that key. -/
lemma replacements_under (new : Path → Variable) (key : String) (us : List (Path × Upload)) :
    replacements new (under [key] us) =
      partsUnder key (replacements (fun path => new (key :: path)) us) := by
  unfold replacements under partsUnder
  rw [List.map_map, List.map_map]
  rfl

/-- Something else at the paths to all uploads below some entries, if the same holds for each of
them. -/
lemma writeAll_uploadsOfFields (new : Path → Variable) (v : Variable) (es : Entries Variable)
    (hkeys : es.keys = v.entries.keys) (hnodup : es.keys.Nodup)
    (hparts : ∀ e ∈ es, ∀ new, e.2.writeAll (replacements new e.2.uploads) =
      e.2.replaceUploads new) :
    (v.withEntries es).writeAll (replacements new (uploadsOfFields es)) =
      v.withEntries (replaceInFields new es) := by
  induction es generalizing v with
  | nil => rfl
  | cons e es ih =>
    obtain ⟨key, part⟩ := e
    obtain ⟨hfresh, hrest⟩ := List.nodup_cons.mp hnodup
    obtain ⟨hpart, hothers⟩ := List.forall_mem_cons.mp hparts
    -- The other entries are looked at as an object of their own.
    have hobject : (Variable.object es).writeAll (replacements new (uploadsOfFields es)) =
        .object (replaceInFields new es) := ih (.object es) rfl hrest hothers
    have hpaths : ∀ p ∈ replacements new (uploadsOfFields es),
        ∃ segment rest, p.1 = segment :: rest ∧ key ≠ segment := by
      intro p hp
      obtain ⟨⟨path, file⟩, hmem, rfl⟩ := List.mem_map.mp hp
      obtain ⟨segment, rest, other, rfl, hother, -⟩ := mem_uploadsOfFields.mp hmem
      refine ⟨segment, rest, rfl, ?_⟩
      rintro rfl
      exact hfresh (Entries.mem_keys_of_mem hother)
    have hfirst : part.writeAll (replacements (fun path => new (key :: path)) part.uploads) =
        part.replaceUploads fun path => new (key :: path) := hpart _
    rw [uploadsOfFields, replacements_append, writeAll_append, replacements_under,
      writeAll_partsUnder_head v part es _ hkeys, hfirst, replaceInFields]
    exact writeAll_tail v _ hkeys hpaths hobject

/-- Writing at the paths to all uploads puts something else in their place. -/
theorem writeAll_uploads (h : v.DistinctKeys) (new : Path → Variable) :
    v.writeAll (replacements new v.uploads) = v.replaceUploads new := by
  induction h generalizing new with
  | value => rfl
  | @list items parts ih =>
    have hitems := writeAll_uploadsOfFields new (.list items) (keyed 0 items)
      rfl (nodup_keys_keyed 0 items) fun e he => ih e.2 (mem_of_mem_keyed he)
    rw [withEntries, withEntries, map_snd_keyed, map_snd_replaceInFields_keyed] at hitems
    rw [uploads, uploadsOfItems_eq, hitems, replaceUploads]
  | @object fields keys parts ih =>
    exact writeAll_uploadsOfFields new (.object fields) fields rfl keys ih
  | upload => rfl

end GraphqlClient.Variable
