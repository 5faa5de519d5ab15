import GraphqlClient.Proofs.Variables.Uploads
import GraphqlClient.Variables.Extraction

/-!
# What taking uploads out comes to

The walk takes the uploads in the reverse of their order from left to right (`Extraction.walk_eq`),
so that what is left of the variables is written at the paths to all of them, and what is taken can
be put back (`Variables.extractFiles?_restores`).
-/

namespace GraphqlClient

/-! ### Variables as an object -/

namespace Variables

variable {vs : Variables} {path : Path}

/-- The uploads in the variables, from left to right, with the paths to them. -/
def uploads (vs : Variables) : List (Path × Upload) := Variable.uploadsOfFields vs

/-- No two variables have one name, and no object in one of them has two fields with one key. -/
def DistinctKeys (vs : Variables) : Prop := (Variable.object vs).DistinctKeys

/-- Setting a variable keeps the keys distinct. -/
lemma DistinctKeys.insert (h : vs.DistinctKeys) {name : String} {v : Variable}
    (hv : v.DistinctKeys) :
    DistinctKeys (Entries.insert vs name v) := by
  obtain ⟨hkeys, hparts⟩ : vs.keys.Nodup ∧ ∀ field ∈ vs, field.2.DistinctKeys := by
    cases h with
    | object keys parts => exact ⟨keys, parts⟩
  refine .object (Entries.nodup_keys_insert hkeys) fun field hfield => ?_
  rcases Entries.mem_of_mem_insert hfield with hold | rfl
  · exact hparts field hold
  · exact hv

/-- An upload among variables has a path that is not empty. -/
lemma ne_nil_of_mem_uploads {file : Upload} (h : (path, file) ∈ vs.uploads) : path ≠ [] := by
  obtain ⟨segment, rest, -, rfl, -⟩ := Variable.mem_uploadsOfFields.mp h
  exact List.cons_ne_nil segment rest

/-- Paths that name a variable lead to the same part of the variables and of the object of them. -/
lemma read?_eq (hpath : path ≠ []) : vs.read? path = (Variable.object vs).read? path := by
  cases path with
  | nil => exact absurd rfl hpath
  | cons name rest => rfl

/-- Writing among variables is writing into the object that they form. -/
lemma object_write (hpath : path ≠ []) (new : Variable) :
    Variable.object (vs.write path new) = Variable.write new (.object vs) path := by
  cases path with
  | nil => exact absurd rfl hpath
  | cons name rest => rfl

end Variables

namespace Extraction

variable {e : Extraction}

/-! ### The walk -/

/-- The uploads in the parts on a stack, in the order in which the walk comes to them. -/
def uploadsOfPending : List Pending → List (Path × Upload)
  | [] => []
  | (path, part) :: stack =>
    Variable.under path part.uploads.reverse ++ uploadsOfPending stack

/-- Takes uploads out in turn. -/
def takeAll (e : Extraction) (uploads : List (Path × Upload)) : Extraction :=
  uploads.foldl (fun e (path, file) => e.take path file) e

/-- Uploads are taken one after the other. -/
lemma takeAll_cons (e : Extraction) (path : Path) (file : Upload) (uploads : List (Path × Upload)) :
    e.takeAll ((path, file) :: uploads) = (e.take path file).takeAll uploads := rfl

/-- Items go on the stack like the fields of an object whose keys are their indices. -/
lemma pushItems_eq (path : Path) (index : Nat) (items : List Variable) (stack : List Pending) :
    pushItems path index items stack = pushFields path (Variable.keyed index items) stack := by
  induction items generalizing index stack with
  | nil => rfl
  | cons item items ih => rw [pushItems, Variable.keyed, pushFields, ih]

/-- What is found in pending fields comes before the uploads that are pending already. -/
lemma uploadsOfPending_pushFields (path : Path) (fields : Entries Variable) (stack : List Pending) :
    uploadsOfPending (pushFields path fields stack) =
      Variable.under path (Variable.uploadsOfFields fields).reverse ++ uploadsOfPending stack := by
  induction fields generalizing stack with
  | nil => rfl
  | cons field fields ih =>
    obtain ⟨key, part⟩ := field
    rw [pushFields, ih, Variable.uploadsOfFields, uploadsOfPending, List.reverse_append,
      Variable.under_append, List.append_assoc, Variable.reverse_under, Variable.under_under]

/-- The walk takes the uploads on its stack in turn. -/
theorem walk_eq (stack : List Pending) (e : Extraction) :
    walk stack e = e.takeAll (uploadsOfPending stack) := by
  fun_induction walk stack e with
  | case1 => rfl
  | case2 e path fields stack ih =>
    rw [ih, uploadsOfPending_pushFields, uploadsOfPending, Variable.uploads]
  | case3 e path items stack ih =>
    rw [ih, pushItems_eq, uploadsOfPending_pushFields, uploadsOfPending, Variable.uploads,
      Variable.uploadsOfItems_eq]
  | case4 e path file stack ih =>
    rw [ih, uploadsOfPending, Variable.uploads, List.reverse_singleton,
      Variable.under_singleton, List.append_nil, List.singleton_append, takeAll_cons]
  | case5 e path json stack ih =>
    rw [ih, uploadsOfPending, Variable.uploads]
    rfl

/-! ### What is taken and what is left -/

/-- The files are what was taken, in order. -/
lemma files_takeAll (e : Extraction) (uploads : List (Path × Upload)) :
    (e.takeAll uploads).files.map (fun part => (part.path, part.file)) =
      e.files.map (fun part => (part.path, part.file)) ++ uploads := by
  induction uploads generalizing e with
  | nil => exact (List.append_nil _).symm
  | cons upload uploads ih =>
    obtain ⟨path, file⟩ := upload
    rw [takeAll_cons, ih, take, List.map_append, List.append_assoc]
    rfl

/-- Null is written where an upload is taken out. -/
lemma object_remainder_takeAll {uploads : List (Path × Upload)}
    (h : ∀ upload ∈ uploads, upload.1 ≠ []) (e : Extraction) :
    Variable.object (e.takeAll (Variable.under ["variables"] uploads)).remainder =
      (Variable.object e.remainder).writeAll (uploads.map fun upload => (upload.1, .null)) := by
  induction uploads generalizing e with
  | nil => rfl
  | cons upload uploads ih =>
    obtain ⟨path, file⟩ := upload
    obtain ⟨hpath, hpaths⟩ := List.forall_mem_cons.mp h
    have htake : (e.take ("variables" :: path) file).remainder = e.remainder.write path .null := rfl
    rw [List.map_cons, Variable.writeAll_cons, ← Variables.object_write hpath, ← htake, ← ih hpaths]
    rfl

end Extraction

namespace Variables

variable {vs : Variables}

/-- An extraction takes all uploads among the variables. -/
lemma extraction_eq (vs : Variables) :
    vs.extraction =
      Extraction.takeAll { remainder := vs, files := [], map := [] }
        (Variable.under ["variables"] vs.uploads.reverse) := by
  unfold extraction
  rw [Extraction.walk_eq, Extraction.uploadsOfPending_pushFields]
  exact congrArg _ (List.append_nil _)

/-- The files that are taken out of the variables are all uploads, from right to left. -/
theorem files_extraction (vs : Variables) :
    vs.extraction.files.map (fun part => (part.path, part.file)) =
      Variable.under ["variables"] vs.uploads.reverse := by
  rw [extraction_eq, Extraction.files_takeAll]
  rfl

/-- Each file was at the end of its path, behind the word for the variables. -/
lemma exists_of_mem_files {part : FilePart} (h : part ∈ vs.extraction.files) :
    ∃ rest, part.path = "variables" :: rest ∧ (rest, part.file) ∈ vs.uploads := by
  have hmem := List.mem_map_of_mem (f := fun part : FilePart => (part.path, part.file)) h
  rw [files_extraction] at hmem
  obtain ⟨rest, hpath, hrest⟩ := Variable.mem_under.mp hmem
  exact ⟨rest, hpath, List.mem_reverse.mp hrest⟩

/-- No two files were at the end of one path. -/
lemma nodup_paths_files (h : vs.DistinctKeys) : (vs.extraction.files.map (·.path)).Nodup := by
  have hpaths : vs.extraction.files.map (·.path) =
      (vs.extraction.files.map fun part => (part.path, part.file)).map (·.1) := by
    rw [List.map_map]
    rfl
  have hnodup : (vs.uploads.map (·.1)).Nodup := Variable.nodup_paths_uploads h
  rw [hpaths, files_extraction, Variable.map_fst_under, List.map_reverse]
  exact (List.nodup_reverse.mpr hnodup).map (List.append_right_injective ["variables"])

/-! ### Parts that are taken out -/

/-- The parts that are taken out of the variables, in that order, with the paths to them. -/
def taken (vs : Variables) : List (Path × Variable) :=
  vs.uploads.reverse.map fun upload => (upload.1, .upload upload.2)

/-- What is taken are the uploads among the variables. -/
lemma mem_taken {part : Path × Variable} :
    part ∈ vs.taken ↔ ∃ file, part.2 = .upload file ∧ (part.1, file) ∈ vs.uploads := by
  unfold taken
  rw [List.mem_map]
  constructor
  · rintro ⟨⟨path, file⟩, hmem, rfl⟩
    exact ⟨file, rfl, List.mem_reverse.mp hmem⟩
  · rintro ⟨file, hpart, hmem⟩
    exact ⟨(part.1, file), List.mem_reverse.mpr hmem, Prod.ext rfl hpart.symm⟩

/-- What is taken was found at its path. -/
lemma read?_of_mem_taken (h : vs.DistinctKeys) {part : Path × Variable} (hpart : part ∈ vs.taken) :
    (Variable.object vs).read? part.1 = some part.2 := by
  obtain ⟨file, hfile, hmem⟩ := mem_taken.mp hpart
  rw [hfile]
  exact (Variable.mem_uploads_iff h).mp hmem

/-- The paths of two parts that are taken never lead through each other. -/
lemma pairwise_independent_taken (h : vs.DistinctKeys) :
    (vs.taken.map (·.1)).Pairwise Path.Independent := by
  have hpairwise : (vs.uploads.map (·.1)).Pairwise Path.Independent :=
    Variable.pairwise_independent_uploads h
  have hpaths : vs.taken.map (·.1) = (vs.uploads.map (·.1)).reverse := by
    rw [taken, List.map_map, ← List.map_reverse]
    rfl
  rw [hpaths, List.pairwise_reverse]
  exact hpairwise.imp fun hpq => hpq.symm

/-- What is left of the variables has null at the path to each part that was taken out. -/
theorem object_remainder_extraction (vs : Variables) :
    Variable.object vs.extraction.remainder =
      (Variable.object vs).writeAll (vs.taken.map fun part => (part.1, .null)) := by
  rw [extraction_eq, Extraction.object_remainder_takeAll, taken, List.map_map]
  · rfl
  · intro upload hupload
    exact ne_nil_of_mem_uploads (List.mem_reverse.mp hupload)

/-- In the remainder there is null in the place of each upload. -/
lemma read?_remainder_of_mem_uploads (h : vs.DistinctKeys) {path : Path} {file : Upload}
    (hmem : (path, file) ∈ vs.uploads) : vs.extraction.remainder.read? path = some .null := by
  have hpart : (path, Variable.null) ∈ vs.taken.map fun part => (part.1, Variable.null) :=
    List.mem_map.mpr ⟨(path, .upload file), mem_taken.mpr ⟨file, rfl, hmem⟩, rfl⟩
  rw [read?_eq (ne_nil_of_mem_uploads hmem), object_remainder_extraction]
  refine Variable.read?_writeAll_of_mem ?_ ?_ hpart
  · rw [List.map_map]
    exact pairwise_independent_taken h
  · intro part hpart
    obtain ⟨old, hold, rfl⟩ := List.mem_map.mp hpart
    exact ⟨old.2, read?_of_mem_taken h hold⟩

/-! ### Putting files back -/

/-- Puts a file back where it was taken out. -/
def putBack (vs : Variables) (part : FilePart) : Variables :=
  vs.write part.path.tail (.upload part.file)

/-- Putting files back is writing each into the object of the variables. -/
lemma object_foldl_putBack {parts : List FilePart} (h : ∀ part ∈ parts, part.path.tail ≠ []) :
    Variable.object (parts.foldl putBack vs) =
      (Variable.object vs).writeAll (parts.map fun part =>
        (part.path.tail, .upload part.file)) := by
  induction parts generalizing vs with
  | nil => rfl
  | cons part parts ih =>
    obtain ⟨hpart, hparts⟩ := List.forall_mem_cons.mp h
    rw [List.foldl_cons, ih hparts, List.map_cons, Variable.writeAll_cons,
      putBack, object_write hpart]

/-- The files with the paths to them within the variables. -/
lemma map_tail_files (vs : Variables) :
    vs.extraction.files.map (fun part => (part.path.tail, part.file)) = vs.uploads.reverse := by
  have hmap := congrArg (List.map fun upload => (upload.1.tail, upload.2)) vs.files_extraction
  have hid : ((fun upload : Path × Upload => (upload.1.tail, upload.2)) ∘
      fun upload : Path × Upload => (["variables"] ++ upload.1, upload.2)) = id := rfl
  rw [List.map_map, Variable.under, List.map_map, hid, List.map_id] at hmap
  exact hmap

/-- The files are put back as the parts that were taken out. -/
lemma map_files_extraction (vs : Variables) :
    vs.extraction.files.map (fun part => (part.path.tail, Variable.upload part.file)) =
      vs.taken := by
  have hmap :=
    congrArg (List.map fun upload => (upload.1, Variable.upload upload.2)) vs.map_tail_files
  rwa [List.map_map] at hmap

/-- The files can be put back in any order, and then the variables are as they were. -/
theorem foldl_putBack_extraction (h : vs.DistinctKeys) {parts : List FilePart}
    (hparts : parts.Perm vs.extraction.files) :
    parts.foldl putBack vs.extraction.remainder = vs := by
  have hpaths : ∀ part ∈ parts, part.path.tail ≠ [] := by
    intro part hpart
    obtain ⟨rest, hpath, hmem⟩ := exists_of_mem_files (hparts.mem_iff.mp hpart)
    rw [hpath]
    exact ne_nil_of_mem_uploads hmem
  have hperm :
      vs.taken.Perm (parts.map fun part => (part.path.tail, Variable.upload part.file)) := by
    rw [← map_files_extraction]
    exact (hparts.map _).symm
  have hindependent := pairwise_independent_taken h
  refine Variable.object.inj ?_
  -- The places are independent of each other, so that the order of the writes does not matter.
  rw [object_foldl_putBack hpaths, ← Variable.writeAll_perm hperm hindependent,
    object_remainder_extraction]
  exact Variable.writeAll_restore .null hindependent fun part hpart => read?_of_mem_taken h hpart

/-- The files that are taken out of variables come from different places, where null is left, and
putting them back, in whatever order, gives the variables again.  If none is taken out, there was no
upload, and the variables stay as they are. -/
theorem extractFiles?_restores (vs : Variables) (h : vs.DistinctKeys) :
    (∀ e, vs.extractFiles? = some e →
      (e.files.map (·.path)).Nodup ∧
      (∀ part ∈ e.files, ∃ rest, part.path = "variables" :: rest ∧
        e.remainder.read? rest = some .null) ∧
      ∀ parts : List FilePart, parts.Perm e.files → parts.foldl putBack e.remainder = vs) ∧
    (vs.extractFiles? = none → vs.uploads = [] ∧ vs.extraction.remainder = vs) := by
  unfold extractFiles?
  by_cases hempty : vs.extraction.files.isEmpty = true
  · rw [if_pos hempty]
    refine ⟨fun e he => absurd he (by simp), fun _ => ?_⟩
    have hnone : vs.extraction.files = [] := List.isEmpty_iff.mp hempty
    have hfiles := vs.files_extraction
    rw [hnone] at hfiles
    have huploads : vs.uploads = [] :=
      List.reverse_eq_nil_iff.mp (List.map_eq_nil_iff.mp hfiles.symm)
    have hobject := vs.object_remainder_extraction
    rw [taken, huploads] at hobject
    exact ⟨huploads, Variable.object.inj hobject⟩
  · rw [if_neg hempty]
    refine ⟨fun e he => ?_, fun hnone => absurd hnone (by simp)⟩
    obtain rfl := Option.some.inj he
    refine ⟨nodup_paths_files h, fun part hpart => ?_, fun parts hparts =>
      foldl_putBack_extraction h hparts⟩
    obtain ⟨rest, hpath, hmem⟩ := exists_of_mem_files hpart
    exact ⟨rest, hpath, read?_remainder_of_mem_uploads h hmem⟩

/-! ### Variables with files in several places -/

/-- An upload beside others that are deeper, a key that looks like an index, and null from the
start. -/
def album : Variables :=
  [("cover", .upload { path := "cover.png", contentType? := none }),
    ("pages", .list [.null, .object
      [("note", .null), ("0", .upload { path := "1.png", contentType? := none })]]),
    ("title", .value (.string "0"))]

/-- No key is repeated in the album. -/
lemma distinctKeys_album : album.DistinctKeys := by
  refine .object (by decide) ?_
  simp only [album, List.forall_mem_cons]
  refine ⟨.upload _, .list ?_, .value _, by simp⟩
  simp only [List.forall_mem_cons]
  refine ⟨.value _, .object (by decide) ?_, by simp⟩
  simp only [List.forall_mem_cons]
  exact ⟨.value _, .upload _, by simp⟩

/-- The files of an album are numbered from right to left, and go back to their places in either
order. -/
theorem extractFiles?_restores_album :
    ∃ e, album.extractFiles? = some e ∧
      e.files.map (·.path) = [["variables", "pages", "1", "0"], ["variables", "cover"]] ∧
      e.files.foldl putBack e.remainder = album ∧
      e.files.reverse.foldl putBack e.remainder = album := by
  have hsome : album.extractFiles? = some album.extraction :=
    if_neg (by decide +kernel)
  obtain ⟨-, -, hback⟩ := (extractFiles?_restores album distinctKeys_album).1 _ hsome
  exact ⟨_, hsome, by decide +kernel, hback _ (List.Perm.refl _), hback _ (List.reverse_perm _)⟩

end Variables

end GraphqlClient
