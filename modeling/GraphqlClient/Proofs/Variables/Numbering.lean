import GraphqlClient.Proofs.Variables.Extraction
import GraphqlClient.Proofs.Variables.Replacement

/-!
# The numbering of files

The walk that takes uploads out of variables keeps a stack of what it has still to look at, and
writes into the variables as it goes.  What comes of it can be said without either: null stands in
place of every upload (`Variable.withoutUploads`), and the uploads, read from right to left, are
numbered from one on (`Variables.plainExtraction`).  The walk ends after as many turns as there are
parts to look at (`Extraction.turn_iterate`).
-/

namespace GraphqlClient

/-! ### Null in place of uploads -/

namespace Variable

mutual

/-- The variable with null in place of every upload. -/
def withoutUploads : Variable → Variable
  | .value json => .value json
  | .list items => .list (itemsWithoutUploads items)
  | .object fields => .object (fieldsWithoutUploads fields)
  | .upload _ => .null

def itemsWithoutUploads : List Variable → List Variable
  | [] => []
  | item :: items => item.withoutUploads :: itemsWithoutUploads items

def fieldsWithoutUploads : List (String × Variable) → List (String × Variable)
  | [] => []
  | (key, field) :: fields => (key, field.withoutUploads) :: fieldsWithoutUploads fields

end

mutual

/-- No upload is left. -/
lemma uploads_withoutUploads : (v : Variable) → v.withoutUploads.uploads = []
  | .value _ => rfl
  | .list items => by rw [withoutUploads, uploads, uploadsOfItems_withoutUploads 0 items]
  | .object fields => by rw [withoutUploads, uploads, uploadsOfFields_withoutUploads fields]
  | .upload _ => rfl

/-- Items without their uploads have none. -/
lemma uploadsOfItems_withoutUploads (index : Nat) : (items : List Variable) →
    uploadsOfItems index (itemsWithoutUploads items) = []
  | [] => rfl
  | item :: items => by
    rw [itemsWithoutUploads, uploadsOfItems, uploads_withoutUploads item,
      uploadsOfItems_withoutUploads (index + 1) items]
    rfl

/-- Fields without their uploads have none. -/
lemma uploadsOfFields_withoutUploads : (fields : List (String × Variable)) →
    uploadsOfFields (fieldsWithoutUploads fields) = []
  | [] => rfl
  | (key, field) :: fields => by
    rw [fieldsWithoutUploads, uploadsOfFields, uploads_withoutUploads field,
      uploadsOfFields_withoutUploads fields]
    rfl

end

mutual

/-- Null is what takes the place of each upload. -/
lemma replaceUploads_null : (v : Variable) → v.replaceUploads (fun _ => .null) = v.withoutUploads
  | .value _ => rfl
  | .list items => by rw [replaceUploads, withoutUploads, replaceInItems_null 0 items]
  | .object fields => by rw [replaceUploads, withoutUploads, replaceInFields_null fields]
  | .upload _ => rfl

/-- Replacing the uploads in items by null takes them out. -/
lemma replaceInItems_null (index : Nat) : (items : List Variable) →
    replaceInItems (fun _ => .null) index items = itemsWithoutUploads items
  | [] => rfl
  | item :: items => by
    rw [replaceInItems, itemsWithoutUploads, replaceUploads_null item,
      replaceInItems_null (index + 1) items]

/-- Replacing the uploads in fields by null takes them out. -/
lemma replaceInFields_null : (fields : List (String × Variable)) →
    replaceInFields (fun _ => .null) fields = fieldsWithoutUploads fields
  | [] => rfl
  | (key, field) :: fields => by
    rw [replaceInFields, fieldsWithoutUploads, replaceUploads_null field,
      replaceInFields_null fields]

end

/-- Null at the ends of the paths to some uploads. -/
def nulls (us : List (Path × Upload)) : List (Path × Variable) := us.map fun u => (u.1, .null)

/-- Writing null at the paths to all uploads puts null in their place. -/
theorem writeAll_nulls_uploads {v : Variable} (h : v.DistinctKeys) :
    v.writeAll (nulls v.uploads) = v.withoutUploads := by
  rw [← replaceUploads_null, ← writeAll_uploads h]
  rfl

end Variable

namespace Extraction

/-! ### Turns of the walk -/

/-- One turn of the walk: what it makes of the stack and of what has been taken. -/
def turn : List Pending × Extraction → List Pending × Extraction
  | ([], e) => ([], e)
  | ((path, .object fields) :: stack, e) => (pushFields path fields stack, e)
  | ((path, .list items) :: stack, e) => (pushItems path 0 items stack, e)
  | ((path, .upload file) :: stack, e) => (stack, e.take path file)
  | ((_, .value _) :: stack, e) => (stack, e)

/-- Each turn looks at one part of what is on the stack. -/
lemma sizeOfPending_turn (s : List Pending × Extraction) :
    sizeOfPending (turn s).1 = sizeOfPending s.1 - 1 := by
  obtain ⟨_ | ⟨⟨path, part⟩, stack⟩, e⟩ := s
  · rfl
  · cases part with
    | value json => simp only [turn, sizeOfPending, size]; omega
    | list items => simp only [turn, sizeOfPending, size, sizeOfPending_pushItems]; omega
    | object fields => simp only [turn, sizeOfPending, size, sizeOfPending_pushFields]; omega
    | upload file => simp only [turn, sizeOfPending, size]; omega

/-- A turn is part of the walk. -/
lemma walk_turn (s : List Pending × Extraction) : walk (turn s).1 (turn s).2 = walk s.1 s.2 := by
  obtain ⟨_ | ⟨⟨path, part⟩, stack⟩, e⟩ := s
  · rfl
  · cases part <;> simp only [turn, walk]

/-- Each turn makes what is pending smaller by one. -/
lemma sizeOfPending_turn_iterate (n : Nat) (s : List Pending × Extraction) :
    sizeOfPending (turn^[n] s).1 = sizeOfPending s.1 - n := by
  induction n generalizing s with
  | zero => rfl
  | succ n ih =>
    rw [Function.iterate_succ_apply, ih, sizeOfPending_turn]
    omega

/-- What is pending is of size zero exactly if there is nothing. -/
lemma sizeOfPending_eq_zero_iff (stack : List Pending) : sizeOfPending stack = 0 ↔ stack = [] := by
  cases stack with
  | nil => simp [sizeOfPending]
  | cons pending stack =>
    obtain ⟨path, part⟩ := pending
    cases part <;> simp [sizeOfPending, size]

/-- The stack is empty after as many turns as it has parts, and not before. -/
lemma turn_iterate_fst_eq_nil_iff (n : Nat) (s : List Pending × Extraction) :
    (turn^[n] s).1 = [] ↔ sizeOfPending s.1 ≤ n := by
  rw [← sizeOfPending_eq_zero_iff, sizeOfPending_turn_iterate, Nat.sub_eq_zero_iff_le]

/-- After these turns the walk is done. -/
lemma turn_iterate (stack : List Pending) (e : Extraction) :
    turn^[sizeOfPending stack] (stack, e) = ([], walk stack e) := by
  -- What the walk will come to is the same before and after a turn.
  have hwalk : ∀ (n : Nat) (s : List Pending × Extraction),
      walk (turn^[n] s).1 (turn^[n] s).2 = walk s.1 s.2 := by
    intro n
    induction n with
    | zero => exact fun s => rfl
    | succ n ih =>
      intro s
      rw [Function.iterate_succ_apply, ih, walk_turn]
  have hempty := (turn_iterate_fst_eq_nil_iff (sizeOfPending stack) (stack, e)).mpr (Nat.le_refl _)
  have hend := hwalk (sizeOfPending stack) (stack, e)
  rw [hempty, walk] at hend
  exact Prod.ext hempty hend

/-! ### Numbers of files -/

/-- Uploads as files, numbered from `start` on. -/
def number (start : Nat) (us : List (Path × Upload)) : List FilePart :=
  (us.zipIdx start).map fun ((path, file), n) => { formIndex := toString n, path, file }

/-- Each file by its form field, with the path to it. -/
def fileMap (files : List FilePart) : FileMap :=
  files.map fun part => (part.formIndex, [part.path.dotted])

/-- Two lists of uploads are numbered one after the other. -/
lemma number_append (start : Nat) (us us' : List (Path × Upload)) :
    number start (us ++ us') = number start us ++ number (start + us.length) us' := by
  unfold number
  rw [List.zipIdx_append, List.map_append]

/-- Every upload gets a number. -/
lemma length_number (start : Nat) (us : List (Path × Upload)) :
    (number start us).length = us.length := by
  rw [number, List.length_map, List.length_zipIdx]

/-- The numbers are written in decimal digits, without a gap. -/
lemma formIndices_number (start : Nat) (us : List (Path × Upload)) :
    (number start us).map (·.formIndex) = (List.range' start us.length).map toString := by
  have hnumbers : (us.zipIdx start).map (·.2) = List.range' start us.length :=
    List.zipIdx_map_snd start us
  rw [← hnumbers, number, List.map_map, List.map_map]
  rfl

/-- The map of files has the form field of each file as a key. -/
lemma keys_fileMap (files : List FilePart) : (fileMap files).keys = files.map (·.formIndex) := by
  unfold fileMap Entries.keys
  rw [List.map_map]
  rfl

/-- What has been taken are these uploads, numbered from one on and mapped under their numbers. -/
structure Numbered (e : Extraction) (us : List (Path × Upload)) : Prop where
  files : e.files = number 1 us
  map : e.map = fileMap e.files

variable {e : Extraction} {us : List (Path × Upload)}

/-- The next number is new. -/
lemma Numbered.fresh (h : e.Numbered us) : toString (e.files.length + 1) ∉ e.map.keys := by
  rw [h.map, keys_fileMap, h.files, formIndices_number, length_number]
  intro hmem
  obtain ⟨n, hn, heq⟩ := List.mem_map.mp hmem
  -- Two numbers with the same digits are the same.
  have hsame : n = us.length + 1 := Nat.repr_inj.mp heq
  have hbound : n < 1 + us.length := (List.mem_range'_1.mp hn).2
  omega

/-- Taking an upload gives it the next number. -/
lemma Numbered.take (h : e.Numbered us) (path : Path) (file : Upload) :
    (e.take path file).Numbered (us ++ [(path, file)]) where
  files := by
    have hlength : e.files.length = us.length := by rw [h.files, length_number]
    rw [number_append, ← h.files, Extraction.take, hlength, Nat.add_comm us.length 1]
    rfl
  map := by
    have hinsert : (e.take path file).map =
        Entries.insert e.map (toString (e.files.length + 1)) [path.dotted] := rfl
    rw [hinsert, Entries.insert_of_not_mem h.fresh, h.map, fileMap, fileMap, Extraction.take,
      List.map_append]
    rfl

/-- Taking uploads gives them the next numbers. -/
lemma Numbered.takeAll (h : e.Numbered us) (us' : List (Path × Upload)) :
    (e.takeAll us').Numbered (us ++ us') := by
  induction us' generalizing e us with
  | nil => rwa [List.append_nil]
  | cons u us' ih =>
    have hrest := ih (h.take u.1 u.2)
    rwa [List.append_assoc] at hrest

end Extraction

namespace Variables

/-- The variables with null in place of every upload. -/
def withoutUploads (vs : Variables) : Variables := Variable.fieldsWithoutUploads vs

/-- What is left and what is taken, by going down the variables: null in place of every upload, and
the uploads from right to left, numbered from one on. -/
def plainExtraction (vs : Variables) : Extraction :=
  let files := Extraction.number 1 (Variable.under ["variables"] vs.uploads.reverse)
  { remainder := vs.withoutUploads, files, map := Extraction.fileMap files }

variable {vs : Variables}

/-- What the walk leaves has null in place of every upload. -/
lemma remainder_extraction (h : vs.DistinctKeys) : vs.extraction.remainder = vs.withoutUploads := by
  have hpaths : (vs.taken.map fun part => (part.1, Variable.null)).map (·.1) =
      vs.taken.map (·.1) := by
    rw [List.map_map]
    rfl
  have hperm :
      (vs.taken.map fun part => (part.1, Variable.null)).Perm (Variable.nulls vs.uploads) := by
    rw [taken, List.map_map]
    exact (List.reverse_perm vs.uploads).map _
  have hobject : (Variable.object vs).writeAll (Variable.nulls vs.uploads) =
      .object vs.withoutUploads := Variable.writeAll_nulls_uploads h
  refine Variable.object.inj ?_
  rw [object_remainder_extraction,
    Variable.writeAll_perm hperm (hpaths ▸ pairwise_independent_taken h), hobject]

/-- What the walk takes out is numbered from one on. -/
lemma numbered_extraction (vs : Variables) :
    vs.extraction.Numbered (Variable.under ["variables"] vs.uploads.reverse) := by
  have hstart : Extraction.Numbered { remainder := vs, files := [], map := [] } [] := ⟨rfl, rfl⟩
  rw [extraction_eq]
  exact hstart.takeAll _

/-- The walk comes to the same as going down the variables. -/
lemma extraction_eq_plainExtraction (h : vs.DistinctKeys) : vs.extraction = vs.plainExtraction := by
  have hfiles : vs.extraction.files = vs.plainExtraction.files := vs.numbered_extraction.files
  have hmap : vs.extraction.map = vs.plainExtraction.map := by
    rw [vs.numbered_extraction.map, hfiles]
    rfl
  have hremainder : vs.extraction.remainder = vs.plainExtraction.remainder := remainder_extraction h
  calc vs.extraction
      = ⟨vs.extraction.remainder, vs.extraction.files, vs.extraction.map⟩ := rfl
    _ = vs.plainExtraction := by rw [hremainder, hfiles, hmap]

/-- Uploads are as many under a common start. -/
lemma length_under_uploads (vs : Variables) :
    (Variable.under ["variables"] vs.uploads.reverse).length = vs.uploads.length := by
  rw [Variable.under, List.length_map, List.length_reverse]

/-- There are no files exactly if there are no uploads. -/
lemma files_plainExtraction_eq_nil_iff : vs.plainExtraction.files = [] ↔ vs.uploads = [] := by
  have hlength : vs.plainExtraction.files.length = vs.uploads.length :=
    (Extraction.length_number _ _).trans (length_under_uploads vs)
  rw [← List.length_eq_zero_iff, hlength, List.length_eq_zero_iff]

/-- The form fields of the files are counted from one. -/
lemma formIndices_plainExtraction (vs : Variables) :
    vs.plainExtraction.files.map (·.formIndex) =
      (List.range' 1 vs.uploads.length).map toString := by
  rw [plainExtraction, Extraction.formIndices_number, length_under_uploads]

/-- Nothing is taken out of variables without uploads. -/
lemma extractFiles?_withoutUploads (vs : Variables) : vs.withoutUploads.extractFiles? = none := by
  have huploads : vs.withoutUploads.uploads = [] := Variable.uploadsOfFields_withoutUploads vs
  have hfiles := vs.withoutUploads.files_extraction
  rw [huploads] at hfiles
  have hnone : vs.withoutUploads.extraction.files = [] := List.map_eq_nil_iff.mp hfiles
  rw [extractFiles?, hnone]
  rfl

/-- The walk over variables starts with all of them on the stack, and with nothing taken. -/
def start (vs : Variables) : List Extraction.Pending × Extraction :=
  (Extraction.pushFields ["variables"] vs [], { remainder := vs, files := [], map := [] })

/-- At the start, all the variables are pending. -/
lemma sizeOfPending_start (vs : Variables) :
    Extraction.sizeOfPending vs.start.1 = Extraction.sizeOfFields vs :=
  Extraction.sizeOfPending_pushFields ["variables"] vs []

/-- The walk ends after as many turns as the variables have parts, and then it has come to what
going down the variables gives: the uploads from right to left, with the form fields `1`, `2` and so
on, each mapped to its one path; and null in place of each upload.  It gives nothing exactly if
there is no upload, and the second time it never gives anything. -/
theorem extractFiles?_eq (vs : Variables) (h : vs.DistinctKeys) :
    (∀ n, (Extraction.turn^[n] vs.start).1 = [] ↔ Extraction.sizeOfFields vs ≤ n) ∧
    Extraction.turn^[Extraction.sizeOfFields vs] vs.start = ([], vs.extraction) ∧
    vs.extraction = vs.plainExtraction ∧
    vs.extractFiles? = (if vs.uploads = [] then none else some vs.plainExtraction) ∧
    vs.plainExtraction.files.map (·.formIndex) = (List.range' 1 vs.uploads.length).map toString ∧
    vs.plainExtraction.map.keys.Nodup ∧
    vs.plainExtraction.remainder.extractFiles? = none := by
  have hwalk : vs.extraction = vs.plainExtraction := extraction_eq_plainExtraction h
  refine ⟨fun n => ?_, ?_, hwalk, ?_, formIndices_plainExtraction vs, ?_,
    extractFiles?_withoutUploads vs⟩
  · rw [Extraction.turn_iterate_fst_eq_nil_iff, sizeOfPending_start]
  · rw [← sizeOfPending_start]
    exact Extraction.turn_iterate _ _
  · rw [extractFiles?, hwalk]
    exact if_congr (List.isEmpty_iff.trans files_plainExtraction_eq_nil_iff) rfl rfl
  · have hkeys : vs.plainExtraction.map.keys = vs.plainExtraction.files.map (·.formIndex) :=
      Extraction.keys_fileMap _
    rw [hkeys, formIndices_plainExtraction]
    exact (List.nodup_range' 1).map fun m n hmn => Nat.repr_inj.mp hmn

/-- The upload deep in the pages of an album, which comes last, gets the first form field; null
stays in both places. -/
theorem extractFiles?_eq_album :
    album.DistinctKeys ∧
    ∃ e, album.extractFiles? = some e ∧
      e.files.map (fun part => (part.formIndex, part.file.path)) =
        [("1", "1.png"), ("2", "cover.png")] ∧
      e.map = [("1", ["variables.pages.1.0"]), ("2", ["variables.cover"])] ∧
      e.remainder.uploads = [] ∧ e.remainder.extractFiles? = none ∧
      (Extraction.turn^[7] album.start).1 = [] ∧ (Extraction.turn^[6] album.start).1 ≠ [] := by
  obtain ⟨hturns, -, -, hsome, -, -, hagain⟩ := extractFiles?_eq album distinctKeys_album
  have hsize : Extraction.sizeOfFields album = 7 := by decide +kernel
  rw [if_neg (by decide +kernel)] at hsome
  refine ⟨distinctKeys_album, _, hsome, by decide +kernel, by decide +kernel, by decide +kernel,
    hagain, (hturns 7).mpr hsize.le, fun hempty => ?_⟩
  have hbound := (hturns 6).mp hempty
  omega

end Variables

end GraphqlClient
