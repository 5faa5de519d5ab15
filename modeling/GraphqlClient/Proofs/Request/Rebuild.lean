import GraphqlClient.Proofs.Json.AnyDepth
import GraphqlClient.Proofs.Variables.Dotted
import GraphqlClient.Proofs.Variables.Places
import GraphqlClient.Request.Payload
import Mathlib

/-!
# Rebuilding a request from its texts

A server gets two texts beside the files: the request as JSON, and a map that says under which form
field the file for which place comes.  Three encoders have to agree for this to work: null is left
where an upload is taken out, the variables are printed as JSON, and the path to each file is joined
with dots.  Seen from the server they do, as long as no key on the way holds a dot
(`Request.payload_rebuilds`).
-/

namespace GraphqlClient

/-! ### Keys without dots -/

namespace Variable

/-- No key of an object that is spelled out holds a dot. -/
inductive Undotted : Variable → Prop
  | value (json : Json) : Undotted (.value json)
  | list {items : List Variable} (parts : ∀ item ∈ items, Undotted item) : Undotted (.list items)
  | object {fields : Entries Variable} (keys : ∀ key ∈ fields.keys, '.' ∉ key.toList)
      (parts : ∀ field ∈ fields, Undotted field.2) : Undotted (.object fields)
  | upload (file : Upload) : Undotted (.upload file)

variable {v part : Variable} {path : Path}

/-- No key of an object without dots in its keys has one. -/
lemma Undotted.keys_entries (h : v.Undotted) : ∀ key ∈ v.entries.keys, '.' ∉ key.toList := by
  cases h with
  | list parts =>
    intro key hkey hdot
    obtain ⟨i, -, rfl⟩ := mem_keys_keyed hkey
    have hdigit := Json.isDigit_toString i '.' hdot
    exact absurd hdigit (by decide)
  | object keys parts => exact keys
  | value json => exact nofun
  | upload file => exact nofun

/-- The values of an object without dots in its keys have none in theirs. -/
lemma Undotted.of_mem_entries (h : v.Undotted) {entry : String × Variable}
    (hentry : entry ∈ v.entries) :
    entry.2.Undotted := by
  cases h with
  | list parts => exact parts _ (mem_of_mem_keyed hentry)
  | object keys parts => exact parts _ hentry
  | value json => cases hentry
  | upload file => cases hentry

/-- No segment of a path into such a variable holds a dot. -/
lemma Undotted.of_read? (h : v.Undotted) (hread : v.read? path = some part) :
    ∀ segment ∈ path, '.' ∉ segment.toList := by
  induction path generalizing v with
  | nil => exact nofun
  | cons segment rest ih =>
    rw [read?_cons] at hread
    obtain ⟨child, hchild, hrest⟩ := Option.bind_eq_some_iff.mp hread
    have hentry := Entries.mem_of_lookup hchild
    have hsegment := h.keys_entries segment (Entries.mem_keys_of_mem hentry)
    exact List.forall_mem_cons.mpr ⟨hsegment, ih (h.of_mem_entries hentry) hrest⟩

end Variable

namespace Variables

/-- Neither the name of a variable nor a key of an object that is spelled out holds a dot. -/
def Undotted (vs : Variables) : Prop := (Variable.object vs).Undotted

/-- The variables with something else in place of every upload, by the path to it. -/
def replaceUploads (vs : Variables) (new : Path → Json) : Variables :=
  Variable.replaceInFields (fun path => .value (new path)) vs

end Variables

/-! ### What a server gets -/

/-- What a server makes of the two texts: the request, and for each form field the places that its
file is for. -/
structure Receipt where
  operations : Json
  places : List (String × Path)

namespace Receipt

/-- The text of a string. -/
def text? : Json → Option String
  | .string text => some text
  | _ => none

/-- The texts in an array of strings. -/
def texts? : Json → Option (List String)
  | .array items => items.mapM text?
  | _ => none

/-- The map of an object whose values are arrays of strings. -/
def fileMap? : Json → Option FileMap
  | .object entries => entries.mapM fun entry => (texts? entry.2).map (entry.1, ·)
  | _ => none

/-- The places that a map names, where each text is cut at its dots. -/
def placesOf (map : FileMap) : List (String × Path) :=
  map.flatMap fun entry => entry.2.map fun text => (entry.1, Path.ofDotted text)

/-- Reads both texts, however deep they nest. -/
def ofTexts? (operations map : String) : Option Receipt := do
  let operations ← (Json.parseAnyDepth (bytesOf operations)).toOption
  let map ← (Json.parseAnyDepth (bytesOf map)).toOption.bind fileMap?
  return { operations, places := placesOf map }

/-- The request with a mark for each file at its place. -/
def filled (receipt : Receipt) (mark : String → Json) : Json :=
  receipt.places.foldl (fun json place => json.fill place.2 (mark place.1)) receipt.operations

/-- A receipt tells where each file of a request belongs. -/
structure Rebuilds (receipt : Receipt) (r : Request) (files : List FilePart) : Prop where
  /-- Each form field has one place, which is the path to its file. -/
  places : receipt.places = files.map fun file => (file.formIndex, file.path)
  /-- There the upload stood in the variables. -/
  uploads : ∀ file ∈ files, ∃ rest, file.path = "variables" :: rest ∧
    r.variableValues.read? rest = some (.upload file.file)
  /-- Null is there now, and anything can be filled in. -/
  reached : ∀ place ∈ receipt.places, receipt.operations.at? place.2 = some .null ∧
    ∀ new, (receipt.operations.fill place.2 new).at? place.2 = some new
  /-- What is filled in at one place is not seen at any other. -/
  apart : receipt.places.Pairwise fun place other => ∀ new,
    (receipt.operations.fill place.2 new).at? other.2 = some .null ∧
      (receipt.operations.fill other.2 new).at? place.2 = some .null
  /-- With a mark for each file, it is the request with the mark of its own file in place of each
  upload. -/
  filled : ∀ (mark : String → Json) (new : Path → Json),
    (∀ file ∈ files, ∀ rest, file.path = "variables" :: rest → new rest = mark file.formIndex) →
      receipt.filled mark =
        { r with variableValues := r.variableValues.replaceUploads new }.operationsJson

end Receipt

/-! ### The map as JSON -/

namespace Receipt

/-- An array of strings is read as their texts. -/
lemma texts?_strings (texts : List String) : texts? (.array (texts.map .string)) = some texts := by
  rw [texts?, List.mapM_map]
  induction texts with
  | nil => rfl
  | cons text texts ih =>
    rw [List.mapM_cons, ih]
    rfl

/-- The map is read back from its JSON. -/
lemma fileMap?_toJson (map : FileMap) : fileMap? (FileMap.toJson map) = some map := by
  rw [FileMap.toJson, fileMap?, List.mapM_map]
  induction map with
  | nil => rfl
  | cons entry map ih =>
    obtain ⟨formIndex, texts⟩ := entry
    have hentry : (texts? (.array (texts.map .string))).map (formIndex, ·) =
        some (formIndex, texts) := by
      rw [texts?_strings, Option.map_some]
    rw [List.mapM_cons, ih, Function.comp_apply, hentry]
    rfl

end Receipt

/-- No key is repeated in the JSON of a map that repeats none. -/
lemma FileMap.distinctKeys_toJson {map : FileMap} (h : map.keys.Nodup) :
    map.toJson.DistinctKeys := by
  have hkeys : Entries.keys (map.map fun entry => (entry.1, Json.array (entry.2.map .string))) =
      map.keys := by
    rw [Entries.keys, List.map_map]
    rfl
  refine .object (hkeys ▸ h) ?_
  intro entry hentry
  obtain ⟨⟨formIndex, texts⟩, -, rfl⟩ := List.mem_map.mp hentry
  refine .array ?_
  intro item hitem
  obtain ⟨text, -, rfl⟩ := List.mem_map.mp hitem
  exact .string text

namespace Variables

variable {vs : Variables}

/-! ### Files and places -/

/-- The paths of two files never lead through each other. -/
lemma pairwise_independent_files (h : vs.DistinctKeys) :
    vs.extraction.files.Pairwise fun file other => file.path.Independent other.path := by
  have htails : vs.extraction.files.map (·.path.tail) = vs.taken.map (·.1) := by
    rw [← map_files_extraction, List.map_map]
    rfl
  have hpairwise := pairwise_independent_taken h
  rw [← htails, List.pairwise_map] at hpairwise
  refine hpairwise.imp_of_mem ?_
  intro file other hfile hother hindependent
  obtain ⟨rest, hpath, -⟩ := exists_of_mem_files hfile
  obtain ⟨rest', hpath', -⟩ := exists_of_mem_files hother
  rw [hpath, hpath', List.tail_cons, List.tail_cons] at hindependent
  rw [hpath, hpath']
  exact Path.Independent.cons_self_iff.mpr hindependent

/-- The map leads to the files, if no key holds a dot. -/
lemma placesOf_map_extraction (h : vs.DistinctKeys) (hdots : vs.Undotted) :
    Receipt.placesOf vs.extraction.map = vs.extraction.files.map fun file =>
      (file.formIndex, file.path) := by
  have hmap : vs.extraction.map = Extraction.fileMap vs.extraction.files := by
    rw [extraction_eq_plainExtraction h]
    rfl
  have hplaces : Receipt.placesOf (Extraction.fileMap vs.extraction.files) =
      vs.extraction.files.map fun file => (file.formIndex, Path.ofDotted file.path.dotted) := by
    rw [Receipt.placesOf, Extraction.fileMap, List.flatMap_map, List.map_eq_flatMap]
    rfl
  rw [hmap, hplaces]
  refine List.map_congr_left ?_
  intro file hfile
  obtain ⟨rest, hpath, hmem⟩ := exists_of_mem_files hfile
  have hread : (Variable.object vs).read? rest = some (.upload file.file) :=
    (Variable.mem_uploads_iff h).mp hmem
  have hsegments : ∀ segment ∈ file.path, '.' ∉ segment.toList := by
    rw [hpath, List.forall_mem_cons]
    exact ⟨by decide, Variable.Undotted.of_read? hdots hread⟩
  rw [Path.ofDotted_dotted (path_ne_nil_of_mem_files hfile), Path.cut_eq_self hsegments]

/-- Writing at all places from which uploads were taken puts something else in place of the
uploads. -/
lemma writeAll_remainder (h : vs.DistinctKeys) (new : Path → Json) :
    (Variable.object vs.extraction.remainder).writeAll
      (Variable.replacements (fun path => .value (new path)) vs.uploads.reverse) =
        .object (vs.replaceUploads new) := by
  let parts := Variable.replacements (fun path => .value (new path)) vs.uploads.reverse
  have hpaths : parts.map (·.1) = vs.taken.map (·.1) := by
    simp only [parts, Variable.replacements, taken, List.map_map]
    rfl
  have hnulls : vs.taken.map (fun part => (part.1, Variable.null)) =
      parts.map fun part => (part.1, Variable.null) := by
    have hmap := congrArg (List.map fun path => (path, Variable.null)) hpaths
    rw [List.map_map, List.map_map] at hmap
    exact hmap.symm
  have hindependent : (parts.map (·.1)).Pairwise Path.Independent :=
    hpaths ▸ pairwise_independent_taken h
  have hperm : parts.Perm (Variable.replacements (fun path => .value (new path)) vs.uploads) :=
    (List.reverse_perm vs.uploads).map _
  have huploads : (Variable.object vs).uploads = vs.uploads := rfl
  rw [object_remainder_extraction, hnulls, Variable.writeAll_overwrite .null hindependent,
    Variable.writeAll_perm hperm hindependent, ← huploads, Variable.writeAll_uploads h]
  rfl

/-- Where there is an upload, something is left. -/
lemma remainder_ne_nil (h : vs.DistinctKeys) (huploads : vs.uploads ≠ []) :
    vs.extraction.remainder ≠ [] := by
  rw [remainder_extraction h]
  cases vs with
  | nil => exact absurd rfl huploads
  | cons entry vs => exact List.cons_ne_nil _ _

/-- Variables with uploads have entries when the uploads are replaced. -/
lemma replaceUploads_ne_nil (huploads : vs.uploads ≠ []) (new : Path → Json) :
    vs.replaceUploads new ≠ [] := by
  cases vs with
  | nil => exact absurd rfl huploads
  | cons entry vs => exact List.cons_ne_nil _ _

/-- What is left has the same JSON. -/
lemma toJson_remainder (h : vs.DistinctKeys) :
    Variables.toJson vs.extraction.remainder = vs.toJson := by
  rw [remainder_extraction h]
  exact Variable.toJson_withoutUploads (.object vs)

/-- The map of files has each of its keys once. -/
lemma nodup_keys_map_extraction (h : vs.DistinctKeys) : vs.extraction.map.keys.Nodup := by
  have hkeys : vs.plainExtraction.map.keys = vs.plainExtraction.files.map (·.formIndex) :=
    Extraction.keys_fileMap _
  rw [extraction_eq_plainExtraction h, hkeys, formIndices_plainExtraction]
  exact (List.nodup_range' 1).map fun m n hmn => Nat.repr_inj.mp hmn

end Variables

namespace Request

variable {r : Request}

/-! ### The request as a variable -/

/-- The request as an object, in which the paths to the files start. -/
def asVariable (r : Request) (values : Variable) : Variable :=
  .object (("query", .value (.string r.document.print)) :: ("variables", values) ::
    (r.operationName?.map fun name => ("operationName", Variable.value (.string name))).toList)

/-- The operations are the request as one variable. -/
lemma toJson_asVariable (r : Request) {vs : Variables} (h : vs ≠ []) :
    (r.asVariable (.object vs)).toJson = { r with variableValues := vs }.operationsJson := by
  have hsome : vs.isEmpty = false := by
    rw [Bool.eq_false_iff]
    exact fun hempty => h (List.isEmpty_iff.mp hempty)
  unfold asVariable operationsJson
  dsimp only
  rw [hsome]
  cases r.operationName? with
  | none => rfl
  | some name => rfl

/-- No key is repeated in the request as one variable if none is in the values. -/
lemma distinctKeys_toJson_asVariable (r : Request) {values : Variable}
    (h : values.toJson.DistinctKeys) :
    (r.asVariable values).toJson.DistinctKeys := by
  unfold asVariable
  cases r.operationName? with
  | none =>
    have hnames : ["query", "variables"].Nodup := by decide
    refine .object hnames ?_
    intro entry hentry
    rcases List.mem_cons.mp hentry with rfl | hentry
    · exact .string _
    · obtain rfl := List.mem_singleton.mp hentry
      exact h
  | some name =>
    have hnames : ["query", "variables", "operationName"].Nodup := by decide
    refine .object hnames ?_
    intro entry hentry
    rcases List.mem_cons.mp hentry with rfl | hentry
    · exact .string _
    · rcases List.mem_cons.mp hentry with rfl | hentry
      · exact h
      · obtain rfl := List.mem_singleton.mp hentry
        exact .string _

/-- What is found under the variables of a request is found in their values. -/
lemma read?_asVariable (r : Request) (values : Variable) (rest : Path) :
    (r.asVariable values).read? ("variables" :: rest) = values.read? rest := by
  rw [Variable.read?_cons]
  rfl

/-- What is written under the variables of a request is written into their values. -/
lemma write_asVariable (r : Request) (values new : Variable) (rest : Path) :
    Variable.write new (r.asVariable values) ("variables" :: rest) =
      r.asVariable (Variable.write new values rest) := by
  have hquery : "query" ≠ "variables" := by decide
  rw [Variable.write_cons, asVariable, Variable.entries, Entries.adjust_cons_of_ne hquery,
    Entries.adjust_cons_self]
  rfl

/-- What is written at several places under the variables is written into their values. -/
lemma writeAll_asVariable (r : Request) (values : Variable) (parts : List (Path × Variable)) :
    (r.asVariable values).writeAll (Variable.partsUnder "variables" parts) =
      r.asVariable (values.writeAll parts) := by
  induction parts generalizing values with
  | nil => rfl
  | cons part parts ih =>
    have hparts : Variable.partsUnder "variables" (part :: parts) =
        ("variables" :: part.1, part.2) :: Variable.partsUnder "variables" parts := rfl
    rw [hparts, Variable.writeAll_cons, Variable.writeAll_cons, write_asVariable, ih]

/-! ### The receipt of a payload -/

/-- A payload with files consists of the texts of what is left and of the map. -/
lemma payload_eq_multipart {operations map : String} {files : List FilePart}
    (h : r.payload = .multipart operations map files) :
    r.variableValues.uploads ≠ [] ∧
      operations =
        { r with variableValues := r.variableValues.extraction.remainder }.operationsJson.text ∧
      map = r.variableValues.extraction.map.toJson.text ∧
          files = r.variableValues.extraction.files := by
  by_cases hfiles : r.variableValues.extraction.files = []
  · rw [payload, takePayload_of_no_file hfiles] at h
    cases h
  · rw [payload, takePayload_of_files hfiles] at h
    cases h
    refine ⟨?_, rfl, rfl, rfl⟩
    intro hnone
    have hmap := r.variableValues.map_tail_files
    rw [hnone] at hmap
    exact hfiles (List.map_eq_nil_iff.mp hmap)

/-- The receipt of the two texts of a request: what is left of it, with the paths to the files. -/
def receipt (r : Request) : Receipt where
  operations := (r.asVariable (.object r.variableValues.extraction.remainder)).toJson
  places := r.variableValues.extraction.files.map fun file => (file.formIndex, file.path)

/-- A server that gets these texts makes this of them. -/
lemma ofTexts?_texts (hkeys : r.variableValues.toJson.DistinctKeys)
    (hdots : r.variableValues.Undotted) (huploads : r.variableValues.uploads ≠ []) :
    Receipt.ofTexts?
      { r with variableValues := r.variableValues.extraction.remainder }.operationsJson.text
      r.variableValues.extraction.map.toJson.text = some r.receipt := by
  have hvs : r.variableValues.DistinctKeys :=
    Variable.distinctKeys_of_toJson (.object r.variableValues) hkeys
  have hoperations : Json.parseAnyDepth (bytesOf
      { r with variableValues := r.variableValues.extraction.remainder }.operationsJson.text) =
        .ok r.receipt.operations := by
    have hremainder : (Variables.toJson r.variableValues.extraction.remainder).DistinctKeys := by
      rw [Variables.toJson_remainder hvs]
      exact hkeys
    rw [← r.toJson_asVariable (Variables.remainder_ne_nil hvs huploads)]
    exact Json.parseAnyDepth_text (r.distinctKeys_toJson_asVariable hremainder)
  have hmap : Json.parseAnyDepth (bytesOf r.variableValues.extraction.map.toJson.text) =
      .ok r.variableValues.extraction.map.toJson := by
    apply Json.parseAnyDepth_text
    apply FileMap.distinctKeys_toJson
    exact Variables.nodup_keys_map_extraction hvs
  -- This is where dots matter: without them in keys, cutting at dots gives the path back.
  have hplaces : Receipt.placesOf r.variableValues.extraction.map = r.receipt.places :=
    Variables.placesOf_map_extraction hvs hdots
  have hread :
      (Except.ok (ε := Json.Fault) r.variableValues.extraction.map.toJson).toOption.bind
        Receipt.fileMap? =
      some r.variableValues.extraction.map := Receipt.fileMap?_toJson _
  rw [Receipt.ofTexts?, hoperations, hmap, hread]
  change some (Receipt.mk _ _) = _
  rw [hplaces]

/-- Null is at the end of the path to each file. -/
lemma read?_asVariable_remainder (hvs : r.variableValues.DistinctKeys) {file : FilePart}
    (hfile : file ∈ r.variableValues.extraction.files) :
    (r.asVariable (.object r.variableValues.extraction.remainder)).read? file.path =
      some .null := by
  obtain ⟨rest, hpath, hmem⟩ := Variables.exists_of_mem_files hfile
  rw [hpath, read?_asVariable, ← Variables.read?_eq (Variables.ne_nil_of_mem_uploads hmem)]
  exact Variables.read?_remainder_of_mem_uploads hvs hmem

/-- What a server fills in there is written into the variables. -/
lemma fill_receipt (hvs : r.variableValues.DistinctKeys) {file : FilePart}
    (hfile : file ∈ r.variableValues.extraction.files) (new : Json) :
    r.receipt.operations.fill file.path new =
      (Variable.write (.value new) (r.asVariable (.object r.variableValues.extraction.remainder))
        file.path).toJson :=
  (Variable.toJson_write (read?_asVariable_remainder hvs hfile) (.value new)).symm

/-- Filling the files in gives the operations with the uploads replaced. -/
lemma filled_receipt (hvs : r.variableValues.DistinctKeys)
    (huploads : r.variableValues.uploads ≠ []) {mark : String → Json} {new : Path → Json}
    (hnew : ∀ file ∈ r.variableValues.extraction.files, ∀ rest, file.path = "variables" :: rest →
      new rest = mark file.formIndex) :
    r.receipt.filled mark =
      { r with variableValues := r.variableValues.replaceUploads new }.operationsJson := by
  let parts := r.variableValues.extraction.files.map fun file =>
    (file.path, Variable.value (mark file.formIndex))
  have hindependent : (parts.map (·.1)).Pairwise Path.Independent := by
    rw [List.map_map, List.pairwise_map]
    exact Variables.pairwise_independent_files hvs
  have hread : ∀ part ∈ parts, ∃ old,
      (r.asVariable (.object r.variableValues.extraction.remainder)).read? part.1 = some old := by
    intro part hpart
    obtain ⟨file, hfile, rfl⟩ := List.mem_map.mp hpart
    exact ⟨_, read?_asVariable_remainder hvs hfile⟩
  have hfilled : r.receipt.filled mark =
      ((r.asVariable (.object r.variableValues.extraction.remainder)).writeAll parts).toJson := by
    rw [Variable.toJson_writeAll hindependent hread, Receipt.filled, receipt, List.foldl_map,
      List.foldl_map]
    rfl
  -- The files are numbered from right to left, so that the places come in the reverse order of the
  -- uploads.
  have hparts : parts = Variable.partsUnder "variables"
      (Variable.replacements (fun path => .value (new path)) r.variableValues.uploads.reverse) := by
    rw [← Variables.map_tail_files, Variable.replacements, Variable.partsUnder, List.map_map,
      List.map_map]
    refine List.map_congr_left ?_
    intro file hfile
    obtain ⟨rest, hpath, -⟩ := Variables.exists_of_mem_files hfile
    simp only [Function.comp_apply]
    rw [← hnew file hfile rest hpath, hpath, List.tail_cons]
  rw [hfilled, hparts, writeAll_asVariable, Variables.writeAll_remainder hvs,
    toJson_asVariable r (Variables.replaceUploads_ne_nil huploads new)]

/-- If no key on the way to a file holds a dot, a server can rebuild the request from the two texts:
read however deep they nest, they lead from each form field to the place of its file. -/
theorem payload_rebuilds (hkeys : r.variableValues.toJson.DistinctKeys)
    (hdots : r.variableValues.Undotted) {operations map : String} {files : List FilePart}
    (h : r.payload = .multipart operations map files) :
    ∃ receipt, Receipt.ofTexts? operations map = some receipt ∧ receipt.Rebuilds r files := by
  have hvs : r.variableValues.DistinctKeys :=
    Variable.distinctKeys_of_toJson (.object r.variableValues) hkeys
  obtain ⟨huploads, rfl, rfl, rfl⟩ := payload_eq_multipart h
  refine ⟨r.receipt, ofTexts?_texts hkeys hdots huploads, ?_⟩
  exact {
    places := rfl
    uploads := by
      intro file hfile
      obtain ⟨rest, hpath, hmem⟩ := Variables.exists_of_mem_files hfile
      refine ⟨rest, hpath, ?_⟩
      rw [Variables.read?_eq (Variables.ne_nil_of_mem_uploads hmem)]
      exact (Variable.mem_uploads_iff hvs).mp hmem
    reached := by
      intro place hplace
      obtain ⟨file, hfile, rfl⟩ := List.mem_map.mp hplace
      have hread := read?_asVariable_remainder hvs hfile
      refine ⟨Variable.at?_toJson hread, fun new => ?_⟩
      rw [fill_receipt hvs hfile]
      exact Variable.at?_toJson (Variable.read?_write_self hread)
    apart := by
      refine List.pairwise_map.mpr ((Variables.pairwise_independent_files hvs).imp_of_mem ?_)
      intro file other hfile hother hindependent new
      have hread := read?_asVariable_remainder hvs hfile
      have hread' := read?_asVariable_remainder hvs hother
      rw [fill_receipt hvs hfile, fill_receipt hvs hother]
      constructor
      -- Writing at either place leaves null at the other one.
      · rw [← Variable.read?_write_of_independent hindependent] at hread'
        exact Variable.at?_toJson hread'
      · rw [← Variable.read?_write_of_independent hindependent.symm] at hread
        exact Variable.at?_toJson hread
    filled := fun mark new hnew => filled_receipt hvs huploads hnew }

/-! ### A request with files in several places -/

/-- A request with an album. -/
def albumRequest : Request :=
  { document := [], operationName? := some "Publish", variableValues := Variables.album,
    context := [], headers := [] }

/-- No key is repeated in the album. -/
lemma distinctKeys_toJson_album : Variables.album.toJson.DistinctKeys := by
  have hnames : ["cover", "pages", "title"].Nodup := by decide
  have hkeys : ["note", "0"].Nodup := by decide
  refine .object hnames (List.forall_mem_cons.mpr ⟨.null, List.forall_mem_cons.mpr ⟨.array ?_, ?_⟩⟩)
  · refine List.forall_mem_cons.mpr ⟨.null, List.forall_mem_singleton.mpr (.object hkeys ?_)⟩
    exact List.forall_mem_cons.mpr ⟨.null, List.forall_mem_singleton.mpr .null⟩
  · exact List.forall_mem_singleton.mpr (.string "0")

/-- No key of the album has a dot. -/
lemma undotted_album : Variables.album.Undotted := by
  have hnames : ∀ key ∈ ["cover", "pages", "title"], '.' ∉ key.toList := by decide
  have hkeys : ∀ key ∈ ["note", "0"], '.' ∉ key.toList := by decide
  refine .object hnames
    (List.forall_mem_cons.mpr ⟨.upload _, List.forall_mem_cons.mpr ⟨.list ?_, ?_⟩⟩)
  · refine List.forall_mem_cons.mpr ⟨.value _, List.forall_mem_singleton.mpr (.object hkeys ?_)⟩
    exact List.forall_mem_cons.mpr ⟨.value _, List.forall_mem_singleton.mpr (.upload _)⟩
  · exact List.forall_mem_singleton.mpr (.value _)

/-- The texts of an album lead to both of its files, one of them in an object within a list. -/
theorem payload_rebuilds_album :
    ∃ operations map files receipt, albumRequest.payload = .multipart operations map files ∧
      map = "\x7b\"1\":[\"variables.pages.1.0\"],\"2\":[\"variables.cover\"]\x7d" ∧
      Receipt.ofTexts? operations map = some receipt ∧ receipt.Rebuilds albumRequest files ∧
      receipt.places =
        [("1", ["variables", "pages", "1", "0"]), ("2", ["variables", "cover"])] := by
  have hpayload : albumRequest.payload = .multipart
      ("\x7b\"query\":\"\",\"variables\":\x7b\"cover\":null," ++
        "\"pages\":[null,\x7b\"note\":null,\"0\":null\x7d]," ++
        "\"title\":\"0\"\x7d,\"operationName\":\"Publish\"\x7d")
      "\x7b\"1\":[\"variables.pages.1.0\"],\"2\":[\"variables.cover\"]\x7d"
      [{ formIndex := "1", path := ["variables", "pages", "1", "0"],
         file := { path := "1.png", contentType? := none } },
        { formIndex := "2", path := ["variables", "cover"],
          file := { path := "cover.png", contentType? := none } }] := by
    decide +kernel
  obtain ⟨receipt, htexts, hrebuilds⟩ :=
    payload_rebuilds distinctKeys_toJson_album undotted_album hpayload
  exact ⟨_, _, _, receipt, hpayload, rfl, htexts, hrebuilds, hrebuilds.places⟩

end Request

end GraphqlClient
