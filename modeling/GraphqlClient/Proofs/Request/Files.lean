import GraphqlClient.Proofs.Request.Spelling

/-!
# What a payload shows of files

A file is named in a payload where its content is to be sent, and nowhere else.  Take two requests
with the same variables up to the files themselves (`Variables.AgreeButFiles`): their texts are the
same, and so are the numbers of their files and the paths to them, so that the payloads differ in
the files only, each of which is the one at the end of its path (`Request.payload_agreeButFiles`).
-/

namespace GraphqlClient

namespace Variable

mutual

/-- Two variables are the same but for the files in place of which null is sent. -/
inductive AgreeButFiles : Variable → Variable → Prop
  | value (json : Json) : AgreeButFiles (.value json) (.value json)
  | list {items items' : List Variable} (parts : AgreeButFilesItems items items') :
      AgreeButFiles (.list items) (.list items')
  | object {fields fields' : Entries Variable} (parts : AgreeButFilesFields fields fields') :
      AgreeButFiles (.object fields) (.object fields')
  | upload (file file' : Upload) : AgreeButFiles (.upload file) (.upload file')

inductive AgreeButFilesItems : List Variable → List Variable → Prop
  | nil : AgreeButFilesItems [] []
  | cons {item item' : Variable} {items items' : List Variable} (head : AgreeButFiles item item')
      (tail : AgreeButFilesItems items items') :
        AgreeButFilesItems (item :: items) (item' :: items')

inductive AgreeButFilesFields : Entries Variable → Entries Variable → Prop
  | nil : AgreeButFilesFields [] []
  | cons (key : String) {field field' : Variable} {fields fields' : Entries Variable}
      (head : AgreeButFiles field field') (tail : AgreeButFilesFields fields fields') :
      AgreeButFilesFields ((key, field) :: fields) ((key, field') :: fields')

end

/-- Uploads at the same paths are at the same paths under a common start. -/
lemma paths_under {start : Path} {us us' : List (Path × Upload)}
    (h : us'.map (·.1) = us.map (·.1)) :
    (under start us').map (·.1) = (under start us).map (·.1) := by
  rw [map_fst_under, map_fst_under, h]

mutual

/-- The JSON is the same, and the uploads are at the ends of the same paths. -/
theorem AgreeButFiles.agree {v v' : Variable} : AgreeButFiles v v' →
    v'.toJson = v.toJson ∧ v'.uploads.map (·.1) = v.uploads.map (·.1)
  | .value json => ⟨rfl, rfl⟩
  | .list parts => by
    obtain ⟨hjson, hpaths⟩ := parts.agree
    exact ⟨congrArg Json.array hjson, hpaths 0⟩
  | .object parts => by
    obtain ⟨hjson, hpaths⟩ := parts.agree
    exact ⟨congrArg Json.object hjson, hpaths⟩
  | .upload file file' => ⟨rfl, rfl⟩

/-- Items that agree but for the files have the same JSON and the same upload paths. -/
lemma AgreeButFilesItems.agree {items items' : List Variable} : AgreeButFilesItems items items' →
    itemsToJson items' = itemsToJson items ∧
      ∀ index, (uploadsOfItems index items').map (·.1) = (uploadsOfItems index items).map (·.1)
  | .nil => ⟨rfl, fun _ => rfl⟩
  | .cons head tail => by
    obtain ⟨hjson, hpaths⟩ := head.agree
    obtain ⟨hjsons, hrest⟩ := tail.agree
    refine ⟨by rw [itemsToJson, itemsToJson, hjson, hjsons], fun index => ?_⟩
    rw [uploadsOfItems, uploadsOfItems, List.map_append, List.map_append, paths_under hpaths, hrest]

/-- Fields that agree but for the files have the same JSON and the same upload paths. -/
lemma AgreeButFilesFields.agree {fields fields' : Entries Variable} :
    AgreeButFilesFields fields fields' →
    fieldsToJson fields' = fieldsToJson fields ∧
      (uploadsOfFields fields').map (·.1) = (uploadsOfFields fields).map (·.1)
  | .nil => ⟨rfl, rfl⟩
  | .cons key head tail => by
    obtain ⟨hjson, hpaths⟩ := head.agree
    obtain ⟨hjsons, hrest⟩ := tail.agree
    refine ⟨by rw [fieldsToJson, fieldsToJson, hjson, hjsons], ?_⟩
    rw [uploadsOfFields, uploadsOfFields, List.map_append, List.map_append,
      paths_under hpaths, hrest]

end

end Variable

/-! ### Numbers and paths of files -/

/-- Two files have one form field and belong to one place. -/
def FilePart.SamePlace (part part' : FilePart) : Prop :=
  part'.formIndex = part.formIndex ∧ part'.path = part.path

namespace Extraction

/-- The numbers of files and the paths to them do not depend on what the files are. -/
lemma number_samePlace {us us' : List (Path × Upload)} (h : us'.map (·.1) = us.map (·.1))
    (start : Nat) :
    List.Forall₂ FilePart.SamePlace (number start us) (number start us') := by
  induction us generalizing us' start with
  | nil =>
    obtain rfl : us' = [] := List.map_eq_nil_iff.mp h
    exact .nil
  | cons u us ih =>
    cases us' with
    | nil => cases h
    | cons u' us' =>
      obtain ⟨hpath, hpaths⟩ := List.cons.inj h
      exact .cons ⟨rfl, hpath⟩ (ih hpaths (start + 1))

/-- Nor does the map of the files. -/
lemma fileMap_congr {files files' : List FilePart}
    (h : List.Forall₂ FilePart.SamePlace files files') :
    fileMap files' = fileMap files := by
  induction h with
  | nil => rfl
  | @cons part part' _ _ hsame _ ih =>
    obtain ⟨hindex, hpath⟩ := hsame
    unfold fileMap at ih ⊢
    rw [List.map_cons, List.map_cons, ih, hindex, hpath]

end Extraction

namespace Payload

/-- The payload with other files, if it has any. -/
def withFiles (files : List FilePart) : Payload → Payload
  | .json operations => .json operations
  | .multipart operations map _ => .multipart operations map files

/-- Files at the same places make payloads that differ in the files only. -/
lemma ofFiles_samePlace (operations : String) {files files' : List FilePart}
    (h : List.Forall₂ FilePart.SamePlace files files') :
    ofFiles operations files' = (ofFiles operations files).withFiles files' := by
  cases h with
  | nil => rfl
  | cons hhead htail =>
    rw [ofFiles, if_neg (List.cons_ne_nil _ _), ofFiles, if_neg (List.cons_ne_nil _ _), withFiles,
      Extraction.fileMap_congr (.cons hhead htail)]

end Payload

namespace Variables

variable {vs vs' : Variables}

/-- The variables are the same but for the files in them. -/
def AgreeButFiles (vs vs' : Variables) : Prop := Variable.AgreeButFilesFields vs vs'

/-- Variables that agree but for the files have the same JSON and the same upload paths. -/
lemma AgreeButFiles.agree (h : vs.AgreeButFiles vs') :
    vs'.toJson = vs.toJson ∧ vs'.uploads.map (·.1) = vs.uploads.map (·.1) := by
  obtain ⟨hjson, hpaths⟩ := Variable.AgreeButFilesFields.agree h
  exact ⟨congrArg Json.object hjson, hpaths⟩

/-- Variables that agree but for the files have their files at the same places. -/
lemma AgreeButFiles.files (h : vs.AgreeButFiles vs') :
    List.Forall₂ FilePart.SamePlace vs.plainExtraction.files vs'.plainExtraction.files := by
  obtain ⟨-, hpaths⟩ := h.agree
  refine Extraction.number_samePlace (Variable.paths_under ?_) 1
  rw [List.map_reverse, List.map_reverse, hpaths]

/-- Each file that is taken out is the upload at the end of its path. -/
lemma read?_of_mem_plainExtraction (h : vs.DistinctKeys) {part : FilePart}
    (hpart : part ∈ vs.plainExtraction.files) :
    ∃ rest, part.path = "variables" :: rest ∧ vs.read? rest = some (.upload part.file) := by
  rw [← extraction_eq_plainExtraction h] at hpart
  obtain ⟨rest, hpath, hmem⟩ := exists_of_mem_files hpart
  refine ⟨rest, hpath, ?_⟩
  rw [read?_eq (ne_nil_of_mem_uploads hmem)]
  exact (Variable.mem_uploads_iff h).mp hmem

end Variables

namespace Request

variable {r r' : Request}

/-- Requests that ask the same with other files, in whatever context and with whatever header
fields, have payloads of one kind with the same texts.  Their files come in the same order, with the
same form fields and paths, and each is the upload at the end of its path. -/
theorem payload_agreeButFiles (hkeys : r.variableValues.toJson.DistinctKeys)
    (hdocument : r'.document = r.document) (hname : r'.operationName? = r.operationName?)
    (hvalues : r.variableValues.AgreeButFiles r'.variableValues) :
    r'.payload = r.payload.withFiles r'.payload.files ∧
    List.Forall₂ FilePart.SamePlace r.payload.files r'.payload.files ∧
    (∀ part ∈ r.payload.files, ∃ rest, part.path = "variables" :: rest ∧
      r.variableValues.read? rest = some (.upload part.file)) ∧
    ∀ part ∈ r'.payload.files, ∃ rest, part.path = "variables" :: rest ∧
      r'.variableValues.read? rest = some (.upload part.file) := by
  obtain ⟨hjson, -⟩ := hvalues.agree
  have hkeys' : r'.variableValues.toJson.DistinctKeys := by rwa [hjson]
  have hvs : r.variableValues.DistinctKeys :=
    Variable.distinctKeys_of_toJson (.object r.variableValues) hkeys
  have hvs' : r'.variableValues.DistinctKeys :=
    Variable.distinctKeys_of_toJson (.object r'.variableValues) hkeys'
  have htext : r'.operationsJson = r.operationsJson :=
    operationsJson_congr (congrArg Document.print hdocument) hname hjson
  have hfiles := hvalues.files
  rw [payload_eq_ofFiles hvs, payload_eq_ofFiles hvs', htext, Payload.files_ofFiles,
    Payload.files_ofFiles]
  refine ⟨Payload.ofFiles_samePlace _ hfiles, hfiles, fun part hpart => ?_, fun part hpart => ?_⟩
  · exact Variables.read?_of_mem_plainExtraction hvs hpart
  · exact Variables.read?_of_mem_plainExtraction hvs' hpart

/-- The album with another cover, for another context. -/
def otherAlbumRequest : Request :=
  { albumRequest with
    variableValues :=
      [("cover", .upload { path := "private/me.png", contentType? := some "image/png" }),
        ("pages", .list [.null, .object
          [("note", .null), ("0", .upload { path := "1.png", contentType? := none })]]),
        ("title", .value (.string "0"))]
    context := [("user", .string "me")] }

/-- The texts of an album do not show its cover, which is the second of its files. -/
theorem payload_agreeButFiles_album :
    albumRequest.variableValues.toJson.DistinctKeys ∧
    albumRequest.variableValues.AgreeButFiles otherAlbumRequest.variableValues ∧
    otherAlbumRequest.payload.operations = albumRequest.payload.operations ∧
    otherAlbumRequest.payload.files.map (·.file.path) = ["1.png", "private/me.png"] := by
  have hvalues : albumRequest.variableValues.AgreeButFiles otherAlbumRequest.variableValues := by
    refine .cons "cover" (.upload _ _)
      (.cons "pages" (.list (.cons (.value _) (.cons (.object ?_) .nil))) ?_)
    · exact .cons "note" (.value _) (.cons "0" (.upload _ _) .nil)
    · exact .cons "title" (.value _) .nil
  have hdocument : otherAlbumRequest.document = albumRequest.document := rfl
  have hname : otherAlbumRequest.operationName? = albumRequest.operationName? := rfl
  obtain ⟨hpayload, -⟩ := payload_agreeButFiles distinctKeys_toJson_album hdocument hname hvalues
  refine ⟨distinctKeys_toJson_album, hvalues, ?_, by decide +kernel⟩
  rw [hpayload]
  cases albumRequest.payload <;> rfl

end Request

end GraphqlClient
