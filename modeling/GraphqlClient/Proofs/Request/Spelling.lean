import GraphqlClient.Proofs.Request.Operations
import GraphqlClient.Proofs.Variables.Spelling

/-!
# What a payload shows of a request

A payload consists of the text of a request and of the files in its variables, by number; all else
about it follows (`Request.payload_eq_ofFiles`).  So the lists and objects that are spelled out in
the variables cannot be told from those that are given as JSON, though the walk over the variables
looks into the former only.  Nor can anything else be changed unnoticed: requests have one payload
exactly if they print the same document, name the same operation, and their variables differ in
spelling only (`Request.payload_eq_iff`).
-/

namespace GraphqlClient

/-- What is sent with some files, which may be none. -/
def Payload.ofFiles (operations : String) (files : List FilePart) : Payload :=
  if files = [] then .json operations else .multipart operations
    (Extraction.fileMap files).toJson.text files

namespace Payload

/-- The operations of a payload are those that it is made with. -/
lemma operations_ofFiles (operations : String) (files : List FilePart) :
    (ofFiles operations files).operations = operations := by
  unfold ofFiles
  split <;> rfl

/-- The files of a payload are those that it is made with. -/
lemma files_ofFiles (operations : String) (files : List FilePart) :
    (ofFiles operations files).files = files := by
  unfold ofFiles
  split
  · next hnone => exact hnone.symm
  · rfl

end Payload

/-- Texts tell values apart. -/
lemma Json.text_inj {v v' : Json} (h : v.DistinctKeys) (h' : v'.DistinctKeys)
    (htext : v'.text = v.text) :
    v' = v := by
  have hread := parseAnyDepth_text h
  have hread' := parseAnyDepth_text h'
  rw [htext, hread] at hread'
  exact (Except.ok.inj hread').symm

namespace Variables

variable {vs vs' : Variables}

/-- The variables differ only in which lists and objects are given as JSON, and which are spelled
out. -/
def Respelled (vs vs' : Variables) : Prop := Variable.RespelledFields vs vs'

/-- Variables are respelled exactly if the objects that they form are. -/
lemma respelled_iff_object : vs.Respelled vs' ↔ Variable.Respelled (.object vs) (.object vs') := by
  constructor
  · exact .object
  · rintro ⟨⟩
    assumption

/-- Variables that are respelled have the same JSON and the same uploads. -/
lemma Respelled.agree (h : vs.Respelled vs') : vs'.toJson = vs.toJson ∧ vs'.uploads = vs.uploads :=
  (respelled_iff_object.mp h).agree

/-- Variables with the same JSON and the same uploads are respelled. -/
lemma respelled_of_agree (h : vs.DistinctKeys) (h' : vs'.DistinctKeys)
    (hjson : vs'.toJson = vs.toJson) (huploads : vs'.uploads = vs.uploads) : vs.Respelled vs' := by
  refine respelled_iff_object.mpr (Variable.respelled_of_agree (.object vs)
    h h' hjson fun path file => ?_)
  exact iff_of_eq (congrArg ((path, file) ∈ ·) huploads)

/-- The files show which uploads there are, and where. -/
lemma files_plainExtraction_inj (h : vs'.plainExtraction.files = vs.plainExtraction.files) :
    vs'.uploads = vs.uploads := by
  have huploads : ∀ vs : Variables,
      vs.plainExtraction.files.map (fun part => (part.path.tail, part.file)) =
          vs.uploads.reverse := by
    intro vs
    have hfiles : vs.extraction.files = vs.plainExtraction.files := vs.numbered_extraction.files
    rw [← hfiles, map_tail_files]
  have hreverse := huploads vs'
  rw [h, huploads vs] at hreverse
  exact (List.reverse_injective hreverse).symm

/-- Whether there are variables can be told from their JSON. -/
lemma isEmpty_eq_of_toJson_eq (h : vs'.toJson = vs.toJson) : vs'.isEmpty = vs.isEmpty := by
  have hlength := congrArg List.length (Json.object.inj h)
  rw [Variable.fieldsToJson_eq, Variable.fieldsToJson_eq, List.length_map,
    List.length_map] at hlength
  rw [Bool.eq_iff_iff, List.isEmpty_iff_length_eq_zero, List.isEmpty_iff_length_eq_zero, hlength]

end Variables

namespace Request

variable {r r' : Request}

/-! ### The parts of a payload -/

/-- The payload is the text of the request with the uploads in its variables, numbered from right to
left. -/
lemma payload_eq_ofFiles (h : r.variableValues.DistinctKeys) :
    r.payload = .ofFiles r.operationsJson.text r.variableValues.plainExtraction.files := by
  have hplain : r.variableValues.extraction.files = r.variableValues.plainExtraction.files :=
    r.variableValues.numbered_extraction.files
  rw [payload, ← hplain]
  by_cases hfiles : r.variableValues.extraction.files = []
  · rw [takePayload_of_no_file hfiles, Payload.ofFiles, if_pos hfiles]
  · rw [takePayload_of_files hfiles, Payload.ofFiles, if_neg hfiles, operationsJson_remainder h,
      r.variableValues.numbered_extraction.map]

/-- The operations depend on the printed document, the name and the JSON of the variables alone. -/
lemma operationsJson_congr (hdocument : r'.document.print = r.document.print)
    (hname : r'.operationName? = r.operationName?)
    (hjson : r'.variableValues.toJson = r.variableValues.toJson) :
    r'.operationsJson = r.operationsJson := by
  rw [operationsJson_eq, operationsJson_eq, hdocument, hname, hjson,
    Variables.isEmpty_eq_of_toJson_eq hjson]

/-- The operations tell the printed document, the JSON of the variables and the name. -/
lemma operationsJson_inj (h : r'.operationsJson = r.operationsJson) :
    r'.document.print = r.document.print ∧ r'.variableValues.toJson = r.variableValues.toJson ∧
      r'.operationName? = r.operationName? := by
  obtain ⟨entries, hentries, hasked⟩ := r.exists_askedBy
  obtain ⟨entries', hentries', hasked'⟩ := r'.exists_askedBy
  obtain rfl : entries' = entries := Json.object.inj (hentries'.symm.trans (h.trans hentries))
  exact hasked'.unique hasked

/-! ### Requests with one payload -/

/-- Requests whose variables differ in spelling only have one payload, with the same texts and the
same files under the same numbers; and nothing but the spelling of the variables, the context and
the header fields can differ where the payload is the same. -/
theorem payload_eq_iff (hkeys : r.variableValues.toJson.DistinctKeys)
    (hkeys' : r'.variableValues.toJson.DistinctKeys) :
    r'.payload = r.payload ↔ r'.document.print = r.document.print ∧
      r'.operationName? = r.operationName? ∧
      r.variableValues.Respelled r'.variableValues := by
  have hvs : r.variableValues.DistinctKeys :=
    Variable.distinctKeys_of_toJson (.object r.variableValues) hkeys
  have hvs' : r'.variableValues.DistinctKeys :=
    Variable.distinctKeys_of_toJson (.object r'.variableValues) hkeys'
  rw [payload_eq_ofFiles hvs, payload_eq_ofFiles hvs']
  constructor
  · intro hpayload
    have htext := congrArg Payload.operations hpayload
    have hfiles := congrArg Payload.files hpayload
    rw [Payload.operations_ofFiles, Payload.operations_ofFiles] at htext
    rw [Payload.files_ofFiles, Payload.files_ofFiles] at hfiles
    have hoperations : r'.operationsJson = r.operationsJson :=
      Json.text_inj (distinctKeys_operationsJson hkeys) (distinctKeys_operationsJson hkeys') htext
    obtain ⟨hdocument, hjson, hname⟩ := operationsJson_inj hoperations
    exact ⟨hdocument, hname,
      Variables.respelled_of_agree hvs hvs' hjson (Variables.files_plainExtraction_inj hfiles)⟩
  · rintro ⟨hdocument, hname, hrespelled⟩
    obtain ⟨hjson, huploads⟩ := hrespelled.agree
    rw [operationsJson_congr hdocument hname hjson, Variables.plainExtraction,
      Variables.plainExtraction, huploads]

/-- A search with a picture, where the filter is given as JSON. -/
def search : Request where
  document := []
  operationName? := none
  variableValues :=
    [("filter", .value (.object [("tags", .array [.string "sky", .null]), ("limit", .null)])),
      ("picture", .list [.upload { path := "1.png", contentType? := none }, .value (.array [])])]
  context := []
  headers := []

/-- The same search with the filter spelled out down to its tags, and an empty list spelled out. -/
def searchSpelledOut : Request :=
  { search with
    variableValues :=
      [("filter", .object [("tags", .list [.value (.string "sky"), .null]), ("limit", .null)]),
        ("picture", .list [.upload { path := "1.png", contentType? := none }, .list []])] }

/-- No key is repeated in the search. -/
lemma distinctKeys_search : search.variableValues.toJson.DistinctKeys := by
  have hnames : ["filter", "picture"].Nodup := by decide
  have hkeys : ["tags", "limit"].Nodup := by decide
  refine .object hnames
    (List.forall_mem_cons.mpr ⟨.object hkeys ?_, List.forall_mem_singleton.mpr (.array ?_)⟩)
  · refine List.forall_mem_cons.mpr ⟨.array ?_, List.forall_mem_singleton.mpr .null⟩
    exact List.forall_mem_cons.mpr ⟨.string "sky", List.forall_mem_singleton.mpr .null⟩
  · exact List.forall_mem_cons.mpr ⟨.null, List.forall_mem_singleton.mpr (.array nofun)⟩

/-- Both spellings of the search have one payload, with a file. -/
theorem payload_eq_iff_search :
    search.variableValues.toJson.DistinctKeys ∧
      searchSpelledOut.variableValues.toJson.DistinctKeys ∧
    searchSpelledOut.payload = search.payload ∧
    search.payload.files =
      [{ formIndex := "1", path := ["variables", "picture", "0"],
         file := { path := "1.png", contentType? := none } }] := by
  have hkeys : searchSpelledOut.variableValues.toJson.DistinctKeys := distinctKeys_search
  have hrespelled : search.variableValues.Respelled searchSpelledOut.variableValues := by
    refine .cons "filter"
      (.spellObject (.cons "tags" (.spellList ?_) (.cons "limit" (.value _) .nil))) ?_
    · exact .cons (.value _) (.cons (.value _) .nil)
    · exact .cons "picture" (.list (.cons (.upload _) (.cons (.spellList .nil) .nil))) .nil
  refine ⟨distinctKeys_search, hkeys, ?_, by decide +kernel⟩
  exact (payload_eq_iff distinctKeys_search hkeys).mpr ⟨rfl, rfl, hrespelled⟩

end Request

end GraphqlClient
