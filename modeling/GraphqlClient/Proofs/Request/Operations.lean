import GraphqlClient.Proofs.Request.Rebuild
import Mathlib

/-!
# The text of a request

Files are taken out of the variables before the request is written, but the text does not show it:
null stands for a file before and after.  So the text is that of the request as it was given, and a
request whose files have been taken is written in the same way again.  What is asked can be read off
the text (`Request.payload_encodes`).
-/

namespace GraphqlClient

/-! ### What an object asks -/

/-- The entries of an object ask what a request asks. -/
structure Request.AskedBy (r : Request) (entries : Entries Json) : Prop where
  /-- Nothing else is there, and variables and a name only if the request has them. -/
  keys : entries.keys = "query" :: ((if r.variableValues.isEmpty then [] else ["variables"]) ++
    (if r.operationName?.isSome then ["operationName"] else []))
  document : entries.lookup "query" = some (.string r.document.print)
  values : entries.lookup "variables" =
    if r.variableValues.isEmpty then none else some r.variableValues.toJson
  name : entries.lookup "operationName" = r.operationName?.map .string
  /-- Null stands in the place of each upload. -/
  uploads : ∀ path file, r.variableValues.read? path = some (.upload file) →
    (Json.object entries).at? ("variables" :: path) = some .null
  /-- What was given as JSON stands there as it was given. -/
  given : ∀ path json, r.variableValues.read? path = some (.value json) →
    (Json.object entries).at? ("variables" :: path) = some json

namespace Variables

variable {vs : Variables}

/-- A path that leads somewhere in the variables leads there in the object of them. -/
lemma read?_object {path : Path} {part : Variable} (h : vs.read? path = some part) :
    (Variable.object vs).read? path = some part := by
  have hpath : path ≠ [] := by
    rintro rfl
    cases h
  rwa [read?_eq hpath] at h

/-- The part at the end of a path is at the end of the same path in the JSON of the variables. -/
lemma at?_toJson {path : Path} {part : Variable} (h : vs.read? path = some part) :
    vs.toJson.at? path = some part.toJson :=
  Variable.at?_toJson (read?_object h)

/-- Variables in which something is found are not empty. -/
lemma isEmpty_eq_false_of_read? {path : Path} {part : Variable} (h : vs.read? path = some part) :
    vs.isEmpty = false := by
  cases vs with
  | cons entry vs => rfl
  | nil => cases path <;> cases h

/-- Files are taken out exactly if there is an upload somewhere. -/
lemma files_extraction_ne_nil_iff (h : vs.DistinctKeys) :
    vs.extraction.files ≠ [] ↔ ∃ path file, vs.read? path = some (.upload file) := by
  have hfiles : vs.extraction.files = [] ↔ vs.uploads = [] := by
    rw [extraction_eq_plainExtraction h, files_plainExtraction_eq_nil_iff]
  rw [Ne, hfiles]
  constructor
  · intro huploads
    obtain ⟨⟨path, file⟩, hmem⟩ := List.exists_mem_of_ne_nil _ huploads
    refine ⟨path, file, ?_⟩
    rw [read?_eq (ne_nil_of_mem_uploads hmem)]
    exact (Variable.mem_uploads_iff h).mp hmem
  · rintro ⟨path, file, hread⟩
    exact List.ne_nil_of_mem ((Variable.mem_uploads_iff h).mpr (read?_object hread))

/-- There is a variable after taking files out exactly if there was one before. -/
lemma isEmpty_remainder (h : vs.DistinctKeys) : vs.extraction.remainder.isEmpty = vs.isEmpty := by
  rw [remainder_extraction h]
  cases vs with
  | nil => rfl
  | cons entry vs => rfl

end Variables

namespace Request

variable {r r' : Request} {entries : Entries Json}

/-! ### The object of a request -/

/-- The operations of a request have its document, its variables if it has any, and its name if it
has one. -/
lemma operationsJson_eq (r : Request) :
    r.operationsJson = .object (("query", .string r.document.print) ::
      ((if r.variableValues.isEmpty then [] else [("variables", r.variableValues.toJson)]) ++
        (r.operationName?.map fun name => ("operationName", Json.string name)).toList)) := rfl

/-- The JSON of a request is an object that asks what the request asks. -/
lemma exists_askedBy (r : Request) :
    ∃ entries : Entries Json, r.operationsJson = .object entries ∧ r.AskedBy entries := by
  refine ⟨_, r.operationsJson_eq, ?_⟩
  generalize hentries : ("query", Json.string r.document.print) :: _ = entries
  have hkeys : Entries.keys entries =
      "query" :: ((if r.variableValues.isEmpty then [] else ["variables"]) ++
      (if r.operationName?.isSome then ["operationName"] else [])) := by
    subst hentries
    cases r.variableValues.isEmpty <;> cases r.operationName? <;> rfl
  have hvalues : entries.lookup "variables" =
      if r.variableValues.isEmpty then none else some r.variableValues.toJson := by
    subst hentries
    cases r.variableValues.isEmpty <;> cases r.operationName? <;> rfl
  have hname : entries.lookup "operationName" = r.operationName?.map .string := by
    subst hentries
    cases r.variableValues.isEmpty <;> cases r.operationName? <;> rfl
  -- If a path leads anywhere, there are variables, and they stand under their key.
  have hpart : ∀ path part, r.variableValues.read? path = some part →
      (Json.object entries).at? ("variables" :: path) = some part.toJson := by
    intro path part hread
    have hlookup : (Json.object entries).part? "variables" = some r.variableValues.toJson := by
      rw [Variables.isEmpty_eq_false_of_read? hread] at hvalues
      exact hvalues
    rw [Json.at?_cons, hlookup, Option.bind_some]
    exact Variables.at?_toJson hread
  exact {
    keys := hkeys
    document := by
      subst hentries
      rfl
    values := hvalues
    name := hname
    uploads := fun path file hread => hpart path _ hread
    given := fun path json hread => hpart path _ hread }

/-- One object asks for one document with the same variables under the same name. -/
lemma AskedBy.unique (h : r.AskedBy entries) (h' : r'.AskedBy entries) :
    r.document.print = r'.document.print ∧ r.variableValues.toJson = r'.variableValues.toJson ∧
      r.operationName? = r'.operationName? := by
  have hdocument : some (Json.string r.document.print) = some (Json.string r'.document.print) :=
    h.document.symm.trans h'.document
  have hname : r.operationName?.map Json.string = r'.operationName?.map Json.string :=
    h.name.symm.trans h'.name
  have hvalues := h.values.symm.trans h'.values
  refine ⟨Json.string.inj (Option.some.inj hdocument), ?_, ?_⟩
  · cases hvs : r.variableValues with
    | nil =>
      cases hvs' : r'.variableValues with
      | nil => rfl
      | cons entry' vs' =>
        rw [hvs, hvs'] at hvalues
        cases hvalues
    | cons entry vs =>
      cases hvs' : r'.variableValues with
      | nil =>
        rw [hvs, hvs'] at hvalues
        cases hvalues
      | cons entry' vs' =>
        rw [hvs, hvs'] at hvalues
        exact Option.some.inj hvalues
  · exact Option.map_injective (fun _ _ => Json.string.inj) hname

/-- No key is repeated in the operations if none is in the variables. -/
lemma distinctKeys_operationsJson (hkeys : r.variableValues.toJson.DistinctKeys) :
    r.operationsJson.DistinctKeys := by
  obtain ⟨entries, hentries, hasked⟩ := r.exists_askedBy
  have hnodup : entries.keys.Nodup := by
    rw [hasked.keys]
    cases r.variableValues.isEmpty <;> cases r.operationName?.isSome <;> decide
  rw [hentries]
  refine .object hnodup ?_
  intro entry hentry
  rw [operationsJson_eq, Json.object.injEq] at hentries
  subst hentries
  rcases List.mem_cons.mp hentry with rfl | hentry
  · exact .string _
  · rcases List.mem_append.mp hentry with hentry | hentry
    · split at hentry
      · cases hentry
      · obtain rfl := List.mem_singleton.mp hentry
        exact hkeys
    · obtain ⟨name, -, rfl⟩ := Option.map_eq_some_iff.mp (Option.mem_toList.mp hentry)
      exact .string _

/-! ### Before and after files are taken out -/

/-- Taking files out does not change what is asked. -/
lemma operationsJson_remainder (h : r.variableValues.DistinctKeys) :
    { r with variableValues := r.variableValues.extraction.remainder }.operationsJson =
      r.operationsJson := by
  rw [operationsJson_eq, operationsJson_eq]
  dsimp only
  rw [Variables.isEmpty_remainder h, Variables.toJson_remainder h]

/-- The text is that of the request before files were taken out, whether there were files or not. -/
lemma operations_payload (h : r.variableValues.DistinctKeys) :
    r.payload.operations = r.operationsJson.text := by
  by_cases hfiles : r.variableValues.extraction.files = []
  · rw [payload, takePayload_of_no_file hfiles]
    rfl
  · rw [payload, takePayload_of_files hfiles]
    exact congrArg Json.text (operationsJson_remainder h)

/-- A payload has several parts exactly if there is an upload among the variables. -/
lemma payload_multipart_iff (h : r.variableValues.DistinctKeys) :
    (∃ operations map files, r.payload = .multipart operations map files) ↔
      ∃ path file, r.variableValues.read? path = some (.upload file) := by
  rw [← Variables.files_extraction_ne_nil_iff h]
  by_cases hfiles : r.variableValues.extraction.files = []
  · rw [payload, takePayload_of_no_file hfiles]
    refine iff_of_false ?_ fun hsome => hsome hfiles
    rintro ⟨operations, map, files, hmultipart⟩
    cases hmultipart
  · rw [payload, takePayload_of_files hfiles]
    exact iff_of_true ⟨_, _, _, rfl⟩ hfiles

/-- The second time there are no files to take. -/
lemma takePayload_takePayload (h : r.variableValues.DistinctKeys) :
    r.takePayload.2.takePayload = (.json r.operationsJson.text, r.takePayload.2) := by
  by_cases hfiles : r.variableValues.extraction.files = []
  · rw [takePayload_of_no_file hfiles]
    exact takePayload_of_no_file hfiles
  · have hagain : r.variableValues.extraction.remainder.extractFiles? = none := by
      rw [Variables.remainder_extraction h]
      exact Variables.extractFiles?_withoutUploads r.variableValues
    rw [takePayload_of_files hfiles, ← operationsJson_remainder h, takePayload]
    dsimp only
    rw [hagain]

/-- Files are sent apart exactly if there is an upload somewhere.  Read however deep it nests, the
text is one object that asks what the request asks: so whoever has the same text asks the same.  It
is the text of the request before files are taken out, and the one that is written again
afterwards. -/
theorem payload_encodes (hkeys : r.variableValues.toJson.DistinctKeys) :
    ((∃ operations map files, r.payload = .multipart operations map files) ↔
      ∃ path file, r.variableValues.read? path = some (.upload file)) ∧
    (∃ entries, Json.parseAnyDepth (bytesOf r.payload.operations) = .ok (.object entries) ∧
      r.AskedBy entries) ∧
    r.payload.operations = r.operationsJson.text ∧
    r.takePayload.2.takePayload = (.json r.payload.operations, r.takePayload.2) ∧
    ∀ r' : Request, r'.variableValues.toJson.DistinctKeys →
      r'.payload.operations = r.payload.operations →
      r'.document.print = r.document.print ∧ r'.variableValues.toJson = r.variableValues.toJson ∧
        r'.operationName? = r.operationName? := by
  have hread : ∀ {r : Request}, r.variableValues.toJson.DistinctKeys →
      Json.parseAnyDepth (bytesOf r.payload.operations) = .ok r.operationsJson := by
    intro r hkeys
    rw [operations_payload (Variable.distinctKeys_of_toJson (.object r.variableValues) hkeys)]
    exact Json.parseAnyDepth_text (distinctKeys_operationsJson hkeys)
  have hvs : r.variableValues.DistinctKeys :=
    Variable.distinctKeys_of_toJson (.object r.variableValues) hkeys
  obtain ⟨entries, hentries, hasked⟩ := r.exists_askedBy
  refine ⟨payload_multipart_iff hvs, ⟨entries, ?_, hasked⟩, operations_payload hvs, ?_, ?_⟩
  · rw [hread hkeys, hentries]
  · rw [takePayload_takePayload hvs, operations_payload hvs]
  · intro r' hkeys' htext
    obtain ⟨entries', hentries', hasked'⟩ := r'.exists_askedBy
    -- The text is read back as the JSON that was printed, so that one text has one JSON.
    have hsame : r'.operationsJson = r.operationsJson := by
      have hboth := (hread hkeys').symm
      rw [htext, hread hkeys] at hboth
      exact Except.ok.inj hboth
    rw [hentries, hentries', Json.object.injEq] at hsame
    subst hsame
    exact hasked'.unique hasked

/-- The text of an album asks for it by name, with null for each of its two files. -/
theorem payload_encodes_album :
    albumRequest.variableValues.toJson.DistinctKeys ∧
    (∃ operations map files, albumRequest.payload = .multipart operations map files) ∧
    ∃ entries : Entries Json, Json.parseAnyDepth (bytesOf albumRequest.payload.operations) =
      .ok (.object entries) ∧
      entries.keys = ["query", "variables", "operationName"] ∧
      (Json.object entries).at? ["variables", "pages", "1", "0"] = some .null ∧
      (Json.object entries).at? ["variables", "title"] = some (.string "0") ∧
      albumRequest.takePayload.2.takePayload.1 = .json albumRequest.payload.operations := by
  obtain ⟨hmultipart, ⟨entries, hparse, hasked⟩, -, hagain, -⟩ :=
    payload_encodes (r := albumRequest) distinctKeys_toJson_album
  refine ⟨distinctKeys_toJson_album, ?_, entries, hparse, hasked.keys, ?_, ?_, ?_⟩
  · exact hmultipart.mpr ⟨["cover"], { path := "cover.png", contentType? := none }, rfl⟩
  · exact hasked.uploads ["pages", "1", "0"] { path := "1.png", contentType? := none } rfl
  · exact hasked.given ["title"] (.string "0") rfl
  · rw [hagain]

end Request

end GraphqlClient
