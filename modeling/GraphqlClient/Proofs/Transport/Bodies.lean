import GraphqlClient.Proofs.Http.MediaType
import GraphqlClient.Proofs.Outcome
import GraphqlClient.Proofs.Transport.Precedence
import GraphqlClient.Proofs.Transport.Secrets
import GraphqlClient.Proofs.Variables.Numbering
import Mathlib

/-!
# Bodies along redirects

A call makes its body anew for every hop: the texts of the payload are taken as they are, and each
file is opened again.  So a hop posts what the first hop posted, if the files are still what they
were; which status has led there does not matter.  What the body is, each post says once, whatever
the sources of header fields say about it.  Main statement: `Transport.execute_resends`.
-/

namespace GraphqlClient

/-! ### Base names -/

/-- A path has at least one component. -/
lemma pathComponents_ne_nil (path : List Char) : pathComponents path ≠ [] := by
  fun_cases pathComponents path with
  | case1 => exact List.cons_ne_nil _ _
  | case2 => exact List.cons_ne_nil _ _
  | case3 => exact List.cons_ne_nil _ _
  | case4 => exact List.cons_ne_nil _ _

/-- A slash ends the components before it. -/
lemma pathComponents_append (folder rest : List Char) :
    pathComponents (folder ++ '/' :: rest) = pathComponents folder ++ pathComponents rest := by
  induction folder with
  | nil => rfl
  | cons c folder ih =>
    by_cases hc : c = '/'
    · subst hc
      exact congrArg ([] :: ·) ih
    · obtain ⟨first, more, hfolder⟩ := List.exists_cons_of_ne_nil (pathComponents_ne_nil folder)
      rw [List.cons_append, pathComponents.eq_3 c _ hc, pathComponents.eq_3 c _ hc, ih, hfolder]
      rfl

/-- A name without a slash is a single component. -/
lemma pathComponents_eq_singleton {name : List Char} (h : '/' ∉ name) :
    pathComponents name = [name] := by
  induction name with
  | nil => rfl
  | cons c name ih =>
    rw [List.mem_cons, not_or] at h
    obtain ⟨hc, hname⟩ := h
    rw [pathComponents.eq_3 c _ (Ne.symm hc), ih hname]

/-- The base name of a file is what its path has after the last slash, if that is the name of a file
at all. -/
theorem Upload.fileName_eq {u : Upload} {folder name : String}
    (hpath : u.path = folder ++ "/" ++ name) (hslash : '/' ∉ name.toList)
    (hname : name ∉ ["", ".", ".."]) : u.fileName = name := by
  have hlast : pathComponents u.path.toList = pathComponents folder.toList ++ [name.toList] := by
    rw [hpath, String.toList_append, String.toList_append, List.append_assoc]
    exact (pathComponents_append _ _).trans (congrArg _ (pathComponents_eq_singleton hslash))
  have hempty : name.toList ≠ [] := fun h => hname (by simp [String.toList_eq_nil_iff.mp h])
  have hdot : name.toList ≠ ['.'] :=
    fun h => hname (by simp [String.toList_injective (h.trans (b := ".".toList) rfl)])
  have hdots : name.toList ≠ ['.', '.'] := fun h =>
    hname (by simp [String.toList_injective (h.trans (b := "..".toList) rfl)])
  rw [fileName, hlast, List.reverse_append, List.reverse_singleton, List.singleton_append,
    List.dropWhile_cons_of_neg (by simp [hempty, hdot])]
  split
  · next h => exact absurd h (List.cons_ne_nil _ _)
  · next h => exact absurd (List.cons.inj h).1 hdots
  · next h =>
    rw [← (List.cons.inj h).1]
    exact String.ofList_toList

/-! ### What a body carries -/

/-- A part of a form carries a file: it is named by the form field, and has the base name of the
file, what opening it gives, and its content type, written again, if one is given. -/
structure FormPart.Carries (disk : Disk) (file : FilePart) (part : FormPart) : Prop where
  name : part.name = file.formIndex
  fileName : part.fileName? = some file.file.fileName
  content : disk file.file.path = .ok part.content?
  contentType : Option.Rel (fun given sent => MediaType.read? given = some sent ∧
    MediaType.Restates given sent) file.file.contentType? part.contentType?

/-- A part of a form holds a text under a name, and neither the name nor the type of a file. -/
structure FormPart.Holds (name text : String) (part : FormPart) : Prop where
  name : part.name = name
  fileName : part.fileName? = none
  content : part.content? = some (bytesOf text)
  contentType : part.contentType? = none

/-- A body carries a payload: it is the text that says what is asked, or a form with this text, the
map of the files, and one part for each file, in this order. -/
inductive Body.Carries (disk : Disk) : Payload → Body → Prop
  | json (operations : String) : Carries disk (.json operations) (.json operations)
  | form {operations map : String} {files : List FilePart} {asked mapped : FormPart}
      {parts : List FormPart} (asks : FormPart.Holds "operations" operations asked)
      (maps : FormPart.Holds "map" map mapped)
      (each : List.Forall₂ (FormPart.Carries disk) files parts) :
      Carries disk (.multipart operations map files) (.form (asked :: mapped :: parts))

/-- What the body of a payload is. -/
def Payload.bodyType : Payload → String
  | .json _ => "application/json"
  | .multipart _ _ _ => "multipart/form-data; boundary=BOUNDARY"

section

variable {disk disk' : Disk} {file : FilePart} {part : FormPart} {payload : Payload} {body : Body}

/-- The part that is made of a text holds it. -/
lemma FormPart.holds_ofText (name text : String) : FormPart.Holds name text (.ofText name text) :=
  ⟨rfl, rfl, rfl, rfl⟩

/-- The part that is made of a file carries it. -/
lemma FormPart.carries_of_ofFile (h : FormPart.ofFile disk file = .ok part) :
    FormPart.Carries disk file part := by
  unfold FormPart.ofFile at h
  obtain ⟨content?, hcontent, h⟩ := bind_eq_ok_iff.mp h
  obtain ⟨contentType?, htype, hpart⟩ := bind_pure_eq_ok_iff.mp h
  subst hpart
  refine ⟨rfl, rfl, mapError_eq_ok_iff.mp hcontent, ?_⟩
  dsimp only
  cases hgiven : file.file.contentType? with
  | none =>
    rw [hgiven] at htype
    obtain rfl := Except.ok.inj htype
    exact .none
  | some given =>
    rw [hgiven, Option.mapM_some] at htype
    obtain ⟨sent, hsent, rfl⟩ := bind_pure_eq_ok_iff.mp htype
    cases hread : MediaType.read? given with
    | none =>
      rw [hread] at hsent
      cases hsent
    | some mediaType =>
      rw [hread] at hsent
      obtain rfl := Except.ok.inj hsent
      exact .some ⟨hread, MediaType.restates_of_read? hread⟩

/-- The body that is made for a payload carries it. -/
lemma Body.carries_of_ofPayload (h : Body.ofPayload disk payload = .ok body) :
    Body.Carries disk payload body := by
  cases payload with
  | json operations =>
    obtain rfl := Except.ok.inj h
    exact .json operations
  | multipart operations map files =>
    obtain ⟨parts, hparts, rfl⟩ := bind_pure_eq_ok_iff.mp h
    have hfiles := mapM_eq_ok_iff.mp hparts
    exact .form (FormPart.holds_ofText _ _) (FormPart.holds_ofText _ _)
      (hfiles.imp fun file part hpart => FormPart.carries_of_ofFile hpart)

/-- The type of a body is that of the payload that it carries. -/
lemma Body.Carries.contentType_eq (h : Body.Carries disk payload body) :
    body.contentType = payload.bodyType := by
  cases h with
  | json operations => rfl
  | form asks maps each => rfl

/-- A body is the same wherever the files are. -/
lemma Body.ofPayload_congr
    (h : ∀ file ∈ payload.files, disk file.file.path = disk' file.file.path) :
    Body.ofPayload disk payload = Body.ofPayload disk' payload := by
  cases payload with
  | json operations => rfl
  | multipart operations map files =>
    have hparts : files.mapM (FormPart.ofFile disk) = files.mapM (FormPart.ofFile disk') := by
      refine mapM_congr fun file hfile => ?_
      unfold FormPart.ofFile
      dsimp only
      rw [h file hfile]
    unfold Body.ofPayload
    dsimp only
    rw [hparts]

end

/-! ### Runs -/

/-- Each hop of a run posts the body that is made of the payload with the files of that time. -/
lemma Payload.Run.opening_of_exchange {payload : Payload} {env : Environment} {redirects hop : Nat}
    {url : Url} {headers : Headers} {xs : List Exchange} {result : Except TransportError Response}
    (h : payload.Run env redirects hop url headers xs result) {k : Nat} {x : Exchange}
    (hx : xs[k]? = some x) :
    Body.ofPayload (env.disk (hop + k)) payload = .ok x.post.body := by
  induction h generalizing k with
  | unopened => simp at hx
  | followed opening _ _ _ _ ih =>
    cases k with
    | zero =>
      obtain rfl : env.exchange _ _ = x := by simpa using hx
      exact opening
    | succ k =>
      have hrest := ih (by simpa using hx)
      rwa [Nat.add_right_comm, Nat.add_assoc] at hrest
  | failed opening | classified opening | exhausted opening | unresolved opening =>
    rw [List.getElem?_singleton, Option.ite_none_right_eq_some, Option.some.injEq] at hx
    obtain ⟨rfl, rfl⟩ := hx
    exact opening

/-- The form fields of the files are counted from one, in the order of the files. -/
lemma Request.formIndices_payload (r : Request) :
    r.payload.files.map (·.formIndex) = (List.range' 1 r.payload.files.length).map toString := by
  have hnumbered := r.variableValues.numbered_extraction
  by_cases hfiles : r.variableValues.extraction.files = []
  · rw [payload, takePayload_of_no_file hfiles]
    rfl
  · rw [payload, takePayload_of_files hfiles, Payload.files, hnumbered.files,
      Extraction.formIndices_number, Extraction.length_number]

/-! ### Calls -/

namespace Transport

/-- Whatever has led to a hop, it posts the payload of the request: the same body as the first hop,
if its files are what they were at the first hop.  The type of the body is said once, and what is
accepted at least once. -/
theorem execute_resends (t : Transport) (env : Environment) (r : Request) {k : Nat} {x : Exchange}
    (hx : (t.execute env r).2.exchanges[k]? = some x) :
    Body.Carries (env.disk k) r.payload x.post.body ∧
    r.payload.files.map (·.formIndex) = (List.range' 1 r.payload.files.length).map toString ∧
    (∀ first, (t.execute env r).2.exchanges[0]? = some first →
      (∀ file ∈ r.payload.files, env.disk k file.file.path = env.disk 0 file.file.path) →
        x.post.body = first.post.body) ∧
    x.post.fields.values "content-type" = [bytesOf r.payload.bodyType] ∧
    x.post.fields.values "accept" ≠ [] := by
  cases hclient : t.connect.client? with
  | none =>
    rw [exchanges_execute_of_no_client hclient] at hx
    simp at hx
  | some client =>
    have hrun := run_execute hclient env r
    have hopening : Body.ofPayload (env.disk k) r.payload = .ok x.post.body := by
      have hhop := hrun.opening_of_exchange hx
      rwa [Nat.zero_add] at hhop
    have hcarries := Body.carries_of_ofPayload hopening
    refine ⟨hcarries, r.formIndices_payload, ?_, ?_, ?_⟩
    · intro first hfirst hfiles
      have hopeningFirst := hrun.opening_of_exchange hfirst
      rw [Body.ofPayload_congr hfiles] at hopening
      exact Except.ok.inj (hopening.symm.trans hopeningFirst)
    · have htype : "content-type" ∉ sensitiveNames := by decide
      rw [Post.values_contentType_fields, hrun.values_of_exchange hx htype,
        t.values_contentType_headers, hcarries.contentType_eq, List.nil_append]
    · have haccept : "accept" ∉ sensitiveNames := by decide
      have hdefault : Headers.lastSet (t.headerSources r) "accept" ≠ [] :=
        Headers.lastSet_ne_nil_iff.mpr ⟨_, List.mem_cons_self, rfl⟩
      rw [Post.values_fields _ (by decide), if_neg (by simp), hrun.values_of_exchange hx haccept,
        t.values_headers r (by decide)]
      exact hdefault

/-! ### A form that is posted three times -/

/-- The configuration and the request both say what the body is, and both are wrong. -/
def mislabelled : Transport :=
  { ThereAndBack.transport with
    config := { Config.default with headers := [⟨"content-type", bytesOf "text/plain"⟩,
      ⟨"content-type", []⟩] } }

/-- A request with a picture. -/
def pictureRequest : Request :=
  { ThereAndBack.request with
    variableValues :=
      [("cover", .upload { path := "art/cover.png", contentType? := some "Image/PNG;" })]
    headers := [⟨"content-type", bytesOf "text/html"⟩] }

/-- The endpoint has moved, and then sends to another server as if for reading.  Any file can be
opened. -/
def movingEnvironment : Environment where
  network := .scripted
    [some { Answer.ofRedirect "/moved" with status := 301 },
      some { Answer.ofRedirect "//b" with status := 303 },
      some { status := 204, headers := [], body? := none }]
  disk := fun _ _ => .ok (some (bytesOf "pixels"))

/-- After two redirects the whole form is posted to another server, with its own type. -/
theorem execute_resends_picture :
    ∃ x, (mislabelled.execute movingEnvironment pictureRequest).2.exchanges[2]? = some x ∧
      x.post.url = .ofServer "b" ∧
      x.post.body = .form
        [{ name := "operations", fileName? := none, contentType? := none,
           content? := some (bytesOf
            "\x7b\"query\":\"\",\"variables\":\x7b\"cover\":null\x7d\x7d") },
          { name := "map", fileName? := none, contentType? := none,
            content? := some (bytesOf "\x7b\"1\":[\"variables.cover\"]\x7d") },
          { name := "1", fileName? := some "cover.png", contentType? := some "image/png",
            content? := some (bytesOf "pixels") }] ∧
      x.post.fields.values "content-type" = [bytesOf "multipart/form-data; boundary=BOUNDARY"] := by
  let exchanges := (mislabelled.execute movingEnvironment pictureRequest).2.exchanges
  obtain ⟨x, hx⟩ : ∃ x, exchanges[2]? = some x := Option.isSome_iff_exists.mp (by decide +kernel)
  obtain ⟨first, hfirst⟩ : ∃ first, exchanges[0]? = some first :=
    Option.isSome_iff_exists.mp (by decide +kernel)
  have hurl : exchanges[2]?.map (·.post.url) = some (.ofServer "b") := by decide +kernel
  have hform : exchanges[0]?.map (·.post.body) = some (.form
      [{ name := "operations", fileName? := none, contentType? := none,
         content? := some (bytesOf "\x7b\"query\":\"\",\"variables\":\x7b\"cover\":null\x7d\x7d") },
        { name := "map", fileName? := none, contentType? := none,
          content? := some (bytesOf "\x7b\"1\":[\"variables.cover\"]\x7d") },
        { name := "1", fileName? := some "cover.png", contentType? := some "image/png",
          content? := some (bytesOf "pixels") }]) := by
    decide +kernel
  have htypeOfForm : pictureRequest.payload.bodyType =
      "multipart/form-data; boundary=BOUNDARY" := by
    decide +kernel
  obtain ⟨-, -, hsame, htype, -⟩ := execute_resends mislabelled movingEnvironment pictureRequest hx
  rw [hx] at hurl
  rw [hfirst] at hform
  rw [htypeOfForm] at htype
  have hbody := hsame first hfirst fun _ _ => rfl
  exact ⟨x, hx, Option.some.inj hurl, hbody.trans (Option.some.inj hform), htype⟩

end Transport

end GraphqlClient
