import GraphqlClient.Proofs.Outcome
import GraphqlClient.Proofs.Transport.Bodies
import GraphqlClient.Proofs.Transport.Redirects
import Mathlib

/-!
# Files that cannot be sent

Before each post of a call its files are opened, one after the other, and their content types are
read.  The first file for which this does not work out ends the call there and then: nothing is
posted at that hop, whatever its address is, and nothing after it (`Payload.Run.of_reachesHop`).
What was posted before does not depend on what becomes of the files later (`Payload.Run.take_eq`).
Main statement: `Transport.execute_stopsAtFaults`.
-/

namespace GraphqlClient

/-! ### Files -/

namespace FilePart

/-- A file can be opened, and what it is is told, if at all, by a media type. -/
structure Sendable (disk : Disk) (file : FilePart) : Prop where
  opens : ∃ content?, disk file.file.path = .ok content?
  contentType : ∀ contentType ∈ file.file.contentType?, ∃ mediaType, MediaType.read? contentType =
    some mediaType

/-- A file cannot be sent, for the reason that an error tells.  Opening it comes first. -/
inductive Faulty (disk : Disk) (file : FilePart) : TransportError → Prop
  | unopened {fault} (missing : disk file.file.path = .error fault) :
      Faulty disk file (.unopenedUpload file.file.path fault)
  | mislabelled {content? contentType} (opens : disk file.file.path = .ok content?)
      (given : file.file.contentType? = some contentType)
      (unreadable : MediaType.read? contentType = none) :
      Faulty disk file (.invalidContentType contentType)

end FilePart

/-- An error is that of the first of some files that cannot be sent. -/
def FirstFault (disk : Disk) (files : List FilePart) (e : TransportError) : Prop :=
  ∃ before file after, files = before ++ file :: after ∧
    (∀ earlier ∈ before, earlier.Sendable disk) ∧
    file.Faulty disk e

/-- The error blames a file. -/
def TransportError.BlamesFile : TransportError → Prop
  | .unopenedUpload .. | .invalidContentType .. => True
  | _ => False

section

variable {disk : Disk} {file : FilePart} {e : TransportError}

/-- The fault of a file is blamed on a file. -/
lemma FilePart.Faulty.blamesFile (h : file.Faulty disk e) : e.BlamesFile := by
  cases h with
  | unopened => trivial
  | mislabelled => trivial

/-- The first fault among files is blamed on a file. -/
lemma FirstFault.blamesFile {files : List FilePart} (h : FirstFault disk files e) :
    e.BlamesFile := by
  obtain ⟨-, file, -, -, -, hfaulty⟩ := h
  exact hfaulty.blamesFile

namespace FormPart

/-- A part is made of a file exactly if the file can be sent. -/
lemma exists_ofFile_iff : (∃ part, ofFile disk file = .ok part) ↔ file.Sendable disk := by
  constructor
  · rintro ⟨part, hpart⟩
    have hcarries := carries_of_ofFile hpart
    refine ⟨⟨_, hcarries.content⟩, fun contentType hgiven => ?_⟩
    have htype := hcarries.contentType
    rw [Option.mem_def.mp hgiven] at htype
    generalize part.contentType? = sent? at htype
    cases htype with
    | some hread => exact ⟨_, hread.1⟩
  · rintro ⟨⟨content?, hopen⟩, htype⟩
    exact exists_ofFile hopen htype

/-- Otherwise the error tells why not. -/
lemma ofFile_eq_error_iff : ofFile disk file = .error e ↔ file.Faulty disk e := by
  unfold ofFile
  dsimp only
  cases hopen : disk file.file.path with
  | error fault =>
    constructor
    · intro h
      cases h
      exact .unopened hopen
    · intro h
      cases h with
      | unopened missing =>
        obtain rfl := Except.error.inj (hopen.symm.trans missing)
        rfl
      | mislabelled opens => cases hopen.symm.trans opens
  | ok content? =>
    -- The file is open; it can only be its content type that is at fault.
    cases hgiven : file.file.contentType? with
    | none =>
      constructor
      · intro h
        cases h
      · intro h
        cases h with
        | unopened missing => cases hopen.symm.trans missing
        | mislabelled _ given => cases hgiven.symm.trans given
    | some contentType =>
      cases hread : MediaType.read? contentType with
      | none =>
        constructor
        · intro h
          rw [Option.mapM_some, hread] at h
          cases h
          exact .mislabelled hopen hgiven hread
        · intro h
          cases h with
          | unopened missing => cases hopen.symm.trans missing
          | mislabelled _ given =>
            obtain rfl := Option.some.inj (hgiven.symm.trans given)
            rw [Option.mapM_some, hread]
            rfl
      | some mediaType =>
        constructor
        · intro h
          rw [Option.mapM_some, hread] at h
          cases h
        · intro h
          cases h with
          | unopened missing => cases hopen.symm.trans missing
          | mislabelled _ given unreadable =>
            obtain rfl := Option.some.inj (hgiven.symm.trans given)
            cases hread.symm.trans unreadable

end FormPart

namespace Body

variable {payload : Payload}

/-- A body is made exactly if all files can be sent. -/
lemma exists_ofPayload_iff :
    (∃ body, ofPayload disk payload = .ok body) ↔ ∀ file ∈ payload.files, file.Sendable disk := by
  cases payload with
  | json operations => exact ⟨fun _ => nofun, fun _ => ⟨_, rfl⟩⟩
  | multipart operations map files =>
    simp only [Payload.files, ← FormPart.exists_ofFile_iff, ← exists_mapM_eq_ok_iff]
    constructor
    · rintro ⟨body, hbody⟩
      obtain ⟨parts, hparts, -⟩ := bind_pure_eq_ok_iff.mp hbody
      exact ⟨parts, hparts⟩
    · rintro ⟨parts, hparts⟩
      exact ⟨_, bind_pure_eq_ok_iff.mpr ⟨parts, hparts, rfl⟩⟩

/-- Otherwise the first file that cannot be sent is to blame. -/
lemma ofPayload_eq_error_iff :
    ofPayload disk payload = .error e ↔ FirstFault disk payload.files e := by
  cases payload with
  | json operations =>
    constructor
    · exact nofun
    · rintro ⟨before, file, after, hsplit, -⟩
      exact absurd hsplit.symm (by simp [Payload.files])
  | multipart operations map files =>
    have hbody : ofPayload disk (.multipart operations map files) = .error e ↔
        files.mapM (FormPart.ofFile disk) = .error e := by
      refine bind_eq_error_iff.trans ⟨?_, .inl⟩
      rintro (hparts | ⟨parts, -, hpure⟩)
      · exact hparts
      · cases hpure
    rw [hbody, mapM_eq_error_iff]
    simp only [FormPart.exists_ofFile_iff, FormPart.ofFile_eq_error_iff]
    rfl

end Body

end

/-! ### Hops -/

/-- After some exchanges, hop `k` is the next one to be made or was made, and it goes to an address:
the first one to where the call starts, and each other one to where the redirect before it leads. -/
def ReachesHop (start : Url) (redirects : Nat) (xs : List Exchange) : Nat → Url → Prop
  | 0, url => url = start
  | k + 1, url => k < redirects ∧ ∃ x location, xs[k]? = some x ∧ x.RedirectsTo location ∧
      x.post.url.Resolves location url

section

variable {payload : Payload} {env : Environment} {redirects hop k : Nat} {start url : Url}
    {headers : Headers}
  {x : Exchange} {xs : List Exchange} {result : Except TransportError Response} {e : TransportError}

/-- A hop is reached from the one before by a redirect that resolves, if one may be followed. -/
lemma reachesHop_succ_iff :
    ReachesHop start redirects xs (k + 1) url ↔ k < redirects ∧ ∃ x location, xs[k]? = some x ∧
      x.RedirectsTo location ∧ x.post.url.Resolves location url := Iff.rfl

/-- If the first exchange leads to an address, the hops after it are those from there on. -/
lemma reachesHop_cons_succ {location : Bytes} {target : Url} (hleads : x.RedirectsTo location)
    (hresolves : x.post.url.Resolves location target) :
    ReachesHop start (redirects + 1) (x :: xs) (k + 1) url ↔
      ReachesHop target redirects xs k url := by
  cases k with
  | zero =>
    constructor
    · rintro ⟨-, y, location', hy, hleads', hresolves'⟩
      obtain rfl : x = y := Option.some.inj hy
      obtain rfl := hleads.unique hleads'
      exact hresolves'.unique hresolves
    · rintro rfl
      exact ⟨Nat.succ_pos _, x, location, rfl, hleads, hresolves⟩
  | succ k =>
    rw [reachesHop_succ_iff, reachesHop_succ_iff, List.getElem?_cons_succ, Nat.add_lt_add_iff_right]

/-- An exchange that a run ends with leads to no other hop. -/
lemma Exchange.EndsWith.not_resolves (h : x.EndsWith redirects result) (hleft : 0 < redirects)
    {location : Bytes} (hleads : x.RedirectsTo location) {target : Url} :
    ¬ x.post.url.Resolves location target := by
  rcases h.of_redirectsTo hleads with ⟨hspent, -⟩ | ⟨-, hnowhere, -⟩
  · omega
  · exact hnowhere target

/-- From an exchange that ends a run no further hop is reached. -/
lemma Exchange.EndsWith.eq_zero_of_reachesHop (h : x.EndsWith redirects result)
    (hreaches : ReachesHop start redirects [x] k url) : k = 0 ∧ url = start := by
  cases k with
  | zero => exact ⟨rfl, hreaches⟩
  | succ k =>
    obtain ⟨hk, y, location, hy, hleads, hresolves⟩ := hreaches
    cases k with
    | zero =>
      obtain rfl : x = y := Option.some.inj hy
      exact absurd hresolves (h.not_resolves hk hleads)
    | succ k => simp at hy

/-- No exchange is to blame for a file. -/
lemma Exchange.EndsWith.not_blamesFile (h : x.EndsWith redirects (.error e)) : ¬ e.BlamesFile := by
  generalize hresult : Except.error e = result at h
  cases h with
  | failed =>
    obtain rfl := Except.error.inj hresult
    exact id
  | settled =>
    rcases Answer.classify_eq_error hresult.symm with ⟨rfl, -⟩ | ⟨_, _, rfl⟩
    · exact id
    · exact id
  | exhausted =>
    obtain rfl := Except.error.inj hresult
    exact id
  | unresolved =>
    obtain rfl := Except.error.inj hresult
    exact id

namespace Payload.Run

/-- To prove something of all runs, it is enough to look at the three things that can become of the
first hop: its body cannot be made, its exchange is the last, or its exchange leads to the hops of
another run. -/
@[elab_as_elim]
theorem hop_induction
    {motive : ∀ redirects hop start headers xs result,
      payload.Run env redirects hop start headers xs result → Prop}
    (h : payload.Run env redirects hop start headers xs result)
    (unopened : ∀ {redirects hop start headers e}
      (opening : Body.ofPayload (env.disk hop) payload = .error e),
      motive redirects hop start headers [] (.error e) (.unopened opening))
    (ended : ∀ {redirects hop start headers body result}
      (run : payload.Run env redirects hop start headers [env.exchange hop ⟨start, headers, body⟩]
        result),
      Body.ofPayload (env.disk hop) payload = .ok body →
      (env.exchange hop ⟨start, headers, body⟩).EndsWith redirects result →
      motive redirects hop start headers [env.exchange hop ⟨start, headers, body⟩] result run)
    (followed : ∀ {redirects hop start headers body location target xs result}
      (run : payload.Run env (redirects + 1) hop start headers
        (env.exchange hop ⟨start, headers, body⟩ :: xs) result)
      (rest : payload.Run env redirects (hop + 1) target (headers.carried start target) xs result),
      Body.ofPayload (env.disk hop) payload = .ok body →
      (env.exchange hop ⟨start, headers, body⟩).RedirectsTo location →
        start.Resolves location target →
      motive redirects (hop + 1) target (headers.carried start target) xs result rest →
      motive (redirects + 1) hop start headers (env.exchange hop ⟨start, headers, body⟩ :: xs)
        result run) :
    motive redirects hop start headers xs result h := by
  -- Four of the rules of a run end it with one exchange; what sets them apart is how that one ends.
  induction h with
  | unopened opening => exact unopened opening
  | failed opening silence => exact ended (.failed opening silence) opening (.failed silence)
  | classified opening delivery stays =>
    exact ended (.classified opening delivery stays) opening
      (.settled ((Exchange.settles_iff delivery).mpr stays))
  | exhausted opening delivery leads =>
    exact ended (.exhausted opening delivery leads) opening
      (.exhausted ((Exchange.redirectsTo_iff delivery).mpr leads) rfl)
  | unresolved opening delivery leads target =>
    obtain ⟨nowhere, rfl⟩ := redirectTarget_eq_error_iff.mp target
    exact ended (.unresolved opening delivery leads target) opening
      (.unresolved ((Exchange.redirectsTo_iff delivery).mpr leads) (Nat.succ_pos _) nowhere)
  | followed opening delivery leads resolves rest ih =>
    exact followed (.followed opening delivery leads resolves rest) rest opening
      ((Exchange.redirectsTo_iff delivery).mpr leads) (redirectTarget_eq_ok_iff.mp resolves) ih

/-- What a run does at a hop that it reaches: it posts a body there, if one can be made, and else it
is over. -/
theorem of_reachesHop (h : payload.Run env redirects hop start headers xs result)
    (hreaches : ReachesHop start redirects xs k url) :
    (∀ body, Body.ofPayload (env.disk (hop + k)) payload = .ok body →
      ∃ x, xs[k]? = some x ∧ x.post.url = url ∧ x.post.body = body) ∧
    ∀ e, Body.ofPayload (env.disk (hop + k)) payload = .error e → xs.length = k ∧
      result = .error e := by
  induction h using hop_induction generalizing k with
  | @unopened redirects hop start headers e opening =>
    cases k with
    | zero =>
      refine ⟨fun body hbody => ?_, fun e' he' => ?_⟩
      · cases opening.symm.trans hbody
      · obtain rfl := Except.error.inj (opening.symm.trans he')
        exact ⟨rfl, rfl⟩
    | succ k =>
      obtain ⟨-, x, -, hx, -⟩ := hreaches
      simp at hx
  | ended run opening ends =>
    obtain ⟨rfl, rfl⟩ := ends.eq_zero_of_reachesHop hreaches
    refine ⟨fun body' hbody' => ?_, fun e he => ?_⟩
    · obtain rfl := Except.ok.inj (opening.symm.trans hbody')
      exact ⟨_, rfl, rfl, rfl⟩
    · cases opening.symm.trans he
  | followed run rest opening hleads hresolves ih =>
    cases k with
    | zero =>
      obtain rfl : url = _ := hreaches
      refine ⟨fun body' hbody' => ?_, fun e he => ?_⟩
      · obtain rfl := Except.ok.inj (opening.symm.trans hbody')
        exact ⟨_, rfl, rfl, rfl⟩
      · cases opening.symm.trans he
    | succ k =>
      -- Seen from the next address on, the hop is one nearer.
      rw [reachesHop_cons_succ hleads hresolves] at hreaches
      obtain ⟨hposted, hover⟩ := ih hreaches
      rw [Nat.add_right_comm, Nat.add_assoc] at hposted hover
      refine ⟨hposted, fun e he => ?_⟩
      obtain ⟨hlength, hresult⟩ := hover e he
      exact ⟨by rw [List.length_cons, hlength], hresult⟩

/-- A run blames a file only if it reaches one more hop than it has made, and no body can be made
there. -/
theorem of_blamesFile (h : payload.Run env redirects hop start headers xs result)
    (hresult : result = .error e) (hblames : e.BlamesFile) :
    (∃ url, ReachesHop start redirects xs xs.length url) ∧
      Body.ofPayload (env.disk (hop + xs.length)) payload = .error e := by
  induction h using hop_induction with
  | unopened opening =>
    obtain rfl := Except.error.inj hresult
    exact ⟨⟨_, rfl⟩, opening⟩
  | ended run opening ends =>
    subst hresult
    exact absurd hblames ends.not_blamesFile
  | followed run rest opening hleads hresolves ih =>
    obtain ⟨⟨url, hreaches⟩, hbody⟩ := ih hresult
    rw [Nat.add_right_comm, Nat.add_assoc] at hbody
    exact ⟨⟨url, (reachesHop_cons_succ hleads hresolves).mpr hreaches⟩, hbody⟩

/-- The first exchanges of a run do not depend on what becomes of the files after them. -/
theorem take_eq (h : payload.Run env redirects hop start headers xs result) {disk : Nat → Disk}
    {xs' : List Exchange} {result' : Except TransportError Response}
    (h' : payload.Run { env with disk } redirects hop start headers xs' result')
    (hdisk : ∀ j < k, disk (hop + j) = env.disk (hop + j)) : xs'.take k = xs.take k := by
  induction h using hop_induction generalizing k xs' with
  | @unopened redirects hop start headers e opening =>
    cases k with
    | zero => rfl
    | succ k =>
      have hhere : disk hop = env.disk hop := hdisk 0 (Nat.succ_pos k)
      rw [← hhere] at opening
      rw [(h'.unique (.unopened opening)).1]
  | @ended redirects hop start headers body result run opening ends =>
    cases k with
    | zero => rfl
    | succ k =>
      have hhere : disk hop = env.disk hop := hdisk 0 (Nat.succ_pos k)
      rw [← hhere] at opening
      -- The disk is the same at this hop, so that both runs post the same body and get the same
      -- answer.
      cases h' using hop_induction with
      | unopened opening' => cases opening.symm.trans opening'
      | ended _ opening' _ =>
        obtain rfl := Except.ok.inj (opening.symm.trans opening')
        rfl
      | followed _ _ opening' hleads hresolves _ =>
        obtain rfl := Except.ok.inj (opening.symm.trans opening')
        exact absurd hresolves (ends.not_resolves (Nat.succ_pos _) hleads)
  | @followed redirects hop start headers body location target xs result run rest opening hleads
      hresolves ih =>
    cases k with
    | zero => rfl
    | succ k =>
      have hhere : disk hop = env.disk hop := hdisk 0 (Nat.succ_pos k)
      rw [← hhere] at opening
      cases h' using hop_induction with
      | unopened opening' => cases opening.symm.trans opening'
      | ended _ opening' ends =>
        obtain rfl := Except.ok.inj (opening.symm.trans opening')
        exact absurd hresolves (ends.not_resolves (Nat.succ_pos _) hleads)
      | followed _ rest' opening' hleads' hresolves' _ =>
        obtain rfl := Except.ok.inj (opening.symm.trans opening')
        obtain rfl := hleads.unique hleads'
        obtain rfl := hresolves.unique hresolves'
        have hrest := ih rest' fun j hj => by
          rw [Nat.add_right_comm, Nat.add_assoc]
          exact hdisk (j + 1) (Nat.succ_lt_succ hj)
        rw [List.take_succ_cons, List.take_succ_cons, hrest]
        rfl

/-- If no answer comes to a post, that is how the run ends. -/
lemma eq_of_fails (h : payload.Run env redirects hop start headers xs result) (hx : x ∈ xs)
    (hfails : x.Fails) :
    result = .error (.http x.post.url.fault) := by
  induction h using hop_induction with
  | unopened => cases hx
  | ended run opening ends =>
    obtain rfl := List.mem_singleton.mp hx
    exact ends.eq_of_fails hfails
  | followed run rest opening hleads hresolves ih =>
    rcases List.mem_cons.mp hx with rfl | hmem
    · exact absurd hleads hfails.not_redirectsTo
    · exact ih hmem

end Payload.Run

end

/-! ### Calls -/

/-- The files that a call is to send decide how far it gets, where they are those of the time of
each hop. -/
structure Call.StopsAtFaults (call : Call) (env : Environment) (endpoint : Url)
    (files : List FilePart) : Prop where
  /-- The first file that cannot be sent ends the call before the hop is made, wherever it would
  have gone. -/
  stops : ∀ k url e, ReachesHop endpoint maxRedirects call.exchanges k url →
    FirstFault (env.disk k) files e →
    call.exchanges.length = k ∧ call.result = .error e
  /-- If all files can be sent, the hop is made. -/
  posts : ∀ k url, ReachesHop endpoint maxRedirects call.exchanges k url →
    (∀ file ∈ files, file.Sendable (env.disk k)) → ∃ x, call.exchanges[k]? = some x ∧
      x.post.url = url
  /-- Only then does it matter that no client can turn to the address. -/
  address : ∀ k url, ReachesHop endpoint maxRedirects call.exchanges k url →
    url.isReachable = false →
    (∀ file ∈ files, file.Sendable (env.disk k)) → call.result = .error (.http (.address url))
  /-- Nothing else is blamed on a file. -/
  only : ∀ e, call.result = .error e → e.BlamesFile →
    (∃ url, ReachesHop endpoint maxRedirects call.exchanges call.exchanges.length url) ∧
      FirstFault (env.disk call.exchanges.length) files e

namespace Transport

/-- At each hop of a call with a client the files are tried in the order of their form fields, and
the first one that cannot be sent ends the call with its own error and without a post.  The posts of
the hops before are those of any other disk that was the same until then. -/
theorem execute_stopsAtFaults (t : Transport) (env : Environment) (r : Request) {client : Client}
    (hclient : t.connect.client? = some client) :
    r.payload.files.map (·.formIndex) = (List.range' 1 r.payload.files.length).map toString ∧
    (t.execute env r).2.StopsAtFaults env t.endpoint r.payload.files ∧
    ∀ k disk, (∀ j < k, disk j = env.disk j) →
      (t.execute { env with disk } r).2.exchanges.take k =
        (t.execute env r).2.exchanges.take k := by
  have hrun := run_execute hclient env r
  refine ⟨r.formIndices_payload, ?_, ?_⟩
  · have hposts : ∀ k url, ReachesHop t.endpoint maxRedirects (t.execute env r).2.exchanges k url →
        (∀ file ∈ r.payload.files, file.Sendable (env.disk k)) →
        ∃ x, (t.execute env r).2.exchanges[k]? = some x ∧ x.post.url = url := by
      intro k url hreaches hsendable
      obtain ⟨body, hbody⟩ := Body.exists_ofPayload_iff.mpr hsendable
      rw [← Nat.zero_add k] at hbody
      obtain ⟨x, hx, hurl, -⟩ := (hrun.of_reachesHop hreaches).1 body hbody
      exact ⟨x, hx, hurl⟩
    exact {
      stops := by
        intro k url e hreaches hfault
        have hbody := Body.ofPayload_eq_error_iff.mpr hfault
        rw [← Nat.zero_add k] at hbody
        exact (hrun.of_reachesHop hreaches).2 e hbody
      posts := hposts
      address := by
        intro k url hreaches hunreachable hsendable
        obtain ⟨x, hx, rfl⟩ := hposts k url hreaches hsendable
        have hfails : x.Fails := by
          intro answer hanswer
          rw [hrun.delivery_of_exchange hx, Environment.deliver,
            if_neg (by simp [hunreachable])] at hanswer
          cases hanswer
        rw [hrun.eq_of_fails (List.mem_of_getElem? hx) hfails, Url.fault,
          if_neg (by simp [hunreachable])]
      only := by
        intro e hresult hblames
        obtain ⟨hreaches, hbody⟩ := hrun.of_blamesFile hresult hblames
        rw [Nat.zero_add] at hbody
        exact ⟨hreaches, Body.ofPayload_eq_error_iff.mp hbody⟩ }
  · intro k disk hdisk
    exact hrun.take_eq (run_execute hclient { env with disk } r) fun j hj => by
      rw [Nat.zero_add]
      exact hdisk j hj

/-! ### A file that is gone when it is opened again -/

namespace LateFault

/-- The endpoint sends to an address that no client can turn to, and only one file is still there
then. -/
def environment : Environment where
  network := .scripted [some (.ofRedirect "ftp://b/")]
  disk hop path :=
    if hop = 0 || path = "c.txt" then .ok (some (bytesOf "content")) else .error .notFound

/-- A request with three files, whose form fields are counted from the last variable. -/
def request : Request :=
  { ThereAndBack.request with
    variableValues := [("first", .upload { path := "a.txt", contentType? := some "text/plain" }),
      ("second", .upload { path := "b.txt", contentType? := none }),
      ("third", .upload { path := "c.txt", contentType? := none })] }

end LateFault

/-- The call ends with the second file after one post, and says nothing of the address. -/
theorem execute_stopsAtFaults_late :
    let call := (ThereAndBack.transport.execute LateFault.environment LateFault.request).2
    call.exchanges.length = 1 ∧ call.result = .error (.unopenedUpload "b.txt" .notFound) := by
  intro call
  have hclient : ThereAndBack.transport.connect.client? = some { builder := .default } := rfl
  obtain ⟨-, hstops, -⟩ := execute_stopsAtFaults _ LateFault.environment LateFault.request hclient
  refine hstops.stops 1 { Url.ofScheme "ftp" with host? := some (.name "b"), path := .rooted [""] }
    _ ?_ ?_
  · obtain ⟨x, hx, hdelivery, hurl⟩ : ∃ x, call.exchanges[0]? = some x ∧
        x.delivery = .answered (.ofRedirect "ftp://b/") ∧ x.post.url = .ofServer "a" := by
      have hfirst :
          call.exchanges[0]?.any (fun x => x.delivery = .answered (.ofRedirect "ftp://b/") ∧
          x.post.url = .ofServer "a") = true := by decide +kernel
      obtain ⟨x, hx, hholds⟩ := (Option.any_eq_true _ _).mp hfirst
      exact ⟨x, hx, of_decide_eq_true hholds⟩
    refine ⟨by decide, x, bytesOf "ftp://b/", hx, ?_, ?_⟩
    · exact (Exchange.redirectsTo_iff hdelivery).mpr (by decide +kernel)
    · rw [hurl]
      exact ⟨by decide +kernel, toOption_eq_some_iff.mp (by decide +kernel)⟩
  · have hfiles : LateFault.request.payload.files =
        [⟨"1", ["variables", "third"], { path := "c.txt", contentType? := none }⟩,
          ⟨"2", ["variables", "second"], { path := "b.txt", contentType? := none }⟩,
          ⟨"3", ["variables", "first"],
              { path := "a.txt", contentType? := some "text/plain" }⟩] := by
      decide +kernel
    refine ⟨[_], _, [_], hfiles, ?_, .unopened rfl⟩
    intro earlier hearlier
    obtain rfl := List.mem_singleton.mp hearlier
    exact ⟨⟨some (bytesOf "content"), rfl⟩, nofun⟩

end Transport

end GraphqlClient
