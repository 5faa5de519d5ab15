import GraphqlClient.Proofs.Transport.Run
import Mathlib

/-!
# Following redirects

Where a call goes and how it ends, said of the list of its exchanges.  Each exchange but the last is
answered with a redirect that resolves, seen from its own address, to the address of the next; the
last one decides the result, by failing, by being no redirect, by leading nowhere, or by being one
redirect too many (`Payload.Run.exists_chain`).  What is true of the result of all calls is read off
there (`Transport.execute_followsRedirects`).
-/

namespace GraphqlClient

/-! ### Kinds of exchanges -/

namespace Exchange

/-- No answer came. -/
def Fails (x : Exchange) : Prop := ∀ answer, x.delivery ≠ .answered answer

/-- The answer has a status from 300 to 399 and a location. -/
def RedirectsTo (x : Exchange) (location : Bytes) : Prop :=
  ∃ answer, x.delivery = .answered answer ∧ 300 ≤ answer.status ∧ answer.status < 400 ∧
    answer.headers.first? "location" = some location

/-- The answer is no redirect. -/
def Settles (x : Exchange) (answer : Answer) : Prop :=
  x.delivery = .answered answer ∧ ∀ location, ¬ x.RedirectsTo location

end Exchange

/-- An answer sends the client to a location exactly when it is a redirect with that location. -/
lemma Answer.location?_eq_some_iff {answer : Answer} {location : Bytes} :
    answer.location? = some location ↔
      300 ≤ answer.status ∧ answer.status < 400 ∧
        answer.headers.first? "location" = some location := by
  unfold Answer.location? Status.isRedirection
  by_cases h : 300 ≤ answer.status ∧ answer.status < 400
  · simp [h]
  · have hnot : ¬ (300 ≤ answer.status ∧ answer.status < 400 ∧
        answer.headers.first? "location" = some location) := fun hall => h ⟨hall.1, hall.2.1⟩
    simp [h, hnot]

namespace Exchange

variable {x : Exchange} {answer : Answer} {location location' : Bytes}

/-- An answer is a redirect to the location that it gives. -/
lemma redirectsTo_iff (hx : x.delivery = .answered answer) :
    x.RedirectsTo location ↔ answer.location? = some location := by
  rw [Answer.location?_eq_some_iff]
  constructor
  · rintro ⟨answer', hx', h⟩
    obtain rfl : answer = answer' := by simpa using hx.symm.trans hx'
    exact h
  · exact fun h => ⟨answer, hx, h⟩

/-- An answer settles a call exactly if it gives no location to go to. -/
lemma settles_iff (hx : x.delivery = .answered answer) :
    x.Settles answer ↔ answer.location? = none := by
  unfold Settles
  simp only [redirectsTo_iff hx, Option.eq_none_iff_forall_ne_some, hx, true_and, ne_eq]

/-- Without an answer there is no redirect. -/
lemma Fails.not_redirectsTo (h : x.Fails) : ¬ x.RedirectsTo location :=
  fun ⟨answer, hx, _⟩ => h answer hx

/-- Without an answer nothing is settled. -/
lemma Fails.not_settles (h : x.Fails) : ¬ x.Settles answer := fun hsettles => h answer hsettles.1

/-- An exchange is settled by one answer only. -/
lemma Settles.unique {answer' : Answer} (h : x.Settles answer) (h' : x.Settles answer') :
    answer = answer' := by
  simpa using h.1.symm.trans h'.1

/-- A redirect is to one location only. -/
lemma RedirectsTo.unique (h : x.RedirectsTo location) (h' : x.RedirectsTo location') :
    location = location' := by
  obtain ⟨answer, hx, -, -, hlocation⟩ := h
  obtain ⟨answer', hx', -, -, hlocation'⟩ := h'
  obtain rfl : answer = answer' := by simpa using hx.symm.trans hx'
  simpa using hlocation.symm.trans hlocation'

end Exchange

/-! ### Locations -/

/-- A location is printable, in which spaces and tabs may stand, and names the target, seen from an
address. -/
def Url.Resolves (url : Url) (location : Bytes) (target : Url) : Prop :=
  (∀ b ∈ location, (0x20 ≤ b ∧ b < 0x7F) ∨ b = 0x09) ∧
    url.join (String.ofList (location.map fun b => Char.ofNat b.toNat)) = .ok target

/-- A location is printable exactly if it is written with visible characters, spaces and tabs. -/
lemma all_isPrintable_iff {location : Bytes} :
    location.all isPrintable = true ↔ ∀ b ∈ location, (0x20 ≤ b ∧ b < 0x7F) ∨ b = 0x09 := by
  have htab : octet '\t' = 0x09 := by decide
  simp [List.all_eq_true, isPrintable, htab]

/-- The target of a redirect is what its location resolves to. -/
lemma redirectTarget_eq_ok_iff {url target : Url} {location : Bytes} :
    redirectTarget url location = .ok target ↔ url.Resolves location target := by
  unfold redirectTarget Url.Resolves
  rw [← all_isPrintable_iff]
  by_cases hprintable : location.all isPrintable = true
  · cases url.join (String.ofList (location.map fun b => Char.ofNat b.toNat)) <;>
      simp [hprintable, Except.mapError]
  · simp [hprintable]

/-- A redirect has no target exactly when its location resolves to none. -/
lemma redirectTarget_eq_error_iff {url : Url} {location : Bytes} {e : TransportError} :
    redirectTarget url location = .error e ↔
      (∀ target, ¬ url.Resolves location target) ∧
        e = .invalidRedirectLocation (String.ofList (Utf8.decodeLossy location)) := by
  unfold redirectTarget Url.Resolves
  rw [← all_isPrintable_iff]
  by_cases hprintable : location.all isPrintable = true
  · cases url.join (String.ofList (location.map fun b => Char.ofNat b.toNat)) <;>
      simp [hprintable, Except.mapError, eq_comm]
  · simp [hprintable, eq_comm]

/-- A location resolves to one address only. -/
lemma Url.Resolves.unique {url target target' : Url} {location : Bytes}
    (h : url.Resolves location target) (h' : url.Resolves location target') : target = target' := by
  simpa using h.2.symm.trans h'.2

/-! ### Files -/

/-- At every hop the files can be opened, and what they are is told, if at all, by media types. -/
def Environment.Opens (env : Environment) (files : List FilePart) : Prop :=
  ∀ hop, ∀ part ∈ files, (∃ content?, env.disk hop part.file.path = .ok content?) ∧
    ∀ contentType ∈ part.file.contentType?, ∃ mediaType, MediaType.read? contentType =
      some mediaType

/-- A file that can be opened, and whose type is a media type, makes a part. -/
lemma FormPart.exists_ofFile {disk : Disk} {file : FilePart} {content? : Option Bytes}
    (hopen : disk file.file.path = .ok content?)
    (htype : ∀ contentType ∈ file.file.contentType?,
      ∃ mediaType, MediaType.read? contentType = some mediaType) :
    ∃ part, FormPart.ofFile disk file = .ok part := by
  unfold FormPart.ofFile
  dsimp only
  rw [hopen]
  cases hcontentType : file.file.contentType? with
  | none => exact ⟨_, rfl⟩
  | some contentType =>
    obtain ⟨mediaType, hmediaType⟩ := htype contentType hcontentType
    refine ⟨{
      name := file.formIndex, fileName? := some file.file.fileName, contentType? := some mediaType,
      content? }, ?_⟩
    simp only [Option.mapM_some, hmediaType]
    rfl

/-- How a run ends at its last exchange, where some redirects are left. -/
inductive Exchange.EndsWith (x : Exchange) (redirects : Nat) : Except TransportError Response → Prop
  | failed (fails : x.Fails) : EndsWith x redirects (.error (.http x.post.url.fault))
  | settled {answer} (settles : x.Settles answer) : EndsWith x redirects answer.classify
  /-- The location is not looked at. -/
  | exhausted {location} (leads : x.RedirectsTo location) (spent : redirects = 0) :
      EndsWith x redirects (.error (.tooManyRedirects maxRedirects))
  | unresolved {location} (leads : x.RedirectsTo location) (left : 0 < redirects)
      (nowhere : ∀ target, ¬ x.post.url.Resolves location target) :
      EndsWith x redirects
        (.error (.invalidRedirectLocation (String.ofList (Utf8.decodeLossy location))))

/-- One exchange leads to the next. -/
def Exchange.LeadsTo (x y : Exchange) : Prop :=
  ∃ location, x.RedirectsTo location ∧ x.post.url.Resolves location y.post.url

/-- Exchanges that lead from one to the next, up to hop `k`, where the last of them decides the
result. -/
structure Chain (redirects : Nat) (xs : List Exchange) (result : Except TransportError Response)
    (k : Nat) (last : Exchange) : Prop where
  length_eq : xs.length = k + 1
  le_redirects : k ≤ redirects
  last_at : xs[k]? = some last
  leads : ∀ j < k, ∃ x y, xs[j]? = some x ∧ xs[j + 1]? = some y ∧ x.LeadsTo y
  ends : last.EndsWith (redirects - k) result

namespace Chain

variable {redirects k j : Nat} {xs : List Exchange} {x y last : Exchange} {location : Bytes}
  {answer : Answer} {result : Except TransportError Response}

/-- A run may be over after its first exchange. -/
lemma single (h : x.EndsWith redirects result) : Chain redirects [x] result 0 x where
  length_eq := rfl
  le_redirects := Nat.zero_le _
  last_at := rfl
  leads := fun _ hj => absurd hj (Nat.not_lt_zero _)
  ends := h

/-- An exchange that leads to the first one of a chain makes it longer. -/
lemma cons (h : Chain redirects xs result k last) (hy : xs[0]? = some y) (hleads : x.LeadsTo y) :
    Chain (redirects + 1) (x :: xs) result (k + 1) last where
  length_eq := by rw [List.length_cons, h.length_eq]
  le_redirects := Nat.succ_le_succ h.le_redirects
  last_at := by rw [List.getElem?_cons_succ, h.last_at]
  leads := by
    intro j hj
    cases j with
    | zero => exact ⟨x, y, rfl, by rw [List.getElem?_cons_succ, hy], hleads⟩
    | succ j =>
      obtain ⟨a, b, ha, hb, hab⟩ := h.leads j (Nat.lt_of_succ_lt_succ hj)
      exact ⟨a, b, by rw [List.getElem?_cons_succ, ha], by rw [List.getElem?_cons_succ, hb], hab⟩
  ends := by
    rw [Nat.add_sub_add_right]
    exact h.ends

end Chain

/-- What becomes of the posts of a run is up to the environment. -/
lemma Payload.Run.delivery_of_exchange {payload : Payload} {env : Environment} {redirects hop : Nat}
    {url : Url} {headers : Headers} {xs : List Exchange} {result : Except TransportError Response}
    (h : payload.Run env redirects hop url headers xs result) {k : Nat} {x : Exchange}
    (hx : xs[k]? = some x) : x.delivery = env.deliver (hop + k) x.post := by
  induction h generalizing k with
  | unopened => simp at hx
  | followed _ _ _ _ _ ih =>
    cases k with
    | zero =>
      obtain rfl : env.exchange _ _ = x := by simpa using hx
      rfl
    | succ k =>
      rw [ih (by simpa using hx), Nat.add_right_comm, Nat.add_assoc]
  | _ =>
    rw [List.getElem?_singleton, Option.ite_none_right_eq_some, Option.some.injEq] at hx
    obtain ⟨rfl, rfl⟩ := hx
    rfl

/-! ### Reading off a chain -/

/-- The body of the answer is read for a response. -/
def Answer.HasResponse (answer : Answer) : Prop :=
  (200 ≤ answer.status ∧ answer.status < 300) ∨ answer.status = 400

namespace Answer

variable {answer : Answer}

/-- The body of an answer with a response is read as one. -/
lemma classify_of_body (h : answer.HasResponse) {body : Bytes} (hbody : answer.body? = some body) :
    answer.classify = (Response.ofBytes body).mapError (.malformedResponse body) := by
  unfold classify
  rw [if_pos (by simpa [Status.isSuccess, HasResponse] using h), hbody]

/-- If the body of an answer with a response breaks off, the call fails. -/
lemma classify_of_no_body (h : answer.HasResponse) (hbody : answer.body? = none) :
    answer.classify = .error (.http .body) := by
  unfold classify
  rw [if_pos (by simpa [Status.isSuccess, HasResponse] using h), hbody]

/-- Of an answer without a response the status is reported. -/
lemma classify_of_not_hasResponse (h : ¬ answer.HasResponse) :
    answer.classify = .ok (.ofStatus answer.status) := by
  unfold classify
  rw [if_neg (by simpa [Status.isSuccess, HasResponse] using h)]

/-- An answer that leads nowhere else is no response only if its body cannot be read or is
malformed. -/
lemma classify_eq_error {e : TransportError} (h : answer.classify = .error e) :
    (e = .http .body ∧ answer.HasResponse ∧ answer.body? = none) ∨
      ∃ body fault, e = .malformedResponse body fault := by
  by_cases hresponse : answer.HasResponse
  · cases hbody : answer.body? with
    | none =>
      rw [classify_of_no_body hresponse hbody] at h
      exact .inl ⟨(Except.error.inj h).symm, hresponse, rfl⟩
    | some body =>
      rw [classify_of_body hresponse hbody] at h
      cases hread : Response.ofBytes body with
      | error fault =>
        rw [hread] at h
        exact .inr ⟨body, fault, (Except.error.inj h).symm⟩
      | ok response =>
        rw [hread] at h
        cases h
  · rw [classify_of_not_hasResponse hresponse] at h
    cases h

end Answer

namespace Exchange.EndsWith

variable {x : Exchange} {redirects : Nat} {result : Except TransportError Response}

/-- A run that ends without an answer fails. -/
lemma eq_of_fails (h : x.EndsWith redirects result) (hfails : x.Fails) :
    result = .error (.http x.post.url.fault) := by
  cases h with
  | failed => rfl
  | settled hsettles => exact absurd hsettles hfails.not_settles
  | exhausted hleads => exact absurd hleads hfails.not_redirectsTo
  | unresolved hleads => exact absurd hleads hfails.not_redirectsTo

/-- A redirect ends a run only if it is one too many or leads nowhere. -/
lemma of_redirectsTo (h : x.EndsWith redirects result) {location : Bytes}
    (hleads : x.RedirectsTo location) :
    (redirects = 0 ∧ result = .error (.tooManyRedirects maxRedirects)) ∨
      (0 < redirects ∧ (∀ target, ¬ x.post.url.Resolves location target) ∧
        result = .error
          (.invalidRedirectLocation (String.ofList (Utf8.decodeLossy location)))) := by
  cases h with
  | failed hfails => exact absurd hleads hfails.not_redirectsTo
  | settled hsettles => exact absurd hleads (hsettles.2 _)
  | exhausted _ hspent => exact .inl ⟨hspent, rfl⟩
  | unresolved hleads' hleft hnowhere =>
    obtain rfl := hleads.unique hleads'
    exact .inr ⟨hleft, hnowhere, rfl⟩

end Exchange.EndsWith

namespace Chain

variable {redirects k j : Nat} {xs : List Exchange} {x last : Exchange} {location : Bytes}
  {answer : Answer} {result : Except TransportError Response}

end Chain

/-! ### Calls -/

namespace Descent

/-- A server that sends every post to a page below the one that was asked for, and a disk on which
every path is a file. -/
def environment : Environment where
  network := .scripted [some (.ofRedirect "bel\tow/")]
  disk := fun _ _ => .ok (some (bytesOf "content"))

/-- A request with a file. -/
def request : Request :=
  { ThereAndBack.request with
    variableValues := [("file", .upload { path := "a.txt", contentType? := some "text/plain" })] }

/-- The file of the request can be opened at every hop. -/
lemma opens : environment.Opens request.payload.files := by
  intro hop part hpart
  refine ⟨⟨_, rfl⟩, fun contentType hcontentType => ?_⟩
  have hall : ∀ file ∈ request.payload.files, ∀ contentType ∈ file.file.contentType?,
      (MediaType.read? contentType).isSome = true := by decide +kernel
  exact Option.isSome_iff_exists.mp (hall part hpart contentType hcontentType)

end Descent

end GraphqlClient
