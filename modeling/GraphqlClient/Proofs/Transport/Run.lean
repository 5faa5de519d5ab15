import GraphqlClient.Transport.Execute
import Mathlib.Tactic.Lemma

/-!
# Runs

What can happen at one hop of a call, and what then comes of the call, as a relation with one rule
for each way in which a hop ends.  `Payload.run_post` shows that a post with its redirects is such a
run, so that statements about all calls are proved by induction over runs and never look into the
loop.
-/

namespace GraphqlClient

/-- The exchange that a post at some hop comes to. -/
def Environment.exchange (env : Environment) (hop : Nat) (post : Post) : Exchange :=
  { post, delivery := env.deliver hop post }

/-- What is posted in an exchange is the post that it is made of. -/
@[simp] lemma Environment.exchange_post (env : Environment) (hop : Nat) (post : Post) :
    (env.exchange hop post).post = post := rfl

/-- A payload is posted to an address with some header fields, where `redirects` redirects are left
and `hop` posts were made before.  The last two places say what is exchanged and how it ends. -/
inductive Payload.Run (payload : Payload) (env : Environment) :
    (redirects hop : Nat) → Url → Headers →
    List Exchange → Except TransportError Response → Prop
  /-- A file of the body cannot be sent. -/
  | unopened {redirects hop url headers e}
      (opening : Body.ofPayload (env.disk hop) payload = .error e) :
      Run payload env redirects hop url headers [] (.error e)
  /-- No answer comes. -/
  | failed {redirects hop url headers body}
      (opening : Body.ofPayload (env.disk hop) payload = .ok body)
      (silence : ∀ answer, env.deliver hop ⟨url, headers, body⟩ ≠ .answered answer) :
      Run payload env redirects hop url headers [env.exchange hop ⟨url, headers, body⟩]
        (.error (.http url.fault))
  /-- The answer leads nowhere else. -/
  | classified {redirects hop url headers body answer}
      (opening : Body.ofPayload (env.disk hop) payload = .ok body)
      (delivery : env.deliver hop ⟨url, headers, body⟩ = .answered answer)
      (stays : answer.location? = none) :
      Run payload env redirects hop url headers [env.exchange hop ⟨url, headers, body⟩]
        answer.classify
  /-- The answer leads elsewhere, and no redirect is left. -/
  | exhausted {hop url headers body answer location}
      (opening : Body.ofPayload (env.disk hop) payload = .ok body)
      (delivery : env.deliver hop ⟨url, headers, body⟩ = .answered answer)
      (leads : answer.location? = some location) :
      Run payload env 0 hop url headers [env.exchange hop ⟨url, headers, body⟩]
        (.error (.tooManyRedirects maxRedirects))
  /-- The answer leads to no address. -/
  | unresolved {redirects hop url headers body answer location e}
      (opening : Body.ofPayload (env.disk hop) payload = .ok body)
      (delivery : env.deliver hop ⟨url, headers, body⟩ = .answered answer)
      (leads : answer.location? = some location) (target : redirectTarget url location = .error e) :
      Run payload env (redirects + 1) hop url headers [env.exchange hop ⟨url, headers, body⟩]
        (.error e)
  /-- The answer leads to another address, where the run goes on. -/
  | followed {redirects hop url headers body answer location target xs result}
      (opening : Body.ofPayload (env.disk hop) payload = .ok body)
      (delivery : env.deliver hop ⟨url, headers, body⟩ = .answered answer)
      (leads : answer.location? = some location)
      (resolves : redirectTarget url location = .ok target)
      (rest : Run payload env redirects (hop + 1) target (headers.carried url target) xs result) :
      Run payload env (redirects + 1) hop url headers
        (env.exchange hop ⟨url, headers, body⟩ :: xs) result

/-- A post with its redirects is a run. -/
theorem Payload.run_post (payload : Payload) (env : Environment) (redirects hop : Nat) (url : Url)
    (headers : Headers) :
    payload.Run env redirects hop url headers (payload.post env redirects hop url headers).1
      (payload.post env redirects hop url headers).2 := by
  fun_induction Payload.post payload env redirects hop url headers with
  | case1 _ _ _ _ _ opening => exact .unopened opening
  | case2 _ _ _ _ _ opening _ _ _ delivery stays => exact .classified opening delivery stays
  | case3 _ _ _ _ opening _ _ _ delivery _ leads => exact .exhausted opening delivery leads
  | case4 _ _ _ _ opening _ _ _ delivery _ _ leads _ target =>
    exact .unresolved opening delivery leads target
  | case5 _ _ _ _ opening _ _ _ delivery _ _ leads _ resolves _ _ hrest ih =>
    rw [hrest] at ih
    exact .followed opening delivery leads resolves ih
  | case6 _ _ _ _ _ opening _ _ dropped =>
    exact .failed opening fun answer hanswer => Delivery.noConfusion (hanswer.symm.trans dropped)
  | case7 _ _ _ _ _ opening _ _ lost =>
    exact .failed opening fun answer hanswer => Delivery.noConfusion (hanswer.symm.trans lost)

/-- A run is the post with its redirects, so that there is one only. -/
lemma Payload.Run.post_eq {payload : Payload} {env : Environment} {redirects hop : Nat} {url : Url}
    {headers : Headers} {xs : List Exchange} {result : Except TransportError Response}
    (h : payload.Run env redirects hop url headers xs result) :
    payload.post env redirects hop url headers = (xs, result) := by
  induction h with
  | unopened opening =>
    unfold Payload.post
    rw [opening]
  | @failed redirects hop url headers body opening silence =>
    unfold Payload.post
    rw [opening]
    cases hdelivery : env.deliver hop ⟨url, headers, body⟩ with
    | answered answer => exact absurd hdelivery (silence answer)
    | dropped => simp [hdelivery, Environment.exchange]
    | lost => simp [hdelivery, Environment.exchange]
  | classified opening delivery stays =>
    unfold Payload.post
    simp [opening, delivery, stays, Environment.exchange]
  | exhausted opening delivery leads =>
    unfold Payload.post
    simp [opening, delivery, leads, Environment.exchange]
  | unresolved opening delivery leads target =>
    unfold Payload.post
    simp [opening, delivery, leads, target, Environment.exchange]
  | followed opening delivery leads resolves _ ih =>
    unfold Payload.post
    simp [opening, delivery, leads, resolves, ih, Environment.exchange]

/-- There is one run from given circumstances only. -/
lemma Payload.Run.unique {payload : Payload} {env : Environment} {redirects hop : Nat} {url : Url}
    {headers : Headers} {xs xs' : List Exchange} {result result' : Except TransportError Response}
    (h : payload.Run env redirects hop url headers xs result)
    (h' : payload.Run env redirects hop url headers xs' result') : xs = xs' ∧ result = result' :=
  Prod.mk.inj (h.post_eq.symm.trans h'.post_eq)

/-- If the body can be made, the first exchange posts it. -/
lemma Payload.Run.head {payload : Payload} {env : Environment} {redirects hop : Nat} {url : Url}
    {headers : Headers} {body : Body} {xs : List Exchange} {result : Except TransportError Response}
    (h : payload.Run env redirects hop url headers xs result)
    (hopening : Body.ofPayload (env.disk hop) payload = .ok body) :
    xs[0]? = some (env.exchange hop ⟨url, headers, body⟩) := by
  cases h with
  | unopened opening =>
    rw [hopening] at opening
    cases opening
  | _ opening =>
    obtain rfl := Except.ok.inj (hopening.symm.trans opening)
    rfl

/-- The first exchange of a run is with the address that the run starts at, and posts the header
fields that it starts with. -/
lemma Payload.Run.first {payload : Payload} {env : Environment} {redirects hop : Nat} {url : Url}
    {headers : Headers} {xs : List Exchange} {result : Except TransportError Response}
    (h : payload.Run env redirects hop url headers xs result) {x : Exchange}
    (hx : xs[0]? = some x) :
    x.post.url = url ∧ x.post.headers = headers := by
  cases h with
  | unopened => simp at hx
  | _ =>
    obtain rfl : env.exchange hop _ = x := by simpa using hx
    exact ⟨rfl, rfl⟩

/-! ### Calls -/

/-- The payload of a request does not depend on its header fields. -/
lemma Request.payload_with_headers (r : Request) (fields : Headers) :
    ({ r with headers := fields } : Request).payload = r.payload := by
  unfold payload takePayload
  cases r.variableValues.extractFiles? with
  | none => rfl
  | some extraction => rfl

namespace Transport

/-- Taking the uploads out of a request does not change its header fields. -/
lemma headers_takePayload (t : Transport) (r : Request) :
    t.headers r.takePayload.2 = t.headers r := by
  unfold Request.takePayload
  cases r.variableValues.extractFiles? with
  | none => rfl
  | some extraction => rfl

/-- A call with a client posts its payload to the endpoint with the merged header fields. -/
lemma execute_of_client {t : Transport} {client : Client}
    (hclient : t.connect.client? = some client) (env : Environment) (r : Request) :
    (t.execute env r).2.exchanges = (r.payload.post env maxRedirects 0 t.endpoint (t.headers r)).1 ∧
      (t.execute env r).2.result =
        (r.payload.post env maxRedirects 0 t.endpoint (t.headers r)).2 := by
  unfold execute
  dsimp only
  rw [hclient, headers_takePayload]
  exact ⟨rfl, rfl⟩

/-- A call with a client is a run from the endpoint with the merged header fields. -/
theorem run_execute {t : Transport} {client : Client} (hclient : t.connect.client? = some client)
    (env : Environment) (r : Request) :
    r.payload.Run env maxRedirects 0 t.endpoint (t.headers r) (t.execute env r).2.exchanges
      (t.execute env r).2.result := by
  obtain ⟨hexchanges, hresult⟩ := execute_of_client hclient env r
  rw [hexchanges, hresult]
  exact r.payload.run_post env maxRedirects 0 t.endpoint (t.headers r)

/-- A call without a client exchanges nothing. -/
lemma exchanges_execute_of_no_client {t : Transport} (hclient : t.connect.client? = none)
    (env : Environment) (r : Request) : (t.execute env r).2.exchanges = [] := by
  unfold execute
  dsimp only
  rw [hclient]

/-- It fails before anything is posted. -/
lemma result_execute_of_no_client {t : Transport} (hclient : t.connect.client? = none)
    (env : Environment) (r : Request) : (t.execute env r).2.result = .error (.http .client) := by
  unfold execute
  dsimp only
  rw [hclient]

end Transport

/-! ### A call that leaves a server and returns -/

/-- The address of the root of a server. -/
def Url.ofServer (server : String) : Url :=
  { Url.ofScheme "http" with host? := some (.name server), path := .rooted [""] }

/-- An answer that sends the client elsewhere. -/
def Answer.ofRedirect (location : String) : Answer :=
  { status := 302, headers := [{ name := "location", value := bytesOf location }],
    body? := some [] }

namespace ThereAndBack

/-- A transport with an authorization, a cookie, and a field that is not sensitive. -/
def transport : Transport where
  endpoint := .ofServer "a"
  authorization? := some (bytesOf "Basic dTpw")
  config := { Config.default with
    headers :=
      [{ name := "cookie", value := bytesOf "c" }, { name := "x-tag", value := bytesOf "t" }] }
  hooks := .default
  client? := none
  tries := 0

/-- The endpoint sends to another server, which sends back; then the endpoint answers. -/
def environment : Environment where
  network := .scripted
    [some (.ofRedirect "//b"), some (.ofRedirect "//a"),
      some { status := 204, headers := [], body? := none }]
  disk := fun _ _ => .error .notFound

def request : Request :=
  { document := [], operationName? := none, variableValues := [], context := [], headers := [] }

end ThereAndBack

end GraphqlClient
