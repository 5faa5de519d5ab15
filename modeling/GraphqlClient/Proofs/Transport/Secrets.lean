import GraphqlClient.Proofs.Transport.Credentials
import GraphqlClient.Proofs.Transport.Lifecycle
import Mathlib

/-!
# Secrets

Two calls that differ in credentials only cannot be told apart by a server they are led to.  Fields
of different names have no order that matters, so that fields are compared by the values under each
name (`Headers.AgreeBut`).  The addresses, the bodies and the result of a call do not depend on its
header fields at all, as long as the answers do not (`Payload.Run.sentPosts_eq`); what is left are
the header fields, whose history is known from `Payload.Run.headers_of_exchange`.  Main statement:
`Transport.execute_agreeButSecrets`.
-/

namespace GraphqlClient

/-! ### Agreement of header fields -/

namespace Headers

variable {hidden : List String} {headers headers' overrides overrides' : Headers} {name : String}

/-- The values under all names are the same, except perhaps under some that are hidden. -/
def AgreeBut (hidden : List String) (headers headers' : Headers) : Prop :=
  ∀ name ∉ hidden, headers.values name = headers'.values name

/-- Of two lists that agree, both have a field that is not hidden, or neither. -/
lemma AgreeBut.has_eq (h : headers.AgreeBut hidden headers') (hname : name ∉ hidden) :
    headers.has name = headers'.has name := by
  have hvalues := h name hname
  rw [Bool.eq_iff_iff, has_iff_values_ne_nil, has_iff_values_ne_nil, hvalues]

/-- Merging keeps the agreement. -/
lemma AgreeBut.merge (h : headers.AgreeBut hidden headers')
    (h' : overrides.AgreeBut hidden overrides') :
    (headers.merge overrides).AgreeBut hidden (headers'.merge overrides') := by
  intro name hname
  rw [values_merge, values_merge, h name hname, h' name hname, h'.has_eq hname]

/-- Removing a field keeps the agreement. -/
lemma AgreeBut.remove (h : headers.AgreeBut hidden headers') (name : String) :
    (headers.remove name).AgreeBut hidden (headers'.remove name) := by
  intro other hother
  rw [values_remove, values_remove, h other hother]

/-- A field that may be put in place of those with a hidden name. -/
lemma AgreeBut.insert_hidden (h : headers.AgreeBut hidden headers') (hname : name ∈ hidden)
    (value? value'? : Option Bytes) :
    ((value?.map (headers.insert name)).getD headers).AgreeBut hidden
      ((value'?.map (headers'.insert name)).getD headers') := by
  have hvalues : ∀ (fields : Headers) (value? : Option Bytes), ∀ other ∉ hidden,
      ((value?.map (fields.insert name)).getD fields).values other = fields.values other := by
    intro fields value? other hother
    have hne : other ≠ name := fun heq => hother (heq ▸ hname)
    cases value? with
    | none => rfl
    | some value => exact (values_insert fields name value other).trans (if_neg hne)
  intro other hother
  rw [hvalues headers value? other hother, hvalues headers' value'? other hother, h other hother]

/-- Leaving the sensitive fields out changes these only. -/
lemma agreeBut_withoutSensitive (headers : Headers) :
    headers.AgreeBut sensitiveNames headers.withoutSensitive := by
  intro name hname
  rw [values_withoutSensitive, if_neg hname]

/-- Fields that agree but for the sensitive ones agree where these are left behind. -/
lemma AgreeBut.withoutSensitive (h : headers.AgreeBut sensitiveNames headers') :
    headers.withoutSensitive.AgreeBut [] headers'.withoutSensitive := by
  intro name _
  rw [values_withoutSensitive, values_withoutSensitive]
  split
  · rfl
  · next hname => exact h name hname

end Headers

/-- What is sent agrees where the chosen fields do. -/
lemma Post.fields_agreeBut {post post' : Post} {hidden : List String} (hurl : post.url = post'.url)
    (hbody : post.body = post'.body) (h : post.headers.AgreeBut hidden post'.headers) :
    post.fields.AgreeBut hidden post'.fields := by
  intro name hname
  by_cases htype : name = "content-type"
  · subst htype
    rw [Post.values_contentType_fields, Post.values_contentType_fields,
      h "content-type" hname, hbody]
  · rw [post.values_fields htype, post'.values_fields htype, hurl]
    by_cases hauthorization : name = "authorization"
    · subst hauthorization
      rw [h "authorization" hname]
    · simp only [hauthorization, false_and, if_false]
      exact h name hname

/-! ### Runs -/

/-- The addresses and the bodies of some posts. -/
def sentPosts (xs : List Exchange) : List (Url × Body) := xs.map fun x => (x.post.url, x.post.body)

/-- From some hop on, two networks answer the posts of two calls in the same way. -/
def AnswersAlike (env env' : Environment) (hop : Nat) (xs xs' : List Exchange) : Prop :=
  ∀ k, ∀ x ∈ xs[k]?, ∀ x' ∈ xs'[k]?, env.network (hop + k) x.post = env'.network (hop + k) x'.post

section

variable {payload : Payload} {env env' : Environment} {redirects hop : Nat} {url : Url}
  {headers headers' : Headers} {body : Body} {x x' : Exchange} {xs xs' : List Exchange}
  {result result' : Except TransportError Response}

/-- Networks that answer alike do so from the second exchange on. -/
lemma AnswersAlike.tail (h : AnswersAlike env env' hop (x :: xs) (x' :: xs')) :
    AnswersAlike env env' (hop + 1) xs xs' := by
  intro k y hy y' hy'
  rw [Nat.add_assoc, Nat.add_comm 1 k]
  exact h (k + 1) y hy y' hy'

/-- The second run makes the same body, and its first post is answered as the first one of the other
run. -/
lemma AnswersAlike.first
    (h : AnswersAlike env env' hop (env.exchange hop ⟨url, headers, body⟩ :: xs) xs')
    (hdisk : env.disk = env'.disk) (hrun : payload.Run env' redirects hop url headers' xs' result')
    (hopening : Body.ofPayload (env.disk hop) payload = .ok body) :
    Body.ofPayload (env'.disk hop) payload = .ok body ∧
      env.deliver hop ⟨url, headers, body⟩ = env'.deliver hop ⟨url, headers', body⟩ := by
  rw [hdisk] at hopening
  have hnetwork : env.network hop ⟨url, headers, body⟩ = env'.network hop ⟨url, headers', body⟩ :=
    h 0 _ rfl _ (hrun.head hopening)
  refine ⟨hopening, ?_⟩
  unfold Environment.deliver
  rw [hnetwork]

/-- Runs whose posts are answered alike go the same way, whatever header fields they start with. -/
theorem Payload.Run.sentPosts_eq (hdisk : env.disk = env'.disk)
    (h : payload.Run env redirects hop url headers xs result)
    (h' : payload.Run env' redirects hop url headers' xs' result')
    (halike : AnswersAlike env env' hop xs xs') :
    sentPosts xs = sentPosts xs' ∧ result = result' := by
  -- The rule of the first run applies to the second one, of which there is one only.
  induction h generalizing headers' xs' result' with
  | unopened opening =>
    rw [hdisk] at opening
    obtain ⟨rfl, rfl⟩ := h'.unique (.unopened opening)
    exact ⟨rfl, rfl⟩
  | failed opening silence =>
    obtain ⟨hopening, hdeliver⟩ := halike.first hdisk h' opening
    rw [hdeliver] at silence
    obtain ⟨rfl, rfl⟩ := h'.unique (.failed hopening silence)
    exact ⟨rfl, rfl⟩
  | classified opening delivery stays =>
    obtain ⟨hopening, hdeliver⟩ := halike.first hdisk h' opening
    rw [hdeliver] at delivery
    obtain ⟨rfl, rfl⟩ := h'.unique (.classified hopening delivery stays)
    exact ⟨rfl, rfl⟩
  | exhausted opening delivery leads =>
    obtain ⟨hopening, hdeliver⟩ := halike.first hdisk h' opening
    rw [hdeliver] at delivery
    obtain ⟨rfl, rfl⟩ := h'.unique (.exhausted hopening delivery leads)
    exact ⟨rfl, rfl⟩
  | unresolved opening delivery leads target =>
    obtain ⟨hopening, hdeliver⟩ := halike.first hdisk h' opening
    rw [hdeliver] at delivery
    obtain ⟨rfl, rfl⟩ := h'.unique (.unresolved hopening delivery leads target)
    exact ⟨rfl, rfl⟩
  | @followed redirects hop url headers body answer location target xs result opening delivery leads
      resolves rest ih =>
    obtain ⟨hopening, hdeliver⟩ := halike.first hdisk h' opening
    rw [hdeliver] at delivery
    -- The header fields that go along may differ, but not the address they go to.
    have rest' := payload.run_post env' redirects (hop + 1) target (headers'.carried url target)
    obtain ⟨rfl, rfl⟩ := h'.unique (.followed hopening delivery leads resolves rest')
    obtain ⟨hsent, hresult⟩ := ih rest' halike.tail
    refine ⟨?_, hresult⟩
    unfold sentPosts at hsent ⊢
    rw [List.map_cons, List.map_cons, hsent]
    rfl

/-- Fields that are not sensitive are posted at every hop. -/
lemma Payload.Run.values_of_exchange (h : payload.Run env redirects hop url headers xs result)
    {k : Nat} (hx : xs[k]? = some x) {name : String} (hname : name ∉ sensitiveNames) :
    x.post.headers.values name = headers.values name := by
  obtain ⟨hkept, hleft⟩ := h.headers_of_exchange hx
  by_cases horigin : KeepsOrigin xs k
  · rw [hkept horigin]
  · rw [hleft horigin, Headers.values_withoutSensitive, if_neg hname]

/-- Where the addresses are the same, so are the servers that they stay with. -/
lemma keepsOrigin_iff_of_sentPosts_eq (h : sentPosts xs = sentPosts xs') (k : Nat) :
    KeepsOrigin xs k ↔ KeepsOrigin xs' k := by
  have hurls : xs.map (·.post.url) = xs'.map (·.post.url) := by
    have hfirst := congrArg (List.map Prod.fst) h
    rw [sentPosts, sentPosts, List.map_map, List.map_map] at hfirst
    exact hfirst
  have hkept : ∀ xs : List Exchange, KeepsOrigin xs k ↔
      ∀ j < k, ∀ a ∈ (xs.map (·.post.url))[j]?, ∀ b ∈ (xs.map (·.post.url))[j + 1]?,
          b.SharesOrigin a := by
    intro xs
    simp [KeepsOrigin]
  rw [hkept, hkept, hurls]

/-- Where the same is sent, each hop has the same address and the same body. -/
lemma sentPosts_getElem (h : sentPosts xs = sentPosts xs') {k : Nat} (hx : xs[k]? = some x)
    (hx' : xs'[k]? = some x') :
    x.post.url = x'.post.url ∧ x.post.body = x'.post.body := by
  have hk := congrArg (·[k]?) h
  simpa [sentPosts, hx, hx'] using hk

end

/-! ### Calls -/

namespace Transport

/-- The transport was made for an endpoint with some configuration, whatever was done with it
since. -/
def Serves (t : Transport) (endpoint : String) (config : Config) : Prop :=
  ∃ new operations, ofConfig endpoint config = .ok new ∧
    ∃ turn ∈ new.life operations, turn.before = t

/-- Two texts write the same address, except perhaps for the credentials in it. -/
def SameButCredentials (endpoint endpoint' : String) : Prop :=
  ∃ url url', Url.parse endpoint = .ok url ∧ Url.parse endpoint' = .ok url' ∧
    url.withoutCredentials = url'.withoutCredentials

variable {t t' : Transport} {endpoint endpoint' : String} {config config' : Config}

/-- A transport that serves a configuration has its settings, and its endpoint without
credentials. -/
lemma Serves.settings (h : t.Serves endpoint config) :
    t.config = config ∧ ∀ url, Url.parse endpoint = .ok url →
      t.endpoint = url.withoutCredentials := by
  obtain ⟨new, operations, hmade, turn, hturn, rfl⟩ := h
  obtain ⟨hendpoint, -, hconfig⟩ := settings_eq hturn
  obtain ⟨url, authorization?, hparse, -, rfl⟩ := ofConfig_eq_ok_iff.mp hmade
  refine ⟨hconfig, fun url' hparse' => ?_⟩
  obtain rfl := Except.ok.inj (hparse.symm.trans hparse')
  exact hendpoint

/-- Endpoints that differ in their credentials only are one endpoint. -/
lemma endpoint_eq (h : t.Serves endpoint config) (h' : t'.Serves endpoint' config')
    (hsame : SameButCredentials endpoint endpoint') : t.endpoint = t'.endpoint := by
  obtain ⟨url, url', hparse, hparse', hurl⟩ := hsame
  rw [h.settings.2 url hparse, h'.settings.2 url' hparse', hurl]

/-- Hidden fields that the sources of header fields differ in are all that the merged fields differ
in, if what authorizes is hidden. -/
lemma headers_agreeBut_of_mem {hidden : List String} (hhidden : "authorization" ∈ hidden)
    {r r' : Request} (hconfig : t.config.headers.AgreeBut hidden t'.config.headers)
    (hhooks : (t.hooks.headers r.context).AgreeBut hidden (t'.hooks.headers r'.context))
    (hrequest : r.headers.AgreeBut hidden r'.headers) :
    (t.headers r).AgreeBut hidden (t'.headers r') := by
  have haccept : ∀ accept : Headers, accept.AgreeBut hidden accept := fun _ _ _ => rfl
  unfold headers
  dsimp only
  apply Headers.AgreeBut.remove
  apply Headers.AgreeBut.merge _ hrequest
  apply Headers.AgreeBut.merge _ hhooks
  apply Headers.AgreeBut.insert_hidden _ hhidden
  exact (haccept _).merge hconfig

/-- Secrets that the sources of header fields differ in are all that the merged fields differ in. -/
lemma headers_agreeBut {r r' : Request}
    (hconfig : t.config.headers.AgreeBut sensitiveNames t'.config.headers)
    (hhooks : (t.hooks.headers r.context).AgreeBut sensitiveNames (t'.hooks.headers r'.context))
    (hrequest : r.headers.AgreeBut sensitiveNames r'.headers) :
    (t.headers r).AgreeBut sensitiveNames (t'.headers r') :=
  headers_agreeBut_of_mem (by decide) hconfig hhooks hrequest

end Transport

/-- What two calls may differ in: credentials and cookies, and these up to the first redirect to
another server. -/
structure Call.AgreeButSecrets (call call' : Call) : Prop where
  /-- All addresses and bodies are the same. -/
  sent : sentPosts call.exchanges = sentPosts call'.exchanges
  /-- No other fields ever differ. -/
  harmless : ∀ k : Nat, ∀ x ∈ call.exchanges[k]?, ∀ x' ∈ call'.exchanges[k]?,
    x.post.fields.AgreeBut sensitiveNames x'.post.fields
  /-- Beyond the first server, and also where a redirect leads back there, none do. -/
  beyond : ∀ k : Nat, ¬ KeepsOrigin call.exchanges k →
    ∀ x ∈ call.exchanges[k]?, ∀ x' ∈ call'.exchanges[k]?, x.post.fields.AgreeBut [] x'.post.fields
  result : call.result = call'.result

namespace Transport

variable {t t' : Transport} {endpoint endpoint' : String} {config config' : Config}

/-- Calls that differ in nothing but credentials and cookies show these to the first server only. -/
theorem execute_agreeButSecrets (ht : t.Serves endpoint config) (ht' : t'.Serves endpoint' config')
    (hendpoint : SameButCredentials endpoint endpoint')
    (hconfig : config.headers.AgreeBut sensitiveNames config'.headers)
    (hclient : t.connect.client?.isSome = t'.connect.client?.isSome) {r : Request}
    (hhooks : (t.hooks.headers r.context).AgreeBut sensitiveNames (t'.hooks.headers r.context))
    {fields : Headers} (hrequest : r.headers.AgreeBut sensitiveNames fields)
    {env env' : Environment} (hdisk : env.disk = env'.disk)
    (hnetwork : AnswersAlike env env' 0 (t.execute env r).2.exchanges
      (t'.execute env' { r with headers := fields }).2.exchanges) :
    (t.execute env r).2.AgreeButSecrets (t'.execute env' { r with headers := fields }).2 := by
  cases hcached : t.connect.client? with
  | none =>
    rw [hcached] at hclient
    have hcached' : t'.connect.client? = none :=
      Option.isNone_iff_eq_none.mp (by simpa using hclient.symm)
    have hnone := exchanges_execute_of_no_client hcached env r
    have hnone' := exchanges_execute_of_no_client hcached' env' { r with headers := fields }
    refine ⟨by rw [hnone, hnone'], by simp [hnone], by simp [hnone], ?_⟩
    rw [result_execute_of_no_client hcached, result_execute_of_no_client hcached']
  | some client =>
    rw [hcached] at hclient
    obtain ⟨client', hcached'⟩ := Option.isSome_iff_exists.mp hclient.symm
    have hrun := run_execute hcached env r
    have hrun' := run_execute hcached' env' { r with headers := fields }
    rw [Request.payload_with_headers, ← endpoint_eq ht ht' hendpoint] at hrun'
    -- Merging keeps the difference within the sensitive fields, source by source.
    have hmerged :
        (t.headers r).AgreeBut sensitiveNames (t'.headers { r with headers := fields }) := by
      refine headers_agreeBut ?_ hhooks hrequest
      rw [ht.settings.1, ht'.settings.1]
      exact hconfig
    obtain ⟨hsent, hresult⟩ := hrun.sentPosts_eq hdisk hrun' hnetwork
    refine ⟨hsent, ?_, ?_, hresult⟩
    · intro k x hx x' hx'
      obtain ⟨hurl, hbody⟩ := sentPosts_getElem hsent hx hx'
      apply Post.fields_agreeBut hurl hbody
      intro name hname
      rw [hrun.values_of_exchange hx hname, hrun'.values_of_exchange hx' hname, hmerged name hname]
    · intro k hleft x hx x' hx'
      obtain ⟨hurl, hbody⟩ := sentPosts_getElem hsent hx hx'
      have hleft' := fun hkept => hleft ((keepsOrigin_iff_of_sentPosts_eq hsent k).mpr hkept)
      apply Post.fields_agreeBut hurl hbody
      rw [(hrun.headers_of_exchange hx).2 hleft, (hrun'.headers_of_exchange hx').2 hleft']
      exact hmerged.withoutSensitive

/-! ### A call with secrets, and the same call without -/

open ThereAndBack

/-- The transport that has neither the authorization nor the cookie. -/
def anonymous : Transport :=
  { transport with
    authorization? := none
    config := { transport.config with headers := transport.config.headers.withoutSensitive } }

/-- A request with a sensitive field, and one that is not. -/
def proxyRequest : Request :=
  { request with
    headers :=
      [{ name := "proxy-authorization", value := bytesOf "s" }, { name := "x-tag", value := [] }] }

/-- Both endpoints can be read, and one of them names a user. -/
lemma parse_endpoints :
    Url.parse "http://u:p@a/" = .ok { Url.ofServer "a" with username := "u", password := "p" } ∧
    Url.parse "http://a/" = .ok (Url.ofServer "a") := by
  constructor
  · apply toOption_eq_some_iff.mp
    decide +kernel
  · apply toOption_eq_some_iff.mp
    decide +kernel

/-- The two transports serve these endpoints. -/
lemma serves_endpoints : transport.Serves "http://u:p@a/" transport.config ∧
    anonymous.Serves "http://a/" anonymous.config := by
  obtain ⟨hparse, hparse'⟩ := parse_endpoints
  have hmade : ofConfig "http://u:p@a/" transport.config = .ok transport := by
    refine ofConfig_eq_ok_iff.mpr ⟨_, _, hparse, ?_, rfl⟩
    apply toOption_eq_some_iff.mp
    decide +kernel
  have hmade' : ofConfig "http://a/" anonymous.config = .ok anonymous := by
    refine ofConfig_eq_ok_iff.mpr ⟨_, _, hparse', ?_, rfl⟩
    apply toOption_eq_some_iff.mp
    decide +kernel
  exact ⟨⟨transport, [.setHooks .default], hmade, _, List.mem_cons_self, rfl⟩,
    ⟨anonymous, [.setHooks .default], hmade', _, List.mem_cons_self, rfl⟩⟩

/-- On the way from the endpoint to another server and back, only the first post shows who the user
is. -/
theorem execute_agreeButSecrets_anonymous :
    (transport.execute environment proxyRequest).2.AgreeButSecrets
        (anonymous.execute environment
          { proxyRequest with headers := proxyRequest.headers.withoutSensitive }).2 ∧
      (transport.execute environment proxyRequest).2.exchanges.map
        (fun x => (x.post.fields.values "authorization", x.post.fields.values "cookie")) =
          [([bytesOf "Basic dTpw"], [bytesOf "c"]), ([], []), ([], [])] := by
  obtain ⟨hserves, hserves'⟩ := serves_endpoints
  obtain ⟨hparse, hparse'⟩ := parse_endpoints
  refine ⟨?_, by decide +kernel⟩
  apply execute_agreeButSecrets hserves hserves'
  · exact ⟨_, _, hparse, hparse', rfl⟩
  · exact Headers.agreeBut_withoutSensitive _
  · rfl
  · exact fun _ _ => rfl
  · exact Headers.agreeBut_withoutSensitive _
  · rfl
  · exact fun _ _ _ _ _ => rfl

end Transport

end GraphqlClient
