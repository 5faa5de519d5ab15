import GraphqlClient.Proofs.Http.Header
import GraphqlClient.Proofs.Transport.Run

/-!
# Credentials along redirects

The header fields of a call are merged once.  As long as each redirect stays with the server of the
address before it, they are posted as they are; from the first redirect to another server on, all
but the sensitive ones are (`Payload.Run.headers_of_exchange`).  Each redirect compares two
addresses only, so that the statement about the whole history of a call needs an induction over its
run.
-/

namespace GraphqlClient

/-! ### Servers -/

namespace Url

/-- Two addresses have the same scheme, host and port, where a port that is not written is the one
that the scheme stands for. -/
def SharesOrigin (a b : Url) : Prop := ∃ origin, a.origin? = some origin ∧ b.origin? = some origin

/-- The comparison of two addresses tells whether they have the same origin. -/
lemma sameOrigin_iff (a b : Url) : a.sameOrigin b = true ↔ a.SharesOrigin b := by
  unfold sameOrigin SharesOrigin
  cases a.origin? with
  | none => simp
  | some origin => simp [eq_comm]

instance (a b : Url) : Decidable (a.SharesOrigin b) := decidable_of_iff _ (sameOrigin_iff a b)

/-- The ports that schemes stand for. -/
inductive SchemePort : String → UInt16 → Prop
  | http : SchemePort "http" 80
  | https : SchemePort "https" 443
  | ws : SchemePort "ws" 80
  | wss : SchemePort "wss" 443
  | ftp : SchemePort "ftp" 21

/-- A scheme has a default port exactly if it stands for that port. -/
lemma defaultPort?_eq_some_iff {scheme : String} {port : UInt16} :
    defaultPort? scheme = some port ↔ SchemePort scheme port := by
  constructor
  · intro h
    unfold defaultPort? at h
    split at h <;> cases h <;> constructor
  · rintro ⟨⟩ <;> rfl

/-- The port at which the server of an address is reached: the one that is written, or else the one
that the scheme stands for. -/
inductive HasPort (url : Url) : UInt16 → Prop
  | written {port standard} (known : SchemePort url.scheme standard)
      (isWritten : url.port? = some port) : HasPort url port
  | standard {port} (known : SchemePort url.scheme port) (unwritten : url.port? = none) :
      HasPort url port

/-- The origin of an address is its scheme, its host, and the port at which the host is reached. -/
lemma origin?_eq_some_iff {url : Url} {scheme : String} {host : Host} {port : UInt16} :
    url.origin? = some (scheme, host, port) ↔
      url.scheme = scheme ∧ url.host? = some host ∧ url.HasPort port := by
  have hparts : url.origin? = some (scheme, host, port) ↔
      url.scheme = scheme ∧ url.host? = some host ∧
        ∃ standard, defaultPort? url.scheme = some standard ∧ url.port?.getD standard = port := by
    unfold origin?
    cases defaultPort? url.scheme <;> cases url.host? <;> simp
  rw [hparts]
  refine and_congr_right fun _ => and_congr_right fun _ => ?_
  simp only [defaultPort?_eq_some_iff]
  constructor
  · rintro ⟨standard, hknown, hport⟩
    cases hwritten : url.port? with
    | none =>
      rw [hwritten, Option.getD_none] at hport
      subst hport
      exact .standard hknown hwritten
    | some written =>
      rw [hwritten, Option.getD_some] at hport
      subst hport
      exact .written hknown hwritten
  · rintro (⟨known, isWritten⟩ | ⟨known, unwritten⟩)
    · exact ⟨_, known, by rw [isWritten, Option.getD_some]⟩
    · exact ⟨port, known, by rw [unwritten, Option.getD_none]⟩

/-- Two addresses share an origin exactly if they have the same scheme, the same host, and one port
at which both are reached. -/
lemma sharesOrigin_iff {a b : Url} :
    a.SharesOrigin b ↔ a.scheme = b.scheme ∧ (∃ host, a.host? = some host ∧ b.host? = some host) ∧
      ∃ port, a.HasPort port ∧ b.HasPort port := by
  constructor
  · rintro ⟨⟨scheme, host, port⟩, ha, hb⟩
    obtain ⟨rfl, hhost, hport⟩ := origin?_eq_some_iff.mp ha
    obtain ⟨hscheme, hhost', hport'⟩ := origin?_eq_some_iff.mp hb
    exact ⟨hscheme.symm, ⟨host, hhost, hhost'⟩, port, hport, hport'⟩
  · rintro ⟨hscheme, ⟨host, hhost, hhost'⟩, port, hport, hport'⟩
    exact ⟨(a.scheme, host, port), origin?_eq_some_iff.mpr ⟨rfl, hhost, hport⟩,
      origin?_eq_some_iff.mpr ⟨hscheme.symm, hhost', hport'⟩⟩

end Url

/-- Up to hop `k`, each exchange is with the server of the one before. -/
def KeepsOrigin (xs : List Exchange) (k : Nat) : Prop :=
  ∀ j < k, ∀ x ∈ xs[j]?, ∀ y ∈ xs[j + 1]?, y.post.url.SharesOrigin x.post.url

instance (xs : List Exchange) (k : Nat) : Decidable (KeepsOrigin xs k) :=
  inferInstanceAs (Decidable (∀ j < k, ∀ x ∈ xs[j]?, ∀ y ∈ xs[j + 1]?,
    y.post.url.SharesOrigin x.post.url))

/-- No redirect has led to the first hop. -/
lemma keepsOrigin_zero (xs : List Exchange) : KeepsOrigin xs 0 :=
  fun _ hj => absurd hj (Nat.not_lt_zero _)

/-- The first of the later exchanges is compared with the first of all, and the rest among
themselves. -/
lemma keepsOrigin_cons_succ {x y : Exchange} {xs : List Exchange} {k : Nat} (hy : xs[0]? = some y) :
    KeepsOrigin (x :: xs) (k + 1) ↔ y.post.url.SharesOrigin x.post.url ∧ KeepsOrigin xs k := by
  constructor
  · intro h
    refine ⟨h 0 (Nat.succ_pos k) x rfl y hy, fun j hj a ha b hb => ?_⟩
    exact h (j + 1) (Nat.succ_lt_succ hj) a ha b hb
  · rintro ⟨hfirst, hrest⟩ j hj a ha b hb
    cases j with
    | zero =>
      obtain rfl : x = a := by simpa using ha
      obtain rfl : y = b := Option.some.inj (hy.symm.trans hb)
      exact hfirst
    | succ j => exact hrest j (Nat.lt_of_succ_lt_succ hj) a ha b hb

/-! ### Sensitive fields -/

namespace Headers

/-- The sensitive fields are those that name a user or hold cookies. -/
lemma withoutSensitive_eq_remove (headers : Headers) :
    headers.withoutSensitive =
      ((headers.remove "authorization").remove "cookie").remove "proxy-authorization" := by
  unfold withoutSensitive remove sensitiveNames
  rw [List.filter_filter, List.filter_filter]
  refine List.filter_congr fun field _ => ?_
  simp [Bool.and_comm]

/-- Without sensitive fields, there are none to leave out. -/
lemma withoutSensitive_idem (headers : Headers) :
    headers.withoutSensitive.withoutSensitive = headers.withoutSensitive := by
  unfold withoutSensitive
  rw [List.filter_filter]
  simp

/-- What goes along to the next address loses at most the sensitive fields. -/
lemma withoutSensitive_carried (headers : Headers) (source target : Url) :
    (headers.carried source target).withoutSensitive = headers.withoutSensitive := by
  unfold carried
  split
  · rfl
  · exact withoutSensitive_idem headers

end Headers

/-! ### Runs -/

/-- What a run posts at a hop, by whether the addresses up to there share a server. -/
theorem Payload.Run.headers_of_exchange {payload : Payload} {env : Environment}
    {redirects hop : Nat} {url : Url} {headers : Headers} {xs : List Exchange}
    {result : Except TransportError Response}
    (h : payload.Run env redirects hop url headers xs result) {k : Nat} {x : Exchange}
    (hx : xs[k]? = some x) :
    (KeepsOrigin xs k → x.post.headers = headers) ∧
      (¬ KeepsOrigin xs k → x.post.headers = headers.withoutSensitive) := by
  induction h generalizing k x with
  | unopened => simp at hx
  | @followed redirects hop url headers body answer location target xs result
      opening _ _ _ rest ih =>
    cases k with
    | zero =>
      obtain rfl : env.exchange hop ⟨url, headers, body⟩ = x := by simpa using hx
      exact ⟨fun _ => rfl, fun hkept => absurd (keepsOrigin_zero _) hkept⟩
    | succ k =>
      have hlast : xs[k]? = some x := by simpa using hx
      obtain ⟨y, hy⟩ : ∃ y, xs[0]? = some y := by
        have hlength := (List.getElem?_eq_some_iff.mp hlast).1
        exact ⟨xs[0], List.getElem?_eq_getElem (Nat.zero_lt_of_lt hlength)⟩
      obtain ⟨hkept, hleft⟩ := ih hlast
      rw [keepsOrigin_cons_succ hy, (rest.first hy).1, Environment.exchange_post,
        ← Url.sameOrigin_iff]
      -- What is carried to the next hop is decided by this redirect; for the hops behind it, by the
      -- induction hypothesis, which speaks of the run that starts there.
      by_cases hsame : target.sameOrigin url = true
      · have hcarried : headers.carried url target = headers := if_pos hsame
        rw [hcarried] at hkept hleft
        exact ⟨fun hboth => hkept hboth.2, fun hnot => hleft fun hxs => hnot ⟨hsame, hxs⟩⟩
      · refine ⟨fun hboth => absurd hboth.1 hsame, fun _ => ?_⟩
        have hcarried : headers.carried url target = headers.withoutSensitive := if_neg hsame
        -- Fields that were left out at this redirect stay left out, wherever the later ones lead.
        by_cases hxs : KeepsOrigin xs k
        · rw [hkept hxs, hcarried]
        · rw [hleft hxs, Headers.withoutSensitive_carried]
  | _ =>
    rw [List.getElem?_singleton, Option.ite_none_right_eq_some, Option.some.injEq] at hx
    obtain ⟨rfl, rfl⟩ := hx
    exact ⟨fun _ => rfl, fun hkept => absurd (keepsOrigin_zero _) hkept⟩

/-- With more redirects, fewer calls keep to one server. -/
lemma KeepsOrigin.mono {xs : List Exchange} {k m : Nat} (hkm : k ≤ m) (h : KeepsOrigin xs m) :
    KeepsOrigin xs k :=
  fun j hj => h j (Nat.lt_of_lt_of_le hj hkm)

/-! ### What is sent -/

/-- Apart from the type of the body, what is sent are the chosen fields; credentials in the address
are sent if none were chosen. -/
lemma Post.values_fields (post : Post) {name : String} (hname : name ≠ "content-type") :
    post.fields.values name =
      if name = "authorization" ∧ post.headers.values name = [] then
        (post.url.exactAuthorization?.map bytesOf).toList
      else post.headers.values name := by
  unfold Post.fields
  dsimp only
  rw [Headers.values_append, if_neg hname]
  by_cases hhas : post.headers.has "authorization" = true
  · have hvalues := Headers.has_iff_values_ne_nil.mp hhas
    rw [if_pos hhas, if_neg]
    · rfl
    · rintro ⟨rfl, hnone⟩
      exact hvalues hnone
  · have hvalues : post.headers.values "authorization" = [] := by
      by_contra hsome
      exact hhas (Headers.has_iff_values_ne_nil.mpr hsome)
    rw [if_neg hhas]
    -- Without an authorization among the fields, the one of the address is added, if it has one.
    cases post.url.exactAuthorization? with
    | none =>
      by_cases hauthorization : name = "authorization"
      · subst hauthorization
        simp [hvalues]
      · simp [hauthorization]
    | some credentials =>
      by_cases hauthorization : name = "authorization"
      · subst hauthorization
        simp [hvalues, Headers.values_insert]
      · simp [hauthorization, Headers.values_insert]

/-- The type of the body is sent last. -/
lemma Post.values_contentType_fields (post : Post) :
    post.fields.values "content-type" =
      post.headers.values "content-type" ++ [bytesOf post.body.contentType] := by
  unfold Post.fields
  dsimp only
  rw [Headers.values_append, if_pos rfl]
  split
  · rfl
  · cases post.url.exactAuthorization? with
    | none => rfl
    | some credentials => simp [Headers.values_insert]

/-! ### Calls -/

namespace Headers

/-- Leaving the sensitive fields out keeps the values of all others. -/
lemma values_withoutSensitive (headers : Headers) (name : String) :
    headers.withoutSensitive.values name =
      if name ∈ sensitiveNames then [] else headers.values name := by
  have h := values_filter_name (fun n => !sensitiveNames.contains n) headers name
  unfold withoutSensitive
  rw [h]
  by_cases hname : name ∈ sensitiveNames <;> simp [hname]

end Headers

/-- Every hop of a call posts the merged header fields.  From the first redirect to another server
on, the sensitive ones are missing, also where a later redirect leads back; no other field ever
changes.  Beside them go the type of the body and, if no authorization is posted, the credentials of
the hop's own address. -/
theorem Transport.execute_headers (t : Transport) (env : Environment) (r : Request) {k : Nat}
    {x : Exchange} (hx : (t.execute env r).2.exchanges[k]? = some x) :
    (KeepsOrigin (t.execute env r).2.exchanges k → x.post.headers = t.headers r) ∧
    (¬ KeepsOrigin (t.execute env r).2.exchanges k →
      x.post.headers =
        (((t.headers r).remove "authorization").remove "cookie").remove "proxy-authorization") ∧
    (¬ KeepsOrigin (t.execute env r).2.exchanges k → ∀ m y, k ≤ m →
      (t.execute env r).2.exchanges[m]? = some y → ∀ name ∈ sensitiveNames,
        y.post.headers.values name = []) ∧
    (∀ name ∉ sensitiveNames, x.post.headers.values name = (t.headers r).values name) ∧
    (∀ name, name ≠ "content-type" → x.post.fields.values name =
      if name = "authorization" ∧ x.post.headers.values name = [] then
        (x.post.url.exactAuthorization?.map bytesOf).toList
      else x.post.headers.values name) := by
  cases hclient : t.connect.client? with
  | none =>
    rw [exchanges_execute_of_no_client hclient] at hx
    simp at hx
  | some client =>
    have hrun := run_execute hclient env r
    obtain ⟨hkept, hleft⟩ := hrun.headers_of_exchange hx
    refine ⟨hkept, ?_, ?_, ?_, fun name hname => x.post.values_fields hname⟩
    · intro hnot
      rw [hleft hnot, Headers.withoutSensitive_eq_remove]
    · intro hnot m y hkm hy name hname
      have hnotLater : ¬ KeepsOrigin (t.execute env r).2.exchanges m := fun h => hnot (h.mono hkm)
      rw [(hrun.headers_of_exchange hy).2 hnotLater, Headers.values_withoutSensitive, if_pos hname]
    · intro name hname
      by_cases horigin : KeepsOrigin (t.execute env r).2.exchanges k
      · rw [hkept horigin]
      · rw [hleft horigin, Headers.values_withoutSensitive, if_neg hname]

namespace ThereAndBack

/-- The endpoint first sends to another page of its own, for which the port is written out.  That
one sends to another server, which sends back. -/
def detour : Environment :=
  { environment with
    network := .scripted
      [some (.ofRedirect "//a:80/near"), some (.ofRedirect "//b"), some (.ofRedirect "//a"),
        some { status := 204, headers := [], body? := none }] }

end ThereAndBack

open ThereAndBack in
/-- A redirect to another page of the endpoint takes the authorization and the cookie of the call
along.  After a redirect to another server and one from there, back at the endpoint, they are not
posted again. -/
theorem Transport.execute_headers_there_and_back :
    ∃ near x, (transport.execute detour request).2.exchanges[1]? = some near ∧
      (transport.execute detour request).2.exchanges[3]? = some x ∧
      near.post.url = { transport.endpoint with path := .rooted ["near"] } ∧
      near.post.headers = transport.headers request ∧
      near.post.headers.values "authorization" = [bytesOf "Basic dTpw"] ∧
      near.post.headers.values "cookie" = [bytesOf "c"] ∧
      x.post.url = transport.endpoint ∧
      x.post.headers =
        (((transport.headers request).remove "authorization").remove "cookie").remove
          "proxy-authorization" := by
  obtain ⟨near, hnear⟩ : ∃ near, (transport.execute detour request).2.exchanges[1]? = some near :=
    Option.isSome_iff_exists.mp (by decide +kernel)
  obtain ⟨x, hx⟩ : ∃ x, (transport.execute detour request).2.exchanges[3]? = some x :=
    Option.isSome_iff_exists.mp (by decide +kernel)
  have hurlNear : (transport.execute detour request).2.exchanges[1]?.map (·.post.url) =
      some { transport.endpoint with path := .rooted ["near"] } := by decide +kernel
  have hurl : (transport.execute detour request).2.exchanges[3]?.map (·.post.url) =
      some transport.endpoint := by decide +kernel
  have hkept : KeepsOrigin (transport.execute detour request).2.exchanges 1 := by decide +kernel
  have hleft : ¬ KeepsOrigin (transport.execute detour request).2.exchanges 3 := by decide +kernel
  have hheaders := (transport.execute_headers detour request hnear).1 hkept
  rw [hnear] at hurlNear
  rw [hx] at hurl
  exact ⟨near, x, hnear, hx, Option.some.inj hurlNear, hheaders, by rw [hheaders]; decide +kernel,
    by rw [hheaders]; decide +kernel, Option.some.inj hurl,
    (transport.execute_headers detour request hx).2.1 hleft⟩

end GraphqlClient
