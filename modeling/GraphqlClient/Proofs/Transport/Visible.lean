import GraphqlClient.Proofs.Transport.BasicAuthorization
import GraphqlClient.Proofs.Transport.Secrets
import Mathlib

/-!
# What can be seen of a transport

Credentials that an endpoint is written with go into one place of a transport, from where one header
field is made.  Two transports that differ there keep differing there only, whatever is done with
both (`Transport.life_agreeButAuthorization`), and so nothing else of what they are and of what they
post first can tell one from the other.  Main statement: `Transport.ofConfig_hidesUserinfo`.
-/

namespace GraphqlClient

/-- Without credentials an address is the same whatever a userinfo tells. -/
lemma Url.withoutCredentials_withUserinfo (url : Url) (userinfo? : Option (List Char)) :
    (url.withUserinfo userinfo?).withoutCredentials = url.withoutCredentials := by
  unfold withUserinfo
  rcases cut (· = ':') (userinfo?.getD []) with ⟨username, password?⟩
  rfl

/-- Two texts write an address around what may be any two userinfos, or none.  Wherever somebody is
named, there is such a frame (`Url.Frame.exists_of_parse`). -/
def Url.SameButUserinfo (text text' : String) : Prop :=
  ∃ (frame : Frame) (userinfo? userinfo'? : Option (List Char)),
    frame.Holds userinfo? text ∧ frame.Holds userinfo'? text'

/-- Two posts are the same but for what authorizes them. -/
structure Post.AgreeButAuthorization (post post' : Post) : Prop where
  url : post.url = post'.url
  body : post.body = post'.body
  fields : post.fields.AgreeBut ["authorization"] post'.fields

/-- The first post of a call. -/
def Call.first? (call : Call) : Option Post := call.exchanges[0]?.map (·.post)

namespace Transport

/-! ### The same things done with two transports -/

/-- Two operations are the same, except that the network may be another one, and that the files may
be others after the first post. -/
inductive Operation.Alike : Operation → Operation → Prop
  | setHooks (hooks : Hooks) : Alike (.setHooks hooks) (.setHooks hooks)
  | execute {env env' : Environment} (r : Request) (files : env.disk 0 = env'.disk 0) :
      Alike (.execute env r) (.execute env' r)

/-- Two transports are the same but for the authorization. -/
def AgreeButAuthorization (t t' : Transport) : Prop :=
  ∃ authorization?, t' = { t with authorization? }

variable {t t' : Transport} {operation operation' : Operation}

/-- Transports that agree but for the authorization still do when they are connected. -/
lemma AgreeButAuthorization.connect (h : t.AgreeButAuthorization t') :
    t.connect.AgreeButAuthorization t'.connect := by
  obtain ⟨authorization?, rfl⟩ := h
  obtain ⟨endpoint, old?, config, hooks, client?, tries⟩ := t
  cases client? with
  | none => exact ⟨authorization?, rfl⟩
  | some client => exact ⟨authorization?, rfl⟩

/-- They stay so when the same is done with both. -/
lemma AgreeButAuthorization.after (h : t.AgreeButAuthorization t')
    (halike : operation.Alike operation') :
    (Turn.mk t operation).after.AgreeButAuthorization (Turn.mk t' operation').after := by
  cases halike with
  | setHooks hooks =>
    obtain ⟨authorization?, rfl⟩ := h
    exact ⟨authorization?, rfl⟩
  | execute => exact h.connect

/-- The first posts of both for a request are the same but for the authorization. -/
lemma AgreeButAuthorization.first (h : t.AgreeButAuthorization t') {env env' : Environment}
    (r : Request) (hfiles : env.disk 0 = env'.disk 0) :
    Option.Rel Post.AgreeButAuthorization (t.execute env r).2.first?
      (t'.execute env' r).2.first? := by
  have hconnect := h.connect
  obtain ⟨authorization?, rfl⟩ := h
  obtain ⟨_, hconnected⟩ := hconnect
  unfold Call.first?
  cases hclient : t.connect.client? with
  | none =>
    rw [exchanges_execute_of_no_client hclient,
      exchanges_execute_of_no_client (by rw [hconnected, hclient])]
    exact .none
  | some client =>
    have hrun := run_execute hclient env r
    have hrun' := run_execute (by rw [hconnected]; exact hclient) env' r
    cases hbody : Body.ofPayload (env.disk 0) r.payload with
    | error e =>
      have hbody' := hbody
      rw [hfiles] at hbody'
      rw [(hrun.unique (.unopened hbody)).1, (hrun'.unique (.unopened hbody')).1]
      exact .none
    | ok body =>
      have hbody' := hbody
      rw [hfiles] at hbody'
      rw [hrun.head hbody, hrun'.head hbody']
      have hheaders : (t.headers r).AgreeBut ["authorization"]
          (({ t with authorization? } : Transport).headers r) :=
        headers_agreeBut_of_mem (by decide) (fun _ _ => rfl) (fun _ _ => rfl) (fun _ _ => rfl)
      exact .some ⟨rfl, rfl, Post.fields_agreeBut rfl rfl hheaders⟩

/-- If a call is made in each of two turns, they start with the same post, but for the
authorization, or none of them posts anything. -/
def Turn.StartsAlike (turn turn' : Turn) : Prop :=
  Option.Rel (fun call call' : Call =>
    Option.Rel Post.AgreeButAuthorization call.first? call'.first?) turn.call? turn'.call?

/-- Whatever is done with both, their calls start alike. -/
theorem life_agreeButAuthorization (h : t.AgreeButAuthorization t')
    {operations operations' : List Operation}
    (halike : List.Forall₂ Operation.Alike operations operations') :
    List.Forall₂ Turn.StartsAlike (t.life operations) (t'.life operations') := by
  induction halike generalizing t t' with
  | nil => exact .nil
  | @cons operation operation' operations operations' hfirst hrest ih =>
    refine .cons ?_ (ih (h.after hfirst))
    cases hfirst with
    | setHooks hooks => exact .none
    | execute r files => exact .some (h.first r files)

/-! ### Two transports for one endpoint -/

/-- From any text that writes an address a transport is made, and its endpoint has no credentials.
Another text that differs in the userinfo only makes a transport with the same endpoint, which is
shown in the same words, and whatever is then done with both, their calls start with the same post,
but for the authorization. -/
theorem ofConfig_hidesUserinfo {endpoint : String} {url : Url}
    (hparse : Url.parse endpoint = .ok url) (config : Config) :
    ∃ t, ofConfig endpoint config = .ok t ∧ t.endpoint = url.withoutCredentials ∧
      t.endpoint.username = "" ∧ t.endpoint.password = "" ∧
      ∀ endpoint', Url.SameButUserinfo endpoint endpoint' →
        ∃ t', ofConfig endpoint' config = .ok t' ∧ t'.endpoint = t.endpoint ∧ t'.text = t.text ∧
          ∀ operations operations', List.Forall₂ Operation.Alike operations operations' →
            List.Forall₂ Turn.StartsAlike (t.life operations) (t'.life operations') := by
  refine ⟨_, ofConfig_of_parse hparse config, rfl, rfl, rfl, ?_⟩
  -- The frame is what both texts have in common, so that both are read by way of it.
  rintro endpoint' ⟨frame, userinfo?, userinfo'?, hholds, hholds'⟩
  rw [hholds.parse_eq] at hparse
  obtain ⟨base, hbase, rfl⟩ := map_eq_ok_iff.mp hparse
  have hparse' : Url.parse endpoint' = .ok (base.withUserinfo userinfo'?) := by
    rw [hholds'.parse_eq, hbase]
    rfl
  have hendpoint : (base.withUserinfo userinfo'?).withoutCredentials =
      (base.withUserinfo userinfo?).withoutCredentials := by
    rw [Url.withoutCredentials_withUserinfo, Url.withoutCredentials_withUserinfo]
  refine ⟨_, ofConfig_of_parse hparse' config, hendpoint, ?_, ?_⟩
  · unfold text
    rw [hendpoint]
  · intro operations operations' halike
    refine life_agreeButAuthorization
      ⟨(base.withUserinfo userinfo'?).lossyAuthorization?.map bytesOf, ?_⟩ halike
    rw [hendpoint]

/-- Who is named in front of a server does not show, nor whether anyone is. -/
theorem ofConfig_hidesUserinfo_named :
    ∃ t t', ofConfig "HTTP://100%25:p@a:81?q" Config.default = .ok t ∧
      ofConfig " HTTP://a:81?\nq" Config.default = .ok t' ∧
      t.authorization? = some (bytesOf "Basic MTAwJTpw") ∧ t'.authorization? = none ∧
        t'.text = t.text ∧
      Option.Rel Post.AgreeButAuthorization
        (t.execute ThereAndBack.environment ThereAndBack.request).2.first?
        (t'.execute ThereAndBack.environment ThereAndBack.request).2.first? := by
  have hholds : serverFrame.Holds (some "100%25:p".toList) "HTTP://100%25:p@a:81?q" :=
    ⟨by decide, by simp [Url.endsServer, Url.isSlash]⟩
  have hholds' : serverFrame.Holds none " HTTP://a:81?\nq" := ⟨by decide, nofun⟩
  obtain ⟨url, hparse⟩ : ∃ url, Url.parse "HTTP://100%25:p@a:81?q" = .ok url :=
    isOk_iff.mp (by decide +kernel)
  obtain ⟨t, hmade, -, -, -, hsame⟩ := ofConfig_hidesUserinfo hparse Config.default
  obtain ⟨t', hmade', -, htext, hlife⟩ := hsame _ ⟨_, _, _, hholds, hholds'⟩
  let operation := Operation.execute ThereAndBack.environment ThereAndBack.request
  have hturns := hlife [operation] [operation] (.cons (.execute _ rfl) .nil)
  refine ⟨t, t', hmade, hmade', ?_, ?_, htext, ?_⟩
  · have hvalue :
        (ofConfig "HTTP://100%25:p@a:81?q" Config.default).toOption.map (·.authorization?) =
        some (some (bytesOf "Basic MTAwJTpw")) := by decide +kernel
    rw [hmade] at hvalue
    exact Option.some.inj hvalue
  · have hvalue : (ofConfig " HTTP://a:81?\nq" Config.default).toOption.map (·.authorization?) =
        some none := by
      decide +kernel
    rw [hmade'] at hvalue
    exact Option.some.inj hvalue
  · cases hturns with
    | cons hturn _ =>
      cases hturn with
      | some hcall => exact hcall

end Transport

end GraphqlClient
