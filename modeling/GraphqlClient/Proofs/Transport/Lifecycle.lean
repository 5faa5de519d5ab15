import GraphqlClient.Proofs.Outcome
import GraphqlClient.Proofs.Transport.Run
import GraphqlClient.Proofs.Url.Userinfo
import Mathlib

/-!
# The life of a transport

A transport is used again and again: calls are made, and now and then other hooks take over.  Its
life is the list of these turns, each with the transport that it finds (`Transport.life`).  What a
turn does about the client is said once, with one rule for each way (`Transport.Turn.outcome`).
Whether there is a client at some time can then be told from the turns before
(`Transport.client?_isSome_iff`), by going back to the last change of hooks.  Main statement:
`Transport.life_connectsOnDemand`.
-/

namespace GraphqlClient

namespace Transport

/-! ### Turns -/

/-- What can be done with a transport. -/
inductive Operation where
  | setHooks (hooks : Hooks)
  | execute (env : Environment) (request : Request)

/-- An operation, and the transport that it is done with. -/
structure Turn where
  before : Transport
  operation : Operation

namespace Turn

/-- The transport afterwards. -/
def after (turn : Turn) : Transport :=
  match turn.operation with
  | .setHooks hooks => turn.before.setHooks hooks
  | .execute env request => (turn.before.execute env request).1

/-- The call that is made. -/
def call? (turn : Turn) : Option Call :=
  match turn.operation with
  | .setHooks _ => none
  | .execute env request => some (turn.before.execute env request).2

/-- The hooks that take over. -/
def hooks? (turn : Turn) : Option Hooks :=
  match turn.operation with
  | .setHooks hooks => some hooks
  | .execute _ _ => none

/-- The hooks are asked for a client. -/
def Asks (turn : Turn) : Prop := ∃ call ∈ turn.call?, call.asked = true

/-- The hooks are asked for a client, and this try works out. -/
def Builds (turn : Turn) : Prop := turn.Asks ∧ turn.before.hooks.builds turn.before.tries = true

/-- The hooks are asked for a client, and this try does not work out. -/
def FailsToBuild (turn : Turn) : Prop :=
  turn.Asks ∧ turn.before.hooks.builds turn.before.tries = false

/-- What a turn does about the client. -/
inductive Outcome (turn : Turn) : Prop
  /-- Other hooks take over, and the client is given up. -/
  | swapped {hooks : Hooks} (operation : turn.operation = .setHooks hooks)
      (after : turn.after = turn.before.setHooks hooks)
  /-- There is a client for the call. -/
  | reused {env : Environment} {request : Request} {client : Client}
      (operation : turn.operation = .execute env request)
      (cached : turn.before.client? = some client)
      (after : turn.after = turn.before)
  /-- A client for the call is built, and stays. -/
  | built {env : Environment} {request : Request}
      (operation : turn.operation = .execute env request)
      (missing : turn.before.client? = none)
      (works : turn.before.hooks.builds turn.before.tries = true)
      (after : turn.after =
        { turn.before with
          client? := some { builder := turn.before.hooks }, tries := turn.before.tries + 1 })
  /-- There is no client for the call. -/
  | unbuilt {env : Environment} {request : Request}
      (operation : turn.operation = .execute env request)
      (missing : turn.before.client? = none)
      (fails : turn.before.hooks.builds turn.before.tries = false)
      (after : turn.after = { turn.before with client? := none, tries := turn.before.tries + 1 })

variable {turn : Turn}

/-- Every turn comes out in one of the ways that there are. -/
lemma outcome (turn : Turn) : turn.Outcome := by
  obtain ⟨t, operation⟩ := turn
  cases operation with
  | setHooks hooks => exact .swapped rfl rfl
  | execute env request =>
    have hafter : (Turn.mk t (.execute env request)).after = t.connect := rfl
    unfold connect at hafter
    cases hclient : t.client? with
    | some client =>
      rw [hclient] at hafter
      exact .reused rfl hclient hafter
    | none =>
      rw [hclient] at hafter
      cases hbuilds : t.hooks.builds t.tries with
      | true =>
        rw [if_pos hbuilds] at hafter
        exact .built rfl hclient hbuilds hafter
      | false =>
        rw [if_neg (by simp [hbuilds])] at hafter
        exact .unbuilt rfl hclient hbuilds hafter

/-- A call asks the hooks if there is no client. -/
lemma asked_iff {call : Call} (h : turn.call? = some call) :
    call.asked = true ↔ turn.before.client? = none := by
  obtain ⟨t, operation⟩ := turn
  cases operation with
  | setHooks hooks => cases h
  | execute env request =>
    cases h
    exact Option.isNone_iff_eq_none

/-- A call asks for a client exactly if there is none before. -/
lemma asks_iff {env : Environment} {request : Request} (h : turn.operation = .execute env request) :
    turn.Asks ↔ turn.before.client? = none := by
  have hcall : turn.call? = some (turn.before.execute env request).2 := by rw [call?, h]
  rw [← asked_iff hcall]
  constructor
  · rintro ⟨call, hmem, hasked⟩
    obtain rfl := Option.some.inj (hcall.symm.trans hmem)
    exact hasked
  · intro hasked
    exact ⟨_, hcall, hasked⟩

/-- Setting hooks does not ask for a client. -/
lemma not_asks_of_setHooks {hooks : Hooks} (h : turn.operation = .setHooks hooks) :
    ¬ turn.Asks := by
  rintro ⟨call, hmem, -⟩
  rw [call?, h] at hmem
  cases hmem

/-- After a turn there is a client if the turn builds one, or keeps the one that was there. -/
lemma client?_after_isSome_iff (turn : Turn) :
    turn.after.client?.isSome = true ↔
      turn.Builds ∨ (turn.hooks? = none ∧ turn.before.client?.isSome = true) := by
  unfold Builds hooks?
  -- A turn builds a client only if it asks for one, so that each way to come out settles both
  -- sides.
  cases turn.outcome with
  | swapped operation after =>
    have hasks := not_asks_of_setHooks operation
    simp [after, operation, hasks, setHooks]
  | reused operation cached after => simp [after, operation, cached]
  | built operation missing works after => simp [after, works, asks_iff operation, missing]
  | unbuilt operation missing fails after => simp [after, fails, missing]

/-- Only other hooks replace the hooks. -/
lemma hooks_after (turn : Turn) : turn.after.hooks = turn.hooks?.getD turn.before.hooks := by
  unfold hooks?
  cases turn.outcome with
  | swapped operation after => rw [after, operation]; rfl
  | reused operation cached after => rw [after, operation]; rfl
  | built operation missing works after => rw [after, operation]; rfl
  | unbuilt operation missing fails after => rw [after, operation]; rfl

/-- A turn that makes no call leaves no client. -/
lemma client?_after_of_no_call (h : turn.call? = none) : turn.after.client? = none := by
  cases hoperation : turn.operation with
  | setHooks hooks => rw [after, hoperation]; rfl
  | execute env request =>
    rw [call?, hoperation] at h
    cases h

/-- A call that asks the hooks counts as a try. -/
lemma tries_after {call : Call} (h : turn.call? = some call) :
    turn.after.tries = turn.before.tries + if call.asked then 1 else 0 := by
  cases turn.outcome with
  | swapped operation after =>
    rw [call?, operation] at h
    cases h
  | reused operation cached after =>
    have hasked : ¬ call.asked = true := by simp [asked_iff h, cached]
    rw [after, if_neg hasked, Nat.add_zero]
  | built operation missing works after => rw [after, if_pos ((asked_iff h).mpr missing)]
  | unbuilt operation missing fails after => rw [after, if_pos ((asked_iff h).mpr missing)]

/-- A turn that fails to build a client is a call that posts nothing and leaves no client. -/
lemma FailsToBuild.call (h : turn.FailsToBuild) :
    turn.after.client? = none ∧
      ∀ call ∈ turn.call?, call.exchanges = [] ∧ call.result = .error (.http .client) := by
  obtain ⟨hasks, hfails⟩ := h
  cases turn.outcome with
  | swapped operation after => exact absurd hasks (not_asks_of_setHooks operation)
  | reused operation cached after =>
    rw [asks_iff operation, cached] at hasks
    cases hasks
  | built operation missing works after =>
    rw [hfails] at works
    cases works
  | @unbuilt env request operation missing fails after =>
    have hconnect : turn.before.connect.client? = none := by
      have hafter : turn.after = turn.before.connect := by rw [Turn.after, operation]; rfl
      rw [← hafter, after]
    refine ⟨by rw [after], fun call hcall => ?_⟩
    rw [call?, operation] at hcall
    cases hcall
    exact ⟨exchanges_execute_of_no_client hconnect env request,
      result_execute_of_no_client hconnect env request⟩

end Turn

/-! ### Lives -/

/-- The turns of a transport with which some operations are done. -/
def life (t : Transport) : List Operation → List Turn
  | [] => []
  | operation :: operations => ⟨t, operation⟩ :: life (Turn.mk t operation).after operations

variable {t : Transport} {operations : List Operation} {xs ys : List Turn}
    {turn first second : Turn}

/-- A life starts with the transport that it is the life of. -/
lemma before_of_life_head (h : t.life operations = turn :: ys) : turn.before = t := by
  cases operations with
  | nil => cases h
  | cons operation operations =>
    obtain ⟨rfl, -⟩ := List.cons.inj h
    rfl

/-- Each turn finds the transport that the one before has left. -/
lemma before_of_life_next (h : t.life operations = xs ++ first :: second :: ys) :
    second.before = first.after := by
  induction xs generalizing t operations with
  | nil =>
    cases operations with
    | nil => cases h
    | cons operation operations =>
      obtain ⟨rfl, hrest⟩ := List.cons.inj h
      exact before_of_life_head hrest
  | cons x xs ih =>
    cases operations with
    | nil => cases h
    | cons operation operations =>
      obtain ⟨-, hrest⟩ := List.cons.inj h
      exact ih hrest

/-- What one turn passes on to the next is true of every transport in a life. -/
lemma life_induction {p : List Turn → Transport → Prop} (start : p [] t)
    (step : ∀ (xs : List Turn) (turn : Turn), p xs turn.before → p (xs ++ [turn]) turn.after)
    (h : t.life operations = xs ++ turn :: ys) : p xs turn.before := by
  induction xs using List.reverseRecOn generalizing turn ys with
  | nil =>
    rw [before_of_life_head h]
    exact start
  | append_singleton xs last ih =>
    rw [List.append_assoc, List.singleton_append] at h
    rw [before_of_life_next h]
    exact step xs last (ih h)

/-! ### Clients -/

/-- Some turn has built a client, and the hooks have not been changed since. -/
def BuiltSince (turns : List Turn) : Prop :=
  ∃ earlier builder later, turns = earlier ++ builder :: later ∧ builder.Builds ∧
    ∀ turn ∈ later, turn.hooks? = none

/-- Before any turn, no client has been built. -/
lemma not_builtSince_nil : ¬ BuiltSince [] := by
  rintro ⟨earlier, builder, later, hsplit, -⟩
  have hne : earlier ++ builder :: later ≠ [] := by simp
  exact hne hsplit.symm

/-- A client is there after a turn that builds it, and after one that leaves the hooks in place. -/
lemma builtSince_append_singleton_iff :
    BuiltSince (xs ++ [turn]) ↔ turn.Builds ∨ (turn.hooks? = none ∧ BuiltSince xs) := by
  constructor
  · rintro ⟨earlier, builder, later, hsplit, hbuilds, hlater⟩
    rcases List.eq_nil_or_concat later with rfl | ⟨later, last, rfl⟩
    · obtain ⟨-, hlast⟩ := List.append_inj' hsplit rfl
      obtain rfl : turn = builder := List.singleton_inj.mp hlast
      exact .inl hbuilds
    · have hsplit' : xs ++ [turn] = (earlier ++ builder :: later) ++ [last] := by
        rw [hsplit, List.concat_eq_append, List.append_assoc, List.cons_append]
      obtain ⟨rfl, hlast⟩ := List.append_inj' hsplit' rfl
      obtain rfl : turn = last := List.singleton_inj.mp hlast
      rw [List.concat_eq_append] at hlater
      obtain ⟨hbetween, hturn⟩ := List.forall_mem_append.mp hlater
      exact .inr ⟨hturn turn List.mem_cons_self, earlier, builder, later, rfl, hbuilds, hbetween⟩
  · rintro (hbuilds | ⟨hturn, earlier, builder, later, rfl, hbuilds, hlater⟩)
    · exact ⟨xs, turn, [], rfl, hbuilds, by simp⟩
    · refine ⟨earlier, builder, later ++ [turn], by simp, hbuilds, ?_⟩
      exact List.forall_mem_append.mpr ⟨hlater, by simpa using hturn⟩

/-- There is a client exactly if one has been built since the hooks were last changed. -/
theorem client?_isSome_iff (hnew : t.client? = none) (h : t.life operations = xs ++ turn :: ys) :
    turn.before.client?.isSome = true ↔ BuiltSince xs := by
  refine life_induction (p := fun xs t => t.client?.isSome = true ↔ BuiltSince xs) ?_ ?_ h
  · simp [hnew, not_builtSince_nil]
  · intro xs last ih
    rw [Turn.client?_after_isSome_iff, builtSince_append_singleton_iff, ih]

/-- The hooks are those that were set last. -/
lemma hooks_eq (h : t.life operations = xs ++ turn :: ys) :
    turn.before.hooks = ((xs.filterMap Turn.hooks?).getLast?).getD t.hooks := by
  refine life_induction (p := fun xs u => u.hooks =
    ((xs.filterMap Turn.hooks?).getLast?).getD t.hooks) rfl ?_ h
  intro xs last ih
  rw [Turn.hooks_after, ih, List.filterMap_append, List.filterMap_cons, List.filterMap_nil]
  cases last.hooks? with
  | none => simp
  | some hooks => simp

/-- The client is from these hooks. -/
lemma builder_eq (hnew : t.client? = none) (h : t.life operations = xs ++ turn :: ys) :
    ∀ client ∈ turn.before.client?, client.builder = turn.before.hooks := by
  refine life_induction (p := fun _ t => ∀ client ∈ t.client?, client.builder = t.hooks) ?_ ?_ h
  · intro client hclient
    rw [hnew] at hclient
    cases hclient
  · intro xs last ih client hclient
    cases last.outcome with
    | swapped operation after =>
      rw [after] at hclient
      cases hclient
    | reused operation cached after =>
      rw [after] at hclient ⊢
      exact ih client hclient
    | built operation missing works after =>
      rw [after] at hclient ⊢
      obtain rfl := Option.some.inj hclient
      rfl
    | unbuilt operation missing fails after =>
      rw [after] at hclient
      cases hclient

/-! ### Calls -/

/-- All transports in a life have the same endpoint, credentials and configuration. -/
lemma settings_eq (h : turn ∈ t.life operations) :
    turn.before.endpoint = t.endpoint ∧ turn.before.authorization? = t.authorization? ∧
      turn.before.config = t.config := by
  obtain ⟨xs, ys, hsplit⟩ := List.append_of_mem h
  refine life_induction (p := fun _ u => u.endpoint = t.endpoint ∧
    u.authorization? = t.authorization? ∧
    u.config = t.config) ⟨rfl, rfl, rfl⟩ ?_ hsplit
  intro xs last ih
  cases last.outcome with
  | swapped operation after => rw [after]; exact ih
  | reused operation cached after => rw [after]; exact ih
  | built operation missing works after => rw [after]; exact ih
  | unbuilt operation missing fails after => rw [after]; exact ih

/-- What a call with a client does depends on the endpoint, the credentials, the configuration and
the header fields of the hooks. -/
lemma execute_congr {u : Transport} {client client' : Client}
    (hclient : t.connect.client? = some client) (hclient' : u.connect.client? = some client')
    (hendpoint : t.endpoint = u.endpoint) (hauthorization : t.authorization? = u.authorization?)
    (hconfig : t.config = u.config) (hhooks : t.hooks.headers = u.hooks.headers) (env : Environment)
    (r : Request) :
    (t.execute env r).2.exchanges = (u.execute env r).2.exchanges ∧
      (t.execute env r).2.result = (u.execute env r).2.result := by
  have hheaders : t.headers r = u.headers r := by
    unfold headers
    rw [hauthorization, hconfig, hhooks]
  obtain ⟨hexchanges, hresult⟩ := execute_of_client hclient env r
  obtain ⟨hexchanges', hresult'⟩ := execute_of_client hclient' env r
  rw [hexchanges, hresult, hexchanges', hresult', hheaders, hendpoint]
  exact ⟨rfl, rfl⟩

/-- A call that does not fail for want of a client has one. -/
lemma exists_client_of_not_failsToBuild {env : Environment} {request : Request}
    (hoperation : turn.operation = .execute env request) (h : ¬ turn.FailsToBuild) :
    ∃ client, turn.before.connect.client? = some client := by
  have hafter : turn.after = turn.before.connect := by
    rw [Turn.after, hoperation]
    rfl
  rw [← hafter]
  cases turn.outcome with
  | swapped operation after =>
    rw [hoperation] at operation
    cases operation
  | reused operation cached after =>
    rw [after]
    exact ⟨_, cached⟩
  | built operation missing works after =>
    rw [after]
    exact ⟨_, rfl⟩
  | unbuilt operation missing fails after =>
    exact absurd ⟨(Turn.asks_iff operation).mpr missing, fails⟩ h

/-! ### On demand -/

/-- How the turns of a transport that was new come by their clients, and what their calls do with
them. -/
structure ConnectsOnDemand (t : Transport) (turns : List Turn) : Prop where
  /-- The hooks are those that were set last, and a client is always from them. -/
  installed : ∀ (xs : List Turn) (turn : Turn) (ys : List Turn), turns = xs ++ turn :: ys →
    turn.before.hooks = ((xs.filterMap Turn.hooks?).getLast?).getD t.hooks ∧
      ∀ client ∈ turn.before.client?, client.builder = turn.before.hooks
  /-- There is a client exactly if one has been built since these hooks were set. -/
  cached : ∀ (xs : List Turn) (turn : Turn) (ys : List Turn), turns = xs ++ turn :: ys →
    (turn.before.client?.isSome = true ↔ BuiltSince xs)
  /-- A call asks the hooks for a client exactly if there is none, and then once. -/
  asks : ∀ turn ∈ turns, ∀ call ∈ turn.call?,
    (call.asked = true ↔ turn.before.client? = none) ∧
      turn.after.tries = turn.before.tries + if call.asked then 1 else 0
  /-- Between two builds that work out, the hooks are changed. -/
  once : ∀ (xs : List Turn) (first : Turn) (between : List Turn) (second : Turn) (ys : List Turn),
    turns = xs ++ first :: (between ++ second :: ys) →
      first.Builds → second.Builds → ∃ turn ∈ between, turn.hooks? ≠ none
  /-- A call for which no client can be built posts nothing. -/
  failed : ∀ turn ∈ turns, turn.FailsToBuild → turn.after.client? = none ∧
    ∀ call ∈ turn.call?, call.exchanges = [] ∧ call.result = .error (.http .client)
  /-- The next call tries again. -/
  retried : ∀ (xs : List Turn) (first : Turn) (between : List Turn) (second : Turn)
    (ys : List Turn), turns = xs ++ first :: (between ++ second :: ys) →
      first.FailsToBuild → (∀ turn ∈ between, turn.call? = none) →
        ∀ call ∈ second.call?, call.asked = true
  /-- Any other call does what it would do if the transport were new and had hooks that add the same
  header fields and build a client at once. -/
  fresh : ∀ turn ∈ turns, ∀ env request, turn.operation = .execute env request →
    ¬ turn.FailsToBuild →
    ∀ hooks : Hooks, hooks.headers = turn.before.hooks.headers → hooks.builds 0 = true →
      ∀ call ∈ turn.call?,
        call.exchanges = ((t.setHooks hooks).execute env request).2.exchanges ∧
          call.result = ((t.setHooks hooks).execute env request).2.result

/-! ### New transports -/

/-- There is something to authorize with exactly if the address has credentials. -/
lemma isSome_of_authorization {url : Url} {authorization? : Option Bytes}
    (h : authorization url = .ok authorization?) : authorization?.isSome = url.hasCredentials := by
  unfold authorization Url.lossyAuthorization? at h
  cases hcredentials : url.hasCredentials with
  | false =>
    rw [hcredentials] at h
    cases h
    rfl
  | true =>
    rw [hcredentials, if_pos rfl] at h
    dsimp only at h
    generalize headerValue? _ = value? at h
    cases value? with
    | none => cases h
    | some value =>
      cases h
      rfl

/-- Credentials do not stay in the address that they were read from. -/
lemma cleared_eq {url : Url} {authorization? : Option Bytes} (hsound : url.Sound)
    (h : authorization url = .ok authorization?) :
    (if authorization?.isSome then url.clearUsername.clearPassword else url) =
      url.withoutCredentials := by
  rw [isSome_of_authorization h]
  cases hcredentials : url.hasCredentials with
  | false => exact (Url.withoutCredentials_of_not_hasCredentials hcredentials).symm
  | true => exact Url.clear_of_takesCredentials (hsound hcredentials)

/-- What a new transport is made of. -/
theorem ofConfig_eq_ok_iff {endpoint : String} {config : Config} :
    ofConfig endpoint config = .ok t ↔
      ∃ url authorization?, Url.parse endpoint = .ok url ∧ authorization url = .ok authorization? ∧
        t = { endpoint := url.withoutCredentials, authorization?, config, hooks := .default,
              client? := none, tries := 0 } := by
  unfold ofConfig
  rw [bind_eq_ok_iff]
  simp only [mapError_eq_ok_iff, bind_pure_eq_ok_iff]
  constructor
  · rintro ⟨url, hparse, authorization?, hauthorization, rfl⟩
    rw [cleared_eq (Url.sound_of_parse hparse) hauthorization]
    exact ⟨url, authorization?, hparse, hauthorization, rfl⟩
  · rintro ⟨url, authorization?, hparse, hauthorization, rfl⟩
    refine ⟨url, hparse, authorization?, hauthorization, ?_⟩
    rw [cleared_eq (Url.sound_of_parse hparse) hauthorization]

/-- Whatever is done with a transport, it has one client for all calls from one change of hooks to
the next, and no call leaves a trace in a later one. -/
theorem life_connectsOnDemand {endpoint : String} {config : Config}
    (h : ofConfig endpoint config = .ok t) (operations : List Operation) :
    t.ConnectsOnDemand (t.life operations) := by
  have hnew : t.client? = none := by
    obtain ⟨url, authorization?, -, -, rfl⟩ := ofConfig_eq_ok_iff.mp h
    rfl
  exact {
    installed := fun xs turn ys hsplit => ⟨hooks_eq hsplit, builder_eq hnew hsplit⟩
    cached := fun xs turn ys hsplit => client?_isSome_iff hnew hsplit
    asks := fun turn _ call hcall => ⟨Turn.asked_iff hcall, Turn.tries_after hcall⟩
    once := by
      intro xs first between second ys hsplit hfirst hsecond
      by_contra hnone
      push Not at hnone
      rw [← List.cons_append, ← List.append_assoc] at hsplit
      -- Without other hooks in between, the first client would still be there.
      have hcached := (client?_isSome_iff hnew hsplit).mpr ⟨xs, first, between, rfl, hfirst, hnone⟩
      obtain ⟨⟨call, hcall, hasked⟩, -⟩ := hsecond
      rw [(Turn.asked_iff hcall).mp hasked] at hcached
      cases hcached
    failed := fun turn _ hfails => hfails.call
    retried := by
      intro xs first between second ys hsplit hfails hbetween call hcall
      refine (Turn.asked_iff hcall).mpr ?_
      -- The turn before the second call has left no client: it failed to build one, or set hooks.
      rcases List.eq_nil_or_concat between with rfl | ⟨between, last, rfl⟩
      · rw [before_of_life_next hsplit]
        exact hfails.call.1
      · rw [List.concat_eq_append, List.append_assoc, List.singleton_append, ← List.cons_append,
          ← List.append_assoc] at hsplit
        rw [before_of_life_next hsplit]
        exact Turn.client?_after_of_no_call (hbetween last (by simp))
    fresh := by
      intro turn hturn env request hoperation hnot hooks hheaders hbuilds call hcall
      rw [Turn.call?, hoperation] at hcall
      obtain rfl := Option.some.inj hcall
      obtain ⟨client, hclient⟩ := exists_client_of_not_failsToBuild hoperation hnot
      have hclient' : (t.setHooks hooks).connect.client? = some { builder := hooks } := by
        unfold connect setHooks
        exact if_pos hbuilds
      obtain ⟨hendpoint, hauthorization, hconfig⟩ := settings_eq hturn
      exact execute_congr hclient hclient' hendpoint hauthorization hconfig hheaders.symm
        env request }

/-! ### A transport whose first try fails -/

/-- Hooks that build a client at the second try. -/
def hesitantHooks : Hooks := { headers := fun _ => [], builds := fun tries => tries ≠ 0 }

/-- Three calls with such hooks, and one with others. -/
def hesitantOperations : List Operation :=
  let call := Operation.execute ThereAndBack.environment ThereAndBack.request
  [.setHooks hesitantHooks, call, call, call, .setHooks .default, call]

/-- The second call tries again, the third uses its client, and the fourth needs another one. -/
theorem life_connectsOnDemand_hesitant :
    ∃ t, ofConfig "http://u:p@a/" Config.default = .ok t ∧
      t.ConnectsOnDemand (t.life hesitantOperations) ∧
      (t.life hesitantOperations).filterMap (fun turn => turn.call?.map fun call =>
        (call.asked, call.exchanges.length)) = [(true, 0), (true, 3), (false, 3), (true, 3)] := by
  have hcalls : (ofConfig "http://u:p@a/" Config.default).toOption.map (fun t =>
      (t.life hesitantOperations).filterMap fun turn => turn.call?.map fun call =>
        (call.asked, call.exchanges.length)) = some [(true, 0), (true, 3),
            (false, 3), (true, 3)] := by
    decide +kernel
  cases hmade : ofConfig "http://u:p@a/" Config.default with
  | error e =>
    rw [hmade] at hcalls
    cases hcalls
  | ok t =>
    rw [hmade] at hcalls
    exact ⟨t, rfl, life_connectsOnDemand hmade hesitantOperations, Option.some.inj hcalls⟩

end Transport

end GraphqlClient
