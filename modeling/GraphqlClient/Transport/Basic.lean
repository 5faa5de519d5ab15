import GraphqlClient.Config.Basic
import GraphqlClient.Transport.Error
import GraphqlClient.Request.Basic
import GraphqlClient.Url.Credentials
import GraphqlClient.Url.Parser

/-!
# Transports

A transport sends requests to one endpoint.  Its hooks add header fields to each request and build
the client that all requests share; the client is built when the first request needs it.
-/

namespace GraphqlClient

/-- What a transport can be told to do differently. -/
structure Hooks where
  /-- The header fields for a request with some context. -/
  headers : Entries Json → Headers
  /-- Whether building a client works out, at each try in turn. -/
  builds : Nat → Bool

def Hooks.default : Hooks := { headers := fun _ => [], builds := fun _ => true }

/-- A client, and the hooks that built it. -/
structure Client where
  builder : Hooks

structure Transport where
  /-- Where requests go.  It has no credentials. -/
  endpoint : Url
  /-- The credentials that the endpoint was given with. -/
  authorization? : Option Bytes
  config : Config
  hooks : Hooks
  client? : Option Client
  /-- How often the hooks have been asked for a client. -/
  tries : Nat

namespace Transport

/-! ### Making -/

/-- The field value for the credentials of an endpoint, if it has any. -/
def authorization (endpoint : Url) : Except TransportError (Option Bytes) :=
  match endpoint.lossyAuthorization? with
  | none => .ok none
  | some value => (headerValue? value).elim (.error .invalidHeader) (.ok ∘ some)

/-- The transport to an endpoint.  Credentials in the address are sent as a header field. -/
def ofConfig (endpoint : String) (config : Config) : Except TransportError Transport := do
  let url ← (Url.parse endpoint).mapError .invalidEndpoint
  let authorization? ← authorization url
  return {
    endpoint := if authorization?.isSome then url.clearUsername.clearPassword else url
    authorization?
    config
    hooks := .default
    client? := none
    tries := 0 }

def ofEndpoint (endpoint : String) : Except TransportError Transport :=
  ofConfig endpoint Config.default

/-! ### Clients -/

/-- Other hooks build another client. -/
def setHooks (t : Transport) (hooks : Hooks) : Transport :=
  { t with hooks, client? := none, tries := 0 }

/-- Asks the hooks for a client, unless there is one. -/
def connect (t : Transport) : Transport :=
  match t.client? with
  | some _ => t
  | none =>
    { t with
      client? := if t.hooks.builds t.tries then some { builder := t.hooks } else none
      tries := t.tries + 1 }

/-! ### Header fields -/

/-- The header fields of a request.  Where several sources set a name, the last of them counts.
What the body is depends on the payload alone. -/
def headers (t : Transport) (r : Request) : Headers :=
  let accept : Headers := [{ name := "accept", value := bytesOf "application/json" }]
  let configured := Headers.merge accept t.config.headers
  let authorized :=
    (t.authorization?.map (Headers.insert configured "authorization")).getD configured
  let hooked := Headers.merge authorized (t.hooks.headers r.context)
  Headers.remove (Headers.merge hooked r.headers) "content-type"

/-! ### Showing -/

/-- The transport in words.  Neither credentials nor hooks are shown. -/
def text (t : Transport) : String :=
  "Transport \x7b endpoint: " ++ Quoted.quote t.endpoint.text ++ ", config: " ++ t.config.text ++
    ", .. \x7d"

end Transport

end GraphqlClient
