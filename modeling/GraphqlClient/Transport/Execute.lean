import GraphqlClient.Transport.Basic
import GraphqlClient.Transport.Network

/-!
# Calls

A call posts its request to the endpoint and follows redirects with the same body.  Credentials are
left behind where a redirect leads to another origin.
-/

namespace GraphqlClient

/-- How many redirects one call follows. -/
def maxRedirects : Nat := 10

/-! ### Answers -/

/-- The response that stands for an unexpected status. -/
def Response.ofStatus (status : Nat) : Response :=
  { data? := none, errors := [.ofMessage (Status.text status)], extensions := [] }

/-- The response of an answer that leads nowhere else. -/
def Answer.classify (answer : Answer) : Except TransportError Response :=
  if Status.isSuccess answer.status || answer.status = 400 then
    match answer.body? with
    | none => .error (.http .body)
    | some body => (Response.ofBytes body).mapError (.malformedResponse body)
  else .ok (.ofStatus answer.status)

/-! ### Redirects -/

/-- The address that a location names, seen from another address. -/
def redirectTarget (url : Url) (location : Bytes) : Except TransportError Url :=
  let invalid := TransportError.invalidRedirectLocation (String.ofList (Utf8.decodeLossy location))
  if location.all isPrintable then
    (url.join (String.ofList (location.map fun b => Char.ofNat b.toNat))).mapError fun _ => invalid
  else .error invalid

/-- The header fields that no other origin gets to see. -/
def sensitiveNames : List String := ["authorization", "cookie", "proxy-authorization"]

def Headers.withoutSensitive (headers : Headers) : Headers :=
  headers.filter fun field => !sensitiveNames.contains field.name

/-- The header fields that go along from one address to the next. -/
def Headers.carried (headers : Headers) (source target : Url) : Headers :=
  if target.sameOrigin source then headers else headers.withoutSensitive

/-! ### Calls -/

/-- What a call has done. -/
structure Call where
  /-- Whether the hooks were asked for a client. -/
  asked : Bool
  exchanges : List Exchange
  result : Except TransportError Response

/-- The posts that a server got. -/
def Call.received (call : Call) : List Post :=
  (call.exchanges.filter Exchange.isReceived).map (·.post)

/-- What becomes of a post.  One to an address that no client can turn to does not get anywhere. -/
def Environment.deliver (env : Environment) (hop : Nat) (post : Post) : Delivery :=
  if post.url.isReachable then env.network hop post else .lost

/-- Why no answer came from an address. -/
def Url.fault (url : Url) : ExchangeFault :=
  if url.isReachable then .noAnswer url else .address url

/-- Posts a payload to an address and follows up to `redirects` redirects from there.  `hop` counts
the posts before.  The outcome is what was exchanged and how it ended. -/
def Payload.post (payload : Payload) (env : Environment) (redirects hop : Nat) (url : Url)
    (headers : Headers) : List Exchange × Except TransportError Response :=
  match Body.ofPayload (env.disk hop) payload with
  | .error e => ([], .error e)
  | .ok body =>
    let post : Post := { url, headers, body }
    let exchange : Exchange := { post, delivery := env.deliver hop post }
    match exchange.delivery with
    | .answered answer =>
      match answer.location?, redirects with
      | none, _ => ([exchange], answer.classify)
      | some _, 0 => ([exchange], .error (.tooManyRedirects maxRedirects))
      | some location, redirects + 1 =>
        match redirectTarget url location with
        | .error e => ([exchange], .error e)
        | .ok target =>
          let (exchanges, result) :=
            payload.post env redirects (hop + 1) target (headers.carried url target)
          (exchange :: exchanges, result)
    | .dropped | .lost => ([exchange], .error (.http url.fault))

/-- Sends a request.  The outcome is the transport afterwards, which may have a client now, and what
was done. -/
def Transport.execute (t : Transport) (env : Environment) (r : Request) : Transport × Call :=
  let (payload, rest) := r.takePayload
  let headers := t.headers rest
  let connected := t.connect
  let (exchanges, result) :=
    match connected.client? with
    | none => ([], .error (.http .client))
    | some _ => payload.post env maxRedirects 0 t.endpoint headers
  (connected, { asked := t.client?.isNone, exchanges, result })

end GraphqlClient
