import GraphqlClient.Http.Status
import GraphqlClient.Transport.Post

/-!
# Networks

What becomes of the posts of a call.  A network is any function that says so for each of them in
turn.
-/

namespace GraphqlClient

/-- What a server answers to a post. -/
structure Answer where
  status : Nat
  headers : Headers
  /-- The body, unless it breaks off. -/
  body? : Option Bytes
  deriving Repr, DecidableEq, Inhabited

/-- Where an answer sends the client. -/
def Answer.location? (answer : Answer) : Option Bytes :=
  if Status.isRedirection answer.status then answer.headers.first? "location" else none

/-- What becomes of a post. -/
inductive Delivery where
  | answered (answer : Answer)
  /-- The server got the post, and no answer came back. -/
  | dropped
  /-- The post did not get to a server. -/
  | lost
  deriving Repr, DecidableEq, Inhabited

/-- What becomes of each post of a call, by its number. -/
abbrev Network := Nat → Post → Delivery

namespace Network

/-- The network in which no post gets anywhere. -/
def unreachable : Network := fun _ _ => .lost

/-- The network that answers with the replies in turn, and then with the last one again.  Nothing in
the place of a reply drops the post. -/
def scripted (replies : List (Option Answer)) : Network := fun n _ =>
  match replies[n]?.getD (replies.getLast?.getD none) with
  | some answer => .answered answer
  | none => .dropped

end Network

/-- What a call meets: a network, and a disk at the time of each post. -/
structure Environment where
  network : Network
  disk : Nat → Disk

/-- A post and what became of it. -/
structure Exchange where
  post : Post
  delivery : Delivery
  deriving Repr, DecidableEq, Inhabited

/-- Whether the server got the post. -/
def Exchange.isReceived (exchange : Exchange) : Bool := exchange.delivery ≠ .lost

end GraphqlClient
