import GraphqlClient.Text.Percent

/-!
# Addresses

An address says how a resource is reached (the scheme), from which server (user, host and port) and
under which path there, possibly with a query; a fragment names a part of what is found.

The texts of the parts are kept as they are written, with their escapes.
-/

namespace GraphqlClient

/-- A server. -/
inductive Host where
  /-- A name, which may be empty if the scheme needs no server. -/
  | name (text : String)
  | ipv4 (address : UInt32)
  | ipv6 (pieces : Vector UInt16 8)
  deriving Repr, DecidableEq

instance : Inhabited Host := ⟨.name ""⟩

/-- The place at a server. -/
inductive UrlPath where
  /-- The segments after each slash. -/
  | rooted (segments : List String)
  /-- A text without structure. -/
  | rootless (text : String)
  deriving Repr, DecidableEq, Inhabited

structure Url where
  scheme : String
  username : String
  /-- The password.  An empty one counts as none. -/
  password : String
  host? : Option Host
  /-- The port, unless it is the one that the scheme stands for. -/
  port? : Option UInt16
  path : UrlPath
  query? : Option String
  fragment? : Option String
  deriving Repr, DecidableEq, Inhabited

/-! ### Showing hosts -/

namespace Host

/-- The four bytes of an address in decimal. -/
def ipv4Text (address : UInt32) : String :=
  let n := address.toNat
  ".".intercalate ([n >>> 24, n >>> 16, n >>> 8, n].map fun m => toString (m % 256))

/-- How many zeros a list starts with. -/
def leadingZeros (pieces : List UInt16) : Nat := (pieces.takeWhile (· = 0)).length

/-- Where the first of the longest runs of zeros starts, and its length. -/
def longestZeros (pieces : List UInt16) : Nat × Nat :=
  (List.range pieces.length).foldl (fun best i =>
    let n := leadingZeros (pieces.drop i)
    if best.2 < n then (i, n) else best) (0, 0)

def piecesText (pieces : List UInt16) : String :=
  ":".intercalate (pieces.map fun piece => String.ofList (Nat.toDigits 16 piece.toNat))

/-- The pieces in hexadecimal.  The first of the longest runs of two zeros or more is left out. -/
def ipv6Text (pieces : List UInt16) : String :=
  let (start, length) := longestZeros pieces
  if length < 2 then piecesText pieces
  else piecesText (pieces.take start) ++ "::" ++ piecesText (pieces.drop (start + length))

def text : Host → String
  | .name text => text
  | .ipv4 address => ipv4Text address
  | .ipv6 pieces => "[" ++ ipv6Text pieces.toList ++ "]"

end Host

namespace Url

/-! ### Schemes -/

/-- The port that a scheme stands for. -/
def defaultPort? : String → Option UInt16
  | "http" => some 80
  | "https" => some 443
  | "ws" => some 80
  | "wss" => some 443
  | "ftp" => some 21
  | _ => none

/-- Whether addresses with a scheme always have a host and a path of segments. -/
def isSpecial (scheme : String) : Bool := scheme = "file" || (defaultPort? scheme).isSome

/-! ### Showing -/

def userinfoText (url : Url) : String :=
  let password := if url.password.isEmpty then "" else ":" ++ url.password
  if url.username.isEmpty && url.password.isEmpty then "" else url.username ++ password ++ "@"

/-- The server.  Without one, a path that starts with two slashes is kept apart from it by a dot. -/
def authorityText (url : Url) : String :=
  match url.host?, url.path with
  | some host, _ =>
    "//" ++ url.userinfoText ++ host.text ++ (url.port?.map fun port => s!":{port}").getD ""
  | none, .rooted ("" :: _ :: _) => "/."
  | none, _ => ""

def pathText (url : Url) : String :=
  match url.path with
  | .rooted segments => String.join (segments.map ("/" ++ ·))
  | .rootless text => text

def text (url : Url) : String :=
  url.scheme ++ ":" ++ url.authorityText ++ url.pathText ++
    (url.query?.map ("?" ++ ·)).getD "" ++ (url.fragment?.map ("#" ++ ·)).getD ""

/-! ### Parts -/

def withoutCredentials (url : Url) : Url := { url with username := "", password := "" }

def withoutFragment (url : Url) : Url := { url with fragment? := none }

/-- The scheme, host and port that an address shares with others of the same server.  There is no
such server for schemes without a default port.  An address with the scheme `blob` has another
address inside it, whose server is its own; that is left out, since nothing is ever posted to such
an address. -/
def origin? (url : Url) : Option (String × Host × UInt16) := do
  let port ← defaultPort? url.scheme
  let host ← url.host?
  return (url.scheme, host, url.port?.getD port)

/-- Whether two addresses belong to the same server.  One without a server shares it with none. -/
def sameOrigin (a b : Url) : Bool := a.origin?.isSome && a.origin? = b.origin?

end Url

end GraphqlClient
