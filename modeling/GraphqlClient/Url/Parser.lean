import GraphqlClient.Url.Host

/-!
# Reading addresses

A text is cut at its delimiters first: the fragment at the first number sign, the query at the first
question mark before it, the server at the next slash.  What is left is a path of segments, or a
text without structure.  A text without a scheme is read relative to another address.
-/

namespace GraphqlClient.Url

/-! ### Cutting -/

/-- What stands before the first character of a kind, and what stands after it, if there is one. -/
def cut (delimiter : Char → Bool) (text : List Char) : List Char × Option (List Char) :=
  match text.dropWhile (!delimiter ·) with
  | [] => (text, none)
  | _ :: rest => (text.takeWhile (!delimiter ·), some rest)

/-- What stands before the last character of a kind, if there is one, and what stands after it. -/
def cutLast (delimiter : Char → Bool) (text : List Char) : Option (List Char) × List Char :=
  let (after, before?) := cut delimiter text.reverse
  (before?.map List.reverse, after.reverse)

/-- The text without control characters and spaces at its ends, and without tabs and line ends. -/
def clean (text : List Char) : List Char :=
  let outer (c : Char) : Bool := c ≤ ' '
  let trimmed := ((text.dropWhile outer).reverse.dropWhile outer).reverse
  trimmed.filter fun c => c ≠ '\t' && c ≠ '\n' && c ≠ '\r'

/-- The scheme in lower case, and what follows its colon. -/
def scheme? (text : List Char) : Option (String × List Char) :=
  match cut (· = ':') text with
  | (c :: name, some rest) =>
    if c.isAlpha && name.all (fun c => c.isAlphanum || c = '+' || c = '-' || c = '.') then
      some (String.ofList ((c :: name).map Char.toLower), rest)
    else none
  | _ => none

/-- A text with its query and fragment cut off. -/
structure Cut where
  hierarchy : List Char
  query? : Option (List Char)
  fragment? : Option (List Char)
  deriving Repr, DecidableEq, Inhabited

def Cut.ofText (text : List Char) : Cut :=
  let (rest, fragment?) := cut (· = '#') text
  let (hierarchy, query?) := cut (· = '?') rest
  { hierarchy, query?, fragment? }

/-! ### What is escaped -/

def isFragmentEscaped (c : Char) : Bool := Host.isControl c || " \"<>\x60".toList.contains c

def isQueryEscaped (special : Bool) (c : Char) : Bool :=
  Host.isControl c || " \"#<>".toList.contains c || (special && c = '\'')

def isPathEscaped (c : Char) : Bool := isFragmentEscaped c || "#?^\x7b\x7d".toList.contains c

def isUserEscaped (c : Char) : Bool := isPathEscaped c || "/:;=@[\\]|".toList.contains c

def escaped (kind : Char → Bool) (text : List Char) : String :=
  String.ofList (Percent.encode kind text)

def queryText (scheme : String) (text : List Char) : String :=
  escaped (isQueryEscaped (isSpecial scheme)) text

def fragmentText (text : List Char) : String := escaped isFragmentEscaped text

/-! ### Servers -/

/-- Whether a character starts the path.  Backslashes count as slashes in special schemes. -/
def isSlash (special : Bool) (c : Char) : Bool := c = '/' || (special && c = '\\')

/-- The host at the start of a text, and what follows the colon after it.  Colons in brackets belong
to the host. -/
def cutHost (bracketed : Bool) : List Char → List Char × Option (List Char)
  | [] => ([], none)
  | c :: rest =>
    if c = ':' && !bracketed then ([], some rest)
    else
      let (host, port?) := cutHost (c = '[' || (bracketed && c ≠ ']')) rest
      (c :: host, port?)

/-- The port that digits write, unless it is the default one. -/
def parsePort (scheme : String) (digits : List Char) : Except UrlFault (Option UInt16) :=
  match Host.naturalOf? 10 digits with
  | some n =>
    if UInt16.size ≤ n then .error .port
    else .ok (if digits.isEmpty || defaultPort? scheme = some n.toUInt16 then none
      else some n.toUInt16)
  | none => .error .port

/-- Reads user, host and port into an address. -/
def parseAuthority (url : Url) (text : List Char) : Except UrlFault Url := do
  let (userinfo?, server) := cutLast (· = '@') text
  let (username, password?) := cut (· = ':') (userinfo?.getD [])
  let (host, port?) := cutHost false server
  let special := isSpecial url.scheme
  if host.isEmpty && (special || userinfo?.isSome || port?.isSome) then throw .emptyHost
  return { url with
    username := escaped isUserEscaped username
    password := escaped isUserEscaped (password?.getD [])
    host? := some (← Host.parse special host)
    port? := ← parsePort url.scheme (port?.getD []) }

/-! ### Paths -/

def isDot (segment : List Char) : Bool :=
  [".", "%2e"].contains (String.ofList (segment.map Char.toLower))

def isDoubleDot (segment : List Char) : Bool :=
  ["..", ".%2e", "%2e.", "%2e%2e"].contains (String.ofList (segment.map Char.toLower))

/-- Whether a segment names a drive: a letter and a colon or bar. -/
def isDrive : List Char → Bool
  | [letter, mark] => letter.isAlpha && (mark = ':' || mark = '|')
  | _ => false

/-- The path of the folder above.  A drive stays. -/
def parent (scheme : String) (path : List String) : List String :=
  match path with
  | [drive] => if scheme = "file" && isDrive drive.toList then path else []
  | path => path.dropLast

/-- A segment as it is kept in a path.  A drive at the start of the path of a file is written with a
colon. -/
def keptSegment (scheme : String) (path : List String) (segment : List Char) : String :=
  if scheme = "file" && path.isEmpty && isDrive segment then
    String.ofList (segment.take 1 ++ [':'])
  else escaped isPathEscaped segment

/-- Follows segments from a path.  One dot stays where it is and two go up; as the last segment,
they leave an empty one. -/
def walk (scheme : String) (path : List String) : List (List Char) → List String
  | [] => path
  | segment :: rest =>
    let here :=
      if isDoubleDot segment then parent scheme path
      else if isDot segment then path
      else path ++ [keptSegment scheme path segment]
    match rest with
    | [] => if isDoubleDot segment || isDot segment then here ++ [""] else here
    | next => walk scheme here next

/-- The path that a text after a slash leads to. -/
def follow (scheme : String) (path : List String) (text : List Char) : UrlPath :=
  let segments := walk scheme path (text.splitOnP (isSlash (isSpecial scheme)))
  -- The path of a file does not start with an empty segment.
  .rooted (if scheme = "file" then (segments.take (segments.length - 1)).dropWhile (·.isEmpty) ++
    segments.drop (segments.length - 1) else segments)

/-- The path that starts at a text, which may be empty. -/
def rootedPath (scheme : String) (text : List Char) : UrlPath :=
  match text with
  | [] => if isSpecial scheme then .rooted [""] else .rooted []
  | c :: rest => follow scheme [] (if isSlash (isSpecial scheme) c then rest else c :: rest)

/-- A path without structure.  A space at its end is escaped if something follows. -/
def rootlessPath (text : List Char) (followed : Bool) : UrlPath :=
  let (last, tail) := if followed && text.getLast? = some ' ' then (text.dropLast, "%20")
    else (text, "")
  .rootless (escaped Host.isControl last ++ tail)

/-! ### Whole addresses -/

/-- An address with nothing but a scheme. -/
def ofScheme (scheme : String) : Url :=
  { scheme, username := "", password := "", host? := none, port? := none, path := .rooted [],
    query? := none, fragment? := none }

def withCut (url : Url) (query? fragment? : Option (List Char)) : Url :=
  { url with
    query? := query?.map (queryText url.scheme)
    fragment? := fragment?.map fragmentText }

/-- How many slashes a text starts with. -/
def leadingSlashes (special : Bool) (text : List Char) : Nat :=
  (text.takeWhile (isSlash special)).length

/-- Reads what follows the slashes before a server. -/
def parseServer (scheme : String) (text : List Char) : Except UrlFault Url := do
  let special := isSpecial scheme
  let authority := text.takeWhile (!isSlash special ·)
  let url ← parseAuthority (ofScheme scheme) authority
  return { url with path := rootedPath scheme (text.drop authority.length) }

/-- Reads a text with the scheme, and if need be the server, of another address. -/
def parseRelative (base : Url) (text : Cut) : Except UrlFault Url := do
  let scheme := base.scheme
  let special := isSpecial scheme
  let segments := match base.path with
    | .rooted segments => segments
    | .rootless _ => []
  let slashes := leadingSlashes special text.hierarchy
  let url ←
    if text.hierarchy.isEmpty then pure { base with fragment? := none }
    else if 2 ≤ slashes then
      parseServer scheme (text.hierarchy.drop (if special then slashes else 2))
    else if slashes = 1 then
      pure { base with path := follow scheme [] (text.hierarchy.drop 1) }
    else pure { base with path := follow scheme (parent scheme segments) text.hierarchy }
  let url := url.withCut text.query? text.fragment?
  return if text.hierarchy.isEmpty && text.query?.isNone then { url with query? := base.query? }
    else url

/-- Reads the host of a file and what follows it.  A drive is no host. -/
def parseFileServer (text : List Char) : Except UrlFault Url := do
  let url := ofScheme "file"
  let server := text.takeWhile (!isSlash true ·)
  if isDrive server then
    return { url with host? := some (.name ""), path := follow "file" [] text }
  let host ← if server.isEmpty then pure (Host.name "") else Host.parse true server
  return { url with
    host? := some (if host = .name "localhost" then .name "" else host)
    path := rootedPath "file" (text.drop server.length) }

/-- Whether a text starts with a drive. -/
def startsWithDrive (text : List Char) : Bool := isDrive (text.takeWhile (!isSlash true ·))

/-- Reads the address of a file, relative to that of another if one is given. -/
def parseFile (base? : Option Url) (text : Cut) : Except UrlFault Url := do
  let base := base?.getD { ofScheme "file" with host? := some (.name "") }
  let segments := match base.path with
    | .rooted segments => segments
    | .rootless _ => []
  let drive := segments.take 1 |>.filter fun segment => isDrive segment.toList
  let slashes := leadingSlashes true text.hierarchy
  let url ←
    if 2 ≤ slashes then parseFileServer (text.hierarchy.drop 2)
    else if slashes = 1 then
      let rest := text.hierarchy.drop 1
      pure { base with path := follow "file" (if startsWithDrive rest then [] else drive) rest }
    else if text.hierarchy.isEmpty && base?.isSome then pure base
    else
      let folder := if startsWithDrive text.hierarchy then [] else parent "file" segments
      pure { base with path := follow "file" folder text.hierarchy }
  let url := url.withCut text.query? text.fragment?
  return if text.hierarchy.isEmpty && text.query?.isNone then { url with query? := base.query? }
    else url

/-- Reads a text after its scheme. -/
def parseScheme (base? : Option Url) (scheme : String) (text : Cut) : Except UrlFault Url := do
  if scheme = "file" then
    return ← parseFile (base?.filter (·.scheme = "file")) text
  if isSpecial scheme then
    let slashes := leadingSlashes true text.hierarchy
    match base? with
    | some base =>
      if slashes < 2 && base.scheme = scheme then return ← parseRelative base text
    | none => pure ()
    let url ← parseServer scheme (text.hierarchy.drop slashes)
    return url.withCut text.query? text.fragment?
  let url ← match text.hierarchy with
    | '/' :: '/' :: rest => parseServer scheme rest
    | '/' :: rest => pure { ofScheme scheme with path := follow scheme [] rest }
    | path =>
      pure { ofScheme scheme with
        path := rootlessPath path (text.query?.isSome || text.fragment?.isSome) }
  return url.withCut text.query? text.fragment?

/-- Reads a text, relative to an address if one is given. -/
def resolve (base? : Option Url) (text : String) : Except UrlFault Url :=
  let text := clean text.toList
  match scheme? text, base? with
  | some (scheme, rest), _ => parseScheme base? scheme (.ofText rest)
  | none, none => .error .noBase
  | none, some base =>
    let cut := Cut.ofText text
    match base.path with
    | .rootless _ =>
      if text.head? = some '#' then .ok { base with fragment? := cut.fragment?.map fragmentText }
      else .error .rootlessBase
    | .rooted _ => if base.scheme = "file" then parseFile base cut else parseRelative base cut

/-- The address that a text writes. -/
def parse (text : String) : Except UrlFault Url := resolve none text

/-- The address that a text writes where another address is known. -/
def join (base : Url) (text : String) : Except UrlFault Url := resolve base text

end GraphqlClient.Url
