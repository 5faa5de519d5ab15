import GraphqlClient.Http.Header

/-!
# Media types

What a content is: a type and a subtype with a slash between, and any number of named parameters.
Each parameter follows a semicolon; its value is a word, or is given between quotes.  Case counts
only in values, and not in that of `charset`.
-/

namespace GraphqlClient.MediaType

/-- How far a media type has been read. -/
inductive Place where
  /-- At the start. -/
  | start
  | mainType
  /-- After the slash. -/
  | slash
  | subtype
  /-- After a semicolon and any number of spaces. -/
  | semicolon
  | name
  /-- After the equals sign. -/
  | equals
  | value
  /-- After the quote that opens a value. -/
  | opened
  | quoted
  /-- After the quote that closes a value. -/
  | closed
  deriving Repr, DecidableEq

/-- Whether a media type can end at a place. -/
def Place.isEnd : Place → Bool
  | .slash | .subtype | .semicolon | .equals | .value | .closed => true
  | .start | .mainType | .name | .opened | .quoted => false

/-- The characters between quotes.  The quote itself can only come first. -/
def isQuotable (c : Char) : Bool := ' ' ≤ c && c ≠ '\x7F'

/-- Reads one character. -/
def Place.next? (place : Place) (c : Char) : Option Place :=
  let word (next : Place) : Option Place := if isNameCharacter c then some next else none
  match place with
  | .start => word .mainType
  | .mainType => if c = '/' then some .slash else word .mainType
  | .slash => word .subtype
  | .subtype => if c = ';' then some .semicolon else word .subtype
  | .semicolon => if c = ' ' then some .semicolon else word .name
  | .name => if c = '=' then some .equals else word .name
  | .equals => if c = '"' then some .opened else word .value
  | .value => if c = ';' then some .semicolon else word .value
  | .opened => if isQuotable c then some .quoted else none
  | .quoted => if c = '"' then some .closed else if isQuotable c then some .quoted else none
  | .closed =>
    if c = ';' then some .semicolon else if c = ' ' then some .closed else none

/-- Whether a character that leads to a place belongs to the value of a parameter. -/
def Place.isValue : Place → Bool
  | .value | .quoted => true
  | _ => false

/-- What has been read of a media type. -/
structure Reading where
  place : Place
  /-- The name of the parameter that was read last. -/
  name : List Char
  text : List Char
  deriving Repr, DecidableEq

/-- Reads one character, in lower case unless its case counts. -/
def Reading.next? (r : Reading) (c : Char) : Option Reading := do
  let place ← r.place.next? c
  let lower := c.toLower
  let name := match place with
    | .semicolon => []
    | .name => r.name ++ [lower]
    | _ => r.name
  let kept := place.isValue && name ≠ "charset".toList
  return { place, name, text := r.text ++ [if kept then c else lower] }

/-- The media type that a text writes, in lower case where case does not count, and without an empty
list of parameters. -/
def read? (text : String) : Option String := do
  let r ← text.toList.foldlM Reading.next? { place := .start, name := [], text := [] }
  if r.place.isEnd then
    some (String.ofList (if r.text.contains '=' then r.text else r.text.takeWhile (· ≠ ';')))
  else none

end GraphqlClient.MediaType
