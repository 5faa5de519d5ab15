import GraphqlClient.Text.Composed
import GraphqlClient.Text.Punycode
import GraphqlClient.Text.Utf8
import GraphqlClient.Url.Domain.Mapping

/-!
# Domain names

A domain name consists of labels with dots between.  It is written in lower case and in its composed
form; a label with characters beyond ASCII is written with ASCII characters after `xn--`.

Of the rules for single labels, those on the direction of writing are left out, and a joiner is
allowed after a virama alone.
-/

namespace GraphqlClient.Domain

/-! ### Labels -/

/-- Whether each joiner follows a mark that joins consonants. -/
def joinersFollow (before? : Option Char) : List Char → Bool
  | [] => true
  | c :: rest =>
    (!(c = '\u200c' || c = '\u200d') || before?.any (Composed.markClass · = 9)) &&
      joinersFollow (some c) rest

/-- Whether a text can be a label: its characters are kept as they are, and the first is no mark. -/
def isLabel (label : List Char) : Bool :=
  label.all (treatment · = .kept) && !label.head?.any Composed.isMark && joinersFollow none label

def isAscii (text : List Char) : Bool := text.all (· < '\x80')

/-- What starts a label with characters beyond ASCII. -/
def marker : List Char := "xn--".toList

/-- A label as it is written.  What is written with ASCII characters already has to be just as it
would be written here. -/
def label? (label : List Char) : Option (List Char) :=
  if marker.isPrefixOf label then do
    let code := label.drop marker.length
    let text ← Punycode.decode? code
    if isLabel text && !isAscii text && Composed.compose text = text &&
      Punycode.encode text = code then some label else none
  else if isAscii label then some label
  else if isLabel label then some (marker ++ Punycode.encode label)
  else none

/-! ### Domains -/

/-- The ASCII characters that no domain name has. -/
def isForbidden (c : Char) : Bool := c ≤ ' ' || c = '\x7F' || "%#/:<>?@[\\]^|".toList.contains c

/-- What a character is written as. -/
def written? (c : Char) : Option (List Char) :=
  match treatment c with
  | .kept => some [c]
  | .ignored => some []
  | .refused => none
  | .folded points => points.mapM CodePoint.scalar?

/-- The domain name that a text writes. -/
def ofText? (text : List Char) : Option (List Char) := do
  let composed := Composed.compose (← text.mapM written?).flatten
  let domain := ['.'].intercalate (← (composed.splitOn '.').mapM label?)
  if domain.any isForbidden then none else some domain

def ofBytes? (bytes : Bytes) : Option (List Char) := Utf8.decode? bytes >>= ofText?

end GraphqlClient.Domain
