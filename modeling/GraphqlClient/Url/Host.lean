import GraphqlClient.Url.Basic
import GraphqlClient.Url.Domain
import GraphqlClient.Url.Fault

/-!
# Reading hosts

A host in brackets is an address of eight pieces.  Any other host of a special scheme is a domain
name, or an address of four bytes if its last label is a number.
-/

namespace GraphqlClient.Host

/-! ### Four bytes -/

/-- The number that digits to a base write. -/
def naturalOf? (base : Nat) (digits : List Char) : Option Nat :=
  digits.foldlM (fun n c => do
    let d ← CodePoint.hexValue? c
    if d < base then some (base * n + d) else none) 0

/-- The number of a label: hexadecimal after `0x`, octal after another zero, else decimal. -/
def number? : List Char → Option Nat
  | [] => none
  | '0' :: 'x' :: digits => naturalOf? 16 digits
  | '0' :: 'X' :: digits => naturalOf? 16 digits
  | '0' :: digits => naturalOf? 8 digits
  | digits => naturalOf? 10 digits

/-- The labels of a domain, without an empty last one. -/
def labels (domain : List Char) : List (List Char) :=
  let labels := domain.splitOn '.'
  if labels.getLast? = some [] then labels.dropLast else labels

/-- Whether a domain has to be an address of four bytes. -/
def endsInNumber (domain : List Char) : Bool :=
  match (labels domain).getLast? with
  | none => false
  | some last => (!last.isEmpty && last.all Char.isDigit) || (number? last).isSome

/-- The address that numbers stand for.  Each is one byte, but for the last, which stands for all
the bytes that are left. -/
def ipv4OfNumbers? (numbers : List Nat) : Option UInt32 := do
  let last ← numbers.getLast?
  let bytes := numbers.dropLast
  if numbers.length ≤ 4 && bytes.all (· < 256) && last < Nat.pow 256 (4 - bytes.length) then
    some (bytes.foldr (fun b n => n / 256 + b <<< 24) 0 + last).toUInt32
  else none

def ipv4? (domain : List Char) : Option UInt32 := do
  ipv4OfNumbers? (← (labels domain).mapM number?)

/-! ### Eight pieces -/

/-- A piece: up to four hexadecimal digits. -/
def piece? (digits : List Char) : Option UInt16 :=
  if digits.isEmpty || 4 < digits.length then none
  else (naturalOf? 16 digits).map Nat.toUInt16

/-- A byte in decimal, without needless zeros. -/
def decimalByte? (digits : List Char) : Option Nat := do
  let n ← naturalOf? 10 digits
  if n < 256 && digits = Nat.toDigits 10 n then some n else none

/-- The pieces of a text between colons.  The last may be given as four bytes, if that is
allowed. -/
def pieces? (bytesAllowed : Bool) : List (List Char) → Option (List UInt16)
  | [] => some []
  | [last] =>
    if bytesAllowed && last.contains '.' then do
      match ← (last.splitOn '.').mapM decimalByte? with
      | [a, b, c, d] => some [(256 * a + b).toUInt16, (256 * c + d).toUInt16]
      | _ => none
    else (piece? last).map ([·])
  | first :: rest => do return (← piece? first) :: (← pieces? bytesAllowed rest)

/-- The pieces of a text, which may be empty. -/
def piecesOf? (bytesAllowed : Bool) (text : List Char) : Option (List UInt16) :=
  if text.isEmpty then some [] else pieces? bytesAllowed (text.splitOn ':')

/-- What stands before and after the first double colon. -/
def splitAtGap? : List Char → Option (List Char × List Char)
  | [] => none
  | ':' :: ':' :: rest => some ([], rest)
  | c :: rest => (splitAtGap? rest).map fun (before, after) => (c :: before, after)

def ofPieces? (pieces : List UInt16) : Option Host :=
  if h : pieces.length = 8 then some (.ipv6 ⟨pieces.toArray, by simpa using h⟩) else none

/-- The address that a text writes.  A double colon stands for one zero or more. -/
def ipv6? (text : List Char) : Option Host :=
  match splitAtGap? text with
  | none => piecesOf? true text >>= ofPieces?
  | some (before, after) => do
    let before ← piecesOf? false before
    let after ← piecesOf? true after
    let missing := 8 - before.length - after.length
    if missing = 0 then none else ofPieces? (before ++ List.replicate missing 0 ++ after)

/-! ### Hosts -/

/-- The characters that cannot stand in the name of a host of any scheme. -/
def isForbidden (c : Char) : Bool := "\x00\t\n\r #/:<>?@[\\]^|".toList.contains c

/-- The characters of such a name that are written as escapes. -/
def isControl (c : Char) : Bool := c < ' ' || '~' < c

/-- A host between brackets, if the text starts with one. -/
def bracketed? (text : List Char) : Option (Except UrlFault Host) :=
  match text with
  | '[' :: inner =>
    some (if inner.getLast? = some ']' then (ipv6? inner.dropLast).elim (.error .ipv6) .ok
      else .error .ipv6)
  | _ => none

/-- The host of a special scheme. -/
def parseDomain (text : List Char) : Except UrlFault Host :=
  match Domain.ofBytes? (Percent.decode (Utf8.encode text)) with
  | none => .error .hostName
  | some [] => .error .emptyHost
  | some domain =>
    if endsInNumber domain then (ipv4? domain).elim (.error .ipv4) (.ok ∘ .ipv4)
    else .ok (.name (String.ofList domain))

/-- The host of another scheme. -/
def parseName (text : List Char) : Except UrlFault Host :=
  if text.any isForbidden then .error .hostCharacter
  else .ok (.name (String.ofList (Percent.encode isControl text)))

/-- The host that a text writes after a scheme. -/
def parse (special : Bool) (text : List Char) : Except UrlFault Host :=
  match bracketed? text with
  | some host => host
  | none => if special then parseDomain text else parseName text

end GraphqlClient.Host
