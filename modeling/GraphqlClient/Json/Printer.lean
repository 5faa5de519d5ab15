import GraphqlClient.Json.Basic
import GraphqlClient.Number.Decimal
import GraphqlClient.Text.CodePoint

/-!
# JSON as text

The compact form: no blanks, entries in order, and no character escaped that need not be.
-/

namespace GraphqlClient

/-! ### Numbers -/

/-- The exponents of the first digit for which a decimal number is written without exponent. -/
def Decimal.isPlain (exponent : Int) : Bool := -5 ≤ exponent && exponent < 16

/-- A decimal number with a point: at least one digit stands on each side of it.  Numbers that would
need many zeros are written with an exponent, and then a point stands only where a digit follows. -/
def Decimal.chars (d : Decimal) : List Char :=
  let digits := Nat.toDigits 10 d.digits
  let exponent := d.exponent + digits.length - 1
  if isPlain exponent then
    if 0 ≤ d.exponent then digits ++ List.replicate d.exponent.toNat '0' ++ ['.', '0']
    else if 0 ≤ exponent then
      digits.take (exponent.toNat + 1) ++ '.' :: digits.drop (exponent.toNat + 1)
    else '0' :: '.' :: List.replicate (-exponent - 1).toNat '0' ++ digits
  else
    let mantissa := match digits with
      | first :: second :: more => first :: '.' :: second :: more
      | _ => digits
    mantissa ++ 'e' :: (if exponent < 0 then '-' else '+') :: Nat.toDigits 10 exponent.natAbs

/-- The number with the fewest digits that read back as it. -/
def Binary64.chars (x : Binary64) : List Char :=
  (if x.negative then ['-'] else []) ++ (shortestDecimal x.rank).chars

namespace Json

def Number.chars : Number → List Char
  | .integer value _ =>
    (if value < 0 then ['-'] else []) ++ Nat.toDigits 10 value.natAbs
  | .real value => value.chars

/-! ### Strings -/

/-- How a character is written between quotes. -/
def escape (c : Char) : List Char :=
  match c with
  | '"' => ['\\', '"']
  | '\\' => ['\\', '\\']
  | '\x08' => ['\\', 'b']
  | '\x0c' => ['\\', 'f']
  | '\n' => ['\\', 'n']
  | '\r' => ['\\', 'r']
  | '\t' => ['\\', 't']
  | c =>
    if c < ' ' then
      ['\\', 'u', '0', '0', CodePoint.hexDigit 'a' (c.toNat / 16),
        CodePoint.hexDigit 'a' (c.toNat % 16)]
    else [c]

def stringChars (text : String) : List Char := '"' :: text.toList.flatMap escape ++ ['"']

/-! ### Values -/

mutual

/-- The text of a value. -/
def chars : Json → List Char
  | .null => "null".toList
  | .boolean true => "true".toList
  | .boolean false => "false".toList
  | .number value => value.chars
  | .string text => stringChars text
  | .array [] => ['[', ']']
  | .array (item :: items) => '[' :: (chars item ++ itemsChars items)
  | .object [] => ['{', '}']
  | .object ((key, value) :: entries) =>
    '{' :: (stringChars key ++ ':' :: (chars value ++ entriesChars entries))

/-- The further items of an array, and its end. -/
def itemsChars : List Json → List Char
  | [] => [']']
  | item :: items => ',' :: (chars item ++ itemsChars items)

/-- The further entries of an object, and its end. -/
def entriesChars : List (String × Json) → List Char
  | [] => ['}']
  | (key, value) :: entries =>
    ',' :: (stringChars key ++ ':' :: (chars value ++ entriesChars entries))

end

/-- The text of a value. -/
def text (value : Json) : String := String.ofList value.chars

end Json

end GraphqlClient
