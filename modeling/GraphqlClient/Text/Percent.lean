import GraphqlClient.Text.Utf8

/-!
# Percent escapes

Inside an address, a byte can be written as a percent sign and two hexadecimal digits.  Which
characters have to be written so depends on the part of the address that they stand in.
-/

namespace GraphqlClient.Percent

/-! ### Writing -/

/-- A byte as an escape. -/
def escape (b : UInt8) : List Char :=
  ['%', CodePoint.hexDigit 'A' (b.toNat / 16), CodePoint.hexDigit 'A' (b.toNat % 16)]

/-- A character as it is, or the escapes of its bytes. -/
def encodeChar (escaped : Char → Bool) (c : Char) : List Char :=
  if escaped c then (String.utf8EncodeChar c).flatMap escape else [c]

/-- A text with some characters as escapes. -/
def encode (escaped : Char → Bool) (text : List Char) : List Char :=
  text.flatMap (encodeChar escaped)

/-! ### Reading -/

/-- The number of a hexadecimal digit that a byte writes. -/
def digit? (b : UInt8) : Option Nat := CodePoint.hexValue? (Char.ofNat b.toNat)

/-- The bytes that a text with escapes stands for.  A percent sign without two digits stands for
itself. -/
def decode : Bytes → Bytes
  | [] => []
  | b :: rest =>
    if b = octet '%' then
      match rest with
      | first :: second :: after =>
        match digit? first, digit? second with
        | some high, some low => (16 * high + low).toUInt8 :: decode after
        | _, _ => b :: decode (first :: second :: after)
      | rest => b :: decode rest
    else b :: decode rest

end GraphqlClient.Percent
