import GraphqlClient.Text.Utf8

/-!
# Base64

Bytes as letters: three bytes are written as four characters of six bits each.  A last group of
fewer bytes is filled up with equals signs.
-/

namespace GraphqlClient.Base64

def alphabet : List Char :=
  "ABCDEFGHIJKLMNOPQRSTUVWXYZabcdefghijklmnopqrstuvwxyz0123456789+/".toList

/-- The character of six bits. -/
def letter (n : Nat) : Char := alphabet.getD (n % 64) 'A'

/-- The six bits of a character. -/
def value? (c : Char) : Option Nat := alphabet.idxOf? c

def encode : Bytes → List Char
  | [] => []
  | [a] => [letter (a.toNat / 4), letter (a.toNat % 4 * 16), '=', '=']
  | [a, b] =>
    [letter (a.toNat / 4), letter (a.toNat % 4 * 16 + b.toNat / 16), letter (b.toNat % 16 * 4), '=']
  | a :: b :: c :: rest =>
    letter (a.toNat / 4) :: letter (a.toNat % 4 * 16 + b.toNat / 16) ::
      letter (b.toNat % 16 * 4 + c.toNat / 64) :: letter (c.toNat % 64) :: encode rest

/-- The bytes that a text writes.  Bits beyond the last byte have to be zero. -/
def decode? : List Char → Option Bytes
  | [] => some []
  | [p, q, '=', '='] => do
    let p ← value? p
    let q ← value? q
    if q % 16 = 0 then some [(p * 4 + q / 16).toUInt8] else none
  | [p, q, r, '='] => do
    let p ← value? p
    let q ← value? q
    let r ← value? r
    if r % 4 = 0 then some [(p * 4 + q / 16).toUInt8, (q % 16 * 16 + r / 4).toUInt8] else none
  | p :: q :: r :: s :: rest => do
    let p ← value? p
    let q ← value? q
    let r ← value? r
    let s ← value? s
    let bytes ← decode? rest
    return (p * 4 + q / 16).toUInt8 :: (q % 16 * 16 + r / 4).toUInt8 ::
      (r % 4 * 64 + s).toUInt8 :: bytes
  | _ => none

end GraphqlClient.Base64
