/-!
# Code points in escapes

Escapes write a character as a hexadecimal code point.  Characters beyond U+FFFF may also be
written as two code points, a high and a low surrogate, neither of which is a character by itself.
-/

namespace GraphqlClient.CodePoint

/-! ### Hexadecimal digits -/

/-- The number that a hexadecimal digit stands for. -/
def hexValue? (c : Char) : Option Nat :=
  if '0' ≤ c ∧ c ≤ '9' then some (c.toNat - '0'.toNat)
  else if 'a' ≤ c ∧ c ≤ 'f' then some (c.toNat - 'a'.toNat + 10)
  else if 'A' ≤ c ∧ c ≤ 'F' then some (c.toNat - 'A'.toNat + 10)
  else none

/-- The number that a run of hexadecimal digits stands for, most significant first. -/
def hexNumber? (digits : List Char) : Option Nat :=
  digits.foldlM (fun n c => (hexValue? c).map (16 * n + ·)) 0

/-- The digits that write a number below sixteen, with the letters of `letters` from ten on. -/
def hexDigit (letters : Char) (n : Nat) : Char :=
  if n < 10 then Char.ofNat ('0'.toNat + n) else Char.ofNat (letters.toNat + (n - 10))

/-! ### Characters and surrogates -/

/-- The character of a code point, unless that is a surrogate or too large. -/
def scalar? (n : Nat) : Option Char :=
  if h : n.isValidChar then some (Char.ofNatAux n h) else none

/-- The first of a pair of code points that together stand for one character. -/
def isHighSurrogate (n : Nat) : Bool := 0xD800 ≤ n && n < 0xDC00

/-- The second of such a pair. -/
def isLowSurrogate (n : Nat) : Bool := 0xDC00 ≤ n && n < 0xE000

/-- The code point that a pair of surrogates stands for. -/
def ofSurrogates (high low : Nat) : Nat := 0x10000 + (high - 0xD800) * 0x400 + (low - 0xDC00)

end GraphqlClient.CodePoint
