import GraphqlClient.Text.CodePoint

/-!
# UTF-8

Texts as bytes, and bytes as texts.  Bytes that are no text can be refused, or shown with the
replacement character U+FFFD in place of each stretch that is the start of no character.
-/

namespace GraphqlClient

/-- The bytes of a text or of a body. -/
abbrev Bytes := List UInt8

/-- The byte that writes an ASCII character. -/
abbrev octet (c : Char) : UInt8 := c.toUInt8

namespace Utf8

/-! ### Writing -/

def encode (text : List Char) : Bytes := text.flatMap String.utf8EncodeChar

/-! ### Reading -/

/-- What the first byte of a character of several bytes says: how many bytes follow, between which
bounds the first of them lies, and the leading bits of the code point. -/
structure Lead where
  following : Nat
  lower : UInt8
  upper : UInt8
  bits : Nat
  deriving Repr, DecidableEq

/-- Reads the first byte of a character of several bytes.  The bounds leave out overlong forms,
surrogates and code points beyond U+10FFFF. -/
def lead? (b : UInt8) : Option Lead :=
  if b < 0xC2 then none
  else if b < 0xE0 then some ⟨1, 0x80, 0xBF, b.toNat - 0xC0⟩
  else if b < 0xF0 then
    some ⟨2, if b = 0xE0 then 0xA0 else 0x80, if b = 0xED then 0x9F else 0xBF, b.toNat - 0xE0⟩
  else if b < 0xF5 then
    some ⟨3, if b = 0xF0 then 0x90 else 0x80, if b = 0xF4 then 0x8F else 0xBF, b.toNat - 0xF0⟩
  else none

/-- Reads `n` more bytes of a character, of which the first has the given bounds.  The outcome is
the code point, or nothing if the bytes break off, and what follows the bytes that were read. -/
def continuation (lower upper : UInt8) (bits : Nat) : Nat → Bytes → Option Nat × Bytes
  | 0, rest => (some bits, rest)
  | _ + 1, [] => (none, [])
  | n + 1, b :: rest =>
    if lower ≤ b && b ≤ upper then continuation 0x80 0xBF (64 * bits + (b.toNat - 0x80)) n rest
    else (none, b :: rest)

/-- Reads one character from the front of bytes that start with `b`.  Nothing is read from a
stretch of bytes that is the start of no character; the stretch is passed over. -/
def character (b : UInt8) (rest : Bytes) : Option Char × Bytes :=
  if b < 0x80 then (CodePoint.scalar? b.toNat, rest)
  else
    match lead? b with
    | none => (none, rest)
    | some l =>
      let (point?, rest) := continuation l.lower l.upper l.bits l.following rest
      (point?.bind CodePoint.scalar?, rest)

/-- Reading on takes bytes from the front. -/
theorem length_continuation_le (lower upper : UInt8) (bits n : Nat) (rest : Bytes) :
    (continuation lower upper bits n rest).2.length ≤ rest.length := by
  fun_induction continuation lower upper bits n rest with
  | case1 => exact Nat.le_refl _
  | case2 => exact Nat.le_refl _
  | case3 _ _ _ _ b rest _ ih => exact Nat.le_trans ih (Nat.le_succ _)
  | case4 => exact Nat.le_refl _

/-- Reading a character takes bytes from the front. -/
theorem length_character_le (b : UInt8) (rest : Bytes) :
    (character b rest).2.length ≤ rest.length := by
  unfold character
  split
  · simp
  · split
    · simp
    · exact length_continuation_le ..

/-- The characters that bytes write, with nothing for each stretch that writes none. -/
def characters : Bytes → List (Option Char)
  | [] => []
  | b :: rest => (character b rest).1 :: characters (character b rest).2
termination_by bytes => bytes.length
decreasing_by
  have := length_character_le b rest
  simp only [List.length_cons]; omega

/-- The text that bytes write, if they write one. -/
def decode? (bytes : Bytes) : Option (List Char) := (characters bytes).mapM id

/-- The text that bytes write, with U+FFFD for each stretch that writes none. -/
def decodeLossy (bytes : Bytes) : List Char := (characters bytes).map (·.getD '\uFFFD')

end Utf8

/-- The bytes of a text. -/
def bytesOf (text : String) : Bytes := Utf8.encode text.toList

end GraphqlClient
