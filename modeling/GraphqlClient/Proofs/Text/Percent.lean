import GraphqlClient.Proofs.Text.Utf8
import GraphqlClient.Text.Percent
import Mathlib

/-!
# Percent escapes read back

A text may spell the same bytes in several ways: a character stands for its own bytes, where it may
stand raw, and any byte can be written as an escape, with digits of either case (`Percent.Spells`).
However it does, the bytes are read back (`Percent.decode_of_spells`), and one of the ways is to
escape nothing but what cannot stand raw (`Percent.spells_encode`).
-/

namespace GraphqlClient.Percent

/-! ### Digits -/

section

variable {c : Char} {n : Nat}

/-- A hexadecimal digit has its number as its value. -/
lemma hexValue?_hexDigit (h : n < 16) :
    CodePoint.hexValue? (CodePoint.hexDigit 'A' n) = some n := by
  have hall : ∀ m : Fin 16, CodePoint.hexValue? (CodePoint.hexDigit 'A' m.val) = some m.val := by
    decide
  exact hall ⟨n, h⟩

/-- The digits of both cases. -/
def digits : List Char := "0123456789abcdefABCDEF".toList

/-- A character with a hexadecimal value is a digit. -/
lemma mem_digits (h : CodePoint.hexValue? c = some n) : c ∈ digits := by
  have hall : ∀ m : Fin 128, (CodePoint.hexValue? (Char.ofNat m.val)).isSome →
      Char.ofNat m.val ∈ digits := by
    decide +kernel
  have hdigit := hall ⟨c.toNat, (CodePoint.toNat_lt_of_hexValue? h).1⟩
  rw [Char.ofNat_toNat] at hdigit
  exact hdigit (by rw [h]; rfl)

/-- The byte of a hexadecimal digit has the value of the digit. -/
lemma digit?_octet (h : CodePoint.hexValue? c = some n) : digit? (octet c) = some n := by
  rw [digit?, Utf8.toNat_octet (CodePoint.toNat_lt_of_hexValue? h).1, Char.ofNat_toNat, h]

end

/-! ### Spellings -/

/-- A text spells bytes: each of its characters may stand raw and stands for its own bytes, or is a
percent sign before the two digits of a byte. -/
inductive Spells (raw : Char → Bool) : List Char → Bytes → Prop
  | nil : Spells raw [] []
  | raw {c text bytes} (stands : raw c = true) (rest : Spells raw text bytes) :
      Spells raw (c :: text) (String.utf8EncodeChar c ++ bytes)
  | escape {first second high low text bytes} (hhigh : CodePoint.hexValue? first = some high)
      (hlow : CodePoint.hexValue? second = some low) (rest : Spells raw text bytes) :
      Spells raw ('%' :: first :: second :: text) ((16 * high + low).toUInt8 :: bytes)

variable {raw escaped : Char → Bool} {c : Char} {text : List Char} {bytes rest : Bytes}

/-- A text that spells bytes is written with raw characters, percent signs and digits. -/
lemma Spells.mem (h : Spells raw text bytes) (hc : c ∈ text) :
    raw c = true ∨ c ∈ '%' :: digits := by
  induction h with
  | nil => cases hc
  | raw stands rest ih =>
    rcases List.mem_cons.mp hc with rfl | hmem
    · exact .inl stands
    · exact ih hmem
  | escape hhigh hlow rest ih =>
    simp only [List.mem_cons] at hc
    rcases hc with rfl | rfl | rfl | hmem
    · exact .inr List.mem_cons_self
    · exact .inr (List.mem_cons_of_mem _ (mem_digits hhigh))
    · exact .inr (List.mem_cons_of_mem _ (mem_digits hlow))
    · exact ih hmem

/-- Where there are bytes, they are spelled by some text. -/
lemma Spells.ne_nil (h : Spells raw text bytes) (hbytes : bytes ≠ []) : text ≠ [] := by
  cases h with
  | nil => exact absurd rfl hbytes
  | raw => exact List.cons_ne_nil _ _
  | escape => exact List.cons_ne_nil _ _

/-! ### Reading -/

/-- A byte that is no percent sign stands for itself. -/
lemma decode_cons {b : UInt8} (h : b ≠ octet '%') : decode (b :: rest) = b :: decode rest := by
  rcases rest with _ | ⟨first, _ | ⟨second, after⟩⟩ <;> simp [decode, h]

/-- Bytes without a percent sign stand for themselves. -/
lemma decode_append (h : octet '%' ∉ bytes) : decode (bytes ++ rest) = bytes ++ decode rest := by
  induction bytes with
  | nil => rfl
  | cons b bytes ih =>
    rw [List.mem_cons, not_or] at h
    rw [List.cons_append, decode_cons (Ne.symm h.1), ih h.2, List.cons_append]

/-- The percent sign is written for no other character. -/
lemma octet_not_mem (h : c ≠ '%') : octet '%' ∉ String.utf8EncodeChar c := by
  intro hmem
  by_cases hascii : c.toNat < 128
  · rw [Utf8.utf8EncodeChar_of_ascii hascii, List.mem_singleton] at hmem
    exact h ((Utf8.octet_inj (by decide) hascii).mp hmem).symm
  · have hle := Utf8.le_of_mem_utf8EncodeChar (Nat.le_of_not_lt hascii) _ hmem
    exact absurd hle (by decide)

/-- The bytes that a text spells are read back. -/
theorem decode_of_spells (hraw : ∀ c, raw c = true → c ≠ '%') (h : Spells raw text bytes) :
    decode (Utf8.encode text) = bytes := by
  induction h with
  | nil => rfl
  | raw stands rest ih => rw [Utf8.encode_cons, decode_append (octet_not_mem (hraw _ stands)), ih]
  -- The digits are ASCII, so that the three characters are three bytes.
  | @escape first second high low text bytes hhigh hlow rest ih =>
    have hbytes : Utf8.encode ('%' :: first :: second :: text) =
        octet '%' :: octet first :: octet second :: Utf8.encode text := by
      rw [Utf8.encode_cons, Utf8.encode_cons, Utf8.encode_cons,
        Utf8.utf8EncodeChar_of_ascii (by decide),
        Utf8.utf8EncodeChar_of_ascii (CodePoint.toNat_lt_of_hexValue? hhigh).1,
        Utf8.utf8EncodeChar_of_ascii (CodePoint.toNat_lt_of_hexValue? hlow).1]
      rfl
    rw [hbytes, decode.eq_2, if_pos rfl, digit?_octet hhigh, digit?_octet hlow]
    dsimp only
    rw [ih]

/-! ### Writing -/

/-- A byte may be spelled by its escape. -/
lemma spells_escape (b : UInt8) (h : Spells raw text bytes) :
    Spells raw (escape b ++ text) (b :: bytes) := by
  have hb := b.toNat_lt
  have hspells :
      Spells raw (escape b ++ text) ((16 * (b.toNat / 16) + b.toNat % 16).toUInt8 :: bytes) :=
    .escape (hexValue?_hexDigit (by omega)) (hexValue?_hexDigit (by omega)) h
  rw [Nat.div_add_mod, show b.toNat.toUInt8 = b from UInt8.ofNat_toNat] at hspells
  exact hspells

/-- Escaping what cannot stand raw spells a text. -/
theorem spells_encode (escaped : Char → Bool) (text : List Char) :
    Spells (!escaped ·) (encode escaped text) (Utf8.encode text) := by
  have hescapes : ∀ {rest bytes} (more : Bytes), Spells (!escaped ·) rest bytes →
      Spells (!escaped ·) (more.flatMap escape ++ rest) (more ++ bytes) := by
    intro rest bytes more hrest
    induction more with
    | nil => exact hrest
    | cons b more ih =>
      rw [List.flatMap_cons, List.append_assoc]
      exact spells_escape b ih
  induction text with
  | nil => exact .nil
  | cons c text ih =>
    rw [Utf8.encode_cons, encode, List.flatMap_cons, encodeChar]
    split
    · exact hescapes _ ih
    · next hc => exact .raw (by simpa using hc) ih

/-- What needs no escape is written as it is. -/
lemma encode_eq_self (h : ∀ c ∈ text, escaped c = false) : encode escaped text = text := by
  induction text with
  | nil => rfl
  | cons c text ih =>
    obtain ⟨hc, htext⟩ := List.forall_mem_cons.mp h
    have hrest : text.flatMap (encodeChar escaped) = text := ih htext
    rw [encode, List.flatMap_cons, hrest, encodeChar, if_neg (by simp [hc])]
    rfl

/-- Escaping leaves no text empty that was not. -/
lemma encode_ne_nil (h : text ≠ []) : encode escaped text ≠ [] := by
  obtain ⟨c, rest, rfl⟩ := List.exists_cons_of_ne_nil h
  obtain ⟨b, further, hc, -⟩ := Utf8.exists_utf8EncodeChar c
  rw [encode, List.flatMap_cons, encodeChar]
  split
  · rw [hc]
    exact List.cons_ne_nil _ _
  · exact List.cons_ne_nil _ _

end GraphqlClient.Percent
