import GraphqlClient.Text.Utf8
import Mathlib

/-!
# UTF-8 read back

Bytes are read as a text exactly if they are the bytes of that text (`Utf8.decode?_eq_some_iff`).
Everything rests on what one character at the front of bytes is: the four lengths of characters are
told apart there and nowhere else.
-/

namespace GraphqlClient

/-- A number is the code point of a character exactly if it is that character's number. -/
lemma CodePoint.scalar?_eq_some_iff {n : Nat} {c : Char} : scalar? n = some c ↔ c.toNat = n := by
  unfold scalar?
  split
  · next h =>
    rw [Option.some.injEq]
    constructor
    · rintro rfl
      exact Char.toNat_ofNatAux h
    · intro hc
      exact Char.toNat_inj.mp ((Char.toNat_ofNatAux h).trans hc.symm)
  · next h =>
    refine ⟨nofun, ?_⟩
    rintro rfl
    exact absurd c.valid h

/-- Hexadecimal digits are ASCII characters that stand for numbers below sixteen. -/
lemma CodePoint.toNat_lt_of_hexValue? {c : Char} {n : Nat} (h : hexValue? c = some n) :
    c.toNat < 128 ∧ n < 16 := by
  simp only [hexValue?, Char.le_def, UInt32.le_iff_toNat_le] at h
  have hpoint : c.val.toNat = c.toNat := rfl
  simp only [hpoint] at h
  split at h
  · next hc =>
    cases h
    have hlow : '0'.val.toNat = 48 := rfl
    have hhigh : '9'.val.toNat = 57 := rfl
    have hzero : '0'.toNat = 48 := rfl
    omega
  · split at h
    · next hc =>
      cases h
      have hlow : 'a'.val.toNat = 97 := rfl
      have hhigh : 'f'.val.toNat = 102 := rfl
      have hzero : 'a'.toNat = 97 := rfl
      omega
    · split at h
      · next hc =>
        cases h
        have hlow : 'A'.val.toNat = 65 := rfl
        have hhigh : 'F'.val.toNat = 70 := rfl
        have hzero : 'A'.toNat = 65 := rfl
        omega
      · cases h

namespace Utf8

variable {b lower upper : UInt8} {bits n point : Nat} {rest rest' : Bytes} {c : Char}

/-! ### First bytes and further bytes -/

/-- Whether a byte can only stand after the first byte of a character. -/
abbrev IsFurther (b : UInt8) : Prop := 0x80 ≤ b ∧ b ≤ 0xBF

/-- The first byte of a character of two bytes says so. -/
lemma lead?_of_two (hlow : 0xC2 ≤ b.toNat) (hhigh : b.toNat < 0xE0) :
    lead? b = some ⟨1, 0x80, 0xBF, b.toNat - 0xC0⟩ := by
  have hge : ¬b < 0xC2 := by simpa [UInt8.lt_iff_toNat_lt] using hlow
  have hlt : b < 0xE0 := by simpa [UInt8.lt_iff_toNat_lt] using hhigh
  rw [lead?, if_neg hge, if_pos hlt]

/-- The first byte of a character of three bytes says so. -/
lemma lead?_of_three (hlow : 0xE0 ≤ b.toNat) (hhigh : b.toNat < 0xF0) :
    lead? b = some ⟨2, if b = 0xE0 then 0xA0 else 0x80, if b = 0xED then 0x9F else 0xBF,
      b.toNat - 0xE0⟩ := by
  have hge : ¬b < 0xC2 := by simp [UInt8.le_iff_toNat_le]; omega
  have hge' : ¬b < 0xE0 := by simp [UInt8.le_iff_toNat_le]; omega
  have hlt : b < 0xF0 := by simpa [UInt8.lt_iff_toNat_lt] using hhigh
  rw [lead?, if_neg hge, if_neg hge', if_pos hlt]

/-- The first byte of a character of four bytes says so. -/
lemma lead?_of_four (hlow : 0xF0 ≤ b.toNat) (hhigh : b.toNat < 0xF5) :
    lead? b = some ⟨3, if b = 0xF0 then 0x90 else 0x80, if b = 0xF4 then 0x8F else 0xBF,
      b.toNat - 0xF0⟩ := by
  have hge : ¬b < 0xC2 := by simp [UInt8.le_iff_toNat_le]; omega
  have hge' : ¬b < 0xE0 := by simp [UInt8.le_iff_toNat_le]; omega
  have hge'' : ¬b < 0xF0 := by simp [UInt8.le_iff_toNat_le]; omega
  have hlt : b < 0xF5 := by simpa [UInt8.lt_iff_toNat_lt] using hhigh
  rw [lead?, if_neg hge, if_neg hge', if_neg hge'', if_pos hlt]

/-- The three kinds of first bytes of characters of several bytes. -/
lemma lead?_cases {l : Lead} (h : lead? b = some l) :
    (0xC2 ≤ b.toNat ∧ b.toNat < 0xE0) ∨ (0xE0 ≤ b.toNat ∧ b.toNat < 0xF0) ∨
      (0xF0 ≤ b.toNat ∧ b.toNat < 0xF5) := by
  simp only [lead?, UInt8.lt_iff_toNat_lt, UInt8.reduceToNat] at h
  split at h
  · cases h
  · split at h
    · omega
    · split at h
      · omega
      · split at h
        · omega
        · cases h

/-- Where no more bytes follow, the code point is complete. -/
lemma continuation_zero_eq_iff :
    continuation lower upper bits 0 rest = (some point, rest') ↔ bits = point ∧ rest = rest' := by
  rw [continuation, Prod.mk.injEq, Option.some.injEq]

/-- Each further byte lies between its bounds and adds six bits. -/
lemma continuation_succ_eq_iff :
    continuation lower upper bits (n + 1) rest = (some point, rest') ↔
      ∃ b tail, rest = b :: tail ∧ (lower ≤ b ∧ b ≤ upper) ∧
        continuation 0x80 0xBF (64 * bits + (b.toNat - 0x80)) n tail = (some point, rest') := by
  cases rest with
  | nil => simp [continuation]
  | cons b tail =>
    simp only [continuation, List.cons.injEq]
    split
    · next h =>
      simp only [Bool.and_eq_true, decide_eq_true_eq] at h
      constructor
      · exact fun hmore => ⟨b, tail, ⟨rfl, rfl⟩, h, hmore⟩
      · rintro ⟨_, _, ⟨rfl, rfl⟩, -, hmore⟩
        exact hmore
    · next h =>
      simp only [Bool.and_eq_true, decide_eq_true_eq] at h
      refine ⟨nofun, ?_⟩
      rintro ⟨_, _, ⟨rfl, rfl⟩, hbounds, -⟩
      exact absurd hbounds h

/-! ### One character -/

/-- A number below 256 is that of its byte. -/
lemma toNat_ofNat {n : Nat} (h : n < 256) : (UInt8.ofNat n).toNat = n := by
  rw [UInt8.toNat_ofNat']
  exact Nat.mod_eq_of_lt h

/-- An ASCII byte is a character by itself. -/
lemma character_of_ascii (hb : b < 0x80) :
    character b rest = (CodePoint.scalar? b.toNat, rest) := by
  rw [character, if_pos hb]

/-- After a first byte, the character is what the following bytes make of it. -/
lemma character_of_lead {l : Lead} (hlead : lead? b = some l) :
    character b rest =
      ((continuation l.lower l.upper l.bits l.following rest).1.bind CodePoint.scalar?,
        (continuation l.lower l.upper l.bits l.following rest).2) := by
  have hb : ¬b < 0x80 := by
    have hcases := lead?_cases hlead
    simp only [UInt8.lt_iff_toNat_lt, UInt8.reduceToNat]
    omega
  rw [character, if_neg hb, hlead]

/-- After a first byte, a character is read exactly if the following bytes complete its code
point. -/
lemma character_of_lead_eq_iff {l : Lead} (hlead : lead? b = some l) :
    character b rest = (some c, rest') ↔
      continuation l.lower l.upper l.bits l.following rest = (some c.toNat, rest') := by
  rw [character_of_lead hlead, Prod.mk.injEq, Option.bind_eq_some_iff]
  generalize continuation l.lower l.upper l.bits l.following rest = outcome
  obtain ⟨point?, after⟩ := outcome
  simp only [CodePoint.scalar?_eq_some_iff, Prod.mk.injEq]
  constructor
  · rintro ⟨⟨point, rfl, rfl⟩, rfl⟩
    exact ⟨rfl, rfl⟩
  · rintro ⟨rfl, rfl⟩
    exact ⟨⟨_, rfl, rfl⟩, rfl⟩

/-- The bytes of a character are read as it. -/
lemma character_utf8EncodeChar (h : String.utf8EncodeChar c ++ rest' = b :: rest) :
    character b rest = (some c, rest') := by
  have hpoint : c.val.toNat = c.toNat := rfl
  have hvalid : c.toNat.isValidChar := c.valid
  unfold String.utf8EncodeChar at h
  simp only [hpoint] at h
  -- One case for each of the four lengths of a character.
  split at h
  · next hone =>
    obtain ⟨rfl, rfl⟩ : UInt8.ofNat c.toNat = b ∧ rest' = rest := by simpa using h
    have hb : (UInt8.ofNat c.toNat).toNat = c.toNat := toNat_ofNat (by omega)
    rw [character_of_ascii (by rw [UInt8.lt_iff_toNat_lt, hb]; exact Nat.lt_succ_of_le hone), hb]
    rw [CodePoint.scalar?_eq_some_iff.mpr rfl]
  · split at h
    · next hone htwo =>
      obtain ⟨rfl, rfl⟩ : UInt8.ofNat (c.toNat / 64 % 32 + 192) = b ∧
          UInt8.ofNat (c.toNat % 64 + 128) :: rest' = rest := by simpa using h
      have hb₀ := toNat_ofNat (show c.toNat / 64 % 32 + 192 < 256 by omega)
      have hb₁ := toNat_ofNat (show c.toNat % 64 + 128 < 256 by omega)
      rw [character_of_lead_eq_iff (lead?_of_two (by omega) (by omega))]
      simp only [continuation_succ_eq_iff, continuation_zero_eq_iff]
      refine ⟨_, _, rfl, ?_, ?_, rfl⟩
      · simp only [UInt8.le_iff_toNat_le, UInt8.reduceToNat]
        omega
      · omega
    · split at h
      · next hone htwo hthree =>
        obtain ⟨rfl, rfl⟩ : UInt8.ofNat (c.toNat / 4096 % 16 + 224) = b ∧
            UInt8.ofNat (c.toNat / 64 % 64 + 128) :: UInt8.ofNat (c.toNat % 64 + 128) :: rest' =
              rest := by
          simpa using h
        -- The second byte is bounded by the first one, which excludes surrogates and longer forms
        -- than needed.
        have hb₀ := toNat_ofNat (show c.toNat / 4096 % 16 + 224 < 256 by omega)
        have hb₁ := toNat_ofNat (show c.toNat / 64 % 64 + 128 < 256 by omega)
        have hb₂ := toNat_ofNat (show c.toNat % 64 + 128 < 256 by omega)
        rw [character_of_lead_eq_iff (lead?_of_three (by omega) (by omega))]
        simp only [continuation_succ_eq_iff, continuation_zero_eq_iff]
        refine ⟨_, _, rfl, ?_, _, _, rfl, ?_, ?_, rfl⟩
        · simp only [UInt8.le_iff_toNat_le, ← UInt8.toNat_inj, apply_ite UInt8.toNat,
            UInt8.reduceToNat, hb₀, hb₁]
          constructor
          · split <;> omega
          · split <;> omega
        · simp only [UInt8.le_iff_toNat_le, UInt8.reduceToNat]
          omega
        · omega
      · next hone htwo hthree =>
        obtain ⟨rfl, rfl⟩ : UInt8.ofNat (c.toNat / 262144 % 8 + 240) = b ∧
            UInt8.ofNat (c.toNat / 4096 % 64 + 128) :: UInt8.ofNat (c.toNat / 64 % 64 + 128) ::
              UInt8.ofNat (c.toNat % 64 + 128) :: rest' = rest := by
          simpa using h
        have hb₀ := toNat_ofNat (show c.toNat / 262144 % 8 + 240 < 256 by omega)
        have hb₁ := toNat_ofNat (show c.toNat / 4096 % 64 + 128 < 256 by omega)
        have hb₂ := toNat_ofNat (show c.toNat / 64 % 64 + 128 < 256 by omega)
        have hb₃ := toNat_ofNat (show c.toNat % 64 + 128 < 256 by omega)
        rw [character_of_lead_eq_iff (lead?_of_four (by omega) (by omega))]
        simp only [continuation_succ_eq_iff, continuation_zero_eq_iff]
        refine ⟨_, _, rfl, ?_, _, _, rfl, ?_, _, _, rfl, ?_, ?_, rfl⟩
        · simp only [UInt8.le_iff_toNat_le, ← UInt8.toNat_inj, apply_ite UInt8.toNat,
            UInt8.reduceToNat, hb₀, hb₁]
          constructor
          · split <;> omega
          · split <;> omega
        · simp only [UInt8.le_iff_toNat_le, UInt8.reduceToNat]
          omega
        · simp only [UInt8.le_iff_toNat_le, UInt8.reduceToNat]
          omega
        · omega

/-- Only the bytes of a character are read as it. -/
lemma eq_of_character (h : character b rest = (some c, rest')) :
    String.utf8EncodeChar c ++ rest' = b :: rest := by
  have hpoint : c.val.toNat = c.toNat := rfl
  unfold String.utf8EncodeChar
  simp only [hpoint]
  by_cases hb : b < 0x80
  · rw [character_of_ascii hb, Prod.mk.injEq, CodePoint.scalar?_eq_some_iff] at h
    obtain ⟨hc, rfl⟩ := h
    have hlow : b.toNat < 0x80 := by simpa [UInt8.lt_iff_toNat_lt] using hb
    rw [if_pos (by omega), hc, UInt8.ofNat_toNat]
    rfl
  · obtain ⟨l, hlead⟩ : ∃ l, lead? b = some l := by
      rw [← Option.ne_none_iff_exists']
      intro hnone
      rw [character, if_neg hb, hnone] at h
      cases h
    rw [character_of_lead_eq_iff hlead] at h
    -- How many bytes follow is up to the first one; its bounds give back the code point.
    rcases lead?_cases hlead with ⟨hlow, hhigh⟩ | ⟨hlow, hhigh⟩ | ⟨hlow, hhigh⟩
    · rw [lead?_of_two hlow hhigh, Option.some.injEq] at hlead
      subst hlead
      simp only [continuation_succ_eq_iff, continuation_zero_eq_iff, UInt8.le_iff_toNat_le,
        UInt8.reduceToNat] at h
      obtain ⟨b₁, _, rfl, hb₁, hc, rfl⟩ := h
      rw [if_neg (by omega), if_pos (by omega)]
      have h₀ : c.toNat / 64 % 32 + 192 = b.toNat := by omega
      have h₁ : c.toNat % 64 + 128 = b₁.toNat := by omega
      rw [h₀, h₁, UInt8.ofNat_toNat, UInt8.ofNat_toNat]
      rfl
    · rw [lead?_of_three hlow hhigh, Option.some.injEq] at hlead
      subst hlead
      simp only [continuation_succ_eq_iff, continuation_zero_eq_iff, UInt8.le_iff_toNat_le,
        UInt8.reduceToNat, ← UInt8.toNat_inj, apply_ite UInt8.toNat] at h
      obtain ⟨b₁, _, rfl, hb₁, b₂, _, rfl, hb₂, hc, rfl⟩ := h
      -- Below this bound the character would have been written with fewer bytes.
      have hlower : 0x80 ≤ b₁.toNat ∧ (b.toNat = 0xE0 → 0xA0 ≤ b₁.toNat) := by
        split at hb₁ <;> omega
      have hupper : b₁.toNat ≤ 0xBF := by
        split at hb₁ <;> split at hb₁ <;> omega
      rw [if_neg (by omega), if_neg (by omega), if_pos (by omega)]
      have h₀ : c.toNat / 4096 % 16 + 224 = b.toNat := by omega
      have h₁ : c.toNat / 64 % 64 + 128 = b₁.toNat := by omega
      have h₂ : c.toNat % 64 + 128 = b₂.toNat := by omega
      rw [h₀, h₁, h₂, UInt8.ofNat_toNat, UInt8.ofNat_toNat, UInt8.ofNat_toNat]
      rfl
    · rw [lead?_of_four hlow hhigh, Option.some.injEq] at hlead
      subst hlead
      simp only [continuation_succ_eq_iff, continuation_zero_eq_iff, UInt8.le_iff_toNat_le,
        UInt8.reduceToNat, ← UInt8.toNat_inj, apply_ite UInt8.toNat] at h
      obtain ⟨b₁, _, rfl, hb₁, b₂, _, rfl, hb₂, b₃, _, rfl, hb₃, hc, rfl⟩ := h
      have hlower : 0x80 ≤ b₁.toNat ∧ (b.toNat = 0xF0 → 0x90 ≤ b₁.toNat) := by
        split at hb₁ <;> omega
      have hupper : b₁.toNat ≤ 0xBF := by
        split at hb₁ <;> split at hb₁ <;> omega
      rw [if_neg (by omega), if_neg (by omega), if_neg (by omega)]
      have h₀ : c.toNat / 262144 % 8 + 240 = b.toNat := by omega
      have h₁ : c.toNat / 4096 % 64 + 128 = b₁.toNat := by omega
      have h₂ : c.toNat / 64 % 64 + 128 = b₂.toNat := by omega
      have h₃ : c.toNat % 64 + 128 = b₃.toNat := by omega
      rw [h₀, h₁, h₂, h₃, UInt8.ofNat_toNat, UInt8.ofNat_toNat, UInt8.ofNat_toNat,
        UInt8.ofNat_toNat]
      rfl

/-- The first byte of a character is none that can only follow, and all others are. -/
lemma exists_utf8EncodeChar (c : Char) :
    ∃ b further, String.utf8EncodeChar c = b :: further ∧ ¬IsFurther b ∧
      ∀ x ∈ further, IsFurther x := by
  have hpoint : c.val.toNat = c.toNat := rfl
  have hvalid : c.toNat.isValidChar := c.valid
  have hfirst : ∀ n, n < 128 ∨ (192 ≤ n ∧ n < 256) → ¬IsFurther (UInt8.ofNat n) := by
    intro n hn
    have hself : (UInt8.ofNat n).toNat = n := toNat_ofNat (by omega)
    simp only [IsFurther, UInt8.le_iff_toNat_le, UInt8.reduceToNat, hself]
    omega
  have hother : ∀ n, n < 64 → IsFurther (UInt8.ofNat (n + 128)) := by
    intro n hn
    have hself : (UInt8.ofNat (n + 128)).toNat = n + 128 := toNat_ofNat (by omega)
    simp only [IsFurther, UInt8.le_iff_toNat_le, UInt8.reduceToNat, hself]
    omega
  unfold String.utf8EncodeChar
  simp only [hpoint]
  split
  · exact ⟨_, _, rfl, hfirst _ (by omega), nofun⟩
  · split
    · refine ⟨_, _, rfl, hfirst _ (by omega), ?_⟩
      simp only [List.forall_mem_cons]
      exact ⟨hother _ (by omega), nofun⟩
    · split
      · refine ⟨_, _, rfl, hfirst _ (by omega), ?_⟩
        simp only [List.forall_mem_cons]
        exact ⟨hother _ (by omega), hother _ (by omega), nofun⟩
      · refine ⟨_, _, rfl, hfirst _ (by omega), ?_⟩
        simp only [List.forall_mem_cons]
        exact ⟨hother _ (by omega), hother _ (by omega), hother _ (by omega), nofun⟩

/-- No byte of another character is ASCII. -/
lemma le_of_mem_utf8EncodeChar (h : 128 ≤ c.toNat) : ∀ b ∈ String.utf8EncodeChar c, 0x80 ≤ b := by
  have hpoint : c.val.toNat = c.toNat := rfl
  have hbyte : ∀ n, n < 128 → (0x80 : UInt8) ≤ UInt8.ofNat (n + 128) := by
    intro n hn
    rw [UInt8.le_iff_toNat_le, toNat_ofNat (show n + 128 < 256 by omega)]
    exact Nat.le_add_left 128 n
  unfold String.utf8EncodeChar
  simp only [hpoint]
  rw [if_neg (by omega)]
  split
  · simp only [List.forall_mem_cons]
    exact ⟨hbyte (_ + 64) (by omega), hbyte _ (by omega), nofun⟩
  · split
    · simp only [List.forall_mem_cons]
      exact ⟨hbyte (_ + 96) (by omega), hbyte _ (by omega), hbyte _ (by omega), nofun⟩
    · simp only [List.forall_mem_cons]
      exact ⟨hbyte (_ + 112) (by omega), hbyte _ (by omega), hbyte _ (by omega),
        hbyte _ (by omega), nofun⟩

/-- An ASCII character is one byte. -/
lemma utf8EncodeChar_of_ascii (h : c.toNat < 128) : String.utf8EncodeChar c = [octet c] := by
  have hle : c.val.toNat ≤ 0x7F := Nat.le_of_lt_succ h
  unfold String.utf8EncodeChar
  dsimp only
  rw [if_pos hle]
  rfl

/-- It has the number of its byte. -/
lemma toNat_octet (h : c.toNat < 128) : (octet c).toNat = c.toNat :=
  Nat.mod_eq_of_lt (lt_trans h (by decide))

/-- ASCII characters differ if their bytes do, and only then. -/
lemma octet_inj {d : Char} (hc : c.toNat < 128) (hd : d.toNat < 128) :
    octet c = octet d ↔ c = d := by
  rw [← UInt8.toNat_inj, toNat_octet hc, toNat_octet hd, Char.toNat_inj]

/-- Every byte below 128 is one character. -/
lemma exists_octet {b : UInt8} (h : b.toNat < 128) :
    ∃ c : Char, c.toNat = b.toNat ∧ b = octet c := by
  have hvalid : b.toNat.isValidChar := .inl (by omega)
  refine ⟨Char.ofNatAux b.toNat hvalid, Char.toNat_ofNatAux hvalid, ?_⟩
  rw [← UInt8.toNat_inj, toNat_octet (by rw [Char.toNat_ofNatAux]; exact h), Char.toNat_ofNatAux]

/-! ### Texts -/

/-- Nothing is written for no text. -/
@[simp] lemma encode_nil : encode [] = [] := rfl

/-- The bytes of the first character come first. -/
lemma encode_cons (c : Char) (text : List Char) :
    encode (c :: text) = String.utf8EncodeChar c ++ encode text :=
  List.flatMap_cons

/-- Two texts in turn are written in turn. -/
@[simp] lemma encode_append (text text' : List Char) :
    encode (text ++ text') = encode text ++ encode text' :=
  List.flatMap_append

/-- An ASCII character at the front is written as one byte. -/
lemma encode_cons_of_ascii (h : c.toNat < 128) (text : List Char) :
    encode (c :: text) = octet c :: encode text := by
  rw [encode_cons, utf8EncodeChar_of_ascii h]
  rfl

/-- ASCII characters are written as one byte each. -/
lemma encode_of_ascii {text : List Char} (h : ∀ c ∈ text, c.toNat < 128) :
    encode text = text.map octet := by
  induction text with
  | nil => rfl
  | cons c text ih =>
    obtain ⟨hc, htext⟩ := List.forall_mem_cons.mp h
    rw [encode_cons_of_ascii hc, ih htext, List.map_cons]

/-- Nothing is written exactly if there is no text. -/
lemma encode_eq_nil_iff {text : List Char} : encode text = [] ↔ text = [] := by
  cases text with
  | nil => exact ⟨fun _ => rfl, fun _ => rfl⟩
  | cons c text =>
    obtain ⟨b, further, hc, -, -⟩ := exists_utf8EncodeChar c
    rw [encode_cons, hc]
    exact ⟨nofun, nofun⟩

/-- Bytes start with the bytes of one character at most. -/
lemma utf8EncodeChar_append_inj {d : Char} {bytes bytes' : Bytes}
    (h : String.utf8EncodeChar c ++ bytes = String.utf8EncodeChar d ++ bytes') :
    c = d ∧ bytes = bytes' := by
  obtain ⟨b, further, hd, -, -⟩ := exists_utf8EncodeChar d
  have hread : character b (further ++ bytes') = (some c, bytes) :=
    character_utf8EncodeChar (h.trans (by rw [hd]; rfl))
  have hread' : character b (further ++ bytes') = (some d, bytes') :=
    character_utf8EncodeChar (by rw [hd]; rfl)
  rw [hread, Prod.mk.injEq, Option.some.injEq] at hread'
  exact hread'

/-- What is written is read again, character by character. -/
lemma characters_encode (text : List Char) : characters (encode text) = text.map some := by
  induction text with
  | nil => rw [encode_nil, characters, List.map_nil]
  | cons c text ih =>
    obtain ⟨b, further, hc, -, -⟩ := exists_utf8EncodeChar c
    have hread : character b (further ++ encode text) = (some c, encode text) :=
      character_utf8EncodeChar (by rw [hc]; rfl)
    rw [encode_cons, hc, List.cons_append, characters, hread, ih, List.map_cons]

/-- A list has values throughout exactly if each of its items has one. -/
lemma mapM_id_eq_some_iff {α : Type} {xs : List (Option α)} {ys : List α} :
    xs.mapM id = some ys ↔ xs = ys.map some := by
  induction xs generalizing ys with
  | nil =>
    rw [List.mapM_nil]
    cases ys <;> simp
  | cons x xs ih =>
    rw [List.mapM_cons]
    cases ys with
    | nil => simp [Option.bind_eq_some_iff]
    | cons y ys => simp [Option.bind_eq_some_iff, ih]

/-- Bytes are read as a text exactly if they are the bytes of the text. -/
theorem decode?_eq_some_iff {bytes : Bytes} {text : List Char} :
    decode? bytes = some text ↔ bytes = encode text := by
  rw [decode?, mapM_id_eq_some_iff]
  constructor
  · intro h
    induction text generalizing bytes with
    | nil =>
      cases bytes with
      | nil => rfl
      | cons b rest =>
        rw [characters] at h
        cases h
    | cons c text ih =>
      cases bytes with
      | nil =>
        rw [characters] at h
        cases h
      | cons b rest =>
        rw [characters, List.map_cons, List.cons.injEq] at h
        obtain ⟨hfirst, hmore⟩ := h
        rw [encode_cons, ← ih hmore]
        exact (eq_of_character (Prod.ext hfirst rfl)).symm
  · rintro rfl
    exact characters_encode text

end Utf8

end GraphqlClient
