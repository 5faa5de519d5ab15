import GraphqlClient.Text.Base64
import Mathlib

/-!
# Base64 read back

The characters that write bytes are read as the bytes, in all three cases of how many are left at
the end (`Base64.decode?_encode`).
-/

namespace GraphqlClient.Base64

variable {n : Nat} {c : Char}

/-! ### Letters -/

/-- A letter of the alphabet has its place as its value. -/
lemma value?_letter (h : n < 64) : value? (letter n) = some n := by
  have hall : ∀ m : Fin 64, value? (letter m.val) = some m.val := by decide +kernel
  exact hall ⟨n, h⟩

/-- Every number has a letter of the alphabet. -/
lemma letter_mem (n : Nat) : letter n ∈ alphabet := by
  have hlength : n % 64 < alphabet.length := Nat.mod_lt _ (by decide)
  rw [letter, List.getD_eq_getElem _ _ hlength]
  exact List.getElem_mem hlength

/-- No letter of the alphabet is the filler. -/
lemma letter_ne_filler (n : Nat) : letter n ≠ '=' := by
  intro h
  have hmem := letter_mem n
  rw [h] at hmem
  exact absurd hmem (by decide)

/-- The characters are letters and fillers. -/
lemma mem_of_mem_encode {bytes : Bytes} (h : c ∈ encode bytes) : c ∈ '=' :: alphabet := by
  have hletter : ∀ n, letter n ∈ '=' :: alphabet := fun n => List.mem_cons_of_mem _ (letter_mem n)
  induction bytes using encode.induct with
  | case1 => cases h
  | case2 a =>
    simp only [encode, List.mem_cons, List.not_mem_nil, or_false] at h
    rcases h with rfl | rfl | rfl | rfl
    · exact hletter _
    · exact hletter _
    · exact List.mem_cons_self
    · exact List.mem_cons_self
  | case3 a b =>
    simp only [encode, List.mem_cons, List.not_mem_nil, or_false] at h
    rcases h with rfl | rfl | rfl | rfl
    · exact hletter _
    · exact hletter _
    · exact hletter _
    · exact List.mem_cons_self
  | case4 a b c rest ih =>
    simp only [encode, List.mem_cons] at h
    rcases h with rfl | rfl | rfl | rfl | hrest
    · exact hletter _
    · exact hletter _
    · exact hletter _
    · exact hletter _
    · exact ih hrest

/-! ### Reading back -/

/-- A byte is that of the number that it is. -/
lemma toUInt8_eq {b : UInt8} (h : n = b.toNat) : n.toUInt8 = b := by
  subst h
  exact UInt8.ofNat_toNat

/-- What is encoded is decoded again. -/
theorem decode?_encode (bytes : Bytes) : decode? (encode bytes) = some bytes := by
  -- The cases are those of the encoder: three bytes at a time, and one or two that are left.
  induction bytes using encode.induct with
  | case1 => rfl
  | case2 a =>
    have ha := a.toNat_lt
    rw [encode, decode?, value?_letter (by omega), value?_letter (by omega)]
    simp only [Option.bind_eq_bind, Option.bind_some]
    rw [if_pos (by omega), toUInt8_eq (b := a) (by omega)]
  | case3 a b =>
    have ha := a.toNat_lt
    have hb := b.toNat_lt
    rw [encode, decode?.eq_3 _ _ _ (letter_ne_filler _), value?_letter (by omega),
      value?_letter (by omega), value?_letter (by omega)]
    simp only [Option.bind_eq_bind, Option.bind_some]
    rw [if_pos (by omega), toUInt8_eq (b := a) (by omega), toUInt8_eq (b := b) (by omega)]
  | case4 a b c rest ih =>
    have ha := a.toNat_lt
    have hb := b.toNat_lt
    have hc := c.toNat_lt
    rw [encode,
      decode?.eq_4 _ _ _ _ _ (fun h => absurd h (letter_ne_filler _))
        (fun h => absurd h (letter_ne_filler _)),
      value?_letter (by omega), value?_letter (by omega), value?_letter (by omega),
      value?_letter (by omega), ih]
    simp only [Option.bind_eq_bind, Option.bind_some]
    rw [toUInt8_eq (b := a) (by omega), toUInt8_eq (b := b) (by omega), toUInt8_eq (b := c)
      (by omega)]
    rfl

end GraphqlClient.Base64
