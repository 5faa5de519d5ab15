import GraphqlClient.Json.Lexeme
import GraphqlClient.Proofs.Json.Grammar
import GraphqlClient.Proofs.Outcome
import GraphqlClient.Proofs.Text.Utf8
import Mathlib

/-!
# Bytes and characters of JSON texts

All that structures a text is ASCII.
-/

namespace GraphqlClient.Json

open Utf8 (encode octet_inj encode_cons_of_ascii exists_octet)

variable {rest : Bytes}

/-! ### Blanks -/

/-- A blank is an ASCII character. -/
lemma toNat_lt_of_blank {c : Char} (h : c = ' ' ∨ c = '\n' ∨ c = '\t' ∨ c = '\r') :
    c.toNat < 128 := by
  rcases h with rfl | rfl | rfl | rfl <;> decide

/-- The byte of an ASCII character is blank exactly if the character is. -/
lemma isBlank_octet_iff {c : Char} (h : c.toNat < 128) :
    isBlank (octet c) = true ↔ c = ' ' ∨ c = '\n' ∨ c = '\t' ∨ c = '\r' := by
  simp only [isBlank, Bool.or_eq_true, decide_eq_true_eq, or_assoc,
    octet_inj h (show ' '.toNat < 128 by decide), octet_inj h (show '\n'.toNat < 128 by decide),
    octet_inj h (show '\t'.toNat < 128 by decide),
    octet_inj h (show '\r'.toNat < 128 by decide)]

/-- Blanks are passed over. -/
lemma skipBlanks_encode_append {blanks : List Char} (h : IsBlanks blanks) (rest : Bytes) :
    skipBlanks (encode blanks ++ rest) = skipBlanks rest := by
  induction blanks with
  | nil => rfl
  | cons c blanks ih =>
    obtain ⟨hc, hblanks⟩ := List.forall_mem_cons.mp h
    have hascii := toNat_lt_of_blank hc
    rw [encode_cons_of_ascii hascii, List.cons_append, skipBlanks,
      List.dropWhile_cons_of_pos ((isBlank_octet_iff hascii).mpr hc)]
    exact ih hblanks

/-- Nothing but blanks is passed over. -/
lemma exists_skipBlanks (text : Bytes) :
    ∃ blanks, IsBlanks blanks ∧ text = encode blanks ++ skipBlanks text := by
  induction text with
  | nil => exact ⟨[], nofun, rfl⟩
  | cons b text ih =>
    cases hb : isBlank b with
    | false =>
      refine ⟨[], nofun, ?_⟩
      rw [skipBlanks, List.dropWhile_cons_of_neg (by rw [hb]; decide)]
      rfl
    | true =>
      have hlow : b.toNat < 128 := by
        simp only [isBlank, Bool.or_eq_true, decide_eq_true_eq] at hb
        rcases hb with ((rfl | rfl) | rfl) | rfl <;> decide
      obtain ⟨c, hpoint, rfl⟩ := exists_octet hlow
      have hascii : c.toNat < 128 := by rw [hpoint]; exact hlow
      obtain ⟨blanks, hblanks, htext⟩ := ih
      refine ⟨c :: blanks, List.forall_mem_cons.mpr ⟨(isBlank_octet_iff hascii).mp hb, hblanks⟩, ?_⟩
      rw [encode_cons_of_ascii hascii, List.cons_append, skipBlanks, List.dropWhile_cons_of_pos hb]
      exact congrArg _ htext

/-- A text that does not start with a blank. -/
lemma skipBlanks_cons {b : UInt8} (h : isBlank b = false) (rest : Bytes) :
    skipBlanks (b :: rest) = b :: rest :=
  List.dropWhile_cons_of_neg (by rw [h]; decide)

/-- After blanks are skipped, there are no more to skip. -/
lemma skipBlanks_skipBlanks (text : Bytes) : skipBlanks (skipBlanks text) = skipBlanks text :=
  List.dropWhile_idempotent isBlank text

end GraphqlClient.Json
