import GraphqlClient.Proofs.Json.Lexeme
import GraphqlClient.Proofs.Number.Decimal

/-!
# Numbers read as they are spelled

A number is read from the front of a text exactly if the text starts with a numeral that spells it
(`Json.readNumber_eq_ok`, `Json.readNumber_encode_append`).  All numerals of less than 2^1024 -
2^970 spell one (`Json.exists_spellsNumber_iff`).
-/

namespace GraphqlClient.Json

open Utf8 (encode toNat_octet octet_inj encode_cons_of_ascii encode_of_ascii encode_eq_nil_iff
    exists_octet)

variable {rest : Bytes}

/-! ### Digits -/

/-- A digit is an ASCII character. -/
lemma toNat_lt_of_isDigit {c : Char} (h : c.isDigit = true) : c.toNat < 128 := by
  have hle := (Char.isDigit_iff_toNat.mp h).2
  exact lt_of_le_of_lt hle (by decide)

/-- The byte of an ASCII character is a digit exactly if the character is. -/
lemma isDigit_octet {c : Char} (h : c.toNat < 128) : isDigit (octet c) = c.isDigit := by
  rw [Bool.eq_iff_iff, Char.isDigit_iff_toNat]
  simp only [isDigit, Bool.and_eq_true, decide_eq_true_eq, UInt8.le_iff_toNat_le, toNat_octet h]
  exact Iff.rfl

/-- The byte of a digit is that of an ASCII character. -/
lemma toNat_lt_of_isDigit_byte {b : UInt8} (h : isDigit b = true) : b.toNat < 128 := by
  simp only [isDigit, Bool.and_eq_true, decide_eq_true_eq, UInt8.le_iff_toNat_le] at h
  exact lt_of_le_of_lt h.2 (by decide)

/-- Whether no digit stands at the front of a text. -/
def NoDigit (text : Bytes) : Prop := ∀ b ∈ text.head?, isDigit b = false

/-- No digit comes after the leading ones. -/
lemma noDigit_dropWhile (text : Bytes) : NoDigit (text.dropWhile isDigit) := by
  intro b hb
  have hhead := List.head?_dropWhile_not isDigit text
  rw [hb] at hhead
  simpa using hhead

/-- Digits are written with bytes that are digits. -/
lemma isDigit_of_mem_encode {digits : List Char} (h : ∀ c ∈ digits, c.isDigit = true) :
    ∀ b ∈ encode digits, isDigit b = true := by
  induction digits with
  | nil => exact nofun
  | cons c digits ih =>
    obtain ⟨hc, hdigits⟩ := List.forall_mem_cons.mp h
    have hascii := toNat_lt_of_isDigit hc
    rw [encode_cons_of_ascii hascii]
    exact List.forall_mem_cons.mpr ⟨by rw [isDigit_octet hascii]; exact hc, ih hdigits⟩

/-- Bytes that are digits write digits. -/
lemma exists_digits {bytes : Bytes} (h : ∀ b ∈ bytes, isDigit b = true) :
    ∃ digits : List Char, (∀ c ∈ digits, c.isDigit = true) ∧ bytes = encode digits := by
  induction bytes with
  | nil => exact ⟨[], nofun, rfl⟩
  | cons b bytes ih =>
    obtain ⟨hb, hbytes⟩ := List.forall_mem_cons.mp h
    obtain ⟨digits, hdigits, rfl⟩ := ih hbytes
    have hlow := toNat_lt_of_isDigit_byte hb
    obtain ⟨c, hpoint, rfl⟩ := exists_octet hlow
    have hascii : c.toNat < 128 := by rw [hpoint]; exact hlow
    refine ⟨c :: digits, List.forall_mem_cons.mpr ⟨by rw [← isDigit_octet hascii]; exact hb,
      hdigits⟩, ?_⟩
    rw [encode_cons_of_ascii hascii]

/-- The digits at the front of a text. -/
lemma takeWhile_isDigit_eq_iff {text bytes : Bytes} :
    (text.takeWhile isDigit = bytes ∧ text.dropWhile isDigit = rest) ↔
      ∃ digits : List Char, (∀ c ∈ digits, c.isDigit = true) ∧ bytes = encode digits ∧
        text = encode digits ++ rest ∧ NoDigit rest := by
  constructor
  · rintro ⟨rfl, rfl⟩
    have hall : ∀ b ∈ text.takeWhile isDigit, isDigit b = true := fun b => List.mem_takeWhile_imp
    obtain ⟨digits, hdigits, heq⟩ := exists_digits hall
    refine ⟨digits, hdigits, heq, ?_, noDigit_dropWhile text⟩
    rw [← heq, List.takeWhile_append_dropWhile]
  · rintro ⟨digits, hdigits, rfl, rfl, hrest⟩
    have hbytes := isDigit_of_mem_encode hdigits
    have hstop : rest.takeWhile isDigit = [] ∧ rest.dropWhile isDigit = rest := by
      cases rest with
      | nil => exact ⟨rfl, rfl⟩
      | cons b rest =>
        have hb : ¬isDigit b = true := by rw [hrest b rfl]; decide
        exact ⟨List.takeWhile_cons_of_neg hb, List.dropWhile_cons_of_neg hb⟩
    rw [List.takeWhile_append_of_pos hbytes, List.dropWhile_append_of_pos hbytes, hstop.1,
      hstop.2, List.append_nil]
    exact ⟨rfl, rfl⟩

/-- All digits at the front of a text are read, and there is at least one. -/
lemma digits?_eq_ok_iff {text bytes : Bytes} :
    digits? text = .ok (bytes, rest) ↔
      ∃ digits : List Char, digits ≠ [] ∧ (∀ c ∈ digits, c.isDigit = true) ∧ bytes = encode digits ∧
        text = encode digits ++ rest ∧ NoDigit rest := by
  have hparts := @takeWhile_isDigit_eq_iff rest text bytes
  unfold digits?
  split
  · next hnil =>
    refine ⟨nofun, ?_⟩
    rintro ⟨digits, hne, hdigits, rfl, htext, hrest⟩
    have htake := (hparts.mpr ⟨digits, hdigits, rfl, htext, hrest⟩).1
    rw [hnil, eq_comm, encode_eq_nil_iff] at htake
    exact absurd htake hne
  · next hne =>
    rw [Except.ok.injEq, Prod.mk.injEq]
    constructor
    · rintro ⟨htake, hdrop⟩
      obtain ⟨digits, hdigits, hbytes, htext, hrest⟩ := hparts.mp ⟨htake, hdrop⟩
      refine ⟨digits, ?_, hdigits, hbytes, htext, hrest⟩
      rintro rfl
      exact hne (htake.trans hbytes)
    · rintro ⟨digits, -, hdigits, hbytes, htext, hrest⟩
      exact hparts.mpr ⟨digits, hdigits, hbytes, htext, hrest⟩

/-- The bytes of digits stand for the number that the digits write. -/
lemma digitsValue_encode {digits : List Char} (h : ∀ c ∈ digits, c.isDigit = true) :
    digitsValue (encode digits) = Nat.ofDigitChars 10 digits 0 := by
  have hfold : ∀ n, (encode digits).foldl (fun n b => 10 * n + (b.toNat - (octet '0').toNat)) n =
      Nat.ofDigitChars 10 digits n := by
    induction digits with
    | nil => exact fun n => rfl
    | cons c digits ih =>
      obtain ⟨hc, hdigits⟩ := List.forall_mem_cons.mp h
      intro n
      rw [encode_cons_of_ascii (toNat_lt_of_isDigit hc), List.foldl_cons, Nat.ofDigitChars_cons,
        ih hdigits, toNat_octet (toNat_lt_of_isDigit hc)]
      rfl
  exact hfold 0

/-! ### Parts of numbers -/

/-- Each digit is written with one byte. -/
lemma encode_of_isDigit {digits : List Char} (h : ∀ c ∈ digits, c.isDigit = true) :
    encode digits = digits.map octet :=
  encode_of_ascii fun c hc => toNat_lt_of_isDigit (h c hc)

/-- The bytes of digits start with that of a zero exactly if the digits start with a zero. -/
lemma head?_encode_digits {digits : List Char} (h : ∀ c ∈ digits, c.isDigit = true) :
    (encode digits).head? = some (octet '0') ↔ digits.head? = some '0' := by
  rw [encode_of_isDigit h]
  cases digits with
  | nil => exact ⟨nofun, nofun⟩
  | cons c digits =>
    have hc := toNat_lt_of_isDigit (List.forall_mem_cons.mp h).1
    rw [List.map_cons, List.head?_cons, List.head?_cons, Option.some.injEq, Option.some.injEq,
      octet_inj hc (by decide)]

/-- A whole number is read up to its last digit, and no other digit follows a zero at the front. -/
lemma whole?_eq_ok_iff {text bytes : Bytes} :
    whole? text = .ok (bytes, rest) ↔
      ∃ digits : List Char, digits ≠ [] ∧ (∀ c ∈ digits, c.isDigit = true) ∧
        (digits.head? = some '0' → digits.length = 1) ∧ bytes = encode digits ∧
          text = encode digits ++ rest ∧
        NoDigit rest := by
  have hzero : ∀ {digits : List Char}, digits ≠ [] → (∀ c ∈ digits, c.isDigit = true) →
      (((encode digits).head? = some (octet '0') && 1 < (encode digits).length) = true ↔
        ¬(digits.head? = some '0' → digits.length = 1)) := by
    intro digits hne hdigits
    have hpos := List.length_pos_iff.mpr hne
    rw [Bool.and_eq_true, decide_eq_true_eq, decide_eq_true_eq, head?_encode_digits hdigits,
      encode_of_isDigit hdigits, List.length_map, Classical.not_imp]
    refine and_congr_right fun _ => ?_
    omega
  unfold whole?
  rw [bind_eq_ok_iff]
  constructor
  · rintro ⟨⟨bytes', rest'⟩, hread, h⟩
    obtain ⟨digits, hne, hdigits, rfl, htext, hrest⟩ := digits?_eq_ok_iff.mp hread
    dsimp only at h
    split at h
    · cases h
    · next hcond =>
      cases h
      rw [hzero hne hdigits, not_not] at hcond
      exact ⟨digits, hne, hdigits, hcond, rfl, htext, hrest⟩
  · rintro ⟨digits, hne, hdigits, hlength, rfl, htext, hrest⟩
    refine ⟨_, digits?_eq_ok_iff.mpr ⟨digits, hne, hdigits, rfl, htext, hrest⟩, ?_⟩
    dsimp only
    rw [if_neg (by rw [hzero hne hdigits, not_not]; exact hlength)]
    rfl

/-- A fraction is written with a dot before its digits. -/
lemma encode_fractionChars {digits : List Char} (h : digits ≠ []) :
    encode (Numeral.fractionChars digits) = octet '.' :: encode digits := by
  rw [Numeral.fractionChars, if_neg h, encode_cons_of_ascii (by decide)]

/-- A fraction is read up to its last digit, if there is a dot. -/
lemma fraction?_eq_ok_iff {text bytes : Bytes} :
    fraction? text = .ok (bytes, rest) ↔
      ∃ digits : List Char, (∀ c ∈ digits, c.isDigit = true) ∧ bytes = encode digits ∧
        text = encode (Numeral.fractionChars digits) ++ rest ∧
        (digits = [] → rest.head? ≠ some (octet '.')) ∧ (digits ≠ [] → NoDigit rest) := by
  have hpoint : ∀ tail, fraction? (octet '.' :: tail) = digits? tail := fun tail => by
    rw [fraction?, if_pos rfl]
  have hother : text.head? ≠ some (octet '.') → fraction? text = .ok ([], text) := by
    intro hhead
    cases text with
    | nil => rfl
    | cons b tail => exact if_neg fun hb => hhead (congrArg some hb)
  constructor
  · intro h
    by_cases hhead : text.head? = some (octet '.')
    · obtain ⟨tail, rfl⟩ := List.head?_eq_some_iff.mp hhead
      rw [hpoint] at h
      obtain ⟨digits, hne, hdigits, rfl, rfl, hrest⟩ := digits?_eq_ok_iff.mp h
      refine ⟨digits, hdigits, rfl, ?_, fun hnil => absurd hnil hne, fun _ => hrest⟩
      rw [encode_fractionChars hne, List.cons_append]
    · rw [hother hhead] at h
      cases h
      exact ⟨[], nofun, rfl, rfl, fun _ => hhead, fun hne => absurd rfl hne⟩
  · rintro ⟨digits, hdigits, rfl, rfl, hnone, hsome⟩
    rcases eq_or_ne digits [] with rfl | hne
    · exact hother (hnone rfl)
    · rw [encode_fractionChars hne, List.cons_append, hpoint]
      exact digits?_eq_ok_iff.mpr ⟨digits, hne, hdigits, rfl, rfl, hsome hne⟩

/-- The exponent as it is kept while a number is read. -/
def Power.exponent (p : Power) : Exponent where
  negative := p.sign? = some '-'
  digits := encode p.digits

/-- An exponent is written with its mark, its sign if it has one, and its digits. -/
lemma Power.encode_chars (p : Power) :
    encode p.chars = octet p.mark :: ((p.sign?.map octet).toList ++ encode p.digits) := by
  have hmark : p.mark.toNat < 128 := by
    rcases p.mark_eq with h | h <;> rw [h] <;> decide
  rw [Power.chars, encode_cons_of_ascii hmark, Utf8.encode_append]
  cases hsign : p.sign? with
  | none => rfl
  | some c =>
    have hc : c.toNat < 128 := by
      rcases p.sign_eq c hsign with rfl | rfl <;> decide
    rw [Option.toList_some, encode_cons_of_ascii hc]
    rfl

/-- Whether no exponent starts at the front of a text. -/
def NoMark (text : Bytes) : Prop := text.head? ≠ some (octet 'e') ∧ text.head? ≠ some (octet 'E')

/-- The sign at the front of an exponent. -/
def sign? (text : Bytes) : Option UInt8 := text.head?.filter fun b => b = octet '+' || b = octet '-'

/-- A sign is found if the text starts with one. -/
lemma sign?_cases (text : Bytes) :
    ∃ s : Option Char, (∀ c ∈ s, c = '+' ∨ c = '-') ∧ sign? text = s.map octet ∧
      text = (s.map octet).toList ++ if (sign? text).isSome then text.drop 1 else text := by
  cases text with
  | nil => exact ⟨none, nofun, rfl, rfl⟩
  | cons b text =>
    by_cases hplus : b = octet '+'
    · subst hplus
      exact ⟨some '+', fun c hc => .inl (Option.some.inj hc).symm, rfl, rfl⟩
    · by_cases hminus : b = octet '-'
      · subst hminus
        exact ⟨some '-', fun c hc => .inr (Option.some.inj hc).symm, rfl, rfl⟩
      · have hnone : sign? (b :: text) = none := by simp [sign?, hplus, hminus]
        refine ⟨none, nofun, hnone, ?_⟩
        rw [hnone]
        rfl

/-- A sign is read if there is one, and digits are none. -/
lemma sign?_append {s : Option Char} (hs : ∀ c ∈ s, c = '+' ∨ c = '-') {digits : List Char}
    (hne : digits ≠ []) (hdigits : ∀ c ∈ digits, c.isDigit = true) (rest : Bytes) :
    sign? ((s.map octet).toList ++ (encode digits ++ rest)) = s.map octet := by
  cases s with
  | none =>
    cases digits with
    | nil => exact absurd rfl hne
    | cons c digits =>
      have hc := (List.forall_mem_cons.mp hdigits).1
      have hascii := toNat_lt_of_isDigit hc
      have hplus : octet c ≠ octet '+' := by
        rw [Ne, octet_inj hascii (by decide)]
        rintro rfl
        exact absurd hc (by decide)
      have hminus : octet c ≠ octet '-' := by
        rw [Ne, octet_inj hascii (by decide)]
        rintro rfl
        exact absurd hc (by decide)
      rw [encode_cons_of_ascii hascii]
      simp [sign?, hplus, hminus]
  | some c => rcases hs c rfl with rfl | rfl <;> rfl

/-- After its mark, an exponent has a sign or none, and digits. -/
lemma exponent?_of_mark {mark : Char} (h : mark = 'e' ∨ mark = 'E') (text : Bytes) :
    exponent? (octet mark :: text) = do
      let (digits, rest) ← digits? (if (sign? text).isSome then text.drop 1 else text)
      return (some { negative := sign? text = some (octet '-'), digits := digits }, rest) := by
  rcases h with rfl | rfl <;> rfl

/-- Without its mark there is no exponent. -/
lemma exponent?_of_noMark {text : Bytes} (h : NoMark text) : exponent? text = .ok (none, text) := by
  cases text with
  | nil => rfl
  | cons b text =>
    refine if_neg fun hb => ?_
    rw [Bool.or_eq_true, decide_eq_true_eq, decide_eq_true_eq] at hb
    rcases hb with rfl | rfl
    · exact h.1 rfl
    · exact h.2 rfl

/-- An exponent is read up to its last digit, if there is its mark. -/
lemma exponent?_eq_ok_iff {text : Bytes} {e? : Option Exponent} :
    exponent? text = .ok (e?, rest) ↔
      ∃ p? : Option Power, e? = p?.map Power.exponent ∧
        text = encode ((p?.map Power.chars).getD []) ++ rest ∧
        (p? = none → NoMark rest) ∧ (p? ≠ none → NoDigit rest) := by
  have hminus : ∀ s : Option Char, (∀ c ∈ s, c = '+' ∨ c = '-') →
      (s.map octet = some (octet '-') ↔ s = some '-') := by
    intro s hs
    cases s with
    | none => exact ⟨nofun, nofun⟩
    | some c => rcases hs c rfl with rfl | rfl <;> decide
  constructor
  · intro h
    by_cases hno : NoMark text
    · rw [exponent?_of_noMark hno] at h
      cases h
      exact ⟨none, rfl, rfl, fun _ => hno, fun hne => absurd rfl hne⟩
    · obtain ⟨mark, hmark, tail, rfl⟩ : ∃ mark, (mark = 'e' ∨ mark = 'E') ∧
          ∃ tail, text = octet mark :: tail := by
        rw [NoMark, not_and_or, not_not, not_not] at hno
        rcases hno with hhead | hhead
        · exact ⟨'e', .inl rfl, List.head?_eq_some_iff.mp hhead⟩
        · exact ⟨'E', .inr rfl, List.head?_eq_some_iff.mp hhead⟩
      rw [exponent?_of_mark hmark, bind_eq_ok_iff] at h
      obtain ⟨⟨bytes, rest'⟩, hread, h⟩ := h
      cases h
      obtain ⟨digits, hne, hdigits, rfl, hafter, hrest⟩ := digits?_eq_ok_iff.mp hread
      obtain ⟨s, hs, hsign, htail⟩ := sign?_cases tail
      rw [hafter] at htail
      refine ⟨some ⟨mark, s, digits, hmark, hs, hne, hdigits⟩, ?_, ?_, nofun, fun _ => hrest⟩
      · simp only [Option.map_some, Power.exponent, hsign, hminus s hs]
      · rw [Option.map_some, Option.getD_some, Power.encode_chars, List.cons_append,
          List.append_assoc, ← htail]
  · rintro ⟨p?, rfl, rfl, hnone, hsome⟩
    cases p? with
    | none => exact exponent?_of_noMark (hnone rfl)
    | some p =>
      have hsign := sign?_append p.sign_eq p.digits_ne_nil p.isDigit_digits rest
      rw [Option.map_some, Option.getD_some, Power.encode_chars, List.cons_append,
        List.append_assoc, exponent?_of_mark p.mark_eq, hsign, bind_eq_ok_iff]
      refine ⟨(encode p.digits, rest), digits?_eq_ok_iff.mpr
        ⟨p.digits, p.digits_ne_nil, p.isDigit_digits, rfl, ?_, hsome nofun⟩, ?_⟩
      · cases p.sign? <;> rfl
      · simp only [hminus p.sign? p.sign_eq]
        rfl

/-! ### Numbers -/

/-- What may follow a number: nothing that could belong to it. -/
structure EndsNumber (text : Bytes) : Prop where
  noDigit : NoDigit text
  noPoint : text.head? ≠ some (octet '.')
  noMark : NoMark text

/-- The parts of a number as they are kept while it is read. -/
def Numeral.parts (n : Numeral) : NumberText where
  negative := n.negative
  whole := encode n.whole
  fraction := encode n.fraction
  exponent? := n.power?.map Power.exponent

/-- Where a number ends, no digit and no dot follow its exponent or the place of one. -/
lemma EndsNumber.power (h : EndsNumber rest) (p? : Option Power) :
    NoDigit (encode ((p?.map Power.chars).getD []) ++ rest) ∧
      (encode ((p?.map Power.chars).getD []) ++ rest).head? ≠ some (octet '.') := by
  cases p? with
  | none => exact ⟨h.noDigit, h.noPoint⟩
  | some p =>
    rw [Option.map_some, Option.getD_some, Power.encode_chars, List.cons_append]
    rcases p.mark_eq with hmark | hmark
    · rw [hmark]
      exact ⟨fun b hb => by cases hb; rfl, fun heq => absurd (Option.some.inj heq) (by decide)⟩
    · rw [hmark]
      exact ⟨fun b hb => by cases hb; rfl, fun heq => absurd (Option.some.inj heq) (by decide)⟩

/-- What is read as the parts of a number is a numeral. -/
lemma numberText?_eq_ok {text : Bytes} {parts : NumberText}
    (h : numberText? text = .ok (parts, rest)) :
    ∃ n : Numeral, parts = n.parts ∧ text = encode n.chars ++ rest := by
  unfold numberText? at h
  simp only [bind_eq_ok_iff, Prod.exists] at h
  obtain ⟨_, afterWhole, hwhole, _, afterFraction, hfraction, _, after, hpower, h⟩ := h
  cases h
  obtain ⟨whole, hne, hdigits, hlength, rfl, htext, -⟩ := whole?_eq_ok_iff.mp hwhole
  obtain ⟨fraction, hdigits', rfl, rfl, -, -⟩ := fraction?_eq_ok_iff.mp hfraction
  obtain ⟨power?, rfl, rfl, -, -⟩ := exponent?_eq_ok_iff.mp hpower
  refine ⟨⟨text.head? = some (octet '-'), whole, fraction, power?, hne, hdigits, hlength, hdigits'⟩,
    rfl, ?_⟩
  simp only [Numeral.chars, Utf8.encode_append, List.append_assoc, ← htext, decide_eq_true_eq]
  split
  · next hsign =>
    obtain ⟨tail, rfl⟩ := List.head?_eq_some_iff.mp hsign
    rfl
  · rfl

/-- A numeral is read up to where the number ends. -/
lemma numberText?_encode_append (n : Numeral) (h : EndsNumber rest) :
    numberText? (encode n.chars ++ rest) = .ok (n.parts, rest) := by
  set afterFraction := encode ((n.power?.map Power.chars).getD []) ++ rest with hafterFraction
  set afterWhole := encode (Numeral.fractionChars n.fraction) ++ afterFraction with hafterWhole
  -- The parts are looked at from back to front, since each ends where the next one starts.
  have hpower : exponent? afterFraction = .ok (n.power?.map Power.exponent, rest) :=
    exponent?_eq_ok_iff.mpr ⟨n.power?, rfl, rfl, fun _ => h.noMark, fun _ => h.noDigit⟩
  have hfraction : fraction? afterWhole = .ok (encode n.fraction, afterFraction) :=
    fraction?_eq_ok_iff.mpr ⟨n.fraction, n.isDigit_fraction, rfl, rfl,
      fun _ => (h.power n.power?).2, fun _ => (h.power n.power?).1⟩
  have hnext : NoDigit afterWhole := by
    rcases eq_or_ne n.fraction [] with hnil | hne
    · rw [hafterWhole, hnil]
      exact (h.power n.power?).1
    · rw [hafterWhole, encode_fractionChars hne]
      intro b hb
      cases hb
      rfl
  have hwhole : whole? (encode n.whole ++ afterWhole) = .ok (encode n.whole, afterWhole) :=
    whole?_eq_ok_iff.mpr ⟨n.whole, n.whole_ne_nil, n.isDigit_whole, n.length_whole, rfl, rfl, hnext⟩
  have hminus : (encode n.whole ++ afterWhole).head? ≠ some (octet '-') := by
    obtain ⟨c, whole, heq⟩ := List.exists_cons_of_ne_nil n.whole_ne_nil
    have hc : c.isDigit = true := n.isDigit_whole c (by rw [heq]; exact List.mem_cons_self)
    have hascii := toNat_lt_of_isDigit hc
    rw [heq, encode_cons_of_ascii hascii, List.cons_append, List.head?_cons, Ne, Option.some.injEq,
      octet_inj hascii (by decide)]
    rintro rfl
    exact absurd hc (by decide)
  have hchars : encode n.chars ++ rest =
      encode (if n.negative then ['-'] else []) ++ (encode n.whole ++ afterWhole) := by
    rw [Numeral.chars, Utf8.encode_append, Utf8.encode_append, Utf8.encode_append,
      List.append_assoc, List.append_assoc, List.append_assoc]
  rw [hchars, numberText?]
  simp only [bind_eq_ok_iff, Prod.exists]
  refine ⟨encode n.whole, afterWhole, ?_, _, _, hfraction, _, _, hpower, ?_⟩
  · cases n.negative with
    | true => exact hwhole
    | false =>
      rw [if_neg Bool.false_ne_true, Utf8.encode_nil, List.nil_append, if_neg hminus]
      exact hwhole
  · cases hsign : n.negative with
    | true =>
      rw [Numeral.parts, hsign]
      rfl
    | false =>
      rw [if_neg Bool.false_ne_true, Utf8.encode_nil, List.nil_append, decide_eq_false hminus,
        Numeral.parts, hsign]
      rfl

/-- The value of an exponent is that of its digits, with the sign. -/
lemma Power.value_exponent (p : Power) :
    (if p.exponent.negative then -(digitsValue p.exponent.digits : Int) else
      digitsValue p.exponent.digits) =
      p.value := by
  rw [Power.exponent, digitsValue_encode p.isDigit_digits, Power.value]
  simp only [decide_eq_true_eq]

/-- The parts of a numeral write the decimal number that it is. -/
lemma Numeral.decimal_parts (n : Numeral) : n.parts.decimal = n.decimal := by
  have hdigits : ∀ c ∈ n.whole ++ n.fraction, c.isDigit = true := fun c hc =>
    (List.mem_append.mp hc).elim (n.isDigit_whole c) (n.isDigit_fraction c)
  have hlength : (encode n.fraction).length = n.fraction.length := by
    rw [encode_of_isDigit n.isDigit_fraction, List.length_map]
  unfold NumberText.decimal Numeral.decimal Numeral.parts
  dsimp only
  rw [← Utf8.encode_append, digitsValue_encode hdigits, hlength]
  cases n.power? with
  | none => rfl
  | some p => simp only [Option.map_some, Option.getD_some, ← Power.value_exponent]

/-- The parts of a numeral write an integer exactly if the numeral is one. -/
lemma Numeral.integer?_parts {n : Numeral} {i : Int} :
    n.parts.integer? = some i ↔ n.IsInteger .strict ∧ n.integer = i := by
  have hfraction : (encode n.fraction).isEmpty = true ↔ n.fraction = [] := by
    rw [List.isEmpty_iff, encode_eq_nil_iff]
  unfold NumberText.integer? Numeral.parts IsInteger integer
  simp only [Bool.and_eq_true, hfraction, Option.isNone_map, Option.isNone_iff_eq_none,
    digitsValue_encode n.isDigit_whole, Dialect.strict, Bool.false_eq_true, imp_false]
  by_cases hplain : n.fraction = [] ∧ n.power? = none
  · rw [if_pos hplain]
    obtain ⟨hfraction, hpower⟩ := hplain
    cases n.negative with
    | false => simp [hfraction, hpower]
    | true =>
      by_cases hzero : Nat.ofDigitChars 10 n.whole 0 = 0
      · simp [hzero]
      · simp [hfraction, hpower, hzero]
  · rw [if_neg hplain]
    refine ⟨nofun, ?_⟩
    rintro ⟨⟨hfraction, hpower, -⟩, -⟩
    exact absurd ⟨hfraction, hpower⟩ hplain

/-- An integer is a number exactly if it fits into a word. -/
lemma Number.ofInt?_eq_some_iff {i : Int} {v : Number} :
    Number.ofInt? i = some v ↔ ∃ h : IsWord i, v = .integer i h := by
  unfold Number.ofInt?
  split
  · next h =>
    rw [Option.some.injEq]
    constructor
    · rintro rfl
      exact ⟨h, rfl⟩
    · rintro ⟨-, rfl⟩
      rfl
  · next h =>
    refine ⟨nofun, ?_⟩
    rintro ⟨h', -⟩
    exact absurd h' h

/-- A number has the value that it spells. -/
lemma value?_eq_ok_iff {n : Numeral} {v : Number} :
    n.parts.value? rest = .ok v ↔ SpellsNumber .strict v n := by
  have hinteger : ∀ w, n.parts.integer?.bind Number.ofInt? = some w ↔
      n.IsInteger .strict ∧ ∃ h : IsWord n.integer, w = .integer n.integer h := by
    intro w
    simp only [Option.bind_eq_some_iff, Numeral.integer?_parts, Number.ofInt?_eq_some_iff]
    constructor
    · rintro ⟨i, ⟨hwritten, rfl⟩, hw⟩
      exact ⟨hwritten, hw⟩
    · rintro ⟨hwritten, hw⟩
      exact ⟨n.integer, ⟨hwritten, rfl⟩, hw⟩
  unfold NumberText.value?
  rw [Numeral.decimal_parts]
  split
  · next w hw =>
    obtain ⟨hwritten, hrange, rfl⟩ := (hinteger w).mp hw
    rw [Except.ok.injEq]
    constructor
    · rintro rfl
      exact .integer hwritten rfl hrange
    · rintro (⟨-, rfl, -⟩ | ⟨hother, -⟩)
      · rfl
      · exact absurd hrange (hother hwritten)
  · next hnone =>
    -- An integer that does not fit is read like a number with a point.
    have hother : n.IsInteger .strict → ¬IsWord n.integer := by
      intro hwritten hrange
      have hsome := (hinteger _).mpr ⟨hwritten, hrange, rfl⟩
      rw [hnone] at hsome
      cases hsome
    split
    · next x hx =>
      rw [Except.ok.injEq]
      constructor
      · rintro rfl
        exact .real hother hx
      · rintro (⟨hwritten, rfl, hrange⟩ | ⟨-, hx'⟩)
        · exact absurd hrange (hother hwritten)
        · rw [Option.some.inj (hx.symm.trans hx')]
    · next hx =>
      refine ⟨nofun, ?_⟩
      rintro (⟨hwritten, rfl, hrange⟩ | ⟨-, hx'⟩)
      · exact absurd hrange (hother hwritten)
      · cases hx.symm.trans hx'

/-- What is read as a number is spelled by a numeral, and skipping it leads to the same place. -/
lemma readNumber_eq_ok {text : Bytes} {v : Number} (h : readNumber text = .ok (v, rest)) :
    skipNumber text = .ok rest ∧ ∃ n : Numeral, SpellsNumber .strict v n ∧
      text = encode n.chars ++ rest := by
  unfold readNumber at h
  unfold skipNumber
  split at h
  · cases h
  · cases h
  · next parts after hparts =>
    rw [bind_eq_ok_iff] at h
    obtain ⟨w, hvalue, h⟩ := h
    cases h
    obtain ⟨n, rfl, htext⟩ := numberText?_eq_ok hparts
    rw [hparts]
    exact ⟨rfl, n, value?_eq_ok_iff.mp hvalue, htext⟩

/-- A number that a numeral spells is read up to where it ends. -/
lemma readNumber_encode_append {n : Numeral} {v : Number} (hv : SpellsNumber .strict v n)
    (h : EndsNumber rest) :
    readNumber (encode n.chars ++ rest) = .ok (v, rest) := by
  rw [readNumber, numberText?_encode_append n h]
  dsimp only
  rw [value?_eq_ok_iff.mpr hv]
  rfl

/-- A numeral is skipped up to where the number ends. -/
lemma skipNumber_encode_append (n : Numeral) (h : EndsNumber rest) :
    skipNumber (encode n.chars ++ rest) = .ok rest := by
  rw [skipNumber, numberText?_encode_append n h]

/-! ### Numbers that have a value -/

/-- The integers of the 64-bit ranges are among the numbers that have a nearest finite one. -/
lemma Numeral.decimal_lt_of_isWord {d : Dialect} {n : Numeral} (hwritten : n.IsInteger d)
    (hrange : IsWord n.integer) :
    (n.decimal.digits : ℚ) * 10 ^ n.decimal.exponent < 2 ^ 1024 - 2 ^ 970 := by
  obtain ⟨hfraction, hpower, -⟩ := hwritten
  have hdigits : n.decimal.digits ≤ 2 ^ 64 := by
    have hvalue : n.decimal.digits = Nat.ofDigitChars 10 n.whole 0 := by
      rw [decimal, hfraction, List.append_nil]
    have hbounds := hrange
    unfold integer at hbounds
    rw [hvalue]
    split at hbounds <;> omega
  have hexponent : n.decimal.exponent = 0 := by
    rw [decimal, hfraction, hpower]
    rfl
  rw [hexponent, zpow_zero, mul_one]
  calc (n.decimal.digits : ℚ) ≤ ((2 ^ 64 : ℕ) : ℚ) := Nat.cast_le.mpr hdigits
    _ < 2 ^ 970 := by
      rw [Nat.cast_pow, Nat.cast_ofNat]
      exact pow_lt_pow_right₀ (by norm_num) (by norm_num)
    _ ≤ 2 ^ 1024 - 2 ^ 970 := by
      have hsum : (2 : ℚ) ^ 970 + 2 ^ 970 = 2 ^ 971 := by rw [← two_mul, ← pow_succ']
      rw [le_sub_iff_add_le, hsum]
      exact pow_le_pow_right₀ (by norm_num) (by norm_num)

/-- A numeral has a value exactly if its magnitude is below 2^1024 - 2^970. -/
theorem exists_spellsNumber_iff (d : Dialect) (n : Numeral) :
    (∃ v, SpellsNumber d v n) ↔
      (n.decimal.digits : ℚ) * 10 ^ n.decimal.exponent < 2 ^ 1024 - 2 ^ 970 := by
  constructor
  · rintro ⟨v, hv⟩
    cases hv with
    | integer written value range => exact Numeral.decimal_lt_of_isWord written (value ▸ range)
    | real _ nearest => exact (Decimal.exists_toBinary64?_iff n.negative n.decimal).mp ⟨_, nearest⟩
  · intro hlt
    by_cases hword : n.IsInteger d ∧ IsWord n.integer
    · exact ⟨_, .integer hword.1 rfl hword.2⟩
    · obtain ⟨x, hx⟩ := (Decimal.exists_toBinary64?_iff n.negative n.decimal).mpr hlt
      exact ⟨_, .real (fun hwritten hrange => hword ⟨hwritten, hrange⟩) hx⟩

end GraphqlClient.Json
