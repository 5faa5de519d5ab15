import GraphqlClient.Proofs.Json.Lexeme

/-!
# Strings read as they are spelled

A string is read from the front of a text exactly if the text starts with characters and escapes
that spell it (`Json.readString_eq_ok`, `Json.readString_encode_append`).
-/

namespace GraphqlClient.Json

open Utf8 (encode toNat_octet octet_inj encode_cons_of_ascii encode_of_ascii encode_eq_nil_iff)

variable {rest : Bytes}

/-! ### Escapes -/

/-- Hexadecimal digits are ASCII characters, and each makes a number sixteen times as large at
most. -/
lemma hexNumber?_bounds {digits : List Char} {n : Nat} (h : CodePoint.hexNumber? digits = some n) :
    (∀ c ∈ digits, c.toNat < 128) ∧ n < 16 ^ digits.length := by
  have hfold : ∀ (digits : List Char) (start n : Nat),
      digits.foldlM (fun n c => (CodePoint.hexValue? c).map (16 * n + ·)) start = some n →
        (∀ c ∈ digits, c.toNat < 128) ∧ n < (start + 1) * 16 ^ digits.length := by
    intro digits
    induction digits with
    | nil =>
      intro start n h
      cases h
      exact ⟨nofun, by simp⟩
    | cons c digits ih =>
      intro start n h
      rw [List.foldlM_cons] at h
      obtain ⟨next, hnext, h⟩ := Option.bind_eq_some_iff.mp h
      obtain ⟨value, hvalue, rfl⟩ := Option.map_eq_some_iff.mp hnext
      obtain ⟨hc, hlt⟩ := CodePoint.toNat_lt_of_hexValue? hvalue
      obtain ⟨hdigits, hn⟩ := ih _ _ h
      refine ⟨List.forall_mem_cons.mpr ⟨hc, hdigits⟩, lt_of_lt_of_le hn ?_⟩
      rw [List.length_cons, Nat.pow_succ, Nat.mul_comm (16 ^ _) 16, ← Nat.mul_assoc]
      exact Nat.mul_le_mul_right _ (by omega)
  obtain ⟨hascii, hlt⟩ := hfold digits 0 n h
  exact ⟨hascii, by simpa using hlt⟩

/-- The bytes of a code point that is a character are those of the character. -/
lemma exists_pointBytes {n : Nat} (h : n.isValidChar) :
    ∃ c : Char, c.toNat = n ∧ pointBytes n = String.utf8EncodeChar c := by
  refine ⟨Char.ofNatAux n h, Char.toNat_ofNatAux h, ?_⟩
  rw [pointBytes, CodePoint.scalar?_eq_some_iff.mpr (Char.toNat_ofNatAux h), Option.toList_some,
    Utf8.encode_cons, Utf8.encode_nil, List.append_nil]

/-- The bytes of a character's code point are those of the character. -/
lemma pointBytes_toNat (c : Char) : pointBytes c.toNat = String.utf8EncodeChar c := by
  obtain ⟨d, hpoint, hbytes⟩ := exists_pointBytes (show c.toNat.isValidChar from c.valid)
  rw [hbytes, Char.toNat_inj.mp hpoint]

/-- Four hexadecimal digits at the front of a text. -/
lemma hexEscape_eq_ok_iff {text : Bytes} {n : Nat} :
    hexEscape text = .ok (n, rest) ↔ ∃ digits, SpellsPoint n digits ∧
      text = encode digits ++ rest := by
  have hchar : ∀ b : UInt8, (Char.ofNat b.toNat).toNat = b.toNat := by
    intro b
    have hvalid : b.toNat.isValidChar := .inl (by have := b.toNat_lt; omega)
    rw [Char.ofNat, dif_pos hvalid, Char.toNat_ofNatAux]
  constructor
  · intro h
    unfold hexEscape at h
    split at h
    · cases h
    · next hlength =>
      split at h
      · next value hsome =>
        cases h
        have hvalue : CodePoint.hexNumber? ((text.take 4).map fun b => Char.ofNat b.toNat) =
          some n := hsome
        have hascii := (hexNumber?_bounds hvalue).1
        refine ⟨(text.take 4).map fun b => Char.ofNat b.toNat, ⟨?_, hvalue⟩, ?_⟩
        · rw [List.length_map, List.length_take]
          omega
        · have hback : ((text.take 4).map fun b => Char.ofNat b.toNat).map octet = text.take 4 := by
            rw [List.map_map]
            conv_rhs => rw [← List.map_id (text.take 4)]
            refine List.map_congr_left fun b hb => ?_
            have hlow := hascii _ (List.mem_map_of_mem hb)
            rw [Function.comp_apply, id_eq, ← UInt8.toNat_inj, toNat_octet hlow, hchar]
          rw [encode_of_ascii hascii, hback, List.take_append_drop]
      · cases h
  · rintro ⟨digits, ⟨hlength, hvalue⟩, rfl⟩
    have hascii := (hexNumber?_bounds hvalue).1
    have hbytes : (encode digits).length = 4 := by
      rw [encode_of_ascii hascii, List.length_map, hlength]
    have hback : (encode digits).map (fun b => Char.ofNat b.toNat) = digits := by
      rw [encode_of_ascii hascii, List.map_map]
      conv_rhs => rw [← List.map_id digits]
      refine List.map_congr_left fun c hc => ?_
      rw [Function.comp_apply, id_eq, ← Char.toNat_inj, hchar, toNat_octet (hascii c hc)]
    unfold hexEscape
    rw [if_neg (by rw [List.length_append]; omega), List.take_left' hbytes, List.drop_left' hbytes,
      hexNumber?, hback, hvalue]

/-- A character of a pair is taken exactly if the text starts with it. -/
lemma takeForPair_eq_ok_iff {c : Char} {text : Bytes} :
    takeForPair c text = .ok rest ↔ text = octet c :: rest := by
  cases text with
  | nil => exact ⟨nofun, nofun⟩
  | cons b tail =>
    rw [takeForPair]
    split
    · next h => rw [h, Except.ok.injEq, List.cons.injEq, and_iff_right rfl]
    · next h =>
      constructor
      · intro hok
        cases hok
      · intro heq
        rw [List.cons.injEq] at heq
        exact absurd heq.1 h

/-- The letters of short escapes and what they stand for are ASCII characters. -/
lemma shortEscapes_ascii : ∀ e ∈ shortEscapes, e.1.toNat < 128 ∧ e.2.toNat < 128 := by decide

/-- A byte stands for another after a backslash exactly if the table of short escapes says so. -/
lemma escaped?_eq_some_iff {b b' : UInt8} :
    escaped? b = some b' ↔ ∃ e ∈ shortEscapes, b = octet e.1 ∧ b' = octet e.2 := by
  have hcomplete : ∀ e ∈ shortEscapes, escaped? (octet e.1) = some (octet e.2) := by decide
  constructor
  · intro h
    have hescape : ∀ letter c, (letter, c) ∈ shortEscapes → b = octet letter → b' = octet c →
        ∃ e ∈ shortEscapes, b = octet e.1 ∧ b' = octet e.2 :=
      fun letter c hmem hb hb' => ⟨(letter, c), hmem, hb, hb'⟩
    unfold escaped? at h
    split at h
    · next hself =>
      cases h
      simp only [Bool.or_eq_true, decide_eq_true_eq] at hself
      rcases hself with (hb | hb) | hb
      · exact hescape '"' '"' (by decide) hb hb
      · exact hescape '\\' '\\' (by decide) hb hb
      · exact hescape '/' '/' (by decide) hb hb
    split at h
    · next hb => exact hescape 'b' '\x08' (by decide) hb (Option.some.inj h).symm
    split at h
    · next hb => exact hescape 'f' '\x0c' (by decide) hb (Option.some.inj h).symm
    split at h
    · next hb => exact hescape 'n' '\n' (by decide) hb (Option.some.inj h).symm
    split at h
    · next hb => exact hescape 'r' '\r' (by decide) hb (Option.some.inj h).symm
    split at h
    · next hb => exact hescape 't' '\t' (by decide) hb (Option.some.inj h).symm
    · cases h
  · rintro ⟨e, he, rfl, rfl⟩
    exact hcomplete e he

/-- Numbers of four hexadecimal digits are code points unless they are halves of a pair. -/
lemma SpellsPoint.isValidChar {n : Nat} {digits : List Char} (h : SpellsPoint n digits)
    (hlow : ¬CodePoint.isLowSurrogate n = true) (hhigh : ¬CodePoint.isHighSurrogate n = true) :
    n.isValidChar := by
  obtain ⟨hlength, hvalue⟩ := h
  have hlt := (hexNumber?_bounds hvalue).2
  rw [hlength] at hlt
  simp only [CodePoint.isLowSurrogate, CodePoint.isHighSurrogate, Bool.and_eq_true,
    decide_eq_true_eq] at hlow hhigh
  unfold Nat.isValidChar
  omega

/-- A pair of surrogates stands for a character. -/
lemma isValidChar_ofSurrogates {high low : Nat} (hhigh : CodePoint.isHighSurrogate high = true)
    (hlow : CodePoint.isLowSurrogate low = true) :
    (CodePoint.ofSurrogates high low).isValidChar := by
  simp only [CodePoint.isLowSurrogate, CodePoint.isHighSurrogate, Bool.and_eq_true,
    decide_eq_true_eq] at hlow hhigh
  unfold Nat.isValidChar CodePoint.ofSurrogates
  omega

/-- No character is a half of a pair. -/
lemma not_surrogate (c : Char) :
    ¬CodePoint.isLowSurrogate c.toNat = true ∧ ¬CodePoint.isHighSurrogate c.toNat = true := by
  have hvalid : c.toNat.isValidChar := c.valid
  simp only [CodePoint.isLowSurrogate, CodePoint.isHighSurrogate, Bool.and_eq_true,
    decide_eq_true_eq]
  unfold Nat.isValidChar at hvalid
  omega

/-- The bytes of an escaped pair are those of its halves, with the second escape between them. -/
lemma encode_pair (digits digits' : List Char) :
    encode (digits ++ '\\' :: 'u' :: digits') =
      encode digits ++ octet '\\' :: octet 'u' :: encode digits' := by
  rw [Utf8.encode_append, encode_cons_of_ascii (by decide), encode_cons_of_ascii (by decide)]

/-- What is read as an escape by code point spells a character. -/
lemma unicodeEscape_eq_ok {text bytes : Bytes} (h : unicodeEscape text = .ok (bytes, rest)) :
    ∃ c escape, SpellsEscape .strict c ('u' :: escape) ∧ bytes = String.utf8EncodeChar c ∧
      text = encode escape ++ rest := by
  unfold unicodeEscape at h
  rw [bind_eq_ok_iff] at h
  obtain ⟨⟨n, after⟩, hfirst, h⟩ := h
  obtain ⟨digits, hpoint, rfl⟩ := hexEscape_eq_ok_iff.mp hfirst
  dsimp only at h
  split at h
  · cases h
  · next hnotLow =>
    split at h
    · next hhigh =>
      simp only [bind_eq_ok_iff, Prod.exists, takeForPair_eq_ok_iff] at h
      obtain ⟨_, rfl, _, rfl, low, after', hsecond, h⟩ := h
      obtain ⟨digits', hpoint', rfl⟩ := hexEscape_eq_ok_iff.mp hsecond
      split at h
      · next hlow =>
        obtain ⟨rfl, rfl⟩ := Prod.mk.inj (Except.ok.inj h)
        obtain ⟨c, hc, hbytes⟩ := exists_pointBytes (isValidChar_ofSurrogates hhigh hlow)
        refine ⟨c, _, .pair hpoint hpoint' hhigh hlow hc, hbytes, ?_⟩
        rw [encode_pair, List.append_assoc]
        rfl
      · cases h
    · next hnotHigh =>
      cases h
      obtain ⟨c, rfl, hbytes⟩ := exists_pointBytes (hpoint.isValidChar hnotLow hnotHigh)
      exact ⟨c, digits, .point hpoint, hbytes, rfl⟩

/-- An escape by code point that spells a character is read. -/
lemma unicodeEscape_encode_append {c : Char} {escape : List Char}
    (h : SpellsEscape .strict c ('u' :: escape)) (hshort : escape ≠ []) (rest : Bytes) :
    unicodeEscape (encode escape ++ rest) = .ok (String.utf8EncodeChar c, rest) := by
  unfold unicodeEscape
  rw [bind_eq_ok_iff]
  cases h with
  | short => exact absurd rfl hshort
  | point point =>
    refine ⟨_, hexEscape_eq_ok_iff.mpr ⟨escape, point, rfl⟩, ?_⟩
    obtain ⟨hlow, hhigh⟩ := not_surrogate c
    dsimp only
    rw [if_neg hlow, if_neg hhigh, pointBytes_toNat]
    rfl
  | @pair high low _ digits digits' first second isHigh isLow together =>
    have hnotLow : ¬CodePoint.isLowSurrogate high = true := by
      simp only [CodePoint.isLowSurrogate, CodePoint.isHighSurrogate, Bool.and_eq_true,
        decide_eq_true_eq] at isHigh ⊢
      omega
    rw [encode_pair, List.append_assoc]
    refine ⟨_, hexEscape_eq_ok_iff.mpr ⟨digits, first, rfl⟩, ?_⟩
    dsimp only
    rw [if_neg hnotLow, if_pos isHigh]
    simp only [bind_eq_ok_iff, Prod.exists, takeForPair_eq_ok_iff]
    refine ⟨_, rfl, _, rfl, low, rest, hexEscape_eq_ok_iff.mpr ⟨digits', second, rfl⟩, ?_⟩
    rw [if_pos isLow, ← together, pointBytes_toNat]
    rfl
  | half _ _ alone => cases alone

/-- An escape is read exactly if it spells a character. -/
lemma readEscape_eq_ok_iff {text bytes : Bytes} :
    readEscape text = .ok (bytes, rest) ↔
      ∃ c escape, SpellsEscape .strict c escape ∧ bytes = String.utf8EncodeChar c ∧
        text = encode escape ++ rest := by
  constructor
  · intro h
    cases text with
    | nil => cases h
    | cons b tail =>
      rw [readEscape] at h
      split at h
      · next hu =>
        obtain ⟨c, escape, hescape, hbytes, rfl⟩ := unicodeEscape_eq_ok h
        refine ⟨c, 'u' :: escape, hescape, hbytes, ?_⟩
        rw [encode_cons_of_ascii (by decide), hu]
        rfl
      · split at h
        · next b' hb' =>
          cases h
          obtain ⟨e, he, rfl, rfl⟩ := escaped?_eq_some_iff.mp hb'
          obtain ⟨hletter, hc⟩ := shortEscapes_ascii e he
          refine ⟨e.2, [e.1], .short he, (Utf8.utf8EncodeChar_of_ascii hc).symm, ?_⟩
          rw [encode_cons_of_ascii hletter]
          rfl
        · cases h
  · rintro ⟨c, escape, hescape, rfl, rfl⟩
    have hne : ∀ {n : Nat} {digits : List Char}, SpellsPoint n digits → digits ≠ [] := by
      rintro n _ ⟨hlength, -⟩ rfl
      cases hlength
    have hu : ∀ digits : List Char, readEscape (encode ('u' :: digits) ++ rest) =
        unicodeEscape (encode digits ++ rest) := by
      intro digits
      rw [encode_cons_of_ascii (by decide), List.cons_append, readEscape, if_pos rfl]
    cases hescape with
    | @short letter _ escape =>
      obtain ⟨hletter, hc⟩ := shortEscapes_ascii _ escape
      -- No short escape is taken for one by code point.
      have hletterNe : octet letter ≠ octet 'u' := by
        have hall : ∀ e ∈ shortEscapes, octet e.1 ≠ octet 'u' := by decide
        exact hall _ escape
      rw [encode_cons_of_ascii hletter, List.cons_append, readEscape, if_neg hletterNe,
        escaped?_eq_some_iff.mpr ⟨_, escape, rfl, rfl⟩, Utf8.utf8EncodeChar_of_ascii hc]
      rfl
    | point point =>
      rw [hu]
      exact unicodeEscape_encode_append (.point point) (hne point) rest
    | pair first second isHigh isLow together =>
      rw [hu]
      exact unicodeEscape_encode_append (.pair first second isHigh isLow together)
        (List.append_ne_nil_of_left_ne_nil (hne first) _) rest
    | half _ _ alone => cases alone

/-! ### Strings -/

/-- Whether a byte stands for itself between quotes. -/
structure IsPlain (b : UInt8) : Prop where
  printable : ¬b < octet ' '
  quote : b ≠ octet '"'
  backslash : b ≠ octet '\\'

/-- A plain byte of a string stands for itself. -/
lemma stringBytes_cons {fuel : Nat} {b : UInt8} (h : IsPlain b) (text : Bytes) :
    stringBytes (fuel + 1) (b :: text) = do
      let (more, rest) ← stringBytes fuel text
      return (b :: more, rest) := by
  rw [stringBytes, if_neg h.quote, if_neg h.backslash, if_neg h.printable]

/-- A plain byte of a string is skipped. -/
lemma skipStringBytes_cons {fuel : Nat} {b : UInt8} (h : IsPlain b) (text : Bytes) :
    skipStringBytes (fuel + 1) (b :: text) = skipStringBytes fuel text := by
  rw [skipStringBytes, if_neg h.quote, if_neg h.backslash, if_neg h.printable]

/-- The bytes of a character that needs no escape stand for themselves. -/
lemma isPlain_utf8EncodeChar {c : Char} (printable : ' ' ≤ c) (quote : c ≠ '"')
    (backslash : c ≠ '\\') :
    ∀ b ∈ String.utf8EncodeChar c, IsPlain b := by
  rcases Nat.lt_or_ge c.toNat 128 with hascii | hlarge
  · rw [Utf8.utf8EncodeChar_of_ascii hascii, List.forall_mem_singleton]
    refine ⟨?_, ?_, ?_⟩
    · have hle : ' '.toNat ≤ c.toNat := printable
      rw [UInt8.not_lt, UInt8.le_iff_toNat_le, toNat_octet hascii, toNat_octet (by decide)]
      exact hle
    · rwa [Ne, octet_inj hascii (by decide)]
    · rwa [Ne, octet_inj hascii (by decide)]
  · intro b hb
    have hge : 128 ≤ b.toNat := UInt8.le_iff_toNat_le.mp (Utf8.le_of_mem_utf8EncodeChar hlarge b hb)
    have hother : ∀ d : Char, d.toNat < 128 → octet d < b := by
      intro d hd
      rw [UInt8.lt_iff_toNat_lt, toNat_octet hd]
      omega
    exact ⟨UInt8.lt_asymm (hother ' ' (by decide)), (UInt8.ne_of_lt (hother '"' (by decide))).symm,
      (UInt8.ne_of_lt (hother '\\' (by decide))).symm⟩

/-- Plain bytes of a string stand for themselves. -/
lemma stringBytes_append {fuel : Nat} {bytes text more : Bytes} (h : ∀ b ∈ bytes, IsPlain b)
    (hread : stringBytes fuel text = .ok (more, rest)) :
    stringBytes (bytes.length + fuel) (bytes ++ text) = .ok (bytes ++ more, rest) := by
  induction bytes with
  | nil => rwa [List.length_nil, Nat.zero_add]
  | cons b bytes ih =>
    obtain ⟨hb, hbytes⟩ := List.forall_mem_cons.mp h
    rw [List.length_cons, Nat.add_right_comm, List.cons_append, stringBytes_cons hb, ih hbytes]
    rfl

/-- Plain bytes of a string are skipped. -/
lemma skipStringBytes_append {fuel : Nat} {bytes text : Bytes} (h : ∀ b ∈ bytes, IsPlain b) :
    skipStringBytes (bytes.length + fuel) (bytes ++ text) = skipStringBytes fuel text := by
  induction bytes with
  | nil => rw [List.length_nil, Nat.zero_add, List.nil_append]
  | cons b bytes ih =>
    obtain ⟨hb, hbytes⟩ := List.forall_mem_cons.mp h
    rw [List.length_cons, Nat.add_right_comm, List.cons_append, skipStringBytes_cons hb, ih hbytes]

/-- A string is read up to its closing quote. -/
lemma stringBytes_encode_append {cs text : List Char} (h : SpellsString .strict cs text)
    (rest : Bytes) :
    ∀ fuel, (encode text).length < fuel →
      stringBytes fuel (encode text ++ octet '"' :: rest) = .ok (encode cs, rest) := by
  induction h with
  | nil =>
    intro fuel hfuel
    obtain ⟨fuel, rfl⟩ := Nat.exists_eq_add_of_lt hfuel
    rw [Utf8.encode_nil, List.nil_append, stringBytes, if_pos rfl]
  | @plain c cs text printable quote backslash _ ih =>
    intro fuel hfuel
    rw [Utf8.encode_cons, List.length_append] at hfuel
    obtain ⟨more, rfl⟩ :=
      Nat.exists_eq_add_of_le (show (String.utf8EncodeChar c).length ≤ fuel by omega)
    rw [Utf8.encode_cons, Utf8.encode_cons, List.append_assoc]
    exact stringBytes_append (isPlain_utf8EncodeChar printable quote backslash) (ih more (by omega))
  | @escape c escape cs text first _ ih =>
    intro fuel hfuel
    rw [encode_cons_of_ascii (by decide), Utf8.encode_append, List.length_cons,
      List.length_append] at hfuel
    obtain ⟨fuel, rfl⟩ := Nat.exists_eq_succ_of_ne_zero (show fuel ≠ 0 by omega)
    rw [encode_cons_of_ascii (by decide), Utf8.encode_append, List.cons_append, List.append_assoc,
      stringBytes, if_neg (by decide), if_pos rfl,
      readEscape_eq_ok_iff.mpr ⟨c, escape, first, rfl, rfl⟩, Utf8.encode_cons]
    simp only [bind_eq_ok_iff, Prod.exists]
    exact ⟨_, _, rfl, _, _, ih fuel (by omega), rfl⟩

/-- An escape is passed over in one step, or in two if it is a pair. -/
lemma skipStringBytes_escape {c : Char} {escape : List Char} (h : SpellsEscape .strict c escape)
    {after : Bytes} {n : Nat} (hskip : ∀ fuel, n < fuel → skipStringBytes fuel after = .ok rest)
    {fuel : Nat} (hfuel : (encode escape).length + n + 1 < fuel) :
    skipStringBytes fuel (octet '\\' :: (encode escape ++ after)) = .ok rest := by
  have hstep : ∀ (fuel : Nat) (text : Bytes),
      skipStringBytes (fuel + 1) (octet '\\' :: text) =
          skipEscape text >>= skipStringBytes fuel := by
    intro fuel text
    rw [skipStringBytes, if_neg (by decide), if_pos rfl]
  have hpoint : ∀ {n : Nat} {digits : List Char} (tail : Bytes), SpellsPoint n digits →
      skipEscape (octet 'u' :: (encode digits ++ tail)) = .ok tail := by
    intro n digits tail hdigits
    rw [skipEscape, if_pos rfl, hexEscape_eq_ok_iff.mpr ⟨digits, hdigits, rfl⟩]
    rfl
  obtain ⟨fuel, rfl⟩ := Nat.exists_eq_succ_of_ne_zero (show fuel ≠ 0 by omega)
  rw [hstep]
  cases h with
  | @short letter _ escape =>
    obtain ⟨hletter, -⟩ := shortEscapes_ascii _ escape
    have hletterNe : octet letter ≠ octet 'u' := by
      have hall : ∀ e ∈ shortEscapes, octet e.1 ≠ octet 'u' := by decide
      exact hall _ escape
    rw [encode_cons_of_ascii hletter, List.cons_append, skipEscape, if_neg hletterNe,
      escaped?_eq_some_iff.mpr ⟨_, escape, rfl, rfl⟩, Option.isSome_some, if_pos rfl]
    exact hskip fuel (by omega)
  | point point =>
    rw [encode_cons_of_ascii (by decide), List.cons_append, hpoint _ point]
    exact hskip fuel (by omega)
  -- Skipping knows nothing of pairs: it takes the second half for another escape.
  | @pair _ _ _ digits digits' first second =>
    rw [encode_cons_of_ascii (by decide), encode_pair, List.length_cons, List.length_append,
      List.length_cons] at hfuel
    rw [encode_cons_of_ascii (by decide), encode_pair, List.cons_append, List.append_assoc,
      hpoint _ first]
    obtain ⟨fuel, rfl⟩ := Nat.exists_eq_succ_of_ne_zero (show fuel ≠ 0 by omega)
    refine (hstep fuel (octet 'u' :: (encode digits' ++ after))).trans ?_
    rw [hpoint _ second]
    exact hskip fuel (by omega)
  | half _ _ alone => cases alone

/-- What is read as a string is passed over as one. -/
lemma skipStringBytes_encode_append {cs text : List Char} (h : SpellsString .strict cs text)
    (rest : Bytes) :
    ∀ fuel, (encode text).length < fuel → skipStringBytes fuel (encode text ++ octet '"' :: rest) =
      .ok rest := by
  induction h with
  | nil =>
    intro fuel hfuel
    obtain ⟨fuel, rfl⟩ := Nat.exists_eq_add_of_lt hfuel
    rw [Utf8.encode_nil, List.nil_append, skipStringBytes, if_pos rfl]
  | @plain c cs text printable quote backslash _ ih =>
    intro fuel hfuel
    rw [Utf8.encode_cons, List.length_append] at hfuel
    obtain ⟨more, rfl⟩ :=
      Nat.exists_eq_add_of_le (show (String.utf8EncodeChar c).length ≤ fuel by omega)
    rw [Utf8.encode_cons, List.append_assoc,
      skipStringBytes_append (isPlain_utf8EncodeChar printable quote backslash)]
    exact ih more (by omega)
  | @escape c escape cs text first _ ih =>
    intro fuel hfuel
    rw [encode_cons_of_ascii (by decide), Utf8.encode_append, List.length_cons,
      List.length_append] at hfuel
    rw [encode_cons_of_ascii (by decide), Utf8.encode_append, List.cons_append, List.append_assoc]
    exact skipStringBytes_escape first ih (by omega)

/-- Bytes that can only follow within a character are not from an escape. -/
lemma stringBytes_further {fuel : Nat} {text further more : Bytes}
    (hfurther : ∀ b ∈ further, Utf8.IsFurther b)
    (h : stringBytes fuel text = .ok (further ++ more, rest)) :
    ∃ after fuel', fuel' ≤ fuel ∧ text = further ++ after ∧
      stringBytes fuel' after = .ok (more, rest) := by
  induction further generalizing fuel text with
  | nil => exact ⟨text, fuel, Nat.le_refl _, rfl, h⟩
  | cons x further ih =>
    obtain ⟨hx, hmore⟩ := List.forall_mem_cons.mp hfurther
    cases fuel with
    | zero => cases h
    | succ fuel =>
      cases text with
      | nil => cases h
      | cons b tail =>
        rw [stringBytes] at h
        split at h
        · cases h
        · split at h
          · simp only [bind_eq_ok_iff, Prod.exists] at h
            obtain ⟨bytes, after, hescape, _, _, -, h⟩ := h
            obtain ⟨c, escape, -, rfl, -⟩ := readEscape_eq_ok_iff.mp hescape
            -- An escape gives a whole character, which does not start with such a byte.
            obtain ⟨first, others, hc, hfirst, -⟩ := Utf8.exists_utf8EncodeChar c
            have hbytes := congrArg Prod.fst (Except.ok.inj h)
            rw [hc, List.cons_append, List.cons_append, List.cons.injEq] at hbytes
            rw [hbytes.1] at hfirst
            exact absurd hx hfirst
          · split at h
            · cases h
            · simp only [bind_eq_ok_iff, Prod.exists] at h
              obtain ⟨bytes, after, hread, h⟩ := h
              cases h
              obtain ⟨after', fuel', hle, rfl, hafter⟩ := ih hmore hread
              exact ⟨after', fuel', Nat.le_succ_of_le hle, rfl, hafter⟩

/-- A character is written without an escape if its first byte stands for itself. -/
lemma plain_of_isPlain {c : Char} {b : UInt8} {further : Bytes}
    (hc : String.utf8EncodeChar c = b :: further) (h : IsPlain b) :
    ' ' ≤ c ∧ c ≠ '"' ∧ c ≠ '\\' := by
  rcases Nat.lt_or_ge c.toNat 128 with hascii | hlarge
  · rw [Utf8.utf8EncodeChar_of_ascii hascii, List.cons.injEq] at hc
    obtain ⟨rfl, -⟩ := hc
    refine ⟨?_, ?_, ?_⟩
    · have hle := UInt8.not_lt.mp h.printable
      rw [UInt8.le_iff_toNat_le, toNat_octet hascii, toNat_octet (by decide)] at hle
      exact hle
    · rintro rfl
      exact h.quote rfl
    · rintro rfl
      exact h.backslash rfl
  · refine ⟨?_, ?_, ?_⟩
    · have hle : ' '.toNat ≤ c.toNat := le_trans (by decide) hlarge
      exact hle
    · rintro rfl
      exact absurd hlarge (by decide)
    · rintro rfl
      exact absurd hlarge (by decide)

/-- What is read as the bytes of a text is spelled by the characters up to the closing quote. -/
lemma exists_spellsString {fuel : Nat} {text : Bytes} {cs : List Char}
    (h : stringBytes fuel text = .ok (encode cs, rest)) :
    ∃ inner, SpellsString .strict cs inner ∧ text = encode inner ++ octet '"' :: rest := by
  -- A character that stands for itself is read byte by byte, so that the fuel goes down by the
  -- length of the character.
  induction fuel using Nat.strong_induction_on generalizing text cs with
  | _ fuel ih =>
    cases fuel with
    | zero => cases h
    | succ fuel =>
      cases text with
      | nil => cases h
      | cons b tail =>
        rw [stringBytes] at h
        split at h
        · next hquote =>
          obtain ⟨hnil, rfl⟩ := Prod.mk.inj (Except.ok.inj h)
          rw [eq_comm, encode_eq_nil_iff] at hnil
          subst hnil
          exact ⟨[], .nil, by rw [hquote]; rfl⟩
        · next hquote =>
          split at h
          · next hbackslash =>
            simp only [bind_eq_ok_iff, Prod.exists] at h
            obtain ⟨bytes, after, hescape, more, _, hread, h⟩ := h
            obtain ⟨hbytes, rfl⟩ := Prod.mk.inj (Except.ok.inj h)
            obtain ⟨c, escape, hspells, rfl, rfl⟩ := readEscape_eq_ok_iff.mp hescape
            cases cs with
            | nil =>
              obtain ⟨first, others, hc, -, -⟩ := Utf8.exists_utf8EncodeChar c
              rw [hc] at hbytes
              cases hbytes
            | cons d cs =>
              rw [Utf8.encode_cons] at hbytes
              -- The bytes of the escaped character are those of the first character of the string.
              obtain ⟨rfl, rfl⟩ := Utf8.utf8EncodeChar_append_inj hbytes
              obtain ⟨inner, hinner, rfl⟩ := ih fuel (Nat.lt_succ_self _) hread
              refine ⟨_, .escape hspells hinner, ?_⟩
              rw [encode_cons_of_ascii (by decide), Utf8.encode_append,
                hbackslash, List.cons_append, List.append_assoc]
          · next hbackslash =>
            split at h
            · cases h
            · next hprintable =>
              simp only [bind_eq_ok_iff, Prod.exists] at h
              obtain ⟨more, _, hread, h⟩ := h
              obtain ⟨hbytes, rfl⟩ := Prod.mk.inj (Except.ok.inj h)
              cases cs with
              | nil => cases hbytes
              | cons c cs =>
                obtain ⟨first, further, hc, -, hfurther⟩ := Utf8.exists_utf8EncodeChar c
                rw [Utf8.encode_cons, hc, List.cons_append, List.cons.injEq] at hbytes
                obtain ⟨rfl, rfl⟩ := hbytes
                obtain ⟨after, fuel', hle, rfl, hafter⟩ := stringBytes_further hfurther hread
                obtain ⟨inner, hinner, rfl⟩ := ih fuel' (Nat.lt_succ_of_le hle) hafter
                obtain ⟨hspace, hne, hne'⟩ := plain_of_isPlain hc ⟨hprintable, hquote, hbackslash⟩
                refine ⟨_, .plain hspace hne hne' hinner, ?_⟩
                rw [Utf8.encode_cons, hc, List.cons_append, List.cons_append, List.append_assoc]

/-- What is read as a string is spelled by the text up to the closing quote. -/
lemma readString_eq_ok {text : Bytes} {s : String} (h : readString text = .ok (s, rest)) :
    skipString text = .ok rest ∧
      ∃ inner, SpellsString .strict s.toList inner ∧ text = encode inner ++ octet '"' :: rest := by
  unfold readString at h
  simp only [bind_eq_ok_iff, Prod.exists] at h
  obtain ⟨bytes, after, hread, h⟩ := h
  split at h
  · next cs hdecode =>
    cases h
    rw [Utf8.decode?_eq_some_iff] at hdecode
    subst hdecode
    obtain ⟨inner, hinner, rfl⟩ := exists_spellsString hread
    rw [String.toList_ofList]
    refine ⟨skipStringBytes_encode_append hinner _ _ ?_, inner, hinner, rfl⟩
    rw [List.length_append, List.length_cons]
    omega
  · cases h

/-- A string that is spelled is read up to the closing quote. -/
lemma readString_encode_append {cs inner : List Char} (h : SpellsString .strict cs inner)
    (rest : Bytes) :
    readString (encode inner ++ octet '"' :: rest) = .ok (String.ofList cs, rest) := by
  have hlength : (encode inner).length < (encode inner ++ octet '"' :: rest).length := by
    rw [List.length_append, List.length_cons]
    omega
  unfold readString
  rw [stringBytes_encode_append h rest _ hlength, bind_eq_ok_iff]
  refine ⟨_, rfl, ?_⟩
  dsimp only
  rw [Utf8.decode?_eq_some_iff.mpr rfl]
  rfl

/-- A string that is spelled is skipped up to the closing quote. -/
lemma skipString_encode_append {cs inner : List Char} (h : SpellsString .strict cs inner)
    (rest : Bytes) :
    skipString (encode inner ++ octet '"' :: rest) = .ok rest :=
  skipStringBytes_encode_append h rest _ (by rw [List.length_append, List.length_cons]; omega)

end GraphqlClient.Json
