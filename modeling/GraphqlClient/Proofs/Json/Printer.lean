import GraphqlClient.Proofs.Json.Reader
import GraphqlClient.Proofs.Number.Decimal

/-!
# Printed values

The text that is printed for a value spells it (`Json.spells_chars`), so that the value is read back
from it (`Json.parse_text`).
-/

namespace GraphqlClient

/-! ### Digits -/

/-- A natural number is written with digits. -/
lemma isDigit_toDigits (n : Nat) : ∀ c ∈ Nat.toDigits 10 n, c.isDigit = true :=
  fun _ hc => Nat.isDigit_of_mem_toDigits (by decide) (by decide) hc

/-- No digits start with a zero but those of zero itself. -/
lemma head?_toDigits_ne_zero {n : Nat} (h : n ≠ 0) : (Nat.toDigits 10 n).head? ≠ some '0' := by
  induction n using Nat.strong_induction_on with
  | _ n ih =>
    rw [Nat.toDigits_eq_if (by decide)]
    split
    · next hlt =>
      rw [List.head?_cons, Ne, Option.some.injEq, Nat.digitChar_eq_zero]
      exact h
    · next hge =>
      have hquotient : n / 10 ≠ 0 := by omega
      rw [List.head?_append_of_ne_nil _ Nat.toDigits_ne_nil]
      exact ih (n / 10) (by omega) hquotient

namespace Json

open Utf8 (encode)

/-- The digits of a number can stand before a point, and so can all of them up to some place. -/
lemma length_take_toDigits {n k : Nat} (h : ((Nat.toDigits 10 n).take k).head? = some '0') :
    ((Nat.toDigits 10 n).take k).length = 1 := by
  have hk : k ≠ 0 := by
    rintro rfl
    cases h
  have hhead : (Nat.toDigits 10 n).head? = some '0' := by
    rwa [List.head?_take, if_neg hk] at h
  have hn : n = 0 := by
    by_contra hne
    exact head?_toDigits_ne_zero hne hhead
  rw [hn, Nat.toDigits_zero, List.length_take, List.length_singleton]
  omega

/-- The digits of an integer. -/
def Numeral.ofInt (i : Int) : Numeral where
  negative := i < 0
  whole := Nat.toDigits 10 i.natAbs
  fraction := []
  power? := none
  whole_ne_nil := Nat.toDigits_ne_nil
  isDigit_whole := isDigit_toDigits _
  length_whole h := by
    rw [← List.take_length (l := Nat.toDigits 10 i.natAbs)] at h ⊢
    exact length_take_toDigits h
  isDigit_fraction := nofun

/-- An integer is printed as a numeral that spells it. -/
lemma spellsNumber_ofInt {i : Int} (h : IsWord i) :
    SpellsNumber .strict (.integer i h) (Numeral.ofInt i) := by
  have hvalue : Nat.ofDigitChars 10 (Numeral.ofInt i).whole 0 = i.natAbs :=
    Nat.ofDigitChars_ten_toDigits
  refine .integer ⟨rfl, rfl, fun hnegative hzero => ?_⟩ ?_ h
  · have hlt : i < 0 := of_decide_eq_true hnegative
    have hzero' : i.natAbs = 0 := hvalue.symm.trans hzero
    omega
  · rw [Numeral.integer, hvalue]
    simp only [Numeral.ofInt, decide_eq_true_eq]
    split <;> omega

/-- The numeral of an integer is what the integer is printed as. -/
lemma chars_ofInt {i : Int} (h : IsWord i) :
    (Numeral.ofInt i).chars = Number.chars (.integer i h) := by
  unfold Numeral.chars Number.chars Numeral.ofInt Numeral.fractionChars
  simp only [decide_eq_true_eq, if_true, Option.map_none, Option.getD_none, List.append_nil]

/-- The exponent as it is printed. -/
def Power.ofInt (i : Int) : Power where
  mark := 'e'
  sign? := some (if i < 0 then '-' else '+')
  digits := Nat.toDigits 10 i.natAbs
  mark_eq := .inl rfl
  sign_eq c hc := by
    cases hc
    split
    · exact .inr rfl
    · exact .inl rfl
  digits_ne_nil := Nat.toDigits_ne_nil
  isDigit_digits := isDigit_toDigits _

/-- The exponent that is written for an integer has it as its value. -/
lemma Power.value_ofInt (i : Int) : (Power.ofInt i).value = i := by
  have hvalue : Nat.ofDigitChars 10 (Power.ofInt i).digits 0 = i.natAbs :=
    Nat.ofDigitChars_ten_toDigits
  have hsign : (Power.ofInt i).sign? = some '-' ↔ i < 0 := by
    unfold Power.ofInt
    dsimp only
    split
    · next h => exact ⟨fun _ => h, fun _ => rfl⟩
    · next h => exact ⟨fun heq => absurd (Option.some.inj heq) (by decide), fun hlt => absurd hlt h⟩
  unfold Power.value
  rw [hvalue]
  simp only [hsign]
  split <;> omega

/-- The exponent that is written for an integer has a sign in any case. -/
lemma Power.chars_ofInt (i : Int) :
    (Power.ofInt i).chars = 'e' :: (if i < 0 then '-' else '+') :: Nat.toDigits 10 i.natAbs := rfl

/-- A numeral that is no integer spells the number that the parts of its text write. -/
lemma exists_spellsNumber_real {x : Binary64} {d : Decimal} {whole fraction : List Char}
    {power? : Option Power}
    (chars : d.chars = whole ++
      (Numeral.fractionChars fraction ++ (power?.map Power.chars).getD []))
    (whole_ne_nil : whole ≠ []) (isDigit_whole : ∀ c ∈ whole, c.isDigit = true)
    (length_whole : whole.head? = some '0' → whole.length = 1)
    (isDigit_fraction : ∀ c ∈ fraction, c.isDigit = true) (real : fraction = [] → power? ≠ none)
    (nearest : Decimal.nearestRank ⟨Nat.ofDigitChars 10 (whole ++ fraction) 0,
      (power?.map Power.value).getD 0 - fraction.length⟩ = x.rank) :
    ∃ n : Numeral, SpellsNumber .strict (.real x) n ∧
      n.chars = (if x.negative then ['-'] else []) ++ d.chars := by
  refine ⟨⟨x.negative, whole, fraction, power?, whole_ne_nil, isDigit_whole, length_whole,
    isDigit_fraction⟩, ?_, ?_⟩
  · refine .real (fun hwritten => absurd hwritten.2.1 (real hwritten.1)) ?_
    have hlt : Decimal.nearestRank ⟨Nat.ofDigitChars 10 (whole ++ fraction) 0,
        (power?.map Power.value).getD 0 - fraction.length⟩ < Binary64.rankCount := by
      rw [nearest]
      exact x.rank_lt
    unfold Numeral.decimal Decimal.toBinary64?
    rw [dif_pos hlt]
    simp only [nearest]
  · rw [Numeral.chars, chars]

/-- Digits that are all zeros up to a place write what stands behind them. -/
lemma ofDigitChars_zeros_append (n : Nat) (digits : List Char) :
    Nat.ofDigitChars 10 (List.replicate n '0' ++ digits) 0 = Nat.ofDigitChars 10 digits 0 := by
  rw [Nat.ofDigitChars_append, Nat.ofDigitChars_replicate_zero, Nat.mul_zero]

section

variable {x : Binary64} {m : Nat} {e : Int}

/-- Where all digits stand before the point, zeros fill the places up to it. -/
lemma exists_spellsNumber_large (hzero : m = 0 → e = 0)
    (hrank : Decimal.nearestRank ⟨m, e⟩ = x.rank)
    (hplain : Decimal.isPlain (e + (Nat.toDigits 10 m).length - 1) = true) (hnonneg : 0 ≤ e) :
    ∃ n : Numeral, SpellsNumber .strict (.real x) n ∧
      n.chars = (if x.negative then ['-'] else []) ++ Decimal.chars ⟨m, e⟩ := by
  have hpos : 0 < (Nat.toDigits 10 m).length := Nat.length_toDigits_pos
  have hne : Nat.toDigits 10 m ≠ [] := Nat.toDigits_ne_nil
  have hzeros : ∀ n, ∀ c ∈ List.replicate n '0', c.isDigit = true := fun n c hc => by
    rw [(List.mem_replicate.mp hc).2]
    decide
  have hchars : Decimal.chars ⟨m, e⟩ = (Nat.toDigits 10 m ++ List.replicate e.toNat '0') ++
      (Numeral.fractionChars ['0'] ++ ((none : Option Power).map Power.chars).getD []) := by
    unfold Decimal.chars
    dsimp only
    rw [if_pos hplain, if_pos hnonneg]
    rfl
  simp only [Decimal.isPlain, Bool.and_eq_true, decide_eq_true_eq] at hplain
  refine exists_spellsNumber_real hchars (List.append_ne_nil_of_left_ne_nil hne _)
    (List.forall_mem_append.mpr ⟨isDigit_toDigits m, hzeros _⟩) ?_ (hzeros 1) nofun ?_
  -- Only zero starts with a zero, and then no zeros are put behind it.
  · intro hhead
    rw [List.head?_append_of_ne_nil _ hne] at hhead
    have hm : m = 0 := by
      by_contra hm
      exact head?_toDigits_ne_zero hm hhead
    rw [hm, hzero hm]
    rfl
  · have hvalue : Nat.ofDigitChars 10 (Nat.toDigits 10 m ++ List.replicate e.toNat '0' ++ ['0']) 0 =
        m * 10 ^ (e.toNat + 1) := by
      rw [List.append_assoc, ← List.replicate_succ', Nat.ofDigitChars_append,
        Nat.ofDigitChars_ten_toDigits, Nat.ofDigitChars_replicate_zero, Nat.mul_comm]
    -- The one digit after the point makes the digits ten times as large.
    have hshift : (((none : Option Power).map Power.value).getD 0 - ((['0'].length : Nat) : Int)) =
      -1 := rfl
    have hexponent : -1 + ((e.toNat + 1 : Nat) : Int) = e := by omega
    rw [hvalue, hshift, Decimal.nearestRank_mul_pow m _ (by omega), hexponent, hrank]

/-- Where the point stands between the digits, they write what they write without it. -/
lemma exists_spellsNumber_inside (hrank : Decimal.nearestRank ⟨m, e⟩ = x.rank)
    (hplain : Decimal.isPlain (e + (Nat.toDigits 10 m).length - 1) = true) (hneg : ¬0 ≤ e)
    (hinside : 0 ≤ e + (Nat.toDigits 10 m).length - 1) :
    ∃ n : Numeral, SpellsNumber .strict (.real x) n ∧
      n.chars = (if x.negative then ['-'] else []) ++ Decimal.chars ⟨m, e⟩ := by
  set place := (e + (Nat.toDigits 10 m).length - 1).toNat + 1 with hplace
  -- The exponent is negative, so that at least one digit is left behind the point.
  have hlt : place < (Nat.toDigits 10 m).length := by omega
  have hfraction : (Nat.toDigits 10 m).drop place ≠ [] := by
    rw [Ne, List.drop_eq_nil_iff]
    omega
  have hchars : Decimal.chars ⟨m, e⟩ = (Nat.toDigits 10 m).take place ++
      (Numeral.fractionChars ((Nat.toDigits 10 m).drop place) ++
          ((none : Option Power).map Power.chars).getD []) := by
    unfold Decimal.chars
    dsimp only
    rw [if_pos hplain, if_neg hneg, if_pos hinside, Numeral.fractionChars, if_neg hfraction,
      Option.map_none, Option.getD_none, List.append_nil]
  refine exists_spellsNumber_real hchars ?_
    (fun c hc => isDigit_toDigits m c (List.mem_of_mem_take hc))
    length_take_toDigits (fun c hc => isDigit_toDigits m c (List.mem_of_mem_drop hc))
    (fun hnil => absurd hnil hfraction) ?_
  · rw [Ne, List.take_eq_nil_iff, not_or]
    exact ⟨by omega, Nat.toDigits_ne_nil⟩
  · have hexponent : (((none : Option Power).map Power.value).getD 0 -
        (((Nat.toDigits 10 m).drop place).length : Int)) = e := by
      rw [Option.map_none, Option.getD_none, List.length_drop]
      omega
    rw [List.take_append_drop, Nat.ofDigitChars_ten_toDigits, hexponent, hrank]

/-- Where all digits stand behind the point, zeros fill the places after it. -/
lemma exists_spellsNumber_small (hrank : Decimal.nearestRank ⟨m, e⟩ = x.rank)
    (hplain : Decimal.isPlain (e + (Nat.toDigits 10 m).length - 1) = true) (hneg : ¬0 ≤ e)
    (hinside : ¬0 ≤ e + (Nat.toDigits 10 m).length - 1) :
    ∃ n : Numeral, SpellsNumber .strict (.real x) n ∧
      n.chars = (if x.negative then ['-'] else []) ++ Decimal.chars ⟨m, e⟩ := by
  set zeros := (-(e + (Nat.toDigits 10 m).length - 1) - 1).toNat with hzeros
  have hfraction : List.replicate zeros '0' ++ Nat.toDigits 10 m ≠ [] :=
    List.append_ne_nil_of_right_ne_nil _ Nat.toDigits_ne_nil
  have hchars : Decimal.chars ⟨m, e⟩ =
      ['0'] ++ (Numeral.fractionChars (List.replicate zeros '0' ++ Nat.toDigits 10 m) ++
      ((none : Option Power).map Power.chars).getD []) := by
    unfold Decimal.chars
    dsimp only
    rw [if_pos hplain, if_neg hneg, if_neg hinside, Numeral.fractionChars, if_neg hfraction,
      Option.map_none, Option.getD_none, List.append_nil]
    rfl
  refine exists_spellsNumber_real hchars (List.cons_ne_nil _ _) (List.forall_mem_singleton.mpr rfl)
    (fun _ => rfl)
    (List.forall_mem_append.mpr ⟨fun c hc => ?_, isDigit_toDigits m⟩)
      (fun hnil => absurd hnil hfraction) ?_
  · rw [(List.mem_replicate.mp hc).2]
    decide
  · have hexponent : (((none : Option Power).map Power.value).getD 0 -
        ((List.replicate zeros '0' ++ Nat.toDigits 10 m).length : Int)) = e := by
      rw [Option.map_none, Option.getD_none, List.length_append, List.length_replicate]
      omega
    have hvalue : Nat.ofDigitChars 10 (['0'] ++ (List.replicate zeros '0' ++ Nat.toDigits 10 m))
        0 = m := by
      rw [← List.append_assoc, ← List.replicate_one, ← List.replicate_add,
        ofDigitChars_zeros_append, Nat.ofDigitChars_ten_toDigits]
    rw [hvalue, hexponent, hrank]

/-- Where there is an exponent, it is that of the first digit. -/
lemma exists_spellsNumber_power (hrank : Decimal.nearestRank ⟨m, e⟩ = x.rank)
    (hplain : ¬Decimal.isPlain (e + (Nat.toDigits 10 m).length - 1) = true) :
    ∃ n : Numeral, SpellsNumber .strict (.real x) n ∧
      n.chars = (if x.negative then ['-'] else []) ++ Decimal.chars ⟨m, e⟩ := by
  set power := Power.ofInt (e + (Nat.toDigits 10 m).length - 1) with hpower
  obtain ⟨first, others, hsplit⟩ := List.exists_cons_of_ne_nil (@Nat.toDigits_ne_nil m 10)
  have hdigits := isDigit_toDigits m
  rw [hsplit, List.forall_mem_cons] at hdigits
  have hchars : Decimal.chars ⟨m, e⟩ =
      [first] ++ (Numeral.fractionChars others ++ ((some power).map Power.chars).getD []) := by
    unfold Decimal.chars
    dsimp only
    rw [if_neg hplain, Option.map_some, Option.getD_some, hpower, Power.chars_ofInt, hsplit]
    cases others <;> rfl
  refine exists_spellsNumber_real hchars (by simp) (List.forall_mem_singleton.mpr hdigits.1)
    (fun _ => rfl) hdigits.2
    (fun _ => nofun) ?_
  have hexponent : (((some power).map Power.value).getD 0 - (others.length : Int)) = e := by
    rw [Option.map_some, Option.getD_some, hpower, Power.value_ofInt, hsplit, List.length_cons]
    omega
  rw [List.singleton_append, ← hsplit, Nat.ofDigitChars_ten_toDigits, hexponent, hrank]

end

/-- Every number is printed as a numeral that spells it. -/
lemma exists_spellsNumber (v : Number) :
    ∃ n : Numeral, SpellsNumber .strict v n ∧ n.chars = v.chars := by
  cases v with
  | integer i h => exact ⟨Numeral.ofInt i, spellsNumber_ofInt h, chars_ofInt h⟩
  | real x =>
    have hrank : (Binary64.shortestDecimal x.rank).nearestRank = x.rank :=
      Binary64.nearestRank_shortestDecimal x.rank_lt
    have hzero : (Binary64.shortestDecimal x.rank).digits = 0 →
        (Binary64.shortestDecimal x.rank).exponent = 0 := by
      intro hdigits
      rcases eq_or_ne x.rank 0 with hrank | hne
      · rw [hrank]
        rfl
      · exact absurd hdigits (Binary64.digits_shortestDecimal_ne_zero x.rank_lt hne)
    unfold Number.chars Binary64.chars
    dsimp only
    generalize Binary64.shortestDecimal x.rank = d at hrank hzero
    obtain ⟨m, e⟩ := d
    by_cases hplain : Decimal.isPlain (e + (Nat.toDigits 10 m).length - 1) = true
    · by_cases hnonneg : 0 ≤ e
      · exact exists_spellsNumber_large hzero hrank hplain hnonneg
      · by_cases hinside : 0 ≤ e + (Nat.toDigits 10 m).length - 1
        · exact exists_spellsNumber_inside hrank hplain hnonneg hinside
        · exact exists_spellsNumber_small hrank hplain hnonneg hinside
    · exact exists_spellsNumber_power hrank hplain

/-! ### Strings -/

/-- A control character is printed as its code point in four digits. -/
lemma spellsPoint_control {c : Char} (h : c < ' ') :
    SpellsPoint c.toNat ['0', '0', CodePoint.hexDigit 'a' (c.toNat / 16),
      CodePoint.hexDigit 'a' (c.toNat % 16)] := by
  have hlt : c.toNat < 32 := UInt32.lt_iff_toNat_lt.mp h
  have hall : ∀ n : Fin 32, CodePoint.hexNumber?
      ['0', '0', CodePoint.hexDigit 'a' (n.val / 16), CodePoint.hexDigit 'a' (n.val % 16)] =
          some n.val := by
    decide +kernel
  exact ⟨rfl, hall ⟨c.toNat, hlt⟩⟩

/-- A character is printed as a short escape, as its code point, or as itself. -/
lemma spellsString_escape {d : Dialect} {cs text : List Char} (c : Char)
    (more : SpellsString d cs text) :
    SpellsString d (c :: cs) (escape c ++ text) := by
  have hshort : ∀ {letter : Char}, (letter, c) ∈ shortEscapes →
      SpellsString d (c :: cs) (['\\', letter] ++ text) :=
    fun hescape => .escape (.short hescape) more
  unfold escape
  split
  · exact hshort (by decide)
  · exact hshort (by decide)
  · exact hshort (by decide)
  · exact hshort (by decide)
  · exact hshort (by decide)
  · exact hshort (by decide)
  · exact hshort (by decide)
  · next hquote hbackslash _ _ _ _ _ =>
    split
    · next hcontrol => exact .escape (.point (spellsPoint_control hcontrol)) more
    · next hprintable => exact .plain (Char.not_lt.mp hprintable) hquote hbackslash more

/-- Escaping each character spells the string. -/
lemma spellsString_flatMap_escape (d : Dialect) (cs : List Char) :
    SpellsString d cs (cs.flatMap escape) := by
  induction cs with
  | nil => exact .nil
  | cons c cs ih =>
    rw [List.flatMap_cons]
    exact spellsString_escape c ih

/-! ### Values -/

/-- A value without blanks around it. -/
lemma Spells.element {d : Dialect} {v : Json} {text : List Char} (h : Spells d v text) :
    SpellsElement d v text := by
  have hpadded := SpellsElement.padded (fun _ hc => nomatch hc : IsBlanks [])
    h (fun _ hc => nomatch hc : IsBlanks [])
  rwa [List.nil_append, List.append_nil] at hpadded

/-- A member is spelled by its key, a colon and its value, with no blanks. -/
lemma SpellsMember.compact {d : Dialect} {v : Json} {text : List Char} (key : String)
    (h : Spells d v text) :
    SpellsMember d (key, v) (stringChars key ++ ':' :: text) := by
  have hentry := SpellsMember.entry (fun _ hc => nomatch hc : IsBlanks [])
    (spellsString_flatMap_escape d key.toList) (fun _ hc => nomatch hc : IsBlanks []) h.element
  rw [String.ofList_toList, List.nil_append, List.nil_append] at hentry
  rw [stringChars, List.cons_append, List.cons_append, List.append_assoc]
  exact hentry

/-- The items of an array are printed with commas between them, up to the closing bracket. -/
lemma exists_spellsItems_chars {items : List Json} (item : Json)
    (h : Spells .strict item item.chars) (hitems : ∀ v ∈ items, Spells .strict v v.chars) :
    ∃ text, SpellsItems .strict (item :: items) text ∧
      item.chars ++ itemsChars items = text ++ [']'] := by
  induction items generalizing item with
  | nil => exact ⟨item.chars, .one h.element, rfl⟩
  | cons next items ih =>
    obtain ⟨hnext, hrest⟩ := List.forall_mem_cons.mp hitems
    obtain ⟨text, hspells, htext⟩ := ih next hnext hrest
    refine ⟨item.chars ++ ',' :: text, .more h.element hspells, ?_⟩
    rw [itemsChars, htext, List.append_assoc]
    rfl

/-- The members of an object are spelled by what they are printed as. -/
lemma exists_spellsMembers_chars {entries : Entries Json} (entry : String × Json)
    (h : Spells .strict entry.2 entry.2.chars)
    (hentries : ∀ e ∈ entries, Spells .strict e.2 e.2.chars) :
    ∃ text, SpellsMembers .strict (entry :: entries) text ∧
      stringChars entry.1 ++ ':' :: (entry.2.chars ++ entriesChars entries) = text ++ ['\x7d'] := by
  induction entries generalizing entry with
  | nil =>
    refine ⟨stringChars entry.1 ++ ':' :: entry.2.chars, .one (.compact entry.1 h), ?_⟩
    rw [entriesChars, List.append_assoc]
    rfl
  | cons next entries ih =>
    obtain ⟨hnext, hrest⟩ := List.forall_mem_cons.mp hentries
    obtain ⟨text, hspells, htext⟩ := ih next hnext hrest
    refine ⟨(stringChars entry.1 ++ ':' :: entry.2.chars) ++ ',' :: text, .more (.compact entry.1 h)
      hspells, ?_⟩
    rw [entriesChars, htext]
    simp only [List.append_assoc, List.cons_append]

/-- What is printed for a value spells it. -/
theorem spells_chars (v : Json) : Spells .strict v v.chars := by
  induction v using induction with
  | null => exact .nullWord
  | boolean b =>
    cases b with
    | true => exact .trueWord
    | false => exact .falseWord
  | number n =>
    obtain ⟨numeral, hspells, hchars⟩ := exists_spellsNumber n
    rw [chars, ← hchars]
    exact .number hspells
  | string s =>
    have hstring := Spells.string (spellsString_flatMap_escape .strict s.toList)
    rwa [String.ofList_toList] at hstring
  | array items ih =>
    cases items with
    | nil => exact .emptyArray (fun _ hc => nomatch hc : IsBlanks [])
    | cons item items =>
      obtain ⟨hitem, hitems⟩ := List.forall_mem_cons.mp ih
      obtain ⟨text, hspells, htext⟩ := exists_spellsItems_chars item hitem hitems
      rw [chars, htext]
      exact .array hspells
  | object entries ih =>
    cases entries with
    | nil => exact .emptyObject (fun _ hc => nomatch hc : IsBlanks [])
    | cons entry entries =>
      obtain ⟨hentry, hentries⟩ := List.forall_mem_cons.mp ih
      obtain ⟨text, hspells, htext⟩ := exists_spellsMembers_chars entry hentry hentries
      rw [chars, htext]
      exact .object hspells

/-- A value is read back from its text, if its objects have distinct keys and it nests no deeper
than is allowed. -/
theorem parse_text {v : Json} (hkeys : v.DistinctKeys) (hdepth : v.depth ≤ Located.nestingLimit) :
    parse (bytesOf v.text) = .ok v := by
  rw [parse_eq_ok_iff]
  refine ⟨v.chars, v, ?_, (spells_chars v).element, hdepth, collapsed_eq_self hkeys⟩
  rw [bytesOf, text, String.toList_ofList]

end Json

end GraphqlClient
