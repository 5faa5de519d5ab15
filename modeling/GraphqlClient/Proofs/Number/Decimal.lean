import GraphqlClient.Number.Decimal
import Mathlib

/-!
# Decimal numbers that read back

Reading a decimal number does not depend on how many zeros stand at the end of its digits
(`Decimal.nearestRank_mul_pow`), it works out for the numbers below 2^1024 - 2^970 and no others
(`Decimal.exists_toBinary64?_iff`), and the decimal number that is chosen to write a binary one
reads back as it (`Binary64.nearestRank_shortestDecimal`).
-/

namespace GraphqlClient

/-! ### Rounding fractions -/

namespace Binary64

/-- Rounding does not depend on how a quotient is written as a fraction. -/
lemma roundDiv_mul_right {c : Nat} (hc : 0 < c) (dividend divisor : Nat) :
    roundDiv (dividend * c) (divisor * c) = roundDiv dividend divisor := by
  have hquotient : dividend * c / (divisor * c) = dividend / divisor := Nat.mul_div_mul_right _ _ hc
  have htwice : 2 * (dividend * c % (divisor * c)) = 2 * (dividend % divisor) * c := by
    rw [Nat.mul_mod_mul_right, Nat.mul_assoc]
  unfold roundDiv
  simp only [hquotient, htwice, Nat.mul_lt_mul_right hc]

/-- The nearest magnitude does not depend on how a quotient is written as a fraction. -/
lemma nearestRank_mul_right {c : Nat} (hc : 0 < c) (dividend divisor : Nat) :
    nearestRank (dividend * c) (divisor * c) = nearestRank dividend divisor := by
  have hquotient : dividend * c / (divisor * c) = dividend / divisor := Nat.mul_div_mul_right _ _ hc
  have hshift : ∀ k, (divisor * c) <<< k = (divisor <<< k) * c := by
    intro k
    rw [Nat.shiftLeft_eq, Nat.shiftLeft_eq, Nat.mul_right_comm]
  unfold nearestRank
  simp only [hquotient, hshift, roundDiv_mul_right hc]

/-- Rounding goes down to the quotient at most. -/
lemma div_le_roundDiv (dividend divisor : Nat) :
    dividend / divisor ≤ roundDiv dividend divisor := by
  unfold roundDiv
  dsimp only
  split
  · exact Nat.le_refl _
  · split <;> omega

/-- The rank tells at least how often a fraction can be halved. -/
lemma mul_binade_le_nearestRank {n dividend divisor : Nat} (h : 2 ^ (n + 52) ≤ dividend / divisor) :
    (n + 1) * binade ≤ nearestRank dividend divisor := by
  have hpositive : dividend / divisor ≠ 0 := (lt_of_lt_of_le (Nat.two_pow_pos _) h).ne'
  have hlog : n + 52 ≤ (dividend / divisor).log2 := (Nat.le_log2 hpositive).mpr h
  have hself : 2 ^ (dividend / divisor).log2 ≤ dividend / divisor := Nat.log2_self_le hpositive
  set doublings := (dividend / divisor).log2 - 52 with hdoublings
  have hround : binade ≤ roundDiv dividend (divisor <<< doublings) := by
    refine le_trans ?_ (div_le_roundDiv _ _)
    rw [Nat.shiftLeft_eq, ← Nat.div_div_eq_div_mul, Nat.le_div_iff_mul_le (Nat.two_pow_pos _)]
    calc binade * 2 ^ doublings = 2 ^ 52 * 2 ^ doublings := rfl
      _ = 2 ^ (dividend / divisor).log2 := by rw [← Nat.pow_add]; congr 1; omega
      _ ≤ dividend / divisor := hself
  have hrank : nearestRank dividend divisor =
      doublings * binade + roundDiv dividend (divisor <<< doublings) := rfl
  have hmul : n * binade ≤ doublings * binade := Nat.mul_le_mul_right _ (by omega)
  rw [Nat.add_mul, Nat.one_mul, hrank]
  exact Nat.add_le_add hmul hround

/-- Rounding goes up to the number after the quotient at most. -/
lemma roundDiv_le_succ (dividend divisor : Nat) :
    roundDiv dividend divisor ≤ dividend / divisor + 1 := by
  unfold roundDiv
  dsimp only
  split
  · exact Nat.le_succ _
  · split <;> omega

/-- What is rounded to an odd number or less lies below the middle between that and the next, which
is even. -/
lemma roundDiv_le_iff {k : Nat} (hk : k % 2 = 1) {divisor : Nat} (hdivisor : 0 < divisor)
    (dividend : Nat) :
    roundDiv dividend divisor ≤ k ↔ 2 * dividend < (2 * k + 1) * divisor := by
  have hsplit := Nat.div_add_mod dividend divisor
  have hmod := Nat.mod_lt dividend hdivisor
  have hmiddle : (2 * k + 1) * divisor = 2 * (divisor * k) + divisor := by ring
  rcases Nat.lt_trichotomy (dividend / divisor) k with hlt | heq | hgt
  · have hround := roundDiv_le_succ dividend divisor
    have hmul : divisor * (dividend / divisor + 1) ≤ divisor * k := Nat.mul_le_mul_left divisor hlt
    rw [Nat.mul_add, Nat.mul_one] at hmul
    omega
  · rw [heq] at hsplit
    unfold roundDiv
    simp only [heq]
    split
    · omega
    · split <;> omega
  · have hround := div_le_roundDiv dividend divisor
    have hmul : divisor * (k + 1) ≤ divisor * (dividend / divisor) :=
      Nat.mul_le_mul_left divisor hgt
    rw [Nat.mul_add, Nat.mul_one] at hmul
    omega

/-- The magnitudes of one binade are the multiples of one distance. -/
lemma nearestRank_of_binade {n dividend divisor : Nat} (hlow : 2 ^ (n + 52) ≤ dividend / divisor)
    (hhigh : dividend / divisor < 2 ^ (n + 53)) :
    nearestRank dividend divisor = n * binade + roundDiv dividend (divisor * 2 ^ n) := by
  have hlog : (dividend / divisor).log2 = n + 52 := by
    have hne : dividend / divisor ≠ 0 := (lt_of_lt_of_le (Nat.two_pow_pos _) hlow).ne'
    have hge := (Nat.le_log2 hne).mpr hlow
    have hlt := (Nat.log2_lt hne).mpr hhigh
    omega
  have hdoublings : (dividend / divisor).log2 - 52 = n := by omega
  unfold nearestRank
  simp only [hdoublings, Nat.shiftLeft_eq]

/-- The rank tells at most how often a fraction can be halved. -/
lemma nearestRank_le_mul_binade {n dividend divisor : Nat} (h : dividend / divisor < 2 ^ (n + 53)) :
    nearestRank dividend divisor ≤ (n + 2) * binade := by
  set doublings := (dividend / divisor).log2 - 52 with hdoublings
  have hle : doublings ≤ n := by
    rcases Nat.eq_zero_or_pos (dividend / divisor) with hzero | hpos
    · rw [hdoublings, hzero, Nat.log2_zero]
      omega
    · have hlt := (Nat.log2_lt hpos.ne').mpr h
      omega
  have hself : dividend / divisor < 2 ^ (doublings + 53) :=
    lt_of_lt_of_le Nat.lt_log2_self (Nat.pow_le_pow_right (by decide) (by omega))
  have hquotient : dividend / (divisor <<< doublings) < 2 ^ 53 := by
    rw [Nat.shiftLeft_eq, ← Nat.div_div_eq_div_mul, Nat.div_lt_iff_lt_mul (Nat.two_pow_pos _),
      ← Nat.pow_add, Nat.add_comm 53]
    exact hself
  have hround : roundDiv dividend (divisor <<< doublings) ≤ 2 * binade :=
    le_trans (roundDiv_le_succ _ _) hquotient
  have hmul : doublings * binade ≤ n * binade := Nat.mul_le_mul_right _ hle
  have hrank : nearestRank dividend divisor =
    doublings * binade + roundDiv dividend (divisor <<< doublings) := rfl
  rw [hrank, Nat.add_mul]
  exact Nat.add_le_add hmul hround

/-- A fraction of units is nearest to a magnitude before the end of a binade exactly if it is below
the middle between the last of them and the next. -/
lemma nearestRank_lt_iff (n : Nat) {divisor : Nat} (hdivisor : 0 < divisor) (dividend : Nat) :
    nearestRank dividend divisor < (n + 3) * binade ↔
      dividend < (2 ^ 54 - 1) * 2 ^ n * divisor := by
  have hbinades : (n + 3) * binade = (n + 1) * binade + 2 ^ 53 := by
    have hpow : 2 ^ 53 = 2 * binade := by decide
    rw [hpow, ← Nat.add_mul]
  have hsplit := Nat.div_add_mod dividend divisor
  have hmod := Nat.mod_lt dividend hdivisor
  have hpos : 0 < 2 ^ n * divisor := Nat.mul_pos (Nat.two_pow_pos n) hdivisor
  have hscale : ∀ k, 2 ^ (n + k) * divisor = 2 ^ k * (2 ^ n * divisor) := by
    intro k
    rw [Nat.pow_add, Nat.mul_comm (2 ^ n), Nat.mul_assoc]
  rw [Nat.mul_assoc]
  -- Before the last binade there is room in any case, behind it there is none; only within it does
  -- the rounding decide.
  rcases Nat.lt_or_ge (dividend / divisor) (2 ^ (n + 53)) with hsmall | hlow
  · have hrank : nearestRank dividend divisor < (n + 3) * binade :=
      lt_of_le_of_lt (nearestRank_le_mul_binade hsmall)
        (Nat.mul_lt_mul_of_pos_right (Nat.lt_succ_self _) (by decide))
    have hvalue := (Nat.div_lt_iff_lt_mul hdivisor).mp hsmall
    rw [hscale] at hvalue
    refine iff_of_true hrank ?_
    omega
  · rcases Nat.lt_or_ge (dividend / divisor) (2 ^ (n + 54)) with hhigh | hlarge
    · have hround := roundDiv_le_iff (k := 2 ^ 53 - 1) (by decide)
        (Nat.mul_pos hdivisor (Nat.two_pow_pos (n + 1))) dividend
      have hdistance : divisor * 2 ^ (n + 1) = 2 * (2 ^ n * divisor) := by
        rw [Nat.mul_comm, hscale, Nat.pow_one]
      rw [nearestRank_of_binade (n := n + 1) hlow hhigh, hbinades, Nat.add_lt_add_iff_left]
      rw [hdistance] at hround ⊢
      omega
    · have hrank : (n + 3) * binade ≤ nearestRank dividend divisor :=
        mul_binade_le_nearestRank (n := n + 2) hlarge
      have hvalue := (Nat.le_div_iff_mul_le hdivisor).mp hlarge
      rw [hscale] at hvalue
      refine iff_of_false (Nat.not_lt.mpr hrank) ?_
      omega

/-- The magnitude of a rank is nearest to itself. -/
lemma nearestRank_units (rank : Nat) : nearestRank (units rank) 1 = rank := by
  set doublings := rank / binade - 1 with hdoublings
  have hunits : units rank = (rank - doublings * binade) * 2 ^ doublings := by
    rw [units, Nat.shiftLeft_eq]
  have hdiv := Nat.div_add_mod rank binade
  have hmod := Nat.mod_lt rank (show 0 < binade by decide)
  -- How often the units were doubled can be told from how many binary digits they have.
  have hlog : (units rank / 1).log2 - 52 = doublings := by
    rw [Nat.div_one]
    rcases Nat.lt_or_ge rank binade with hsmall | hlarge
    · -- Below the first doubling the units are the rank itself.
      have hzero : doublings = 0 := by
        rw [hdoublings, Nat.div_eq_of_lt hsmall]
      have hself : units rank = rank := by
        rw [hunits, hzero]
        simp
      rw [hself, hzero, Nat.sub_eq_zero_iff_le]
      rcases Nat.eq_zero_or_pos rank with rfl | hpos
      · simp
      · exact Nat.le_of_lt_succ ((Nat.log2_lt hpos.ne').mpr (lt_trans hsmall (by decide)))
    · have hone : 1 ≤ rank / binade := (Nat.one_le_div_iff (by decide)).mpr hlarge
      have hnext : doublings + 1 = rank / binade := by omega
      have hsplit : rank = doublings * binade + binade + rank % binade := by
        rw [← Nat.succ_mul, Nat.succ_eq_add_one, hnext, Nat.mul_comm]
        exact hdiv.symm
      have hlower : binade ≤ rank - doublings * binade := by omega
      have hupper : rank - doublings * binade < 2 * binade := by omega
      have hlower' : 2 ^ (52 + doublings) ≤ units rank := by
        rw [hunits, Nat.pow_add]
        exact Nat.mul_le_mul_right _ hlower
      have hupper' : units rank < 2 ^ (52 + doublings + 1) := by
        rw [hunits, Nat.pow_succ, Nat.pow_add, Nat.mul_right_comm]
        refine Nat.mul_lt_mul_of_pos_right (lt_of_lt_of_eq hupper ?_) (Nat.two_pow_pos _)
        rfl
      have hne : units rank ≠ 0 := by
        have hpow := Nat.two_pow_pos (52 + doublings)
        omega
      have hge := (Nat.le_log2 hne).mpr hlower'
      have hlt := (Nat.log2_lt hne).mpr hupper'
      omega
  have hround : roundDiv (units rank) (1 <<< doublings) = rank - doublings * binade := by
    have hpow : 0 < 2 ^ doublings := Nat.two_pow_pos _
    have hscale := roundDiv_mul_right hpow (rank - doublings * binade) 1
    rw [hunits, Nat.one_shiftLeft, ← Nat.one_mul (2 ^ doublings), ← Nat.mul_assoc,
      Nat.mul_one, hscale]
    simp [roundDiv, Nat.mod_one]
  have hle : doublings * binade ≤ rank := by
    calc doublings * binade ≤ rank / binade * binade := Nat.mul_le_mul_right _ (Nat.sub_le _ _)
      _ ≤ rank := Nat.div_mul_le_self rank binade
  unfold nearestRank
  simp only [hlog, hround]
  omega

end Binary64

/-! ### Numbers that can be represented -/

namespace Decimal

/-- A number is less than the power of ten with as many zeros as it has digits. -/
lemma digits_lt (d : Decimal) : d.digits < 10 ^ digitCount d.digits := by
  have hpos : 0 < digitCount d.digits := List.length_pos_iff.mpr Nat.toDigits_ne_nil
  exact (Nat.length_toDigits_le_iff (by decide) hpos).mp (Nat.le_refl _)

/-- The fraction of units is the magnitude over 2^-1074. -/
lemma unitFraction_eq (d : Decimal) :
    0 < d.unitFraction.2 ∧
      (d.unitFraction.1 : ℚ) = d.digits * 10 ^ d.exponent * 2 ^ 1074 * d.unitFraction.2 := by
  unfold unitFraction
  split
  · next h =>
    obtain ⟨n, hn⟩ := Int.eq_ofNat_of_zero_le h
    refine ⟨Nat.one_pos, ?_⟩
    rw [hn, Int.toNat_natCast, Nat.shiftLeft_eq, zpow_natCast, Nat.pow_eq]
    simp only [Nat.cast_mul, Nat.cast_pow, Nat.cast_ofNat, Nat.cast_one, mul_one]
  · next h =>
    obtain ⟨n, hn⟩ := Int.eq_ofNat_of_zero_le (show 0 ≤ -d.exponent by omega)
    have hexponent : d.exponent = -n := by omega
    have hcancel : (10 : ℚ) ^ (-(n : ℤ)) * 10 ^ n = 1 := by
      rw [zpow_neg, zpow_natCast]
      exact inv_mul_cancel₀ (by positivity)
    refine ⟨Nat.pow_pos (by decide), ?_⟩
    rw [hexponent, Int.neg_neg, Int.toNat_natCast, Nat.shiftLeft_eq, Nat.pow_eq]
    simp only [Nat.cast_mul, Nat.cast_pow, Nat.cast_ofNat]
    rw [mul_right_comm, mul_assoc _ _ ((10 : ℚ) ^ n), hcancel, mul_one]

/-- Powers of ten from 10^311 on are beyond all finite magnitudes. -/
lemma bound_le_pow {e : Int} (h : 310 < e) : (2 : ℚ) ^ 1024 - 2 ^ 970 ≤ 10 ^ e := by
  have hnat : (2 : ℕ) ^ 1024 ≤ 10 ^ 311 := by decide +kernel
  have hpow := (Nat.cast_le (α := ℚ)).mpr hnat
  rw [Nat.cast_pow, Nat.cast_pow, Nat.cast_ofNat, Nat.cast_ofNat, ← zpow_natCast 10] at hpow
  calc (2 : ℚ) ^ 1024 - 2 ^ 970 ≤ 2 ^ 1024 := sub_le_self _ (by positivity)
    _ ≤ 10 ^ ((311 : ℕ) : ℤ) := hpow
    _ ≤ 10 ^ e := zpow_le_zpow_right₀ (by norm_num) (by omega)

/-- The finite numbers take in all decimal numbers below 2^1024 - 2^970. -/
theorem nearestRank_lt_rankCount_iff (d : Decimal) :
    d.nearestRank < Binary64.rankCount ↔ (d.digits : ℚ) * 10 ^ d.exponent < 2 ^ 1024 - 2 ^ 970 := by
  have hbound : (2 : ℚ) ^ 1024 - 2 ^ 970 = (2 ^ 54 - 1) * 2 ^ 970 := by
    rw [sub_mul, one_mul, ← pow_add]
  have hone : (1 : ℚ) ≤ 2 ^ 1024 - 2 ^ 970 := by
    rw [hbound]
    exact one_le_mul_of_one_le_of_one_le (by norm_num) (one_le_pow₀ (by norm_num))
  unfold nearestRank
  split
  · next hzero =>
    refine iff_of_true (by decide) ?_
    rw [hzero, Nat.cast_zero, zero_mul]
    exact lt_of_lt_of_le one_pos hone
  · next hne =>
    have hdigits : (1 : ℚ) ≤ d.digits := Nat.one_le_cast.mpr (Nat.one_le_iff_ne_zero.mpr hne)
    split
    · next hlarge =>
      refine iff_of_false (lt_irrefl _) (not_lt.mpr ?_)
      calc (2 : ℚ) ^ 1024 - 2 ^ 970 ≤ 10 ^ d.exponent := bound_le_pow hlarge
        _ ≤ d.digits * 10 ^ d.exponent := le_mul_of_one_le_left (by positivity) hdigits
    · split
      · next hsmall =>
        have hlt : (d.digits : ℚ) < 10 ^ (digitCount d.digits : ℤ) := by
          rw [zpow_natCast]
          exact_mod_cast d.digits_lt
        refine iff_of_true (by decide) ?_
        calc (d.digits : ℚ) * 10 ^ d.exponent < 10 ^ (digitCount d.digits : ℤ) * 10 ^ d.exponent :=
              mul_lt_mul_of_pos_right hlt (by positivity)
          _ = 10 ^ ((digitCount d.digits : ℤ) + d.exponent) := (zpow_add₀ (by norm_num) _ _).symm
          _ ≤ 1 := zpow_le_one_of_nonpos₀ (by norm_num) (by omega)
          _ ≤ 2 ^ 1024 - 2 ^ 970 := hone
      · obtain ⟨hdivisor, hfraction⟩ := d.unitFraction_eq
        have hcount : Binary64.rankCount = (2044 + 3) * Binary64.binade := rfl
        have hscale : (0 : ℚ) < 2 ^ 1074 * d.unitFraction.2 :=
          mul_pos (by positivity) (Nat.cast_pos.mpr hdivisor)
        have hunits : (((2 ^ 54 - 1) * 2 ^ 2044 * d.unitFraction.2 : ℕ) : ℚ) =
            (2 ^ 54 - 1) * 2 ^ 970 * (2 ^ 1074 * d.unitFraction.2) := by
          have hsum : (2 : ℚ) ^ 2044 = 2 ^ 970 * 2 ^ 1074 := by rw [← pow_add]
          have hodd : ((2 ^ 54 - 1 : ℕ) : ℚ) = 2 ^ 54 - 1 := by norm_num
          rw [Nat.cast_mul, Nat.cast_mul, hodd, Nat.cast_pow, Nat.cast_ofNat, hsum,
            ← mul_assoc, ← mul_assoc]
        rw [hcount, Binary64.nearestRank_lt_iff 2044 hdivisor, ← Nat.cast_lt (α := ℚ),
          hfraction, hunits, hbound, mul_assoc (_ * _) (2 ^ 1074 : ℚ), mul_lt_mul_iff_left₀ hscale]

/-- There is a nearest finite number exactly for the decimal numbers below 2^1024 - 2^970. -/
theorem exists_toBinary64?_iff (negative : Bool) (d : Decimal) :
    (∃ x, d.toBinary64? negative = some x) ↔
      (d.digits : ℚ) * 10 ^ d.exponent < 2 ^ 1024 - 2 ^ 970 := by
  rw [← nearestRank_lt_rankCount_iff, toBinary64?]
  split
  · next h => exact iff_of_true ⟨_, rfl⟩ h
  · next h =>
    refine iff_of_false ?_ h
    rintro ⟨x, hx⟩
    cases hx

end Decimal

/-! ### Zeros at the end of the digits -/

/-- A power of ten as a factor adds as many digits. -/
lemma digitCount_mul_pow {n : Nat} (hn : n ≠ 0) (k : Nat) :
    digitCount (n * 10 ^ k) = digitCount n + k := by
  induction k with
  | zero => rw [Nat.pow_zero, Nat.mul_one, Nat.add_zero]
  | succ k ih =>
    have hpos : 0 < n * 10 ^ k := Nat.mul_pos (Nat.pos_of_ne_zero hn) (Nat.pow_pos (by decide))
    have hshift : n * 10 ^ (k + 1) = 10 * (n * 10 ^ k) + 0 := by
      rw [Nat.pow_succ, Nat.add_zero, Nat.mul_comm 10, Nat.mul_assoc]
    rw [hshift, digitCount, ← Nat.toDigits_append_toDigits (by decide) hpos (by decide),
      List.length_append, ← digitCount, ih, Nat.toDigits_zero, List.length_singleton, Nat.add_assoc]

namespace Decimal

/-- What a decimal number is as a fraction of units does not depend on zeros at the end of its
digits. -/
lemma nearestRank_unitFraction_mul_pow (m k : Nat) (e : Int) :
    Binary64.nearestRank (unitFraction ⟨m * 10 ^ k, e⟩).1 (unitFraction ⟨m * 10 ^ k, e⟩).2 =
      Binary64.nearestRank (unitFraction ⟨m, e + k⟩).1 (unitFraction ⟨m, e + k⟩).2 := by
  have hten : ∀ n : Nat, 0 < 10 ^ n := fun n => Nat.pow_pos (by decide)
  unfold unitFraction
  dsimp only
  rcases Int.lt_or_le e 0 with hneg | hnonneg
  · rcases Int.lt_or_le (e + k) 0 with hbelow | habove
    · -- Both fractions have powers of ten as divisors.
      have hexponent : (-e).toNat = (-(e + k)).toNat + k := by omega
      rw [if_neg (by omega), if_neg (by omega)]
      dsimp only
      rw [hexponent, Nat.shiftLeft_eq, Nat.shiftLeft_eq, Nat.mul_right_comm, Nat.pow_eq,
        Nat.pow_eq, Nat.pow_add]
      exact Binary64.nearestRank_mul_right (hten k) _ _
    · have hexponent : k = (e + k).toNat + (-e).toNat := by omega
      rw [if_neg (by omega), if_pos habove]
      dsimp only
      have hscaled : (m * 10 ^ k) <<< 1074 = (m * Nat.pow 10 (e + k).toNat)
          <<< 1074 * 10 ^ (-e).toNat := by
        conv_lhs => rw [hexponent]
        rw [Nat.shiftLeft_eq, Nat.shiftLeft_eq, Nat.pow_eq, Nat.pow_add, ← Nat.mul_assoc m,
          Nat.mul_right_comm]
      have hscale :=
        Binary64.nearestRank_mul_right (hten (-e).toNat) ((m * Nat.pow 10 (e + k).toNat) <<< 1074) 1
      rw [Nat.one_mul] at hscale
      rw [hscaled]
      exact hscale
  · have hexponent : (e + k).toNat = k + e.toNat := by omega
    rw [if_pos hnonneg, if_pos (by omega)]
    dsimp only
    rw [hexponent, Nat.pow_eq, Nat.pow_eq, Nat.pow_add, Nat.mul_assoc]

/-- Zeros at the end of the digits count as well in the exponent, unless the number is past the
greatest exponent that is looked at. -/
lemma nearestRank_mul_pow (m k : Nat) {e : Int} (h : e + k ≤ 310) :
    nearestRank ⟨m * 10 ^ k, e⟩ = nearestRank ⟨m, e + k⟩ := by
  rcases Nat.eq_zero_or_pos m with rfl | hpos
  · simp [nearestRank]
  · have hscaled : m * 10 ^ k ≠ 0 := (Nat.mul_pos hpos (Nat.pow_pos (by decide))).ne'
    have hcount : digitCount (m * 10 ^ k) = digitCount m + k := digitCount_mul_pow hpos.ne' k
    unfold nearestRank
    dsimp only
    rw [if_neg hscaled, if_neg hpos.ne', if_neg (by omega),
      if_neg (show ¬310 < e + (k : Int) by omega), nearestRank_unitFraction_mul_pow, hcount,
      Nat.cast_add, Int.add_assoc, Int.add_comm (k : Int)]

/-- Numbers of 10^311 and more are beyond all finite magnitudes. -/
lemma rankCount_le_nearestRank {m k : Nat} {e : Int} (hm : m ≠ 0) (h : 310 < e + k) :
    Binary64.rankCount ≤ nearestRank ⟨m * 10 ^ k, e⟩ := by
  have hone : (1 : ℚ) ≤ m := Nat.one_le_cast.mpr (Nat.one_le_iff_ne_zero.mpr hm)
  rw [← not_lt, nearestRank_lt_rankCount_iff, not_lt]
  calc (2 : ℚ) ^ 1024 - 2 ^ 970 ≤ 10 ^ (e + k) := bound_le_pow h
    _ ≤ m * 10 ^ (e + k) := le_mul_of_one_le_left (by positivity) hone
    _ = ((m * 10 ^ k : ℕ) : ℚ) * 10 ^ e := by
      rw [Nat.cast_mul, Nat.cast_pow, Nat.cast_ofNat, add_comm, zpow_add₀ (by norm_num),
        zpow_natCast, mul_assoc]

/-- The digits are those of the stripped number with zeros behind them. -/
lemma exists_stripped (d : Decimal) :
    ∃ k : Nat, d.digits = d.stripped.digits * 10 ^ k ∧ d.stripped.exponent = d.exponent + k := by
  set zeros := (Nat.toDigits 10 d.digits).reverse.takeWhile (· = '0') with hzeros
  have hreplicate : zeros = List.replicate zeros.length '0' := by
    refine List.eq_replicate_iff.mpr ⟨rfl, fun c hc => ?_⟩
    simpa using List.mem_takeWhile_imp hc
  have hsplit : Nat.toDigits 10 d.digits =
      ((Nat.toDigits 10 d.digits).reverse.dropWhile (· = '0')).reverse ++
          List.replicate zeros.length '0' := by
    rw [← List.reverse_replicate, ← hreplicate, ← List.reverse_append,
      List.takeWhile_append_dropWhile, List.reverse_reverse]
  have hdigits : d.digits = 10 ^ zeros.length *
      Nat.ofDigitChars 10 ((Nat.toDigits 10 d.digits).reverse.dropWhile (· = '0')).reverse 0 := by
    conv_lhs => rw [← Nat.ofDigitChars_ten_toDigits (n := d.digits), hsplit,
      Nat.ofDigitChars_append, Nat.ofDigitChars_replicate_zero]
  refine ⟨zeros.length, ?_, rfl⟩
  have hquotient : d.stripped.digits = d.digits / 10 ^ zeros.length := rfl
  rw [hquotient, Nat.div_mul_cancel ⟨_, hdigits⟩]

/-- Stripping zeros does not change what a number reads as. -/
lemma nearestRank_stripped {d : Decimal} (h : d.nearestRank < Binary64.rankCount) :
    d.stripped.nearestRank = d.nearestRank := by
  obtain ⟨k, hdigits, hexponent⟩ := exists_stripped d
  have hd : d = ⟨d.stripped.digits * 10 ^ k, d.exponent⟩ := by rw [← hdigits]
  have hstripped : d.stripped = ⟨d.stripped.digits, d.exponent + k⟩ := by rw [← hexponent]
  rcases eq_or_ne d.stripped.digits 0 with hzero | hne
  · have hzero' : d.digits = 0 := by rw [hdigits, hzero, Nat.zero_mul]
    rw [nearestRank, nearestRank, if_pos hzero, if_pos hzero']
  · have hle : d.exponent + k ≤ 310 := by
      by_contra hgt
      rw [hd] at h
      exact absurd (rankCount_le_nearestRank hne (by omega)) (Nat.not_le_of_lt h)
    rw [hstripped, ← nearestRank_mul_pow _ k hle, ← hd]

end Decimal

/-! ### Numbers that are written -/

namespace Binary64

/-- A number that is no less than a power of ten has more digits than the power says. -/
lemma lt_digitCount {n k : Nat} (h : 10 ^ k ≤ n) : k < digitCount n := by
  by_contra hle
  rcases Nat.eq_zero_or_pos k with rfl | hk
  · exact hle (List.length_pos_iff.mpr Nat.toDigits_ne_nil)
  · have hlt : n < 10 ^ k := (Nat.length_toDigits_le_iff (by decide) hk).mp (Nat.le_of_not_lt hle)
    exact absurd h (Nat.not_le_of_lt hlt)

/-- A number of units with as many fives as factors as its tenths need is that number of units. -/
lemma nearestRank_of_fives {d : Decimal} {n k : Nat} (hk : k = 1074)
    (hdigits : d.digits = n * Nat.pow 5 k) (hexponent : d.exponent = -k) :
    nearestRank d.unitFraction.1 d.unitFraction.2 = nearestRank n 1 := by
  have hnegative : ¬ 0 ≤ d.exponent := by omega
  have hpower : (-d.exponent).toNat = k := by omega
  have htens : d.digits <<< k = n * Nat.pow 10 k := by
    rw [hdigits, Nat.shiftLeft_eq, Nat.pow_eq, Nat.pow_eq, Nat.mul_assoc, ← Nat.mul_pow]
  have hscale := nearestRank_mul_right (Nat.pow_pos (n := k) (by decide : 0 < 10)) n 1
  rw [Nat.one_mul] at hscale
  rw [Decimal.unitFraction, if_neg hnegative, hpower, ← hk, htens]
  exact hscale

/-- The number that writes a magnitude out in full reads back. -/
lemma nearestRank_exactDecimal (rank : Nat) : (exactDecimal rank).nearestRank = rank := by
  have hunits : nearestRank (units rank) 1 = rank := nearestRank_units rank
  rcases Nat.eq_zero_or_pos (units rank) with hzero | hpos
  · have hproduct : ∀ n, units rank * n = 0 := fun n => by rw [hzero, Nat.zero_mul]
    have hdigits : (exactDecimal rank).digits = 0 := hproduct _
    rw [hzero] at hunits
    rw [Decimal.nearestRank, if_pos hdigits, ← hunits]
    rfl
  · have hproduct : ∀ n, 0 < units rank * Nat.pow 5 n := fun n =>
      Nat.mul_pos hpos (Nat.pow_pos (by decide))
    have hdigits : (exactDecimal rank).digits ≠ 0 := (hproduct 1074).ne'
    have hexponent : (exactDecimal rank).exponent = -1074 := rfl
    have hsmall : ¬ 310 < (exactDecimal rank).exponent := by omega
    have hcount : 744 < digitCount (exactDecimal rank).digits :=
      lt_digitCount (le_trans (by decide +kernel) (Nat.le_mul_of_pos_left (Nat.pow 5 1074) hpos))
    have hlarge : ¬ (exactDecimal rank).exponent + digitCount (exactDecimal rank).digits <
        -330 := by
      omega
    -- the power has a name, so that it is not worked out
    obtain ⟨k, hk⟩ : ∃ k, k = 1074 := ⟨1074, rfl⟩
    have hfives : (exactDecimal rank).digits = units rank * Nat.pow 5 k := by
      rw [exactDecimal, ← hk]
    have htenths : (exactDecimal rank).exponent = -k := by omega
    rw [Decimal.nearestRank, if_neg hdigits, if_neg hsmall, if_neg hlarge,
      nearestRank_of_fives hk hfives htenths, hunits]

/-- What is chosen to write a number reads back as it. -/
theorem nearestRank_shortestDecimal {rank : Nat} (h : rank < rankCount) :
    (shortestDecimal rank).nearestRank = rank := by
  unfold shortestDecimal
  split
  · next hzero => rw [hzero]; rfl
  · dsimp only
    set found? := (List.range 17).findSome? fun (n : Nat) =>
      (decimalNeighbours rank (decimalScale rank - (n + 1))).find? fun d => d.nearestRank =
        rank with hfound
    have hreads : (found?.getD (exactDecimal rank)).nearestRank = rank := by
      cases hcase : found? with
      | none => exact nearestRank_exactDecimal rank
      | some d =>
        rw [hfound] at hcase
        obtain ⟨n, -, hd⟩ := List.exists_of_findSome?_eq_some hcase
        simpa using List.find?_some hd
    rw [Decimal.nearestRank_stripped (by rw [hreads]; exact h), hreads]

/-- The number that is written for any magnitude but zero has digits. -/
lemma digits_shortestDecimal_ne_zero {rank : Nat} (h : rank < rankCount) (hrank : rank ≠ 0) :
    (shortestDecimal rank).digits ≠ 0 := by
  intro hzero
  refine hrank ?_
  rw [← nearestRank_shortestDecimal h, Decimal.nearestRank, if_pos hzero]

end Binary64

end GraphqlClient
