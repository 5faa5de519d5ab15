/-!
# Binary floating point numbers

The finite numbers of the 64-bit binary format, without any arithmetic but exact one.  All
magnitudes are multiples of 2^-1074, so a magnitude is a natural number of such units.  The
magnitudes of the format are ranked in ascending order from zero: the ranks below 2^52 are the
multiples of a unit, and then each further 2^52 ranks double the distance.
-/

namespace GraphqlClient

/-- How many ranks there are from one doubling of the distance to the next: 2^52. -/
abbrev Binary64.binade : Nat := 4503599627370496

/-- How many finite magnitudes there are. -/
def Binary64.rankCount : Nat := 2047 * binade

/-- A finite number of the 64-bit binary format. -/
structure Binary64 where
  negative : Bool
  rank : Nat
  rank_lt : rank < Binary64.rankCount
  deriving DecidableEq

namespace Binary64

instance : BEq Binary64 := ⟨fun x y => decide (x = y)⟩

instance : Repr Binary64 :=
  ⟨fun x _ => (if x.negative then "-" else "") ++ "rank " ++ repr x.rank⟩

instance : Inhabited Binary64 := ⟨⟨false, 0, by decide⟩⟩

/-! ### Magnitudes -/

/-- The magnitude of a rank, in units of 2^-1074. -/
def units (rank : Nat) : Nat :=
  let doublings := rank / binade - 1
  (rank - doublings * binade) <<< doublings

/-- The quotient rounded to the nearest integer, and to the even one halfway between two. -/
def roundDiv (dividend divisor : Nat) : Nat :=
  let quotient := dividend / divisor
  let twice := 2 * (dividend % divisor)
  if twice < divisor then quotient
  else if divisor < twice then quotient + 1
  else quotient + quotient % 2

/-- The rank of the magnitude that is nearest to a fraction of units, as if there were no largest
one.  Halfway between two magnitudes the even rank is taken. -/
def nearestRank (dividend divisor : Nat) : Nat :=
  let doublings := (dividend / divisor).log2 - 52
  doublings * binade + roundDiv dividend (divisor <<< doublings)

end Binary64

end GraphqlClient
