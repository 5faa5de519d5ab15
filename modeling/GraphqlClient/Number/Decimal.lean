import GraphqlClient.Number.Binary64

/-!
# Decimal numbers

Reading a decimal number gives the nearest binary one.  Writing a binary number takes the decimal
number with the fewest digits that reads back as it, and of those the nearest.
-/

namespace GraphqlClient

/-- The number `digits * 10 ^ exponent`. -/
structure Decimal where
  digits : Nat
  exponent : Int
  deriving Repr, BEq, DecidableEq, Inhabited

/-- How many decimal digits a number has.  Zero has one. -/
def digitCount (n : Nat) : Nat := (Nat.toDigits 10 n).length

namespace Decimal

/-! ### Reading -/

/-- The magnitude of a decimal number as a fraction of units of 2^-1074. -/
def unitFraction (d : Decimal) : Nat × Nat :=
  if 0 ≤ d.exponent then ((d.digits * Nat.pow 10 d.exponent.toNat) <<< 1074, 1)
  else (d.digits <<< 1074, Nat.pow 10 (-d.exponent).toNat)

/-- The rank of the nearest magnitude, as if there were no largest one.  Numbers of 10^310 and more
get a rank that no finite magnitude has, and those under 10^-330 are nearest to zero. -/
def nearestRank (d : Decimal) : Nat :=
  if d.digits = 0 then 0
  else if 310 < d.exponent then Binary64.rankCount
  else if d.exponent + digitCount d.digits < -330 then 0
  else Binary64.nearestRank d.unitFraction.1 d.unitFraction.2

/-- The binary number with this sign that is nearest to a decimal magnitude.  There is none if that
is beyond all finite numbers. -/
def toBinary64? (negative : Bool) (d : Decimal) : Option Binary64 :=
  if h : d.nearestRank < Binary64.rankCount then some ⟨negative, d.nearestRank, h⟩ else none

/-! ### Writing -/

/-- The number without zeros at the end of its digits. -/
def stripped (d : Decimal) : Decimal :=
  let zeros := ((Nat.toDigits 10 d.digits).reverse.takeWhile (· = '0')).length
  { digits := d.digits / Nat.pow 10 zeros, exponent := d.exponent + zeros }

end Decimal

namespace Binary64

/-- The exponent of the least power of ten above a magnitude other than zero.  The factor 10^400
makes every such magnitude larger than one. -/
def decimalScale (rank : Nat) : Int := digitCount ((units rank * Nat.pow 10 400) >>> 1074) - 400

/-- The two neighbours of a magnitude among the multiples of `10 ^ exponent`, the nearer one first,
and of two equally near ones the even one. -/
def decimalNeighbours (rank : Nat) (exponent : Int) : List Decimal :=
  let (dividend, divisor) :=
    if 0 ≤ exponent then (units rank, Nat.pow 10 exponent.toNat <<< 1074)
    else (units rank * Nat.pow 10 (-exponent).toNat, 1 <<< 1074)
  let below := dividend / divisor
  let twice := 2 * (dividend % divisor)
  if twice < divisor || (twice = divisor && below % 2 = 0) then
    [{ digits := below, exponent := exponent }, { digits := below + 1, exponent := exponent }]
  else
    [{ digits := below + 1, exponent := exponent }, { digits := below, exponent := exponent }]

/-- The magnitude written out in full, which always ends. -/
def exactDecimal (rank : Nat) : Decimal :=
  { digits := units rank * Nat.pow 5 1074, exponent := -1074 }

/-- The decimal number with the fewest digits whose nearest magnitude has this rank. -/
def shortestDecimal (rank : Nat) : Decimal :=
  if rank = 0 then { digits := 0, exponent := 0 }
  else
    let scale := decimalScale rank
    let readsBack (d : Decimal) : Bool := d.nearestRank = rank
    let found? := (List.range 17).findSome? fun (n : Nat) =>
      (decimalNeighbours rank (scale - (n + 1))).find? readsBack
    (found?.getD (exactDecimal rank)).stripped

end Binary64

end GraphqlClient
