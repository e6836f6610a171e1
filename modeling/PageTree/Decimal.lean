import PageTree.Binary64
import PageTree.Numeral

/-!
# Decimal numbers and doubles

A decimal is a natural number, its significand, times a power of ten.  Reading a decimal
as a double rounds it to the nearest one (`Decimal.rank`); a decimal beyond the
finite range is refused (`toBinary64?`).

The shortest decimal of a double lies on the coarsest decimal grid that holds a
decimal reading back as that double.  On each grid only the two neighbours of
the double can be that decimal, so they alone are tried; when both read back
the nearer one is taken, and the even one of two equally near ones.
-/

namespace PageTree

/-- The number `significand * 10 ^ exponent`. -/
structure Decimal where
  significand : Nat
  exponent : Int
  deriving DecidableEq, Repr

namespace Decimal

open Binary64 Numeral

/-- The rank of the double nearest to a decimal.

The first two cases answer for exponents whose power of ten need not be formed:
a positive number of at least `10 ^ 311` is beyond the finite range, and one
below half a unit is nearest to zero. -/
def rank (number : Decimal) : Nat :=
  if number.significand = 0 then 0
  else if number.exponent > 310 then finiteMagnitudes
  else if number.significand.log2 + 3 * number.exponent < -1076 then 0
  else if number.exponent ≥ 0 then
    nearestRank (number.significand * tenTo number.exponent.toNat * unitsInOne) 1
  else
    nearestRank (number.significand * unitsInOne) (tenTo (-number.exponent).toNat)

/-- The double nearest to a signed decimal, unless it is beyond the finite
range. -/
def toBinary64? (negative : Bool) (number : Decimal) : Option Binary64 :=
  ofRank? negative number.rank

/-- Every magnitude is a decimal exactly, as one unit is `5 ^ 1074 * 10 ^ -1074`. -/
def exact (rank : Nat) : Decimal :=
  ⟨units rank * Nat.pow 5 1074, -1074⟩

/-- The neighbour of a magnitude on the grid of multiples of `10 ^ grid` that
reads back as that magnitude, if one does. -/
def onGrid? (rank : Nat) (grid : Int) : Option Decimal :=
  let numerator := units rank * tenTo (-grid).toNat
  let denominator := unitsInOne * tenTo grid.toNat
  let low := numerator / denominator
  let rest := numerator % denominator
  let below : Decimal := ⟨low, grid⟩
  let above : Decimal := ⟨low + 1, grid⟩
  match decide (below.rank = rank), decide (above.rank = rank) with
  | true, true =>
      if 2 * rest < denominator then some below
      else if denominator < 2 * rest then some above
      else if low % 2 = 0 then some below
      else some above
  | true, false => some below
  | false, true => some above
  | false, false => none

/-- The first decimal found on the grids `grid`, `grid - 1`, and so on, `steps`
of them; the exact decimal when none of them holds one. -/
def search (rank : Nat) (grid : Int) : Nat → Decimal
  | 0 => exact rank
  | steps + 1 =>
      match onGrid? rank grid with
      | some found => found
      | none => search rank (grid - 1) steps

/-- A grid too coarse for a magnitude of `2 ^ exponent` or more, but less than
`2 ^ (exponent + 1)`: its first positive point is beyond that. -/
def coarseGrid (exponent : Int) : Int :=
  if exponent ≥ 0 then (exponent + 1) / 3 + 1 else (exponent + 1) * 3 / 10 + 1

/-- The shortest decimal that reads back as the magnitude of a rank.

Sixty grids are enough: the coarsest one is at most forty powers of ten above
the magnitude, and seventeen digits always read back. -/
def shortest (rank : Nat) : Decimal :=
  if rank = 0 then ⟨0, 0⟩
  else search rank (coarseGrid ((units rank).log2 - 1074)) 60

end Decimal

end PageTree
