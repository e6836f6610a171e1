/-!
# Double-precision numbers

The finite magnitudes of the IEEE double format are counted upwards from zero:
the magnitude of rank `0` is zero, rank `1` is the smallest positive one, and
the order of the ranks is the order of the magnitudes.  Every magnitude is a
natural number of *units*, one unit being `2 ^ -1074`, so exact arithmetic on
doubles is arithmetic on natural numbers.

`nearestRank` rounds a quotient of natural numbers to the nearest magnitude, and
a tie to the one of even rank.  The infinities and the one NaN are values of
their own.
-/

namespace PageTree

/-- The power of two with a natural exponent. -/
def twoTo (exponent : Nat) : Nat :=
  Nat.pow 2 exponent

/-- How many finite magnitudes there are: `2047` exponents of `2 ^ 52` fractions. -/
def finiteMagnitudes : Nat := 2047 * twoTo 52

/-- A double: a signed magnitude, an infinity or NaN.  The two zeros differ. -/
inductive Binary64 where
  | finite (negative : Bool) (rank : Fin finiteMagnitudes)
  | infinite (negative : Bool)
  | nan
  deriving DecidableEq, Repr

namespace Binary64

/-- Units in one, as `2 ^ 1074`. -/
def unitsInOne : Nat := twoTo 1074

/-- The magnitude of a rank, in units.  Up to rank `2 ^ 53` neighbours are one
unit apart; from there each block of `2 ^ 52` ranks doubles the distance. -/
def units (rank : Nat) : Nat :=
  if rank < twoTo 53 then rank
  else (twoTo 52 + rank % twoTo 52) * twoTo (rank / twoTo 52 - 1)

/-- The greatest rank whose magnitude is at most `amount` units. -/
def floorRank (amount : Nat) : Nat :=
  let shift := amount.log2 - 52
  shift * twoTo 52 + amount / twoTo shift

/-- The rank of the magnitude nearest to `numerator / denominator` units; of two
equally near ones, the one of even rank. -/
def nearestRank (numerator denominator : Nat) : Nat :=
  let below := floorRank (numerator / denominator)
  let middle := denominator * (units below + units (below + 1))
  if 2 * numerator < middle then below
  else if middle < 2 * numerator then below + 1
  else if below % 2 = 0 then below
  else below + 1

/-- The double of a sign and a rank, unless the rank is beyond the finite ones. -/
def ofRank? (negative : Bool) (rank : Nat) : Option Binary64 :=
  if inRange : rank < finiteMagnitudes then some (.finite negative ⟨rank, inRange⟩)
  else none

/-- Neither infinite nor NaN. -/
def isFinite : Binary64 → Bool
  | .finite _ _ => true
  | _ => false

/-- The exact signed amount of units of a finite double. -/
def signedUnits? : Binary64 → Option Int
  | .finite negative rank =>
      some (if negative then -(units rank : Int) else (units rank : Int))
  | _ => none

/-- The integer that a double equals exactly, if it equals one. -/
def toInt? (number : Binary64) : Option Int :=
  match number.signedUnits? with
  | none => none
  | some amount =>
      if amount % (unitsInOne : Int) = 0 then some (amount / (unitsInOne : Int))
      else none

/-- Equality by numeric value: the two zeros agree, and NaN equals nothing. -/
def sameNumber : Binary64 → Binary64 → Bool
  | .infinite left, .infinite right => left == right
  | left, right =>
      match left.signedUnits?, right.signedUnits? with
      | some leftAmount, some rightAmount => leftAmount == rightAmount
      | _, _ => false

@[simp] theorem ofRank?_val (negative : Bool) (rank : Fin finiteMagnitudes) :
    ofRank? negative rank.val = some (.finite negative rank) := by
  simp [ofRank?, rank.isLt]

@[simp] theorem units_zero : units 0 = 0 := by
  decide

end Binary64

end PageTree
