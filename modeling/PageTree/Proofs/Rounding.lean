import PageTree.Decimal

/-!
# Rounding

A magnitude is its own nearest magnitude, and the magnitude nearest to a quotient
depends on the quotient alone.  The shortest decimal of a rank is therefore read back
as that rank (`Decimal.rank_shortest`): the search returns only decimals that it has
read back, and the exact decimal needs no rounding.

The proofs about ranks go by blocks of `2 ^ 52` ranks.  In the first one ranks are
amounts of units; in the block `power + 1` the units of a rank are its offset, with a
leading bit, times `2 ^ power`.
-/

namespace PageTree

theorem twoTo_pos (exponent : Nat) : 0 < twoTo exponent :=
  Nat.two_pow_pos exponent

@[simp] theorem twoTo_zero : twoTo 0 = 1 := rfl

theorem twoTo_succ (exponent : Nat) : twoTo (exponent + 1) = 2 * twoTo exponent := by
  unfold twoTo
  exact Nat.pow_succ'

theorem twoTo_add (left right : Nat) : twoTo (left + right) = twoTo left * twoTo right := by
  unfold twoTo
  exact Nat.pow_add 2 left right

namespace Binary64

variable {rank power offset numerator denominator scale : Nat}

/-- The magnitudes of the first block are single units. -/
theorem units_of_lt (small : rank < twoTo 52) : units rank = rank := by
  have half : twoTo 53 = 2 * twoTo 52 := twoTo_succ 52
  exact if_pos (by omega)

/-- The magnitudes of a later block have a leading bit and a common exponent. -/
theorem units_block (inBlock : offset < twoTo 52) :
    units ((power + 1) * twoTo 52 + offset) = (twoTo 52 + offset) * twoTo power := by
  have half : twoTo 53 = 2 * twoTo 52 := twoTo_succ 52
  cases power with
  | zero =>
      unfold units
      rw [if_pos (by omega), Nat.zero_add, Nat.one_mul, twoTo_zero, Nat.mul_one]
  | succ power =>
      have large : twoTo 53 ≤ (power + 1 + 1) * twoTo 52 + offset := by
        rw [half, Nat.succ_mul (power + 1), Nat.succ_mul power]
        omega
      unfold units
      rw [if_neg (Nat.not_lt.2 large), Nat.mul_add_mod', Nat.mod_eq_of_lt inBlock,
        Nat.mul_comm (power + 1 + 1), Nat.mul_add_div (twoTo_pos 52),
        Nat.div_eq_of_lt inBlock, Nat.add_zero]
      rfl

/-- Every rank is in the first block or in a later one. -/
theorem block_cases (rank : Nat) :
    rank < twoTo 52 ∨
      ∃ power offset, offset < twoTo 52 ∧ rank = (power + 1) * twoTo 52 + offset := by
  by_cases small : rank < twoTo 52
  · exact .inl small
  · right
    have positive : 0 < rank / twoTo 52 :=
      Nat.div_pos (Nat.le_of_not_lt small) (twoTo_pos 52)
    obtain ⟨power, quotient⟩ := Nat.exists_eq_add_one.2 positive
    refine ⟨power, rank % twoTo 52, Nat.mod_lt _ (twoTo_pos 52), ?_⟩
    rw [← quotient, Nat.mul_comm, Nat.div_add_mod]

/-- Magnitudes grow with their ranks. -/
theorem units_lt_units_succ (rank : Nat) : units rank < units (rank + 1) := by
  rcases block_cases rank with small | ⟨power, offset, inBlock, rfl⟩
  · rw [units_of_lt small]
    rcases Nat.lt_or_eq_of_le (Nat.succ_le_of_lt small) with stillSmall | border
    · rw [units_of_lt stillSmall]
      exact Nat.lt_succ_self rank
    · have first : units ((0 + 1) * twoTo 52 + 0) = (twoTo 52 + 0) * twoTo 0 :=
        units_block (twoTo_pos 52)
      rw [Nat.zero_add, Nat.one_mul, Nat.add_zero, twoTo_zero, Nat.mul_one] at first
      have next : units (rank + 1) = twoTo 52 := by
        rw [show rank + 1 = twoTo 52 from border]
        exact first
      omega
  · rw [units_block inBlock, Nat.add_assoc]
    rcases Nat.lt_or_eq_of_le (Nat.succ_le_of_lt inBlock) with sameBlock | border
    · rw [units_block sameBlock]
      exact Nat.mul_lt_mul_of_pos_right (Nat.lt_succ_self _) (twoTo_pos power)
    · -- The next rank opens the block in which the distance is doubled.
      have next : units ((power + 1 + 1) * twoTo 52 + 0) =
          (twoTo 52 + 0) * twoTo (power + 1) :=
        units_block (twoTo_pos 52)
      have opens : (power + 1) * twoTo 52 + (offset + 1) = (power + 1 + 1) * twoTo 52 + 0 := by
        rw [Nat.succ_mul (power + 1)]
        omega
      rw [opens, next, Nat.add_zero, twoTo_succ power, ← Nat.mul_assoc]
      exact Nat.mul_lt_mul_of_pos_right (by omega) (twoTo_pos power)

/-- The magnitude of a rank is found at that rank. -/
theorem floorRank_units (rank : Nat) : floorRank (units rank) = rank := by
  unfold floorRank
  rcases block_cases rank with small | ⟨power, offset, inBlock, rfl⟩
  · rw [units_of_lt small]
    have noShift : rank.log2 - 52 = 0 := by
      by_cases zero : rank = 0
      · subst rank
        rfl
      · have below := (Nat.log2_lt zero).2 small
        omega
    simp [noShift, twoTo]
  · have positive : (twoTo 52 + offset) * twoTo power ≠ 0 :=
      Nat.mul_ne_zero (by have := twoTo_pos 52; omega) (Nat.ne_of_gt (twoTo_pos power))
    have leading : ((twoTo 52 + offset) * twoTo power).log2 = 52 + power := by
      rw [Nat.log2_eq_iff positive]
      constructor
      · exact Nat.le_trans (Nat.le_of_eq (twoTo_add 52 power))
          (Nat.mul_le_mul_right _ (Nat.le_add_right _ _))
      · have double : twoTo (52 + power + 1) = (twoTo 52 + twoTo 52) * twoTo power := by
          rw [twoTo_succ, twoTo_add, ← Nat.mul_assoc, Nat.two_mul]
        refine Nat.lt_of_lt_of_eq ?_ double.symm
        exact Nat.mul_lt_mul_of_pos_right (Nat.add_lt_add_left inBlock _) (twoTo_pos power)
    rw [units_block inBlock]
    simp only [leading, Nat.add_sub_cancel_left, Nat.mul_div_cancel _ (twoTo_pos power)]
    rw [Nat.succ_mul, Nat.add_assoc]

/-- A magnitude over a common denominator is nearest to itself. -/
theorem nearestRank_units_mul (rank : Nat) (positive : 0 < denominator) :
    nearestRank (units rank * denominator) denominator = rank := by
  unfold nearestRank
  simp only [Nat.mul_div_cancel _ positive, floorRank_units]
  rw [if_pos]
  have grows := units_lt_units_succ rank
  rw [Nat.mul_comm 2, Nat.mul_comm (units rank), Nat.mul_assoc]
  exact Nat.mul_lt_mul_of_pos_left (by omega) positive

/-- The nearest rank depends on the quotient only. -/
theorem nearestRank_mul (positive : 0 < scale) :
    nearestRank (numerator * scale) (denominator * scale) =
      nearestRank numerator denominator := by
  unfold nearestRank
  simp only [Nat.mul_div_mul_right _ _ positive]
  have compare : ∀ left right, left * scale < right * scale ↔ left < right :=
    fun _ _ => Nat.mul_lt_mul_right positive
  have middle : ∀ units, denominator * scale * units = denominator * units * scale :=
    fun units => Nat.mul_right_comm denominator scale units
  simp only [middle, ← Nat.mul_assoc, compare]

end Binary64

namespace Decimal

open Binary64 Numeral

variable {rank : Nat} {grid : Int} {found : Decimal}

theorem twoTo_le_five_pow (exponent : Nat) : twoTo (2 * exponent) ≤ Nat.pow 5 exponent := by
  unfold twoTo
  calc
    Nat.pow 2 (2 * exponent) = 4 ^ exponent := Nat.pow_mul 2 2 exponent
    _ ≤ 5 ^ exponent := Nat.pow_le_pow_left (by omega) exponent

theorem five_pow_mul_twoTo (exponent : Nat) :
    Nat.pow 5 exponent * twoTo exponent = tenTo exponent := by
  unfold twoTo tenTo
  exact (Nat.mul_pow 5 2 exponent).symm

@[simp] theorem rank_zero (exponent : Int) : (⟨0, exponent⟩ : Decimal).rank = 0 :=
  if_pos rfl

/-- The rank of a decimal that is neither zero nor small, with a negative power of
ten. -/
theorem rank_of_places {significand places : Nat} {exponent : Int}
    (spelt : exponent = -(places : Int)) (nonzero : significand ≠ 0) (fraction : 0 < places)
    (notSmall : -1076 ≤ (significand.log2 : Int) + 3 * exponent) :
    (⟨significand, exponent⟩ : Decimal).rank =
      nearestRank (significand * unitsInOne) (tenTo places) := by
  unfold Decimal.rank
  simp only [if_neg nonzero]
  rw [if_neg (by omega), if_neg (by omega), if_neg (by omega), spelt, Int.neg_neg,
    Int.toNat_natCast]

/-- A positive magnitude times a power of five has as many places as there are twos in
a unit. -/
theorem rank_units_mul {places : Nat} {exponent : Int} (spelt : exponent = -(places : Int))
    (scale : unitsInOne = twoTo places) (fraction : 0 < places) (bounded : places ≤ 1076)
    (nonzero : units rank ≠ 0) :
    (⟨units rank * Nat.pow 5 places, exponent⟩ : Decimal).rank = rank := by
  have product : units rank * Nat.pow 5 places ≠ 0 :=
    Nat.mul_ne_zero nonzero (Nat.ne_of_gt (Nat.pow_pos (Nat.succ_pos 4)))
  have atLeast : twoTo (2 * places) ≤ units rank * Nat.pow 5 places :=
    Nat.le_trans (twoTo_le_five_pow places)
      (Nat.le_mul_of_pos_left _ (Nat.pos_of_ne_zero nonzero))
  have logarithm := (Nat.le_log2 product).2 atLeast
  rw [rank_of_places spelt product fraction (by omega), scale, Nat.mul_assoc,
    five_pow_mul_twoTo]
  exact nearestRank_units_mul rank (Nat.pow_pos (Nat.succ_pos 9))

/-- The exact decimal of a rank is read back as that rank. -/
theorem rank_exact (rank : Nat) : (exact rank).rank = rank := by
  unfold exact
  by_cases zero : units rank = 0
  · have first : rank = 0 := by
      cases rank with
      | zero => rfl
      | succ rank =>
          have grows := units_lt_units_succ rank
          omega
    subst first
    simp only [units_zero, Nat.zero_mul, rank_zero]
  · -- A name for the number of places keeps the power of five from being computed.
    obtain ⟨places, depth⟩ : ∃ places, places = 1074 := ⟨_, rfl⟩
    rw [← depth]
    exact rank_units_mul (by omega) (by rw [depth, unitsInOne]) (by omega) (by omega) zero

/-- What is found on a grid has been read back. -/
theorem rank_of_onGrid? (onGrid : onGrid? rank grid = some found) : found.rank = rank := by
  unfold onGrid? at onGrid
  simp only at onGrid
  split at onGrid
  · rename_i below above
    rw [decide_eq_true_eq] at below above
    split at onGrid
    · exact Option.some.inj onGrid ▸ below
    · split at onGrid
      · exact Option.some.inj onGrid ▸ above
      · split at onGrid
        · exact Option.some.inj onGrid ▸ below
        · exact Option.some.inj onGrid ▸ above
  · rename_i below _
    exact Option.some.inj onGrid ▸ of_decide_eq_true below
  · rename_i _ above
    exact Option.some.inj onGrid ▸ of_decide_eq_true above
  · exact nomatch onGrid

/-- What the search returns is read back as the rank. -/
theorem rank_search (rank : Nat) (grid : Int) (steps : Nat) :
    (search rank grid steps).rank = rank := by
  induction steps generalizing grid with
  | zero => exact rank_exact rank
  | succ steps ih =>
      unfold search
      split
      · rename_i found onGrid
        exact rank_of_onGrid? onGrid
      · exact ih (grid - 1)

/-- The shortest decimal of a rank is read back as that rank. -/
theorem rank_shortest (rank : Nat) : (shortest rank).rank = rank := by
  unfold shortest
  split
  · rename_i zero
    rw [zero]
    rfl
  · exact rank_search rank _ 60

/-- A whole number may be written with a fraction of zero. -/
theorem rank_mul_tenTo {exponent : Nat} (significand : Nat) (bounded : exponent ≤ 310) :
    (⟨significand * tenTo (exponent + 1), -1⟩ : Decimal).rank =
      (⟨significand, exponent⟩ : Decimal).rank := by
  by_cases zero : significand = 0
  · rw [zero, Nat.zero_mul, rank_zero, rank_zero]
  · have nonzero : significand * tenTo (exponent + 1) ≠ 0 :=
      Nat.mul_ne_zero zero (Nat.ne_of_gt (Nat.pow_pos (by omega)))
    have whole : (⟨significand, exponent⟩ : Decimal).rank =
        nearestRank (significand * tenTo exponent * unitsInOne) 1 := by
      unfold Decimal.rank
      generalize unitsInOne = one
      simp only [if_neg zero]
      rw [if_neg (by omega), if_neg (by omega), if_pos (by omega), Int.toNat_natCast]
    have spelt : (-1 : Int) = -(1 : Nat) := rfl
    rw [whole, rank_of_places spelt nonzero (by omega) (by omega)]
    generalize unitsInOne = one
    have ten : significand * tenTo (exponent + 1) * one =
        significand * tenTo exponent * one * 10 := by
      rw [tenTo, Nat.pow_eq, Nat.pow_succ, ← Nat.mul_assoc, Nat.mul_right_comm]
      rfl
    rw [ten]
    exact @nearestRank_mul _ 1 10 (by omega)

end Decimal

end PageTree
