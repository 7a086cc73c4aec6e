import Mathlib.Data.Int.DivMod
import Aegis.Risk.Exposure

/-!
Where a checked helper of the risk engine returns a word, the word carries the exact value.
-/

namespace Aegis.Risk

open Aegis.Foundation Int64
open Int64 (toInt_zero toInt_one lt_iff_toInt_lt toInt_minValue toInt_maxValue)

theorem toNat_of_checkedAdd {left right sum : UInt64} (added : checkedAdd left right = some sum) :
    sum.toNat = left.toNat + right.toNat := by
  have room : ((-1 : UInt64) - right).toNat = 2 ^ 64 - 1 - right.toNat :=
    UInt64.toNat_sub_of_le _ _ (by rw [UInt64.le_iff_toNat_le]; have := right.toNat_lt; simp; omega)
  have rightLt := right.toNat_lt
  unfold checkedAdd at added
  split at added
  · cases added
  rename_i fits
  cases added
  rw [UInt64.lt_iff_toNat_lt, room] at fits
  rw [UInt64.toNat_add, Nat.mod_eq_of_lt (by omega)]

theorem toNat_of_checkedMultiply {left right product : UInt64}
    (multiplied : checkedMultiply left right = some product) :
    product.toNat = left.toNat * right.toNat := by
  unfold checkedMultiply at multiplied
  split at multiplied
  · cases multiplied
  rename_i fits
  cases multiplied
  rw [UInt64.toNat_mul, Nat.mod_eq_of_lt]
  by_cases zero : left.toNat = 0
  · simp [zero]
  rw [UInt64.lt_iff_toNat_lt, UInt64.toNat_div, not_and, not_lt] at fits
  have quotient := fits fun nothing => zero (by rw [nothing]; rfl)
  have bound := (Nat.le_div_iff_mul_le (Nat.pos_of_ne_zero zero)).mp quotient
  have all : (-1 : UInt64).toNat = 2 ^ 64 - 1 := rfl
  rw [mul_comm]
  omega

theorem toInt_of_checkedAddSigned {left right sum : Int64}
    (added : checkedAddSigned left right = some sum) : sum.toInt = left.toInt + right.toInt := by
  obtain ⟨leftLow, leftHigh⟩ := fits_toInt left
  obtain ⟨rightLow, rightHigh⟩ := fits_toInt right
  have least := toInt_minValue
  have most := toInt_maxValue
  unfold checkedAddSigned at added
  split at added
  · cases added
  rename_i inside
  cases added
  apply Fits.toInt_add
  simp only [lt_iff_toInt_lt, toInt_zero, not_or, not_and, not_lt] at inside
  constructor
  · by_cases negative : right.toInt < 0
    · have bound := inside.2 negative
      rw [Fits.toInt_sub ⟨by omega, by omega⟩] at bound
      omega
    · omega
  · by_cases positive : 0 < right.toInt
    · have bound := inside.1 positive
      rw [Fits.toInt_sub ⟨by omega, by omega⟩] at bound
      omega
    · omega

theorem toInt_of_checkedSubtractSigned {left right difference : Int64}
    (subtracted : checkedSubtractSigned left right = some difference) :
    difference.toInt = left.toInt - right.toInt := by
  obtain ⟨leftLow, leftHigh⟩ := fits_toInt left
  obtain ⟨rightLow, rightHigh⟩ := fits_toInt right
  have least := toInt_minValue
  have most := toInt_maxValue
  unfold checkedSubtractSigned at subtracted
  split at subtracted
  · cases subtracted
  rename_i inside
  cases subtracted
  apply Fits.toInt_sub
  simp only [lt_iff_toInt_lt, toInt_zero, not_or, not_and, not_lt] at inside
  constructor
  · by_cases positive : 0 < right.toInt
    · have bound := inside.1 positive
      rw [Fits.toInt_add ⟨by omega, by omega⟩] at bound
      omega
    · omega
  · by_cases negative : right.toInt < 0
    · have bound := inside.2 negative
      rw [Fits.toInt_add ⟨by omega, by omega⟩] at bound
      omega
    · omega

theorem mul_le_of_le_tdiv {left right bound : Int} (positive : 0 < right) (nonneg : 0 ≤ bound)
    (below : left ≤ bound.tdiv right) : left * right ≤ bound := by
  rw [Int.tdiv_eq_ediv_of_nonneg nonneg] at below
  exact (Int.le_ediv_iff_mul_le positive).mp below

theorem toInt_of_checkedMultiplySigned {left right product : Int64}
    (multiplied : checkedMultiplySigned left right = some product) :
    product.toInt = left.toInt * right.toInt := by
  have least := toInt_minValue
  have most := toInt_maxValue
  unfold checkedMultiplySigned at multiplied
  split at multiplied
  · rename_i zero
    cases multiplied
    rcases zero with rfl | rfl <;> simp
  split at multiplied
  · cases multiplied
  rename_i nonzero _
  rw [not_or, ← toInt_inj, ← toInt_inj, toInt_zero] at nonzero
  simp only [lt_iff_toInt_lt, toInt_zero] at multiplied
  -- The quotient that guards the product is exact: it is by a positive word or of the largest one.
  have quotient {word : Int64} (positive : 0 < word.toInt) :
      (minValue / word).toInt = -(2 ^ 63 : Int).tdiv word.toInt := by
    rw [toInt_div_of_ne_right _ _ (by rintro rfl; simp at positive), least, Int.neg_tdiv]
  have quotient' {word : Int64} :
      (maxValue / word).toInt = (2 ^ 63 - 1 : Int).tdiv word.toInt := by
    rw [toInt_div_of_ne_left _ _ (by decide), most]
  split at multiplied
  · rename_i leftPositive
    split at multiplied
    · cases multiplied
    rename_i inside
    cases multiplied
    rw [not_or, not_and, not_and, not_lt, not_lt] at inside
    apply Fits.toInt_mul
    rcases lt_or_gt_of_ne nonzero.2 with rightNegative | rightPositive
    · have below := inside.2 rightNegative
      rw [quotient leftPositive] at below
      have bound : -right.toInt * left.toInt ≤ 2 ^ 63 :=
        mul_le_of_le_tdiv leftPositive (by norm_num) (by omega)
      constructor <;> nlinarith
    · have below := inside.1 rightPositive
      rw [quotient'] at below
      have bound := mul_le_of_le_tdiv rightPositive (by norm_num) below
      constructor <;> nlinarith
  · rename_i leftNegative
    split at multiplied
    · cases multiplied
    rename_i inside
    cases multiplied
    rw [not_or, not_and, not_and, not_lt, not_lt] at inside
    apply Fits.toInt_mul
    rcases lt_or_gt_of_ne nonzero.2 with rightNegative | rightPositive
    · have below := inside.2 rightNegative
      rw [quotient', ← neg_neg right.toInt, Int.tdiv_neg] at below
      have bound : -left.toInt * -right.toInt ≤ 2 ^ 63 - 1 :=
        mul_le_of_le_tdiv (by omega) (by norm_num) (by omega)
      constructor <;> nlinarith
    · have below := inside.1 rightPositive
      rw [quotient rightPositive] at below
      have bound : -left.toInt * right.toInt ≤ 2 ^ 63 :=
        mul_le_of_le_tdiv rightPositive (by norm_num) (by omega)
      constructor <;> nlinarith

theorem toNat_magnitude (value : Int64) : ((magnitude value).toNat : Int) = |value.toInt| := by
  obtain ⟨low, high⟩ := fits_toInt value
  unfold magnitude
  split
  · rename_i nonneg
    rw [le_iff_toInt_le, toInt_zero] at nonneg
    rw [toNat_toUInt64 nonneg, abs_of_nonneg nonneg]
  rename_i negative
  rw [le_iff_toInt_le, toInt_zero, not_le] at negative
  have shifted : (value + 1).toInt = value.toInt + 1 := 
    Fits.toInt_add ⟨by simp only [toInt_one]; omega, by simp only [toInt_one]; omega⟩
  have negated : (-(value + 1)).toInt = -value.toInt - 1 := by
    rw [toInt_neg_of_ne_min (by omega), shifted]
    omega
  have word := toNat_toUInt64 (by rw [negated]; omega)
  have one : (1 : UInt64).toNat = 1 := rfl
  rw [UInt64.toNat_add, one, Nat.mod_eq_of_lt (by omega), abs_of_neg negative]
  omega

section Division

variable (value : Int64) {denominator : Int64}

section

variable (large : 1 < denominator.toInt)
include large

/-- The quotient toward zero, in parts. -/
theorem quotient_parts :
    (value / denominator).toInt * denominator.toInt + (value % denominator).toInt = value.toInt ∧
      -denominator.toInt < (value % denominator).toInt ∧
      (value % denominator).toInt < denominator.toInt ∧
      -2 ^ 62 < (value / denominator).toInt + 1 ∧ (value / denominator).toInt - 1 < 2 ^ 62 := by
  obtain ⟨low, high⟩ := fits_toInt value
  have apart : denominator ≠ -1 := by rintro rfl; simp at large
  rw [toInt_div_of_ne_right _ _ apart, toInt_mod]
  have parts := Int.tdiv_mul_add_tmod value.toInt denominator.toInt
  have above := Int.tmod_lt_of_pos value.toInt (b := denominator.toInt) (by omega)
  have below : -denominator.toInt < value.toInt.tmod denominator.toInt := by
    have reflected := Int.tmod_lt_of_pos (-value.toInt) (b := denominator.toInt) (by omega)
    rw [Int.neg_tmod] at reflected
    omega
  refine ⟨parts, below, above, ?_, ?_⟩ <;> nlinarith

theorem divideFloor_mul_le :
    (divideFloor value denominator).toInt * denominator.toInt ≤ value.toInt := by
  obtain ⟨parts, below, above, low, high⟩ := quotient_parts value large
  unfold divideFloor
  simp only [lt_iff_toInt_lt, toInt_zero]
  split
  · rw [Fits.toInt_sub ⟨by simp only [toInt_one]; omega, by simp only [toInt_one]; omega⟩,
      toInt_one]
    linarith
  · linarith

theorem le_divideCeiling_mul :
    value.toInt ≤ (divideCeiling value denominator).toInt * denominator.toInt := by
  obtain ⟨parts, below, above, low, high⟩ := quotient_parts value large
  unfold divideCeiling
  simp only [lt_iff_toInt_lt, toInt_zero]
  split
  · rw [Fits.toInt_add ⟨by simp only [toInt_one]; omega, by simp only [toInt_one]; omega⟩,
      toInt_one]
    linarith
  · linarith

end

end Division

end Aegis.Risk
