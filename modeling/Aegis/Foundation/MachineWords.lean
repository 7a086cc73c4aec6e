import Mathlib.Data.UInt
import Mathlib.Tactic.Linarith

/-!
Exact arithmetic on machine words: an operation on 64-bit words returns its result when that fits
the word. Every law is stated over the integers.
-/

namespace Aegis.Foundation

open BitVec

def exactAdd (left right : UInt64) : Option UInt64 :=
  if left.toNat + right.toNat < 2 ^ 64 then some (left + right) else none

def exactMul (left right : UInt64) : Option UInt64 :=
  if left.toNat * right.toNat < 2 ^ 64 then some (left * right) else none

theorem toNat_of_exactAdd {left right sum : UInt64} (added : exactAdd left right = some sum) :
    sum.toNat = left.toNat + right.toNat := by
  unfold exactAdd at added
  split at added
  · cases added
    rw [UInt64.toNat_add, Nat.mod_eq_of_lt (by assumption)]
  · cases added

theorem exactMul_eq_some_iff {left right result : UInt64} :
    exactMul left right = some result ↔ result.toNat = left.toNat * right.toNat := by
  have below := result.toNat_lt
  unfold exactMul
  constructor
  · intro product
    split at product
    · cases product
      rw [UInt64.toNat_mul, Nat.mod_eq_of_lt (by assumption)]
    · cases product
  · intro product
    have fits : left.toNat * right.toNat < 2 ^ 64 := product ▸ below
    rw [if_pos fits, Option.some.injEq, ← UInt64.toNat_inj, UInt64.toNat_mul,
      Nat.mod_eq_of_lt fits, product]

theorem exists_toNat_eq (value : Nat) (small : value < 2 ^ 64) : ∃ word : UInt64, word.toNat = value :=
  ⟨.ofNat value, UInt64.toNat_ofNat_of_lt' small⟩

theorem toNat_pos {word : UInt64} (nonzero : word ≠ 0) : 0 < word.toNat :=
  Nat.pos_of_ne_zero fun zero => nonzero (UInt64.toNat_inj.mp zero)

def Fits (value : Int) : Prop :=
  -2 ^ 63 ≤ value ∧ value < 2 ^ 63

instance (value : Int) : Decidable (Fits value) :=
  inferInstanceAs (Decidable (_ ∧ _))

theorem fits_toInt (word : Int64) : Fits word.toInt :=
  ⟨word.le_toInt, word.toInt_lt⟩

variable {value : Int} {left right word result : Int64} {index other : Nat} {mask : UInt64}

theorem Fits.bmod (fits : Fits value) : value.bmod (2 ^ 64) = value := by
  obtain ⟨low, high⟩ := fits
  exact Int.bmod_eq_of_le (by norm_num; omega) (by norm_num; omega)

theorem Fits.exists_toInt_eq (fits : Fits value) : ∃ word : Int64, word.toInt = value :=
  ⟨.ofInt value, Int64.toInt_ofInt.trans fits.bmod⟩

theorem Fits.toInt_add (fits : Fits (left.toInt + right.toInt)) :
    (left + right).toInt = left.toInt + right.toInt := by
  rw [Int64.toInt_add, fits.bmod]

theorem Fits.toInt_sub (fits : Fits (left.toInt - right.toInt)) :
    (left - right).toInt = left.toInt - right.toInt := by
  rw [Int64.toInt_sub, fits.bmod]

theorem Fits.toInt_mul (fits : Fits (left.toInt * right.toInt)) :
    (left * right).toInt = left.toInt * right.toInt := by
  rw [Int64.toInt_mul, fits.bmod]

def exactAddSigned (left right : Int64) : Option Int64 :=
  if Fits (left.toInt + right.toInt) then some (left + right) else none

def exactSubSigned (left right : Int64) : Option Int64 :=
  if Fits (left.toInt - right.toInt) then some (left - right) else none

def exactMulSigned (left right : Int64) : Option Int64 :=
  if Fits (left.toInt * right.toInt) then some (left * right) else none

/-- A guarded exact operation returns the words with the exact value. -/
theorem guarded_eq_some_iff (exactWord : Fits value → word.toInt = value) :
    (if Fits value then some word else none) = some result ↔ result.toInt = value := by
  constructor
  · intro returned
    split at returned
    · cases returned
      exact exactWord (by assumption)
    · cases returned
  · intro carried
    have fits : Fits value := carried ▸ fits_toInt result
    rw [if_pos fits, Option.some.injEq, ← Int64.toInt_inj, exactWord fits, carried]

theorem exactAddSigned_eq_some_iff :
    exactAddSigned left right = some result ↔ result.toInt = left.toInt + right.toInt :=
  guarded_eq_some_iff Fits.toInt_add

theorem exactSubSigned_eq_some_iff :
    exactSubSigned left right = some result ↔ result.toInt = left.toInt - right.toInt :=
  guarded_eq_some_iff Fits.toInt_sub

theorem toInt_toInt64 {word : UInt64} (small : word.toNat < 2 ^ 63) :
    word.toInt64.toInt = word.toNat := by
  have read : word.toInt64.toInt = word.toBitVec.toInt := rfl
  rw [read, toInt_eq_toNat_of_lt]
  · rfl
  · show 2 * word.toNat < 2 ^ 64
    omega

theorem toNat_toUInt64 (nonneg : 0 ≤ word.toInt) : (word.toUInt64.toNat : Int) = word.toInt := by
  have signed : word.toInt = word.toBitVec.toInt := rfl
  have unsigned : word.toUInt64.toNat = word.toBitVec.toNat := rfl
  have casesSign := toInt_eq_toNat_cond word.toBitVec
  split at casesSign <;> omega

theorem toInt_neg_of_ne_min (inside : -2 ^ 63 < word.toInt) : (-word).toInt = -word.toInt := by
  have below := word.toInt_lt
  rw [Int64.toInt_neg, Fits.bmod ⟨by omega, by omega⟩]

theorem toInt_sub_of_nonneg (leftNonneg : 0 ≤ left.toInt)
    (rightNonneg : 0 ≤ right.toInt) : (left - right).toInt = left.toInt - right.toInt := by
  have leftLt := left.toInt_lt
  have rightLt := right.toInt_lt
  rw [Int64.toInt_sub, Fits.bmod ⟨by omega, by omega⟩]

theorem toNat_min (left right : UInt64) : (min left right).toNat = min left.toNat right.toNat := by
  show (if left ≤ right then left else right).toNat = _
  rw [Nat.min_def]
  simp only [UInt64.le_iff_toNat_le]
  split <;> rfl

def indexBit (index : Nat) : UInt64 :=
  (1 : UInt64) <<< UInt64.ofNat index

def hasBit (mask : UInt64) (index : Nat) : Bool :=
  mask.toBitVec.getLsbD index

section

variable (small : index < 64)
include small

theorem toBitVec_indexBit :
    (indexBit index).toBitVec = twoPow 64 index := by
  rw [indexBit, UInt64.toBitVec_shiftLeft, twoPow_eq, shiftLeft_eq']
  simp [Nat.mod_eq_of_lt small]

theorem and_indexBit_ne_zero :
    (mask &&& indexBit index != 0) = hasBit mask index := by
  rw [Bool.eq_iff_iff, bne_iff_ne, ne_eq, ← UInt64.toBitVec_inj, UInt64.toBitVec_and,
    toBitVec_indexBit small, and_twoPow, hasBit]
  cases mask.toBitVec.getLsbD index with
  | false => simp
  | true =>
    have bit : (twoPow 64 index).getLsbD index = true := by
      simp [small]
    simp only [if_true, iff_true]
    intro zero
    rw [zero] at bit
    simp at bit

theorem hasBit_or_indexBit :
    hasBit (mask ||| indexBit index) other = (hasBit mask other || decide (index = other)) := by
  rw [hasBit, UInt64.toBitVec_or, toBitVec_indexBit small, getLsbD_or,
    getLsbD_twoPow, hasBit]
  simp [small]

theorem hasBit_and_not_indexBit (small' : other < 64) :
    hasBit (mask &&& ~~~indexBit index) other = (hasBit mask other && decide (index ≠ other)) := by
  rw [hasBit, UInt64.toBitVec_and, UInt64.toBitVec_not, toBitVec_indexBit small,
    getLsbD_and, getLsbD_not, getLsbD_twoPow, hasBit]
  simp [small, small']

end

end Aegis.Foundation
