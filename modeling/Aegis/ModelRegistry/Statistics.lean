import Aegis.Foundation.MachineWords
import Mathlib.Algebra.Order.Chebyshev
import Mathlib.Analysis.SpecialFunctions.Pow.Real

/-!
The paired confidence interval of a deployment (`model_registry/deployment_statistics.go`).
-/

namespace Aegis.ModelRegistry

open Aegis.Foundation

structure MetricAccumulator where
  count : UInt64 := 0
  sum : Int := 0
  sumSquares : Int := 0

def MetricAccumulator.add (accumulator : MetricAccumulator) (value : Int64) : MetricAccumulator :=
  { count := accumulator.count + 1
    sum := accumulator.sum + value.toInt
    sumSquares := accumulator.sumSquares + value.toInt * value.toInt }

structure RollbackThreshold where
  minimumSamples : UInt64
  maximumRegression : Int64

/-- A metric is only named, so any type of names will do. -/
structure ConfidenceInterval (Metric : Type) where
  metric : Metric
  sampleCount : UInt64
  meanDelta : Int := 0
  lowerBound : Int := 0
  upperBound : Int := 0
  halfWidth : Int := 0
  threshold : Int64
  enoughSamples : Bool
  triggered : Bool := false

def ceilDiv (numerator denominator : Int) : Int :=
  if numerator.tmod denominator ≠ 0 ∧ 0 < numerator then numerator.tdiv denominator + 1
  else numerator.tdiv denominator

def floorDiv (numerator denominator : Int) : Int :=
  if numerator.tmod denominator ≠ 0 ∧ numerator < 0 then numerator.tdiv denominator - 1
  else numerator.tdiv denominator

def ceilSqrt (value : Int) : Int :=
  let root : Int := value.toNat.sqrt
  if root * root < value then root + 1 else root

variable {Metric : Type}

def MetricAccumulator.varianceNumerator (accumulator : MetricAccumulator) : Int :=
  accumulator.count.toNat * accumulator.sumSquares - accumulator.sum * accumulator.sum

def MetricAccumulator.halfWidth (accumulator : MetricAccumulator) (confidenceZPPM : UInt32) : Int :=
  let n : Int := accumulator.count.toNat
  let varianceOfMeanCeil := ceilDiv accumulator.varianceNumerator (n * n * (n - 1))
  ceilDiv (ceilSqrt varianceOfMeanCeil * confidenceZPPM.toNat) 1000000

def MetricAccumulator.interval (accumulator : MetricAccumulator) (metric : Metric)
    (threshold : RollbackThreshold) (confidenceZPPM : UInt32) :
    Except String (ConfidenceInterval Metric) :=
  let n : Int := accumulator.count.toNat
  let result : ConfidenceInterval Metric :=
    { metric, sampleCount := accumulator.count, threshold := threshold.maximumRegression
      enoughSamples := threshold.minimumSamples ≤ accumulator.count }
  let meanFloor := floorDiv accumulator.sum n
  let meanCeil := ceilDiv accumulator.sum n
  let mean := accumulator.sum.tdiv n
  let halfWidth := accumulator.halfWidth confidenceZPPM
  let lower := meanFloor - halfWidth
  let upper := meanCeil + halfWidth
  if accumulator.count = 0 then .ok result
  else if ¬ Fits mean then .error "mean delta exceeds int64"
  else if accumulator.count < 2 then
    if ¬ Fits meanFloor ∨ ¬ Fits meanCeil then .error "confidence bound exceeds int64"
    else .ok { result with meanDelta := mean, lowerBound := meanFloor, upperBound := meanCeil }
  else if accumulator.varianceNumerator < 0 then .error "negative variance numerator"
  else if halfWidth < 0 ∨ 2 ^ 64 ≤ halfWidth then .error "confidence half-width exceeds uint64"
  else if ¬ Fits lower ∨ ¬ Fits upper then .error "confidence interval exceeds int64"
  else
    .ok { result with
      meanDelta := mean, halfWidth, lowerBound := lower, upperBound := upper
      triggered := result.enoughSamples && threshold.maximumRegression.toInt < upper }

section

variable (numerator : Int) {denominator : Int} (positive : 0 < denominator)
include positive

theorem floorDiv_eq : floorDiv numerator denominator = ⌊(numerator / denominator : ℝ)⌋ := by
  rw [Int.floor_div_cast_of_nonneg positive.le, Int.floor_intCast]
  simp only [floorDiv, Int.tdiv_eq_ediv, ne_eq, ← Int.dvd_iff_tmod_eq_zero,
    Int.sign_eq_one_of_pos positive]
  grind

theorem ceilDiv_eq : ceilDiv numerator denominator = ⌈(numerator / denominator : ℝ)⌉ := by
  have divides : numerator = 0 → denominator ∣ numerator := fun zero => zero ▸ dvd_zero _
  rw [← neg_neg (numerator / denominator : ℝ), Int.ceil_neg, ← neg_div, ← Int.cast_neg,
    Int.floor_div_cast_of_nonneg positive.le, Int.floor_intCast, Int.neg_ediv]
  simp only [ceilDiv, Int.tdiv_eq_ediv, ne_eq, ← Int.dvd_iff_tmod_eq_zero,
    Int.sign_eq_one_of_pos positive]
  grind

end

theorem tdiv_between (numerator denominator : Int) :
    floorDiv numerator denominator ≤ numerator.tdiv denominator ∧
      numerator.tdiv denominator ≤ ceilDiv numerator denominator := by
  unfold floorDiv ceilDiv
  split_ifs <;> omega

theorem ceilSqrt_bounds {variance : ℝ} {value : Int} (nonneg : 0 ≤ variance)
    (above : variance ≤ value) (near : (value : ℝ) < variance + 1) :
    √variance ≤ ceilSqrt value ∧ (ceilSqrt value : ℝ) < √variance + 2 := by
  have whole : (value : ℝ) = value.toNat := by
    exact_mod_cast (Int.toNat_of_nonneg (by exact_mod_cast nonneg.trans above)).symm
  have below : ((value.toNat.sqrt : ℕ) : ℝ) ≤ √value := by
    rw [whole]
    exact Real.nat_sqrt_le_real_sqrt
  have roots : √(value : ℝ) < √variance + 1 := by
    rw [Real.sqrt_lt' (by positivity)]
    nlinarith [Real.sq_sqrt nonneg, Real.sqrt_nonneg variance]
  have least : √(value : ℝ) < value.toNat.sqrt + 1 := by
    rw [whole]
    exact Real.real_sqrt_lt_nat_sqrt_succ
  unfold ceilSqrt
  dsimp only
  split
  · push_cast
    exact ⟨by linarith [Real.sqrt_le_sqrt above], by linarith⟩
  · next exactRoot =>
    have square : (value : ℝ) ≤ (value.toNat.sqrt : ℝ) * value.toNat.sqrt := by
      exact_mod_cast not_lt.mp exactRoot
    push_cast
    refine ⟨(Real.sqrt_le_sqrt above).trans ?_, by linarith⟩
    exact Real.sqrt_le_iff.mpr ⟨by positivity, by nlinarith⟩

def accumulate (samples : List Int64) : MetricAccumulator :=
  samples.foldl .add {}

def sumOf (samples : List Int64) : Int :=
  (samples.map (·.toInt)).sum

def squaresOf (samples : List Int64) : Int :=
  (samples.map fun value => value.toInt * value.toInt).sum

theorem accumulate_eq (samples : List Int64) :
    accumulate samples = ⟨.ofNat samples.length, sumOf samples, squaresOf samples⟩ := by
  induction samples using List.reverseRecOn with
  | nil => rfl
  | append_singleton rest value ih =>
    unfold accumulate at ih ⊢
    rw [List.foldl_concat, ih]
    simp [MetricAccumulator.add, sumOf, squaresOf]

theorem accumulate_perm {samples other : List Int64} (perm : other.Perm samples) :
    accumulate other = accumulate samples := by
  rw [accumulate_eq, accumulate_eq, perm.length_eq, sumOf, squaresOf, (perm.map _).sum_eq,
    (perm.map _).sum_eq, sumOf, squaresOf]

noncomputable def meanOf (samples : List Int64) : ℝ :=
  sumOf samples / samples.length

/-- The exact standard error of the mean. -/
noncomputable def standardErrorOf (samples : List Int64) : ℝ :=
  let n : ℝ := samples.length
  √((n * squaresOf samples - sumOf samples ^ 2) / (n ^ 2 * (n - 1)))

section

variable {samples : List Int64} (counted : samples.length < 2 ^ 64)
include counted

theorem count_accumulate : (accumulate samples).count.toNat = samples.length := by
  rw [accumulate_eq]
  exact UInt64.toNat_ofNat_of_lt' counted

theorem varianceNumerator_nonneg : 0 ≤ (accumulate samples).varianceNumerator := by
  have square := sq_sum_le_card_mul_sum_sq (s := Finset.univ)
    (f := fun index : Fin samples.length => (samples.get index).toInt)
  rw [MetricAccumulator.varianceNumerator, count_accumulate counted, accumulate_eq, sub_nonneg]
  simpa [sumOf, squaresOf, ← Fin.sum_univ_fun_getElem, ← sq] using square

variable (several : 2 ≤ samples.length)
include several

theorem halfWidth_bounds (zPPM : UInt32) :
    let z : ℝ := zPPM.toNat / 1000000
    z * standardErrorOf samples ≤ (accumulate samples).halfWidth zPPM ∧
      (accumulate samples).halfWidth zPPM < z * standardErrorOf samples + 2 * z + 1 := by
  have nonneg := varianceNumerator_nonneg counted
  have count : (2 : Int) ≤ samples.length := by exact_mod_cast several
  have positive : 0 < (samples.length * samples.length * (samples.length - 1) : Int) :=
    mul_pos (mul_pos (by omega) (by omega)) (by omega)
  have variance : ((accumulate samples).varianceNumerator : ℝ) /
      (samples.length * samples.length * (samples.length - 1) : Int) =
        (samples.length * squaresOf samples - sumOf samples ^ 2) /
          (samples.length ^ 2 * (samples.length - 1)) := by
    rw [MetricAccumulator.varianceNumerator, count_accumulate counted, accumulate_eq]
    push_cast
    ring
  have nonneg' := div_nonneg (Int.cast_nonneg (R := ℝ) nonneg) (Int.cast_nonneg positive.le)
  -- The variance is rounded up, then its root, then the scaled root.
  have value := ceilDiv_eq (accumulate samples).varianceNumerator positive
  obtain ⟨above, near⟩ := ceilSqrt_bounds nonneg' (value ▸ Int.le_ceil _)
    (value ▸ Int.ceil_lt_add_one _)
  unfold MetricAccumulator.halfWidth standardErrorOf
  rw [variance] at above near
  rw [count_accumulate counted, ceilDiv_eq _ (by decide)]
  generalize ceilSqrt _ = root at above near ⊢
  have ceil := Int.le_ceil ((root * zPPM.toNat : Int) / (1000000 : Int) : ℝ)
  have least := Int.ceil_lt_add_one ((root * zPPM.toNat : Int) / (1000000 : Int) : ℝ)
  push_cast at ceil least ⊢
  have factor : (0 : ℝ) ≤ zPPM.toNat / 1000000 := by positivity
  have scaled := mul_le_mul_of_nonneg_left above factor
  have scaled' := mul_le_mul_of_nonneg_left near.le factor
  constructor <;> linarith

variable (bounded : ∀ value ∈ samples, |value.toInt| ≤ 10 ^ 15)
include bounded

omit counted several in
theorem sums_le : |sumOf samples| ≤ 10 ^ 15 * (samples.length : Int) ∧
    squaresOf samples ≤ 10 ^ 30 * (samples.length : Int) := by
  unfold sumOf squaresOf
  induction samples with
  | nil => simp
  | cons value rest ih =>
    obtain ⟨first, others⟩ := List.forall_mem_cons.mp bounded
    obtain ⟨sum, squares⟩ := ih others
    rw [abs_le] at sum first ⊢
    simp only [List.map_cons, List.sum_cons, List.length_cons, Nat.cast_succ]
    refine ⟨⟨by linarith, by linarith⟩, ?_⟩
    nlinarith

omit counted in
theorem meanOf_le : |meanOf samples| ≤ 10 ^ 15 := by
  obtain ⟨sum, -⟩ := sums_le bounded
  have positive : (0 : ℝ) < samples.length := by exact_mod_cast (by omega : 0 < samples.length)
  rw [meanOf, abs_div, Nat.abs_cast, div_le_iff₀ positive]
  exact_mod_cast sum

omit counted in
theorem standardErrorOf_le : standardErrorOf samples ≤ 10 ^ 15 := by
  obtain ⟨-, squares⟩ := sums_le bounded
  have count : (2 : ℝ) ≤ samples.length := by exact_mod_cast several
  have squares : (squaresOf samples : ℝ) ≤ 10 ^ 30 * samples.length := by exact_mod_cast squares
  unfold standardErrorOf
  generalize (samples.length : ℝ) = n at *
  rw [Real.sqrt_le_left (by positivity)]
  apply div_le_of_le_mul₀ (by nlinarith) (by positivity)
  have each := mul_le_mul_of_nonneg_left squares (by linarith : 0 ≤ n)
  nlinarith

omit counted several bounded in
theorem fits_of_real {value : Int} (small : |(value : ℝ)| ≤ 10 ^ 18) : Fits value := by
  have small : |value| ≤ 10 ^ 18 := by exact_mod_cast small
  rw [abs_le] at small
  unfold Fits
  omega

/-- The interval of fewer than 2^64 samples encloses the exact one, exceeds it by little, does not
depend on the order of the samples, and triggers above the threshold only. -/
theorem interval_conservative (zPPM : UInt32) (high : zPPM ≤ 5000000)
    (metric : Metric) (threshold : RollbackThreshold) :
    let z : ℝ := zPPM.toNat / 1000000
    ∃ interval, (accumulate samples).interval metric threshold zPPM = .ok interval ∧
      interval.lowerBound ≤ meanOf samples - z * standardErrorOf samples ∧
      meanOf samples + z * standardErrorOf samples ≤ interval.upperBound ∧
      interval.upperBound < meanOf samples + z * standardErrorOf samples + (2 + 2 * z) ∧
      (∀ other : List Int64, other.Perm samples →
        (accumulate other).interval metric threshold zPPM = .ok interval) ∧
      (interval.triggered = true ↔ threshold.minimumSamples.toNat ≤ samples.length ∧
        threshold.maximumRegression.toInt < interval.upperBound) := by
  intro z
  have zNonneg : 0 ≤ z := by positivity
  have zAtMost : z ≤ 5 := by
    refine div_le_of_le_mul₀ (by norm_num) (by norm_num) ?_
    exact_mod_cast UInt32.le_iff_toNat_le.mp high
  obtain ⟨wide, narrow⟩ : z * standardErrorOf samples ≤ _ ∧
    _ < z * standardErrorOf samples + 2 * z + 1 := halfWidth_bounds counted several zPPM
  clear_value z
  have most := mul_le_mul zAtMost (standardErrorOf_le several bounded) (Real.sqrt_nonneg _)
    (by norm_num)
  have least : 0 ≤ z * standardErrorOf samples := mul_nonneg zNonneg (Real.sqrt_nonneg _)
  generalize z * standardErrorOf samples = exactWidth at wide narrow most least ⊢
  have floor := floorDiv_eq (sumOf samples) (by omega : 0 < (samples.length : Int))
  have ceil := ceilDiv_eq (sumOf samples) (by omega : 0 < (samples.length : Int))
  rw [Int.cast_natCast, ← meanOf] at floor ceil
  obtain ⟨meanLow, meanHigh⟩ := abs_le.mp (meanOf_le several bounded)
  have floorAtMost := Int.floor_le (meanOf samples)
  have belowFloor := Int.lt_floor_add_one (meanOf samples)
  have ceilAtLeast := Int.le_ceil (meanOf samples)
  have ceilBelow := Int.ceil_lt_add_one (meanOf samples)
  have meanFits : Fits ((sumOf samples).tdiv samples.length) := by
    obtain ⟨below, above⟩ := tdiv_between (sumOf samples) samples.length
    rw [floor, ← @Int.cast_le ℝ] at below
    rw [ceil, ← @Int.cast_le ℝ] at above
    exact fits_of_real (abs_le.mpr ⟨by linarith, by linarith⟩)
  have nonneg := varianceNumerator_nonneg counted
  obtain ⟨interval, computed, lower, upper, triggered⟩ : ∃ interval,
      (accumulate samples).interval metric threshold zPPM = .ok interval ∧
      interval.lowerBound = ⌊meanOf samples⌋ - (accumulate samples).halfWidth zPPM ∧
      interval.upperBound = ⌈meanOf samples⌉ + (accumulate samples).halfWidth zPPM ∧
      interval.triggered = (threshold.minimumSamples.toNat ≤ samples.length &&
        threshold.maximumRegression.toInt < interval.upperBound) := by
    -- Every check passes: mean and width are small beside a word.
    have count := count_accumulate counted
    have sum : (accumulate samples).sum = sumOf samples := by rw [accumulate_eq]
    unfold MetricAccumulator.interval
    simp only [UInt64.le_iff_toNat_le, UInt64.lt_iff_toNat_lt, ← UInt64.toNat_inj, count, sum,
      floor, ceil, UInt64.reduceToNat]
    generalize (accumulate samples).halfWidth zPPM = width at wide narrow
    have lowerFits : Fits (⌊meanOf samples⌋ - width) :=
      fits_of_real (by push_cast; exact abs_le.mpr ⟨by linarith, by linarith⟩)
    have upperFits : Fits (⌈meanOf samples⌉ + width) :=
      fits_of_real (by push_cast; exact abs_le.mpr ⟨by linarith, by linarith⟩)
    have widthFits : Fits width := fits_of_real (abs_le.mpr ⟨by linarith, by linarith⟩)
    have widthNonneg : 0 ≤ width := by exact_mod_cast least.trans wide
    unfold Fits at widthFits
    rw [if_neg (by omega), if_neg (not_not.mpr meanFits), if_neg (by omega),
      if_neg (not_lt.mpr nonneg), if_neg (by omega), if_neg (by simp [lowerFits, upperFits])]
    exact ⟨_, rfl, rfl, rfl, rfl⟩
  have upper' : (interval.upperBound : ℝ) =
      ⌈meanOf samples⌉ + (accumulate samples).halfWidth zPPM := by
    rw [upper, Int.cast_add]
  refine ⟨interval, computed, ?_, by linarith, by linarith, fun other perm => ?_, ?_⟩
  · rw [lower, Int.cast_sub]
    linarith
  · rw [accumulate_perm perm, computed]
  · rw [triggered, Bool.and_eq_true, decide_eq_true_eq, decide_eq_true_eq]

end

theorem interval_conservative_of_two : ∃ interval,
    (accumulate [-10, 12]).interval () ⟨2, 5⟩ 1960000 = .ok interval ∧
      (interval.triggered = true ↔ 5 < interval.upperBound) := by
  obtain ⟨interval, computed, -, -, -, -, triggered⟩ := @interval_conservative Unit [-10, 12]
    (by decide) (by decide) (by simp) 1960000 (by decide) () ⟨2, 5⟩
  exact ⟨interval, computed, triggered.trans (and_iff_right (by decide))⟩

/-- After 2^64 samples the count is zero again, and so are the bounds, whatever the mean. -/
theorem interval_wraps :
    let samples : List Int64 := .replicate (2 ^ 64) 1
    meanOf samples = 1 ∧ ∃ interval,
      (accumulate samples).interval () ⟨2, 5⟩ 1960000 = .ok interval ∧
        interval.upperBound = 0 := by
  intro samples
  have count : (accumulate samples).count = 0 := by
    rw [accumulate_eq, List.length_replicate]
    rfl
  refine ⟨?_, ?_⟩
  · have one : (1 : Int64).toInt = 1 := rfl
    rw [meanOf, sumOf, List.map_replicate, List.sum_replicate, List.length_replicate, one]
    norm_num
  · rw [MetricAccumulator.interval, if_pos count]
    exact ⟨_, rfl, rfl⟩

end Aegis.ModelRegistry
