import Aegis.Execution.RouterTypes
import Aegis.Foundation.MachineWords
import Mathlib.Data.Rat.Floor

/-!
The decay of alpha falls with time, and stays near the documented curve as long as its fraction does
not lead by more than the power of two allows.
-/

namespace Aegis.Routing

open Aegis.Foundation

def fractionOf (remainder halfLife : Nat) : Nat :=
  min (if 1000000 ≤ halfLife then remainder / (halfLife / 1000000)
    else remainder * 1000000 / halfLife) 1000000

def multiplierOf (elapsed halfLife : Nat) : Nat :=
  1000000 - fractionOf (elapsed % halfLife) halfLife / 2

def decayed (alpha elapsed halfLife : Nat) : Nat :=
  alpha / 2 ^ (elapsed / halfLife) * multiplierOf elapsed halfLife / 1000000

section

variable {alpha elapsed later halfLife : Nat}

theorem multiplierOf_bounds : 500000 ≤ multiplierOf elapsed halfLife ∧
    multiplierOf elapsed halfLife ≤ 1000000 := by
  have most : fractionOf (elapsed % halfLife) halfLife ≤ 1000000 := Nat.min_le_right _ _
  unfold multiplierOf
  omega

theorem decayed_bounds : alpha / 2 ^ (elapsed / halfLife) / 2 ≤ decayed alpha elapsed halfLife ∧
    decayed alpha elapsed halfLife ≤ alpha / 2 ^ (elapsed / halfLife) := by
  obtain ⟨low, high⟩ := @multiplierOf_bounds elapsed halfLife
  unfold decayed
  generalize alpha / 2 ^ (elapsed / halfLife) = base
  have half := Nat.mul_le_mul_left base low
  have whole := Nat.mul_le_mul_left base high
  omega

theorem fractionOf_mono {remainder other : Nat} (within : remainder ≤ other) :
    fractionOf remainder halfLife ≤ fractionOf other halfLife := by
  unfold fractionOf
  refine min_le_min_right _ ?_
  split
  · exact Nat.div_le_div_right within
  · exact Nat.div_le_div_right (Nat.mul_le_mul_right _ within)

/-- The multiplier falls, never below a half, and at the end the base is halved. -/
theorem decayed_anti (passed : elapsed ≤ later) :
    decayed alpha later halfLife ≤ decayed alpha elapsed halfLife := by
  rcases (Nat.div_le_div_right passed (c := halfLife)).eq_or_lt with same | more
  · unfold decayed
    rw [← same]
    apply Nat.div_le_div_right
    apply Nat.mul_le_mul_left
    have within : elapsed % halfLife ≤ later % halfLife := by
      have first := Nat.div_add_mod elapsed halfLife
      have second := Nat.div_add_mod later halfLife
      rw [same] at first
      omega
    have fraction := @fractionOf_mono halfLife _ _ within
    unfold multiplierOf
    omega
  · calc decayed alpha later halfLife ≤ alpha / 2 ^ (later / halfLife) := decayed_bounds.2
      _ ≤ alpha / 2 ^ (elapsed / halfLife + 1) :=
        Nat.div_le_div_left (Nat.pow_le_pow_right two_pos more) (Nat.two_pow_pos _)
      _ = alpha / 2 ^ (elapsed / halfLife) / 2 := by rw [Nat.pow_succ, Nat.div_div_eq_div_mul]
      _ ≤ decayed alpha elapsed halfLife := decayed_bounds.1

/-- The documented curve. -/
def curve (alpha : ℚ) (elapsed halfLife : Nat) : ℚ :=
  alpha / 2 ^ (elapsed / halfLife) * (1 - (elapsed % halfLife : Nat) / (2 * halfLife))

/-- The millionths by which half the fraction is ahead of the time that has passed. -/
def ahead (elapsed halfLife : Nat) : ℚ :=
  (fractionOf (elapsed % halfLife) halfLife / 2 : Nat) -
    1000000 * ((elapsed % halfLife : Nat) / (2 * halfLife))

/-- The millionths that the result is short of the curve: what the multiplier is ahead of it, and
the remainders of the division by the power of two and of the last one. -/
def shortfall (alpha elapsed halfLife : Nat) : ℚ :=
  alpha / 2 ^ (elapsed / halfLife) * ahead elapsed halfLife +
    (alpha % 2 ^ (elapsed / halfLife) : Nat) / 2 ^ (elapsed / halfLife) *
      multiplierOf elapsed halfLife +
    (alpha / 2 ^ (elapsed / halfLife) * multiplierOf elapsed halfLife % 1000000 : Nat)

theorem cast_div_eq (dividend divisor : Nat) :
    ((dividend / divisor : Nat) : ℚ) = (dividend - (dividend % divisor : Nat)) / divisor := by
  rcases Nat.eq_zero_or_pos divisor with rfl | positive
  · simp
  · rw [eq_div_iff (by positivity), eq_sub_iff_add_eq]
    exact_mod_cast Nat.div_add_mod' dividend divisor

theorem cast_multiplierOf : (multiplierOf elapsed halfLife : ℚ) = 1000000 *
    (1 - (elapsed % halfLife : Nat) / (2 * halfLife)) - ahead elapsed halfLife := by
  have bounds := @multiplierOf_bounds elapsed halfLife
  unfold multiplierOf at bounds ⊢
  rw [ahead, Nat.cast_sub (by omega)]
  push_cast
  ring

theorem curve_sub_decayed : curve alpha elapsed halfLife - decayed alpha elapsed halfLife =
    shortfall alpha elapsed halfLife / 1000000 := by
  rw [decayed, cast_div_eq, Nat.cast_mul, cast_div_eq alpha, curve, shortfall, cast_multiplierOf]
  push_cast
  ring

/-- The fraction is cut by less than one, whichever way it is computed. -/
theorem lt_fractionOf {remainder : Nat} (within : remainder < halfLife) :
    remainder * 1000000 < halfLife * (fractionOf remainder halfLife + 1) := by
  unfold fractionOf
  have most : remainder * 1000000 < halfLife * (1000000 + 1) := by omega
  rcases min_choice (if 1000000 ≤ halfLife then remainder / (halfLife / 1000000)
    else remainder * 1000000 / halfLife) 1000000 with chosen | chosen <;> rw [chosen]
  · split
    · calc remainder * 1000000
          < halfLife / 1000000 * (remainder / (halfLife / 1000000) + 1) * 1000000 :=
            Nat.mul_lt_mul_of_pos_right (Nat.lt_mul_div_succ _ (by omega)) (by decide)
        _ = halfLife / 1000000 * 1000000 * (remainder / (halfLife / 1000000) + 1) :=
            Nat.mul_right_comm _ _ _
        _ ≤ _ := Nat.mul_le_mul_right _ (Nat.div_mul_le_self _ _)
    · exact Nat.lt_mul_div_succ _ (by omega)
  · exact most

/-- The parts of the half-life are less than a nanosecond, whole nanoseconds or many, or nothing is
left to interpolate. -/
def EvenParts (remainder halfLife : Nat) : Prop :=
  halfLife < 1000000 ∨ 1000000 ∣ halfLife ∨ 1000000000000 ≤ halfLife ∨ remainder = 0

theorem fractionOf_le {remainder : Nat} (evenParts : EvenParts remainder halfLife) :
    fractionOf remainder halfLife * halfLife ≤ remainder * 1000000 + halfLife := by
  have most : fractionOf remainder halfLife ≤ _ := min_le_left _ _
  split at most
  · have parts := Nat.mul_le_of_le_div _ _ _ most
    -- What the parts leave of the half-life counts once for each part of the fraction.
    have uneven : fractionOf remainder halfLife * (halfLife % 1000000) ≤ halfLife := by
      obtain less | whole | many | rfl := evenParts
      · omega
      · simp [Nat.mod_eq_zero_of_dvd whole]
      · exact (Nat.mul_le_mul (min_le_right _ _) (Nat.mod_lt _ (by decide)).le).trans many
      · simp [fractionOf]
    calc fractionOf remainder halfLife * halfLife
        = fractionOf remainder halfLife * (halfLife / 1000000) * 1000000 +
          fractionOf remainder halfLife * (halfLife % 1000000) := by
          rw [Nat.mul_assoc, ← Nat.mul_add, Nat.div_add_mod']
      _ ≤ remainder * 1000000 + halfLife :=
          Nat.add_le_add (Nat.mul_le_mul_right _ parts) uneven
  · exact (Nat.mul_le_of_le_div _ _ _ most).trans (Nat.le_add_right _ _)

/-- A fraction that is cut short is never a whole millionth behind. -/
theorem neg_one_lt_ahead (positive : 0 < halfLife) : -1 < ahead elapsed halfLife := by
  have cut := lt_fractionOf (Nat.mod_lt elapsed positive)
  have halved : fractionOf (elapsed % halfLife) halfLife + 1 ≤
      2 * (fractionOf (elapsed % halfLife) halfLife / 2 + 1) := by omega
  have passed : ((elapsed % halfLife : Nat) / (2 * halfLife) : ℚ) <
      ((fractionOf (elapsed % halfLife) halfLife / 2 : Nat) + 1) / 1000000 := by
    have bound : (_ : ℚ) < _ := Nat.cast_lt.mpr (cut.trans_le (Nat.mul_le_mul_left _ halved))
    push_cast at bound
    rw [div_lt_div_iff₀ (by positivity) (by positivity)]
    linarith
  unfold ahead
  linarith

theorem ahead_le_one (evenParts : EvenParts (elapsed % halfLife) halfLife) (positive : 0 < halfLife) :
    ahead elapsed halfLife ≤ 1 := by
  have cut : (_ : ℚ) ≤ _ := Nat.cast_le.mpr (fractionOf_le evenParts)
  have halved : (_ : ℚ) ≤ _ :=
    Nat.cast_le.mpr (Nat.mul_div_le (fractionOf (elapsed % halfLife) halfLife) 2)
  push_cast at cut halved
  have passed : ((fractionOf (elapsed % halfLife) halfLife : ℚ) - 1) / 2 / 1000000 ≤
      (elapsed % halfLife : Nat) / (2 * halfLife) := by
    rw [div_div, div_le_div_iff₀ (by positivity) (by positivity)]
    linarith
  unfold ahead
  linarith

/-- The result is near the curve exactly if it is not too short of it: it is never above by more
than a millionth. -/
theorem decayed_near_iff (positive : 0 < halfLife) :
    |(decayed alpha elapsed halfLife - curve alpha elapsed halfLife : ℚ)| < 2 + alpha / 1000000 ↔
      shortfall alpha elapsed halfLife < 2000000 + alpha := by
  have short := @curve_sub_decayed alpha elapsed halfLife
  have behind := @neg_one_lt_ahead elapsed _ positive
  have halved : (alpha / 2 ^ (elapsed / halfLife) : ℚ) ≤ alpha :=
    div_le_self (by positivity) (one_le_pow₀ one_le_two)
  have above : (0 : ℚ) ≤ alpha / 2 ^ (elapsed / halfLife) := by positivity
  have least : -(alpha : ℚ) ≤ shortfall alpha elapsed halfLife := by
    have ahead := mul_le_mul_of_nonneg_left behind.le above
    have rest : (0 : ℚ) ≤ (alpha % 2 ^ (elapsed / halfLife) : Nat) / 2 ^ (elapsed / halfLife) *
      multiplierOf elapsed halfLife := by positivity
    have last : (0 : ℚ) ≤ (alpha / 2 ^ (elapsed / halfLife) * multiplierOf elapsed halfLife %
      1000000 : Nat) := by positivity
    unfold shortfall
    linarith
  rw [abs_lt]
  constructor
  · rintro ⟨low, -⟩
    linarith
  · intro less
    constructor <;> linarith

/-- The remainders lose less than a unit each. -/
theorem shortfall_lt (little : alpha = 0 ∨ ahead elapsed halfLife ≤ 2 ^ (elapsed / halfLife)) :
    shortfall alpha elapsed halfLife < 2000000 + alpha := by
  have lead : (alpha / 2 ^ (elapsed / halfLife) * ahead elapsed halfLife : ℚ) ≤ alpha := by
    obtain rfl | little := little
    · simp
    · rw [div_mul_eq_mul_div, div_le_iff₀ (by positivity)]
      exact mul_le_mul_of_nonneg_left little (by positivity)
  have rest : ((alpha % 2 ^ (elapsed / halfLife) : Nat) / 2 ^ (elapsed / halfLife) *
      multiplierOf elapsed halfLife : ℚ) ≤ 1000000 := by
    have below : ((alpha % 2 ^ (elapsed / halfLife) : Nat) / 2 ^ (elapsed / halfLife) : ℚ) ≤ 1 :=
      div_le_one_of_le₀ (by exact_mod_cast (Nat.mod_lt _ (Nat.two_pow_pos _)).le) (by positivity)
    exact (mul_le_of_le_one_left (by positivity) below).trans
      (by exact_mod_cast multiplierOf_bounds.2)
  have last : ((alpha / 2 ^ (elapsed / halfLife) * multiplierOf elapsed halfLife %
      1000000 : Nat) : ℚ) < 1000000 := by
    exact_mod_cast Nat.mod_lt _ (by decide)
  unfold shortfall
  linarith

end

variable {alpha : Int64} {elapsed later halfLife : UInt64}

/-- The last product of `decay_alpha_microticks`. -/
def decayProduct (alpha : Int64) (elapsed halfLife : UInt64) : Int :=
  (alpha / ((1 : UInt64) <<< (elapsed / halfLife)).toInt64).toInt *
    (kRouterPartsPerMillion.toUInt64 -
      decayFractionPpm (elapsed % halfLife) halfLife / 2).toInt64.toInt

theorem sign_mul_tdiv (value : Int) (dividend divisor : Nat) :
    (value.sign * dividend).tdiv divisor = value.sign * (dividend / divisor : Nat) := by
  rcases Int.sign_trichotomy value with sign | sign | sign
  all_goals simp [sign, Int.neg_tdiv]

theorem toInt_div_of_small {dividend divisor : Int64} {value : Int} {magnitude part : Nat}
    (signed : dividend.toInt = value.sign * magnitude) (small : magnitude < 2 ^ 63)
    (byPart : divisor.toInt = part) :
    (dividend / divisor).toInt = value.sign * (magnitude / part : Nat) := by
  have inside : dividend ≠ .minValue := by
    rintro rfl
    rw [Int64.toInt_minValue] at signed
    rcases Int.sign_trichotomy value with sign | sign | sign
    all_goals
      rw [sign] at signed
      omega
  rw [Int64.toInt_div_of_ne_left _ _ inside, signed, byPart, sign_mul_tdiv]

theorem toNat_parts : kRouterPartsPerMillion.toUInt64.toNat = 1000000 :=
  rfl

theorem toNat_decayFractionPpm {remainder : UInt64} (within : remainder < halfLife) :
    (decayFractionPpm remainder halfLife).toNat = fractionOf remainder.toNat halfLife.toNat := by
  rw [UInt64.lt_iff_toNat_lt] at within
  unfold decayFractionPpm fractionOf
  rw [toNat_min, toNat_parts]
  simp only [UInt64.le_iff_toNat_le, toNat_parts]
  split
  · rw [UInt64.toNat_div, UInt64.toNat_div, toNat_parts]
  · rw [UInt64.toNat_div, UInt64.toNat_mul, toNat_parts, Nat.mod_eq_of_lt (by omega)]

theorem toInt_multiplier (nonzero : halfLife ≠ 0) : (kRouterPartsPerMillion.toUInt64 -
      decayFractionPpm (elapsed % halfLife) halfLife / 2).toInt64.toInt =
    multiplierOf elapsed.toNat halfLife.toNat := by
  have within : elapsed % halfLife < halfLife := by
    rw [UInt64.lt_iff_toNat_lt, UInt64.toNat_mod]
    exact Nat.mod_lt _ (toNat_pos nonzero)
  have bounds := @multiplierOf_bounds elapsed.toNat halfLife.toNat
  have fraction : (decayFractionPpm (elapsed % halfLife) halfLife / 2).toNat =
      fractionOf (elapsed.toNat % halfLife.toNat) halfLife.toNat / 2 := by
    rw [UInt64.toNat_div, toNat_decayFractionPpm within, UInt64.toNat_mod]
    rfl
  unfold multiplierOf at bounds ⊢
  have multiplier := UInt64.toNat_sub_of_le kRouterPartsPerMillion.toUInt64 _
    (UInt64.le_iff_toNat_le.mpr (by rw [fraction, toNat_parts]; omega))
  rw [fraction, toNat_parts] at multiplier
  rw [toInt_toInt64, multiplier]
  omega

section

variable (small : alpha.toInt.natAbs ≤ 1000000000) (nonzero : halfLife ≠ 0)
  (recent : elapsed / halfLife < 63)
include small recent

theorem toInt_base : (alpha / ((1 : UInt64) <<< (elapsed / halfLife)).toInt64).toInt =
    alpha.toInt.sign * (alpha.toInt.natAbs / 2 ^ (elapsed.toNat / halfLife.toNat) : Nat) := by
  rw [UInt64.lt_iff_toNat_lt, UInt64.toNat_div] at recent
  have below : 2 ^ (elapsed.toNat / halfLife.toNat) < 2 ^ 63 :=
    Nat.pow_lt_pow_right (by decide) recent
  have power : ((1 : UInt64) <<< (elapsed / halfLife)).toNat =
      2 ^ (elapsed.toNat / halfLife.toNat) := by
    have counted : elapsed.toNat / halfLife.toNat % 64 = _ :=
      Nat.mod_eq_of_lt (Nat.lt_succ_of_lt recent)
    rw [UInt64.toNat_shiftLeft, UInt64.toNat_div, counted, UInt64.toNat_one, Nat.one_shiftLeft]
    exact Nat.mod_eq_of_lt (by omega)
  refine toInt_div_of_small (Int.sign_mul_natAbs _).symm (by omega) ?_
  rw [toInt_toInt64 (power.trans_lt below), power]

include nonzero

theorem decayProduct_eq :
    let product := alpha.toInt.natAbs / 2 ^ (elapsed.toNat / halfLife.toNat) *
      multiplierOf elapsed.toNat halfLife.toNat
    product < 2 ^ 63 ∧ decayProduct alpha elapsed halfLife = alpha.toInt.sign * product ∧
      Fits (decayProduct alpha elapsed halfLife) := by
  intro product
  have most : product ≤ _ := Nat.mul_le_mul ((Nat.div_le_self _ _).trans small)
    multiplierOf_bounds.2
  have value : decayProduct alpha elapsed halfLife = alpha.toInt.sign * product := by
    rw [decayProduct, toInt_base small recent, toInt_multiplier nonzero, Int.mul_assoc,
      Int.natCast_mul]
  refine ⟨by omega, value, ?_⟩
  rw [value]
  unfold Fits
  rcases Int.sign_trichotomy alpha.toInt with sign | sign | sign
  all_goals
    rw [sign]
    omega

theorem toInt_decayAlphaMicroticks : (decayAlphaMicroticks alpha elapsed halfLife).toInt =
    alpha.toInt.sign * decayed alpha.toInt.natAbs elapsed.toNat halfLife.toNat := by
  unfold decayAlphaMicroticks
  by_cases zero : alpha = 0
  · rw [if_pos (.inr zero), zero, Int64.toInt_zero, Int.sign_zero, Int.zero_mul]
  rw [if_neg (not_or.mpr ⟨nonzero, zero⟩), if_neg (UInt64.not_le.mpr recent)]
  obtain ⟨less, value, fits⟩ := decayProduct_eq small nonzero recent
  exact toInt_div_of_small (fits.toInt_mul.trans value) less rfl

theorem natAbs_decayAlphaMicroticks : (decayAlphaMicroticks alpha elapsed halfLife).toInt.natAbs =
    decayed alpha.toInt.natAbs elapsed.toNat halfLife.toNat := by
  rw [toInt_decayAlphaMicroticks small nonzero recent, Int.natAbs_mul, Int.natAbs_sign]
  split
  · next zero => simp [zero, decayed]
  · simp

end

theorem decay_anti (small : alpha.toInt.natAbs ≤ 1000000000) (nonzero : halfLife ≠ 0)
    (passed : elapsed ≤ later) : (decayAlphaMicroticks alpha later halfLife).toInt.natAbs ≤
      (decayAlphaMicroticks alpha elapsed halfLife).toInt.natAbs := by
  rw [UInt64.le_iff_toNat_le] at passed
  by_cases recent : later / halfLife < 63
  · have recent' : elapsed / halfLife < 63 := by
      rw [UInt64.lt_iff_toNat_lt, UInt64.toNat_div] at recent ⊢
      exact (Nat.div_le_div_right passed).trans_lt recent
    rw [natAbs_decayAlphaMicroticks small nonzero recent,
      natAbs_decayAlphaMicroticks small nonzero recent']
    exact decayed_anti passed
  · have gone : decayAlphaMicroticks alpha later halfLife = 0 := by
      unfold decayAlphaMicroticks
      rw [if_pos (UInt64.not_lt.mp recent), ite_self]
    rw [gone]
    exact Nat.zero_le _

theorem cast_natAbs (value : Int) : |(value : ℚ)| = value.natAbs := by
  rw [← Int.cast_abs, Int.abs_eq_natAbs, Int.cast_natCast]

/-- The sign takes no part in how near the result is. -/
theorem abs_decay_sub_curve (small : alpha.toInt.natAbs ≤ 1000000000) (nonzero : halfLife ≠ 0)
    (recent : elapsed / halfLife < 63) :
    |((decayAlphaMicroticks alpha elapsed halfLife).toInt -
        curve alpha.toInt elapsed.toNat halfLife.toNat : ℚ)| =
      |(decayed alpha.toInt.natAbs elapsed.toNat halfLife.toNat -
        curve alpha.toInt.natAbs elapsed.toNat halfLife.toNat : ℚ)| := by
  have turned : curve alpha.toInt elapsed.toNat halfLife.toNat =
      alpha.toInt.sign * curve alpha.toInt.natAbs elapsed.toNat halfLife.toNat := by
    have split : (alpha.toInt : ℚ) = alpha.toInt.sign * alpha.toInt.natAbs := by
      rw [← Int.cast_natCast, ← Int.cast_mul, Int.sign_mul_natAbs]
    rw [curve, curve, split]
    ring
  rw [toInt_decayAlphaMicroticks small nonzero recent, turned, Int.cast_mul, Int.cast_natCast,
    ← mul_sub, abs_mul]
  rcases Int.sign_trichotomy alpha.toInt with sign | sign | sign
  · simp [sign]
  · simp [Int.sign_eq_zero_iff_zero.mp sign, decayed, curve]
  · simp [sign]

/-- The decayed alpha keeps its sign, falls with time and never overflows. It is near the curve
exactly if the remainders of its divisions leave it no further below, as they do without an alpha
and where the fraction leads by no more than the power of two it is divided by. -/
theorem alpha_decays (bounded : |alpha.toInt| ≤ kMaximumRouterAlphaMicroticks.toInt)
    (nonzero : halfLife ≠ 0) (recent : elapsed / halfLife < 63) :
    let result := (decayAlphaMicroticks alpha elapsed halfLife).toInt
    let near := |(result - curve alpha.toInt elapsed.toNat halfLife.toNat : ℚ)| <
      2 + |(alpha.toInt : ℚ)| / 1000000
    (result = 0 ∨ result.sign = alpha.toInt.sign) ∧
    (near ↔ shortfall alpha.toInt.natAbs elapsed.toNat halfLife.toNat <
      2000000 + |(alpha.toInt : ℚ)|) ∧
    (alpha = 0 ∨ EvenParts (elapsed % halfLife).toNat halfLife.toNat ∨
      ahead elapsed.toNat halfLife.toNat ≤ 2 ^ (elapsed / halfLife).toNat → near) ∧
    (∀ later, elapsed ≤ later →
      |(decayAlphaMicroticks alpha later halfLife).toInt| ≤ |result|) ∧
    (halfLife.toNat < 1000000 → (elapsed % halfLife).toNat * 1000000 < 2 ^ 64) ∧
    Fits (decayProduct alpha elapsed halfLife) := by
  have small : alpha.toInt.natAbs ≤ 1000000000 := by
    rw [Int.abs_eq_natAbs] at bounded
    exact Int.ofNat_le.mp bounded
  have computed := toInt_decayAlphaMicroticks small nonzero recent
  have exactly := @decayed_near_iff alpha.toInt.natAbs elapsed.toNat _ (toNat_pos nonzero)
  rw [← abs_decay_sub_curve small nonzero recent, ← cast_natAbs] at exactly
  refine ⟨?_, exactly, fun little => exactly.mpr ?_, fun later passed => ?_, fun short => ?_,
    (decayProduct_eq small nonzero recent).2.2⟩
  · rw [computed]
    rcases Nat.eq_zero_or_pos (decayed alpha.toInt.natAbs elapsed.toNat halfLife.toNat) with
      none | some
    · exact .inl (by rw [none, Int.natCast_zero, Int.mul_zero])
    · right
      rw [Int.sign_mul, Int.sign_sign, Int.sign_natCast_of_ne_zero some.ne', Int.mul_one]
  · rw [cast_natAbs]
    apply shortfall_lt
    obtain rfl | even | lead := little
    · exact .inl rfl
    · rw [UInt64.toNat_mod] at even
      exact .inr ((ahead_le_one even (toNat_pos nonzero)).trans (one_le_pow₀ one_le_two))
    · rw [UInt64.toNat_div] at lead
      exact .inr lead
  · rw [Int.abs_eq_natAbs, Int.abs_eq_natAbs]
    exact Int.ofNat_le.mpr (decay_anti small nonzero passed)
  · have within := Nat.mod_lt elapsed.toNat (toNat_pos nonzero)
    rw [UInt64.toNat_mod]
    omega

/-- A second and a half-life that no million divides. -/
theorem alpha_decays_of_second : let alpha : Int64 := -7000000
    |((decayAlphaMicroticks alpha 2500000000 1000000000).toInt -
      curve alpha.toInt 2500000000 1000000000 : ℚ)| < 2 + |(alpha.toInt : ℚ)| / 1000000 ∧
    |((decayAlphaMicroticks alpha 2000001 1000001).toInt -
      curve alpha.toInt 2000001 1000001 : ℚ)| < 2 + |(alpha.toInt : ℚ)| / 1000000 :=
  have lead : ahead 2000001 1000001 ≤ 2 ^ 1 := by norm_num [ahead, fractionOf]
  ⟨(alpha_decays (by decide) (by decide) (by decide)).2.2.1 (.inr (.inl (.inr (.inl (by decide))))),
    (alpha_decays (by decide) (by decide) (by decide)).2.2.1 (.inr (.inr lead))⟩

/-- The fraction is complete halfway through. -/
theorem alpha_halved_early :
    (decayAlphaMicroticks 1000000000 1000000 1999999).toInt = 500000000 ∧
      2 + 1000 < |(500000000 - curve 1000000000 1000000 1999999 : ℚ)| := by
  refine ⟨by decide, ?_⟩
  norm_num [curve]

end Aegis.Routing
