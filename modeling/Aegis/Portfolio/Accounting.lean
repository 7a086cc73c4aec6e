import Aegis.Foundation.AverageCost
import Aegis.Foundation.MachineWords
import Aegis.Foundation.Runs
import Aegis.Portfolio.Types
import Mathlib.Algebra.BigOperators.Group.List.Basic

/-!
Positions of the portfolio service (`risk/src/portfolio_service.cpp`). Where a checked update
fails, the caller returns the position unchanged.
-/

namespace Aegis.Portfolio

open Aegis.Common Aegis.Foundation List
open Option (bind_eq_some_iff bind_eq_bind)

structure PositionSlot where
  accountId : AccountId := {}
  strategyId : StrategyId := {}
  instrumentId : InstrumentId := {}
  quantityUnits : Int64 := 0
  openCostCurrencyNanos : Int64 := 0
  realizedPnlCurrencyNanos : Int64 := 0
  baseQuantityUnits : Int64 := 0
  baseOpenCostCurrencyNanos : Int64 := 0
  baseRealizedPnlCurrencyNanos : Int64 := 0
  actionGeneration : UInt64 := 0
  occupied : Bool := false

/-- `PortfolioRiskService::FillSlot`, without identities. -/
structure FillSlot where
  instrumentId : InstrumentId := {}
  side : Side := .buy
  priceTicks : Int64 := 0
  quantityUnits : UInt64 := 0
  feeCurrencyNanos : Int64 := 0

def checkedAbs (value : Int64) : Option UInt64 :=
  if value = Int64.minValue then none
  else some (if value < 0 then -value else value).toUInt64

def checkedNotional (priceTicks : Int64) (tickValue quantity : UInt64) : Option Int64 :=
  if priceTicks ≤ 0 then none
  else do
    let unit ← exactMul priceTicks.toUInt64 tickValue
    let total ← exactMul unit quantity
    if Int64.maxValue.toUInt64 < total then none else some total.toInt64

structure FillAccountingValues where
  notional : Int64
  signedQuantity : Int64
  tickValueCurrencyNanos : UInt64

def applySameDirectionFill (position : PositionSlot) (fill : FillSlot)
    (values : FillAccountingValues) : Option PositionSlot := do
  let signedNotional := if fill.side = .buy then values.notional else -values.notional
  let nextQuantity ← exactAddSigned position.quantityUnits values.signedQuantity
  let nextCost ← exactAddSigned position.openCostCurrencyNanos signedNotional
  let feeAdjustedRealized ←
    exactSubSigned position.realizedPnlCurrencyNanos fill.feeCurrencyNanos
  return { position with
    quantityUnits := nextQuantity
    openCostCurrencyNanos := nextCost
    realizedPnlCurrencyNanos := feeAdjustedRealized }

def applyOpposingFill (position : PositionSlot) (fill : FillSlot)
    (values : FillAccountingValues) : Option PositionSlot := do
  let existingAbsolute ← checkedAbs position.quantityUnits
  let closing := min existingAbsolute fill.quantityUnits
  let absoluteCost ← checkedAbs position.openCostCurrencyNanos
  let allocatedProduct ← exactMul absoluteCost closing
  let allocatedCost := allocatedProduct / existingAbsolute
  let closeNotional ← checkedNotional fill.priceTicks values.tickValueCurrencyNanos closing
  let priceDifference :=
    if 0 < position.quantityUnits then closeNotional - allocatedCost.toInt64
    else allocatedCost.toInt64 - closeNotional
  let nextRealized ← exactAddSigned position.realizedPnlCurrencyNanos priceDifference
  let feeAdjusted ← exactSubSigned nextRealized fill.feeCurrencyNanos
  let existingCostSign := if 0 < position.openCostCurrencyNanos then 1 else -1
  let allocatedSigned := allocatedCost.toInt64 * existingCostSign
  let residualCost ← exactSubSigned position.openCostCurrencyNanos allocatedSigned
  let remainder := fill.quantityUnits - closing
  let nextQuantity ← exactAddSigned position.quantityUnits values.signedQuantity
  let residualCost ←
    (if 0 < remainder then do
      let openingNotional ←
        checkedNotional fill.priceTicks values.tickValueCurrencyNanos remainder
      some (if fill.side = .buy then openingNotional else -openingNotional)
    else if nextQuantity = 0 then some 0
    else some residualCost)
  return { position with
    quantityUnits := nextQuantity
    openCostCurrencyNanos := residualCost
    realizedPnlCurrencyNanos := feeAdjusted }

def FillSlot.signedFillQuantity (fill : FillSlot) : Int64 :=
  if fill.side = .buy then fill.quantityUnits.toInt64 else -fill.quantityUnits.toInt64

def PositionSlot.sameDirection (position : PositionSlot) (signedFillQuantity : Int64) : Bool :=
  position.quantityUnits == 0 || (0 < position.quantityUnits && 0 < signedFillQuantity) ||
    (position.quantityUnits < 0 && signedFillQuantity < 0)

def applyFillAccounting (configuration : PortfolioConfiguration) (position : PositionSlot)
    (fill : FillSlot) : Option PositionSlot := do
  let instrument ← configuration.findInstrument fill.instrumentId
  let notional ←
    checkedNotional fill.priceTicks instrument.tickValueCurrencyNanos fill.quantityUnits
  let values := ⟨notional, fill.signedFillQuantity, instrument.tickValueCurrencyNanos⟩
  if position.sameDirection fill.signedFillQuantity then
    applySameDirectionFill position fill values
  else applyOpposingFill position fill values

/-- The fills of a list, one after the other, all accepted. -/
def applyFills (configuration : PortfolioConfiguration) (position : PositionSlot)
    (fills : List FillSlot) : Option PositionSlot :=
  fills.foldlM (applyFillAccounting configuration) position

/-- The slot that `find_or_create_position` opens. -/
def openPosition (accountId : AccountId) (strategyId : StrategyId) (instrumentId : InstrumentId)
    (generation : UInt64) : PositionSlot :=
  { accountId, strategyId, instrumentId, actionGeneration := generation, occupied := true }

/-- The position that `rebuild_position` starts from. -/
def PositionSlot.atBase (position : PositionSlot) : PositionSlot :=
  { position with
    quantityUnits := position.baseQuantityUnits
    openCostCurrencyNanos := position.baseOpenCostCurrencyNanos
    realizedPnlCurrencyNanos := position.baseRealizedPnlCurrencyNanos }

/-- `rebuild_position`, in order of application. -/
def rebuildPosition (configuration : PortfolioConfiguration) (position : PositionSlot)
    (fills : List FillSlot) : Option PositionSlot :=
  if position.occupied then applyFills configuration position.atBase fills else none

/-- What `clear_session_state` does to a position. -/
def PositionSlot.clearSession (carryPositions : Bool) (position : PositionSlot) : PositionSlot :=
  if !position.occupied then position
  else if !carryPositions || position.quantityUnits == 0 then {}
  else { position with
    realizedPnlCurrencyNanos := 0
    baseQuantityUnits := position.quantityUnits
    baseOpenCostCurrencyNanos := position.openCostCurrencyNanos
    baseRealizedPnlCurrencyNanos := 0
    actionGeneration := 0 }

/-- What `corporate_action_is_exact` checks of a position. -/
def PositionSlot.actionIsExact (position : PositionSlot) (numerator denominator : UInt64) :
    Bool :=
  match checkedAbs position.quantityUnits with
  | none => false
  | some absoluteQuantity =>
    match exactMul absoluteQuantity numerator with
    | none => false
    | some product =>
      product % denominator == 0 && product / denominator ≤ Int64.maxValue.toUInt64

/-- What `commit_corporate_action` does to a position. -/
def PositionSlot.commitAction (position : PositionSlot) (numerator denominator : UInt64)
    (generation : UInt64) : PositionSlot :=
  let absoluteQuantity := (checkedAbs position.quantityUnits).getD 0
  let adjusted := absoluteQuantity * numerator / denominator
  let quantityUnits :=
    if position.quantityUnits < 0 then -adjusted.toInt64 else adjusted.toInt64
  { position with
    quantityUnits
    baseQuantityUnits := quantityUnits
    baseOpenCostCurrencyNanos := position.openCostCurrencyNanos
    baseRealizedPnlCurrencyNanos := position.realizedPnlCurrencyNanos
    actionGeneration := generation }

theorem toNat_checkedAbs {value : Int64} {output : UInt64}
    (returned : checkedAbs value = some output) :
    (output.toNat : Int) = |value.toInt| ∧ output.toNat < 2 ^ 63 := by
  unfold checkedAbs at returned
  split at returned
  · cases returned
  rename_i inside
  cases returned
  have above : -2 ^ 63 < value.toInt := by
    have least := value.le_toInt
    have distinct : value.toInt ≠ -2 ^ 63 := fun same =>
      inside (Int64.toInt_inj.mp (same.trans Int64.toInt_minValue.symm))
    omega
  split
  · rename_i negative
    have below : value.toInt < 0 := Int64.lt_iff_toInt_lt.mp negative
    have negated := toInt_neg_of_ne_min above
    have read : ((-value).toUInt64.toNat : Int) = (-value).toInt := toNat_toUInt64 (by omega)
    rw [abs_of_neg below]
    omega
  · rename_i nonnegative
    have least : 0 ≤ value.toInt := by
      rw [Int64.lt_iff_toInt_lt] at nonnegative
      exact not_lt.mp nonnegative
    have read := toNat_toUInt64 least
    have most := value.toInt_lt
    rw [abs_of_nonneg least]
    omega

theorem toInt_checkedNotional {priceTicks : Int64} {tickValue quantity : UInt64}
    {output : Int64} (returned : checkedNotional priceTicks tickValue quantity = some output) :
    0 < priceTicks.toInt ∧ output.toInt = priceTicks.toInt * tickValue.toNat * quantity.toNat := by
  unfold checkedNotional at returned
  split at returned
  · cases returned
  rename_i positive
  have priced : 0 < priceTicks.toInt := by
    rw [Int64.le_iff_toInt_le] at positive
    exact not_le.mp positive
  simp only [bind_eq_bind, bind_eq_some_iff, exactMul_eq_some_iff] at returned
  obtain ⟨unit, unitValue, total, totalValue, returned⟩ := returned
  split at returned
  · cases returned
  rename_i fits
  cases returned
  have small : total.toNat < 2 ^ 63 := by
    rw [UInt64.lt_iff_toNat_lt] at fits
    have largest : Int64.maxValue.toUInt64.toNat = 2 ^ 63 - 1 := rfl
    omega
  refine ⟨priced, ?_⟩
  rw [toInt_toInt64 small, totalValue, unitValue]
  push_cast
  rw [toNat_toUInt64 priced.le]

theorem exists_checkedAbs {value : Int64} (inside : -2 ^ 63 < value.toInt) :
    ∃ output, checkedAbs value = some output := by
  refine ⟨_, if_neg ?_⟩
  rintro rfl
  exact absurd inside (by decide)

theorem exists_checkedNotional {priceTicks : Int64} {tickValue quantity : UInt64}
    (priced : 0 < priceTicks.toInt) (someUnits : 0 < quantity.toNat)
    (small : priceTicks.toInt * tickValue.toNat * quantity.toNat < 2 ^ 63) :
    ∃ output, checkedNotional priceTicks tickValue quantity = some output := by
  rw [← toNat_toUInt64 priced.le] at small
  norm_cast at small
  have unitLe := Nat.le_mul_of_pos_right (priceTicks.toUInt64.toNat * tickValue.toNat) someUnits
  obtain ⟨unit, unitValue⟩ := exists_toNat_eq _ (unitLe.trans_lt (small.trans (by norm_num)))
  rw [← unitValue] at small
  obtain ⟨total, totalValue⟩ := exists_toNat_eq _ (small.trans (by norm_num))
  have positive : ¬ priceTicks ≤ 0 := by
    rw [Int64.le_iff_toInt_le]
    exact not_le.mpr priced
  have fits : ¬ Int64.maxValue.toUInt64 < total := by
    rw [UInt64.lt_iff_toNat_lt, totalValue]
    exact not_lt.mpr (Nat.le_of_lt_succ small)
  refine ⟨total.toInt64, ?_⟩
  simp only [checkedNotional, if_neg positive, bind_eq_bind, exactMul_eq_some_iff.mpr unitValue,
    exactMul_eq_some_iff.mpr totalValue, Option.bind_some, if_neg fits]

/-! ### Accounting refines average cost -/

def PositionSlot.holding (position : PositionSlot) : Holding :=
  ⟨position.quantityUnits.toInt, position.openCostCurrencyNanos.toInt,
    position.realizedPnlCurrencyNanos.toInt⟩

/-- The trade a fill stands for; not a purchase is a sale. -/
def FillSlot.trade (fill : FillSlot) (tickValue : UInt64) : Trade :=
  ⟨if fill.side = .buy then fill.quantityUnits.toNat else -fill.quantityUnits.toNat,
    fill.priceTicks.toInt * tickValue.toNat, fill.feeCurrencyNanos.toInt⟩

variable {configuration : PortfolioConfiguration} {position next : PositionSlot}
  {fill : FillSlot} {values : FillAccountingValues}

/-- What the accounting functions are handed describes the fill. -/
structure FillAccountingValues.Describes (values : FillAccountingValues) (fill : FillSlot) :
    Prop where
  notional : values.notional.toInt =
    fill.priceTicks.toInt * values.tickValueCurrencyNanos.toNat * fill.quantityUnits.toNat
  signedQuantity : values.signedQuantity.toInt = (fill.trade values.tickValueCurrencyNanos).quantity

theorem toInt_signed {word : Int64} {value : Int} (read : word.toInt = value) (nonneg : 0 ≤ value)
    (side : Side) :
    (if side = .buy then word else -word).toInt = if side = .buy then value else -value := by
  split
  · exact read
  · rw [toInt_neg_of_ne_min (by omega), read]

theorem abs_trade_quantity (tickValue : UInt64) :
    |(fill.trade tickValue).quantity| = fill.quantityUnits.toNat := by
  unfold FillSlot.trade
  split <;> simp

theorem holding_of_same_direction (describes : values.Describes fill)
    (positive : 0 ≤ values.notional.toInt)
    (direct : position.holding.Extends (fill.trade values.tickValueCurrencyNanos))
    (applied : applySameDirectionFill position fill values = some next) :
    next.holding = position.holding.trade (fill.trade values.tickValueCurrencyNanos) := by
  simp only [applySameDirectionFill, bind_eq_bind, bind_eq_some_iff,
    exactAddSigned_eq_some_iff, exactSubSigned_eq_some_iff] at applied
  obtain ⟨nextQuantity, quantity, nextCost, cost, realized, profit, returned⟩ := applied
  cases returned
  rw [toInt_signed rfl positive] at cost
  unfold Holding.trade
  rw [if_pos direct]
  unfold PositionSlot.holding
  ext
  · rw [quantity, describes.signedQuantity]
  · dsimp only
    rw [cost, describes.notional]
    unfold FillSlot.trade Trade.notional
    split <;> ring
  · exact profit

section Opposing

variable {existing absoluteCost product : UInt64}

theorem share_nonneg (tickValue : UInt64) : 0 ≤ position.holding.share (fill.trade tickValue) :=
  Int.ediv_nonneg (mul_nonneg (abs_nonneg _) (le_min (abs_nonneg _) (abs_nonneg _))) (abs_nonneg _)

theorem priceDifference_eq {tickValue : UInt64} {close allocated : Int64}
    (closeValue : close.toInt =
      fill.priceTicks.toInt * tickValue.toNat * position.holding.closing (fill.trade tickValue))
    (closeNonneg : 0 ≤ close.toInt)
    (allocatedValue : allocated.toInt = position.holding.share (fill.trade tickValue)) :
    (if 0 < position.quantityUnits then close - allocated else allocated - close).toInt =
      position.holding.gain (fill.trade tickValue) := by
  have allocatedNonneg : 0 ≤ allocated.toInt := allocatedValue ▸ share_nonneg tickValue
  unfold Holding.gain
  have sign : 0 < position.quantityUnits ↔ 0 < position.holding.quantity :=
    Int64.lt_iff_toInt_lt
  simp only [sign]
  split
  · rw [toInt_sub_of_nonneg closeNonneg allocatedNonneg, closeValue, allocatedValue]
    rfl
  · rw [toInt_sub_of_nonneg allocatedNonneg closeNonneg, closeValue, allocatedValue]
    rfl

theorem toInt_mul_sign {allocated cost : Int64} (nonneg : 0 ≤ allocated.toInt) :
    cost.toInt - (allocated * if 0 < cost then 1 else -1).toInt =
      if 0 < cost.toInt then cost.toInt - allocated.toInt else cost.toInt + allocated.toInt := by
  have sign : 0 < cost ↔ 0 < cost.toInt := Int64.lt_iff_toInt_lt
  simp only [sign]
  split
  · rw [Int64.mul_one]
  · rw [Int64.mul_neg, Int64.mul_one, toInt_neg_of_ne_min (by omega)]
    ring

section

variable (existingValue : checkedAbs position.quantityUnits = some existing)
include existingValue

theorem closing_eq (fill : FillSlot) (tickValue : UInt64) :
    ((min existing fill.quantityUnits).toNat : Int) =
      position.holding.closing (fill.trade tickValue) := by
  unfold Holding.closing
  rw [abs_trade_quantity, PositionSlot.holding, ← (toNat_checkedAbs existingValue).1,
    ← Nat.cast_min, toNat_min]

theorem remainder_pos_iff (fill : FillSlot) (tickValue : UInt64) :
    (0 < fill.quantityUnits - min existing fill.quantityUnits ↔
      |position.holding.quantity| < |(fill.trade tickValue).quantity|) ∧
    (|position.holding.quantity| < |(fill.trade tickValue).quantity| →
      ((fill.quantityUnits - min existing fill.quantityUnits).toNat : Int) =
        |(fill.trade tickValue).quantity| - |position.holding.quantity|) := by
  have existingAbs : (existing.toNat : Int) = |position.holding.quantity| :=
    (toNat_checkedAbs existingValue).1
  have covered : min existing fill.quantityUnits ≤ fill.quantityUnits := by
    rw [UInt64.le_iff_toNat_le, toNat_min]
    exact min_le_right _ _
  rw [abs_trade_quantity, ← existingAbs, UInt64.lt_iff_toNat_lt,
    UInt64.toNat_sub_of_le _ _ covered, toNat_min, UInt64.toNat_zero]
  omega

theorem costLeft_eq {tickValue : UInt64} {quantity residual left : Int64}
    (against : ¬ position.holding.Extends (fill.trade tickValue))
    (quantityValue : quantity.toInt = position.holding.quantity + (fill.trade tickValue).quantity)
    (residualValue : residual.toInt =
      if 0 < position.holding.cost
      then position.holding.cost - position.holding.share (fill.trade tickValue)
      else position.holding.cost + position.holding.share (fill.trade tickValue))
    (leftValue : (if 0 < fill.quantityUnits - min existing fill.quantityUnits then
        (checkedNotional fill.priceTicks tickValue
          (fill.quantityUnits - min existing fill.quantityUnits)).bind fun openingNotional =>
            some (if fill.side = .buy then openingNotional else -openingNotional)
      else if quantity = 0 then some 0 else some residual) = some left) :
    left.toInt = position.holding.costLeft (fill.trade tickValue) := by
  obtain ⟨opens, remainder⟩ := remainder_pos_iff existingValue fill tickValue
  have flat : quantity = 0 ↔ quantity.toInt = 0 := Int64.toInt_inj.symm
  simp only [opens, flat, quantityValue] at leftValue
  unfold Holding.costLeft
  split at leftValue
  · rename_i beyond
    obtain ⟨opening, openingValue, returned⟩ := bind_eq_some_iff.mp leftValue
    cases returned
    obtain ⟨priced, openingValue⟩ := toInt_checkedNotional openingValue
    have nonneg : 0 ≤ opening.toInt := by
      rw [openingValue]
      positivity
    rw [if_pos beyond, toInt_signed openingValue (openingValue ▸ nonneg), remainder beyond]
    -- The side decides which way the position is crossed.
    rcases Holding.opposes_of_not_extends against with ⟨long, sold⟩ | ⟨short, bought⟩
    · have sale : fill.side ≠ .buy := by
        intro buy
        rw [abs_of_pos long, abs_of_nonpos sold] at beyond
        unfold FillSlot.trade at sold beyond
        simp only [if_pos buy] at sold beyond
        omega
      rw [if_neg sale, abs_of_pos long, abs_of_nonpos sold]
      unfold FillSlot.trade
      ring
    · have purchase : fill.side = .buy := by
        by_contra sale
        rw [abs_of_neg short, abs_of_nonneg bought] at beyond
        unfold FillSlot.trade at bought beyond
        simp only [if_neg sale] at bought beyond
        omega
      rw [if_pos purchase, abs_of_neg short, abs_of_nonneg bought]
      unfold FillSlot.trade
      ring
  · rename_i within
    rw [if_neg within]
    split at leftValue
    · rename_i closed
      cases leftValue
      rw [if_pos closed]
      rfl
    · rename_i held
      cases leftValue
      rw [if_neg held, residualValue]

variable (costValue : checkedAbs position.openCostCurrencyNanos = some absoluteCost)
  (productValue : product.toNat = absoluteCost.toNat * (min existing fill.quantityUnits).toNat)
include costValue productValue

theorem allocated_eq (tickValue : UInt64) :
    (product / existing).toInt64.toInt = position.holding.share (fill.trade tickValue) := by
  obtain ⟨existingAbs, -⟩ := toNat_checkedAbs existingValue
  obtain ⟨costAbs, costLt⟩ := toNat_checkedAbs costValue
  have closing := closing_eq existingValue fill tickValue
  have part : (min existing fill.quantityUnits).toNat ≤ existing.toNat := by
    rw [toNat_min]
    exact min_le_left _ _
  have below : (product / existing).toNat ≤ absoluteCost.toNat := by
    rw [UInt64.toNat_div, productValue]
    exact Nat.div_le_of_le_mul (by rw [mul_comm]; exact Nat.mul_le_mul_right _ part)
  rw [toInt_toInt64 (by omega), UInt64.toNat_div, productValue]
  unfold Holding.share
  rw [← closing]
  unfold PositionSlot.holding
  rw [← existingAbs, ← costAbs]
  norm_cast

theorem gain_eq {tickValue : UInt64} {close : Int64}
    (closeValue : checkedNotional fill.priceTicks tickValue (min existing fill.quantityUnits) =
      some close) :
    (if 0 < position.quantityUnits then close - (product / existing).toInt64
      else (product / existing).toInt64 - close).toInt =
      position.holding.gain (fill.trade tickValue) := by
  obtain ⟨priced, closeValue⟩ := toInt_checkedNotional closeValue
  have closeNonneg : 0 ≤ close.toInt := by
    rw [closeValue]
    positivity
  rw [closing_eq existingValue fill tickValue] at closeValue
  exact priceDifference_eq closeValue closeNonneg
    (allocated_eq existingValue costValue productValue tickValue)

end

theorem holding_of_opposing (describes : values.Describes fill)
    (against : ¬ position.holding.Extends (fill.trade values.tickValueCurrencyNanos))
    (applied : applyOpposingFill position fill values = some next) :
    next.holding = position.holding.trade (fill.trade values.tickValueCurrencyNanos) := by
  simp only [applyOpposingFill, bind_eq_bind, bind_eq_some_iff,
    exactAddSigned_eq_some_iff, exactSubSigned_eq_some_iff, exactMul_eq_some_iff] at applied
  obtain ⟨existing, existingValue, absoluteCost, costValue, product, productValue, close,
    closeValue, realized, realizedValue, adjusted, adjustedValue, residual, residualValue,
    quantity, quantityValue, left, leftValue, returned⟩ := applied
  cases returned
  have allocated := allocated_eq existingValue costValue productValue
    values.tickValueCurrencyNanos
  rw [gain_eq existingValue costValue productValue closeValue] at realizedValue
  rw [toInt_mul_sign (allocated ▸ share_nonneg _), allocated] at residualValue
  unfold Holding.trade
  rw [if_neg against]
  ext
  · show quantity.toInt = _
    rw [quantityValue, describes.signedQuantity]
    rfl
  · exact costLeft_eq existingValue against (by rw [quantityValue, describes.signedQuantity]; rfl)
      residualValue leftValue
  · show adjusted.toInt = _
    rw [adjustedValue, realizedValue]
    rfl

/-- What an opposing trade computes can be represented. -/
structure Representable (h : Holding) (t : Trade) : Prop where
  notional : Fits (t.unitPrice * h.closing t)
  share : Fits (h.share t)
  quantity : Fits (h.trade t).quantity
  cost : Fits (h.trade t).cost
  realized : Fits (h.trade t).realized

/-- So can what `apply_opposing_fill` computes on the way. -/
structure IntermediatesFit (h : Holding) (t : Trade) : Prop where
  quantity : -2 ^ 63 < h.quantity
  cost : -2 ^ 63 < h.cost
  product : |h.cost| * h.closing t < 2 ^ 64
  profit : Fits (h.realized + h.gain t)
  opening : t.unitPrice * (|t.quantity| - |h.quantity|) < 2 ^ 63

theorem intermediatesFit_of_applied (priced : 0 < fill.priceTicks.toInt)
    (applied : applyOpposingFill position fill values = some next) :
    IntermediatesFit position.holding (fill.trade values.tickValueCurrencyNanos) := by
  simp only [applyOpposingFill, bind_eq_bind, bind_eq_some_iff, exactAddSigned_eq_some_iff,
    exactMul_eq_some_iff] at applied
  obtain ⟨existing, existingValue, absoluteCost, costValue, product, productValue, close,
    closeValue, realized, realizedValue, _, -, _, -, _, -, left, leftValue, -⟩ := applied
  obtain ⟨quantity, quantityBound⟩ := toNat_checkedAbs existingValue
  obtain ⟨cost, costBound⟩ := toNat_checkedAbs costValue
  rw [gain_eq existingValue costValue productValue closeValue] at realizedValue
  refine ⟨neg_lt_of_abs_lt ?_, neg_lt_of_abs_lt ?_, ?_, realizedValue ▸ fits_toInt realized, ?_⟩
  · exact quantity ▸ by exact_mod_cast quantityBound
  · exact cost ▸ by exact_mod_cast costBound
  · rw [← closing_eq existingValue fill, PositionSlot.holding, ← cost]
    exact_mod_cast productValue ▸ product.toNat_lt
  -- Only what is left after the position is closed is priced again.
  obtain ⟨opens, rest⟩ := remainder_pos_iff existingValue fill values.tickValueCurrencyNanos
  split at leftValue
  · next beyond =>
    obtain ⟨opening, openingValue, -⟩ := bind_eq_some_iff.mp leftValue
    rw [← rest (opens.mp beyond)]
    exact (toInt_checkedNotional openingValue).2 ▸ opening.toInt_lt
  · next within =>
    have covered := not_lt.mp (within ∘ opens.mpr)
    have unit : 0 ≤ (fill.trade values.tickValueCurrencyNanos).unitPrice :=
      mul_nonneg priced.le (Int.natCast_nonneg _)
    exact (mul_nonpos_of_nonneg_of_nonpos unit (sub_nonpos.mpr covered)).trans_lt (by norm_num)

/-- An opposing fill whose results fit is accepted exactly if the values on the way fit too. -/
theorem opposing_fill_accepted (priced : 0 < fill.priceTicks.toInt)
    (filled : 0 < fill.quantityUnits.toNat)
    (signed : values.signedQuantity.toInt = (fill.trade values.tickValueCurrencyNanos).quantity)
    (against : ¬ position.holding.Extends (fill.trade values.tickValueCurrencyNanos))
    (representable : Representable position.holding (fill.trade values.tickValueCurrencyNanos)) :
    (∃ next, applyOpposingFill position fill values = some next) ↔
      IntermediatesFit position.holding (fill.trade values.tickValueCurrencyNanos) := by
  refine ⟨fun ⟨next, applied⟩ => intermediatesFit_of_applied priced applied, fun fits => ?_⟩
  obtain ⟨existing, existingValue⟩ := exists_checkedAbs fits.quantity
  obtain ⟨absoluteCost, costValue⟩ := exists_checkedAbs fits.cost
  have held : position.holding.quantity ≠ 0 := fun flat => against (.inl flat)
  have closing := closing_eq existingValue fill values.tickValueCurrencyNanos
  have costAbs : (absoluteCost.toNat : Int) = |position.holding.cost| :=
    (toNat_checkedAbs costValue).1
  obtain ⟨product, productValue⟩ : ∃ product : UInt64, product.toNat =
      absoluteCost.toNat * (min existing fill.quantityUnits).toNat := by
    have small := fits.product
    rw [← closing, ← costAbs] at small
    exact exists_toNat_eq _ (by exact_mod_cast small)
  have someClosed : 0 < (min existing fill.quantityUnits).toNat := by
    have existingAbs : (existing.toNat : Int) = |position.holding.quantity| :=
      (toNat_checkedAbs existingValue).1
    have pos := abs_pos.mpr held
    rw [toNat_min]
    omega
  obtain ⟨close, closeValue⟩ := exists_checkedNotional priced someClosed
    (closing ▸ representable.notional.2)
  obtain ⟨profit, profitValue⟩ := fits.profit.exists_toInt_eq
  have realized := representable.realized
  rw [Holding.trade, if_neg against] at realized
  obtain ⟨adjusted, adjustedValue⟩ := realized.exists_toInt_eq
  obtain ⟨residual, residualValue⟩ : ∃ residual : Int64, residual.toInt =
      position.openCostCurrencyNanos.toInt - ((product / existing).toInt64 *
        if 0 < position.openCostCurrencyNanos then 1 else -1).toInt := by
    have allocated := allocated_eq existingValue costValue productValue
      values.tickValueCurrencyNanos
    have nonneg : 0 ≤ (product / existing).toInt64.toInt := allocated ▸ share_nonneg _
    have most : _ ≤ |position.openCostCurrencyNanos.toInt| := allocated ▸ Holding.share_le held
    have bounds := fits_toInt position.openCostCurrencyNanos
    rw [toInt_mul_sign nonneg]
    refine Fits.exists_toInt_eq ?_
    unfold Fits at bounds ⊢
    split
    · next long => rw [abs_of_pos long] at most; omega
    · next short => rw [abs_of_nonpos (not_lt.mp short)] at most; omega
  obtain ⟨quantity, quantityValue⟩ := representable.quantity.exists_toInt_eq
  rw [Holding.trade_quantity, ← signed] at quantityValue
  obtain ⟨left, leftValue⟩ : ∃ left, (if 0 < fill.quantityUnits - min existing fill.quantityUnits then
      (checkedNotional fill.priceTicks values.tickValueCurrencyNanos
        (fill.quantityUnits - min existing fill.quantityUnits)).bind fun openingNotional =>
          some (if fill.side = .buy then openingNotional else -openingNotional)
    else if quantity = 0 then some 0 else some residual) = some left := by
    split
    · next opens =>
      obtain ⟨beyond, rest⟩ := remainder_pos_iff existingValue fill values.tickValueCurrencyNanos
      have small := fits.opening
      rw [← rest (beyond.mp opens)] at small
      obtain ⟨opening, openingValue⟩ :=
        exists_checkedNotional priced (UInt64.lt_iff_toNat_lt.mp opens) small
      exact ⟨_, by rw [openingValue]; rfl⟩
    · split <;> exact ⟨_, rfl⟩
  simp only [applyOpposingFill, bind_eq_bind, bind_eq_some_iff, exactAddSigned_eq_some_iff,
    exactSubSigned_eq_some_iff, exactMul_eq_some_iff]
  refine ⟨_, existing, existingValue, absoluteCost, costValue, product, productValue, close,
    closeValue, profit, ?_, adjusted, ?_, residual, residualValue, quantity, quantityValue, left,
    leftValue, rfl⟩
  · rw [gain_eq existingValue costValue productValue closeValue]
    exact profitValue
  · rw [profitValue]
    exact adjustedValue

theorem opposing_fill_accepted_of_sale :
    ∃ next, applyOpposingFill { quantityUnits := 10, openCostCurrencyNanos := 1000 }
      { side := .sell, priceTicks := 110, quantityUnits := 4 } ⟨440, -4, 1⟩ = some next :=
  (opposing_fill_accepted (by decide) (by decide) (by decide) (by decide)
    ⟨by decide, by decide, by decide, by decide, by decide⟩).mpr
    ⟨by decide, by decide, by decide, by decide, by decide⟩

/-- Eight of `2 ^ 32` units that cost `2 ^ 62` cannot be sold. -/
theorem opposing_fill_refused :
    let position : PositionSlot :=
      { quantityUnits := 4294967296, openCostCurrencyNanos := 4611686018427387904 }
    let fill : FillSlot := { side := .sell, priceTicks := 1, quantityUnits := 8 }
    let values : FillAccountingValues := ⟨8, -8, 1⟩
    values.Describes fill ∧ ¬ position.holding.Extends (fill.trade 1) ∧
      Representable position.holding (fill.trade 1) ∧
      applyOpposingFill position fill values = none :=
  ⟨⟨by decide, by decide⟩, by decide, ⟨by decide, by decide, by decide, by decide, by decide⟩, rfl⟩

end Opposing

/-- An accepted fill is average-cost accounting of its trade. -/
theorem holding_applyFillAccounting (valid : validConfiguration configuration)
    (applied : applyFillAccounting configuration position fill = some next) :
    ∃ instrument, configuration.findInstrument fill.instrumentId = some instrument ∧
      0 < (fill.trade instrument.tickValueCurrencyNanos).unitPrice ∧
      next.holding = position.holding.trade (fill.trade instrument.tickValueCurrencyNanos) := by
  simp only [applyFillAccounting, bind_eq_bind, bind_eq_some_iff] at applied
  obtain ⟨instrument, found, notional, notionalValue, applied⟩ := applied
  obtain ⟨priced, notionalValue⟩ := toInt_checkedNotional notionalValue
  have worth := toNat_pos (tickValue_ne_zero valid found)
  have unit : 0 < fill.priceTicks.toInt * instrument.tickValueCurrencyNanos.toNat := by
    positivity
  -- A unit costs at least one, so the quantity is below the notional.
  have small : fill.quantityUnits.toNat < 2 ^ 63 := by
    have most := notional.toInt_lt
    have least : (fill.quantityUnits.toNat : Int) ≤ notional.toInt := by
      rw [notionalValue]
      exact le_mul_of_one_le_left (by positivity) unit
    omega
  have signed : fill.signedFillQuantity.toInt =
      (fill.trade instrument.tickValueCurrencyNanos).quantity :=
    toInt_signed (toInt_toInt64 small) (by positivity) fill.side
  have nonneg : 0 ≤ notional.toInt := by
    rw [notionalValue]
    positivity
  refine ⟨instrument, found, unit, ?_⟩
  have describes : FillAccountingValues.Describes
      ⟨notional, fill.signedFillQuantity, instrument.tickValueCurrencyNanos⟩ fill :=
    ⟨notionalValue, signed⟩
  have direction : position.sameDirection fill.signedFillQuantity = true ↔
      position.holding.Extends (fill.trade instrument.tickValueCurrencyNanos) := by
    simp only [PositionSlot.sameDirection, Bool.or_eq_true, Bool.and_eq_true, beq_iff_eq,
      decide_eq_true_eq, Int64.lt_iff_toInt_lt, ← Int64.toInt_inj, signed, or_assoc]
    rfl
  split at applied
  · rename_i direct
    exact holding_of_same_direction describes nonneg (direction.mp direct) applied
  · rename_i against
    exact holding_of_opposing describes (fun direct => against (direction.mpr direct)) applied

theorem atBase_applyFillAccounting
    (applied : applyFillAccounting configuration position fill = some next) :
    next.atBase = position.atBase := by
  simp only [applyFillAccounting, bind_eq_bind, bind_eq_some_iff] at applied
  obtain ⟨instrument, -, notional, -, applied⟩ := applied
  split at applied
  · simp only [applySameDirectionFill, bind_eq_bind, bind_eq_some_iff] at applied
    obtain ⟨_, -, _, -, _, -, returned⟩ := applied
    cases returned
    rfl
  · simp only [applyOpposingFill, bind_eq_bind, bind_eq_some_iff] at applied
    obtain ⟨_, -, _, -, _, -, _, -, _, -, _, -, _, -, _, -, _, -, returned⟩ := applied
    cases returned
    rfl

def FillSlot.notional (configuration : PortfolioConfiguration) (fill : FillSlot) : Int :=
  match configuration.findInstrument fill.instrumentId with
  | some instrument =>
      fill.priceTicks.toInt * instrument.tickValueCurrencyNanos.toNat * fill.quantityUnits.toNat
  | none => 0

def buys (fills : List FillSlot) : List FillSlot :=
  fills.filter fun fill => fill.side = .buy

def sells (fills : List FillSlot) : List FillSlot :=
  fills.filter fun fill => fill.side ≠ .buy

def totalUnits (fills : List FillSlot) : Int :=
  (fills.map fun fill => (fill.quantityUnits.toNat : Int)).sum

def totalNotional (configuration : PortfolioConfiguration) (fills : List FillSlot) : Int :=
  (fills.map (FillSlot.notional configuration)).sum

def totalFees (fills : List FillSlot) : Int :=
  (fills.map fun fill => fill.feeCurrencyNanos.toInt).sum

/-- Cash and quantity of a position after fills. -/
structure Conserves (configuration : PortfolioConfiguration) (start : Holding)
    (fills : List FillSlot) (result : Holding) : Prop where
  cash : result.realized - start.realized =
    (totalNotional configuration (sells fills) - totalNotional configuration (buys fills)) -
      totalFees fills + (result.cost - start.cost)
  quantity : result.quantity = start.quantity + totalUnits (buys fills) - totalUnits (sells fills)
  signs : result.SignsAgree

/-- The step: one accepted fill. -/
theorem conserves_fill (valid : validConfiguration configuration)
    (agree : position.holding.SignsAgree)
    (applied : applyFillAccounting configuration position fill = some next) :
    Conserves configuration position.holding [fill] next.holding := by
  obtain ⟨instrument, found, priced, traded⟩ := holding_applyFillAccounting valid applied
  have cash := Holding.trade_cash agree (t := fill.trade instrument.tickValueCurrencyNanos)
  have worth : fill.notional configuration =
      fill.priceTicks.toInt * instrument.tickValueCurrencyNanos.toNat *
        fill.quantityUnits.toNat := by
    rw [FillSlot.notional, found]
  rw [← traded] at cash
  refine ⟨?_, ?_, traded ▸ Holding.trade_signsAgree agree priced⟩
  · rw [cash]
    by_cases side : fill.side = .buy <;>
      simp [totalNotional, totalFees, buys, sells, side, worth, Trade.notional, FillSlot.trade]
  · rw [traded, Holding.trade_quantity]
    by_cases side : fill.side = .buy <;>
      simp [totalUnits, buys, sells, side, FillSlot.trade]
    ring

theorem Conserves.append {start middle result : Holding} {first rest : List FillSlot}
    (before : Conserves configuration start first middle)
    (after : Conserves configuration middle rest result) :
    Conserves configuration start (first ++ rest) result := by
  have cash := before.cash
  have cash_after := after.cash
  have quantity := before.quantity
  have quantity_after := after.quantity
  refine ⟨?_, ?_, after.signs⟩
  · simp only [totalNotional, totalFees, buys, sells, filter_append, map_append, sum_append] at *
    omega
  · simp only [totalUnits, buys, sells, filter_append, map_append, sum_append] at *
    omega

/-- The run: any sequence of accepted fills. -/
theorem conserves_applyFills (valid : validConfiguration configuration)
    {fills : List FillSlot} (agree : position.holding.SignsAgree)
    (applied : applyFills configuration position fills = some next) :
    Conserves configuration position.holding fills next.holding := by
  induction fills generalizing position with
  | nil =>
    cases applied
    exact ⟨by simp [totalNotional, totalFees, buys, sells], by simp [totalUnits, buys, sells],
      agree⟩
  | cons fill rest ih =>
    simp only [applyFills, foldlM_cons, bind_eq_bind, bind_eq_some_iff] at applied
    obtain ⟨middle, now, later⟩ := applied
    have step := conserves_fill valid agree now
    exact step.append (ih step.signs later)

theorem atBase_applyFills {fills : List FillSlot}
    (applied : applyFills configuration position fills = some next) :
    next.atBase = position.atBase := by
  induction fills generalizing position with
  | nil =>
    cases applied
    rfl
  | cons fill rest ih =>
    simp only [applyFills, foldlM_cons, bind_eq_bind, bind_eq_some_iff] at applied
    obtain ⟨middle, now, later⟩ := applied
    exact (ih later).trans (atBase_applyFillAccounting now)

/-- What the service does to one of its position slots. -/
inductive PositionEvent where
  | opened (accountId : AccountId) (strategyId : StrategyId) (instrumentId : InstrumentId)
      (generation : UInt64)
  | filled (fill : FillSlot)
  | rebuilt (fills : List FillSlot)
  | rolledOver (carryPositions : Bool)
  | split (numerator denominator : UInt64) (generation : UInt64)

/-- One event on a slot: what the handlers do to one position. -/
def PositionSlot.step (configuration : PortfolioConfiguration) (position : PositionSlot) :
    PositionEvent → PositionSlot
  | .opened accountId strategyId instrumentId generation =>
      if position.occupied then position
      else openPosition accountId strategyId instrumentId generation
  | .filled fill =>
      if position.occupied then (applyFillAccounting configuration position fill).getD position
      else position
  | .rebuilt fills => (rebuildPosition configuration position fills).getD position
  | .rolledOver carryPositions => position.clearSession carryPositions
  | .split numerator denominator generation =>
      if position.occupied && numerator != 0 && denominator != 0 &&
          position.actionIsExact numerator denominator then
        position.commitAction numerator denominator generation
      else position

/-- Quantity and cost agree in sign, now and at the base. -/
structure PositionSlot.Sound (position : PositionSlot) : Prop where
  live : position.holding.SignsAgree
  base : position.atBase.holding.SignsAgree

theorem toInt_commitAction {numerator denominator : UInt64} (generation : UInt64)
    (scaled : numerator ≠ 0) (exactAction : position.actionIsExact numerator denominator) :
    ((position.commitAction numerator denominator generation).quantityUnits.toInt = 0 ↔
      position.quantityUnits.toInt = 0) ∧
    ((position.commitAction numerator denominator generation).quantityUnits.toInt < 0 ↔
      position.quantityUnits.toInt < 0) := by
  unfold PositionSlot.actionIsExact at exactAction
  unfold PositionSlot.commitAction
  cases absolute : checkedAbs position.quantityUnits with
  | none =>
    rw [absolute] at exactAction
    cases exactAction
  | some absoluteQuantity =>
    rw [absolute] at exactAction
    dsimp only at exactAction
    obtain ⟨absoluteValue, -⟩ := toNat_checkedAbs absolute
    cases multiplied : exactMul absoluteQuantity numerator with
    | none =>
      rw [multiplied] at exactAction
      cases exactAction
    | some product =>
      rw [multiplied] at exactAction
      simp only [Bool.and_eq_true, beq_iff_eq, decide_eq_true_eq, UInt64.le_iff_toNat_le,
        ← UInt64.toNat_inj, UInt64.toNat_mod] at exactAction
      obtain ⟨divides, fits⟩ := exactAction
      have productValue := exactMul_eq_some_iff.mp multiplied
      have wrapped : absoluteQuantity * numerator = product := by
        rw [← UInt64.toNat_inj, UInt64.toNat_mul, ← productValue,
          Nat.mod_eq_of_lt product.toNat_lt]
      have small : (product / denominator).toNat < 2 ^ 63 := by
        have largest : Int64.maxValue.toUInt64.toNat = 2 ^ 63 - 1 := rfl
        omega
      have read := toInt_toInt64 small
      have numeratorPos := toNat_pos scaled
      have kept : (product / denominator).toNat = 0 ↔ absoluteQuantity.toNat = 0 := by
        rw [UInt64.toNat_div, productValue]
        rw [productValue] at divides
        constructor
        · intro none
          have whole := Nat.div_add_mod (absoluteQuantity.toNat * numerator.toNat) denominator.toNat
          rw [none, divides, mul_zero] at whole
          exact (Nat.mul_eq_zero.mp whole.symm).resolve_right numeratorPos.ne'
        · intro none
          rw [none, zero_mul, Nat.zero_div]
      have sign : position.quantityUnits < 0 ↔ position.quantityUnits.toInt < 0 :=
        Int64.lt_iff_toInt_lt
      simp only [Option.getD_some, wrapped, sign]
      split
      · rename_i short
        rw [abs_of_neg short] at absoluteValue
        rw [toInt_neg_of_ne_min (by omega), read]
        omega
      · rename_i long
        rw [abs_of_nonneg (not_lt.mp long)] at absoluteValue
        rw [read]
        omega

theorem PositionSlot.sound_empty : PositionSlot.Sound {} :=
  ⟨.inl ⟨rfl, rfl⟩, .inl ⟨rfl, rfl⟩⟩

/-- The step: every writer of a position keeps it sound. -/
theorem PositionSlot.Sound.step (valid : validConfiguration configuration) (sound : position.Sound)
    (event : PositionEvent) : (position.step configuration event).Sound := by
  cases event with
  | opened accountId strategyId instrumentId generation =>
    simp only [PositionSlot.step]
    split
    · exact sound
    · exact ⟨.inl ⟨rfl, rfl⟩, .inl ⟨rfl, rfl⟩⟩
  | filled fill =>
    simp only [PositionSlot.step]
    split
    · cases applied : applyFillAccounting configuration position fill with
      | none => exact sound
      | some next =>
        refine ⟨(conserves_fill valid sound.live applied).signs, ?_⟩
        rw [Option.getD_some, atBase_applyFillAccounting applied]
        exact sound.base
    · exact sound
  | rebuilt fills =>
    simp only [PositionSlot.step, rebuildPosition]
    split
    · cases applied : applyFills configuration position.atBase fills with
      | none => exact sound
      | some next =>
        refine ⟨(conserves_applyFills valid sound.base applied).signs, ?_⟩
        rw [Option.getD_some, atBase_applyFills applied]
        exact sound.base
    · exact sound
  | rolledOver carryPositions =>
    simp only [PositionSlot.step, PositionSlot.clearSession]
    split
    · exact sound
    · split
      · exact sound_empty
      · exact ⟨sound.live, sound.live⟩
  | split numerator denominator generation =>
    simp only [PositionSlot.step]
    split
    · rename_i committed
      simp only [Bool.and_eq_true, bne_iff_ne] at committed
      obtain ⟨zero, negative⟩ := toInt_commitAction generation committed.1.1.2 committed.2
      have live := sound.live
      have after : (position.commitAction numerator denominator generation).holding.SignsAgree := by
        unfold Holding.SignsAgree PositionSlot.holding at live ⊢
        dsimp only at live ⊢
        have cost : (position.commitAction numerator denominator
          generation).openCostCurrencyNanos = position.openCostCurrencyNanos := rfl
        rw [cost]
        omega
      exact ⟨after, after⟩
    · exact sound

theorem PositionSlot.sound_run (valid : validConfiguration configuration)
    (history : List PositionEvent) : (run (PositionSlot.step configuration) {} history).Sound :=
  run_preserves (fun _ event sound => sound.step valid event) sound_empty history

/-- Accepted fills change the realized profit by exactly the cash they move and the cost they leave
open, the quantity by what they buy and sell, and keep quantity and cost of one sign. -/
theorem cash_conserved (valid : validConfiguration configuration = true)
    (history : List PositionEvent) (reached : position =
      run (PositionSlot.step configuration) {} history) (fills : List FillSlot)
    (accepted : applyFills configuration position.atBase fills = some next) :
    next.realizedPnlCurrencyNanos.toInt - position.baseRealizedPnlCurrencyNanos.toInt =
      (totalNotional configuration (sells fills) - totalNotional configuration (buys fills)) -
        totalFees fills +
        (next.openCostCurrencyNanos.toInt - position.baseOpenCostCurrencyNanos.toInt) ∧
    next.quantityUnits.toInt =
      position.baseQuantityUnits.toInt + totalUnits (buys fills) - totalUnits (sells fills) ∧
    (next.quantityUnits.toInt = 0 ∧ next.openCostCurrencyNanos.toInt = 0 ∨
      0 < next.quantityUnits.toInt ∧ 0 < next.openCostCurrencyNanos.toInt ∨
      next.quantityUnits.toInt < 0 ∧ next.openCostCurrencyNanos.toInt < 0) := by
  subst reached
  have conserved :=
    conserves_applyFills valid (PositionSlot.sound_run valid history).base accepted
  exact ⟨conserved.cash, conserved.quantity, conserved.signs⟩

def oneInstrument : PortfolioConfiguration :=
  let value : PortfolioConfiguration := {
    configurationVersion := ⟨2, 1⟩, sessionId := ⟨1, 1⟩
    accounts := [⟨3, 1⟩], strategies := [⟨4, 1⟩]
    instruments := [{ instrumentId := ⟨6, 1⟩, tickValueCurrencyNanos := 100
                      betaPpm := 1200000, liquidityWeightPpm := 1500000
                      eventWeightPpm := 2000000, optionsGammaStressCurrencyNanos := -7000 }]
    sectorCount := 1 }
  { value with stableHash := stableConfigurationHash value }

/-- Three bought, then one and four sold. -/
def crossingFills : List FillSlot :=
  [{ instrumentId := ⟨6, 1⟩, side := .buy, priceTicks := 100, quantityUnits := 2 },
   { instrumentId := ⟨6, 1⟩, side := .buy, priceTicks := 101, quantityUnits := 1,
     feeCurrencyNanos := 5 },
   { instrumentId := ⟨6, 1⟩, side := .sell, priceTicks := 103, quantityUnits := 1 },
   { instrumentId := ⟨6, 1⟩, side := .sell, priceTicks := 99, quantityUnits := 4,
     feeCurrencyNanos := 7 }]

def openedPosition : PositionSlot :=
  run (PositionSlot.step oneInstrument) {} [.opened ⟨3, 1⟩ ⟨4, 1⟩ ⟨6, 1⟩ 0,
     .filled { instrumentId := ⟨6, 1⟩, side := .buy, priceTicks := 90, quantityUnits := 1 },
     .rolledOver true]

theorem cash_conserved_of_crossing :
    ∃ next, applyFills oneInstrument openedPosition.atBase crossingFills = some next ∧
      next.quantityUnits.toInt = -1 ∧
      next.realizedPnlCurrencyNanos.toInt - openedPosition.baseRealizedPnlCurrencyNanos.toInt =
        (totalNotional oneInstrument (sells crossingFills) -
          totalNotional oneInstrument (buys crossingFills)) - totalFees crossingFills +
          (next.openCostCurrencyNanos.toInt - openedPosition.baseOpenCostCurrencyNanos.toInt) := by
  have valid : validConfiguration oneInstrument = true := by decide +kernel
  have ends : (applyFills oneInstrument openedPosition.atBase crossingFills).map
      (·.quantityUnits.toInt) = some (-1) := by decide +kernel
  obtain ⟨next, accepted, quantity⟩ := Option.map_eq_some_iff.mp ends
  exact ⟨next, accepted, quantity, (cash_conserved valid _ rfl crossingFills accepted).1⟩

end Aegis.Portfolio
