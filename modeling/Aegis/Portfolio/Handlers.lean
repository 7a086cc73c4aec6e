import Aegis.Portfolio.State

/-!
The event handlers of the portfolio service (`risk/src/portfolio_service.cpp`).
-/

namespace Aegis.Portfolio

open Aegis.Common Aegis.Foundation

/-- The result of a handler that did its work. -/
def InternalApplyResult.applied : InternalApplyResult :=
  { status := .applied, invariant := .none, stateChanged := true }

def OrderSlot.identityMatches (slot : OrderSlot) (event : PortfolioEvent) : Bool :=
  slot.accountId == event.accountId && slot.strategyId == event.strategyId &&
    slot.venueId == event.venueId && slot.instrumentId == event.instrumentId &&
    slot.side == event.side

/-- What `apply_order` writes over a known order. -/
def OrderSlot.updatedBy (slot : OrderSlot) (event : PortfolioEvent) : OrderSlot :=
  { slot with
    state := event.orderState
    priceTicks := event.priceTicks
    quantityUnits := event.quantityUnits
    cumulativeFillQuantityUnits := event.cumulativeFillQuantityUnits
    remainingQuantityUnits := event.remainingQuantityUnits
    lastUpdateTimeNs := event.processMonotonicTimeNs }

/-- What `apply_order` writes into a free slot. -/
def PortfolioEvent.newOrder (event : PortfolioEvent) : OrderSlot :=
  OrderSlot.updatedBy
    { orderId := event.orderId
      accountId := event.accountId
      strategyId := event.strategyId
      venueId := event.venueId
      instrumentId := event.instrumentId
      side := event.side
      occupied := true } event

def OrderSlot.filledBy (order : OrderSlot) (event : PortfolioEvent) : OrderSlot :=
  let remaining := order.remainingQuantityUnits - event.quantityUnits
  { order with
    cumulativeFillQuantityUnits := order.cumulativeFillQuantityUnits + event.quantityUnits
    remainingQuantityUnits := remaining
    state := if remaining = 0 then .filled else .partiallyFilled
    lastUpdateTimeNs := event.processMonotonicTimeNs }

def OrderSlot.withCumulative (order : OrderSlot) (cumulative : UInt64) : OrderSlot :=
  let remaining := order.quantityUnits - cumulative
  { order with
    cumulativeFillQuantityUnits := cumulative
    remainingQuantityUnits := remaining
    state := if remaining = 0 then .filled else .partiallyFilled }

def OrderSlot.withoutFill (order : OrderSlot) (quantity remaining : UInt64) : OrderSlot :=
  let cumulative := order.cumulativeFillQuantityUnits - quantity
  { order with
    cumulativeFillQuantityUnits := cumulative
    remainingQuantityUnits := remaining
    state := if cumulative = 0 then .opened else .partiallyFilled }

def FillEntry.economicsMatch (fill : FillEntry) (event : PortfolioEvent) : Bool :=
  fill.orderId == event.orderId && fill.accountId == event.accountId &&
    fill.strategyId == event.strategyId && fill.venueId == event.venueId &&
    fill.instrumentId == event.instrumentId && fill.side == event.side &&
    fill.priceTicks == event.priceTicks && fill.quantityUnits == event.quantityUnits &&
    fill.feeCurrencyNanos == event.feeCurrencyNanos

def OrderSlot.contradicts (order : OrderSlot) (event : PortfolioEvent) : Bool :=
  order.accountId != event.accountId || order.strategyId != event.strategyId ||
    order.venueId != event.venueId || order.instrumentId != event.instrumentId ||
    order.side != event.side || order.remainingQuantityUnits < event.quantityUnits

/-- What `apply_fill_correction` overwrites. -/
def FillEntry.correctedBy (fill : FillEntry) (event : PortfolioEvent) : FillEntry :=
  { fill with
    orderId := event.orderId
    side := event.side
    priceTicks := event.priceTicks
    quantityUnits := event.quantityUnits
    feeCurrencyNanos := event.feeCurrencyNanos }

def FillEntry.busted (fill : FillEntry) : FillEntry :=
  { fill with active := false }

/-- What `corporate_action_is_exact` checks of an order. -/
def OrderSlot.actionIsExact (order : OrderSlot) (numerator denominator : UInt64) : Bool :=
  match exactMul order.quantityUnits numerator,
    exactMul order.cumulativeFillQuantityUnits numerator,
    exactMul order.remainingQuantityUnits numerator,
    exactMul order.priceTicks.toUInt64 denominator with
  | some quantity, some cumulative, some remaining, some price =>
      quantity % denominator == 0 && cumulative % denominator == 0 &&
        remaining % denominator == 0 && price % numerator == 0 &&
        price / numerator ≤ Int64.maxValue.toUInt64
  | _, _, _, _ => false

/-- What `commit_corporate_action` does to an order. -/
def OrderSlot.commitAction (order : OrderSlot) (numerator denominator : UInt64) : OrderSlot :=
  { order with
    quantityUnits := order.quantityUnits * numerator / denominator
    cumulativeFillQuantityUnits := order.cumulativeFillQuantityUnits * numerator / denominator
    remainingQuantityUnits := order.remainingQuantityUnits * numerator / denominator
    priceTicks := (order.priceTicks.toUInt64 * denominator / numerator).toInt64 }

/-- What `corporate_action_is_exact` checks of the mark. -/
def markActionIsExact (mark : Int64) (numerator denominator : UInt64) : Bool :=
  if 0 < mark then
    match exactMul mark.toUInt64 denominator with
    | none => false
    | some product =>
        product % numerator == 0 && product / numerator ≤ Int64.maxValue.toUInt64
  else true

/-- What `commit_corporate_action` does to the mark. -/
def commitMarkAction (mark : Int64) (numerator denominator : UInt64) : Int64 :=
  if 0 < mark then (mark.toUInt64 * denominator / numerator).toInt64 else mark

namespace PortfolioRiskService

variable (s : PortfolioRiskService) (event : PortfolioEvent)

/-- A handler that calls `set_unsafe` and returns. -/
def alarm (status : ApplyStatus) (code : InvariantCode) :
    InternalApplyResult × PortfolioRiskService :=
  ({ status, invariant := code, stateChanged := true }, s.setUnsafe code)

/-- A handler that returns without having done anything. -/
def refuse (status : ApplyStatus) (code : InvariantCode) :
    InternalApplyResult × PortfolioRiskService :=
  ({ status, invariant := code }, s)

def applyOrder : InternalApplyResult × PortfolioRiskService :=
  if !s.knowsScope event then s.refuse .invalid .accountingMismatch
  else
    match s.findOrder event.orderId with
    | some index =>
        let slot := s.orders index
        if !slot.identityMatches event || !validOrderTransition slot.state event.orderState ||
            event.cumulativeFillQuantityUnits < slot.cumulativeFillQuantityUnits ||
            event.processMonotonicTimeNs < slot.lastUpdateTimeNs then
          s.alarm .conflict .accountingMismatch
        else (.applied, s.putOrder index (slot.updatedBy event))
    | none =>
        match orderLayout.findFree s.orders event.orderId with
        | none => s.refuse .capacityExhausted .accountingMismatch
        | some index => (.applied, s.putOrder index event.newOrder)

/-- The part of `apply_fill` about a fill that is already known. -/
def applyRepeatedFill (index : Fin kMaximumPortfolioFills) :
    InternalApplyResult × PortfolioRiskService :=
  let existing := s.fills index
  if !existing.economicsMatch event then s.alarm .conflict .conflictingFill
  else if existing.sourceMask &&& sourceMask event.fillSource != 0 then s.refuse .duplicate .none
  else
    ({ status := .reconciled, invariant := .none, stateChanged := true },
      s.putFill index { existing with
        sourceMask := existing.sourceMask ||| sourceMask event.fillSource })

/-- The branch for a primary fill without an order. -/
def reportOrphan : InternalApplyResult × PortfolioRiskService :=
  ({ status := .requiresReconciliation, invariant := .orphanFill, stateChanged := true },
    { s with
      health := .reconciling
      invariant := .orphanFill
      invariantFailureCount := s.invariantFailureCount + 1 })

/-- The fill that `apply_fill` stores. -/
def newFill : FillEntry :=
  { logicalFillId := event.logicalFillId
    orderId := event.orderId
    accountId := event.accountId
    strategyId := event.strategyId
    venueId := event.venueId
    instrumentId := event.instrumentId
    side := event.side
    priceTicks := event.priceTicks
    quantityUnits := event.quantityUnits
    feeCurrencyNanos := event.feeCurrencyNanos
    applicationOrdinal := s.eventOrdinal
    actionGeneration :=
      (s.findInstrument event.instrumentId).elim 0 s.corporateActionGenerations
    sourceMask := sourceMask event.fillSource
    active := true
    occupied := true }

def takeOrdinal : PortfolioRiskService :=
  { s with eventOrdinal := s.eventOrdinal + 1 }

def fillOrder (order : Option (Fin kMaximumPortfolioOrders)) : PortfolioRiskService :=
  match order with
  | none => s
  | some index => s.putOrder index ((s.orders index).filledBy event)

/-- The part of `apply_fill` about a fitting new fill. -/
def applyNewFill (order : Option (Fin kMaximumPortfolioOrders)) :
    InternalApplyResult × PortfolioRiskService :=
  match fillLayout.findFree s.fills event.logicalFillId with
  | none => s.alarm .capacityExhausted .accountingMismatch
  | some fillIndex =>
      match s.findOrCreatePosition event.accountId event.strategyId event.instrumentId with
      | none => s.alarm .capacityExhausted .accountingMismatch
      | some (positionIndex, opened) =>
          let opened := opened.takeOrdinal
          let fill := opened.newFill event
          match applyFillAccounting opened.configuration (opened.positions positionIndex)
            fill.toFillSlot with
          | none => opened.alarm .arithmeticOverflow .arithmeticOverflow
          | some position =>
              (.applied, ((opened.putPosition positionIndex position).putFill fillIndex
                fill).fillOrder event order)

def applyFill : InternalApplyResult × PortfolioRiskService :=
  if !s.knowsScope event then s.refuse .invalid .accountingMismatch
  else
    match s.findFill event.logicalFillId with
    | some index => s.applyRepeatedFill event index
    | none =>
        let order := s.findOrder event.orderId
        if event.fillSource == .primary && order.isNone then s.reportOrphan
        else if order.any fun index => (s.orders index).contradicts event then
          s.alarm .conflict .conflictingFill
        else s.applyNewFill event order

/-- No corporate action of the instrument since the fill. -/
def isCurrent (fill : FillEntry) : Bool :=
  match s.findInstrument fill.instrumentId with
  | none => false
  | some index => fill.actionGeneration == s.corporateActionGenerations index

/-- Put a fill back and rebuild its position. -/
def revert (fillIndex : Fin kMaximumPortfolioFills) (previous : FillEntry)
    (positionIndex : Fin kMaximumPortfolioPositions) : PortfolioRiskService :=
  let restored := s.putFill fillIndex previous
  (restored.rebuildPosition positionIndex).getD restored

/-- The quantity of the active fills of an order, if it fits. -/
def cumulativeOf (orderId : OrderId) : Option UInt64 :=
  (s.activeFills.filter (·.orderId == orderId)).foldlM
    (fun sum fill => exactAdd sum fill.quantityUnits) 0

/-- `apply_fill_correction` at the order. -/
def correctOrder (orderId : OrderId) (undo : PortfolioRiskService) :
    InternalApplyResult × PortfolioRiskService :=
  match s.findOrder orderId with
  | none => (.applied, s)
  | some index =>
      match s.cumulativeOf orderId with
      | none => undo.alarm .arithmeticOverflow .arithmeticOverflow
      | some cumulative =>
          if (s.orders index).quantityUnits < cumulative then
            undo.alarm .conflict .conflictingFill
          else (.applied, s.putOrder index ((s.orders index).withCumulative cumulative))

def applyFillCorrection : InternalApplyResult × PortfolioRiskService :=
  match s.findFill event.targetFillId with
  | none => s.refuse .requiresReconciliation .accountingMismatch
  | some index =>
      let previous := s.fills index
      if event.logicalFillId != event.targetFillId then
        s.refuse .requiresReconciliation .accountingMismatch
      else if !s.isCurrent previous || previous.accountId != event.accountId ||
          previous.strategyId != event.strategyId ||
          previous.instrumentId != event.instrumentId || previous.venueId != event.venueId then
        s.refuse .requiresReconciliation .unsupportedCorporateAction
      else
        match s.findPosition previous.accountId previous.strategyId previous.instrumentId with
        | none => s.alarm .conflict .accountingMismatch
        | some positionIndex =>
            let corrected := s.putFill index (previous.correctedBy event)
            match corrected.rebuildPosition positionIndex with
            | none =>
                (corrected.revert index previous positionIndex).alarm .arithmeticOverflow
                  .arithmeticOverflow
            | some rebuilt =>
                rebuilt.correctOrder event.orderId (rebuilt.revert index previous positionIndex)

/-- `apply_fill_bust` at the order; a sum is written before its check. -/
def bustOrder (fill : FillEntry) (undo : PortfolioRiskService → PortfolioRiskService) :
    InternalApplyResult × PortfolioRiskService :=
  match s.findOrder fill.orderId with
  | none => (.applied, s)
  | some index =>
      let order := s.orders index
      if order.cumulativeFillQuantityUnits < fill.quantityUnits then
        (undo s).alarm .conflict .accountingMismatch
      else
        match exactAdd order.remainingQuantityUnits fill.quantityUnits with
        | none =>
            (undo (s.putOrder index { order with
              remainingQuantityUnits :=
                order.remainingQuantityUnits + fill.quantityUnits })).alarm .conflict
              .accountingMismatch
        | some remaining =>
            (.applied, s.putOrder index (order.withoutFill fill.quantityUnits remaining))

def applyFillBust : InternalApplyResult × PortfolioRiskService :=
  match s.findFill event.targetFillId with
  | none => s.refuse .requiresReconciliation .accountingMismatch
  | some index =>
      let fill := s.fills index
      if !fill.active then s.refuse .duplicate .none
      else if !s.isCurrent fill then
        s.refuse .requiresReconciliation .unsupportedCorporateAction
      else
        match s.findPosition fill.accountId fill.strategyId fill.instrumentId with
        | none => s.alarm .conflict .accountingMismatch
        | some positionIndex =>
            let busted := s.putFill index fill.busted
            match busted.rebuildPosition positionIndex with
            | none =>
                (busted.revert index fill positionIndex).alarm .arithmeticOverflow
                  .arithmeticOverflow
            | some rebuilt =>
                rebuilt.bustOrder fill fun rebuilt => rebuilt.revert index fill positionIndex

def applyMark : InternalApplyResult × PortfolioRiskService :=
  match s.findInstrument event.instrumentId with
  | none => s.refuse .invalid .staleEvent
  | some index =>
      if event.processMonotonicTimeNs < s.markTimes index then s.refuse .invalid .staleEvent
      else
        (.applied, { s with
          marks := Function.update s.marks index event.priceTicks
          markTimes := Function.update s.markTimes index event.processMonotonicTimeNs })

def clearSessionState (carryPositions : Bool) : PortfolioRiskService :=
  { s with
    orders := fun _ => {}
    fills := fun _ => {}
    idempotency := fun _ => {}
    marks := fun _ => 0
    markTimes := fun _ => 0
    corporateActionGenerations := fun _ => 0
    eventOrdinal := 0
    strategyPeaks := fun _ => 0
    snapshot := { s.snapshot with peakPnlCurrencyNanos := 0 }
    positions := fun index => (s.positions index).clearSession carryPositions }

/-- What `apply_rollover` does when nothing stands in its way. -/
def rollOver : PortfolioRiskService :=
  let cleared := s.clearSessionState (event.rolloverPolicy == .carryPositions)
  let configuration := { s.configuration with sessionId := event.nextSessionId }
  { cleared with
    configuration := { configuration with stableHash := stableConfigurationHash configuration }
    invariant := .none
    health := .starting }

def applyRollover : InternalApplyResult × PortfolioRiskService :=
  if !s.activeOrders.isEmpty then s.refuse .requiresReconciliation .accountingMismatch
  else if event.rolloverPolicy == .flatRequired &&
      s.openPositions.any fun position => position.quantityUnits != 0 then
    s.refuse .requiresReconciliation .accountingMismatch
  else (.applied, s.rollOver event)

def corporateActionIsExact (instrument : Nat) : Bool :=
  let numerator := event.corporateActionNumerator
  let denominator := event.corporateActionDenominator
  (List.finRange kMaximumPortfolioPositions).all (fun index =>
    let position := s.positions index
    !position.occupied || position.instrumentId != event.instrumentId ||
      position.actionIsExact numerator denominator) &&
  (List.finRange kMaximumPortfolioOrders).all (fun index =>
    let order := s.orders index
    !order.occupied || order.instrumentId != event.instrumentId ||
      order.actionIsExact numerator denominator) &&
  markActionIsExact (s.marks instrument) numerator denominator

def commitCorporateAction (instrument : Nat) : PortfolioRiskService :=
  let numerator := event.corporateActionNumerator
  let denominator := event.corporateActionDenominator
  let generation := s.corporateActionGenerations instrument + 1
  { s with
    corporateActionGenerations :=
      Function.update s.corporateActionGenerations instrument generation
    positions := fun index =>
      let position := s.positions index
      if position.occupied && position.instrumentId == event.instrumentId then
        position.commitAction numerator denominator generation
      else position
    orders := fun index =>
      let order := s.orders index
      if order.occupied && order.instrumentId == event.instrumentId then
        order.commitAction numerator denominator
      else order
    marks := Function.update s.marks instrument
      (commitMarkAction (s.marks instrument) numerator denominator) }

def applyCorporateAction : InternalApplyResult × PortfolioRiskService :=
  match s.findInstrument event.instrumentId with
  | none => s.refuse .invalid .unsupportedCorporateAction
  | some instrument =>
      if !s.corporateActionIsExact event instrument then
        s.refuse .requiresReconciliation .unsupportedCorporateAction
      else (.applied, s.commitCorporateAction event instrument)

def applyLocked : InternalApplyResult × PortfolioRiskService :=
  match event.kind with
  | .order => s.applyOrder event
  | .fill => s.applyFill event
  | .fillCorrection => s.applyFillCorrection event
  | .fillBust => s.applyFillBust event
  | .mark => s.applyMark event
  | .sessionRollover => s.applyRollover event
  | .corporateAction => s.applyCorporateAction event
  | .unlisted .. => s.refuse .invalid .staleEvent

end PortfolioRiskService

end Aegis.Portfolio
