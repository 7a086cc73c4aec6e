import Aegis.Foundation.Pipeline
import Aegis.Foundation.ProbeTable
import Aegis.Portfolio.Snapshot
import Aegis.Risk.Exposure

/-!
The pre-trade risk engine (`risk/src/engine.cpp`). An operation that gets the gate is a step, and
one that does not has no effect. Indexed arrays are functions, and the decision journal is the two
counters that `try_reserve` compares.
-/

namespace Aegis.Risk

open Aegis.Common Aegis.Foundation

def kRiskDecisionJournalCapacity : Nat := 4096

structure RuntimeStrategyState where
  pnlCurrencyNanos : Int64 := 0
  peakPnlCurrencyNanos : Int64 := 0
  asOfProcessMonotonicTimeNs : UInt64 := 0
  deriving DecidableEq

structure IntentSlot where
  intentId : IntentId := {}
  occupied : Bool := false
  deriving DecidableEq

/-- `RateWindow`, indexed by the sequence modulo its size. -/
structure RateWindow where
  timestamps : Nat → UInt64 := fun _ => 0
  readSequence : UInt64 := 0
  writeSequence : UInt64 := 0

/-- `DeterministicPreTradeRiskEngine`. -/
structure Engine where
  limits : RiskLimitSnapshot
  symbolState : Nat → RuntimeSymbolState := fun _ => {}
  strategyState : Nat → RuntimeStrategyState := fun _ => {}
  intentSlots : Fin kDuplicateIntentCapacity → IntentSlot := fun _ => {}
  orderRate : RateWindow := {}
  cancelRate : RateWindow := {}
  lastEvaluationTimeNs : UInt64 := 0
  initialized : Bool := false
  stateAvailable : Bool := true
  authorityEpoch : UInt64 := 0
  firmKill : UInt64 := 0
  accountKill : UInt64 := 0
  symbolKillMask : UInt64 := 0
  strategyKillMask : UInt64 := 0
  venueKillMask : UInt64 := 0
  lastKillCommandSequence : UInt64 := 0
  killGeneration : UInt64 := 1
  positionGeneration : UInt64 := 1
  firmDailyPnlCurrencyNanos : Int64 := 0
  firmPeakPnlCurrencyNanos : Int64 := 0
  pnlAsOfProcessMonotonicTimeNs : UInt64 := 0
  evaluationCount : UInt64 := 0
  lastPortfolioSnapshotSequence : UInt64 := 0
  lastPortfolioSnapshotHash : UInt64 := 0
  journalReserved : UInt64 := 0
  journalConsumed : UInt64 := 0

def Engine.construct (limits : RiskLimitSnapshot) : Engine :=
  let valid := validLimitSnapshot limits
  { limits
    initialized := valid
    stateAvailable := valid
    authorityEpoch := if valid then limits.authorityEpoch else 0 }

/-- `risk::EvaluationStatus`, without `engine_busy`. -/
inductive EvaluationStatus where
  | journaled | journalUnavailable | notInitialized
  deriving DecidableEq

/-- `risk::InstallStatus`, without `busy`. -/
inductive InstallStatus where
  | installed | unchanged | invalid | rollbackRejected | revisionConflict
  deriving DecidableEq

/-- `risk::StateUpdateStatus`, without `busy`. -/
inductive StateUpdateStatus where
  | applied | invalid | arithmeticOverflow | unavailable
  deriving DecidableEq

inductive KillSwitchScope where
  | symbol | strategy | venue | account | firm
  | unlisted (byte : UnlistedCode 1 5)
  deriving DecidableEq

structure PositionSeed where
  symbolIndex : UInt32 := 0
  netQuantityUnits : Int64 := 0
  markPriceTicks : Int64 := 0
  asOfProcessMonotonicTimeNs : UInt64 := 0
  deriving DecidableEq

structure FillUpdate where
  symbolIndex : UInt32 := 0
  strategyIndex : UInt32 := 0
  side : IntentAction := .buy
  fillQuantityUnits : UInt64 := 0
  releaseReservedQuantityUnits : UInt64 := 0
  realizedPnlDeltaCurrencyNanos : Int64 := 0
  asOfProcessMonotonicTimeNs : UInt64 := 0
  deriving DecidableEq

structure ProfitLossUpdate where
  strategyIndex : UInt32 := 0
  firmDailyPnlCurrencyNanos : Int64 := 0
  firmPeakPnlCurrencyNanos : Int64 := 0
  strategyPnlCurrencyNanos : Int64 := 0
  strategyPeakPnlCurrencyNanos : Int64 := 0
  asOfProcessMonotonicTimeNs : UInt64 := 0
  deriving DecidableEq

structure KillSwitchUpdate where
  scope : KillSwitchScope := .firm
  targetIndex : UInt32 := 0
  authorityEpoch : UInt64 := 0
  commandSequence : UInt64 := 0
  engaged : Bool := true
  operatorAuthorized : Bool := false
  deriving DecidableEq

namespace Engine

def findSymbol (e : Engine) (instrumentId : InstrumentId) : Option Nat :=
  e.limits.symbols.findIdx? (·.instrumentId == instrumentId)

def findStrategy (e : Engine) (strategyId : StrategyId) : Option Nat :=
  e.limits.strategies.findIdx? (·.strategyId == strategyId)

def findVenue (e : Engine) (venueId : VenueId) : Option Nat :=
  e.limits.venues.findIdx? (·.venueId == venueId)

/-- `limits_.symbols[index]`. -/
def symbolLimit (e : Engine) (index : Nat) : SymbolLimit :=
  e.limits.symbols.getD index {}

/-- `limits_.strategies[index]`. -/
def strategyLimit (e : Engine) (index : Nat) : StrategyLimit :=
  e.limits.strategies.getD index {}

/-- `limits_.venues[index]`. -/
def venueLimit (e : Engine) (index : Nat) : VenueLimit :=
  e.limits.venues.getD index {}

end Engine

def Engine.applicableKill (e : Engine) (symbol strategy venue : Nat) : Bool :=
  e.firmKill != 0 || e.accountKill != 0 || e.symbolKillMask &&& indexBit symbol != 0 ||
    e.strategyKillMask &&& indexBit strategy != 0 || e.venueKillMask &&& indexBit venue != 0

instance : NeZero kDuplicateIntentCapacity := ⟨by decide⟩

def intentLayout : Layout kDuplicateIntentCapacity IntentSlot IntentId where
  occupied := IntentSlot.occupied
  key := IntentSlot.intentId
  bucket id := Fin.ofNat _ ((id.high ^^^ (id.low <<< 23 ||| id.low >>> 41)).toNat)

/-- The loop of `record_intent`; nothing when every slot was probed. -/
def recordIntentFrom (slots : Fin kDuplicateIntentCapacity → IntentSlot) (intentId : IntentId)
    (start : Fin kDuplicateIntentCapacity) :
    Nat → Nat → Option (Bool × (Fin kDuplicateIntentCapacity → IntentSlot))
  | 0, _ => none
  | fuel + 1, offset =>
      if (slots (probe start offset)).occupied then
        if (slots (probe start offset)).intentId = intentId then some (true, slots)
        else recordIntentFrom slots intentId start fuel (offset + 1)
      else some (false, Function.update slots (probe start offset) ⟨intentId, true⟩)

def recordIntent (slots : Fin kDuplicateIntentCapacity → IntentSlot) (intentId : IntentId) :
    Option (Bool × (Fin kDuplicateIntentCapacity → IntentSlot)) :=
  recordIntentFrom slots intentId (intentLayout.bucket intentId) kDuplicateIntentCapacity 0

/-- The timestamp that a sequence number refers to. -/
def RateWindow.at (window : RateWindow) (sequence : UInt64) : UInt64 :=
  window.timestamps (sequence.toNat % kMaximumRateEvents)

/-- The loop of `admit_rate` that drops expired events. -/
def RateWindow.expire (now duration : UInt64) : Nat → RateWindow → Bool × RateWindow
  | 0, window => (true, window)
  | fuel + 1, window =>
      if window.readSequence < window.writeSequence then
        if now < window.at window.readSequence then (false, window)
        else if now - window.at window.readSequence < duration then (true, window)
        else RateWindow.expire now duration fuel
          { window with readSequence := window.readSequence + 1 }
      else (true, window)

/-- `admit_rate`. -/
def RateWindow.admit (window : RateWindow) (now duration : UInt64) (maximumEvents : UInt32) :
    Bool × RateWindow :=
  if window.writeSequence = -1 then (false, window)
  else
    let length := (window.writeSequence - window.readSequence).toNat
    match RateWindow.expire now duration length window with
    | (false, expired) => (false, expired)
    | (true, expired) =>
        if maximumEvents.toUInt64 ≤ expired.writeSequence - expired.readSequence then
          (false, expired)
        else
          (true, { expired with
            timestamps := Function.update expired.timestamps
              (expired.writeSequence.toNat % kMaximumRateEvents) now
            writeSequence := expired.writeSequence + 1 })

def checkBit (check : RiskCheck) : UInt32 :=
  if check ≠ .none && validRiskCheck check && check.code ≤ 32 then
    (1 : UInt32) <<< (check.code - 1).toUInt32
  else 0

def Engine.baseDecision (e : Engine) (request : RiskEvaluationRequest)
    (evaluationOrdinal journalSequence : UInt64) : RiskDecision :=
  let now := request.context.nowProcessMonotonicTimeNs
  { globalEventId := request.globalEventId
    intentId := request.intent.intentId
    sessionId := request.intent.sessionId
    accountId := request.intent.accountId
    strategyId := request.intent.strategyId
    venueId := request.intent.venueId
    instrumentId := request.intent.instrumentId
    riskSnapshotId := e.limits.riskSnapshotId
    configurationVersion := e.limits.configurationVersion
    decision := .rejected
    reason := .riskStateUnavailable
    failedCheck := .none
    intentAction := request.intent.action
    tradingMode := request.context.tradingMode
    approvedQuantityUnits := 0
    approvedPriceTicks := 0
    evaluatedProcessMonotonicTimeNs := now
    validUntilProcessMonotonicTimeNs := now + 1
    intentHash := request.intent.stableHash
    intentSha256 := request.intent.canonicalSha256
    riskSnapshotHash := e.limits.stableHash
    riskContextHash := request.context.stableHash
    positionGeneration := e.positionGeneration
    authorityEpoch := e.authorityEpoch
    policyRevision := e.limits.revision
    evaluationOrdinal
    journalSequence }

/-- `evaluate_locked` so far. -/
structure Progress where
  engine : Engine
  decision : RiskDecision

structure Rejection where
  reason : RiskReason
  check : RiskCheck

abbrev Evaluation := Pipeline Progress Rejection

def pass (check : RiskCheck) : Evaluation Unit :=
  Pipeline.update fun p => { p with
    decision := { p.decision with
      completedCheckMask := p.decision.completedCheckMask ||| checkBit check } }

/-- The mask bit of a check is taken back. -/
def unpass (check : RiskCheck) : Evaluation Unit :=
  Pipeline.update fun p => { p with
    decision := { p.decision with
      completedCheckMask := p.decision.completedCheckMask &&& ~~~checkBit check } }

/-- A check: refused for a reason, or passed. -/
def check (number : RiskCheck) (bad : Bool) (reason : RiskReason) : Evaluation Unit := do
  Pipeline.refuseIf bad ⟨reason, number⟩
  pass number

/-- A late check: its number is taken back before the rejection. -/
def recheck (number : RiskCheck) (bad : Bool) (reason : RiskReason) : Evaluation Unit :=
  if bad then do
    unpass number
    Pipeline.refuse ⟨reason, number⟩
  else pure ()

def unsafeMarketState (state : MarketState.State) : Bool :=
  state == .startup || state == .dataDegraded || state == .halted || state == .reopening ||
    state == .recovery || state == .shutdown

section Checks

variable (e : Engine) (request : RiskEvaluationRequest)

def RiskEvaluationRequest.now : UInt64 :=
  request.context.nowProcessMonotonicTimeNs

def RiskEvaluationRequest.isCancel : Bool :=
  request.intent.action == .cancel

def storeEvaluationTime (now : UInt64) : Evaluation Unit :=
  Pipeline.update fun p => { p with engine := { p.engine with lastEvaluationTimeNs := now } }

def screenRequest : Evaluation Unit := do
  Pipeline.refuseIf (!request.globalEventId.valid || !validRiskIntent request.intent ||
    !validRiskContext request.context) ⟨.invalidIntent, .none⟩
  Pipeline.refuseIf (request.now < request.intent.createdProcessMonotonicTimeNs ||
    request.intent.expireProcessMonotonicTimeNs < request.now) ⟨.expiredIntent, .none⟩
  Pipeline.refuseIf (request.now < e.lastEvaluationTimeNs) ⟨.riskStateUnavailable, .none⟩
  storeEvaluationTime request.now

/-- Checks 1 to 4. -/
def authorizeRequest : Evaluation (Nat × Nat) := do
  check .tradingModeAuthorization
    (!((request.context.tradingMode == .simulation && e.limits.allowSimulation) ||
      (request.context.tradingMode == .paper && e.limits.allowPaper)))
    .tradingModeUnauthorized
  check .operatorSessionAuthorization
    (!request.context.operatorAuthorized || !request.context.sessionAuthorized ||
      request.context.operatorAuthorizationValidUntilNs ≤ request.now ||
      request.intent.sessionId != e.limits.sessionId ||
      request.intent.accountId != e.limits.accountId)
    .operatorSessionUnauthorized
  let strategy ← Pipeline.require (e.findStrategy request.intent.strategyId)
    ⟨.strategyUnauthorized, .strategyAuthorization⟩
  check .strategyAuthorization (!(e.strategyLimit strategy).authorized) .strategyUnauthorized
  let symbol ← Pipeline.require (e.findSymbol request.intent.instrumentId)
    ⟨.symbolUnauthorized, .symbolAuthorization⟩
  check .symbolAuthorization (!(e.symbolLimit symbol).authorized) .symbolUnauthorized
  return (strategy, symbol)

/-- Checks 5 to 9. -/
def checkMarket (symbol : SymbolLimit) : Evaluation Unit := do
  check .restrictedList symbol.restricted .restrictedInstrument
  let market := request.context.marketStateSnapshot
  check .marketState (unsafeMarketState market.state ||
      stale market.observedProcessMonotonicTimeNs request.now e.limits.maximumMarketStateAgeNs ||
      e.limits.allowedMarketStateMask &&& ((1 : UInt16) <<< market.state.code.toUInt16) == 0)
    .marketStateUnsafe
  check .halt (request.context.officialTradingStatus != .opened) .tradingHalted
  let clock := request.context.clockQualitySnapshot
  check .clockHealth (clock.state != .healthy || clock.operationMode != .normal ||
      stale clock.observedAt request.now e.limits.maximumClockStateAgeNs)
    .clockUnhealthy
  check .feedBookHealth
    (request.context.feedHealth != .healthy || request.context.bookValidity != .valid ||
      stale request.context.feedBookObservedProcessMonotonicTimeNs request.now
        e.limits.maximumFeedBookAgeNs)
    .feedBookUnhealthy

/-- The notional of check 11. -/
def orderNotional (symbol : SymbolLimit) : Option UInt64 :=
  if request.isCancel then some 0
  else do
    let priceQuantity ←
      checkedMultiply request.intent.limitPriceTicks.toUInt64 request.intent.quantityUnits
    checkedMultiply priceQuantity symbol.tickValueCurrencyNanos

/-- `deviation` of check 12. -/
def priceDeviation : UInt64 :=
  let price := request.intent.limitPriceTicks.toUInt64
  let reference := request.context.referencePriceTicks.toUInt64
  if reference < price then price - reference else reference - price

/-- Checks 10 to 13. -/
def checkOrder (symbol : SymbolLimit) : Evaluation Unit := do
  check .maximumOrderQuantity
    (!request.isCancel && symbol.maximumOrderQuantityUnits < request.intent.quantityUnits)
    .orderQuantityExceeded
  let notional ← Pipeline.require (orderNotional request symbol)
    ⟨.arithmeticOverflow, .maximumOrderNotional⟩
  check .maximumOrderNotional (symbol.maximumOrderNotionalCurrencyNanos < notional)
    .orderNotionalExceeded
  check .priceCollar
    (!request.isCancel && symbol.maximumPriceDeviationTicks < priceDeviation request)
    .priceCollarExceeded
  check .tickSize (!request.isCancel &&
      request.intent.limitPriceTicks.toUInt64 % symbol.priceIncrementTicks != 0)
    .invalidTickSize

def recordStep : Evaluation Unit := fun p =>
  match recordIntent p.engine.intentSlots request.intent.intentId with
  | none => (.error ⟨.riskStateUnavailable, .duplicateIntent⟩, p)
  | some (duplicate, slots) =>
      (if duplicate then .error ⟨.duplicateIntent, .duplicateIntent⟩ else .ok (),
        { p with engine := { p.engine with intentSlots := slots } })

/-- Check 14. -/
def checkDuplicate : Evaluation Unit := do
  recordStep request
  pass .duplicateIntent

def admitOrder : Evaluation Unit := fun p =>
  let admission := p.engine.orderRate.admit request.now e.limits.orderRateWindowNs
    e.limits.maximumOrdersPerWindow
  (if admission.1 then .ok () else .error ⟨.orderRateExceeded, .orderRate⟩,
    { p with engine := { p.engine with orderRate := admission.2 } })

def admitCancel : Evaluation Unit := fun p =>
  let admission := p.engine.cancelRate.admit request.now e.limits.cancelRateWindowNs
    e.limits.maximumCancelsPerWindow
  (if admission.1 then .ok () else .error ⟨.cancelRateExceeded, .cancelRate⟩,
    { p with engine := { p.engine with cancelRate := admission.2 } })

/-- Checks 15 and 16. -/
def checkRates : Evaluation Unit := do
  (if request.isCancel then pure () else admitOrder e request)
  pass .orderRate
  (if request.isCancel then admitCancel e request else pure ())
  pass .cancelRate

def ProjectionFailure.reason : ProjectionFailure → RiskReason
  | .staleState => .stalePosition
  | .arithmeticFailure => .arithmeticOverflow

def projectStep (symbolIndex : Nat) : Evaluation ExposureProjection := fun p =>
  match projectExposure e.limits e.symbolState request.now request.intent symbolIndex with
  | .error failure => (.error ⟨failure.reason, .symbolPosition⟩, p)
  | .ok exposure => (.ok exposure, p)

def worstMagnitude (low high : Int64) : UInt64 :=
  max (magnitude low) (magnitude high)

/-- The projection and checks 17 to 21. -/
def checkExposure (symbolIndex : Nat) : Evaluation ExposureProjection := do
  let exposure ← projectStep e request symbolIndex
  check .symbolPosition
    (!request.isCancel && (e.symbolLimit symbolIndex).maximumAbsolutePositionUnits <
      exposure.requestedSymbolWorstPosition)
    .symbolPositionExceeded
  check .grossExposure (e.limits.maximumGrossExposureCurrencyNanos < exposure.gross)
    .grossExposureExceeded
  check .netExposure (e.limits.maximumAbsoluteNetExposureCurrencyNanos <
      worstMagnitude exposure.netLow exposure.netHigh)
    .netExposureExceeded
  check .sectorConcentration
    (e.limits.maximumSectorExposureCurrencyNanos.zipIdx.any fun (limit, sector) =>
      limit < worstMagnitude (exposure.sectorLow sector) (exposure.sectorHigh sector))
    .sectorConcentrationExceeded
  check .factorExposure
    (e.limits.maximumFactorExposureCurrencyNanos.zipIdx.any fun (limit, factor) =>
      limit < worstMagnitude (exposure.factorLow factor) (exposure.factorHigh factor))
    .factorExposureExceeded
  return exposure

/-- `firm_drawdown` and `strategy_drawdown`. -/
def drawdown (peak pnl : Int64) : Option Int64 :=
  if pnl < peak then checkedSubtractSigned peak pnl else some 0

/-- Checks 22 to 24. -/
def checkLosses (strategyIndex : Nat) : Evaluation Unit := do
  let strategy := e.strategyState strategyIndex
  Pipeline.refuseIf
    (stale e.pnlAsOfProcessMonotonicTimeNs request.now e.limits.maximumPositionAgeNs ||
      stale strategy.asOfProcessMonotonicTimeNs request.now e.limits.maximumPositionAgeNs)
    ⟨.riskStateUnavailable, .dailyLoss⟩
  check .dailyLoss (e.firmDailyPnlCurrencyNanos < 0 &&
      e.limits.maximumDailyLossCurrencyNanos < magnitude e.firmDailyPnlCurrencyNanos)
    .dailyLossExceeded
  check .strategyLoss (strategy.pnlCurrencyNanos < 0 &&
      (e.strategyLimit strategyIndex).maximumLossCurrencyNanos <
        magnitude strategy.pnlCurrencyNanos)
    .strategyLossExceeded
  let firm ← Pipeline.require
    (drawdown e.firmPeakPnlCurrencyNanos e.firmDailyPnlCurrencyNanos)
    ⟨.arithmeticOverflow, .drawdown⟩
  let own ← Pipeline.require (drawdown strategy.peakPnlCurrencyNanos strategy.pnlCurrencyNanos)
    ⟨.arithmeticOverflow, .drawdown⟩
  check .drawdown (e.limits.maximumDrawdownCurrencyNanos < magnitude firm ||
      (e.strategyLimit strategyIndex).maximumDrawdownCurrencyNanos < magnitude own)
    .drawdownExceeded

/-- Checks 25 to 27. -/
def checkPolicies (exposure : ExposureProjection) : Evaluation Unit := do
  check .creditCapital (e.limits.creditCapitalLimitCurrencyNanos < exposure.gross)
    .creditCapitalExceeded
  check .shortSaleLocate
    (!request.isCancel && request.intent.action == .sell && exposure.requestedSymbolMayBeShort &&
      e.limits.requireLocateForShortSale && request.context.shortSaleLocate != .allowed)
    .shortSaleLocateDenied
  check .selfTradePrevention (!request.isCancel && e.limits.requireSelfTradePrevention &&
      request.context.selfTradePrevention != .allowed)
    .selfTradePreventionDenied

/-- Checks 28 and 29, with the index of the venue. -/
def checkVenue (strategyIndex symbolIndex : Nat) : Evaluation Nat := do
  let venue ← Pipeline.require (e.findVenue request.intent.venueId)
    ⟨.venueUnauthorized, .venueAuthorization⟩
  check .venueAuthorization (!(e.venueLimit venue).authorized) .venueUnauthorized
  check .killSwitch (e.applicableKill symbolIndex strategyIndex venue) .killSwitchEngaged
  return venue

/-- Check 30 and the final fence. No other operation holds the gate between the two readings of the
epoch. -/
def checkFreshness (strategyIndex symbolIndex venueIndex : Nat) : Evaluation Unit := do
  Pipeline.refuseIf (request.context.authorityEpoch != e.authorityEpoch ||
    e.limits.authorityEpoch != e.authorityEpoch) ⟨.splitBrainEpoch, .configurationFreshness⟩
  Pipeline.refuseIf (!e.stateAvailable) ⟨.riskStateUnavailable, .configurationFreshness⟩
  check .configurationFreshness
    (request.intent.configurationVersion != e.limits.configurationVersion ||
      request.now < e.limits.publishedProcessMonotonicTimeNs ||
      e.limits.validUntilProcessMonotonicTimeNs < request.now ||
      e.limits.maximumConfigurationAgeNs < request.now - e.limits.publishedProcessMonotonicTimeNs)
    .configurationStale
  recheck .killSwitch (e.applicableKill symbolIndex strategyIndex venueIndex) .killSwitchEngaged

/-- `ttl_end`, when it does not overflow. -/
def ttlEnd : Option UInt64 :=
  checkedAdd request.now e.limits.approvalTtlNs

/-- How long an approval is valid. -/
def validUntil : UInt64 :=
  min (min ((ttlEnd e request).getD 0) request.intent.expireProcessMonotonicTimeNs)
    (min e.limits.validUntilProcessMonotonicTimeNs
      request.context.operatorAuthorizationValidUntilNs)

def setValidUntil (validUntil : UInt64) : Evaluation Unit :=
  Pipeline.update fun p =>
    { p with decision := { p.decision with validUntilProcessMonotonicTimeNs := validUntil } }

def approvalEnd : Evaluation Unit := do
  recheck .configurationFreshness (ttlEnd e request).isNone .arithmeticOverflow
  setValidUntil (validUntil e request)
  Pipeline.refuseIf (validUntil e request ≤ request.now)
    ⟨.configurationStale, .configurationFreshness⟩

def RuntimeSymbolState.reserve (state : RuntimeSymbolState) (intent : RiskIntent) :
    Option RuntimeSymbolState :=
  if intent.action = .buy then do
    let next ← checkedAdd state.pendingBuyQuantityUnits intent.quantityUnits
    some { state with pendingBuyQuantityUnits := next }
  else do
    let next ← checkedAdd state.pendingSellQuantityUnits intent.quantityUnits
    some { state with pendingSellQuantityUnits := next }

def storeSymbol (symbolIndex : Nat) (state : RuntimeSymbolState) : Evaluation Unit :=
  Pipeline.update fun p => { p with
    engine := { p.engine with
      symbolState := Function.update p.engine.symbolState symbolIndex state
      positionGeneration := p.engine.positionGeneration + 1 } }

def reserveOrder (symbolIndex : Nat) : Evaluation Unit :=
  if request.isCancel then pure ()
  else
    match (e.symbolState symbolIndex).reserve request.intent with
    | none => do
        unpass .symbolPosition
        Pipeline.refuse ⟨.arithmeticOverflow, .symbolPosition⟩
    | some state => storeSymbol symbolIndex state

/-- `evaluate_locked` up to the reservation. -/
def evaluationChecks : Evaluation Nat := do
  screenRequest e request
  let (strategyIndex, symbolIndex) ← authorizeRequest e request
  let symbol := e.symbolLimit symbolIndex
  checkMarket e request symbol
  checkOrder request symbol
  checkDuplicate request
  checkRates e request
  let exposure ← checkExposure e request symbolIndex
  checkLosses e request strategyIndex
  checkPolicies e request exposure
  let venueIndex ← checkVenue e request strategyIndex symbolIndex
  checkFreshness e request strategyIndex symbolIndex venueIndex
  approvalEnd e request
  return symbolIndex

/-- The sequence of `evaluate_locked`. -/
def evaluation : Evaluation Unit := do
  let symbolIndex ← evaluationChecks e request
  reserveOrder e request symbolIndex

end Checks

/-- The decision that `reject` commits. -/
def Progress.rejected (p : Progress) (rejection : Rejection) : RiskDecision :=
  let decision := { p.decision with
    decision := .rejected
    reason := rejection.reason
    failedCheck := rejection.check
    approvedQuantityUnits := 0
    approvedPriceTicks := 0
    reasonMask := p.decision.reasonMask ||| reasonBit rejection.reason
    positionGeneration := p.engine.positionGeneration }
  { decision with stableHash := stableRiskDecisionHash decision }

/-- The decision that an approval commits. -/
def Progress.approved (p : Progress) (intent : RiskIntent) : RiskDecision :=
  let decision := { p.decision with
    decision := .approved
    reason := .withinLimits
    failedCheck := .none
    approvedQuantityUnits := intent.quantityUnits
    approvedPriceTicks := intent.limitPriceTicks
    reasonMask := reasonBit .withinLimits
    positionGeneration := p.engine.positionGeneration }
  { decision with stableHash := stableRiskDecisionHash decision }

namespace Engine

/-- The engine once a place in the journal is reserved. -/
def started (e : Engine) : Engine :=
  { e with
    journalReserved := e.journalReserved + 1
    evaluationCount := e.evaluationCount + 1 }

/-- `evaluate_locked`, with the place reserved in the journal. -/
def evaluateLocked (e : Engine) (request : RiskEvaluationRequest) : Engine × RiskDecision :=
  let decision := e.baseDecision request e.started.evaluationCount e.started.journalReserved
  match evaluation e.started request ⟨e.started, decision⟩ with
  | (.ok _, p) => (p.engine, p.approved request.intent)
  | (.error rejection, p) => (p.engine, p.rejected rejection)

def evaluate (e : Engine) (request : RiskEvaluationRequest) :
    Engine × EvaluationStatus × RiskDecision :=
  if !e.initialized then (e, .notInitialized, {})
  else if kRiskDecisionJournalCapacity ≤ (e.journalReserved - e.journalConsumed).toNat then
    (e, .journalUnavailable, {})
  else
    let (next, decision) := e.evaluateLocked request
    (next, .journaled, decision)

def installed (e : Engine) (limits : RiskLimitSnapshot) : Engine :=
  { e with
    limits
    authorityEpoch := limits.authorityEpoch
    stateAvailable := false
    firmKill := 1
    killGeneration := e.killGeneration + 1
    symbolState := fun _ => {}
    strategyState := fun _ => {}
    intentSlots := fun _ => {}
    orderRate := {}
    cancelRate := {}
    lastEvaluationTimeNs := 0
    lastPortfolioSnapshotSequence := 0
    lastPortfolioSnapshotHash := 0
    positionGeneration := e.positionGeneration + 1
    initialized := true }

def installLimits (e : Engine) (limits : RiskLimitSnapshot) : Engine × InstallStatus :=
  if !validLimitSnapshot limits then (e, .invalid)
  else if limits.revision < e.limits.revision || limits.authorityEpoch < e.authorityEpoch then
    (e, .rollbackRejected)
  else if limits.revision = e.limits.revision then
    (e, if limits.stableHash = e.limits.stableHash then .unchanged else .revisionConflict)
  else (e.installed limits, .installed)

def seedPosition (e : Engine) (seed : PositionSeed) : Engine × StateUpdateStatus :=
  if !e.initialized || kMaximumRiskSymbols ≤ seed.symbolIndex.toNat || seed.markPriceTicks ≤ 0 ||
      seed.asOfProcessMonotonicTimeNs == 0 then
    (e, .invalid)
  else if e.limits.symbols.length ≤ seed.symbolIndex.toNat then (e, .invalid)
  else
    ({ e with
      symbolState := Function.update e.symbolState seed.symbolIndex.toNat
        { netQuantityUnits := seed.netQuantityUnits
          pendingBuyQuantityUnits := 0
          pendingSellQuantityUnits := 0
          markPriceTicks := seed.markPriceTicks
          asOfProcessMonotonicTimeNs := seed.asOfProcessMonotonicTimeNs
          available := true }
      positionGeneration := e.positionGeneration + 1 }, .applied)

def portfolioSnapshotCompatible (e : Engine) (snapshot : Portfolio.PortfolioSnapshot) : Bool :=
  e.initialized && snapshot.schemaMajor == Portfolio.kPortfolioSchemaMajor &&
    snapshot.schemaMinor ≤ Portfolio.kPortfolioSchemaMinor && snapshot.ready &&
    snapshot.health == .healthy && snapshot.stableHash != 0 &&
    Portfolio.stableSnapshotHash snapshot == snapshot.stableHash &&
    snapshot.sessionId == e.limits.sessionId &&
    snapshot.configurationVersion == e.limits.configurationVersion &&
    snapshot.accounts.map (·.accountId) == [e.limits.accountId] &&
    snapshot.asOfProcessMonotonicTimeNs != 0

/-- The instrument found for a symbol. -/
def mapInstrument (snapshot : Portfolio.PortfolioSnapshot) (symbol : SymbolLimit) :
    Option Portfolio.InstrumentExposure := do
  let found ← snapshot.instruments.find? (·.instrumentId == symbol.instrumentId)
  if found.markPriceTicks ≤ 0 then none else some found

/-- `map_portfolio_snapshot`, for the symbols and the strategies. -/
def mapPortfolioSnapshot (e : Engine) (snapshot : Portfolio.PortfolioSnapshot) :
    Option (List Portfolio.InstrumentExposure × List Portfolio.StrategyExposure) := do
  let instruments ← e.limits.symbols.mapM (mapInstrument snapshot)
  let strategies ← e.limits.strategies.mapM fun strategy =>
    snapshot.strategies.find? (·.strategyId == strategy.strategyId)
  some (instruments, strategies)

/-- The state that a snapshot gives a symbol. -/
def symbolFromSnapshot (asOf : UInt64) (source : Portfolio.InstrumentExposure) :
    RuntimeSymbolState :=
  { netQuantityUnits := source.netQuantityUnits
    pendingBuyQuantityUnits := source.pendingBuyQuantityUnits
    pendingSellQuantityUnits := source.pendingSellQuantityUnits
    markPriceTicks := source.markPriceTicks
    asOfProcessMonotonicTimeNs := asOf
    available := true }

def installMappedPortfolioSnapshot (e : Engine) (snapshot : Portfolio.PortfolioSnapshot)
    (instruments : List Portfolio.InstrumentExposure)
    (strategies : List Portfolio.StrategyExposure) : Engine :=
  { e with
    symbolState := fun index =>
      match instruments[index]? with
      | some source => symbolFromSnapshot snapshot.asOfProcessMonotonicTimeNs source
      | none => e.symbolState index
    strategyState := fun index =>
      match strategies[index]? with
      | some source =>
          { pnlCurrencyNanos := source.pnlCurrencyNanos
            peakPnlCurrencyNanos := source.peakPnlCurrencyNanos
            asOfProcessMonotonicTimeNs := snapshot.asOfProcessMonotonicTimeNs }
      | none => e.strategyState index
    firmDailyPnlCurrencyNanos := snapshot.totalPnlCurrencyNanos
    firmPeakPnlCurrencyNanos := snapshot.peakPnlCurrencyNanos
    pnlAsOfProcessMonotonicTimeNs := snapshot.asOfProcessMonotonicTimeNs
    lastPortfolioSnapshotSequence := snapshot.sequence
    lastPortfolioSnapshotHash := snapshot.stableHash
    stateAvailable := true
    positionGeneration := e.positionGeneration + 1 }

def installPortfolioSnapshot (e : Engine) (snapshot : Portfolio.PortfolioSnapshot) :
    Engine × StateUpdateStatus :=
  if !e.portfolioSnapshotCompatible snapshot then (e, .invalid)
  else if snapshot.sequence < e.lastPortfolioSnapshotSequence ||
      (snapshot.sequence == e.lastPortfolioSnapshotSequence &&
        e.lastPortfolioSnapshotSequence != 0 &&
        snapshot.stableHash != e.lastPortfolioSnapshotHash) then
    (e, .unavailable)
  else if snapshot.sequence = e.lastPortfolioSnapshotSequence ∧
      snapshot.stableHash = e.lastPortfolioSnapshotHash then
    (e, .applied)
  else
    match e.mapPortfolioSnapshot snapshot with
    | none => (e, .unavailable)
    | some (instruments, strategies) =>
        (e.installMappedPortfolioSnapshot snapshot instruments strategies, .applied)

def pendingOf (state : RuntimeSymbolState) (side : IntentAction) : UInt64 :=
  if side = .buy then state.pendingBuyQuantityUnits else state.pendingSellQuantityUnits

def filledPosition (state : RuntimeSymbolState) (update : FillUpdate) : Option Int64 :=
  if update.side = .buy then
    checkedAddSigned state.netQuantityUnits update.fillQuantityUnits.toInt64
  else checkedSubtractSigned state.netQuantityUnits update.fillQuantityUnits.toInt64

def filledSymbol (state : RuntimeSymbolState) (update : FillUpdate) (position : Int64) :
    RuntimeSymbolState :=
  let pending := pendingOf state update.side - update.releaseReservedQuantityUnits
  { state with
    netQuantityUnits := position
    pendingBuyQuantityUnits := if update.side = .buy then pending else state.pendingBuyQuantityUnits
    pendingSellQuantityUnits :=
      if update.side = .buy then state.pendingSellQuantityUnits else pending
    asOfProcessMonotonicTimeNs := update.asOfProcessMonotonicTimeNs }

def applyFill (e : Engine) (update : FillUpdate) : Engine × StateUpdateStatus :=
  if !e.initialized || kMaximumRiskSymbols ≤ update.symbolIndex.toNat ||
      kMaximumRiskStrategies ≤ update.strategyIndex.toNat ||
      (update.side != .buy && update.side != .sell) || update.fillQuantityUnits == 0 ||
      kMaximumMonetaryNanos < update.fillQuantityUnits ||
      update.asOfProcessMonotonicTimeNs == 0 then
    (e, .invalid)
  else if e.limits.symbols.length ≤ update.symbolIndex.toNat ||
      e.limits.strategies.length ≤ update.strategyIndex.toNat then
    (e, .invalid)
  else
    let symbol := e.symbolState update.symbolIndex.toNat
    let strategy := e.strategyState update.strategyIndex.toNat
    if !symbol.available || update.asOfProcessMonotonicTimeNs < symbol.asOfProcessMonotonicTimeNs ||
        pendingOf symbol update.side < update.releaseReservedQuantityUnits then
      (e, .unavailable)
    else
      match filledPosition symbol update,
          checkedAddSigned e.firmDailyPnlCurrencyNanos update.realizedPnlDeltaCurrencyNanos,
          checkedAddSigned strategy.pnlCurrencyNanos update.realizedPnlDeltaCurrencyNanos with
      | some position, some firmPnl, some strategyPnl =>
          ({ e with
            symbolState := Function.update e.symbolState update.symbolIndex.toNat
              (filledSymbol symbol update position)
            firmDailyPnlCurrencyNanos := firmPnl
            firmPeakPnlCurrencyNanos := max e.firmPeakPnlCurrencyNanos firmPnl
            strategyState := Function.update e.strategyState update.strategyIndex.toNat
              { pnlCurrencyNanos := strategyPnl
                peakPnlCurrencyNanos := max strategy.peakPnlCurrencyNanos strategyPnl
                asOfProcessMonotonicTimeNs := update.asOfProcessMonotonicTimeNs }
            pnlAsOfProcessMonotonicTimeNs := update.asOfProcessMonotonicTimeNs
            positionGeneration := e.positionGeneration + 1 }, .applied)
      | _, _, _ => (e, .arithmeticOverflow)

def updateProfitLoss (e : Engine) (update : ProfitLossUpdate) : Engine × StateUpdateStatus :=
  if !e.initialized || kMaximumRiskStrategies ≤ update.strategyIndex.toNat ||
      update.asOfProcessMonotonicTimeNs == 0 ||
      update.firmPeakPnlCurrencyNanos < update.firmDailyPnlCurrencyNanos ||
      update.strategyPeakPnlCurrencyNanos < update.strategyPnlCurrencyNanos then
    (e, .invalid)
  else if e.limits.strategies.length ≤ update.strategyIndex.toNat then (e, .invalid)
  else if update.asOfProcessMonotonicTimeNs < e.pnlAsOfProcessMonotonicTimeNs then
    (e, .unavailable)
  else
    ({ e with
      firmDailyPnlCurrencyNanos := update.firmDailyPnlCurrencyNanos
      firmPeakPnlCurrencyNanos := update.firmPeakPnlCurrencyNanos
      strategyState := Function.update e.strategyState update.strategyIndex.toNat
        { pnlCurrencyNanos := update.strategyPnlCurrencyNanos
          peakPnlCurrencyNanos := update.strategyPeakPnlCurrencyNanos
          asOfProcessMonotonicTimeNs := update.asOfProcessMonotonicTimeNs }
      pnlAsOfProcessMonotonicTimeNs := update.asOfProcessMonotonicTimeNs
      positionGeneration := e.positionGeneration + 1 }, .applied)

def validKillTarget (update : KillSwitchUpdate) : Bool :=
  (update.scope == .symbol && update.targetIndex.toNat < kMaximumRiskSymbols) ||
    (update.scope == .strategy && update.targetIndex.toNat < kMaximumRiskStrategies) ||
    (update.scope == .venue && update.targetIndex.toNat < kMaximumRiskVenues) ||
    (update.scope == .account && update.targetIndex == 0) ||
    (update.scope == .firm && update.targetIndex == 0)

def applyKill (engaged : Bool) (target value : UInt64) : UInt64 :=
  if engaged then target ||| value else target &&& ~~~value

def switchKill (e : Engine) (update : KillSwitchUpdate) : Engine :=
  let mask := indexBit update.targetIndex.toNat
  match update.scope with
  | .symbol => { e with symbolKillMask := applyKill update.engaged e.symbolKillMask mask }
  | .strategy => { e with strategyKillMask := applyKill update.engaged e.strategyKillMask mask }
  | .venue => { e with venueKillMask := applyKill update.engaged e.venueKillMask mask }
  | .account => { e with accountKill := applyKill update.engaged e.accountKill 1 }
  | .firm => { e with firmKill := applyKill update.engaged e.firmKill 1 }
  | .unlisted _ => e

def updateKillSwitch (e : Engine) (update : KillSwitchUpdate) : Engine × StateUpdateStatus :=
  if !e.initialized || !validKillTarget update || update.commandSequence == 0 ||
      (!update.engaged && !update.operatorAuthorized) then
    (e, .invalid)
  else if update.authorityEpoch ≠ e.authorityEpoch then (e, .invalid)
  else if update.commandSequence ≤ e.lastKillCommandSequence then (e, .unavailable)
  else
    ({ e.switchKill update with
      lastKillCommandSequence := update.commandSequence
      killGeneration := e.killGeneration + 1 }, .applied)

end Engine

/-- What a caller, or the journal's consumer, does. -/
inductive EngineAction where
  | evaluate (request : RiskEvaluationRequest)
  | installLimits (limits : RiskLimitSnapshot)
  | seedPosition (seed : PositionSeed)
  | installPortfolioSnapshot (snapshot : Portfolio.PortfolioSnapshot)
  | applyFill (update : FillUpdate)
  | updateProfitLoss (update : ProfitLossUpdate)
  | updateKillSwitch (update : KillSwitchUpdate)
  | setStateAvailable (available : Bool)
  | popDecision

/-- One operation. A reserved decision is published at once. -/
def Engine.step (e : Engine) : EngineAction → Engine
  | .evaluate request => (e.evaluate request).1
  | .installLimits limits => (e.installLimits limits).1
  | .seedPosition seed => (e.seedPosition seed).1
  | .installPortfolioSnapshot snapshot => (e.installPortfolioSnapshot snapshot).1
  | .applyFill update => (e.applyFill update).1
  | .updateProfitLoss update => (e.updateProfitLoss update).1
  | .updateKillSwitch update => (e.updateKillSwitch update).1
  | .setStateAvailable available => { e with stateAvailable := available }
  | .popDecision =>
      if e.journalConsumed < e.journalReserved then
        { e with journalConsumed := e.journalConsumed + 1 }
      else e

end Aegis.Risk
