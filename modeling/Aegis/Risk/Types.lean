import Aegis.Common.Identifiers

/-!
Risk intents and risk decisions (`risk/src/types.cpp`), as far as the order-management system
reads them.
-/

namespace Aegis.Risk

open Aegis.Common

/-- `risk::TradingMode`; bytes outside its range are `unlisted`. -/
inductive TradingMode where
  | simulation | paper | live
  | unlisted (byte : UnlistedCode 1 3)
  deriving DecidableEq

def TradingMode.code : TradingMode → UInt8
  | .simulation => 1
  | .paper => 2
  | .live => 3
  | .unlisted byte => byte.raw

inductive IntentAction where
  | buy | sell | cancel
  | unlisted (byte : UnlistedCode 1 3)
  deriving DecidableEq

def IntentAction.code : IntentAction → UInt8
  | .buy => 1
  | .sell => 2
  | .cancel => 3
  | .unlisted byte => byte.raw

inductive DecisionCode where
  | rejected | approved
  | unlisted (byte : UnlistedCode 1 2)
  deriving DecidableEq

def DecisionCode.code : DecisionCode → UInt8
  | .rejected => 1
  | .approved => 2
  | .unlisted byte => byte.raw

/-- `risk::RiskCheck`, in the normative evaluation order. -/
inductive RiskCheck where
  | none | tradingModeAuthorization | operatorSessionAuthorization | strategyAuthorization
  | symbolAuthorization | restrictedList | marketState | halt | clockHealth | feedBookHealth
  | maximumOrderQuantity | maximumOrderNotional | priceCollar | tickSize | duplicateIntent
  | orderRate | cancelRate | symbolPosition | grossExposure | netExposure | sectorConcentration
  | factorExposure | dailyLoss | strategyLoss | drawdown | creditCapital | shortSaleLocate
  | selfTradePrevention | venueAuthorization | killSwitch | configurationFreshness
  | unlisted (byte : UnlistedCode 0 30)
  deriving DecidableEq

def RiskCheck.code : RiskCheck → UInt8
  | .none => 0
  | .tradingModeAuthorization => 1
  | .operatorSessionAuthorization => 2
  | .strategyAuthorization => 3
  | .symbolAuthorization => 4
  | .restrictedList => 5
  | .marketState => 6
  | .halt => 7
  | .clockHealth => 8
  | .feedBookHealth => 9
  | .maximumOrderQuantity => 10
  | .maximumOrderNotional => 11
  | .priceCollar => 12
  | .tickSize => 13
  | .duplicateIntent => 14
  | .orderRate => 15
  | .cancelRate => 16
  | .symbolPosition => 17
  | .grossExposure => 18
  | .netExposure => 19
  | .sectorConcentration => 20
  | .factorExposure => 21
  | .dailyLoss => 22
  | .strategyLoss => 23
  | .drawdown => 24
  | .creditCapital => 25
  | .shortSaleLocate => 26
  | .selfTradePrevention => 27
  | .venueAuthorization => 28
  | .killSwitch => 29
  | .configurationFreshness => 30
  | .unlisted byte => byte.raw

inductive RiskReason where
  | withinLimits | invalidIntent | expiredIntent | tradingModeUnauthorized
  | operatorSessionUnauthorized | strategyUnauthorized | symbolUnauthorized
  | restrictedInstrument | marketStateUnsafe | tradingHalted | clockUnhealthy
  | feedBookUnhealthy | orderQuantityExceeded | orderNotionalExceeded | priceCollarExceeded
  | invalidTickSize | duplicateIntent | orderRateExceeded | cancelRateExceeded
  | symbolPositionExceeded | grossExposureExceeded | netExposureExceeded
  | sectorConcentrationExceeded | factorExposureExceeded | dailyLossExceeded
  | strategyLossExceeded | drawdownExceeded | creditCapitalExceeded | shortSaleLocateDenied
  | selfTradePreventionDenied | venueUnauthorized | killSwitchEngaged | configurationStale
  | stalePosition | riskStateUnavailable | configurationRollback | splitBrainEpoch
  | arithmeticOverflow | journalUnavailable | engineBusy
  | unlisted (byte : UnlistedCode 1 40)
  deriving DecidableEq

def RiskReason.code : RiskReason → UInt8
  | .withinLimits => 1
  | .invalidIntent => 2
  | .expiredIntent => 3
  | .tradingModeUnauthorized => 4
  | .operatorSessionUnauthorized => 5
  | .strategyUnauthorized => 6
  | .symbolUnauthorized => 7
  | .restrictedInstrument => 8
  | .marketStateUnsafe => 9
  | .tradingHalted => 10
  | .clockUnhealthy => 11
  | .feedBookUnhealthy => 12
  | .orderQuantityExceeded => 13
  | .orderNotionalExceeded => 14
  | .priceCollarExceeded => 15
  | .invalidTickSize => 16
  | .duplicateIntent => 17
  | .orderRateExceeded => 18
  | .cancelRateExceeded => 19
  | .symbolPositionExceeded => 20
  | .grossExposureExceeded => 21
  | .netExposureExceeded => 22
  | .sectorConcentrationExceeded => 23
  | .factorExposureExceeded => 24
  | .dailyLossExceeded => 25
  | .strategyLossExceeded => 26
  | .drawdownExceeded => 27
  | .creditCapitalExceeded => 28
  | .shortSaleLocateDenied => 29
  | .selfTradePreventionDenied => 30
  | .venueUnauthorized => 31
  | .killSwitchEngaged => 32
  | .configurationStale => 33
  | .stalePosition => 34
  | .riskStateUnavailable => 35
  | .configurationRollback => 36
  | .splitBrainEpoch => 37
  | .arithmeticOverflow => 38
  | .journalUnavailable => 39
  | .engineBusy => 40
  | .unlisted byte => byte.raw

abbrev Sha256Digest := Vector UInt8 32

/-- `is_zero_digest`. -/
def isZeroDigest (digest : Sha256Digest) : Bool :=
  digest.toList.foldl (fun combined byte => combined ||| byte) 0 == 0

structure RiskIntent where
  intentId : IntentId := {}
  sessionId : SessionId := {}
  accountId : AccountId := {}
  strategyId : StrategyId := {}
  venueId : VenueId := {}
  instrumentId : InstrumentId := {}
  sourceForecastId : ForecastId := {}
  featureSnapshotId : FeatureSnapshotId := {}
  targetOrderId : OrderId := {}
  configurationVersion : ConfigurationVersion := {}
  action : IntentAction := .buy
  limitPriceTicks : Int64 := 0
  quantityUnits : UInt64 := 0
  createdProcessMonotonicTimeNs : UInt64 := 0
  expireProcessMonotonicTimeNs : UInt64 := 0
  canonicalSha256 : Sha256Digest := Vector.replicate 32 0
  stableHash : UInt64 := 0
  deriving DecidableEq

structure RiskDecision where
  globalEventId : GlobalEventId := {}
  intentId : IntentId := {}
  sessionId : SessionId := {}
  accountId : AccountId := {}
  strategyId : StrategyId := {}
  venueId : VenueId := {}
  instrumentId : InstrumentId := {}
  riskSnapshotId : RiskSnapshotId := {}
  configurationVersion : ConfigurationVersion := {}
  decision : DecisionCode := .rejected
  reason : RiskReason := .riskStateUnavailable
  failedCheck : RiskCheck := .none
  intentAction : IntentAction := .buy
  tradingMode : TradingMode := .simulation
  approvedQuantityUnits : UInt64 := 0
  approvedPriceTicks : Int64 := 0
  evaluatedProcessMonotonicTimeNs : UInt64 := 0
  validUntilProcessMonotonicTimeNs : UInt64 := 0
  intentHash : UInt64 := 0
  intentSha256 : Sha256Digest := Vector.replicate 32 0
  riskSnapshotHash : UInt64 := 0
  riskContextHash : UInt64 := 0
  positionGeneration : UInt64 := 0
  authorityEpoch : UInt64 := 0
  policyRevision : UInt64 := 0
  evaluationOrdinal : UInt64 := 0
  journalSequence : UInt64 := 0
  reasonMask : UInt64 := 0
  completedCheckMask : UInt32 := 0
  stableHash : UInt64 := 0
  deriving DecidableEq

def validTradingMode (mode : TradingMode) : Bool :=
  mode == .simulation || mode == .paper || mode == .live

def validIntentAction (action : IntentAction) : Bool :=
  action == .buy || action == .sell || action == .cancel

def validDecisionCode (decision : DecisionCode) : Bool :=
  decision == .rejected || decision == .approved

def validRiskReason (reason : RiskReason) : Bool :=
  RiskReason.withinLimits.code ≤ reason.code && reason.code ≤ RiskReason.engineBusy.code

def validRiskCheck (check : RiskCheck) : Bool :=
  RiskCheck.none.code ≤ check.code && check.code ≤ RiskCheck.configurationFreshness.code

/-- `reason_bit`: zero for other than a listed reason below 64. -/
def reasonBit (reason : RiskReason) : UInt64 :=
  if validRiskReason reason && reason.code < 64 then (1 : UInt64) <<< reason.code.toUInt64 else 0

/-- `stable_risk_intent_hash`. The stored hash is not mixed. -/
def stableRiskIntentHash (intent : RiskIntent) : UInt64 := Id.run do
  let mut hash := kFnvOffset
  hash := mixIdentifier hash intent.intentId
  hash := mixIdentifier hash intent.sessionId
  hash := mixIdentifier hash intent.accountId
  hash := mixIdentifier hash intent.strategyId
  hash := mixIdentifier hash intent.venueId
  hash := mixIdentifier hash intent.instrumentId
  hash := mixIdentifier hash intent.sourceForecastId
  hash := mixIdentifier hash intent.featureSnapshotId
  hash := mixIdentifier hash intent.targetOrderId
  hash := mixIdentifier hash intent.configurationVersion
  hash := mix hash intent.action.code.toUInt64
  hash := mix hash intent.limitPriceTicks.toUInt64
  hash := mix hash intent.quantityUnits
  hash := mix hash intent.createdProcessMonotonicTimeNs
  hash := mix hash intent.expireProcessMonotonicTimeNs
  hash := mixBytes hash intent.canonicalSha256.toList
  return nonzeroHash hash

def validRiskIntent (intent : RiskIntent) : Bool :=
  if !intent.intentId.valid || !intent.sessionId.valid || !intent.accountId.valid ||
      !intent.strategyId.valid || !intent.venueId.valid || !intent.instrumentId.valid ||
      !intent.configurationVersion.valid || !validIntentAction intent.action ||
      intent.createdProcessMonotonicTimeNs == 0 ||
      intent.expireProcessMonotonicTimeNs ≤ intent.createdProcessMonotonicTimeNs ||
      isZeroDigest intent.canonicalSha256 || intent.stableHash == 0 ||
      intent.stableHash != stableRiskIntentHash intent then
    false
  else if intent.action == .cancel then
    intent.targetOrderId.valid && !intent.sourceForecastId.valid &&
      !intent.featureSnapshotId.valid && intent.quantityUnits == 0 &&
      intent.limitPriceTicks == 0
  else
    !intent.targetOrderId.valid && intent.sourceForecastId.valid &&
      intent.featureSnapshotId.valid && intent.quantityUnits != 0 &&
      intent.limitPriceTicks > 0

def stableRiskDecisionHash (decision : RiskDecision) : UInt64 := Id.run do
  let mut hash := kFnvOffset
  hash := mixIdentifier hash decision.globalEventId
  hash := mixIdentifier hash decision.intentId
  hash := mixIdentifier hash decision.sessionId
  hash := mixIdentifier hash decision.accountId
  hash := mixIdentifier hash decision.strategyId
  hash := mixIdentifier hash decision.venueId
  hash := mixIdentifier hash decision.instrumentId
  hash := mixIdentifier hash decision.riskSnapshotId
  hash := mixIdentifier hash decision.configurationVersion
  hash := mix hash decision.decision.code.toUInt64
  hash := mix hash decision.reason.code.toUInt64
  hash := mix hash decision.failedCheck.code.toUInt64
  hash := mix hash decision.intentAction.code.toUInt64
  hash := mix hash decision.tradingMode.code.toUInt64
  hash := mix hash decision.approvedQuantityUnits
  hash := mix hash decision.approvedPriceTicks.toUInt64
  hash := mix hash decision.evaluatedProcessMonotonicTimeNs
  hash := mix hash decision.validUntilProcessMonotonicTimeNs
  hash := mix hash decision.intentHash
  hash := mixBytes hash decision.intentSha256.toList
  hash := mix hash decision.riskSnapshotHash
  hash := mix hash decision.riskContextHash
  hash := mix hash decision.positionGeneration
  hash := mix hash decision.authorityEpoch
  hash := mix hash decision.policyRevision
  hash := mix hash decision.evaluationOrdinal
  hash := mix hash decision.journalSequence
  hash := mix hash decision.reasonMask
  hash := mix hash decision.completedCheckMask.toUInt64
  return nonzeroHash hash

/-- `kAllChecks`: thirty completed checks. -/
def kAllChecks : UInt32 := ((1 : UInt32) <<< 30) - 1

def validRiskDecision (decision : RiskDecision) : Bool :=
  if !decision.globalEventId.valid || !decision.intentId.valid || !decision.sessionId.valid ||
      !decision.accountId.valid || !decision.strategyId.valid || !decision.venueId.valid ||
      !decision.instrumentId.valid || !decision.riskSnapshotId.valid ||
      !decision.configurationVersion.valid || !validDecisionCode decision.decision ||
      !validRiskReason decision.reason || !validRiskCheck decision.failedCheck ||
      !validIntentAction decision.intentAction || !validTradingMode decision.tradingMode ||
      decision.evaluatedProcessMonotonicTimeNs == 0 ||
      decision.validUntilProcessMonotonicTimeNs ≤ decision.evaluatedProcessMonotonicTimeNs ||
      decision.intentHash == 0 || isZeroDigest decision.intentSha256 ||
      decision.riskSnapshotHash == 0 || decision.riskContextHash == 0 ||
      decision.positionGeneration == 0 || decision.authorityEpoch == 0 ||
      decision.policyRevision == 0 || decision.evaluationOrdinal == 0 ||
      decision.journalSequence == 0 ||
      (decision.reasonMask &&& reasonBit decision.reason) == 0 ||
      decision.stableHash == 0 || decision.stableHash != stableRiskDecisionHash decision then
    false
  else if decision.decision == .approved then
    decision.reason == .withinLimits && decision.failedCheck == .none &&
      (if decision.intentAction == .cancel then
        decision.approvedQuantityUnits == 0 && decision.approvedPriceTicks == 0
      else
        decision.approvedQuantityUnits != 0 && decision.approvedPriceTicks > 0) &&
      decision.completedCheckMask == kAllChecks
  else
    decision.reason != .withinLimits && decision.approvedQuantityUnits == 0 &&
      decision.approvedPriceTicks == 0

/-- The facts an order keeps from the intent it was accepted for. -/
structure IntentFacts (intent : RiskIntent) : Prop where
  intentId : intent.intentId.valid = true
  sessionId : intent.sessionId.valid = true
  accountId : intent.accountId.valid = true
  strategyId : intent.strategyId.valid = true
  venueId : intent.venueId.valid = true
  instrumentId : intent.instrumentId.valid = true
  configurationVersion : intent.configurationVersion.valid = true
  stableHash : intent.stableHash ≠ 0
  order : intent.action ≠ .cancel → intent.quantityUnits ≠ 0 ∧ intent.limitPriceTicks > 0

theorem IntentFacts.of_valid {intent : RiskIntent} (h : validRiskIntent intent) :
    IntentFacts intent := by
  unfold validRiskIntent at h
  split at h
  · exact absurd h (by simp)
  rename_i guard
  simp only [Bool.or_eq_true, Bool.not_eq_true', beq_iff_eq, bne_iff_ne, ne_eq,
    decide_eq_true_eq, not_or, Bool.not_eq_false, not_not] at guard
  obtain ⟨⟨⟨⟨⟨⟨⟨⟨⟨⟨⟨⟨h1, h2⟩, h3⟩, h4⟩, h5⟩, h6⟩, h7⟩, _⟩, _⟩, _⟩, _⟩, h8⟩, _⟩ := guard
  refine ⟨h1, h2, h3, h4, h5, h6, h7, h8, fun notCancel => ?_⟩
  rw [if_neg (by simpa using notCancel)] at h
  simp only [Bool.and_eq_true, bne_iff_ne, ne_eq, decide_eq_true_eq] at h
  exact ⟨h.1.2, h.2⟩

theorem stableHash_ne_zero_of_valid {decision : RiskDecision}
    (h : validRiskDecision decision) : decision.stableHash ≠ 0 := by
  unfold validRiskDecision at h
  split at h
  · exact absurd h (by simp)
  rename_i guard
  simp only [Bool.or_eq_true, Bool.not_eq_true', beq_iff_eq, bne_iff_ne, ne_eq,
    decide_eq_true_eq, not_or, Bool.not_eq_false, not_not] at guard
  exact guard.1.2

end Aegis.Risk
