import Aegis.Execution.Types

/-!
The records of the smart order router (`execution/src/router_types.cpp`). An array with a count is
the list of its used entries; a count above `kMaximumRouterVenues` is a longer list, which every
check refuses.
-/

namespace Aegis.Routing

open Aegis.Common Aegis.Risk
open Aegis.Execution (hashWords identifierWords flag)

def kMaximumRouterVenues : Nat := 16

def kRouterPartsPerMillion : UInt32 := 1000000

def kMaximumRouterPriceTicks : Int64 := 10000000000

def kMaximumRouterQuantityUnits : UInt64 := 1000000000000

def kMaximumRouterTickValueCurrencyNanos : UInt64 := 1000000000

def kMaximumRouterAlphaMicroticks : Int64 := 1000000000

def kMaximumRouterFeeCurrencyNanosPerUnit : Int64 := 1000000000

inductive ExecutionPolicy where
  | passiveJoin | passiveImprove | aggressiveTake | cancelReplace | immediateOrCancel
  | participation | twap | vwap | pov | auctionParticipation
  | unlisted (byte : UnlistedCode 1 10)
  deriving DecidableEq

def ExecutionPolicy.code : ExecutionPolicy → UInt8
  | .passiveJoin => 1
  | .passiveImprove => 2
  | .aggressiveTake => 3
  | .cancelReplace => 4
  | .immediateOrCancel => 5
  | .participation => 6
  | .twap => 7
  | .vwap => 8
  | .pov => 9
  | .auctionParticipation => 10
  | .unlisted byte => byte.raw

def validExecutionPolicy : ExecutionPolicy → Bool
  | .unlisted _ => false
  | _ => true

def policyBit (policy : ExecutionPolicy) : UInt32 :=
  if 1 ≤ policy.code ∧ policy.code ≤ 31 then 1 <<< (policy.code - 1).toUInt32 else 0

inductive RoutedAction where
  | newOrder | cancel | replace
  deriving DecidableEq

def RoutedAction.code : RoutedAction → UInt8
  | .newOrder => 1
  | .cancel => 2
  | .replace => 3

inductive RoutedTimeInForce where
  | day | immediateOrCancel | auction
  deriving DecidableEq

def RoutedTimeInForce.code : RoutedTimeInForce → UInt8
  | .day => 1
  | .immediateOrCancel => 2
  | .auction => 3

inductive VenueTradingState where
  | unknown | open_ | auction | halted | closed
  | unlisted (byte : UnlistedCode 0 4)
  deriving DecidableEq

def VenueTradingState.code : VenueTradingState → UInt8
  | .unknown => 0
  | .open_ => 1
  | .auction => 2
  | .halted => 3
  | .closed => 4
  | .unlisted byte => byte.raw

def validTradingState : VenueTradingState → Bool
  | .unlisted _ => false
  | _ => true

inductive SelfTradePreventionState where
  | unknown | clear | conflict
  | unlisted (byte : UnlistedCode 0 2)
  deriving DecidableEq

def SelfTradePreventionState.code : SelfTradePreventionState → UInt8
  | .unknown => 0
  | .clear => 1
  | .conflict => 2
  | .unlisted byte => byte.raw

def validStp : SelfTradePreventionState → Bool
  | .unlisted _ => false
  | _ => true

inductive RoutingStatus where
  | routed | abstained | invalidConfiguration | invalidRequest | stopped
  deriving DecidableEq

def RoutingStatus.code : RoutingStatus → UInt8
  | .routed => 1
  | .abstained => 2
  | .invalidConfiguration => 3
  | .invalidRequest => 4
  | .stopped => 5

inductive RoutingReason where
  | routed | invalidConfiguration | invalidObjective | invalidRequest | objectiveNotStarted
  | objectiveExpired | objectiveComplete | sliceNotDue | marketVolumeUnavailable
  | auctionLiquidityUnavailable | noEligibleVenue | routingLoop | arithmeticOverflow
  | queueDeterioratedCancel | queueDeterioratedReplace | stopped
  deriving DecidableEq

def RoutingReason.code (reason : RoutingReason) : UInt8 :=
  UInt8.ofNat (reason.ctorIdx + 1)

inductive VenueEligibilityReason where
  | eligible | disabled | policyNotAllowed | regulatoryIneligible | selfTradeConflict
  | tradingStateIneligible | quoteInvalid | quoteStale | directConsolidatedConflict | rejectBurst
  | fillProbabilityTooLow | concentrationExhausted | alreadyVisited | priceUnavailable
  | workingOrderVenueMismatch | arithmeticOverflow
  deriving DecidableEq

def VenueEligibilityReason.code (reason : VenueEligibilityReason) : UInt8 :=
  UInt8.ofNat (reason.ctorIdx + 1)

inductive RouterHealth where
  | healthy | unsafeHealth | stopped
  deriving DecidableEq

/-- `ExecutionObjective`, with no venue in it. -/
structure ExecutionObjective where
  objectiveId : IntentId := {}
  sessionId : SessionId := {}
  accountId : AccountId := {}
  strategyId : StrategyId := {}
  instrumentId : InstrumentId := {}
  sourceForecastId : ForecastId := {}
  featureSnapshotId : FeatureSnapshotId := {}
  configurationVersion : ConfigurationVersion := {}
  targetOrderId : OrderId := {}
  side : IntentAction := .buy
  policy : ExecutionPolicy := .passiveJoin
  limitPriceTicks : Int64 := 0
  totalQuantityUnits : UInt64 := 0
  filledQuantityUnits : UInt64 := 0
  maximumChildQuantityUnits : UInt64 := 0
  startProcessMonotonicTimeNs : UInt64 := 0
  endProcessMonotonicTimeNs : UInt64 := 0
  sliceIntervalNs : UInt64 := 0
  alphaHalfLifeNs : UInt64 := 0
  expectedAlphaMicroticks : Int64 := 0
  tickValueCurrencyNanos : UInt64 := 0
  participationRatePpm : UInt32 := 0
  hasLimitPrice : Bool := true
  stableHash : UInt64 := 0
  deriving DecidableEq

def stableExecutionObjectiveHash (value : ExecutionObjective) : UInt64 :=
  hashWords (identifierWords value.objectiveId ++ identifierWords value.sessionId ++
    identifierWords value.accountId ++ identifierWords value.strategyId ++
    identifierWords value.instrumentId ++ identifierWords value.sourceForecastId ++
    identifierWords value.featureSnapshotId ++ identifierWords value.configurationVersion ++
    identifierWords value.targetOrderId ++
    [value.side.code.toUInt64, value.policy.code.toUInt64, value.limitPriceTicks.toUInt64,
      value.totalQuantityUnits, value.filledQuantityUnits, value.maximumChildQuantityUnits,
      value.startProcessMonotonicTimeNs, value.endProcessMonotonicTimeNs, value.sliceIntervalNs,
      value.alphaHalfLifeNs, value.expectedAlphaMicroticks.toUInt64,
      value.tickValueCurrencyNanos, value.participationRatePpm.toUInt64,
      flag value.hasLimitPrice])

def validSide (side : IntentAction) : Bool :=
  side == .buy || side == .sell

def validExecutionObjective (value : ExecutionObjective) : Bool :=
  value.objectiveId.valid && value.sessionId.valid && value.accountId.valid &&
    value.strategyId.valid && value.instrumentId.valid && value.sourceForecastId.valid &&
    value.featureSnapshotId.valid && value.configurationVersion.valid && validSide value.side &&
    validExecutionPolicy value.policy && value.hasLimitPrice && 0 < value.limitPriceTicks &&
    value.limitPriceTicks ≤ kMaximumRouterPriceTicks && value.totalQuantityUnits != 0 &&
    value.totalQuantityUnits ≤ kMaximumRouterQuantityUnits &&
    value.filledQuantityUnits ≤ value.totalQuantityUnits &&
    value.maximumChildQuantityUnits != 0 &&
    value.maximumChildQuantityUnits ≤ kMaximumRouterQuantityUnits &&
    value.startProcessMonotonicTimeNs != 0 &&
    value.startProcessMonotonicTimeNs < value.endProcessMonotonicTimeNs &&
    value.alphaHalfLifeNs != 0 &&
    -kMaximumRouterAlphaMicroticks ≤ value.expectedAlphaMicroticks &&
    value.expectedAlphaMicroticks ≤ kMaximumRouterAlphaMicroticks &&
    value.tickValueCurrencyNanos != 0 &&
    value.tickValueCurrencyNanos ≤ kMaximumRouterTickValueCurrencyNanos &&
    value.participationRatePpm ≤ kRouterPartsPerMillion && value.stableHash != 0 &&
    value.stableHash == stableExecutionObjectiveHash value &&
    (value.policy != .cancelReplace || value.targetOrderId.valid) &&
    ((value.policy != .participation && value.policy != .pov &&
      value.policy != .auctionParticipation) || value.participationRatePpm != 0) &&
    (value.policy != .twap || value.sliceIntervalNs != 0)

structure VenueRoutingRule where
  venueId : VenueId := {}
  allowedPolicyMask : UInt32 := 0
  maximumConcentrationPpm : UInt32 := kRouterPartsPerMillion
  maximumChildQuantityUnits : UInt64 := 0
  tieBreakRank : UInt16 := 0
  enabled : Bool := false
  regulatoryAuthorized : Bool := false
  requireSelfTradeClear : Bool := true
  allowAuction : Bool := false
  deriving DecidableEq

structure RouterConfiguration where
  configurationVersion : ConfigurationVersion := {}
  maximumQuoteAgeNs : UInt64 := 0
  maximumRouteLatencyNs : UInt64 := 0
  queueDeteriorationThresholdUnits : UInt64 := 0
  uncertaintyPenaltyCurrencyNanosPerUnit : UInt64 := 0
  maximumRejectRatePpm : UInt32 := 0
  minimumFillProbabilityPpm : UInt32 := 0
  maximumDirectConsolidatedDivergenceTicks : UInt32 := 0
  maximumRouteAttempts : UInt16 := 0
  venues : List VenueRoutingRule := []
  stableHash : UInt64 := 0
  deriving DecidableEq

/-- `kAllPolicies`: one bit for each listed policy. -/
def kAllPolicies : UInt32 := ((1 : UInt32) <<< 10) - 1

def validRule (rule : VenueRoutingRule) : Bool :=
  rule.venueId.valid && rule.allowedPolicyMask != 0 &&
    (rule.allowedPolicyMask &&& ~~~kAllPolicies) == 0 && rule.maximumConcentrationPpm != 0 &&
    rule.maximumConcentrationPpm ≤ kRouterPartsPerMillion &&
    rule.maximumChildQuantityUnits != 0 &&
    rule.maximumChildQuantityUnits ≤ kMaximumRouterQuantityUnits

def stableRouterConfigurationHash (value : RouterConfiguration) : UInt64 :=
  hashWords (identifierWords value.configurationVersion ++
    [value.maximumQuoteAgeNs, value.maximumRouteLatencyNs,
      value.queueDeteriorationThresholdUnits, value.uncertaintyPenaltyCurrencyNanosPerUnit,
      value.maximumRejectRatePpm.toUInt64, value.minimumFillProbabilityPpm.toUInt64,
      value.maximumDirectConsolidatedDivergenceTicks.toUInt64,
      value.maximumRouteAttempts.toUInt64, UInt64.ofNat value.venues.length] ++
    (value.venues.take kMaximumRouterVenues).flatMap fun rule =>
      identifierWords rule.venueId ++
        [rule.allowedPolicyMask.toUInt64, rule.maximumConcentrationPpm.toUInt64,
          rule.maximumChildQuantityUnits, rule.tieBreakRank.toUInt64, flag rule.enabled,
          flag rule.regulatoryAuthorized, flag rule.requireSelfTradeClear,
          flag rule.allowAuction])

def validRouterConfiguration (value : RouterConfiguration) : Bool :=
  value.configurationVersion.valid && value.maximumQuoteAgeNs != 0 &&
    value.maximumRouteLatencyNs != 0 &&
    value.uncertaintyPenaltyCurrencyNanosPerUnit ≤ Int64.maxValue.toUInt64 &&
    value.maximumRejectRatePpm ≤ kRouterPartsPerMillion &&
    value.minimumFillProbabilityPpm ≤ kRouterPartsPerMillion &&
    value.maximumRouteAttempts != 0 && value.venues.length != 0 &&
    value.venues.length ≤ kMaximumRouterVenues && value.stableHash != 0 &&
    value.stableHash == stableRouterConfigurationHash value && value.venues.all validRule &&
    decide (value.venues.map (·.venueId)).Nodup

structure ConsolidatedQuote where
  bestBidVenueId : VenueId := {}
  bestAskVenueId : VenueId := {}
  bestBidPriceTicks : Int64 := 0
  bestAskPriceTicks : Int64 := 0
  observedProcessMonotonicTimeNs : UInt64 := 0
  valid : Bool := false
  stableHash : UInt64 := 0
  deriving DecidableEq

def stableConsolidatedQuoteHash (value : ConsolidatedQuote) : UInt64 :=
  hashWords (identifierWords value.bestBidVenueId ++ identifierWords value.bestAskVenueId ++
    [value.bestBidPriceTicks.toUInt64, value.bestAskPriceTicks.toUInt64,
      value.observedProcessMonotonicTimeNs, flag value.valid])

def validConsolidatedQuote (value : ConsolidatedQuote) : Bool :=
  value.valid && value.bestBidVenueId.valid && value.bestAskVenueId.valid &&
    0 < value.bestBidPriceTicks && value.bestBidPriceTicks < value.bestAskPriceTicks &&
    value.bestAskPriceTicks ≤ kMaximumRouterPriceTicks &&
    value.observedProcessMonotonicTimeNs != 0 && value.stableHash != 0 &&
    value.stableHash == stableConsolidatedQuoteHash value

structure VenueObservation where
  venueId : VenueId := {}
  instrumentId : InstrumentId := {}
  tradingState : VenueTradingState := .unknown
  selfTradePrevention : SelfTradePreventionState := .unknown
  bidPriceTicks : Int64 := 0
  askPriceTicks : Int64 := 0
  bidQuantityUnits : UInt64 := 0
  askQuantityUnits : UInt64 := 0
  estimatedHiddenQuantityUnits : UInt64 := 0
  queueAheadQuantityUnits : UInt64 := 0
  venueLatencyNs : UInt64 := 0
  observedProcessMonotonicTimeNs : UInt64 := 0
  alreadyRoutedQuantityUnits : UInt64 := 0
  auctionPairedQuantityUnits : UInt64 := 0
  auctionPriceTicks : Int64 := 0
  makerFeeCurrencyNanosPerUnit : Int64 := 0
  takerFeeCurrencyNanosPerUnit : Int64 := 0
  adverseSelectionMicroticks : Int64 := 0
  fillProbabilityPpm : UInt32 := 0
  rejectRatePpm : UInt32 := 0
  quoteValid : Bool := false
  regulatoryEligible : Bool := false
  stableHash : UInt64 := 0
  deriving DecidableEq

def stableVenueObservationHash (value : VenueObservation) : UInt64 :=
  hashWords (identifierWords value.venueId ++ identifierWords value.instrumentId ++
    [value.tradingState.code.toUInt64, value.selfTradePrevention.code.toUInt64,
      value.bidPriceTicks.toUInt64, value.askPriceTicks.toUInt64, value.bidQuantityUnits,
      value.askQuantityUnits, value.estimatedHiddenQuantityUnits, value.queueAheadQuantityUnits,
      value.venueLatencyNs, value.observedProcessMonotonicTimeNs,
      value.alreadyRoutedQuantityUnits, value.auctionPairedQuantityUnits,
      value.auctionPriceTicks.toUInt64, value.makerFeeCurrencyNanosPerUnit.toUInt64,
      value.takerFeeCurrencyNanosPerUnit.toUInt64, value.adverseSelectionMicroticks.toUInt64,
      value.fillProbabilityPpm.toUInt64, value.rejectRatePpm.toUInt64, flag value.quoteValid,
      flag value.regulatoryEligible])

def validVenueObservation (value : VenueObservation) : Bool :=
  value.venueId.valid && value.instrumentId.valid && validTradingState value.tradingState &&
    validStp value.selfTradePrevention && value.fillProbabilityPpm ≤ kRouterPartsPerMillion &&
    value.rejectRatePpm ≤ kRouterPartsPerMillion &&
    value.bidQuantityUnits ≤ kMaximumRouterQuantityUnits &&
    value.askQuantityUnits ≤ kMaximumRouterQuantityUnits &&
    value.estimatedHiddenQuantityUnits ≤ kMaximumRouterQuantityUnits &&
    value.queueAheadQuantityUnits ≤ kMaximumRouterQuantityUnits &&
    value.alreadyRoutedQuantityUnits ≤ kMaximumRouterQuantityUnits &&
    value.auctionPairedQuantityUnits ≤ kMaximumRouterQuantityUnits &&
    -kMaximumRouterFeeCurrencyNanosPerUnit ≤ value.makerFeeCurrencyNanosPerUnit &&
    value.makerFeeCurrencyNanosPerUnit ≤ kMaximumRouterFeeCurrencyNanosPerUnit &&
    -kMaximumRouterFeeCurrencyNanosPerUnit ≤ value.takerFeeCurrencyNanosPerUnit &&
    value.takerFeeCurrencyNanosPerUnit ≤ kMaximumRouterFeeCurrencyNanosPerUnit &&
    -kMaximumRouterAlphaMicroticks ≤ value.adverseSelectionMicroticks &&
    value.adverseSelectionMicroticks ≤ kMaximumRouterAlphaMicroticks &&
    value.stableHash != 0 && value.stableHash == stableVenueObservationHash value &&
    (!value.quoteValid || (0 < value.bidPriceTicks && value.bidPriceTicks < value.askPriceTicks &&
        value.askPriceTicks ≤ kMaximumRouterPriceTicks &&
        value.bidQuantityUnits ≤ kMaximumRouterQuantityUnits &&
        value.askQuantityUnits ≤ kMaximumRouterQuantityUnits &&
        value.observedProcessMonotonicTimeNs != 0))

structure WorkingOrderView where
  orderId : OrderId := {}
  venueId : VenueId := {}
  priceTicks : Int64 := 0
  remainingQuantityUnits : UInt64 := 0
  initialQueueAheadQuantityUnits : UInt64 := 0
  present : Bool := false
  deriving DecidableEq

structure RoutingRequest where
  objective : ExecutionObjective := {}
  consolidatedQuote : ConsolidatedQuote := {}
  venues : List VenueObservation := []
  visitedVenues : List VenueId := []
  workingOrder : WorkingOrderView := {}
  nowProcessMonotonicTimeNs : UInt64 := 0
  lastSliceProcessMonotonicTimeNs : UInt64 := 0
  marketVolumeSinceLastSliceUnits : UInt64 := 0
  alreadyScheduledQuantityUnits : UInt64 := 0
  targetCumulativeVolumeCurvePpm : UInt32 := 0
  routeAttempt : UInt16 := 0
  stableHash : UInt64 := 0
  deriving DecidableEq

def stableRoutingRequestHash (value : RoutingRequest) : UInt64 :=
  hashWords ([value.objective.stableHash, value.consolidatedQuote.stableHash,
      value.nowProcessMonotonicTimeNs, value.lastSliceProcessMonotonicTimeNs,
      value.marketVolumeSinceLastSliceUnits, value.alreadyScheduledQuantityUnits,
      value.targetCumulativeVolumeCurvePpm.toUInt64, UInt64.ofNat value.venues.length,
      UInt64.ofNat value.visitedVenues.length, value.routeAttempt.toUInt64] ++
    identifierWords value.workingOrder.orderId ++ identifierWords value.workingOrder.venueId ++
    [value.workingOrder.priceTicks.toUInt64, value.workingOrder.remainingQuantityUnits,
      value.workingOrder.initialQueueAheadQuantityUnits, flag value.workingOrder.present] ++
    (value.venues.take kMaximumRouterVenues).map (·.stableHash) ++
    (value.visitedVenues.take kMaximumRouterVenues).flatMap identifierWords)

/-- The check of `valid_routing_request` on the working order. -/
def validWorkingOrder (value : WorkingOrderView) : Bool :=
  !value.present || (value.orderId.valid && value.venueId.valid && 0 < value.priceTicks &&
    value.remainingQuantityUnits != 0)

def validRoutingRequest (value : RoutingRequest) : Bool :=
  validExecutionObjective value.objective && validConsolidatedQuote value.consolidatedQuote &&
    value.nowProcessMonotonicTimeNs != 0 &&
    value.lastSliceProcessMonotonicTimeNs ≤ value.nowProcessMonotonicTimeNs &&
    value.targetCumulativeVolumeCurvePpm ≤ kRouterPartsPerMillion && value.venues.length != 0 &&
    value.venues.length ≤ kMaximumRouterVenues &&
    value.visitedVenues.length ≤ kMaximumRouterVenues && value.stableHash != 0 &&
    value.stableHash == stableRoutingRequestHash value && validWorkingOrder value.workingOrder &&
    value.venues.all (fun observation => validVenueObservation observation &&
      observation.instrumentId == value.objective.instrumentId) &&
    decide (value.venues.map (·.venueId)).Nodup && value.visitedVenues.all (·.valid)

def fillUncertaintyPpm (probabilityPpm : UInt32) : UInt32 :=
  if kRouterPartsPerMillion < probabilityPpm then kRouterPartsPerMillion
  else
    (4 * (probabilityPpm.toUInt64 * (kRouterPartsPerMillion - probabilityPpm).toUInt64) /
      kRouterPartsPerMillion.toUInt64).toUInt32

def decayFractionPpm (remainderNs halfLifeNs : UInt64) : UInt64 :=
  min (if kRouterPartsPerMillion.toUInt64 ≤ halfLifeNs then
      remainderNs / (halfLifeNs / kRouterPartsPerMillion.toUInt64)
    else remainderNs * kRouterPartsPerMillion.toUInt64 / halfLifeNs)
    kRouterPartsPerMillion.toUInt64

def decayAlphaMicroticks (alphaMicroticks : Int64) (elapsedNs halfLifeNs : UInt64) : Int64 :=
  if halfLifeNs = 0 ∨ alphaMicroticks = 0 then 0
  else if 63 ≤ elapsedNs / halfLifeNs then 0
  else
    alphaMicroticks / ((1 : UInt64) <<< (elapsedNs / halfLifeNs)).toInt64 *
        (kRouterPartsPerMillion.toUInt64 -
          decayFractionPpm (elapsedNs % halfLifeNs) halfLifeNs / 2).toInt64 /
      kRouterPartsPerMillion.toUInt64.toInt64

structure VenueScoreExplanation where
  venueId : VenueId := {}
  eligibility : VenueEligibilityReason := .quoteInvalid
  passiveExpectedValueCurrencyNanosPerUnit : Int64 := 0
  aggressiveExpectedValueCurrencyNanosPerUnit : Int64 := 0
  selectedExpectedValueCurrencyNanosPerUnit : Int64 := 0
  decayedAlphaMicroticks : Int64 := 0
  opportunityCostCurrencyNanosPerUnit : UInt64 := 0
  effectiveFillProbabilityPpm : UInt32 := 0
  fillUncertaintyPpm : UInt32 := 0
  proposedQuantityUnits : UInt64 := 0
  proposedPriceTicks : Int64 := 0
  tieBreakRank : UInt16 := 0
  observationHash : UInt64 := 0
  deriving DecidableEq

structure RoutingDecision where
  status : RoutingStatus := .invalidRequest
  reason : RoutingReason := .invalidRequest
  objectiveId : IntentId := {}
  venueId : VenueId := {}
  targetOrderId : OrderId := {}
  configurationVersion : ConfigurationVersion := {}
  action : RoutedAction := .newOrder
  timeInForce : RoutedTimeInForce := .day
  priceTicks : Int64 := 0
  quantityUnits : UInt64 := 0
  expectedValueCurrencyNanosPerUnit : Int64 := 0
  routeAttempt : UInt16 := 0
  evaluatedVenueCount : UInt16 := 0
  eligibleVenueCount : UInt16 := 0
  venueScores : List VenueScoreExplanation := []
  sourceObjectiveHash : UInt64 := 0
  sourceRequestHash : UInt64 := 0
  configurationHash : UInt64 := 0
  requiresFreshPretradeRisk : Bool := true
  stableHash : UInt64 := 0
  deriving DecidableEq

def stableRoutingDecisionHash (value : RoutingDecision) : UInt64 :=
  hashWords ([value.status.code.toUInt64, value.reason.code.toUInt64] ++
    identifierWords value.objectiveId ++ identifierWords value.venueId ++
    identifierWords value.targetOrderId ++ identifierWords value.configurationVersion ++
    [value.action.code.toUInt64, value.timeInForce.code.toUInt64, value.priceTicks.toUInt64,
      value.quantityUnits, value.expectedValueCurrencyNanosPerUnit.toUInt64,
      value.routeAttempt.toUInt64, value.evaluatedVenueCount.toUInt64,
      value.eligibleVenueCount.toUInt64] ++
    value.venueScores.flatMap (fun score =>
      identifierWords score.venueId ++ [score.eligibility.code.toUInt64,
          score.passiveExpectedValueCurrencyNanosPerUnit.toUInt64,
          score.aggressiveExpectedValueCurrencyNanosPerUnit.toUInt64,
          score.selectedExpectedValueCurrencyNanosPerUnit.toUInt64,
          score.decayedAlphaMicroticks.toUInt64, score.opportunityCostCurrencyNanosPerUnit,
          score.effectiveFillProbabilityPpm.toUInt64, score.fillUncertaintyPpm.toUInt64,
          score.proposedQuantityUnits, score.proposedPriceTicks.toUInt64,
          score.tieBreakRank.toUInt64, score.observationHash]) ++
    [value.sourceObjectiveHash, value.sourceRequestHash, value.configurationHash,
      flag value.requiresFreshPretradeRisk])

structure RouterMetrics where
  requests : UInt64 := 0
  routed : UInt64 := 0
  abstained : UInt64 := 0
  invalid : UInt64 := 0
  staleQuoteExclusions : UInt64 := 0
  haltedVenueExclusions : UInt64 := 0
  rejectBurstExclusions : UInt64 := 0
  selfTradeExclusions : UInt64 := 0
  concentrationExclusions : UInt64 := 0
  loopExclusions : UInt64 := 0
  deriving DecidableEq

end Aegis.Routing
