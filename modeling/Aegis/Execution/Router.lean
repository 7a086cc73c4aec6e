import Aegis.Execution.RouterTypes
import Aegis.Foundation.MachineWords

/-!
The smart order router (`execution/src/router.cpp`). What an exclusion counts in the metrics
depends on its reason only.
-/

namespace Aegis.Routing

open Aegis.Common Aegis.Risk Aegis.Foundation

def multiplyDivide (left right divisor : UInt64) : Option UInt64 :=
  if divisor = 0 then none
  else
    match exactMul (left / divisor) right, exactMul (left % divisor) right with
    | some whole, some product => exactAdd whole (product / divisor)
    | _, _ => none

def multiplyDivideCeil (left right divisor : UInt64) : Option UInt64 :=
  if divisor = 0 then none
  else
    match exactMul left right with
    | none => none
    | some product =>
        if product % divisor = 0 then some (product / divisor)
        else exactAdd (product / divisor) 1

def signedMagnitude (value : Int64) : UInt64 :=
  if value < 0 then 0 - value.toUInt64 else value.toUInt64

/-- A magnitude with the sign of `value`, if it fits. -/
def withSignOf (value : Int64) (magnitude : UInt64) : Option Int64 :=
  if Int64.maxValue.toUInt64 < magnitude then none
  else some (if value < 0 then -magnitude.toInt64 else magnitude.toInt64)

def signedMultiplyDivide (left : Int64) (right divisor : UInt64) : Option Int64 :=
  (multiplyDivide (signedMagnitude left) right divisor).bind (withSignOf left)

def microticksToCurrencyNanos (microticks : Int64) (tickValue : UInt64) : Option Int64 :=
  signedMultiplyDivide microticks tickValue kRouterPartsPerMillion.toUInt64

def ticksToCurrencyNanos (ticks : Int64) (tickValue : UInt64) : Option Int64 :=
  (exactMul (signedMagnitude ticks) tickValue).bind (withSignOf ticks)

def findRule (configuration : RouterConfiguration) (venueId : VenueId) :
    Option VenueRoutingRule :=
  configuration.venues.find? (·.venueId == venueId)

def visited (request : RoutingRequest) (venueId : VenueId) : Bool :=
  request.visitedVenues.contains venueId

def passivePolicy (policy : ExecutionPolicy) : Bool :=
  policy == .passiveJoin || policy == .passiveImprove || policy == .participation ||
    policy == .twap || policy == .vwap || policy == .pov || policy == .cancelReplace

def aggressivePolicy (policy : ExecutionPolicy) : Bool :=
  policy == .aggressiveTake || policy == .immediateOrCancel

structure SliceResult where
  reason : RoutingReason := .routed
  quantityUnits : UInt64 := 0
  due : Bool := false
  deriving DecidableEq

def ExecutionObjective.remaining (objective : ExecutionObjective) : UInt64 :=
  objective.totalQuantityUnits - objective.filledQuantityUnits

/-- The quantity that `compute_slice` hands to the policies. -/
def ExecutionObjective.childLimit (objective : ExecutionObjective) : UInt64 :=
  min objective.remaining objective.maximumChildQuantityUnits

/-- The `participation` and `pov` cases. -/
def volumeShare (request : RoutingRequest) (quantity : UInt64) : Except RoutingReason UInt64 :=
  if request.marketVolumeSinceLastSliceUnits = 0 then .error .marketVolumeUnavailable
  else
    match multiplyDivide request.marketVolumeSinceLastSliceUnits
        request.objective.participationRatePpm.toUInt64 kRouterPartsPerMillion.toUInt64 with
    | none => .error .arithmeticOverflow
    | some target => .ok (min quantity target)

def waitsForInterval (request : RoutingRequest) : Bool :=
  request.lastSliceProcessMonotonicTimeNs != 0 &&
    match exactAdd request.lastSliceProcessMonotonicTimeNs request.objective.sliceIntervalNs with
    | none => true
    | some nextDue => request.nowProcessMonotonicTimeNs < nextDue

/-- The number of `twap` slices left, the one at hand included. -/
def sliceCount (request : RoutingRequest) : UInt64 :=
  (request.objective.endProcessMonotonicTimeNs - request.nowProcessMonotonicTimeNs) /
    request.objective.sliceIntervalNs + 1

/-- The `twap` case: an even share of what remains. -/
def timeShare (request : RoutingRequest) (quantity : UInt64) : Except RoutingReason UInt64 :=
  if waitsForInterval request then .error .sliceNotDue
  else
    .ok (min quantity (request.objective.remaining / sliceCount request +
      if request.objective.remaining % sliceCount request = 0 then 0 else 1))

/-- The `vwap` case. -/
def curveShare (request : RoutingRequest) (quantity : UInt64) : Except RoutingReason UInt64 :=
  if request.targetCumulativeVolumeCurvePpm = 0 then .error .marketVolumeUnavailable
  else
    match multiplyDivide request.objective.totalQuantityUnits
        request.targetCumulativeVolumeCurvePpm.toUInt64 kRouterPartsPerMillion.toUInt64 with
    | none => .error .arithmeticOverflow
    | some cumulativeTarget =>
        match exactAdd request.objective.filledQuantityUnits
            request.alreadyScheduledQuantityUnits with
        | none => .error .arithmeticOverflow
        | some alreadyAccounted =>
            if cumulativeTarget ≤ alreadyAccounted then .error .sliceNotDue
            else .ok (min quantity (cumulativeTarget - alreadyAccounted))

/-- The `cancel_replace` case. -/
def workingShare (request : RoutingRequest) (quantity : UInt64) : Except RoutingReason UInt64 :=
  if !request.workingOrder.present ||
      request.workingOrder.orderId != request.objective.targetOrderId then
    .error .invalidRequest
  else .ok (min quantity request.workingOrder.remainingQuantityUnits)

/-- The switch of `compute_slice`. -/
def policyShare (request : RoutingRequest) (quantity : UInt64) : Except RoutingReason UInt64 :=
  match request.objective.policy with
  | .participation | .pov => volumeShare request quantity
  | .twap => timeShare request quantity
  | .vwap => curveShare request quantity
  | .cancelReplace => workingShare request quantity
  | _ => .ok quantity

def computeSlice (request : RoutingRequest) : SliceResult :=
  if request.nowProcessMonotonicTimeNs < request.objective.startProcessMonotonicTimeNs then
    { reason := .objectiveNotStarted }
  else if request.objective.endProcessMonotonicTimeNs < request.nowProcessMonotonicTimeNs then
    { reason := .objectiveExpired }
  else if request.objective.totalQuantityUnits ≤ request.objective.filledQuantityUnits then
    { reason := .objectiveComplete }
  else
    match policyShare request request.objective.childLimit with
    | .error reason => { reason }
    | .ok quantity =>
        if quantity = 0 then { reason := .sliceNotDue }
        else { reason := .routed, quantityUnits := quantity, due := true }

def absoluteDifferenceExceeds (left right : Int64) (maximum : UInt32) : Bool :=
  match exactSubSigned left right with
  | none => true
  | some difference => maximum.toUInt64 < signedMagnitude difference

def quoteConflicts (observation : VenueObservation) (consolidated : ConsolidatedQuote)
    (maximumTicks : UInt32) : Bool :=
  (observation.venueId == consolidated.bestBidVenueId &&
    absoluteDifferenceExceeds observation.bidPriceTicks consolidated.bestBidPriceTicks
      maximumTicks) ||
  (observation.venueId == consolidated.bestAskVenueId &&
    absoluteDifferenceExceeds observation.askPriceTicks consolidated.bestAskPriceTicks maximumTicks)

/-- The price of `proposed_price` before the limit. -/
def policyPrice (objective : ExecutionObjective) (observation : VenueObservation)
    (passive : Bool) : Option Int64 :=
  if objective.policy = .auctionParticipation then some observation.auctionPriceTicks
  else if !passive then
    some (if objective.side = .buy then observation.askPriceTicks else observation.bidPriceTicks)
  else if objective.policy = .passiveImprove ∨ objective.policy = .cancelReplace then
    if objective.side = .buy then
      (exactAddSigned observation.bidPriceTicks 1).map (min · (observation.askPriceTicks - 1))
    else (exactSubSigned observation.askPriceTicks 1).map (max · (observation.bidPriceTicks + 1))
  else
    some (if objective.side = .buy then observation.bidPriceTicks else observation.askPriceTicks)

def proposedPrice (objective : ExecutionObjective) (observation : VenueObservation)
    (passive : Bool) : Option Int64 :=
  (policyPrice objective observation passive).filter fun price =>
    0 < price &&
      if objective.side = .buy then price ≤ objective.limitPriceTicks
      else objective.limitPriceTicks ≤ price

/-- The displayed quantity that an order would meet. -/
def displayedQuantity (objective : ExecutionObjective) (observation : VenueObservation)
    (passive : Bool) : UInt64 :=
  if passive = (objective.side == .buy) then observation.bidQuantityUnits
  else observation.askQuantityUnits

def effectiveFillProbability (objective : ExecutionObjective) (observation : VenueObservation)
    (proposedQuantity : UInt64) (passive : Bool) : Option UInt32 := do
  let million := kRouterPartsPerMillion.toUInt64
  let liquidity ← exactAdd (displayedQuantity objective observation passive)
    observation.estimatedHiddenQuantityUnits
  let denominator ← exactAdd liquidity (if passive then observation.queueAheadQuantityUnits else 0)
  let queueFactor ← if denominator = 0 then some 0 else multiplyDivide liquidity million denominator
  let coverageFactor ←
    if proposedQuantity ≠ 0 ∧ liquidity < proposedQuantity then
      multiplyDivide liquidity million proposedQuantity
    else some million
  let accepted ← multiplyDivide observation.fillProbabilityPpm.toUInt64
    (kRouterPartsPerMillion - observation.rejectRatePpm).toUInt64 million
  let queued ← multiplyDivide accepted queueFactor million
  let probability ← multiplyDivide queued coverageFactor million
  if million < probability then none else some probability.toUInt32

structure ValueResult where
  expectedValueCurrencyNanosPerUnit : Int64 := 0
  decayedAlphaMicroticks : Int64 := 0
  opportunityCostCurrencyNanosPerUnit : UInt64 := 0
  effectiveFillProbabilityPpm : UInt32 := 0
  uncertaintyPpm : UInt32 := 0
  valid : Bool := false
  deriving DecidableEq

/-- The price that `calculate_value` compares a price with. -/
def referencePrice (request : RoutingRequest) (passive : Bool) : Int64 :=
  if passive = (request.objective.side == .buy) then request.consolidatedQuote.bestBidPriceTicks
  else request.consolidatedQuote.bestAskPriceTicks

/-- The value of the alpha and of a fill, before its probability. -/
def grossValue (request : RoutingRequest) (observation : VenueObservation) (passive : Bool)
    (priceTicks decayedAlpha : Int64) : Option (Int64 × Int64) := do
  let tickValue := request.objective.tickValueCurrencyNanos
  let alphaNanos ← microticksToCurrencyNanos decayedAlpha tickValue
  let adverseNanos ← microticksToCurrencyNanos observation.adverseSelectionMicroticks tickValue
  let priceEdgeTicks ←
    if request.objective.side = .buy then
      exactSubSigned (referencePrice request passive) priceTicks
    else exactSubSigned priceTicks (referencePrice request passive)
  let priceEdgeNanos ← ticksToCurrencyNanos priceEdgeTicks tickValue
  let edge ← exactAddSigned alphaNanos priceEdgeNanos
  let selected ← exactSubSigned edge adverseNanos
  let gross ← exactSubSigned selected
    (if passive then observation.makerFeeCurrencyNanosPerUnit
    else observation.takerFeeCurrencyNanosPerUnit)
  some (alphaNanos, gross)

/-- The cost of the alpha that an unfilled order gives up. -/
def opportunityCost (alphaNanos : Int64) (probabilityPpm : UInt32) : Option UInt64 :=
  multiplyDivide (if 0 < alphaNanos then alphaNanos.toUInt64 else 0)
    (kRouterPartsPerMillion - probabilityPpm).toUInt64 kRouterPartsPerMillion.toUInt64

def uncertaintyPenalty (configuration : RouterConfiguration) (uncertaintyPpm : UInt32) :
    Option UInt64 :=
  multiplyDivide configuration.uncertaintyPenaltyCurrencyNanosPerUnit uncertaintyPpm.toUInt64
    kRouterPartsPerMillion.toUInt64

/-- The end of `calculate_value`, where differences may overflow. -/
def netValue (costed : ValueResult) (expectedExecution : Int64) (penalty : UInt64) :
    ValueResult :=
  let opportunity := costed.opportunityCostCurrencyNanosPerUnit
  if Int64.maxValue.toUInt64 < penalty ∨ Int64.maxValue.toUInt64 < opportunity then costed
  else
    match exactSubSigned expectedExecution opportunity.toInt64 with
    | none =>
        { costed with
          expectedValueCurrencyNanosPerUnit := expectedExecution - opportunity.toInt64 }
    | some afterOpportunity =>
        { costed with
          expectedValueCurrencyNanosPerUnit := afterOpportunity - penalty.toInt64,
          valid := (exactSubSigned afterOpportunity penalty.toInt64).isSome }

/-- `calculate_value`, which keeps what it computed before giving up. -/
def calculateValue (request : RoutingRequest) (configuration : RouterConfiguration)
    (observation : VenueObservation) (proposedQuantity : UInt64) (passive : Bool)
    (priceTicks : Int64) : ValueResult :=
  match exactAdd (request.nowProcessMonotonicTimeNs -
      request.objective.startProcessMonotonicTimeNs) observation.venueLatencyNs with
  | none => {}
  | some elapsed =>
      let decayed : ValueResult :=
        { decayedAlphaMicroticks := decayAlphaMicroticks request.objective.expectedAlphaMicroticks
            elapsed request.objective.alphaHalfLifeNs }
      match effectiveFillProbability request.objective observation proposedQuantity passive with
      | none => decayed
      | some probability =>
          let likely : ValueResult :=
            { decayed with
              effectiveFillProbabilityPpm := probability,
              uncertaintyPpm := fillUncertaintyPpm probability }
          match grossValue request observation passive priceTicks
              decayed.decayedAlphaMicroticks with
          | none => likely
          | some (alphaNanos, gross) =>
              match signedMultiplyDivide gross probability.toUInt64
                  kRouterPartsPerMillion.toUInt64 with
              | none => likely
              | some expectedExecution =>
                  match opportunityCost alphaNanos probability with
                  | none => likely
                  | some opportunity =>
                      let costed : ValueResult :=
                        { likely with opportunityCostCurrencyNanosPerUnit := opportunity }
                      match uncertaintyPenalty configuration likely.uncertaintyPpm with
                      | none => costed
                      | some penalty => netValue costed expectedExecution penalty

def fresh (configuration : RouterConfiguration) (now observed : UInt64) : Bool :=
  observed ≤ now &&
    match exactAdd observed configuration.maximumQuoteAgeNs with
    | none => false
    | some validUntil => now ≤ validUntil

/-- The eligibility checks on a venue, in the order of `route`. -/
def exclusionChecks (configuration : RouterConfiguration) (request : RoutingRequest)
    (rule : VenueRoutingRule) (observation : VenueObservation) :
    List (Bool × VenueEligibilityReason) :=
  [((rule.allowedPolicyMask &&& policyBit request.objective.policy) == 0 ||
      (request.objective.policy == .auctionParticipation && !rule.allowAuction),
      .policyNotAllowed),
    (visited request observation.venueId, .alreadyVisited),
    (!rule.regulatoryAuthorized || !observation.regulatoryEligible, .regulatoryIneligible),
    (rule.requireSelfTradeClear && observation.selfTradePrevention != .clear, .selfTradeConflict),
    (observation.tradingState !=
      (if request.objective.policy = .auctionParticipation then .auction else .open_),
      .tradingStateIneligible),
    (!observation.quoteValid, .quoteInvalid),
    (!fresh configuration request.nowProcessMonotonicTimeNs
      request.consolidatedQuote.observedProcessMonotonicTimeNs, .quoteStale),
    (!fresh configuration request.nowProcessMonotonicTimeNs
      observation.observedProcessMonotonicTimeNs, .quoteStale),
    (configuration.maximumRouteLatencyNs < observation.venueLatencyNs, .quoteStale),
    (quoteConflicts observation request.consolidatedQuote
      configuration.maximumDirectConsolidatedDivergenceTicks, .directConsolidatedConflict),
    (configuration.maximumRejectRatePpm < observation.rejectRatePpm, .rejectBurst),
    (observation.fillProbabilityPpm < configuration.minimumFillProbabilityPpm,
      .fillProbabilityTooLow),
    (request.objective.policy == .cancelReplace &&
      observation.venueId != request.workingOrder.venueId, .workingOrderVenueMismatch)]

def exclusion (configuration : RouterConfiguration) (request : RoutingRequest)
    (rule : VenueRoutingRule) (observation : VenueObservation) : Option VenueEligibilityReason :=
  ((exclusionChecks configuration request rule observation).find? (·.1)).map (·.2)

/-- The cap of an auction order: a share of the paired quantity. -/
def auctionCap (request : RoutingRequest) (observation : VenueObservation) : Option UInt64 :=
  if observation.auctionPairedQuantityUnits = 0 ∨ observation.auctionPriceTicks ≤ 0 then none
  else
    multiplyDivide observation.auctionPairedQuantityUnits
      request.objective.participationRatePpm.toUInt64 kRouterPartsPerMillion.toUInt64

def withinAuction (request : RoutingRequest) (observation : VenueObservation)
    (quantity : UInt64) : Option UInt64 :=
  if request.objective.policy = .auctionParticipation then
    (auctionCap request observation).map (min quantity)
  else some quantity

/-- The slice within the caps of the venue. -/
def proposedQuantity (request : RoutingRequest) (rule : VenueRoutingRule)
    (observation : VenueObservation) (slice : UInt64) : Except VenueEligibilityReason UInt64 :=
  match multiplyDivideCeil request.objective.totalQuantityUnits
      rule.maximumConcentrationPpm.toUInt64 kRouterPartsPerMillion.toUInt64 with
  | none => .error .arithmeticOverflow
  | some concentrationLimit =>
      if concentrationLimit ≤ observation.alreadyRoutedQuantityUnits then
        .error .concentrationExhausted
      else
        match withinAuction request observation
            (min (min slice rule.maximumChildQuantityUnits)
              (concentrationLimit - observation.alreadyRoutedQuantityUnits)) with
        | none => .error .priceUnavailable
        | some quantity => if quantity = 0 then .error .concentrationExhausted else .ok quantity

def valueAt (request : RoutingRequest) (configuration : RouterConfiguration)
    (observation : VenueObservation) (quantity : UInt64) (passive : Bool) : ValueResult :=
  match proposedPrice request.objective observation passive with
  | none => {}
  | some price => calculateValue request configuration observation quantity passive price

def scoreVenue (request : RoutingRequest) (configuration : RouterConfiguration)
    (observation : VenueObservation) (quantity : UInt64)
    (explanation : VenueScoreExplanation) : VenueScoreExplanation :=
  let usePassive := passivePolicy request.objective.policy
  let selectedPrice := proposedPrice request.objective observation usePassive
  if selectedPrice = none ∧ request.objective.policy ≠ .cancelReplace then
    { explanation with eligibility := .priceUnavailable }
  else
    let proposed : VenueScoreExplanation :=
      { explanation with
        proposedPriceTicks := selectedPrice.getD request.workingOrder.priceTicks,
        proposedQuantityUnits := quantity }
    let passive := valueAt request configuration observation quantity true
    let aggressive := valueAt request configuration observation quantity false
    if (usePassive ∧ !passive.valid ∧ selectedPrice.isSome) ∨
        (aggressivePolicy request.objective.policy ∧ !aggressive.valid) ∨
        (request.objective.policy = .auctionParticipation ∧ !aggressive.valid) then
      { proposed with eligibility := .arithmeticOverflow }
    else
      let selected := if usePassive then passive else aggressive
      { proposed with
        passiveExpectedValueCurrencyNanosPerUnit := passive.expectedValueCurrencyNanosPerUnit,
        aggressiveExpectedValueCurrencyNanosPerUnit :=
          aggressive.expectedValueCurrencyNanosPerUnit,
        selectedExpectedValueCurrencyNanosPerUnit :=
          if selectedPrice.isSome then selected.expectedValueCurrencyNanosPerUnit
          else Int64.minValue + 1,
        decayedAlphaMicroticks := selected.decayedAlphaMicroticks,
        opportunityCostCurrencyNanosPerUnit := selected.opportunityCostCurrencyNanosPerUnit,
        effectiveFillProbabilityPpm :=
          if selectedPrice.isSome then selected.effectiveFillProbabilityPpm else 0,
        fillUncertaintyPpm := selected.uncertaintyPpm,
        eligibility := .eligible }

/-- One round of the loop of `route`. -/
def explainVenue (configuration : RouterConfiguration) (request : RoutingRequest) (slice : UInt64)
    (observation : VenueObservation) : VenueScoreExplanation :=
  let named : VenueScoreExplanation :=
    { venueId := observation.venueId, observationHash := observation.stableHash }
  match (findRule configuration observation.venueId).filter (·.enabled) with
  | none => { named with eligibility := .disabled }
  | some rule =>
      let ranked : VenueScoreExplanation := { named with tieBreakRank := rule.tieBreakRank }
      match exclusion configuration request rule observation with
      | some reason => { ranked with eligibility := reason }
      | none =>
          match proposedQuantity request rule observation slice with
          | .error reason => { ranked with eligibility := reason }
          | .ok quantity => scoreVenue request configuration observation quantity ranked

def venueBefore (left right : VenueId) : Bool :=
  left.high < right.high || (left.high == right.high && left.low < right.low)

def betterScore (candidate current : VenueScoreExplanation) : Bool :=
  if candidate.selectedExpectedValueCurrencyNanosPerUnit ≠
      current.selectedExpectedValueCurrencyNanosPerUnit then
    current.selectedExpectedValueCurrencyNanosPerUnit <
      candidate.selectedExpectedValueCurrencyNanosPerUnit
  else if candidate.tieBreakRank ≠ current.tieBreakRank then
    candidate.tieBreakRank < current.tieBreakRank
  else venueBefore candidate.venueId current.venueId

def RouterMetrics.count (metrics : RouterMetrics) : VenueEligibilityReason → RouterMetrics
  | .alreadyVisited => { metrics with loopExclusions := metrics.loopExclusions + 1 }
  | .selfTradeConflict => { metrics with selfTradeExclusions := metrics.selfTradeExclusions + 1 }
  | .tradingStateIneligible =>
      { metrics with haltedVenueExclusions := metrics.haltedVenueExclusions + 1 }
  | .quoteStale => { metrics with staleQuoteExclusions := metrics.staleQuoteExclusions + 1 }
  | .rejectBurst => { metrics with rejectBurstExclusions := metrics.rejectBurstExclusions + 1 }
  | .concentrationExhausted =>
      { metrics with concentrationExclusions := metrics.concentrationExclusions + 1 }
  | _ => metrics

/-- A venue with its explanation. -/
structure Candidate where
  observation : VenueObservation
  explanation : VenueScoreExplanation

/-- The end of a round: the better candidate is selected. -/
def consider (selected : Option Candidate) (candidate : Candidate) : Option Candidate :=
  if candidate.explanation.eligibility ≠ .eligible then selected
  else
    match selected with
    | none => some candidate
    | some current =>
        if betterScore candidate.explanation current.explanation then some candidate
        else some current

def select (candidates : List Candidate) : Option Candidate :=
  candidates.foldl consider none

structure SmartOrderRouter where
  configuration : RouterConfiguration
  metrics : RouterMetrics := {}
  health : RouterHealth := .unsafeHealth
  initialized : Bool := false
  deriving DecidableEq

namespace SmartOrderRouter

def construct (configuration : RouterConfiguration) : SmartOrderRouter where
  configuration
  initialized := validRouterConfiguration configuration
  health := if validRouterConfiguration configuration then .healthy else .unsafeHealth

def ready (r : SmartOrderRouter) : Bool :=
  r.initialized && r.health == .healthy

def shutdown (r : SmartOrderRouter) : SmartOrderRouter :=
  { r with health := .stopped }

end SmartOrderRouter

def RoutingDecision.sealed (decision : RoutingDecision) : RoutingDecision :=
  { decision with stableHash := stableRoutingDecisionHash decision }

/-- The decision of `base_decision` before it is hashed. -/
def baseFields (request : RoutingRequest) (configuration : RouterConfiguration)
    (status : RoutingStatus) (reason : RoutingReason) : RoutingDecision where
  status
  reason
  objectiveId := request.objective.objectiveId
  configurationVersion := request.objective.configurationVersion
  routeAttempt := request.routeAttempt
  sourceObjectiveHash := request.objective.stableHash
  sourceRequestHash := request.stableHash
  configurationHash := configuration.stableHash

def baseDecision (request : RoutingRequest) (configuration : RouterConfiguration)
    (status : RoutingStatus) (reason : RoutingReason) : RoutingDecision :=
  (baseFields request configuration status reason).sealed

/-- The fields that `route` sets for a selected venue. -/
def selectedFields (decision : RoutingDecision) (policy : ExecutionPolicy)
    (selected : VenueScoreExplanation) : RoutingDecision :=
  { decision with
    status := .routed
    reason := .routed
    venueId := selected.venueId
    priceTicks := selected.proposedPriceTicks
    quantityUnits := selected.proposedQuantityUnits
    expectedValueCurrencyNanosPerUnit := selected.selectedExpectedValueCurrencyNanosPerUnit
    action := .newOrder
    timeInForce :=
      match policy with
      | .immediateOrCancel => .immediateOrCancel
      | .auctionParticipation => .auction
      | _ => .day }

def deteriorated (configuration : RouterConfiguration) (request : RoutingRequest)
    (observation : VenueObservation) : Bool :=
  match exactAdd request.workingOrder.initialQueueAheadQuantityUnits
      configuration.queueDeteriorationThresholdUnits with
  | none => false
  | some threshold => threshold < observation.queueAheadQuantityUnits

/-- The end of `route` for a `cancel_replace` objective. -/
def amendWorkingOrder (configuration : RouterConfiguration) (request : RoutingRequest)
    (observation : VenueObservation) (decision : RoutingDecision) : RoutingDecision :=
  if !deteriorated configuration request observation then
    { decision with
      status := .abstained
      reason := .sliceNotDue
      venueId := {}
      targetOrderId := {}
      priceTicks := 0
      quantityUnits := 0 }
  else if decision.priceTicks ≠ request.workingOrder.priceTicks then
    { decision with targetOrderId := request.workingOrder.orderId, action := .replace }
  else { decision with targetOrderId := request.workingOrder.orderId, action := .cancel }

def decideVenue (configuration : RouterConfiguration) (request : RoutingRequest)
    (decision : RoutingDecision) (selected : Candidate) : RoutingDecision :=
  let chosen := selectedFields decision request.objective.policy selected.explanation
  if request.objective.policy = .cancelReplace then
    amendWorkingOrder configuration request selected.observation chosen
  else chosen

def candidates (configuration : RouterConfiguration) (request : RoutingRequest) (slice : UInt64) :
    List Candidate :=
  request.venues.map fun observation =>
    { observation, explanation := explainVenue configuration request slice observation }

/-- The fields that the loop of `route` leaves in the decision. -/
def evaluatedFields (configuration : RouterConfiguration) (request : RoutingRequest)
    (candidates : List Candidate) : RoutingDecision :=
  { baseFields request configuration .abstained .noEligibleVenue with
    evaluatedVenueCount := UInt16.ofNat request.venues.length
    eligibleVenueCount :=
      UInt16.ofNat (candidates.countP (·.explanation.eligibility == .eligible))
    venueScores := candidates.map (·.explanation) }

/-- The part of `route` from the loop over the venues on. -/
def routeSlice (configuration : RouterConfiguration) (request : RoutingRequest) (slice : UInt64) :
    RoutingDecision :=
  let explained := candidates configuration request slice
  let evaluated := evaluatedFields configuration request explained
  match select explained with
  | none =>
      { evaluated with
        reason :=
          if explained.all (·.explanation.eligibility == .alreadyVisited) then .routingLoop
          else .noEligibleVenue }
  | some selected => decideVenue configuration request evaluated selected

namespace SmartOrderRouter

def route (r : SmartOrderRouter) (request : RoutingRequest) : SmartOrderRouter × RoutingDecision :=
  let counted : RouterMetrics := { r.metrics with requests := r.metrics.requests + 1 }
  let invalid : SmartOrderRouter :=
    { r with metrics := { counted with invalid := counted.invalid + 1 } }
  if !r.initialized then
    (invalid, baseDecision request r.configuration .invalidConfiguration .invalidConfiguration)
  else if r.health = .stopped then
    (invalid, baseDecision request r.configuration .stopped .stopped)
  else if !validRoutingRequest request ||
      request.objective.configurationVersion != r.configuration.configurationVersion then
    (invalid, baseDecision request r.configuration .invalidRequest
        (if validExecutionObjective request.objective then .invalidRequest
        else .invalidObjective))
  else if r.configuration.maximumRouteAttempts ≤ request.routeAttempt then
    ({ r with metrics := { counted with
        abstained := counted.abstained + 1, loopExclusions := counted.loopExclusions + 1 } },
      baseDecision request r.configuration .abstained .routingLoop)
  else if !(computeSlice request).due then
    ({ r with metrics := { counted with abstained := counted.abstained + 1 } },
      baseDecision request r.configuration .abstained (computeSlice request).reason)
  else
    let decision := routeSlice r.configuration request (computeSlice request).quantityUnits
    let excluded := decision.venueScores.foldl (fun metrics score => metrics.count score.eligibility)
      counted
    ({ r with metrics :=
        if decision.status = .routed then { excluded with routed := excluded.routed + 1 }
        else { excluded with abstained := excluded.abstained + 1 } },
      decision.sealed)

end SmartOrderRouter

end Aegis.Routing
