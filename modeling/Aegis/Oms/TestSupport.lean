import Aegis.Oms.Service

/-!
The builders of `oms/tests/test_support.hpp` and `risk/tests/test_support.hpp`. The decision of
the risk engine is written out.
-/

namespace Aegis.Oms.TestSupport

open Aegis.Common Aegis.Risk

def kNow : UInt64 := 1000000

def kAuthority : LeaderAuthority := ⟨77, 88⟩

def kExternal : ExternalOrderId := ⟨91, 92⟩

def configuration (requireDropCopy : Bool := false) : OmsConfiguration :=
  let result : OmsConfiguration :=
    { sessionId := ⟨1, 1⟩
      accountId := ⟨2, 2⟩
      configurationVersion := ⟨6, 6⟩
      tradingMode := .simulation
      exchangeSessionEpoch := kAuthority.exchangeSessionEpoch
      initialFencingToken := kAuthority.fencingToken
      maximumOrderAgeNs := 1000000
      requireDropCopy }
  { result with stableHash := stableConfigurationHash result }

def intent (ordinal : UInt64) : RiskIntent :=
  let result : RiskIntent :=
    { intentId := ⟨20, ordinal⟩
      sessionId := ⟨1, 1⟩
      accountId := ⟨2, 2⟩
      strategyId := ⟨3, 3⟩
      venueId := ⟨4, 4⟩
      instrumentId := ⟨5, 5⟩
      sourceForecastId := ⟨21, ordinal⟩
      featureSnapshotId := ⟨22, ordinal⟩
      configurationVersion := ⟨6, 6⟩
      action := .buy
      limitPriceTicks := 100
      quantityUnits := 10
      createdProcessMonotonicTimeNs := kNow - 100
      expireProcessMonotonicTimeNs := kNow + 100000
      canonicalSha256 := Vector.replicate 32 1 }
  { result with stableHash := stableRiskIntentHash result }

def decision (ordinal : UInt64) : RiskDecision :=
  let result : RiskDecision :=
    { globalEventId := ⟨30, ordinal⟩
      intentId := (intent ordinal).intentId
      sessionId := ⟨1, 1⟩
      accountId := ⟨2, 2⟩
      strategyId := ⟨3, 3⟩
      venueId := ⟨4, 4⟩
      instrumentId := ⟨5, 5⟩
      riskSnapshotId := ⟨31, ordinal⟩
      configurationVersion := ⟨6, 6⟩
      decision := .approved
      reason := .withinLimits
      failedCheck := .none
      intentAction := .buy
      tradingMode := .simulation
      approvedQuantityUnits := 10
      approvedPriceTicks := 100
      evaluatedProcessMonotonicTimeNs := kNow
      validUntilProcessMonotonicTimeNs := kNow + 100000
      intentHash := (intent ordinal).stableHash
      intentSha256 := (intent ordinal).canonicalSha256
      riskSnapshotHash := 1
      riskContextHash := 1
      positionGeneration := 1
      authorityEpoch := 1
      policyRevision := 1
      evaluationOrdinal := 1
      journalSequence := 1
      reasonMask := reasonBit .withinLimits
      completedCheckMask := kAllChecks }
  { result with stableHash := stableRiskDecisionHash result }

def sealed (input : OmsInput) : OmsInput :=
  { input with stableHash := stableInputHash input }

def accept (ordinal receipt : UInt64) : OmsInput :=
  sealed
    { receiptId := ⟨100, receipt⟩
      kind := .acceptIntent
      source := .internal
      intent := intent ordinal
      riskDecision := decision ordinal
      processMonotonicTimeNs := kNow + receipt }

def internal (kind : InputKind) (orderId : OrderId) (receipt : UInt64) : OmsInput :=
  sealed
    { receiptId := ⟨101, receipt⟩
      kind
      source := .internal
      orderId
      authority := kAuthority
      processMonotonicTimeNs := kNow + receipt }

def venue (kind : InputKind) (orderId : OrderId) (receipt sequence : UInt64)
    (external : ExternalOrderId := kExternal) (source : EventSource := .gateway) : OmsInput :=
  sealed
    { receiptId := ⟨104, receipt⟩
      kind
      source
      orderId
      externalOrderId := external
      authority := kAuthority
      venueSequence := sequence
      processMonotonicTimeNs := kNow + receipt }

def fill (orderId : OrderId) (receipt sequence execution quantity : UInt64)
    (source : EventSource := .gateway) (external : ExternalOrderId := kExternal)
    (price : Int64 := 100) : OmsInput :=
  sealed
    { receiptId := ⟨105, receipt⟩
      kind := .fill
      source
      orderId
      externalOrderId := external
      executionId := ⟨106, execution⟩
      authority := kAuthority
      priceTicks := price
      quantityUnits := quantity
      venueSequence := sequence
      exchangeEventTimeNs := 1800000000000000000 + receipt.toInt64
      nicReceiveTimeNs := 1800000000000000100 + receipt.toInt64
      processMonotonicTimeNs := kNow + receipt }

/-- The builder of `oms/tests/recovery_test.cpp`. -/
def recoveryObservation (orderId : OrderId) (receipt : UInt64) (observation : RecoveryObservation)
    (quantity : UInt64 := 0) (external : ExternalOrderId := kExternal) : OmsInput :=
  sealed
    { receiptId := ⟨200, receipt⟩
      kind := .recoveryObservation
      source := .recovery
      orderId
      externalOrderId := external
      authority := kAuthority
      recoveryObservation := observation
      quantityUnits := quantity
      processMonotonicTimeNs := kNow + receipt }

def orderId (ordinal : UInt64) : OrderId :=
  deterministicOrderId configuration (intent ordinal)

end Aegis.Oms.TestSupport
