import Aegis.Execution.Gateway
import Aegis.Risk.TestSupport

/-!
The builders of `execution/tests/test_support.hpp`. The decision of the risk engine is written
out.
-/

namespace Aegis.Execution.TestSupport

open Aegis.Common Aegis.MarketData
open Aegis.Oms (GatewayCommand GatewayCommandKind LeaderAuthority stableGatewayCommandHash)
open Aegis.Risk (RiskDecision stableRiskDecisionHash kAllChecks)

def kNow : UInt64 := Risk.TestSupport.kNow

def kAuthority : LeaderAuthority := ⟨77, 88⟩

def configuration (replaceLatencyNs : UInt64 := 200) : GatewayConfiguration :=
  let result : GatewayConfiguration :=
    { sessionId := ⟨1, 1⟩
      accountId := ⟨2, 2⟩
      venueId := ⟨4, 4⟩
      configurationVersion := ⟨6, 6⟩
      startupMode := .simulation
      exchangeSessionEpoch := kAuthority.exchangeSessionEpoch
      initialFencingToken := kAuthority.fencingToken
      heartbeatIntervalNs := 100000
      heartbeatTimeoutNs := 500000
      maximumClockAgeNs := 100000
      commandRateWindowNs := 1000
      maximumNewOrdersPerWindow := 100
      maximumCancelsPerWindow := 100
      maximumReplacesPerWindow := 100
      mappings :=
        [{ venueId := ⟨4, 4⟩, instrumentId := ⟨5, 5⟩
           syntheticVenueNumber := 1, syntheticInstrumentNumber := 1 }]
      paperModel :=
        { acknowledgementLatencyNs := 100
          cancelLatencyNs := 200
          replaceLatencyNs
          initialQueueAheadUnits := 2
          maximumFillChunkUnits := 3
          feePerUnitCurrencyNanos := 5 } }
  { result with stableHash := stableGatewayConfigurationHash result }

def decision (kind : GatewayCommandKind) (ordinal : UInt64) (quantity : UInt64) : RiskDecision :=
  let result : RiskDecision :=
    { globalEventId := ⟨30, ordinal⟩
      intentId := ⟨20, ordinal⟩
      sessionId := ⟨1, 1⟩
      accountId := ⟨2, 2⟩
      strategyId := ⟨3, 3⟩
      venueId := ⟨4, 4⟩
      instrumentId := ⟨5, 5⟩
      riskSnapshotId := ⟨31, ordinal⟩
      configurationVersion := ⟨6, 6⟩
      decision := .approved
      reason := .withinLimits
      failedCheck := .none
      intentAction := if kind = .cancel then .cancel else .buy
      tradingMode := .simulation
      approvedQuantityUnits := if kind = .cancel then 0 else quantity
      approvedPriceTicks := if kind = .cancel then 0 else 100
      evaluatedProcessMonotonicTimeNs := kNow
      validUntilProcessMonotonicTimeNs := kNow + 100000
      intentHash := ordinal
      intentSha256 := Vector.replicate 32 1
      riskSnapshotHash := 1
      riskContextHash := 1
      positionGeneration := 1
      authorityEpoch := 1
      policyRevision := 1
      evaluationOrdinal := 1
      journalSequence := 1
      reasonMask := Risk.reasonBit .withinLimits
      completedCheckMask := kAllChecks }
  { result with stableHash := stableRiskDecisionHash result }

def safety (now : UInt64) (replaceLatencyNs : UInt64 := 200) : FinalSafetyState :=
  let context := Risk.TestSupport.context
  let result : FinalSafetyState :=
    { observedProcessMonotonicTimeNs := now
      marketStateSnapshot := context.marketStateSnapshot
      officialTradingStatus := context.officialTradingStatus
      feedHealth := context.feedHealth
      bookValidity := context.bookValidity
      clockQualitySnapshot :=
        { toClockQualitySnapshot := context.clockQualitySnapshot
          hardwareTimestampAvailable := true }
      authority := kAuthority
      effectiveConfigurationHash := (configuration replaceLatencyNs).stableHash
      killSwitchEngaged := false
      journalReady := true }
  { result with stableHash := stableFinalSafetyStateHash result }

def request (kind : GatewayCommandKind) (ordinal now : UInt64) (quantity : UInt64 := 10)
    (replaceLatencyNs : UInt64 := 200) : GatewayRequest :=
  let approved := decision kind ordinal quantity
  let command : GatewayCommand :=
    { commandId := ⟨60, ordinal⟩
      kind
      orderId := ⟨50, 1⟩
      sessionId := ⟨1, 1⟩
      accountId := ⟨2, 2⟩
      strategyId := ⟨3, 3⟩
      venueId := ⟨4, 4⟩
      instrumentId := ⟨5, 5⟩
      configurationVersion := ⟨6, 6⟩
      side := .buy
      priceTicks := 100
      quantityUnits := quantity
      authority := kAuthority
      intentHash := approved.intentHash
      riskDecisionHash := approved.stableHash
      generatedProcessMonotonicTimeNs := now - 1 }
  let result : GatewayRequest :=
    { command := { command with stableHash := stableGatewayCommandHash command }
      riskDecision := approved
      safety := safety now replaceLatencyNs }
  { result with stableHash := stableGatewayRequestHash result }

def marketEvent (ordinal now : UInt64) : SyntheticEvent :=
  { venueNumber := 1
    channelNumber := 1
    instrumentNumber := 1
    channelSequence := ordinal
    globalOrdinal := ordinal
    exchangeEventTimeNs := 1800000000000000000
    nicReceiveTimeNs := 1800000000000000100
    processMonotonicTimeNs := now }

def statusEvent (status : Book.TradingStatus) (ordinal now : UInt64) : SyntheticEvent :=
  let event := { marketEvent ordinal now with type := .tradingStatus, status }
  { event with eventHash := calculateEventHash event }

def tradeEvent (ordinal now : UInt64) (quantity : UInt64 := 10) : SyntheticEvent :=
  let event :=
    { marketEvent ordinal now with
      type := .trade
      side := .ask
      priceTicks := 98
      quantityUnits := quantity
      auxiliaryValue := ordinal }
  { event with eventHash := calculateEventHash event }

end Aegis.Execution.TestSupport
