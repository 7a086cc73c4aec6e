import Aegis.Risk.Engine

/-!
The builders of `risk/tests/test_support.hpp`. The digest of an intent is a fixed one.
-/

namespace Aegis.Risk.TestSupport

open Aegis.Common

def kNow : UInt64 := 1000000

def sealed (limits : RiskLimitSnapshot) : RiskLimitSnapshot :=
  { limits with stableHash := stableLimitSnapshotHash limits }

def symbolLimit : SymbolLimit :=
  { instrumentId := ⟨5, 5⟩
    tickValueCurrencyNanos := 10
    priceIncrementTicks := 1
    maximumOrderQuantityUnits := 1000
    maximumOrderNotionalCurrencyNanos := 1000000000
    maximumPriceDeviationTicks := 100
    maximumAbsolutePositionUnits := 10000
    sectorIndex := 0
    factorBetaPpm := [1000000]
    authorized := true
    restricted := false }

def limits : RiskLimitSnapshot :=
  sealed {
    riskSnapshotId := ⟨7, 7⟩
    configurationVersion := ⟨6, 6⟩
    policyVersion := ⟨8, 8⟩
    sessionId := ⟨1, 1⟩
    accountId := ⟨2, 2⟩
    revision := 1
    authorityEpoch := 10
    publishedProcessMonotonicTimeNs := kNow - 1000
    validUntilProcessMonotonicTimeNs := kNow + 1000000
    approvalTtlNs := 10000
    maximumPositionAgeNs := 10000
    maximumMarketStateAgeNs := 1000
    maximumClockStateAgeNs := 1000
    maximumFeedBookAgeNs := 1000
    maximumConfigurationAgeNs := 10000
    orderRateWindowNs := 1000
    cancelRateWindowNs := 1000
    maximumOrdersPerWindow := 100
    maximumCancelsPerWindow := 100
    allowedMarketStateMask := 2
    maximumGrossExposureCurrencyNanos := 1000000000000
    maximumAbsoluteNetExposureCurrencyNanos := 1000000000000
    maximumDailyLossCurrencyNanos := 1000000000
    maximumDrawdownCurrencyNanos := 1000000000
    creditCapitalLimitCurrencyNanos := 1000000000000
    maximumSectorExposureCurrencyNanos := [1000000000000]
    maximumFactorExposureCurrencyNanos := [1000000000000]
    symbols := [symbolLimit]
    strategies := [{ strategyId := ⟨3, 3⟩, maximumLossCurrencyNanos := 500000000
                     maximumDrawdownCurrencyNanos := 500000000, authorized := true }]
    venues := [{ venueId := ⟨4, 4⟩, authorized := true }]
    allowSimulation := true
    allowPaper := true }

def intent (ordinal : UInt64) : RiskIntent :=
  let result : RiskIntent :=
    { intentId := ⟨20, ordinal⟩
      sessionId := ⟨1, 1⟩
      accountId := ⟨2, 2⟩
      strategyId := ⟨3, 3⟩
      venueId := ⟨4, 4⟩
      instrumentId := ⟨5, 5⟩
      sourceForecastId := ⟨21, ordinal⟩
      featureSnapshotId := ⟨22, ordinal⟩
      configurationVersion := ⟨6, 6⟩
      action := .buy
      limitPriceTicks := 100
      quantityUnits := 10
      createdProcessMonotonicTimeNs := kNow - 100
      expireProcessMonotonicTimeNs := kNow + 100000
      canonicalSha256 := Vector.replicate 32 1 }
  { result with stableHash := stableRiskIntentHash result }

def marketSnapshot : MarketState.Snapshot :=
  let snapshot : MarketState.Snapshot :=
    { state := .normal
      primaryReason := .normalConditionsStable
      reasonMask := MarketState.reasonBit .normalConditionsStable
      inputSequence := 1
      transitionSequence := 1
      observedProcessMonotonicTimeNs := kNow - 10
      observedWallClockUtcNs := 1800000000000000000
      stateEnteredProcessMonotonicTimeNs := kNow - 100 }
  { snapshot with stableHash := MarketState.stableMarketStateHash snapshot }

def context : RiskContext :=
  let result : RiskContext :=
    { nowProcessMonotonicTimeNs := kNow
      tradingMode := .simulation
      operatorAuthorized := true
      sessionAuthorized := true
      operatorAuthorizationValidUntilNs := kNow + 100000
      authorityEpoch := 10
      processId := 11
      marketStateSnapshot := marketSnapshot
      officialTradingStatus := .opened
      feedHealth := .healthy
      bookValidity := .valid
      clockQualitySnapshot :=
        { state := .healthy, operationMode := .normal, observedAt := kNow - 10
          sourceId := ⟨12, 12⟩ }
      feedBookObservedProcessMonotonicTimeNs := kNow - 10
      feedBookStateHash := 13
      referencePriceTicks := 100
      shortSaleLocate := .allowed
      selfTradePrevention := .allowed }
  { result with stableHash := stableRiskContextHash result }

def request (ordinal : UInt64) : RiskEvaluationRequest :=
  { globalEventId := ⟨30, ordinal⟩, intent := intent ordinal, context }

def initializeState : List EngineAction :=
  [.seedPosition { markPriceTicks := 100, asOfProcessMonotonicTimeNs := kNow - 10 },
   .updateProfitLoss { asOfProcessMonotonicTimeNs := kNow - 10 }]

end Aegis.Risk.TestSupport
