import Aegis.Common.MarketState
import Aegis.Risk.Types

/-!
The limit snapshot of the pre-trade risk engine (`risk/src/types.cpp`). An array with a count is
the list of its used entries; `factor_beta_ppm` has as many as there are factors.
-/

namespace Aegis.Risk

open Aegis.Common

def kMaximumRiskSymbols : Nat := 64

def kMaximumRiskStrategies : Nat := 32

def kMaximumRiskVenues : Nat := 16

def kMaximumRiskSectors : Nat := 16

def kMaximumRiskFactors : Nat := 8

def kDuplicateIntentCapacity : Nat := 4096

def kMaximumRateEvents : Nat := 2048

def kPartsPerMillion : UInt32 := 1000000

def kMaximumMonetaryNanos : UInt64 := Int64.maxValue.toUInt64

def kMaximumAbsoluteFactorBetaPpm : Int32 := 10000000

structure SymbolLimit where
  instrumentId : InstrumentId := {}
  tickValueCurrencyNanos : UInt64 := 0
  priceIncrementTicks : UInt64 := 0
  maximumOrderQuantityUnits : UInt64 := 0
  maximumOrderNotionalCurrencyNanos : UInt64 := 0
  maximumPriceDeviationTicks : UInt64 := 0
  maximumAbsolutePositionUnits : UInt64 := 0
  sectorIndex : UInt16 := 0
  factorBetaPpm : List Int32 := []
  authorized : Bool := false
  restricted : Bool := true
  deriving DecidableEq

/-- `factor_beta_ppm[factor]`: an entry that was not set is zero. -/
def SymbolLimit.beta (symbol : SymbolLimit) (factor : Nat) : Int32 :=
  symbol.factorBetaPpm.getD factor 0

structure StrategyLimit where
  strategyId : StrategyId := {}
  maximumLossCurrencyNanos : UInt64 := 0
  maximumDrawdownCurrencyNanos : UInt64 := 0
  authorized : Bool := false
  deriving DecidableEq

structure VenueLimit where
  venueId : VenueId := {}
  authorized : Bool := false
  deriving DecidableEq

/-- `risk::RiskLimitSnapshot`; lists give the counts. -/
structure RiskLimitSnapshot where
  riskSnapshotId : RiskSnapshotId := {}
  configurationVersion : ConfigurationVersion := {}
  policyVersion : ConfigurationVersion := {}
  sessionId : SessionId := {}
  accountId : AccountId := {}
  revision : UInt64 := 0
  authorityEpoch : UInt64 := 0
  publishedProcessMonotonicTimeNs : UInt64 := 0
  validUntilProcessMonotonicTimeNs : UInt64 := 0
  approvalTtlNs : UInt64 := 0
  maximumPositionAgeNs : UInt64 := 0
  maximumMarketStateAgeNs : UInt64 := 0
  maximumClockStateAgeNs : UInt64 := 0
  maximumFeedBookAgeNs : UInt64 := 0
  maximumConfigurationAgeNs : UInt64 := 0
  orderRateWindowNs : UInt64 := 0
  cancelRateWindowNs : UInt64 := 0
  maximumOrdersPerWindow : UInt32 := 0
  maximumCancelsPerWindow : UInt32 := 0
  allowedMarketStateMask : UInt16 := 0
  maximumGrossExposureCurrencyNanos : UInt64 := 0
  maximumAbsoluteNetExposureCurrencyNanos : UInt64 := 0
  maximumDailyLossCurrencyNanos : UInt64 := 0
  maximumDrawdownCurrencyNanos : UInt64 := 0
  creditCapitalLimitCurrencyNanos : UInt64 := 0
  maximumSectorExposureCurrencyNanos : List UInt64 := []
  maximumFactorExposureCurrencyNanos : List UInt64 := []
  symbols : List SymbolLimit := []
  strategies : List StrategyLimit := []
  venues : List VenueLimit := []
  allowSimulation : Bool := true
  allowPaper : Bool := false
  requireLocateForShortSale : Bool := true
  requireSelfTradePrevention : Bool := true
  stableHash : UInt64 := 0
  deriving DecidableEq

namespace RiskLimitSnapshot

def sectorCount (snapshot : RiskLimitSnapshot) : Nat :=
  snapshot.maximumSectorExposureCurrencyNanos.length

def factorCount (snapshot : RiskLimitSnapshot) : Nat :=
  snapshot.maximumFactorExposureCurrencyNanos.length

end RiskLimitSnapshot

def mixBool (hash : UInt64) (value : Bool) : UInt64 :=
  mix hash (if value then 1 else 0)

def mixSymbol (factorCount : Nat) (hash : UInt64) (symbol : SymbolLimit) : UInt64 := Id.run do
  let mut hash := hash
  hash := mixIdentifier hash symbol.instrumentId
  hash := mix hash symbol.tickValueCurrencyNanos
  hash := mix hash symbol.priceIncrementTicks
  hash := mix hash symbol.maximumOrderQuantityUnits
  hash := mix hash symbol.maximumOrderNotionalCurrencyNanos
  hash := mix hash symbol.maximumPriceDeviationTicks
  hash := mix hash symbol.maximumAbsolutePositionUnits
  hash := mix hash symbol.sectorIndex.toUInt64
  hash := (List.range factorCount).foldl
    (fun hash factor => mix hash (symbol.beta factor).toUInt32.toUInt64) hash
  hash := mixBool hash symbol.authorized
  hash := mixBool hash symbol.restricted
  return hash

def mixStrategyLimit (hash : UInt64) (strategy : StrategyLimit) : UInt64 := Id.run do
  let mut hash := hash
  hash := mixIdentifier hash strategy.strategyId
  hash := mix hash strategy.maximumLossCurrencyNanos
  hash := mix hash strategy.maximumDrawdownCurrencyNanos
  hash := mixBool hash strategy.authorized
  return hash

def mixVenueLimit (hash : UInt64) (venue : VenueLimit) : UInt64 :=
  mixBool (mixIdentifier hash venue.venueId) venue.authorized

def stableLimitSnapshotHash (snapshot : RiskLimitSnapshot) : UInt64 := Id.run do
  let mut hash := kFnvOffset
  hash := mixIdentifier hash snapshot.riskSnapshotId
  hash := mixIdentifier hash snapshot.configurationVersion
  hash := mixIdentifier hash snapshot.policyVersion
  hash := mixIdentifier hash snapshot.sessionId
  hash := mixIdentifier hash snapshot.accountId
  hash := mix hash snapshot.revision
  hash := mix hash snapshot.authorityEpoch
  hash := mix hash snapshot.publishedProcessMonotonicTimeNs
  hash := mix hash snapshot.validUntilProcessMonotonicTimeNs
  hash := mix hash snapshot.approvalTtlNs
  hash := mix hash snapshot.maximumPositionAgeNs
  hash := mix hash snapshot.maximumMarketStateAgeNs
  hash := mix hash snapshot.maximumClockStateAgeNs
  hash := mix hash snapshot.maximumFeedBookAgeNs
  hash := mix hash snapshot.maximumConfigurationAgeNs
  hash := mix hash snapshot.orderRateWindowNs
  hash := mix hash snapshot.cancelRateWindowNs
  hash := mix hash snapshot.maximumOrdersPerWindow.toUInt64
  hash := mix hash snapshot.maximumCancelsPerWindow.toUInt64
  hash := mix hash snapshot.allowedMarketStateMask.toUInt64
  hash := mix hash snapshot.maximumGrossExposureCurrencyNanos
  hash := mix hash snapshot.maximumAbsoluteNetExposureCurrencyNanos
  hash := mix hash snapshot.maximumDailyLossCurrencyNanos
  hash := mix hash snapshot.maximumDrawdownCurrencyNanos
  hash := mix hash snapshot.creditCapitalLimitCurrencyNanos
  hash := mix hash (UInt64.ofNat snapshot.symbols.length)
  hash := mix hash (UInt64.ofNat snapshot.strategies.length)
  hash := mix hash (UInt64.ofNat snapshot.venues.length)
  hash := mix hash (UInt64.ofNat snapshot.sectorCount)
  hash := mix hash (UInt64.ofNat snapshot.factorCount)
  hash := mixBool hash snapshot.allowSimulation
  hash := mixBool hash snapshot.allowPaper
  hash := mixBool hash snapshot.requireLocateForShortSale
  hash := mixBool hash snapshot.requireSelfTradePrevention
  hash := snapshot.maximumSectorExposureCurrencyNanos.foldl mix hash
  hash := snapshot.maximumFactorExposureCurrencyNanos.foldl mix hash
  hash := snapshot.symbols.foldl (mixSymbol snapshot.factorCount) hash
  hash := snapshot.strategies.foldl mixStrategyLimit hash
  hash := snapshot.venues.foldl mixVenueLimit hash
  return nonzeroHash hash

def monetary (value : UInt64) : Bool :=
  value != 0 && value ≤ kMaximumMonetaryNanos

/-- `valid_symbol`, without `duplicate_symbol`. -/
def validSymbol (snapshot : RiskLimitSnapshot) (symbol : SymbolLimit) : Bool :=
  symbol.instrumentId.valid && symbol.tickValueCurrencyNanos != 0 &&
    symbol.priceIncrementTicks != 0 && symbol.maximumOrderQuantityUnits != 0 &&
    symbol.maximumOrderNotionalCurrencyNanos != 0 && symbol.maximumAbsolutePositionUnits != 0 &&
    symbol.maximumOrderNotionalCurrencyNanos ≤ kMaximumMonetaryNanos &&
    symbol.sectorIndex.toNat < snapshot.sectorCount &&
    (List.range snapshot.factorCount).all fun factor =>
      -kMaximumAbsoluteFactorBetaPpm ≤ symbol.beta factor &&
        symbol.beta factor ≤ kMaximumAbsoluteFactorBetaPpm

/-- `valid_strategy`, without `duplicate_strategy`. -/
def validStrategy (strategy : StrategyLimit) : Bool :=
  strategy.strategyId.valid && monetary strategy.maximumLossCurrencyNanos &&
    monetary strategy.maximumDrawdownCurrencyNanos

def kAllMarketStates : UInt16 := ((1 : UInt16) <<< MarketState.kMarketStateCount.toUInt16) - 1

/-- `valid_limit_snapshot`. -/
def validLimitSnapshot (snapshot : RiskLimitSnapshot) : Bool :=
  snapshot.riskSnapshotId.valid && snapshot.configurationVersion.valid &&
    snapshot.policyVersion.valid && snapshot.sessionId.valid && snapshot.accountId.valid &&
    snapshot.revision != 0 && snapshot.authorityEpoch != 0 &&
    snapshot.publishedProcessMonotonicTimeNs != 0 &&
    snapshot.publishedProcessMonotonicTimeNs < snapshot.validUntilProcessMonotonicTimeNs &&
    snapshot.approvalTtlNs != 0 && snapshot.maximumPositionAgeNs != 0 &&
    snapshot.maximumMarketStateAgeNs != 0 && snapshot.maximumClockStateAgeNs != 0 &&
    snapshot.maximumFeedBookAgeNs != 0 && snapshot.maximumConfigurationAgeNs != 0 &&
    snapshot.orderRateWindowNs != 0 && snapshot.cancelRateWindowNs != 0 &&
    snapshot.maximumOrdersPerWindow != 0 &&
    snapshot.maximumOrdersPerWindow.toNat ≤ kMaximumRateEvents &&
    snapshot.maximumCancelsPerWindow != 0 &&
    snapshot.maximumCancelsPerWindow.toNat ≤ kMaximumRateEvents &&
    snapshot.allowedMarketStateMask != 0 &&
    snapshot.allowedMarketStateMask &&& ~~~kAllMarketStates == 0 &&
    monetary snapshot.maximumGrossExposureCurrencyNanos &&
    monetary snapshot.maximumAbsoluteNetExposureCurrencyNanos &&
    monetary snapshot.maximumDailyLossCurrencyNanos &&
    monetary snapshot.maximumDrawdownCurrencyNanos &&
    monetary snapshot.creditCapitalLimitCurrencyNanos &&
    snapshot.symbols.length != 0 && snapshot.symbols.length ≤ kMaximumRiskSymbols &&
    snapshot.strategies.length != 0 && snapshot.strategies.length ≤ kMaximumRiskStrategies &&
    snapshot.venues.length != 0 && snapshot.venues.length ≤ kMaximumRiskVenues &&
    snapshot.sectorCount != 0 && snapshot.sectorCount ≤ kMaximumRiskSectors &&
    snapshot.factorCount != 0 && snapshot.factorCount ≤ kMaximumRiskFactors &&
    (snapshot.allowSimulation || snapshot.allowPaper) && snapshot.stableHash != 0 &&
    snapshot.stableHash == stableLimitSnapshotHash snapshot &&
    snapshot.maximumSectorExposureCurrencyNanos.all monetary &&
    snapshot.maximumFactorExposureCurrencyNanos.all monetary &&
    snapshot.symbols.all (validSymbol snapshot) &&
    decide (snapshot.symbols.map (·.instrumentId)).Nodup &&
    snapshot.strategies.all validStrategy &&
    decide (snapshot.strategies.map (·.strategyId)).Nodup &&
    snapshot.venues.all (·.venueId.valid) && decide (snapshot.venues.map (·.venueId)).Nodup

/-- What the engine relies on in a snapshot it has installed. -/
structure LimitFacts (snapshot : RiskLimitSnapshot) : Prop where
  symbols : snapshot.symbols.length ≤ kMaximumRiskSymbols
  strategies : snapshot.strategies.length ≤ kMaximumRiskStrategies
  venues : snapshot.venues.length ≤ kMaximumRiskVenues
  instruments : (snapshot.symbols.map (·.instrumentId)).Nodup
  strategyIds : (snapshot.strategies.map (·.strategyId)).Nodup
  venueIds : (snapshot.venues.map (·.venueId)).Nodup

theorem LimitFacts.of_valid {snapshot : RiskLimitSnapshot}
    (valid : validLimitSnapshot snapshot) : LimitFacts snapshot := by
  simp only [validLimitSnapshot, Bool.and_eq_true, decide_eq_true_eq] at valid
  grind [LimitFacts]

end Aegis.Risk
