import Aegis.Common.Identifiers

/-!
Portfolio snapshots (`risk/src/portfolio_types.cpp`). An array with a count is the list of its
used entries.
-/

namespace Aegis.Portfolio

open Aegis.Common

def kPortfolioSchemaMajor : UInt32 := 1

def kPortfolioSchemaMinor : UInt32 := 0

inductive PortfolioHealth where
  | starting | healthy | reconciling | unsafeHealth | stopped
  | unlisted (byte : UnlistedCode 1 5)
  deriving DecidableEq

def PortfolioHealth.code : PortfolioHealth → UInt8
  | .starting => 1
  | .healthy => 2
  | .reconciling => 3
  | .unsafeHealth => 4
  | .stopped => 5
  | .unlisted byte => byte.raw

inductive InvariantCode where
  | none | invalidConfiguration | conflictingFill | orphanFill | accountingMismatch
  | arithmeticOverflow | staleEvent | unsupportedCorporateAction | journalExhausted
  | unlisted (byte : UnlistedCode 0 8)
  deriving DecidableEq

def InvariantCode.code : InvariantCode → UInt8
  | .unlisted byte => byte.raw
  | listed => UInt8.ofNat listed.ctorIdx

structure InstrumentExposure where
  instrumentId : InstrumentId := {}
  netQuantityUnits : Int64 := 0
  pendingBuyQuantityUnits : UInt64 := 0
  pendingSellQuantityUnits : UInt64 := 0
  markPriceTicks : Int64 := 0
  realizedPnlCurrencyNanos : Int64 := 0
  unrealizedPnlCurrencyNanos : Int64 := 0
  grossExposureCurrencyNanos : UInt64 := 0
  netExposureCurrencyNanos : Int64 := 0
  deriving DecidableEq

structure PositionExposure where
  accountId : AccountId := {}
  strategyId : StrategyId := {}
  instrumentId : InstrumentId := {}
  netQuantityUnits : Int64 := 0
  averagePriceTicks : Int64 := 0
  openCostCurrencyNanos : Int64 := 0
  realizedPnlCurrencyNanos : Int64 := 0
  unrealizedPnlCurrencyNanos : Int64 := 0
  deriving DecidableEq

structure StrategyExposure where
  strategyId : StrategyId := {}
  grossExposureCurrencyNanos : UInt64 := 0
  netExposureCurrencyNanos : Int64 := 0
  pnlCurrencyNanos : Int64 := 0
  peakPnlCurrencyNanos : Int64 := 0
  drawdownCurrencyNanos : UInt64 := 0
  deriving DecidableEq

structure AccountExposure where
  accountId : AccountId := {}
  grossExposureCurrencyNanos : UInt64 := 0
  netExposureCurrencyNanos : Int64 := 0
  pnlCurrencyNanos : Int64 := 0
  deriving DecidableEq

structure SectorExposure where
  sectorIndex : UInt32 := 0
  grossExposureCurrencyNanos : UInt64 := 0
  netExposureCurrencyNanos : Int64 := 0
  deriving DecidableEq

structure PortfolioSnapshot where
  schemaMajor : UInt32 := kPortfolioSchemaMajor
  schemaMinor : UInt32 := kPortfolioSchemaMinor
  riskSnapshotId : RiskSnapshotId := {}
  sessionId : SessionId := {}
  configurationVersion : ConfigurationVersion := {}
  sequence : UInt64 := 0
  sourceJournalSequence : UInt64 := 0
  asOfProcessMonotonicTimeNs : UInt64 := 0
  health : PortfolioHealth := .starting
  invariant : InvariantCode := .none
  ready : Bool := false
  instruments : List InstrumentExposure := []
  positions : List PositionExposure := []
  strategies : List StrategyExposure := []
  accounts : List AccountExposure := []
  sectors : List SectorExposure := []
  grossExposureCurrencyNanos : UInt64 := 0
  netExposureCurrencyNanos : Int64 := 0
  betaExposureCurrencyNanos : Int64 := 0
  liquidityAdjustedExposureCurrencyNanos : UInt64 := 0
  eventExposureCurrencyNanos : UInt64 := 0
  realizedPnlCurrencyNanos : Int64 := 0
  unrealizedPnlCurrencyNanos : Int64 := 0
  totalPnlCurrencyNanos : Int64 := 0
  peakPnlCurrencyNanos : Int64 := 0
  drawdownCurrencyNanos : UInt64 := 0
  activeOrderCount : UInt64 := 0
  activeFillCount : UInt64 := 0
  unmatchedPrimaryFillCount : UInt64 := 0
  unmatchedDropCopyFillCount : UInt64 := 0
  orphanFillCount : UInt64 := 0
  invariantFailureCount : UInt64 := 0
  stableHash : UInt64 := 0
  deriving DecidableEq

def mixInstrumentExposure (hash : UInt64) (value : InstrumentExposure) : UInt64 := Id.run do
  let mut hash := hash
  hash := mixIdentifier hash value.instrumentId
  hash := mix hash value.netQuantityUnits.toUInt64
  hash := mix hash value.pendingBuyQuantityUnits
  hash := mix hash value.pendingSellQuantityUnits
  hash := mix hash value.markPriceTicks.toUInt64
  hash := mix hash value.realizedPnlCurrencyNanos.toUInt64
  hash := mix hash value.unrealizedPnlCurrencyNanos.toUInt64
  hash := mix hash value.grossExposureCurrencyNanos
  hash := mix hash value.netExposureCurrencyNanos.toUInt64
  return hash

def mixStrategyExposure (hash : UInt64) (value : StrategyExposure) : UInt64 := Id.run do
  let mut hash := hash
  hash := mixIdentifier hash value.strategyId
  hash := mix hash value.grossExposureCurrencyNanos
  hash := mix hash value.netExposureCurrencyNanos.toUInt64
  hash := mix hash value.pnlCurrencyNanos.toUInt64
  hash := mix hash value.peakPnlCurrencyNanos.toUInt64
  hash := mix hash value.drawdownCurrencyNanos
  return hash

def mixPositionExposure (hash : UInt64) (position : PositionExposure) : UInt64 := Id.run do
  let mut hash := hash
  hash := mixIdentifier hash position.accountId
  hash := mixIdentifier hash position.strategyId
  hash := mixIdentifier hash position.instrumentId
  hash := mix hash position.netQuantityUnits.toUInt64
  hash := mix hash position.averagePriceTicks.toUInt64
  hash := mix hash position.openCostCurrencyNanos.toUInt64
  hash := mix hash position.realizedPnlCurrencyNanos.toUInt64
  hash := mix hash position.unrealizedPnlCurrencyNanos.toUInt64
  return hash

def mixAccountExposure (hash : UInt64) (account : AccountExposure) : UInt64 := Id.run do
  let mut hash := hash
  hash := mixIdentifier hash account.accountId
  hash := mix hash account.grossExposureCurrencyNanos
  hash := mix hash account.netExposureCurrencyNanos.toUInt64
  hash := mix hash account.pnlCurrencyNanos.toUInt64
  return hash

def mixSectorExposure (hash : UInt64) (sector : SectorExposure) : UInt64 := Id.run do
  let mut hash := hash
  hash := mix hash sector.sectorIndex.toUInt64
  hash := mix hash sector.grossExposureCurrencyNanos
  hash := mix hash sector.netExposureCurrencyNanos.toUInt64
  return hash

def stableSnapshotHash (value : PortfolioSnapshot) : UInt64 := Id.run do
  let mut hash := kFnvOffset
  hash := mix hash value.schemaMajor.toUInt64
  hash := mix hash value.schemaMinor.toUInt64
  hash := mixIdentifier hash value.riskSnapshotId
  hash := mixIdentifier hash value.sessionId
  hash := mixIdentifier hash value.configurationVersion
  hash := mix hash value.sequence
  hash := mix hash value.sourceJournalSequence
  hash := mix hash value.asOfProcessMonotonicTimeNs
  hash := mix hash value.health.code.toUInt64
  hash := mix hash value.invariant.code.toUInt64
  hash := mix hash (if value.ready then 1 else 0)
  hash := mix hash (UInt64.ofNat value.instruments.length)
  hash := mix hash (UInt64.ofNat value.strategies.length)
  hash := mix hash (UInt64.ofNat value.accounts.length)
  hash := mix hash (UInt64.ofNat value.sectors.length)
  hash := mix hash (UInt64.ofNat value.positions.length)
  hash := value.instruments.foldl mixInstrumentExposure hash
  hash := value.strategies.foldl mixStrategyExposure hash
  hash := value.positions.foldl mixPositionExposure hash
  hash := value.accounts.foldl mixAccountExposure hash
  hash := value.sectors.foldl mixSectorExposure hash
  hash := mix hash value.grossExposureCurrencyNanos
  hash := mix hash value.netExposureCurrencyNanos.toUInt64
  hash := mix hash value.betaExposureCurrencyNanos.toUInt64
  hash := mix hash value.liquidityAdjustedExposureCurrencyNanos
  hash := mix hash value.eventExposureCurrencyNanos
  hash := mix hash value.realizedPnlCurrencyNanos.toUInt64
  hash := mix hash value.unrealizedPnlCurrencyNanos.toUInt64
  hash := mix hash value.totalPnlCurrencyNanos.toUInt64
  hash := mix hash value.peakPnlCurrencyNanos.toUInt64
  hash := mix hash value.drawdownCurrencyNanos
  hash := mix hash value.activeOrderCount
  hash := mix hash value.activeFillCount
  hash := mix hash value.unmatchedPrimaryFillCount
  hash := mix hash value.unmatchedDropCopyFillCount
  hash := mix hash value.orphanFillCount
  hash := mix hash value.invariantFailureCount
  return nonzeroHash hash

end Aegis.Portfolio
