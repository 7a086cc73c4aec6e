import Aegis.Foundation.AmendedLists
import Aegis.Foundation.Pipeline
import Aegis.Portfolio.State

/-!
`recompute_snapshot` (`risk/src/portfolio_service.cpp`). A step that overflows leaves what the
earlier steps wrote in the output, so a build is a pipeline over the snapshot.
-/

namespace Aegis.Portfolio

open Aegis.Common Aegis.Foundation

/-- A step of the build, which stops where the source returns false. -/
abbrev SnapshotStep := Pipeline PortfolioSnapshot Unit Unit

structure SnapshotBuildContext where
  eventTimeNs : UInt64 := 0
  journalSequence : UInt64 := 0

def scaledSigned (value : Int64) (ppm : Int32) : Option Int64 :=
  (exactMulSigned value ppm.toInt64).map (· / kPortfolioPpm.toUInt64.toInt64)

def scaledUnsigned (value : UInt64) (ppm : UInt32) : Option UInt64 :=
  (exactMul value ppm.toUInt64).map (· / kPortfolioPpm.toUInt64)

def onInstrument (index : Nat) (change : InstrumentExposure → Option InstrumentExposure) :
    SnapshotStep :=
  Pipeline.amend (fun output => (amendAt change output.instruments index).map
    fun instruments => { output with instruments }) ()

def onStrategy (index : Nat) (change : StrategyExposure → Option StrategyExposure) :
    SnapshotStep :=
  Pipeline.amend (fun output => (amendAt change output.strategies index).map
    fun strategies => { output with strategies }) ()

def onAccount (index : Nat) (change : AccountExposure → Option AccountExposure) : SnapshotStep :=
  Pipeline.amend (fun output => (amendAt change output.accounts index).map
    fun accounts => { output with accounts }) ()

def onSector (index : Nat) (change : SectorExposure → Option SectorExposure) : SnapshotStep :=
  Pipeline.amend (fun output => (amendAt change output.sectors index).map
    fun sectors => { output with sectors }) ()

def addExposures (instrument strategy account : Nat) (sector : UInt32)
    (absoluteNotional : UInt64) (signedNotional : Int64) : SnapshotStep := do
  onInstrument instrument fun entry =>
    (exactAdd entry.grossExposureCurrencyNanos absoluteNotional).map fun gross =>
      { entry with grossExposureCurrencyNanos := gross }
  onInstrument instrument fun entry =>
    (exactAddSigned entry.netExposureCurrencyNanos signedNotional).map fun net =>
      { entry with netExposureCurrencyNanos := net }
  onStrategy strategy fun entry =>
    (exactAdd entry.grossExposureCurrencyNanos absoluteNotional).map fun gross =>
      { entry with grossExposureCurrencyNanos := gross }
  onStrategy strategy fun entry =>
    (exactAddSigned entry.netExposureCurrencyNanos signedNotional).map fun net =>
      { entry with netExposureCurrencyNanos := net }
  onAccount account fun entry =>
    (exactAdd entry.grossExposureCurrencyNanos absoluteNotional).map fun gross =>
      { entry with grossExposureCurrencyNanos := gross }
  onAccount account fun entry =>
    (exactAddSigned entry.netExposureCurrencyNanos signedNotional).map fun net =>
      { entry with netExposureCurrencyNanos := net }
  onSector sector.toNat fun entry =>
    (exactAdd entry.grossExposureCurrencyNanos absoluteNotional).map fun gross =>
      { entry with grossExposureCurrencyNanos := gross }
  onSector sector.toNat fun entry =>
    (exactAddSigned entry.netExposureCurrencyNanos signedNotional).map fun net =>
      { entry with netExposureCurrencyNanos := net }
  Pipeline.amend (fun output =>
    (exactAdd output.grossExposureCurrencyNanos absoluteNotional).map fun gross =>
      { output with grossExposureCurrencyNanos := gross }) ()
  Pipeline.amend (fun output =>
    (exactAddSigned output.netExposureCurrencyNanos signedNotional).map fun net =>
      { output with netExposureCurrencyNanos := net }) ()

def addWeightedExposures (reference : InstrumentRiskReference) (absoluteNotional : UInt64)
    (signedNotional : Int64) : SnapshotStep := do
  let beta ← Pipeline.require (scaledSigned signedNotional reference.betaPpm) ()
  let liquidity ←
    Pipeline.require (scaledUnsigned absoluteNotional reference.liquidityWeightPpm) ()
  let eventExposure ←
    Pipeline.require (scaledUnsigned absoluteNotional reference.eventWeightPpm) ()
  Pipeline.amend (fun output =>
    (exactAddSigned output.betaExposureCurrencyNanos beta).map fun sum =>
      { output with betaExposureCurrencyNanos := sum }) ()
  Pipeline.amend (fun output =>
    (exactAdd output.liquidityAdjustedExposureCurrencyNanos liquidity).map fun sum =>
      { output with liquidityAdjustedExposureCurrencyNanos := sum }) ()
  Pipeline.amend (fun output =>
    (exactAdd output.eventExposureCurrencyNanos eventExposure).map fun sum =>
      { output with eventExposureCurrencyNanos := sum }) ()

/-- The price a position was opened at, zero for a flat one. -/
def averagePriceTicks (position : PositionSlot) (reference : InstrumentRiskReference) :
    Option Int64 := do
  let absoluteCost ← checkedAbs position.openCostCurrencyNanos
  let absoluteQuantity ← checkedAbs position.quantityUnits
  let denominator ←
    (if absoluteQuantity = 0 then some 0
    else exactMul absoluteQuantity reference.tickValueCurrencyNanos)
  return if denominator = 0 then 0 else (absoluteCost / denominator).toInt64

def PositionSlot.exposure (position : PositionSlot) : PositionExposure :=
  { accountId := position.accountId
    strategyId := position.strategyId
    instrumentId := position.instrumentId
    netQuantityUnits := position.quantityUnits
    openCostCurrencyNanos := position.openCostCurrencyNanos
    realizedPnlCurrencyNanos := position.realizedPnlCurrencyNanos }

def onLastPosition (change : PositionExposure → PositionExposure) : SnapshotStep :=
  Pipeline.update fun output =>
    { output with positions := output.positions.modify (output.positions.length - 1) change }

namespace PortfolioRiskService

variable (s : PortfolioRiskService)

/-- `accumulate_position` for every position. -/
def accumulateRealized (position : PositionSlot) (instrument : Nat)
    (reference : InstrumentRiskReference) : SnapshotStep := do
  Pipeline.update fun output =>
    { output with positions := output.positions ++ [position.exposure] }
  let average ← Pipeline.require (averagePriceTicks position reference) ()
  onLastPosition fun entry => { entry with averagePriceTicks := average }
  onInstrument instrument fun entry =>
    (exactAddSigned entry.netQuantityUnits position.quantityUnits).map fun net =>
      { entry with netQuantityUnits := net }
  onInstrument instrument fun entry =>
    (exactAddSigned entry.realizedPnlCurrencyNanos position.realizedPnlCurrencyNanos).map
      fun realized => { entry with realizedPnlCurrencyNanos := realized }
  Pipeline.amend (fun output =>
    (exactAddSigned output.realizedPnlCurrencyNanos position.realizedPnlCurrencyNanos).map
      fun realized => { output with realizedPnlCurrencyNanos := realized }) ()

/-- `accumulate_position` for a held position with a mark. -/
def accumulateUnrealized (position : PositionSlot) (instrument strategy account : Nat)
    (reference : InstrumentRiskReference) : SnapshotStep := do
  let absoluteQuantity ← Pipeline.require (checkedAbs position.quantityUnits) ()
  let absoluteNotional ← Pipeline.require (checkedNotional (s.marks instrument)
    reference.tickValueCurrencyNanos absoluteQuantity) ()
  let signedNotional :=
    if position.quantityUnits < 0 then -absoluteNotional else absoluteNotional
  let unrealized ←
    Pipeline.require (exactSubSigned signedNotional position.openCostCurrencyNanos) ()
  onInstrument instrument fun entry =>
    (exactAddSigned entry.unrealizedPnlCurrencyNanos unrealized).map fun sum =>
      { entry with unrealizedPnlCurrencyNanos := sum }
  Pipeline.amend (fun output =>
    (exactAddSigned output.unrealizedPnlCurrencyNanos unrealized).map fun sum =>
      { output with unrealizedPnlCurrencyNanos := sum }) ()
  onLastPosition fun entry => { entry with unrealizedPnlCurrencyNanos := unrealized }
  addExposures instrument strategy account reference.sectorIndex absoluteNotional.toUInt64
    signedNotional
  addWeightedExposures reference absoluteNotional.toUInt64 signedNotional
  let positionPnl ←
    Pipeline.require (exactAddSigned position.realizedPnlCurrencyNanos unrealized) ()
  onStrategy strategy fun entry =>
    (exactAddSigned entry.pnlCurrencyNanos positionPnl).map fun pnl =>
      { entry with pnlCurrencyNanos := pnl }
  onAccount account fun entry =>
    (exactAddSigned entry.pnlCurrencyNanos positionPnl).map fun pnl =>
      { entry with pnlCurrencyNanos := pnl }

def accumulatePosition (position : PositionSlot) : SnapshotStep := do
  let instrument ← Pipeline.require (s.findInstrument position.instrumentId) ()
  let strategy ← Pipeline.require (s.findStrategy position.strategyId) ()
  let account ← Pipeline.require (s.findAccount position.accountId) ()
  let reference ← Pipeline.require (s.configuration.findInstrument position.instrumentId) ()
  Pipeline.amend (fun output =>
    if kMaximumPortfolioPositions ≤ output.positions.length then none else some output) ()
  accumulateRealized position instrument reference
  if position.quantityUnits = 0 then pure ()
  else if s.marks instrument ≤ 0 then pure ()
  else s.accumulateUnrealized position instrument strategy account reference

def accumulatePositions : SnapshotStep :=
  Pipeline.each s.accumulatePosition s.openPositions

def accumulateOrder (order : OrderSlot) : SnapshotStep := do
  let instrument ← Pipeline.require (s.findInstrument order.instrumentId) ()
  Pipeline.update fun output => { output with activeOrderCount := output.activeOrderCount + 1 }
  onInstrument instrument fun entry =>
    if order.side = .buy then
      (exactAdd entry.pendingBuyQuantityUnits order.remainingQuantityUnits).map fun pending =>
        { entry with pendingBuyQuantityUnits := pending }
    else
      (exactAdd entry.pendingSellQuantityUnits order.remainingQuantityUnits).map fun pending =>
        { entry with pendingSellQuantityUnits := pending }

def accumulateOrders : SnapshotStep :=
  Pipeline.each s.accumulateOrder s.activeOrders

def accumulateFill (output : PortfolioSnapshot) (fill : FillEntry) : PortfolioSnapshot :=
  let primary := fill.sourceMask &&& kPrimarySourceMask != 0
  let dropCopy := fill.sourceMask &&& kDropCopySourceMask != 0
  { output with
    activeFillCount := output.activeFillCount + 1
    unmatchedPrimaryFillCount :=
      output.unmatchedPrimaryFillCount + if primary && !dropCopy then 1 else 0
    unmatchedDropCopyFillCount :=
      output.unmatchedDropCopyFillCount + if dropCopy && !primary then 1 else 0
    orphanFillCount :=
      output.orphanFillCount + if (s.findOrder fill.orderId).isNone then 1 else 0 }

def accumulateFills : SnapshotStep :=
  Pipeline.update fun output => s.activeFills.foldl s.accumulateFill output

def missingMark : Bool :=
  (List.range s.configuration.instruments.length).any fun index => s.marks index ≤ 0

def initializeSnapshot (context : SnapshotBuildContext) : PortfolioSnapshot :=
  { riskSnapshotId := ⟨s.configuration.stableHash, s.snapshotSequence⟩
    sessionId := s.configuration.sessionId
    configurationVersion := s.configuration.configurationVersion
    sequence := s.snapshotSequence
    sourceJournalSequence := context.journalSequence
    asOfProcessMonotonicTimeNs := context.eventTimeNs
    invariantFailureCount := s.invariantFailureCount
    instruments := s.configuration.instruments.mapIdx fun index instrument =>
      { instrumentId := instrument.instrumentId, markPriceTicks := s.marks index }
    strategies := s.configuration.strategies.map fun strategyId => { strategyId }
    accounts := s.configuration.accounts.map fun accountId => { accountId }
    sectors := (List.range s.configuration.sectorCount.toNat).map fun index =>
      { sectorIndex := UInt32.ofNat index } }

/-- The larger of peak and profit, as `std::max` picks it. -/
def risenPeak (previous current : Int64) : Int64 :=
  if previous < current then current else previous

/-- The peaks and drawdowns of the strategies from an index on. -/
def settleStrategies (peaks : Nat → Int64) :
    Nat → List StrategyExposure → Bool × List StrategyExposure
  | _, [] => (true, [])
  | index, strategy :: rest =>
      let peak := risenPeak (peaks index) strategy.pnlCurrencyNanos
      let raised : StrategyExposure := { strategy with peakPnlCurrencyNanos := peak }
      if strategy.pnlCurrencyNanos < peak then
        match exactSubSigned peak strategy.pnlCurrencyNanos with
        | none => (false, raised :: rest)
        | some drawdown =>
            let settled := settleStrategies peaks (index + 1) rest
            (settled.1, { raised with drawdownCurrencyNanos := drawdown.toUInt64 } :: settled.2)
      else
        let settled := settleStrategies peaks (index + 1) rest
        (settled.1, raised :: settled.2)

/-- The loop over the strategies in `finalize_snapshot`. -/
def settlePeaks : SnapshotStep :=
  fun output =>
    let settled := settleStrategies s.strategyPeaks 0 output.strategies
    (if settled.1 then .ok () else .error (), { output with strategies := settled.2 })

def alarming (code : InvariantCode) : Bool :=
  code == .conflictingFill || code == .arithmeticOverflow || code == .accountingMismatch ||
    code == .journalExhausted

/-- What `finalize_snapshot` reports. -/
def verdict (output : PortfolioSnapshot) : PortfolioHealth × InvariantCode × Bool :=
  if s.stopped then (.stopped, s.invariant, false)
  else if s.health == .unsafeHealth || alarming s.invariant then
    (.unsafeHealth, s.invariant, false)
  else if s.missingMark || output.orphanFillCount != 0 ||
      (s.configuration.requireDropCopyConfirmation &&
        (output.unmatchedPrimaryFillCount != 0 || output.unmatchedDropCopyFillCount != 0)) then
    (.reconciling,
      if s.missingMark then .staleEvent
      else if output.orphanFillCount != 0 then .orphanFill else s.invariant, false)
  else (.healthy, .none, true)

def finalizeSnapshot : SnapshotStep := do
  -- The sum is written even where it wraps.
  Pipeline.update fun output =>
    { output with totalPnlCurrencyNanos :=
        output.realizedPnlCurrencyNanos + output.unrealizedPnlCurrencyNanos }
  Pipeline.amend (fun output =>
    (exactAddSigned output.realizedPnlCurrencyNanos output.unrealizedPnlCurrencyNanos).map
      fun _ => output) ()
  Pipeline.update fun output =>
    let peak := risenPeak s.snapshot.peakPnlCurrencyNanos output.totalPnlCurrencyNanos
    { output with peakPnlCurrencyNanos := peak }
  Pipeline.amend (fun output =>
    if output.totalPnlCurrencyNanos < output.peakPnlCurrencyNanos then
      (exactSubSigned output.peakPnlCurrencyNanos output.totalPnlCurrencyNanos).map
        fun drawdown => { output with drawdownCurrencyNanos := drawdown.toUInt64 }
    else some output) ()
  s.settlePeaks
  Pipeline.update fun output =>
    let (health, invariant, ready) := s.verdict output
    { output with health, invariant, ready }
  Pipeline.update fun output => { output with stableHash := stableSnapshotHash output }

def recomputeSnapshot (context : SnapshotBuildContext) : Except Unit Unit × PortfolioSnapshot :=
  (do
    s.accumulateOrders
    s.accumulateFills
    s.accumulatePositions
    s.finalizeSnapshot : SnapshotStep) (s.initializeSnapshot context)

end PortfolioRiskService

end Aegis.Portfolio
