import Aegis.Portfolio.Handlers
import Aegis.Portfolio.SnapshotBuild

/-!
`PortfolioRiskService` (`risk/src/portfolio_service.cpp`). The snapshot store is whether it
accepts what is published.
-/

namespace Aegis.Portfolio

open Aegis.Common Aegis.Foundation

namespace PortfolioRiskService

def construct (configuration : PortfolioConfiguration) (storeInitialized published : Bool) :
    PortfolioRiskService :=
  if !validConfiguration configuration || !storeInitialized then
    { configuration, invariant := .invalidConfiguration, health := .unsafeHealth }
  else
    let started : PortfolioRiskService := { configuration, snapshotSequence := 1 }
    let snapshot := started.initializeSnapshot {}
    let hashed := { started with
      snapshot := { snapshot with stableHash := stableSnapshotHash snapshot } }
    if published then { hashed with initialized := true }
    else { hashed with invariant := .invalidConfiguration, health := .unsafeHealth }

variable (s : PortfolioRiskService) (event : PortfolioEvent)

def invalidEnvelope : Bool :=
  !validEvent event || event.configurationVersion != s.configuration.configurationVersion ||
    event.sessionId != s.configuration.sessionId

def regressingTime : Bool :=
  s.snapshot.asOfProcessMonotonicTimeNs != 0 &&
    event.processMonotonicTimeNs < s.snapshot.asOfProcessMonotonicTimeNs

/-- `apply` between the reservation and the snapshot. -/
def handle : InternalApplyResult × PortfolioRiskService :=
  if s.invalidEnvelope event then s.refuse .invalid .staleEvent
  else if s.seenEvent event.eventId then s.refuse .duplicate .none
  else if s.regressingTime event then s.refuse .invalid .staleEvent
  else
    match s.recordEvent event.eventId with
    | none => s.alarm .capacityExhausted .accountingMismatch
    | some recorded => recorded.applyLocked event

def numbered : PortfolioRiskService :=
  { s with snapshotSequence := s.snapshotSequence + 1 }

def contextOf : SnapshotBuildContext :=
  ⟨event.processMonotonicTimeNs, UInt64.ofNat s.journalSize⟩

/-- What `apply` does with the snapshot it built. -/
def install (next : PortfolioSnapshot) (published : Bool) : PortfolioRiskService :=
  { s with
    snapshot := next
    health := if published then next.health else .reconciling
    invariant := next.invariant
    strategyPeaks := fun index =>
      match next.strategies[index]? with
      | some strategy => strategy.peakPnlCurrencyNanos
      | none => s.strategyPeaks index }

def reserve : PortfolioRiskService :=
  { s with journalSize := s.journalSize + 1 }

/-- `apply` after the handler; a failed build is installed. -/
def conclude (internal : InternalApplyResult) (published : Bool) :
    ApplyResult × PortfolioRiskService :=
  let journalSequence := UInt64.ofNat s.journalSize
  if internal.stateChanged then
    match s.numbered.recomputeSnapshot (s.contextOf event) with
    | (.ok _, next) =>
        (⟨internal.status, internal.invariant, journalSequence, next.sequence, next.stableHash⟩,
          s.numbered.install next published)
    | (.error _, _) =>
        let marked := s.numbered.setUnsafe .arithmeticOverflow
        let next := (marked.recomputeSnapshot (s.contextOf event)).2
        (⟨.arithmeticOverflow, .arithmeticOverflow, journalSequence, next.sequence,
          next.stableHash⟩, marked.install next published)
  else
    (⟨internal.status, internal.invariant, journalSequence, s.snapshot.sequence,
      s.snapshot.stableHash⟩, s)

def apply (published : Bool) : ApplyResult × PortfolioRiskService :=
  if !s.initialized then ({ status := .invalid, invariant := .invalidConfiguration }, s)
  else if s.stopped then ({ status := .stopped, invariant := s.invariant }, s)
  else if kPortfolioJournalCapacity ≤ s.journalSize then
    ({ status := .journalUnavailable, invariant := .journalExhausted },
      s.setUnsafe .journalExhausted)
  else
    let handled := s.reserve.handle event
    handled.2.conclude event handled.1 published

/-- One call of `apply`, and whether it can publish. -/
structure Call where
  event : PortfolioEvent
  published : Bool := true

def next (call : Call) : PortfolioRiskService :=
  (s.apply call.event call.published).2

/-- `apply` gets past its first checks and the reservation. -/
def takes : Bool :=
  s.initialized && !s.stopped && s.journalSize < kPortfolioJournalCapacity

/-- The snapshot a call publishes, if any. -/
def publish (call : Call) : List PortfolioSnapshot :=
  if s.takes && (s.reserve.handle call.event).1.stateChanged && call.published then
    [(s.next call).snapshot]
  else []

end PortfolioRiskService

end Aegis.Portfolio
