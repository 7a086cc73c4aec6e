import Aegis.Foundation.ProbeTable
import Aegis.Portfolio.Accounting
import Aegis.Portfolio.Events

/-!
The state of the portfolio service (`risk/src/portfolio_service.cpp`). An array is a function of
its index, of a natural number where that is a place in the configuration. The journal is the
number of its reservations.
-/

namespace Aegis.Portfolio

open Aegis.Common Aegis.Foundation

def kMaximumPortfolioPositions : Nat := 512

def kMaximumPortfolioOrders : Nat := 1024

def kMaximumPortfolioFills : Nat := 4096

def kPortfolioIdempotencyCapacity : Nat := 8192

def kPortfolioJournalCapacity : Nat := 8192

def kPrimarySourceMask : UInt8 := 1

def kDropCopySourceMask : UInt8 := 2

structure OrderSlot where
  orderId : OrderId := {}
  accountId : AccountId := {}
  strategyId : StrategyId := {}
  venueId : VenueId := {}
  instrumentId : InstrumentId := {}
  side : Side := .buy
  state : OrderLifecycleState := .accepted
  priceTicks : Int64 := 0
  quantityUnits : UInt64 := 0
  cumulativeFillQuantityUnits : UInt64 := 0
  remainingQuantityUnits : UInt64 := 0
  lastUpdateTimeNs : UInt64 := 0
  occupied : Bool := false

/-- `PortfolioRiskService::FillSlot` with its identities. -/
structure FillEntry extends FillSlot where
  logicalFillId : GlobalEventId := {}
  orderId : OrderId := {}
  accountId : AccountId := {}
  strategyId : StrategyId := {}
  venueId : VenueId := {}
  applicationOrdinal : UInt64 := 0
  actionGeneration : UInt64 := 0
  sourceMask : UInt8 := 0
  active : Bool := false
  occupied : Bool := false

structure IdempotencySlot where
  eventId : GlobalEventId := {}
  occupied : Bool := false

structure InternalApplyResult where
  status : ApplyStatus := .invalid
  invariant : InvariantCode := .none
  stateChanged : Bool := false
  deriving DecidableEq

structure PortfolioRiskService where
  configuration : PortfolioConfiguration
  journalSize : Nat := 0
  positions : Fin kMaximumPortfolioPositions → PositionSlot := fun _ => {}
  orders : Fin kMaximumPortfolioOrders → OrderSlot := fun _ => {}
  fills : Fin kMaximumPortfolioFills → FillEntry := fun _ => {}
  idempotency : Fin kPortfolioIdempotencyCapacity → IdempotencySlot := fun _ => {}
  marks : Nat → Int64 := fun _ => 0
  markTimes : Nat → UInt64 := fun _ => 0
  corporateActionGenerations : Nat → UInt64 := fun _ => 0
  strategyPeaks : Nat → Int64 := fun _ => 0
  snapshot : PortfolioSnapshot := {}
  eventOrdinal : UInt64 := 0
  snapshotSequence : UInt64 := 0
  invariantFailureCount : UInt64 := 0
  health : PortfolioHealth := .starting
  invariant : InvariantCode := .none
  initialized : Bool := false
  stopped : Bool := false

instance : NeZero kMaximumPortfolioOrders := ⟨by decide⟩

instance : NeZero kMaximumPortfolioFills := ⟨by decide⟩

instance : NeZero kPortfolioIdempotencyCapacity := ⟨by decide⟩

/-- `id_hash`, masked with `n - 1`. -/
def idHash {Tag : Type} (n : Nat) [NeZero n] (value : Identifier128 Tag) : Fin n :=
  let rotated := (value.high <<< 23) ||| (value.high >>> 41)
  Fin.ofNat n (rotated ^^^ value.low).toNat

def orderLayout : Layout kMaximumPortfolioOrders OrderSlot OrderId where
  occupied := OrderSlot.occupied
  key := OrderSlot.orderId
  bucket := idHash kMaximumPortfolioOrders

def fillLayout : Layout kMaximumPortfolioFills FillEntry GlobalEventId where
  occupied := FillEntry.occupied
  key := FillEntry.logicalFillId
  bucket := idHash kMaximumPortfolioFills

def idempotencyLayout : Layout kPortfolioIdempotencyCapacity IdempotencySlot GlobalEventId where
  occupied := IdempotencySlot.occupied
  key := IdempotencySlot.eventId
  bucket := idHash kPortfolioIdempotencyCapacity

def PositionSlot.isFor (position : PositionSlot) (accountId : AccountId) (strategyId : StrategyId)
    (instrumentId : InstrumentId) : Bool :=
  position.occupied && position.accountId == accountId && position.strategyId == strategyId &&
    position.instrumentId == instrumentId

def FillEntry.countsFor (fill : FillEntry) (position : PositionSlot) : Bool :=
  fill.occupied && fill.active && fill.accountId == position.accountId &&
    fill.strategyId == position.strategyId && fill.instrumentId == position.instrumentId &&
    fill.actionGeneration == position.actionGeneration

def activeOrderState (state : OrderLifecycleState) : Bool :=
  state == .accepted || state == .opened || state == .partiallyFilled || state == .cancelPending

def validOrderTransition (previous next : OrderLifecycleState) : Bool :=
  previous == next ||
    match previous with
    | .accepted =>
        next == .opened || next == .partiallyFilled || next == .cancelPending ||
          next == .cancelled || next == .filled || next == .rejected
    | .opened =>
        next == .partiallyFilled || next == .cancelPending || next == .cancelled ||
          next == .filled
    | .partiallyFilled => next == .cancelPending || next == .cancelled || next == .filled
    | .cancelPending => next == .cancelled || next == .partiallyFilled || next == .filled
    | _ => false

def sourceMask (source : FillSource) : UInt8 :=
  if source = .primary then kPrimarySourceMask else kDropCopySourceMask

namespace PortfolioRiskService

variable (s : PortfolioRiskService)

def findAccount (value : AccountId) : Option Nat :=
  s.configuration.accounts.findIdx? (· == value)

def findStrategy (value : StrategyId) : Option Nat :=
  s.configuration.strategies.findIdx? (· == value)

def findInstrument (value : InstrumentId) : Option Nat :=
  s.configuration.instruments.findIdx? (·.instrumentId == value)

/-- The scope of an order or a fill is configured. -/
def knowsScope (event : PortfolioEvent) : Bool :=
  (s.findAccount event.accountId).isSome && (s.findStrategy event.strategyId).isSome &&
    (s.findInstrument event.instrumentId).isSome

def findOrder (value : OrderId) : Option (Fin kMaximumPortfolioOrders) :=
  orderLayout.find s.orders value

def findFill (value : GlobalEventId) : Option (Fin kMaximumPortfolioFills) :=
  fillLayout.find s.fills value

def findPosition (accountId : AccountId) (strategyId : StrategyId) (instrumentId : InstrumentId) :
    Option (Fin kMaximumPortfolioPositions) :=
  (List.finRange kMaximumPortfolioPositions).find? fun index =>
    (s.positions index).isFor accountId strategyId instrumentId

def seenEvent (value : GlobalEventId) : Bool :=
  (idempotencyLayout.find s.idempotency value).isSome

def fillsOf (position : PositionSlot) : List FillEntry :=
  (((List.finRange kMaximumPortfolioFills).map s.fills).filter (·.countsFor position)).insertionSort
    fun left right => left.applicationOrdinal ≤ right.applicationOrdinal

def activeOrders : List OrderSlot :=
  ((List.finRange kMaximumPortfolioOrders).map s.orders).filter fun order =>
    order.occupied && activeOrderState order.state

def activeFills : List FillEntry :=
  ((List.finRange kMaximumPortfolioFills).map s.fills).filter fun fill =>
    fill.occupied && fill.active

def openPositions : List PositionSlot :=
  ((List.finRange kMaximumPortfolioPositions).map s.positions).filter (·.occupied)

def setUnsafe (code : InvariantCode) : PortfolioRiskService :=
  { s with
    health := .unsafeHealth
    invariant := code
    invariantFailureCount := s.invariantFailureCount + 1 }

def putPosition (index : Fin kMaximumPortfolioPositions) (position : PositionSlot) :
    PortfolioRiskService :=
  { s with positions := Function.update s.positions index position }

def putOrder (index : Fin kMaximumPortfolioOrders) (order : OrderSlot) : PortfolioRiskService :=
  { s with orders := Function.update s.orders index order }

def putFill (index : Fin kMaximumPortfolioFills) (fill : FillEntry) : PortfolioRiskService :=
  { s with fills := Function.update s.fills index fill }

def recordEvent (value : GlobalEventId) : Option PortfolioRiskService :=
  if s.seenEvent value then some s
  else
    (idempotencyLayout.findFree s.idempotency value).map fun index =>
      { s with idempotency := Function.update s.idempotency index ⟨value, true⟩ }

def findOrCreatePosition (accountId : AccountId) (strategyId : StrategyId)
    (instrumentId : InstrumentId) :
    Option (Fin kMaximumPortfolioPositions × PortfolioRiskService) :=
  match s.findPosition accountId strategyId instrumentId with
  | some index => some (index, s)
  | none => do
      let instrument ← s.findInstrument instrumentId
      let index ← (List.finRange kMaximumPortfolioPositions).find? fun index =>
        !(s.positions index).occupied
      some (index, s.putPosition index (openPosition accountId strategyId instrumentId
        (s.corporateActionGenerations instrument)))

/-- `rebuild_position`, where it succeeds. -/
def rebuildPosition (index : Fin kMaximumPortfolioPositions) : Option PortfolioRiskService :=
  (Portfolio.rebuildPosition s.configuration (s.positions index)
    ((s.fillsOf (s.positions index)).map (·.toFillSlot))).map (s.putPosition index)

def ready : Bool :=
  s.initialized && !s.stopped && s.health == .healthy && s.snapshot.ready

end PortfolioRiskService

end Aegis.Portfolio
