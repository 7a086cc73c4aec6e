import Aegis.Portfolio.Snapshot
import Aegis.Portfolio.Types

/-!
The events of the portfolio service (`risk/src/portfolio_types.cpp`).
-/

namespace Aegis.Portfolio

open Aegis.Common

def Side.code : Side → UInt8
  | .buy => 1
  | .sell => 2
  | .unlisted byte => byte.raw

inductive OrderLifecycleState where
  | accepted | opened | partiallyFilled | cancelPending | cancelled | filled | rejected
  | unlisted (byte : UnlistedCode 1 7)
  deriving DecidableEq

def OrderLifecycleState.code : OrderLifecycleState → UInt8
  | .accepted => 1
  | .opened => 2
  | .partiallyFilled => 3
  | .cancelPending => 4
  | .cancelled => 5
  | .filled => 6
  | .rejected => 7
  | .unlisted byte => byte.raw

inductive FillSource where
  | primary | dropCopy
  | unlisted (byte : UnlistedCode 1 2)
  deriving DecidableEq

def FillSource.code : FillSource → UInt8
  | .primary => 1
  | .dropCopy => 2
  | .unlisted byte => byte.raw

inductive PortfolioEventKind where
  | order | fill | fillCorrection | fillBust | mark | sessionRollover | corporateAction
  | unlisted (byte : UnlistedCode 1 7)
  deriving DecidableEq

def PortfolioEventKind.code : PortfolioEventKind → UInt8
  | .order => 1
  | .fill => 2
  | .fillCorrection => 3
  | .fillBust => 4
  | .mark => 5
  | .sessionRollover => 6
  | .corporateAction => 7
  | .unlisted byte => byte.raw

inductive RolloverPolicy where
  | flatRequired | carryPositions
  | unlisted (byte : UnlistedCode 1 2)
  deriving DecidableEq

def RolloverPolicy.code : RolloverPolicy → UInt8
  | .flatRequired => 1
  | .carryPositions => 2
  | .unlisted byte => byte.raw

inductive CorporateActionKind where
  | split | reverseSplit
  | unlisted (byte : UnlistedCode 1 2)
  deriving DecidableEq

def CorporateActionKind.code : CorporateActionKind → UInt8
  | .split => 1
  | .reverseSplit => 2
  | .unlisted byte => byte.raw

inductive ApplyStatus where
  | applied | duplicate | reconciled | invalid | conflict | capacityExhausted
  | journalUnavailable | arithmeticOverflow | requiresReconciliation | busy | stopped
  deriving DecidableEq

structure PortfolioEvent where
  eventId : GlobalEventId := {}
  logicalFillId : GlobalEventId := {}
  targetFillId : GlobalEventId := {}
  sessionId : SessionId := {}
  nextSessionId : SessionId := {}
  configurationVersion : ConfigurationVersion := {}
  orderId : OrderId := {}
  accountId : AccountId := {}
  strategyId : StrategyId := {}
  venueId : VenueId := {}
  instrumentId : InstrumentId := {}
  kind : PortfolioEventKind := .order
  side : Side := .buy
  orderState : OrderLifecycleState := .accepted
  fillSource : FillSource := .primary
  rolloverPolicy : RolloverPolicy := .flatRequired
  corporateActionKind : CorporateActionKind := .split
  priceTicks : Int64 := 0
  quantityUnits : UInt64 := 0
  cumulativeFillQuantityUnits : UInt64 := 0
  remainingQuantityUnits : UInt64 := 0
  feeCurrencyNanos : Int64 := 0
  corporateActionNumerator : UInt64 := 0
  corporateActionDenominator : UInt64 := 0
  processMonotonicTimeNs : UInt64 := 0
  stableHash : UInt64 := 0
  deriving DecidableEq

structure ApplyResult where
  status : ApplyStatus := .invalid
  invariant : InvariantCode := .none
  journalSequence : UInt64 := 0
  snapshotSequence : UInt64 := 0
  snapshotHash : UInt64 := 0
  deriving DecidableEq

def stableEventHash (value : PortfolioEvent) : UInt64 := Id.run do
  let mut hash := kFnvOffset
  hash := mixIdentifier hash value.eventId
  hash := mixIdentifier hash value.logicalFillId
  hash := mixIdentifier hash value.targetFillId
  hash := mixIdentifier hash value.sessionId
  hash := mixIdentifier hash value.nextSessionId
  hash := mixIdentifier hash value.configurationVersion
  hash := mixIdentifier hash value.orderId
  hash := mixIdentifier hash value.accountId
  hash := mixIdentifier hash value.strategyId
  hash := mixIdentifier hash value.venueId
  hash := mixIdentifier hash value.instrumentId
  hash := mix hash value.kind.code.toUInt64
  hash := mix hash value.side.code.toUInt64
  hash := mix hash value.orderState.code.toUInt64
  hash := mix hash value.fillSource.code.toUInt64
  hash := mix hash value.rolloverPolicy.code.toUInt64
  hash := mix hash value.corporateActionKind.code.toUInt64
  hash := mix hash value.priceTicks.toUInt64
  hash := mix hash value.quantityUnits
  hash := mix hash value.cumulativeFillQuantityUnits
  hash := mix hash value.remainingQuantityUnits
  hash := mix hash value.feeCurrencyNanos.toUInt64
  hash := mix hash value.corporateActionNumerator
  hash := mix hash value.corporateActionDenominator
  hash := mix hash value.processMonotonicTimeNs
  return nonzeroHash hash

def validSide : Side → Bool
  | .unlisted .. => false
  | _ => true

def validOrderState : OrderLifecycleState → Bool
  | .unlisted .. => false
  | _ => true

def validFillSource : FillSource → Bool
  | .unlisted .. => false
  | _ => true

/-- The scope that orders, fills and corrections name. -/
def PortfolioEvent.validScope (value : PortfolioEvent) : Bool :=
  value.orderId.valid && value.accountId.valid && value.strategyId.valid && value.venueId.valid &&
    value.instrumentId.valid && validSide value.side && 0 < value.priceTicks &&
    0 < value.quantityUnits

/-- The checks of `valid_event` that depend on the kind of event. -/
def PortfolioEvent.validContent (value : PortfolioEvent) : Bool :=
  match value.kind with
  | .order =>
      value.validScope && validOrderState value.orderState &&
        value.cumulativeFillQuantityUnits ≤ value.quantityUnits &&
        value.remainingQuantityUnits ≤ value.quantityUnits &&
        value.cumulativeFillQuantityUnits + value.remainingQuantityUnits ≤ value.quantityUnits
  | .fill =>
      value.logicalFillId.valid && value.validScope && validFillSource value.fillSource &&
        value.quantityUnits ≤ Int64.maxValue.toUInt64
  | .fillCorrection =>
      value.targetFillId.valid && value.logicalFillId.valid && value.validScope &&
        value.quantityUnits ≤ Int64.maxValue.toUInt64
  | .fillBust => value.targetFillId.valid
  | .mark => value.instrumentId.valid && 0 < value.priceTicks
  | .sessionRollover =>
      value.nextSessionId.valid && value.nextSessionId != value.sessionId &&
        (value.rolloverPolicy == .flatRequired || value.rolloverPolicy == .carryPositions)
  | .corporateAction =>
      value.instrumentId.valid && 0 < value.corporateActionNumerator &&
        0 < value.corporateActionDenominator &&
        (value.corporateActionKind == .split || value.corporateActionKind == .reverseSplit)
  | .unlisted .. => false

def validEvent (value : PortfolioEvent) : Bool :=
  value.eventId.valid && value.sessionId.valid && value.configurationVersion.valid &&
    value.processMonotonicTimeNs != 0 && value.stableHash != 0 &&
    stableEventHash value == value.stableHash && value.validContent

end Aegis.Portfolio
