import Aegis.Common.Identifiers

/-!
Market state and clock quality (`aegis/market_state/controller.hpp`,
`aegis/time/clock_quality.hpp`), as far as a risk context carries them.
-/

namespace Aegis.MarketState

open Aegis.Common

def kMarketStateSchemaMajor : UInt16 := 1

def kMarketStateSchemaMinor : UInt16 := 0

def kMarketStateCount : UInt8 := 11

/-- `market_state::MarketState`. -/
inductive State where
  | startup | normal | scheduledEvent | breakingNews | eventPriceDiscovery | volatilitySpike
  | dataDegraded | halted | reopening | recovery | shutdown
  | unlisted (byte : UnlistedCode 0 10)
  deriving DecidableEq

def State.code : State → UInt8
  | .unlisted byte => byte.raw
  | listed => UInt8.ofNat listed.ctorIdx

/-- `market_state::MarketStateReason`. -/
inductive Reason where
  | startupInitialized | operatorShutdown | officialHalt | officialMarketClosed
  | officialStatusUnknown | clockUnknown | clockUnsafe | clockDegraded | feedUnknown
  | feedDegraded | feedStale | feedInvalid | bookInvalid | killSwitchEngaged | reopeningPreOpen
  | reopeningAuction | clockSyncing | feedRecovering | bookRecovering | operatorRecovery
  | safetyRecoveryRequired | eventCooldown | newsBreaking | eventPriceDiscovery
  | earningsScheduled | macroScheduled | earningsAndMacroScheduled | volatilityThreshold
  | spreadThreshold | depthThreshold | modelOodThreshold | modelDisagreementThreshold
  | normalConditionsStable | malformedInput | inputOrderingInvalid | scheduledReleaseOverdue
  | reopeningStabilizing | recoveryStabilizing | minimumDwellActive | forbiddenTransitionPrevented
  | unlisted (byte : UnlistedCode 0 39)
  deriving DecidableEq

def Reason.code : Reason → UInt8
  | .unlisted byte => byte.raw
  | listed => UInt8.ofNat listed.ctorIdx

inductive OfficialTradingStatus where
  | unknown | preOpen | opened | halted | auction | closed
  | unlisted (byte : UnlistedCode 0 5)
  deriving DecidableEq

def OfficialTradingStatus.code : OfficialTradingStatus → UInt8
  | .unlisted byte => byte.raw
  | listed => UInt8.ofNat listed.ctorIdx

inductive FeedHealth where
  | unknown | recovering | healthy | degraded | stale | invalid
  | unlisted (byte : UnlistedCode 0 5)
  deriving DecidableEq

def FeedHealth.code : FeedHealth → UInt8
  | .unlisted byte => byte.raw
  | listed => UInt8.ofNat listed.ctorIdx

inductive BookValidity where
  | recovering | valid | invalid
  | unlisted (byte : UnlistedCode 0 2)
  deriving DecidableEq

def BookValidity.code : BookValidity → UInt8
  | .unlisted byte => byte.raw
  | listed => UInt8.ofNat listed.ctorIdx

/-- `market_state::MarketStateSnapshot`. -/
structure Snapshot where
  schemaMajor : UInt16 := kMarketStateSchemaMajor
  schemaMinor : UInt16 := kMarketStateSchemaMinor
  state : State := .startup
  primaryReason : Reason := .startupInitialized
  reasonMask : UInt64 := 0
  inputSequence : UInt64 := 0
  transitionSequence : UInt64 := 0
  observedProcessMonotonicTimeNs : UInt64 := 0
  observedWallClockUtcNs : UInt64 := 0
  stateEnteredProcessMonotonicTimeNs : UInt64 := 0
  stableHash : UInt64 := 0
  deriving DecidableEq

def validMarketState (state : State) : Bool :=
  state.code ≤ State.shutdown.code

def reasonBit (reason : Reason) : UInt64 :=
  if reason.code ≤ Reason.forbiddenTransitionPrevented.code then
    (1 : UInt64) <<< reason.code.toUInt64
  else 0

/-- `stable_market_state_hash`. -/
def stableMarketStateHash (snapshot : Snapshot) : UInt64 :=
  [snapshot.schemaMajor.toUInt64 ||| (snapshot.schemaMinor.toUInt64 <<< 16),
    snapshot.state.code.toUInt64 ||| (snapshot.primaryReason.code.toUInt64 <<< 8),
    snapshot.reasonMask, snapshot.inputSequence, snapshot.transitionSequence,
    snapshot.observedProcessMonotonicTimeNs, snapshot.observedWallClockUtcNs,
    snapshot.stateEnteredProcessMonotonicTimeNs].foldl mix kFnvOffset

def Snapshot.valid (snapshot : Snapshot) : Bool :=
  snapshot.schemaMajor == kMarketStateSchemaMajor &&
    snapshot.schemaMinor == kMarketStateSchemaMinor && validMarketState snapshot.state &&
    reasonBit snapshot.primaryReason != 0 &&
    snapshot.reasonMask &&& reasonBit snapshot.primaryReason != 0 &&
    snapshot.observedProcessMonotonicTimeNs != 0 && snapshot.observedWallClockUtcNs != 0 &&
    snapshot.stateEnteredProcessMonotonicTimeNs != 0 && snapshot.stableHash != 0 &&
    snapshot.stableHash == stableMarketStateHash snapshot

end Aegis.MarketState

namespace Aegis.Time

open Aegis.Common

inductive ClockSourceIdTag

abbrev ClockSourceId := Identifier128 ClockSourceIdTag

inductive ClockQualityState where
  | unknown | syncing | healthy | degraded | unsafeState
  | unlisted (byte : UnlistedCode 0 4)
  deriving DecidableEq

def ClockQualityState.code : ClockQualityState → UInt8
  | .unlisted byte => byte.raw
  | listed => UInt8.ofNat listed.ctorIdx

inductive ClockOperationMode where
  | blocked | reduceOnly | normal
  | unlisted (byte : UnlistedCode 0 2)
  deriving DecidableEq

def ClockOperationMode.code : ClockOperationMode → UInt8
  | .unlisted byte => byte.raw
  | listed => UInt8.ofNat listed.ctorIdx

/-- `time::ClockQualitySnapshot`, as a risk context reads it. -/
structure ClockQualitySnapshot where
  state : ClockQualityState := .unknown
  operationMode : ClockOperationMode := .blocked
  observedAt : UInt64 := 0
  sourceId : ClockSourceId := {}
  deriving DecidableEq

end Aegis.Time
