import Aegis.Common.MarketState
import Aegis.Risk.Types

/-!
Risk contexts and evaluation requests (`aegis/risk/types.hpp`, `risk/src/types.cpp`).
-/

namespace Aegis.Risk

open Aegis.Common

inductive PolicyHookResult where
  | notRequired | allowed | denied | unavailable
  | unlisted (byte : UnlistedCode 1 4)
  deriving DecidableEq

def PolicyHookResult.code : PolicyHookResult → UInt8
  | .notRequired => 1
  | .allowed => 2
  | .denied => 3
  | .unavailable => 4
  | .unlisted byte => byte.raw

structure RiskContext where
  nowProcessMonotonicTimeNs : UInt64 := 0
  tradingMode : TradingMode := .simulation
  operatorAuthorized : Bool := false
  sessionAuthorized : Bool := false
  operatorAuthorizationValidUntilNs : UInt64 := 0
  authorityEpoch : UInt64 := 0
  processId : UInt64 := 0
  marketStateSnapshot : MarketState.Snapshot := {}
  officialTradingStatus : MarketState.OfficialTradingStatus := .unknown
  feedHealth : MarketState.FeedHealth := .unknown
  bookValidity : MarketState.BookValidity := .recovering
  clockQualitySnapshot : Time.ClockQualitySnapshot := {}
  feedBookObservedProcessMonotonicTimeNs : UInt64 := 0
  feedBookStateHash : UInt64 := 0
  referencePriceTicks : Int64 := 0
  shortSaleLocate : PolicyHookResult := .unavailable
  selfTradePrevention : PolicyHookResult := .unavailable
  stableHash : UInt64 := 0
  deriving DecidableEq

structure RiskEvaluationRequest where
  globalEventId : GlobalEventId := {}
  intent : RiskIntent := {}
  context : RiskContext := {}
  deriving DecidableEq

def stableRiskContextHash (context : RiskContext) : UInt64 := Id.run do
  let mut hash := kFnvOffset
  hash := mix hash context.nowProcessMonotonicTimeNs
  hash := mix hash context.tradingMode.code.toUInt64
  hash := mix hash (if context.operatorAuthorized then 1 else 0)
  hash := mix hash (if context.sessionAuthorized then 1 else 0)
  hash := mix hash context.operatorAuthorizationValidUntilNs
  hash := mix hash context.authorityEpoch
  hash := mix hash context.processId
  hash := mix hash context.marketStateSnapshot.stableHash
  hash := mix hash context.officialTradingStatus.code.toUInt64
  hash := mix hash context.feedHealth.code.toUInt64
  hash := mix hash context.bookValidity.code.toUInt64
  hash := mix hash context.clockQualitySnapshot.state.code.toUInt64
  hash := mix hash context.clockQualitySnapshot.operationMode.code.toUInt64
  hash := mix hash context.clockQualitySnapshot.observedAt
  hash := mixIdentifier hash context.clockQualitySnapshot.sourceId
  hash := mix hash context.feedBookObservedProcessMonotonicTimeNs
  hash := mix hash context.feedBookStateHash
  hash := mix hash context.referencePriceTicks.toUInt64
  hash := mix hash context.shortSaleLocate.code.toUInt64
  hash := mix hash context.selfTradePrevention.code.toUInt64
  return nonzeroHash hash

def validPolicyHookResult (result : PolicyHookResult) : Bool :=
  PolicyHookResult.notRequired.code ≤ result.code && result.code ≤ PolicyHookResult.unavailable.code

/-- `valid_risk_context`. -/
def validRiskContext (context : RiskContext) : Bool :=
  context.nowProcessMonotonicTimeNs != 0 && context.nowProcessMonotonicTimeNs.toNat < 2 ^ 64 - 1 &&
    validTradingMode context.tradingMode && context.authorityEpoch != 0 &&
    context.processId != 0 && context.marketStateSnapshot.valid &&
    MarketState.validMarketState context.marketStateSnapshot.state &&
    context.officialTradingStatus.code ≤ MarketState.OfficialTradingStatus.closed.code &&
    context.feedHealth.code ≤ MarketState.FeedHealth.invalid.code &&
    context.bookValidity.code ≤ MarketState.BookValidity.invalid.code &&
    context.clockQualitySnapshot.state.code ≤ Time.ClockQualityState.unsafeState.code &&
    context.clockQualitySnapshot.operationMode.code ≤ Time.ClockOperationMode.normal.code &&
    context.clockQualitySnapshot.observedAt != 0 && context.clockQualitySnapshot.sourceId.valid &&
    context.feedBookObservedProcessMonotonicTimeNs != 0 && context.feedBookStateHash != 0 &&
    0 < context.referencePriceTicks && validPolicyHookResult context.shortSaleLocate &&
    validPolicyHookResult context.selfTradePrevention && context.stableHash != 0 &&
    context.stableHash == stableRiskContextHash context

end Aegis.Risk
