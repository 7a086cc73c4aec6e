import Aegis.Portfolio.Service

/-!
The builders of `risk/tests/portfolio_test_support.hpp`.
-/

namespace Aegis.Portfolio.TestSupport

open Aegis.Common

def kStart : UInt64 := 1000000

def finalize (value : PortfolioEvent) : PortfolioEvent :=
  { value with stableHash := stableEventHash value }

def service : PortfolioRiskService :=
  .construct oneInstrument true true

def envelope (ordinal : UInt64) : PortfolioEvent :=
  { sessionId := ⟨1, 1⟩
    configurationVersion := ⟨2, 1⟩
    processMonotonicTimeNs := kStart + ordinal }

def mark (ordinal : UInt64) (price : Int64 := 100) : PortfolioEvent :=
  finalize { envelope ordinal with
    eventId := ⟨10, ordinal⟩
    instrumentId := ⟨6, 1⟩
    kind := .mark
    priceTicks := price }

def order (ordinal : UInt64) (state : OrderLifecycleState := .opened)
    (cumulative : UInt64 := 0) (remaining : UInt64 := 100) : PortfolioEvent :=
  finalize { envelope ordinal with
    eventId := ⟨11, ordinal⟩
    orderId := ⟨7, 1⟩
    accountId := ⟨3, 1⟩
    strategyId := ⟨4, 1⟩
    venueId := ⟨5, 1⟩
    instrumentId := ⟨6, 1⟩
    kind := .order
    side := .buy
    orderState := state
    priceTicks := 100
    quantityUnits := 100
    cumulativeFillQuantityUnits := cumulative
    remainingQuantityUnits := remaining }

def fillOf (ordinal logical : UInt64) (side : Side) (price : Int64) (quantity : UInt64)
    (source : FillSource) : PortfolioEvent :=
  { envelope ordinal with
    eventId := ⟨12, ordinal⟩
    logicalFillId := ⟨13, logical⟩
    orderId := ⟨7, 1⟩
    accountId := ⟨3, 1⟩
    strategyId := ⟨4, 1⟩
    venueId := ⟨5, 1⟩
    instrumentId := ⟨6, 1⟩
    kind := .fill
    side
    fillSource := source
    priceTicks := price
    quantityUnits := quantity }

def fill (ordinal logical : UInt64) (side : Side := .buy) (price : Int64 := 100)
    (quantity : UInt64 := 10) (source : FillSource := .primary) : PortfolioEvent :=
  finalize (fillOf ordinal logical side price quantity source)

def correction (ordinal logical : UInt64) (price : Int64) (quantity : UInt64) : PortfolioEvent :=
  finalize { fillOf ordinal logical .buy price quantity .primary with
    kind := .fillCorrection
    targetFillId := ⟨13, logical⟩ }

def bust (ordinal logical : UInt64) : PortfolioEvent :=
  finalize { envelope ordinal with
    eventId := ⟨14, ordinal⟩
    targetFillId := ⟨13, logical⟩
    kind := .fillBust }

def calls (events : List PortfolioEvent) : List PortfolioRiskService.Call :=
  events.map fun event => { event }

end Aegis.Portfolio.TestSupport
