import Aegis.Foundation.MachineWords
import Aegis.Risk.Context
import Aegis.Risk.Limits

/-!
The exposure projection of the pre-trade risk engine (`risk/src/engine.cpp`): every symbol is
valued at both ends of the interval its pending orders can move it through.
-/

namespace Aegis.Risk

open Aegis.Common Aegis.Foundation

def checkedAdd (left right : UInt64) : Option UInt64 :=
  if (-1 : UInt64) - right < left then none else some (left + right)

def checkedMultiply (left right : UInt64) : Option UInt64 :=
  if left ≠ 0 ∧ (-1 : UInt64) / left < right then none else some (left * right)

def checkedAddSigned (left right : Int64) : Option Int64 :=
  if 0 < right ∧ Int64.maxValue - right < left ∨ right < 0 ∧ left < Int64.minValue - right then
    none
  else some (left + right)

def checkedSubtractSigned (left right : Int64) : Option Int64 :=
  if 0 < right ∧ left < Int64.minValue + right ∨ right < 0 ∧ Int64.maxValue + right < left then
    none
  else some (left - right)

def checkedMultiplySigned (left right : Int64) : Option Int64 :=
  if left = 0 ∨ right = 0 then some 0
  else if left = -1 ∧ right = Int64.minValue ∨ right = -1 ∧ left = Int64.minValue then none
  else if 0 < left then
    if 0 < right ∧ Int64.maxValue / right < left ∨ right < 0 ∧ right < Int64.minValue / left then
      none
    else some (left * right)
  else if 0 < right ∧ left < Int64.minValue / right ∨ right < 0 ∧ left < Int64.maxValue / right then
    none
  else some (left * right)

def magnitude (value : Int64) : UInt64 :=
  if 0 ≤ value then value.toUInt64 else (-(value + 1)).toUInt64 + 1

def divideFloor (value denominator : Int64) : Int64 :=
  if value % denominator < 0 then value / denominator - 1 else value / denominator

def divideCeiling (value denominator : Int64) : Int64 :=
  if 0 < value % denominator then value / denominator + 1 else value / denominator

def stale (observed now maximumAge : UInt64) : Bool :=
  observed == 0 || now < observed || maximumAge < now - observed

structure RuntimeSymbolState where
  netQuantityUnits : Int64 := 0
  pendingBuyQuantityUnits : UInt64 := 0
  pendingSellQuantityUnits : UInt64 := 0
  markPriceTicks : Int64 := 0
  asOfProcessMonotonicTimeNs : UInt64 := 0
  available : Bool := false
  deriving DecidableEq

/-- `ExposureProjection`, without the two flags. -/
structure ExposureProjection where
  gross : UInt64 := 0
  netLow : Int64 := 0
  netHigh : Int64 := 0
  sectorLow : Nat → Int64 := fun _ => 0
  sectorHigh : Nat → Int64 := fun _ => 0
  factorLow : Nat → Int64 := fun _ => 0
  factorHigh : Nat → Int64 := fun _ => 0
  requestedSymbolWorstPosition : UInt64 := 0
  requestedSymbolMayBeShort : Bool := false

inductive ProjectionFailure where
  | staleState | arithmeticFailure
  deriving DecidableEq

/-- The pending quantities, with the intent unless a cancel. -/
def projectedPending (state : RuntimeSymbolState) (intent : RiskIntent) (adds : Bool) :
    Option (UInt64 × UInt64) :=
  if kMaximumMonetaryNanos < state.pendingBuyQuantityUnits ∨
      kMaximumMonetaryNanos < state.pendingSellQuantityUnits then none
  else if adds then
    if intent.action = .buy then do
      let next ← checkedAdd state.pendingBuyQuantityUnits intent.quantityUnits
      if kMaximumMonetaryNanos < next then none else some (next, state.pendingSellQuantityUnits)
    else do
      let next ← checkedAdd state.pendingSellQuantityUnits intent.quantityUnits
      if kMaximumMonetaryNanos < next then none else some (state.pendingBuyQuantityUnits, next)
  else some (state.pendingBuyQuantityUnits, state.pendingSellQuantityUnits)

def endpointNotional (mark : Int64) (tickValue : UInt64) (endpoint : Int64) : Option Int64 := do
  let markedUnits ← checkedMultiply (magnitude endpoint) mark.toUInt64
  let markedNotional ← checkedMultiply markedUnits tickValue
  if kMaximumMonetaryNanos < markedNotional then none
  else some (if endpoint < 0 then -markedNotional.toInt64 else markedNotional.toInt64)

def addFactor (symbol : SymbolLimit) (lowNotional highNotional : Int64)
    (exposure : ExposureProjection) (factor : Nat) : Option ExposureProjection := do
  let beta := (symbol.beta factor).toInt64
  let lowProduct ← checkedMultiplySigned lowNotional beta
  let highProduct ← checkedMultiplySigned highNotional beta
  let factorLow := divideFloor (min lowProduct highProduct) kPartsPerMillion.toUInt64.toInt64
  let factorHigh := divideCeiling (max lowProduct highProduct) kPartsPerMillion.toUInt64.toInt64
  let low ← checkedAddSigned (exposure.factorLow factor) factorLow
  let high ← checkedAddSigned (exposure.factorHigh factor) factorHigh
  return { exposure with
    factorLow := Function.update exposure.factorLow factor low
    factorHigh := Function.update exposure.factorHigh factor high }

/-- What a symbol adds to the sums. -/
def addSymbol (factorCount : Nat) (symbol : SymbolLimit) (mark lowPosition highPosition : Int64)
    (worstPosition : UInt64) (exposure : ExposureProjection) : Option ExposureProjection := do
  let lowNotional ← endpointNotional mark symbol.tickValueCurrencyNanos lowPosition
  let highNotional ← endpointNotional mark symbol.tickValueCurrencyNanos highPosition
  let worstMarkedUnits ← checkedMultiply worstPosition mark.toUInt64
  let worstMarkedNotional ← checkedMultiply worstMarkedUnits symbol.tickValueCurrencyNanos
  let gross ← checkedAdd exposure.gross worstMarkedNotional
  let netLow ← checkedAddSigned exposure.netLow lowNotional
  let netHigh ← checkedAddSigned exposure.netHigh highNotional
  let sector := symbol.sectorIndex.toNat
  let sectorLow ← checkedAddSigned (exposure.sectorLow sector) lowNotional
  let sectorHigh ← checkedAddSigned (exposure.sectorHigh sector) highNotional
  (List.range factorCount).foldlM (addFactor symbol lowNotional highNotional)
    { exposure with
      gross, netLow, netHigh
      sectorLow := Function.update exposure.sectorLow sector sectorLow
      sectorHigh := Function.update exposure.sectorHigh sector sectorHigh }

def requestWorst (requested : Bool) (lowPosition : Int64) (worstPosition : UInt64)
    (exposure : ExposureProjection) : ExposureProjection :=
  if requested then
    { exposure with
      requestedSymbolWorstPosition := worstPosition
      requestedSymbolMayBeShort := decide (lowPosition < 0) }
  else exposure

/-- What a symbol whose state is current adds to the projection. -/
def projectCurrent (factorCount : Nat) (state : RuntimeSymbolState) (intent : RiskIntent)
    (requested : Bool) (symbol : SymbolLimit) (exposure : ExposureProjection) :
    Option ExposureProjection := do
  let (pendingBuy, pendingSell) ←
    projectedPending state intent (requested && intent.action ≠ .cancel)
  let lowPosition ← checkedSubtractSigned state.netQuantityUnits pendingSell.toInt64
  let highPosition ← checkedAddSigned state.netQuantityUnits pendingBuy.toInt64
  let worstPosition := max (magnitude lowPosition) (magnitude highPosition)
  addSymbol factorCount symbol state.markPriceTicks lowPosition highPosition worstPosition
    (requestWorst requested lowPosition worstPosition exposure)

/-- One turn of the loop over the symbols. -/
def projectSymbol (limits : RiskLimitSnapshot) (state : RuntimeSymbolState) (now : UInt64)
    (intent : RiskIntent) (requested : Bool) (symbol : SymbolLimit)
    (exposure : ExposureProjection) : Except ProjectionFailure ExposureProjection :=
  if !state.available || state.markPriceTicks ≤ 0 ||
      stale state.asOfProcessMonotonicTimeNs now limits.maximumPositionAgeNs then
    .error .staleState
  else
    match projectCurrent limits.factorCount state intent requested symbol exposure with
    | some exposure => .ok exposure
    | none => .error .arithmeticFailure

def projectFrom (limits : RiskLimitSnapshot) (states : Nat → RuntimeSymbolState) (now : UInt64)
    (intent : RiskIntent) (symbolIndex : Nat) :
    Nat → List SymbolLimit → ExposureProjection → Except ProjectionFailure ExposureProjection
  | _, [], exposure => .ok exposure
  | index, symbol :: rest, exposure =>
      match projectSymbol limits (states index) now intent (index == symbolIndex) symbol exposure with
      | .error failure => .error failure
      | .ok exposure => projectFrom limits states now intent symbolIndex (index + 1) rest exposure

def projectExposure (limits : RiskLimitSnapshot) (states : Nat → RuntimeSymbolState)
    (now : UInt64) (intent : RiskIntent) (symbolIndex : Nat) :
    Except ProjectionFailure ExposureProjection :=
  projectFrom limits states now intent symbolIndex 0 limits.symbols {}

end Aegis.Risk
