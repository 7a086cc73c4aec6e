import Mathlib.Algebra.Order.BigOperators.Group.List
import Mathlib.Algebra.Order.Field.Basic
import Mathlib.Algebra.Order.Field.Rat
import Mathlib.Algebra.Order.Ring.Abs
import Mathlib.Tactic.Ring
import Aegis.Foundation.Runs
import Aegis.Risk.CheckedArithmetic
import Aegis.Risk.EngineLaws
import Aegis.Risk.TestSupport

/-!
The exposure projection against partial fills: an approval within the limits stays within them.
-/

namespace Aegis.Risk

open Aegis.Common Aegis.Foundation Function List
open Option (bind_eq_some_iff)

/-! ### Exposures of a book of positions -/

def markedValue (state : RuntimeSymbolState) (symbol : SymbolLimit) (position : Int) : Int :=
  position * state.markPriceTicks.toInt * symbol.tickValueCurrencyNanos.toNat

/-- The symbols with their position values, from a place on. -/
def markedBookFrom (states : Nat → RuntimeSymbolState) (positions : Nat → Int) (start : Nat)
    (symbols : List SymbolLimit) : List (SymbolLimit × Int) :=
  (symbols.zipIdx start).map fun (symbol, index) =>
    (symbol, markedValue (states index) symbol (positions index))

def grossExposure (book : List (SymbolLimit × Int)) : Int :=
  (book.map fun entry => |entry.2|).sum

def weightedExposure (weight : SymbolLimit → Int) (book : List (SymbolLimit × Int)) : Int :=
  (book.map fun entry => weight entry.1 * entry.2).sum

def netExposure (book : List (SymbolLimit × Int)) : Int :=
  weightedExposure (fun _ => 1) book

def sectorExposure (sector : Nat) (book : List (SymbolLimit × Int)) : Int :=
  weightedExposure (fun symbol => if symbol.sectorIndex.toNat = sector then 1 else 0) book

/-- The exposure to a factor: each value times its beta, exactly. -/
def factorExposure (factor : Nat) (book : List (SymbolLimit × Int)) : ℚ :=
  weightedExposure (fun symbol => (symbol.beta factor).toInt) book / 1000000

theorem weightedExposure_append (weight : SymbolLimit → Int)
    (first second : List (SymbolLimit × Int)) :
    weightedExposure weight (first ++ second) =
      weightedExposure weight first + weightedExposure weight second := by
  simp [weightedExposure]

@[simp]
theorem weightedExposure_singleton (weight : SymbolLimit → Int) (symbol : SymbolLimit)
    (value : Int) : weightedExposure weight [(symbol, value)] = weight symbol * value := by
  simp [weightedExposure]

theorem toInt_min (left right : Int64) : (min left right).toInt = min left.toInt right.toInt := by
  show (if left ≤ right then left else right).toInt = _
  simp only [Int64.le_iff_toInt_le, min_def]
  split <;> rfl

theorem toInt_max (left right : Int64) : (max left right).toInt = max left.toInt right.toInt := by
  show (if left ≤ right then right else left).toInt = _
  simp only [Int64.le_iff_toInt_le, max_def]
  split <;> rfl

theorem toNat_max (left right : UInt64) : (max left right).toNat = max left.toNat right.toNat := by
  show (if left ≤ right then right else left).toNat = _
  simp only [UInt64.le_iff_toNat_le, max_def]
  split <;> rfl

theorem toNat_lt_of_not_above {word : UInt64} (inside : ¬ kMaximumMonetaryNanos < word) :
    word.toNat < 2 ^ 63 := by
  rw [UInt64.not_lt, UInt64.le_iff_toNat_le] at inside
  have most : kMaximumMonetaryNanos.toNat = 2 ^ 63 - 1 := rfl
  omega

theorem toNat_marked {units marked value tickValue : UInt64} {mark : Int64}
    (positive : 0 < mark.toInt) (first : checkedMultiply units mark.toUInt64 = some marked)
    (second : checkedMultiply marked tickValue = some value) :
    (value.toNat : Int) = units.toNat * mark.toInt * tickValue.toNat := by
  rw [toNat_of_checkedMultiply second, toNat_of_checkedMultiply first]
  push_cast
  rw [toNat_toUInt64 positive.le]

theorem toInt_endpointNotional {mark endpoint notional : Int64} {tickValue : UInt64}
    (positive : 0 < mark.toInt) (valued : endpointNotional mark tickValue endpoint = some notional) :
    notional.toInt = endpoint.toInt * mark.toInt * tickValue.toNat := by
  obtain ⟨marked, first, rest⟩ := bind_eq_some_iff.mp valued
  obtain ⟨value, second, rest⟩ := bind_eq_some_iff.mp rest
  have exact := toNat_marked positive first second
  rw [toNat_magnitude] at exact
  split at rest
  · cases rest
  rename_i inside
  have read := toInt_toInt64 (toNat_lt_of_not_above inside)
  cases rest
  split
  · rename_i negative
    rw [Int64.lt_iff_toInt_lt, Int64.toInt_zero] at negative
    rw [abs_of_neg negative] at exact
    rw [toInt_neg_of_ne_min (by rw [read]; omega), read, exact]
    ring
  · rename_i nonneg
    rw [Int64.lt_iff_toInt_lt, Int64.toInt_zero, not_lt] at nonneg
    rw [read, exact, abs_of_nonneg nonneg]

section Symbol

variable {symbol : SymbolLimit} {factorCount : Nat} {exposure next : ExposureProjection}
  {value position : Int} {lowNotional highNotional : Int64} {book : List (SymbolLimit × Int)}
  {state : RuntimeSymbolState} {intent : RiskIntent} {limits : RiskLimitSnapshot} {now : UInt64}

theorem mul_between {low high : Int} (weight : Int) (above : low ≤ value) (below : value ≤ high) :
    min (low * weight) (high * weight) ≤ weight * value ∧
      weight * value ≤ max (low * weight) (high * weight) := by
  rcases le_total 0 weight with nonneg | nonpos
  · exact ⟨min_le_of_left_le (by nlinarith), le_max_of_le_right (by nlinarith)⟩
  · exact ⟨min_le_of_right_le (by nlinarith), le_max_of_le_left (by nlinarith)⟩

/-- What is the same after a turn of the loop over the factors. -/
structure SameTotals (exposure next : ExposureProjection) : Prop where
  gross : next.gross = exposure.gross
  netLow : next.netLow = exposure.netLow
  netHigh : next.netHigh = exposure.netHigh
  sectorLow : next.sectorLow = exposure.sectorLow
  sectorHigh : next.sectorHigh = exposure.sectorHigh
  worst : next.requestedSymbolWorstPosition = exposure.requestedSymbolWorstPosition

def FactorGrows (symbol : SymbolLimit) (value : Int) (exposure next : ExposureProjection)
    (factor : Nat) : Prop :=
  (next.factorLow factor).toInt * 1000000 ≤
      (exposure.factorLow factor).toInt * 1000000 + (symbol.beta factor).toInt * value ∧
    (exposure.factorHigh factor).toInt * 1000000 + (symbol.beta factor).toInt * value ≤
      (next.factorHigh factor).toInt * 1000000

theorem addFactor_spec {factor : Nat}
    (above : lowNotional.toInt ≤ value) (below : value ≤ highNotional.toInt)
    (added : addFactor symbol lowNotional highNotional exposure factor = some next) :
    FactorGrows symbol value exposure next factor ∧ SameTotals exposure next ∧
      ∀ other ≠ factor, next.factorLow other = exposure.factorLow other ∧
        next.factorHigh other = exposure.factorHigh other := by
  simp only [addFactor, Option.bind_eq_bind, bind_eq_some_iff] at added
  obtain ⟨lowProduct, lowExact, highProduct, highExact, low, lowSum, high, highSum, ⟨⟩⟩ := added
  refine ⟨?_, by constructor <;> rfl, fun other apart =>
    ⟨update_of_ne apart .., update_of_ne apart ..⟩⟩
  have million : kPartsPerMillion.toUInt64.toInt64.toInt = 1000000 := by decide
  have large : 1 < kPartsPerMillion.toUInt64.toInt64.toInt := by decide
  have floor := divideFloor_mul_le (min lowProduct highProduct) large
  have ceiling := le_divideCeiling_mul (max lowProduct highProduct) large
  have between := mul_between (symbol.beta factor).toInt above below
  rw [million, toInt_min, toInt_of_checkedMultiplySigned lowExact,
    toInt_of_checkedMultiplySigned highExact, Int32.toInt_toInt64] at floor
  rw [million, toInt_max, toInt_of_checkedMultiplySigned lowExact,
    toInt_of_checkedMultiplySigned highExact, Int32.toInt_toInt64] at ceiling
  unfold FactorGrows
  simp only [update_self, toInt_of_checkedAddSigned lowSum, toInt_of_checkedAddSigned highSum]
  constructor <;> linarith

theorem SameTotals.trans {last : ExposureProjection} (first : SameTotals exposure next)
    (second : SameTotals next last) : SameTotals exposure last :=
  ⟨second.gross.trans first.gross, second.netLow.trans first.netLow,
    second.netHigh.trans first.netHigh, second.sectorLow.trans first.sectorLow,
    second.sectorHigh.trans first.sectorHigh, second.worst.trans first.worst⟩

theorem addFactors_spec (above : lowNotional.toInt ≤ value) (below : value ≤ highNotional.toInt)
    {factors : List Nat} (once : factors.Nodup)
    (added : factors.foldlM (addFactor symbol lowNotional highNotional) exposure = some next) :
    (∀ factor ∈ factors, FactorGrows symbol value exposure next factor) ∧ SameTotals exposure next ∧
      ∀ factor ∉ factors, next.factorLow factor = exposure.factorLow factor ∧
        next.factorHigh factor = exposure.factorHigh factor := by
  induction factors generalizing exposure with
  | nil =>
    cases added
    exact ⟨nofun, by constructor <;> rfl, fun _ _ => ⟨rfl, rfl⟩⟩
  | cons factor rest ih =>
    obtain ⟨middle, first, others⟩ := bind_eq_some_iff.mp added
    obtain ⟨fresh, onceRest⟩ := nodup_cons.mp once
    obtain ⟨grows, same, apart⟩ := addFactor_spec above below first
    obtain ⟨growRest, sameRest, apartRest⟩ := ih onceRest others
    refine ⟨fun visited mem => ?_, same.trans sameRest, fun other absent => ?_⟩
    · rcases mem_cons.mp mem with rfl | later
      · -- The rest of the loop does not come back to the factor.
        obtain ⟨low, high⟩ := apartRest visited fresh
        simpa only [FactorGrows, low, high] using grows
      · obtain ⟨low, high⟩ := apart visited fun same => fresh (same ▸ later)
        simpa only [FactorGrows, low, high] using growRest visited later
    · obtain ⟨here, later⟩ := not_or.mp (mt mem_cons.mpr absent)
      obtain ⟨low, high⟩ := apart other here
      obtain ⟨lowRest, highRest⟩ := apartRest other later
      exact ⟨lowRest.trans low, highRest.trans high⟩

/-- The sums of a projection enclose the exposures of a book. -/
structure Encloses (factorCount : Nat) (exposure : ExposureProjection)
    (book : List (SymbolLimit × Int)) : Prop where
  gross : grossExposure book ≤ exposure.gross.toNat
  net : exposure.netLow.toInt ≤ netExposure book ∧ netExposure book ≤ exposure.netHigh.toInt
  sector : ∀ sector, (exposure.sectorLow sector).toInt ≤ sectorExposure sector book ∧
    sectorExposure sector book ≤ (exposure.sectorHigh sector).toInt
  factor : ∀ factor < factorCount, (exposure.factorLow factor).toInt * 1000000 ≤
        weightedExposure (fun symbol => (symbol.beta factor).toInt) book ∧
      weightedExposure (fun symbol => (symbol.beta factor).toInt) book ≤
        (exposure.factorHigh factor).toInt * 1000000

theorem addSymbol_spec {mark lowPosition highPosition : Int64} {worstPosition : UInt64}
    (positive : 0 < mark.toInt)
    (above : lowPosition.toInt ≤ position) (below : position ≤ highPosition.toInt)
    (worst : |position| ≤ worstPosition.toNat)
    (added : addSymbol factorCount symbol mark lowPosition highPosition worstPosition exposure =
      some next) (encloses : Encloses factorCount exposure book) : Encloses factorCount next
        (book ++ [(symbol, position * mark.toInt * symbol.tickValueCurrencyNanos.toNat)]) ∧
      next.requestedSymbolWorstPosition = exposure.requestedSymbolWorstPosition := by
  simp only [addSymbol, Option.bind_eq_bind, bind_eq_some_iff] at added
  obtain ⟨lowNotional, lowValued, highNotional, highValued, marked, markedExact, notional,
    notionalExact, gross, grossSum, netLow, netLowSum, netHigh, netHighSum, sectorLow, sectorLowSum,
    sectorHigh, sectorHighSum, factors⟩ := added
  have lowExact := toInt_endpointNotional positive lowValued
  have highExact := toInt_endpointNotional positive highValued
  have worstExact := toNat_marked positive markedExact notionalExact
  have tick : (0 : Int) ≤ symbol.tickValueCurrencyNanos.toNat := Int.natCast_nonneg _
  generalize symbol.tickValueCurrencyNanos.toNat = tickValue at *
  have scale : 0 ≤ mark.toInt * tickValue := mul_nonneg positive.le tick
  have valueAbove : lowNotional.toInt ≤ position * mark.toInt * tickValue := by
    rw [lowExact, mul_assoc, mul_assoc]
    exact mul_le_mul_of_nonneg_right above scale
  have valueBelow : position * mark.toInt * tickValue ≤ highNotional.toInt := by
    rw [highExact, mul_assoc, mul_assoc]
    exact mul_le_mul_of_nonneg_right below scale
  have valueWorst : |position * mark.toInt * tickValue| ≤ notional.toNat := by
    rw [worstExact, mul_assoc, mul_assoc, abs_mul, abs_of_nonneg scale]
    exact mul_le_mul_of_nonneg_right worst scale
  generalize position * mark.toInt * tickValue = value at *
  obtain ⟨grows, same, -⟩ := addFactors_spec valueAbove valueBelow nodup_range factors
  refine ⟨⟨?_, ?_, fun sector => ?_, fun factor inRange => ?_⟩, same.worst⟩
  · rw [same.gross, toNat_of_checkedAdd grossSum, grossExposure, map_append, sum_append]
    simp only [map_cons, map_nil, sum_singleton]
    exact add_le_add encloses.gross valueWorst
  · have before := encloses.net
    simp only [same.netLow, same.netHigh, netExposure, weightedExposure_append,
      weightedExposure_singleton, toInt_of_checkedAddSigned netLowSum,
      toInt_of_checkedAddSigned netHighSum] at before ⊢
    constructor <;> linarith
  · have before := encloses.sector sector
    simp only [same.sectorLow, same.sectorHigh, sectorExposure, weightedExposure_append,
      weightedExposure_singleton] at before ⊢
    by_cases here : symbol.sectorIndex.toNat = sector
    · subst sector
      simp only [update_self, if_true, toInt_of_checkedAddSigned sectorLowSum,
        toInt_of_checkedAddSigned sectorHighSum]
      constructor <;> linarith
    · simp only [update_of_ne (Ne.symm here), if_neg here, zero_mul, add_zero]
      exact before
  · have before := encloses.factor factor inRange
    obtain ⟨low, high⟩ := grows factor (mem_range.mpr inRange)
    rw [weightedExposure_append, weightedExposure_singleton]
    constructor <;> linarith

theorem projectedPending_small {adds : Bool}
    {buy sell : UInt64} (projected : projectedPending state intent adds = some (buy, sell)) :
    buy.toNat < 2 ^ 63 ∧ sell.toNat < 2 ^ 63 := by
  unfold projectedPending at projected
  split at projected
  · cases projected
  rename_i inside
  obtain ⟨buyInside, sellInside⟩ := not_or.mp inside
  split at projected
  · split at projected
    all_goals
      obtain ⟨sum, -, rest⟩ := bind_eq_some_iff.mp projected
      split at rest
      · cases rest
      rename_i sumInside
      cases rest
      exact ⟨toNat_lt_of_not_above (by assumption), toNat_lt_of_not_above (by assumption)⟩
  · cases projected
    exact ⟨toNat_lt_of_not_above buyInside, toNat_lt_of_not_above sellInside⟩

/-- A position that the projected pending quantities can lead to. -/
def CanReach (state : RuntimeSymbolState) (intent : RiskIntent) (requested : Bool)
    (position : Int) : Prop :=
  ∀ buy sell, projectedPending state intent (requested && intent.action ≠ .cancel) =
      some (buy, sell) →
    state.netQuantityUnits.toInt - sell.toNat ≤ position ∧
      position ≤ state.netQuantityUnits.toInt + buy.toNat

theorem projectSymbol_spec {requested : Bool} (reach : CanReach state intent requested position)
    (projected : projectSymbol limits state now intent requested symbol exposure = .ok next)
    (encloses : Encloses limits.factorCount exposure book) :
    Encloses limits.factorCount next (book ++ [(symbol, markedValue state symbol position)]) ∧
      if requested then |position| ≤ next.requestedSymbolWorstPosition.toNat
      else next.requestedSymbolWorstPosition = exposure.requestedSymbolWorstPosition := by
  unfold projectSymbol at projected
  split at projected
  · cases projected
  rename_i current
  simp only [Bool.or_eq_true, decide_eq_true_eq, not_or, Int64.le_iff_toInt_le, Int64.toInt_zero,
    not_le] at current
  split at projected
  · rename_i result
    cases projected
    obtain ⟨⟨buy, sell⟩, pending, rest⟩ := bind_eq_some_iff.mp result
    obtain ⟨low, lowExact, rest⟩ := bind_eq_some_iff.mp rest
    obtain ⟨high, highExact, added⟩ := bind_eq_some_iff.mp rest
    obtain ⟨above, below⟩ := reach buy sell pending
    obtain ⟨buySmall, sellSmall⟩ := projectedPending_small pending
    have lowValue := toInt_of_checkedSubtractSigned lowExact
    have highValue := toInt_of_checkedAddSigned highExact
    rw [toInt_toInt64 sellSmall] at lowValue
    rw [toInt_toInt64 buySmall] at highValue
    have worst : |position| ≤ (max (magnitude low) (magnitude high)).toNat := by
      rw [toNat_max, Nat.cast_max, toNat_magnitude, toNat_magnitude]
      exact abs_le_max_abs_abs (by omega) (by omega)
    have same : Encloses limits.factorCount (requestWorst requested low
        (max (magnitude low) (magnitude high)) exposure) book := by
      unfold requestWorst
      split
      · exact ⟨encloses.gross, encloses.net, encloses.sector, encloses.factor⟩
      · exact encloses
    obtain ⟨enclosed, kept⟩ := addSymbol_spec current.1.2 (by omega) (by omega) worst added same
    refine ⟨enclosed, ?_⟩
    rw [kept, requestWorst]
    split
    · exact worst
    · rfl
  · cases projected

theorem projectFrom_spec {states : Nat → RuntimeSymbolState} {symbolIndex start : Nat}
    {symbols : List SymbolLimit}
    {positions : Nat → Int} (reach : ∀ index < start + symbols.length,
      CanReach (states index) intent (index == symbolIndex) (positions index))
    (projected : projectFrom limits states now intent symbolIndex start symbols exposure = .ok next)
    (encloses : Encloses limits.factorCount exposure book) :
    Encloses limits.factorCount next (book ++ markedBookFrom states positions start symbols) ∧
      (symbolIndex < start → next.requestedSymbolWorstPosition =
        exposure.requestedSymbolWorstPosition) ∧
      (start ≤ symbolIndex → symbolIndex < start + symbols.length →
        |positions symbolIndex| ≤ next.requestedSymbolWorstPosition.toNat) := by
  induction symbols generalizing start exposure book with
  | nil =>
    cases projected
    exact ⟨by simpa [markedBookFrom] using encloses, fun _ => rfl, fun least most => by
      simp only [length_nil] at most; omega⟩
  | cons symbol rest ih =>
    unfold projectFrom at projected
    split at projected
    · cases projected
    rename_i middle turn
    rw [length_cons] at reach ⊢
    obtain ⟨enclosed, worst⟩ := projectSymbol_spec (reach start (by omega)) turn encloses
    obtain ⟨final, before, after⟩ := ih (fun index inside => reach index (by omega)) projected
      enclosed
    refine ⟨?_, fun earlier => ?_, fun least most => ?_⟩
    · simpa [markedBookFrom] using final
    · rw [if_neg (by simp; omega)] at worst
      exact (before (by omega)).trans worst
    · rcases Nat.lt_or_ge start symbolIndex with later | here
      · exact after later (by omega)
      obtain rfl : start = symbolIndex := by omega
      rw [if_pos (by simp)] at worst
      rw [before (by omega)]
      exact worst

end Symbol

/-! ### Partial fills after an approval -/

namespace Engine

/-- Executed amounts that the pending orders of an engine allow. -/
def Executable (e : Engine) (executedBuy executedSell : Nat → Nat) : Prop :=
  ∀ index < e.limits.symbols.length,
    executedBuy index ≤ (e.symbolState index).pendingBuyQuantityUnits.toNat ∧
      executedSell index ≤ (e.symbolState index).pendingSellQuantityUnits.toNat

def positionsAfter (e : Engine) (executedBuy executedSell : Nat → Nat) (index : Nat) : Int :=
  (e.symbolState index).netQuantityUnits.toInt + executedBuy index - executedSell index

def markedBook (e : Engine) (positions : Nat → Int) : List (SymbolLimit × Int) :=
  markedBookFrom e.symbolState positions 0 e.limits.symbols

/-- Positions that respect the limits in force. -/
structure PositionsWithinLimits (e : Engine) (symbolIndex : Nat) (positions : Nat → Int) :
    Prop where
  position : |positions symbolIndex| ≤ (e.symbolLimit symbolIndex).maximumAbsolutePositionUnits.toNat
  gross : grossExposure (e.markedBook positions) ≤ e.limits.maximumGrossExposureCurrencyNanos.toNat
  credit : grossExposure (e.markedBook positions) ≤ e.limits.creditCapitalLimitCurrencyNanos.toNat
  net : |netExposure (e.markedBook positions)| ≤
    e.limits.maximumAbsoluteNetExposureCurrencyNanos.toNat
  sector : ∀ sector limit, e.limits.maximumSectorExposureCurrencyNanos[sector]? = some limit →
    |sectorExposure sector (e.markedBook positions)| ≤ limit.toNat
  factor : ∀ factor limit, e.limits.maximumFactorExposureCurrencyNanos[factor]? = some limit →
    |factorExposure factor (e.markedBook positions)| ≤ limit.toNat

end Engine

section Approval

variable {e : Engine} {request : RiskEvaluationRequest}

theorem projectedPending_of_reserve {state next : RuntimeSymbolState} {intent : RiskIntent}
    {buy sell : UInt64} (projected : projectedPending state intent true = some (buy, sell))
    (reserved : state.reserve intent = some next) :
    next = { state with pendingBuyQuantityUnits := buy, pendingSellQuantityUnits := sell } := by
  unfold projectedPending at projected
  unfold RuntimeSymbolState.reserve at reserved
  split at projected
  · cases projected
  split at reserved
  all_goals
    simp only [if_true, if_false, *] at projected
    obtain ⟨sum, added, written⟩ := bind_eq_some_iff.mp reserved
    obtain ⟨sum', added', rest⟩ := bind_eq_some_iff.mp projected
    rw [added] at added'
    cases added'
    split at rest
    · cases rest
    · cases rest
      cases written
      rfl

theorem abs_le_of_worstMagnitude {low high : Int64} {value : Int} {limit : UInt64}
    (bounded : worstMagnitude low high ≤ limit) (above : low.toInt ≤ value)
    (below : value ≤ high.toInt) : |value| ≤ limit.toNat := by
  rw [worstMagnitude, UInt64.le_iff_toNat_le, toNat_max] at bounded
  have ends := toNat_magnitude low
  have ends' := toNat_magnitude high
  calc |value| ≤ max |low.toInt| |high.toInt| := abs_le_max_abs_abs above below
    _ ≤ limit.toNat := by rw [← ends, ← ends']; exact_mod_cast bounded

theorem abs_factorExposure_le {low high : Int64} {factor : Nat} {limit : UInt64}
    {book : List (SymbolLimit × Int)} (bounded : worstMagnitude low high ≤ limit)
    (enclosed : low.toInt * 1000000 ≤
        weightedExposure (fun symbol => (symbol.beta factor).toInt) book ∧
      weightedExposure (fun symbol => (symbol.beta factor).toInt) book ≤ high.toInt * 1000000) :
    |factorExposure factor book| ≤ limit.toNat := by
  unfold factorExposure
  generalize weightedExposure (fun symbol => (symbol.beta factor).toInt) book = total at *
  rw [worstMagnitude, UInt64.le_iff_toNat_le, toNat_max, max_le_iff, ← Int.ofNat_le,
    toNat_magnitude, ← Int.ofNat_le, toNat_magnitude, abs_le, abs_le] at bounded
  have scaled : |total| ≤ limit.toNat * 1000000 := abs_le.mpr ⟨by linarith, by linarith⟩
  rw [abs_div, abs_of_pos (by norm_num : (0 : ℚ) < 1000000), div_le_iff₀ (by norm_num)]
  exact_mod_cast scaled

theorem canReach_of_reserves {symbolIndex : Nat} {next : Engine}
    {executedBuy executedSell : Nat → Nat}
    (order : request.isCancel = false) (reserves : e.Reserves request symbolIndex next)
    {index : Nat}
    (buys : executedBuy index ≤ (next.symbolState index).pendingBuyQuantityUnits.toNat)
    (sells : executedSell index ≤ (next.symbolState index).pendingSellQuantityUnits.toNat) :
    (next.symbolState index).markPriceTicks = (e.symbolState index).markPriceTicks ∧
      CanReach (e.symbolState index) request.intent (index == symbolIndex)
        (next.positionsAfter executedBuy executedSell index) := by
  obtain ⟨cancel, -⟩ | ⟨-, state, reserved, symbols⟩ := reserves
  · rw [order] at cancel
    cases cancel
  have adds : decide (request.intent.action ≠ .cancel) = true := by
    simpa [RiskEvaluationRequest.isCancel] using order
  rw [symbols] at buys sells
  simp only [Engine.positionsAfter, CanReach, symbols, adds, Bool.and_true]
  by_cases here : index = symbolIndex
  · subst index
    rw [update_self] at buys sells ⊢
    constructor
    · unfold RuntimeSymbolState.reserve at reserved
      split at reserved
      all_goals
        obtain ⟨sum, -, written⟩ := bind_eq_some_iff.mp reserved
        cases written
        rfl
    · intro buy sell projected
      rw [beq_self_eq_true] at projected
      rw [projectedPending_of_reserve projected reserved] at buys sells ⊢
      dsimp only at buys sells ⊢
      omega
  · rw [update_of_ne here] at buys sells ⊢
    refine ⟨rfl, fun buy sell projected => ?_⟩
    rw [beq_eq_false_iff_ne.mpr here] at projected
    unfold projectedPending at projected
    split at projected
    · cases projected
    · cases projected
      omega

theorem markedBookFrom_congr {states states' : Nat → RuntimeSymbolState} {positions : Nat → Int}
    {start : Nat} {symbols : List SymbolLimit} (marks : ∀ index < start + symbols.length,
      (states' index).markPriceTicks = (states index).markPriceTicks) :
    markedBookFrom states' positions start symbols =
      markedBookFrom states positions start symbols := by
  refine map_congr_left fun entry member => ?_
  have inside := (mem_zipIdx member).2.1
  simp only [markedValue, marks entry.2 inside]

theorem encloses_nil (factorCount : Nat) : Encloses factorCount {} [] := by
  constructor <;> simp [grossExposure, netExposure, sectorExposure, weightedExposure]

/-- Whatever part of the pending orders executes after an approval, the resulting positions respect
every limit. -/
theorem approval_sound (approves : e.Approves request)
    (order : request.intent.action = .buy ∨ request.intent.action = .sell)
    {symbolIndex : Nat} (found : e.findSymbol request.intent.instrumentId = some symbolIndex)
    {executedBuy executedSell : Nat → Nat}
    (executable : (e.evaluate request).1.Executable executedBuy executedSell) :
    (e.evaluate request).1.PositionsWithinLimits symbolIndex
      ((e.evaluate request).1.positionsAfter executedBuy executedSell) := by
  have notCancel : request.isCancel = false := by
    unfold RiskEvaluationRequest.isCancel
    rcases order with action | action <;> rw [action] <;> rfl
  obtain ⟨same, ⟨-, place, facts, -, reserves⟩ | ⟨refuses, -⟩⟩ := e.evaluate_cases request
  · obtain rfl : place = symbolIndex := Option.some.inj (facts.symbol.symm.trans found)
    obtain ⟨exposure, projected, limits⟩ := facts.exposure
    generalize (e.evaluate request).1 = next at *
    unfold Engine.Executable at executable
    rw [same.limits] at executable
    have inside : place < e.limits.symbols.length :=
      (List.findIdx?_eq_some_iff_getElem.mp found).1
    have reach index (below : index < e.limits.symbols.length) :=
      canReach_of_reserves notCancel reserves (executable index below).1 (executable index below).2
    obtain ⟨encloses, -, worst⟩ := projectFrom_spec
      (fun index below => (reach index (by simpa using below)).2) projected (encloses_nil _)
    have book : next.markedBook (next.positionsAfter executedBuy executedSell) =
        markedBookFrom e.symbolState (next.positionsAfter executedBuy executedSell) 0
          e.limits.symbols := by
      rw [Engine.markedBook, same.limits]
      exact markedBookFrom_congr fun index below => (reach index (by simpa using below)).1
    rw [List.nil_append, ← book] at encloses
    have gross := encloses.gross
    refine ⟨?_, ?_, ?_, ?_, fun sector limit set => ?_, fun factor limit set => ?_⟩
    · have bounded := UInt64.le_iff_toNat_le.mp (limits.position notCancel)
      simp only [Engine.symbolLimit, same.limits] at bounded ⊢
      omega
    · have bounded := UInt64.le_iff_toNat_le.mp limits.gross
      rw [same.limits]
      omega
    · have bounded := UInt64.le_iff_toNat_le.mp limits.credit
      rw [same.limits]
      omega
    · rw [same.limits]
      exact abs_le_of_worstMagnitude limits.net encloses.net.1 encloses.net.2
    · rw [same.limits] at set
      obtain ⟨above, below⟩ := encloses.sector sector
      exact abs_le_of_worstMagnitude (limits.sector sector limit set) above below
    · rw [same.limits] at set
      have counted : factor < e.limits.factorCount := (List.getElem?_eq_some_iff.mp set).1
      exact abs_factorExposure_le (limits.factor factor limit set) (encloses.factor factor counted)
  · exact absurd approves refuses

end Approval

def pendingEngine : Engine :=
  run Engine.step (Engine.construct TestSupport.limits)
    (TestSupport.initializeState ++ [.evaluate (TestSupport.request 1)])

/-- Of twenty units pending, seven execute. -/
theorem approval_sound_of_seven : pendingEngine.Approves (TestSupport.request 2) ∧
      (pendingEngine.evaluate (TestSupport.request 2)).1.PositionsWithinLimits 0
        ((pendingEngine.evaluate (TestSupport.request 2)).1.positionsAfter (fun _ => 7)
          fun _ => 0) :=
  have facts : pendingEngine.Approves (TestSupport.request 2) ∧
      (TestSupport.request 2).intent.action = .buy ∧
      pendingEngine.findSymbol (TestSupport.request 2).intent.instrumentId = some 0 ∧
      ∀ index < (pendingEngine.evaluate (TestSupport.request 2)).1.limits.symbols.length,
        7 ≤ ((pendingEngine.evaluate
            (TestSupport.request 2)).1.symbolState index).pendingBuyQuantityUnits.toNat ∧
          0 ≤ ((pendingEngine.evaluate
            (TestSupport.request 2)).1.symbolState index).pendingSellQuantityUnits.toNat := by
    decide +kernel
  ⟨facts.1, approval_sound facts.1 (.inl facts.2.1) facts.2.2.1 facts.2.2.2⟩

end Aegis.Risk
