import Aegis.Portfolio.Service

/-!
What a completed `recompute_snapshot` has written.
-/

namespace Aegis.Portfolio

open Aegis.Common Aegis.Foundation

namespace PortfolioRiskService

theorem le_risenPeak (previous current : Int64) : previous ≤ risenPeak previous current := by
  unfold risenPeak
  split
  · next below => exact Int64.le_of_lt below
  · exact Int64.le_refl _

theorem settleStrategies_spec {peaks : Nat → Int64} {strategies settled : List StrategyExposure}
    {start : Nat} (fits : settleStrategies peaks start strategies = (true, settled)) :
    settled.map StrategyExposure.pnlCurrencyNanos =
        strategies.map StrategyExposure.pnlCurrencyNanos ∧
      settled.map StrategyExposure.strategyId = strategies.map StrategyExposure.strategyId ∧
      ∀ index strategy, settled[index]? = some strategy →
        peaks (start + index) ≤ strategy.peakPnlCurrencyNanos := by
  induction strategies generalizing start settled with
  | nil =>
    cases fits
    exact ⟨rfl, rfl, nofun⟩
  | cons head rest ih =>
    unfold settleStrategies at fits
    dsimp only at fits
    have raised := le_risenPeak (peaks start) head.pnlCurrencyNanos
    -- The head with its drawdown, or without one, in front of the settled rest.
    have assembled : ∃ tail head' : _, settleStrategies peaks (start + 1) rest = (true, tail) ∧
        settled = head' :: tail ∧ head'.pnlCurrencyNanos = head.pnlCurrencyNanos ∧
        head'.strategyId = head.strategyId ∧
        head'.peakPnlCurrencyNanos = risenPeak (peaks start) head.pnlCurrencyNanos := by
      split at fits
      · split at fits
        · cases fits
        · simp only [Prod.mk.injEq] at fits
          exact ⟨_, _, Prod.ext fits.1 rfl, fits.2.symm, rfl, rfl, rfl⟩
      · simp only [Prod.mk.injEq] at fits
        exact ⟨_, _, Prod.ext fits.1 rfl, fits.2.symm, rfl, rfl, rfl⟩
    obtain ⟨tail, head', restFits, rfl, pnl, identity, peak⟩ := assembled
    obtain ⟨kept, identities, above⟩ := ih restFits
    refine ⟨by rw [List.map_cons, List.map_cons, pnl, kept],
      by rw [List.map_cons, List.map_cons, identity, identities],
      fun index strategy atIndex => ?_⟩
    cases index with
    | zero =>
      cases atIndex
      rw [peak]
      exact raised
    | succ index =>
      have later := above index strategy atIndex
      rwa [add_assoc, add_comm 1 index] at later

def roster (output : PortfolioSnapshot) : List StrategyId :=
  output.strategies.map StrategyExposure.strategyId

structure Finalized (s : PortfolioRiskService) (before after : PortfolioSnapshot) : Prop where
  total : after.totalPnlCurrencyNanos.toInt =
    before.realizedPnlCurrencyNanos.toInt + before.unrealizedPnlCurrencyNanos.toInt
  realized : after.realizedPnlCurrencyNanos = before.realizedPnlCurrencyNanos
  unrealized : after.unrealizedPnlCurrencyNanos = before.unrealizedPnlCurrencyNanos
  instruments : after.instruments = before.instruments
  accounts : after.accounts = before.accounts
  strategies : after.strategies.map StrategyExposure.pnlCurrencyNanos =
    before.strategies.map StrategyExposure.pnlCurrencyNanos
  listed : roster after = roster before
  peak : s.snapshot.peakPnlCurrencyNanos ≤ after.peakPnlCurrencyNanos
  strategyPeaks : ∀ index strategy, after.strategies[index]? = some strategy →
    s.strategyPeaks index ≤ strategy.peakPnlCurrencyNanos
  verdict : (after.health, after.invariant, after.ready) = s.verdict before

variable {s : PortfolioRiskService} {before after : PortfolioSnapshot}

theorem finalizeSnapshot_spec (ran : s.finalizeSnapshot before = (.ok (), after)) :
    Finalized s before after := by
  simp only [finalizeSnapshot, Pipeline.bind_eq_ok_iff, Pipeline.update_eq_ok_iff,
    Pipeline.amend_eq_ok_iff, Option.map_eq_some_iff] at ran
  obtain ⟨_, _, rfl, _, _, ⟨sum, exactSum, rfl⟩, _, _, rfl, _, drawn, drawdown, _, settled,
    settling, _, _, rfl, rfl⟩ := ran
  have total : (before.realizedPnlCurrencyNanos + before.unrealizedPnlCurrencyNanos).toInt =
      before.realizedPnlCurrencyNanos.toInt + before.unrealizedPnlCurrencyNanos.toInt := by
    have fits := fits_toInt sum
    rw [exactAddSigned_eq_some_iff.mp exactSum] at fits
    exact fits.toInt_add
  simp only [settlePeaks, Prod.mk.injEq, ite_eq_left_iff, reduceCtorEq, imp_false,
    Bool.not_eq_true, Bool.not_eq_false] at settling
  obtain ⟨fits, rfl⟩ := settling
  have drawnEq : ∃ drawdown, drawn = { before with
      totalPnlCurrencyNanos := before.realizedPnlCurrencyNanos + before.unrealizedPnlCurrencyNanos
      peakPnlCurrencyNanos := risenPeak s.snapshot.peakPnlCurrencyNanos
        (before.realizedPnlCurrencyNanos + before.unrealizedPnlCurrencyNanos)
      drawdownCurrencyNanos := drawdown } := by
    split at drawdown
    · obtain ⟨fall, -, rfl⟩ := Option.map_eq_some_iff.mp drawdown
      exact ⟨_, rfl⟩
    · cases drawdown
      exact ⟨_, rfl⟩
  obtain ⟨_, rfl⟩ := drawnEq
  obtain ⟨pnl, listed, peaks⟩ := settleStrategies_spec (Prod.ext fits rfl)
  exact
    { total
      realized := rfl
      unrealized := rfl
      instruments := rfl
      accounts := rfl
      strategies := pnl
      listed
      peak := le_risenPeak _ _
      strategyPeaks := fun index strategy atIndex => by
        simpa using peaks index strategy atIndex
      verdict := rfl }

section Roster

open Pipeline

def SameRoster (before after : PortfolioSnapshot) : Prop :=
  roster after = roster before

instance : Std.Refl SameRoster := ⟨fun _ => rfl⟩

instance : IsTrans PortfolioSnapshot SameRoster :=
  ⟨fun _ _ _ first later => Eq.trans later first⟩

variable {Value : Type} {index instrument strategy account : Nat} {position : PositionSlot}
  {reference : InstrumentRiskReference} {absoluteNotional : UInt64} {signedNotional : Int64}

theorem sameRoster_amend {value : PortfolioSnapshot → Option Value}
    {write : PortfolioSnapshot → Value → PortfolioSnapshot}
    (kept : ∀ output sum, roster (write output sum) = roster output) : Within SameRoster
      (amend (fun output => (value output).map (write output)) () : SnapshotStep) := by
  refine within_amend fun output output' written => ?_
  obtain ⟨sum, -, rfl⟩ := Option.map_eq_some_iff.mp written
  exact kept output sum

theorem sameRoster_onInstrument {change : InstrumentExposure → Option InstrumentExposure} :
    Within SameRoster (onInstrument index change) :=
  sameRoster_amend (by intros; rfl)

theorem sameRoster_onAccount {change : AccountExposure → Option AccountExposure} :
    Within SameRoster (onAccount index change) :=
  sameRoster_amend (by intros; rfl)

theorem sameRoster_onSector {change : SectorExposure → Option SectorExposure} :
    Within SameRoster (onSector index change) :=
  sameRoster_amend (by intros; rfl)

theorem sameRoster_onStrategy {value : StrategyExposure → Option Value}
    {write : StrategyExposure → Value → StrategyExposure}
    (kept : ∀ entry sum, (write entry sum).strategyId = entry.strategyId) :
    Within SameRoster (onStrategy index fun entry => (value entry).map (write entry)) := by
  refine within_amend fun output output' changed => ?_
  obtain ⟨strategies, amended, rfl⟩ := Option.map_eq_some_iff.mp changed
  refine map_amendAt (fun entry entry' written => ?_) amended
  obtain ⟨sum, -, rfl⟩ := Option.map_eq_some_iff.mp written
  exact kept entry sum

theorem sameRoster_update {change : PortfolioSnapshot → PortfolioSnapshot}
    (kept : ∀ output, roster (change output) = roster output) :
    Within SameRoster (update change : SnapshotStep) :=
  within_update kept

theorem sameRoster_addExposures {sector : UInt32} : Within SameRoster
    (addExposures instrument strategy account sector absoluteNotional signedNotional) := by
  refine sameRoster_onInstrument.bind fun _ => sameRoster_onInstrument.bind fun _ => ?_
  refine (sameRoster_onStrategy (by intros; rfl)).bind fun _ => ?_
  refine (sameRoster_onStrategy (by intros; rfl)).bind fun _ => ?_
  refine sameRoster_onAccount.bind fun _ => sameRoster_onAccount.bind fun _ => ?_
  refine sameRoster_onSector.bind fun _ => sameRoster_onSector.bind fun _ => ?_
  exact (sameRoster_amend (by intros; rfl)).bind fun _ => sameRoster_amend (by intros; rfl)

theorem sameRoster_addWeightedExposures :
    Within SameRoster (addWeightedExposures reference absoluteNotional signedNotional) := by
  refine within_require.bind fun _ => within_require.bind fun _ => ?_
  refine within_require.bind fun _ => (sameRoster_amend (by intros; rfl)).bind fun _ => ?_
  exact (sameRoster_amend (by intros; rfl)).bind fun _ => sameRoster_amend (by intros; rfl)

theorem sameRoster_accumulateRealized :
    Within SameRoster (accumulateRealized position instrument reference) := by
  refine (sameRoster_update (by intro; rfl)).bind fun _ => within_require.bind fun _ => ?_
  refine (sameRoster_update (by intro; rfl)).bind fun _ => ?_
  refine sameRoster_onInstrument.bind fun _ => sameRoster_onInstrument.bind fun _ => ?_
  exact sameRoster_amend (by intros; rfl)

theorem sameRoster_accumulateUnrealized :
    Within SameRoster (s.accumulateUnrealized position instrument strategy account reference) := by
  refine within_require.bind fun _ => within_require.bind fun _ => ?_
  refine within_require.bind fun _ => sameRoster_onInstrument.bind fun _ => ?_
  refine (sameRoster_amend (by intros; rfl)).bind fun _ => ?_
  refine (sameRoster_update (by intro; rfl)).bind fun _ => ?_
  refine sameRoster_addExposures.bind fun _ => ?_
  refine sameRoster_addWeightedExposures.bind fun _ => within_require.bind fun _ => ?_
  exact (sameRoster_onStrategy (by intros; rfl)).bind fun _ => sameRoster_onAccount

theorem sameRoster_accumulatePosition (position : PositionSlot) :
    Within SameRoster (s.accumulatePosition position) := by
  refine within_require.bind fun instrument => within_require.bind fun strategy => ?_
  refine within_require.bind fun account => within_require.bind fun reference => ?_
  refine (within_amend fun output output' room => ?_).bind fun _ => ?_
  · split at room
    · cases room
    · cases room
      rfl
  refine sameRoster_accumulateRealized.bind fun _ => ?_
  split
  · exact within_pure
  split
  · exact within_pure
  · exact sameRoster_accumulateUnrealized

theorem sameRoster_accumulateOrder (order : OrderSlot) :
    Within SameRoster (s.accumulateOrder order) := by
  refine within_require.bind fun _ => (sameRoster_update (by intro; rfl)).bind fun _ => ?_
  exact sameRoster_onInstrument

theorem sameRoster_accumulateFills : Within SameRoster s.accumulateFills := by
  refine sameRoster_update fun output => ?_
  induction s.activeFills generalizing output with
  | nil => rfl
  | cons fill rest ih => exact ih (s.accumulateFill output fill)

end Roster

variable {context : SnapshotBuildContext} {output : PortfolioSnapshot}

theorem recomputeSnapshot_eq_ok
    (built : s.recomputeSnapshot context = (.ok (), output)) : ∃ ordered filled accumulated,
      s.accumulateOrders (s.initializeSnapshot context) = (.ok (), ordered) ∧
      s.accumulateFills ordered = (.ok (), filled) ∧
      s.accumulatePositions filled = (.ok (), accumulated) ∧
      Finalized s accumulated output := by
  unfold recomputeSnapshot at built
  generalize s.initializeSnapshot context = start at built ⊢
  simp only [Pipeline.bind_eq_ok_iff] at built
  obtain ⟨_, ordered, orders, _, filled, fills, _, accumulated, positions, final⟩ := built
  exact ⟨ordered, filled, accumulated, orders, fills, positions, finalizeSnapshot_spec final⟩

theorem roster_recomputeSnapshot (built : s.recomputeSnapshot context = (.ok (), output)) :
    roster output = s.configuration.strategies := by
  obtain ⟨ordered, filled, accumulated, orders, fills, positions, final⟩ :=
    recomputeSnapshot_eq_ok built
  unfold accumulatePositions at positions
  unfold accumulateOrders at orders
  have byPositions : roster accumulated = roster filled :=
    (Pipeline.Within.each sameRoster_accumulatePosition s.openPositions).moves positions
  have byFills : roster filled = roster ordered := sameRoster_accumulateFills.moves fills
  have byOrders : roster ordered = roster (s.initializeSnapshot context) :=
    (Pipeline.Within.each sameRoster_accumulateOrder s.activeOrders).moves orders
  rw [final.listed, byPositions, byFills, byOrders]
  simp [roster, initializeSnapshot, Function.comp_def]

end PortfolioRiskService

end Aegis.Portfolio
