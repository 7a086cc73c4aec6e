import Aegis.Portfolio.SnapshotLaws
import Aegis.Portfolio.TestSupport

/-!
How the profit of the positions rolls up: what flat positions have realized is in the totals and
not in the strategies.
-/

namespace Aegis.Portfolio

open Aegis.Common Aegis.Foundation PortfolioRiskService Pipeline List
open Option (map_eq_some_iff)

def strategyPnl (output : PortfolioSnapshot) : Int :=
  (output.strategies.map fun entry => entry.pnlCurrencyNanos.toInt).sum

def accountPnl (output : PortfolioSnapshot) : Int :=
  (output.accounts.map fun entry => entry.pnlCurrencyNanos.toInt).sum

def instrumentPnl (output : PortfolioSnapshot) : Int :=
  (output.instruments.map fun entry =>
    entry.realizedPnlCurrencyNanos.toInt + entry.unrealizedPnlCurrencyNanos.toInt).sum

@[ext] structure PnlSums where
  strategies : Int
  accounts : Int
  instruments : Int
  booked : Int

def pnlSums (output : PortfolioSnapshot) : PnlSums :=
  ⟨strategyPnl output, accountPnl output, instrumentPnl output,
    output.realizedPnlCurrencyNanos.toInt + output.unrealizedPnlCurrencyNanos.toInt⟩

def Neutral (before after : PortfolioSnapshot) : Prop :=
  pnlSums after = pnlSums before

instance : Std.Refl Neutral := ⟨fun _ => rfl⟩

instance : IsTrans PortfolioSnapshot Neutral :=
  ⟨fun _ _ _ first later => Eq.trans later first⟩

section Steps

variable (shift : Int) {index : Nat} {output output' : PortfolioSnapshot}

theorem pnlSums_onInstrument {change : InstrumentExposure → Option InstrumentExposure}
    (shifted : ∀ entry entry', change entry = some entry' →
      entry'.realizedPnlCurrencyNanos.toInt + entry'.unrealizedPnlCurrencyNanos.toInt =
        entry.realizedPnlCurrencyNanos.toInt + entry.unrealizedPnlCurrencyNanos.toInt + shift)
    (ran : onInstrument index change output = (.ok (), output')) : pnlSums output' =
      { pnlSums output with instruments := (pnlSums output).instruments + shift } := by
  simp only [onInstrument, amend_eq_ok_iff, map_eq_some_iff] at ran
  obtain ⟨instruments, amended, rfl⟩ := ran
  unfold pnlSums
  congr 1
  exact sum_map_amendAt shifted amended

theorem pnlSums_onStrategy {change : StrategyExposure → Option StrategyExposure}
    (shifted : ∀ entry entry', change entry = some entry' →
      entry'.pnlCurrencyNanos.toInt = entry.pnlCurrencyNanos.toInt + shift)
    (ran : onStrategy index change output = (.ok (), output')) : pnlSums output' =
      { pnlSums output with strategies := (pnlSums output).strategies + shift } := by
  simp only [onStrategy, amend_eq_ok_iff, map_eq_some_iff] at ran
  obtain ⟨strategies, amended, rfl⟩ := ran
  unfold pnlSums
  congr 1
  exact sum_map_amendAt shifted amended

theorem pnlSums_onAccount {change : AccountExposure → Option AccountExposure}
    (shifted : ∀ entry entry', change entry = some entry' →
      entry'.pnlCurrencyNanos.toInt = entry.pnlCurrencyNanos.toInt + shift)
    (ran : onAccount index change output = (.ok (), output')) : pnlSums output' =
      { pnlSums output with accounts := (pnlSums output).accounts + shift } := by
  simp only [onAccount, amend_eq_ok_iff, map_eq_some_iff] at ran
  obtain ⟨accounts, amended, rfl⟩ := ran
  unfold pnlSums
  congr 1
  exact sum_map_amendAt shifted amended

end Steps

/-! ### Steps that leave the sums alone -/

section NeutralSteps

variable {Value : Type} {index : Nat}

theorem neutral_onInstrument {value : InstrumentExposure → Option Value}
    {write : InstrumentExposure → Value → InstrumentExposure} (kept : ∀ entry sum,
      (write entry sum).realizedPnlCurrencyNanos = entry.realizedPnlCurrencyNanos ∧
      (write entry sum).unrealizedPnlCurrencyNanos = entry.unrealizedPnlCurrencyNanos) :
    Within Neutral (onInstrument index fun entry => (value entry).map (write entry)) := by
  refine within_amend fun output output' changed => ?_
  refine (pnlSums_onInstrument 0 ?_ (amend_eq_ok_iff.mpr changed)).trans ?_
  · intro entry entry' written
    obtain ⟨sum, -, rfl⟩ := map_eq_some_iff.mp written
    rw [(kept entry sum).1, (kept entry sum).2, add_zero]
  · rw [add_zero]

theorem neutral_onStrategy {value : StrategyExposure → Option Value}
    {write : StrategyExposure → Value → StrategyExposure}
    (kept : ∀ entry sum, (write entry sum).pnlCurrencyNanos = entry.pnlCurrencyNanos) :
    Within Neutral (onStrategy index fun entry => (value entry).map (write entry)) := by
  refine within_amend fun output output' changed => ?_
  refine (pnlSums_onStrategy 0 ?_ (amend_eq_ok_iff.mpr changed)).trans ?_
  · intro entry entry' written
    obtain ⟨sum, -, rfl⟩ := map_eq_some_iff.mp written
    rw [kept, add_zero]
  · rw [add_zero]

theorem neutral_onAccount {value : AccountExposure → Option Value}
    {write : AccountExposure → Value → AccountExposure}
    (kept : ∀ entry sum, (write entry sum).pnlCurrencyNanos = entry.pnlCurrencyNanos) :
    Within Neutral (onAccount index fun entry => (value entry).map (write entry)) := by
  refine within_amend fun output output' changed => ?_
  refine (pnlSums_onAccount 0 ?_ (amend_eq_ok_iff.mpr changed)).trans ?_
  · intro entry entry' written
    obtain ⟨sum, -, rfl⟩ := map_eq_some_iff.mp written
    rw [kept, add_zero]
  · rw [add_zero]

theorem neutral_amend {value : PortfolioSnapshot → Option Value}
    {write : PortfolioSnapshot → Value → PortfolioSnapshot}
    (kept : ∀ output sum, pnlSums (write output sum) = pnlSums output) :
    Within Neutral (amend (fun output => (value output).map (write output)) () : SnapshotStep) := by
  refine within_amend fun output output' written => ?_
  obtain ⟨sum, -, rfl⟩ := map_eq_some_iff.mp written
  exact kept output sum

theorem neutral_addExposures {instrument strategy account : Nat} {sector : UInt32}
    {absoluteNotional : UInt64} {signedNotional : Int64} :
    Within Neutral (addExposures instrument strategy account sector absoluteNotional
      signedNotional) := by
  refine (neutral_onInstrument (by intros; exact ⟨rfl, rfl⟩)).bind fun _ => ?_
  refine (neutral_onInstrument (by intros; exact ⟨rfl, rfl⟩)).bind fun _ => ?_
  refine (neutral_onStrategy (by intros; rfl)).bind fun _ => ?_
  refine (neutral_onStrategy (by intros; rfl)).bind fun _ => ?_
  refine (neutral_onAccount (by intros; rfl)).bind fun _ => ?_
  refine (neutral_onAccount (by intros; rfl)).bind fun _ => ?_
  -- A sector has no profit.
  refine (neutral_amend (by intros; rfl)).bind fun _ => ?_
  refine (neutral_amend (by intros; rfl)).bind fun _ => ?_
  exact (neutral_amend (by intros; rfl)).bind fun _ => neutral_amend (by intros; rfl)

theorem neutral_addWeightedExposures {reference : InstrumentRiskReference}
    {absoluteNotional : UInt64} {signedNotional : Int64} :
    Within Neutral (addWeightedExposures reference absoluteNotional signedNotional) := by
  refine within_require.bind fun beta => within_require.bind fun liquidity => ?_
  refine within_require.bind fun eventExposure => ?_
  refine (neutral_amend (by intros; rfl)).bind fun _ => ?_
  exact (neutral_amend (by intros; rfl)).bind fun _ => neutral_amend (by intros; rfl)

theorem neutral_onLastPosition {change : PositionExposure → PositionExposure} :
    Within Neutral (onLastPosition change) :=
  within_update fun _ => rfl

end NeutralSteps

section OnePosition

variable {s : PortfolioRiskService} {position : PositionSlot} {instrument strategy account : Nat}
  {reference : InstrumentRiskReference} {output output' : PortfolioSnapshot}

theorem exactly_added {entry sum value : Int64} (added : exactAddSigned entry value = some sum)
    (other : Int) : sum.toInt + other = entry.toInt + other + value.toInt := by
  rw [exactAddSigned_eq_some_iff] at added
  omega

theorem pnlSums_accumulateRealized (ran : accumulateRealized position instrument reference output =
      (.ok (), output')) : pnlSums output' = { pnlSums output with
      instruments := (pnlSums output).instruments + position.realizedPnlCurrencyNanos.toInt
      booked := (pnlSums output).booked + position.realizedPnlCurrencyNanos.toInt } := by
  simp only [accumulateRealized, bind_eq_ok_iff, update_eq_ok_iff, require_eq_ok_iff] at ran
  obtain ⟨_, _, rfl, average, _, ⟨-, rfl⟩, _, priced, price, _, netted, net, _, realized, addition,
    booking⟩ := ran
  have price := neutral_onLastPosition.moves price
  have kept : pnlSums netted = pnlSums output :=
    ((neutral_onInstrument (by intros; exact ⟨rfl, rfl⟩)).moves net).trans price
  have added := pnlSums_onInstrument position.realizedPnlCurrencyNanos.toInt (by
      intro entry entry' written
      obtain ⟨sum, exactSum, rfl⟩ := map_eq_some_iff.mp written
      exact exactly_added exactSum _) addition
  rw [kept] at added
  rw [amend_eq_ok_iff, map_eq_some_iff] at booking
  obtain ⟨total, exactTotal, rfl⟩ := booking
  have booked := congrArg PnlSums.booked added
  calc pnlSums { realized with realizedPnlCurrencyNanos := total }
      = { pnlSums realized with
          booked := total.toInt + realized.unrealizedPnlCurrencyNanos.toInt } := rfl
    _ = _ := by
        rw [exactly_added exactTotal, added]
        exact congrArg (PnlSums.mk _ _ _) (congrArg (· + _) booked)

/-- What a held position with a mark adds. -/
theorem pnlSums_accumulateUnrealized
    (ran : s.accumulateUnrealized position instrument strategy account reference output =
      (.ok (), output')) : ∃ unrealized : Int, pnlSums output' = {
      strategies := (pnlSums output).strategies +
        (position.realizedPnlCurrencyNanos.toInt + unrealized)
      accounts := (pnlSums output).accounts + (position.realizedPnlCurrencyNanos.toInt + unrealized)
      instruments := (pnlSums output).instruments + unrealized
      booked := (pnlSums output).booked + unrealized } := by
  simp only [accumulateUnrealized, bind_eq_ok_iff, require_eq_ok_iff] at ran
  obtain ⟨absoluteQuantity, _, ⟨-, rfl⟩, absoluteNotional, _, ⟨-, rfl⟩, unrealized, _, ⟨-, rfl⟩, _,
    marked, marking, _, totalled, booking, _, listed, listing, _, exposed, exposures, _, weighted,
    weights, positionPnl, _, ⟨pnlValue, rfl⟩, _, booked, strategyAdded, accountAdded⟩ := ran
  rw [exactAddSigned_eq_some_iff] at pnlValue
  refine ⟨unrealized.toInt, ?_⟩
  have instrumentSums := pnlSums_onInstrument unrealized.toInt (by
      intro entry entry' written
      obtain ⟨sum, exactSum, rfl⟩ := map_eq_some_iff.mp written
      have exactSum := exactly_added exactSum entry.realizedPnlCurrencyNanos.toInt
      dsimp only
      omega) marking
  rw [amend_eq_ok_iff, map_eq_some_iff] at booking
  obtain ⟨total, exactTotal, rfl⟩ := booking
  have kept : pnlSums weighted = pnlSums { marked with unrealizedPnlCurrencyNanos := total } :=
    (neutral_addWeightedExposures.moves weights).trans ((neutral_addExposures.moves exposures).trans
        (neutral_onLastPosition.moves listing))
  have strategySums := pnlSums_onStrategy positionPnl.toInt (by
      intro entry entry' written
      obtain ⟨sum, exactSum, rfl⟩ := map_eq_some_iff.mp written
      exact exactAddSigned_eq_some_iff.mp exactSum) strategyAdded
  have accountSums := pnlSums_onAccount positionPnl.toInt (by
      intro entry entry' written
      obtain ⟨sum, exactSum, rfl⟩ := map_eq_some_iff.mp written
      exact exactAddSigned_eq_some_iff.mp exactSum) accountAdded
  have bookedTotal : pnlSums { marked with unrealizedPnlCurrencyNanos := total } =
      { pnlSums output with
        instruments := (pnlSums output).instruments + unrealized.toInt
        booked := (pnlSums output).booked + unrealized.toInt } := by
    have booked := congrArg PnlSums.booked instrumentSums
    have sum := exactly_added exactTotal marked.realizedPnlCurrencyNanos.toInt
    calc pnlSums { marked with unrealizedPnlCurrencyNanos := total }
        = { pnlSums marked with
            booked := marked.realizedPnlCurrencyNanos.toInt + total.toInt } := rfl
      _ = _ := by
          rw [instrumentSums]
          refine congrArg (PnlSums.mk _ _ _) ?_
          change marked.realizedPnlCurrencyNanos.toInt +
            marked.unrealizedPnlCurrencyNanos.toInt = (pnlSums output).booked at booked
          omega
  rw [accountSums, strategySums, kept, bookedTotal, pnlValue]

/-- What a flat position has realized. -/
def PositionSlot.flatRealized (position : PositionSlot) : Int :=
  if position.quantityUnits = 0 then position.realizedPnlCurrencyNanos.toInt else 0

/-- Strategy and account fall behind by what a flat position realized. -/
theorem pnlSums_accumulatePosition
    (marked : ∀ index < s.configuration.instruments.length, 0 < s.marks index)
    (ran : s.accumulatePosition position output = (.ok (), output')) :
    ∃ gain : Int, pnlSums output' = {
      strategies := (pnlSums output).strategies + gain - position.flatRealized
      accounts := (pnlSums output).accounts + gain - position.flatRealized
      instruments := (pnlSums output).instruments + gain
      booked := (pnlSums output).booked + gain } := by
  simp only [accumulatePosition, bind_eq_ok_iff, require_eq_ok_iff, amend_eq_ok_iff] at ran
  obtain ⟨instrument, _, ⟨found, rfl⟩, strategy, _, ⟨-, rfl⟩, account, _, ⟨-, rfl⟩, reference, _,
    ⟨-, rfl⟩, _, _, room, _, realized, booking, ran⟩ := ran
  split at room
  · cases room
  cases room
  have onRealized := pnlSums_accumulateRealized booking
  unfold PositionSlot.flatRealized
  split at ran
  · next flat =>
    obtain ⟨-, rfl⟩ := pure_eq_ok_iff.mp ran
    refine ⟨position.realizedPnlCurrencyNanos.toInt, ?_⟩
    rw [onRealized, if_pos flat, add_sub_cancel_right, add_sub_cancel_right]
  next held =>
    have positive := marked instrument (findIdx?_eq_some_iff_findIdx_eq.mp found).1
    split at ran
    · next unmarked => exact absurd positive (Int64.not_lt.mpr unmarked)
    obtain ⟨unrealized, onUnrealized⟩ := pnlSums_accumulateUnrealized ran
    refine ⟨position.realizedPnlCurrencyNanos.toInt + unrealized, ?_⟩
    rw [onUnrealized, onRealized, if_neg held]
    ext <;> dsimp only <;> ring

end OnePosition

section Snapshot

variable {s : PortfolioRiskService} {context : SnapshotBuildContext} {output : PortfolioSnapshot}

def PortfolioRiskService.flatRealized (s : PortfolioRiskService) : Int :=
  (s.openPositions.map PositionSlot.flatRealized).sum

theorem pnlSums_accumulatePositions {start : PortfolioSnapshot}
    (marked : ∀ index < s.configuration.instruments.length, 0 < s.marks index)
    (fresh : pnlSums start = ⟨0, 0, 0, 0⟩) (ran : s.accumulatePositions start = (.ok (), output)) :
    (pnlSums output).strategies + s.flatRealized = (pnlSums output).booked ∧
      (pnlSums output).accounts + s.flatRealized = (pnlSums output).booked ∧
      (pnlSums output).instruments = (pnlSums output).booked := by
  -- The invariant owes the strategies what the positions still to come will hold back.
  have invariant := each_invariant (P := fun rest output =>
      (pnlSums output).strategies + s.flatRealized =
        (pnlSums output).booked + (rest.map PositionSlot.flatRealized).sum ∧
      (pnlSums output).accounts + s.flatRealized =
        (pnlSums output).booked + (rest.map PositionSlot.flatRealized).sum ∧
      (pnlSums output).instruments = (pnlSums output).booked)
    (by
      rintro position rest before after - ⟨strategies, accounts, instruments⟩ step
      obtain ⟨gain, moved⟩ := pnlSums_accumulatePosition marked step
      rw [moved]
      simp only [map_cons, sum_cons] at strategies accounts
      dsimp only
      refine ⟨?_, ?_, ?_⟩ <;> omega)
    (by rw [fresh]; exact ⟨rfl, rfl, rfl⟩) ran
  simpa using invariant

theorem neutral_accumulateOrders : Within Neutral s.accumulateOrders := by
  refine Within.each (fun order => ?_) s.activeOrders
  refine within_require.bind fun instrument => ?_
  refine (within_update (R := Neutral) (by intro; rfl)).bind fun _ => ?_
  by_cases buys : order.side = .buy
  · simp only [buys, if_true]
    exact neutral_onInstrument (by intros; exact ⟨rfl, rfl⟩)
  · simp only [buys, if_false]
    exact neutral_onInstrument (by intros; exact ⟨rfl, rfl⟩)

theorem neutral_accumulateFills : Within Neutral s.accumulateFills := by
  refine within_update fun output => ?_
  induction s.activeFills generalizing output with
  | nil => rfl
  | cons fill rest ih => exact ih (s.accumulateFill output fill)

theorem pnlSums_initializeSnapshot : pnlSums (s.initializeSnapshot context) = ⟨0, 0, 0, 0⟩ := by
  have strategies : strategyPnl (s.initializeSnapshot context) = 0 := by
    refine sum_eq_zero fun value mem => ?_
    simp only [initializeSnapshot, map_map, mem_map] at mem
    obtain ⟨_, -, rfl⟩ := mem
    rfl
  have accounts : accountPnl (s.initializeSnapshot context) = 0 := by
    refine sum_eq_zero fun value mem => ?_
    simp only [initializeSnapshot, map_map, mem_map] at mem
    obtain ⟨_, -, rfl⟩ := mem
    rfl
  have instruments : instrumentPnl (s.initializeSnapshot context) = 0 := by
    refine sum_eq_zero fun value mem => ?_
    simp only [initializeSnapshot, mem_map, mem_mapIdx] at mem
    obtain ⟨_, ⟨_, _, rfl⟩, rfl⟩ := mem
    rfl
  unfold pnlSums
  rw [strategies, accounts, instruments]
  rfl

/-- Strategies and accounts lack what flat positions have realized. -/
theorem pnlSums_recomputeSnapshot
    (marked : ∀ index < s.configuration.instruments.length, 0 < s.marks index)
    (built : s.recomputeSnapshot context = (.ok (), output)) :
    output.totalPnlCurrencyNanos.toInt = strategyPnl output + s.flatRealized ∧
      output.totalPnlCurrencyNanos.toInt = accountPnl output + s.flatRealized ∧
      output.totalPnlCurrencyNanos.toInt = instrumentPnl output := by
  obtain ⟨ordered, filled, accumulated, orders, fills, positions, final⟩ :=
    recomputeSnapshot_eq_ok built
  have fresh : pnlSums filled = ⟨0, 0, 0, 0⟩ :=
    (neutral_accumulateFills.moves fills).trans
      ((neutral_accumulateOrders.moves orders).trans pnlSums_initializeSnapshot)
  obtain ⟨strategies, accounts, instruments⟩ :=
    pnlSums_accumulatePositions marked fresh positions
  have strategiesKept : strategyPnl output = strategyPnl accumulated := by
    have kept := congrArg (map Int64.toInt) final.strategies
    rw [map_map, map_map] at kept
    exact congrArg sum kept
  have accountsKept : accountPnl output = accountPnl accumulated := by
    unfold accountPnl
    rw [final.accounts]
  have instrumentsKept : instrumentPnl output = instrumentPnl accumulated := by
    unfold instrumentPnl
    rw [final.instruments]
  rw [strategiesKept, accountsKept, instrumentsKept, final.total]
  exact ⟨strategies.symm, accounts.symm, instruments.symm⟩

/-- With a mark for every instrument, and nothing realized by flat positions on balance, the total
profit is that of the strategies, of the accounts and of the instruments. -/
theorem total_pnl_rolls_up
    (marked : ∀ index < s.configuration.instruments.length, 0 < s.marks index)
    (flat : s.flatRealized = 0)
    (built : s.recomputeSnapshot context = (.ok (), output)) :
    output.totalPnlCurrencyNanos.toInt =
        (output.strategies.map fun entry => entry.pnlCurrencyNanos.toInt).sum ∧
      output.totalPnlCurrencyNanos.toInt =
        (output.accounts.map fun entry => entry.pnlCurrencyNanos.toInt).sum ∧
      output.totalPnlCurrencyNanos.toInt = (output.instruments.map fun entry =>
          entry.realizedPnlCurrencyNanos.toInt + entry.unrealizedPnlCurrencyNanos.toInt).sum := by
  have rolled := pnlSums_recomputeSnapshot marked built
  rw [flat, add_zero, add_zero] at rolled
  exact rolled

end Snapshot

section Fixtures

open TestSupport

def heldAtProfit : PortfolioRiskService :=
  run next service (calls [mark 1, fill 2 1 .buy 100 10 .dropCopy, mark 3 110])

theorem total_pnl_rolls_up_of_held :
    ∃ output, heldAtProfit.recomputeSnapshot {} = (.ok (), output) ∧
      output.totalPnlCurrencyNanos.toInt = 10000 ∧
      output.totalPnlCurrencyNanos.toInt =
        (output.strategies.map fun entry => entry.pnlCurrencyNanos.toInt).sum := by
  have built : (heldAtProfit.recomputeSnapshot {}).1 = .ok () ∧
      (heldAtProfit.recomputeSnapshot {}).2.totalPnlCurrencyNanos.toInt = 10000 ∧
      heldAtProfit.configuration.instruments.length = 1 ∧ 0 < heldAtProfit.marks 0 ∧
      heldAtProfit.flatRealized = 0 := by decide +kernel
  obtain ⟨completed, total, single, positive, flat⟩ := built
  obtain ⟨status, output, outcome⟩ :
      ∃ status output, heldAtProfit.recomputeSnapshot {} = (status, output) :=
    ⟨_, _, Prod.mk.eta.symm⟩
  rw [outcome] at completed total
  subst completed
  refine ⟨output, outcome, total, (total_pnl_rolls_up ?_ flat outcome).1⟩
  intro index below
  rw [single, Nat.lt_one_iff] at below
  exact below ▸ positive

/-- Bought at 100 and sold at 110. -/
theorem flat_position_leaves_strategies_behind :
    let flattened := run next service
      (calls [mark 1, fill 2 1 .buy 100 10 .dropCopy, fill 3 2 .sell 110 10 .dropCopy])
    let built := flattened.recomputeSnapshot {}
    built.1 = .ok () ∧ flattened.configuration.instruments.length = 1 ∧ 0 < flattened.marks 0 ∧
      built.2.totalPnlCurrencyNanos.toInt = 10000 ∧
      (built.2.strategies.map fun entry => entry.pnlCurrencyNanos.toInt).sum = 0 ∧
      (built.2.accounts.map fun entry => entry.pnlCurrencyNanos.toInt).sum = 0 := by
  decide +kernel

end Fixtures

end Aegis.Portfolio
