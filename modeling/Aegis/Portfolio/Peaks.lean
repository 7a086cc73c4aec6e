import Aegis.Portfolio.HandlerEffects
import Aegis.Portfolio.SnapshotLaws
import Aegis.Portfolio.TestSupport

/-!
Peaks of profit over a session. A snapshot starts its peaks from the one before; one that
overflowed has none.
-/

namespace Aegis.Portfolio

open Aegis.Common Aegis.Foundation List

namespace PortfolioRiskService

/-- No later peak is below the earlier one. -/
def PeaksRise (earlier later : PortfolioSnapshot) : Prop :=
  earlier.peakPnlCurrencyNanos ≤ later.peakPnlCurrencyNanos ∧
    List.Forall₂ (fun strategy strategy' => strategy.strategyId = strategy'.strategyId ∧
      strategy.peakPnlCurrencyNanos ≤ strategy'.peakPnlCurrencyNanos)
      earlier.strategies later.strategies

/-- The service carries peaks not below those of a snapshot. -/
structure Carries (output : PortfolioSnapshot) (s : PortfolioRiskService) : Prop where
  listed : roster output = s.configuration.strategies
  peak : output.peakPnlCurrencyNanos ≤ s.snapshot.peakPnlCurrencyNanos
  strategies : ∀ index strategy, output.strategies[index]? = some strategy →
    strategy.peakPnlCurrencyNanos ≤ s.strategyPeaks index

def SamePeaks (s t : PortfolioRiskService) : Prop :=
  t.configuration.strategies = s.configuration.strategies ∧ t.snapshot = s.snapshot ∧
    t.strategyPeaks = s.strategyPeaks

variable {s t : PortfolioRiskService} {event : PortfolioEvent} {internal : InternalApplyResult}
  {call : Call} {output : PortfolioSnapshot}

theorem Effect.peak_cases (effect : Effect s event internal t) :
    SamePeaks s t ∨ (event.kind = .sessionRollover ∧ internal.status = .applied) := by
  cases effect with
  | refused | alarmed | orphaned | orderAdded | orderUpdated | confirmed | marked | acted =>
    exact .inl ⟨rfl, rfl, rfl⟩
  | overflowed scope opening =>
    rcases findOrCreatePosition_eq_some opening with ⟨-, rfl⟩ | ⟨_, -, -, -, rfl⟩ <;>
      exact .inl ⟨rfl, rfl, rfl⟩
  | filled kind scope free opening accounted =>
    obtain ⟨orders, ordered⟩ := fillOrder_eq _ event (s.findOrder event.orderId)
    rw [ordered]
    rcases findOrCreatePosition_eq_some opening with ⟨-, rfl⟩ | ⟨_, -, -, -, rfl⟩ <;>
      exact .inl ⟨rfl, rfl, rfl⟩
  | rewritten targets rebuilding ordered =>
    obtain ⟨position, -, -, rfl⟩ := rebuildPosition_eq_some rebuilding
    rcases ordered with rfl | ⟨_, _, -, -, rfl⟩ <;> exact .inl ⟨rfl, rfl, rfl⟩
  | reverted targets attempted failed loud =>
    obtain ⟨orders, position, -, reverted, -⟩ := revert_eq attempted
    rw [reverted]
    exact .inl ⟨rfl, rfl, rfl⟩
  | rolledOver kind => exact .inr ⟨kind, rfl⟩

theorem samePeaks_of_handle (taken : s.takes) (stays : s.rollsOver call = false)
    (handled : s.reserve.handle call.event = (internal, t)) : SamePeaks s t := by
  obtain ⟨table, effect⟩ := handle_effect handled
  dsimp only at effect
  rcases effect.peak_cases with same | ⟨kind, applied⟩
  · exact same
  · simp [rollsOver, taken, handled, kind, applied] at stays

theorem Carries.of_samePeaks (same : SamePeaks s t) (carries : Carries output s) :
    Carries output t := by
  obtain ⟨strategies, snapshot, peaks⟩ := same
  exact ⟨strategies ▸ carries.listed, snapshot ▸ carries.peak, peaks ▸ carries.strategies⟩

section Builds

variable {context : SnapshotBuildContext} {built : PortfolioSnapshot}

theorem strategyPeaks_install_of_some {index : Nat} {strategy : StrategyExposure}
    {published : Bool} (entry : built.strategies[index]? = some strategy) :
    (s.install built published).strategyPeaks index = strategy.peakPnlCurrencyNanos := by
  simp only [install, entry]

theorem strategyPeaks_install_of_none {index : Nat} {published : Bool}
    (unlisted : built.strategies[index]? = none) :
    (s.install built published).strategyPeaks index = s.strategyPeaks index := by
  simp only [install, unlisted]

theorem carries_install (completed : t.numbered.recomputeSnapshot context = (.ok (), built))
    (published : Bool) : Carries built (t.numbered.install built published) := by
  have listed := roster_recomputeSnapshot completed
  refine ⟨listed, Int64.le_refl _, fun index strategy atIndex => ?_⟩
  rw [strategyPeaks_install_of_some atIndex]
  exact Int64.le_refl _

theorem Carries.install (carries : Carries output t)
    (completed : t.numbered.recomputeSnapshot context = (.ok (), built)) (published : Bool) :
    Carries output (t.numbered.install built published) := by
  obtain ⟨_, _, _, -, -, -, final⟩ := recomputeSnapshot_eq_ok completed
  refine ⟨carries.listed, Int64.le_trans carries.peak final.peak, fun index strategy atIndex => ?_⟩
  have below := carries.strategies index strategy atIndex
  cases now : built.strategies[index]? with
  | none =>
    rw [strategyPeaks_install_of_none now]
    exact below
  | some strategy' =>
    rw [strategyPeaks_install_of_some now]
    exact Int64.le_trans below (final.strategyPeaks index strategy' now)

theorem Carries.peaksRise (carries : Carries output t)
    (completed : t.numbered.recomputeSnapshot context = (.ok (), built)) :
    PeaksRise output built := by
  obtain ⟨_, _, _, -, -, -, final⟩ := recomputeSnapshot_eq_ok completed
  have listed : roster output = roster built :=
    carries.listed.trans (roster_recomputeSnapshot completed).symm
  have long : output.strategies.length = built.strategies.length := by
    simpa [roster] using congrArg length listed
  refine ⟨Int64.le_trans carries.peak final.peak,
    forall₂_iff_get.mpr ⟨long, fun index below below' => ⟨?_, ?_⟩⟩⟩
  · have same := congrArg (fun list => list[index]?) listed
    simpa [roster, getElem?_map, below, below'] using same
  · exact Int64.le_trans (carries.strategies index _ (getElem?_eq_getElem below))
      (final.strategyPeaks index _ (getElem?_eq_getElem below'))

end Builds

def KeepsPeaks (s : PortfolioRiskService) (call : Call) : Prop :=
  s.rollsOver call = false ∧ s.buildFails call = false

instance (call : Call) : Decidable (s.KeepsPeaks call) := inferInstanceAs (Decidable (_ ∧ _))

theorem Carries.next (carries : Carries output s) (keeps : s.KeepsPeaks call) :
    Carries output (s.next call) := by
  have outcome := next_outcome s call
  generalize s.next call = reached at outcome ⊢
  cases outcome with
  | idle => exact carries
  | exhausted => exact ⟨carries.listed, carries.peak, carries.strategies⟩
  | unchanged taken ran same => exact carries.of_samePeaks (samePeaks_of_handle taken keeps.1 ran)
  | installed taken ran changed built =>
    exact (carries.of_samePeaks (samePeaks_of_handle taken keeps.1 ran)).install built _
  | failed taken ran changed stopped =>
    have fails := keeps.2
    simp [buildFails, taken, ran, changed, stopped, Except.isOk, Except.toBool] at fails

theorem carries_construct (configuration : PortfolioConfiguration)
    (storeInitialized published : Bool)
    (started : (construct configuration storeInitialized published).initialized) :
    Carries (construct configuration storeInitialized published).snapshot
      (construct configuration storeInitialized published) := by
  unfold construct at started ⊢
  split
  · next rejected => simp [rejected] at started
  split
  · refine ⟨?_, Int64.le_refl _, fun index strategy atIndex => ?_⟩
    · simp [roster, initializeSnapshot, Function.comp_def]
    · simp only [initializeSnapshot, getElem?_map, Option.map_eq_some_iff] at atIndex
      obtain ⟨_, -, rfl⟩ := atIndex
      exact Int64.le_refl _
  · next rejected unpublished => simp [rejected, unpublished] at started

theorem outputs_of_uninitialized (off : s.initialized = false) (calls : List Call) :
    outputs next publish s calls = [] := by
  induction calls with
  | nil => rfl
  | cons call rest ih =>
    have silent : s.publish call = [] := by simp [publish, takes, off]
    have stays : s.next call = s := by simp [PortfolioRiskService.next, apply, off]
    rw [outputs, silent, stays, ih, append_nil]

/-- Without a rollover or an overflow, published snapshots have rising peaks, for the portfolio and
every strategy. -/
theorem published_peaks_rise (configuration : PortfolioConfiguration)
    (storeInitialized published : Bool) (calls : List Call)
    (orderly : Throughout next KeepsPeaks
      (construct configuration storeInitialized published) calls) :
    ((construct configuration storeInitialized published).snapshot ::
      outputs next publish (construct configuration storeInitialized published) calls).Pairwise
        PeaksRise := by
  have kept : ∀ (s : PortfolioRiskService) (call : Call) (output : PortfolioSnapshot), True →
      s.KeepsPeaks call → Carries output s → Carries output (s.next call) :=
    fun s call output _ keeps carries => carries.next keeps
  have related : ∀ (s : PortfolioRiskService) (call : Call) (first later : PortfolioSnapshot),
      True → s.KeepsPeaks call → Carries first s → later ∈ s.publish call →
      PeaksRise first later := by
    intro s call first later _ keeps carries sent
    obtain ⟨internal, t, taken, handled, built, -⟩ := installed_of_mem_publish keeps.2 sent
    exact (carries.of_samePeaks (samePeaks_of_handle taken keeps.1 handled)).peaksRise built
  refine pairwise_cons.mpr ⟨?_, ?_⟩
  · cases started : (construct configuration storeInitialized published).initialized with
    | false =>
      rw [outputs_of_uninitialized started]
      exact fun later sent => absurd sent not_mem_nil
    | true =>
      exact related_of_recorded (I := fun _ => True) (fun _ _ _ _ => trivial) kept related
        trivial (carries_construct configuration storeInitialized published started) orderly
  · refine outputs_pairwise_of_throughout (I := fun _ => True) (fun _ _ _ _ => trivial) kept
      related (fun s call _ => ?_) (fun s call output _ keeps sent => ?_) trivial orderly
    · unfold publish
      split <;> simp
    · obtain ⟨internal, t, taken, handled, built, moved⟩ := installed_of_mem_publish keeps.2 sent
      rw [moved]
      exact carries_install built call.published

section Fixtures

open TestSupport

/-- Bought at 100, marked up, and marked down again. -/
theorem published_peaks_rise_of_marks : ((service.snapshot :: outputs next publish service
      (calls [mark 1, fill 2 1 .buy 100 10 .dropCopy, mark 3 110, mark 4 90])).Pairwise
        PeaksRise) :=
  published_peaks_rise oneInstrument true true _ (by decide +kernel)

/-- A mark whose notional overflows publishes a peak of zero. -/
theorem peak_falls_when_snapshot_overflows : (outputs next publish service
      (calls [mark 1, fill 2 1 .buy 100 10 .dropCopy, mark 3 110, mark 4 (2 ^ 62), mark 5])).map
        (fun output => (output.peakPnlCurrencyNanos,
          output.strategies.map (·.peakPnlCurrencyNanos))) =
      [(0, [0]), (0, [0]), (10000, [10000]), (0, [0]), (0, [0])] := by
  decide +kernel

end Fixtures

end PortfolioRiskService

end Aegis.Portfolio
