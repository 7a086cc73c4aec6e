import Aegis.Portfolio.HandlerEffects
import Aegis.Portfolio.SnapshotLaws
import Aegis.Portfolio.TestSupport

/-!
How long the portfolio service stays unsafe. Two writers break the chain of alarming snapshots:
the orphan branch of `apply_fill`, and a failed build, whose snapshot was never judged.
-/

namespace Aegis.Portfolio

open Aegis.Common Aegis.Foundation

namespace PortfolioRiskService

section Calls

variable (s : PortfolioRiskService) (call : Call)

def reportsOrphan : Bool :=
  s.takes && (s.reserve.handle call.event).1.invariant == .orphanFill

/-- The journal is exhausted, the handler leaves the service unsafe, or the snapshot overflows. -/
def callsSetUnsafe : Bool :=
  let handled := s.reserve.handle call.event
  s.initialized && !s.stopped &&
    (!s.takes || s.buildFails call || (handled.2.health == .unsafeHealth &&
      handled.2.invariantFailureCount != s.invariantFailureCount))

def KeepsAlarm : Prop :=
  s.rollsOver call = false ∧ s.reportsOrphan call = false ∧ s.buildFails call = false

instance : Decidable (s.KeepsAlarm call) := inferInstanceAs (Decidable (_ ∧ _ ∧ _))

end Calls

structure Alarmed (s : PortfolioRiskService) : Prop where
  loud : alarming s.invariant = true
  unhealthy : s.health ≠ .healthy

def SameAlarm (s t : PortfolioRiskService) : Prop :=
  t.health = s.health ∧ t.invariant = s.invariant ∧
    t.invariantFailureCount = s.invariantFailureCount

variable {s t : PortfolioRiskService} {event : PortfolioEvent} {internal : InternalApplyResult}
  {call : Call}

/-- Leave the alarm, raise one, report an orphan or roll over. -/
theorem Effect.alarm_cases (effect : Effect s event internal t) :
    SameAlarm s t ∨ t.Alarmed ∨ internal.invariant = .orphanFill ∨
      (event.kind = .sessionRollover ∧ internal.status = .applied) := by
  cases effect with
  | refused | orderAdded | orderUpdated | confirmed | marked | acted => exact .inl ⟨rfl, rfl, rfl⟩
  | alarmed failed loud | reverted targets attempted failed loud =>
    exact .inr (.inl ⟨loud, by nofun⟩)
  | orphaned => exact .inr (.inr (.inl rfl))
  | overflowed => exact .inr (.inl ⟨rfl, by nofun⟩)
  | filled kind scope free opening accounted =>
    obtain ⟨orders, ordered⟩ := fillOrder_eq _ event (s.findOrder event.orderId)
    rw [ordered]
    rcases findOrCreatePosition_eq_some opening with ⟨-, rfl⟩ | ⟨_, -, -, -, rfl⟩ <;>
      exact .inl ⟨rfl, rfl, rfl⟩
  | rewritten targets rebuilding ordered =>
    obtain ⟨position, -, -, rfl⟩ := rebuildPosition_eq_some rebuilding
    rcases ordered with rfl | ⟨_, _, -, -, rfl⟩ <;> exact .inl ⟨rfl, rfl, rfl⟩
  | rolledOver kind => exact .inr (.inr (.inr ⟨kind, rfl⟩))

theorem handle_alarm (taken : s.takes) (handled : s.reserve.handle call.event = (internal, t))
    (keeps : s.KeepsAlarm call) : SameAlarm s t ∨ t.Alarmed := by
  obtain ⟨rolls, orphans, -⟩ := keeps
  obtain ⟨table, effect⟩ := handle_effect handled
  dsimp only at effect
  rcases effect.alarm_cases with same | alarm | orphan | ⟨kind, applied⟩
  · exact .inl same
  · exact .inr alarm
  · simp [reportsOrphan, taken, handled, orphan] at orphans
  · simp [rollsOver, taken, handled, kind, applied] at rolls

theorem SameAlarm.alarmed (same : SameAlarm s t) (alarm : s.Alarmed) : t.Alarmed :=
  ⟨same.2.1 ▸ alarm.loud, same.1 ▸ alarm.unhealthy⟩

theorem Alarmed.install {context : SnapshotBuildContext} {output : PortfolioSnapshot}
    (alarm : t.Alarmed) (built : t.numbered.recomputeSnapshot context = (.ok (), output))
    (published : Bool) : (t.numbered.install output published).Alarmed := by
  obtain ⟨_, _, accumulated, -, -, -, final⟩ := recomputeSnapshot_eq_ok built
  have judged : (output.health = .stopped ∨ output.health = .unsafeHealth) ∧
      output.invariant = t.invariant := by
    have verdict := final.verdict
    have loud : alarming t.numbered.invariant := alarm.loud
    simp only [PortfolioRiskService.verdict, loud, Bool.or_true, if_true] at verdict
    split at verdict
    · simp only [Prod.mk.injEq] at verdict
      exact ⟨.inl verdict.1, verdict.2.1⟩
    · simp only [Prod.mk.injEq] at verdict
      exact ⟨.inr verdict.1, verdict.2.1⟩
  obtain ⟨raised, code⟩ := judged
  constructor
  · show alarming output.invariant
    rw [code]
    exact alarm.loud
  · show (if published then output.health else .reconciling) ≠ .healthy
    cases published with
    | false => nofun
    | true => rcases raised with health | health <;> simp [health]

theorem next_alarmed_of_handled (keeps : s.KeepsAlarm call)
    (idle : (s.initialized && !s.stopped) = false → s.Alarmed)
    (handled : ∀ internal t, s.takes → s.reserve.handle call.event = (internal, t) →
      t.Alarmed) : (s.next call).Alarmed := by
  have outcome := next_outcome s call
  generalize s.next call = reached at outcome ⊢
  cases outcome with
  | idle off => exact idle off
  | exhausted on full => exact ⟨rfl, by nofun⟩
  | unchanged taken ran same => exact handled _ _ taken ran
  | installed taken ran changed built => exact (handled _ _ taken ran).install built _
  | failed taken ran changed stopped =>
    have fails := keeps.2.2
    simp [buildFails, taken, ran, changed, stopped, Except.isOk, Except.toBool] at fails

/-- The step: an alarm is kept. -/
theorem Alarmed.next (alarm : s.Alarmed) (keeps : s.KeepsAlarm call) : (s.next call).Alarmed := by
  refine next_alarmed_of_handled keeps (fun _ => alarm) fun internal t taken handled => ?_
  rcases handle_alarm taken handled keeps with same | raised
  · exact same.alarmed alarm
  · exact raised

theorem alarmed_of_callsSetUnsafe (raised : s.callsSetUnsafe call)
    (keeps : s.KeepsAlarm call) : (s.next call).Alarmed := by
  have fits := keeps.2.2
  simp only [callsSetUnsafe, fits, Bool.and_eq_true, Bool.or_eq_true, Bool.or_false,
    bne_iff_ne, ne_eq] at raised
  obtain ⟨⟨on, running⟩, raised⟩ := raised
  refine next_alarmed_of_handled keeps (fun off => by simp_all) fun internal t taken handled => ?_
  rw [taken, handled] at raised
  rcases handle_alarm taken handled keeps with same | alarm
  · simp [same.2.2] at raised
  · exact alarm

theorem Alarmed.not_ready (alarm : s.Alarmed) : s.ready = false := by
  simp [ready, alarm.unhealthy]

/-- From a call that reaches `set_unsafe`, without a session rollover, an orphan fill or a snapshot
overflow, the service is never ready and never healthy again. -/
theorem unsafe_until_rollover (configuration : PortfolioConfiguration)
    (storeInitialized published : Bool) (before after : List Call) (call : Call)
    (raised : (run next (construct configuration storeInitialized published)
      before).callsSetUnsafe call = true)
    (orderly : Throughout next KeepsAlarm
      (run next (construct configuration storeInitialized published) before) (call :: after)) :
    Always next (fun s => s.ready = false ∧ s.health ≠ .healthy)
      (run next (construct configuration storeInitialized published) (before ++ [call]))
      after := by
  have alarms : Always next Alarmed
      (run next (construct configuration storeInitialized published) (before ++ [call]))
      after := by
    rw [run_append]
    exact always_of_throughout (fun s call alarm keeps => alarm.next keeps)
      (alarmed_of_callsSetUnsafe raised orderly.1) orderly.2
  intro reached initial
  exact ⟨(alarms reached initial).not_ready, (alarms reached initial).unhealthy⟩

section Fixtures

open TestSupport

/-- An order reported accepted after it was open. -/
theorem unsafe_until_rollover_of_conflict :
    Always next (fun s => s.ready = false ∧ s.health ≠ .healthy)
      (run next service (calls [mark 1, order 2] ++ calls [order 3 .accepted]))
      (calls [mark 4]) :=
  unsafe_until_rollover oneInstrument true true (calls [mark 1, order 2]) (calls [mark 4])
    { event := order 3 .accepted } (by decide +kernel) (by decide +kernel)

def orphanFill : PortfolioEvent :=
  finalize { fillOf 4 9 .buy 100 10 .primary with orderId := ⟨7, 2⟩ }

/-- An orphan fill, or a snapshot that overflows. -/
theorem unsafe_forgotten_without_rollover :
    let conflicted := run next service (calls [mark 1, order 2])
    let filled := run next service (calls [mark 1, order 2, fill 3 1])
    (conflicted.callsSetUnsafe { event := order 3 .accepted } = true ∧
      (run next conflicted (calls [order 3 .accepted])).health = .unsafeHealth ∧
      (run next conflicted (calls [order 3 .accepted, orphanFill])).health = .healthy ∧
      (run next conflicted (calls [order 3 .accepted, orphanFill])).ready = true) ∧
    (filled.callsSetUnsafe { event := mark 4 (2 ^ 62) } = true ∧
      (run next filled (calls [mark 4 (2 ^ 62), mark 5])).health = .healthy ∧
      (run next filled (calls [mark 4 (2 ^ 62), mark 5])).ready = true) := by
  decide +kernel

end Fixtures

end PortfolioRiskService

end Aegis.Portfolio
