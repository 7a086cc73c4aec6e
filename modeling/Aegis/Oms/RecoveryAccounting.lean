import Aegis.Oms.FillAccounting

/-!
Fills that arrive in `unknown_recovery` are recorded and not credited, and an observation writes
its own cumulative quantity.
-/

namespace Aegis.Oms

open Aegis.Common Aegis.Foundation DeterministicOms

namespace DeterministicOms

variable {s : DeterministicOms} {input : OmsInput}

/-- One order in `unknown_recovery` takes the observed step. -/
structure Reconciles (s : DeterministicOms) (input : OmsInput) (s' : DeterministicOms)
    (index : OrderIndex) : Prop where
  resolved : s.resolveOrder input = some index
  unknown : (s.orders index).value.state = .unknownRecovery
  accepted : (s.orders index).value.intentId.valid = true
  executions : s'.executions = s.executions
  identity : (s'.orders index).value.identity = (s.orders index).value.identity
  step : Step (s.orders index).value.view
    (.observed input.recoveryObservation input.quantityUnits) (s'.orders index).value.view

theorem unknownOrder_status : (s.unknownOrder input).2.status ≠ .reconciled := by
  unfold unknownOrder
  split
  · simp [notFoundResult]
  · cases s.findFreeOrder (s.unknownOrderId input) <;> simp

theorem applyRecoveryObservation_reconciles (kind : input.kind = .recoveryObservation)
    (listed : validRecoveryObservation input.recoveryObservation)
    (reconciled : (s.applyRecoveryObservation input).2.status = .reconciled) :
    ∃ index, s.Reconciles input (s.applyRecoveryObservation input).1 index := by
  unfold applyRecoveryObservation at reconciled ⊢
  split at reconciled
  · cases reconciled
  rename_i authority
  rw [if_neg authority]
  cases resolved : s.resolveOrder input with
  | none =>
    simp only [resolved] at reconciled
    exact absurd reconciled unknownOrder_status
  | some index =>
    simp only [resolved] at reconciled ⊢
    split at reconciled
    · cases reconciled
    rename_i known
    rw [if_neg known]
    obtain ⟨unknown, intent⟩ := not_or.mp known
    have unknown : (s.orders index).value.state = .unknownRecovery := by simpa using unknown
    have intent : (s.orders index).value.intentId.valid := by simpa using intent
    cases bound : s.bindReported index input.externalOrderId with
    | none =>
      simp only [bound] at reconciled
      cases reconciled
    | some s₁ =>
      obtain ⟨-, rfl⟩ := bindReported_eq_some bound
      simp only [bound, modifyOrder_self] at reconciled ⊢
      split at reconciled
      · cases reconciled
      rename_i unambiguous
      rw [if_neg unambiguous]
      cases seen : observed ((s.orders index).value.bound input.externalOrderId) input with
      | none =>
        simp only [seen] at reconciled
        cases reconciled
      | some result =>
        obtain ⟨order, next⟩ := result
        obtain ⟨step, allowed, identity, -, -⟩ :=
          observed_spec seen unknown unambiguous listed
        rw [← kind] at allowed
        simp only [transition_eq, modifyOrder_self, allowed, if_true, modifyOrder_modifyOrder]
        have after : ((s.modifyOrder index fun _ => order.moved input next).updateHealthFromState.orders
            index).value = order.moved input next := by
          simp [updateHealthFromState]
        refine ⟨index, resolved, unknown, intent, rfl, ?_, ?_⟩
        · exact (congrArg OmsOrderSnapshot.identity after).trans identity
        · rw [congrArg OmsOrderSnapshot.view after]
          exact step

theorem apply_reconciles {published : Bool} (kind : input.kind = .recoveryObservation)
    (reconciled : (s.apply input published).2.status = .reconciled) :
    ∃ index, s.Reconciles input (s.apply input published).1 index := by
  have accepted : (s.apply input published).2.status.accepted := by rw [reconciled]; rfl
  obtain ⟨reaches, receipt, free⟩ := reaches_of_accepted accepted
  have status := (reaches.spec free published).1.status_of_accepted accepted
  have listed : validRecoveryObservation input.recoveryObservation := by
    have valid := reaches.valid
    simp only [validInput, kind, validRecoveryInput, Bool.and_eq_true] at valid
    exact valid.2.2
  have handler : s.applyLocked input = s.applyRecoveryObservation input := by
    simp [applyLocked, kind]
  rw [reconciled, handler] at status
  obtain ⟨index, h⟩ := applyRecoveryObservation_reconciles kind listed status.symm
  rw [← handler] at h
  have orders := reaches.orders free published
  refine ⟨index, h.resolved, h.unknown, h.accepted, ?_, ?_, ?_⟩
  · exact (reaches.executions free published).trans h.executions
  · rw [orders]
    exact h.identity
  · rw [orders]
    exact h.step

/-- The order accounts for its executions, and no less than before. -/
def CoversExecutions (s s' : DeterministicOms) (index : OrderIndex) : Prop :=
  s'.executedUnits (s'.orders index).value.orderId ≤
      (s'.orders index).value.cumulativeFillQuantityUnits.toNat ∧
    (s.orders index).value.cumulativeFillQuantityUnits ≤
      (s'.orders index).value.cumulativeFillQuantityUnits

/-- The observed quantity covers what is recorded. -/
def observationCovers (order : OmsOrderSnapshot) (recorded : Nat) (input : OmsInput) : Bool :=
  match input.recoveryObservation with
  | .partiallyFilled =>
      recorded ≤ input.quantityUnits.toNat &&
        order.cumulativeFillQuantityUnits ≤ input.quantityUnits
  | .filled => recorded ≤ order.quantityUnits.toNat
  | _ => recorded ≤ order.cumulativeFillQuantityUnits.toNat

end DeterministicOms

theorem Step.observed_covers {order order' : OmsOrderSnapshot} {input : OmsInput} {recorded : Nat}
    (step : Step order.view (.observed input.recoveryObservation input.quantityUnits) order'.view)
    (bounded : order.cumulativeFillQuantityUnits ≤ order.quantityUnits) :
    (recorded ≤ order'.cumulativeFillQuantityUnits.toNat ∧
        order.cumulativeFillQuantityUnits ≤ order'.cumulativeFillQuantityUnits) ↔
      observationCovers order recorded input := by
  have cumulative : order'.cumulativeFillQuantityUnits =
      (order.view.afterObservation input.recoveryObservation input.quantityUnits).cumulative := by
    generalize after : order'.view = v at step
    cases step with
    | observed => exact congrArg OrderView.cumulative after
  rw [cumulative]
  unfold observationCovers
  have kept : order.cumulativeFillQuantityUnits ≤ order.view.cumulative := UInt64.le_refl _
  cases input.recoveryObservation with
  | partiallyFilled => simp [OrderView.afterObservation]
  | filled =>
    simp only [OrderView.afterObservation, decide_eq_true_eq]
    exact and_iff_left bounded
  | _ =>
    simp only [OrderView.afterObservation, decide_eq_true_eq]
    exact and_iff_left kept

/-- A reconciling observation accounts for every execution exactly when its quantity covers them. -/
theorem reconciled_covers_iff {configuration : OmsConfiguration} {s : DeterministicOms}
    {input : OmsInput} {published : Bool} (reachable : Reachable configuration s)
    (kind : input.kind = .recoveryObservation)
    (reconciled : (s.apply input published).2.status = .reconciled) :
    ∃ index, s.resolveOrder input = some index ∧ (s.orders index).value.state = .unknownRecovery ∧
      (s.CoversExecutions (s.apply input published).1 index ↔
        observationCovers (s.orders index).value
          (s.executedUnits (s.orders index).value.orderId) input = true) := by
  obtain ⟨index, h⟩ := apply_reconciles kind reconciled
  have occ := occupied_of_resolveOrder h.resolved
  have sound := (reachable.invariant.wellFormed.ordersSound index occ).accepted h.accepted
  refine ⟨index, h.resolved, h.unknown, ?_⟩
  have orderId : ((s.apply input published).1.orders index).value.orderId =
      (s.orders index).value.orderId := congrArg OrderIdentity.orderId h.identity
  unfold CoversExecutions
  rw [executedUnits_congr h.executions, orderId]
  exact h.step.observed_covers sound.view.bounded

open TestSupport

def filledWhileUnknown : DeterministicOms :=
  run call (.construct configuration)
    [⟨accept 1 1, true⟩, ⟨internal .markReady (orderId 1) 2, true⟩,
      ⟨internal .dispatch (orderId 1) 3, true⟩, ⟨internal .recoveryBegin (orderId 1) 4, true⟩,
      ⟨fill (orderId 1) 5 1 1 4, true⟩]

theorem reconciled_covers_partial_fill : ∃ index, filledWhileUnknown.resolveOrder
        (recoveryObservation (orderId 1) 6 .partiallyFilled 4) = some index ∧
      (filledWhileUnknown.orders index).value.state = .unknownRecovery ∧
      (filledWhileUnknown.CoversExecutions
          (filledWhileUnknown.apply (recoveryObservation (orderId 1) 6 .partiallyFilled 4) true).1
          index ↔
        observationCovers (filledWhileUnknown.orders index).value
          (filledWhileUnknown.executedUnits (filledWhileUnknown.orders index).value.orderId)
          (recoveryObservation (orderId 1) 6 .partiallyFilled 4) = true) := by
  exact reconciled_covers_iff (Reachable.construct.run _) rfl (by decide +kernel)

/-- Observed as working, the order forgets a fill. -/
theorem working_observation_loses_fill : Reachable configuration filledWhileUnknown ∧
      filledWhileUnknown.resolveOrder (recoveryObservation (orderId 1) 6 .working) = some 64 ∧
      (filledWhileUnknown.orders 64).value.state = .unknownRecovery ∧
      (filledWhileUnknown.apply (recoveryObservation (orderId 1) 6 .working) true).2.status =
        .reconciled ∧
      ¬ filledWhileUnknown.CoversExecutions
        (filledWhileUnknown.apply (recoveryObservation (orderId 1) 6 .working) true).1 64 := by
  obtain ⟨resolved, unknown, reconciled, nothing, units⟩ :
      let observed := filledWhileUnknown.apply (recoveryObservation (orderId 1) 6 .working) true
      filledWhileUnknown.resolveOrder (recoveryObservation (orderId 1) 6 .working) = some 64 ∧
      (filledWhileUnknown.orders 64).value.state = .unknownRecovery ∧
      observed.2.status = .reconciled ∧
      (observed.1.orders 64).value.cumulativeFillQuantityUnits.toNat = 0 ∧
      (observed.1.executions (executionBucket ⟨106, 1⟩)).unitsFor
        (observed.1.orders 64).value.orderId = 4 := by
    decide +kernel
  refine ⟨Reachable.construct.run _, resolved, unknown, reconciled, fun covers => ?_⟩
  have part := (unitsFor_le_executedUnits (executionBucket ⟨106, 1⟩) _).trans covers.1
  omega

end Aegis.Oms
