import Aegis.Oms.Reachability
import Aegis.Oms.TestSupport

/-!
A fill reported for the first time is recorded, or the service stops being healthy, except where
the transition table has no place for it.
-/

namespace Aegis.Oms

open Aegis.Common Aegis.Foundation

namespace DeterministicOms

def Recorded (s : DeterministicOms) (executionId : GlobalEventId) (orderId : OrderId) : Prop :=
  ∃ execution, (s.executions execution).occupied = true ∧
    (s.executions execution).executionId = executionId ∧
    (s.executions execution).orderId = orderId

/-- A new fill under the active authority, with space. -/
structure NewFill (s : DeterministicOms) (input : OmsInput) : Prop where
  reaches : s.Reaches input
  kind : input.kind = .fill
  authority : s.authorityMatches input.authority = true
  new : s.findExecution input.executionId = none
  orderRoom : ∃ index, (s.orders index).value.occupied = false
  executionRoom : ∃ execution, (s.executions execution).occupied = false

/-- The table allows no fill although quantity may be left. -/
def unfillable (state : OrderState) : Bool :=
  state == .created || state == .ready || state == .rejected || state == .expired

/-- Fills in an unfillable state, or without a derived identifier. -/
def drops (s : DeterministicOms) (input : OmsInput) : Bool :=
  match s.resolveOrder input with
  | some index =>
      unfillable (s.orders index).value.state && !overFills (s.orders index).value input
  | none => !(s.unknownOrderId input).valid

variable {s : DeterministicOms} {input : OmsInput} {index : OrderIndex} {order : OmsOrderSnapshot}

theorem transitionAllowed_unfillable (input : OmsInput) (state : unfillable order.state) :
    transitionAllowed order.state .fill (fillOutcome order input) = false := by
  rw [Bool.eq_false_iff, ne_eq, transitionAllowed_fill]
  simp only [unfillable, Bool.or_eq_true, beq_iff_eq] at state
  rcases state with ((created | ready) | rejected) | expired
  · simp [created]
  · simp [ready]
  · simp [rejected]
  · simp [expired]

theorem transitionAllowed_fillable (input : OmsInput) (known : order.state ≠ .unknownRecovery)
    (state : unfillable order.state = false) (unfilled : order.state ≠ .filled) :
    transitionAllowed order.state .fill (fillOutcome order input) := by
  rw [transitionAllowed_fill]
  rcases fillTarget_cases order.state
    (order.quantityUnits - (order.cumulativeFillQuantityUnits + input.quantityUnits))
    with ⟨-, outcome⟩ | ⟨-, outcome⟩
  · simp only [fillOutcome, outcome]
    cases h : order.state <;> simp_all [unfillable]
  · simp only [fillOutcome, outcome]
    cases h : order.state <;> simp_all [unfillable]

theorem overFills_filled (balanced : order.view.Balanced) (filled : order.state = .filled)
    (someUnits : input.quantityUnits ≠ 0) : overFills order input := by
  have full : order.cumulativeFillQuantityUnits = order.quantityUnits := by
    have state : order.view.state = .filled := filled
    unfold OrderView.Balanced at balanced
    rw [if_pos state] at balanced
    exact balanced.1
  by_contra fits
  rw [Bool.not_eq_true, overFills_eq_false, full] at fits
  apply someUnits
  rw [← UInt64.toNat_inj]
  exact Nat.eq_zero_of_le_zero (by omega)

section

variable (fill : s.NewFill input)
include fill

theorem NewFill.quantity : input.quantityUnits ≠ 0 :=
  quantityUnits_of_fill fill.reaches.valid fill.kind

theorem NewFill.applyLocked_known (resolved : s.resolveOrder input = some index) :
    ∃ execution, s.findFreeExecution input.executionId = some execution ∧
      s.applyLocked input = s.applyNewFill input index execution := by
  obtain ⟨execution, free⟩ : ∃ execution, s.findFreeExecution input.executionId = some execution :=
    Layout.findFree_isSome fill.executionRoom input.executionId
  refine ⟨execution, free, ?_⟩
  simp [applyLocked, fill.kind, applyFill, fill.authority, resolved, applyFillAt, fill.new, free]

theorem NewFill.applyLocked_dropped (dropped : s.drops input) :
    (s.applyLocked input).1 = s ∧ (s.applyLocked input).2.snapshotChanged = false ∧
      ((s.applyLocked input).2.status = .forbiddenTransition ∨
        (s.applyLocked input).2.status = .notFound) := by
  unfold drops at dropped
  cases resolved : s.resolveOrder input with
  | some index =>
    simp only [resolved, Bool.and_eq_true, Bool.not_eq_true'] at dropped
    obtain ⟨state, fits⟩ := dropped
    obtain ⟨execution, -, handled⟩ := fill.applyLocked_known resolved
    have known : (s.orders index).value.state ≠ .unknownRecovery := by
      intro unknown
      rw [unknown] at state
      cases state
    have forbidden := transitionAllowed_unfillable input state
    rw [← fill.kind] at forbidden
    rw [handled, applyNewFill_forbidden known fits forbidden]
    exact ⟨rfl, rfl, .inl rfl⟩
  | none =>
    simp only [resolved, Bool.not_eq_true'] at dropped
    simp [applyLocked, fill.kind, applyFill, fill.authority, resolved, unknownOrder, dropped,
      notFoundResult]

theorem NewFill.applyLocked_kept
    (balanced : (s.orders index).value.state = .filled → (s.orders index).value.view.Balanced)
    (resolved : s.resolveOrder input = some index) (kept : s.drops input = false) :
    (s.applyLocked input).1.Recorded input.executionId (s.orders index).value.orderId ∨
      (s.applyLocked input).1.invariant ≠ .none := by
  obtain ⟨execution, -, handled⟩ := fill.applyLocked_known resolved
  rw [handled]
  have stored : ∀ f : OmsOrderSnapshot → OmsOrderSnapshot,
      ((s.modifyOrder index f).setExecution execution
        (executionRecord input (s.orders index).value.orderId)).Recorded input.executionId
          (s.orders index).value.orderId := by
    intro f
    exact ⟨execution, by simp [setExecution, executionRecord]⟩
  by_cases unknown : (s.orders index).value.state = .unknownRecovery
  · by_cases bindable : s.Bindable index input.externalOrderId
    · rw [applyNewFill_unknown unknown bindable]
      exact .inl (stored _)
    · rw [applyNewFill_conflict (.inl unknown) bindable]
      exact .inr (by simp [setUnsafe])
  cases excess : overFills (s.orders index).value input with
  | true =>
    rw [applyNewFill_over unknown excess]
    exact .inr (by simp [setUnsafe])
  | false =>
    have fillable : unfillable (s.orders index).value.state = false := by
      simpa [drops, resolved, excess] using kept
    have unfilled : (s.orders index).value.state ≠ .filled := by
      intro filled
      rw [overFills_filled (balanced filled) filled fill.quantity] at excess
      cases excess
    have allowed := transitionAllowed_fillable input unknown fillable unfilled
    rw [← fill.kind] at allowed
    by_cases bindable : s.Bindable index input.externalOrderId
    · rw [applyNewFill_credited unknown excess allowed bindable]
      exact .inl (stored _)
    · rw [applyNewFill_conflict (.inr ⟨excess, allowed⟩) bindable]
      exact .inr (by simp [setUnsafe])

theorem NewFill.applyLocked_discovered (wf : WellFormed s.ledger)
    (absent : s.resolveOrder input = none) (named : (s.unknownOrderId input).valid) :
    ∃ index, ((s.applyLocked input).1.orders index).value.occupied ∧
      ((s.applyLocked input).1.orders index).value.state = .unknownRecovery := by
  have valid := fill.reaches.valid
  have initialized := fill.reaches.running.2
  obtain ⟨index, free⟩ : ∃ index, s.findFreeOrder (s.unknownOrderId input) = some index :=
    Layout.findFree_isSome fill.orderRoom (s.unknownOrderId input)
  have handled := applyLocked_handled (s := s) valid
  have wf' := handled.wellFormed wf initialized valid
  -- The handler is the fill of the order that was just filed.
  have created : s.applyLocked input = (s.unknownOrder input).1.applyFillAt input index := by
    simp [applyLocked, fill.kind, applyFill, fill.authority, absent, unknownOrder, named, free]
  rcases unknownOrder_cases (by rw [fill.kind]; rfl) fill.authority absent with
    ⟨-, noIndex, -⟩ | ⟨filed, discovery, orderIndex, -, -, found⟩
  · simp [unknownOrder, named, free] at noIndex
  have same : filed = index := by
    simpa [unknownOrder, named, free] using orderIndex.symm
  subst same
  have record : ((s.unknownOrder input).1.orders filed).value = s.unknownOrderRecord input := by
    rw [show (s.unknownOrder input).1.orders = _ from discovery.leaves.orders]
    simp
  have effect := applyFillAt_effect fill.kind discovery.authorityMatches found
  have identity := effect.identity filed (by rw [record]; rfl)
  rw [← created, record] at identity
  have occ : ((s.applyLocked input).1.orders filed).value.occupied :=
    congrArg OrderIdentity.occupied identity
  have intent : ((s.applyLocked input).1.orders filed).value.intentId.valid = false := by
    rw [show ((s.applyLocked input).1.orders filed).value.intentId = _ from
      congrArg OrderIdentity.intentId identity]
    rfl
  exact ⟨filed, occ, (wf'.ordersSound filed occ).unknown intent⟩

end

structure Forgotten (s : DeterministicOms) (input : OmsInput) (s' : DeterministicOms)
    (r : ApplyResult) : Prop where
  status : r.status = .forbiddenTransition ∨ r.status = .notFound
  orders : s'.orders = s.orders
  executions : s'.executions = s.executions
  receipt : (s'.findReceipt input.receiptId).isSome = true
  healthy : s'.health = .healthy

/-- The fill is recorded, or the service is no longer healthy. -/
def Kept (s : DeterministicOms) (input : OmsInput) (s' : DeterministicOms) : Prop :=
  (∃ index, s.resolveOrder input = some index ∧
      s'.Recorded input.executionId (s.orders index).value.orderId) ∨
    s'.health ≠ .healthy

variable {published : Bool}

theorem NewFill.forgotten (fill : s.NewFill input) (inv : Invariant s)
    (healthy : s.health = .healthy) (dropped : s.drops input) :
    s.Forgotten input (s.apply input published).1 (s.apply input published).2 := by
  obtain ⟨same, quiet, status⟩ := fill.applyLocked_dropped dropped
  obtain ⟨receipt, free⟩ := inv.receiptRoom fill.reaches.room input.receiptId
  obtain ⟨concluded, closing⟩ := fill.reaches.spec free published
  refine ⟨?_, (fill.reaches.orders free published).trans (congrArg _ same),
    (fill.reaches.executions free published).trans (congrArg _ same),
    by rw [fill.reaches.remembered free]; rfl, ?_⟩
  · cases concluded with
    | quiet _ _ _ _ kept => rwa [kept]
    | refreshed changed | failed changed =>
      rw [quiet] at changed
      cases changed
  · cases concluded with
    | quiet _ _ health =>
      -- The tables and the alarm are those the service was healthy with.
      rw [health, ← inv.settled healthy]
      have handled : (s.applyLocked input).1.healthFromState = s.healthFromState := by rw [same]
      exact handled
    | refreshed changed | failed changed =>
      rw [quiet] at changed
      cases changed

theorem NewFill.kept (fill : s.NewFill input) (inv : Invariant s) (healthy : s.health = .healthy)
    (kept : s.drops input = false) : s.Kept input (s.apply input published).1 := by
  obtain ⟨receipt, free⟩ := inv.receiptRoom fill.reaches.room input.receiptId
  have inv' := inv.apply input published
  cases resolved : s.resolveOrder input with
  | some index =>
    have valid := inv.ordersValid (inv.clear healthy)
    have balanced := (ordersValid_iff_balanced inv.wellFormed).mp valid
    have occ := occupied_of_resolveOrder resolved
    have settled : (s.orders index).value.state = .filled →
        (s.orders index).value.view.Balanced := by
      intro filled
      exact balanced index occ (inv.wellFormed.accepted_of_known occ (by simp [filled]))
    rcases fill.applyLocked_kept settled resolved kept with ⟨execution, stored⟩ | alarm
    · refine .inl ⟨index, resolved, execution, ?_⟩
      rw [fill.reaches.executions free]
      exact stored
    · refine .inr fun healthy' => alarm ?_
      exact (fill.reaches.spec free published).1.clear (inv'.clear healthy')
  | none =>
    have named : (s.unknownOrderId input).valid := by
      simpa [drops, resolved] using kept
    obtain ⟨index, occ, unknown⟩ := fill.applyLocked_discovered inv.wellFormed resolved named
    refine .inr fun healthy' => ?_
    have nothing := (healthFromState_eq_healthy.mp (inv'.settled healthy')).2.1 index
    rw [fill.reaches.orders free] at nothing
    exact nothing occ unknown

end DeterministicOms

open TestSupport DeterministicOms

def sentOrder : DeterministicOms :=
  Foundation.run call (.construct configuration)
    [⟨accept 1 1, true⟩, ⟨internal .markReady (orderId 1) 2, true⟩,
      ⟨internal .dispatch (orderId 1) 3, true⟩]

theorem reachable_sentOrder : Reachable configuration sentOrder := Reachable.construct.run _

end Aegis.Oms
