import Aegis.Oms.Emission
import Aegis.Oms.TestSupport
import Mathlib.Logic.Relation

/-!
What a run does to an order: a call takes it at most one step through its lifecycle, so it is never
forgotten, never sent twice, and without recovery observations never reopened.
-/

namespace Aegis.Oms

open Aegis.Common Aegis.Foundation DeterministicOms Function

variable {s s' : DeterministicOms} {input : OmsInput} {r : InternalResult} {index : OrderIndex}

/-- One step, which is an observation only where the input is one. -/
def Advances (input : OmsInput) (v v' : OrderView) : Prop :=
  ∃ event, Step v event v' ∧
    ∀ observation units, event = .observed observation units → input.kind = .recoveryObservation

theorem Advances.same (v : OrderView) : Advances input v v :=
  ⟨.kept, .kept, nofun⟩

theorem Moves.advances {slot : OrderSlot} {event : OrderEvent}
    (moves : Moves s input index slot event) :
    Advances input (s.orders index).value.view slot.value.view := by
  refine ⟨event, moves.step, ?_⟩
  rintro observation units rfl
  exact moves.cause.1

theorem Discovery.ne {other : OrderIndex} (discovery : Discovery s input s' other)
    (occ : (s.orders index).value.occupied) : index ≠ other := by
  rintro rfl
  rw [vacant_of_findFreeOrder discovery.free] at occ
  cases occ

theorem Effect.advances (effect : Effect s input s' r) (occ : (s.orders index).value.occupied) :
    Advances input (s.orders index).value.view (s'.orders index).value.view := by
  have updated : ∀ {other : OrderIndex} {slot : OrderSlot}, s'.orders = update s.orders other slot →
      (index = other → Advances input (s.orders other).value.view slot.value.view) →
      Advances input (s.orders index).value.view (s'.orders index).value.view := by
    intro other slot orders changed
    rw [orders]
    by_cases eq : index = other
    · subst eq
      simpa using changed rfl
    · rw [update_of_ne eq]
      exact .same _
  cases effect with
  | refused leaves =>
    rw [show s'.orders = s.orders from leaves.orders]
    exact .same _
  | accepted other _ _ _ free leaves =>
    refine updated leaves.orders fun eq => ?_
    rw [eq, vacant_of_findFreeOrder free] at occ
    cases occ
  | discovered other discovery =>
    exact updated discovery.leaves.orders fun eq => absurd eq (discovery.ne occ)
  | moved other slot event moves leaves
  | executed other slot event execution moves kind counted new free leaves
  | confirmed other slot execution moves kind found same leaves =>
    exact updated leaves.orders fun _ => moves.advances
  | rotated kind newer leaves =>
    rw [show s'.orders index = rotatedSlot (s.orders index) input from congrFun leaves.orders index]
    rcases rotatedSlot_cases (s.orders index) input with same | ⟨-, -, -, -, -, -, step⟩
    · rw [same]
      exact .same _
    · exact ⟨.withdrawn, step, nofun⟩

/-- The step: a filed order keeps its identity and advances. -/
theorem apply_advances (s : DeterministicOms) (input : OmsInput) (published : Bool)
    (occ : (s.orders index).value.occupied) :
    let order := ((s.apply input published).1.orders index).value
    order.identity = (s.orders index).value.identity ∧
      Advances input (s.orders index).value.view order.view := by
  dsimp only
  rcases s.apply_ledger input published with same | ⟨h, _, _, -, -, -, handled, ledger⟩
  · rw [show (s.apply input published).1.orders = s.orders from congrArg Ledger.orders same]
    exact ⟨rfl, .same _⟩
  rw [show (s.apply input published).1.orders = h.orders from congrArg Ledger.orders ledger]
  cases handled with
  | directly effect => exact ⟨effect.identity index occ, effect.advances occ⟩
  | afterDiscovery s₁ other kind discovery resolved effect =>
    have same : s₁.orders index = s.orders index := by
      rw [discovery.leaves.orders]
      exact update_of_ne (discovery.ne occ) _ _
    rw [← same] at occ ⊢
    exact ⟨effect.identity index occ, effect.advances occ⟩

/-- Every filed order keeps its place and identity and takes steps of the lifecycle only. -/
def Continues (s s' : DeterministicOms) : Prop :=
  ∀ index, (s.orders index).value.occupied = true →
    (s'.orders index).value.identity = (s.orders index).value.identity ∧
      Relation.ReflTransGen (fun v v' => ∃ event, Step v event v') (s.orders index).value.view
        (s'.orders index).value.view

/-- Over every sequence of calls from any state, no order is forgotten. -/
theorem orders_live_on (s : DeterministicOms) (calls : List Call) :
    Continues s (run call s calls) := by
  induction calls generalizing s with
  | nil => exact fun _ _ => ⟨rfl, .refl⟩
  | cons c rest ih =>
    intro index occ
    obtain ⟨identity, event, step, -⟩ := apply_advances s c.input c.published occ
    obtain ⟨identity', life⟩ := ih (s.call c) index
      ((congrArg OrderIdentity.occupied identity).trans occ)
    exact ⟨identity'.trans identity, life.head ⟨event, step⟩⟩

/-- The life of the order has ended, or it is out of service. -/
def closedState (state : OrderState) : Bool :=
  terminalState state || state == .unknownRecovery

def unsentState (state : OrderState) : Bool :=
  state == .created || state == .ready

theorem fill_target {origin target : OrderState} (allowed : transitionAllowed origin .fill target) :
    (closedState origin → closedState target) ∧ unsentState target = false := by
  revert allowed
  cases origin <;> cases target <;> decide

/-- Apart from recovery observations, no step takes fills back or reopens an order. -/
theorem Step.settled {v v' : OrderView} {event : OrderEvent} (step : Step v event v')
    (unobserved : ∀ observation units, event ≠ .observed observation units) :
    v.cumulative ≤ v'.cumulative ∧ (closedState v.state → closedState v'.state) := by
  have same : v.cumulative ≤ v.cumulative := UInt64.le_refl _
  cases step with
  | filled units fits allowed known =>
    refine ⟨?_, (fill_target allowed).1⟩
    rw [UInt64.le_iff_toNat_le, OrderView.toNat_cumulative_afterFill fits]
    exact Nat.le_add_right _ _
  | observed observation units => exact absurd rfl (unobserved observation units)
  | kept => exact ⟨same, id⟩
  | lost | withdrawn | canceled | expired | rejected => exact ⟨same, fun _ => rfl⟩
  | marked h | dispatched h | acknowledged h | cancelRefused h | replaced h | replaceRefused h =>
    exact ⟨same, fun ended => by simp [closedState, h, terminalState] at ended⟩
  | cancelRequested origin =>
    refine ⟨same, fun ended => ?_⟩
    rcases origin with h | h | h | h <;> simp [closedState, h, terminalState] at ended
  | replaceRequested _ _ origin =>
    refine ⟨same, fun ended => ?_⟩
    rcases origin with h | h <;> simp [closedState, h, terminalState] at ended

/-- No fill of an order is taken back, and one that ended or is out of service is not reopened. -/
def Settles (s s' : DeterministicOms) : Prop :=
  ∀ index, (s.orders index).value.occupied = true →
    (s.orders index).value.cumulativeFillQuantityUnits ≤
        (s'.orders index).value.cumulativeFillQuantityUnits ∧
      (closedState (s.orders index).value.state → closedState (s'.orders index).value.state)

/-- This holds over every sequence of calls without recovery observations, from any state. -/
theorem ended_orders_stay_ended (s : DeterministicOms) (calls : List Call)
    (unobserved : ∀ c ∈ calls, c.input.kind ≠ .recoveryObservation) :
    Settles s (run call s calls) := by
  induction calls generalizing s with
  | nil => exact fun _ _ => ⟨UInt64.le_refl _, id⟩
  | cons c rest ih =>
    intro index occ
    obtain ⟨identity, event, step, observed⟩ := apply_advances s c.input c.published occ
    have settled := step.settled fun observation units eq =>
      unobserved c List.mem_cons_self (observed observation units eq)
    have later := ih (s.call c) (fun c mem => unobserved c (List.mem_cons_of_mem _ mem)) index
      ((congrArg OrderIdentity.occupied identity).trans occ)
    exact ⟨UInt64.le_trans settled.1 later.1, fun ended => later.2 (settled.2 ended)⟩

open TestSupport in
/-- The rejection of an order that was sent is repeated by the drop copy. -/
theorem rejected_order_stays_ended :
    let s := run call (.construct configuration) [⟨accept 1 1, true⟩,
      ⟨internal .markReady (orderId 1) 2, true⟩, ⟨internal .dispatch (orderId 1) 3, true⟩,
      ⟨venue .rejection (orderId 1) 4 1, true⟩]
    (s.orders 64).value.state = .rejected ∧
      Settles s (run call s [⟨venue .rejection (orderId 1) 5 2 kExternal .dropCopy, true⟩]) :=
  ⟨by decide +kernel, ended_orders_stay_ended _ _ (by decide)⟩

theorem Step.sent {v v' : OrderView} {event : OrderEvent} (step : Step v event v')
    (sent : unsentState v.state = false) : unsentState v'.state = false := by
  have opened : unsentState v.openState = false := by
    rcases v.openState_eq with h | h <;> rw [h] <;> rfl
  cases step with
  | kept => exact sent
  | marked created => simp [unsentState, created] at sent
  | cancelRefused | replaced | replaceRefused => exact opened
  | filled _ _ allowed => exact (fill_target allowed).2
  | observed observation => cases observation <;> first | exact opened | exact sent | rfl
  | _ => rfl

theorem Emits.dispatches {order : OmsOrderSnapshot} {event : OrderEvent} {command : GatewayCommand}
    {v v' : OrderView} (emits : Emits input order event command) (kind : command.kind = .newOrder)
    (step : Step v event v') :
    command.orderId = order.orderId ∧ v.state = .ready ∧ v'.state = .pendingAck := by
  cases emits with
  | newOrder =>
    cases step with
    | dispatched ready => exact ⟨rfl, ready, rfl⟩
  | cancel | replace => cases kind

/-- The accepted order that a command was sent for. -/
def Sent (command : GatewayCommand) (s : DeterministicOms) (index : OrderIndex) : Prop :=
  (s.orders index).value.occupied = true ∧ (s.orders index).value.intentId.valid = true ∧
    (s.orders index).value.orderId = command.orderId

/-- The command for a new order takes an accepted order from ready to pending. -/
theorem sent_of_newOrder {c : Call} {command : GatewayCommand} (inv : Invariant s)
    (emitted : command ∈ s.emissions c) (kind : command.kind = .newOrder) :
    ∃ index, Sent command s index ∧ (s.orders index).value.state = .ready ∧
      ((s.call c).orders index).value.state = .pendingAck := by
  obtain ⟨input, published⟩ := c
  obtain ⟨rfl, loud⟩ := mem_emissions.mp emitted
  cases apply_applied s input published with
  | idle _ _ _ quiet | exhausted _ _ _ _ quiet => exact absurd quiet loud
  | committed m internal running room received concluded closing =>
    rw [closing.command] at loud kind ⊢
    cases received with
    | refused _ _ quiet => exact absurd quiet loud
    | handled h receipt valid fresh free handled recorded =>
      obtain ⟨index, slot, event, moves, leaves, emission⟩ := handled.emission loud
      obtain ⟨orderId, ready, pending⟩ := emission.command.dispatches kind moves.step
      have occ := occupied_of_resolveOrder moves.resolved
      have accepted : (s.orders index).value.intentId.valid = true := by
        by_contra missing
        have unknown := Bool.eq_false_iff.mpr missing
        cases ready.symm.trans ((inv.wellFormed.ordersSound index occ).unknown unknown)
      refine ⟨index, ⟨occ, accepted, ?_⟩, ready, ?_⟩
      · exact (orderId.trans moves.revised.orderId).symm
      have orders : (s.call ⟨input, published⟩).orders = update s.orders index slot := by
        have left := congrArg Ledger.orders closing.ledger
        rw [recorded] at left
        exact left.trans leaves.orders
      rw [orders, update_self]
      exact pending

theorem Sent.call {command : GatewayCommand} (sent : Sent command s index) (c : Call) :
    Sent command (s.call c) index := by
  have identity := (apply_advances s c.input c.published sent.1).1
  exact ⟨(congrArg OrderIdentity.occupied identity).trans sent.1,
    (congrArg (·.intentId.valid) identity).trans sent.2.1,
    (congrArg OrderIdentity.orderId identity).trans sent.2.2⟩

/-- Over every run of calls from a fresh service, no order is sent to the gateway twice. -/
theorem new_orders_sent_once (configuration : OmsConfiguration) (calls : List Call) :
    (outputs call emissions (.construct configuration) calls).Pairwise fun first later =>
      first.kind = .newOrder → later.kind = .newOrder → first.orderId ≠ later.orderId := by
  refine outputs_pairwise (I := Invariant)
    (J := fun command s => command.kind = .newOrder → ∃ index, Sent command s index ∧
      unsentState (s.orders index).value.state = false)
    (fun s c inv => inv.apply c.input c.published) ?_ ?_ ?_ ?_
    (construct_fresh configuration).invariant
  · intro s c _
    dsimp only [emissions]
    split
    · exact List.Pairwise.nil
    · exact List.pairwise_singleton _ _
  · intro s c command inv emitted kind
    obtain ⟨index, sent, -, pending⟩ := sent_of_newOrder inv emitted kind
    exact ⟨index, sent.call c, by rw [pending]; rfl⟩
  · intro s c command inv before kind
    obtain ⟨index, sent, state⟩ := before kind
    obtain ⟨-, event, step, -⟩ := apply_advances s c.input c.published sent.1
    exact ⟨index, sent.call c, step.sent state⟩
  · intro s c first later inv before emitted kind kind' same
    obtain ⟨index, ⟨occ, accepted, orderId⟩, state⟩ := before kind
    obtain ⟨other, ⟨occ', accepted', orderId'⟩, ready, -⟩ := sent_of_newOrder inv emitted kind'
    -- Accepted orders are found under their identifiers, so it is the same order.
    have found := inv.wellFormed.acceptedFound index occ accepted
    have found' := inv.wellFormed.acceptedFound other occ' accepted'
    rw [show (s.ledger.orders index).value.orderId = (s.ledger.orders other).value.orderId from
      orderId.trans (same.trans orderId'.symm), found'] at found
    cases found
    simp [unsentState, ready] at state

/-- A service that reports to be healthy has no alarm, valid orders, none of them out of service,
and every execution confirmed by both sources where that is required. -/
def TrulyHealthy (s : DeterministicOms) : Prop :=
  s.health = .healthy → s.OrdersValid ∧ s.invariant = .none ∧
    (∀ index, (s.orders index).value.occupied → (s.orders index).value.state ≠ .unknownRecovery) ∧
    (s.configuration.requireDropCopy → ∀ execution, (s.executions execution).occupied →
      (s.executions execution).sourceMask = 3)

/-- In every state of every run, from construction on, health is reported truthfully. -/
theorem health_is_truthful (configuration : OmsConfiguration) (calls : List Call) :
    Always call TrulyHealthy (.construct configuration) calls := by
  intro before _ healthy
  have inv : Invariant (run call (.construct configuration) before) :=
    run_preserves (fun s c inv => inv.apply c.input c.published)
      (construct_fresh configuration).invariant before
  have settled := healthFromState_eq_healthy.mp (inv.settled healthy)
  exact ⟨inv.ordersValid settled.1, settled⟩

end Aegis.Oms
