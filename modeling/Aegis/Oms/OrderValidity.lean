import Aegis.Oms.Reachability
import Aegis.Oms.TestSupport

/-!
When every stored order passes `valid_order_snapshot`. A rejection, or a fill that cannot be true,
of an order that ended with quantity left breaks it.
-/

namespace Aegis.Oms

open Aegis.Common Aegis.Foundation DeterministicOms

variable {s s' : DeterministicOms} {input : OmsInput} {r : InternalResult}

/-- The input reopens an order that ended with quantity left. -/
structure DeterministicOms.ReopensAt (s : DeterministicOms) (input : OmsInput)
    (index : OrderIndex) : Prop where
  authority : s.authorityMatches input.authority = true
  resolved : s.resolveOrder input = some index
  terminal : terminalState (s.orders index).value.state = true
  open_quantity : (s.orders index).value.cumulativeFillQuantityUnits ≠
    (s.orders index).value.quantityUnits
  contradiction : input.kind = .rejection ∨ input.kind = .fill ∧ s.Contradicts input index

def DeterministicOms.Reopens (s : DeterministicOms) (input : OmsInput) : Prop :=
  s.Reaches input ∧ ∃ index, s.ReopensAt input index

/-! ### Without a reopening the orders stay balanced -/

variable {index : OrderIndex} {m : DeterministicOms}

theorem Moves.balanced {slot : OrderSlot} {event : OrderEvent}
    (moves : Moves s input index slot event) (calm : ¬ s.ReopensAt input index)
    (orders : s'.orders = Function.update s.orders index slot) (balanced : s.OrdersBalanced) :
    s'.OrdersBalanced := by
  refine balanced.update orders fun occ accepted => ?_
  rw [moves.revised.occupied] at occ
  rw [moves.revised.intentId] at accepted
  refine moves.step.balanced (balanced index occ accepted) ?_
  rintro rfl terminal
  by_contra unused
  exact calm ⟨moves.authority, moves.resolved, terminal, unused, moves.cause⟩

theorem acceptedOrder_balanced (s : DeterministicOms) (input : OmsInput) :
    (s.acceptedOrder input).view.Balanced := by
  rw [OrderView.balanced_of_open rfl]
  simp [acceptedOrder, OmsOrderSnapshot.view]

theorem Effect.balanced (effect : Effect s input s' r) (calm : ∀ index, ¬ s.ReopensAt input index)
    (balanced : s.OrdersBalanced) : s'.OrdersBalanced := by
  cases effect with
  | refused leaves => exact balanced.congr leaves.orders
  | accepted index kind newIntent newOrder free leaves =>
    exact balanced.update leaves.orders fun _ _ =>
      acceptedOrder_balanced s input
  | discovered index discovery => exact discovery.balanced balanced
  | moved index slot event moves leaves
  | executed index slot event execution moves kind counted new free leaves
  | confirmed index slot execution moves kind found same leaves =>
    exact moves.balanced (calm index) leaves.orders balanced
  | rotated kind newer leaves =>
    have orders : s'.orders = fun index => rotatedSlot (s.orders index) input :=
      leaves.orders
    intro index occ accepted
    simp only [orders] at occ accepted ⊢
    rcases rotatedSlot_cases (s.orders index) input with same | ⟨held, -, identity, -, -, -, step⟩
    · rw [same] at occ accepted ⊢
      exact balanced index occ accepted
    · have intent : (rotatedSlot (s.orders index) input).value.intentId =
          (s.orders index).value.intentId := congrArg OrderIdentity.intentId identity
      rw [intent] at accepted
      exact step.balanced (balanced index held accepted) (by simp)

theorem Handled.balanced (handled : Handled s input s' r)
    (calm : ∀ index, ¬ s.ReopensAt input index) (balanced : s.OrdersBalanced) :
    s'.OrdersBalanced := by
  cases handled with
  | directly effect => exact effect.balanced calm balanced
  | afterDiscovery s₁ index kind discovery resolved effect =>
    refine effect.balanced (fun other reopens => ?_) (discovery.balanced balanced)
    -- The fill resolves to the order that was just filed, which has not ended.
    have same : other = index := Option.some.inj (reopens.resolved.symm.trans resolved)
    have unknown : (s₁.orders index).value.state = .unknownRecovery := by
      rw [show s₁.orders = _ from discovery.leaves.orders]
      simp [unknownOrderRecord]
    have terminal := reopens.terminal
    rw [same, unknown] at terminal
    cases terminal

/-! ### A reopened order is not balanced -/

theorem DeterministicOms.ReopensAt.applyLocked (reopens : s.ReopensAt input index) :
    ((s.applyLocked input).1.orders index).value = (s.orders index).value.lost input := by
  have terminal := reopens.terminal
  rcases reopens.contradiction with kind | ⟨kind, ⟨execution, found, different⟩ |
    ⟨new, ⟨execution, free⟩, known, excess⟩⟩
  · have refused : s.transition index input .rejected = none := by
      rw [transition_eq, if_neg]
      rw [kind, transitionAllowed_rejection]
      rintro ⟨pending, -⟩
      rw [pending] at terminal
      cases terminal
    simp [DeterministicOms.applyLocked, kind, applyRejection, reopens.authority, reopens.resolved,
      refused]
  · simp [DeterministicOms.applyLocked, kind, applyFill, reopens.authority, reopens.resolved,
      applyFillAt, found, applyExistingFill_conflict different, setUnsafe]
  · simp [DeterministicOms.applyLocked, kind, applyFill, reopens.authority, reopens.resolved,
      applyFillAt, new, free, applyNewFill_over known excess, setUnsafe]

theorem DeterministicOms.ReopensAt.unbalanced
    (reopens : s.ReopensAt input index) (wf : WellFormed s.ledger) (balanced : s.OrdersBalanced) :
    (s.orders index).value.occupied = true ∧ (s.orders index).value.intentId.valid = true ∧
      ¬ ((s.orders index).value.lost input).view.Balanced := by
  have occ := occupied_of_resolveOrder reopens.resolved
  have known : (s.orders index).value.state ≠ .unknownRecovery := by
    intro unknown
    have terminal := reopens.terminal
    rw [unknown] at terminal
    cases terminal
  have accepted := wf.accepted_of_known occ known
  refine ⟨occ, accepted, fun after => reopens.open_quantity ?_⟩
  have bounded : (s.orders index).value.cumulativeFillQuantityUnits ≤
      (s.orders index).value.quantityUnits :=
    ((wf.ordersSound index occ).accepted accepted).view.bounded
  have nothing : (s.orders index).value.remainingQuantityUnits = 0 := by
    have before := balanced index occ accepted
    unfold OrderView.Balanced at before
    split at before
    · exact before.2
    · rw [if_pos (show terminalState (s.orders index).value.view.state = true from
        reopens.terminal)] at before
      exact before
  have rest : (s.orders index).value.remainingQuantityUnits =
      (s.orders index).value.quantityUnits - (s.orders index).value.cumulativeFillQuantityUnits :=
    (OrderView.balanced_of_open rfl).mp after
  rw [nothing, ← UInt64.toNat_inj, UInt64.toNat_sub_of_le _ _ bounded, UInt64.toNat_zero] at rest
  rw [UInt64.le_iff_toNat_le] at bounded
  rw [← UInt64.toNat_inj]
  omega

theorem Received.balanced (received : Received s input m r)
    (running : s.Running) (room : s.JournalRoom) (calm : ¬ s.Reopens input)
    (balanced : s.OrdersBalanced) : m.OrdersBalanced := by
  cases received with
  | refused leaves => exact balanced.congr leaves.orders
  | handled h receipt valid fresh free handled recorded =>
    subst recorded
    refine (handled.balanced (fun index reopens => ?_) balanced).congr rfl
    exact calm ⟨⟨running, room, valid, fresh⟩, index, reopens⟩

theorem validSnapshot_of_calm {sequence : Nat} (inv : Invariant s)
    (clear : s.invariant = .none) (received : Received s input m r) (running : s.Running)
    (room : s.JournalRoom) (time : input.processMonotonicTimeNs ≠ 0) (calm : ¬ s.Reopens input) :
    validSnapshot ((s.reserving m).nextSnapshot input sequence) := by
  have wf : WellFormed m.ledger := received.wellFormed inv.wellFormed running.2
  have balanced := (ordersValid_iff_balanced inv.wellFormed).mp (inv.ordersValid clear)
  refine validSnapshot_of_wellFormed (s := s.reserving m) wf ?_ time ?_
  · exact received.frame.initialized.trans running.2
  · exact (ordersValid_iff_balanced wf).mpr (received.balanced running room calm balanced)

/-- One call keeps the orders valid exactly when it reopens none. -/
theorem apply_ordersValid_iff (inv : Invariant s) (valid : s.OrdersValid) (published : Bool) :
    (s.apply input published).1.OrdersValid ↔ ¬ s.Reopens input := by
  have inv' := inv.apply input published
  have balanced := (ordersValid_iff_balanced inv.wellFormed).mp valid
  rw [ordersValid_iff_balanced inv'.wellFormed]
  constructor
  · rintro after ⟨reaches, index, reopens⟩
    obtain ⟨receipt, free⟩ := inv.receiptRoom reaches.room input.receiptId
    obtain ⟨occ, accepted, unbalanced⟩ := reopens.unbalanced inv.wellFormed balanced
    have record : ((s.apply input published).1.orders index).value =
        (s.orders index).value.lost input := by
      rw [reaches.orders free]
      exact reopens.applyLocked
    apply unbalanced
    rw [← record]
    refine after index ?_ ?_
    · rw [record]
      exact occ
    · rw [record]
      exact accepted
  · intro calm
    cases apply_applied s input published with
    | idle off same =>
      rw [same]
      exact balanced
    | exhausted running full same =>
      rw [same]
      exact balanced.congr rfl
    | committed m internal running room received concluded closing =>
      exact (received.balanced running room calm balanced).congr
        (congrArg Ledger.orders closing.ledger)

/-- Every order is valid exactly when no ended one is reopened. -/
theorem ordersValid_always_iff (configuration : OmsConfiguration) (calls : List Call) :
    Always call OrdersValid (.construct configuration) calls ↔
      Throughout call (fun s c => ¬ s.Reopens c.input) (.construct configuration) calls := by
  have fresh := construct_fresh configuration
  have start : (construct configuration).OrdersValid := by
    intro index
    rw [show (construct configuration).orders = _ from congrArg Ledger.orders fresh.ledger]
    nofun
  refine always_iff_throughout (I := Invariant) (P := OrdersValid) ?_ ?_ fresh.invariant start
  · intro s c inv
    exact inv.apply c.input c.published
  · intro s c inv valid
    exact apply_ordersValid_iff inv valid c.published

open TestSupport

/-- A rejection that both sources report. -/
theorem not_ordersValid_of_dual_rejection : ¬ (run call (.construct configuration)
      [⟨accept 1 1, true⟩, ⟨internal .markReady (orderId 1) 2, true⟩,
        ⟨internal .dispatch (orderId 1) 3, true⟩, ⟨venue .rejection (orderId 1) 4 1, true⟩,
        ⟨venue .rejection (orderId 1) 5 2 kExternal .dropCopy, true⟩]).OrdersValid := by
  intro valid
  have broken := valid 64
  revert broken
  decide +kernel

end Aegis.Oms
