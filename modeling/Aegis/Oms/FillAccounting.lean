import Aegis.Oms.Reachability
import Aegis.Oms.TestSupport
import Mathlib.Algebra.Order.BigOperators.Group.Finset

/-!
The cumulative quantity of an order against its executions, where no order is observed from
outside and no unknown order takes the identifier of one in service.
-/

namespace Aegis.Oms

open Aegis.Common Aegis.Foundation Function OmsOrderSnapshot

def ExecutionSlot.unitsFor (slot : ExecutionSlot) (orderId : OrderId) : Nat :=
  if slot.occupied = true ∧ slot.orderId = orderId then slot.quantityUnits.toNat else 0

/-- The order is accepted and not out of service. -/
def OmsOrderSnapshot.inService (order : OmsOrderSnapshot) : Bool :=
  order.occupied && order.intentId.valid && order.state != .unknownRecovery

namespace DeterministicOms

def executedUnits (s : DeterministicOms) (orderId : OrderId) : Nat :=
  ∑ execution, (s.executions execution).unitsFor orderId

/-- Every order in service was credited its executions exactly once. -/
structure Accounted (s : DeterministicOms) : Prop where
  credited : ∀ index, (s.orders index).value.inService = true →
    (s.orders index).value.cumulativeFillQuantityUnits.toNat =
      s.executedUnits (s.orders index).value.orderId
  distinct : ∀ i j, (s.executions i).occupied = true → (s.executions j).occupied = true →
    (s.executions i).executionId = (s.executions j).executionId → i = j
  bounded : ∀ index, (s.orders index).value.inService = true →
    (s.orders index).value.cumulativeFillQuantityUnits ≤ (s.orders index).value.quantityUnits

/-- It would file an unknown order under one in service. -/
def collides (s : DeterministicOms) (input : OmsInput) : Bool :=
  s.resolveOrder input = none && orderSlots.any fun index =>
      (s.orders index).value.inService && (s.orders index).value.orderId == s.unknownOrderId input

/-- No other order carries the identifier of an order in service. -/
def Unshared (s : DeterministicOms) : Prop :=
  ∀ i j, (s.orders i).value.inService = true → (s.orders j).value.occupied = true →
    (s.orders i).value.orderId = (s.orders j).value.orderId → i = j

structure Audited (s : DeterministicOms) : Prop where
  unshared : s.Unshared
  credited : ∀ index, (s.orders index).value.inService = true →
    (s.orders index).value.cumulativeFillQuantityUnits.toNat =
      s.executedUnits (s.orders index).value.orderId

end DeterministicOms

open DeterministicOms

variable {s s' : DeterministicOms} {input : OmsInput} {r : InternalResult}

theorem executedUnits_congr (executions : s'.executions = s.executions) (orderId : OrderId) :
    s'.executedUnits orderId = s.executedUnits orderId := by
  unfold executedUnits
  rw [executions]

variable {execution : ExecutionIndex} {order : OmsOrderSnapshot} {event : OrderEvent}
  {index : OrderIndex} {slot : OrderSlot}

theorem executedUnits_update {slot : ExecutionSlot}
    (executions : s'.executions = update s.executions execution slot) (orderId : OrderId) :
    s'.executedUnits orderId + (s.executions execution).unitsFor orderId =
      s.executedUnits orderId + slot.unitsFor orderId := by
  unfold executedUnits
  rw [executions]
  exact sum_update_add (fun slot : ExecutionSlot => slot.unitsFor orderId) s.executions execution slot

theorem executedUnits_record {orderId : OrderId} (free : (s.executions execution).occupied = false)
    (executions : s'.executions =
      update s.executions execution (executionRecord input orderId)) (other : OrderId) :
    s'.executedUnits other =
      s.executedUnits other + if orderId = other then input.quantityUnits.toNat else 0 := by
  have exchange := executedUnits_update executions other
  have empty : (s.executions execution).unitsFor other = 0 := by
    simp [ExecutionSlot.unitsFor, free]
  rw [empty, Nat.add_zero] at exchange
  rw [exchange]
  simp [ExecutionSlot.unitsFor, executionRecord]

theorem unitsFor_le_executedUnits (execution : ExecutionIndex) (orderId : OrderId) :
    (s.executions execution).unitsFor orderId ≤ s.executedUnits orderId :=
  Finset.single_le_sum (f := fun e => (s.executions e).unitsFor orderId)
    (fun _ _ => Nat.zero_le _) (Finset.mem_univ execution)

theorem executedUnits_eq_zero (wf : WellFormed s.ledger) {orderId : OrderId}
    (absent : ∀ index, (s.orders index).value.occupied →
      (s.orders index).value.orderId ≠ orderId) : s.executedUnits orderId = 0 := by
  apply Finset.sum_eq_zero
  intro execution _
  unfold ExecutionSlot.unitsFor
  rw [if_neg]
  rintro ⟨occ, named⟩
  obtain ⟨index, held, same⟩ := wf.executionsNamed execution occ
  exact absent index held (same.trans named)

theorem OmsOrderSnapshot.inService_eq : order.inService ↔
      order.occupied ∧ order.intentId.valid ∧ order.state ≠ .unknownRecovery := by
  simp [inService, and_assoc]

theorem Step.cumulative {v v' : OrderView} (step : Step v event v')
    (uncounted : ∀ quantityUnits, event ≠ .filled quantityUnits)
    (unobserved : ∀ observation quantityUnits, event ≠ .observed observation quantityUnits) :
    v'.cumulative = v.cumulative := by
  cases step with
  | filled quantityUnits => exact absurd rfl (uncounted quantityUnits)
  | observed observation quantityUnits => exact absurd rfl (unobserved observation quantityUnits)
  | _ => rfl

theorem Revised.inService {order' : OmsOrderSnapshot}
    (revised : Revised input order order') (step : Step order.view event order'.view)
    (unobserved : ∀ observation quantityUnits, event ≠ .observed observation quantityUnits)
    (after : order'.inService) : order.inService := by
  rw [inService_eq, revised.occupied, revised.intentId] at after
  rw [inService_eq]
  refine ⟨after.1, after.2.1, fun unknown => after.2.2 ?_⟩
  exact Step.unknown step unknown unobserved

theorem Moves.unobserved
    (moves : Moves s input index slot event) (kind : input.kind ≠ .recoveryObservation) :
    ∀ observation quantityUnits, event ≠ .observed observation quantityUnits := by
  rintro observation quantityUnits rfl
  exact kind moves.cause.1

theorem DeterministicOms.Audited.carry (audited : s.Audited)
    (identity : ∀ index, (s'.orders index).value.identity = (s.orders index).value.identity)
    (service : ∀ index, (s'.orders index).value.inService → (s.orders index).value.inService)
    (credited : ∀ index, (s'.orders index).value.inService →
      (s'.orders index).value.cumulativeFillQuantityUnits.toNat =
        s'.executedUnits (s.orders index).value.orderId) : s'.Audited := by
  have orderId : ∀ index, (s'.orders index).value.orderId = (s.orders index).value.orderId :=
    fun index => congrArg OrderIdentity.orderId (identity index)
  have occupied : ∀ index, (s'.orders index).value.occupied = (s.orders index).value.occupied :=
    fun index => congrArg OrderIdentity.occupied (identity index)
  refine ⟨fun i j serving occ same => ?_, fun index serving => ?_⟩
  · rw [orderId, orderId] at same
    rw [occupied] at occ
    exact audited.unshared i j (service i serving) occ same
  · rw [orderId]
    exact credited index serving

theorem DeterministicOms.Audited.congr (audited : s.Audited) (orders : s'.orders = s.orders)
    (executions : s'.executions = s.executions) : s'.Audited := by
  refine audited.carry (by simp [orders]) (by simp [orders]) fun index serving => ?_
  rw [executedUnits_congr executions, orders]
  exact audited.credited index (orders ▸ serving)

theorem DeterministicOms.Audited.file (audited : s.Audited)
    (orders : s'.orders = update s.orders index slot) (executions : s'.executions = s.executions)
    (new : slot.value.inService →
      slot.value.cumulativeFillQuantityUnits = 0 ∧ s.executedUnits slot.value.orderId = 0)
    (unused : ∀ other, (s.orders other).value.occupied →
      slot.value.inService ∨ (s.orders other).value.inService →
      (s.orders other).value.orderId ≠ slot.value.orderId) : s'.Audited := by
  refine ⟨fun i j serving occ same => ?_, fun other serving => ?_⟩
  · rw [orders] at serving occ same
    refine eq_of_update (R := fun (a b : OrderSlot) => a.value.inService ∧ b.value.occupied ∧
        a.value.orderId = b.value.orderId)
      (fun i j both => audited.unshared i j both.1 both.2.1 both.2.2) ?_ ?_ ⟨serving, occ, same⟩
    · rintro j - ⟨serving, occ, same⟩
      exact unused j occ (.inl serving) same.symm
    · rintro i - ⟨serving, -, same⟩
      exact unused i (inService_eq.mp serving).1 (.inr serving) same
  · rw [orders] at serving ⊢
    rw [executedUnits_congr executions]
    by_cases eq : other = index
    · subst eq
      rw [update_self] at serving ⊢
      obtain ⟨nothing, empty⟩ := new serving
      rw [nothing, empty]
      rfl
    · rw [update_of_ne eq] at serving ⊢
      exact audited.credited other serving

section Effects

variable {index : OrderIndex} {slot : OrderSlot} {event : OrderEvent}

section

variable (moves : Moves s input index slot event)
include moves

theorem Moves.identity (orders : s'.orders = update s.orders index slot) (other : OrderIndex) :
    (s'.orders other).value.identity = (s.orders other).value.identity := by
  rw [orders]
  by_cases eq : other = index
  · subst eq
    rw [update_self]
    exact moves.revised.identity
  · rw [update_of_ne eq]

theorem Moves.service (kind : input.kind ≠ .recoveryObservation)
    (orders : s'.orders = update s.orders index slot) (other : OrderIndex)
    (serving : (s'.orders other).value.inService) : (s.orders other).value.inService := by
  rw [orders] at serving
  by_cases eq : other = index
  · subst eq
    rw [update_self] at serving
    exact moves.revised.inService moves.step (moves.unobserved kind) serving
  · rwa [update_of_ne eq] at serving

theorem Moves.audited (kind : input.kind ≠ .recoveryObservation)
    (uncounted : ∀ quantityUnits, event ≠ .filled quantityUnits)
    (orders : s'.orders = update s.orders index slot)
    (units : ∀ other, (s.orders other).value.inService →
      s'.executedUnits (s.orders other).value.orderId =
        s.executedUnits (s.orders other).value.orderId) (audited : s.Audited) : s'.Audited := by
  refine audited.carry (moves.identity orders) (moves.service kind orders) fun other serving => ?_
  have before := moves.service kind orders other serving
  rw [units other before, ← audited.credited other before, orders]
  by_cases eq : other = index
  · subst eq
    rw [update_self]
    exact congrArg UInt64.toNat (moves.step.cumulative uncounted (moves.unobserved kind))
  · rw [update_of_ne eq]

end

theorem Moves.audited_filled {execution : ExecutionIndex}
    (moves : Moves s input index slot (.filled input.quantityUnits))
    (free : (s.executions execution).occupied = false) (kind : input.kind = .fill)
    (orders : s'.orders = update s.orders index slot)
    (executions : s'.executions = update s.executions execution
      (executionRecord input (s.orders index).value.orderId)) (audited : s.Audited) :
    s'.Audited := by
  have unobserved : input.kind ≠ .recoveryObservation := by simp [kind]
  refine audited.carry (moves.identity orders) (moves.service unobserved orders)
    fun other serving => ?_
  have before := moves.service unobserved orders other serving
  rw [executedUnits_record free executions, ← audited.credited other before, orders]
  by_cases eq : other = index
  · subst eq
    rw [update_self, if_pos rfl]
    have step := moves.step
    generalize filled : slot.value.view = v at step
    cases step with
    | filled _ fits =>
      have sum := OrderView.toNat_cumulative_afterFill fits
      rw [← filled] at sum
      exact sum
  · rw [update_of_ne eq, if_neg, Nat.add_zero]
    -- Only one order carries the identifier the execution names.
    intro same
    exact eq (audited.unshared other index before (occupied_of_resolveOrder moves.resolved) same.symm)

/-- An unknown order adds nothing to the accounts, unless it collides. -/
theorem Discovery.audited {index : OrderIndex} (discovery : Discovery s input s' index)
    (apart : s.collides input = false) (audited : s.Audited) : s'.Audited := by
  have unknown : (s.unknownOrderRecord input).inService = false := by
    simp [inService, unknownOrderRecord]
  refine audited.file discovery.leaves.orders discovery.leaves.executions ?_ ?_
  · intro serving
    rw [unknown] at serving
    cases serving
  rintro other occ (serving | serving) same
  · rw [unknown] at serving
    cases serving
  -- This is the collision that the condition excludes.
  have shared : s.collides input := by
    simp only [collides, discovery.absent, decide_true, Bool.true_and, List.any_eq_true]
    exact ⟨other, mem_orderSlots other, Bool.and_eq_true_iff.mpr ⟨serving, beq_iff_eq.mpr same⟩⟩
  rw [shared] at apart
  cases apart

theorem Effect.audited (effect : Effect s input s' r) (wf : WellFormed s.ledger)
    (kind : input.kind ≠ .recoveryObservation)
    (apart : s.collides input = false) (audited : s.Audited) : s'.Audited := by
  cases effect with
  | refused leaves =>
    exact audited.congr leaves.orders leaves.executions
  | accepted index isAccept newIntent newOrder free leaves =>
    have absent := newOrder
    rw [findOrder_of_valid deterministicOrderId_valid] at absent
    have unused := wf.ordersChained.find_eq_none_iff.mp absent
    refine audited.file leaves.orders leaves.executions (fun _ => ⟨rfl, ?_⟩) fun other occ _ => ?_
    · exact executedUnits_eq_zero wf unused
    · exact unused other occ
  | discovered index discovery => exact discovery.audited apart audited
  | moved index slot event moves leaves reported orderIndex command uncounted =>
    refine moves.audited kind uncounted leaves.orders (fun other _ => ?_)
      audited
    exact executedUnits_congr leaves.executions _
  | executed index slot event execution moves isFill counted new free leaves =>
    have vacant : (s.executions execution).occupied = false := Layout.free_of_findFree free
    have executions : s'.executions = _ := leaves.executions
    rcases counted with rfl | ⟨rfl, unknown⟩
    · exact moves.audited_filled vacant isFill leaves.orders executions
        audited
    refine moves.audited kind (by simp) leaves.orders (fun other serving => ?_) audited
    rw [executedUnits_record vacant executions, if_neg, Nat.add_zero]
    intro same
    have occ := occupied_of_resolveOrder moves.resolved
    have eq := audited.unshared other index serving occ same.symm
    subst eq
    exact (inService_eq.mp serving).2.2 unknown
  | confirmed index slot execution moves isFill found same leaves =>
    refine moves.audited kind (by simp) leaves.orders (fun other _ => ?_) audited
    have executions : s'.executions = _ := leaves.executions
    have exchange := executedUnits_update executions (s.orders other).value.orderId
    exact Nat.add_right_cancel exchange
  | rotated isUpdate newer leaves =>
    have orders : s'.orders = _ := leaves.orders
    have executions : s'.executions = s.executions := leaves.executions
    have slots : ∀ index, (s'.orders index).value.identity = (s.orders index).value.identity ∧
        ((s'.orders index).value.inService → s'.orders index = s.orders index) := by
      intro index
      rw [orders]
      rcases rotatedSlot_cases (s.orders index) input with same | ⟨-, -, identity, -, -, -, step⟩
      · exact ⟨congrArg (fun slot => slot.value.identity) same, fun _ => same⟩
      refine ⟨identity, fun serving => ?_⟩
      have unknown : (rotatedSlot (s.orders index) input).value.state = .unknownRecovery := by
        generalize after : (rotatedSlot (s.orders index) input).value.view = v at step
        cases step with
        | withdrawn => exact congrArg OrderView.state after
      exact absurd unknown (inService_eq.mp serving).2.2
    refine audited.carry (fun index => (slots index).1) (fun index serving => ?_)
      fun index serving => ?_
    · rw [← (slots index).2 serving]
      exact serving
    · rw [executedUnits_congr executions, (slots index).2 serving]
      rw [(slots index).2 serving] at serving
      exact audited.credited index serving

end Effects

theorem Handled.audited (handled : Handled s input s' r) (wf : WellFormed s.ledger)
    (initialized : s.initialized) (valid : validInput input)
    (kind : input.kind ≠ .recoveryObservation) (apart : s.collides input = false)
    (audited : s.Audited) : s'.Audited := by
  cases handled with
  | directly effect => exact effect.audited wf kind apart audited
  | afterDiscovery s₁ index isFill discovery resolved effect =>
    refine effect.audited (discovery.wellFormed wf initialized valid) kind ?_
      (discovery.audited apart audited)
    simp [collides, resolved]

theorem DeterministicOms.Audited.apply (audited : s.Audited) (inv : Invariant s) (published : Bool)
    (kind : input.kind ≠ .recoveryObservation) (apart : s.collides input = false) :
    (s.apply input published).1.Audited := by
  rcases s.apply_ledger input published with same | ⟨h, _, _, running, valid, -, handled, ledger⟩
  · exact audited.congr (congrArg Ledger.orders same) (congrArg Ledger.executions same)
  · exact (handled.audited inv.wellFormed running.2 valid kind apart audited).congr
      (congrArg Ledger.orders ledger) (congrArg Ledger.executions ledger)

theorem DeterministicOms.Audited.accounted (audited : s.Audited) (inv : Invariant s) :
    s.Accounted := by
  refine ⟨audited.credited, inv.wellFormed.executionsDistinct, fun index serving => ?_⟩
  obtain ⟨occ, accepted, -⟩ := inService_eq.mp serving
  exact ((inv.wellFormed.ordersSound index occ).accepted accepted).view.bounded

theorem DeterministicOms.Fresh.audited {configuration : OmsConfiguration}
    (fresh : s.Fresh configuration) : s.Audited := by
  have orders : s.orders = fun _ => {} := congrArg Ledger.orders fresh.ledger
  constructor
  · intro i j serving
    rw [orders] at serving
    cases serving
  · intro index serving
    rw [orders] at serving
    cases serving

/-- A call that is neither an observation nor a collision. -/
def DeterministicOms.KeepsAccounts (s : DeterministicOms) (c : Call) : Prop :=
  c.input.kind ≠ .recoveryObservation ∧ s.collides c.input = false

instance (c : Call) : Decidable (s.KeepsAccounts c) :=
  inferInstanceAs (Decidable (_ ∧ _))

/-- Without observations and collisions every order in service has been credited the sum of its
executions, none is stored twice, and no order is filled beyond its quantity. -/
theorem accounted_of_keepsAccounts (configuration : OmsConfiguration) (calls : List Call)
    (conditions : Throughout call KeepsAccounts (.construct configuration) calls) :
    Always call Accounted (.construct configuration) calls := by
  have fresh := construct_fresh configuration
  have carried : Always call (fun s => Invariant s ∧ s.Audited) (.construct configuration) calls := by
    refine always_of_throughout (fun s c held allowed => ?_) ⟨fresh.invariant, fresh.audited⟩
      conditions
    exact ⟨held.1.apply _ _, held.2.apply held.1 _ allowed.1 allowed.2⟩
  intro before initial
  obtain ⟨inv, audited⟩ := carried before initial
  exact audited.accounted inv

open TestSupport

/-- Both sources report the same fill, one of them twice. -/
theorem accounted_of_dual_reports : Always call Accounted (.construct configuration)
      [⟨accept 1 1, true⟩, ⟨internal .markReady (orderId 1) 2, true⟩,
        ⟨internal .dispatch (orderId 1) 3, true⟩, ⟨fill (orderId 1) 4 1 1 4, true⟩,
        ⟨fill (orderId 1) 5 2 1 4 .dropCopy, true⟩, ⟨fill (orderId 1) 4 1 1 4, true⟩] :=
  accounted_of_keepsAccounts _ _ (by decide +kernel)

/-- The derived identifier of this one is that of the first order. -/
def collidingExternal : ExternalOrderId :=
  ⟨(orderId 1).high ^^^ configuration.exchangeSessionEpoch, (orderId 1).low ^^^ 0x4F4D535245434F56⟩

def collided : DeterministicOms :=
  run call (.construct configuration)
    [⟨accept 1 1, true⟩, ⟨fill {} 2 1 1 4 .gateway collidingExternal, true⟩]

/-- A fill is recorded for an order that it is not credited to. -/
theorem not_accounted_of_collision : ¬ collided.Accounted := by
  obtain ⟨serving, nothing, units⟩ : (collided.orders 64).value.inService = true ∧
      (collided.orders 64).value.cumulativeFillQuantityUnits.toNat = 0 ∧
      (collided.executions (executionBucket ⟨106, 1⟩)).unitsFor
        (collided.orders 64).value.orderId = 4 := by
    decide +kernel
  intro accounted
  have sum := accounted.credited 64 serving
  have part := unitsFor_le_executedUnits (s := collided) (executionBucket ⟨106, 1⟩)
    (collided.orders 64).value.orderId
  omega

end Aegis.Oms
