import Aegis.Oms.FillAccounting

/-!
The identifiers of the order table. Order identifiers are unique as long as no unknown order is
filed under one already there: `unknown_order` does not look for it.
-/

namespace Aegis.Oms

open Aegis.Common Aegis.Foundation Function

namespace DeterministicOms

/-- It would file an unknown order under a known identifier. -/
def shadows (s : DeterministicOms) (input : OmsInput) : Bool :=
  (s.resolveOrder input).isNone && (s.findOrder (s.unknownOrderId input)).isSome

/-- Identifiers are unique, and both lookups return their order. -/
structure Identified (s : DeterministicOms) : Prop where
  orderIds : ∀ i j, (s.orders i).value.occupied = true → (s.orders j).value.occupied = true →
    (s.orders i).value.orderId = (s.orders j).value.orderId → i = j
  intentIds : ∀ i j, (s.orders i).value.occupied = true → (s.orders j).value.occupied = true →
    (s.orders i).value.intentId.valid = true →
    (s.orders i).value.intentId = (s.orders j).value.intentId → i = j
  externalIds : ∀ i j, (s.orders i).value.occupied = true → (s.orders j).value.occupied = true →
    (s.orders i).value.externalOrderId.valid = true →
    (s.orders i).value.externalOrderId = (s.orders j).value.externalOrderId → i = j
  findOrder : ∀ index, (s.orders index).value.occupied = true →
    s.findOrder (s.orders index).value.orderId = some index
  findOrderByExternal : ∀ index, (s.orders index).value.occupied = true →
    (s.orders index).value.externalOrderId.valid = true →
    s.findOrderByExternal (s.orders index).value.externalOrderId = some index

def ExternalsDistinct (s : DeterministicOms) : Prop :=
  ∀ i j, (s.orders i).value.occupied = true → (s.orders j).value.occupied = true →
    (s.orders i).value.externalOrderId.valid = true →
    (s.orders i).value.externalOrderId = (s.orders j).value.externalOrderId → i = j

structure Unambiguous (s : DeterministicOms) : Prop where
  orderIds : orderLayout.Distinct s.orders
  externalIds : s.ExternalsDistinct

end DeterministicOms

open DeterministicOms

variable {s s' : DeterministicOms} {input : OmsInput} {r : InternalResult} {index : OrderIndex}
  {slot : OrderSlot}

theorem DeterministicOms.Unambiguous.congr (unambiguous : s.Unambiguous)
    (orders : s'.orders = s.orders) : s'.Unambiguous := by
  obtain ⟨orderIds, externalIds⟩ := unambiguous
  refine ⟨orders ▸ orderIds, ?_⟩
  unfold ExternalsDistinct
  rw [orders]
  exact externalIds

theorem DeterministicOms.ExternalsDistinct.update (distinct : s.ExternalsDistinct)
    (orders : s'.orders = update s.orders index slot)
    (alone : slot.value.externalOrderId.valid → ∀ other, other ≠ index →
      (s.orders other).value.occupied →
      (s.orders other).value.externalOrderId ≠ slot.value.externalOrderId) :
    s'.ExternalsDistinct := by
  intro i j occI occJ valid same
  rw [orders] at occI occJ valid same
  refine eq_of_update (R := fun (a b : OrderSlot) => a.value.occupied ∧ b.value.occupied ∧
      a.value.externalOrderId.valid ∧ a.value.externalOrderId = b.value.externalOrderId)
    (fun i j both => distinct i j both.1 both.2.1 both.2.2.1 both.2.2.2) ?_ ?_
    ⟨occI, occJ, valid, same⟩
  · rintro j ne ⟨-, occ, valid, same⟩
    exact alone valid j ne occ same.symm
  · rintro i ne ⟨occ, -, valid, same⟩
    exact alone (same ▸ valid) i ne occ same

theorem Moves.unambiguous {event : OrderEvent} (moves : Moves s input index slot event)
    (orders : s'.orders = update s.orders index slot) (unambiguous : s.Unambiguous) :
    s'.Unambiguous := by
  have occ := occupied_of_resolveOrder moves.resolved
  have kept : ∀ other, other ≠ index → (s.orders other).value.occupied →
      (s.orders index).value.externalOrderId.valid →
      (s.orders other).value.externalOrderId ≠ (s.orders index).value.externalOrderId :=
    fun other ne occ' valid same =>
      ne (unambiguous.externalIds index other occ occ' valid same.symm).symm
  refine ⟨?_, unambiguous.externalIds.update orders fun valid other ne occ' => ?_⟩
  · rw [orders]
    exact (Layout.SameKeys.update moves.revised.occupied moves.revised.orderId).distinct
      unambiguous.orderIds
  rcases moves.external_cases with same | ⟨bound, bindable⟩
  · rw [same] at valid ⊢
    exact kept other ne occ' valid
  rw [bound] at valid ⊢
  unfold OmsOrderSnapshot.bound at valid ⊢
  by_cases reported : input.externalOrderId.valid
  · simp only [reported, if_true] at valid ⊢
    intro carries
    rcases (bindable reported).1 with absent | found
    · exact (findOrderByExternal_eq_none_iff reported).mp absent other occ' carries
    · have here := (findOrderByExternal_eq_some found).2.2
      exact kept other ne occ' (here ▸ reported) (carries.trans here.symm)
  · simp only [reported, Bool.false_eq_true, if_false] at valid ⊢
    exact kept other ne occ' valid

theorem Discovery.unambiguous (discovery : Discovery s input s' index) (wf : WellFormed s.ledger)
    (apart : s.shadows input = false) (unambiguous : s.Unambiguous) : s'.Unambiguous := by
  have orders : s'.orders = _ := discovery.leaves.orders
  have absent : s.findOrder (s.unknownOrderId input) = none := by
    simpa [shadows, discovery.absent] using apart
  rw [findOrder_of_valid discovery.named] at absent
  refine ⟨?_, unambiguous.externalIds.update orders fun valid other _ occ => ?_⟩
  · rw [orders]
    exact unambiguous.orderIds.insert discovery.free rfl wf.ordersChained absent
  · have unseen := (resolveOrder_eq_none.mp discovery.absent).2
    exact (findOrderByExternal_eq_none_iff valid).mp unseen other occ

theorem rotatedSlot_kept (slot : OrderSlot) (input : OmsInput) :
    (rotatedSlot slot input).value.identity = slot.value.identity ∧
      (rotatedSlot slot input).value.externalOrderId = slot.value.externalOrderId := by
  unfold rotatedSlot
  split <;> exact ⟨rfl, rfl⟩

theorem Effect.unambiguous (effect : Effect s input s' r) (wf : WellFormed s.ledger)
    (apart : s.shadows input = false) (unambiguous : s.Unambiguous) : s'.Unambiguous := by
  cases effect with
  | refused leaves => exact unambiguous.congr leaves.orders
  | accepted index kind newIntent newOrder free leaves =>
    have orders : s'.orders = _ := leaves.orders
    rw [findOrder_of_valid deterministicOrderId_valid] at newOrder
    refine ⟨?_, unambiguous.externalIds.update orders fun valid => ?_⟩
    · rw [orders]
      exact unambiguous.orderIds.insert free rfl wf.ordersChained newOrder
    · cases valid
  | discovered index discovery => exact discovery.unambiguous wf apart unambiguous
  | moved index slot event moves leaves
  | executed index slot event execution moves kind counted new free leaves
  | confirmed index slot execution moves kind found same leaves =>
    exact moves.unambiguous leaves.orders unambiguous
  | rotated kind newer leaves =>
    have orders : s'.orders = _ := leaves.orders
    have kept : ∀ index, (s'.orders index).value.identity = (s.orders index).value.identity ∧
        (s'.orders index).value.externalOrderId = (s.orders index).value.externalOrderId := by
      intro index
      rw [orders]
      exact rotatedSlot_kept _ _
    have occupied : ∀ index, (s'.orders index).value.occupied = (s.orders index).value.occupied :=
      fun index => congrArg OrderIdentity.occupied (kept index).1
    refine ⟨?_, fun i j occI occJ valid same => ?_⟩
    · refine Layout.SameKeys.distinct (fun index => ⟨occupied index, fun _ => ?_⟩)
        unambiguous.orderIds
      exact congrArg OrderIdentity.orderId (kept index).1
    · rw [occupied] at occI occJ
      rw [(kept i).2] at valid same
      rw [(kept j).2] at same
      exact unambiguous.externalIds i j occI occJ valid same

theorem Handled.unambiguous (handled : Handled s input s' r) (wf : WellFormed s.ledger)
    (initialized : s.initialized) (valid : validInput input)
    (apart : s.shadows input = false) (unambiguous : s.Unambiguous) : s'.Unambiguous := by
  cases handled with
  | directly effect => exact effect.unambiguous wf apart unambiguous
  | afterDiscovery s₁ index kind discovery resolved effect =>
    refine effect.unambiguous (discovery.wellFormed wf initialized valid) ?_
      (discovery.unambiguous wf apart unambiguous)
    simp [shadows, resolved]

theorem DeterministicOms.Unambiguous.apply (unambiguous : s.Unambiguous) (inv : Invariant s)
    (published : Bool) (apart : s.shadows input = false) :
    (s.apply input published).1.Unambiguous := by
  rcases s.apply_ledger input published with same | ⟨h, _, _, running, valid, -, handled, ledger⟩
  · exact unambiguous.congr (congrArg Ledger.orders same)
  · exact (handled.unambiguous inv.wellFormed running.2 valid apart unambiguous).congr
      (congrArg Ledger.orders ledger)

theorem DeterministicOms.Unambiguous.identified (unambiguous : s.Unambiguous) (inv : Invariant s) :
    s.Identified where
  orderIds := unambiguous.orderIds
  intentIds := inv.wellFormed.intentsDistinct
  externalIds := unambiguous.externalIds
  findOrder := fun index occ => by
    have valid : (s.orders index).value.orderId.valid :=
      (inv.wellFormed.ordersSound index occ).orderId
    rw [findOrder_of_valid valid]
    exact inv.wellFormed.ordersChained.find_eq_some unambiguous.orderIds occ
  findOrderByExternal := fun index occ valid =>
    findOrderByExternal_of_unique valid occ rfl fun other occ' same =>
      (unambiguous.externalIds index other occ occ' valid same.symm).symm

/-- Where no unknown order is filed under an identifier of the table, identifiers are unique and
both lookups find them. -/
theorem identified_of_unshadowed (configuration : OmsConfiguration) (calls : List Call)
    (conditions : Throughout call (fun s c => s.shadows c.input = false)
      (.construct configuration) calls) :
    Always call Identified (.construct configuration) calls := by
  have fresh := construct_fresh configuration
  have orders : (DeterministicOms.construct configuration).orders = fun _ => {} :=
    congrArg Ledger.orders fresh.ledger
  have start : (DeterministicOms.construct configuration).Unambiguous := by
    refine ⟨fun i j occ => ?_, fun i j occ => ?_⟩
    · rw [orders] at occ
      cases occ
    · rw [orders] at occ
      cases occ
  have carried : Always call (fun s => Invariant s ∧ s.Unambiguous)
      (.construct configuration) calls := by
    refine always_of_throughout (fun s c held apart => ?_) ⟨fresh.invariant, start⟩ conditions
    exact ⟨held.1.apply _ _, held.2.apply held.1 _ apart⟩
  intro before initial
  obtain ⟨inv, unambiguous⟩ := carried before initial
  exact unambiguous.identified inv

open TestSupport

/-- An accepted order, an unknown one and a fill. -/
theorem identified_of_unknown_report : Always call Identified (.construct configuration)
      [⟨accept 1 1, true⟩, ⟨venue .acknowledgement {} 2 1 ⟨5, 6⟩, true⟩,
        ⟨internal .markReady (orderId 1) 3, true⟩] :=
  identified_of_unshadowed _ _ (by decide +kernel)

/-- A fill files a second order under one identifier. -/
theorem not_identified_of_collision : Reachable configuration collided ∧ ¬ collided.Identified := by
  obtain ⟨i, j, ne, occI, occJ, same⟩ : ∃ i j, i ≠ j ∧ (collided.orders i).value.occupied = true ∧
      (collided.orders j).value.occupied = true ∧
      (collided.orders i).value.orderId = (collided.orders j).value.orderId :=
    ⟨64, 65, by decide +kernel⟩
  refine ⟨Reachable.construct.run _, fun identified => ?_⟩
  exact ne (identified.orderIds i j occI occJ same)

end Aegis.Oms
