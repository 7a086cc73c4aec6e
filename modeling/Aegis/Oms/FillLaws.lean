import Aegis.Oms.Lifecycle
import Aegis.Oms.StateLaws

/-!
The fill handlers, branch by branch.
-/

namespace Aegis.Oms

open Aegis.Common OmsOrderSnapshot

def OmsOrderSnapshot.filledBy (order : OmsOrderSnapshot) (input : OmsInput) : OmsOrderSnapshot :=
  let cumulative := order.cumulativeFillQuantityUnits + input.quantityUnits
  let remaining := order.quantityUnits - cumulative
  let next := DeterministicOms.fillTarget order.state remaining
  (((order.bound input.externalOrderId).credited cumulative
    (if terminalState next then 0 else remaining)).reportedBy input.source).moved input next

/-- An order after a fill that only leaves its trace. -/
def OmsOrderSnapshot.notedBy (order : OmsOrderSnapshot) (input : OmsInput) : OmsOrderSnapshot :=
  ((order.bound input.externalOrderId).reportedBy input.source).touched input

namespace DeterministicOms

variable {s : DeterministicOms} {input : OmsInput} {index : OrderIndex}
  {execution : ExecutionIndex}

theorem overFills_eq_false {order : OmsOrderSnapshot} : overFills order input = false ↔
      order.cumulativeFillQuantityUnits.toNat + input.quantityUnits.toNat ≤
        order.quantityUnits.toNat := by
  simp only [overFills, Bool.or_eq_false_iff, decide_eq_false_iff_not, GT.gt, UInt64.not_lt,
    UInt64.le_iff_toNat_le]
  constructor
  · rintro ⟨fits, below⟩
    rw [UInt64.toNat_sub_of_le _ _ (UInt64.le_iff_toNat_le.mpr fits)] at below
    omega
  · intro fits
    have le : input.quantityUnits.toNat ≤ order.quantityUnits.toNat := by omega
    rw [UInt64.toNat_sub_of_le _ _ (UInt64.le_iff_toNat_le.mpr le)]
    omega

def fillOutcome (order : OmsOrderSnapshot) (input : OmsInput) : OrderState :=
  fillTarget order.state
    (order.quantityUnits - (order.cumulativeFillQuantityUnits + input.quantityUnits))

theorem applyNewFill_over (known : (s.orders index).value.state ≠ .unknownRecovery)
    (excess : overFills (s.orders index).value input) : s.applyNewFill input index execution =
      ((s.modifyOrder index (·.lost input)).setUnsafe .quantityMismatch,
        { status := .invalid, reason := .invalidQuantity, orderIndex := some index,
          previousState := (s.orders index).value.state, stateChanged := true,
          snapshotChanged := true }) := by
  simp [applyNewFill, known, excess]

theorem applyNewFill_conflict (notOver : (s.orders index).value.state = .unknownRecovery ∨
      overFills (s.orders index).value input = false ∧
        transitionAllowed (s.orders index).value.state input.kind
          (fillOutcome (s.orders index).value input))
    (taken : ¬ s.Bindable index input.externalOrderId) :
    s.applyNewFill input index execution = (s.setUnsafe .externalMappingConflict,
        externalConflictResult index (s.orders index).value.state) := by
  unfold applyNewFill
  simp only [bindReported_eq, if_neg taken]
  rcases notOver with unknown | ⟨fits, allowed⟩
  · simp [unknown]
  · simp only [fillOutcome] at allowed
    simp [fits, allowed]

theorem applyNewFill_unknown (unknown : (s.orders index).value.state = .unknownRecovery)
    (bindable : s.Bindable index input.externalOrderId) : s.applyNewFill input index execution =
      ((s.modifyOrder index (·.notedBy input)).setExecution execution
          (executionRecord input (s.orders index).value.orderId),
        { status := .applied, reason := .recoveryRequired, orderIndex := some index,
          previousState := .unknownRecovery, snapshotChanged := true }) := by
  unfold applyNewFill
  simp only [bindReported_eq, if_pos bindable, unknown, touchOrder, modifyOrder_setExecution,
    modifyOrder_modifyOrder, ne_eq, not_true_eq_false, false_and, if_false, if_true]
  rfl

section

variable (known : (s.orders index).value.state ≠ .unknownRecovery)
include known

theorem applyNewFill_forbidden
    (fits : overFills (s.orders index).value input = false)
    (forbidden : transitionAllowed (s.orders index).value.state input.kind
      (fillOutcome (s.orders index).value input) = false) : s.applyNewFill input index execution =
      (s, forbiddenResult index (s.orders index).value.state) := by
  simp only [fillOutcome] at forbidden
  simp [applyNewFill, known, fits, forbidden]

theorem applyNewFill_credited
    (fits : overFills (s.orders index).value input = false)
    (allowed : transitionAllowed (s.orders index).value.state input.kind
      (fillOutcome (s.orders index).value input))
    (bindable : s.Bindable index input.externalOrderId) : s.applyNewFill input index execution =
      ((s.modifyOrder index (·.filledBy input)).setExecution execution
          (executionRecord input (s.orders index).value.orderId),
        { movedResult index (s.orders index).value.state
            (appliedStatus (input.venueSequence ≤ (s.orders index).value.lastVenueSequence)) with
          stateChanged :=
            (s.orders index).value.state ≠ fillOutcome (s.orders index).value input }) := by
  unfold applyNewFill
  simp only [fillOutcome] at allowed ⊢
  simp only [bindReported_eq, if_pos bindable, transition_eq, modifyOrder_setExecution,
    modifyOrder_modifyOrder, setExecution_orders, modifyOrder_self]
  simp only [known, fits, allowed, bound_state, credited_state,
    reportedBy_state, ne_eq, not_false_eq_true, Bool.false_eq_true, and_false,
    if_false, Bool.not_true, if_true, Option.getD_some]
  congr 2

end

theorem applyExistingFill_conflict
    (different : sameExecution (s.executions execution) input (s.orders index).value.orderId =
      false) : s.applyExistingFill input index execution =
      ((s.modifyOrder index (·.lost input)).setUnsafe .executionConflict,
        { status := .invalid, reason := .executionConflict, orderIndex := some index,
          previousState := (s.orders index).value.state, stateChanged := true,
          snapshotChanged := true }) := by
  simp [applyExistingFill, different]

theorem applyExistingFill_taken
    (same : sameExecution (s.executions execution) input (s.orders index).value.orderId)
    (taken : ¬ s.Bindable index input.externalOrderId) :
    s.applyExistingFill input index execution = (s.setUnsafe .externalMappingConflict,
        externalConflictResult index (s.orders index).value.state) := by
  simp [applyExistingFill, same, bindReported_eq, taken]

def mapsExternal (order : OmsOrderSnapshot) (input : OmsInput) : Bool :=
  input.externalOrderId.valid && !order.externalOrderId.valid

theorem bound_eq_self (bindable : s.Bindable index input.externalOrderId)
    (known : mapsExternal (s.orders index).value input = false) :
    (s.orders index).value.bound input.externalOrderId = (s.orders index).value := by
  unfold bound
  by_cases valid : input.externalOrderId.valid
  · have had : (s.orders index).value.externalOrderId.valid := by
      simpa [mapsExternal, valid] using known
    rw [if_pos valid, ← (bindable valid).2 had]
  · simp [valid]

section

variable (same : sameExecution (s.executions execution) input (s.orders index).value.orderId)
include same

theorem applyExistingFill_repeated
    (bindable : s.Bindable index input.externalOrderId)
    (seen : (s.executions execution).sourceMask &&& sourceBit input.source ≠ 0) :
    s.applyExistingFill input index execution = (if mapsExternal (s.orders index).value input then
          s.modifyOrder index fun order => (order.bound input.externalOrderId).touched input
        else s,
        { duplicateResult index (s.orders index).value.state with
          snapshotChanged := mapsExternal (s.orders index).value input }) := by
  unfold applyExistingFill
  simp only [same, bindReported_eq, if_pos bindable, seen, Bool.not_true, Bool.false_eq_true,
    if_false, if_true, ne_eq, not_false_eq_true]
  cases maps : mapsExternal (s.orders index).value input with
  | true => simp [mapsExternal] at maps; simp [maps, touchOrder]
  | false =>
    have unbound : s.modifyOrder index (·.bound input.externalOrderId) = s :=
      modifyOrder_eq_self (bound_eq_self bindable maps)
    simp only [mapsExternal] at maps
    simp [maps, unbound]

theorem applyExistingFill_confirmed
    (bindable : s.Bindable index input.externalOrderId)
    (unseen : (s.executions execution).sourceMask &&& sourceBit input.source = 0) :
    s.applyExistingFill input index execution =
      ((s.modifyOrder index (·.notedBy input)).setExecution execution
          { s.executions execution with
            sourceMask := (s.executions execution).sourceMask ||| sourceBit input.source },
        { status := .reconciled, reason := .accepted, orderIndex := some index,
          previousState := (s.orders index).value.state, snapshotChanged := true }) := by
  unfold applyExistingFill
  simp only [same, bindReported_eq, if_pos bindable, unseen, Bool.not_true, Bool.false_eq_true,
    if_false, ne_eq, not_true_eq_false, touchOrder, modifyOrder_setExecution,
    modifyOrder_modifyOrder]
  rfl

end

end DeterministicOms

end Aegis.Oms
