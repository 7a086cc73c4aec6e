import Aegis.Oms.Handlers

/-!
Laws of the lookups and the order updates.
-/

namespace Aegis.Oms

open Aegis.Common Aegis.Foundation Function OmsOrderSnapshot

/-- The tables and the authority of the service. -/
@[ext]
structure Ledger where
  configuration : OmsConfiguration
  orders : OrderIndex → OrderSlot
  executions : ExecutionIndex → ExecutionSlot
  receipts : ReceiptIndex → ReceiptSlot
  activeFencingToken : UInt64
  initialized : Bool
  stopped : Bool

def DeterministicOms.ledger (s : DeterministicOms) : Ledger where
  configuration := s.configuration
  orders := s.orders
  executions := s.executions
  receipts := s.receipts
  activeFencingToken := s.activeFencingToken
  initialized := s.initialized
  stopped := s.stopped

def OmsOrderSnapshot.bound (order : OmsOrderSnapshot) (externalOrderId : ExternalOrderId) :
    OmsOrderSnapshot :=
  { order with
    externalOrderId := if externalOrderId.valid then externalOrderId else order.externalOrderId }

def OmsOrderSnapshot.moved (order : OmsOrderSnapshot) (input : OmsInput) (next : OrderState) :
    OmsOrderSnapshot :=
  { order with state := next }.touched input

section Writes

variable (order : OmsOrderSnapshot)

@[simp] theorem OmsOrderSnapshot.bound_state (externalOrderId : ExternalOrderId) :
    (order.bound externalOrderId).state = order.state := rfl

@[simp] theorem OmsOrderSnapshot.reportedBy_state (source : EventSource) :
    (order.reportedBy source).state = order.state := rfl

@[simp] theorem OmsOrderSnapshot.credited_state (cumulative remaining : UInt64) :
    (order.credited cumulative remaining).state = order.state := rfl

@[simp] theorem OmsOrderSnapshot.replaced_state : order.replaced.state = order.state := rfl

@[simp] theorem stateForOpenQuantity_replaced :
    stateForOpenQuantity order.replaced = stateForOpenQuantity order := rfl

end Writes

namespace DeterministicOms

variable {s : DeterministicOms} {input : OmsInput} {index : OrderIndex}

variable {orderId : OrderId} {executionId : GlobalEventId} {execution : ExecutionIndex}
  {slot : ExecutionSlot} {next : OrderState}

theorem findOrder_eq_some (found : s.findOrder orderId = some index) :
    orderId.valid ∧ (s.orders index).value.occupied ∧ (s.orders index).value.orderId = orderId := by
  unfold findOrder at found
  split at found
  · cases found
  · rename_i valid
    obtain ⟨occ, same⟩ := Layout.occupied_of_find found
    exact ⟨by simpa using valid, occ, same⟩

theorem findOrder_of_valid (valid : orderId.valid) :
    s.findOrder orderId = orderLayout.find s.orders orderId := by
  simp [findOrder, valid]

theorem findExecution_eq_some (found : s.findExecution executionId = some execution) :
    executionId.valid ∧ (s.executions execution).occupied ∧
      (s.executions execution).executionId = executionId := by
  unfold findExecution at found
  split at found
  · cases found
  · rename_i valid
    obtain ⟨occ, same⟩ := Layout.occupied_of_find found
    exact ⟨by simpa using valid, occ, same⟩

theorem findExecution_of_valid (valid : executionId.valid) :
    s.findExecution executionId = executionLayout.find s.executions executionId := by
  simp [findExecution, valid]

theorem findReceipt_of_valid {receiptId : GlobalEventId} (valid : receiptId.valid) :
    s.findReceipt receiptId = receiptLayout.find s.receipts receiptId := by
  simp [findReceipt, valid]

theorem findOrderByIntent_eq_none_iff {intentId : IntentId} (valid : intentId.valid) :
    s.findOrderByIntent intentId = none ↔ ∀ index, (s.orders index).value.occupied →
        (s.orders index).value.intentId ≠ intentId := by
  simp [findOrderByIntent, valid]

variable {externalOrderId : ExternalOrderId}

theorem findOrderByExternal_eq_some (found : s.findOrderByExternal externalOrderId = some index) :
    externalOrderId.valid ∧ (s.orders index).value.occupied ∧
      (s.orders index).value.externalOrderId = externalOrderId := by
  unfold findOrderByExternal at found
  split at found
  · cases found
  · rename_i valid
    refine ⟨by simpa using valid, ?_⟩
    simpa using List.find?_some found

theorem findOrderByExternal_eq_none_iff (valid : externalOrderId.valid) :
    s.findOrderByExternal externalOrderId = none ↔ ∀ index, (s.orders index).value.occupied →
        (s.orders index).value.externalOrderId ≠ externalOrderId := by
  simp [findOrderByExternal, valid]

theorem findOrderByExternal_of_unique
    (valid : externalOrderId.valid) (occ : (s.orders index).value.occupied)
    (same : (s.orders index).value.externalOrderId = externalOrderId)
    (unique : ∀ other, (s.orders other).value.occupied →
      (s.orders other).value.externalOrderId = externalOrderId → other = index) :
    s.findOrderByExternal externalOrderId = some index := by
  cases found : s.findOrderByExternal externalOrderId with
  | none => exact absurd same ((findOrderByExternal_eq_none_iff valid).mp found index occ)
  | some other =>
    obtain ⟨-, occ', same'⟩ := findOrderByExternal_eq_some found
    rw [unique other occ' same']

theorem resolveOrder_of_findOrder (found : s.findOrder input.orderId = some index) :
    s.resolveOrder input = some index := by
  simp [resolveOrder, found]

theorem resolveOrder_eq_none : s.resolveOrder input = none ↔
      s.findOrder input.orderId = none ∧ s.findOrderByExternal input.externalOrderId = none := by
  unfold resolveOrder
  cases s.findOrder input.orderId <;> simp

variable {s' : DeterministicOms}

theorem resolveOrder_congr (orders : s'.orders = s.orders) :
    s'.resolveOrder input = s.resolveOrder input := by
  simp only [resolveOrder, findOrder, findOrderByExternal, orders]

theorem authorityMatches_congr (authority : LeaderAuthority)
    (configuration : s'.configuration = s.configuration)
    (token : s'.activeFencingToken = s.activeFencingToken) :
    s'.authorityMatches authority = s.authorityMatches authority := by
  simp only [authorityMatches, configuration, token]

theorem occupied_of_resolveOrder (resolved : s.resolveOrder input = some index) :
    (s.orders index).value.occupied := by
  unfold resolveOrder at resolved
  cases found : s.findOrder input.orderId with
  | some other =>
    rw [found] at resolved
    cases resolved
    exact (findOrder_eq_some found).2.1
  | none =>
    rw [found] at resolved
    exact (findOrderByExternal_eq_some resolved).2.1

theorem vacant_of_findFreeOrder (free : s.findFreeOrder orderId = some index) :
    (s.orders index).value.occupied = false :=
  Layout.free_of_findFree free

@[simp] theorem modifyOrder_self (f : OmsOrderSnapshot → OmsOrderSnapshot) :
    (s.modifyOrder index f).orders index =
      { s.orders index with value := f (s.orders index).value } := by
  simp [modifyOrder, setOrder]

theorem modifyOrder_of_ne {other : OrderIndex} (ne : other ≠ index)
    (f : OmsOrderSnapshot → OmsOrderSnapshot) :
    (s.modifyOrder index f).orders other = s.orders other := by
  simp [modifyOrder, setOrder, ne]

@[simp] theorem modifyOrder_modifyOrder (f g : OmsOrderSnapshot → OmsOrderSnapshot) :
    (s.modifyOrder index f).modifyOrder index g = s.modifyOrder index fun order => g (f order) := by
  simp [modifyOrder, setOrder]

theorem modifyOrder_eq_self {f : OmsOrderSnapshot → OmsOrderSnapshot}
    (same : f (s.orders index).value = (s.orders index).value) : s.modifyOrder index f = s := by
  simp [modifyOrder, setOrder, same]

@[simp] theorem setOrder_modifyOrder (f : OmsOrderSnapshot → OmsOrderSnapshot) (slot : OrderSlot) :
    (s.modifyOrder index f).setOrder index slot = s.setOrder index slot := by
  simp [modifyOrder, setOrder]

@[simp] theorem modifyOrder_setExecution (f : OmsOrderSnapshot → OmsOrderSnapshot) :
    (s.setExecution execution slot).modifyOrder index f =
      (s.modifyOrder index f).setExecution execution slot := rfl

@[simp] theorem setExecution_orders : (s.setExecution execution slot).orders = s.orders := rfl

@[simp] theorem updateHealthFromState_ledger : s.updateHealthFromState.ledger = s.ledger :=
  Ledger.ext rfl rfl rfl rfl rfl rfl rfl

/-- Nobody else has the identifier and the order no other. -/
def Bindable (s : DeterministicOms) (index : OrderIndex) (externalOrderId : ExternalOrderId) :
    Prop :=
  externalOrderId.valid = true → (s.findOrderByExternal externalOrderId = none ∨
        s.findOrderByExternal externalOrderId = some index) ∧
      ((s.orders index).value.externalOrderId.valid = true →
        (s.orders index).value.externalOrderId = externalOrderId)

instance (externalOrderId : ExternalOrderId) : Decidable (s.Bindable index externalOrderId) :=
  inferInstanceAs (Decidable (_ → _))

theorem bindReported_eq (externalOrderId : ExternalOrderId) : s.bindReported index externalOrderId =
      if s.Bindable index externalOrderId then
        some (s.modifyOrder index (·.bound externalOrderId))
      else none := by
  unfold bindReported bindExternalId Bindable bound
  by_cases valid : externalOrderId.valid
  · simp only [valid, if_true, Bool.not_true, Bool.false_eq_true, if_false, true_implies]
    by_cases taken : s.findOrderByExternal externalOrderId ≠ none ∧
        s.findOrderByExternal externalOrderId ≠ some index
    · rw [if_pos taken, if_neg]
      rintro ⟨h | h, -⟩
      · exact taken.1 h
      · exact taken.2 h
    · rw [if_neg taken]
      have free : s.findOrderByExternal externalOrderId = none ∨
          s.findOrderByExternal externalOrderId = some index := by
        by_contra both
        exact taken ⟨fun h => both (.inl h), fun h => both (.inr h)⟩
      by_cases other : (s.orders index).value.externalOrderId.valid ∧
          (s.orders index).value.externalOrderId ≠ externalOrderId
      · rw [if_pos other, if_neg]
        rintro ⟨-, h⟩
        exact other.2 (h other.1)
      · rw [if_neg other, if_pos ⟨free, fun h => by_contra fun ne => other ⟨h, ne⟩⟩]
  · simp [valid, modifyOrder, setOrder]

theorem transition_eq (next : OrderState) : s.transition index input next =
      if transitionAllowed (s.orders index).value.state input.kind next then
        some (s.modifyOrder index (·.moved input next))
      else none := by
  unfold transition touchOrder
  by_cases allowed : transitionAllowed (s.orders index).value.state input.kind next
  · simp [allowed, moved]
  · simp [allowed]

theorem transition_eq_some (moved : s.transition index input next = some s') :
    transitionAllowed (s.orders index).value.state input.kind next ∧
      s' = s.modifyOrder index (·.moved input next) := by
  rw [transition_eq] at moved
  split at moved
  · rename_i allowed
    exact ⟨allowed, (Option.some.inj moved).symm⟩
  · cases moved

theorem transition_eq_none (refused : s.transition index input next = none) :
    transitionAllowed (s.orders index).value.state input.kind next = false := by
  rw [transition_eq] at refused
  split at refused
  · cases refused
  · simp_all

theorem bindReported_eq_some (bound : s.bindReported index externalOrderId = some s') :
    s.Bindable index externalOrderId ∧ s' = s.modifyOrder index (·.bound externalOrderId) := by
  rw [bindReported_eq] at bound
  split at bound
  · rename_i bindable
    exact ⟨bindable, (Option.some.inj bound).symm⟩
  · cases bound

theorem bindExternalId_eq_some (valid : externalOrderId.valid)
    (bound : s.bindExternalId index externalOrderId = some s') :
    s.Bindable index externalOrderId ∧ s' = s.modifyOrder index (·.bound externalOrderId) := by
  apply bindReported_eq_some
  simpa [bindReported, valid] using bound

section Rewritten

variable {s' : DeterministicOms} {slot : OrderSlot}

section

variable (orders : s'.orders = update s.orders index slot)
include orders

theorem findOrder_update (occupied : slot.value.occupied = (s.orders index).value.occupied)
    (same : slot.value.orderId = (s.orders index).value.orderId) (orderId : OrderId) :
    s'.findOrder orderId = s.findOrder orderId := by
  have keys : orderLayout.SameKeys s.orders s'.orders := by
    rw [orders]
    exact Layout.SameKeys.update occupied same
  unfold findOrder
  rw [keys.find]

theorem findOrderByExternal_update {externalOrderId : ExternalOrderId}
    (occ : slot.value.occupied) (carries : slot.value.externalOrderId = externalOrderId)
    (found : s.findOrderByExternal externalOrderId = some index) :
    s'.findOrderByExternal externalOrderId = some index := by
  obtain ⟨-, held, carried⟩ := findOrderByExternal_eq_some found
  -- The lookup tests every slot as it did before.
  have tests : ∀ other, ((s'.orders other).value.occupied &&
      (s'.orders other).value.externalOrderId == externalOrderId) =
        ((s.orders other).value.occupied &&
          (s.orders other).value.externalOrderId == externalOrderId) := by
    intro other
    rw [orders]
    by_cases eq : other = index
    · subst eq
      simp [occ, held, carries, carried]
    · rw [update_of_ne eq]
  rw [← found]
  simp only [findOrderByExternal, tests]

theorem resolveOrder_update (occupied : slot.value.occupied = (s.orders index).value.occupied)
    (same : slot.value.orderId = (s.orders index).value.orderId)
    (external : slot.value.externalOrderId = (s.orders index).value.externalOrderId ∨
      slot.value.externalOrderId =
        ((s.orders index).value.bound input.externalOrderId).externalOrderId)
    (resolved : s.resolveOrder input = some index) : s'.resolveOrder input = some index := by
  unfold resolveOrder at resolved ⊢
  rw [findOrder_update orders occupied same]
  cases found : s.findOrder input.orderId with
  | some other =>
    rw [found] at resolved
    exact resolved
  | none =>
    rw [found] at resolved
    obtain ⟨valid, occ, carried⟩ := findOrderByExternal_eq_some resolved
    refine findOrderByExternal_update orders (occupied.trans occ) ?_ resolved
    rcases external with kept | bound
    · rw [kept, carried]
    · simpa [OmsOrderSnapshot.bound, valid] using bound

end

theorem Bindable.update {externalOrderId : ExternalOrderId}
    (bindable : s.Bindable index externalOrderId) (orders : s'.orders = update s.orders index slot)
    (occ : slot.value.occupied)
    (external : slot.value.externalOrderId = (s.orders index).value.externalOrderId ∨
      slot.value.externalOrderId = ((s.orders index).value.bound externalOrderId).externalOrderId) :
    s'.Bindable index externalOrderId := by
  intro valid
  obtain ⟨free, own⟩ := bindable valid
  have carried : slot.value.externalOrderId = (s.orders index).value.externalOrderId ∨
      slot.value.externalOrderId = externalOrderId := by
    simpa [bound, valid] using external
  refine ⟨?_, ?_⟩
  · rcases free with absent | found
    · cases after : s'.findOrderByExternal externalOrderId with
      | none => exact .inl rfl
      | some other =>
        obtain ⟨-, held, same⟩ := findOrderByExternal_eq_some after
        by_cases eq : other = index
        · exact .inr (congrArg some eq)
        · rw [orders, update_of_ne eq] at held same
          exact absurd same ((findOrderByExternal_eq_none_iff valid).mp absent other held)
    · refine .inr (findOrderByExternal_update orders occ ?_ found)
      rcases carried with kept | bound
      · exact kept.trans (findOrderByExternal_eq_some found).2.2
      · exact bound
  · rw [orders, update_self]
    intro had
    rcases carried with kept | bound
    · rw [kept] at had ⊢
      exact own had
    · exact bound

end Rewritten

theorem resolveOrder_discovered (absent : s.resolveOrder input = none)
    (named : (s.unknownOrderId input).valid)
    (free : s.findFreeOrder (s.unknownOrderId input) = some index) :
    (s.modifyOrder index fun _ => s.unknownOrderRecord input).resolveOrder input = some index := by
  obtain ⟨noOrder, noExternal⟩ := resolveOrder_eq_none.mp absent
  by_cases valid : input.orderId.valid
  · have same : s.unknownOrderId input = input.orderId := by simp [unknownOrderId, valid]
    rw [findOrder_of_valid valid] at noOrder
    apply resolveOrder_of_findOrder
    rw [findOrder_of_valid valid]
    rw [same] at free
    exact Layout.find_insert_self free rfl same noOrder
  · have external : input.externalOrderId.valid := by
      by_contra missing
      simp [unknownOrderId, valid, missing] at named
    have others := (findOrderByExternal_eq_none_iff external).mp noExternal
    unfold resolveOrder
    have invalid : (s.modifyOrder index fun _ => s.unknownOrderRecord input).findOrder
        input.orderId = none := by simp [findOrder, valid]
    rw [invalid]
    refine findOrderByExternal_of_unique external (by simp [unknownOrderRecord])
      (by simp [unknownOrderRecord]) fun other occ same => ?_
    by_contra ne
    rw [modifyOrder_of_ne ne] at occ same
    exact others other occ same

end DeterministicOms

end Aegis.Oms
