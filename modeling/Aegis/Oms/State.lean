import Aegis.Foundation.ProbeTable
import Aegis.Oms.Journal

/-!
The state of `DeterministicOms` (`aegis/oms/service.hpp`).
-/

namespace Aegis.Oms

open Aegis.Common Aegis.Risk Aegis.Foundation

structure OrderSlot where
  value : OmsOrderSnapshot := {}
  stateBeforePending : OrderState := .working

structure ExecutionSlot where
  executionId : GlobalEventId := {}
  orderId : OrderId := {}
  externalOrderId : ExternalOrderId := {}
  priceTicks : Int64 := 0
  quantityUnits : UInt64 := 0
  venueSequence : UInt64 := 0
  sourceMask : UInt8 := 0
  occupied : Bool := false

structure ReceiptSlot where
  receiptId : GlobalEventId := {}
  inputHash : UInt64 := 0
  occupied : Bool := false

abbrev OrderIndex := Fin kMaximumOmsOrders

abbrev ExecutionIndex := Fin kMaximumOmsExecutions

abbrev ReceiptIndex := Fin kOmsIdempotencyCapacity

/-- `InternalResult`. A missing index is `kNoOrder`. -/
structure InternalResult where
  status : ApplyStatus := .invalid
  reason : OmsReason := .none
  orderIndex : Option OrderIndex := none
  previousState : OrderState := .created
  stateChanged : Bool := false
  snapshotChanged : Bool := false
  gatewayCommand : GatewayCommand := {}

structure DeterministicOms where
  configuration : OmsConfiguration
  journal : OmsJournal := {}
  orders : OrderIndex → OrderSlot := fun _ => {}
  executions : ExecutionIndex → ExecutionSlot := fun _ => {}
  receipts : ReceiptIndex → ReceiptSlot := fun _ => {}
  snapshot : OmsSnapshot := {}
  activeFencingToken : UInt64
  snapshotSequence : Nat := 0
  health : OmsHealth := .starting
  invariant : OmsInvariant := .none
  initialized : Bool := false
  stopped : Bool := false

/-- `std::rotl`, for a shift between 0 and 64. -/
def rotl (value shift : UInt64) : UInt64 :=
  (value <<< shift) ||| (value >>> (64 - shift))

/-- The bucket of an identifier in a table of `n` slots. -/
def identifierBucket {Tag : Type} (n : Nat) [NeZero n] (shift : UInt64)
    (value : Identifier128 Tag) : Fin n :=
  Fin.ofNat n (value.high ^^^ rotl value.low shift).toNat

def orderBucket (value : OrderId) : OrderIndex :=
  identifierBucket kMaximumOmsOrders 17 value

def executionBucket (value : GlobalEventId) : ExecutionIndex :=
  identifierBucket kMaximumOmsExecutions 23 value

def receiptBucket (value : GlobalEventId) : ReceiptIndex :=
  identifierBucket kOmsIdempotencyCapacity 29 value

def orderLayout : Layout kMaximumOmsOrders OrderSlot OrderId where
  occupied := fun slot => slot.value.occupied
  key := fun slot => slot.value.orderId
  bucket := orderBucket

def executionLayout : Layout kMaximumOmsExecutions ExecutionSlot GlobalEventId where
  occupied := ExecutionSlot.occupied
  key := ExecutionSlot.executionId
  bucket := executionBucket

def receiptLayout : Layout kOmsIdempotencyCapacity ReceiptSlot GlobalEventId where
  occupied := ReceiptSlot.occupied
  key := ReceiptSlot.receiptId
  bucket := receiptBucket

@[irreducible]
def executionSlots : List ExecutionIndex :=
  List.finRange kMaximumOmsExecutions

@[simp] theorem mem_executionSlots (index : ExecutionIndex) : index ∈ executionSlots := by
  unfold executionSlots
  exact List.mem_finRange index

namespace DeterministicOms

def findOrder (s : DeterministicOms) (orderId : OrderId) : Option OrderIndex :=
  if !orderId.valid then none else orderLayout.find s.orders orderId

def findOrderByIntent (s : DeterministicOms) (intentId : IntentId) : Option OrderIndex :=
  if !intentId.valid then none
  else orderSlots.find? fun index =>
    (s.orders index).value.occupied && (s.orders index).value.intentId == intentId

def findOrderByExternal (s : DeterministicOms) (externalOrderId : ExternalOrderId) :
    Option OrderIndex :=
  if !externalOrderId.valid then none
  else orderSlots.find? fun index =>
    (s.orders index).value.occupied && (s.orders index).value.externalOrderId == externalOrderId

def findFreeOrder (s : DeterministicOms) (orderId : OrderId) : Option OrderIndex :=
  orderLayout.findFree s.orders orderId

def findExecution (s : DeterministicOms) (executionId : GlobalEventId) : Option ExecutionIndex :=
  if !executionId.valid then none else executionLayout.find s.executions executionId

def findFreeExecution (s : DeterministicOms) (executionId : GlobalEventId) :
    Option ExecutionIndex :=
  executionLayout.findFree s.executions executionId

def findReceipt (s : DeterministicOms) (receiptId : GlobalEventId) : Option ReceiptIndex :=
  if !receiptId.valid then none else receiptLayout.find s.receipts receiptId

def findFreeReceipt (s : DeterministicOms) (receiptId : GlobalEventId) : Option ReceiptIndex :=
  receiptLayout.findFree s.receipts receiptId

/-- `record_receipt`; `none` when the receipt table is full. -/
def recordReceipt (s : DeterministicOms) (input : OmsInput) : Option DeterministicOms :=
  (s.findFreeReceipt input.receiptId).map fun index =>
    { s with
      receipts := Function.update s.receipts index
        { receiptId := input.receiptId, inputHash := input.stableHash, occupied := true } }

def authorityMatches (s : DeterministicOms) (authority : LeaderAuthority) : Bool :=
  authority.exchangeSessionEpoch == s.configuration.exchangeSessionEpoch &&
    authority.fencingToken == s.activeFencingToken

/-- `resolve_order`: by internal, then by external identifier. -/
def resolveOrder (s : DeterministicOms) (input : OmsInput) : Option OrderIndex :=
  match s.findOrder input.orderId with
  | some index => some index
  | none => s.findOrderByExternal input.externalOrderId

def setOrder (s : DeterministicOms) (index : OrderIndex) (slot : OrderSlot) : DeterministicOms :=
  { s with orders := Function.update s.orders index slot }

/-- Rewrite the record of one order. -/
def modifyOrder (s : DeterministicOms) (index : OrderIndex)
    (f : OmsOrderSnapshot → OmsOrderSnapshot) : DeterministicOms :=
  s.setOrder index { s.orders index with value := f (s.orders index).value }

def setExecution (s : DeterministicOms) (index : ExecutionIndex) (slot : ExecutionSlot) :
    DeterministicOms :=
  { s with executions := Function.update s.executions index slot }

def setUnsafe (s : DeterministicOms) (invariant : OmsInvariant) : DeterministicOms :=
  { s with invariant, health := .unsafeHealth }

/-- `bind_external_id`; `none` where that is refused. -/
def bindExternalId (s : DeterministicOms) (index : OrderIndex)
    (externalOrderId : ExternalOrderId) : Option DeterministicOms :=
  if !externalOrderId.valid then none
  else
    let other := s.findOrderByExternal externalOrderId
    let current := (s.orders index).value.externalOrderId
    if other ≠ none ∧ other ≠ some index then none
    else if current.valid ∧ current ≠ externalOrderId then none
    else some (s.modifyOrder index fun order => { order with externalOrderId })

/-- Bind only a reported identifier. -/
def bindReported (s : DeterministicOms) (index : OrderIndex)
    (externalOrderId : ExternalOrderId) : Option DeterministicOms :=
  if externalOrderId.valid then s.bindExternalId index externalOrderId else some s

end DeterministicOms

def sourceBit (source : EventSource) : UInt8 :=
  if source = .gateway then 1 else if source = .dropCopy then 2 else 0

/-- The effect of `touch_order` on the record of an order. -/
def OmsOrderSnapshot.touched (order : OmsOrderSnapshot) (input : OmsInput) : OmsOrderSnapshot :=
  { order with
    authority := if input.authority.valid then input.authority else order.authority
    stateVersion := order.stateVersion + 1
    lastUpdateProcessMonotonicTimeNs := input.processMonotonicTimeNs
    lastVenueSequence := max order.lastVenueSequence input.venueSequence }

/-! The other writes that handlers make to an order, by name. -/

def OmsOrderSnapshot.closed (order : OmsOrderSnapshot) : OmsOrderSnapshot :=
  { order with remainingQuantityUnits := 0 }

def OmsOrderSnapshot.withoutReplace (order : OmsOrderSnapshot) : OmsOrderSnapshot :=
  { order with pendingReplacePriceTicks := 0, pendingReplaceQuantityUnits := 0 }

def OmsOrderSnapshot.reportedBy (order : OmsOrderSnapshot) (source : EventSource) :
    OmsOrderSnapshot :=
  { order with fillSourceMask := order.fillSourceMask ||| sourceBit source }

def OmsOrderSnapshot.credited (order : OmsOrderSnapshot) (cumulative remaining : UInt64) :
    OmsOrderSnapshot :=
  { order with
    cumulativeFillQuantityUnits := cumulative
    remainingQuantityUnits := remaining }

def OmsOrderSnapshot.withdrawnFrom (order : OmsOrderSnapshot) (previous : OrderState) :
    OmsOrderSnapshot :=
  { order with stateBeforeRecovery := previous }

def OmsOrderSnapshot.replaced (order : OmsOrderSnapshot) : OmsOrderSnapshot :=
  { order with
    priceTicks := order.pendingReplacePriceTicks
    quantityUnits := order.pendingReplaceQuantityUnits
    remainingQuantityUnits :=
      order.pendingReplaceQuantityUnits - order.cumulativeFillQuantityUnits }

/-- An order is taken out of service, and its state remembered. -/
def OmsOrderSnapshot.lost (order : OmsOrderSnapshot) (input : OmsInput) : OmsOrderSnapshot :=
  { order with stateBeforeRecovery := order.state, state := .unknownRecovery }.touched input

namespace DeterministicOms

def touchOrder (s : DeterministicOms) (index : OrderIndex) (input : OmsInput) :
    DeterministicOms :=
  s.modifyOrder index (·.touched input)

/-- `transition`; `none` when the table forbids it. -/
def transition (s : DeterministicOms) (index : OrderIndex) (input : OmsInput)
    (next : OrderState) : Option DeterministicOms :=
  if !transitionAllowed (s.orders index).value.state input.kind next then none
  else some ((s.modifyOrder index fun order => { order with state := next }).touchOrder index input)

end DeterministicOms

end Aegis.Oms
