import Aegis.Oms.FillLaws

/-!
What the handlers can do, said once: `Effect` lists the outcomes of `apply_locked` with their
guards. Every invariant comes from `applyLocked_handled`.
-/

namespace Aegis.Oms

open Aegis.Common Aegis.Risk Aegis.Foundation OmsOrderSnapshot

/-- The fields of an order that never change. -/
structure OrderIdentity where
  orderId : OrderId
  intentId : IntentId
  sessionId : SessionId
  accountId : AccountId
  strategyId : StrategyId
  venueId : VenueId
  instrumentId : InstrumentId
  configurationVersion : ConfigurationVersion
  clientOrderId : ClientOrderId
  side : IntentAction
  intentHash : UInt64
  riskDecisionHash : UInt64
  occupied : Bool

def OmsOrderSnapshot.identity (order : OmsOrderSnapshot) : OrderIdentity where
  orderId := order.orderId
  intentId := order.intentId
  sessionId := order.sessionId
  accountId := order.accountId
  strategyId := order.strategyId
  venueId := order.venueId
  instrumentId := order.instrumentId
  configurationVersion := order.configurationVersion
  clientOrderId := order.clientOrderId
  side := order.side
  intentHash := order.intentHash
  riskDecisionHash := order.riskDecisionHash
  occupied := order.occupied

structure Revised (input : OmsInput) (order order' : OmsOrderSnapshot) : Prop where
  identity : order'.identity = order.identity
  authority : order'.authority = order.authority ∨
    order'.authority = input.authority ∧ input.authority.valid = true
  version : order.stateVersion ≤ order'.stateVersion
  time : order'.lastUpdateProcessMonotonicTimeNs = order.lastUpdateProcessMonotonicTimeNs ∨
    order'.lastUpdateProcessMonotonicTimeNs = input.processMonotonicTimeNs

namespace Revised

variable {input : OmsInput} {order order' : OmsOrderSnapshot}

theorem of_touched (identity : order'.identity = order.identity)
    (authority : order'.authority = (order.touched input).authority)
    (version : order'.stateVersion = order.stateVersion + 1)
    (time : order'.lastUpdateProcessMonotonicTimeNs = input.processMonotonicTimeNs) :
    Revised input order order' where
  identity := identity
  authority := by
    rw [authority]
    by_cases valid : input.authority.valid
    · exact .inr ⟨by simp [touched, valid], valid⟩
    · exact .inl (by simp [touched, valid])
  version := by omega
  time := .inr time

theorem bound (external : ExternalOrderId) : Revised input order (order.bound external) :=
  ⟨rfl, .inl rfl, le_rfl, .inl rfl⟩

section

variable (h : Revised input order order')
include h

theorem orderId : order'.orderId = order.orderId :=
  congrArg OrderIdentity.orderId h.identity

theorem intentId : order'.intentId = order.intentId :=
  congrArg OrderIdentity.intentId h.identity

theorem occupied : order'.occupied = order.occupied :=
  congrArg OrderIdentity.occupied h.identity

end

end Revised

def ApplyStatus.accepted (status : ApplyStatus) : Bool :=
  status == .applied || status == .reconciled || status == .outOfOrderApplied

@[simp] theorem appliedStatus_accepted {outOfOrder : Bool} :
    (appliedStatus outOfOrder).accepted := by
  cases outOfOrder <;> rfl

/-- How a handler leaves the service. -/
structure Leaves (s s' : DeterministicOms) (status : ApplyStatus) (ledger : Ledger) : Prop where
  ledger : s'.ledger = ledger
  alarm : s'.invariant = s.invariant ∨ s'.invariant ≠ .none ∧ status.accepted = false
  snapshot : s'.snapshot = s.snapshot
  sequence : s'.snapshotSequence = s.snapshotSequence

section

variable {s s' : DeterministicOms} {status : ApplyStatus} {ledger : Ledger}
  (leaves : Leaves s s' status ledger)
include leaves

theorem Leaves.configuration : s'.configuration = ledger.configuration :=
  congrArg Ledger.configuration leaves.ledger

theorem Leaves.activeFencingToken : s'.activeFencingToken = ledger.activeFencingToken :=
  congrArg Ledger.activeFencingToken leaves.ledger

theorem Leaves.orders : s'.orders = ledger.orders := congrArg Ledger.orders leaves.ledger

theorem Leaves.executions : s'.executions = ledger.executions :=
  congrArg Ledger.executions leaves.ledger

theorem Leaves.receipts : s'.receipts = ledger.receipts := congrArg Ledger.receipts leaves.ledger

end

/-- The input kinds that file an order they do not know. -/
def InputKind.reports (kind : InputKind) : Bool :=
  match kind with
  | .acknowledgement | .rejection | .fill | .cancelAcknowledgement | .cancelRejection
  | .replaceAcknowledgement | .replaceRejection | .recoveryObservation => true
  | _ => false

/-- Its execution is known otherwise, or does not fit. -/
def DeterministicOms.Contradicts (s : DeterministicOms) (input : OmsInput) (index : OrderIndex) :
    Prop :=
  (∃ execution, s.findExecution input.executionId = some execution ∧
      sameExecution (s.executions execution) input (s.orders index).value.orderId = false) ∨
    (s.findExecution input.executionId = none ∧
      (∃ execution, s.findFreeExecution input.executionId = some execution) ∧
      (s.orders index).value.state ≠ .unknownRecovery ∧
      DeterministicOms.overFills (s.orders index).value input = true)

/-- Which inputs cause an event. -/
def Cause (s : DeterministicOms) (input : OmsInput) (index : OrderIndex) : OrderEvent → Prop
  | .kept =>
      input.kind = .acknowledgement ∧ (s.orders index).value.state ≠ .pendingAck ∨
        input.kind = .fill ∨ input.kind = .recoveryObservation
  | .marked => input.kind = .markReady
  | .dispatched => input.kind = .dispatch
  | .cancelRequested => input.kind = .cancelIntent
  | .replaceRequested priceTicks quantityUnits =>
      input.kind = .replaceIntent ∧ priceTicks = input.intent.limitPriceTicks ∧
        quantityUnits = input.intent.quantityUnits
  | .acknowledged => input.kind = .acknowledgement
  | .rejected => input.kind = .rejection
  | .lost => input.kind = .rejection ∨ input.kind = .fill ∧ s.Contradicts input index
  | .filled quantityUnits => input.kind = .fill ∧ quantityUnits = input.quantityUnits
  | .canceled => input.kind = .cancelAcknowledgement
  | .cancelRefused => input.kind = .cancelRejection
  | .replaced => input.kind = .replaceAcknowledgement
  | .replaceRefused => input.kind = .replaceRejection
  | .expired => input.kind = .expire
  | .withdrawn => input.kind = .recoveryBegin
  | .observed observation quantityUnits =>
      input.kind = .recoveryObservation ∧ observation = input.recoveryObservation ∧
        quantityUnits = input.quantityUnits ∧ (s.orders index).value.intentId.valid = true

def OrderEvent.binds (event : OrderEvent) : Bool :=
  match event with
  | .kept | .acknowledged | .filled _ | .observed _ _ => true
  | _ => false

def OrderEvent.answered (event : OrderEvent) (kind : InputKind) : Bool :=
  match event with
  | .lost => false
  | .kept => kind == .acknowledgement
  | _ => true

/-- The gateway command that goes with an event. -/
inductive Emits (input : OmsInput) (order : OmsOrderSnapshot) : OrderEvent → GatewayCommand → Prop
  | newOrder :
      Emits input order .dispatched
        (makeGatewayCommand input order .newOrder order.priceTicks order.quantityUnits)
  | cancel :
      Emits input order .cancelRequested (withIntentEvidence
          (makeGatewayCommand input order .cancel order.priceTicks order.quantityUnits) input)
  | replace :
      Emits input order (.replaceRequested input.intent.limitPriceTicks input.intent.quantityUnits)
        (withIntentEvidence (makeGatewayCommand input order .replace input.intent.limitPriceTicks
            input.intent.quantityUnits) input)

/-- When a handler emits a command. -/
structure Emission (s : DeterministicOms) (input : OmsInput) (index : OrderIndex)
    (order : OmsOrderSnapshot) (event : OrderEvent) (r : InternalResult) : Prop where
  healthy : s.health = .healthy
  found : s.findOrder input.orderId = some index
  status : r.status = .applied
  flagged : r.snapshotChanged = true
  command : Emits input order event r.gatewayCommand

/-- What is not reported: a partial fill outside the order, after it bound an external
identifier. -/
structure SilentBinding (s : DeterministicOms) (input : OmsInput) (index : OrderIndex)
    (slot : OrderSlot) : Prop where
  kind : input.kind = .recoveryObservation
  known : (s.orders index).value.state = .unknownRecovery ∧
    (s.orders index).value.intentId.valid = true
  observation : input.recoveryObservation = .partiallyFilled
  quantity : input.quantityUnits = 0 ∨ (s.orders index).value.quantityUnits ≤ input.quantityUnits
  bindable : s.Bindable index input.externalOrderId
  slot : slot = { s.orders index with
    value := (s.orders index).value.bound input.externalOrderId }

/-- One order takes a step under the active authority. -/
structure Moves (s : DeterministicOms) (input : OmsInput) (index : OrderIndex) (slot : OrderSlot)
    (event : OrderEvent) : Prop where
  authority : s.authorityMatches input.authority = true
  resolved : s.resolveOrder input = some index
  cause : Cause s input index event
  revised : Revised input (s.orders index).value slot.value
  step : Step (s.orders index).value.view event slot.value.view
  external : slot.value.externalOrderId =
    if event.binds then ((s.orders index).value.bound input.externalOrderId).externalOrderId
    else (s.orders index).value.externalOrderId
  bindable : event.binds = true → s.Bindable index input.externalOrderId

variable {s : DeterministicOms} {input : OmsInput} {index : OrderIndex}

theorem Moves.external_cases
    {slot : OrderSlot} {event : OrderEvent} (moves : Moves s input index slot event) :
    slot.value.externalOrderId = (s.orders index).value.externalOrderId ∨
      slot.value.externalOrderId =
          ((s.orders index).value.bound input.externalOrderId).externalOrderId ∧
        s.Bindable index input.externalOrderId := by
  have external := moves.external
  split at external
  · rename_i binds
    exact .inr ⟨external, moves.bindable binds⟩
  · exact .inl external

/-- An input that names no order of the table files one. -/
structure Discovery (s : DeterministicOms) (input : OmsInput) (s' : DeterministicOms)
    (index : OrderIndex) : Prop where
  kind : input.kind.reports = true
  authority : s.authorityMatches input.authority = true
  absent : s.resolveOrder input = none
  named : (s.unknownOrderId input).valid = true
  free : s.findFreeOrder (s.unknownOrderId input) = some index
  leaves : Leaves s s' .applied
    { s.ledger with
      orders := Function.update s.orders index
        { s.orders index with value := s.unknownOrderRecord input } }

theorem Discovery.authorityMatches {s' : DeterministicOms}
    (discovery : Discovery s input s' index) : s'.authorityMatches input.authority := by
  rw [DeterministicOms.authorityMatches_congr input.authority discovery.leaves.configuration
    discovery.leaves.activeFencingToken]
  exact discovery.authority

inductive Effect (s : DeterministicOms) (input : OmsInput) (s' : DeterministicOms)
    (r : InternalResult) : Prop where
  | refused
      (leaves : Leaves s s' r.status s.ledger)
      (declined : r.status.accepted = false)
      (quiet : r.gatewayCommand.kind = .none)
  | accepted (index : OrderIndex)
      (kind : input.kind = .acceptIntent)
      (newIntent : s.findOrderByIntent input.intent.intentId = none)
      (newOrder : s.findOrder (deterministicOrderId s.configuration input.intent) = none)
      (free : s.findFreeOrder (deterministicOrderId s.configuration input.intent) = some index)
      (leaves : Leaves s s' r.status
        { s.ledger with
          orders := Function.update s.orders index
            { s.orders index with value := s.acceptedOrder input } })
      (result : r = movedResult index .created)
  | discovered (index : OrderIndex)
      (discovery : Discovery s input s' index)
      (orderIndex : r.orderIndex = some index)
      (flagged : r.snapshotChanged = true)
      (quiet : r.gatewayCommand.kind = .none)
      (unfilled : input.kind ≠ .fill)
  | moved (index : OrderIndex) (slot : OrderSlot) (event : OrderEvent)
      (moves : Moves s input index slot event)
      (leaves : Leaves s s' r.status
        { s.ledger with orders := Function.update s.orders index slot })
      (reported : r.snapshotChanged = true ∨ SilentBinding s input index slot)
      (orderIndex : r.orderIndex = some index)
      (command : r.gatewayCommand.kind = .none ∨ Emission s input index slot.value event r)
      (uncounted : ∀ quantityUnits, event ≠ .filled quantityUnits := by simp)
      (answered : r.status.accepted = event.answered input.kind := by rfl)
  | executed (index : OrderIndex) (slot : OrderSlot) (event : OrderEvent)
      (execution : ExecutionIndex)
      (moves : Moves s input index slot event)
      (kind : input.kind = .fill)
      (counted : event = .filled input.quantityUnits ∨
        event = .kept ∧ (s.orders index).value.state = .unknownRecovery)
      (new : s.findExecution input.executionId = none)
      (free : s.findFreeExecution input.executionId = some execution)
      (leaves : Leaves s s' r.status
        { s.ledger with
          orders := Function.update s.orders index slot
          executions := Function.update s.executions execution
            (DeterministicOms.executionRecord input (s.orders index).value.orderId) })
      (flagged : r.snapshotChanged = true)
      (orderIndex : r.orderIndex = some index)
      (quiet : r.gatewayCommand.kind = .none)
  | confirmed (index : OrderIndex) (slot : OrderSlot) (execution : ExecutionIndex)
      (moves : Moves s input index slot .kept)
      (kind : input.kind = .fill)
      (found : s.findExecution input.executionId = some execution)
      (same : sameExecution (s.executions execution) input (s.orders index).value.orderId = true)
      (leaves : Leaves s s' r.status
        { s.ledger with
          orders := Function.update s.orders index slot
          executions := Function.update s.executions execution
            { s.executions execution with
              sourceMask := (s.executions execution).sourceMask ||| sourceBit input.source } })
      (flagged : r.snapshotChanged = true)
      (orderIndex : r.orderIndex = some index)
      (quiet : r.gatewayCommand.kind = .none)
      (status : r.status = .reconciled)
  | rotated
      (kind : input.kind = .authorityUpdate)
      (newer : s.activeFencingToken < input.authority.fencingToken)
      (leaves : Leaves s s' r.status
        { s.ledger with
          activeFencingToken := input.authority.fencingToken
          orders := fun index => DeterministicOms.rotatedSlot (s.orders index) input })
      (flagged : r.snapshotChanged = true)
      (quiet : r.gatewayCommand.kind = .none)

/-- The outcomes of `apply_locked`. -/
inductive Handled (s : DeterministicOms) (input : OmsInput) (s' : DeterministicOms)
    (r : InternalResult) : Prop where
  | directly (effect : Effect s input s' r)
  | afterDiscovery (s₁ : DeterministicOms) (index : OrderIndex) (kind : input.kind = .fill)
      (discovery : Discovery s input s₁ index)
      (resolved : s₁.resolveOrder input = some index)
      (effect : Effect s₁ input s' r)

namespace Effect

variable {s : DeterministicOms} {input : OmsInput} {r : InternalResult}

theorem decline (declined : r.status.accepted = false) (quiet : r.gatewayCommand.kind = .none) :
    Effect s input s r :=
  .refused ⟨rfl, .inl rfl, rfl, rfl⟩ declined quiet

theorem raise {invariant : OmsInvariant} (alarm : invariant ≠ .none)
    (declined : r.status.accepted = false) (quiet : r.gatewayCommand.kind = .none) :
    Effect s input (s.setUnsafe invariant) r :=
  .refused ⟨rfl, .inr ⟨alarm, declined⟩, rfl, rfl⟩ declined quiet

theorem rewrite {index : OrderIndex} {slot : OrderSlot} (event : OrderEvent)
    (moves : Moves s input index slot event) (flagged : r.snapshotChanged)
    (orderIndex : r.orderIndex = some index)
    (command : r.gatewayCommand.kind = .none ∨ Emission s input index slot.value event r)
    (uncounted : ∀ quantityUnits, event ≠ .filled quantityUnits)
    (answered : r.status.accepted = event.answered input.kind) :
    Effect s input (s.setOrder index slot) r :=
  .moved index slot event moves ⟨rfl, .inl rfl, rfl, rfl⟩ (.inl flagged) orderIndex command
    uncounted answered

end Effect

namespace DeterministicOms

variable {s : DeterministicOms} {input : OmsInput}

theorem applyAccept_effect (kind : input.kind = .acceptIntent) :
    Effect s input (s.applyAccept input).1 (s.applyAccept input).2 := by
  unfold applyAccept
  split
  · exact .decline rfl rfl
  cases known : s.findOrderByIntent input.intent.intentId with
  | some existing =>
    apply Effect.decline _ rfl
    dsimp only
    split <;> rfl
  | none =>
    dsimp only
    split
    · exact .raise (by simp) rfl rfl
    rename_i newOrder
    cases free : s.findFreeOrder (deterministicOrderId s.configuration input.intent) with
    | none => exact .decline rfl rfl
    | some index =>
      exact .accepted index kind known (by simpa using newOrder) free ⟨rfl, .inl rfl, rfl, rfl⟩ rfl

/-- A step that is not allowed is refused. -/
theorem effect_transition {index : OrderIndex} {target previous : OrderState}
    {body : DeterministicOms → DeterministicOms × InternalResult}
    (inner : transitionAllowed (s.orders index).value.state input.kind target →
      Effect s input (body (s.modifyOrder index (·.moved input target))).1
        (body (s.modifyOrder index (·.moved input target))).2) :
    Effect s input (match s.transition index input target with
        | none => (s, forbiddenResult index previous)
        | some moved => body moved).1
      (match s.transition index input target with
        | none => (s, forbiddenResult index previous)
        | some moved => body moved).2 := by
  split
  · exact .decline rfl rfl
  next moved =>
  obtain ⟨allowed, rfl⟩ := transition_eq_some moved
  exact inner allowed

/-- An input under another authority is declined. -/
theorem effect_fenced {body : DeterministicOms × InternalResult}
    (inner : s.authorityMatches input.authority → Effect s input body.1 body.2) :
    Effect s input (if !s.authorityMatches input.authority then (s, fencedResult) else body).1
      (if !s.authorityMatches input.authority then (s, fencedResult) else body).2 := by
  split
  · exact .decline rfl rfl
  · next matching => exact inner (by simpa using matching)

/-- The rule of the handlers that name their order. -/
theorem effect_found {body : OrderIndex → DeterministicOms × InternalResult}
    (inner : ∀ index, s.findOrder input.orderId = some index →
      Effect s input (body index).1 (body index).2) :
    Effect s input (match s.findOrder input.orderId with
        | none => (s, notFoundResult)
        | some index => body index).1
      (match s.findOrder input.orderId with
        | none => (s, notFoundResult)
        | some index => body index).2 := by
  split
  · exact .decline rfl rfl
  · next index found => exact inner index found

theorem applyMarkReady_effect (kind : input.kind = .markReady) :
    Effect s input (s.applyMarkReady input).1 (s.applyMarkReady input).2 := by
  refine effect_fenced fun authority => ?_
  refine effect_found fun index found => ?_
  dsimp only
  refine effect_transition fun allowed => ?_
  rw [kind, transitionAllowed_markReady] at allowed
  exact .rewrite .marked ⟨authority, resolveOrder_of_findOrder found, kind,
      Revised.of_touched rfl rfl rfl rfl, .marked allowed.1, rfl, nofun⟩
    rfl rfl (.inl rfl) (by simp) rfl

theorem applyDispatch_effect (kind : input.kind = .dispatch) :
    Effect s input (s.applyDispatch input).1 (s.applyDispatch input).2 := by
  refine effect_fenced fun authority => ?_
  split
  · exact .decline rfl rfl
  rename_i healthy
  refine effect_found fun index found => ?_
  dsimp only
  refine effect_transition fun allowed => ?_
  rw [kind, transitionAllowed_dispatch] at allowed
  simp only [modifyOrder_self]
  exact .rewrite .dispatched ⟨authority, resolveOrder_of_findOrder found, kind,
      Revised.of_touched rfl rfl rfl rfl, .dispatched allowed.1, rfl, nofun⟩ rfl rfl
    (.inr ⟨by simpa using healthy, found, rfl, rfl, .newOrder⟩) (by simp) rfl

theorem applyCancel_effect (kind : input.kind = .cancelIntent) :
    Effect s input (s.applyCancel input).1 (s.applyCancel input).2 := by
  refine effect_fenced fun authority => ?_
  split
  · exact .decline rfl rfl
  rename_i healthy
  refine effect_found fun index found => ?_
  dsimp only
  split
  · exact .decline rfl rfl
  refine effect_transition fun allowed => ?_
  rw [kind, transitionAllowed_cancelIntent] at allowed
  simp only [modifyOrder_self, setOrder_modifyOrder]
  exact .rewrite .cancelRequested
    ⟨authority, resolveOrder_of_findOrder found, kind,
      Revised.of_touched rfl rfl rfl rfl, .cancelRequested allowed.1, rfl, nofun⟩ rfl rfl
    (.inr ⟨by simpa using healthy, found, rfl, rfl, .cancel⟩) (by simp) rfl

theorem applyReplace_effect (kind : input.kind = .replaceIntent) :
    Effect s input (s.applyReplace input).1 (s.applyReplace input).2 := by
  refine effect_fenced fun authority => ?_
  split
  · exact .decline rfl rfl
  rename_i healthy
  refine effect_found fun index found => ?_
  dsimp only
  split
  · exact .decline rfl rfl
  split
  · exact .decline rfl rfl
  rename_i room
  refine effect_transition fun allowed => ?_
  rw [kind, transitionAllowed_replaceIntent] at allowed
  simp only [modifyOrder_self, setOrder_modifyOrder]
  exact .rewrite (.replaceRequested _ _)
    ⟨authority, resolveOrder_of_findOrder found, ⟨kind, rfl, rfl⟩,
      Revised.of_touched rfl rfl rfl rfl,
      Step.replaceRequested _ _ allowed.1 (UInt64.not_le.mp room), rfl, nofun⟩ rfl rfl
    (.inr ⟨by simpa using healthy, found, rfl, rfl, .replace⟩) (by simp) rfl

theorem unknownOrder_cases (kind : input.kind.reports)
    (authority : s.authorityMatches input.authority) (absent : s.resolveOrder input = none) :
    ((s.unknownOrder input).1 = s ∧ (s.unknownOrder input).2.orderIndex = none ∧
        (s.unknownOrder input).2.status.accepted = false ∧
        (s.unknownOrder input).2.gatewayCommand.kind = .none) ∨
      ∃ index, Discovery s input (s.unknownOrder input).1 index ∧
        (s.unknownOrder input).2.orderIndex = some index ∧
        (s.unknownOrder input).2.snapshotChanged ∧
        (s.unknownOrder input).2.gatewayCommand.kind = .none ∧
        (s.unknownOrder input).1.resolveOrder input = some index := by
  unfold unknownOrder
  split
  · exact .inl ⟨rfl, rfl, rfl, rfl⟩
  rename_i named
  have named : (s.unknownOrderId input).valid := by simpa using named
  cases free : s.findFreeOrder (s.unknownOrderId input) with
  | none => exact .inl ⟨rfl, rfl, rfl, rfl⟩
  | some index =>
    exact .inr ⟨index, ⟨kind, authority, absent, named, free, ⟨rfl, .inl rfl, rfl, rfl⟩⟩,
      rfl, rfl, rfl, resolveOrder_discovered absent named free⟩

theorem unknownOrder_effect (kind : input.kind.reports) (unfilled : input.kind ≠ .fill)
    (authority : s.authorityMatches input.authority) (absent : s.resolveOrder input = none) :
    Effect s input (s.unknownOrder input).1 (s.unknownOrder input).2 := by
  rcases unknownOrder_cases kind authority absent with
    ⟨same, -, declined, quiet⟩ | ⟨index, discovery, orderIndex, flagged, quiet, -⟩
  · rw [same]
    exact .decline declined quiet
  · exact .discovered index discovery orderIndex flagged quiet unfilled

/-- Past the fence, what is reported of a known order. -/
theorem effect_resolved {body : OrderIndex → DeterministicOms × InternalResult}
    (reports : input.kind.reports) (unfilled : input.kind ≠ .fill)
    (inner : ∀ index, s.authorityMatches input.authority → s.resolveOrder input = some index →
      Effect s input (body index).1 (body index).2) :
    Effect s input (if !s.authorityMatches input.authority then (s, fencedResult)
        else match s.resolveOrder input with
          | none => s.unknownOrder input
          | some index => body index).1
      (if !s.authorityMatches input.authority then (s, fencedResult)
        else match s.resolveOrder input with
          | none => s.unknownOrder input
          | some index => body index).2 := by
  refine effect_fenced fun authority => ?_
  split
  next absent => exact unknownOrder_effect reports unfilled authority absent
  next index resolved => exact inner index authority resolved

theorem applyAcknowledgement_effect (kind : input.kind = .acknowledgement)
    (external : input.externalOrderId.valid) :
    Effect s input (s.applyAcknowledgement input).1 (s.applyAcknowledgement input).2 := by
  refine effect_resolved (by rw [kind]; rfl) (by simp [kind]) fun index authority resolved => ?_
  dsimp only
  split
  · exact .decline rfl rfl
  split
  · exact .decline rfl rfl
  rename_i allowed
  cases bound : s.bindExternalId index input.externalOrderId with
  | none => exact .raise (by simp) rfl rfl
  | some s₁ =>
    obtain ⟨bindable, rfl⟩ := bindExternalId_eq_some external bound
    dsimp only
    cases moved : (s.modifyOrder index (·.bound input.externalOrderId)).transition index input
        (acknowledgedState (s.orders index).value.state) with
    | none =>
      -- The same transition was allowed before the identifier was bound.
      have refused := transition_eq_none moved
      simp only [modifyOrder_self] at refused
      simp only [OmsOrderSnapshot.bound] at refused
      simp [refused] at allowed
    | some s₂ =>
      obtain ⟨-, rfl⟩ := transition_eq_some moved
      simp only [modifyOrder_modifyOrder]
      rw [kind, Bool.not_eq_true', Bool.not_eq_false, transitionAllowed_acknowledgement]
        at allowed
      rcases allowed with ⟨pending, next⟩ | ⟨origin, next⟩
      · refine .rewrite .acknowledged ⟨authority, resolved, kind,
          Revised.of_touched rfl rfl rfl rfl, ?_, rfl, fun _ => bindable⟩ rfl rfl (.inl rfl)
          (by simp) appliedStatus_accepted
        rw [next]
        exact .acknowledged pending
      · have past : (s.orders index).value.state ≠ .pendingAck := by
          rcases origin with h | h | h <;> simp [h]
        refine .rewrite .kept ⟨authority, resolved, .inl ⟨kind, past⟩,
          Revised.of_touched rfl rfl rfl rfl, ?_, rfl, fun _ => bindable⟩ rfl rfl (.inl rfl)
          (by simp) (by rw [kind]; exact appliedStatus_accepted)
        rw [next]
        exact .kept

theorem applyRejection_effect (kind : input.kind = .rejection) :
    Effect s input (s.applyRejection input).1 (s.applyRejection input).2 := by
  refine effect_resolved (by rw [kind]; rfl) (by simp [kind]) fun index authority resolved => ?_
  cases moved : s.transition index input .rejected with
  | none =>
    exact .rewrite .lost ⟨authority, resolved, .inl kind,
      Revised.of_touched rfl rfl rfl rfl, .lost, rfl, nofun⟩ rfl rfl (.inl rfl) (by simp)
      rfl
  | some s' =>
    obtain ⟨allowed, rfl⟩ := transition_eq_some moved
    rw [kind, transitionAllowed_rejection] at allowed
    simp only [modifyOrder_modifyOrder]
    exact .rewrite .rejected ⟨authority, resolved, kind,
      Revised.of_touched rfl rfl rfl rfl, .rejected allowed.1, rfl, nofun⟩ rfl rfl
      (.inl rfl) (by simp) rfl

theorem applyCancelResponse_effect
    (kind : input.kind = .cancelAcknowledgement ∨ input.kind = .cancelRejection) :
    Effect s input (s.applyCancelResponse input).1 (s.applyCancelResponse input).2 := by
  refine effect_resolved (by rcases kind with h | h <;> rw [h] <;> rfl)
    (by rcases kind with h | h <;> simp [h]) fun index authority resolved => ?_
  dsimp only
  split
  · rename_i acknowledged
    split
    · exact .decline rfl rfl
    rename_i unfilled
    refine effect_transition fun allowed => ?_
    rw [acknowledged, transitionAllowed_cancelAcknowledgement] at allowed
    simp only [modifyOrder_modifyOrder]
    refine .rewrite .canceled ⟨authority, resolved, acknowledged,
      Revised.of_touched rfl rfl rfl rfl, .canceled ?_, rfl, nofun⟩ rfl rfl (.inl rfl)
      (by simp) appliedStatus_accepted
    rcases allowed with ⟨origin, -⟩ | ⟨filled, -⟩
    · exact origin
    · exact absurd (.inr filled) unfilled
  · rename_i notAcknowledged
    have rejected : input.kind = .cancelRejection := kind.resolve_left notAcknowledged
    refine effect_transition fun allowed => ?_
    rw [rejected, transitionAllowed_cancelRejection] at allowed
    exact .rewrite .cancelRefused ⟨authority, resolved, rejected,
      Revised.of_touched rfl rfl rfl rfl, .cancelRefused allowed.1, rfl, nofun⟩ rfl rfl
      (.inl rfl) (by simp) appliedStatus_accepted

theorem applyReplaceResponse_effect
    (kind : input.kind = .replaceAcknowledgement ∨ input.kind = .replaceRejection) :
    Effect s input (s.applyReplaceResponse input).1 (s.applyReplaceResponse input).2 := by
  refine effect_resolved (by rcases kind with h | h <;> rw [h] <;> rfl)
    (by rcases kind with h | h <;> simp [h]) fun index authority resolved => ?_
  dsimp only
  split
  · rename_i acknowledged
    split
    · exact .raise (by simp) rfl rfl
    rename_i pending
    obtain ⟨priced, room⟩ := not_or.mp pending
    have priced : 0 < (s.orders index).value.pendingReplacePriceTicks := Int64.not_le.mp priced
    have room : (s.orders index).value.cumulativeFillQuantityUnits <
        (s.orders index).value.pendingReplaceQuantityUnits := UInt64.not_le.mp room
    have incomplete : (s.orders index).value.pendingReplaceQuantityUnits ≠
        (s.orders index).value.cumulativeFillQuantityUnits := (UInt64.ne_of_lt room).symm
    simp only [if_neg incomplete]
    split
    · exact .decline rfl rfl
    rename_i allowed
    have allowed := by simpa only [Bool.not_eq_true', Bool.not_eq_false] using allowed
    unfold closeReplace
    simp only [modifyOrder_self, transition_eq, replaced_state,
      stateForOpenQuantity_replaced, allowed, if_true, modifyOrder_modifyOrder]
    have origin : (s.orders index).value.state = .pendingReplace := by
      rw [acknowledged, transitionAllowed_replaceAcknowledgement] at allowed
      exact allowed.1
    exact .rewrite .replaced ⟨authority, resolved, acknowledged,
      Revised.of_touched rfl rfl rfl rfl, .replaced origin priced room, rfl, nofun⟩ rfl rfl
      (.inl rfl) (by simp) appliedStatus_accepted
  · rename_i notAcknowledged
    have rejected : input.kind = .replaceRejection := kind.resolve_left notAcknowledged
    unfold closeReplace
    refine effect_transition fun allowed => ?_
    rw [rejected, transitionAllowed_replaceRejection] at allowed
    simp only [modifyOrder_modifyOrder]
    exact .rewrite .replaceRefused ⟨authority, resolved, rejected,
      Revised.of_touched rfl rfl rfl rfl, .replaceRefused allowed.1, rfl, nofun⟩ rfl rfl
      (.inl rfl) (by simp) appliedStatus_accepted

theorem applyExpire_effect (kind : input.kind = .expire) :
    Effect s input (s.applyExpire input).1 (s.applyExpire input).2 := by
  refine effect_fenced fun authority => ?_
  refine effect_found fun index found => ?_
  dsimp only
  split
  · exact .decline rfl rfl
  refine effect_transition fun allowed => ?_
  rw [kind, transitionAllowed_expire] at allowed
  simp only [modifyOrder_modifyOrder]
  exact .rewrite .expired ⟨authority, resolveOrder_of_findOrder found, kind,
      Revised.of_touched rfl rfl rfl rfl, .expired allowed.1, rfl, nofun⟩ rfl rfl
    (.inl rfl) (by simp) rfl

theorem applyRecoveryBegin_effect (kind : input.kind = .recoveryBegin) :
    Effect s input (s.applyRecoveryBegin input).1 (s.applyRecoveryBegin input).2 := by
  refine effect_fenced fun authority => ?_
  refine effect_found fun index found => ?_
  dsimp only
  refine effect_transition fun allowed => ?_
  rw [kind, transitionAllowed_recoveryBegin] at allowed
  simp only [modifyOrder_modifyOrder]
  exact .moved index
    { s.orders index with
      value :=
        ((s.orders index).value.moved input .unknownRecovery).withdrawnFrom
          (s.orders index).value.state }
    .withdrawn
    ⟨authority, resolveOrder_of_findOrder found, kind,
      Revised.of_touched rfl rfl rfl rfl, .withdrawn allowed.1, rfl, nofun⟩
    ⟨rfl, .inl rfl, rfl, rfl⟩ (.inl rfl) rfl (.inl rfl) (by simp) rfl

variable {order : OmsOrderSnapshot} {index : OrderIndex} {execution : ExecutionIndex}

theorem observed_spec {order' : OmsOrderSnapshot} {next : OrderState}
    (seen : observed order input = some (order', next)) (unknown : order.state = .unknownRecovery)
    (unambiguous : input.recoveryObservation ≠ .absentAmbiguous)
    (listed : validRecoveryObservation input.recoveryObservation) :
    Step order.view (.observed input.recoveryObservation input.quantityUnits)
        { order'.view with state := next } ∧
      transitionAllowed order'.state .recoveryObservation next ∧
      order'.identity = order.identity ∧ order'.authority = order.authority ∧
      order'.stateVersion = order.stateVersion ∧
      order'.externalOrderId = order.externalOrderId := by
  have openState : stateForOpenQuantity order = order.view.openState := rfl
  have openCases := order.view.openState_eq
  unfold observed at seen
  cases observation : input.recoveryObservation with
  | partiallyFilled =>
    simp only [observation] at seen
    split at seen
    · cases seen
    rename_i range
    obtain ⟨nonzero, below⟩ := not_or.mp range
    cases seen
    refine ⟨Step.observed _ _ unknown fun _ => ⟨nonzero, UInt64.not_le.mp below⟩, ?_, rfl, rfl,
      rfl, rfl⟩
    rw [transitionAllowed_recoveryObservation]
    exact ⟨unknown, .inr (.inl rfl)⟩
  | absentAmbiguous => exact absurd observation unambiguous
  | none => simp [observation, validRecoveryObservation, RecoveryObservation.code] at listed
  | unlisted byte =>
    simp only [observation, validRecoveryObservation, RecoveryObservation.code, Bool.and_eq_true,
      decide_eq_true_eq] at listed
    exact absurd listed.2 (UInt8.not_le.mpr (byte.outside.resolve_left UInt8.not_lt_zero))
  | working =>
    simp only [observation] at seen
    cases seen
    refine ⟨Step.observed _ _ unknown (by simp), ?_, rfl, rfl, rfl, rfl⟩
    rw [transitionAllowed_recoveryObservation, openState]
    exact ⟨unknown, by rcases openCases with h | h <;> simp [h]⟩
  | _ =>
    simp only [observation] at seen
    cases seen
    refine ⟨Step.observed _ _ unknown (by simp), ?_, rfl, rfl, rfl, rfl⟩
    rw [transitionAllowed_recoveryObservation]
    exact ⟨unknown, .inr (.inr (.inl rfl))⟩

theorem observed_eq_none (refused : observed order input = none) :
    input.recoveryObservation = .partiallyFilled ∧
      (input.quantityUnits = 0 ∨ order.quantityUnits ≤ input.quantityUnits) := by
  unfold observed at refused
  split at refused
  · cases refused
  · rename_i observation
    split at refused
    · rename_i range
      exact ⟨observation, range⟩
    · cases refused
  all_goals cases refused

theorem applyRecoveryObservation_effect (kind : input.kind = .recoveryObservation)
    (listed : validRecoveryObservation input.recoveryObservation) :
    Effect s input (s.applyRecoveryObservation input).1 (s.applyRecoveryObservation input).2 := by
  refine effect_resolved (by rw [kind]; rfl) (by simp [kind]) fun index authority resolved => ?_
  dsimp only
  split
  · exact .decline rfl rfl
  rename_i known
  obtain ⟨unknown, intent⟩ := not_or.mp known
  have unknown : (s.orders index).value.state = .unknownRecovery := by simpa using unknown
  have intent : (s.orders index).value.intentId.valid := by simpa using intent
  cases bound : s.bindReported index input.externalOrderId with
  | none => exact .raise (by simp) rfl rfl
  | some s₁ =>
    obtain ⟨bindable, rfl⟩ := bindReported_eq_some bound
    dsimp only
    split
    · simp only [touchOrder, modifyOrder_modifyOrder]
      exact .rewrite .kept ⟨authority, resolved, .inr (.inr kind),
        Revised.of_touched rfl rfl rfl rfl, .kept, rfl, fun _ => bindable⟩ rfl rfl (.inl rfl)
        (by simp) (by rw [kind]; rfl)
    rename_i unambiguous
    simp only [modifyOrder_self]
    cases seen : observed ((s.orders index).value.bound input.externalOrderId) input with
    | none =>
      refine .moved index
        { s.orders index with value := (s.orders index).value.bound input.externalOrderId }
        .kept ⟨authority, resolved, .inr (.inr kind), .bound _, .kept, rfl,
          fun _ => bindable⟩
        ⟨rfl, .inl rfl, rfl, rfl⟩ (.inr ?_) rfl (.inl rfl) (by simp) (by rw [kind]; rfl)
      obtain ⟨observation, range⟩ := observed_eq_none seen
      exact ⟨kind, ⟨unknown, intent⟩, observation, range, bindable, rfl⟩
    | some result =>
      obtain ⟨order, next⟩ := result
      obtain ⟨step, allowed, identity, sameAuthority, version, external⟩ :=
        observed_spec seen unknown unambiguous listed
      dsimp only
      rw [transition_eq]
      simp only [modifyOrder_self, kind, allowed, if_true, modifyOrder_modifyOrder]
      refine .moved index
        { s.orders index with value := order.moved input next }
        (.observed input.recoveryObservation input.quantityUnits)
        ⟨authority, resolved, ⟨kind, rfl, rfl, intent⟩, ?_, step, external,
          fun _ => bindable⟩
        ⟨?_, .inl rfl, rfl, rfl⟩ (.inl rfl) rfl (.inl rfl) (by simp) rfl
      · refine .of_touched identity ?_ (congrArg (· + 1) version) rfl
        simp only [moved, touched, sameAuthority]
        rfl
      · rw [updateHealthFromState_ledger]
        rfl

theorem applyAuthorityUpdate_effect (kind : input.kind = .authorityUpdate) :
    Effect s input (s.applyAuthorityUpdate input).1 (s.applyAuthorityUpdate input).2 := by
  unfold applyAuthorityUpdate
  split
  · exact .raise (by simp) rfl rfl
  split
  · exact .raise (by simp) rfl rfl
  rename_i notOlder
  split
  · exact .decline rfl rfl
  rename_i notSame
  refine .rotated kind ?_ ⟨rfl, .inl rfl, rfl, rfl⟩ rfl rfl
  exact UInt64.lt_of_le_of_ne (UInt64.not_lt.mp notOlder) (Ne.symm notSame)

section

variable (kind : input.kind = .fill)
include kind

section

variable (authority : s.authorityMatches input.authority)
include authority

section

variable (resolved : s.resolveOrder input = some index)
include resolved

theorem applyExistingFill_effect (found : s.findExecution input.executionId = some execution) :
    Effect s input (s.applyExistingFill input index execution).1
      (s.applyExistingFill input index execution).2 := by
  cases same : sameExecution (s.executions execution) input (s.orders index).value.orderId with
  | false =>
    rw [applyExistingFill_conflict same]
    exact .moved index { s.orders index with value := (s.orders index).value.lost input } .lost
      ⟨authority, resolved, .inr ⟨kind, .inl ⟨execution, found, same⟩⟩,
        Revised.of_touched rfl rfl rfl rfl, .lost, rfl, nofun⟩
      ⟨rfl, .inr ⟨by simp [setUnsafe], rfl⟩, rfl, rfl⟩ (.inl rfl) rfl (.inl rfl) (by simp) rfl
  | true =>
    by_cases bindable : s.Bindable index input.externalOrderId
    · by_cases unseen : (s.executions execution).sourceMask &&& sourceBit input.source = 0
      · rw [applyExistingFill_confirmed same bindable unseen]
        exact .confirmed index
          { s.orders index with value := (s.orders index).value.notedBy input } execution
          ⟨authority, resolved, .inr (.inl kind), .of_touched rfl rfl rfl rfl, .kept, rfl,
            fun _ => bindable⟩
          kind found same ⟨rfl, .inl rfl, rfl, rfl⟩ rfl rfl rfl rfl
      · rw [applyExistingFill_repeated same bindable unseen]
        cases maps : mapsExternal (s.orders index).value input with
        | true =>
          exact .rewrite .kept ⟨authority, resolved, .inr (.inl kind),
            Revised.of_touched rfl rfl rfl rfl, .kept, rfl, fun _ => bindable⟩ rfl rfl
            (.inl rfl) (by simp) (by rw [kind]; rfl)
        | false => exact .decline rfl rfl
    · rw [applyExistingFill_taken same bindable]
      exact .raise (by simp) rfl rfl

theorem applyNewFill_effect (new : s.findExecution input.executionId = none)
    (free : s.findFreeExecution input.executionId = some execution) :
    Effect s input (s.applyNewFill input index execution).1
      (s.applyNewFill input index execution).2 := by
  by_cases unknown : (s.orders index).value.state = .unknownRecovery
  · by_cases bindable : s.Bindable index input.externalOrderId
    · rw [applyNewFill_unknown unknown bindable]
      exact .executed index
        { s.orders index with value := (s.orders index).value.notedBy input } .kept execution
        ⟨authority, resolved, .inr (.inl kind), .of_touched rfl rfl rfl rfl, .kept, rfl,
          fun _ => bindable⟩
        kind (.inr ⟨rfl, unknown⟩) new free ⟨rfl, .inl rfl, rfl, rfl⟩ rfl rfl rfl
    · rw [applyNewFill_conflict (.inl unknown) bindable]
      exact .raise (by simp) rfl rfl
  cases excess : overFills (s.orders index).value input with
  | true =>
    rw [applyNewFill_over unknown excess]
    exact .moved index { s.orders index with value := (s.orders index).value.lost input } .lost
      ⟨authority, resolved, .inr ⟨kind, .inr ⟨new, ⟨execution, free⟩, unknown, excess⟩⟩,
        Revised.of_touched rfl rfl rfl rfl, .lost, rfl, nofun⟩
      ⟨rfl, .inr ⟨by simp [setUnsafe], rfl⟩, rfl, rfl⟩ (.inl rfl) rfl (.inl rfl) (by simp) rfl
  | false =>
    cases allowed : transitionAllowed (s.orders index).value.state input.kind
        (fillOutcome (s.orders index).value input) with
    | false =>
      rw [applyNewFill_forbidden unknown excess allowed]
      exact .decline rfl rfl
    | true =>
      by_cases bindable : s.Bindable index input.externalOrderId
      · rw [applyNewFill_credited unknown excess allowed bindable]
        rw [kind] at allowed
        exact .executed index
          { s.orders index with value := (s.orders index).value.filledBy input }
          (.filled input.quantityUnits) execution
          ⟨authority, resolved, ⟨kind, rfl⟩, .of_touched rfl rfl rfl rfl,
            Step.filled _ (overFills_eq_false.mp excess) allowed unknown, rfl,
            fun _ => bindable⟩
          kind (.inl rfl) new free ⟨rfl, .inl rfl, rfl, rfl⟩ rfl rfl rfl
      · rw [applyNewFill_conflict (.inr ⟨excess, allowed⟩) bindable]
        exact .raise (by simp) rfl rfl

theorem applyFillAt_effect :
    Effect s input (s.applyFillAt input index).1 (s.applyFillAt input index).2 := by
  unfold applyFillAt
  cases found : s.findExecution input.executionId with
  | some execution => exact applyExistingFill_effect kind authority resolved found
  | none =>
    cases free : s.findFreeExecution input.executionId with
    | none => exact .decline rfl rfl
    | some execution => exact applyNewFill_effect kind authority resolved found free

end

end

theorem applyFill_handled : Handled s input (s.applyFill input).1 (s.applyFill input).2 := by
  unfold applyFill
  split
  · exact .directly (Effect.decline rfl rfl)
  rename_i authority
  have authority : s.authorityMatches input.authority := by simpa using authority
  cases resolved : s.resolveOrder input with
  | some index => exact .directly (applyFillAt_effect kind authority resolved)
  | none =>
    dsimp only
    rcases unknownOrder_cases (by rw [kind]; rfl) authority resolved with
      ⟨same, noIndex, declined, quiet⟩ | ⟨index, discovery, orderIndex, -, -, found⟩
    · rw [noIndex, same]
      exact .directly (Effect.decline declined quiet)
    · rw [orderIndex]
      exact .afterDiscovery _ index kind discovery found
        (applyFillAt_effect kind discovery.authorityMatches found)

end

/-- A valid input is handled with one of the listed effects. -/
theorem applyLocked_handled (valid : validInput input) :
    Handled s input (s.applyLocked input).1 (s.applyLocked input).2 := by
  unfold applyLocked
  cases kind : input.kind with
  | acceptIntent => exact .directly (applyAccept_effect kind)
  | markReady => exact .directly (applyMarkReady_effect kind)
  | dispatch => exact .directly (applyDispatch_effect kind)
  | cancelIntent => exact .directly (applyCancel_effect kind)
  | replaceIntent => exact .directly (applyReplace_effect kind)
  | acknowledgement =>
    refine .directly (applyAcknowledgement_effect kind ?_)
    simp only [validInput, kind, validAckInput, Bool.and_eq_true] at valid
    exact valid.2.1.1.2
  | rejection => exact .directly (applyRejection_effect kind)
  | fill => exact applyFill_handled kind
  | cancelAcknowledgement => exact .directly (applyCancelResponse_effect (.inl kind))
  | cancelRejection => exact .directly (applyCancelResponse_effect (.inr kind))
  | replaceAcknowledgement => exact .directly (applyReplaceResponse_effect (.inl kind))
  | replaceRejection => exact .directly (applyReplaceResponse_effect (.inr kind))
  | expire => exact .directly (applyExpire_effect kind)
  | recoveryBegin => exact .directly (applyRecoveryBegin_effect kind)
  | recoveryObservation =>
    refine .directly (applyRecoveryObservation_effect kind ?_)
    simp only [validInput, kind, validRecoveryInput, Bool.and_eq_true] at valid
    exact valid.2.2
  | authorityUpdate => exact .directly (applyAuthorityUpdate_effect kind)
  | unlisted byte => exact .directly (Effect.decline rfl rfl)

end DeterministicOms

end Aegis.Oms
