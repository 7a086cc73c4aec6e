import Aegis.Oms.State

/-!
The handlers of `DeterministicOms` (`oms/src/service.cpp`). Every early return is one branch, in
the same order.
-/

namespace Aegis.Oms

open Aegis.Common Aegis.Risk Aegis.Foundation

def orderScopeMatches (order : OmsOrderSnapshot) (intent : RiskIntent) : Bool :=
  order.sessionId == intent.sessionId && order.accountId == intent.accountId &&
    order.strategyId == intent.strategyId && order.venueId == intent.venueId &&
    order.instrumentId == intent.instrumentId && order.side == intent.action

def cancelScopeMatches (order : OmsOrderSnapshot) (intent : RiskIntent) : Bool :=
  intent.targetOrderId == order.orderId && intent.sessionId == order.sessionId &&
    intent.accountId == order.accountId && intent.strategyId == order.strategyId &&
    intent.venueId == order.venueId && intent.instrumentId == order.instrumentId

/-- `same_execution`: the economics of a repeated execution. -/
def sameExecution (existing : ExecutionSlot) (input : OmsInput) (orderId : OrderId) : Bool :=
  existing.orderId == orderId && existing.priceTicks == input.priceTicks &&
    existing.quantityUnits == input.quantityUnits &&
    (!existing.externalOrderId.valid || !input.externalOrderId.valid ||
      existing.externalOrderId == input.externalOrderId)

def stateForOpenQuantity (order : OmsOrderSnapshot) : OrderState :=
  if order.cumulativeFillQuantityUnits = 0 then .working else .partiallyFilled

def invalidReason (input : OmsInput) : OmsReason :=
  if input.kind = .acceptIntent ∨ input.kind = .cancelIntent ∨ input.kind = .replaceIntent then
    .exactRiskApprovalRequired
  else .configurationInvalid

def appliedStatus (outOfOrder : Bool) : ApplyStatus :=
  if outOfOrder then .outOfOrderApplied else .applied

def makeGatewayCommand (input : OmsInput) (order : OmsOrderSnapshot) (kind : GatewayCommandKind)
    (priceTicks : Int64) (quantityUnits : UInt64) : GatewayCommand :=
  let command : GatewayCommand :=
    { commandId := input.receiptId
      kind
      orderId := order.orderId
      externalOrderId := order.externalOrderId
      clientOrderId := order.clientOrderId
      sessionId := order.sessionId
      accountId := order.accountId
      strategyId := order.strategyId
      venueId := order.venueId
      instrumentId := order.instrumentId
      configurationVersion := order.configurationVersion
      side := order.side
      priceTicks
      quantityUnits
      cumulativeFillQuantityUnits := order.cumulativeFillQuantityUnits
      authority := input.authority
      intentHash := order.intentHash
      riskDecisionHash := order.riskDecisionHash
      generatedProcessMonotonicTimeNs := input.processMonotonicTimeNs }
  { command with stableHash := stableGatewayCommandHash command }

/-- Commands carry the evidence of their own intent. -/
def withIntentEvidence (command : GatewayCommand) (input : OmsInput) : GatewayCommand :=
  let command :=
    { command with
      intentHash := input.intent.stableHash
      riskDecisionHash := input.riskDecision.stableHash }
  { command with stableHash := stableGatewayCommandHash command }

def fencedResult : InternalResult :=
  { status := .fenced, reason := .staleFencingToken }

def inhibitedResult : InternalResult :=
  { status := .inhibited, reason := .recoveryRequired }

def notFoundResult : InternalResult :=
  { status := .notFound, reason := .orderNotFound }

def forbiddenResult (index : OrderIndex) (previous : OrderState) : InternalResult :=
  { status := .forbiddenTransition, reason := .forbiddenTransition, orderIndex := some index,
    previousState := previous }

def externalConflictResult (index : OrderIndex) (previous : OrderState) : InternalResult :=
  { status := .invalid, reason := .externalIdConflict, orderIndex := some index,
    previousState := previous, snapshotChanged := true }

def duplicateResult (index : OrderIndex) (previous : OrderState) : InternalResult :=
  { status := .duplicate, reason := .duplicateReceipt, orderIndex := some index,
    previousState := previous }

def movedResult (index : OrderIndex) (previous : OrderState)
    (status : ApplyStatus := .applied) : InternalResult :=
  { status, reason := .accepted, orderIndex := some index, previousState := previous,
    stateChanged := true, snapshotChanged := true }

namespace DeterministicOms

def acceptedOrder (s : DeterministicOms) (input : OmsInput) : OmsOrderSnapshot :=
  let orderId := deterministicOrderId s.configuration input.intent
  { orderId
    intentId := input.intent.intentId
    sessionId := input.intent.sessionId
    accountId := input.intent.accountId
    strategyId := input.intent.strategyId
    venueId := input.intent.venueId
    instrumentId := input.intent.instrumentId
    configurationVersion := input.intent.configurationVersion
    clientOrderId := deterministicClientOrderId orderId
    authority := ⟨s.configuration.exchangeSessionEpoch, s.activeFencingToken⟩
    state := .created
    stateBeforeRecovery := .created
    side := input.intent.action
    priceTicks := input.intent.limitPriceTicks
    quantityUnits := input.intent.quantityUnits
    remainingQuantityUnits := input.intent.quantityUnits
    stateVersion := 1
    lastUpdateProcessMonotonicTimeNs := input.processMonotonicTimeNs
    intentHash := input.intent.stableHash
    riskDecisionHash := input.riskDecision.stableHash
    occupied := true }

def applyAccept (s : DeterministicOms) (input : OmsInput) : DeterministicOms × InternalResult :=
  if input.intent.sessionId ≠ s.configuration.sessionId ∨
      input.intent.accountId ≠ s.configuration.accountId ∨
      input.intent.configurationVersion ≠ s.configuration.configurationVersion then
    (s, { status := .invalid, reason := .scopeMismatch })
  else
    match s.findOrderByIntent input.intent.intentId with
    | some existing =>
        let order := (s.orders existing).value
        let same : Bool := order.intentHash = input.intent.stableHash
        (s, { status := if same then .duplicate else .invalid
              reason := if same then .duplicateIntent else .receiptConflict
              orderIndex := some existing
              previousState := order.state })
    | none =>
        let orderId := deterministicOrderId s.configuration input.intent
        if s.findOrder orderId ≠ none then
          (s.setUnsafe .receiptConflict, { status := .invalid, reason := .receiptConflict })
        else
          match s.findFreeOrder orderId with
          | none => (s, { status := .capacityExhausted, reason := .orderCapacity })
          | some index =>
              (s.modifyOrder index fun _ => s.acceptedOrder input, movedResult index .created)

def applyMarkReady (s : DeterministicOms) (input : OmsInput) : DeterministicOms × InternalResult :=
  if !s.authorityMatches input.authority then (s, fencedResult)
  else
    match s.findOrder input.orderId with
    | none => (s, notFoundResult)
    | some index =>
        let previous := (s.orders index).value.state
        match s.transition index input .ready with
        | none => (s, forbiddenResult index previous)
        | some moved => (moved, movedResult index previous)

def applyDispatch (s : DeterministicOms) (input : OmsInput) : DeterministicOms × InternalResult :=
  if !s.authorityMatches input.authority then (s, fencedResult)
  else if s.health ≠ .healthy then (s, inhibitedResult)
  else
    match s.findOrder input.orderId with
    | none => (s, notFoundResult)
    | some index =>
        let previous := (s.orders index).value.state
        match s.transition index input .pendingAck with
        | none => (s, forbiddenResult index previous)
        | some moved =>
            let order := (moved.orders index).value
            (moved,
              { movedResult index previous with
                gatewayCommand :=
                  makeGatewayCommand input order .newOrder order.priceTicks order.quantityUnits })

def applyCancel (s : DeterministicOms) (input : OmsInput) : DeterministicOms × InternalResult :=
  if !s.authorityMatches input.authority then (s, fencedResult)
  else if s.health ≠ .healthy then (s, inhibitedResult)
  else
    match s.findOrder input.orderId with
    | none => (s, notFoundResult)
    | some index =>
        let previous := (s.orders index).value.state
        if !cancelScopeMatches (s.orders index).value input.intent then
          (s, { status := .invalid, reason := .scopeMismatch, orderIndex := some index,
                previousState := previous })
        else
          match s.transition index input .pendingCancel with
          | none => (s, forbiddenResult index previous)
          | some moved =>
              let slot := moved.orders index
              let order := slot.value.withoutReplace
              let stateBeforePending :=
                if previous ≠ .pendingReplace then previous else slot.stateBeforePending
              (moved.setOrder index ⟨order, stateBeforePending⟩,
                { movedResult index previous with
                  gatewayCommand := withIntentEvidence
                    (makeGatewayCommand input order .cancel order.priceTicks order.quantityUnits)
                    input })

def applyReplace (s : DeterministicOms) (input : OmsInput) : DeterministicOms × InternalResult :=
  if !s.authorityMatches input.authority then (s, fencedResult)
  else if s.health ≠ .healthy then (s, inhibitedResult)
  else
    match s.findOrder input.orderId with
    | none => (s, notFoundResult)
    | some index =>
        let previous := (s.orders index).value.state
        if !orderScopeMatches (s.orders index).value input.intent then
          (s, { status := .invalid, reason := .scopeMismatch, orderIndex := some index,
                previousState := previous })
        else if input.intent.quantityUnits ≤
            (s.orders index).value.cumulativeFillQuantityUnits then
          (s, { status := .invalid, reason := .invalidQuantity, orderIndex := some index,
                previousState := previous })
        else
          match s.transition index input .pendingReplace with
          | none => (s, forbiddenResult index previous)
          | some moved =>
              let order :=
                { (moved.orders index).value with
                  pendingReplacePriceTicks := input.intent.limitPriceTicks
                  pendingReplaceQuantityUnits := input.intent.quantityUnits }
              (moved.setOrder index ⟨order, previous⟩,
                { movedResult index previous with
                  gatewayCommand := withIntentEvidence
                    (makeGatewayCommand input order .replace input.intent.limitPriceTicks
                      input.intent.quantityUnits)
                    input })

/-- The reported identifier, or a derived one. -/
def unknownOrderId (s : DeterministicOms) (input : OmsInput) : OrderId :=
  if !input.orderId.valid && input.externalOrderId.valid then
    ⟨input.externalOrderId.high ^^^ s.configuration.exchangeSessionEpoch,
      input.externalOrderId.low ^^^ 0x4F4D535245434F56⟩
  else input.orderId

def unknownOrderRecord (s : DeterministicOms) (input : OmsInput) : OmsOrderSnapshot :=
  let orderId := s.unknownOrderId input
  { orderId
    sessionId := s.configuration.sessionId
    accountId := s.configuration.accountId
    configurationVersion := s.configuration.configurationVersion
    externalOrderId := input.externalOrderId
    clientOrderId := deterministicClientOrderId orderId
    authority := input.authority
    state := .unknownRecovery
    stateBeforeRecovery := .unknownRecovery
    priceTicks := input.priceTicks
    quantityUnits := input.quantityUnits
    cumulativeFillQuantityUnits := if input.kind = .fill then input.quantityUnits else 0
    stateVersion := 1
    lastVenueSequence := input.venueSequence
    lastUpdateProcessMonotonicTimeNs := input.processMonotonicTimeNs
    fillSourceMask := sourceBit input.source
    occupied := true }

def unknownOrder (s : DeterministicOms) (input : OmsInput) : DeterministicOms × InternalResult :=
  if !(s.unknownOrderId input).valid then (s, notFoundResult)
  else
    match s.findFreeOrder (s.unknownOrderId input) with
    | none => (s, { status := .capacityExhausted, reason := .orderCapacity })
    | some index =>
        ({ s.modifyOrder index (fun _ => s.unknownOrderRecord input) with health := .recovering },
          { status := .applied, reason := .recoveryRequired, orderIndex := some index,
            previousState := .unknownRecovery, stateChanged := true, snapshotChanged := true })

def acknowledgedState (previous : OrderState) : OrderState :=
  if previous = .pendingAck then .working else previous

def applyAcknowledgement (s : DeterministicOms) (input : OmsInput) :
    DeterministicOms × InternalResult :=
  if !s.authorityMatches input.authority then (s, fencedResult)
  else
    match s.resolveOrder input with
    | none => s.unknownOrder input
    | some index =>
        let previous := (s.orders index).value.state
        if previous = .working ∨ terminalState previous then (s, duplicateResult index previous)
        else
          let next := acknowledgedState previous
          if !transitionAllowed previous input.kind next then (s, forbiddenResult index previous)
          else
            match s.bindExternalId index input.externalOrderId with
            | none => (s.setUnsafe .externalMappingConflict, externalConflictResult index previous)
            | some bound =>
                let outOfOrder : Bool :=
                  input.venueSequence ≤ (bound.orders index).value.lastVenueSequence
                match bound.transition index input next with
                | none => (bound, forbiddenResult index previous)
                | some moved =>
                    (moved,
                      { movedResult index previous (appliedStatus outOfOrder) with
                        stateChanged := previous ≠ next })

def applyRejection (s : DeterministicOms) (input : OmsInput) : DeterministicOms × InternalResult :=
  if !s.authorityMatches input.authority then (s, fencedResult)
  else
    match s.resolveOrder input with
    | none => s.unknownOrder input
    | some index =>
        let previous := (s.orders index).value.state
        match s.transition index input .rejected with
        | none =>
            (s.modifyOrder index (·.lost input),
              { forbiddenResult index previous with
                stateChanged := previous ≠ .unknownRecovery
                snapshotChanged := true })
        | some moved =>
            (moved.modifyOrder index (·.closed), movedResult index previous)

/-- `apply_existing_fill`: an execution that is already recorded. -/
def applyExistingFill (s : DeterministicOms) (input : OmsInput) (orderIndex : OrderIndex)
    (executionIndex : ExecutionIndex) : DeterministicOms × InternalResult :=
  let order := (s.orders orderIndex).value
  let previous := order.state
  let execution := s.executions executionIndex
  if !sameExecution execution input order.orderId then
    ((s.modifyOrder orderIndex (·.lost input)).setUnsafe .executionConflict,
      { status := .invalid, reason := .executionConflict, orderIndex := some orderIndex,
        previousState := previous, stateChanged := true, snapshotChanged := true })
  else
    let mappedExternal := input.externalOrderId.valid && !order.externalOrderId.valid
    match s.bindReported orderIndex input.externalOrderId with
    | none => (s.setUnsafe .externalMappingConflict, externalConflictResult orderIndex previous)
    | some bound =>
        let bit := sourceBit input.source
        if (execution.sourceMask &&& bit) ≠ 0 then
          (if mappedExternal then bound.touchOrder orderIndex input else bound,
            { duplicateResult orderIndex previous with snapshotChanged := mappedExternal })
        else
          (((bound.setExecution executionIndex
              { execution with sourceMask := execution.sourceMask ||| bit }).modifyOrder orderIndex
                (·.reportedBy input.source)).touchOrder orderIndex input,
            { status := .reconciled, reason := .accepted, orderIndex := some orderIndex,
              previousState := previous, snapshotChanged := true })

def executionRecord (input : OmsInput) (orderId : OrderId) : ExecutionSlot :=
  { executionId := input.executionId
    orderId
    externalOrderId := input.externalOrderId
    priceTicks := input.priceTicks
    quantityUnits := input.quantityUnits
    venueSequence := input.venueSequence
    sourceMask := sourceBit input.source
    occupied := true }

/-- The over-fill test; its difference cannot wrap around. -/
def overFills (order : OmsOrderSnapshot) (input : OmsInput) : Bool :=
  input.quantityUnits > order.quantityUnits ||
    order.cumulativeFillQuantityUnits > order.quantityUnits - input.quantityUnits

def fillTarget (previous : OrderState) (remaining : UInt64) : OrderState :=
  if remaining = 0 then .filled
  else if previous = .pendingCancel ∨ previous = .pendingReplace ∨ previous = .canceled then
    previous
  else .partiallyFilled

/-- `apply_new_fill`: an execution seen for the first time. -/
def applyNewFill (s : DeterministicOms) (input : OmsInput) (orderIndex : OrderIndex)
    (executionIndex : ExecutionIndex) : DeterministicOms × InternalResult :=
  let order := (s.orders orderIndex).value
  let previous := order.state
  if previous ≠ .unknownRecovery ∧ overFills order input then
    ((s.modifyOrder orderIndex (·.lost input)).setUnsafe .quantityMismatch,
      { status := .invalid, reason := .invalidQuantity, orderIndex := some orderIndex,
        previousState := previous, stateChanged := true, snapshotChanged := true })
  else if previous = .unknownRecovery then
    match s.bindReported orderIndex input.externalOrderId with
    | none => (s.setUnsafe .externalMappingConflict, externalConflictResult orderIndex previous)
    | some bound =>
        (((bound.setExecution executionIndex (executionRecord input order.orderId)).modifyOrder
            orderIndex (·.reportedBy input.source)).touchOrder orderIndex input,
          { status := .applied, reason := .recoveryRequired, orderIndex := some orderIndex,
            previousState := previous, snapshotChanged := true })
  else
    let outOfOrder : Bool := input.venueSequence ≤ order.lastVenueSequence
    let cumulative := order.cumulativeFillQuantityUnits + input.quantityUnits
    let remaining := order.quantityUnits - cumulative
    let next := fillTarget previous remaining
    if !transitionAllowed previous input.kind next then (s, forbiddenResult orderIndex previous)
    else
      match s.bindReported orderIndex input.externalOrderId with
      | none => (s.setUnsafe .externalMappingConflict, externalConflictResult orderIndex previous)
      | some bound =>
          let recorded :=
            (bound.setExecution executionIndex (executionRecord input order.orderId)).modifyOrder
              orderIndex fun order =>
                (order.credited cumulative (if terminalState next then 0 else remaining)).reportedBy
                  input.source
          ((recorded.transition orderIndex input next).getD recorded,
            { movedResult orderIndex previous (appliedStatus outOfOrder) with
              stateChanged := previous ≠ next })

/-- The part of `apply_fill` after the order is known. -/
def applyFillAt (s : DeterministicOms) (input : OmsInput) (orderIndex : OrderIndex) :
    DeterministicOms × InternalResult :=
  match s.findExecution input.executionId with
  | some executionIndex => s.applyExistingFill input orderIndex executionIndex
  | none =>
      match s.findFreeExecution input.executionId with
      | none =>
          (s, { status := .capacityExhausted, reason := .executionCapacity,
                orderIndex := some orderIndex, previousState := (s.orders orderIndex).value.state })
      | some executionIndex => s.applyNewFill input orderIndex executionIndex

def applyFill (s : DeterministicOms) (input : OmsInput) : DeterministicOms × InternalResult :=
  if !s.authorityMatches input.authority then (s, fencedResult)
  else
    match s.resolveOrder input with
    | some orderIndex => s.applyFillAt input orderIndex
    | none =>
        let created := s.unknownOrder input
        match created.2.orderIndex with
        | none => created
        | some orderIndex => created.1.applyFillAt input orderIndex

def applyCancelResponse (s : DeterministicOms) (input : OmsInput) :
    DeterministicOms × InternalResult :=
  if !s.authorityMatches input.authority then (s, fencedResult)
  else
    match s.resolveOrder input with
    | none => s.unknownOrder input
    | some index =>
        let order := (s.orders index).value
        let previous := order.state
        let outOfOrder : Bool := input.venueSequence ≤ order.lastVenueSequence
        if input.kind = .cancelAcknowledgement then
          if previous = .canceled ∨ previous = .filled then (s, duplicateResult index previous)
          else
            match s.transition index input .canceled with
            | none => (s, forbiddenResult index previous)
            | some moved =>
                (moved.modifyOrder index (·.closed),
                  movedResult index previous (appliedStatus outOfOrder))
        else
          match s.transition index input (stateForOpenQuantity order) with
          | none => (s, forbiddenResult index previous)
          | some moved => (moved, movedResult index previous (appliedStatus outOfOrder))

/-- The tail of `apply_replace_response`. -/
def closeReplace (s : DeterministicOms) (input : OmsInput) (index : OrderIndex)
    (previous next : OrderState) (outOfOrder : Bool) : DeterministicOms × InternalResult :=
  match s.transition index input next with
  | none => (s, forbiddenResult index previous)
  | some moved =>
      (moved.modifyOrder index (·.withoutReplace),
        movedResult index previous (appliedStatus outOfOrder))

def applyReplaceResponse (s : DeterministicOms) (input : OmsInput) :
    DeterministicOms × InternalResult :=
  if !s.authorityMatches input.authority then (s, fencedResult)
  else
    match s.resolveOrder input with
    | none => s.unknownOrder input
    | some index =>
        let order := (s.orders index).value
        let previous := order.state
        let outOfOrder : Bool := input.venueSequence ≤ order.lastVenueSequence
        if input.kind = .replaceAcknowledgement then
          if order.pendingReplacePriceTicks ≤ 0 ∨
              order.pendingReplaceQuantityUnits ≤ order.cumulativeFillQuantityUnits then
            (s.setUnsafe .quantityMismatch,
              { status := .invalid, reason := .invalidQuantity, orderIndex := some index,
                previousState := previous, snapshotChanged := true })
          else
            let next :=
              if order.pendingReplaceQuantityUnits = order.cumulativeFillQuantityUnits then
                .filled
              else stateForOpenQuantity order
            if !transitionAllowed previous input.kind next then
              (s, forbiddenResult index previous)
            else
              let replaced := s.modifyOrder index (·.replaced)
              replaced.closeReplace input index previous
                (stateForOpenQuantity (replaced.orders index).value) outOfOrder
        else s.closeReplace input index previous (stateForOpenQuantity order) outOfOrder

def expireSourceAllowed (source : EventSource) (previous : OrderState) : Bool :=
  (source == .internal && (previous == .created || previous == .ready)) ||
    (source == .gateway && previous != .created && previous != .ready)

def applyExpire (s : DeterministicOms) (input : OmsInput) : DeterministicOms × InternalResult :=
  if !s.authorityMatches input.authority then (s, fencedResult)
  else
    match s.findOrder input.orderId with
    | none => (s, notFoundResult)
    | some index =>
        let previous := (s.orders index).value.state
        if !expireSourceAllowed input.source previous then (s, forbiddenResult index previous)
        else
          match s.transition index input .expired with
          | none => (s, forbiddenResult index previous)
          | some moved =>
              (moved.modifyOrder index (·.closed), movedResult index previous)

def applyRecoveryBegin (s : DeterministicOms) (input : OmsInput) :
    DeterministicOms × InternalResult :=
  if !s.authorityMatches input.authority then (s, fencedResult)
  else
    match s.findOrder input.orderId with
    | none => (s, notFoundResult)
    | some index =>
        let previous := (s.orders index).value.state
        match s.transition index input .unknownRecovery with
        | none => (s, forbiddenResult index previous)
        | some moved =>
            ({ moved.modifyOrder index (·.withdrawnFrom previous) with health := .recovering },
              { status := .applied, reason := .recoveryRequired, orderIndex := some index,
                previousState := previous, stateChanged := previous ≠ .unknownRecovery,
                snapshotChanged := true })

/-- The health that `update_health_from_state` computes. -/
def healthFromState (s : DeterministicOms) : OmsHealth :=
  if s.invariant ≠ .none then .unsafeHealth
  else
    let unknown := orderSlots.any fun index =>
      (s.orders index).value.occupied && (s.orders index).value.state == .unknownRecovery
    let unreconciled := s.configuration.requireDropCopy &&
      executionSlots.any fun index =>
        (s.executions index).occupied && (s.executions index).sourceMask != 3
    if unknown || unreconciled then .recovering else .healthy

def updateHealthFromState (s : DeterministicOms) : DeterministicOms :=
  { s with health := s.healthFromState }

/-- The `switch` of `apply_recovery_observation`. -/
def observed (order : OmsOrderSnapshot) (input : OmsInput) :
    Option (OmsOrderSnapshot × OrderState) :=
  match input.recoveryObservation with
  | .working => some (order, stateForOpenQuantity order)
  | .partiallyFilled =>
      if input.quantityUnits = 0 ∨ input.quantityUnits ≥ order.quantityUnits then none
      else
        some (order.credited input.quantityUnits (order.quantityUnits - input.quantityUnits),
          .partiallyFilled)
  | .filled => some (order.credited order.quantityUnits 0, .filled)
  | .canceled => some (order.closed, .canceled)
  | .rejected => some (order.closed, .rejected)
  | .expired => some (order.closed, .expired)
  | _ => some (order, .unknownRecovery)

def applyRecoveryObservation (s : DeterministicOms) (input : OmsInput) :
    DeterministicOms × InternalResult :=
  if !s.authorityMatches input.authority then (s, fencedResult)
  else
    match s.resolveOrder input with
    | none => s.unknownOrder input
    | some index =>
        let previous := (s.orders index).value.state
        if previous ≠ .unknownRecovery ∨ !(s.orders index).value.intentId.valid then
          (s, { inhibitedResult with orderIndex := some index, previousState := previous })
        else
          match s.bindReported index input.externalOrderId with
          | none => (s.setUnsafe .externalMappingConflict, externalConflictResult index previous)
          | some bound =>
              if input.recoveryObservation = .absentAmbiguous then
                (bound.touchOrder index input,
                  { status := .inhibited, reason := .ambiguousAbsence, orderIndex := some index,
                    previousState := previous, snapshotChanged := true })
              else
                match observed (bound.orders index).value input with
                | none =>
                    (bound, { status := .invalid, reason := .invalidQuantity,
                              orderIndex := some index, previousState := previous })
                | some (order, next) =>
                    let rewritten := bound.modifyOrder index fun _ => order
                    match rewritten.transition index input next with
                    | none => (rewritten, forbiddenResult index previous)
                    | some moved =>
                        (moved.updateHealthFromState, movedResult index previous .reconciled)

/-- One slot of the authority rotation. -/
def rotatedSlot (slot : OrderSlot) (input : OmsInput) : OrderSlot :=
  if !slot.value.occupied || !liveState slot.value.state then slot
  else
    { slot with
      value :=
        { slot.value with
          stateBeforeRecovery := slot.value.state
          state := .unknownRecovery
          authority := input.authority
          stateVersion := slot.value.stateVersion + 1
          lastUpdateProcessMonotonicTimeNs := input.processMonotonicTimeNs } }

def applyAuthorityUpdate (s : DeterministicOms) (input : OmsInput) :
    DeterministicOms × InternalResult :=
  if input.authority.exchangeSessionEpoch ≠ s.configuration.exchangeSessionEpoch then
    (s.setUnsafe .splitBrain,
      { status := .fenced, reason := .exchangeEpochMismatch, snapshotChanged := true })
  else if input.authority.fencingToken < s.activeFencingToken then
    (s.setUnsafe .splitBrain,
      { status := .fenced, reason := .staleFencingToken, snapshotChanged := true })
  else if input.authority.fencingToken = s.activeFencingToken then
    (s, { status := .duplicate, reason := .duplicateReceipt })
  else
    let changed := orderSlots.any fun index =>
      (s.orders index).value.occupied && liveState (s.orders index).value.state
    ({ s with
        activeFencingToken := input.authority.fencingToken
        orders := fun index => rotatedSlot (s.orders index) input
        health := if changed then .recovering else .healthy },
      { status := .applied, reason := if changed then .recoveryRequired else .accepted,
        stateChanged := changed, snapshotChanged := true })

def applyLocked (s : DeterministicOms) (input : OmsInput) : DeterministicOms × InternalResult :=
  match input.kind with
  | .acceptIntent => s.applyAccept input
  | .markReady => s.applyMarkReady input
  | .dispatch => s.applyDispatch input
  | .cancelIntent => s.applyCancel input
  | .replaceIntent => s.applyReplace input
  | .acknowledgement => s.applyAcknowledgement input
  | .rejection => s.applyRejection input
  | .fill => s.applyFill input
  | .cancelAcknowledgement | .cancelRejection => s.applyCancelResponse input
  | .replaceAcknowledgement | .replaceRejection => s.applyReplaceResponse input
  | .expire => s.applyExpire input
  | .recoveryBegin => s.applyRecoveryBegin input
  | .recoveryObservation => s.applyRecoveryObservation input
  | .authorityUpdate => s.applyAuthorityUpdate input
  | .unlisted _ => (s, { status := .invalid, reason := .configurationInvalid })
end DeterministicOms

end Aegis.Oms
