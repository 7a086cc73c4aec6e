import Aegis.Oms.Handlers

/-!
The public calls of `DeterministicOms` (`oms/src/service.cpp`), one after the other. The outcome
of publishing a snapshot is an argument of `apply`.
-/

namespace Aegis.Oms

open Aegis.Common Aegis.Risk Aegis.Foundation

namespace DeterministicOms

/-- The fields `recompute_snapshot` collects. -/
def draftSnapshot (s : DeterministicOms) (eventTimeNs : UInt64) (journalSequence : Nat)
    (journalHash : UInt64) : OmsSnapshot :=
  let occupied := orderSlots.filter fun index => (s.orders index).value.occupied
  let unknown := occupied.countP fun index => (s.orders index).value.state == .unknownRecovery
  let unreconciled :=
    if s.configuration.requireDropCopy then
      executionSlots.countP fun index =>
        (s.executions index).occupied && (s.executions index).sourceMask != 3
    else 0
  { sessionId := s.configuration.sessionId
    accountId := s.configuration.accountId
    configurationVersion := s.configuration.configurationVersion
    configurationHash := s.configuration.stableHash
    exchangeSessionEpoch := s.configuration.exchangeSessionEpoch
    activeFencingToken := s.activeFencingToken
    snapshotSequence := s.snapshotSequence + 1
    sourceJournalSequence := journalSequence
    sourceJournalHash := journalHash
    asOfProcessMonotonicTimeNs := eventTimeNs
    health := s.health
    invariant := s.invariant
    orders := fun index =>
      if (s.orders index).value.occupied then (s.orders index).value else {}
    orderCount := occupied.length
    liveOrderCount := occupied.countP fun index => liveState (s.orders index).value.state
    unknownRecoveryCount := unknown
    unreconciledFillCount := unreconciled
    ready := s.health == .healthy && s.invariant == .none && unknown == 0 &&
      unreconciled == 0 && !s.stopped }

/-- The snapshot that `recompute_snapshot` validates. -/
def buildSnapshot (s : DeterministicOms) (eventTimeNs : UInt64) (journalSequence : Nat)
    (journalHash : UInt64) : OmsSnapshot :=
  let output := s.draftSnapshot eventTimeNs journalSequence journalHash
  { output with stableHash := stableSnapshotHash output }

/-- `recompute_snapshot`; `none` when it is not valid. -/
def recomputeSnapshot (s : DeterministicOms) (eventTimeNs : UInt64) (journalSequence : Nat)
    (journalHash : UInt64) : Option DeterministicOms :=
  let output := s.buildSnapshot eventTimeNs journalSequence journalHash
  if !validSnapshot output then none
  else some { s with snapshot := output, snapshotSequence := output.snapshotSequence }

/-- `publish_snapshot`, given whether a slot is free. -/
def publishSnapshot (s : DeterministicOms) (published : Bool) : DeterministicOms :=
  if published then s
  else { s with health := .recovering, invariant := .snapshotPublicationFailed }

/-- The constructor, on an empty journal. -/
def construct (configuration : OmsConfiguration) : DeterministicOms :=
  let s : DeterministicOms :=
    { configuration, activeFencingToken := configuration.initialFencingToken }
  if !validConfiguration configuration then
    { s with health := .unsafeHealth, invariant := .configurationInvalid }
  else
    let s := { s with health := .healthy, initialized := true }
    (s.recomputeSnapshot 1 0 0).getD (s.setUnsafe .snapshotPublicationFailed)

def ready (s : DeterministicOms) : Bool :=
  s.initialized && !s.stopped && s.health == .healthy && s.snapshot.ready

/-- The body of `apply` up to the handlers. -/
def receive (s : DeterministicOms) (input : OmsInput) : DeterministicOms × InternalResult :=
  if !validInput input then (s, { status := .invalid, reason := invalidReason input })
  else
    match s.findReceipt input.receiptId with
    | some receipt =>
        if (s.receipts receipt).inputHash = input.stableHash then
          (s, { status := .duplicate, reason := .duplicateReceipt,
                orderIndex := s.resolveOrder input })
        else
          (s.setUnsafe .receiptConflict,
            { status := .invalid, reason := .receiptConflict, orderIndex := s.resolveOrder input,
              snapshotChanged := true })
    | none =>
        if s.findFreeReceipt input.receiptId = none then
          (s.setUnsafe .receiptConflict,
            { status := .capacityExhausted, reason := .idempotencyCapacity,
              snapshotChanged := true })
        else
          let handled := s.applyLocked input
          match handled.1.recordReceipt input with
          | some recorded => (recorded, handled.2)
          | none =>
              (handled.1.setUnsafe .receiptConflict,
                { status := .capacityExhausted, reason := .idempotencyCapacity,
                  snapshotChanged := true })

/-- The snapshot update of `apply`. -/
def refresh (s : DeterministicOms) (input : OmsInput) (sequence : Nat)
    (internal : InternalResult) : DeterministicOms × InternalResult :=
  if !internal.snapshotChanged then (s, internal)
  else
    match s.recomputeSnapshot input.processMonotonicTimeNs sequence s.journal.lastRecordHash with
    | some refreshed => (refreshed, internal)
    | none =>
        (s.setUnsafe .quantityMismatch,
          { internal with status := .invalid, reason := .arithmeticOverflow })

def buildResult (s : DeterministicOms) (sequence : Nat) (internal : InternalResult) :
    ApplyResult :=
  let result : ApplyResult :=
    { status := internal.status
      reason := internal.reason
      journalSequence := sequence
      snapshotSequence := s.snapshot.snapshotSequence
      snapshotHash := s.snapshot.stableHash
      gatewayCommand := internal.gatewayCommand }
  let result :=
    match internal.orderIndex with
    | none => result
    | some index =>
        let order := (s.orders index).value
        { result with
          orderId := order.orderId
          previousState := internal.previousState
          currentState := order.state
          stateVersion := order.stateVersion }
  { result with stableHash := stableApplyResultHash result }

def earlyResult (status : ApplyStatus) (reason : OmsReason) : ApplyResult :=
  let result : ApplyResult := { status, reason }
  { result with stableHash := stableApplyResultHash result }

/-- The part of `apply` after the handlers. -/
def conclude (s : DeterministicOms) (input : OmsInput) (sequence : Nat)
    (internal : InternalResult) (published : Bool) : DeterministicOms × ApplyResult :=
  let refreshed := s.updateHealthFromState.refresh input sequence internal
  let result := refreshed.1.buildResult sequence refreshed.2
  let journal := refreshed.1.journal.commit sequence input result
  let committed := { refreshed.1 with journal }
  (if refreshed.2.snapshotChanged then committed.publishSnapshot published else committed,
    { result with journalRecordHash := journal.lastRecordHash })

/-- `apply`, given the outcome of the publication it may attempt. -/
def apply (s : DeterministicOms) (input : OmsInput) (published : Bool) :
    DeterministicOms × ApplyResult :=
  if s.stopped then (s, earlyResult .stopped .shutdown)
  else if !s.initialized then (s, earlyResult .invalid .configurationInvalid)
  else
    match s.journal.tryReserve with
    | none => (s.setUnsafe .journalExhausted, earlyResult .journalUnavailable .journalCapacity)
    | some (sequence, journal) =>
        -- The slot is reserved before the handlers run; none of them reads the journal.
        let received := s.receive input
        ({ received.1 with journal } : DeterministicOms).conclude input sequence received.2
          published

def verifyInvariantsLocked (s : DeterministicOms) : Bool :=
  (orderSlots.all fun index =>
    let order := (s.orders index).value
    !order.occupied || (validOrderSnapshot order && orderSlots.all fun other =>
          let candidate := (s.orders other).value
          !(index < other && candidate.occupied && (order.orderId == candidate.orderId ||
              (order.intentId.valid && order.intentId == candidate.intentId) ||
              (order.externalOrderId.valid && order.externalOrderId == candidate.externalOrderId) ||
              order.clientOrderId == candidate.clientOrderId)))) &&
    (executionSlots.all fun index =>
      let execution := s.executions index
      !execution.occupied ||
        (execution.executionId.valid && (s.findOrder execution.orderId).isSome &&
          execution.priceTicks > 0 && execution.quantityUnits != 0 &&
          execution.sourceMask != 0 && execution.sourceMask ≤ 3)) &&
    validSnapshot s.snapshot && s.snapshot.health == s.health &&
    s.snapshot.invariant == s.invariant

/-- `verify_invariants`: a violation makes the service unsafe. -/
def verifyInvariants (s : DeterministicOms) : DeterministicOms × Bool :=
  if s.verifyInvariantsLocked then (s, true) else (s.setUnsafe .quantityMismatch, false)
def recoveryReceipt (orderId : OrderId) (journalSequence : Nat) : GlobalEventId :=
  let high := orderId.high ^^^ 0x5245434F56455259
  let low := orderId.low ^^^ UInt64.ofNat journalSequence ^^^ 0x4F4D535245535441
  ⟨if high = 0 then 1 else high, if low = 0 then 1 else low⟩

end DeterministicOms

def sameReplayResult (actual expected : ApplyResult) : Bool :=
  actual.status == expected.status && actual.reason == expected.reason &&
    actual.orderId == expected.orderId && actual.previousState == expected.previousState &&
    actual.currentState == expected.currentState &&
    actual.stateVersion == expected.stateVersion &&
    actual.journalSequence == expected.journalSequence &&
    actual.journalRecordHash == expected.journalRecordHash &&
    actual.snapshotSequence == expected.snapshotSequence &&
    actual.snapshotHash == expected.snapshotHash &&
    actual.gatewayCommand.stableHash == expected.gatewayCommand.stableHash &&
    actual.stableHash == expected.stableHash

/-- The recovery status of a call that did not go through. -/
def divergence (status : ApplyStatus) : RecoveryStatus :=
  if status = .journalUnavailable then .targetJournalFull else .replayDiverged

namespace DeterministicOms

/-- The replay loop of `recover_from`. -/
def replayFrom (source : OmsJournal) (published : Nat → Bool) :
    Nat → Nat → DeterministicOms → DeterministicOms × Option RecoveryStatus
  | 0, _, s => (s, none)
  | remaining + 1, sequence, s =>
      match source.read sequence with
      | none => (s.setUnsafe .replayDiverged, some .sourceCorrupt)
      | some record =>
          let actual := s.apply record.input (published sequence)
          if !sameReplayResult actual.2 record.result then
            (actual.1.setUnsafe .replayDiverged, some (divergence actual.2.status))
          else replayFrom source published remaining (sequence + 1) actual.1

/-- It takes one live order out of service after a replay. -/
def recoveryBeginInput (s : DeterministicOms) (orderId : OrderId) (receiptSequence : Nat)
    (timeNs : UInt64) : OmsInput :=
  let input : OmsInput :=
    { receiptId := recoveryReceipt orderId receiptSequence
      kind := .recoveryBegin
      source := .internal
      orderId
      authority := ⟨s.configuration.exchangeSessionEpoch, s.activeFencingToken⟩
      processMonotonicTimeNs := timeNs }
  { input with stableHash := stableInputHash input }

/-- The second loop of `recover_from`. -/
def inhibitFrom (sourceSize : Nat) (recoveryTimeNs : UInt64) (published : Nat → Bool) :
    List OrderIndex → Nat → DeterministicOms → DeterministicOms × Option RecoveryStatus
  | [], _, s => (s, none)
  | index :: rest, ordinal, s =>
      let order := (s.orders index).value
      if !order.occupied || !liveState order.state then
        inhibitFrom sourceSize recoveryTimeNs published rest ordinal s
      else
        let ordinal := ordinal + 1
        let input := s.recoveryBeginInput order.orderId (sourceSize + ordinal)
          (recoveryTimeNs + UInt64.ofNat ordinal)
        let result := s.apply input (published (sourceSize + ordinal))
        if result.2.status ≠ .applied then
          (result.1.setUnsafe .replayDiverged, some (divergence result.2.status))
        else inhibitFrom sourceSize recoveryTimeNs published rest ordinal result.1

/-- `recover_from`, for another journal than its own. -/
def recoverFrom (s : DeterministicOms) (source : OmsJournal) (recoveryTimeNs : UInt64)
    (published : Nat → Bool) : DeterministicOms × RecoveryStatus :=
  if s.journal.size ≠ 0 ∨ s.snapshot.orderCount ≠ 0 then (s, .targetNotEmpty)
  else
    match replayFrom source published source.size 1 s with
    | (failed, some status) => (failed, status)
    | (replayed, none) =>
        match inhibitFrom source.size recoveryTimeNs published orderSlots 0 replayed with
        | (failed, some status) => (failed, status)
        | (inhibited, none) =>
            let recovered := inhibited.updateHealthFromState
            (recovered, if recovered.ready then .recoveredReady else .recoveredInhibited)

def shutdown (s : DeterministicOms) (timeNs : UInt64) (published : Bool) : DeterministicOms :=
  let stopped := { s with stopped := true, health := .stopped }
  ((stopped.recomputeSnapshot timeNs s.journal.size s.journal.lastRecordHash).getD
    stopped).publishSnapshot published

end DeterministicOms

end Aegis.Oms
