import Aegis.Oms.Effects
import Aegis.Oms.SnapshotLaws

/-!
The shape of one call of `apply`: handlers write the tables, the way out the rest.
-/

namespace Aegis.Oms

open Aegis.Common Aegis.Foundation

section Frames

variable {s s' : DeterministicOms} {input : OmsInput} {r : InternalResult}

theorem Effect.receipts (effect : Effect s input s' r) : s'.receipts = s.receipts := by
  cases effect with
  | refused leaves | accepted _ _ _ _ _ leaves | moved _ _ _ _ leaves
  | executed _ _ _ _ _ _ _ _ _ leaves | confirmed _ _ _ _ _ _ _ leaves | rotated _ _ leaves =>
    exact leaves.receipts
  | discovered _ discovery => exact discovery.leaves.receipts

theorem Handled.receipts (handled : Handled s input s' r) : s'.receipts = s.receipts := by
  cases handled with
  | directly effect => exact effect.receipts
  | afterDiscovery s₁ index kind discovery resolved effect =>
    rw [effect.receipts]
    exact discovery.leaves.receipts

/-- What handlers leave alone. No alarm is taken back. -/
structure Frame (s s' : DeterministicOms) : Prop where
  configuration : s'.configuration = s.configuration
  initialized : s'.initialized = s.initialized
  stopped : s'.stopped = s.stopped
  snapshot : s'.snapshot = s.snapshot
  token : s.activeFencingToken ≤ s'.activeFencingToken
  alarm : s'.invariant = .none → s.invariant = .none

theorem Frame.trans {s₁ : DeterministicOms} (first : Frame s s₁) (second : Frame s₁ s') :
    Frame s s' where
  configuration := second.configuration.trans first.configuration
  initialized := second.initialized.trans first.initialized
  stopped := second.stopped.trans first.stopped
  snapshot := second.snapshot.trans first.snapshot
  token := UInt64.le_trans first.token second.token
  alarm := fun clear => first.alarm (second.alarm clear)

variable {l : Ledger} {status : ApplyStatus}

theorem Leaves.frame (leaves : Leaves s s' status l)
    (configuration : l.configuration = s.configuration)
    (switches : l.initialized = s.initialized ∧ l.stopped = s.stopped)
    (token : s.activeFencingToken ≤ l.activeFencingToken) : Frame s s' where
  configuration := leaves.configuration.trans configuration
  initialized := (congrArg Ledger.initialized leaves.ledger).trans switches.1
  stopped := (congrArg Ledger.stopped leaves.ledger).trans switches.2
  snapshot := leaves.snapshot
  token := by
    rwa [show s'.activeFencingToken = _ from leaves.activeFencingToken]
  alarm := by
    intro clear
    rcases leaves.alarm with same | alarm
    · exact same.symm.trans clear
    · exact absurd clear alarm.1

theorem Effect.frame (effect : Effect s input s' r) : Frame s s' := by
  have same : s.activeFencingToken ≤ s.activeFencingToken := UInt64.le_refl _
  cases effect with
  | refused leaves | accepted _ _ _ _ _ leaves | moved _ _ _ _ leaves
  | executed _ _ _ _ _ _ _ _ _ leaves | confirmed _ _ _ _ _ _ _ leaves =>
    exact leaves.frame rfl ⟨rfl, rfl⟩ same
  | discovered _ discovery => exact discovery.leaves.frame rfl ⟨rfl, rfl⟩ same
  | rotated _ newer leaves => exact leaves.frame rfl ⟨rfl, rfl⟩ (UInt64.le_of_lt newer)

theorem Handled.frame (handled : Handled s input s' r) : Frame s s' := by
  cases handled with
  | directly effect => exact effect.frame
  | afterDiscovery s₁ index kind discovery resolved effect =>
    exact (discovery.leaves.frame rfl ⟨rfl, rfl⟩ (UInt64.le_refl _)).trans effect.frame

theorem Leaves.calm (leaves : Leaves s s' status l)
    (accepted : status.accepted) : s'.invariant = s.invariant := by
  refine leaves.alarm.resolve_right fun raised => ?_
  rw [accepted] at raised
  cases raised.2

theorem Effect.calm (effect : Effect s input s' r) (accepted : r.status.accepted) :
    s'.invariant = s.invariant := by
  cases effect with
  | refused leaves | accepted _ _ _ _ _ leaves | moved _ _ _ _ leaves
  | executed _ _ _ _ _ _ _ _ _ leaves | confirmed _ _ _ _ _ _ _ leaves | rotated _ _ leaves =>
    exact leaves.calm accepted
  | discovered _ discovery => exact discovery.leaves.calm rfl

theorem Handled.calm (handled : Handled s input s' r) (accepted : r.status.accepted) :
    s'.invariant = s.invariant := by
  cases handled with
  | directly effect => exact effect.calm accepted
  | afterDiscovery s₁ index kind discovery resolved effect =>
    exact (effect.calm accepted).trans (discovery.leaves.calm rfl)

end Frames

namespace DeterministicOms

def receiptFor (input : OmsInput) : ReceiptSlot :=
  { receiptId := input.receiptId, inputHash := input.stableHash, occupied := true }

end DeterministicOms

/-- What `apply` does before updating the health. -/
inductive Received (s : DeterministicOms) (input : OmsInput) (s' : DeterministicOms)
    (r : InternalResult) : Prop where
  | refused
      (leaves : Leaves s s' r.status s.ledger)
      (declined : r.status.accepted = false)
      (quiet : r.gatewayCommand.kind = .none)
  | handled (h : DeterministicOms) (receipt : ReceiptIndex)
      (valid : validInput input = true)
      (fresh : s.findReceipt input.receiptId = none)
      (free : s.findFreeReceipt input.receiptId = some receipt)
      (handled : Handled s input h r)
      (recorded : s' =
        { h with
          receipts := Function.update s.receipts receipt (DeterministicOms.receiptFor input) })

theorem Received.frame {s s' : DeterministicOms} {input : OmsInput} {r : InternalResult}
    (received : Received s input s' r) : Frame s s' := by
  cases received with
  | refused leaves => exact leaves.frame rfl ⟨rfl, rfl⟩ (UInt64.le_refl _)
  | handled h receipt valid fresh free handled recorded =>
    obtain ⟨configuration, initialized, stopped, snapshot, token, alarm⟩ := handled.frame
    subst recorded
    exact ⟨configuration, initialized, stopped, snapshot, token, alarm⟩

namespace DeterministicOms

variable {s : DeterministicOms} {input : OmsInput} {published : Bool}

def remembering (s : DeterministicOms) (input : OmsInput) (receipt : ReceiptIndex) :
    DeterministicOms :=
  { (s.applyLocked input).1 with
    receipts := Function.update s.receipts receipt (receiptFor input) }

theorem receive_handled {receipt : ReceiptIndex} (valid : validInput input)
    (fresh : s.findReceipt input.receiptId = none)
    (free : s.findFreeReceipt input.receiptId = some receipt) :
    s.receive input = (s.remembering input receipt, (s.applyLocked input).2) := by
  have same := (applyLocked_handled (s := s) valid).receipts
  unfold receive
  simp only [valid, fresh, free, Bool.not_true, Bool.false_eq_true, if_false, reduceCtorEq]
  have free' : (s.applyLocked input).1.findFreeReceipt input.receiptId = some receipt := by
    unfold findFreeReceipt at free ⊢
    rw [same, free]
  simp only [recordReceipt, free', Option.map_some, same, receiptFor, remembering]

theorem receive_received : Received s input (s.receive input).1 (s.receive input).2 := by
  by_cases valid : validInput input = true
  · cases found : s.findReceipt input.receiptId with
    | some receipt =>
      unfold receive
      simp only [valid, found, Bool.not_true, Bool.false_eq_true, if_false]
      split
      · exact .refused ⟨rfl, .inl rfl, rfl, rfl⟩ rfl rfl
      · exact .refused ⟨rfl, .inr ⟨by simp [setUnsafe], rfl⟩, rfl, rfl⟩ rfl rfl
    | none =>
      cases free : s.findFreeReceipt input.receiptId with
      | none =>
        unfold receive
        simp only [valid, found, free, Bool.not_true, Bool.false_eq_true, if_false, if_true]
        exact .refused ⟨rfl, .inr ⟨by simp [setUnsafe], rfl⟩, rfl, rfl⟩ rfl rfl
      | some receipt =>
        rw [receive_handled valid found free]
        exact .handled _ receipt valid found free (applyLocked_handled valid) rfl
  · unfold receive
    simp only [valid, Bool.not_false, if_true]
    exact .refused ⟨rfl, .inl rfl, rfl, rfl⟩ rfl rfl

section Conclude

variable {sequence : Nat} {internal : InternalResult}

def nextSnapshot (s : DeterministicOms) (input : OmsInput) (sequence : Nat) : OmsSnapshot :=
  s.updateHealthFromState.buildSnapshot input.processMonotonicTimeNs sequence
    s.journal.lastRecordHash

def committedResult (s : DeterministicOms) (input : OmsInput) (sequence : Nat)
    (internal : InternalResult) : ApplyResult :=
  let refreshed := s.updateHealthFromState.refresh input sequence internal
  refreshed.1.buildResult sequence refreshed.2

theorem refresh_quiet (quiet : internal.snapshotChanged = false) :
    s.refresh input sequence internal = (s, internal) := by
  simp [refresh, quiet]

theorem refresh_valid (changed : internal.snapshotChanged)
    (valid : validSnapshot (s.nextSnapshot input sequence)) :
    s.updateHealthFromState.refresh input sequence internal = ({ s.updateHealthFromState with
          snapshot := s.nextSnapshot input sequence
          snapshotSequence := (s.nextSnapshot input sequence).snapshotSequence }, internal) := by
  unfold refresh recomputeSnapshot
  simp only [changed, Bool.not_true, Bool.false_eq_true, if_false]
  unfold nextSnapshot at valid ⊢
  rw [show s.updateHealthFromState.journal = s.journal from rfl, valid]
  rfl

theorem refresh_invalid (changed : internal.snapshotChanged)
    (invalid : validSnapshot (s.nextSnapshot input sequence) = false) :
    s.updateHealthFromState.refresh input sequence internal =
      (s.updateHealthFromState.setUnsafe .quantityMismatch,
        { internal with status := .invalid, reason := .arithmeticOverflow }) := by
  unfold refresh recomputeSnapshot
  simp only [changed, Bool.not_true, Bool.false_eq_true, if_false]
  unfold nextSnapshot at invalid
  rw [show s.updateHealthFromState.journal = s.journal from rfl, invalid]
  rfl

theorem ordersValid_of_nextSnapshot (valid : validSnapshot (s.nextSnapshot input sequence)) :
    s.OrdersValid :=
  ordersValid_of_validSnapshot (s := s.updateHealthFromState) valid

theorem validSnapshot_nextSnapshot (facts : ConfigurationFacts s.configuration)
    (token : s.activeFencingToken ≠ 0) (time : input.processMonotonicTimeNs ≠ 0)
    (valid : s.OrdersValid) : validSnapshot (s.nextSnapshot input sequence) :=
  (validSnapshot_buildSnapshot s.updateHealthFromState _ _ _ facts token time).mpr valid

@[simp] theorem buildResult_status : (s.buildResult sequence internal).status = internal.status := by
  unfold buildResult
  cases internal.orderIndex <;> rfl

@[simp] theorem buildResult_gatewayCommand :
    (s.buildResult sequence internal).gatewayCommand = internal.gatewayCommand := by
  unfold buildResult
  cases internal.orderIndex <;> rfl

/-- The three ways the snapshot update of a call can go. -/
inductive Concluded (s : DeterministicOms) (input : OmsInput) (sequence : Nat)
    (internal : InternalResult) (published : Bool) (s' : DeterministicOms) (r : ApplyResult) :
    Prop where
  | quiet
      (unchanged : internal.snapshotChanged = false)
      (snapshot : s'.snapshot = s.snapshot)
      (health : s'.health = s.healthFromState)
      (invariant : s'.invariant = s.invariant)
      (status : r.status = internal.status)
  | refreshed
      (changed : internal.snapshotChanged = true)
      (valid : validSnapshot (s.nextSnapshot input sequence) = true)
      (snapshot : s'.snapshot = s.nextSnapshot input sequence)
      (health : s'.health = if published then s.healthFromState else .recovering)
      (invariant : s'.invariant = if published then s.invariant else .snapshotPublicationFailed)
      (status : r.status = internal.status)
  | failed
      (changed : internal.snapshotChanged = true)
      (invalid : validSnapshot (s.nextSnapshot input sequence) = false)
      (snapshot : s'.snapshot = s.snapshot)
      (health : s'.health ≠ .healthy)
      (invariant : s'.invariant ≠ .none)
      (status : r.status = .invalid)

structure Closing (s : DeterministicOms) (input : OmsInput) (sequence : Nat)
    (internal : InternalResult) (s' : DeterministicOms) (r : ApplyResult) : Prop where
  ledger : s'.ledger = s.ledger
  journal : s'.journal = s.journal.commit sequence input (s.committedResult input sequence internal)
  result : r =
    { s.committedResult input sequence internal with
      journalRecordHash := s'.journal.lastRecordHash }
  command : r.gatewayCommand = internal.gatewayCommand

theorem conclude_spec : Concluded s input sequence internal published
        (s.conclude input sequence internal published).1
        (s.conclude input sequence internal published).2 ∧
      Closing s input sequence internal (s.conclude input sequence internal published).1
        (s.conclude input sequence internal published).2 := by
  have ledger := updateHealthFromState_ledger (s := s)
  cases changed : internal.snapshotChanged with
  | false =>
    have refreshed : s.updateHealthFromState.refresh input sequence internal = _ :=
      refresh_quiet changed
    unfold conclude
    simp only [refreshed, changed, Bool.false_eq_true, if_false]
    refine ⟨.quiet changed rfl rfl rfl buildResult_status, ledger, ?_, ?_,
      buildResult_gatewayCommand⟩
    · simp only [committedResult, refreshed]
      rfl
    · simp only [committedResult, refreshed]
  | true =>
    cases valid : validSnapshot (s.nextSnapshot input sequence) with
    | true =>
      have refreshed := refresh_valid changed valid
      unfold conclude
      simp only [refreshed, changed, if_true]
      cases published with
      | true | false =>
        refine ⟨.refreshed changed valid rfl rfl rfl buildResult_status, ledger, ?_, ?_,
          buildResult_gatewayCommand⟩
        · simp only [committedResult, refreshed]
          rfl
        · simp only [committedResult, refreshed]
          rfl
    | false =>
      have refreshed := refresh_invalid changed valid
      unfold conclude
      simp only [refreshed, changed, if_true]
      cases published with
      | true | false =>
        refine ⟨.failed changed valid rfl (by simp [publishSnapshot, setUnsafe])
          (by simp [publishSnapshot, setUnsafe]) buildResult_status, ledger, ?_, ?_,
          buildResult_gatewayCommand⟩
        · simp only [committedResult, refreshed]
          rfl
        · simp only [committedResult, refreshed]
          rfl

end Conclude

def Running (s : DeterministicOms) : Prop :=
  s.stopped = false ∧ s.initialized = true

def JournalRoom (s : DeterministicOms) : Prop :=
  s.journal.reservedSequence < kOmsJournalCapacity

/-- What the handlers left, with the journal slot reserved. -/
def reserving (s handled : DeterministicOms) : DeterministicOms :=
  { handled with
    journal := { s.journal with reservedSequence := s.journal.reservedSequence + 1 } }

theorem apply_eq (running : s.Running) (room : s.JournalRoom) : s.apply input published =
      (s.reserving (s.receive input).1).conclude input (s.journal.reservedSequence + 1)
        (s.receive input).2 published := by
  obtain ⟨on, initialized⟩ := running
  unfold apply OmsJournal.tryReserve
  simp only [on, initialized, Nat.not_le.mpr room, Bool.not_true, Bool.false_eq_true, if_false]
  rfl

/-- One call of `apply`. -/
inductive Applied (s : DeterministicOms) (input : OmsInput) (published : Bool)
    (s' : DeterministicOms) (r : ApplyResult) : Prop where
  | idle
      (off : ¬ s.Running)
      (same : s' = s)
      (declined : r.status.accepted = false)
      (quiet : r.gatewayCommand.kind = .none)
  | exhausted
      (running : s.Running)
      (full : ¬ s.JournalRoom)
      (same : s' = s.setUnsafe .journalExhausted)
      (declined : r.status.accepted = false)
      (quiet : r.gatewayCommand.kind = .none)
  | committed (m : DeterministicOms) (internal : InternalResult)
      (running : s.Running)
      (room : s.JournalRoom)
      (received : Received s input m internal)
      (concluded : Concluded (s.reserving m) input (s.journal.reservedSequence + 1) internal
        published s' r)
      (closing : Closing (s.reserving m) input (s.journal.reservedSequence + 1) internal s' r)
      (receiving : s.receive input = (m, internal))

theorem apply_applied (s : DeterministicOms) (input : OmsInput) (published : Bool) :
    Applied s input published (s.apply input published).1 (s.apply input published).2 := by
  by_cases running : s.Running
  · by_cases room : s.JournalRoom
    · rw [apply_eq running room]
      exact .committed (s.receive input).1 (s.receive input).2 running room receive_received
        conclude_spec.1 conclude_spec.2 rfl
    obtain ⟨on, initialized⟩ := running
    have full : kOmsJournalCapacity ≤ s.journal.reservedSequence := Nat.not_lt.mp room
    have ended : s.apply input published =
        (s.setUnsafe .journalExhausted, earlyResult .journalUnavailable .journalCapacity) := by
      unfold apply OmsJournal.tryReserve
      simp [on, initialized, full]
    rw [ended]
    exact .exhausted ⟨on, initialized⟩ room rfl rfl rfl
  · cases on : s.stopped with
    | true =>
      have ended : s.apply input published = (s, earlyResult .stopped .shutdown) := by
        simp [apply, on]
      rw [ended]
      exact .idle running rfl rfl rfl
    | false =>
      have uninitialized : s.initialized = false := by
        simpa [Running, on] using running
      have ended : s.apply input published = (s, earlyResult .invalid .configurationInvalid) := by
        simp [apply, on, uninitialized]
      rw [ended]
      exact .idle running rfl rfl rfl

/-- The tables after a call: as before, or as the handler left them. -/
theorem apply_ledger (s : DeterministicOms) (input : OmsInput) (published : Bool) :
    (s.apply input published).1.ledger = s.ledger ∨ ∃ h r receipt, s.Running ∧ validInput input ∧
        s.findFreeReceipt input.receiptId = some receipt ∧ Handled s input h r ∧
        (s.apply input published).1.ledger =
          { h.ledger with receipts := Function.update s.receipts receipt (receiptFor input) } := by
  cases apply_applied s input published with
  | idle _ same | exhausted _ _ same =>
    rw [same]
    exact .inl rfl
  | committed m internal running _ received _ closing =>
    cases received with
    | refused leaves => exact .inl (closing.ledger.trans leaves.ledger)
    | handled h receipt valid _ free handled recorded =>
      subst recorded
      exact .inr ⟨h, internal, receipt, running, valid, free, handled, closing.ledger⟩

theorem Running.apply (running : s.Running) (input : OmsInput) (published : Bool) :
    (s.apply input published).1.Running := by
  rcases s.apply_ledger input published with same | ⟨h, _, _, -, -, -, handled, ledger⟩
  · exact ⟨(congrArg Ledger.stopped same).trans running.1,
      (congrArg Ledger.initialized same).trans running.2⟩
  · exact ⟨(congrArg Ledger.stopped ledger).trans (handled.frame.stopped.trans running.1),
      (congrArg Ledger.initialized ledger).trans (handled.frame.initialized.trans running.2)⟩

/-- A valid new input, delivered to a running service with space. -/
structure Reaches (s : DeterministicOms) (input : OmsInput) : Prop where
  running : s.Running
  room : s.JournalRoom
  valid : validInput input = true
  fresh : s.findReceipt input.receiptId = none

instance : Decidable s.Running :=
  inferInstanceAs (Decidable (_ ∧ _))

instance : Decidable s.JournalRoom :=
  inferInstanceAs (Decidable (_ < _))

instance : Decidable (s.Reaches input) :=
  decidable_of_iff (s.Running ∧ s.JournalRoom ∧ validInput input = true ∧
      s.findReceipt input.receiptId = none)
    ⟨fun h => ⟨h.1, h.2.1, h.2.2.1, h.2.2.2⟩, fun h => ⟨h.running, h.room, h.valid, h.fresh⟩⟩

namespace Reaches

variable {receipt : ReceiptIndex}

section

variable (reaches : s.Reaches input)
include reaches

section

variable (free : s.findFreeReceipt input.receiptId = some receipt)
include free

theorem spec (published : Bool) :
    Concluded (s.reserving (s.remembering input receipt)) input (s.journal.reservedSequence + 1)
        (s.applyLocked input).2 published (s.apply input published).1
        (s.apply input published).2 ∧
      Closing (s.reserving (s.remembering input receipt)) input (s.journal.reservedSequence + 1)
        (s.applyLocked input).2 (s.apply input published).1 (s.apply input published).2 := by
  rw [apply_eq reaches.running reaches.room, receive_handled reaches.valid reaches.fresh free]
  exact conclude_spec

theorem ledger (published : Bool) : (s.apply input published).1.ledger =
      { (s.applyLocked input).1.ledger with
        receipts := Function.update s.receipts receipt (receiptFor input) } :=
  (reaches.spec free published).2.ledger

theorem orders (published : Bool) :
    (s.apply input published).1.orders = (s.applyLocked input).1.orders :=
  congrArg Ledger.orders (reaches.ledger free published)

theorem executions (published : Bool) :
    (s.apply input published).1.executions = (s.applyLocked input).1.executions :=
  congrArg Ledger.executions (reaches.ledger free published)

theorem remembered (published : Bool) :
    (s.apply input published).1.findReceipt input.receiptId = some receipt := by
  have valid : input.receiptId.valid = true := by
    have checked := reaches.valid
    simp only [validInput, validEnvelope, Bool.and_eq_true] at checked
    exact checked.1.1.1.1.1.1.1
  have fresh := reaches.fresh
  rw [findReceipt_of_valid valid] at fresh ⊢
  rw [show (s.apply input published).1.receipts = _ from
    congrArg Ledger.receipts (reaches.ledger free published)]
  exact Layout.find_insert_self free rfl rfl fresh

end

end

end Reaches

variable {sequence : Nat} {internal : InternalResult} {s' : DeterministicOms} {r : ApplyResult}

section

variable (concluded : Concluded s input sequence internal published s' r)
include concluded

theorem Concluded.clear
    (clear : s'.invariant = .none) : s.invariant = .none := by
  cases concluded with
  | quiet _ _ _ invariant => exact invariant.symm.trans clear
  | refreshed _ _ _ _ invariant =>
    cases published with
    | true => exact invariant.symm.trans clear
    | false =>
      rw [invariant] at clear
      cases clear
  | failed _ _ _ _ invariant => exact absurd clear invariant

theorem Concluded.status_of_accepted
    (accepted : r.status.accepted) : r.status = internal.status := by
  cases concluded with
  | quiet _ _ _ _ status | refreshed _ _ _ _ _ status => exact status
  | failed _ _ _ _ _ invalid =>
    rw [invalid] at accepted
    cases accepted

end

theorem reaches_of_accepted (accepted : (s.apply input published).2.status.accepted) :
    s.Reaches input ∧ ∃ receipt, s.findFreeReceipt input.receiptId = some receipt := by
  cases apply_applied s input published with
  | idle _ _ declined | exhausted _ _ _ declined =>
    rw [accepted] at declined
    cases declined
  | committed m internal running room received concluded closing =>
    cases received with
    | refused leaves declined =>
      rw [← concluded.status_of_accepted accepted, accepted] at declined
      cases declined
    | handled h receipt valid fresh free handled recorded =>
      exact ⟨⟨running, room, valid, fresh⟩, receipt, free⟩

end DeterministicOms

end Aegis.Oms
