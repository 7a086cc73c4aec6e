import Aegis.Foundation.Runs
import Aegis.HighAvailability.RecoveryStreamLaws

/-!
Replication through the recovery stream. The leader stands where all accepted records lead, the
standby where a first part of them does, and the queue holds the rest (`Replicates`).
-/

namespace Aegis.HighAvailability

open Aegis.Common Aegis.Foundation List Option

structure Position where
  sequence : UInt64 := 0
  hash : UInt64 := 0
  ledger : Ledger := fun _ => {}

def Position.record (position : Position) (payload : RecoveryPayload) : RecoveryRecord :=
  let record : RecoveryRecord :=
    { streamSequence := position.sequence + 1
      previousRecordHash := position.hash
      payload }
  { record with recordHash := stableRecoveryRecordHash record }

def Position.Continues (position : Position) (record : RecoveryRecord) : Prop :=
  record = position.record record.payload ∧ record.payload.stableHash ≠ 0 ∧
    record.payload.stableHash = stableRecoveryPayloadHash record.payload

instance (position : Position) (record : RecoveryRecord) : Decidable (position.Continues record) :=
  inferInstanceAs (Decidable (_ ∧ _))

def Position.advance (position : Position) (record : RecoveryRecord) : Option Position :=
  if position.Continues record then
    (applyToLedger position.ledger record.payload).map fun ledger =>
      { sequence := record.streamSequence, hash := record.recordHash, ledger }
  else none

def Position.replay (position : Position) (records : List RecoveryRecord) : Option Position :=
  records.foldlM Position.advance position

def foldLedger (records : List RecoveryRecord) : Option Ledger :=
  records.foldlM (fun ledger record => applyToLedger ledger record.payload) fun _ => {}

namespace Position

variable {position reached : Position} {record : RecoveryRecord} {records : List RecoveryRecord}

theorem advance_eq_some (advanced : position.advance record = some reached) :
    position.Continues record ∧ applyToLedger position.ledger record.payload = some reached.ledger ∧
      reached.sequence = position.sequence + 1 ∧ reached.hash = record.recordHash := by
  unfold advance at advanced
  split at advanced
  · next continues =>
    obtain ⟨ledger, applied, rfl⟩ := map_eq_some_iff.mp advanced
    refine ⟨continues, applied, ?_, rfl⟩
    rw [continues.1, Position.record]
  · cases advanced

theorem replay_append (position : Position) (first rest : List RecoveryRecord) :
    position.replay (first ++ rest) = (position.replay first).bind (·.replay rest) :=
  foldlM_append

@[simp] theorem replay_nil (position : Position) : position.replay [] = some position := rfl

theorem replay_cons (position : Position) (record : RecoveryRecord) (rest : List RecoveryRecord) :
    position.replay (record :: rest) = (position.advance record).bind (·.replay rest) := rfl

theorem ledger_of_replay (replayed : position.replay records = some reached) :
    records.foldlM (fun ledger record => applyToLedger ledger record.payload) position.ledger =
      some reached.ledger := by
  induction records generalizing position with
  | nil =>
    cases replayed
    rfl
  | cons record rest ih =>
    obtain ⟨next, advanced, replayed⟩ := bind_eq_some_iff.mp replayed
    rw [foldlM_cons, (advance_eq_some advanced).2.1]
    exact ih replayed

theorem sequence_of_replay (replayed : position.replay records = some reached) :
    reached.sequence = position.sequence + UInt64.ofNat records.length := by
  induction records generalizing position with
  | nil =>
    cases replayed
    simp
  | cons record rest ih =>
    obtain ⟨next, advanced, replayed⟩ := bind_eq_some_iff.mp replayed
    rw [ih replayed, (advance_eq_some advanced).2.2.1, length_cons, UInt64.ofNat_add]
    simp [UInt64.add_assoc, UInt64.add_comm]

end Position

namespace BoundedRecoveryStream

variable {s : BoundedRecoveryStream} {payload : RecoveryPayload}

def leader (s : BoundedRecoveryStream) : Position :=
  { sequence := s.publishedSequence, hash := s.publishedHash, ledger := s.publishedCommands }

def standby (s : BoundedRecoveryStream) : Position :=
  { sequence := s.appliedSequence, hash := s.appliedHash, ledger := s.appliedCommands }

theorem stableRecoveryRecordHash_ne_zero (record : RecoveryRecord) :
    stableRecoveryRecordHash record ≠ 0 :=
  nonzeroHash_ne_zero _

theorem continues_iff (record : RecoveryRecord) :
    s.continues record ↔ s.standby.Continues record := by
  have nonzero := stableRecoveryRecordHash_ne_zero record
  obtain ⟨sequence, previous, payload, hash⟩ := record
  simp only [continues, Bool.and_eq_true, beq_iff_eq, bne_iff_ne, Position.Continues,
    Position.record, standby, RecoveryRecord.mk.injEq, true_and, stableRecoveryRecordHash]
    at nonzero ⊢
  constructor
  · rintro ⟨⟨⟨⟨⟨rfl, rfl⟩, -⟩, rfl⟩, present⟩, right⟩
    exact ⟨⟨rfl, rfl, rfl⟩, present, right⟩
  · rintro ⟨⟨rfl, rfl, rfl⟩, present, right⟩
    exact ⟨⟨⟨⟨⟨rfl, rfl⟩, nonzero⟩, rfl⟩, present⟩, right⟩

theorem applyToLedger_of_validate (valid : s.validateCommandForAppend payload = .accepted) :
    ∃ ledger, applyToLedger s.publishedCommands payload = some ledger := by
  unfold validateCommandForAppend at valid
  unfold applyToLedger
  split at valid
  · next other => exact ⟨_, if_pos other⟩
  next command =>
  rw [if_neg command]
  split at valid
  · cases valid
  split at valid
  · next absent =>
    rw [absent]
    split at valid
    · cases valid
    next kind =>
    split at valid
    · cases valid
    next room =>
    rw [isNone_iff_eq_none] at room
    obtain ⟨index, free⟩ := ne_none_iff_exists'.mp room
    rw [if_pos (not_not.mp kind), free]
    exact ⟨_, rfl⟩
  · next index found =>
    rw [found]
    split at valid
    · cases valid
    next same =>
    split at valid
    · cases valid
    next kind =>
    dsimp only
    rw [if_neg same, if_neg kind]
    exact ⟨_, rfl⟩

inductive Transfer (s : BoundedRecoveryStream) :
    List RecoveryRecord → BoundedRecoveryStream → Prop
  | idle {s' : BoundedRecoveryStream} (leader : s'.leader = s.leader)
      (standby : s'.standby = s.standby) (queue : s'.queue = s.queue) : Transfer s [] s'
  | published {s' : BoundedRecoveryStream} {record : RecoveryRecord}
      (advanced : s.leader.advance record = some s'.leader) (standby : s'.standby = s.standby)
      (queue : s'.queue = s.queue ++ [record])
      (room : s.queue.length < kRecoveryStreamCapacity) : Transfer s [record] s'
  | applied {s' : BoundedRecoveryStream} {record : RecoveryRecord} (leader : s'.leader = s.leader)
      (advanced : s.standby.advance record = some s'.standby)
      (queue : s.queue = record :: s'.queue) : Transfer s [] s'
  | corrupted {s' : BoundedRecoveryStream} {record : RecoveryRecord}
      (queue : s.queue = record :: s'.queue) (stuck : s.standby.advance record = none) :
      Transfer s [] s'

def acceptedRecord (s : BoundedRecoveryStream) (payload : RecoveryPayload) : List RecoveryRecord :=
  if (s.append payload).2.status = .accepted then [s.nextRecord payload] else []

theorem publish_transfer (wellFormed : s.wellFormed payload)
    (valid : s.validateCommandForAppend payload = .accepted) :
    Transfer s (if (s.publish payload).2.status = .accepted then [s.nextRecord payload] else [])
      (s.publish payload).1 := by
  obtain ⟨ledger, applied⟩ := applyToLedger_of_validate valid
  unfold publish
  split
  · exact .idle rfl rfl rfl
  next room =>
  simp only [applied, if_true]
  refine .published ?_ rfl rfl (Nat.lt_of_not_le room)
  have continues : s.leader.Continues (s.nextRecord payload) := by
    unfold BoundedRecoveryStream.wellFormed at wellFormed
    simp only [Bool.and_eq_true, bne_iff_ne, beq_iff_eq] at wellFormed
    exact ⟨rfl, wellFormed.1.2, wellFormed.2⟩
  rw [Position.advance, if_pos continues]
  exact map_eq_some_iff.mpr ⟨ledger, applied, rfl⟩

theorem append_transfer (s : BoundedRecoveryStream) (payload : RecoveryPayload) :
    Transfer s (s.acceptedRecord payload) (s.append payload).1 := by
  unfold acceptedRecord append
  split
  · exact .idle rfl rfl rfl
  split
  · rw [if_neg]
    · exact .idle rfl rfl rfl
    · split <;> exact RecoveryAppendStatus.noConfusion
  next wellFormed =>
  split
  · exact .idle rfl rfl rfl
  · exact .idle rfl rfl rfl
  · next valid => exact publish_transfer (by simpa using wellFormed) valid
  · next other =>
    rw [if_neg other]
    exact .idle rfl rfl rfl

theorem applyNext_transfer (s : BoundedRecoveryStream) : Transfer s [] s.applyNext.1 := by
  unfold applyNext
  split
  · exact .idle rfl rfl rfl
  split
  · exact .idle rfl rfl rfl
  next record rest queued =>
  split
  · next broken =>
    refine .corrupted queued ?_
    rw [Position.advance, if_neg]
    simpa [← continues_iff] using broken
  next continues =>
  have continues := (continues_iff record).mp (by simpa using continues)
  split
  · next stuck =>
    refine .corrupted queued ?_
    rw [Position.advance, if_pos continues]
    exact map_eq_none_iff.mpr stuck
  · next ledger applied =>
    refine .applied rfl ?_ queued
    rw [Position.advance, if_pos continues]
    exact map_eq_some_iff.mpr ⟨ledger, applied, rfl⟩

theorem rotateAuthority_transfer (s : BoundedRecoveryStream) (authority : RecoveryAuthority) :
    Transfer s [] (s.rotateAuthority authority).1 := by
  rcases s.rotateAuthority_cases authority with ⟨-, eq⟩ | ⟨-, eq⟩ | ⟨_, -, -, eq⟩ <;> rw [eq] <;>
    exact .idle rfl rfl rfl

/-- The leader has all accepted records, the standby a first part. -/
structure Replicates (s : BoundedRecoveryStream) (records : List RecoveryRecord)
    (applied : Nat) : Prop where
  counted : applied ≤ records.length
  leader : Position.replay {} records = some s.leader
  standby : Position.replay {} (records.take applied) = some s.standby
  queue : s.queue = records.drop applied
  bounded : s.queue.length ≤ kRecoveryStreamCapacity

variable {records : List RecoveryRecord} {applied count : Nat}

section

variable (replicates : Replicates s records applied)
include replicates

theorem Replicates.replay_queue : s.standby.replay s.queue = some s.leader := by
  have whole := replicates.leader
  rw [← take_append_drop applied records, Position.replay_append, replicates.standby,
    ← replicates.queue] at whole
  exact whole

theorem Replicates.transfer {s' : BoundedRecoveryStream} {new : List RecoveryRecord}
    (transfer : Transfer s new s') :
    ∃ applied, Replicates s' (records ++ new) applied := by
  have counted := replicates.counted
  cases transfer with
  | idle leader standby queue =>
    rw [append_nil]
    exact ⟨applied, counted, leader ▸ replicates.leader, standby ▸ replicates.standby,
      queue ▸ replicates.queue, queue ▸ replicates.bounded⟩
  | @published _ record advanced standby queue room =>
    refine ⟨applied, ?_, ?_, ?_, ?_, ?_⟩
    · rw [length_append]
      exact counted.trans (Nat.le_add_right ..)
    · rw [Position.replay_append, replicates.leader]
      exact congrArg (bind · some) advanced
    · rw [take_append_of_le_length counted, standby]
      exact replicates.standby
    · rw [queue, replicates.queue, drop_append_of_le_length counted]
    · rw [queue, length_append]
      exact room
  | @applied _ record leader advanced queue =>
    have dropped := replicates.queue.symm.trans queue
    have short : applied < records.length := by
      by_contra long
      rw [drop_eq_nil_of_le (Nat.le_of_not_lt long)] at dropped
      cases dropped
    rw [drop_eq_getElem_cons short] at dropped
    obtain ⟨head, rest⟩ := cons.inj dropped
    rw [append_nil]
    refine ⟨applied + 1, short, leader ▸ replicates.leader, ?_, rest.symm, ?_⟩
    · rw [take_succ_eq_append_getElem short, Position.replay_append, replicates.standby, head]
      exact congrArg (bind · some) advanced
    · have bounded := replicates.bounded
      rw [queue, length_cons] at bounded
      omega
  | @corrupted _ record queue stuck =>
    -- The queue leads to the leader's position, so its first record is never refused.
    have whole := replicates.replay_queue
    rw [queue, Position.replay_cons, stuck] at whole
    cases whole

theorem Replicates.applyNext_ne_corrupt : s.applyNext.2 ≠ .corrupt := by
  have whole := replicates.replay_queue
  unfold applyNext
  split
  · exact RecoveryApplyStatus.noConfusion
  split
  · exact RecoveryApplyStatus.noConfusion
  next record rest queued =>
  rw [queued, Position.replay_cons] at whole
  obtain ⟨reached, advanced, -⟩ := bind_eq_some_iff.mp whole
  obtain ⟨continues, applied, -⟩ := Position.advance_eq_some advanced
  rw [(continues_iff record).mpr continues]
  change applyToLedger s.appliedCommands record.payload = _ at applied
  rw [applied]
  exact RecoveryApplyStatus.noConfusion

/-- Equal sequences mean an empty queue. -/
theorem Replicates.ledgers_eq
    (same : s.publishedSequence = s.appliedSequence) : s.appliedCommands = s.publishedCommands := by
  have sequence := Position.sequence_of_replay replicates.replay_queue
  have bounded := replicates.bounded
  change s.publishedSequence = s.appliedSequence + _ at sequence
  have none : s.queue = [] := by
    rw [same, left_eq_add] at sequence
    have zero : s.queue.length % 2 ^ 64 = 0 := by
      simpa using congrArg UInt64.toNat sequence
    rw [Nat.mod_eq_of_lt (bounded.trans_lt (by decide))] at zero
    exact length_eq_zero_iff.mp zero
  have whole := replicates.replay_queue
  rw [none, Position.replay_nil] at whole
  exact congrArg Position.ledger (some.inj whole)

end

inductive StreamAction where
  | append (payload : RecoveryPayload)
  | applyNext
  | rotateAuthority (authority : RecoveryAuthority)

def next (s : BoundedRecoveryStream) : StreamAction → BoundedRecoveryStream
  | .append payload => (s.append payload).1
  | .applyNext => s.applyNext.1
  | .rotateAuthority authority => (s.rotateAuthority authority).1

def accepted (s : BoundedRecoveryStream) : StreamAction → List RecoveryRecord
  | .append payload => s.acceptedRecord payload
  | _ => []

theorem next_transfer (s : BoundedRecoveryStream) (action : StreamAction) :
    Transfer s (s.accepted action) (s.next action) := by
  cases action with
  | append payload => exact s.append_transfer payload
  | applyNext => exact s.applyNext_transfer
  | rotateAuthority authority => exact s.rotateAuthority_transfer authority

theorem Replicates.run (replicates : Replicates s records applied) (actions : List StreamAction) :
    ∃ applied, Replicates (run next s actions) (records ++ outputs next accepted s actions)
      applied := by
  induction actions generalizing s records applied with
  | nil => exact ⟨applied, by simpa [outputs] using replicates⟩
  | cons action rest ih =>
    obtain ⟨applied, replicates⟩ := replicates.transfer (s.next_transfer action)
    obtain ⟨applied, replicates⟩ := ih replicates
    exact ⟨applied, by simpa [outputs] using replicates⟩

theorem replicates_construct (authority : RecoveryAuthority) :
    Replicates (construct authority) [] 0 :=
  ⟨Nat.le_refl 0, rfl, rfl, rfl, Nat.zero_le _⟩

theorem rotated_of_caught_up {authority : RecoveryAuthority}
    (rotated : (s.rotateAuthority authority).2 = .rotated) :
    s.publishedSequence = s.appliedSequence := by
  unfold rotateAuthority at rotated
  repeat' split at rotated
  any_goals cases rotated
  next caughtUp =>
  simp only [Bool.or_eq_true, decide_eq_true_eq, not_or, not_not] at caughtUp
  exact caughtUp.1

/-- The standby never meets a corrupt record, has applied exactly the first accepted records, is
rotated only where it has all of them, and then has the leader's ledger. -/
theorem stream_replicates (authority : RecoveryAuthority) (actions : List StreamAction) :
    let s := run next (construct authority) actions
    let records := outputs next accepted (construct authority) actions
    ∃ applied ≤ records.length, s.appliedSequence = UInt64.ofNat applied ∧
      s.publishedSequence = UInt64.ofNat records.length ∧
      foldLedger (records.take applied) = some s.appliedCommands ∧
      foldLedger records = some s.publishedCommands ∧
      s.applyNext.2 ≠ .corrupt ∧
      (∀ authority, (s.rotateAuthority authority).2 = .rotated →
        s.publishedSequence = s.appliedSequence) ∧
      (s.snapshot.caughtUp = true → s.appliedCommands = s.publishedCommands) ∧
      (records.length < 2 ^ 64 → s.appliedSequence ≤ s.publishedSequence) := by
  intro s records
  obtain ⟨applied, replicates⟩ := (replicates_construct authority).run actions
  have counted := replicates.counted
  have appliedSequence : s.appliedSequence = UInt64.ofNat applied := by
    have sequence := Position.sequence_of_replay replicates.standby
    rw [List.length_take_of_le counted, UInt64.zero_add] at sequence
    exact sequence
  have publishedSequence : s.publishedSequence = UInt64.ofNat records.length := by
    have sequence := Position.sequence_of_replay replicates.leader
    rw [UInt64.zero_add] at sequence
    exact sequence
  refine ⟨applied, counted, appliedSequence, publishedSequence,
    Position.ledger_of_replay replicates.standby, Position.ledger_of_replay replicates.leader,
    replicates.applyNext_ne_corrupt, fun _ => rotated_of_caught_up, ?_, ?_⟩
  · intro caughtUp
    unfold snapshot at caughtUp
    simp only [Bool.and_eq_true, beq_iff_eq] at caughtUp
    exact replicates.ledgers_eq caughtUp.1.2
  · intro few
    rw [appliedSequence, publishedSequence, UInt64.le_iff_toNat_le, UInt64.toNat_ofNat',
      UInt64.toNat_ofNat', Nat.mod_eq_of_lt (counted.trans_lt few), Nat.mod_eq_of_lt few]
    exact counted

def loneAuthority : RecoveryAuthority :=
  { sessionId := ⟨1, 1⟩, exchangeSessionEpoch := 1, fencingToken := 1 }

def journalCommit : RecoveryPayload :=
  let payload : RecoveryPayload :=
    { kind := .journalCommit
      sourceJournalSequence := 1
      sourceJournalHash := 1
      processMonotonicTimeNs := 1
      authority := loneAuthority }
  { payload with stableHash := stableRecoveryPayloadHash payload }

theorem journalCommit_stableHash : journalCommit.stableHash ≠ 0 ∧
      journalCommit.stableHash = stableRecoveryPayloadHash journalCommit := by
  decide

/-- A stream of `loneAuthority` on which nothing is in flight. -/
structure Level (s : BoundedRecoveryStream) (count : Nat) : Prop where
  initialized : s.initialized = true
  healthy : s.healthy = true
  authority : s.authority = loneAuthority
  queue : s.queue = []
  caughtUp : s.standby = s.leader
  counted : s.appliedSequence = UInt64.ofNat count

theorem Level.append (level : Level s count) : (s.append journalCommit).1 =
      { s with
        queue := [s.nextRecord journalCommit]
        latestSourceJournalSequence := 1
        latestSourceJournalHash := 1
        publishedHash := (s.nextRecord journalCommit).recordHash
        publishedSequence := s.publishedSequence + 1 } := by
  have wellFormed : s.wellFormed journalCommit := by
    rw [BoundedRecoveryStream.wellFormed, level.authority]
    decide
  have valid : s.validateCommandForAppend journalCommit = .accepted := rfl
  have written : applyToLedger s.publishedCommands journalCommit = some s.publishedCommands := rfl
  simp only [BoundedRecoveryStream.append, publish, level.initialized, level.healthy, wellFormed,
    valid, written, level.queue]
  rfl

theorem applyNext_of_continues {record : RecoveryRecord} {rest : List RecoveryRecord}
    {ledger : Ledger} (initialized : s.initialized) (healthy : s.healthy)
    (queued : s.queue = record :: rest) (continues : s.continues record)
    (applied : applyToLedger s.appliedCommands record.payload = some ledger) : s.applyNext.1 =
      { s with
        queue := rest
        appliedCommands := ledger
        appliedHash := record.recordHash
        appliedSequence := record.streamSequence } := by
  rw [applyNext, if_neg (by simp [initialized, healthy]), queued]
  dsimp only
  rw [if_neg (by simp [continues]), applied]

theorem Level.round (level : Level s count) :
    Level (run next s [.append journalCommit, .applyNext]) (count + 1) := by
  have continues : (s.append journalCommit).1.continues (s.nextRecord journalCommit) := by
    rw [level.append, continues_iff]
    refine ⟨?_, journalCommit_stableHash⟩
    change s.leader.record journalCommit = s.standby.record journalCommit
    rw [level.caughtUp]
  have ledgers := congrArg Position.ledger level.caughtUp
  have sequences := congrArg Position.sequence level.caughtUp
  simp only [run_cons, run_nil, next]
  rw [level.append] at continues ⊢
  rw [applyNext_of_continues (by exact level.initialized) (by exact level.healthy) (by rfl)
    continues (by rfl)]
  refine ⟨level.initialized, level.healthy, level.authority, rfl, ?_, ?_⟩
  · exact congrArg (Position.mk _ _) ledgers
  change s.publishedSequence + 1 = _
  rw [← show s.appliedSequence = s.publishedSequence from sequences, level.counted,
    UInt64.ofNat_add]
  rfl

theorem Level.rounds (level : Level s count) (rounds : Nat) :
    Level (run next s (replicate rounds [.append journalCommit, .applyNext]).flatten)
      (count + rounds) := by
  induction rounds with
  | zero => exact level
  | succ rounds ih =>
    rw [replicate_succ', flatten_append, run_append, flatten_singleton]
    exact ih.round

theorem Level.overtaken (level : Level s count) (last : UInt64.ofNat count = 18446744073709551615) :
    (s.append journalCommit).1.publishedSequence < (s.append journalCommit).1.appliedSequence := by
  have sequences := congrArg Position.sequence level.caughtUp
  rw [level.append]
  change s.publishedSequence + 1 < s.appliedSequence
  rw [← show s.appliedSequence = s.publishedSequence from sequences, level.counted, last]
  decide

theorem level_construct : Level (construct loneAuthority) 0 := by
  refine ⟨?_, ?_, rfl, rfl, rfl, rfl⟩ <;> decide

/-- After `2 ^ 64` records a standby behind is ahead of the sequence. -/
theorem sequence_wraps : ∃ actions, (run next (construct loneAuthority) actions).publishedSequence <
      (run next (construct loneAuthority) actions).appliedSequence := by
  obtain ⟨count, last⟩ : ∃ count, UInt64.ofNat count = 18446744073709551615 :=
    ⟨_, UInt64.ofNat_toNat⟩
  have late := level_construct.rounds count
  refine ⟨(List.replicate count [.append journalCommit, .applyNext]).flatten ++
    [.append journalCommit], ?_⟩
  rw [run_append]
  exact late.overtaken (by rw [Nat.zero_add, last])

end BoundedRecoveryStream

end Aegis.HighAvailability
