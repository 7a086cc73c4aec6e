import Aegis.Foundation.ProbeTable
import Aegis.HighAvailability.Types

/-!
The bounded recovery stream (`high_availability/src/recovery_stream.cpp`): a queue of chained
records from leader to standby, and on either side a ledger of emitted commands.
-/

namespace Aegis.HighAvailability

open Aegis.Common Aegis.Foundation

def validAuthority (value : RecoveryAuthority) : Bool :=
  value.sessionId.valid && value.exchangeSessionEpoch != 0

def commandRecord (kind : RecoveryRecordKind) : Bool :=
  kind == .orderEmission || kind == .gatewayAcknowledgement

structure CommandSlot where
  commandId : GlobalEventId := {}
  commandHash : UInt64 := 0
  acknowledged : Bool := false
  occupied : Bool := false
  deriving DecidableEq

abbrev Ledger := Fin kRecoveryCommandCapacity → CommandSlot

def commandSlot (commandId : GlobalEventId) : Fin kRecoveryCommandCapacity :=
  Fin.ofNat kRecoveryCommandCapacity
    (commandId.high ^^^ (commandId.low <<< 29 ||| commandId.low >>> 35)).toNat

def commandLayout : Layout kRecoveryCommandCapacity CommandSlot GlobalEventId where
  occupied := (·.occupied)
  key := (·.commandId)
  bucket := commandSlot

def findCommand (ledger : Ledger) (commandId : GlobalEventId) :
    Option (Fin kRecoveryCommandCapacity) :=
  commandLayout.find ledger commandId

/-- `find_free_command`: a slot with the command counts as free. -/
def findFreeCommand (ledger : Ledger) (commandId : GlobalEventId) :
    Option (Fin kRecoveryCommandCapacity) :=
  (commandLayout.reusing commandId).findFree ledger commandId

/-- `apply_to_ledger`; nothing where it answers false. -/
def applyToLedger (ledger : Ledger) (payload : RecoveryPayload) : Option Ledger :=
  if !commandRecord payload.kind then some ledger
  else
    match findCommand ledger payload.commandId with
    | some index =>
        if (ledger index).commandHash ≠ payload.commandHash then none
        else if payload.kind = .orderEmission then some ledger
        else some (Function.update ledger index { ledger index with acknowledged := true })
    | none =>
        if payload.kind = .orderEmission then
          (findFreeCommand ledger payload.commandId).map fun index =>
            Function.update ledger index
              { commandId := payload.commandId
                commandHash := payload.commandHash
                acknowledged := false
                occupied := true }
        else none

structure BoundedRecoveryStream where
  authority : RecoveryAuthority
  queue : List RecoveryRecord := []
  publishedCommands : Ledger := fun _ => {}
  appliedCommands : Ledger := fun _ => {}
  publishedSequence : UInt64 := 0
  appliedSequence : UInt64 := 0
  publishedHash : UInt64 := 0
  appliedHash : UInt64 := 0
  latestSourceJournalSequence : UInt64 := 0
  latestSourceJournalHash : UInt64 := 0
  appendFailures : UInt64 := 0
  duplicateEmissions : UInt64 := 0
  identityConflicts : UInt64 := 0
  initialized : Bool := false
  healthy : Bool := false

namespace BoundedRecoveryStream

def construct (authority : RecoveryAuthority) : BoundedRecoveryStream :=
  { authority, initialized := validAuthority authority, healthy := validAuthority authority }

variable (s : BoundedRecoveryStream)

def markUnavailable : BoundedRecoveryStream :=
  { s with healthy := false }

def failAppend : BoundedRecoveryStream :=
  { s with appendFailures := s.appendFailures + 1 }.markUnavailable

def rotateAuthority (authority : RecoveryAuthority) :
    BoundedRecoveryStream × RecoveryRotateStatus :=
  if !s.initialized || !s.healthy then (s, .unavailable)
  else if !validAuthority authority || authority.sessionId ≠ s.authority.sessionId ||
      authority.exchangeSessionEpoch ≠ s.authority.exchangeSessionEpoch ||
      authority.fencingToken = 0 then (s, .invalid)
  else if authority.fencingToken < s.authority.fencingToken then (s, .stale)
  else if authority.fencingToken = s.authority.fencingToken then (s, .unchanged)
  else if s.publishedSequence ≠ s.appliedSequence || s.publishedHash ≠ s.appliedHash then
    (s, .notCaughtUp)
  else ({ s with authority }, .rotated)

def validateCommandForAppend (payload : RecoveryPayload) : RecoveryAppendStatus :=
  if !commandRecord payload.kind then .accepted
  else if !payload.commandId.valid || payload.commandHash = 0 then .invalid
  else
    match findCommand s.publishedCommands payload.commandId with
    | none =>
        if payload.kind ≠ .orderEmission then .identityConflict
        else if (findFreeCommand s.publishedCommands payload.commandId).isNone then .unavailable
        else .accepted
    | some index =>
        if (s.publishedCommands index).commandHash ≠ payload.commandHash then .identityConflict
        else if payload.kind = .orderEmission then .duplicate
        else if (s.publishedCommands index).acknowledged then .duplicate
        else .accepted

/-- The envelope checks at the head of `append`. -/
def wellFormed (payload : RecoveryPayload) : Bool :=
  validRecoveryRecordKind payload.kind && payload.processMonotonicTimeNs != 0 &&
    payload.sourceJournalSequence != 0 && payload.sourceJournalHash != 0 &&
    payload.authority == s.authority && payload.stableHash != 0 &&
    payload.stableHash == stableRecoveryPayloadHash payload

def nextRecord (payload : RecoveryPayload) : RecoveryRecord :=
  let record : RecoveryRecord :=
    { streamSequence := s.publishedSequence + 1
      previousRecordHash := s.publishedHash
      payload }
  { record with recordHash := stableRecoveryRecordHash record }

/-- The end of `append`. -/
def publish (payload : RecoveryPayload) : BoundedRecoveryStream × RecoveryAppendResult :=
  if kRecoveryStreamCapacity ≤ s.queue.length then (s.failAppend, { status := .full })
  else
    let queued := { s with queue := s.queue ++ [s.nextRecord payload] }
    match applyToLedger s.publishedCommands payload with
    | none => (queued.failAppend, { status := .unavailable })
    | some ledger =>
        ({ queued with
            publishedCommands := ledger
            latestSourceJournalSequence := payload.sourceJournalSequence
            latestSourceJournalHash := payload.sourceJournalHash
            publishedHash := (s.nextRecord payload).recordHash
            publishedSequence := (s.nextRecord payload).streamSequence },
          { status := .accepted
            streamSequence := (s.nextRecord payload).streamSequence
            recordHash := (s.nextRecord payload).recordHash })

def append (payload : RecoveryPayload) : BoundedRecoveryStream × RecoveryAppendResult :=
  if !s.initialized || !s.healthy then (s, { status := .unavailable })
  else if !s.wellFormed payload then
    ({ s with appendFailures := s.appendFailures + 1 },
      { status := if payload.authority.fencingToken ≠ s.authority.fencingToken then .fenced
          else .invalid })
  else
    match s.validateCommandForAppend payload with
    | .duplicate =>
        ({ s with
            duplicateEmissions :=
              s.duplicateEmissions + if payload.kind = .orderEmission then 1 else 0 },
          { status := .duplicate })
    | .identityConflict =>
        ({ s with identityConflicts := s.identityConflicts + 1 }.markUnavailable,
          { status := .identityConflict })
    | .accepted => s.publish payload
    | status => (s.failAppend, { status })

/-- The checks of `apply_next` on a dequeued record. -/
def continues (record : RecoveryRecord) : Bool :=
  record.streamSequence == s.appliedSequence + 1 && record.previousRecordHash == s.appliedHash &&
    record.recordHash != 0 && record.recordHash == stableRecoveryRecordHash record &&
    record.payload.stableHash != 0 &&
    record.payload.stableHash == stableRecoveryPayloadHash record.payload

def applyNext : BoundedRecoveryStream × RecoveryApplyStatus :=
  if !s.initialized || !s.healthy then (s, .unavailable)
  else
    match s.queue with
    | [] => (s, .empty)
    | record :: rest =>
        let dequeued := { s with queue := rest }
        if !s.continues record then (dequeued.markUnavailable, .corrupt)
        else
          match applyToLedger s.appliedCommands record.payload with
          | none => (dequeued.markUnavailable, .corrupt)
          | some ledger =>
              ({ dequeued with
                  appliedCommands := ledger
                  appliedHash := record.recordHash
                  appliedSequence := record.streamSequence },
                .applied)

def snapshot : RecoveryStreamSnapshot :=
  let healthy := s.initialized && s.healthy && s.appliedSequence ≤ s.publishedSequence
  let result : RecoveryStreamSnapshot :=
    { authority := s.authority
      publishedSequence := s.publishedSequence
      appliedSequence := s.appliedSequence
      publishedHash := s.publishedHash
      appliedHash := s.appliedHash
      latestSourceJournalSequence := s.latestSourceJournalSequence
      latestSourceJournalHash := s.latestSourceJournalHash
      lagRecords :=
        if s.appliedSequence ≤ s.publishedSequence then s.publishedSequence - s.appliedSequence
        else 0
      appendFailures := s.appendFailures
      duplicateEmissions := s.duplicateEmissions
      identityConflicts := s.identityConflicts
      healthy
      caughtUp := healthy && s.publishedSequence == s.appliedSequence &&
        s.publishedHash == s.appliedHash }
  { result with stableHash := stableRecoverySnapshotHash result }

end BoundedRecoveryStream

end Aegis.HighAvailability
