import Aegis.Common.Identifiers

/-!
The records of the high-availability package and their stable hashes. A digest, a key or a
signature is the list of its bytes.
-/

namespace Aegis.HighAvailability

open Aegis.Common

def kHashOffset : UInt64 := 1469598103934665603

/-- The stable hash of the words of a record. -/
def hashWords (words : List UInt64) : UInt64 :=
  nonzeroHash (words.foldl mixByte kHashOffset)

/-- `mix_identifier`. -/
def identifierWords {Tag : Type} (value : Identifier128 Tag) : List UInt64 :=
  [value.high, value.low]

/-- `mix_bytes`. -/
def byteWords (bytes : List UInt8) : List UInt64 :=
  bytes.map (·.toUInt64)

def flag (value : Bool) : UInt64 :=
  if value then 1 else 0

def kRecoveryStreamCapacity : Nat := 1024

def kRecoveryCommandCapacity : Nat := 8192

instance : NeZero kRecoveryCommandCapacity := ⟨by decide⟩

inductive RecoveryRecordKind where
  | journalCommit | orderEmission | gatewayAcknowledgement | gatewayEvent | fill | omsCheckpoint
  | riskSnapshot | reconciliation
  | unlisted (byte : UnlistedCode 1 8)
  deriving DecidableEq

def RecoveryRecordKind.code : RecoveryRecordKind → UInt64
  | .journalCommit => 1
  | .orderEmission => 2
  | .gatewayAcknowledgement => 3
  | .gatewayEvent => 4
  | .fill => 5
  | .omsCheckpoint => 6
  | .riskSnapshot => 7
  | .reconciliation => 8
  | .unlisted byte => byte.raw.toUInt64

def validRecoveryRecordKind : RecoveryRecordKind → Bool
  | .unlisted .. => false
  | _ => true

inductive RecoveryAppendStatus where
  | accepted | duplicate | identityConflict | invalid | fenced | full | unavailable
  deriving DecidableEq

inductive RecoveryApplyStatus where
  | applied | empty | corrupt | unavailable
  deriving DecidableEq

inductive RecoveryRotateStatus where
  | rotated | unchanged | stale | notCaughtUp | invalid | unavailable
  deriving DecidableEq

structure RecoveryAuthority where
  sessionId : SessionId := {}
  exchangeSessionEpoch : UInt64 := 0
  fencingToken : UInt64 := 0
  deriving DecidableEq

def RecoveryAuthority.words (value : RecoveryAuthority) : List UInt64 :=
  identifierWords value.sessionId ++ [value.exchangeSessionEpoch, value.fencingToken]

structure RecoveryPayload where
  kind : RecoveryRecordKind := .journalCommit
  commandId : GlobalEventId := {}
  commandHash : UInt64 := 0
  sourceJournalSequence : UInt64 := 0
  sourceJournalHash : UInt64 := 0
  processMonotonicTimeNs : UInt64 := 0
  authority : RecoveryAuthority := {}
  stableHash : UInt64 := 0
  deriving DecidableEq

def stableRecoveryPayloadHash (value : RecoveryPayload) : UInt64 :=
  hashWords ([value.kind.code] ++ identifierWords value.commandId ++
    [value.commandHash, value.sourceJournalSequence, value.sourceJournalHash,
      value.processMonotonicTimeNs] ++ value.authority.words)

structure RecoveryRecord where
  streamSequence : UInt64 := 0
  previousRecordHash : UInt64 := 0
  payload : RecoveryPayload := {}
  recordHash : UInt64 := 0
  deriving DecidableEq

def stableRecoveryRecordHash (value : RecoveryRecord) : UInt64 :=
  hashWords [value.streamSequence, value.previousRecordHash, value.payload.stableHash]

structure RecoveryAppendResult where
  status : RecoveryAppendStatus := .invalid
  streamSequence : UInt64 := 0
  recordHash : UInt64 := 0
  deriving DecidableEq

structure RecoveryStreamSnapshot where
  authority : RecoveryAuthority := {}
  publishedSequence : UInt64 := 0
  appliedSequence : UInt64 := 0
  publishedHash : UInt64 := 0
  appliedHash : UInt64 := 0
  latestSourceJournalSequence : UInt64 := 0
  latestSourceJournalHash : UInt64 := 0
  lagRecords : UInt64 := 0
  appendFailures : UInt64 := 0
  duplicateEmissions : UInt64 := 0
  identityConflicts : UInt64 := 0
  healthy : Bool := false
  caughtUp : Bool := false
  stableHash : UInt64 := 0
  deriving DecidableEq

def stableRecoverySnapshotHash (value : RecoveryStreamSnapshot) : UInt64 :=
  hashWords (value.authority.words ++
    [value.publishedSequence, value.appliedSequence, value.publishedHash, value.appliedHash,
      value.latestSourceJournalSequence, value.latestSourceJournalHash, value.lagRecords,
      value.appendFailures, value.duplicateEmissions, value.identityConflicts, flag value.healthy,
      flag value.caughtUp])

def kMaximumHaTransitions : Nat := 1024

inductive DeploymentLocality where
  | colocatedEdge | remoteRegion
  | unlisted (byte : UnlistedCode 1 2)
  deriving DecidableEq

def DeploymentLocality.code : DeploymentLocality → UInt64
  | .colocatedEdge => 1
  | .remoteRegion => 2
  | .unlisted byte => byte.raw.toUInt64

inductive LeadershipState where
  | starting | standbySynchronizing | hotStandby | leaderReconciling | activeLeader | activeDegraded
  | riskReductionOnly | fenced | unsafeState | stopped
  deriving DecidableEq

def LeadershipState.code : LeadershipState → UInt64
  | .starting => 1
  | .standbySynchronizing => 2
  | .hotStandby => 3
  | .leaderReconciling => 4
  | .activeLeader => 5
  | .activeDegraded => 6
  | .riskReductionOnly => 7
  | .fenced => 8
  | .unsafeState => 9
  | .stopped => 10

/-- `active_state`. -/
def LeadershipState.active (value : LeadershipState) : Bool :=
  value == .activeLeader || value == .activeDegraded

inductive LeadershipReason where
  | none | processEpochClaimed | processEpochConflict | delayedLocalHeartbeat | processAuthorityLost
  | standbySynchronizing | standbyReady | fencingGrantReceived | fencingGrantRenewed
  | invalidFencingGrant | fencingLeaseExpired | reconciliationRequired | reconciliationCompleted
  | gatewayDisconnected | riskUnavailable | riskEpochChanged | journalUnavailable
  | sharedMemoryStale | recoveryStreamUnavailable | standbyUnavailable | peerClaimsLeadership
  | partialColocationOutage | remoteRegionRestricted | duplicateOrderSuppressed
  | commandIdentityConflict | operatorFenced | shutdown
  deriving DecidableEq

def LeadershipReason.code : LeadershipReason → UInt64
  | .none => 0
  | .processEpochClaimed => 1
  | .processEpochConflict => 2
  | .delayedLocalHeartbeat => 3
  | .processAuthorityLost => 4
  | .standbySynchronizing => 5
  | .standbyReady => 6
  | .fencingGrantReceived => 7
  | .fencingGrantRenewed => 8
  | .invalidFencingGrant => 9
  | .fencingLeaseExpired => 10
  | .reconciliationRequired => 11
  | .reconciliationCompleted => 12
  | .gatewayDisconnected => 13
  | .riskUnavailable => 14
  | .riskEpochChanged => 15
  | .journalUnavailable => 16
  | .sharedMemoryStale => 17
  | .recoveryStreamUnavailable => 18
  | .standbyUnavailable => 19
  | .peerClaimsLeadership => 20
  | .partialColocationOutage => 21
  | .remoteRegionRestricted => 22
  | .duplicateOrderSuppressed => 23
  | .commandIdentityConflict => 24
  | .operatorFenced => 25
  | .shutdown => 26

inductive GrantStatus where
  | accepted | renewed | invalid | stale | recoveryStreamNotReady | fenced | stopped
  deriving DecidableEq

inductive ReconciliationStatus where
  | completed | incomplete | inconsistent | invalid | fenced | stopped
  deriving DecidableEq

inductive EmissionStatus where
  | permitted | duplicateSuppressed | notLeader | staleAuthority | recoveryStreamUnavailable
  | invalid | unsafeState | stopped
  deriving DecidableEq

def EmissionStatus.code : EmissionStatus → UInt64
  | .permitted => 1
  | .duplicateSuppressed => 2
  | .notLeader => 3
  | .staleAuthority => 4
  | .recoveryStreamUnavailable => 5
  | .invalid => 6
  | .unsafeState => 7
  | .stopped => 8

structure HaConfiguration where
  sessionId : SessionId := {}
  configurationVersion : ConfigurationVersion := {}
  nodeId : UInt64 := 0
  processId : UInt64 := 0
  processEpoch : UInt64 := 0
  exchangeSessionEpoch : UInt64 := 0
  heartbeatTimeoutNs : UInt64 := 0
  peerTimeoutNs : UInt64 := 0
  locality : DeploymentLocality := .colocatedEdge
  witnessPublicKey : List UInt8 := []
  witnessKeyIdSha256 : List UInt8 := []
  witnessTrustRootSha256 : List UInt8 := []
  stableHash : UInt64 := 0
  deriving DecidableEq

def stableHaConfigurationHash (value : HaConfiguration) : UInt64 :=
  hashWords (identifierWords value.sessionId ++ identifierWords value.configurationVersion ++
    [value.nodeId, value.processId, value.processEpoch, value.exchangeSessionEpoch,
      value.heartbeatTimeoutNs, value.peerTimeoutNs, value.locality.code] ++
    byteWords value.witnessPublicKey ++ byteWords value.witnessKeyIdSha256 ++
    byteWords value.witnessTrustRootSha256)

structure FencingGrant where
  sessionId : SessionId := {}
  nodeId : UInt64 := 0
  processEpoch : UInt64 := 0
  exchangeSessionEpoch : UInt64 := 0
  fencingToken : UInt64 := 0
  previousFencingToken : UInt64 := 0
  grantSequence : UInt64 := 0
  issuedProcessMonotonicTimeNs : UInt64 := 0
  validUntilProcessMonotonicTimeNs : UInt64 := 0
  quorumConfirmed : Bool := false
  previousOwnerFenced : Bool := false
  witnessKeyIdSha256 : List UInt8 := []
  witnessTrustRootSha256 : List UInt8 := []
  witnessSignature : List UInt8 := []
  stableHash : UInt64 := 0
  deriving DecidableEq

def stableFencingGrantHash (value : FencingGrant) : UInt64 :=
  hashWords (identifierWords value.sessionId ++
    [value.nodeId, value.processEpoch, value.exchangeSessionEpoch, value.fencingToken,
      value.previousFencingToken, value.grantSequence, value.issuedProcessMonotonicTimeNs,
      value.validUntilProcessMonotonicTimeNs, flag value.quorumConfirmed,
      flag value.previousOwnerFenced] ++
    byteWords value.witnessKeyIdSha256 ++ byteWords value.witnessTrustRootSha256 ++
    byteWords value.witnessSignature)

/-- `VerifiedFencingGrant`, with the outcome of its check. -/
structure VerifiedFencingGrant where
  value : FencingGrant := {}
  valid : Bool := false
  deriving DecidableEq

structure PeerObservation where
  nodeId : UInt64 := 0
  processEpoch : UInt64 := 0
  fencingToken : UInt64 := 0
  heartbeatProcessMonotonicTimeNs : UInt64 := 0
  state : LeadershipState := .starting
  observed : Bool := false
  deriving DecidableEq

structure DependencyHealth where
  observedProcessMonotonicTimeNs : UInt64 := 0
  gatewaySessionEpoch : UInt64 := 0
  riskServiceEpoch : UInt64 := 0
  gatewayConnected : Bool := false
  riskReady : Bool := false
  journalReady : Bool := false
  sharedMemoryCurrent : Bool := false
  partialColocationOutage : Bool := false
  standbyHeartbeatExpected : Bool := true
  peer : PeerObservation := {}
  deriving DecidableEq

structure ReconciliationEvidence where
  fencingToken : UInt64 := 0
  exchangeSessionEpoch : UInt64 := 0
  riskServiceEpoch : UInt64 := 0
  sourceJournalSequence : UInt64 := 0
  sourceJournalHash : UInt64 := 0
  observedProcessMonotonicTimeNs : UInt64 := 0
  omsReconciled : Bool := false
  gatewayReconciled : Bool := false
  positionsReconciled : Bool := false
  riskReconciled : Bool := false
  journalVerified : Bool := false
  stableHash : UInt64 := 0
  deriving DecidableEq

def stableReconciliationEvidenceHash (value : ReconciliationEvidence) : UInt64 :=
  hashWords [value.fencingToken, value.exchangeSessionEpoch, value.riskServiceEpoch,
      value.sourceJournalSequence, value.sourceJournalHash, value.observedProcessMonotonicTimeNs,
      flag value.omsReconciled, flag value.gatewayReconciled, flag value.positionsReconciled,
      flag value.riskReconciled, flag value.journalVerified]

structure EmissionRequest where
  sessionId : SessionId := {}
  commandId : GlobalEventId := {}
  commandHash : UInt64 := 0
  exchangeSessionEpoch : UInt64 := 0
  fencingToken : UInt64 := 0
  processEpoch : UInt64 := 0
  sourceJournalSequence : UInt64 := 0
  sourceJournalHash : UInt64 := 0
  processMonotonicTimeNs : UInt64 := 0
  stableHash : UInt64 := 0
  deriving DecidableEq

def stableEmissionRequestHash (value : EmissionRequest) : UInt64 :=
  hashWords (identifierWords value.sessionId ++ identifierWords value.commandId ++
    [value.commandHash, value.exchangeSessionEpoch, value.fencingToken, value.processEpoch,
      value.sourceJournalSequence, value.sourceJournalHash, value.processMonotonicTimeNs])

structure EmissionDecision where
  status : EmissionStatus := .invalid
  reason : LeadershipReason := .none
  recoveryStreamSequence : UInt64 := 0
  recoveryRecordHash : UInt64 := 0
  stableHash : UInt64 := 0
  deriving DecidableEq

def stableEmissionDecisionHash (value : EmissionDecision) : UInt64 :=
  hashWords [value.status.code, value.reason.code, value.recoveryStreamSequence,
    value.recoveryRecordHash]

structure HaTransition where
  sequence : UInt64 := 0
  previousState : LeadershipState := .starting
  currentState : LeadershipState := .starting
  reason : LeadershipReason := .none
  fencingToken : UInt64 := 0
  processEpoch : UInt64 := 0
  processMonotonicTimeNs : UInt64 := 0
  previousRecordHash : UInt64 := 0
  recordHash : UInt64 := 0
  deriving DecidableEq

def stableHaTransitionHash (value : HaTransition) : UInt64 :=
  hashWords [value.sequence, value.previousState.code, value.currentState.code, value.reason.code,
    value.fencingToken, value.processEpoch, value.processMonotonicTimeNs, value.previousRecordHash]

end Aegis.HighAvailability
