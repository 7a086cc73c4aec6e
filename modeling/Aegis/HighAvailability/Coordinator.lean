import Aegis.EventBus.ProcessEpoch
import Aegis.HighAvailability.RecoveryStream

/-!
The leadership coordinator of one node (`high_availability/src/coordinator.cpp`). Whether
publishing a snapshot finds a free slot is an input (`published`), and a grant arrives with the
outcome of its signature check.
-/

namespace Aegis.HighAvailability

open Aegis.Common Aegis.EventBus

def validLocality : DeploymentLocality → Bool
  | .unlisted .. => false
  | _ => true

def isZeroDigest (bytes : List UInt8) : Bool :=
  bytes.all (· == 0)

structure EdgeHaCoordinator where
  configuration : HaConfiguration
  processEpochState : ProcessEpochState
  grant : FencingGrant := {}
  health : DependencyHealth := {}
  state : LeadershipState := .starting
  reason : LeadershipReason := .none
  transitions : List HaTransition := []
  transitionHash : UInt64 := 0
  lastLocalHeartbeatNs : UInt64 := 0
  reconciledRiskEpoch : UInt64 := 0
  initialized : Bool := false
  started : Bool := false
  reconciliationRequired : Bool := true
  stopped : Bool := false

namespace EdgeHaCoordinator

variable (c : EdgeHaCoordinator)

/-- `publish_snapshot`: a node that cannot publish is unsafe. -/
def publishSnapshot (published : Bool) : EdgeHaCoordinator :=
  if !published && c.initialized then
    { c with state := .unsafeState, reason := .sharedMemoryStale, reconciliationRequired := true }
  else c

def journaled (previous : LeadershipState) (now : UInt64) : EdgeHaCoordinator :=
  let record : HaTransition :=
    { sequence := UInt64.ofNat (c.transitions.length + 1)
      previousState := previous
      currentState := c.state
      reason := c.reason
      fencingToken := c.grant.fencingToken
      processEpoch := c.configuration.processEpoch
      processMonotonicTimeNs := now
      previousRecordHash := c.transitionHash }
  let recordHash := stableHaTransitionHash record
  { c with
    transitions := c.transitions ++ [{ record with recordHash }]
    transitionHash := recordHash }

def transition (next : LeadershipState) (reason : LeadershipReason) (now : UInt64)
    (published : Bool) : EdgeHaCoordinator :=
  if c.state = next ∧ c.reason = reason then c.publishSnapshot published
  else
    let moved : EdgeHaCoordinator :=
      { c with
        state := next
        reason
        reconciliationRequired :=
          c.reconciliationRequired || next == .fenced || next == .unsafeState }
    if kMaximumHaTransitions ≤ c.transitions.length then
      { moved with
        state := .unsafeState
        reason := .journalUnavailable
        reconciliationRequired := true }.publishSnapshot published
    else (moved.journaled c.state now).publishSnapshot published

/-- The checks of the constructor. -/
def validConfiguration (configuration : HaConfiguration) : Bool :=
  configuration.sessionId.valid && configuration.configurationVersion.valid &&
    configuration.nodeId != 0 && configuration.processId != 0 && configuration.processEpoch != 0 &&
    configuration.exchangeSessionEpoch != 0 && configuration.heartbeatTimeoutNs != 0 &&
    configuration.peerTimeoutNs != 0 && validLocality configuration.locality &&
    !isZeroDigest configuration.witnessPublicKey &&
    !isZeroDigest configuration.witnessKeyIdSha256 &&
    !isZeroDigest configuration.witnessTrustRootSha256 && configuration.stableHash != 0 &&
    configuration.stableHash == stableHaConfigurationHash configuration

def construct (configuration : HaConfiguration) (processEpochState : ProcessEpochState)
    (published : Bool) : EdgeHaCoordinator :=
  { configuration, processEpochState,
    initialized := validConfiguration configuration : EdgeHaCoordinator }.publishSnapshot published

def start (now : UInt64) (published : Bool) : EdgeHaCoordinator × Bool :=
  if !c.initialized || c.stopped || c.started || now = 0 then (c, false)
  else
    let (record, claim) := c.processEpochState.claim c.configuration.processId
      c.configuration.processEpoch now c.configuration.heartbeatTimeoutNs
    let claimed := { c with processEpochState := record }
    if claim ≠ .acquired ∧ claim ≠ .renewed ∧ claim ≠ .staleTakeover then
      (claimed.transition .fenced .processEpochConflict now published, false)
    else
      ({ claimed with started := true, lastLocalHeartbeatNs := now }.transition
        .standbySynchronizing .processEpochClaimed now published, true)

def operating : Bool :=
  c.initialized && c.started && !c.stopped

def heartbeat (now : UInt64) (published : Bool) : EdgeHaCoordinator × Bool :=
  if !c.operating || now = 0 || now < c.lastLocalHeartbeatNs then (c, false)
  else if c.lastLocalHeartbeatNs ≠ 0 ∧
      c.configuration.heartbeatTimeoutNs < now - c.lastLocalHeartbeatNs then
    (c.transition .fenced .delayedLocalHeartbeat now published, false)
  else
    let (record, status) := c.processEpochState.heartbeat c.configuration.processId
      c.configuration.processEpoch now
    let beaten := { c with processEpochState := record }
    if status ≠ .recorded then
      (beaten.transition .fenced .processAuthorityLost now published, false)
    else ({ beaten with lastLocalHeartbeatNs := now }.publishSnapshot published, true)

def grantIsCurrent (now : UInt64) : Bool :=
  c.grant.fencingToken != 0 && c.grant.quorumConfirmed && now != 0 &&
    decide (c.grant.issuedProcessMonotonicTimeNs ≤ now) &&
    decide (now ≤ c.grant.validUntilProcessMonotonicTimeNs)

/-- The value `valid` of `apply_fencing_grant`. -/
def validGrant (grant : FencingGrant) (now : UInt64) : Bool :=
  grant.sessionId == c.configuration.sessionId && grant.nodeId == c.configuration.nodeId &&
    grant.processEpoch == c.configuration.processEpoch &&
    grant.exchangeSessionEpoch == c.configuration.exchangeSessionEpoch &&
    grant.witnessKeyIdSha256 == c.configuration.witnessKeyIdSha256 &&
    grant.witnessTrustRootSha256 == c.configuration.witnessTrustRootSha256 &&
    grant.fencingToken != 0 && grant.grantSequence != 0 &&
    grant.issuedProcessMonotonicTimeNs != 0 &&
    decide (grant.issuedProcessMonotonicTimeNs ≤ now) &&
    decide (now ≤ grant.validUntilProcessMonotonicTimeNs) && grant.quorumConfirmed &&
    grant.stableHash != 0 && grant.stableHash == stableFencingGrantHash grant

/-- The token that the previous owner must have had. -/
def expectedPreviousToken (stream : BoundedRecoveryStream) : UInt64 :=
  if c.grant.fencingToken = 0 then stream.snapshot.authority.fencingToken
  else c.grant.fencingToken

/-- The authority of a grant of this node. -/
def authorityOf (grant : FencingGrant) : RecoveryAuthority :=
  { sessionId := c.configuration.sessionId
    exchangeSessionEpoch := c.configuration.exchangeSessionEpoch
    fencingToken := grant.fencingToken }

/-- The end of `apply_fencing_grant`. -/
def takeOver (grant : FencingGrant) (now : UInt64) (published : Bool) : EdgeHaCoordinator :=
  let granted := { c with grant, reconciliationRequired := true, reconciledRiskEpoch := 0 }
  if c.configuration.locality = .remoteRegion then
    granted.transition .riskReductionOnly .remoteRegionRestricted now published
  else granted.transition .leaderReconciling .fencingGrantReceived now published

def applyFencingGrant (verified : VerifiedFencingGrant) (now : UInt64) (published : Bool)
    (stream : BoundedRecoveryStream) : EdgeHaCoordinator × BoundedRecoveryStream × GrantStatus :=
  let grant := verified.value
  if c.stopped then (c, stream, .stopped)
  else if !c.initialized || !c.started then (c, stream, .invalid)
  else if !verified.valid then (c, stream, .invalid)
  else if c.state = .unsafeState then (c, stream, .fenced)
  else if !c.validGrant grant now then (c, stream, .invalid)
  else if c.grant.fencingToken ≠ 0 ∧ (grant.fencingToken < c.grant.fencingToken ∨
      grant.grantSequence ≤ c.grant.grantSequence) then (c, stream, .stale)
  else if grant.fencingToken = c.grant.fencingToken then
    if grant.previousFencingToken ≠ c.grant.previousFencingToken then (c, stream, .invalid)
    else
      ({ c with grant, reason := .fencingGrantRenewed }.publishSnapshot published, stream, .renewed)
  else if !grant.previousOwnerFenced ∨
      grant.previousFencingToken ≠ c.expectedPreviousToken stream then (c, stream, .fenced)
  else
    let (rotated, rotate) := stream.rotateAuthority (c.authorityOf grant)
    if rotate ≠ .rotated ∧ rotate ≠ .unchanged then (c, rotated, .recoveryStreamNotReady)
    else (c.takeOver grant now published, rotated, .accepted)

def peerClaimsLeadership (health : DependencyHealth) : Bool :=
  let peer := health.peer
  if !peer.observed || peer.nodeId = c.configuration.nodeId || !peer.state.active ||
      decide (health.observedProcessMonotonicTimeNs < peer.heartbeatProcessMonotonicTimeNs) then
    peer.observed && peer.state.active && peer.nodeId != c.configuration.nodeId
  else
    decide (health.observedProcessMonotonicTimeNs - peer.heartbeatProcessMonotonicTimeNs ≤
      c.configuration.peerTimeoutNs)

def essentialDependenciesReady : Bool :=
  c.health.gatewayConnected && c.health.riskReady && c.health.journalReady &&
    c.health.sharedMemoryCurrent && !c.health.partialColocationOutage &&
    c.health.gatewaySessionEpoch == c.configuration.exchangeSessionEpoch &&
    c.health.riskServiceEpoch != 0

def standbyAvailable (health : DependencyHealth) (recovery : RecoveryStreamSnapshot) : Bool :=
  let peer := health.peer
  if !health.standbyHeartbeatExpected then recovery.healthy && recovery.caughtUp
  else if !peer.observed || peer.nodeId = c.configuration.nodeId || peer.state ≠ .hotStandby ||
      decide (health.observedProcessMonotonicTimeNs < peer.heartbeatProcessMonotonicTimeNs) then
    false
  else
    decide (health.observedProcessMonotonicTimeNs - peer.heartbeatProcessMonotonicTimeNs ≤
      c.configuration.peerTimeoutNs) && recovery.healthy && recovery.caughtUp

/-- The test of `valid_health_time`. -/
def validHealthTime (now : UInt64) : Bool :=
  now != 0 && decide (c.health.observedProcessMonotonicTimeNs ≤ now)

def holdsProcessEpoch (now : UInt64) : Bool :=
  let process := c.processEpochState.inspect now c.configuration.heartbeatTimeoutNs
  process.health == .live && process.processId == c.configuration.processId &&
    process.epoch == c.configuration.processEpoch

def sealed (recovery : RecoveryStreamSnapshot) : Bool :=
  recovery.stableHash != 0 && recovery.stableHash == stableRecoverySnapshotHash recovery

/-- The end of `update_health`. -/
def assessLeadership (recovery : RecoveryStreamSnapshot) (now : UInt64) (published : Bool) :
    EdgeHaCoordinator :=
  let reconciling := { c with reconciliationRequired := true }
  if !recovery.healthy || !sealed recovery then
    c.transition .unsafeState .recoveryStreamUnavailable now published
  else if !c.grantIsCurrent now then c.transition .fenced .fencingLeaseExpired now published
  else if c.configuration.locality = .remoteRegion then
    c.transition .riskReductionOnly .remoteRegionRestricted now published
  else if !c.health.gatewayConnected ∨
      c.health.gatewaySessionEpoch ≠ c.configuration.exchangeSessionEpoch then
    reconciling.transition .leaderReconciling .gatewayDisconnected now published
  else if !c.health.riskReady then
    reconciling.transition .leaderReconciling .riskUnavailable now published
  else if c.reconciledRiskEpoch ≠ 0 ∧ c.health.riskServiceEpoch ≠ c.reconciledRiskEpoch then
    reconciling.transition .leaderReconciling .riskEpochChanged now published
  else if c.reconciliationRequired then
    c.transition .leaderReconciling .reconciliationRequired now published
  else if c.standbyAvailable c.health recovery then
    c.transition .activeLeader .reconciliationCompleted now published
  else c.transition .activeDegraded .standbyUnavailable now published

/-- The checks of `update_health` that do not depend on a grant. -/
def assessHealth (recovery : RecoveryStreamSnapshot) (now : UInt64) (published : Bool) :
    EdgeHaCoordinator :=
  if c.state = .unsafeState ∨ c.state = .fenced then c.publishSnapshot published
  else if !c.holdsProcessEpoch now then c.transition .fenced .processAuthorityLost now published
  else if !c.health.journalReady then c.transition .unsafeState .journalUnavailable now published
  else if !c.health.sharedMemoryCurrent then
    c.transition .fenced .sharedMemoryStale now published
  else if c.health.partialColocationOutage then
    c.transition .fenced .partialColocationOutage now published
  else if c.peerClaimsLeadership c.health then
    c.transition .fenced .peerClaimsLeadership now published
  else if c.grant.fencingToken = 0 then
    if recovery.healthy && recovery.caughtUp then
      c.transition .hotStandby .standbyReady now published
    else c.transition .standbySynchronizing .standbySynchronizing now published
  else c.assessLeadership recovery now published

def updateHealth (health : DependencyHealth) (recovery : RecoveryStreamSnapshot)
    (published : Bool) : EdgeHaCoordinator :=
  let now := health.observedProcessMonotonicTimeNs
  if !c.operating then c
  else if !c.validHealthTime now then
    c.transition .unsafeState .delayedLocalHeartbeat
      (if now = 0 then c.lastLocalHeartbeatNs else now) published
  else { c with health }.assessHealth recovery now published

def complete (evidence : ReconciliationEvidence) : Bool :=
  evidence.omsReconciled && evidence.gatewayReconciled && evidence.positionsReconciled &&
    evidence.riskReconciled && evidence.journalVerified

/-- The value `consistent` of `complete_reconciliation`. -/
def consistent (evidence : ReconciliationEvidence) (recovery : RecoveryStreamSnapshot) : Bool :=
  evidence.fencingToken == c.grant.fencingToken &&
    evidence.exchangeSessionEpoch == c.configuration.exchangeSessionEpoch &&
    evidence.riskServiceEpoch != 0 && c.essentialDependenciesReady &&
    recovery.healthy && recovery.caughtUp && sealed recovery &&
    recovery.authority.sessionId == c.configuration.sessionId &&
    recovery.authority.exchangeSessionEpoch == c.configuration.exchangeSessionEpoch &&
    recovery.authority.fencingToken == c.grant.fencingToken &&
    evidence.sourceJournalSequence == recovery.latestSourceJournalSequence &&
    evidence.sourceJournalHash == recovery.latestSourceJournalHash &&
    !c.peerClaimsLeadership c.health

def completeReconciliation (evidence : ReconciliationEvidence) (recovery : RecoveryStreamSnapshot)
    (published : Bool) : EdgeHaCoordinator × ReconciliationStatus :=
  let now := evidence.observedProcessMonotonicTimeNs
  let reconciled :=
    { c with reconciledRiskEpoch := evidence.riskServiceEpoch, reconciliationRequired := false }
  if c.stopped then (c, .stopped)
  else if !c.initialized || !c.started || evidence.stableHash == 0 ||
      evidence.stableHash != stableReconciliationEvidenceHash evidence || now == 0 then
    (c, .invalid)
  else if c.state ≠ .leaderReconciling ∨ !c.grantIsCurrent now then (c, .fenced)
  else if !complete evidence then (c, .incomplete)
  else if !c.consistent evidence recovery then (c, .inconsistent)
  else if c.standbyAvailable c.health recovery then
    (reconciled.transition .activeLeader .reconciliationCompleted now published, .completed)
  else (reconciled.transition .activeDegraded .standbyUnavailable now published, .completed)

/-- The payload that `authorize_emission` appends for a request. -/
def emissionPayload (request : EmissionRequest) : RecoveryPayload :=
  let payload : RecoveryPayload :=
    { kind := .orderEmission
      commandId := request.commandId
      commandHash := request.commandHash
      sourceJournalSequence := request.sourceJournalSequence
      sourceJournalHash := request.sourceJournalHash
      processMonotonicTimeNs := request.processMonotonicTimeNs
      authority :=
        { sessionId := request.sessionId
          exchangeSessionEpoch := request.exchangeSessionEpoch
          fencingToken := request.fencingToken } }
  { payload with stableHash := stableRecoveryPayloadHash payload }

/-- The last branch of `authorize_emission`. -/
def emit (request : EmissionRequest) (published : Bool) (stream : BoundedRecoveryStream) :
    EdgeHaCoordinator × BoundedRecoveryStream × EmissionDecision :=
  let (appended, result) := stream.append (emissionPayload request)
  let decision : EmissionDecision :=
    { recoveryStreamSequence := result.streamSequence, recoveryRecordHash := result.recordHash }
  match result.status with
  | .accepted => (c.publishSnapshot published, appended, { decision with status := .permitted })
  | .duplicate =>
      (c, appended,
        { decision with status := .duplicateSuppressed, reason := .duplicateOrderSuppressed })
  | status =>
      let reason : LeadershipReason :=
        if status = .identityConflict then .commandIdentityConflict else .recoveryStreamUnavailable
      (c.transition .unsafeState reason request.processMonotonicTimeNs published, appended,
        { decision with
          status := if status = .fenced then .staleAuthority else .recoveryStreamUnavailable
          reason })

def validRequest (request : EmissionRequest) : Bool :=
  request.stableHash != 0 && request.stableHash == stableEmissionRequestHash request &&
    request.commandId.valid && request.commandHash != 0 && request.sourceJournalSequence != 0 &&
    request.sourceJournalHash != 0 && request.processMonotonicTimeNs != 0

def currentRequest (request : EmissionRequest) : Bool :=
  c.grantIsCurrent request.processMonotonicTimeNs &&
    request.sessionId == c.configuration.sessionId &&
    request.exchangeSessionEpoch == c.configuration.exchangeSessionEpoch &&
    request.fencingToken == c.grant.fencingToken &&
    request.processEpoch == c.configuration.processEpoch

/-- The decision of `authorize_emission`, without its hash. -/
def decideEmission (request : EmissionRequest) (published : Bool) (stream : BoundedRecoveryStream) :
    EdgeHaCoordinator × BoundedRecoveryStream × EmissionDecision :=
  if c.stopped then (c, stream, { status := .stopped })
  else if !c.initialized || !c.started || !validRequest request then
    (c, stream, { status := .invalid })
  else if !c.state.active || c.reconciliationRequired ||
      c.configuration.locality ≠ .colocatedEdge then
    (c, stream, { status := .notLeader, reason := c.reason })
  else if !c.currentRequest request then
    (c, stream, { status := .staleAuthority, reason := .processAuthorityLost })
  else if !c.essentialDependenciesReady then
    (c, stream, { status := .unsafeState, reason := c.reason })
  else c.emit request published stream

def authorizeEmission (request : EmissionRequest) (published : Bool)
    (stream : BoundedRecoveryStream) :
    EdgeHaCoordinator × BoundedRecoveryStream × EmissionDecision :=
  let (next, appended, decision) := c.decideEmission request published stream
  (next, appended, { decision with stableHash := stableEmissionDecisionHash decision })

def operatorFence (now : UInt64) (published : Bool) : EdgeHaCoordinator :=
  if c.stopped then c
  else
    { c with reconciliationRequired := true }.transition .fenced .operatorFenced now published

def shutdown (now : UInt64) (published : Bool) : EdgeHaCoordinator :=
  if c.stopped then c
  else
    { c with
      processEpochState := (c.processEpochState.markStopped c.configuration.processId
        c.configuration.processEpoch).1
      reconciliationRequired := true
      stopped := true }.transition .stopped .shutdown now published

/-- A public call, or a foreign write to the epoch record. -/
inductive Call where
  | start (now : UInt64)
  | heartbeat (now : UInt64)
  | applyFencingGrant (grant : VerifiedFencingGrant) (now : UInt64)
  | updateHealth (health : DependencyHealth) (recovery : RecoveryStreamSnapshot)
  | completeReconciliation (evidence : ReconciliationEvidence) (recovery : RecoveryStreamSnapshot)
  | authorizeEmission (request : EmissionRequest)
  | operatorFence (now : UInt64)
  | shutdown (now : UInt64)
  | epochWritten (record : ProcessEpochState)

inductive Response where
  | none
  | flag (value : Bool)
  | grant (status : GrantStatus)
  | reconciliation (status : ReconciliationStatus)
  | emission (decision : EmissionDecision)
  deriving DecidableEq

def Response.permits : Response → Bool
  | .emission decision => decision.status == .permitted
  | _ => false

def perform (stream : BoundedRecoveryStream) (published : Bool) :
    Call → EdgeHaCoordinator × BoundedRecoveryStream × Response
  | .start now =>
      let (next, answer) := c.start now published
      (next, stream, .flag answer)
  | .heartbeat now =>
      let (next, answer) := c.heartbeat now published
      (next, stream, .flag answer)
  | .applyFencingGrant grant now =>
      let (next, rotated, status) := c.applyFencingGrant grant now published stream
      (next, rotated, .grant status)
  | .updateHealth health recovery => (c.updateHealth health recovery published, stream, .none)
  | .completeReconciliation evidence recovery =>
      let (next, status) := c.completeReconciliation evidence recovery published
      (next, stream, .reconciliation status)
  | .authorizeEmission request =>
      let (next, appended, decision) := c.authorizeEmission request published stream
      (next, appended, .emission decision)
  | .operatorFence now => (c.operatorFence now published, stream, .none)
  | .shutdown now => (c.shutdown now published, stream, .none)
  | .epochWritten record => ({ c with processEpochState := record }, stream, .none)

/-- A call with its stream and the outcome of its publication. -/
structure Exchange where
  call : Call
  stream : BoundedRecoveryStream
  published : Bool

def next (c : EdgeHaCoordinator) (exchange : Exchange) : EdgeHaCoordinator :=
  (c.perform exchange.stream exchange.published exchange.call).1

def answer (c : EdgeHaCoordinator) (exchange : Exchange) : Response :=
  (c.perform exchange.stream exchange.published exchange.call).2.2

end EdgeHaCoordinator

end Aegis.HighAvailability
