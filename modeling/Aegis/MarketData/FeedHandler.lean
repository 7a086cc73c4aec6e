import Aegis.MarketData.FeedArbitrator

/-!
The feed handler (`feed_handler.cpp`, `feed_recovery.cpp`). `Ports` has one function for each call
of an interface over a common state, so a theorem over all ports covers every behaviour of theirs.
-/

namespace Aegis.MarketData

open Aegis.Common

inductive FeedState where
  | starting | recovering | healthy | gapDetected | replayingGap | stale | invalid | stopped
  deriving DecidableEq

inductive DataQualityCode where
  | unknown | valid | degraded | stale | invalid
  deriving DecidableEq

inductive FeedHealthReason where
  | starting | awaitingFirstSequence | continuous | redundantLegGap | sequenceGap | replayInProgress
  | snapshotRecovery | staleTimeout | receiverOverrun | rawJournalBackpressure | malformedPacket
  | identityMismatch | invalidSequence | outOfOrderSequence | redundantFeedConflict
  | arbitrationOverload | normalizedPublisherBackpressure | healthPublisherBackpressure
  | recoveryUnavailable | snapshotInvalid | monotonicRegression | stopped
  deriving DecidableEq

inductive ReceiveStatus where
  | packet | empty | overrun | stopped
  deriving DecidableEq

inductive PublishStatus where
  | accepted | full | stopped
  deriving DecidableEq

inductive RecoveryRequestStatus where
  | accepted | unavailable | full | stopped
  deriving DecidableEq

inductive DecodeStatus where
  | decoded | malformed | sessionMismatch | venueMismatch | channelMismatch | invalidFeedLeg
  deriving DecidableEq

structure FeedIdentity where
  sessionId : SessionId := {}
  venueId : VenueId := {}
  channelId : ChannelId := {}
  venueNumber : UInt32 := 0
  channelNumber : UInt32 := 0
  deriving DecidableEq

def FeedIdentity.valid (identity : FeedIdentity) : Bool :=
  identity.sessionId.valid && identity.venueId.valid && identity.channelId.valid &&
    identity.venueNumber != 0 && identity.channelNumber != 0

structure FeedHandlerConfig where
  identity : FeedIdentity := {}
  initialSequence : UInt64 := 1
  maximumSequence : UInt64 := 0xFFFFFFFFFFFFFFFF
  staleAfterNs : UInt64 := 1000000000
  recoveryTimeoutNs : UInt64 := 100000000
  arbitrationWindow : Nat := 32

def FeedHandlerConfig.valid (config : FeedHandlerConfig) : Bool :=
  config.identity.valid && config.initialSequence != 0 && config.maximumSequence != 0 &&
    config.initialSequence ≤ config.maximumSequence && config.staleAfterNs != 0 &&
    config.recoveryTimeoutNs != 0 && config.arbitrationWindow != 0 &&
    config.arbitrationWindow ≤ kMaximumArbitrationWindow

structure RawPacket where
  sessionId : SessionId := {}
  feedLeg : FeedLeg := .a
  sourceSequenceHint : UInt64 := 0
  receivedProcessMonotonicTimeNs : UInt64 := 0
  bytes : List UInt8 := []

structure BookSet where
  size : Nat := 0
  allValid : Bool := true
  stableHash : UInt64 := 0

structure RecoverySnapshot where
  identity : FeedIdentity := {}
  lastSequence : UInt64 := 0
  observedProcessMonotonicTimeNs : UInt64 := 0
  books : BookSet := {}
  bookHash : UInt64 := 0

structure DataQualityState where
  identity : FeedIdentity := {}
  feedState : FeedState := .starting
  quality : DataQualityCode := .unknown
  reason : FeedHealthReason := .starting
  observedProcessMonotonicTimeNs : UInt64 := 0
  lastGoodExchangeEventTimeNs : Int64 := 0
  lastGoodNicReceiveTimeNs : Int64 := 0
  missingSequenceCount : UInt64 := 0
  malformedRecordCount : UInt64 := 0
  staleAfterNs : UInt64 := 0
  transitionCount : UInt64 := 0

/-- The counters that go into `DataQualityState`. -/
structure FeedMetrics where
  missingSequences : UInt64 := 0
  malformedPackets : UInt64 := 0
  stateTransitions : UInt64 := 0

structure NormalizedEvent where
  event : SyntheticEvent
  sourceLeg : FeedLeg := .a
  recovered : Bool := false
  dataQuality : DataQualityState := {}

/-- The calls of the handler to its interfaces. -/
structure Ports (World : Type) where
  receive : World → World × ReceiveStatus × RawPacket
  stop : World → World
  enqueue : World → RawPacket → World × PublishStatus
  decode : World → RawPacket → World × DecodeStatus × DecodedPacket
  requestRetransmission : World → FeedIdentity → SequenceRange → World × RecoveryRequestStatus
  requestSnapshot : World → FeedIdentity → World × RecoveryRequestStatus
  pollSnapshot : World → World × ReceiveStatus × RecoverySnapshot
  publishHealth : World → DataQualityState → World × PublishStatus
  publish : World → NormalizedEvent → World × PublishStatus
  publishSnapshot : World → RecoverySnapshot → World × PublishStatus

inductive Accepted where
  | event (normalized : NormalizedEvent)
  | snapshot (snapshot : RecoverySnapshot)

inductive RecoveryProgress where
  | idle | replaying | snapshotRequested | failed
  deriving DecidableEq

structure RecoveryCoordinator where
  identity : FeedIdentity
  timeoutNs : UInt64
  deadlineNs : UInt64 := 0
  progress : RecoveryProgress := .idle

namespace RecoveryCoordinator

variable {World : Type} (ports : Ports World) (recovery : RecoveryCoordinator) (world : World)

def requestSnapshot : RecoveryCoordinator × World :=
  let (world, status) := ports.requestSnapshot world recovery.identity
  ({ recovery with progress := if status = .accepted then .snapshotRequested else .failed }, world)

def beginGap (range : SequenceRange) (nowNs : UInt64) : RecoveryCoordinator × World :=
  if recovery.progress ≠ .idle ∨ recovery.timeoutNs = 0 then
    ({ recovery with progress := .failed }, world)
  else
    let (world, status) := ports.requestRetransmission world recovery.identity range
    if status ≠ .accepted then recovery.requestSnapshot ports world
    else
      ({ recovery with
          deadlineNs :=
            if nowNs > 0xFFFFFFFFFFFFFFFF - recovery.timeoutNs then 0xFFFFFFFFFFFFFFFF
            else nowNs + recovery.timeoutNs
          progress := .replaying },
        world)

def onTimer (nowNs : UInt64) : RecoveryCoordinator × World :=
  if recovery.progress = .replaying ∧ nowNs ≥ recovery.deadlineNs then
    recovery.requestSnapshot ports world
  else (recovery, world)

def complete : RecoveryCoordinator :=
  { recovery with deadlineNs := 0, progress := .idle }

end RecoveryCoordinator

structure FeedHandler (World : Type) where
  config : FeedHandlerConfig
  world : World
  accepted : List Accepted
  legATracker : SequenceTracker
  legBTracker : SequenceTracker
  arbitrator : FeedAFeedBArbitrator
  gapDetector : GapDetector
  recovery : RecoveryCoordinator
  dataQuality : DataQualityState
  metrics : FeedMetrics
  state : FeedState
  lastObservedTimeNs : UInt64
  lastValidActivityNs : UInt64
  hasObservedTime : Bool
  hasValidActivity : Bool
  started : Bool
  legADegraded : Bool
  legBDegraded : Bool

inductive PollResult where
  | processed | idle | invalid | stopped
  deriving DecidableEq

namespace FeedHandler

variable {World : Type}

def construct (config : FeedHandlerConfig) (world : World) : FeedHandler World where
  config
  world
  accepted := []
  legATracker := .construct config.initialSequence config.maximumSequence
  legBTracker := .construct config.initialSequence config.maximumSequence
  arbitrator := .construct config.initialSequence config.maximumSequence config.arbitrationWindow
  gapDetector := {}
  recovery := { identity := config.identity, timeoutNs := config.recoveryTimeoutNs }
  dataQuality := { identity := config.identity, staleAfterNs := config.staleAfterNs }
  metrics := {}
  state := .starting
  lastObservedTimeNs := 0
  lastValidActivityNs := 0
  hasObservedTime := false
  hasValidActivity := false
  started := false
  legADegraded := false
  legBDegraded := false

variable (ports : Ports World) (s : FeedHandler World)

def currentQuality : DataQualityCode :=
  match s.state with
  | .starting => .unknown
  | .healthy => if s.legADegraded || s.legBDegraded then .degraded else .valid
  | .recovering | .gapDetected | .replayingGap => .degraded
  | .stale => .stale
  | .invalid | .stopped => .invalid

def moveTo (state : FeedState) : FeedHandler World :=
  if s.state ≠ state then
    { s with
      state
      metrics := { s.metrics with stateTransitions := s.metrics.stateTransitions + 1 } }
  else s

def healthRecord (reason : FeedHealthReason) (nowNs : UInt64) : DataQualityState :=
  { s.dataQuality with
    feedState := s.state
    quality := s.currentQuality
    reason
    observedProcessMonotonicTimeNs := nowNs
    missingSequenceCount := s.metrics.missingSequences
    malformedRecordCount := s.metrics.malformedPackets
    transitionCount := s.metrics.stateTransitions }

def healthRefused : FeedHandler World :=
  let moved := s.moveTo .invalid
  { moved with
    dataQuality := { moved.dataQuality with
      feedState := .invalid
      quality := .invalid
      reason := .healthPublisherBackpressure
      transitionCount := moved.metrics.stateTransitions } }

def publishHealth (reason : FeedHealthReason) (nowNs : UInt64) : FeedHandler World × Bool :=
  let answer := ports.publishHealth s.world (s.healthRecord reason nowNs)
  let s := { s with dataQuality := s.healthRecord reason nowNs, world := answer.1 }
  if answer.2 = .accepted then (s, true) else (s.healthRefused, false)

def transition (state : FeedState) (reason : FeedHealthReason) (nowNs : UInt64) :
    FeedHandler World × Bool :=
  (s.moveTo state).publishHealth ports reason nowNs

def fail (reason : FeedHealthReason) (nowNs : UInt64) : FeedHandler World :=
  if s.state = .stopped then s else (s.transition ports .invalid reason nowNs).1

def observeTime (nowNs : UInt64) : FeedHandler World × Bool :=
  if s.hasObservedTime && nowNs < s.lastObservedTimeNs then
    (s.fail ports .monotonicRegression s.lastObservedTimeNs, false)
  else ({ s with hasObservedTime := true, lastObservedTimeNs := nowNs }, true)

def start (nowNs : UInt64) : FeedHandler World × Bool :=
  if s.started then (s, false)
  else
    match s.observeTime ports nowNs with
    | (s, false) => (s, false)
    | (s, true) =>
        let s := { s with started := true }
        if !s.config.valid || !s.arbitrator.valid || !s.legATracker.valid ||
            !s.legBTracker.valid then
          (s.fail ports .invalidSequence nowNs, false)
        else
          match s.publishHealth ports .starting nowNs with
          | (s, false) => (s, false)
          | (s, true) => s.transition ports .recovering .awaitingFirstSequence nowNs

/-- The event that `drain_ready` sends. -/
def normalized (ready : ArbitratedEvent) (nowNs : UInt64) : NormalizedEvent :=
  let quality := s.currentQuality
  { event := ready.event
    sourceLeg := ready.sourceLeg
    recovered := ready.recovered
    dataQuality := { s.dataQuality with
      feedState := s.state
      quality
      reason := if s.gapDetector.active then .replayInProgress else .continuous
      observedProcessMonotonicTimeNs := nowNs
      missingSequenceCount := s.metrics.missingSequences
      malformedRecordCount := s.metrics.malformedPackets
      lastGoodExchangeEventTimeNs :=
        if quality = .valid then ready.event.exchangeEventTimeNs
        else s.dataQuality.lastGoodExchangeEventTimeNs
      lastGoodNicReceiveTimeNs :=
        if quality = .valid then ready.event.nicReceiveTimeNs
        else s.dataQuality.lastGoodNicReceiveTimeNs } }

def publicationRefused (nowNs : UInt64) : FeedHandler World × Bool :=
  (s.fail ports .normalizedPublisherBackpressure nowNs, false)

/-- The end of a round of `drain_ready`. -/
def closeGap (sequence nowNs : UInt64) : FeedHandler World × Bool :=
  match s.gapDetector.markApplied sequence with
  | none => (s, true)
  | some gapDetector =>
      let s := { s with gapDetector }
      if gapDetector.active then (s, true)
      else { s with recovery := s.recovery.complete }.transition ports .healthy .continuous nowNs

/-- A round of `drain_ready`. -/
def publishReady (ready : ArbitratedEvent) (nowNs : UInt64) : FeedHandler World × Bool :=
  let normalized := s.normalized ready nowNs
  let answer := ports.publish s.world normalized
  let s := { s with dataQuality := normalized.dataQuality, world := answer.1 }
  if answer.2 ≠ .accepted then s.publicationRefused ports nowNs
  else
    { s with accepted := s.accepted ++ [Accepted.event normalized] }.closeGap ports
      ready.event.channelSequence nowNs

/-- The loop of `drain_ready`. -/
def drain (nowNs : UInt64) : Nat → FeedHandler World → FeedHandler World × Bool
  | 0, s => (s, true)
  | rounds + 1, s =>
      match s.arbitrator.popReady with
      | (arbitrator, none) => ({ s with arbitrator }, true)
      | (arbitrator, some ready) =>
          match { s with arbitrator }.publishReady ports ready nowNs with
          | (s, false) => (s, false)
          | (s, true) => drain nowNs rounds s

def drainReady (nowNs : UInt64) : FeedHandler World × Bool :=
  drain ports nowNs (s.arbitrator.occupancy + 1) s

/-- The end of `handle_arbitration` beyond a gap. -/
def recoverGap (nowNs : UInt64) : FeedHandler World × Bool :=
  let (recovery, world) := s.recovery.beginGap ports s.world s.gapDetector.range nowNs
  let s := { s with recovery, world }
  if recovery.progress = .replaying then s.transition ports .replayingGap .replayInProgress nowNs
  else if recovery.progress = .snapshotRequested then
    s.transition ports .recovering .snapshotRecovery nowNs
  else (s.fail ports .recoveryUnavailable nowNs, false)

/-- `handle_arbitration` on a packet beyond a gap. -/
def handleGap (expected received nowNs : UInt64) : FeedHandler World × Bool :=
  if s.gapDetector.active then (s, true)
  else
    match s.gapDetector.activate expected received s.arbitrator.tracker.maximum with
    | none => (s.fail ports .invalidSequence nowNs, false)
    | some gapDetector =>
        match { s with
            gapDetector
            metrics := { s.metrics with
              missingSequences :=
                s.metrics.missingSequences + gapDetector.missingCount } }.transition ports
            .gapDetected .sequenceGap nowNs with
        | (s, false) => (s, false)
        | (s, true) => s.recoverGap ports nowNs

/-- `handle_arbitration` on the expected packet. -/
def handleReady (nowNs : UInt64) : FeedHandler World × Bool :=
  if s.state = .recovering ∧ s.gapDetector.active = false then
    match s.transition ports .healthy .continuous nowNs with
    | (s, false) => (s, false)
    | (s, true) => s.drainReady ports nowNs
  else s.drainReady ports nowNs

def handleArbitration (packet : DecodedPacket) (nowNs : UInt64) : FeedHandler World × Bool :=
  let expected := s.arbitrator.tracker.expected
  let (arbitrator, status) := s.arbitrator.ingest packet
  let s := { s with arbitrator }
  match status with
  | .ready => s.handleReady ports nowNs
  | .bufferedGap => s.handleGap ports expected packet.event.channelSequence nowNs
  | .duplicate => (s, true)
  | .outOfOrder => (s.fail ports .outOfOrderSequence nowNs, false)
  | .invalidSequence => (s.fail ports .invalidSequence nowNs, false)
  | .conflictingCopy => (s.fail ports .redundantFeedConflict nowNs, false)
  | .windowExceeded => (s.fail ports .arbitrationOverload nowNs, false)

def setLeg (leg : FeedLeg) (tracker : SequenceTracker) (degraded : Bool) : FeedHandler World :=
  if leg = .a then { s with legATracker := tracker, legADegraded := degraded }
  else { s with legBTracker := tracker, legBDegraded := degraded }

def observeLeg (packet : DecodedPacket) (nowNs : UInt64) : FeedHandler World × Bool :=
  if packet.feedLeg = .recovery then (s, true)
  else
    let tracker := if packet.feedLeg = .a then s.legATracker else s.legBTracker
    let degraded := if packet.feedLeg = .a then s.legADegraded else s.legBDegraded
    let sequence := packet.event.channelSequence
    match tracker.classify sequence with
    | .invalid => (s.fail ports .invalidSequence nowNs, false)
    | .next =>
        let s := s.setLeg packet.feedLeg (tracker.after sequence) false
        if degraded then s.publishHealth ports .continuous nowNs else (s, true)
    | .gap =>
        (s.setLeg packet.feedLeg (tracker.resynchronizeAfter sequence) true).publishHealth ports
          .redundantLegGap nowNs
    | .duplicate | .outOfOrder => (s, true)

/-- The check of `apply_snapshot`. -/
def snapshotUsable (snapshot : RecoverySnapshot) (nowNs : UInt64) : Bool :=
  !(snapshot.identity != s.config.identity || snapshot.lastSequence == 0 ||
    snapshot.lastSequence > s.config.maximumSequence || snapshot.books.size == 0 ||
    !snapshot.books.allValid || snapshot.bookHash == 0 ||
    snapshot.books.stableHash != snapshot.bookHash ||
    snapshot.observedProcessMonotonicTimeNs > nowNs)

/-- The handler from a snapshot on. -/
def resumed (snapshot : RecoverySnapshot) (nowNs : UInt64) : FeedHandler World :=
  let expected := nextSequence snapshot.lastSequence s.config.maximumSequence
  { s with
    accepted := s.accepted ++ [Accepted.snapshot snapshot]
    arbitrator := s.arbitrator.reset expected
    legATracker := .construct expected s.config.maximumSequence
    legBTracker := .construct expected s.config.maximumSequence
    legADegraded := false
    legBDegraded := false
    gapDetector := {}
    recovery := s.recovery.complete
    hasValidActivity := true
    lastValidActivityNs := nowNs }

def applySnapshot (snapshot : RecoverySnapshot) (nowNs : UInt64) : FeedHandler World × Bool :=
  if !s.snapshotUsable snapshot nowNs then (s.fail ports .snapshotInvalid nowNs, false)
  else
    let answer := ports.publishSnapshot s.world snapshot
    let s := { s with world := answer.1 }
    if answer.2 ≠ .accepted then s.publicationRefused ports nowNs
    else (s.resumed snapshot nowNs).transition ports .healthy .continuous nowNs

/-- The end of `poll_snapshot` without a snapshot applied. -/
def snapshotFailed (nowNs : UInt64) : FeedHandler World × PollResult :=
  (if s.state ≠ .invalid then s.fail ports .recoveryUnavailable nowNs else s, .invalid)

def pollSnapshot (nowNs : UInt64) : FeedHandler World × PollResult :=
  let (world, status, snapshot) := ports.pollSnapshot s.world
  let s := { s with world }
  match status with
  | .empty => (s, .idle)
  | .packet =>
      match s.applySnapshot ports snapshot nowNs with
      | (s, true) => (s, .processed)
      | (s, false) => s.snapshotFailed ports nowNs
  | _ => s.snapshotFailed ports nowNs

def requestSnapshot (nowNs : UInt64) : FeedHandler World × Bool :=
  let (recovery, world) := s.recovery.requestSnapshot ports s.world
  let s := { s with recovery, world }
  if recovery.progress ≠ .snapshotRequested then
    (s.fail ports .recoveryUnavailable nowNs, false)
  else s.transition ports .recovering .snapshotRecovery nowNs

/-- The end of `poll_once` on a packet that was decoded. -/
def handleDecoded (decoded : DecodedPacket) (nowNs : UInt64) : FeedHandler World × PollResult :=
  let s := { s with hasValidActivity := true, lastValidActivityNs := nowNs }
  match s.observeLeg ports decoded nowNs with
  | (s, false) => (s, .invalid)
  | (s, true) =>
      match s.handleArbitration ports decoded nowNs with
      | (s, false) => (s, .invalid)
      | (s, true) => (s, .processed)

/-- The handler after a packet that the decoder refused. -/
def refuseDecoded (status : DecodeStatus) (nowNs : UInt64) : FeedHandler World :=
  if status = .sessionMismatch ∨ status = .venueMismatch ∨ status = .channelMismatch then
    s.fail ports .identityMismatch nowNs
  else
    let metrics := { s.metrics with malformedPackets := s.metrics.malformedPackets + 1 }
    { s with
      metrics
      dataQuality := { s.dataQuality with
        malformedRecordCount := metrics.malformedPackets } }.fail ports .malformedPacket nowNs

/-- `poll_once` on a packet of the receiver. -/
def handlePacket (packet : RawPacket) (nowNs : UInt64) : FeedHandler World × PollResult :=
  if packet.receivedProcessMonotonicTimeNs > nowNs then
    (s.fail ports .monotonicRegression nowNs, .invalid)
  else
    let (world, status) := ports.enqueue s.world packet
    let s := { s with world }
    if status ≠ .accepted then
      (s.fail ports .rawJournalBackpressure nowNs, .invalid)
    else
      let (world, status, decoded) := ports.decode s.world packet
      let s := { s with world }
      if status ≠ .decoded then (s.refuseDecoded ports status nowNs, .invalid)
      else s.handleDecoded ports decoded nowNs

/-- `poll_once` when no snapshot is awaited. -/
def pollPacket (nowNs : UInt64) : FeedHandler World × PollResult :=
  let (world, status, packet) := ports.receive s.world
  let s := { s with world }
  match status with
  | .empty => (s, .idle)
  | .stopped => (s.fail ports .recoveryUnavailable nowNs, .invalid)
  | .overrun => (s.fail ports .receiverOverrun nowNs, .invalid)
  | .packet => s.handlePacket ports packet nowNs

/-- `poll_once` on a running handler. -/
def pollRunning (nowNs : UInt64) : FeedHandler World × PollResult :=
  if s.recovery.progress = .snapshotRequested then s.pollSnapshot ports nowNs
  else s.pollPacket ports nowNs

def pollOnce (nowNs : UInt64) : FeedHandler World × PollResult :=
  if s.state = .stopped then (s, .stopped)
  else if !s.started || s.state = .invalid then (s, .invalid)
  else
    match s.observeTime ports nowNs with
    | (s, false) => (s, .invalid)
    | (s, true) =>
        if s.state = .stale then
          match s.requestSnapshot ports nowNs with
          | (s, false) => (s, .invalid)
          | (s, true) => s.pollRunning ports nowNs
        else s.pollRunning ports nowNs

/-- The end of `on_timer`. -/
def checkStale (nowNs : UInt64) : FeedHandler World :=
  if s.state = .healthy ∧ s.hasValidActivity = true ∧
      nowNs - s.lastValidActivityNs ≥ s.config.staleAfterNs then
    (s.transition ports .stale .staleTimeout nowNs).1
  else s

def onTimer (nowNs : UInt64) : FeedHandler World :=
  if !s.started || s.state = .invalid || s.state = .stopped then s
  else
    match s.observeTime ports nowNs with
    | (s, false) => s
    | (s, true) =>
        let before := s.recovery.progress
        let (recovery, world) := s.recovery.onTimer ports s.world nowNs
        let s := { s with recovery, world }
        if before = .replaying ∧ recovery.progress = .snapshotRequested then
          (s.transition ports .recovering .snapshotRecovery nowNs).1
        else if recovery.progress = .failed then
          s.fail ports .recoveryUnavailable nowNs
        else s.checkStale ports nowNs

/-- The first part of `stop`: a time that went back is noted. -/
def noteStop (nowNs : UInt64) : FeedHandler World :=
  if s.hasObservedTime && nowNs < s.lastObservedTimeNs then
    let transitions := s.metrics.stateTransitions + 1
    { s with
      metrics := { s.metrics with stateTransitions := transitions }
      state := .invalid
      dataQuality := { s.dataQuality with
        feedState := .invalid
        quality := .invalid
        reason := .monotonicRegression
        transitionCount := transitions } }
  else { s with lastObservedTimeNs := nowNs, hasObservedTime := true }

def stop (nowNs : UInt64) : FeedHandler World :=
  if s.state = .stopped then s
  else
    let s := s.noteStop nowNs
    let transitions := s.metrics.stateTransitions + 1
    let dataQuality := { s.dataQuality with
      feedState := .stopped
      quality := .invalid
      reason := .stopped
      observedProcessMonotonicTimeNs := nowNs
      transitionCount := transitions }
    { s with
      world := (ports.publishHealth (ports.stop s.world) dataQuality).1
      state := .stopped
      dataQuality
      metrics := { s.metrics with stateTransitions := transitions } }

inductive Call where
  | start (nowNs : UInt64)
  | pollOnce (nowNs : UInt64)
  | onTimer (nowNs : UInt64)
  | stop (nowNs : UInt64)

def next (s : FeedHandler World) : Call → FeedHandler World
  | .start nowNs => (s.start ports nowNs).1
  | .pollOnce nowNs => (s.pollOnce ports nowNs).1
  | .onTimer nowNs => s.onTimer ports nowNs
  | .stop nowNs => s.stop ports nowNs

end FeedHandler

end Aegis.MarketData
