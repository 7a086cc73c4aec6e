import Aegis.Execution.Types

/-!
The session of a gateway (`execution/src/session.cpp`): sequence numbers in both directions, a
sliding-window rate limiter (its ring is a list, oldest first) and the lifecycle.
-/

namespace Aegis.Execution

structure SequenceManager where
  nextOutbound : UInt64 := 1
  expectedInbound : UInt64 := 1
  lastInbound : UInt64 := 0
  deriving DecidableEq

namespace SequenceManager

variable (s : SequenceManager)

/-- The successor of a sequence number; zero when exhausted. -/
def successor (sequence : UInt64) : UInt64 :=
  if sequence = 0xFFFFFFFFFFFFFFFF then 0 else sequence + 1

/-- `claim_outbound`; nothing when the space is exhausted. -/
def claimOutbound : Option (UInt64 × SequenceManager) :=
  if s.nextOutbound = 0 then none
  else some (s.nextOutbound, { s with nextOutbound := successor s.nextOutbound })

def observeInbound (sequence : UInt64) : SequenceManager × SequenceStatus :=
  if sequence = 0 || s.expectedInbound = 0 then (s, .invalid)
  else if sequence = s.lastInbound then (s, .duplicate)
  else if sequence < s.expectedInbound then (s, .outOfOrder)
  else if sequence > s.expectedInbound then (s, .gap)
  else
    ({ s with lastInbound := sequence, expectedInbound := successor s.expectedInbound },
      if sequence = 1 then .first else .inOrder)

def reset (firstOutbound firstInbound : UInt64) : SequenceManager :=
  { nextOutbound := firstOutbound
    expectedInbound := firstInbound
    lastInbound := if firstInbound > 1 then firstInbound - 1 else 0 }

end SequenceManager

structure FixedWindowRateLimiter where
  windowNs : UInt64 := 0
  maximumEvents : UInt32 := 0
  timestamps : List UInt64 := []
  lastNowNs : UInt64 := 0
  monotonic : Bool := true
  deriving DecidableEq

namespace FixedWindowRateLimiter

variable (s : FixedWindowRateLimiter)

def valid : Bool :=
  s.windowNs != 0 && s.maximumEvents != 0 && s.maximumEvents.toNat ≤ kMaximumGatewayCommands

def expire (now : UInt64) : FixedWindowRateLimiter :=
  if now < s.lastNowNs then { s with monotonic := false }
  else
    { s with
      lastNowNs := now
      timestamps := s.timestamps.dropWhile fun oldest =>
        !(now < oldest || now - oldest < s.windowNs) }

def allow (now : UInt64) : FixedWindowRateLimiter × Bool :=
  if !s.valid || now = 0 || !s.monotonic then (s, false)
  else
    let expired := s.expire now
    if !expired.monotonic || expired.timestamps.length ≥ expired.maximumEvents.toNat then
      (expired, false)
    else ({ expired with timestamps := expired.timestamps ++ [now] }, true)

end FixedWindowRateLimiter

structure SessionLifecycle where
  sequences : SequenceManager := {}
  exchangeSessionEpoch : UInt64 := 0
  fencingToken : UInt64 := 0
  heartbeatIntervalNs : UInt64 := 0
  heartbeatTimeoutNs : UInt64 := 0
  state : SessionState := .stopped
  reason : SessionReason := .none
  lastInboundNs : UInt64 := 0
  lastOutboundNs : UInt64 := 0
  transitionCount : UInt64 := 0
  initialized : Bool := false
  deriving DecidableEq

namespace SessionLifecycle

def construct (exchangeSessionEpoch fencingToken heartbeatIntervalNs heartbeatTimeoutNs : UInt64) :
    SessionLifecycle :=
  { exchangeSessionEpoch, fencingToken, heartbeatIntervalNs, heartbeatTimeoutNs
    initialized := exchangeSessionEpoch != 0 && fencingToken != 0 && heartbeatIntervalNs != 0 &&
      heartbeatTimeoutNs > heartbeatIntervalNs }

variable (s : SessionLifecycle)

def ready : Bool :=
  s.initialized && s.state == .active

def transition (state : SessionState) (reason : SessionReason) (now : UInt64) :
    SessionLifecycle :=
  { s with
    state
    reason
    transitionCount := s.transitionCount + 1
    lastInboundNs := if state = .active && s.lastInboundNs = 0 then now else s.lastInboundNs }

def requestLogon (now : UInt64) : Option SessionLifecycle :=
  if !s.initialized || now = 0 || s.state ≠ .stopped then none
  else some ((s.transition .starting .operatorStart now).transition .loggingOn .operatorStart now)

def acceptLogon (now : UInt64) : Option SessionLifecycle :=
  if now = 0 || s.state ≠ .loggingOn then none
  else
    some ({ s with lastInboundNs := now, lastOutboundNs := now }.transition .active
      .logonAccepted now)

def requestLogoff (now : UInt64) : Option SessionLifecycle :=
  if now = 0 || (s.state ≠ .active && s.state ≠ .recovering && s.state ≠ .halted) then none
  else some (s.transition .loggingOff .operatorLogoff now)

def completeLogoff (now : UInt64) : Option SessionLifecycle :=
  if now = 0 || s.state ≠ .loggingOff then none
  else some (s.transition .stopped .logoffComplete now)

def beginRecovery (now : UInt64) (reason : SessionReason) : Option SessionLifecycle :=
  if now = 0 || (s.state ≠ .active && s.state ≠ .halted) then none
  else some (s.transition .recovering reason now)

def completeRecovery (now nextInboundSequence : UInt64) : Option SessionLifecycle :=
  if now = 0 || nextInboundSequence = 0 || s.state ≠ .recovering then none
  else
    some ({ s with
        sequences := SequenceManager.reset s.sequences.nextOutbound nextInboundSequence
        lastInboundNs := now }.transition .active .recoveryComplete now)

def halt (now : UInt64) (reason : SessionReason) : SessionLifecycle :=
  if s.state ≠ .stopped then s.transition .halted reason now else s

def shutdown (now : UInt64) : SessionLifecycle :=
  s.transition .stopped .shutdown now

/-- `claim_outbound` of the session. -/
def claimOutbound (now : UInt64) : SessionLifecycle × Option UInt64 :=
  if s.state ≠ .active || now = 0 || now < s.lastOutboundNs then (s, none)
  else
    match s.sequences.claimOutbound with
    | some (sequence, sequences) => ({ s with sequences, lastOutboundNs := now }, some sequence)
    | none => (s.halt now .inboundSequenceGap, none)

def observeInbound (now sequence : UInt64) : SessionLifecycle × SequenceStatus :=
  if (s.state ≠ .active && s.state ≠ .recovering) || now = 0 || now < s.lastInboundNs then
    (s, .invalid)
  else
    let observed := s.sequences.observeInbound sequence
    let session := { s with sequences := observed.1 }
    match observed.2 with
    | .first | .inOrder | .duplicate => ({ session with lastInboundNs := now }, observed.2)
    | .gap | .outOfOrder | .exhausted => (session.halt now .inboundSequenceGap, observed.2)
    | .invalid => (session, observed.2)

def heartbeatDue (now : UInt64) : Bool :=
  s.state == .active && now ≥ s.lastOutboundNs && now - s.lastOutboundNs ≥ s.heartbeatIntervalNs

def checkHeartbeatTimeout (now : UInt64) : SessionLifecycle × Bool :=
  if s.state ≠ .active || now < s.lastInboundNs then (s, s.state == .halted)
  else if now - s.lastInboundNs ≤ s.heartbeatTimeoutNs then (s, false)
  else (s.halt now .heartbeatTimeout, true)

end SessionLifecycle

end Aegis.Execution
