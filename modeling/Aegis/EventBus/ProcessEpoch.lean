import Mathlib.Data.UInt

/-!
The claim on a process identity (`event_bus/src/process_epoch.cpp`), a record in shared memory.
Every function is one atomic step.
-/

namespace Aegis.EventBus

inductive EpochClaimStatus where
  | acquired | renewed | staleTakeover | splitBrain | staleEpoch | corrupt | invalid
  deriving DecidableEq

inductive EpochHeartbeatStatus where
  | recorded | lostAuthority | timeRegression | corrupt | invalid
  deriving DecidableEq

inductive EpochHealth where
  | empty | live | stale | corrupt
  deriving DecidableEq

structure ProcessEpochState where
  processId : UInt64 := 0
  epoch : UInt64 := 0
  heartbeatMonotonicTimeNs : UInt64 := 0
  identityGuard : UInt64 := 0
  deriving DecidableEq

structure ProcessEpochSnapshot where
  processId : UInt64 := 0
  epoch : UInt64 := 0
  heartbeatMonotonicTimeNs : UInt64 := 0
  health : EpochHealth := .empty

def stale (heartbeat now timeout : UInt64) : Bool :=
  heartbeat == 0 || now < heartbeat || timeout < now - heartbeat

def guard (processId epoch : UInt64) : UInt64 := Id.run do
  let mut value := processId ^^^ (epoch <<< 23 ||| epoch >>> 41) ^^^ 0xA3E619D470B25C8F
  value := value ^^^ (value >>> 30)
  value := value * 0xBF58476D1CE4E5B9
  value := value ^^^ (value >>> 27)
  value := value * 0x94D049BB133111EB
  value := value ^^^ (value >>> 31)
  return if value = 0 then 1 else value

namespace ProcessEpochState

variable (s : ProcessEpochState) (processId epoch now timeout : UInt64)

def owned : ProcessEpochState :=
  { processId, epoch, heartbeatMonotonicTimeNs := now, identityGuard := guard processId epoch }

def belongs : Bool :=
  s.epoch == epoch && s.processId == processId

def heartbeat : ProcessEpochState × EpochHeartbeatStatus :=
  if processId = 0 ∨ epoch = 0 ∨ now = 0 then (s, .invalid)
  else if !s.belongs processId epoch then (s, .lostAuthority)
  else if s.identityGuard ≠ guard processId epoch then (s, .corrupt)
  else if now < s.heartbeatMonotonicTimeNs then (s, .timeRegression)
  else ({ s with heartbeatMonotonicTimeNs := now }, .recorded)

def claim : ProcessEpochState × EpochClaimStatus :=
  if processId = 0 ∨ epoch = 0 ∨ now = 0 ∨ timeout = 0 then (s, .invalid)
  else if s.epoch = 0 then (owned processId epoch now, .acquired)
  else if s.processId = 0 ∨ s.identityGuard ≠ guard s.processId s.epoch then (s, .corrupt)
  else if s.epoch = epoch then
    if s.processId ≠ processId then (s, .splitBrain)
    else
      let (next, status) := s.heartbeat processId epoch now
      (next, if status = .recorded then .renewed else .corrupt)
  else if !stale s.heartbeatMonotonicTimeNs now timeout then (s, .splitBrain)
  else if epoch ≤ s.epoch then (s, .staleEpoch)
  else (owned processId epoch now, .staleTakeover)

def markStopped : ProcessEpochState × EpochHeartbeatStatus :=
  if !s.belongs processId epoch then (s, .lostAuthority)
  else if s.identityGuard ≠ guard processId epoch then (s, .corrupt)
  else ({ s with heartbeatMonotonicTimeNs := 0 }, .recorded)

def inspect : ProcessEpochSnapshot :=
  if s = {} then {}
  else
    { processId := s.processId
      epoch := s.epoch
      heartbeatMonotonicTimeNs := s.heartbeatMonotonicTimeNs
      health :=
        if s.epoch = 0 ∨ s.processId = 0 ∨ s.identityGuard ≠ guard s.processId s.epoch ∨
            now = 0 ∨ timeout = 0 then .corrupt
        else if stale s.heartbeatMonotonicTimeNs now timeout then .stale
        else .live }

end ProcessEpochState

end Aegis.EventBus
