import Aegis.Foundation.Runs
import Aegis.HighAvailability.Coordinator

/-!
What one call can do to a coordinator. `Step` lists the outcomes of every call with their guards;
every property of whole runs is read off it.
-/

namespace Aegis.HighAvailability

open Aegis.Common Aegis.EventBus Aegis.Foundation

namespace EdgeHaCoordinator

variable {c c' d : EdgeHaCoordinator}

def Closed (state : LeadershipState) : Prop :=
  state = .fenced ∨ state = .unsafeState

instance (state : LeadershipState) : Decidable (Closed state) :=
  inferInstanceAs (Decidable (_ ∨ _))

/-- A node without authority has to reconcile before it can lead. -/
def Latched (c : EdgeHaCoordinator) : Prop :=
  Closed c.state → c.reconciliationRequired = true

/-- `c'` is `d` after a move to `next` or the unsafe state. -/
structure Arrives (d : EdgeHaCoordinator) (next : LeadershipState) (c' : EdgeHaCoordinator) :
    Prop where
  configuration : c'.configuration = d.configuration
  grant : c'.grant = d.grant
  health : c'.health = d.health
  lastLocalHeartbeatNs : c'.lastLocalHeartbeatNs = d.lastLocalHeartbeatNs
  reconciledRiskEpoch : c'.reconciledRiskEpoch = d.reconciledRiskEpoch
  initialized : c'.initialized = d.initialized
  started : c'.started = d.started
  stopped : c'.stopped = d.stopped
  outcome : (c'.state = next ∧
      c'.reconciliationRequired = (d.reconciliationRequired || decide (Closed next))) ∨
    (c'.state = .unsafeState ∧ c'.reconciliationRequired = true)

variable {next : LeadershipState} {call : Call} {response : Response}

section

variable (arrives : Arrives d next c')
include arrives

theorem Arrives.latched : Latched c' := by
  intro closed
  rcases arrives.outcome with ⟨there, required⟩ | ⟨-, required⟩
  · rw [there] at closed
    simp [required, closed]
  · exact required

theorem Arrives.required (required : d.reconciliationRequired) : c'.reconciliationRequired := by
  rcases arrives.outcome with ⟨-, eq⟩ | ⟨-, eq⟩
  · simp [eq, required]
  · exact eq

theorem Arrives.required_of_closed (closed : Closed next) : c'.reconciliationRequired := by
  rcases arrives.outcome with ⟨-, eq⟩ | ⟨-, eq⟩
  · simp [eq, closed]
  · exact eq

theorem Arrives.closed (closed : Closed next) : Closed c'.state := by
  rcases arrives.outcome with ⟨there, -⟩ | ⟨there, -⟩
  · rwa [there]
  · exact .inr there

theorem Arrives.operating : c'.operating = d.operating := by
  simp only [EdgeHaCoordinator.operating, arrives.initialized, arrives.started, arrives.stopped]

theorem Arrives.of_not_required (clear : c'.reconciliationRequired = false) :
    c'.state = next ∧ d.reconciliationRequired = false ∧ ¬ Closed next := by
  rcases arrives.outcome with ⟨there, eq⟩ | ⟨-, eq⟩
  · rw [clear] at eq
    simpa [there] using eq.symm
  · simp [eq] at clear

end

theorem publishSnapshot_arrives (latched : Latched d) (published : Bool) :
    Arrives d d.state (d.publishSnapshot published) := by
  unfold publishSnapshot
  split
  · exact ⟨rfl, rfl, rfl, rfl, rfl, rfl, rfl, rfl, .inr ⟨rfl, rfl⟩⟩
  refine ⟨rfl, rfl, rfl, rfl, rfl, rfl, rfl, rfl, .inl ⟨rfl, ?_⟩⟩
  by_cases closed : Closed d.state
  · simp [latched closed]
  · simp [closed]

theorem Arrives.publishSnapshot (arrives : Arrives d next c')
    (published : Bool) : Arrives d next (c'.publishSnapshot published) := by
  unfold EdgeHaCoordinator.publishSnapshot
  split
  · exact { arrives with outcome := .inr ⟨rfl, rfl⟩ }
  · exact arrives

theorem transition_arrives (latched : Latched d) (next : LeadershipState)
    (reason : LeadershipReason) (now : UInt64) (published : Bool) :
    Arrives d next (d.transition next reason now published) := by
  unfold transition
  split
  · next same =>
    rw [← same.1]
    exact publishSnapshot_arrives latched published
  split
  · refine Arrives.publishSnapshot ?_ published
    exact ⟨rfl, rfl, rfl, rfl, rfl, rfl, rfl, rfl, .inr ⟨rfl, rfl⟩⟩
  · refine Arrives.publishSnapshot ?_ published
    refine ⟨rfl, rfl, rfl, rfl, rfl, rfl, rfl, rfl, .inl ⟨rfl, ?_⟩⟩
    simp only [journaled, Bool.or_assoc, beq_eq_decide]
    exact congrArg _ (Bool.decide_or _ _).symm

/-- The node's own grant covers the time, and all was last seen ready. -/
structure MayEmit (c : EdgeHaCoordinator) (request : EmissionRequest) : Prop where
  operating : c.operating = true
  active : c.state.active = true
  reconciled : c.reconciliationRequired = false
  colocated : c.configuration.locality = .colocatedEdge
  current : c.currentRequest request = true
  ready : c.essentialDependenciesReady = true

/-- A late heartbeat, or one with another process epoch. -/
def heartbeatFences (c : EdgeHaCoordinator) (now : UInt64) : Prop :=
  c.operating = true ∧ now ≠ 0 ∧ c.lastLocalHeartbeatNs ≤ now ∧ ((c.lastLocalHeartbeatNs ≠ 0 ∧
        c.configuration.heartbeatTimeoutNs < now - c.lastLocalHeartbeatNs) ∨
      (c.processEpochState.heartbeat c.configuration.processId c.configuration.processEpoch
        now).2 ≠ .recorded)

instance (c : EdgeHaCoordinator) (now : UInt64) : Decidable (c.heartbeatFences now) :=
  inferInstanceAs (Decidable (_ ∧ _))

def Response.inert : Response → Bool
  | .none => true
  | .flag value => !value
  | .grant status => status != .accepted && status != .renewed
  | .reconciliation status => status != .completed
  | .emission decision => decision.status != .permitted

/-- When a call may leave a node as it is: a health report only if the node does not operate, and a
heartbeat of a node that operates only if it is not later than the last one. -/
def Ignores (c : EdgeHaCoordinator) : Call → Prop
  | .updateHealth _ _ => c.operating = false
  | .heartbeat now => c.operating = true → now ≤ c.lastLocalHeartbeatNs
  | _ => True

/-- What a call can do to a node: the response and the next state. -/
inductive Step (c : EdgeHaCoordinator) : Call → Response → EdgeHaCoordinator → Prop
  | unchanged {call : Call} {response : Response} (inert : response.inert = true)
      (ignores : c.Ignores call) : Step c call response c
  | epochWritten {record : ProcessEpochState} :
      Step c (.epochWritten record) .none { c with processEpochState := record }
  | conflict {c' : EdgeHaCoordinator} {now : UInt64} {record : ProcessEpochState}
      (running : c.stopped = false) (idle : c.started = false)
      (arrives : Arrives { c with processEpochState := record } .fenced c') :
      Step c (.start now) (.flag false) c'
  | started {c' : EdgeHaCoordinator} {now : UInt64} {record : ProcessEpochState}
      (running : c.stopped = false) (idle : c.started = false)
      (arrives : Arrives { c with
        processEpochState := record, started := true, lastLocalHeartbeatNs := now }
        .standbySynchronizing c') :
      Step c (.start now) (.flag true) c'
  | late {c' : EdgeHaCoordinator} {now : UInt64} {record : ProcessEpochState}
      (fences : c.heartbeatFences now)
      (arrives : Arrives { c with processEpochState := record } .fenced c') :
      Step c (.heartbeat now) (.flag false) c'
  | beat {c' : EdgeHaCoordinator} {now : UInt64} {record : ProcessEpochState}
      (operating : c.operating = true) (ordered : c.lastLocalHeartbeatNs ≤ now)
      (arrives : Arrives { c with processEpochState := record, lastLocalHeartbeatNs := now }
        c.state c') :
      Step c (.heartbeat now) (.flag true) c'
  | renewed {c' : EdgeHaCoordinator} {grant : VerifiedFencingGrant} {now : UInt64}
      {reason : LeadershipReason}
      (operating : c.operating = true) (safe : c.state ≠ .unsafeState)
      (arrives : Arrives { c with grant := grant.value, reason } c.state c') :
      Step c (.applyFencingGrant grant now) (.grant .renewed) c'
  | tookOver {c' : EdgeHaCoordinator} {grant : VerifiedFencingGrant} {now : UInt64}
      {next : LeadershipState}
      (operating : c.operating = true) (safe : c.state ≠ .unsafeState)
      (inactive : next.active = false)
      (arrives : Arrives { c with
        grant := grant.value, reconciliationRequired := true, reconciledRiskEpoch := 0 } next c') :
      Step c (.applyFencingGrant grant now) (.grant .accepted) c'
  | healthTime {c' : EdgeHaCoordinator} {health : DependencyHealth}
      {recovery : RecoveryStreamSnapshot}
      (operating : c.operating = true)
      (invalid : c.validHealthTime health.observedProcessMonotonicTimeNs = false)
      (arrives : Arrives c .unsafeState c') :
      Step c (.updateHealth health recovery) .none c'
  | healthClosed {c' : EdgeHaCoordinator} {health : DependencyHealth}
      {recovery : RecoveryStreamSnapshot}
      (operating : c.operating = true) (closed : Closed c.state)
      (valid : c.validHealthTime health.observedProcessMonotonicTimeNs = true)
      (arrives : Arrives { c with health } c.state c') :
      Step c (.updateHealth health recovery) .none c'
  | healthMoved {c' : EdgeHaCoordinator} {health : DependencyHealth}
      {recovery : RecoveryStreamSnapshot}
      {next : LeadershipState} (operating : c.operating = true) (opened : ¬ Closed c.state)
      (valid : c.validHealthTime health.observedProcessMonotonicTimeNs = true)
      (inactive : next.active = false)
      (trusted : Closed next ∨ c.grant.fencingToken = 0 ∨ c.configuration.locality = .remoteRegion)
      (arrives : Arrives { c with health } next c') :
      Step c (.updateHealth health recovery) .none c'
  | healthDoubted {c' : EdgeHaCoordinator} {health : DependencyHealth}
      {recovery : RecoveryStreamSnapshot}
      (operating : c.operating = true) (opened : ¬ Closed c.state)
      (valid : c.validHealthTime health.observedProcessMonotonicTimeNs = true)
      (arrives : Arrives { c with health, reconciliationRequired := true } .leaderReconciling c') :
      Step c (.updateHealth health recovery) .none c'
  | healthConfirmed {c' : EdgeHaCoordinator} {health : DependencyHealth}
      {recovery : RecoveryStreamSnapshot}
      {next : LeadershipState} (operating : c.operating = true) (opened : ¬ Closed c.state)
      (valid : c.validHealthTime health.observedProcessMonotonicTimeNs = true)
      (connected : health.gatewayConnected = true) (ready : health.riskReady = true)
      (epoch : c.reconciledRiskEpoch = 0 ∨ health.riskServiceEpoch = c.reconciledRiskEpoch)
      (reconciled : c.reconciliationRequired = false)
      (arrives : Arrives { c with health } next c') :
      Step c (.updateHealth health recovery) .none c'
  | completed {c' : EdgeHaCoordinator} {evidence : ReconciliationEvidence}
      {recovery : RecoveryStreamSnapshot}
      {next : LeadershipState} (operating : c.operating = true)
      (reconciling : c.state = .leaderReconciling)
      (current : c.grantIsCurrent evidence.observedProcessMonotonicTimeNs = true)
      (consistent : c.consistent evidence recovery = true)
      (arrives : Arrives { c with
        reconciledRiskEpoch := evidence.riskServiceEpoch, reconciliationRequired := false }
        next c') :
      Step c (.completeReconciliation evidence recovery) (.reconciliation .completed) c'
  | permitted {c' : EdgeHaCoordinator} {request : EmissionRequest} {decision : EmissionDecision}
      (may : c.MayEmit request) (status : decision.status = .permitted)
      (arrives : Arrives c c.state c') :
      Step c (.authorizeEmission request) (.emission decision) c'
  | emissionFailed {c' : EdgeHaCoordinator} {request : EmissionRequest}
      {decision : EmissionDecision}
      (may : c.MayEmit request) (status : decision.status ≠ .permitted)
      (arrives : Arrives c .unsafeState c') :
      Step c (.authorizeEmission request) (.emission decision) c'
  | fenced {c' : EdgeHaCoordinator} {now : UInt64} (running : c.stopped = false)
      (arrives : Arrives { c with reconciliationRequired := true } .fenced c') :
      Step c (.operatorFence now) .none c'
  | stopped {c' : EdgeHaCoordinator} {now : UInt64} {record : ProcessEpochState}
      (running : c.stopped = false)
      (arrives : Arrives { c with
        processEpochState := record, reconciliationRequired := true, stopped := true }
        .stopped c') :
      Step c (.shutdown now) .none c'

section Calls

variable (latched : Latched c)
include latched

theorem start_step (now : UInt64) (published : Bool) :
    Step c (.start now) (.flag (c.start now published).2) (c.start now published).1 := by
  unfold start
  split
  · exact .unchanged rfl trivial
  next idle =>
  simp only [Bool.or_eq_true, not_or, Bool.not_eq_true] at idle
  dsimp only
  split
  · exact .conflict idle.1.1.2 idle.1.2 (transition_arrives (by exact latched) ..)
  · exact .started idle.1.1.2 idle.1.2 (transition_arrives (by exact latched) ..)

theorem heartbeat_step (now : UInt64) (published : Bool) :
    Step c (.heartbeat now) (.flag (c.heartbeat now published).2)
      (c.heartbeat now published).1 := by
  unfold heartbeat
  split
  · next refused =>
    refine .unchanged rfl fun operating => ?_
    simp only [operating, Bool.not_true, Bool.false_or, Bool.or_eq_true,
      decide_eq_true_eq] at refused
    rcases refused with rfl | earlier
    · exact UInt64.zero_le
    · exact UInt64.le_of_lt earlier
  next usable =>
  simp only [Bool.or_eq_true, not_or, Bool.not_eq_true', Bool.not_eq_false,
    decide_eq_true_eq, UInt64.not_lt] at usable
  obtain ⟨⟨operating, positive⟩, ordered⟩ := usable
  split
  · next overdue =>
    exact .late ⟨operating, positive, ordered, .inl overdue⟩
      (transition_arrives (by exact latched) ..)
  dsimp only
  split
  · next lost =>
    exact .late ⟨operating, positive, ordered, .inr lost⟩ (transition_arrives (by exact latched) ..)
  · exact .beat operating ordered (publishSnapshot_arrives (by exact latched) published)

omit latched in
theorem takeOver_arrives (grant : FencingGrant) (now : UInt64) (published : Bool) :
    ∃ next : LeadershipState, next.active = false ∧
      Arrives { c with grant, reconciliationRequired := true, reconciledRiskEpoch := 0 } next
        (c.takeOver grant now published) := by
  unfold takeOver
  split
  · exact ⟨.riskReductionOnly, rfl, transition_arrives (fun _ => rfl) ..⟩
  · exact ⟨.leaderReconciling, rfl, transition_arrives (fun _ => rfl) ..⟩

theorem applyFencingGrant_step (grant : VerifiedFencingGrant) (now : UInt64) (published : Bool)
    (stream : BoundedRecoveryStream) : Step c (.applyFencingGrant grant now)
      (.grant (c.applyFencingGrant grant now published stream).2.2)
      (c.applyFencingGrant grant now published stream).1 := by
  have refused : ∀ {status : GrantStatus}, status ≠ .accepted → status ≠ .renewed →
      Step c (.applyFencingGrant grant now) (.grant status) c := fun {status} accepted renewed =>
    .unchanged (by simp [Response.inert, accepted, renewed]) trivial
  unfold applyFencingGrant
  dsimp only
  split
  · exact refused nofun nofun
  next running =>
  split
  · exact refused nofun nofun
  next started =>
  have operating : c.operating := by
    simp only [Bool.or_eq_true, not_or, Bool.not_eq_true', Bool.not_eq_false] at started
    simp [operating, started, running]
  split
  · exact refused nofun nofun
  split
  · exact refused nofun nofun
  next safe =>
  split
  · exact refused nofun nofun
  split
  · exact refused nofun nofun
  split
  · split
    · exact refused nofun nofun
    · exact .renewed operating safe (publishSnapshot_arrives (by exact latched) published)
  split
  · exact refused nofun nofun
  split
  · exact refused nofun nofun
  · obtain ⟨next, inactive, arrives⟩ := takeOver_arrives grant.value now published
    exact .tookOver operating safe inactive arrives

/-- What the end of `update_health` makes of a node with a grant. -/
inductive Assessed (c : EdgeHaCoordinator) : EdgeHaCoordinator → Prop
  | moved {c' : EdgeHaCoordinator} {next : LeadershipState} (inactive : next.active = false)
      (trusted : Closed next ∨ c.grant.fencingToken = 0 ∨ c.configuration.locality = .remoteRegion)
      (arrives : Arrives c next c') : Assessed c c'
  | doubted {c' : EdgeHaCoordinator}
      (arrives : Arrives { c with reconciliationRequired := true } .leaderReconciling c') :
      Assessed c c'
  | confirmed {c' : EdgeHaCoordinator} {next : LeadershipState}
      (connected : c.health.gatewayConnected = true) (ready : c.health.riskReady = true)
      (epoch : c.reconciledRiskEpoch = 0 ∨ c.health.riskServiceEpoch = c.reconciledRiskEpoch)
      (reconciled : c.reconciliationRequired = false) (arrives : Arrives c next c') : Assessed c c'

theorem assessLeadership_assessed (recovery : RecoveryStreamSnapshot) (now : UInt64)
    (published : Bool) : Assessed c (c.assessLeadership recovery now published) := by
  unfold assessLeadership
  split
  · exact .moved rfl (.inl (.inr rfl)) (transition_arrives latched ..)
  split
  · exact .moved rfl (.inl (.inl rfl)) (transition_arrives latched ..)
  split
  · next remote => exact .moved rfl (.inr (.inr remote)) (transition_arrives latched ..)
  split
  · exact .doubted (transition_arrives (fun _ => rfl) ..)
  next gateway =>
  split
  · exact .doubted (transition_arrives (fun _ => rfl) ..)
  next ready =>
  split
  · exact .doubted (transition_arrives (fun _ => rfl) ..)
  next epoch =>
  split
  · next required =>
    have same : { c with reconciliationRequired := true } = c := by rw [← required]
    exact .doubted (same ▸ transition_arrives latched ..)
  next reconciled =>
  have confirmed {next : LeadershipState} {c' : EdgeHaCoordinator} (arrives : Arrives c next c') :
      Assessed c c' := by
    refine .confirmed ?_ (by simpa using ready) ?_ (by simpa using reconciled) arrives
    · simpa using (not_or.mp gateway).1
    · by_contra stale
      exact epoch (not_or.mp stale)
  split
  · exact confirmed (transition_arrives latched ..)
  · exact confirmed (transition_arrives latched ..)

theorem assessHealth_assessed (opened : ¬ Closed c.state) (recovery : RecoveryStreamSnapshot)
    (now : UInt64) (published : Bool) : Assessed c (c.assessHealth recovery now published) := by
  unfold assessHealth
  split
  · next closed => exact absurd closed.symm opened
  split
  · exact .moved rfl (.inl (.inl rfl)) (transition_arrives latched ..)
  split
  · exact .moved rfl (.inl (.inr rfl)) (transition_arrives latched ..)
  split
  · exact .moved rfl (.inl (.inl rfl)) (transition_arrives latched ..)
  split
  · exact .moved rfl (.inl (.inl rfl)) (transition_arrives latched ..)
  split
  · exact .moved rfl (.inl (.inl rfl)) (transition_arrives latched ..)
  split
  · next ungranted =>
    split
    · exact .moved rfl (.inr (.inl ungranted)) (transition_arrives latched ..)
    · exact .moved rfl (.inr (.inl ungranted)) (transition_arrives latched ..)
  · exact assessLeadership_assessed latched recovery now published

theorem updateHealth_step (health : DependencyHealth) (recovery : RecoveryStreamSnapshot)
    (published : Bool) :
    Step c (.updateHealth health recovery) .none (c.updateHealth health recovery published) := by
  unfold updateHealth
  dsimp only
  split
  · next idle => exact .unchanged rfl (by simpa [Ignores] using idle)
  next operating =>
  have operating : c.operating := by simpa using operating
  split
  · next invalid =>
    exact .healthTime operating (by simpa using invalid) (transition_arrives latched ..)
  next valid =>
  have valid : c.validHealthTime health.observedProcessMonotonicTimeNs := by
    simpa using valid
  have stored : Latched { c with health } := latched
  by_cases closed : Closed c.state
  · have kept : ({ c with health }.assessHealth recovery health.observedProcessMonotonicTimeNs
        published) = { c with health }.publishSnapshot published := if_pos closed.symm
    rw [kept]
    exact .healthClosed operating closed valid (publishSnapshot_arrives stored published)
  · cases assessHealth_assessed stored closed recovery health.observedProcessMonotonicTimeNs
      published with
    | moved inactive trusted arrives =>
      exact .healthMoved operating closed valid inactive trusted arrives
    | doubted arrives => exact .healthDoubted operating closed valid arrives
    | confirmed connected ready epoch reconciled arrives =>
      exact .healthConfirmed operating closed valid connected ready epoch reconciled arrives

omit latched in
theorem completeReconciliation_step (evidence : ReconciliationEvidence)
    (recovery : RecoveryStreamSnapshot) (published : Bool) :
    Step c (.completeReconciliation evidence recovery)
      (.reconciliation (c.completeReconciliation evidence recovery published).2)
      (c.completeReconciliation evidence recovery published).1 := by
  have refused : ∀ {status : ReconciliationStatus}, status ≠ .completed →
      Step c (.completeReconciliation evidence recovery) (.reconciliation status) c :=
    fun {status} completed => .unchanged (by simp [Response.inert, completed]) trivial
  unfold completeReconciliation
  dsimp only
  split
  · exact refused nofun
  next running =>
  split
  · exact refused nofun
  next usable =>
  split
  · exact refused nofun
  next granted =>
  split
  · exact refused nofun
  split
  · exact refused nofun
  next consistent =>
  simp only [Bool.or_eq_true, not_or, Bool.not_eq_true', Bool.not_eq_false] at usable
  have operating : c.operating := by simp [operating, usable, running]
  have reconciling : c.state = .leaderReconciling := not_not.mp (not_or.mp granted).1
  have current : c.grantIsCurrent evidence.observedProcessMonotonicTimeNs := by
    simpa using (not_or.mp granted).2
  have consistent : c.consistent evidence recovery := by simpa using consistent
  have stored : Latched { c with
      reconciledRiskEpoch := evidence.riskServiceEpoch, reconciliationRequired := false } := by
    intro closed
    simp [reconciling, Closed] at closed
  split
  · exact .completed operating reconciling current consistent (transition_arrives stored ..)
  · exact .completed operating reconciling current consistent (transition_arrives stored ..)

theorem emit_step {request : EmissionRequest} (may : c.MayEmit request) (published : Bool)
    (stream : BoundedRecoveryStream) (hash : UInt64) : Step c (.authorizeEmission request)
      (.emission { (c.emit request published stream).2.2 with stableHash := hash })
      (c.emit request published stream).1 := by
  unfold emit
  dsimp only
  split
  · exact .permitted may rfl (publishSnapshot_arrives latched published)
  · exact .unchanged rfl trivial
  refine .emissionFailed may ?_ (transition_arrives latched ..)
  dsimp only
  split
  · simp
  · simp

theorem decideEmission_step (request : EmissionRequest) (published : Bool)
    (stream : BoundedRecoveryStream) (hash : UInt64) : Step c (.authorizeEmission request)
      (.emission { (c.decideEmission request published stream).2.2 with stableHash := hash })
      (c.decideEmission request published stream).1 := by
  have refused : ∀ {decision : EmissionDecision}, decision.status ≠ .permitted →
      Step c (.authorizeEmission request) (.emission { decision with stableHash := hash }) c :=
    fun {decision} status => .unchanged (by simp [Response.inert, status]) trivial
  unfold decideEmission
  split
  · exact refused nofun
  next running =>
  split
  · exact refused nofun
  next usable =>
  split
  · exact refused nofun
  next leading =>
  split
  · exact refused nofun
  next current =>
  split
  · exact refused nofun
  next ready =>
  refine emit_step latched ?_ published stream hash
  simp only [Bool.or_eq_true, not_or, Bool.not_eq_true', Bool.not_eq_false, Bool.not_eq_true,
    decide_eq_false_iff_not, not_not] at running usable leading current ready
  exact ⟨by simp [operating, running, usable], leading.1.1, leading.1.2, leading.2, current, ready⟩

omit latched in
theorem operatorFence_step (now : UInt64) (published : Bool) :
    Step c (.operatorFence now) .none (c.operatorFence now published) := by
  unfold operatorFence
  split
  · exact .unchanged rfl trivial
  · next running => exact .fenced (by simpa using running) (transition_arrives (fun _ => rfl) ..)

omit latched in
theorem shutdown_step (now : UInt64) (published : Bool) :
    Step c (.shutdown now) .none (c.shutdown now published) := by
  unfold shutdown
  split
  · exact .unchanged rfl trivial
  · next running => exact .stopped (by simpa using running) (transition_arrives (fun _ => rfl) ..)

theorem perform_step (stream : BoundedRecoveryStream) (published : Bool) (call : Call) :
    Step c call (c.perform stream published call).2.2 (c.perform stream published call).1 := by
  cases call with
  | start now => exact start_step latched now published
  | heartbeat now => exact heartbeat_step latched now published
  | applyFencingGrant grant now => exact applyFencingGrant_step latched grant now published stream
  | updateHealth health recovery => exact updateHealth_step latched health recovery published
  | completeReconciliation evidence recovery =>
    exact completeReconciliation_step evidence recovery published
  | authorizeEmission request => exact decideEmission_step latched request published stream _
  | operatorFence now => exact operatorFence_step now published
  | shutdown now => exact shutdown_step now published
  | epochWritten record => exact .epochWritten

end Calls

section

variable (step : Step c call response c')
include step

theorem Step.latched (latched : Latched c) : Latched c' := by
  cases step with
  | unchanged | epochWritten => exact latched
  | _ =>
    rename_i arrives
    exact arrives.latched

theorem Step.configuration :
    c'.configuration = c.configuration := by
  cases step with
  | unchanged | epochWritten => rfl
  | _ =>
    rename_i arrives
    exact arrives.configuration

theorem Step.mayEmit (permits : response.permits) :
    ∃ request, call = .authorizeEmission request ∧ c.MayEmit request := by
  cases step with
  | permitted may _ _ => exact ⟨_, rfl, may⟩
  | emissionFailed _ status _ => simp [Response.permits, status] at permits
  | unchanged inert _ =>
    cases response <;> simp_all [Response.permits, Response.inert]
  | _ => simp [Response.permits] at permits

end

theorem construct_latched (configuration : HaConfiguration) (record : ProcessEpochState)
    (published : Bool) : Latched (construct configuration record published) :=
  (publishSnapshot_arrives (fun _ => rfl) published).latched

theorem next_step (latched : Latched c) (exchange : Exchange) :
    Step c exchange.call (c.answer exchange) (c.next exchange) :=
  perform_step latched ..

theorem next_latched (latched : Latched c) (exchange : Exchange) : Latched (c.next exchange) :=
  (next_step latched exchange).latched latched

end EdgeHaCoordinator

end Aegis.HighAvailability
