import Aegis.HighAvailability.CoordinatorLaws
import Aegis.HighAvailability.TestSupport

/-!
What holds of one coordinator whenever it permits an emission. The source compares neither the
time of a request with the last heartbeat nor the evidence of a reconciliation with the stored
health, and two calls leave the unsafe state. So the results about these have conditions on the
order and the times of the calls; the grant, the readiness and the reconciliation need none.
-/

namespace Aegis.HighAvailability

open Aegis.Common Aegis.EventBus Aegis.Foundation List

namespace EdgeHaCoordinator

variable {c c' : EdgeHaCoordinator}

def recordedHeartbeat : Call → Response → List UInt64
  | .start now, .flag true => [now]
  | .heartbeat now, .flag true => [now]
  | _, _ => []

def completedEvidence : Call → Response → List ReconciliationEvidence
  | .completeReconciliation evidence _, .reconciliation .completed => [evidence]
  | _, _ => []

def heartbeats (c : EdgeHaCoordinator) (exchange : Exchange) : List UInt64 :=
  recordedHeartbeat exchange.call (c.answer exchange)

def completions (c : EdgeHaCoordinator) (exchange : Exchange) : List ReconciliationEvidence :=
  completedEvidence exchange.call (c.answer exchange)

def acceptedHealth (c : EdgeHaCoordinator) (exchange : Exchange) : List DependencyHealth :=
  match exchange.call with
  | .updateHealth health _ =>
      if c.operating && c.validHealthTime health.observedProcessMonotonicTimeNs then [health]
      else []
  | _ => []

variable {response : Response} {call : Call}

theorem recordedHeartbeat_of_inert
    (inert : response.inert) : recordedHeartbeat call response = [] := by
  unfold recordedHeartbeat
  split
  · simp [Response.inert] at inert
  · simp [Response.inert] at inert
  · rfl

theorem completedEvidence_of_inert
    (inert : response.inert) : completedEvidence call response = [] := by
  unfold completedEvidence
  split
  · simp [Response.inert] at inert
  · rfl

theorem Step.heartbeat (step : Step c call response c') {latest : Option UInt64}
    (kept : c.started → latest = some c.lastLocalHeartbeatNs) (started : c'.started) :
    (recordedHeartbeat call response).getLast?.or latest = some c'.lastLocalHeartbeatNs := by
  cases step with
  | unchanged inert _ => rw [recordedHeartbeat_of_inert inert]; exact kept started
  | epochWritten => exact kept started
  | conflict _ idle arrives => rw [arrives.started, idle] at started; cases started
  | started _ _ arrives | beat _ _ arrives => rw [arrives.lastLocalHeartbeatNs]; rfl
  | _ =>
    rename_i arrives
    rw [arrives.lastLocalHeartbeatNs]
    exact kept (arrives.started ▸ started)

theorem Step.health {exchange : Exchange} (step : Step c exchange.call response c')
    {latest : Option DependencyHealth} (kept : latest.getD {} = c.health) :
    ((c.acceptedHealth exchange).getLast?.or latest).getD {} = c'.health := by
  unfold acceptedHealth
  generalize exchange.call = call at step
  cases step with
  | unchanged _ ignores =>
    cases call with
    | updateHealth health recovery =>
      have idle : c.operating = false := ignores
      simpa [idle] using kept
    | _ => exact kept
  | epochWritten => exact kept
  | healthTime _ invalid arrives => simpa [invalid, arrives.health] using kept
  | healthClosed operating _ valid arrives | healthMoved operating _ valid _ _ arrives
  | healthDoubted operating _ valid arrives | healthConfirmed operating _ valid _ _ _ _ arrives =>
    simp [operating, valid, arrives.health]
  | _ =>
    rename_i arrives
    rw [arrives.health]
    exact kept

/-! ### Grants and reconciled epochs -/

/-- Only a started node holds a grant, and one that need not reconcile has a reconciled risk epoch. -/
structure Guarded (c : EdgeHaCoordinator) : Prop where
  latched : Latched c
  granted : c.grant.fencingToken ≠ 0 → c.initialized = true ∧ c.started = true
  known : c.reconciliationRequired = false → c.reconciledRiskEpoch ≠ 0

variable {d : EdgeHaCoordinator}

theorem Guarded.arrives {next : LeadershipState} (arrives : Arrives d next c')
    (granted : d.grant.fencingToken ≠ 0 → d.initialized ∧ d.started)
    (known : d.reconciliationRequired = false → d.reconciledRiskEpoch ≠ 0) : Guarded c' := by
  refine ⟨arrives.latched, ?_, fun clear => ?_⟩
  · rw [arrives.grant, arrives.initialized, arrives.started]
    exact granted
  · rw [arrives.reconciledRiskEpoch]
    exact known (arrives.of_not_required clear).2.1

theorem started_of_operating (operating : c.operating) : c.initialized ∧ c.started := by
  simp only [EdgeHaCoordinator.operating, Bool.and_eq_true] at operating
  exact operating.1

theorem riskServiceEpoch_of_consistent {evidence : ReconciliationEvidence}
    {recovery : RecoveryStreamSnapshot} (consistent : c.consistent evidence recovery) :
    evidence.riskServiceEpoch ≠ 0 := by
  simp only [EdgeHaCoordinator.consistent, Bool.and_eq_true, bne_iff_ne] at consistent
  tauto

theorem Step.guarded (step : Step c call response c') (guarded : Guarded c) : Guarded c' := by
  cases step with
  | unchanged => exact guarded
  | epochWritten => exact ⟨guarded.latched, guarded.granted, guarded.known⟩
  | started _ _ arrives =>
    exact .arrives arrives (fun held => ⟨(guarded.granted held).1, rfl⟩) guarded.known
  | renewed operating _ arrives =>
    exact .arrives arrives (fun _ => started_of_operating operating) guarded.known
  | tookOver operating _ _ arrives =>
    exact .arrives arrives (fun _ => started_of_operating operating) nofun
  | completed _ _ _ consistent arrives =>
    exact .arrives arrives guarded.granted fun _ => riskServiceEpoch_of_consistent consistent
  | healthDoubted _ _ _ arrives | fenced _ arrives | stopped _ arrives =>
    exact .arrives arrives guarded.granted nofun
  | _ =>
    rename_i arrives
    exact .arrives arrives guarded.granted guarded.known

theorem guarded_construct (configuration : HaConfiguration) (record : ProcessEpochState)
    (published : Bool) : Guarded (construct configuration record published) :=
  .arrives (publishSnapshot_arrives (fun _ => rfl) published) (by simp) nofun

theorem Guarded.next (guarded : Guarded c) (exchange : Exchange) : Guarded (c.next exchange) :=
  (next_step guarded.latched exchange).guarded guarded

theorem guarded_run (configuration : HaConfiguration) (record : ProcessEpochState)
    (published : Bool) (exchanges : List Exchange) :
    Guarded (run next (construct configuration record published) exchanges) :=
  run_preserves (P := Guarded) (fun _ exchange guarded => guarded.next exchange)
    (guarded_construct configuration record published) exchanges

/-! ### The facts behind an emission -/

def Call.reconciles : Call → Bool
  | .completeReconciliation _ _ => true
  | _ => false

def Call.reportsHealth : Call → Bool
  | .updateHealth _ _ => true
  | _ => false

/-- A node can lead again after a start or a grant. -/
def Call.rearms : Call → Bool
  | .start _ | .applyFencingGrant _ _ => true
  | _ => false

variable {latest : Option ReconciliationEvidence}

/-- A node that need not reconcile has the risk epoch of the latest completed evidence. -/
theorem Step.reconciled (step : Step c call response c')
    (reconciled : c.reconciliationRequired = false →
      latest.map (·.riskServiceEpoch) = some c.reconciledRiskEpoch)
    (clear : c'.reconciliationRequired = false) :
    ((completedEvidence call response).getLast?.or latest).map (·.riskServiceEpoch) =
      some c'.reconciledRiskEpoch := by
  cases step with
  | unchanged inert _ => rw [completedEvidence_of_inert inert]; exact reconciled clear
  | epochWritten => exact reconciled clear
  | completed _ _ _ _ arrives => rw [arrives.reconciledRiskEpoch]; rfl
  | tookOver _ _ _ arrives | healthDoubted _ _ _ arrives | fenced _ arrives | stopped _ arrives =>
    rw [arrives.required rfl] at clear
    cases clear
  | _ =>
    rename_i arrives
    rw [arrives.reconciledRiskEpoch]
    exact reconciled (arrives.of_not_required clear).2.1

/-- A node that leads has a stored health with the reconciled risk epoch. Completing a
reconciliation does not make it so, but every health report does. -/
def Agreed (c : EdgeHaCoordinator) : Prop :=
  c.operating = true → c.reconciliationRequired = false → c.state.active = true →
    c.health.riskServiceEpoch = c.reconciledRiskEpoch

theorem Agreed.arrives {next : LeadershipState} (arrives : Arrives d next c')
    (agreed : d.operating → d.reconciliationRequired = false → next.active →
      d.health.riskServiceEpoch = d.reconciledRiskEpoch) : Agreed c' := by
  intro operating clear active
  obtain ⟨there, before, -⟩ := arrives.of_not_required clear
  rw [arrives.health, arrives.reconciledRiskEpoch]
  exact agreed (arrives.operating ▸ operating) before (there ▸ active)

theorem Agreed.of_required (required : c.reconciliationRequired) : Agreed c := by
  intro _ clear
  rw [required] at clear
  cases clear

/-- Whatever a health report says, the node then agrees with it, must reconcile or does not lead. -/
theorem Step.agreed_of_report (step : Step c call response c') (guarded : Guarded c)
    (reports : call.reportsHealth) : Agreed c' := by
  cases step with
  | unchanged _ ignores =>
    cases call with
    | updateHealth health recovery =>
      have idle : c.operating = false := ignores
      exact fun operating => absurd operating (by simp [idle])
    | _ => cases reports
  | healthTime _ _ arrives => exact .of_required (arrives.required_of_closed (.inr rfl))
  | healthClosed _ closed _ arrives => exact .of_required (arrives.required_of_closed closed)
  | healthMoved _ _ _ inactive _ arrives => exact .arrives arrives (by simp [inactive])
  | healthDoubted _ _ _ arrives => exact .of_required (arrives.required rfl)
  | healthConfirmed _ _ _ _ _ epoch clear arrives =>
    exact .arrives arrives fun _ _ _ => epoch.resolve_left (guarded.known clear)
  | _ => cases reports

theorem Step.agreed (step : Step c call response c') (guarded : Guarded c) (agreed : Agreed c)
    (keeps : call.reconciles = false) : Agreed c' := by
  by_cases reports : call.reportsHealth
  · exact step.agreed_of_report guarded reports
  cases step with
  | unchanged | epochWritten => exact agreed
  | conflict _ _ arrives | late _ arrives | emissionFailed _ _ arrives =>
    exact .of_required (arrives.required_of_closed (by simp [Closed]))
  | tookOver _ _ _ arrives | fenced _ arrives | stopped _ arrives =>
    exact .of_required (arrives.required rfl)
  | started _ _ arrives => exact .arrives arrives (by simp [LeadershipState.active])
  | beat _ _ arrives | renewed _ _ arrives | permitted _ _ arrives => exact .arrives arrives agreed
  | completed => cases keeps
  | _ => exact absurd rfl reports

/-- A node that can still lead has recorded a heartbeat at a time or later. -/
def Beaten (now : UInt64) (c : EdgeHaCoordinator) : Prop :=
  c.operating = true → Closed c.state ∨ now ≤ c.lastLocalHeartbeatNs

/-- A heartbeat is recorded, is not later than the last one, or fences the node. -/
theorem Step.beaten_of_heartbeat {now : UInt64} (step : Step c (.heartbeat now) response c') :
    Beaten now c' := by
  intro operating
  cases step with
  | unchanged _ ignores => exact .inr (ignores operating)
  | late _ arrives => exact .inl (arrives.closed (.inl rfl))
  | beat _ _ arrives =>
    rw [arrives.lastLocalHeartbeatNs]
    exact .inr (UInt64.le_refl now)

/-- A move of a node that is not closed, and that keeps its last heartbeat. -/
theorem Beaten.arrives {now : UInt64} (beaten : Beaten now c) (opened : ¬ Closed c.state)
    {next : LeadershipState} (arrives : Arrives d next c') (operating : d.operating → c.operating)
    (last : d.lastLocalHeartbeatNs = c.lastLocalHeartbeatNs) : Beaten now c' := by
  intro operates
  rw [arrives.lastLocalHeartbeatNs, last]
  exact .inr ((beaten (operating (arrives.operating ▸ operates))).resolve_left opened)

theorem Step.beaten {now : UInt64} (step : Step c call response c') (beaten : Beaten now c)
    (keeps : call.rearms = false) : Beaten now c' := by
  cases step with
  | unchanged | epochWritten => exact beaten
  | conflict | started | renewed | tookOver => cases keeps
  | late _ arrives => exact fun _ => .inl (arrives.closed (.inl rfl))
  | beat operating ordered arrives =>
    intro _
    rcases beaten operating with closed | earlier
    · exact .inl (arrives.closed closed)
    · rw [arrives.lastLocalHeartbeatNs]
      exact .inr (UInt64.le_trans earlier ordered)
  | healthTime _ _ arrives => exact fun _ => .inl (arrives.closed (.inr rfl))
  | healthClosed _ closed _ arrives => exact fun _ => .inl (arrives.closed closed)
  | healthMoved _ opened _ _ _ arrives | healthDoubted _ opened _ arrives
  | healthConfirmed _ opened _ _ _ _ _ arrives => exact beaten.arrives opened arrives id rfl
  | completed _ reconciling _ _ arrives =>
    exact beaten.arrives (by simp [reconciling, Closed]) arrives id rfl
  | permitted may _ arrives | emissionFailed may _ arrives =>
    have opened : ¬ Closed c.state := by
      rintro (closed | closed) <;> simpa [closed, LeadershipState.active] using may.active
    exact beaten.arrives opened arrives id rfl
  | fenced _ arrives => exact fun _ => .inl (arrives.closed (.inl rfl))
  | stopped _ arrives =>
    exact fun operates => absurd (arrives.operating ▸ operates) (by simp [operating])

section Run

variable (configuration : HaConfiguration) (record : ProcessEpochState) (published : Bool)
  (exchanges : List Exchange)

theorem latched_run : Latched (run next (construct configuration record published) exchanges) :=
  (guarded_run configuration record published exchanges).latched

theorem configuration_run :
    (run next (construct configuration record published) exchanges).configuration =
      configuration := by
  have kept : ∀ (c : EdgeHaCoordinator) exchange, Latched c ∧ c.configuration = configuration →
        Latched (c.next exchange) ∧ (c.next exchange).configuration = configuration :=
    fun _ exchange ⟨latched, same⟩ =>
      ⟨next_latched latched exchange, (next_step latched exchange).configuration.trans same⟩
  have fresh : (construct configuration record published).configuration = configuration :=
    (publishSnapshot_arrives (fun _ => rfl) published).configuration
  exact (run_preserves kept ⟨construct_latched configuration record published, fresh⟩ exchanges).2

theorem latest_heartbeat
    (started : (run next (construct configuration record published) exchanges).started) :
    (outputs next heartbeats (construct configuration record published) exchanges).getLast? = some
      (run next (construct configuration record published) exchanges).lastLocalHeartbeatNs := by
  have fresh : (construct configuration record published).started = false :=
    (publishSnapshot_arrives (fun _ => rfl) published).started
  have kept : ∀ (c : EdgeHaCoordinator) exchange latest,
      Latched c ∧ (c.started → latest = some c.lastLocalHeartbeatNs) → True →
        Latched (c.next exchange) ∧ ((c.next exchange).started →
          (c.heartbeats exchange).getLast?.or latest =
            some (c.next exchange).lastLocalHeartbeatNs) :=
    fun _ exchange _ ⟨latched, kept⟩ _ =>
      ⟨next_latched latched exchange, (next_step latched exchange).heartbeat kept⟩
  exact (latest_invariant kept ⟨construct_latched configuration record published, by simp [fresh]⟩
    (throughout_of_forall (fun _ _ => trivial) _ exchanges)).2 started

theorem latest_health : (outputs next acceptedHealth (construct configuration record published)
        exchanges).getLast?.getD {} =
      (run next (construct configuration record published) exchanges).health := by
  have fresh : (construct configuration record published).health = {} :=
    (publishSnapshot_arrives (fun _ => rfl) published).health
  have kept : ∀ (c : EdgeHaCoordinator) exchange latest,
      Latched c ∧ latest.getD {} = c.health → True → Latched (c.next exchange) ∧
          ((c.acceptedHealth exchange).getLast?.or latest).getD {} = (c.next exchange).health :=
    fun _ exchange _ ⟨latched, kept⟩ _ =>
      ⟨next_latched latched exchange, (next_step latched exchange).health kept⟩
  exact (latest_invariant kept ⟨construct_latched configuration record published, fresh.symm⟩
    (throughout_of_forall (fun _ _ => trivial) _ exchanges)).2

theorem latest_reconciliation
    (clear : (run next (construct configuration record published)
      exchanges).reconciliationRequired = false) :
    (outputs next completions (construct configuration record published)
        exchanges).getLast?.map (·.riskServiceEpoch) =
      some (run next (construct configuration record published) exchanges).reconciledRiskEpoch := by
  have fresh : (construct configuration record published).reconciliationRequired :=
    (publishSnapshot_arrives (fun _ => rfl) published).required rfl
  have kept : ∀ (c : EdgeHaCoordinator) exchange latest, Guarded c ∧
      (c.reconciliationRequired = false →
        latest.map (·.riskServiceEpoch) = some c.reconciledRiskEpoch) → True →
      Guarded (c.next exchange) ∧ ((c.next exchange).reconciliationRequired = false →
        ((c.completions exchange).getLast?.or latest).map (·.riskServiceEpoch) =
          some (c.next exchange).reconciledRiskEpoch) :=
    fun _ exchange _ ⟨guarded, kept⟩ _ =>
      ⟨guarded.next exchange, (next_step guarded.latched exchange).reconciled kept⟩
  exact (latest_invariant kept
    ⟨guarded_construct configuration record published, fun clear => absurd fresh (by simp [clear])⟩
    (throughout_of_forall (fun _ _ => trivial) _ exchanges)).2 clear

/-- What a heartbeat since the last start or grant says of the node. -/
theorem beaten_run (now : UInt64)
    (since : Since (fun exchange : Exchange => exchange.call = .heartbeat now)
      (fun exchange => exchange.call.rearms = true) exchanges) :
    Beaten now (run next (construct configuration record published) exchanges) :=
  run_of_since (fun _ exchange guarded => Guarded.next guarded exchange)
    (fun _ exchange guarded call => (call ▸ next_step guarded.latched exchange).beaten_of_heartbeat)
    (fun _ exchange guarded beaten keeps =>
      (next_step guarded.latched exchange).beaten beaten (Bool.eq_false_iff.mpr keeps))
    (guarded_construct configuration record published) since

/-- What a health report since the last reconciliation says of the node. -/
theorem agreed_run
    (since : Since (fun exchange : Exchange => exchange.call.reportsHealth = true)
      (fun exchange => exchange.call.reconciles = true) exchanges) :
    Agreed (run next (construct configuration record published) exchanges) :=
  run_of_since (fun _ exchange guarded => Guarded.next guarded exchange)
    (fun _ exchange guarded reports =>
      (next_step guarded.latched exchange).agreed_of_report guarded reports)
    (fun _ exchange guarded agreed keeps =>
      (next_step guarded.latched exchange).agreed guarded agreed (Bool.eq_false_iff.mpr keeps))
    (guarded_construct configuration record published) since

/-- A permitted emission always rests on a grant that covers its time, on a completed
reconciliation and on dependencies last reported ready. Its time is within the timeout of the last
recorded heartbeat if the caller sent a heartbeat that recent since the last start or grant, and
the risk epochs agree if the caller reported health since the last reconciliation. -/
theorem permitted_rests_on_current_facts {exchanges : List Exchange} {last : Exchange}
    {request : EmissionRequest} {c : EdgeHaCoordinator}
    (reached : run next (construct configuration record published) exchanges = c)
    (call : last.call = .authorizeEmission request) (permits : (c.answer last).permits = true) :
    c.grant.issuedProcessMonotonicTimeNs ≤ request.processMonotonicTimeNs ∧
    request.processMonotonicTimeNs ≤ c.grant.validUntilProcessMonotonicTimeNs ∧
    ∃ heartbeat health evidence, (outputs next heartbeats (construct configuration record published)
        exchanges).getLast? = some heartbeat ∧
      (outputs next completions (construct configuration record published)
        exchanges).getLast? = some evidence ∧
      (outputs next acceptedHealth (construct configuration record published)
        exchanges).getLast? = some health ∧
      (health.gatewayConnected = true ∧ health.riskReady = true ∧ health.journalReady = true ∧
        health.sharedMemoryCurrent = true ∧ health.partialColocationOutage = false) ∧
      (∀ now : UInt64, Since (fun exchange : Exchange => exchange.call = .heartbeat now)
          (fun exchange => exchange.call.rearms = true) exchanges →
        request.processMonotonicTimeNs.toNat ≤
          now.toNat + configuration.heartbeatTimeoutNs.toNat →
        request.processMonotonicTimeNs.toNat ≤
          heartbeat.toNat + configuration.heartbeatTimeoutNs.toNat) ∧
      (Since (fun exchange : Exchange => exchange.call.reportsHealth = true)
          (fun exchange => exchange.call.reconciles = true) exchanges →
        evidence.riskServiceEpoch = health.riskServiceEpoch) := by
  have guarded := guarded_run configuration record published exchanges
  have reconciled := latest_reconciliation configuration record published exchanges
  have stored := latest_health configuration record published exchanges
  have beaten := latest_heartbeat configuration record published exchanges
  have within := beaten_run configuration record published exchanges
  have agreed := agreed_run configuration record published exchanges
  rw [reached] at guarded reconciled stored beaten agreed
  simp only [reached] at within
  obtain ⟨_, emission, may⟩ := (next_step guarded.latched last).mayEmit permits
  cases call.symm.trans emission
  obtain ⟨operating, active, clear, -, current, ready⟩ := may
  obtain ⟨evidence, latest, epoch⟩ := Option.map_eq_some_iff.mp (reconciled clear)
  simp only [currentRequest, grantIsCurrent, Bool.and_eq_true, decide_eq_true_eq] at current
  simp only [essentialDependenciesReady, Bool.and_eq_true, Bool.not_eq_true', bne_iff_ne] at ready
  obtain ⟨health, accepted⟩ : ∃ health, (outputs next acceptedHealth
      (construct configuration record published) exchanges).getLast? = some health := by
    -- The health a node starts from is not ready.
    cases accepted : (outputs next acceptedHealth
      (construct configuration record published) exchanges).getLast? with
    | some health => exact ⟨health, rfl⟩
    | none =>
      rw [accepted] at stored
      simp [← stored] at ready
  rw [accepted, Option.getD_some] at stored
  refine ⟨current.1.1.1.1.1.2, current.1.1.1.1.2, c.lastLocalHeartbeatNs, health, evidence,
    beaten (started_of_operating operating).2, latest, accepted, ?_, ?_, ?_⟩
  · rw [stored]
    tauto
  · intro now since recent
    have opened : ¬ Closed c.state := by
      rintro (closed | closed) <;> simp [closed, LeadershipState.active] at active
    have later := (within _ since operating).resolve_left opened
    rw [UInt64.le_iff_toNat_le] at later
    omega
  · intro since
    rw [epoch, stored]
    exact (agreed since operating clear active).symm

end Run

open TestSupport

/-- An active node that keeps sending heartbeats and health reports. -/
def attended : List Exchange :=
  activation 7 ++ [exchange 10 (.heartbeat 1300),
    exchange 10 (.updateHealth (healthy 1310) (stream 10).snapshot)]

def lateRequest : EmissionRequest := emission 10 1 1600

theorem permitted_rests_on_current_facts_when_attended :
    lateRequest.processMonotonicTimeNs = 1600 ∧
    (run next node attended).grant.issuedProcessMonotonicTimeNs ≤
      lateRequest.processMonotonicTimeNs ∧
    lateRequest.processMonotonicTimeNs ≤
      (run next node attended).grant.validUntilProcessMonotonicTimeNs ∧
    ∃ heartbeat health evidence, (outputs next heartbeats node attended).getLast? = some heartbeat ∧
      (outputs next completions node attended).getLast? = some evidence ∧
      (outputs next acceptedHealth node attended).getLast? = some health ∧
      (health.gatewayConnected = true ∧ health.riskReady = true ∧ health.journalReady = true ∧
        health.sharedMemoryCurrent = true ∧ health.partialColocationOutage = false) ∧
      lateRequest.processMonotonicTimeNs.toNat ≤
        heartbeat.toNat + TestSupport.configuration.heartbeatTimeoutNs.toNat ∧
      evidence.riskServiceEpoch = health.riskServiceEpoch := by
  obtain ⟨issued, valid, heartbeat, health, evidence, beaten, completed, accepted, ready, recent,
    epochs⟩ := permitted_rests_on_current_facts (TestSupport.configuration) {} true
      (rfl : run next node attended = run next node attended)
      (rfl : (exchange 10 (.authorizeEmission lateRequest)).call = .authorizeEmission lateRequest)
      (by decide +kernel)
  have within := recent 1300
    ⟨activation 7, exchange 10 (.heartbeat 1300), [exchange 10 (.updateHealth (healthy 1310)
      (stream 10).snapshot)], rfl, rfl, by simp [exchange, Call.rearms]⟩ (by decide +kernel)
  have agree := epochs
    ⟨activation 7 ++ [exchange 10 (.heartbeat 1300)], exchange 10 (.updateHealth (healthy 1310)
      (stream 10).snapshot), [], by simp [attended], rfl, by simp⟩
  exact ⟨rfl, issued, valid, heartbeat, health, evidence, beaten, completed, accepted, ready, within,
    agree⟩

/-- A request past the heartbeat timeout, and one after evidence with another risk epoch. -/
theorem stale_facts_permitted : ((run next node (activation 7)).answer
        (exchange 10 (.authorizeEmission (emission 10 1 1600)))).permits = true ∧
      (outputs next heartbeats node (activation 7)).getLast? = some 1000 ∧
      node.configuration.heartbeatTimeoutNs = 500 ∧
    ((run next node (activation 8)).answer
        (exchange 10 (.authorizeEmission (emission 10 1 1030)))).permits = true ∧
      (outputs next completions node (activation 8)).getLast?.map (·.riskServiceEpoch) = some 8 ∧
      (outputs next acceptedHealth node (activation 8)).getLast?.map (·.riskServiceEpoch) =
        some 7 := by
  decide +kernel

/-! ### The latch of the unsafe state -/

/-- An operator's fence, a fencing heartbeat, or a first start. -/
def leavesUnsafe (c : EdgeHaCoordinator) : Call → Bool
  | .operatorFence _ => !c.stopped
  | .heartbeat now => decide (c.heartbeatFences now)
  | .start _ => !c.started
  | _ => false

/-- While the node is unsafe, the call is not an operator's fence before the node is stopped, not a
heartbeat that fences it, and not its first start. -/
def Latching (c : EdgeHaCoordinator) (exchange : Exchange) : Prop :=
  c.state = .unsafeState → c.leavesUnsafe exchange.call = false

instance (c : EdgeHaCoordinator) (exchange : Exchange) : Decidable (c.Latching exchange) :=
  inferInstanceAs (Decidable (_ → _))

def Retired (c : EdgeHaCoordinator) : Prop :=
  Latched c ∧ (c.state = .unsafeState ∨ c.state = .stopped ∧ c.stopped = true)

theorem Retired.inactive (retired : Retired c) : c.state.active = false := by
  rcases retired.2 with closed | ⟨closed, -⟩ <;> simp [closed, LeadershipState.active]

theorem Retired.not_permits (retired : Retired c) (exchange : Exchange) :
    (c.answer exchange).permits = false := by
  by_contra permits
  obtain ⟨_, -, may⟩ := (next_step retired.1 exchange).mayEmit (by simpa using permits)
  exact absurd retired.inactive (by simp [may.active])

theorem Retired.unsafe_of_running (retired : Retired c) (running : c.stopped = false) :
    c.state = .unsafeState := by
  refine retired.2.resolve_right fun stopped => ?_
  rw [running] at stopped
  cases stopped.2

theorem running_of_operating (operating : c.operating) : c.stopped = false := by
  simp only [EdgeHaCoordinator.operating, Bool.and_eq_true, Bool.not_eq_true'] at operating
  exact operating.2

theorem Arrives.unsafeState (arrives : Arrives d .unsafeState c') : c'.state = .unsafeState := by
  rcases arrives.outcome with ⟨there, -⟩ | ⟨there, -⟩ <;> exact there

theorem Step.retired (step : Step c call response c') (retired : Retired c)
    (latching : c.state = .unsafeState → c.leavesUnsafe call = false) : Retired c' := by
  refine ⟨step.latched retired.1, ?_⟩
  cases step with
  | unchanged | epochWritten => exact retired.2
  | conflict running idle _ | started running idle _ =>
    simpa [leavesUnsafe, idle] using latching (retired.unsafe_of_running running)
  | late fences _ =>
    have held := retired.unsafe_of_running (running_of_operating fences.1)
    simpa [leavesUnsafe, fences] using latching held
  | fenced running _ =>
    simpa [leavesUnsafe, running] using latching (retired.unsafe_of_running running)
  | beat operating _ arrives | healthClosed operating _ _ arrives =>
    have held := retired.unsafe_of_running (running_of_operating operating)
    exact .inl (held ▸ arrives).unsafeState
  | renewed operating safe _ | tookOver operating safe _ _ =>
    exact absurd (retired.unsafe_of_running (running_of_operating operating)) safe
  | healthTime _ _ arrives => exact .inl arrives.unsafeState
  | healthMoved operating opened _ _ _ _ | healthDoubted operating opened _ _
  | healthConfirmed operating opened _ _ _ _ _ _ =>
    exact absurd (.inr (retired.unsafe_of_running (running_of_operating operating))) opened
  | completed operating reconciling _ _ _ =>
    have held := retired.unsafe_of_running (running_of_operating operating)
    rw [held] at reconciling
    cases reconciling
  | permitted may _ _ | emissionFailed may _ _ =>
    exact absurd retired.inactive (by simp [may.active])
  | stopped _ arrives =>
    rcases arrives.outcome with ⟨there, -⟩ | ⟨there, -⟩
    · exact .inr ⟨there, arrives.stopped⟩
    · exact .inl there

/-- An unsafe node permits no emission until it is stopped. -/
theorem unsafe_latches (configuration : HaConfiguration) (record : ProcessEpochState)
    (published : Bool) {before after : List Exchange} {c : EdgeHaCoordinator}
    (reached : run next (construct configuration record published) (before ++ after) = c)
    (latching : Throughout next Latching (construct configuration record published)
      (before ++ after))
    (closed : (run next (construct configuration record published) before).state = .unsafeState) :
    (c.state = .unsafeState ∨ c.state = .stopped) ∧
      ∀ exchange, (c.answer exchange).permits = false := by
  have start : Retired (run next (construct configuration record published) before) :=
    ⟨latched_run configuration record published before, .inl closed⟩
  have retired : Retired c := by
    rw [← reached, run_append]
    exact run_invariant (fun _ exchange retired latching =>
      (next_step retired.1 exchange).retired retired latching) start
      (throughout_append.mp latching).2
  exact ⟨retired.2.imp_right And.left, retired.not_permits⟩

def journalLost : List Exchange :=
  activation 7 ++ [exchange 10
    (.updateHealth { healthy 1030 with journalReady := false } (stream 10).snapshot)]

def journalReturned : Exchange :=
  exchange 10 (.updateHealth (healthy 1040) (stream 10).snapshot)

theorem unsafe_latches_after_journal_loss : (run next node journalLost).state = .unsafeState ∧
      ((run next node (journalLost ++ [journalReturned])).answer
        (exchange 10 (.authorizeEmission (emission 10 1 1050)))).permits = false := by
  have closed : (run next node journalLost).state = .unsafeState := by decide +kernel
  exact ⟨closed, (unsafe_latches (TestSupport.configuration) {} true
    (rfl : run next node (journalLost ++ [journalReturned]) = _) (by decide +kernel) closed).2 _⟩

/-- A fence and a new grant make an unsafe node emit again. -/
def rearmed : List Exchange :=
  [exchange 10 (.operatorFence 1040),
    exchange 10 (.applyFencingGrant (TestSupport.grant 1 11 10 2 1041 5000) 1041),
    exchange 11 (.updateHealth (healthy 1050) (stream 11).snapshot),
    exchange 11 (.completeReconciliation (evidence 11 1051 (stream 11).snapshot)
      (stream 11).snapshot)]

theorem unsafe_node_rearmed : (run next node journalLost).state = .unsafeState ∧
      (run next node (journalLost ++ rearmed)).state = .activeLeader ∧
      ((run next node (journalLost ++ rearmed)).answer
        (exchange 11 (.authorizeEmission (emission 11 1 1060)))).permits = true := by
  decide +kernel

/-! ### Reconciliation after a loss of trust -/

/-- A health report that takes away the trust in a node. -/
def Doubts (c : EdgeHaCoordinator) (health : DependencyHealth) : Prop :=
  c.grant.fencingToken ≠ 0 ∧ (health.gatewayConnected = false ∨ health.riskReady = false ∨
      health.riskServiceEpoch ≠ c.reconciledRiskEpoch)

instance (c : EdgeHaCoordinator) (health : DependencyHealth) : Decidable (c.Doubts health) :=
  inferInstanceAs (Decidable (_ ∧ _))

def Doubted (c : EdgeHaCoordinator) : Prop :=
  c.stopped = true ∨ c.configuration.locality ≠ .colocatedEdge ∨ c.reconciliationRequired = true

theorem Step.doubted_of_doubts {health : DependencyHealth} {recovery : RecoveryStreamSnapshot}
    (step : Step c (.updateHealth health recovery) response c')
    (guarded : Guarded c) (doubts : c.Doubts health) : Doubted c' := by
  obtain ⟨held, doubts⟩ := doubts
  cases step with
  | unchanged _ ignores =>
    obtain ⟨initialized, started⟩ := guarded.granted held
    have idle : c.operating = false := ignores
    exact .inl (by simpa [operating, initialized, started] using idle)
  | healthTime _ _ arrives => exact .inr (.inr (arrives.required_of_closed (.inr rfl)))
  | healthClosed _ closed _ arrives => exact .inr (.inr (arrives.required_of_closed closed))
  | healthMoved _ _ _ _ trusted arrives =>
    rcases trusted with closed | ungranted | remote
    · exact .inr (.inr (arrives.required_of_closed closed))
    · exact absurd ungranted held
    · exact .inr (.inl (by simp [arrives.configuration, remote]))
  | healthDoubted _ _ _ arrives => exact .inr (.inr (arrives.required rfl))
  | healthConfirmed _ _ _ connected ready epoch clear _ =>
    have same := epoch.resolve_left (guarded.known clear)
    simp [connected, ready, same] at doubts

theorem Step.doubted (step : Step c call response c') (doubted : Doubted c) :
    Doubted c' ∨ ∃ evidence, evidence ∈ completedEvidence call response := by
  have sameLocality := step.configuration
  cases step with
  | unchanged | epochWritten => exact .inl doubted
  | completed => exact .inr ⟨_, mem_cons_self⟩
  | tookOver _ _ _ arrives | healthDoubted _ _ _ arrives | fenced _ arrives
  | stopped _ arrives => exact .inl (.inr (.inr (arrives.required rfl)))
  | _ =>
    rename_i arrives
    refine .inl ?_
    rcases doubted with halted | remote | required
    · exact .inl (arrives.stopped.trans halted)
    · exact .inr (.inl (sameLocality ▸ remote))
    · exact .inr (.inr (arrives.required required))

theorem Doubted.not_permits (doubted : Doubted c) (latched : Latched c) (exchange : Exchange) :
    (c.answer exchange).permits = false := by
  by_contra permits
  obtain ⟨_, -, may⟩ := (next_step latched exchange).mayEmit (by simpa using permits)
  rcases doubted with halted | remote | required
  · exact absurd halted (by simp [running_of_operating may.operating])
  · exact remote may.colocated
  · exact absurd required (by simp [may.reconciled])

theorem doubted_or_completed (guarded : Guarded c) (doubted : Doubted c)
    (exchanges : List Exchange) : Doubted (run next c exchanges) ∨
      ∃ evidence, evidence ∈ outputs next completions c exchanges := by
  induction exchanges generalizing c with
  | nil => exact .inl doubted
  | cons exchange rest ih =>
    have step := next_step guarded.latched exchange
    rcases step.doubted doubted with still | ⟨evidence, completed⟩
    · rcases ih (step.guarded guarded) still with final | ⟨evidence, later⟩
      · exact .inl final
      · exact .inr ⟨evidence, mem_append_right _ later⟩
    · exact .inr ⟨evidence, mem_append_left _ completed⟩

/-- What `complete_reconciliation` tells evidence apart by: the token of the grant and the position
of the recovery stream that it was called with. -/
def positions (c : EdgeHaCoordinator) (exchange : Exchange) : List (UInt64 × UInt64 × UInt64) :=
  match exchange.call with
  | .completeReconciliation _ recovery =>
      [(c.grant.fencingToken, recovery.latestSourceJournalSequence,
        recovery.latestSourceJournalHash)]
  | _ => []

/-- A reconciliation is asked for under a grant that was issued at a time or later. -/
def Regranted (time : UInt64) (c : EdgeHaCoordinator) (exchange : Exchange) : Prop :=
  exchange.call.reconciles = true → time ≤ c.grant.issuedProcessMonotonicTimeNs

instance (time : UInt64) (c : EdgeHaCoordinator) (exchange : Exchange) :
    Decidable (Regranted time c exchange) :=
  inferInstanceAs (Decidable (_ → _))

/-- Evidence completes a reconciliation only if it was observed under the grant and has the token
and the position that it is compared with. -/
theorem completions_checked (c : EdgeHaCoordinator) (exchange : Exchange) :
    c.completions exchange = [] ∨ ∃ evidence, c.completions exchange = [evidence] ∧
      exchange.call.reconciles = true ∧
      c.grant.issuedProcessMonotonicTimeNs ≤ evidence.observedProcessMonotonicTimeNs ∧
      c.positions exchange =
        [(evidence.fencingToken, evidence.sourceJournalSequence, evidence.sourceJournalHash)] := by
  unfold completions positions answer
  cases exchange.call with
  | completeReconciliation evidence recovery =>
    have step := completeReconciliation_step (c := c) evidence recovery exchange.published
    simp only [perform]
    generalize (c.completeReconciliation evidence recovery exchange.published).1 = c' at step
    generalize (c.completeReconciliation evidence recovery exchange.published).2 = status at step ⊢
    cases step with
    | unchanged inert => exact .inl (completedEvidence_of_inert inert)
    | completed _ _ current consistent =>
      refine .inr ⟨evidence, rfl, rfl, ?_, ?_⟩
      · simp only [grantIsCurrent, Bool.and_eq_true, decide_eq_true_eq] at current
        exact current.1.2
      · simp only [EdgeHaCoordinator.consistent, Bool.and_eq_true, beq_iff_eq] at consistent
        obtain ⟨⟨⟨⟨token, -⟩, sequence⟩, hash⟩, -⟩ := consistent
        rw [token.1.1.1.1.1.1.1.1, sequence, hash]
  | _ => exact .inl rfl

theorem completions_map_sublist (c : EdgeHaCoordinator) (exchange : Exchange) :
    ((c.completions exchange).map fun evidence =>
      (evidence.fencingToken, evidence.sourceJournalSequence,
        evidence.sourceJournalHash)).Sublist (c.positions exchange) := by
  rcases c.completions_checked exchange with none | ⟨evidence, one, -, -, position⟩
  · rw [none]
    exact nil_sublist _
  · rw [one, position]
    exact Sublist.refl _

/-- Under regranted reconciliations all completed evidence is as new as the grants. -/
theorem completions_observed {time : UInt64} {exchanges : List Exchange}
    (regranted : Throughout next (Regranted time) c exchanges) :
    ∀ evidence ∈ outputs next completions c exchanges,
      time ≤ evidence.observedProcessMonotonicTimeNs := by
  induction exchanges generalizing c with
  | nil => nofun
  | cons exchange rest ih =>
    intro evidence mem
    rcases mem_append.mp mem with now | later
    · rcases c.completions_checked exchange with none | ⟨presented, one, reconciles, granted, -⟩
      · rw [none] at now
        nomatch now
      · rw [one, mem_singleton] at now
        rw [now]
        exact UInt64.le_trans (regranted.1 reconciles) granted
    · exact ih regranted.2 evidence later

/-- Between a loss of trust and the next permitted emission a reconciliation is completed, with
evidence no older than the loss if reconciliations are asked for only under a grant issued since.
No evidence completes two reconciliations if the token or the position is another one each time
that a reconciliation is asked for. -/
theorem reconciliation_is_fresh (configuration : HaConfiguration) (record : ProcessEpochState)
    (published : Bool) (exchanges : List Exchange) :
    ((outputs next positions (construct configuration record published) exchanges).Nodup →
      (outputs next completions (construct configuration record published) exchanges).Nodup) ∧
    ∀ (before between : List Exchange) (report last : Exchange) (health : DependencyHealth)
      (recovery : RecoveryStreamSnapshot), exchanges = before ++ report :: between →
      report.call = .updateHealth health recovery →
      (run next (construct configuration record published) before).Doubts health →
      ((run next (construct configuration record published) exchanges).answer last).permits = true →
      ∃ evidence ∈ outputs next completions
          (run next (construct configuration record published) (before ++ [report])) between,
        Throughout next (Regranted health.observedProcessMonotonicTimeNs)
            (run next (construct configuration record published) (before ++ [report])) between →
          health.observedProcessMonotonicTimeNs ≤ evidence.observedProcessMonotonicTimeNs := by
  constructor
  · intro distinct
    exact ((map_outputs_sublist completions_map_sublist).nodup distinct).of_map _
  rintro before between report last health recovery rfl call doubts permits
  have guarded := guarded_run configuration record published before
  have step := next_step guarded.latched report
  have doubted : Doubted (run next (construct configuration record published)
      (before ++ [report])) := by
    rw [run_append]
    exact (call ▸ step).doubted_of_doubts guarded doubts
  have after := guarded_run configuration record published (before ++ [report])
  have joined : before ++ report :: between = (before ++ [report]) ++ between := by simp
  rcases doubted_or_completed after doubted between with still | ⟨evidence, completed⟩
  · -- The doubt would have lasted until the emission.
    rw [← run_append, ← joined] at still
    have latched := latched_run configuration record published (before ++ report :: between)
    rw [still.not_permits latched last] at permits
    cases permits
  · exact ⟨evidence, completed, fun regranted =>
      completions_observed regranted evidence completed⟩

def gatewayReport : Exchange :=
  exchange 10 (.updateHealth { healthy 1030 with gatewayConnected := false } (stream 10).snapshot)

def gatewayReturned : Exchange :=
  exchange 10 (.updateHealth (healthy 1040) (stream 10).snapshot)

/-- The stream after its first source record. -/
def advanced : RecoveryStreamSnapshot :=
  { (stream 10).snapshot with latestSourceJournalSequence := 1, latestSourceJournalHash := 5 }

/-- The gateway is back, and the node reconciles at a later position under a renewed grant. -/
def reconciledAgain : List Exchange :=
  [gatewayReturned, exchange 10 (.applyFencingGrant (TestSupport.grant 1 10 0 2 1041 5000) 1041),
    exchange 10 (.completeReconciliation (evidence 10 1042 advanced)
      { advanced with stableHash := stableRecoverySnapshotHash advanced })]

theorem reconciliation_is_fresh_after_gateway_loss :
    (outputs next completions node (activation 7 ++ gatewayReport :: reconciledAgain)).Nodup ∧
      ∃ evidence ∈ outputs next completions (run next node (activation 7 ++ [gatewayReport]))
          reconciledAgain,
        1030 ≤ evidence.observedProcessMonotonicTimeNs := by
  obtain ⟨once, renewed⟩ := reconciliation_is_fresh (TestSupport.configuration) {} true
    (activation 7 ++ gatewayReport :: reconciledAgain)
  obtain ⟨evidence, completed, observed⟩ := renewed (activation 7) reconciledAgain gatewayReport
    (exchange 10 (.authorizeEmission (emission 10 1 1050)))
    { healthy 1030 with gatewayConnected := false } (stream 10).snapshot rfl rfl
    (by decide +kernel) (by decide +kernel)
  exact ⟨once (by decide +kernel), evidence, completed, observed (by decide +kernel)⟩

/-- The evidence of the activation completes a second reconciliation. -/
theorem old_evidence_accepted_again :
    ((run next node (activation 7 ++ [gatewayReport])).state = .leaderReconciling) ∧
      (run next node (activation 7)).Doubts { healthy 1030 with gatewayConnected := false } ∧
      outputs next completions node (activation 7 ++ [gatewayReport, gatewayReturned,
        exchange 10 (.completeReconciliation (firstEvidence 7) (stream 10).snapshot)]) =
          [firstEvidence 7, firstEvidence 7] ∧
      (firstEvidence 7).observedProcessMonotonicTimeNs < 1030 ∧
      ((run next node (activation 7 ++ [gatewayReport, gatewayReturned,
        exchange 10 (.completeReconciliation (firstEvidence 7) (stream 10).snapshot)])).answer
          (exchange 10 (.authorizeEmission (emission 10 1 1050)))).permits = true := by
  decide +kernel

end EdgeHaCoordinator

end Aegis.HighAvailability
