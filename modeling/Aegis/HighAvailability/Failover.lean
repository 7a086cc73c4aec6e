import Aegis.HighAvailability.CoordinatorLaws
import Aegis.HighAvailability.RecoveryStreamLaws
import Aegis.HighAvailability.TestSupport

/-!
Any number of coordinators on one recovery stream, over every interleaving.
-/

namespace Aegis.HighAvailability

open Aegis.Common Aegis.EventBus Aegis.Foundation EdgeHaCoordinator

structure Cluster where
  nodes : Nat → EdgeHaCoordinator
  stream : BoundedRecoveryStream

namespace Cluster

/-- A call on a node, a replay, or an append of another writer. -/
inductive Action where
  | node (index : Nat) (call : Call) (published : Bool)
  | applyNext
  | append (payload : RecoveryPayload)

variable (s : Cluster)

def perform (index : Nat) (call : Call) (published : Bool) :
    EdgeHaCoordinator × BoundedRecoveryStream × Response :=
  (s.nodes index).perform s.stream published call

def step : Action → Cluster
  | .node index call published =>
      { nodes := Function.update s.nodes index (s.perform index call published).1
        stream := (s.perform index call published).2.1 }
  | .applyNext => { s with stream := s.stream.applyNext.1 }
  | .append payload => { s with stream := (s.stream.append payload).1 }

def permitted : Action → List GlobalEventId
  | .node index (.authorizeEmission request) published =>
      if (s.perform index (.authorizeEmission request) published).2.2.permits then
        [request.commandId]
      else []
  | _ => []

def acceptedTokens : Action → List UInt64
  | .node index (.applyFencingGrant grant now) published =>
      if (s.perform index (.applyFencingGrant grant now) published).2.2 = .grant .accepted then
        [grant.value.fencingToken]
      else []
  | _ => []

end Cluster

/-! ### What a call does to the stream -/

namespace EdgeHaCoordinator

variable {c : EdgeHaCoordinator} {stream : BoundedRecoveryStream}

theorem emissionPayload_kind (request : EmissionRequest) :
    (emissionPayload request).kind = .orderEmission := rfl

theorem emissionPayload_commandId (request : EmissionRequest) :
    (emissionPayload request).commandId = request.commandId := rfl

theorem emissionPayload_token (request : EmissionRequest) :
    (emissionPayload request).authority.fencingToken = request.fencingToken := rfl

/-- A decision permits nothing, or is the answer of the stream. -/
theorem decideEmission_cases (c : EdgeHaCoordinator) (request : EmissionRequest) (published : Bool)
    (stream : BoundedRecoveryStream) : ((c.decideEmission request published stream).2.1 = stream ∧
        (c.decideEmission request published stream).2.2.status ≠ .permitted) ∨
      (c.decideEmission request published stream = c.emit request published stream ∧
        request.fencingToken = c.grant.fencingToken) := by
  unfold decideEmission
  split
  · exact .inl ⟨rfl, nofun⟩
  split
  · exact .inl ⟨rfl, nofun⟩
  split
  · exact .inl ⟨rfl, nofun⟩
  split
  · exact .inl ⟨rfl, nofun⟩
  next current =>
  split
  · exact .inl ⟨rfl, nofun⟩
  refine .inr ⟨rfl, ?_⟩
  simp only [currentRequest, Bool.not_eq_true', Bool.not_eq_false, Bool.and_eq_true,
    beq_iff_eq] at current
  exact current.1.2

theorem emit_stream (c : EdgeHaCoordinator) (request : EmissionRequest) (published : Bool)
    (stream : BoundedRecoveryStream) :
    (c.emit request published stream).2.1 = (stream.append (emissionPayload request)).1 ∧
      ((c.emit request published stream).2.2.status = .permitted →
        (stream.append (emissionPayload request)).2.status = .accepted) := by
  unfold emit
  dsimp only
  split
  · next accepted => exact ⟨rfl, fun _ => accepted⟩
  · exact ⟨rfl, nofun⟩
  · refine ⟨rfl, fun permitted => ?_⟩
    dsimp only at permitted
    split at permitted <;> cases permitted

/-- It is refused, renews the node's own, or rotates the stream. -/
inductive GrantOutcome (c : EdgeHaCoordinator) (grant : FencingGrant) (now : UInt64)
    (published : Bool) (stream : BoundedRecoveryStream) :
    EdgeHaCoordinator × BoundedRecoveryStream × GrantStatus → Prop
  | refused {status : GrantStatus} (accepted : status ≠ .accepted) (renewed : status ≠ .renewed) :
      GrantOutcome c grant now published stream (c, stream, status)
  | renewed {c' : EdgeHaCoordinator} :
      GrantOutcome c grant now published stream (c', stream, .renewed)
  | accepted (other : grant.fencingToken ≠ c.grant.fencingToken)
      (previous : grant.previousFencingToken = c.expectedPreviousToken stream)
      (rotated : (stream.rotateAuthority (c.authorityOf grant)).2 = .rotated ∨
        (stream.rotateAuthority (c.authorityOf grant)).2 = .unchanged) :
      GrantOutcome c grant now published stream
        (c.takeOver grant now published, (stream.rotateAuthority (c.authorityOf grant)).1,
          .accepted)

theorem applyFencingGrant_outcome (c : EdgeHaCoordinator) (verified : VerifiedFencingGrant)
    (now : UInt64) (published : Bool) (stream : BoundedRecoveryStream) :
    GrantOutcome c verified.value now published stream
      (c.applyFencingGrant verified now published stream) := by
  unfold applyFencingGrant
  dsimp only
  split
  · exact .refused nofun nofun
  split
  · exact .refused nofun nofun
  split
  · exact .refused nofun nofun
  split
  · exact .refused nofun nofun
  split
  · exact .refused nofun nofun
  split
  · exact .refused nofun nofun
  split
  · split
    · exact .refused nofun nofun
    · exact .renewed
  next other =>
  split
  · exact .refused nofun nofun
  next fenced =>
  have previous := not_not.mp (not_or.mp fenced).2
  rcases stream.rotateAuthority_cases (c.authorityOf verified.value) with
    ⟨-, eq⟩ | ⟨-, eq⟩ | ⟨status, rotated, unchanged, eq⟩
  · simpa [eq] using GrantOutcome.accepted other previous (.inl (by rw [eq]))
  · simpa [eq] using GrantOutcome.accepted other previous (.inr (by rw [eq]))
  · simp only [eq]
    rw [if_pos ⟨rotated, unchanged⟩]
    exact .refused nofun nofun

inductive StreamStep (stream : BoundedRecoveryStream) : BoundedRecoveryStream → Prop
  | unchanged : StreamStep stream stream
  | appended (payload : RecoveryPayload) : StreamStep stream (stream.append payload).1
  | rotated (authority : RecoveryAuthority) :
      StreamStep stream (stream.rotateAuthority authority).1

theorem perform_stream (c : EdgeHaCoordinator) (stream : BoundedRecoveryStream) (published : Bool)
    (call : Call) : StreamStep stream (c.perform stream published call).2.1 := by
  cases call with
  | applyFencingGrant grant now =>
    have outcome := applyFencingGrant_outcome c grant now published stream
    change StreamStep stream (c.applyFencingGrant grant now published stream).2.1
    generalize c.applyFencingGrant grant now published stream = result at outcome
    cases outcome with
    | refused | renewed => exact .unchanged
    | accepted => exact .rotated _
  | authorizeEmission request =>
    change StreamStep stream (c.decideEmission request published stream).2.1
    rcases c.decideEmission_cases request published stream with ⟨same, -⟩ | ⟨emitted, -⟩
    · rw [same]
      exact .unchanged
    · rw [emitted, (c.emit_stream request published stream).1]
      exact .appended _
  | _ => exact .unchanged

theorem stream_of_permitted (c : EdgeHaCoordinator) (stream : BoundedRecoveryStream)
    (published : Bool) (request : EmissionRequest)
    (permits : (c.perform stream published (.authorizeEmission request)).2.2.permits) :
    (c.perform stream published (.authorizeEmission request)).2.1 =
        (stream.append (emissionPayload request)).1 ∧
      (stream.append (emissionPayload request)).2.status = .accepted ∧
      request.fencingToken = c.grant.fencingToken := by
  have status : (c.decideEmission request published stream).2.2.status = .permitted := by
    simpa [perform, authorizeEmission, Response.permits] using permits
  rcases c.decideEmission_cases request published stream with ⟨-, refused⟩ | ⟨emitted, token⟩
  · exact absurd status refused
  · obtain ⟨appended, accepted⟩ := c.emit_stream request published stream
    rw [← emitted] at appended accepted
    exact ⟨appended, accepted status, token⟩

theorem StreamStep.known {stream stream' : BoundedRecoveryStream} (step : StreamStep stream stream')
    {commandId : GlobalEventId} (known : Known stream.publishedCommands commandId) :
    Known stream'.publishedCommands commandId := by
  cases step with
  | unchanged => exact known
  | appended payload =>
    rcases (stream.append_appended payload).outcome with ⟨-, -, -, written⟩ | ⟨-, same⟩
    · exact written.known known
    · rwa [same]
  | rotated authority =>
    rcases stream.rotateAuthority_cases authority with ⟨-, eq⟩ | ⟨-, eq⟩ | ⟨_, -, -, eq⟩ <;>
    · rw [eq]
      exact known

theorem StreamStep.token {stream stream' : BoundedRecoveryStream}
    (step : StreamStep stream stream') :
    stream.authority.fencingToken ≤ stream'.authority.fencingToken := by
  cases step with
  | unchanged => exact UInt64.le_refl _
  | appended payload => rw [(stream.append_appended payload).authority]; exact UInt64.le_refl _
  | rotated authority => exact stream.token_rotateAuthority authority

end EdgeHaCoordinator

namespace Cluster

variable (s : Cluster)

theorem applyNext_stream (stream : BoundedRecoveryStream) :
    stream.applyNext.1.publishedCommands = stream.publishedCommands ∧
      stream.applyNext.1.authority = stream.authority := by
  unfold BoundedRecoveryStream.applyNext
  split
  · exact ⟨rfl, rfl⟩
  split
  · exact ⟨rfl, rfl⟩
  split
  · exact ⟨rfl, rfl⟩
  split
  · exact ⟨rfl, rfl⟩
  · exact ⟨rfl, rfl⟩

variable {commandId : GlobalEventId} {action : Action}

theorem known_step (action : Action) (known : Known s.stream.publishedCommands commandId) :
    Known (s.step action).stream.publishedCommands commandId := by
  cases action with
  | node index call published => exact (perform_stream _ s.stream published call).known known
  | applyNext => exact (applyNext_stream s.stream).1 ▸ known
  | append payload => exact (StreamStep.appended payload).known known

theorem token_step (action : Action) :
    s.stream.authority.fencingToken ≤ (s.step action).stream.authority.fencingToken := by
  cases action with
  | node index call published => exact (perform_stream _ s.stream published call).token
  | applyNext => exact (applyNext_stream s.stream).2 ▸ UInt64.le_refl _
  | append payload => exact (StreamStep.appended payload).token

/-! ### Emission at most once -/

theorem token_run (actions : List Action) :
    s.stream.authority.fencingToken ≤ (run step s actions).stream.authority.fencingToken :=
  run_preserves
    (P := fun s' : Cluster => s.stream.authority.fencingToken ≤ s'.stream.authority.fencingToken)
    (fun s' action below => UInt64.le_trans below (s'.token_step action)) (UInt64.le_refl _) actions

theorem mem_permitted (mem : commandId ∈ s.permitted action) :
    ∃ index request published, action = .node index (.authorizeEmission request) published ∧
      commandId = request.commandId ∧
      (s.perform index (.authorizeEmission request) published).2.2.permits = true := by
  unfold permitted at mem
  split at mem
  · split at mem
    · next permits => exact ⟨_, _, _, rfl, List.mem_singleton.mp mem, permits⟩
    · nomatch mem
  · nomatch mem

theorem known_of_permitted (mem : commandId ∈ s.permitted action) :
    ¬ Known s.stream.publishedCommands commandId ∧
      Known (s.step action).stream.publishedCommands commandId := by
  obtain ⟨index, request, published, rfl, rfl, permits⟩ := s.mem_permitted mem
  obtain ⟨appended, accepted, -⟩ := stream_of_permitted _ s.stream published request permits
  rcases (s.stream.append_appended (emissionPayload request)).outcome with
    ⟨-, -, valid, written⟩ | ⟨refused, -⟩
  · have kind := emissionPayload_kind request
    have unknown := BoundedRecoveryStream.not_known_of_accepted kind valid
    have known := written.known_self kind
    rw [emissionPayload_commandId, ← appended] at known
    exact ⟨unknown, known⟩
  · exact absurd accepted refused

/-- A command is permitted at most once over all nodes and tokens, and a fenced token never
again. -/
theorem permitted_at_most_once (s : Cluster) (actions : List Action) :
    (outputs step permitted s actions).Nodup ∧
      ∀ (before after : List Action) (index : Nat) (request : EmissionRequest) (published : Bool),
        actions = before ++ after →
        ((run step s actions).perform index (.authorizeEmission request)
          published).2.2.permits = true →
        (run step s before).stream.authority.fencingToken ≤
          ((run step s actions).nodes index).grant.fencingToken := by
  constructor
  · refine outputs_pairwise (I := fun _ => True)
      (J := fun commandId s => Known s.stream.publishedCommands commandId)
      (fun _ _ _ => trivial) ?_ ?_ ?_ ?_ trivial
    · intro s action _
      unfold permitted
      split
      · split <;> simp
      · simp
    · exact fun s action commandId _ mem => (s.known_of_permitted mem).2
    · exact fun s action commandId _ known => s.known_step action known
    · rintro s action first _ - known mem rfl
      exact (s.known_of_permitted mem).1 known
  · rintro before after index request published rfl permits
    obtain ⟨-, accepted, token⟩ := stream_of_permitted _ _ published request permits
    rcases ((run step s (before ++ after)).stream.append_appended
      (emissionPayload request)).outcome with ⟨-, wellFormed, -, -⟩ | ⟨refused, -⟩
    · -- The payload carried the stream's own authority.
      simp only [BoundedRecoveryStream.wellFormed, Bool.and_eq_true, beq_iff_eq] at wellFormed
      have same := congrArg RecoveryAuthority.fencingToken wellFormed.1.1.2
      have later := token_run (run step s before) after
      rw [← run_append, ← same, emissionPayload_token, token] at later
      exact later
    · exact absurd accepted refused

section TwoLeaders

open TestSupport

def pair : Cluster where
  nodes := fun index =>
    if index = 0 then node else .construct (TestSupport.configuration 2 102) {} true
  stream := TestSupport.stream 0

def on (index : Nat) (call : Call) : Action :=
  .node index call true

/-- The first node emits a command; the standby replays it. -/
def firstLeader : List Action :=
  (activation 7).map (fun exchange => on 0 exchange.call) ++
    [on 0 (.authorizeEmission (emission 10 1 1030)), .applyNext]

/-- The second node takes over; both emit the same command. -/
def secondLeader : List Action :=
  let recovery := (run step pair firstLeader).stream.snapshot
  let taken := { (run step pair firstLeader).stream with
    authority := { recovery.authority with fencingToken := 11 } }.snapshot
  [on 1 (.start 1040), on 1 (.applyFencingGrant (TestSupport.grant 2 11 10 1 1041 5000) 1041),
    on 1 (.updateHealth (healthy 1050) taken),
    on 1 (.completeReconciliation (evidence 11 1051 taken) taken),
    on 1 (.authorizeEmission (emission 11 1 1060)),
    on 1 (.authorizeEmission (emission 11 2 1061)),
    on 0 (.authorizeEmission (emission 10 3 1062))]

theorem permitted_at_most_once_over_failover :
    outputs step permitted pair (firstLeader ++ secondLeader) = [⟨8, 1⟩, ⟨8, 2⟩] ∧
      (outputs step permitted pair (firstLeader ++ secondLeader)).Nodup :=
  ⟨by decide +kernel, (permitted_at_most_once pair (firstLeader ++ secondLeader)).1⟩

end TwoLeaders

/-! ### The chain of owners -/

/-- The node's grant is that of the stream, or it holds none and this is another one. -/
def Orderly : Action → Prop
  | .node index (.applyFencingGrant grant _) _ =>
      (s.nodes index).grant.fencingToken = s.stream.authority.fencingToken ∨
        (s.nodes index).grant.fencingToken = 0 ∧
          grant.value.fencingToken ≠ s.stream.authority.fencingToken
  | _ => True

instance : ∀ action, Decidable (s.Orderly action)
  | .node _ (.applyFencingGrant _ _) _ => inferInstanceAs (Decidable (_ ∨ _))
  | .node _ (.start _) _ | .node _ (.heartbeat _) _ | .node _ (.updateHealth _ _) _
  | .node _ (.completeReconciliation _ _) _ | .node _ (.authorizeEmission _) _
  | .node _ (.operatorFence _) _ | .node _ (.shutdown _) _ | .node _ (.epochWritten _) _
  | .applyNext | .append _ => .isTrue trivial

/-- An accepted grant replaces the token of the stream. -/
theorem accepted_of_orderly {index : Nat} {grant : VerifiedFencingGrant} {now : UInt64}
    {published : Bool} (orderly : s.Orderly (.node index (.applyFencingGrant grant now) published))
    (accepted : (s.perform index (.applyFencingGrant grant now) published).2.2 = .grant .accepted) :
    grant.value.previousFencingToken = s.stream.authority.fencingToken ∧
      s.stream.authority.fencingToken < grant.value.fencingToken ∧
      (s.perform index (.applyFencingGrant grant now) published).2.1.authority.fencingToken =
        grant.value.fencingToken := by
  change Response.grant ((s.nodes index).applyFencingGrant grant now published s.stream).2.2 = _
    at accepted
  change _ ∧ _ ∧ ((s.nodes index).applyFencingGrant grant now published
    s.stream).2.1.authority.fencingToken = _
  have outcome := applyFencingGrant_outcome (s.nodes index) grant now published s.stream
  generalize (s.nodes index).applyFencingGrant grant now published s.stream = result
    at accepted outcome
  cases outcome with
  | refused other _ => exact absurd (Response.grant.inj accepted) other
  | renewed => cases accepted
  | accepted other previous rotated =>
    have expected : (s.nodes index).expectedPreviousToken s.stream =
        s.stream.authority.fencingToken := by
      unfold expectedPreviousToken
      split
      · rfl
      · next held => exact orderly.resolve_right fun none => held none.1
    have differs : grant.value.fencingToken ≠ s.stream.authority.fencingToken := by
      rcases orderly with own | ⟨-, differs⟩
      · exact own ▸ other
      · exact differs
    rcases s.stream.rotateAuthority_cases ((s.nodes index).authorityOf grant.value) with
      ⟨greater, eq⟩ | ⟨same, -⟩ | ⟨status, notRotated, notUnchanged, eq⟩
    · rw [eq]
      exact ⟨previous.trans expected, greater, rfl⟩
    · exact absurd same differs
    · rw [eq] at rotated
      exact absurd rotated (not_or.mpr ⟨notRotated, notUnchanged⟩)

theorem mem_acceptedTokens {token : UInt64} (mem : token ∈ s.acceptedTokens action) :
    ∃ index grant now published, action = .node index (.applyFencingGrant grant now) published ∧
      token = grant.value.fencingToken ∧
      (s.perform index (.applyFencingGrant grant now) published).2.2 = .grant .accepted := by
  unfold acceptedTokens at mem
  split at mem
  · split at mem
    · next accepted => exact ⟨_, _, _, _, rfl, List.mem_singleton.mp mem, accepted⟩
    · nomatch mem
  · nomatch mem

theorem refused_grant (index : Nat) (grant : VerifiedFencingGrant) (now : UInt64) (published : Bool)
    (accepted : (s.perform index (.applyFencingGrant grant now) published).2.2 ≠ .grant .accepted)
    (renewed : (s.perform index (.applyFencingGrant grant now) published).2.2 ≠ .grant .renewed) :
    s.step (.node index (.applyFencingGrant grant now) published) = s := by
  have outcome := applyFencingGrant_outcome (s.nodes index) grant now published s.stream
  change Response.grant ((s.nodes index).applyFencingGrant grant now published s.stream).2.2 ≠ _
    at accepted renewed
  change Cluster.mk (Function.update s.nodes index
    ((s.nodes index).applyFencingGrant grant now published s.stream).1)
    ((s.nodes index).applyFencingGrant grant now published s.stream).2.1 = s
  generalize (s.nodes index).applyFencingGrant grant now published s.stream = result
    at accepted renewed outcome
  cases outcome with
  | refused => rw [Function.update_eq_self]
  | renewed => exact absurd rfl renewed
  | accepted => exact absurd rfl accepted

/-- When every grant meets the condition, each accepted one names the token it replaces, and tokens
grow. -/
theorem ownership_chain {s : Cluster} {actions : List Action}
    (orderly : Throughout step Orderly s actions) :
    (outputs step acceptedTokens s actions).Pairwise (· < ·) ∧
      ∀ (before after : List Action) (index : Nat) (grant : VerifiedFencingGrant) (now : UInt64)
        (published : Bool),
        actions = before ++ .node index (.applyFencingGrant grant now) published :: after →
        ∃ status, ((run step s before).perform index (.applyFencingGrant grant now)
            published).2.2 = .grant status ∧
          (status = .accepted → grant.value.previousFencingToken =
            (run step s before).stream.authority.fencingToken) ∧
          (status ≠ .accepted → status ≠ .renewed →
            (run step s before).step (.node index (.applyFencingGrant grant now) published) =
              run step s before) := by
  constructor
  · refine outputs_pairwise_of_throughout (I := fun _ => True)
      (J := fun token s => token ≤ s.stream.authority.fencingToken)
      (fun _ _ _ _ => trivial) ?_ ?_ ?_ ?_ trivial orderly
    · exact fun s action token _ _ below => UInt64.le_trans below (s.token_step action)
    · intro s action first token _ orderly below mem
      obtain ⟨index, grant, now, published, rfl, rfl, accepted⟩ := s.mem_acceptedTokens mem
      exact UInt64.lt_of_le_of_lt below (s.accepted_of_orderly orderly accepted).2.1
    · intro s action _
      unfold acceptedTokens
      split
      · split <;> simp
      · simp
    · intro s action token _ orderly mem
      obtain ⟨index, grant, now, published, rfl, rfl, accepted⟩ := s.mem_acceptedTokens mem
      exact UInt64.le_of_eq (s.accepted_of_orderly orderly accepted).2.2.symm
  · rintro before after index grant now published rfl
    have nowOrderly := (throughout_append.mp orderly).2.1
    refine ⟨((run step s before).nodes index).applyFencingGrant grant now published
      (run step s before).stream |>.2.2, rfl, fun accepted => ?_, fun accepted renewed => ?_⟩
    · exact ((run step s before).accepted_of_orderly nowOrderly
        (congrArg Response.grant accepted)).1
    · exact (run step s before).refused_grant index grant now published
        (fun same => accepted (Response.grant.inj same))
        (fun same => renewed (Response.grant.inj same))

def handover : List Action :=
  [on 0 (.start 1000), on 1 (.start 1000),
    on 0 (.applyFencingGrant (TestSupport.grant 1 1 0 1 1010 5000) 1010),
    on 1 (.applyFencingGrant (TestSupport.grant 2 2 1 1 1020 5000) 1020)]

theorem ownership_chain_of_handover : outputs step acceptedTokens pair handover = [1, 2] ∧
      (outputs step acceptedTokens pair handover).Pairwise (· < ·) :=
  ⟨by decide +kernel, (ownership_chain (s := pair) (by decide +kernel)).1⟩

/-- Grants that name a stale owner, or the current token, are accepted. -/
theorem failback_names_stale_owner : (run step pair handover).stream.authority.fencingToken = 2 ∧
      ((run step pair handover).perform 0
        (.applyFencingGrant (TestSupport.grant 1 3 1 2 1030 5000) 1030) true).2.2 =
          .grant .accepted ∧
      (TestSupport.grant 1 3 1 2 1030 5000).value.previousFencingToken = 1 ∧
      outputs step acceptedTokens pair (handover.take 3 ++
          [on 1 (.applyFencingGrant (TestSupport.grant 2 1 1 1 1020 5000) 1020)]) = [1, 1] := by
  decide +kernel

end Cluster

end Aegis.HighAvailability
