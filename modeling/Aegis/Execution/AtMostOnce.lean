import Aegis.Execution.Readiness

/-!
Commands are accepted at most once. `recover` rebuilds the order table before it asks the session,
so one that does not complete may drop the orders, and an order id can be accepted again.
-/

namespace Aegis.Execution

open Aegis.Common Aegis.Foundation Aegis.MarketData Function Option GatewayAuditJournal
open Aegis.Oms (GatewayCommandKind)

namespace GatewayAuditJournal

variable {journal journal' : GatewayAuditJournal}

def Extends (journal journal' : GatewayAuditJournal) : Prop :=
  ∀ sequence record, journal.read sequence = some record → journal'.read sequence = some record

variable {reservation : Nat} {record : GatewayAuditRecord}

theorem extends_tryReserve
    (reserved : journal.tryReserve = some (reservation, journal')) : Extends journal journal' := by
  unfold tryReserve at reserved
  split at reserved
  · cases reserved
  · cases reserved
    exact fun _ _ found => found

theorem extends_commit
    (committed : journal.commit reservation record = some journal') : Extends journal journal' := by
  unfold commit at committed
  split at committed
  · next inside =>
    cases committed
    intro sequence found
    unfold read
    intro read
    split at read
    · next published =>
      have other : (⟨sequence - 1, by omega⟩ : Fin kMaximumGatewayJournalRecords) ≠
          ⟨reservation - 1, by omega⟩ := by
        rw [Ne, Fin.mk.injEq]
        omega
      rw [dif_pos ⟨published.1, published.2.1, by dsimp only; omega⟩]
      dsimp only
      rw [update_of_ne other]
      exact read
    · cases read
  · cases committed

theorem stableGatewayAuditRecordHash_stableHash (record : GatewayAuditRecord) (hash : UInt64) :
    stableGatewayAuditRecordHash { record with stableHash := hash } =
      stableGatewayAuditRecordHash record :=
  rfl

theorem read_commit (committed : journal.commit reservation record = some journal') :
    journal'.read reservation = some (journal.sealRecord reservation record) := by
  unfold commit at committed
  split at committed
  · next inside =>
    cases committed
    have hash : (journal.sealRecord reservation record).stableHash =
        stableGatewayAuditRecordHash (journal.sealRecord reservation record) :=
      (stableGatewayAuditRecordHash_stableHash _ _).symm
    have nonzero : (journal.sealRecord reservation record).stableHash ≠ 0 :=
      hashWords_ne_zero _
    have sequence : (journal.sealRecord reservation record).sequence = reservation := rfl
    unfold read
    rw [dif_pos ⟨inside.1, inside.2.1, le_rfl⟩]
    dsimp only
    rw [update_self]
    rw [if_pos (by simp [← hash, nonzero, sequence])]
  · cases committed

end GatewayAuditJournal

def sequenceRank (sequence : UInt64) : Nat :=
  if sequence = 0 then 2 ^ 64 else sequence.toNat

theorem sequenceRank_successor {sequence : UInt64} (some' : sequence ≠ 0) :
    sequenceRank (SequenceManager.successor sequence) = sequence.toNat + 1 := by
  unfold sequenceRank SequenceManager.successor
  split
  · next last =>
    subst last
    rfl
  next inside =>
  have below : sequence.toNat + 1 < 2 ^ 64 := by
    have bound := sequence.toNat_lt
    have ne : sequence.toNat ≠ 2 ^ 64 - 1 := fun last =>
      inside (UInt64.toNat_inj.mp last)
    omega
  have exact' : (sequence + 1).toNat = sequence.toNat + 1 := by
    rw [UInt64.toNat_add, UInt64.toNat_one, Nat.mod_eq_of_lt below]
  rw [if_neg, exact']
  intro zero
  rw [zero] at exact'
  cases exact'

namespace SessionLifecycle

variable {s session : SessionLifecycle} {now : UInt64}

@[simp] theorem halt_sequences (s : SessionLifecycle) (now : UInt64) (reason : SessionReason) :
    (s.halt now reason).sequences = s.sequences := by
  unfold halt
  split
  · rfl
  · rfl

theorem checkHeartbeatTimeout_sequences (s : SessionLifecycle) (now : UInt64) :
    (s.checkHeartbeatTimeout now).1.sequences = s.sequences := by
  unfold checkHeartbeatTimeout
  split
  · rfl
  split
  · rfl
  · exact s.halt_sequences now _

theorem logon_sequences (s : SessionLifecycle) (now : UInt64) :
    (s.logon now).1.sequences = s.sequences := by
  unfold logon requestLogon
  split
  · rfl
  next requested =>
  split at requested
  · cases requested
  cases requested
  unfold acceptLogon
  split
  · rfl
  next accepted =>
  split at accepted
  · cases accepted
  · cases accepted
    rfl

theorem logoff_sequences (s : SessionLifecycle) (now : UInt64) :
    (s.logoff now).1.sequences = s.sequences := by
  unfold logoff requestLogoff
  split
  · rfl
  next requested =>
  split at requested
  · cases requested
  cases requested
  unfold completeLogoff
  split
  · rfl
  next completed =>
  split at completed
  · cases completed
  · cases completed
    rfl

theorem beginRecovery_sequences {reason : SessionReason}
    (begun : s.beginRecovery now reason = some session) : session.sequences = s.sequences := by
  unfold beginRecovery at begun
  split at begun
  · cases begun
  · cases begun
    rfl

theorem completeRecovery_nextOutbound {sequence : UInt64}
    (completed : s.completeRecovery now sequence = some session) :
    session.sequences.nextOutbound = s.sequences.nextOutbound := by
  unfold completeRecovery at completed
  split at completed
  · cases completed
  · cases completed
    rfl

theorem observe_nextOutbound (s : SequenceManager) (sequence : UInt64) :
    (s.observeInbound sequence).1.nextOutbound = s.nextOutbound := by
  unfold SequenceManager.observeInbound
  split
  · rfl
  split
  · rfl
  split
  · rfl
  split
  · rfl
  · rfl

theorem observeInbound_nextOutbound (s : SessionLifecycle) (now sequence : UInt64) :
    (s.observeInbound now sequence).1.sequences.nextOutbound = s.sequences.nextOutbound := by
  have observed := observe_nextOutbound s.sequences sequence
  unfold observeInbound
  split
  · rfl
  dsimp only
  split <;> first | exact observed | rw [halt_sequences]; exact observed

theorem claimOutbound_spec (s : SessionLifecycle) (now : UInt64) :
    ((s.claimOutbound now).2 = none ∧ (s.claimOutbound now).1.sequences = s.sequences) ∨
      (s.sequences.nextOutbound ≠ 0 ∧ (s.claimOutbound now).2 = some s.sequences.nextOutbound ∧
        (s.claimOutbound now).1.sequences.nextOutbound =
          SequenceManager.successor s.sequences.nextOutbound) := by
  unfold claimOutbound SequenceManager.claimOutbound
  split
  · exact .inl ⟨rfl, rfl⟩
  by_cases exhausted : s.sequences.nextOutbound = 0
  · rw [if_pos exhausted]
    exact .inl ⟨rfl, s.halt_sequences now _⟩
  · rw [if_neg exhausted]
    exact .inr ⟨exhausted, rfl, rfl⟩

end SessionLifecycle

namespace SimulatedGateway

variable {s s' : SimulatedGateway} {call : Call} {request : GatewayRequest}
  {expected : GatewayCommandKind}

def outboundRank (s : SimulatedGateway) : Nat :=
  sequenceRank s.session.sequences.nextOutbound

theorem Part.outboundRank_le (part : Part call s s') : s.outboundRank ≤ s'.outboundRank := by
  have same : ∀ {s s' : SimulatedGateway},
      s'.session.sequences.nextOutbound = s.session.sequences.nextOutbound →
      s.outboundRank ≤ s'.outboundRank := by
    intro s s' eq
    unfold outboundRank
    rw [eq]
  cases part with
  | frame frame => exact same (congrArg (·.sequences.nextOutbound) frame.session)
  | setUnsafe reason now =>
    exact same (congrArg (·.nextOutbound) (s.session.halt_sequences now reason))
  | append appended =>
    obtain ⟨journal, -, rfl⟩ := map_eq_some_iff.mp appended
    exact le_rfl
  | updateHealth | reserve | file | shutdown => exact le_rfl
  | claim now =>
    rcases s.session.claimOutbound_spec now with ⟨-, kept⟩ | ⟨some', -, advanced⟩
    · exact same (congrArg (·.nextOutbound) kept)
    · unfold outboundRank
      rw [advanced, sequenceRank_successor some', sequenceRank, if_neg some']
      exact Nat.le_succ _
  | check now =>
    exact same (congrArg (·.nextOutbound) (s.session.checkHeartbeatTimeout_sequences now))
  | observe poll sequence => exact same (s.session.observeInbound_nextOutbound _ sequence)
  | logon => exact same (congrArg (·.nextOutbound) (s.session.logon_sequences _))
  | logoff => exact same (congrArg (·.nextOutbound) (s.session.logoff_sequences _))
  | beginRecovery _ begun =>
    exact same (congrArg (·.nextOutbound) (SessionLifecycle.beginRecovery_sequences begun))
  | completeRecovery _ completed =>
    exact same (SessionLifecycle.completeRecovery_nextOutbound completed)

theorem Part.extends (part : Part call s s') : s.journal.Extends s'.journal := by
  cases part with
  | frame frame =>
    rw [frame.journal]
    exact fun _ _ found => found
  | reserve reserved => exact extends_tryReserve reserved
  | append appended =>
    obtain ⟨journal, committed, rfl⟩ := map_eq_some_iff.mp appended
    exact extends_commit committed
  | _ => exact fun _ _ found => found

variable {commandId : GlobalEventId} {reservation : Nat} {record : GatewayAuditRecord}
  {command : Accepted}

theorem Part.findCommand (part : Part call s s') (known : (s.findCommand commandId).isSome) :
    (s'.findCommand commandId).isSome := by
  cases part with
  | frame frame =>
    rw [SimulatedGateway.findCommand, frame.commands]
    exact known
  | append appended =>
    obtain ⟨journal, -, rfl⟩ := map_eq_some_iff.mp appended
    exact known
  | @file index slot absent free occupied =>
    unfold SimulatedGateway.findCommand at known ⊢
    split
    · next invalid =>
      rw [if_pos invalid] at known
      cases known
    · next valid =>
      rw [if_neg valid] at known
      obtain ⟨hit, found⟩ := isSome_iff_exists.mp known
      rw [Layout.find_insert_of_found free found]
      rfl
  | _ => exact known

/-- The gateway is unsafe, or it was shut down. -/
def Barred (s : SimulatedGateway) : Prop :=
  s.health = .unsafeHealth ∨ s.stopped = true

theorem Part.barred (part : Part call s s') (barred : Barred s) : Barred s' := by
  rcases barred with unsafe' | stopped
  · cases part with
    | frame frame => exact .inl (frame.health.trans unsafe')
    | setUnsafe => exact .inl rfl
    | updateHealth =>
      unfold Barred SimulatedGateway.updateHealth
      by_cases stopped : s.stopped
      · exact .inr stopped
      · refine .inl ?_
        rw [if_neg stopped, if_pos unsafe']
    | append appended =>
      obtain ⟨journal, -, rfl⟩ := map_eq_some_iff.mp appended
      exact .inl unsafe'
    | shutdown => exact .inr rfl
    | _ => exact .inl unsafe'
  · exact .inr (part.stopped stopped)

theorem decide_accepted (accepted : (s.decide request expected).2.1 = .accepted) :
    s.gate request expected = .accepted ∧
      ∃ (limited : SimulatedGateway) (session : SessionLifecycle) (outbound : UInt64),
        Frame s limited ∧ limited.book = s.book ∧
        s.session.claimOutbound request.now = (session, some outbound) ∧
        (processCommand { limited with session } request outbound).2.1 = .accepted ∧
        (s.decide request expected).1 =
          (processCommand { limited with session } request outbound).1 ∧
        (s.decide request expected).2.2.1 = outbound := by
  have limited := s.frame_rateAllowed expected request.now
  have book := (s.sameBook_rateAllowed expected request.now).book
  unfold decide at accepted ⊢
  split at accepted
  · next refused => exact absurd accepted refused
  next open' =>
  rw [if_neg open']
  refine ⟨not_not.mp open', ?_⟩
  split at accepted
  · cases accepted
  next allowed =>
  rw [if_neg allowed]
  unfold dispatch at accepted ⊢
  rw [limited.session] at accepted ⊢
  cases claimed : s.session.claimOutbound request.now with
  | mk session claim =>
    rw [claimed] at accepted
    cases claim with
    | none => cases accepted
    | some outbound =>
      exact ⟨_, session, outbound, limited, book, rfl, accepted, rfl, rfl⟩

theorem fileOrder_accepted {index : Fin kMaximumGatewayOrders} {order : PaperOrderSnapshot}
    {response : GatewayEvent} {dueNs : UInt64}
    (accepted : (s.fileOrder index order response dueNs).2.1 = .accepted) :
    (s.fileOrder index order response dueNs).1.orders = update s.orders index order := by
  unfold fileOrder at accepted ⊢
  split at accepted
  · cases accepted
  next scheduled eq =>
  unfold scheduleEvent at eq
  split at eq
  · cases eq
  · cases eq
    rfl

theorem processNew_accepted {outbound : UInt64} (valid : request.command.orderId.valid)
    (accepted : (s.processNew request outbound).2.1 = .accepted) :
    orderLayout.find s.orders request.command.orderId = none ∧
      (orderLayout.find (s.processNew request outbound).1.orders
        request.command.orderId).isSome := by
  unfold processNew at accepted ⊢
  split at accepted
  · cases accepted
  next absent =>
  rw [if_neg absent]
  have absent := find_none_of_findOrder valid (by simpa using absent)
  refine ⟨absent, ?_⟩
  split at accepted
  · cases accepted
  next index free =>
  split at accepted
  · cases accepted
  next room =>
  rw [if_neg room]
  split at accepted
  · cases accepted
  unfold placeOrder at accepted ⊢
  split at accepted
  · cases accepted
  · rw [fileOrder_accepted accepted]
    exact isSome_iff_exists.mpr ⟨index, Layout.find_insert_self free rfl rfl absent⟩

theorem of_submitStatus {reason : GatewayReason} (accepted : submitStatus reason = .accepted) :
    reason = .accepted := by
  unfold submitStatus at accepted
  split at accepted
  · assumption
  · split at accepted
    · cases accepted
    · cases accepted

theorem answer_accepted (s : SimulatedGateway) (request : GatewayRequest)
    (expected : GatewayCommandKind) (accepted : (s.answer request expected).2.1.status = .accepted) :
    s.findCommand request.command.commandId = none ∧ (s.decide request expected).2.1 = .accepted ∧
      ∃ index slot, s.findFreeCommand request.command.commandId = some index ∧
        slot.commandId = request.command.commandId ∧ slot.occupied ∧
        (s.answer request expected).1.commands = update s.commands index slot ∧
        (s.answer request expected).1.session = (s.decide request expected).1.session ∧
        (s.answer request expected).1.orders = (s.decide request expected).1.orders ∧
        (s.answer request expected).2.1.outboundSequence = (s.decide request expected).2.2.1 := by
  unfold answer at accepted ⊢
  split at accepted
  · split at accepted
    · cases accepted
    · cases accepted
  next absent =>
  have reason : (s.decide request expected).2.1 = .accepted := by
    refine of_submitStatus ?_
    split at accepted
    · exact accepted
    · exact accepted
  refine ⟨absent, reason, ?_⟩
  have open' := (decide_accepted reason).1
  unfold gate at open'
  split at open'
  · cases open'
  next free =>
  obtain ⟨index, free⟩ := ne_none_iff_exists'.mp
    (fun none => free (isNone_iff_eq_none.mpr none))
  refine ⟨index,
    { commandId := request.command.commandId
      requestHash := request.stableHash
      result :=
        { status := submitStatus (s.decide request expected).2.1
          reason := (s.decide request expected).2.1
          outboundSequence := (s.decide request expected).2.2.1 }
      occupied := true }, free, rfl, rfl, ?_⟩
  rw [free]
  exact ⟨rfl, rfl, rfl, rfl⟩

structure Names (record : GatewayAuditRecord) (request : GatewayRequest) : Prop where
  kind : record.kind = .commandDecision
  correlationId : record.correlationId = request.command.commandId
  orderId : record.orderId = request.command.orderId
  commandHash : record.commandHash = request.command.stableHash
  riskDecisionHash : record.riskDecisionHash = request.riskDecision.stableHash
  safetyStateHash : record.safetyStateHash = request.safety.stableHash

/-- What an accepted command says of the gateway. -/
structure Accepts (s : SimulatedGateway) (request : GatewayRequest)
    (expected : GatewayCommandKind) (s' : SimulatedGateway) (result : GatewaySubmitResult) :
    Prop where
  running : s.stopped = false
  healthy : s.health = .healthy
  fresh : s.findCommand request.command.commandId = none
  known : (s'.findCommand request.command.commandId).isSome = true
  outbound : result.outboundSequence.toNat = s.outboundRank
  advanced : s'.outboundRank = result.outboundSequence.toNat + 1
  journaled : ∃ record, s'.journal.read result.journalSequence = some record ∧ Names record request
  newOrder : expected = .newOrder → orderLayout.find s.orders request.command.orderId = none ∧
      (orderLayout.find s'.orders request.command.orderId).isSome = true

theorem appendAudit_spec
    (appended : s.appendAudit reservation record = some s') (names : Names record request) :
    s'.commands = s.commands ∧ s'.session = s.session ∧ s'.orders = s.orders ∧
      ∃ found, s'.journal.read reservation = some found ∧ Names found request := by
  obtain ⟨journal, committed, rfl⟩ := map_eq_some_iff.mp appended
  exact ⟨rfl, rfl, rfl, _, read_commit committed, ⟨names.kind,
    names.correlationId, names.orderId, names.commandHash, names.riskDecisionHash,
    names.safetyStateHash⟩⟩

theorem findCommand_of_valid (valid : commandId.valid)
    (s : SimulatedGateway) : s.findCommand commandId = commandLayout.find s.commands commandId := by
  unfold findCommand
  simp [valid]

theorem accepts_of_answer {gateway : SimulatedGateway} {given : GatewaySubmitResult} {hash : UInt64}
    (result : GatewaySubmitResult) (running : s.stopped = false)
    (answered : s.answer request expected = (gateway, given, hash))
    (accepted : given.status = .accepted)
    (appended : gateway.appendAudit reservation record = some s') (names : Names record request)
    (sequence : result.journalSequence = reservation)
    (number : result.outboundSequence = given.outboundSequence) :
    Accepts s request expected s'.updateHealth result := by
  have facts := s.answer_accepted request expected
  rw [answered] at facts
  obtain ⟨absent, reason, index, slot, free, commandId, occupied, commands, session, orders,
    outbound⟩ := facts accepted
  obtain ⟨open', limited, claimed, numbered, frame, book, claim, processed, decided, claims⟩ :=
    decide_accepted reason
  have gate := finalGate_of_gate open'
  have admitted := admitted_of_gate gate
  obtain ⟨-, -, ⟨-, healthy⟩, -⟩ := validGatewayRequest_of_gate gate
  have kept := (frame_processCommand { limited with session := claimed } request numbered).session
  rw [← decided] at kept
  obtain ⟨commands', session', orders', journaled⟩ := appendAudit_spec appended names
  have exact' := number.trans (outbound.trans claims)
  have ends := session'.trans (session.trans kept)
  have filed := orders'.trans (orders.trans (congrArg SimulatedGateway.orders decided))
  have commands := commands'.trans commands
  rw [← sequence] at journaled
  rcases s.session.claimOutbound_spec request.now with ⟨none, -⟩ | ⟨some', given, advanced⟩
  · rw [claim] at none
    cases none
  rw [claim] at given advanced
  cases some.inj given
  refine ⟨running, healthy, absent, ?_, ?_, ?_, journaled, ?_⟩
  · rw [findCommand_of_valid admitted.commandId] at absent
    have known : commandLayout.find s'.commands request.command.commandId = some index := by
      rw [commands]
      exact Layout.find_insert_self free occupied commandId absent
    have updated : s'.updateHealth.commands = s'.commands := rfl
    rw [findCommand_of_valid admitted.commandId, updated, known]
    rfl
  · rw [exact', outboundRank, sequenceRank, if_neg some']
  · have last : s'.updateHealth.outboundRank = sequenceRank s'.session.sequences.nextOutbound :=
      rfl
    rw [last, ends, advanced, sequenceRank_successor some', exact']
  · rintro rfl
    have same : limited.orders = s.orders := congrArg Book.orders book
    unfold processCommand at processed filed
    rw [admitted.kind] at processed filed
    obtain ⟨none, found⟩ := processNew_accepted admitted.orderId processed
    rw [← filed] at found
    rw [same] at none
    exact ⟨none, found⟩

theorem submit_accepted (s : SimulatedGateway) (request : GatewayRequest)
    (expected : GatewayCommandKind) (accepted : (s.submit request expected).2.status = .accepted) :
    Accepts s request expected (s.submit request expected).1 (s.submit request expected).2 := by
  unfold submit at accepted ⊢
  by_cases stopped : s.stopped
  · rw [if_pos stopped] at accepted
    cases accepted
  rw [if_neg stopped] at accepted ⊢
  by_cases fresh : (!s.initialized)
  · rw [if_pos fresh] at accepted
    cases accepted
  rw [if_neg fresh] at accepted ⊢
  rcases s.reserving_cases request.now _ _ with ⟨-, full⟩ | ⟨reservation, journal, -, eq⟩
  · rw [full] at accepted
    cases accepted
  rw [eq] at accepted ⊢
  clear eq
  have running : s.stopped = false := by simpa using stopped
  rcases answered : answer { s with journal } request expected with ⟨gateway, result, hash⟩
  dsimp only at accepted ⊢
  rw [answered] at accepted
  unfold audit at accepted ⊢
  cases appended : gateway.appendAudit reservation
      { commandRecord request result.reason hash with
        processMonotonicTimeNs := request.now } with
  | none =>
    rw [appended] at accepted
    cases accepted
  | some s' =>
    rw [appended] at accepted
    have given := accepts_of_answer (s := { s with journal }) (sealResult { result with
        journalSequence := reservation, journalRecordHash := s'.journal.lastRecordHash })
      running answered accepted appended ⟨rfl, rfl, rfl, rfl, rfl, rfl⟩ rfl rfl
    exact ⟨given.running, given.healthy, given.fresh, given.known, given.outbound,
      given.advanced, given.journaled, given.newOrder⟩

structure Accepted where
  expected : GatewayCommandKind
  request : GatewayRequest
  result : GatewaySubmitResult

def acceptedAs (s : SimulatedGateway) (expected : GatewayCommandKind) (request : GatewayRequest) :
    List Accepted :=
  if (s.submit request expected).2.status = .accepted then
    [⟨expected, request, (s.submit request expected).2⟩]
  else []

def accepted (s : SimulatedGateway) : Call → List Accepted
  | .sendOrder request => s.acceptedAs .newOrder request
  | .cancelOrder request => s.acceptedAs .cancel request
  | .replaceOrder request => s.acceptedAs .replace request
  | _ => []

theorem acceptedAs_spec (mem : command ∈ s.acceptedAs expected request) :
    Accepts s command.request command.expected (s.submit request expected).1 command.result := by
  unfold acceptedAs at mem
  split at mem
  · next status =>
    cases List.mem_singleton.mp mem
    exact s.submit_accepted request expected status
  · cases mem

theorem accepted_spec (mem : command ∈ s.accepted call) :
    Accepts s command.request command.expected (s.next call) command.result := by
  cases call with
  | sendOrder request | cancelOrder request | replaceOrder request => exact acceptedAs_spec mem
  | _ => cases mem

theorem accepted_pairwise (R : Accepted → Accepted → Prop) (s : SimulatedGateway) (call : Call) :
    (s.accepted call).Pairwise R := by
  have single : ∀ expected request, (s.acceptedAs expected request).Pairwise R := by
    intro expected request
    unfold acceptedAs
    split
    · exact List.pairwise_singleton _ _
    · exact .nil
  cases call with
  | sendOrder request | cancelOrder request | replaceOrder request => exact single _ request
  | _ => exact .nil

structure Remembers (s : SimulatedGateway) (command : Accepted) : Prop where
  known : (s.findCommand command.request.command.commandId).isSome = true
  outbound : command.result.outboundSequence.toNat < s.outboundRank
  journaled : ∃ record, s.journal.read command.result.journalSequence = some record ∧
    Names record command.request

theorem Part.remembers (part : Part call s s')
    (remembers : Remembers s command) : Remembers s' command := by
  obtain ⟨record, read, names⟩ := remembers.journaled
  exact ⟨part.findCommand remembers.known, remembers.outbound.trans_le part.outboundRank_le,
    record, part.extends _ _ read, names⟩

theorem remembers_of_accepted (mem : command ∈ s.accepted call) :
    Remembers (s.next call) command := by
  have accepts := accepted_spec mem
  refine ⟨accepts.known, ?_, accepts.journaled⟩
  rw [accepts.advanced]
  exact Nat.lt_succ_self _

theorem remembers_next (remembers : Remembers s command) : Remembers (s.next call) command :=
  next_preserves (P := (Remembers · command)) (fun _ _ part held => part.remembers held) remembers

/-- A recovery builds a new order table only while the session recovers and at a time other than
zero, so that it completes, or from a snapshot with every order that the gateway has. -/
def KeepsOrders (s : SimulatedGateway) : Call → Prop
  | .recover snapshot now => s.rebuilds snapshot = true →
      s.session.state = .recovering ∧ now ≠ 0 ∨
        ∀ index, (s.orders index).occupied = true →
          ∃ slot, (snapshot.orders slot).occupied = true ∧
            (snapshot.orders slot).orderId = (s.orders index).orderId
  | _ => True

instance (s : SimulatedGateway) (call : Call) : Decidable (s.KeepsOrders call) := by
  unfold KeepsOrders
  split <;> infer_instance

theorem find_recover {orderId : OrderId} (idle : Idle s.journal)
    (known : (orderLayout.find s.orders orderId).isSome)
    (incomplete : s.completes (.recover snapshot now) = false)
    (kept : s.KeepsOrders (.recover snapshot now)) :
    (orderLayout.find (s.recover snapshot now).1.orders orderId).isSome := by
  cases built : s.rebuilds snapshot with
  | false =>
    rw [(recover_of_not_rebuilds idle _ built).2.1]
    exact known
  | true =>
    obtain ⟨valid, -, orders, completes, -⟩ := recover_of_rebuilds idle now built
    rcases kept built with turn | covered
    · simp [SimulatedGateway.completes, completes.mpr turn] at incomplete
    · obtain ⟨index, found⟩ := isSome_iff_exists.mp known
      obtain ⟨occupied, rfl⟩ := orderLayout.occupied_of_find found
      obtain ⟨slot, held, same⟩ := covered index occupied
      obtain ⟨-, -, stored⟩ := rebuildRecoveryOrders_all valid
      obtain ⟨index, found, -⟩ := stored slot held
      rw [orders]
      rw [same] at found
      exact isSome_iff_exists.mpr ⟨index, found⟩

theorem find_next {orderId : OrderId} (idle : Idle s.journal)
    (known : (orderLayout.find s.orders orderId).isSome)
    (incomplete : s.completes call = false) (kept : s.KeepsOrders call) :
    (orderLayout.find (s.next call).orders orderId).isSome := by
  by_cases recovers : ∃ snapshot now, call = .recover snapshot now
  · obtain ⟨snapshot, now, rfl⟩ := recovers
    exact find_recover idle known incomplete kept
  · obtain ⟨index, found⟩ := isSome_iff_exists.mp known
    have found := (s.next_has call).1.find found fun snapshot now eq =>
      recovers ⟨snapshot, now, eq⟩
    exact isSome_iff_exists.mpr ⟨index, found⟩

/-- No command id and no outbound sequence is accepted twice, records of accepted commands stay and
an unsafe gateway accepts nothing. Between completed recoveries, where no other recovery drops an
order, no order id is accepted twice. -/
theorem commands_accepted_once (configuration : GatewayConfiguration) (mode : GatewayMode)
    (calls : List Call) :
    (outputs next accepted (construct configuration mode) calls).Pairwise (fun earlier later =>
          earlier.request.command.commandId ≠ later.request.command.commandId ∧
            earlier.result.outboundSequence < later.result.outboundSequence) ∧
      (∀ command ∈ outputs next accepted (construct configuration mode) calls,
        ∃ record, (run next (construct configuration mode) calls).journal.read
          command.result.journalSequence = some record ∧ Names record command.request) ∧
      (∀ first later, calls = first ++ later →
        (run next (construct configuration mode) first).health = .unsafeHealth →
        outputs next accepted (run next (construct configuration mode) first) later = []) ∧
      ∀ first middle last, calls = first ++ middle ++ last →
        Throughout next (fun s call => s.completes call = false)
          (run next (construct configuration mode) first) middle →
        Throughout next KeepsOrders (run next (construct configuration mode) first) middle →
        (outputs next accepted (run next (construct configuration mode) first) middle).Pairwise
          (fun earlier later => earlier.expected = .newOrder → later.expected = .newOrder →
            earlier.request.command.orderId ≠ later.request.command.orderId) := by
  refine ⟨?_, ?_, ?_, ?_⟩
  · refine outputs_pairwise (I := fun _ => True) (J := fun command s => Remembers s command)
      (fun _ _ _ => trivial) (fun s call _ => accepted_pairwise _ s call)
      (fun _ _ _ _ mem => remembers_of_accepted mem) (fun _ _ _ _ held => remembers_next held) ?_
      trivial
    intro s call first later _ remembers mem
    have accepts := accepted_spec mem
    refine ⟨?_, ?_⟩
    · intro same
      have known := remembers.known
      rw [same, accepts.fresh] at known
      cases known
    · rw [UInt64.lt_iff_toNat_lt, accepts.outbound]
      exact remembers.outbound
  · intro command mem
    exact (recorded_of_mem_outputs (I := fun _ => True) (J := fun command s => Remembers s command)
      (fun _ _ _ _ => trivial)
      (fun _ _ _ _ _ held => remembers_next held)
      (fun _ _ _ _ _ mem => remembers_of_accepted mem) trivial
      (throughout_of_forall (fun _ _ => trivial) _ _) command mem).journaled
  · rintro first later - unsafe'
    refine List.eq_nil_iff_forall_not_mem.mpr ?_
    refine forall_mem_outputs (I := Barred) (fun s call barred => next_preserves
      (fun _ _ part held => part.barred held) barred) ?_ (.inl unsafe')
    intro s call barred command mem
    have accepts := accepted_spec mem
    rcases barred with unsafe' | stopped
    · rw [accepts.healthy] at unsafe'
      cases unsafe'
    · rw [accepts.running] at stopped
      cases stopped
  · rintro first middle last - incomplete kept
    refine outputs_pairwise_of_throughout (I := fun s => Idle s.journal)
      (J := fun command s => command.expected = .newOrder →
        (orderLayout.find s.orders command.request.command.orderId).isSome = true)
      (fun _ call idle _ => idle_next idle call) ?_ ?_ (fun s call _ => accepted_pairwise _ s call)
      ?_ (idle_run configuration mode first) (throughout_and.mpr ⟨incomplete, kept⟩)
    · rintro s call command idle ⟨incomplete, kept⟩ held new
      exact find_next idle (held new) incomplete kept
    · intro s call earlier later _ _ held mem earlierNew laterNew same
      have absent := ((accepted_spec mem).newOrder laterNew).1
      have known := held earlierNew
      rw [same, absent] at known
      cases known
    · intro s call command _ _ mem new
      exact ((accepted_spec mem).newOrder new).2

open TestSupport in
/-- A recovery that is refused on the active session has the order sent before it, so the id is
not accepted again. -/
theorem commands_accepted_once_of_recovery :
    let sent := run next (construct TestSupport.configuration .simulation)
      [.start kNow, .sendOrder (TestSupport.request .newOrder 1 (kNow + 1))]
    let first : List Call := [.start kNow]
    let middle : List Call := [.sendOrder (TestSupport.request .newOrder 1 (kNow + 1)),
      .recover sent.recoverySnapshot (kNow + 2),
      .sendOrder (TestSupport.request .newOrder 2 (kNow + 3)),
      .cancelOrder (TestSupport.request .cancel 3 (kNow + 4))]
    let accepted := outputs next accepted
      (run next (construct TestSupport.configuration .simulation) first) middle
    (sent.rebuilds sent.recoverySnapshot = true ∧
        sent.completes (.recover sent.recoverySnapshot (kNow + 2)) = false ∧
        accepted.map (·.request.command.commandId) = [⟨60, 1⟩, ⟨60, 3⟩]) ∧
      accepted.Pairwise (fun earlier later =>
        earlier.expected = .newOrder → later.expected = .newOrder →
          earlier.request.command.orderId ≠ later.request.command.orderId) := by
  intro sent first middle accepted
  have answers : sent.rebuilds sent.recoverySnapshot = true ∧
      sent.completes (.recover sent.recoverySnapshot (kNow + 2)) = false ∧
      accepted.map (·.request.command.commandId) = [⟨60, 1⟩, ⟨60, 3⟩] := by
    decide +kernel
  refine ⟨answers, (commands_accepted_once _ _ _).2.2.2 _ _ [] rfl ?_ ?_⟩
  · exact ⟨rfl, answers.2.1, rfl, rfl, trivial⟩
  · exact ⟨trivial, fun _ => .inr (by decide +kernel), trivial, trivial, trivial⟩

open TestSupport in
/-- A recovery on an active session empties the order table. -/
theorem order_accepted_twice :
    let started := run next (construct TestSupport.configuration .simulation) [.start kNow]
    let first := TestSupport.request .newOrder 1 (kNow + 1)
    let again := TestSupport.request .newOrder 2 (kNow + 3)
    let recovery : Call := .recover started.recoverySnapshot (kNow + 2)
    (started.sendOrder first).2.status = .accepted ∧
      (started.next (.sendOrder first)).completes recovery = false ∧
      (((started.next (.sendOrder first)).next recovery).sendOrder again).2.status = .accepted ∧
      first.command.orderId = again.command.orderId := by
  decide +kernel

/-- Over every sequence of calls, from any state, audit records stay as they were committed. -/
theorem audit_records_stay (s : SimulatedGateway) (calls : List Call) :
    s.journal.Extends (run next s calls).journal := by
  intro sequence record found
  exact run_preserves (P := fun s : SimulatedGateway => s.journal.read sequence = some record)
    (fun _ _ => next_preserves fun _ _ part => part.extends sequence record) found calls

/-- In every state of every run an order id has one place, where it is found. -/
theorem order_ids_keyed (configuration : GatewayConfiguration) (mode : GatewayMode)
    (calls : List Call) :
    Always next (fun s => Keyed s.orders) (construct configuration mode) calls := by
  intro before _
  refine run_preserves (P := fun s : SimulatedGateway => Keyed s.orders)
    (fun s call => (s.next_has call).1.keyed) ?_ before
  rw [(construct_orders configuration mode).1]
  exact keyed_empty

end SimulatedGateway

end Aegis.Execution
