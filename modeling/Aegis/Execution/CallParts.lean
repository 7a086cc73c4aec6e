import Aegis.Execution.BookEffects
import Mathlib.Logic.Relation

/-!
A call on a gateway is a sequence of parts (`next_parts`), so it preserves what every `Part`
preserves.
-/

namespace Aegis.Execution

open Aegis.Common Aegis.Foundation Aegis.MarketData
open Aegis.Oms (GatewayCommandKind)

namespace SimulatedGateway

/-- They differ at most in book, markets, limiters and counters. -/
structure Frame (s s' : SimulatedGateway) : Prop where
  configuration : s'.configuration = s.configuration
  session : s'.session = s.session
  journal : s'.journal = s.journal
  commands : s'.commands = s.commands
  initialized : s'.initialized = s.initialized
  stopped : s'.stopped = s.stopped
  mode : s'.mode = s.mode
  health : s'.health = s.health

theorem Frame.rfl' (s : SimulatedGateway) : Frame s s := by
  constructor <;> rfl

theorem Frame.trans {first second third : SimulatedGateway} (one : Frame first second)
    (two : Frame second third) : Frame first third :=
  ⟨two.configuration.trans one.configuration, two.session.trans one.session,
    two.journal.trans one.journal, two.commands.trans one.commands,
    two.initialized.trans one.initialized, two.stopped.trans one.stopped,
    two.mode.trans one.mode, two.health.trans one.health⟩

inductive Part (call : Call) : SimulatedGateway → SimulatedGateway → Prop
  | frame {s s' : SimulatedGateway} (frame : Frame s s') : Part call s s'
  | setUnsafe {s : SimulatedGateway} (reason : SessionReason) (now : UInt64) :
      Part call s (s.setUnsafe reason now)
  | updateHealth {s : SimulatedGateway} : Part call s s.updateHealth
  | reserve {s : SimulatedGateway} {reservation : Nat} {journal : GatewayAuditJournal}
      (reserved : s.journal.tryReserve = some (reservation, journal)) :
      Part call s { s with journal }
  | append {s s' : SimulatedGateway} {reservation : Nat} {record : GatewayAuditRecord}
      (appended : s.appendAudit reservation record = some s') : Part call s s'
  | claim {s : SimulatedGateway} (now : UInt64) :
      Part call s { s with session := (s.session.claimOutbound now).1 }
  | file {s : SimulatedGateway} {index : Fin kMaximumGatewayCommands} {slot : CommandSlot}
      (absent : s.findCommand slot.commandId = none)
      (free : s.findFreeCommand slot.commandId = some index) (occupied : slot.occupied = true) :
      Part call s { s with commands := Function.update s.commands index slot }
  | check {s : SimulatedGateway} (now : UInt64) :
      Part call s { s with session := (s.session.checkHeartbeatTimeout now).1 }
  | observe {s : SimulatedGateway} {now : UInt64} (poll : call = .pollEvent now)
      (sequence : UInt64) :
      Part call s { s with session := (s.session.observeInbound now sequence).1 }
  | logon {s : SimulatedGateway} {now : UInt64} (start : call = .start now) :
      Part call s { s with session := (s.session.logon now).1 }
  | logoff {s : SimulatedGateway} {now : UInt64} (logoff : call = .logoff now) :
      Part call s { s with session := (s.session.logoff now).1 }
  | beginRecovery {s : SimulatedGateway} {now : UInt64} {session : SessionLifecycle}
      (call' : call = .beginRecovery now)
      (begun : s.session.beginRecovery now .recoveryRequested = some session) :
      Part call s { s with session }
  | completeRecovery {s : SimulatedGateway} {snapshot : GatewayRecoverySnapshot} {now : UInt64}
      {session : SessionLifecycle} (recover : call = .recover snapshot now)
      (completed : s.session.completeRecovery now snapshot.nextInboundSequence = some session) :
      Part call s { s with session }
  | shutdown {s : SimulatedGateway} {now : UInt64} (shutdown : call = .shutdown now) :
      Part call s { s with stopped := true, session := s.session.shutdown now }

abbrev Parts (call : Call) : SimulatedGateway → SimulatedGateway → Prop :=
  Relation.ReflTransGen (Part call)

variable {s s' : SimulatedGateway} {call : Call} {request : GatewayRequest}
  {kind : GatewayCommandKind}

theorem Frame.parts (frame : Frame s s') : Parts call s s' :=
  .single (.frame frame)

section

variable (parts : Parts call s s')
include parts

theorem parts_updateHealth : Parts call s s'.updateHealth :=
  parts.tail .updateHealth

theorem parts_setUnsafe (reason : SessionReason) (now : UInt64) :
    Parts call s (s'.setUnsafe reason now) :=
  parts.tail (.setUnsafe reason now)

theorem parts_audit (reservation : Nat) (record : GatewayAuditRecord)
    (now : UInt64) : Parts call s (s'.audit reservation record now).1 := by
  unfold audit
  split
  · next appended => exact parts.tail (.append appended)
  · exact parts_setUnsafe parts _ _

theorem parts_noteAudit (reservation : Nat) (record : GatewayAuditRecord)
    (now : UInt64) : Parts call s (s'.noteAudit reservation record now) := by
  unfold noteAudit
  cases appended : s'.appendAudit reservation { record with processMonotonicTimeNs := now } with
  | none => exact parts
  | some appendedTo => exact parts.tail (.append appended)

theorem parts_reserving {Result : Type} {now : UInt64} {full : Result}
    {body : Nat → SimulatedGateway → SimulatedGateway × Result}
    (inner : ∀ reservation journal, Parts call { s' with journal }
      (body reservation { s' with journal }).1) : Parts call s (s'.reserving now full body).1 := by
  rcases s'.reserving_cases now full body with ⟨-, unreserved⟩ | ⟨reservation, journal, reserved, eq⟩
  · rw [unreserved]
    exact parts_setUnsafe parts _ _
  · rw [eq]
    exact (parts.tail (.reserve reserved)).trans (inner reservation journal)

end

theorem frame_scheduleEvent {event : GatewayEvent} {dueNs : UInt64}
    (scheduled : s.scheduleEvent event dueNs = some s') : Frame s s' := by
  unfold scheduleEvent at scheduled
  split at scheduled
  · cases scheduled
  · cases scheduled
    constructor <;> rfl

section

variable (s)

theorem frame_respond (response : GatewayEvent) (dueNs : UInt64) :
    Frame s (s.respond response dueNs).1 := by
  unfold respond
  split
  · exact .rfl' s
  · next scheduled => exact frame_scheduleEvent scheduled

theorem frame_orders (orders : OrderTable) : Frame s { s with orders } := by
  constructor <;> rfl

theorem frame_placeOrder (command : Oms.GatewayCommand)
    (outbound : UInt64) (index : Fin kMaximumGatewayOrders) (dueNs : UInt64) :
    Frame s (s.placeOrder command outbound index dueNs).1 := by
  unfold placeOrder
  split
  · exact .rfl' s
  unfold fileOrder
  split
  · exact frame_orders s _
  · next scheduled => exact (frame_orders s _).trans (frame_scheduleEvent scheduled)

section

variable (request)

theorem frame_processNew (outbound : UInt64) : Frame s (s.processNew request outbound).1 := by
  unfold processNew
  split
  · exact .rfl' s
  split
  · exact .rfl' s
  split
  · exact .rfl' s
  split
  · exact .rfl' s
  · have counted : Frame s { s with newOrderOrdinal := s.newOrderOrdinal + 1 } := by
      constructor <;> rfl
    exact counted.trans (frame_placeOrder _ _ _ _ _)

theorem frame_processCancel : Frame s (s.processCancel request).1 := by
  unfold processCancel
  split
  · exact .rfl' s
  split
  · exact .rfl' s
  split
  · exact frame_respond s _ _
  · exact (frame_orders s _).trans (frame_respond _ _ _)

theorem frame_processReplace : Frame s (s.processReplace request).1 := by
  unfold processReplace
  split
  · exact .rfl' s
  split
  · exact .rfl' s
  split
  · exact frame_respond s _ _
  · exact (frame_orders s _).trans (frame_respond _ _ _)

theorem frame_processCommand
    (outbound : UInt64) : Frame s (s.processCommand request outbound).1 := by
  unfold processCommand
  split
  · exact s.frame_processNew request outbound
  · exact s.frame_processCancel request
  · exact s.frame_processReplace request
  · exact .rfl' s

end

theorem frame_rateAllowed (expected : GatewayCommandKind) (now : UInt64) :
    Frame s (s.rateAllowed expected now).1 := by
  cases expected <;> constructor <;> rfl

theorem frame_fillOrder (event : SyntheticEvent) (index : Fin kMaximumGatewayOrders)
    (quantity : UInt64) : Frame s (s.fillOrder event index quantity).1 := by
  unfold fillOrder
  split
  · exact .rfl' s
  have filled : Frame s
      { s with
        orders := Function.update s.orders index (filledOrder (s.orders index) quantity)
        nextExecutionOrdinal := s.nextExecutionOrdinal + 1 } := by
    constructor <;> rfl
  exact filled.trans (frame_respond _ _ _)

theorem frame_processTrade (event : SyntheticEvent) (index : Nat) :
    Frame s (s.processTrade event index).1 := by
  unfold processTrade
  split
  · exact .rfl' s
  split
  · exact .rfl' s
  split
  · exact .rfl' s
  unfold tradeAgainst
  split
  · exact frame_orders s _
  split
  · exact .rfl' s
  split
  · exact .rfl' s
  · exact s.frame_fillOrder event _ _

theorem frame_observe (event : SyntheticEvent) : Frame s (s.observe event).1 := by
  unfold observe
  split
  · exact .rfl' s
  split
  · exact .rfl' s
  next index _ =>
  have settled : Frame s
      ((s.settleDueControls event.processMonotonicTimeNs).updateMarket event index) := by
    constructor <;> rfl
  exact settled.trans (frame_processTrade _ _ _)

end

theorem decide_spec (s : SimulatedGateway) (request : GatewayRequest)
    (expected : GatewayCommandKind) : Parts call s (s.decide request expected).1 ∧
      (s.decide request expected).1.commands = s.commands ∧
      (s.decide request expected).1.journal = s.journal := by
  have limited := s.frame_rateAllowed expected request.now
  unfold decide
  split
  · exact ⟨.refl, rfl, rfl⟩
  split
  · exact ⟨limited.parts, limited.commands, limited.journal⟩
  unfold dispatch
  split
  · next claimed =>
    have session := congrArg Prod.fst claimed
    refine ⟨limited.parts.tail ?_, limited.commands, limited.journal⟩
    dsimp only at session
    rw [← session]
    exact .claim request.now
  · next claimed outbound eq =>
    have session := congrArg Prod.fst eq
    have processed := frame_processCommand
      { (s.rateAllowed expected request.now).1 with session := claimed } request outbound
    refine ⟨(limited.parts.tail ?_).tail (.frame processed),
      processed.commands.trans limited.commands, processed.journal.trans limited.journal⟩
    dsimp only at session
    rw [← session]
    exact .claim request.now

theorem parts_answer (s : SimulatedGateway) (request : GatewayRequest)
    (expected : GatewayCommandKind) : Parts call s (s.answer request expected).1 := by
  unfold answer
  split
  · split
    · exact .refl
    · exact parts_setUnsafe .refl _ _
  next absent =>
  obtain ⟨decided, commands, -⟩ := s.decide_spec request expected
  split
  · exact decided
  next index free =>
  refine decided.tail ?_
  rw [← commands]
  refine .file ?_ ?_ rfl
  · rw [findCommand, commands]
    exact absent
  · rw [findFreeCommand, commands]
    exact free

theorem parts_submit (s : SimulatedGateway) (request : GatewayRequest)
    (expected : GatewayCommandKind) : Parts call s (s.submit request expected).1 := by
  unfold submit
  split
  · exact .refl
  split
  · exact .refl
  refine parts_reserving .refl fun reservation journal => ?_
  exact parts_updateHealth (parts_audit (parts_answer _ _ _) _ _ _)

theorem parts_onMarketEvent (s : SimulatedGateway) (event : SyntheticEvent) :
    Parts call s (s.onMarketEvent event).1 := by
  unfold onMarketEvent
  split
  · exact .refl
  split
  · exact .refl
  refine parts_reserving .refl fun reservation journal => ?_
  exact parts_updateHealth (parts_audit (frame_observe _ _).parts _ _ _)

theorem frame_withdraw (s : SimulatedGateway) (scheduled : ScheduledEvent) :
    Frame s (s.withdraw scheduled) := by
  constructor <;> rfl

theorem parts_deliver_rest (call : Call) (s : SimulatedGateway) (now : UInt64)
    (scheduled : ScheduledEvent)
    (reservation : Nat) : Parts call
      { s with session := (s.session.observeInbound now (s.emitted scheduled).venueSequence).1 }
      (s.deliver now scheduled reservation).1 := by
  unfold deliver
  dsimp only
  generalize s.session.observeInbound now (s.emitted scheduled).venueSequence = observed
  have withdrawn : Parts call { s with session := observed.1 }
      (withdraw { s with session := observed.1 } scheduled) := (frame_withdraw _ scheduled).parts
  split
  · exact parts_updateHealth (parts_noteAudit withdrawn _ _ _)
  · exact parts_updateHealth (parts_noteAudit withdrawn _ _ _)
  · exact parts_updateHealth (parts_noteAudit withdrawn _ _ _)
  · exact parts_updateHealth (parts_noteAudit withdrawn _ _ _)
  · exact parts_noteAudit withdrawn _ _ _
  all_goals
    split
    · exact parts_noteAudit (parts_setUnsafe .refl _ _) _ _ _
    have audited := parts_audit (.refl : Parts call _ { s with session := observed.1 }) reservation
      (responseRecord (s.emitted scheduled) .accepted) now
    split
    · exact audited
    · exact parts_updateHealth (audited.tail (.frame (frame_withdraw _ scheduled)))

section

variable (s)

section

variable (now : UInt64)

theorem parts_deliver (scheduled : ScheduledEvent) (reservation : Nat) :
    Parts (.pollEvent now) s (s.deliver now scheduled reservation).1 :=
  .head (.observe rfl _) (parts_deliver_rest _ s now scheduled reservation)

theorem parts_pollEvent : Parts (.pollEvent now) s (s.pollEvent now).1 := by
  unfold pollEvent
  split
  · exact .refl
  split
  · exact .refl
  have checked : Parts (.pollEvent now) s
      { s with session := (s.session.checkHeartbeatTimeout now).1 } := .single (.check now)
  dsimp only
  split
  · exact parts_updateHealth checked
  have settled : Parts (.pollEvent now) s
      ({ s with session := (s.session.checkHeartbeatTimeout now).1 }.settleDueControls now) :=
    checked.tail (.frame (by constructor <;> rfl))
  split
  · exact settled
  · exact parts_reserving settled fun reservation journal => parts_deliver _ _ _ _

theorem parts_heartbeat : Parts call s (s.heartbeat now).1 := by
  unfold heartbeat
  split
  · exact .refl
  have checked : Parts call s
      { s with session := (s.session.checkHeartbeatTimeout now).1 } := .single (.check now)
  dsimp only
  split
  · exact parts_updateHealth checked
  split
  · exact checked
  have claimed := checked.tail (.claim now)
  split
  · exact parts_updateHealth claimed
  split
  · exact claimed
  · next scheduled => exact claimed.tail (.frame (frame_scheduleEvent scheduled))

theorem parts_start : Parts (.start now) s (s.start now).1 := by
  unfold start
  split
  · exact .refl
  refine parts_reserving .refl fun reservation journal => ?_
  have loggedOn : Parts (.start now) { s with journal }
      { s with journal, session := (s.session.logon now).1 } := .single (.logon rfl)
  have audited := parts_audit loggedOn reservation (transitionRecord (s.session.logon now).2) now
  dsimp only
  split
  · exact parts_updateHealth audited
  split
  · exact parts_updateHealth (parts_setUnsafe audited _ _)
  · exact parts_updateHealth audited

theorem parts_logoff : Parts (.logoff now) s (s.logoff now).1 := by
  unfold logoff
  split
  · exact .refl
  refine parts_reserving .refl fun reservation journal => ?_
  have loggedOff : Parts (.logoff now) { s with journal }
      { s with journal, session := (s.session.logoff now).1 } := .single (.logoff rfl)
  exact parts_updateHealth (parts_audit loggedOff _ _ _)

theorem parts_beginRecovery : Parts (.beginRecovery now) s (s.beginRecovery now).1 := by
  unfold beginRecovery
  split
  · exact .refl
  refine parts_reserving .refl fun reservation journal => ?_
  split
  · exact parts_updateHealth (parts_audit .refl _ _ _)
  next session begun =>
  have suspended : Frame { s with journal, session }
      { s with
        journal, session, orders := fun index => suspend (s.orders index), events := [] } := by
    constructor <;> rfl
  refine parts_updateHealth (parts_audit ?_ _ _ _)
  exact (Relation.ReflTransGen.single
    (.beginRecovery (s := { s with journal }) rfl begun)).tail (.frame suspended)

end

theorem parts_recover (snapshot : GatewayRecoverySnapshot)
    (now : UInt64) : Parts (.recover snapshot now) s (s.recover snapshot now).1 := by
  unfold recover
  split
  · exact .refl
  split
  · exact .refl
  split
  · exact .refl
  refine parts_reserving .refl fun reservation journal => ?_
  dsimp only
  generalize rebuilt s.orders snapshot = table
  generalize asked : (if table.2 = true then
    s.session.completeRecovery now snapshot.nextInboundSequence else none) = completed
  have recovered : Parts (.recover snapshot now) { s with journal }
      { s with journal, orders := table.1, session := completed.getD s.session } := by
    refine .tail ?_ (.frame (s := { s with journal, session := completed.getD s.session })
      ⟨rfl, rfl, rfl, rfl, rfl, rfl, rfl, rfl⟩)
    cases completed with
    | none => exact .refl
    | some session =>
      refine .single (.completeRecovery (s := { s with journal }) rfl ?_)
      exact (Option.ite_none_right_eq_some.mp asked).2
  split
  · exact parts_audit recovered _ _ _
  · exact parts_updateHealth (parts_audit recovered _ _ _)

theorem parts_injectSyntheticResponse (event : GatewayEvent)
    (dueNs : UInt64) : Parts call s (s.injectSyntheticResponse event dueNs).1 := by
  unfold injectSyntheticResponse
  split
  · exact .refl
  split
  · exact .refl
  · next scheduled => exact (frame_scheduleEvent scheduled).parts

theorem parts_shutdown (now : UInt64) : Parts (.shutdown now) s (s.shutdown now) := by
  unfold shutdown
  split
  · exact .refl
  have shut : Parts (.shutdown now) s
      { s with stopped := true, session := s.session.shutdown now } := .single (.shutdown rfl)
  dsimp only
  split
  · exact parts_updateHealth shut
  · next reserved =>
    exact parts_updateHealth (parts_noteAudit (shut.tail (.reserve reserved)) _ _ _)

theorem next_parts (call : Call) : Parts call s (s.next call) := by
  cases call with
  | start now => exact s.parts_start now
  | logoff now => exact s.parts_logoff now
  | sendOrder request => exact s.parts_submit request .newOrder
  | cancelOrder request => exact s.parts_submit request .cancel
  | replaceOrder request => exact s.parts_submit request .replace
  | onMarketEvent event => exact s.parts_onMarketEvent event
  | pollEvent now => exact s.parts_pollEvent now
  | heartbeat now => exact s.parts_heartbeat now
  | beginRecovery now => exact s.parts_beginRecovery now
  | recover snapshot now => exact s.parts_recover snapshot now
  | injectSyntheticResponse event dueNs => exact s.parts_injectSyntheticResponse event dueNs
  | shutdown now => exact s.parts_shutdown now

end

theorem next_preserves {P : SimulatedGateway → Prop}
    (preserved : ∀ s s', Part call s s' → P s → P s') (held : P s) : P (s.next call) := by
  have parts := s.next_parts call
  generalize s.next call = last at parts ⊢
  induction parts with
  | refl => exact held
  | tail _ part ih => exact preserved _ _ part ih

/-! ### Reservations of the audit journal -/

/-- The next audit record to commit is reserved, and no other. -/
structure Reserves (journal : GatewayAuditJournal) (reservation : Nat) : Prop where
  only : journal.reservedSequence = reservation
  following : reservation = journal.publishedSequence + 1
  room : reservation ≤ kMaximumGatewayJournalRecords

/-- No audit record is reserved and not committed. -/
def Idle (journal : GatewayAuditJournal) : Prop :=
  journal.reservedSequence = journal.publishedSequence

variable {reservation : Nat} {record : GatewayAuditRecord} {now : UInt64}

section

variable (reserves : Reserves s.journal reservation) (new : record.sequence = 0)
include reserves new

/-- The record that was reserved can be committed. -/
theorem appendAudit_of_reserves (now : UInt64) : ∃ journal,
    s.appendAudit reservation { record with processMonotonicTimeNs := now } =
      some { s with journal } ∧ Idle journal := by
  obtain ⟨only, following, room⟩ := reserves
  exact ⟨_, Option.map_eq_some_iff.mpr ⟨_, dif_pos ⟨by omega, room, new, following⟩, rfl⟩, only⟩

theorem idle_audit : Idle (s.audit reservation record now).1.journal := by
  obtain ⟨journal, appended, idle⟩ := appendAudit_of_reserves reserves new now
  rw [audit, appended]
  exact idle

theorem idle_noteAudit : Idle (s.noteAudit reservation record now).journal := by
  obtain ⟨journal, appended, idle⟩ := appendAudit_of_reserves reserves new now
  rw [noteAudit, appended]
  exact idle

end

theorem Idle.reserves {journal reserved : GatewayAuditJournal} (idle : Idle journal)
    (taken : journal.tryReserve = some (reservation, reserved)) : Reserves reserved reservation := by
  unfold GatewayAuditJournal.tryReserve at taken
  split at taken
  · cases taken
  · cases taken
    exact ⟨rfl, congrArg (· + 1) idle, by omega⟩

theorem idle_reserving (idle : Idle s.journal) {Result : Type} {full : Result}
    {body : Nat → SimulatedGateway → SimulatedGateway × Result}
    (inner : ∀ reservation journal, Reserves journal reservation →
      Idle (body reservation { s with journal }).1.journal) :
    Idle (s.reserving now full body).1.journal := by
  rcases s.reserving_cases now full body with ⟨-, unreserved⟩ | ⟨reservation, journal, taken, eq⟩
  · rw [unreserved]
    exact idle
  · rw [eq]
    exact inner reservation journal (idle.reserves taken)

theorem journal_answer (s : SimulatedGateway) (request : GatewayRequest)
    (expected : GatewayCommandKind) : (s.answer request expected).1.journal = s.journal := by
  unfold answer
  split
  · split
    · rfl
    · rfl
  · have decided := (show Parts (.sendOrder request) s _ ∧ _ from s.decide_spec request expected).2.2
    split
    · exact decided
    · exact decided

theorem idle_submit (idle : Idle s.journal) (request : GatewayRequest)
    (expected : GatewayCommandKind) : Idle (s.submit request expected).1.journal := by
  unfold submit
  split
  · exact idle
  split
  · exact idle
  refine idle_reserving idle fun reservation journal reserves => ?_
  refine idle_audit ?_ rfl
  rw [journal_answer]
  exact reserves

theorem idle_deliver (reserves : Reserves s.journal reservation) (scheduled : ScheduledEvent) :
    Idle (s.deliver now scheduled reservation).1.journal := by
  unfold deliver
  dsimp only
  generalize s.session.observeInbound now (s.emitted scheduled).venueSequence = observed
  split
  iterate 5 exact idle_noteAudit reserves rfl
  all_goals
    split
    · exact idle_noteAudit reserves rfl
    split
    · exact idle_audit reserves rfl
    · exact idle_audit reserves rfl

/-- Between two calls no audit record is reserved, so that none can fail to be committed. -/
theorem idle_next (idle : Idle s.journal) (call : Call) : Idle (s.next call).journal := by
  cases call with
  | start now =>
    simp only [next, start]
    split
    · exact idle
    refine idle_reserving idle fun reservation journal reserves => ?_
    dsimp only
    split
    · exact idle_audit reserves rfl
    split
    · exact idle_audit reserves rfl
    · exact idle_audit reserves rfl
  | logoff now =>
    simp only [next, logoff]
    split
    · exact idle
    · exact idle_reserving idle fun _ _ reserves => idle_audit reserves rfl
  | sendOrder request | cancelOrder request | replaceOrder request =>
    exact idle_submit idle request _
  | onMarketEvent event =>
    simp only [next, onMarketEvent]
    split
    · exact idle
    split
    · exact idle
    refine idle_reserving idle fun reservation journal reserves => ?_
    refine idle_audit ?_ rfl
    rw [(frame_observe _ event).journal]
    exact reserves
  | pollEvent now =>
    simp only [next, pollEvent]
    split
    · exact idle
    split
    · exact idle
    split
    · exact idle
    split
    · exact idle
    · refine idle_reserving ?_ fun _ _ reserves => idle_deliver reserves _
      exact idle
  | heartbeat now =>
    simp only [next, heartbeat]
    split
    · exact idle
    split
    · exact idle
    split
    · exact idle
    split
    · exact idle
    split
    · exact idle
    · next scheduled =>
      rw [(frame_scheduleEvent scheduled).journal]
      exact idle
  | beginRecovery now =>
    simp only [next, beginRecovery]
    split
    · exact idle
    refine idle_reserving idle fun reservation journal reserves => ?_
    split
    · exact idle_audit reserves rfl
    · exact idle_audit reserves rfl
  | recover snapshot now =>
    simp only [next, recover]
    split
    · exact idle
    split
    · exact idle
    split
    · exact idle
    refine idle_reserving idle fun reservation journal reserves => ?_
    dsimp only
    generalize (if (rebuilt s.orders snapshot).2 = true then
      s.session.completeRecovery now snapshot.nextInboundSequence else none) = completed
    split
    · exact idle_audit reserves rfl
    · exact idle_audit reserves rfl
  | injectSyntheticResponse event dueNs =>
    simp only [next, injectSyntheticResponse]
    split
    · exact idle
    split
    · exact idle
    · next scheduled =>
      rw [(frame_scheduleEvent scheduled).journal]
      exact idle
  | shutdown now =>
    simp only [next, shutdown]
    split
    · exact idle
    split
    · exact idle
    · next reserved => exact idle_noteAudit (idle.reserves reserved) rfl

end SimulatedGateway

end Aegis.Execution
