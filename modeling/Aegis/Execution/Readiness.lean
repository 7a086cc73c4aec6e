import Aegis.Execution.CallParts
import Aegis.Execution.OrderTable
import Aegis.Execution.TestSupport
import Aegis.Foundation.Runs

/-!
Readiness after a halt: only a completed recovery makes the gateway ready again, unless a logoff
stops the session and a start follows (`leavesHalt`).
-/

namespace Aegis.Execution

open Aegis.Common Aegis.Foundation Aegis.MarketData Function SessionLifecycle Option

/-- The session states that a recovery is meant to end. -/
def SessionState.interrupted (state : SessionState) : Bool :=
  state == .halted || state == .recovering

namespace SessionLifecycle

variable {s session : SessionLifecycle} {now : UInt64}

theorem ne_of_interrupted (interrupted : s.state.interrupted) :
    s.state ≠ .stopped ∧ s.state ≠ .active := by
  refine ⟨?_, ?_⟩
  · intro stopped
    rw [stopped] at interrupted
    cases interrupted
  · intro active
    rw [active] at interrupted
    cases interrupted

theorem halt_interrupted (live : s.state ≠ .stopped) (reason : SessionReason) :
    (s.halt now reason).state.interrupted := by
  rw [halt, if_pos live]
  rfl

section

variable (interrupted : s.state.interrupted)
include interrupted

theorem claimOutbound_interrupted : (s.claimOutbound now).1.state.interrupted := by
  have idle := (ne_of_interrupted interrupted).2
  rw [claimOutbound, if_pos (by simp [idle])]
  exact interrupted

theorem checkHeartbeatTimeout_interrupted : (s.checkHeartbeatTimeout now).1.state.interrupted := by
  have idle := (ne_of_interrupted interrupted).2
  rw [checkHeartbeatTimeout, if_pos (by simp [idle])]
  exact interrupted

theorem observeInbound_interrupted
    (sequence : UInt64) : (s.observeInbound now sequence).1.state.interrupted := by
  have halted : ∀ sequences,
      ({ s with sequences }.halt now .inboundSequenceGap).state.interrupted :=
    fun sequences => halt_interrupted (s := { s with sequences }) (ne_of_interrupted interrupted).1 _
  unfold observeInbound
  split
  · exact interrupted
  dsimp only
  split <;> first | exact interrupted | exact halted _

theorem logon_interrupted : (s.logon now).1.state.interrupted := by
  have live := (ne_of_interrupted interrupted).1
  rw [logon, requestLogon, if_pos (by simp [live])]
  exact interrupted

end

theorem beginRecovery_interrupted {reason : SessionReason}
    (begun : s.beginRecovery now reason = some session) : session.state.interrupted := by
  unfold beginRecovery at begun
  split at begun
  · cases begun
  · cases begun
    rfl

end SessionLifecycle

namespace SimulatedGateway

variable {s s' : SimulatedGateway} {call : Call}

def Waiting (s : SimulatedGateway) : Prop :=
  s.stopped = true ∨ s.session.state.interrupted = true

theorem Waiting.not_ready (waiting : Waiting s) : s.ready = false := by
  unfold ready SessionLifecycle.ready
  rcases waiting with stopped | interrupted
  · simp [stopped]
  · simp [(SessionLifecycle.ne_of_interrupted interrupted).2]

theorem Part.stopped (part : Part call s s') (stopped : s.stopped) : s'.stopped := by
  cases part with
  | frame frame => exact frame.stopped.trans stopped
  | append appended =>
    obtain ⟨journal, -, rfl⟩ := map_eq_some_iff.mp appended
    exact stopped
  | shutdown => rfl
  | _ => exact stopped

theorem Part.waiting (part : Part call s s') (logoff : ∀ now, call ≠ .logoff now)
    (recover : ∀ snapshot now, call ≠ .recover snapshot now) (waiting : Waiting s) :
    Waiting s' := by
  rcases waiting with stopped | interrupted
  · exact .inl (part.stopped stopped)
  have live := (ne_of_interrupted interrupted).1
  cases part with
  | frame frame =>
    refine .inr ?_
    rw [frame.session]
    exact interrupted
  | setUnsafe reason now => exact .inr (halt_interrupted live reason)
  | append appended =>
    obtain ⟨journal, -, rfl⟩ := map_eq_some_iff.mp appended
    exact .inr interrupted
  | updateHealth | reserve | file => exact .inr interrupted
  | claim now => exact .inr (claimOutbound_interrupted interrupted)
  | check now => exact .inr (checkHeartbeatTimeout_interrupted interrupted)
  | observe poll sequence =>
    exact .inr (observeInbound_interrupted interrupted sequence)
  | logon start => exact .inr (logon_interrupted interrupted)
  | logoff off => exact absurd off (logoff _)
  | beginRecovery _ begun => exact .inr (beginRecovery_interrupted begun)
  | completeRecovery recovers => exact absurd recovers (recover _ _)
  | shutdown => exact .inl rfl

def completes (s : SimulatedGateway) : Call → Bool
  | .recover snapshot now => (s.recover snapshot now).2 == .completed
  | _ => false

theorem stopped_next (call : Call) (stopped : s.stopped) : (s.next call).stopped :=
  next_preserves (P := fun s => s.stopped) (fun _ _ part held => part.stopped held) stopped

def Known (orders : OrderTable) : Prop :=
  ∀ index, (orders index).occupied = true → (orders index).state ≠ .unknownRecovery

variable {now : UInt64} {snapshot : GatewayRecoverySnapshot} {orders : OrderTable}
  {model : PaperModelConfiguration}

theorem completeRecovery_state {session completed : SessionLifecycle} {sequence : UInt64}
    (done : session.completeRecovery now sequence = some completed) :
    completed.state = .active := by
  unfold completeRecovery at done
  split at done
  · cases done
  · cases done
    rfl

theorem known_of_unambiguous (clear : recoveryIsAmbiguous snapshot = false)
    (index : Fin kMaximumGatewayOrders) (occupied : (snapshot.orders index).occupied) :
    (snapshot.orders index).state ≠ .unknownRecovery := by
  intro unknown
  have clear := List.any_eq_false.mp clear index (List.mem_finRange index)
  rw [occupied, unknown] at clear
  exact clear rfl

theorem known_rebuilt (valid : validRecoverySnapshot snapshot)
    (unambiguous : recoveryIsAmbiguous snapshot = false) :
    Known (rebuildRecoveryOrders snapshot).1 :=
  (rebuildRecoveryOrders_spec (Q := fun order => order.state ≠ .unknownRecovery) valid
    (known_of_unambiguous unambiguous)).2

theorem known_of_rebuilt (valid : validRecoverySnapshot snapshot)
    (all : (rebuilt orders snapshot).2) : Known (rebuilt orders snapshot).1 := by
  unfold rebuilt at all ⊢
  split at all
  · cases all
  next clear =>
  rw [if_neg clear]
  exact known_rebuilt valid (by simpa using clear)

/-- What `recover` does with a reservation. -/
structure Recovers (s : SimulatedGateway) (snapshot : GatewayRecoverySnapshot) (now : UInt64)
    (recovered : SimulatedGateway) (completed : Option SessionLifecycle) : Prop where
  initialized : s.initialized = true
  valid : validRecoverySnapshot snapshot = true
  scope : s.recoveryScopeMatches snapshot = true
  reserved : s.journal.tryReserve.isSome = true
  orders : recovered.orders = (rebuilt s.orders snapshot).1
  session : recovered.session = completed.getD s.session
  stopped : recovered.stopped = s.stopped
  asked : (if (rebuilt s.orders snapshot).2 = true then
    s.session.completeRecovery now snapshot.nextInboundSequence else none) = completed

theorem appendAudit_of_idle {reservation : Nat} {journal : GatewayAuditJournal}
    {t : SimulatedGateway} {record : GatewayAuditRecord}
    (taken : s.journal.tryReserve = some (reservation, journal)) (same : t.journal = journal)
    (new : record.sequence = 0) (failed : t.appendAudit reservation record = none) :
    s.journal.reservedSequence ≠ s.journal.publishedSequence := by
  intro idle
  unfold GatewayAuditJournal.tryReserve at taken
  split at taken
  · cases taken
  next room =>
    cases taken
    rw [appendAudit, map_eq_none_iff, GatewayAuditJournal.commit, dif_pos] at failed
    · cases failed
    · exact ⟨by omega, by omega, new, by rw [same]; exact congrArg (· + 1) idle⟩

theorem recover_cases (s : SimulatedGateway) (snapshot : GatewayRecoverySnapshot) (now : UInt64) :
    ((s.recover snapshot now).1 = s ∧ (s.recover snapshot now).2 ≠ .completed ∧
        (s.initialized && validRecoverySnapshot snapshot &&
          s.recoveryScopeMatches snapshot) = false) ∨
      ((s.recover snapshot now).1 = s.setUnsafe .journalUnavailable now ∧
        (s.recover snapshot now).2 ≠ .completed ∧ s.journal.tryReserve = none) ∨
      ∃ recovered completed, Recovers s snapshot now recovered completed ∧
        (s.journal.reservedSequence ≠ s.journal.publishedSequence ∧
            (s.recover snapshot now).1 = recovered.setUnsafe .journalUnavailable now ∨
          (s.recover snapshot now).1 = recovered.updateHealth ∧
            ((s.recover snapshot now).2 = .completed ↔ completed.isSome)) := by
  unfold recover
  split
  · next idle => exact .inl ⟨rfl, nofun, by simp_all⟩
  next initialized =>
  split
  · next invalid => exact .inl ⟨rfl, nofun, by simp_all⟩
  next valid =>
  split
  · next foreign => exact .inl ⟨rfl, nofun, by simp_all⟩
  next scope =>
  rcases s.reserving_cases now RecoveryStatus.busy _ with ⟨none, full⟩ |
    ⟨reservation, journal, taken, reserved⟩
  · rw [full]
    exact .inr (.inl ⟨rfl, nofun, none⟩)
  rw [reserved]
  clear reserved
  dsimp only
  generalize asked : (if (rebuilt s.orders snapshot).2 = true then
    s.session.completeRecovery now snapshot.nextInboundSequence else none) = completed
  generalize tabled : (rebuilt s.orders snapshot).1 = table
  have recovers : ∀ journal, Recovers s snapshot now
      { s with journal, orders := table, session := completed.getD s.session } completed :=
    fun _ => ⟨by simpa using initialized, by simpa using valid, by simpa using scope, by simp [taken],
      tabled.symm, rfl, rfl, asked⟩
  unfold audit
  cases appended : appendAudit
      { s with journal, orders := table, session := completed.getD s.session } reservation
      { recoveryRecord completed.isSome snapshot.stableHash with
        processMonotonicTimeNs := now } with
  | none =>
    exact .inr (.inr ⟨_, completed, recovers journal,
      .inl ⟨appendAudit_of_idle taken rfl rfl appended, rfl⟩⟩)
  | some recovered =>
    obtain ⟨journal, -, rfl⟩ := map_eq_some_iff.mp appended
    refine .inr (.inr ⟨_, completed, recovers journal, .inr ⟨rfl, ?_⟩⟩)
    cases completed with
    | none => exact ⟨nofun, nofun⟩
    | some session => exact ⟨fun _ => rfl, fun _ => rfl⟩

/-- A waiting gateway waits on unless the recovery completes. -/
theorem recover_waiting (waiting : Waiting s) (snapshot : GatewayRecoverySnapshot) (now : UInt64) :
    Waiting (s.recover snapshot now).1 ∨
      (s.recover snapshot now).2 = .completed ∧ Known (s.recover snapshot now).1.orders := by
  rcases waiting with stopped | interrupted
  · exact .inl (.inl (stopped_next (.recover snapshot now) stopped))
  have live := (ne_of_interrupted interrupted).1
  rcases s.recover_cases snapshot now with ⟨same, -⟩ | ⟨failed, -⟩ |
    ⟨recovered, completed, recovers, ends⟩
  · rw [same]
    exact .inl (.inr interrupted)
  · rw [failed]
    exact .inl (.inr (halt_interrupted live _))
  have session := recovers.session
  cases completed with
  | none =>
    rw [getD_none] at session
    rw [← session] at interrupted live
    rcases ends with ⟨-, failed⟩ | ⟨noted, -⟩
    · rw [failed]
      exact .inl (.inr (halt_interrupted live _))
    · rw [noted]
      exact .inl (.inr interrupted)
  | some completed =>
    obtain ⟨all, done⟩ := ite_none_right_eq_some.mp recovers.asked
    rw [getD_some] at session
    rcases ends with ⟨-, failed⟩ | ⟨noted, status⟩
    · have active : recovered.session.state ≠ .stopped := by
        rw [session, completeRecovery_state done]
        nofun
      rw [failed]
      exact .inl (.inr (halt_interrupted active _))
    · refine .inr ⟨status.mpr rfl, ?_⟩
      have orders : (s.recover snapshot now).1.orders = (rebuilt s.orders snapshot).1 := by
        rw [noted]
        exact recovers.orders
      rw [orders]
      exact known_of_rebuilt recovers.valid all

theorem known_settled (known : Known orders) : Known (settled model now orders) := by
  intro index occupied
  have held := known index ((settleOrder_spec model now (orders index)).1.symm.trans occupied)
  unfold settled settleOrder
  split
  · exact held
  split
  · nofun
  split
  · nofun
  split
  · nofun
  · exact held

theorem known_update (known : Known orders) {index : Fin kMaximumGatewayOrders}
    {order : PaperOrderSnapshot} (held : order.occupied → order.state ≠ .unknownRecovery) :
    Known (update orders index order) := by
  intro other
  by_cases same : other = index
  · subst same
    rw [update_self]
    exact held
  · rw [update_of_ne same]
    exact known other

theorem known_of_effect {book book' : Book} {output : Option GatewayEvent}
    (effect : Effect model book call book' output) (known : Known book.orders)
    (begins : ∀ now, call ≠ .beginRecovery now) : Known book'.orders := by
  cases effect with
  | kept | plain | injected => exact known
  | filed admitted absent free made kind unsequenced =>
    refine known_update known fun _ unknown => ?_
    rcases made.state with pending | rejected
    · rw [pending] at unknown
      cases unknown
    · rw [rejected] at unknown
      cases unknown
  | canceling | replacing => exact known_update known fun _ => nofun
  | settling | withdrawing => exact known_settled known
  | @passing event index units =>
    exact known_update (known_settled known) fun occupied => known_settled known index occupied
  | @filling event index market entry quantity =>
    refine known_update (known_settled known) fun occupied => ?_
    have held := known_settled known index occupied
    unfold filledOrder
    dsimp only
    split
    · nofun
    · exact held
  | suspending => exact absurd rfl (begins _)
  | rebuilding valid unambiguous built =>
    have rebuilt := known_rebuilt valid unambiguous
    rw [built] at rebuilt
    exact rebuilt

theorem beginRecovery_known (known : Known s.orders) (now : UInt64) :
    Waiting (s.beginRecovery now).1 ∨ Known (s.beginRecovery now).1.orders := by
  unfold beginRecovery
  split
  · exact .inr known
  rcases s.reserving_cases now false _ with ⟨-, full⟩ | ⟨reservation, journal, -, reserved⟩
  · rw [full]
    exact .inr known
  rw [reserved]
  clear reserved
  split
  · have orders := congrArg Book.orders (@sameBook_audit { s with journal } reservation
      { kind := .recovery, reason := .sessionNotActive } now).book
    exact .inr ((congrArg Known orders).mpr known)
  next session begun =>
  have interrupted := beginRecovery_interrupted begun
  left
  dsimp only
  unfold audit
  split
  · next appended =>
    obtain ⟨journal, -, rfl⟩ := map_eq_some_iff.mp appended
    exact .inr interrupted
  · exact .inr (halt_interrupted (ne_of_interrupted interrupted).1 _)

/-- A call logs off a session that is halted or recovering. -/
def leavesHalt (s : SimulatedGateway) : Call → Bool
  | .logoff _ => s.session.state.interrupted
  | _ => false

theorem waiting_next (waiting : Waiting s) (stays : s.leavesHalt call = false)
    (incomplete : s.completes call = false) : Waiting (s.next call) := by
  rcases waiting with stopped | interrupted
  · exact .inl (stopped_next call stopped)
  cases call with
  | logoff now =>
    change s.session.state.interrupted = false at stays
    rw [interrupted] at stays
    cases stays
  | recover snapshot now =>
    rcases recover_waiting (.inr interrupted) snapshot now with waiting | ⟨completed, -⟩
    · exact waiting
    · change ((s.recover snapshot now).2 == .completed) = false at incomplete
      rw [completed] at incomplete
      cases incomplete
  | _ =>
    exact next_preserves (P := Waiting) (fun _ _ part held => part.waiting nofun nofun held)
      (.inr interrupted)

theorem known_next (held : Waiting s ∨ Known s.orders) (stays : s.leavesHalt call = false) :
    Waiting (s.next call) ∨ Known (s.next call).orders := by
  rcases held with waiting | known
  · cases incomplete : s.completes call with
    | false => exact .inl (waiting_next waiting stays incomplete)
    | true =>
      cases call with
      | recover snapshot now =>
        exact (recover_waiting waiting snapshot now).imp_right And.right
      | _ => cases incomplete
  · by_cases begins : ∃ now, call = .beginRecovery now
    · obtain ⟨now, rfl⟩ := begins
      exact beginRecovery_known known now
    · refine .inr (known_of_effect (s.next_has call).1 known ?_)
      rintro now rfl
      exact begins ⟨now, rfl⟩

/-- If no halted or recovering session is logged off, the gateway is ready after a halt only after a
completed recovery, with no order unknown. -/
theorem readiness_needs_recovery (configuration : GatewayConfiguration) (mode : GatewayMode)
    (calls : List Call)
    (stays : Throughout next (fun s call => s.leavesHalt call = false)
      (construct configuration mode) calls) :
    (∀ first later, first ++ later <+: calls →
      (run next (construct configuration mode) first).session.state.interrupted = true →
      Throughout next (fun s call => s.completes call = false)
        (run next (construct configuration mode) first) later →
      (run next (construct configuration mode) (first ++ later)).ready = false) ∧
      Always next (fun s => ∀ index, (s.orders index).occupied = true →
        (s.orders index).state = .unknownRecovery → s.ready = false)
        (construct configuration mode) calls := by
  constructor
  · rintro first later ⟨rest, rfl⟩ interrupted incomplete
    rw [List.append_assoc] at stays
    have stays := (throughout_append.mp (throughout_append.mp stays).2).1
    rw [run_append]
    have waiting := run_invariant (P := Waiting)
      (fun s call held (allowed : s.leavesHalt call = false ∧ s.completes call = false) =>
        waiting_next held allowed.1 allowed.2) (.inr interrupted)
      (throughout_and.mpr ⟨stays, incomplete⟩)
    exact waiting.not_ready
  · have start : Waiting (construct configuration mode) ∨
        Known (construct configuration mode).orders := by
      refine .inr ?_
      rw [(construct_orders configuration mode).1]
      intro index occupied
      cases occupied
    have always := always_of_throughout (P := fun s => Waiting s ∨ Known s.orders)
      (fun _ _ held allowed => known_next held allowed) start stays
    intro before initial index occupied unknown
    rcases always before initial with waiting | known
    · exact waiting.not_ready
    · exact absurd unknown (known index occupied)

open TestSupport in
theorem readiness_needs_recovery_of_request :
    (run next (construct TestSupport.configuration .simulation)
      ([.start kNow, .sendOrder (request .newOrder 1 (kNow + 1)), .beginRecovery (kNow + 10)] ++
        [.start (kNow + 20)])).ready = false :=
  (readiness_needs_recovery TestSupport.configuration .simulation
    [.start kNow, .sendOrder (request .newOrder 1 (kNow + 1)), .beginRecovery (kNow + 10),
      .start (kNow + 20)] (by decide +kernel)).1 _ _ ⟨[], rfl⟩ (by decide +kernel)
    (by decide +kernel)

open TestSupport in
/-- A recovering session is logged off and started again. -/
theorem ready_after_logoff :
    let s := run next (construct TestSupport.configuration .simulation)
      [.start kNow, .sendOrder (request .newOrder 1 (kNow + 1)), .beginRecovery (kNow + 10),
        .logoff (kNow + 20), .start (kNow + 30)]
    s.ready = true ∧ ∃ index, (s.orders index).occupied = true ∧
      (s.orders index).state = .unknownRecovery := by
  refine ⟨by decide +kernel, (run next (construct TestSupport.configuration .simulation)
    [.start kNow, .sendOrder (request .newOrder 1 (kNow + 1))]).findOrder ⟨50, 1⟩ |>.getD 0, ?_⟩
  decide +kernel

/-- A recovery gets as far as building a new order table. -/
def rebuilds (s : SimulatedGateway) (snapshot : GatewayRecoverySnapshot) : Bool :=
  s.initialized && validRecoverySnapshot snapshot && s.recoveryScopeMatches snapshot &&
    s.journal.tryReserve.isSome && !recoveryIsAmbiguous snapshot

theorem idle_run (configuration : GatewayConfiguration) (mode : GatewayMode) (calls : List Call) :
    Idle (run next (construct configuration mode) calls).journal := by
  refine run_preserves (P := fun s : SimulatedGateway => Idle s.journal)
    (fun _ call idle => idle_next idle call) ?_ calls
  unfold construct
  dsimp only
  split
  · rfl
  · rfl

theorem completeRecovery_isSome {session : SessionLifecycle} {nextInbound : UInt64}
    (valid : nextInbound ≠ 0) :
    (session.completeRecovery now nextInbound).isSome ↔ session.state = .recovering ∧ now ≠ 0 := by
  by_cases zero : now = 0 <;> by_cases turn : session.state = .recovering <;>
    simp [completeRecovery, valid, zero, turn]

section

variable (idle : Idle s.journal)
include idle

/-- A recovery that builds no table changes nothing, but for the halt of a full journal. -/
theorem recover_of_not_rebuilds (now : UInt64) (refused : s.rebuilds snapshot = false) :
    (s.recover snapshot now).2 ≠ .completed ∧ (s.recover snapshot now).1.orders = s.orders ∧
      (s.recover snapshot now).1.session.sequences.expectedInbound =
        s.session.sequences.expectedInbound ∧
      ((s.recover snapshot now).1.session.state = s.session.state ∨
        s.journal.tryReserve = none ∧ (s.recover snapshot now).1.session.state = .halted) := by
  rcases s.recover_cases snapshot now with ⟨same, incomplete, -⟩ | ⟨full, incomplete, none⟩ |
    ⟨recovered, completed, recovers, ⟨busy, -⟩ | ⟨noted, status⟩⟩
  · rw [same]
    exact ⟨incomplete, rfl, rfl, .inl rfl⟩
  · rw [full]
    refine ⟨incomplete, rfl, ?_⟩
    by_cases stopped : s.session.state = .stopped
    · simp [setUnsafe, halt, stopped]
    · simp [setUnsafe, halt, stopped, transition, none]
  · exact absurd idle busy
  have ambiguous : recoveryIsAmbiguous snapshot := by
    simpa [rebuilds, recovers.initialized, recovers.valid, recovers.scope,
      recovers.reserved] using refused
  have asked := recovers.asked
  have orders := recovers.orders
  simp only [rebuilt, if_pos ambiguous, Bool.false_eq_true, if_false] at asked orders
  subst asked
  have session := recovers.session
  rw [getD_none] at session
  rw [noted]
  refine ⟨fun done => absurd (status.mp done) nofun, orders, ?_, .inl (congrArg _ session)⟩
  exact congrArg (·.sequences.expectedInbound) session

/-- A recovery that builds a table completes exactly if the session recovers and the time is not
zero; the table is in place either way. -/
theorem recover_of_rebuilds (now : UInt64) (rebuilds : s.rebuilds snapshot) :
    validRecoverySnapshot snapshot ∧ recoveryIsAmbiguous snapshot = false ∧
      (s.recover snapshot now).1.orders = (rebuildRecoveryOrders snapshot).1 ∧
      ((s.recover snapshot now).2 = .completed ↔ s.session.state = .recovering ∧ now ≠ 0) ∧
      ((s.recover snapshot now).2 ≠ .completed →
        (s.recover snapshot now).1.session = s.session) := by
  simp only [SimulatedGateway.rebuilds, Bool.and_eq_true, Bool.not_eq_true'] at rebuilds
  obtain ⟨⟨⟨⟨initialized, valid⟩, scope⟩, reserved⟩, clear⟩ := rebuilds
  rcases s.recover_cases snapshot now with ⟨-, -, refused⟩ | ⟨-, -, none⟩ |
    ⟨recovered, completed, recovers, ⟨busy, -⟩ | ⟨noted, status⟩⟩
  · simp [initialized, valid, scope] at refused
  · simp [none] at reserved
  · exact absurd idle busy
  have all := (rebuildRecoveryOrders_all valid).1
  have next : snapshot.nextInboundSequence ≠ 0 := by
    simp only [validRecoverySnapshot, Bool.and_eq_true, bne_iff_ne] at valid
    exact valid.1.1.1.1.1.2
  have orders := recovers.orders
  have asked := recovers.asked
  have session := recovers.session
  simp only [rebuilt, clear, Bool.false_eq_true, if_false, all, if_true] at orders asked
  refine ⟨valid, clear, by rw [noted]; exact orders, ?_, fun failed => ?_⟩
  · rw [status, ← asked, completeRecovery_isSome next]
  · have none : completed = none := by
      simpa using fun done => failed (status.mpr done)
    rw [noted]
    exact session.trans (by rw [none, getD_none])

end

/-- A completed recovery leaves exactly the orders of the snapshot, which account for all unknown
ones; another answer leaves the orders and the session, but for the halt of a full journal. -/
def RecoversWholly (s : SimulatedGateway) (snapshot : GatewayRecoverySnapshot) (now : UInt64) :
    Prop :=
  let after := (s.recover snapshot now).1
  ((s.recover snapshot now).2 = .completed →
    (∀ order : PaperOrderSnapshot, order.occupied = true →
      ((∃ index, after.orders index = order) ↔ ∃ slot, snapshot.orders slot = order)) ∧
    (∀ slot, (snapshot.orders slot).occupied = true → ∃ index,
      after.findOrder (snapshot.orders slot).orderId = some index ∧
        after.orders index = snapshot.orders slot) ∧
    ∀ index, (s.orders index).occupied = true → (s.orders index).state = .unknownRecovery →
      ∃ slot, (snapshot.orders slot).occupied = true ∧
        (snapshot.orders slot).orderId = (s.orders index).orderId ∧
        (snapshot.orders slot).state ≠ .unknownRecovery) ∧
  ((s.recover snapshot now).2 ≠ .completed → after.orders = s.orders ∧
    after.session.sequences.expectedInbound = s.session.sequences.expectedInbound ∧
    (after.session.state = s.session.state ∨
      s.journal.tryReserve = none ∧ after.session.state = .halted))

/-- The snapshot has every unknown order. -/
def AccountsFor (s : SimulatedGateway) (snapshot : GatewayRecoverySnapshot) : Prop :=
  ∀ index, (s.orders index).occupied = true → (s.orders index).state = .unknownRecovery →
    ∃ slot, (snapshot.orders slot).occupied = true ∧
      (snapshot.orders slot).orderId = (s.orders index).orderId

instance (s : SimulatedGateway) (snapshot : GatewayRecoverySnapshot) :
    Decidable (s.AccountsFor snapshot) := by
  unfold AccountsFor
  infer_instance

theorem mem_rebuilt (valid : validRecoverySnapshot snapshot) {after : SimulatedGateway}
    (orders : after.orders = (rebuildRecoveryOrders snapshot).1) :
    (∀ order : PaperOrderSnapshot, order.occupied →
      ((∃ index, after.orders index = order) ↔ ∃ slot, snapshot.orders slot = order)) ∧
    ∀ slot, (snapshot.orders slot).occupied → ∃ index,
      after.findOrder (snapshot.orders slot).orderId = some index ∧
        after.orders index = snapshot.orders slot := by
  obtain ⟨-, given, stored⟩ := rebuildRecoveryOrders_all valid
  rw [← orders] at given stored
  refine ⟨fun order occupied => ⟨?_, ?_⟩, fun slot occupied => ?_⟩
  · rintro ⟨index, rfl⟩
    exact given index occupied
  · rintro ⟨slot, rfl⟩
    obtain ⟨index, -, here⟩ := stored slot occupied
    exact ⟨index, here⟩
  · obtain ⟨index, found, here⟩ := stored slot occupied
    have order := valid_order_of_valid valid slot occupied
    refine ⟨index, ?_, here⟩
    rw [findOrder, if_neg]
    · exact found
    · intro missing
      simp [validPaperOrderSnapshot, missing] at order

/-- In every reachable state a recovery is all or nothing exactly if it builds no table, or builds
one that accounts for every unknown order while the session recovers, or builds again the table
that is already there. -/
theorem recovery_all_or_nothing (configuration : GatewayConfiguration) (mode : GatewayMode)
    (calls : List Call) (snapshot : GatewayRecoverySnapshot) (now : UInt64) :
    let s := run next (construct configuration mode) calls
    s.RecoversWholly snapshot now ↔
      (s.rebuilds snapshot = true →
        if s.session.state = .recovering ∧ now ≠ 0 then s.AccountsFor snapshot
        else (rebuildRecoveryOrders snapshot).1 = s.orders) := by
  intro s
  have idle : Idle s.journal := idle_run configuration mode calls
  cases built : s.rebuilds snapshot with
  | false =>
    obtain ⟨incomplete, rest⟩ := recover_of_not_rebuilds idle now built
    exact iff_of_true ⟨fun done => absurd done incomplete, fun _ => rest⟩ nofun
  | true =>
    obtain ⟨valid, clear, orders, completes, session⟩ := recover_of_rebuilds idle now built
    simp only [eq_self, true_implies]
    split
    · next turn =>
      have done := completes.mpr turn
      constructor
      · intro wholly index occupied unknown
        obtain ⟨slot, held, same, -⟩ := (wholly.1 done).2.2 index occupied unknown
        exact ⟨slot, held, same⟩
      · intro accounts
        refine ⟨fun _ => ⟨(mem_rebuilt valid orders).1, (mem_rebuilt valid orders).2, ?_⟩,
          fun failed => absurd done failed⟩
        intro index occupied unknown
        obtain ⟨slot, held, same⟩ := accounts index occupied unknown
        exact ⟨slot, held, same, known_of_unambiguous clear slot held⟩
    · next early =>
      have failed := fun done => early (completes.mp done)
      constructor
      · exact fun wholly => orders.symm.trans (wholly.2 failed).1
      · intro same
        refine ⟨fun done => absurd done failed, fun _ => ⟨orders.trans same, ?_, .inl ?_⟩⟩
        · rw [session failed]
        · rw [session failed]

open TestSupport in
/-- The order that a lost session leaves unknown is in the snapshot taken before the loss. -/
theorem recovery_completes_of_kept_snapshot :
    let sent := run next (construct TestSupport.configuration .simulation)
      [.start kNow, .sendOrder (request .newOrder 1 (kNow + 1))]
    let s := run next (construct TestSupport.configuration .simulation)
      [.start kNow, .sendOrder (request .newOrder 1 (kNow + 1)), .beginRecovery (kNow + 10)]
    (s.recover sent.recoverySnapshot (kNow + 20)).2 = .completed ∧
      s.RecoversWholly sent.recoverySnapshot (kNow + 20) := by
  refine ⟨by decide +kernel, (recovery_all_or_nothing ..).mpr fun _ => ?_⟩
  rw [if_pos (by decide +kernel)]
  decide +kernel

open TestSupport in
/-- A refused recovery drops an order, and a completed one an unknown order. -/
theorem recovery_drops_order :
    let started := run next (construct TestSupport.configuration .simulation) [.start kNow]
    let sent := started.next (.sendOrder (request .newOrder 1 (kNow + 1)))
    let lost := sent.next (.beginRecovery (kNow + 10))
    (sent.findOrder ⟨50, 1⟩).isSome ∧
      (sent.recover started.recoverySnapshot (kNow + 2)).2 ≠ .completed ∧
      (sent.recover started.recoverySnapshot (kNow + 2)).1.findOrder ⟨50, 1⟩ = none ∧
      (lost.findOrder ⟨50, 1⟩).any (fun index => (lost.orders index).state == .unknownRecovery) ∧
      (lost.recover started.recoverySnapshot (kNow + 20)).2 = .completed ∧
      (lost.recover started.recoverySnapshot (kNow + 20)).1.findOrder ⟨50, 1⟩ = none := by
  decide +kernel

end SimulatedGateway

end Aegis.Execution
