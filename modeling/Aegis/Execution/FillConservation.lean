import Aegis.Execution.History
import Aegis.Execution.AtMostOnce
import Aegis.Execution.OverFill

/-!
Fills are not lost. A trade queues what it fills, and `poll_event` returns it unless the sequence
check fails, which with times in order and no recoveries only happens in a stopped session.
-/

namespace Aegis.Execution

open Aegis.Common Aegis.Foundation Aegis.MarketData SimulatedGateway Function SequenceManager List GatewayAuditJournal

def Grows (before after : PaperOrderSnapshot) (counted counted' : Nat) : Prop :=
  after.cumulativeFillQuantityUnits = before.cumulativeFillQuantityUnits ∧ counted' = counted ∨
    ∃ quantity : UInt64, after.cumulativeFillQuantityUnits =
        before.cumulativeFillQuantityUnits + quantity ∧
      counted' = counted + quantity.toNat ∧
      (Viable before → after.cumulativeFillQuantityUnits.toNat =
        before.cumulativeFillQuantityUnits.toNat + quantity.toNat)

/-- An order grows with what is counted, or it is new and nothing is counted for it. -/
def Accounted (orders orders' : OrderTable) (counted counted' : OrderId → Nat)
    (index : Fin kMaximumGatewayOrders) : Prop :=
  ((orders index).occupied = true ∧ (orders' index).orderId = (orders index).orderId ∧
      Grows (orders index) (orders' index) (counted (orders' index).orderId)
        (counted' (orders' index).orderId)) ∨
    (orders' index).cumulativeFillQuantityUnits = 0 ∧ counted' (orders' index).orderId = 0

def SimulatedGateway.Call.ordinary : Call → Bool
  | .beginRecovery _ | .recover _ _ | .injectSyntheticResponse _ _ => false
  | _ => true

variable {model : PaperModelConfiguration} {book book' : Book} {call : Call}
  {output : Option GatewayEvent} {returned : List GatewayEvent}
  {orders orders' : OrderTable} {index : Fin kMaximumGatewayOrders} {h : History}

theorem accounted_of_same {counted counted' : OrderId → Nat} (occupied : (orders' index).occupied)
    (same : SameFill (orders index) (orders' index))
    (units : counted' (orders' index).orderId = counted (orders' index).orderId) :
    Accounted orders orders' counted counted' index :=
  .inl ⟨same.1.symm.trans occupied, same.2.1, .inl ⟨same.2.2, units⟩⟩

theorem same_update {order : PaperOrderSnapshot}
    (kept : ∀ index, SameFill (orders index) (orders' index))
    (rewritten : SameFill (orders' index) order) (other : Fin kMaximumGatewayOrders) :
    SameFill (orders other) (update orders' index order other) := by
  by_cases same : other = index
  · subst same
    rw [update_self]
    obtain ⟨held, id, cumulative⟩ := kept other
    obtain ⟨held', id', cumulative'⟩ := rewritten
    exact ⟨held'.trans held, id'.trans id, cumulative'.trans cumulative⟩
  · rw [update_of_ne same]
    exact kept other

section

variable (effect : Effect model book call book' output)
include effect

theorem Effect.counted (returned : List GatewayEvent) (ordinary : call.ordinary)
    (lossless : ∀ now, call = .pollEvent now → output = none → book'.events = book.events)
    (orderId : OrderId) : filledUnits orderId (returned ++ output.toList) book'.events =
        filledUnits orderId returned book.events ∨
      ∃ index, (book.orders index).occupied ∧ (book.orders index).orderId = orderId := by
  have nothing : returned ++ (none : Option GatewayEvent).toList = returned :=
    append_nil returned
  cases effect with
  | kept | settling time | passing =>
    rw [nothing]
    exact .inl rfl
  | plain kind unsequenced | filed admitted absent vacant made kind unsequenced =>
    rw [nothing, filledUnits_queue, unitsOf_of_kind kind.1]
    exact .inl rfl
  | injected | suspending | rebuilding => cases ordinary
  | canceling admitted found open' due kind | replacing admitted found open' more due kind =>
    rw [nothing, filledUnits_queue, unitsOf_of_kind (by rw [kind]; nofun)]
    exact .inl rfl
  | @filling event index market entry quantity shape meets amount some' due kind same =>
    by_cases filled : entry.event.orderId = orderId
    · obtain ⟨occupied, id, -⟩ :=
        settleOrder_spec model event.processMonotonicTimeNs (book.orders index)
      refine .inr ⟨index, occupied.symm.trans (tradable_spec meets).1, ?_⟩
      exact id.symm.trans (same.symm.trans filled)
    · rw [nothing, filledUnits_queue, unitsOf, if_neg fun fill => filled fill.2]
      exact .inl rfl
  | @withdrawing now scheduled output due reports =>
    obtain ⟨mem, -⟩ := earliestDue_spec due
    cases output with
    | none =>
      have kept := lossless now rfl rfl
      rw [nothing, kept]
      exact .inl rfl
    | some event => exact .inl (filledUnits_return mem (reports event rfl))

theorem Effect.tabled (keyed : Keyed book.orders) (ordinary : call.ordinary)
    (lossless : ∀ now, call = .pollEvent now → output = none → book'.events = book.events)
    (tabled : ∀ orderId, filledUnits orderId returned book.events ≠ 0 →
      (orderLayout.find book.orders orderId).isSome) (orderId : OrderId)
    (some' : filledUnits orderId (returned ++ output.toList) book'.events ≠ 0) :
    (orderLayout.find book'.orders orderId).isSome := by
  have known : (orderLayout.find book.orders orderId).isSome := by
    rcases effect.counted returned ordinary lossless orderId with
      same | ⟨index, occupied, rfl⟩
    · exact tabled orderId (same ▸ some')
    · have found := keyed.chained.find_eq_some keyed.distinct occupied
      exact Option.isSome_iff_exists.mpr ⟨index, found⟩
  obtain ⟨index, found⟩ := Option.isSome_iff_exists.mp known
  refine Option.isSome_iff_exists.mpr ⟨index, effect.find found ?_⟩
  rintro snapshot now rfl
  cases ordinary

theorem Effect.accounted (keyed : Keyed book.orders) (ordinary : call.ordinary)
    (lossless : ∀ now, call = .pollEvent now → output = none → book'.events = book.events)
    (tabled : ∀ orderId, filledUnits orderId returned book.events ≠ 0 →
      (orderLayout.find book.orders orderId).isSome) (index : Fin kMaximumGatewayOrders)
    (occupied : (book'.orders index).occupied) :
    Accounted book.orders book'.orders (filledUnits · returned book.events)
      (filledUnits · (returned ++ output.toList) book'.events) index := by
  have nothing : returned ++ (none : Option GatewayEvent).toList = returned :=
    append_nil returned
  cases effect with
  | kept =>
    rw [nothing]
    exact accounted_of_same occupied ⟨rfl, rfl, rfl⟩ rfl
  | plain kind unsequenced =>
    rw [nothing]
    refine accounted_of_same occupied ⟨rfl, rfl, rfl⟩ ?_
    rw [filledUnits_queue, unitsOf_of_kind kind.1, Nat.add_zero]
  | injected | suspending | rebuilding => cases ordinary
  | @filed request free order entry admitted absent vacant made kind unsequenced =>
    rw [nothing]
    have units : ∀ orderId, filledUnits orderId returned (book.events ++ [entry]) =
        filledUnits orderId returned book.events := by
      intro orderId
      rw [filledUnits_queue, unitsOf_of_kind kind.1, Nat.add_zero]
    by_cases same : index = free
    · subst same
      have uncounted : filledUnits request.command.orderId returned book.events = 0 := by
        by_contra counted
        have known := tabled _ counted
        rw [absent] at known
        cases known
      refine .inr ?_
      dsimp only
      rw [update_self, made.orderId, units]
      exact ⟨made.cumulative, uncounted⟩
    · have kept : update book.orders free order index = book.orders index :=
        update_of_ne same _ _
      refine accounted_of_same occupied ?_ (units _)
      dsimp only
      rw [kept]
      exact ⟨rfl, rfl, rfl⟩
  | canceling admitted found open' due kind orderId unsequenced
  | replacing admitted found open' more due kind orderId unsequenced =>
    rw [nothing]
    refine accounted_of_same occupied ?_ ?_
    · refine same_update (fun _ => ?_) ?_ index <;> exact ⟨rfl, rfl, rfl⟩
    · rw [filledUnits_queue, unitsOf_of_kind (by rw [kind]; nofun), Nat.add_zero]
  | settling time =>
    rw [nothing]
    exact accounted_of_same occupied (settleOrder_spec _ _ _) rfl
  | passing =>
    rw [nothing]
    refine accounted_of_same occupied ?_ rfl
    refine same_update (fun other => ?_) ?_ index
    · exact settleOrder_spec _ _ (book.orders other)
    · exact ⟨rfl, rfl, rfl⟩
  | @filling event filled market entry quantity shape meets amount some' due kind orderId units
      unsequenced =>
      rw [nothing]
      obtain ⟨held, id, cumulative⟩ :=
        settleOrder_spec model event.processMonotonicTimeNs (book.orders index)
      by_cases same : index = filled
      · subst same
        refine .inl ?_
        dsimp only at occupied ⊢
        rw [update_self] at occupied ⊢
        have counted : unitsOf (settled model event.processMonotonicTimeNs book.orders
            index).orderId entry.event = quantity.toNat := by
          rw [unitsOf, if_pos ⟨kind, orderId⟩, units]
        refine ⟨held.symm.trans occupied, id, .inr ⟨quantity, ?_, ?_, ?_⟩⟩
        · exact congrArg (· + quantity) cumulative
        · refine (filledUnits_queue entry).trans ?_
          exact congrArg _ counted
        · intro viable
          have viable : Viable (settleOrder model event.processMonotonicTimeNs
            (book.orders index)) := viable.settle
          rw [amount, ← cumulative]
          exact (viable.toNat_fill model event).1
      · have kept : update (settled model event.processMonotonicTimeNs book.orders) filled
            (filledOrder (settled model event.processMonotonicTimeNs book.orders filled) quantity)
            index = settled model event.processMonotonicTimeNs book.orders index :=
          update_of_ne same _ _
        have apart : entry.event.orderId ≠
            (settled model event.processMonotonicTimeNs book.orders index).orderId := by
          intro eq
          have keyed := keyed.of_sameKeys
            (sameKeys_settled model event.processMonotonicTimeNs book.orders)
          dsimp only at occupied
          rw [kept] at occupied
          exact same (keyed.distinct index filled occupied (tradable_spec meets).1
            (eq.symm.trans orderId))
        refine accounted_of_same occupied ?_ ?_
        · dsimp only
          rw [kept]
          exact ⟨held, id, cumulative⟩
        · dsimp only
          rw [kept, filledUnits_queue, unitsOf, if_neg (fun fill => apart fill.2), Nat.add_zero]
  | @withdrawing now scheduled output due reports =>
    obtain ⟨mem, -⟩ := earliestDue_spec due
    refine accounted_of_same occupied (settleOrder_spec _ _ _) ?_
    cases output with
    | none =>
      have kept := congrArg length (lossless now rfl rfl)
      have fewer := length_erase_of_mem mem
      have some' := length_pos_of_mem mem
      dsimp only at kept
      omega
    | some event => exact filledUnits_return mem (reports event rfl)

end

/-- It started at a time and has not heard from the venue later. -/
structure SessionLifecycle.InStep (session : SessionLifecycle) (now : UInt64) : Prop where
  state : session.state = .stopped ∨ session.state = .active ∨ session.state = .halted
  idle : now = 0 → session.state = .stopped
  heard : session.lastInboundNs ≤ now

namespace SessionLifecycle

variable {session : SessionLifecycle} {now : UInt64}

theorem InStep.later {lastTime : UInt64} (inStep : session.InStep lastTime)
    (after : lastTime ≤ now) : session.InStep now := by
  refine ⟨inStep.state, fun zero => inStep.idle ?_, UInt64.le_trans inStep.heard after⟩
  subst zero
  exact UInt64.le_zero_iff.mp after

section

variable (inStep : session.InStep now)
include inStep

theorem InStep.halt (time : UInt64) (reason : SessionReason) :
    (session.halt time reason).InStep now := by
  unfold SessionLifecycle.halt
  split
  · next live =>
    exact ⟨.inr (.inr rfl), fun zero => absurd (inStep.idle zero) live, inStep.heard⟩
  · exact inStep

theorem InStep.claimOutbound (time : UInt64) : (session.claimOutbound time).1.InStep now := by
  unfold SessionLifecycle.claimOutbound
  split
  · exact inStep
  split
  · exact ⟨inStep.state, inStep.idle, inStep.heard⟩
  · exact inStep.halt time _

theorem InStep.checkHeartbeatTimeout (time : UInt64) :
    (session.checkHeartbeatTimeout time).1.InStep now := by
  unfold SessionLifecycle.checkHeartbeatTimeout
  split
  · exact inStep
  split
  · exact inStep
  · exact inStep.halt time _

theorem InStep.observeInbound (sequence : UInt64) :
    (session.observeInbound now sequence).1.InStep now := by
  have observed : ∀ sequences, ({ session with sequences } : SessionLifecycle).InStep now :=
    fun _ => ⟨inStep.state, inStep.idle, inStep.heard⟩
  have heard : ∀ sequences, ({ session with sequences, lastInboundNs := now } :
      SessionLifecycle).InStep now :=
    fun _ => ⟨inStep.state, inStep.idle, UInt64.le_refl _⟩
  unfold SessionLifecycle.observeInbound
  split
  · exact inStep
  dsimp only
  split <;> first | exact heard _ | exact (observed _).halt now _ | exact observed _

theorem InStep.logon : (session.logon now).1.InStep now := by
  unfold SessionLifecycle.logon requestLogon
  split
  · exact inStep
  next requested =>
  split at requested
  · cases requested
  next ready =>
  simp only [Bool.or_eq_true, decide_eq_true_eq, not_or] at ready
  cases requested
  unfold acceptLogon
  split
  · next refused =>
    split at refused
    · next wrong => simp [transition, ready.1.2] at wrong
    · cases refused
  · next accepted =>
    split at accepted
    · cases accepted
    cases accepted
    refine ⟨.inr (.inl rfl), fun zero => absurd zero ready.1.2, ?_⟩
    unfold transition
    dsimp only
    split <;> exact UInt64.le_refl _

theorem InStep.logoff : (session.logoff now).1.InStep now := by
  unfold SessionLifecycle.logoff requestLogoff
  split
  · exact inStep
  next requested =>
  split at requested
  · cases requested
  next ready =>
  simp only [Bool.or_eq_true, decide_eq_true_eq, not_or] at ready
  cases requested
  unfold completeLogoff
  split
  · next refused =>
    split at refused
    · next wrong => simp [transition, ready.1] at wrong
    · cases refused
  · next completed =>
    split at completed
    · cases completed
    · cases completed
      exact ⟨.inl rfl, fun _ => rfl, inStep.heard⟩

end

end SessionLifecycle

namespace SimulatedGateway

variable {s s' : SimulatedGateway} {now : UInt64}

theorem Part.inStep (part : Part call s s') (time : call.time = some now) (ordinary : call.ordinary)
    (inStep : s.session.InStep now) : s'.session.InStep now := by
  cases part with
  | frame frame =>
    rw [frame.session]
    exact inStep
  | setUnsafe reason time => exact inStep.halt time reason
  | append appended =>
    obtain ⟨journal, -, rfl⟩ := Option.map_eq_some_iff.mp appended
    exact inStep
  | updateHealth | reserve | file => exact inStep
  | claim time => exact inStep.claimOutbound time
  | check time => exact inStep.checkHeartbeatTimeout time
  | observe poll sequence =>
    subst poll
    cases time
    exact inStep.observeInbound sequence
  | logon start =>
    subst start
    cases time
    exact inStep.logon
  | logoff off =>
    subst off
    cases time
    exact inStep.logoff
  | beginRecovery begins =>
    subst begins
    cases ordinary
  | completeRecovery recovers =>
    subst recovers
    cases ordinary
  | shutdown => exact ⟨.inl rfl, fun _ => rfl, inStep.heard⟩

/-- Inbound sequences are behind the journal by at least `slack`. -/
structure InSequence (s : SimulatedGateway) (slack : Nat) : Prop where
  reserved : s.journal.reservedSequence ≤ kMaximumGatewayJournalRecords
  expected : s.session.sequences.expectedInbound.toNat + slack ≤ s.journal.reservedSequence + 1
  last : s.session.sequences.lastInbound < s.session.sequences.expectedInbound

theorem InSequence.of_same {slack : Nat} (inSequence : InSequence s slack)
    (journal : s'.journal = s.journal)
    (expected : s'.session.sequences.expectedInbound = s.session.sequences.expectedInbound)
    (last : s'.session.sequences.lastInbound = s.session.sequences.lastInbound) :
    InSequence s' slack := by
  refine ⟨?_, ?_, ?_⟩
  · rw [journal]
    exact inSequence.reserved
  · rw [journal, expected]
    exact inSequence.expected
  · rw [expected, last]
    exact inSequence.last

theorem claimOutbound_inbound (session : SessionLifecycle) (time : UInt64) :
    (session.claimOutbound time).1.sequences.expectedInbound = session.sequences.expectedInbound ∧
      (session.claimOutbound time).1.sequences.lastInbound = session.sequences.lastInbound := by
  unfold SessionLifecycle.claimOutbound claimOutbound
  split
  · exact ⟨rfl, rfl⟩
  by_cases exhausted : session.sequences.nextOutbound = 0
  · rw [if_pos exhausted]
    exact ⟨congrArg (·.expectedInbound) (session.halt_sequences time _),
      congrArg (·.lastInbound) (session.halt_sequences time _)⟩
  · rw [if_neg exhausted]
    exact ⟨rfl, rfl⟩

theorem Part.inSequence (part : Part call s s') (ordinary : call.ordinary)
    (quiet : ∀ now, call ≠ .pollEvent now) (inSequence : InSequence s 0) : InSequence s' 0 := by
  have same : ∀ {session : SessionLifecycle}, session.sequences = s.session.sequences →
      InSequence { s with session } 0 := by
    intro session eq
    exact inSequence.of_same rfl (congrArg (·.expectedInbound) eq) (congrArg (·.lastInbound) eq)
  cases part with
  | frame frame =>
    exact inSequence.of_same frame.journal (congrArg (·.sequences.expectedInbound) frame.session)
      (congrArg (·.sequences.lastInbound) frame.session)
  | setUnsafe reason time =>
    have halted := s.session.halt_sequences time reason
    exact inSequence.of_same rfl (congrArg (·.expectedInbound) halted)
      (congrArg (·.lastInbound) halted)
  | append appended =>
    obtain ⟨journal, committed, rfl⟩ := Option.map_eq_some_iff.mp appended
    unfold commit at committed
    split at committed
    · cases committed
      exact ⟨inSequence.reserved, inSequence.expected, inSequence.last⟩
    · cases committed
  | updateHealth | file | shutdown => exact inSequence.of_same rfl rfl rfl
  | reserve reserved =>
    unfold tryReserve at reserved
    split at reserved
    · cases reserved
    next room =>
    cases reserved
    have expected := inSequence.expected
    exact ⟨by dsimp only; omega, by dsimp only; omega, inSequence.last⟩
  | claim time =>
    obtain ⟨expected, last⟩ := claimOutbound_inbound s.session time
    exact inSequence.of_same rfl expected last
  | check time => exact same (s.session.checkHeartbeatTimeout_sequences time)
  | observe poll => exact absurd poll (quiet _)
  | logon => exact same (s.session.logon_sequences _)
  | logoff => exact same (s.session.logoff_sequences _)
  | beginRecovery begins =>
    subst begins
    cases ordinary
  | completeRecovery recovers =>
    subst recovers
    cases ordinary

theorem InSequence.reserve {reservation : Nat} {journal : GatewayAuditJournal}
    (inSequence : InSequence s 0) (reserved : s.journal.tryReserve = some (reservation, journal)) :
    InSequence { s with journal } 1 := by
  unfold tryReserve at reserved
  split at reserved
  · cases reserved
  · cases reserved
    have expected := inSequence.expected
    exact ⟨by dsimp only; omega, by dsimp only; omega, inSequence.last⟩

theorem observe_inSequence (sequences : SequenceManager) (sequence : UInt64) :
    (sequences.observeInbound sequence).1 = sequences ∨ sequences.expectedInbound = sequence ∧
        (sequences.observeInbound sequence).1.lastInbound = sequence ∧
        (sequences.observeInbound sequence).1.expectedInbound =
          successor sequences.expectedInbound := by
  unfold observeInbound
  split
  · exact .inl rfl
  split
  · exact .inl rfl
  split
  · exact .inl rfl
  next notBefore =>
  split
  · exact .inl rfl
  next notAfter =>
  have same := UInt64.le_antisymm (UInt64.not_lt.mp notBefore) (UInt64.not_lt.mp notAfter)
  exact .inr ⟨same, rfl, rfl⟩

theorem InSequence.observe (inSequence : InSequence s 1) (time sequence : UInt64) :
    InSequence { s with session := (s.session.observeInbound time sequence).1 } 0 := by
  have looser : InSequence s 0 :=
    ⟨inSequence.reserved, Nat.le_of_succ_le inSequence.expected, inSequence.last⟩
  have observed : ∀ session : SessionLifecycle,
      session.sequences = (s.session.sequences.observeInbound sequence).1 →
      InSequence { s with session } 0 := by
    intro session eq
    rcases observe_inSequence s.session.sequences sequence with same | ⟨same, last, expected⟩
    · rw [same] at eq
      exact looser.of_same rfl (congrArg (·.expectedInbound) eq) (congrArg (·.lastInbound) eq)
    have bound := inSequence.expected
    have most := inSequence.reserved
    have small : kMaximumGatewayJournalRecords < 2 ^ 32 := by decide
    have inside : s.session.sequences.expectedInbound ≠ 0xFFFFFFFFFFFFFFFF := by
      intro top
      rw [top] at bound
      have : (0xFFFFFFFFFFFFFFFF : UInt64).toNat = 2 ^ 64 - 1 := rfl
      omega
    have next : (successor s.session.sequences.expectedInbound).toNat =
        s.session.sequences.expectedInbound.toNat + 1 := by
      unfold successor
      rw [if_neg inside, UInt64.toNat_add, UInt64.toNat_one, Nat.mod_eq_of_lt]
      omega
    refine ⟨inSequence.reserved, ?_, ?_⟩
    · rw [eq, expected, next]
      omega
    · dsimp only
      rw [eq, expected, last, UInt64.lt_iff_toNat_lt, next, same]
      omega
  unfold SessionLifecycle.observeInbound
  split
  · exact looser.of_same rfl rfl rfl
  dsimp only
  split <;> exact observed _ (by first | rfl | rw [SessionLifecycle.halt_sequences])

theorem pollEvent_inSequence (inSequence : InSequence s 0) (now : UInt64) :
    InSequence (s.pollEvent now).1 0 := by
  have checked : InSequence { s with session := (s.session.checkHeartbeatTimeout now).1 } 0 := by
    have same := s.session.checkHeartbeatTimeout_sequences now
    exact inSequence.of_same rfl (congrArg (·.expectedInbound) same) (congrArg (·.lastInbound) same)
  unfold pollEvent
  split
  · exact inSequence
  split
  · exact inSequence
  dsimp only
  generalize (s.session.checkHeartbeatTimeout now).2 = timedOut
  generalize (s.session.checkHeartbeatTimeout now).1 = session at checked ⊢
  split
  · exact checked.of_same rfl rfl rfl
  have settled : InSequence ({ s with session }.settleDueControls now) 0 :=
    checked.of_same rfl rfl rfl
  split
  · exact settled
  next scheduled due =>
  rcases reserving_cases ({ s with session }.settleDueControls now) now
    (GatewayPollStatus.recovering, (none : Option GatewayEvent))
    (fun reservation s => s.deliver now scheduled reservation) with
    ⟨-, full⟩ | ⟨reservation, journal, reserved, eq⟩
  · rw [full]
    have halted := session.halt_sequences now .journalUnavailable
    exact settled.of_same rfl (congrArg (·.expectedInbound) halted)
      (congrArg (·.lastInbound) halted)
  · rw [eq]
    have observed := (settled.reserve reserved).observe now
      (emitted { { s with session }.settleDueControls now with journal } scheduled).venueSequence
    have rest := parts_deliver_rest (.heartbeat now)
      { { s with session }.settleDueControls now with journal } now scheduled reservation
    generalize (deliver { { s with session }.settleDueControls now with journal } now scheduled
      reservation).1 = last at rest ⊢
    induction rest with
    | refl => exact observed
    | tail _ part ih => exact part.inSequence rfl nofun ih

theorem inSequence_next (inSequence : InSequence s 0) (ordinary : call.ordinary) :
    InSequence (s.next call) 0 := by
  by_cases poll : ∃ now, call = .pollEvent now
  · obtain ⟨now, rfl⟩ := poll
    exact pollEvent_inSequence inSequence now
  · refine next_preserves (P := (InSequence · 0)) (fun _ _ part held => ?_) inSequence
    exact part.inSequence ordinary (fun now eq => poll ⟨now, eq⟩) held

theorem observeInbound_expected {session : SessionLifecycle} (active : session.state = .active)
    (started : now ≠ 0) (heard : session.lastInboundNs ≤ now)
    (last : session.sequences.lastInbound < session.sequences.expectedInbound) :
    (session.observeInbound now session.sequences.expectedInbound).2 = .first ∨
      (session.observeInbound now session.sequences.expectedInbound).2 = .inOrder := by
  have some' : session.sequences.expectedInbound ≠ 0 := by
    intro zero
    rw [zero] at last
    exact absurd last (UInt64.not_lt.mpr UInt64.zero_le)
  have fresh : session.sequences.expectedInbound ≠ session.sequences.lastInbound :=
    (UInt64.ne_of_lt last).symm
  have accepted : (session.sequences.observeInbound session.sequences.expectedInbound).2 = .first ∨
      (session.sequences.observeInbound session.sequences.expectedInbound).2 = .inOrder := by
    unfold observeInbound
    rw [if_neg (by simp [some']), if_neg fresh, if_neg (UInt64.lt_irrefl _),
      if_neg (UInt64.lt_irrefl _)]
    split
    · exact .inl rfl
    · exact .inr rfl
  unfold SessionLifecycle.observeInbound
  rw [if_neg (by simp [active, started, UInt64.not_lt.mpr heard])]
  dsimp only
  rcases accepted with first | inOrder
  · rw [first]
    exact .inl rfl
  · rw [inOrder]
    exact .inr rfl

theorem deliver_lossless {scheduled : ScheduledEvent} {reservation : Nat}
    (accepted : (s.session.observeInbound now (s.emitted scheduled).venueSequence).2 = .first ∨
      (s.session.observeInbound now (s.emitted scheduled).venueSequence).2 = .inOrder)
    (nothing : (s.deliver now scheduled reservation).2.2 = none) :
    (s.deliver now scheduled reservation).1.events = s.events := by
  have kept : ∀ (session : SessionLifecycle) (record : GatewayAuditRecord),
      (audit { s with session } reservation record now).1.events = s.events :=
    fun session record => congrArg Book.events sameBook_audit.book
  have noted : ∀ (session : SessionLifecycle) (record : GatewayAuditRecord),
      (noteAudit (setUnsafe { s with session } .inboundSequenceGap now) reservation record
        now).events = s.events :=
    fun session record => congrArg Book.events sameBook_noteAudit.book
  unfold deliver at nothing ⊢
  dsimp only at nothing ⊢
  generalize s.session.observeInbound now (s.emitted scheduled).venueSequence = observed
    at accepted nothing ⊢
  rcases accepted with kind | kind <;>
  · rw [kind] at nothing ⊢
    dsimp only at nothing ⊢
    split at nothing
    · next invalid =>
      rw [if_pos invalid]
      exact noted _ _
    next valid =>
    rw [if_neg valid]
    split at nothing
    · next failed =>
      rw [if_pos failed]
      exact kept _ _
    · cases nothing

theorem pollEvent_lossless (inStep : s.session.InStep now) (inSequence : InSequence s 0)
    (unsequenced : ∀ scheduled ∈ s.events, scheduled.event.venueSequence = 0)
    (running : s.session.state ≠ .stopped) (nothing : (s.pollEvent now).2.2 = none) :
    (s.pollEvent now).1.events = s.events := by
  have started : now ≠ 0 := fun zero => running (inStep.idle zero)
  unfold pollEvent at nothing ⊢
  split
  · rfl
  next unstopped =>
  rw [if_neg unstopped] at nothing
  split
  · rfl
  next initialized =>
  rw [if_neg initialized] at nothing
  dsimp only at nothing ⊢
  split
  · rfl
  next inTime =>
  rw [if_neg inTime] at nothing
  have active : s.session.state = .active ∧ (s.session.checkHeartbeatTimeout now).1 = s.session := by
    unfold SessionLifecycle.checkHeartbeatTimeout at inTime ⊢
    split at inTime
    · next quiet =>
      rcases inStep.state with stopped | active | halted
      · exact absurd stopped running
      · refine ⟨active, ?_⟩
        rw [if_pos quiet]
      · simp [halted] at inTime
    next alive =>
    simp only [Bool.or_eq_true, decide_eq_true_eq, not_or, not_not] at alive
    split at inTime
    · next fresh =>
      refine ⟨alive.1, ?_⟩
      rw [if_neg (by simp [alive.1, alive.2]), if_pos fresh]
    · exact absurd rfl inTime
  obtain ⟨active, same⟩ := active
  rw [same] at nothing ⊢
  split
  · rfl
  next scheduled due =>
  have mem : scheduled ∈ s.events := (earliestDue_spec due).1
  rw [due] at nothing
  dsimp only at nothing
  rcases reserving_cases (s.settleDueControls now) now
    (GatewayPollStatus.recovering, (none : Option GatewayEvent))
    (fun reservation s => s.deliver now scheduled reservation) with
    ⟨-, full⟩ | ⟨reservation, journal, reserved, eq⟩
  · rw [full]
    rfl
  rw [eq] at nothing ⊢
  have sequence : (emitted { s.settleDueControls now with journal } scheduled).venueSequence =
      s.session.sequences.expectedInbound := by
    have zero := (refreshed_spec { s.settleDueControls now with journal }
      scheduled.event).2.2.1.trans (unsequenced scheduled mem)
    unfold emitted
    dsimp only
    rw [if_pos zero]
    rfl
  have accepted := observeInbound_expected active started inStep.heard inSequence.last
  refine (deliver_lossless ?_ nothing).trans rfl
  rw [sequence]
  exact accepted

def pollsStopped (s : SimulatedGateway) : Call → Bool
  | .pollEvent _ => s.session.state == .stopped
  | _ => false

end SimulatedGateway

theorem Effect.unsequenced (effect : Effect model book call book' output) (ordinary : call.ordinary)
    (unsequenced : ∀ scheduled ∈ book.events, scheduled.event.venueSequence = 0) :
    ∀ scheduled ∈ book'.events, scheduled.event.venueSequence = 0 := by
  have queued : ∀ {entry : ScheduledEvent}, entry.event.venueSequence = 0 →
      ∀ scheduled ∈ book.events ++ [entry], scheduled.event.venueSequence = 0 := by
    intro entry zero scheduled mem
    rcases mem_append.mp mem with mem | mem
    · exact unsequenced scheduled mem
    · rw [mem_singleton.mp mem]
      exact zero
  cases effect with
  | kept | settling time | passing => exact unsequenced
  | plain kind zero | filed admitted absent vacant made kind zero
  | canceling admitted found open' due kind orderId zero
  | replacing admitted found open' more due kind orderId zero
  | filling shape meets amount some' due kind orderId units zero => exact queued zero
  | injected | suspending | rebuilding => cases ordinary
  | withdrawing due reports =>
    intro scheduled mem
    exact unsequenced scheduled (mem_of_mem_erase mem)

/-- Times in order, no recovery, no injected response, and nothing polled in a stopped session. -/
def History.Ordinary (h : History) (call : Call) : Prop :=
  h.InOrder call ∧ call.ordinary = true ∧ h.gateway.pollsStopped call = false

instance (h : History) (call : Call) : Decidable (h.Ordinary call) :=
  inferInstanceAs (Decidable (_ ∧ _ ∧ _))

structure Conserving (h : History) : Prop where
  keyed : Keyed h.gateway.orders
  inStep : h.gateway.session.InStep h.lastTime
  inSequence : InSequence h.gateway 0
  unsequenced : ∀ scheduled ∈ h.gateway.events, scheduled.event.venueSequence = 0
  tabled : ∀ orderId, h.filled orderId ≠ 0 →
    (orderLayout.find h.gateway.orders orderId).isSome = true

theorem time_of_ordinary (ordinary : call.ordinary) : ∃ now, call.time = some now := by
  cases call with
  | injectSyntheticResponse => cases ordinary
  | _ => exact ⟨_, rfl⟩

theorem Conserving.lossless (conserving : Conserving h) (allowed : h.Ordinary call)
    (now : UInt64) (poll : call = .pollEvent now) (nothing : h.gateway.delivered call = none) :
    (h.gateway.next call).book.events = h.gateway.book.events := by
  subst poll
  obtain ⟨inOrder, -, running⟩ := allowed
  exact pollEvent_lossless (conserving.inStep.later (inOrder now rfl)) conserving.inSequence
    conserving.unsequenced (by simpa [pollsStopped] using running) nothing

theorem Conserving.step (conserving : Conserving h) (allowed : h.Ordinary call) :
    Conserving (h.next call) := by
  have lossless := conserving.lossless allowed
  obtain ⟨inOrder, ordinary, -⟩ := allowed
  obtain ⟨effect, -⟩ := h.gateway.next_has call
  obtain ⟨now, time⟩ := time_of_ordinary ordinary
  refine ⟨effect.keyed conserving.keyed, ?_, inSequence_next conserving.inSequence ordinary,
    effect.unsequenced ordinary conserving.unsequenced, ?_⟩
  · have stepped := next_preserves (P := fun s => s.session.InStep now)
      (fun _ _ part held => part.inStep time ordinary held)
      (conserving.inStep.later (inOrder now time))
    have last : (h.next call).lastTime = now := by
      unfold History.next
      rw [time]
      rfl
    rw [last]
    exact stepped
  · exact effect.tabled conserving.keyed ordinary lossless conserving.tabled

theorem Conserving.accounted (conserving : Conserving h) (allowed : h.Ordinary call)
    (index : Fin kMaximumGatewayOrders) (occupied : ((h.next call).gateway.orders index).occupied) :
    Accounted h.gateway.orders (h.next call).gateway.orders h.filled (h.next call).filled index :=
  (h.gateway.next_has call).1.accounted conserving.keyed allowed.2.1
    (conserving.lossless allowed) conserving.tabled index occupied

theorem conserving_construct (configuration : GatewayConfiguration) (mode : GatewayMode) :
    Conserving (History.construct configuration mode) := by
  obtain ⟨orders, events, -⟩ := construct_orders configuration mode
  have empty : ∀ orderId, (History.construct configuration mode).filled orderId = 0 := by
    intro orderId
    unfold History.filled History.construct
    rw [events]
    rfl
  have session : (construct configuration mode).session =
      .construct configuration.exchangeSessionEpoch configuration.initialFencingToken
        configuration.heartbeatIntervalNs configuration.heartbeatTimeoutNs ∧
      (construct configuration mode).journal = {} := by
    unfold construct
    dsimp only
    split
    · exact ⟨rfl, rfl⟩
    · exact ⟨rfl, rfl⟩
  refine ⟨?_, ?_, ?_, ?_, ?_⟩
  · unfold History.construct
    dsimp only
    rw [orders]
    exact keyed_empty
  · unfold History.construct
    dsimp only
    rw [session.1]
    exact ⟨.inl rfl, fun _ => rfl, UInt64.le_refl _⟩
  · refine ⟨?_, ?_, ?_⟩
    · unfold History.construct
      dsimp only
      rw [session.2]
      exact Nat.zero_le _
    · unfold History.construct
      dsimp only
      rw [session.1, session.2]
      exact Nat.le_refl 1
    · unfold History.construct
      dsimp only
      rw [session.1]
      exact (by decide : (0 : UInt64) < 1)
  · unfold History.construct
    dsimp only
    rw [events]
    exact fun _ mem => absurd mem not_mem_nil
  · exact fun orderId some' => absurd (empty orderId) some'

/-- The fill of every order as the counter of the code has it. -/
def CountsModular (h : History) : Prop :=
  ∀ index, (h.gateway.orders index).occupied = true →
    (h.gateway.orders index).cumulativeFillQuantityUnits.toNat =
      h.filled (h.gateway.orders index).orderId % 2 ^ 64

/-- The fill of every order is the sum of its fill events. -/
def CountsExactly (h : History) : Prop :=
  ∀ index, (h.gateway.orders index).occupied = true →
    (h.gateway.orders index).cumulativeFillQuantityUnits.toNat =
      h.filled (h.gateway.orders index).orderId

theorem countsModular_next (conserving : Conserving h) (counts : CountsModular h)
    (allowed : h.Ordinary call) : CountsModular (h.next call) := by
  intro index occupied
  rcases conserving.accounted allowed index occupied with
    ⟨held, orderId, same | ⟨quantity, grown, counted, -⟩⟩ | ⟨zero, uncounted⟩
  · rw [same.1, same.2, orderId]
    exact counts index held
  · have before := counts index held
    rw [grown, counted, orderId, UInt64.toNat_add, before]
    exact Nat.mod_add_mod _ _ _
  · rw [zero, uncounted]
    rfl

theorem countsExactly_next (conserving : Conserving h) (viable : AllViable h.gateway.orders)
    (counts : CountsExactly h) (allowed : h.Ordinary call) : CountsExactly (h.next call) := by
  intro index occupied
  rcases conserving.accounted allowed index occupied with
    ⟨held, orderId, same | ⟨quantity, -, counted, exact'⟩⟩ | ⟨zero, uncounted⟩
  · rw [same.1, same.2, orderId]
    exact counts index held
  · rw [exact' (viable index held), counted, orderId, counts index held]
  · rw [zero, uncounted]
    rfl

/-- On the ordinary course the fill of every order is the sum of its fill events, up to the width of
the counter, and exactly as long as no trade overtakes a pending replace. -/
theorem fills_conserved (configuration : GatewayConfiguration) (mode : GatewayMode)
    (calls : List Call)
    (ordinary : Throughout History.next History.Ordinary (.construct configuration mode) calls) :
    Always History.next CountsModular (.construct configuration mode) calls ∧
      (Throughout History.next (fun h call => ¬ Overtakes h.gateway call)
          (.construct configuration mode) calls →
        Always History.next CountsExactly (.construct configuration mode) calls) := by
  have start := conserving_construct configuration mode
  obtain ⟨orders, -, same⟩ := construct_orders configuration mode
  have vacant : ∀ index, ((History.construct configuration mode).gateway.orders index).occupied ≠
      true := by
    intro index occupied
    unfold History.construct at occupied
    rw [orders] at occupied
    cases occupied
  constructor
  · have always := always_of_throughout (P := fun h => Conserving h ∧ CountsModular h)
      (fun _ _ held allowed => ⟨held.1.step allowed, countsModular_next held.1 held.2 allowed⟩)
      ⟨start, fun index occupied => absurd occupied (vacant index)⟩ ordinary
    exact fun before initial => (always before initial).2
  · intro kept
    have always := always_of_throughout
      (P := fun h => Conserving h ∧ Orderly configuration h.gateway ∧ CountsExactly h)
      (fun h call held (allowed : h.Ordinary call ∧ ¬ Overtakes h.gateway call) =>
        ⟨held.1.step allowed.1, held.2.1.step allowed.2,
          countsExactly_next held.1 held.2.1.viable held.2.2 allowed.1⟩)
      ⟨start, ⟨same, start.keyed, fun index occupied => absurd occupied (vacant index)⟩,
        fun index occupied => absurd occupied (vacant index)⟩
      (throughout_and.mpr ⟨ordinary, kept⟩)
    exact fun before initial => (always before initial).2.2

open TestSupport in
/-- An order is filled in part, and its events are polled before the log off. -/
def TestSupport.polledCalls : List Call :=
  [.start kNow, .onMarketEvent (statusEvent .opened 1 kNow),
    .sendOrder (request .newOrder 1 (kNow + 1)), .onMarketEvent (tradeEvent 2 (kNow + 200)),
    .pollEvent (kNow + 210), .pollEvent (kNow + 220), .logoff (kNow + 230)]

open TestSupport in
theorem fills_conserved_polled :
    Always History.next CountsModular (.construct TestSupport.configuration .simulation)
        polledCalls ∧
      Always History.next CountsExactly (.construct TestSupport.configuration .simulation)
        polledCalls := by
  obtain ⟨modular, exactly⟩ := fills_conserved TestSupport.configuration .simulation polledCalls
    (by decide +kernel)
  exact ⟨modular, exactly (by decide +kernel)⟩

open TestSupport in
/-- A fill is queued, the session logged off, polled and started again. -/
theorem fill_lost_by_stopped_poll :
    let h := run History.next (.construct TestSupport.configuration .simulation)
      [.start kNow, .onMarketEvent (statusEvent .opened 1 kNow),
        .sendOrder (request .newOrder 1 (kNow + 1)), .onMarketEvent (tradeEvent 2 (kNow + 200)),
        .pollEvent (kNow + 210), .logoff (kNow + 220), .pollEvent (kNow + 230),
        .start (kNow + 240)]
    h.gateway.health = .healthy ∧ h.filled ⟨50, 1⟩ = 0 ∧
      ∃ index, (h.gateway.orders index).occupied = true ∧
        (h.gateway.orders index).orderId = ⟨50, 1⟩ ∧
        (h.gateway.orders index).cumulativeFillQuantityUnits = 3 := by
  refine ⟨by decide +kernel, by decide +kernel,
    (run SimulatedGateway.next (construct TestSupport.configuration .simulation)
      [.start kNow, .sendOrder (request .newOrder 1 (kNow + 1))]).findOrder ⟨50, 1⟩ |>.getD 0, ?_⟩
  decide +kernel

end Aegis.Execution
