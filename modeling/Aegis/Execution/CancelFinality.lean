import Aegis.Execution.FillConservation

/-!
A cancel is final. Its acknowledgement is queued when it is submitted and the order is canceled
when its latency is over; the two fall together unless another control comes in between
(`disturbs`).
-/

namespace Aegis.Execution

open Aegis.Common Aegis.Foundation Aegis.MarketData SimulatedGateway Function List

def Holds (orders : OrderTable) (orderId : OrderId) (P : PaperOrderSnapshot → Prop) : Prop :=
  ∃ index, (orders index).occupied = true ∧ (orders index).orderId = orderId ∧ P (orders index)

variable {orders orders' : OrderTable} {orderId : OrderId} {P Q : PaperOrderSnapshot → Prop}
  {order : PaperOrderSnapshot} {index : Fin kMaximumGatewayOrders}

theorem Holds.at (holds : Holds orders orderId P) (keyed : Keyed orders)
    (occupied : (orders index).occupied) (same : (orders index).orderId = orderId) :
    P (orders index) := by
  obtain ⟨other, held, sameId, property⟩ := holds
  rw [keyed.distinct index other occupied held (same.trans sameId.symm)]
  exact property

variable {model : PaperModelConfiguration} {lastTime dueNs : UInt64} {output : Option GatewayEvent}
  {call : Call} {configuration : GatewayConfiguration} {h : History}

theorem Holds.settled {now : UInt64} (holds : Holds orders orderId P)
    (implies : ∀ order, order.occupied → P order → Q (settleOrder model now order)) :
    Holds (settled model now orders) orderId Q := by
  obtain ⟨index, occupied, same, held⟩ := holds
  obtain ⟨kept, id, -⟩ := settleOrder_spec model now (orders index)
  exact ⟨index, kept.trans occupied, id.trans same, implies _ occupied held⟩

theorem Holds.update (holds : Holds orders orderId P)
    (occupied : order.occupied = (orders index).occupied)
    (sameId : order.orderId = (orders index).orderId)
    (implies : (orders index).orderId = orderId → P (orders index) → P order) :
    Holds (Function.update orders index order) orderId P := by
  obtain ⟨holder, held, same, property⟩ := holds
  by_cases eq : holder = index
  · subst eq
    refine ⟨holder, ?_⟩
    rw [update_self]
    exact ⟨occupied.trans held, sameId.trans same, implies same property⟩
  · refine ⟨holder, ?_⟩
    rw [update_of_ne eq]
    exact ⟨held, same, property⟩

def Done (order : PaperOrderSnapshot) : Prop :=
  order.state = .canceled ∨ order.state = .filled

/-- The order is done, or it is canceled at a given time. -/
def Awaits (dueNs : UInt64) (order : PaperOrderSnapshot) : Prop :=
  order.state = .pendingCancel ∧ order.cancelDueNs = dueNs ∨ Done order

/-- The order is terminal, or replaced at a given time or later. -/
def Expects (dueNs : UInt64) (order : PaperOrderSnapshot) : Prop :=
  order.state = .pendingReplace ∧ dueNs ≤ order.replaceDueNs ∨ terminal order.state = true

def Changes (event : GatewayEvent) : Prop :=
  event.kind = .fill ∨ event.kind = .replaceAcknowledgement

/-- Queued fills were due before, a queued acknowledgement falls together with the cancellation, and
an order with an acknowledged cancel is done. -/
structure Final (latencyNs now : UInt64) (orders : OrderTable) (events : List ScheduledEvent)
    (returned : List GatewayEvent) : Prop where
  fills : ∀ entry ∈ events, entry.event.kind = .fill → entry.dueNs ≤ now
  replaces : ∀ entry ∈ events, entry.event.kind = .replaceAcknowledgement →
    entry.dueNs.toNat ≤ now.toNat + latencyNs.toNat ∧
      (entry.dueNs ≤ now ∨ Holds orders entry.event.orderId (Expects entry.dueNs))
  cancels : ∀ entry ∈ events, entry.event.kind = .cancelAcknowledgement →
    Holds orders entry.event.orderId (Awaits entry.dueNs) ∧
      ∀ other ∈ events, Changes other.event → other.event.orderId = entry.event.orderId →
        other.dueNs < entry.dueNs
  acknowledged : ∀ event ∈ returned, event.kind = .cancelAcknowledgement →
    Holds orders event.orderId Done ∧
      ∀ other ∈ events, Changes other.event → other.event.orderId ≠ event.orderId
  last : returned.Pairwise fun earlier later => earlier.kind = .cancelAcknowledgement →
    Changes later → later.orderId ≠ earlier.orderId

variable {latencyNs now : UInt64} {events : List ScheduledEvent} {returned : List GatewayEvent}
  {entry : ScheduledEvent}

theorem Final.later (final : Final latencyNs lastTime orders events returned)
    (after : lastTime ≤ now) : Final latencyNs now orders events returned := by
  have after' := UInt64.le_iff_toNat_le.mp after
  refine ⟨fun entry mem fill => UInt64.le_trans (final.fills entry mem fill) after, ?_,
    final.cancels, final.acknowledged, final.last⟩
  intro entry mem replace
  obtain ⟨bound, due⟩ := final.replaces entry mem replace
  exact ⟨bound.trans (Nat.add_le_add_right after' _), due.imp_left (UInt64.le_trans · after)⟩

theorem Final.move (final : Final latencyNs now orders events returned)
    (expects : ∀ {dueNs orderId}, dueNs.toNat ≤ now.toNat + latencyNs.toNat →
      Holds orders orderId (Expects dueNs) → dueNs ≤ now ∨ Holds orders' orderId (Expects dueNs))
    (awaits : ∀ {dueNs orderId}, Holds orders orderId (Awaits dueNs) →
      Holds orders' orderId (Awaits dueNs))
    (done : ∀ {orderId}, Holds orders orderId Done → Holds orders' orderId Done) :
    Final latencyNs now orders' events returned := by
  refine ⟨final.fills, ?_, ?_, ?_, final.last⟩
  · intro entry mem replace
    obtain ⟨bound, due⟩ := final.replaces entry mem replace
    refine ⟨bound, ?_⟩
    rcases due with due | expected
    · exact .inl due
    · exact expects bound expected
  · intro entry mem cancel
    obtain ⟨awaited, before⟩ := final.cancels entry mem cancel
    exact ⟨awaits awaited, before⟩
  · intro event mem cancel
    obtain ⟨held, nothing⟩ := final.acknowledged event mem cancel
    exact ⟨done held, nothing⟩

theorem Done.terminal (done : Done order) : terminal order.state := by
  rcases done with canceled | filled
  · rw [canceled]
    rfl
  · rw [filled]
    rfl

theorem not_done_of_live (live : terminal order.state = false) : ¬ Done order := by
  intro done
  rw [done.terminal] at live
  cases live

theorem not_awaits_of_live (live : terminal order.state = false)
    (steady : order.state ≠ .pendingCancel) (dueNs : UInt64) : ¬ Awaits dueNs order := by
  rintro (⟨canceling, -⟩ | done)
  · exact steady canceling
  · exact not_done_of_live live done

theorem settleOrder_of_terminal (model : PaperModelConfiguration) (now : UInt64)
    (closed : terminal order.state) : settleOrder model now order = order := by
  unfold settleOrder
  rw [if_pos (by simp [closed])]

theorem awaits_settle
    (awaits : Awaits dueNs order) : Awaits dueNs (settleOrder model now order) := by
  rcases awaits with ⟨canceling, due⟩ | done
  · unfold settleOrder
    split
    · exact .inl ⟨canceling, due⟩
    split
    · next acknowledged => simp [canceling] at acknowledged
    split
    · exact .inr (.inl rfl)
    split
    · next replaced => simp [canceling] at replaced
    · exact .inl ⟨canceling, due⟩
  · rw [settleOrder_of_terminal model now done.terminal]
    exact .inr done

theorem done_of_awaits (model : PaperModelConfiguration) (occupied : order.occupied)
    (awaits : Awaits dueNs order) (due : dueNs ≤ now) : Done (settleOrder model now order) := by
  rcases awaits with ⟨canceling, same⟩ | done
  · unfold settleOrder
    rw [if_neg (by simp [occupied, canceling, terminal]), if_neg (by simp [canceling]),
      if_pos (by simp [canceling, same, due])]
    exact .inl rfl
  · rw [settleOrder_of_terminal model now done.terminal]
    exact done

theorem expects_settle (model : PaperModelConfiguration) (expects : Expects dueNs order) :
    dueNs ≤ now ∨ Expects dueNs (settleOrder model now order) := by
  rcases expects with ⟨replacing, due⟩ | closed
  · unfold settleOrder
    split
    · exact .inr (.inl ⟨replacing, due⟩)
    split
    · next acknowledged => simp [replacing] at acknowledged
    split
    · next canceled => simp [replacing] at canceled
    split
    · next replaced =>
      simp only [Bool.and_eq_true, decide_eq_true_eq] at replaced
      exact .inl (UInt64.le_trans due replaced.2)
    · exact .inr (.inl ⟨replacing, due⟩)
  · rw [settleOrder_of_terminal model now closed]
    exact .inr (.inr closed)

section

variable (final : Final latencyNs now orders events returned)
include final

theorem Final.settle (model : PaperModelConfiguration) :
    Final latencyNs now (settled model now orders) events returned := by
  refine final.move ?_ ?_ ?_
  · rintro dueNs orderId - ⟨index, occupied, same, expects⟩
    obtain ⟨kept, id, -⟩ := settleOrder_spec model now (orders index)
    rcases expects_settle model expects with due | expects
    · exact .inl due
    · exact .inr ⟨index, kept.trans occupied, id.trans same, expects⟩
  · intro dueNs orderId awaits
    exact awaits.settled fun _ _ held => awaits_settle held
  · intro orderId done
    refine done.settled fun order _ held => ?_
    rw [settleOrder_of_terminal model now held.terminal]
    exact held

theorem Final.queue (fill : entry.event.kind = .fill → entry.dueNs ≤ now)
    (replace : entry.event.kind = .replaceAcknowledgement →
      entry.dueNs.toNat ≤ now.toNat + latencyNs.toNat ∧
        (entry.dueNs ≤ now ∨ Holds orders entry.event.orderId (Expects entry.dueNs)))
    (cancel : entry.event.kind = .cancelAcknowledgement →
      Holds orders entry.event.orderId (Awaits entry.dueNs) ∧
        ∀ other ∈ events, Changes other.event → other.event.orderId = entry.event.orderId →
          other.dueNs < entry.dueNs)
    (changes : Changes entry.event → (∀ other ∈ events, other.event.kind = .cancelAcknowledgement →
        entry.event.orderId = other.event.orderId → entry.dueNs < other.dueNs) ∧
      ∀ event ∈ returned, event.kind = .cancelAcknowledgement →
        entry.event.orderId ≠ event.orderId) :
    Final latencyNs now orders (events ++ [entry]) returned := by
  refine ⟨?_, ?_, ?_, ?_, final.last⟩
  · intro other mem
    rcases mem_append.mp mem with mem | mem
    · exact final.fills other mem
    · rw [mem_singleton.mp mem]
      exact fill
  · intro other mem
    rcases mem_append.mp mem with mem | mem
    · exact final.replaces other mem
    · rw [mem_singleton.mp mem]
      exact replace
  · intro other mem isCancel
    rcases mem_append.mp mem with mem | mem
    · obtain ⟨awaits, before⟩ := final.cancels other mem isCancel
      refine ⟨awaits, fun change mem' isChange same => ?_⟩
      rcases mem_append.mp mem' with mem' | mem'
      · exact before change mem' isChange same
      · rw [mem_singleton.mp mem'] at isChange same ⊢
        exact (changes isChange).1 other mem isCancel same
    · rw [mem_singleton.mp mem] at isCancel ⊢
      obtain ⟨awaits, before⟩ := cancel isCancel
      refine ⟨awaits, fun change mem' isChange same => ?_⟩
      rcases mem_append.mp mem' with mem' | mem'
      · exact before change mem' isChange same
      rw [mem_singleton.mp mem', Changes, isCancel] at isChange
      rcases isChange with fill | replaced
      · cases fill
      · cases replaced
  · intro event mem isCancel
    obtain ⟨done, nothing⟩ := final.acknowledged event mem isCancel
    refine ⟨done, fun change mem' isChange => ?_⟩
    rcases mem_append.mp mem' with mem' | mem'
    · exact nothing change mem' isChange
    · rw [mem_singleton.mp mem'] at isChange ⊢
      exact (changes isChange).2 event mem isCancel

theorem Final.queue_plain (plain : Plain entry.event.kind) :
    Final latencyNs now orders (events ++ [entry]) returned :=
  final.queue (fun fill => absurd fill plain.1) (fun replace => absurd replace plain.2.2)
    (fun cancel => absurd cancel plain.2.1) fun changes =>
      (changes.elim plain.1 plain.2.2).elim

theorem Final.subset {events' : List ScheduledEvent} (fewer : ∀ entry ∈ events', entry ∈ events) :
    Final latencyNs now orders events' returned := by
  refine ⟨fun entry mem => final.fills entry (fewer entry mem),
    fun entry mem => final.replaces entry (fewer entry mem), ?_, ?_, final.last⟩
  · intro entry mem cancel
    obtain ⟨awaits, before⟩ := final.cancels entry (fewer entry mem) cancel
    exact ⟨awaits, fun other mem => before other (fewer other mem)⟩
  · intro event mem cancel
    obtain ⟨done, nothing⟩ := final.acknowledged event mem cancel
    exact ⟨done, fun other mem => nothing other (fewer other mem)⟩

theorem Final.withdraw (model : PaperModelConfiguration) (due : earliestDue now events = some entry)
    (reports : ∀ event ∈ output, Reports entry event) :
    Final latencyNs now (settled model now orders) (events.erase entry)
      (returned ++ output.toList) := by
  obtain ⟨mem, inTime, least⟩ := earliestDue_spec due
  have rest : Final latencyNs now (settled model now orders) (events.erase entry) returned :=
    (final.settle model).subset fun _ mem => mem_of_mem_erase mem
  cases output with
  | none =>
    rw [Option.toList_none, append_nil]
    exact rest
  | some event =>
    have report := reports event rfl
    refine ⟨rest.fills, rest.replaces, rest.cancels, ?_, ?_⟩
    · intro other mem' isCancel
      rcases mem_append.mp mem' with mem' | mem'
      · exact rest.acknowledged other mem' isCancel
      rw [mem_singleton.mp mem'] at isCancel ⊢
      obtain ⟨awaits, before⟩ := final.cancels entry mem (report.kind.symm.trans isCancel)
      rw [report.orderId]
      refine ⟨awaits.settled fun _ occupied held => done_of_awaits model occupied held inTime, ?_⟩
      intro change mem'' isChange same
      have queued := mem_of_mem_erase mem''
      exact absurd (before change queued isChange same) (UInt64.not_lt.mpr (least change queued))
    · refine pairwise_append.mpr ⟨final.last, pairwise_singleton _ _, ?_⟩
      intro earlier mem' later mem'' isCancel isChange
      rw [mem_singleton.mp mem''] at isChange ⊢
      rw [Changes, report.kind] at isChange
      rw [report.orderId]
      exact (final.acknowledged earlier mem' isCancel).2 entry mem isChange

theorem Final.file (vacant : (orders index).occupied = false) :
    Final latencyNs now (Function.update orders index order) events returned := by
  have kept : ∀ {orderId P}, Holds orders orderId P →
      Holds (Function.update orders index order) orderId P := by
    rintro orderId P ⟨holder, occupied, same, held⟩
    have other : holder ≠ index := by
      rintro rfl
      rw [vacant] at occupied
      cases occupied
    refine ⟨holder, ?_⟩
    rw [update_of_ne other]
    exact ⟨occupied, same, held⟩
  exact final.move (fun _ expects => .inr (kept expects)) kept kept

theorem Final.update
    (order : PaperOrderSnapshot) (occupied : order.occupied = (orders index).occupied)
    (sameId : order.orderId = (orders index).orderId)
    (expects : ∀ dueNs, dueNs.toNat ≤ now.toNat + latencyNs.toNat →
      Expects dueNs (orders index) → Expects dueNs order)
    (awaits : ∀ dueNs, Awaits dueNs (orders index) → Awaits dueNs order)
    (done : Done (orders index) → Done order) :
    Final latencyNs now (Function.update orders index order) events returned :=
  final.move (fun bound held => .inr (held.update occupied sameId fun _ => expects _ bound))
    (fun held => held.update occupied sameId fun _ => awaits _)
    (fun held => held.update occupied sameId fun _ => done)

theorem Final.suspend : Final latencyNs now (fun index => suspend (orders index)) [] returned := by
  refine ⟨fun _ mem => absurd mem not_mem_nil, fun _ mem => absurd mem not_mem_nil,
    fun _ mem => absurd mem not_mem_nil, ?_, final.last⟩
  intro event mem cancel
  refine ⟨?_, fun _ mem => absurd mem not_mem_nil⟩
  obtain ⟨index, occupied, same, done⟩ := (final.acknowledged event mem cancel).1
  have kept : SimulatedGateway.suspend (orders index) = orders index := by
    unfold SimulatedGateway.suspend
    rw [if_neg (by simp [done.terminal])]
  refine ⟨index, ?_⟩
  dsimp only
  rw [kept]
  exact ⟨occupied, same, done⟩

end

def isIn (orders : OrderTable) (orderId : OrderId) (states : List PaperOrderState) : Bool :=
  match orderLayout.find orders orderId with
  | none => false
  | some index => states.contains (orders index).state

/-- It disturbs a pending control, or injects a response that reports a cancel or a change. -/
def disturbs (orders : OrderTable) : Call → Bool
  | .cancelOrder request =>
      isIn orders request.command.orderId [.pendingCancel, .pendingReplace]
  | .replaceOrder request => isIn orders request.command.orderId [.pendingCancel]
  | .injectSyntheticResponse event _ =>
      [GatewayResponseKind.fill, .cancelAcknowledgement, .replaceAcknowledgement].contains
        event.kind
  | _ => false

theorem state_of_isIn {states : List PaperOrderState} (outside : isIn orders orderId states = false)
    (found : orderLayout.find orders orderId = some index) : (orders index).state ∉ states := by
  unfold isIn at outside
  rw [found] at outside
  simpa using outside

theorem lt_of_latency {latency : UInt64} (some' : latency ≠ 0)
    (due : dueNs.toNat = now.toNat + latency.toNat) {other : UInt64} (early : other ≤ now) :
    other < dueNs := by
  have early := UInt64.le_iff_toNat_le.mp early
  have positive := toNat_pos some'
  rw [UInt64.lt_iff_toNat_lt]
  omega

section

variable (final : Final model.replaceLatencyNs now orders events returned)
include final

theorem Final.cancel
    (keyed : Keyed orders) (latency : model.cancelLatencyNs ≠ 0)
    (found : orderLayout.find orders entry.event.orderId = some index)
    (live : terminal (orders index).state = false)
    (undisturbed : (orders index).state ∉ [PaperOrderState.pendingCancel, .pendingReplace])
    (due : entry.dueNs.toNat = now.toNat + model.cancelLatencyNs.toNat)
    (kind : entry.event.kind = .cancelAcknowledgement) : Final model.replaceLatencyNs now
      (Function.update orders index (pendCancel (orders index) entry.dueNs)) (events ++ [entry])
      returned := by
  obtain ⟨occupied, orderId⟩ := Layout.occupied_of_find found
  simp only [mem_cons, not_mem_nil, or_false, not_or] at undisturbed
  have open' := not_done_of_live live
  have unexpected : ∀ dueNs, ¬ Expects dueNs (orders index) := by
    rintro dueNs (⟨replacing, -⟩ | closed)
    · exact undisturbed.2 replacing
    · rw [closed] at live
      cases live
  have unawaited := not_awaits_of_live live undisturbed.1
  have updated := final.update (pendCancel (orders index) entry.dueNs) rfl rfl
    (fun dueNs _ held => absurd held (unexpected dueNs))
    (fun dueNs held => absurd held (unawaited dueNs)) fun done => absurd done open'
  refine updated.queue (fun fill => ?_) (fun replace => ?_) (fun _ => ⟨?_, ?_⟩) fun changes => ?_
  · rw [kind] at fill
    cases fill
  · rw [kind] at replace
    cases replace
  · refine ⟨index, ?_⟩
    rw [update_self]
    exact ⟨occupied, orderId, .inl ⟨rfl, rfl⟩⟩
  · rintro other mem (fill | replace) same
    · exact lt_of_latency latency due (final.fills other mem fill)
    rcases (final.replaces other mem replace).2 with early | expects
    · exact lt_of_latency latency due early
    · have held := expects.at keyed occupied (orderId.trans same.symm)
      exact absurd held (unexpected _)
  · rw [Changes, kind] at changes
    rcases changes with fill | replace
    · cases fill
    · cases replace

theorem Final.replace {priceTicks : Int64} {quantityUnits : UInt64}
    (keyed : Keyed orders)
    (found : orderLayout.find orders entry.event.orderId = some index)
    (live : terminal (orders index).state = false)
    (undisturbed : (orders index).state ∉ [PaperOrderState.pendingCancel])
    (due : entry.dueNs.toNat = now.toNat + model.replaceLatencyNs.toNat)
    (kind : entry.event.kind = .replaceAcknowledgement) :
    Final model.replaceLatencyNs now (Function.update orders index
        (pendReplace (orders index) priceTicks quantityUnits entry.dueNs)) (events ++ [entry])
      returned := by
  obtain ⟨occupied, orderId⟩ := Layout.occupied_of_find found
  simp only [mem_cons, not_mem_nil, or_false] at undisturbed
  have open' := not_done_of_live live
  have unawaited := not_awaits_of_live live undisturbed
  have updated := final.update
    (pendReplace (orders index) priceTicks quantityUnits entry.dueNs) rfl rfl
    (fun dueNs bound _ => .inl ⟨rfl, UInt64.le_iff_toNat_le.mpr (bound.trans due.ge)⟩)
    (fun dueNs held => absurd held (unawaited dueNs)) fun done => absurd done open'
  refine updated.queue (fun fill => ?_) (fun _ => ⟨due.le, .inr ?_⟩) (fun cancel => ?_)
    fun _ => ⟨?_, ?_⟩
  · rw [kind] at fill
    cases fill
  · refine ⟨index, ?_⟩
    rw [update_self]
    exact ⟨occupied, orderId, .inl ⟨rfl, UInt64.le_refl _⟩⟩
  · rw [kind] at cancel
    cases cancel
  · intro other mem cancel same
    have held := (final.cancels other mem cancel).1.at keyed occupied (orderId.trans same)
    exact absurd held (unawaited _)
  · intro event mem cancel same
    have held := (final.acknowledged event mem cancel).1.at keyed occupied (orderId.trans same)
    exact absurd held open'

end

theorem Final.trade (final : Final latencyNs now orders events returned)
    (order : PaperOrderSnapshot) (occupied : order.occupied = (orders index).occupied)
    (sameId : order.orderId = (orders index).orderId)
    (state : order.state = .filled ∨ order.state = (orders index).state)
    (cancelDue : order.cancelDueNs = (orders index).cancelDueNs)
    (replaceDue : order.replaceDueNs = (orders index).replaceDueNs) :
    Final latencyNs now (Function.update orders index order) events returned := by
  have closes : terminal (orders index).state → terminal order.state := by
    intro closed
    rcases state with filled | same
    · rw [filled]
      rfl
    · rw [same]
      exact closed
  have ends : Done (orders index) → Done order := by
    intro done
    rcases state with filled | same
    · exact .inr filled
    · unfold Done
      rw [same]
      exact done
  refine final.update order occupied sameId ?_ ?_ ends
  · rintro dueNs - (⟨replacing, due⟩ | closed)
    · rcases state with filled | same
      · rw [Expects, filled]
        exact .inr rfl
      · exact .inl ⟨same.trans replacing, replaceDue ▸ due⟩
    · exact .inr (closes closed)
  · rintro dueNs (⟨canceling, due⟩ | done)
    · rcases state with filled | same
      · exact .inr (.inr filled)
      · exact .inl ⟨same.trans canceling, cancelDue.trans due⟩
    · exact .inr (ends done)

theorem lt_of_awaits (occupied : order.occupied) (awaits : Awaits dueNs order)
    (live : terminal (settleOrder model now order).state = false) : now < dueNs := by
  by_contra early
  exact not_done_of_live live (done_of_awaits model occupied awaits (UInt64.not_lt.mp early))

theorem Final.fill {event : SyntheticEvent}
    {market : MarketSlot} {quantity : UInt64} (keyed : Keyed orders)
    (final : Final latencyNs event.processMonotonicTimeNs orders events returned)
    (meets : tradable event market (settled model event.processMonotonicTimeNs orders index))
    (due : entry.dueNs = event.processMonotonicTimeNs) (kind : entry.event.kind = .fill)
    (sameId : entry.event.orderId =
      (settled model event.processMonotonicTimeNs orders index).orderId) :
    Final latencyNs event.processMonotonicTimeNs
      (Function.update (settled model event.processMonotonicTimeNs orders) index
        (filledOrder (settled model event.processMonotonicTimeNs orders index) quantity))
      (events ++ [entry]) returned := by
  obtain ⟨occupied, live⟩ := tradable_spec meets
  obtain ⟨held, id, -⟩ := settleOrder_spec model event.processMonotonicTimeNs (orders index)
  have state : (filledOrder (settled model event.processMonotonicTimeNs orders index)
      quantity).state = .filled ∨
      (filledOrder (settled model event.processMonotonicTimeNs orders index) quantity).state =
        (settled model event.processMonotonicTimeNs orders index).state := by
    unfold filledOrder
    dsimp only
    split
    · exact .inl rfl
    · exact .inr rfl
  have traded := (final.settle model).trade
    (filledOrder (settled model event.processMonotonicTimeNs orders index) quantity) rfl rfl state
    rfl rfl
  refine traded.queue (fun _ => ?_) (fun replace => ?_) (fun cancel => ?_) fun _ => ⟨?_, ?_⟩
  · rw [due]
    exact UInt64.le_refl _
  · rw [kind] at replace
    cases replace
  · rw [kind] at cancel
    cases cancel
  · intro other mem cancel same
    have awaits := (final.cancels other mem cancel).1.at keyed (held.symm.trans occupied)
      (id.symm.trans (sameId.symm.trans same))
    rw [due]
    exact lt_of_awaits (held.symm.trans occupied) awaits live
  · intro returnedEvent mem cancel same
    have done := (final.acknowledged returnedEvent mem cancel).1.at keyed (held.symm.trans occupied)
      (id.symm.trans (sameId.symm.trans same))
    have kept := settleOrder_of_terminal model event.processMonotonicTimeNs done.terminal
    have closed := done.terminal
    rw [← kept] at closed
    exact Bool.noConfusion (closed.symm.trans live)

theorem Effect.final {book book' : Book}
    (effect : Effect model book call book' output) (keyed : Keyed book.orders)
    (latency : model.cancelLatencyNs ≠ 0) (inOrder : ∀ now ∈ call.time, lastTime ≤ now)
    (keeps : ∀ snapshot now, call ≠ .recover snapshot now)
    (undisturbed : disturbs book.orders call = false)
    (final : Final model.replaceLatencyNs lastTime book.orders book.events returned) :
    Final model.replaceLatencyNs (call.time.getD lastTime) book'.orders book'.events
      (returned ++ output.toList) := by
  have nothing : returned ++ (none : Option GatewayEvent).toList = returned :=
    append_nil returned
  have later : Final model.replaceLatencyNs (call.time.getD lastTime) book.orders book.events
      returned := by
    cases time : call.time with
    | none => exact final
    | some now => exact final.later (inOrder now time)
  cases effect with
  | kept =>
    rw [nothing]
    exact later
  | plain kind unsequenced =>
    rw [nothing]
    exact later.queue_plain kind
  | injected =>
    rw [nothing]
    refine later.queue_plain ?_
    simp only [disturbs, contains_cons, contains_nil, Bool.or_false,
      Bool.or_eq_false_iff, beq_eq_false_iff_ne] at undisturbed
    exact ⟨undisturbed.1, undisturbed.2.1, undisturbed.2.2⟩
  | filed admitted absent free made kind unsequenced =>
    rw [nothing]
    exact (later.file (Layout.free_of_findFree free)).queue_plain kind
  | canceling admitted found open' due kind orderId unsequenced =>
    rw [nothing]
    have outside := state_of_isIn undisturbed found
    rw [← orderId] at found
    exact later.cancel keyed latency found open' outside due kind
  | replacing admitted found open' more due kind orderId unsequenced =>
    rw [nothing]
    have outside := state_of_isIn undisturbed found
    rw [← orderId] at found
    exact later.replace keyed found open' outside due kind
  | settling time =>
    rw [nothing]
    rw [time] at later ⊢
    exact later.settle model
  | passing =>
    rw [nothing]
    exact (later.settle model).trade _ rfl rfl (.inr rfl) rfl rfl
  | filling shape meets amount some' due kind orderId units unsequenced =>
    rw [nothing]
    exact later.fill keyed meets due kind orderId
  | withdrawing due reports => exact later.withdraw model due reports
  | suspending =>
    rw [nothing]
    exact later.suspend
  | rebuilding => exact absurd rfl (keeps _ _)

namespace SimulatedGateway

variable {s s' : SimulatedGateway} {call : Call}

theorem Part.initialized (part : Part call s s') : s'.initialized = s.initialized := by
  cases part with
  | frame frame => exact frame.initialized
  | append appended =>
    obtain ⟨journal, -, rfl⟩ := Option.map_eq_some_iff.mp appended
    rfl
  | _ => rfl

theorem next_uninitialized (fresh : s.initialized = false) (call : Call) :
    (s.next call).initialized = false ∧ (s.next call).events = s.events ∧
      s.delivered call = none := by
  refine ⟨next_preserves (P := fun s => s.initialized = false)
    (fun _ _ part held => part.initialized.trans held) fresh, ?_⟩
  have submitted : ∀ request expected, (s.submit request expected).1.events = s.events := by
    intro request expected
    unfold submit
    split
    · rfl
    · rw [if_pos (by simp [fresh])]
  cases call with
  | start now => simp [next, delivered, start, fresh]
  | logoff now => simp [next, delivered, logoff, fresh]
  | sendOrder request => exact ⟨submitted request .newOrder, rfl⟩
  | cancelOrder request => exact ⟨submitted request .cancel, rfl⟩
  | replaceOrder request => exact ⟨submitted request .replace, rfl⟩
  | onMarketEvent event => simp [next, delivered, onMarketEvent, fresh]
  | pollEvent now =>
    change (s.pollEvent now).1.events = s.events ∧ (s.pollEvent now).2.2 = none
    unfold pollEvent
    by_cases stopped : s.stopped
    · rw [if_pos stopped]
      exact ⟨rfl, rfl⟩
    · rw [if_neg stopped, if_pos (by simp [fresh])]
      exact ⟨rfl, rfl⟩
  | heartbeat now => simp [next, delivered, heartbeat, fresh]
  | beginRecovery now => simp [next, delivered, beginRecovery, fresh]
  | recover snapshot now => simp [next, delivered, recover, fresh]
  | injectSyntheticResponse event dueNs =>
    simp [next, delivered, injectSyntheticResponse, fresh]
  | shutdown now =>
    refine ⟨?_, rfl⟩
    unfold next shutdown
    dsimp only
    split
    · rfl
    split
    · rfl
    · exact congrArg Book.events sameBook_noteAudit.book

theorem cancelLatencyNs_of_initialized {configuration : GatewayConfiguration} {mode : GatewayMode}
    (initialized : (construct configuration mode).initialized) :
    configuration.paperModel.cancelLatencyNs ≠ 0 := by
  unfold construct at initialized
  dsimp only at initialized
  split at initialized
  · cases initialized
  next valid =>
  simp only [Bool.or_eq_true, Bool.not_eq_true', not_or, Bool.not_eq_false] at valid
  have model := valid.1.1.1.1.1
  unfold validGatewayConfiguration validPaperConfiguration at model
  simp only [Bool.and_eq_true, bne_iff_ne] at model
  tauto

end SimulatedGateway

def SimulatedGateway.Call.recovers : Call → Bool
  | .recover _ _ => true
  | _ => false

/-- Times in order, no recovery, and no pending control disturbed. -/
def History.Undisturbed (h : History) (call : Call) : Prop :=
  h.InOrder call ∧ call.recovers = false ∧ disturbs h.gateway.orders call = false

instance (h : History) (call : Call) : Decidable (h.Undisturbed call) :=
  inferInstanceAs (Decidable (_ ∧ _ ∧ _))

/-- After a cancel acknowledgement no fill or replacement follows. -/
structure CancelsFinal (h : History) : Prop where
  returned : h.returned.Pairwise fun earlier later => earlier.kind = .cancelAcknowledgement →
    later.orderId = earlier.orderId → later.kind ≠ .fill ∧ later.kind ≠ .replaceAcknowledgement
  stored : ∀ event ∈ h.returned, event.kind = .cancelAcknowledgement →
    ∃ index, orderLayout.find h.gateway.orders event.orderId = some index ∧
      ((h.gateway.orders index).state = .canceled ∨ (h.gateway.orders index).state = .filled)

def Settling (configuration : GatewayConfiguration) (h : History) : Prop :=
  h.gateway.initialized = false ∧ h.gateway.events = [] ∧ h.returned = [] ∨
    configuration.paperModel.cancelLatencyNs ≠ 0 ∧ h.gateway.configuration = configuration ∧
      Keyed h.gateway.orders ∧
      Final configuration.paperModel.replaceLatencyNs h.lastTime h.gateway.orders
        h.gateway.events h.returned

theorem Settling.step (settling : Settling configuration h) (allowed : h.Undisturbed call) :
    Settling configuration (h.next call) := by
  rcases settling with ⟨fresh, queue, nothing⟩ | ⟨latency, same, keyed, final⟩
  · obtain ⟨stays, kept, none⟩ := next_uninitialized fresh call
    refine .inl ⟨stays, kept.trans queue, ?_⟩
    unfold History.next
    rw [nothing, none]
    rfl
  · obtain ⟨inOrder, keeps, undisturbed⟩ := allowed
    obtain ⟨effect, kept⟩ := h.gateway.next_has call
    rw [model, same] at effect
    refine .inr ⟨latency, kept.trans same, effect.keyed keyed,
      effect.final keyed latency inOrder ?_ undisturbed final⟩
    rintro snapshot now rfl
    cases keeps

theorem Settling.cancelsFinal (settling : Settling configuration h) : CancelsFinal h := by
  rcases settling with ⟨-, -, nothing⟩ | ⟨-, -, keyed, final⟩
  · refine ⟨?_, ?_⟩
    · rw [nothing]
      exact .nil
    · rw [nothing]
      exact fun _ mem => absurd mem not_mem_nil
  · refine ⟨final.last.imp ?_, ?_⟩
    · intro earlier later apart cancel same
      exact ⟨fun fill => apart cancel (.inl fill) same, fun replace => apart cancel (.inr replace) same⟩
    intro event mem cancel
    obtain ⟨index, occupied, same, done⟩ := (final.acknowledged event mem cancel).1
    have found := keyed.chained.find_eq_some keyed.distinct occupied
    refine ⟨index, ?_, done⟩
    rw [← same]
    exact found

/-- With times in order, no recovery and no control disturbed, a cancel is final. -/
theorem cancel_is_final (configuration : GatewayConfiguration) (mode : GatewayMode)
    (calls : List Call)
    (allowed : Throughout History.next History.Undisturbed (.construct configuration mode) calls) :
    Always History.next CancelsFinal (.construct configuration mode) calls := by
  obtain ⟨orders, events, same⟩ := construct_orders configuration mode
  have start : Settling configuration (.construct configuration mode) := by
    cases initialized : (construct configuration mode).initialized with
    | false => exact .inl ⟨initialized, events, rfl⟩
    | true =>
      refine .inr ⟨cancelLatencyNs_of_initialized initialized, same, ?_, ?_⟩
      · unfold History.construct
        rw [orders]
        exact keyed_empty
      · unfold History.construct
        rw [events]
        exact ⟨fun _ mem => absurd mem List.not_mem_nil, fun _ mem => absurd mem List.not_mem_nil,
          fun _ mem => absurd mem List.not_mem_nil, fun _ mem => absurd mem List.not_mem_nil,
          .nil⟩
  have always := always_of_throughout (P := Settling configuration)
    (fun _ _ held allowed => held.step allowed) start allowed
  exact fun before initial => (always before initial).cancelsFinal

open TestSupport in
theorem cancel_is_final_after_fill :
    Always History.next CancelsFinal (.construct TestSupport.configuration .simulation)
      [.start kNow, .onMarketEvent (statusEvent .opened 1 kNow),
        .sendOrder (request .newOrder 1 (kNow + 1)), .onMarketEvent (tradeEvent 2 (kNow + 200)),
        .cancelOrder (request .cancel 2 (kNow + 210)), .onMarketEvent (tradeEvent 3 (kNow + 220)),
        .pollEvent (kNow + 410), .pollEvent (kNow + 410), .pollEvent (kNow + 410),
        .pollEvent (kNow + 410)] :=
  cancel_is_final _ _ _ (by decide +kernel)

open TestSupport in
/-- A cancel and a later replace are acknowledged, and the order is working. -/
theorem replaced_after_cancel_acknowledged :
    let h := run History.next (.construct TestSupport.configuration .simulation)
      [.start kNow, .sendOrder (request .newOrder 1 (kNow + 1)),
        .cancelOrder (request .cancel 2 (kNow + 200)),
        .replaceOrder (request .replace 3 (kNow + 210)), .pollEvent (kNow + 300),
        .pollEvent (kNow + 405), .pollEvent (kNow + 420)]
    h.returned.map (fun event => (event.kind, event.orderId)) =
        [(.acknowledgement, ⟨50, 1⟩), (.cancelAcknowledgement, ⟨50, 1⟩),
          (.replaceAcknowledgement, ⟨50, 1⟩)] ∧
      ∃ index, orderLayout.find h.gateway.orders ⟨50, 1⟩ = some index ∧
        (h.gateway.orders index).state = .working := by
  refine ⟨by decide +kernel,
    (run SimulatedGateway.next (construct TestSupport.configuration .simulation)
      [.start kNow, .sendOrder (request .newOrder 1 (kNow + 1))]).findOrder ⟨50, 1⟩ |>.getD 0, ?_⟩
  decide +kernel

end Aegis.Execution
