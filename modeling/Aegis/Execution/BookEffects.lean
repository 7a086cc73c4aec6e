import Aegis.Execution.Gateway

/-!
What a call does to the orders and the queue of a gateway, said once (`Effect`).
-/

namespace Aegis.Execution

open Aegis.Common Aegis.Foundation Aegis.MarketData Function
open Aegis.Oms (GatewayCommandKind)

/-- What the final gate establishes of a request. -/
structure Admitted (request : GatewayRequest) (expected : GatewayCommandKind) : Prop where
  kind : request.command.kind = expected
  commandId : request.command.commandId.valid = true
  orderId : request.command.orderId.valid = true
  instrumentId : request.command.instrumentId.valid = true
  price : request.command.priceTicks > 0
  quantity : request.command.quantityUnits ≠ 0
  now : request.now ≠ 0
  side : expected ≠ .cancel → request.command.side = .buy ∨ request.command.side = .sell

namespace SimulatedGateway

variable {s : SimulatedGateway} {request : GatewayRequest} {kind : GatewayCommandKind}

theorem validGatewayRequest_of_gate (gate : s.finalGate request kind = .accepted) :
    validGatewayRequest request ∧ request.command.kind = kind ∧
      (s.session.ready ∧ s.health = .healthy) ∧
      s.validateRiskBinding request = .accepted := by
  unfold finalGate at gate
  dsimp only at gate
  split at gate
  · cases gate
  next valid =>
  split at gate
  · cases gate
  next same =>
  split at gate
  · cases gate
  next active =>
  split at gate
  · cases gate
  split at gate
  · cases gate
  split at gate
  · cases gate
  split at gate
  · cases gate
  split at gate
  · next refused => exact absurd gate refused
  next bound =>
  simp only [Bool.or_eq_true, Bool.not_eq_true', decide_eq_true_eq, not_or, Bool.not_eq_false,
    ne_eq, not_not] at valid same active bound
  exact ⟨valid, same, active, bound⟩

theorem action_of_binding (bound : s.validateRiskBinding request = .accepted) :
    request.riskDecision.decision = .approved ∧ (request.command.kind ≠ .cancel →
        request.riskDecision.intentAction = request.command.side ∧
        request.riskDecision.approvedPriceTicks = request.command.priceTicks) := by
  unfold validateRiskBinding at bound
  dsimp only at bound
  split at bound
  · cases bound
  next approved =>
  refine ⟨not_not.mp approved, fun order => ?_⟩
  iterate 4
    split at bound
    · cases bound
  split at bound
  · next same =>
    simp only [Bool.and_eq_true, decide_eq_true_eq] at same
    exact ⟨same.1.1, same.1.2⟩
  · cases bound

theorem action_of_valid {decision : Risk.RiskDecision}
    (valid : Risk.validRiskDecision decision) (approved : decision.decision = .approved) :
    decision.intentAction = .buy ∨ decision.intentAction = .sell ∨
      decision.approvedPriceTicks = 0 := by
  unfold Risk.validRiskDecision at valid
  split at valid
  · cases valid
  next listed =>
  simp only [Bool.or_eq_true, not_or, Bool.not_eq_true', Bool.not_eq_false] at listed
  have action : Risk.validIntentAction decision.intentAction := by tauto
  simp only [Risk.validIntentAction, Bool.or_eq_true, beq_iff_eq] at action
  rcases action with (buy | sell) | cancel
  · exact .inl buy
  · exact .inr (.inl sell)
  refine .inr (.inr ?_)
  rw [approved] at valid
  simp only [beq_self_eq_true, if_true, cancel, Bool.and_eq_true, beq_iff_eq] at valid
  exact valid.1.2.2

theorem admitted_of_gate (gate : s.finalGate request kind = .accepted) : Admitted request kind := by
  obtain ⟨valid, same, -, bound⟩ := validGatewayRequest_of_gate gate
  obtain ⟨approved, order⟩ := action_of_binding bound
  unfold validGatewayRequest at valid
  simp only [Bool.and_eq_true] at valid
  obtain ⟨⟨⟨⟨command, decision⟩, safety⟩, -⟩, -⟩ := valid
  unfold Oms.validGatewayCommand at command
  unfold validFinalSafetyState at safety
  simp only [Bool.and_eq_true, bne_iff_ne, decide_eq_true_eq] at command safety
  have price : request.command.priceTicks > 0 := by tauto
  refine ⟨same, by tauto, by tauto, by tauto, price, by tauto, by tauto, fun other => ?_⟩
  obtain ⟨action, approvedPrice⟩ := order (same ▸ other)
  rcases action_of_valid decision approved with buy | sell | free
  · exact .inl (action ▸ buy)
  · exact .inr (action ▸ sell)
  · rw [← approvedPrice, free] at price
    exact absurd price (by decide)

end SimulatedGateway

structure Book where
  orders : OrderTable
  events : List ScheduledEvent

namespace SimulatedGateway

variable {s : SimulatedGateway} {request : GatewayRequest} {kind : GatewayCommandKind}

def book (s : SimulatedGateway) : Book :=
  ⟨s.orders, s.events⟩

abbrev model (s : SimulatedGateway) : PaperModelConfiguration :=
  s.configuration.paperModel

/-- Calls that touch neither the book nor the configuration. -/
structure SameBook (s s' : SimulatedGateway) : Prop where
  book : s'.book = s.book
  configuration : s'.configuration = s.configuration

theorem SameBook.orders {s' : SimulatedGateway} (same : SameBook s s') : s'.orders = s.orders :=
  congrArg Book.orders same.book

theorem SameBook.trans {first second third : SimulatedGateway} (one : SameBook first second)
    (two : SameBook second third) : SameBook first third :=
  ⟨two.book.trans one.book, two.configuration.trans one.configuration⟩

variable {reservation : Nat} {record : GatewayAuditRecord} {now : UInt64}

theorem sameBook_setUnsafe {reason : SessionReason} : SameBook s (s.setUnsafe reason now) :=
  ⟨rfl, rfl⟩

theorem sameBook_updateHealth : SameBook s s.updateHealth :=
  ⟨rfl, rfl⟩

theorem sameBook_appendAudit {s' : SimulatedGateway}
    (appended : s.appendAudit reservation record = some s') : SameBook s s' := by
  obtain ⟨journal, -, rfl⟩ := Option.map_eq_some_iff.mp appended
  exact ⟨rfl, rfl⟩

theorem sameBook_audit : SameBook s (s.audit reservation record now).1 := by
  unfold audit
  split
  · next appended => exact sameBook_appendAudit appended
  · exact ⟨rfl, rfl⟩

theorem sameBook_noteAudit : SameBook s (s.noteAudit reservation record now) := by
  unfold noteAudit
  cases appended : s.appendAudit reservation { record with processMonotonicTimeNs := now } with
  | none => exact ⟨rfl, rfl⟩
  | some s' => exact sameBook_appendAudit appended

section

variable (s)

theorem sameBook_rateAllowed (expected : GatewayCommandKind)
    (now : UInt64) : SameBook s (s.rateAllowed expected now).1 := by
  cases expected <;> exact ⟨rfl, rfl⟩

/-- An audited call fails to reserve, or runs on another journal. -/
theorem reserving_cases {Result : Type} (now : UInt64) (full : Result)
    (body : Nat → SimulatedGateway → SimulatedGateway × Result) :
    (s.journal.tryReserve = none ∧
        s.reserving now full body = (s.setUnsafe .journalUnavailable now, full)) ∨
      ∃ reservation journal, s.journal.tryReserve = some (reservation, journal) ∧
        s.reserving now full body = body reservation { s with journal } := by
  unfold reserving
  cases reserved : s.journal.tryReserve with
  | none => exact .inl ⟨rfl, rfl⟩
  | some pair => exact .inr ⟨pair.1, pair.2, rfl, rfl⟩

theorem scheduleEvent_cases (event : GatewayEvent) {dueNs : UInt64}
    (room : s.eventRoom) (due : dueNs ≠ 0) :
    ∃ s', s.scheduleEvent event dueNs = some s' ∧ s'.configuration = s.configuration ∧
      s'.orders = s.orders ∧
      s'.events = s.events ++
        [{ event := dated event dueNs, dueNs, insertionOrdinal := s.nextEventOrdinal }] :=
  ⟨_, if_neg (by simp [room, due]), rfl, rfl, rfl⟩

end

end SimulatedGateway

open SimulatedGateway

/-- The time of a call; an injected response has none. -/
def SimulatedGateway.Call.time : Call → Option UInt64
  | .start now | .logoff now | .pollEvent now | .heartbeat now | .beginRecovery now
  | .recover _ now | .shutdown now => some now
  | .sendOrder request | .cancelOrder request | .replaceOrder request => some request.now
  | .onMarketEvent event => some event.processMonotonicTimeNs
  | .injectSyntheticResponse .. => none

/-- A new order, as `process_new` files it. -/
structure Filed (request : GatewayRequest) (order : PaperOrderSnapshot) : Prop where
  occupied : order.occupied = true
  orderId : order.orderId = request.command.orderId
  sourceCommandId : order.sourceCommandId = request.command.commandId
  externalOrderId : order.externalOrderId.valid = true
  instrumentId : order.instrumentId = request.command.instrumentId
  side : order.side = request.command.side
  price : order.priceTicks = request.command.priceTicks
  quantity : order.quantityUnits = request.command.quantityUnits
  cumulative : order.cumulativeFillQuantityUnits = 0
  due : order.acknowledgementDueNs ≠ 0
  state : order.state = .pendingAck ∨ order.state = .rejected

def Plain (kind : GatewayResponseKind) : Prop :=
  kind ≠ .fill ∧ kind ≠ .cancelAcknowledgement ∧ kind ≠ .replaceAcknowledgement

/-- What an emitted event has in common with the scheduled one. -/
structure Reports (scheduled : ScheduledEvent) (event : GatewayEvent) : Prop where
  kind : event.kind = scheduled.event.kind
  orderId : event.orderId = scheduled.event.orderId
  quantity : event.kind = .fill → event.quantityUnits = scheduled.event.quantityUnits

def settled (model : PaperModelConfiguration) (now : UInt64) (orders : OrderTable) : OrderTable :=
  fun index => settleOrder model now (orders index)

/-- What a call does to the book, and the event that it hands out. -/
inductive Effect (model : PaperModelConfiguration) (book : Book) :
    Call → Book → Option GatewayEvent → Prop
  | kept {call : Call} : Effect model book call book none
  | plain {call : Call} {entry : ScheduledEvent} (kind : Plain entry.event.kind)
      (unsequenced : entry.event.venueSequence = 0) :
      Effect model book call ⟨book.orders, book.events ++ [entry]⟩ none
  | injected {event : GatewayEvent} {dueNs ordinal : UInt64} :
      Effect model book (.injectSyntheticResponse event dueNs) ⟨book.orders, book.events ++
          [{ event := dated event dueNs, dueNs, insertionOrdinal := ordinal }]⟩ none
  | filed {request : GatewayRequest} {index : Fin kMaximumGatewayOrders}
      {order : PaperOrderSnapshot} {entry : ScheduledEvent}
      (admitted : Admitted request .newOrder)
      (absent : orderLayout.find book.orders request.command.orderId = none)
      (free : orderLayout.findFree book.orders request.command.orderId = some index)
      (made : Filed request order) (kind : Plain entry.event.kind)
      (unsequenced : entry.event.venueSequence = 0) :
      Effect model book (.sendOrder request)
        ⟨Function.update book.orders index order, book.events ++ [entry]⟩ none
  | canceling {request : GatewayRequest} {index : Fin kMaximumGatewayOrders}
      {entry : ScheduledEvent} (admitted : Admitted request .cancel)
      (found : orderLayout.find book.orders request.command.orderId = some index)
      (open' : terminal (book.orders index).state = false)
      (due : entry.dueNs.toNat = request.now.toNat + model.cancelLatencyNs.toNat)
      (kind : entry.event.kind = .cancelAcknowledgement)
      (orderId : entry.event.orderId = request.command.orderId)
      (unsequenced : entry.event.venueSequence = 0) :
      Effect model book (.cancelOrder request)
        ⟨Function.update book.orders index (pendCancel (book.orders index) entry.dueNs),
          book.events ++ [entry]⟩ none
  | replacing {request : GatewayRequest} {index : Fin kMaximumGatewayOrders}
      {entry : ScheduledEvent} (admitted : Admitted request .replace)
      (found : orderLayout.find book.orders request.command.orderId = some index)
      (open' : terminal (book.orders index).state = false)
      (more : (book.orders index).cumulativeFillQuantityUnits < request.command.quantityUnits)
      (due : entry.dueNs.toNat = request.now.toNat + model.replaceLatencyNs.toNat)
      (kind : entry.event.kind = .replaceAcknowledgement)
      (orderId : entry.event.orderId = request.command.orderId)
      (unsequenced : entry.event.venueSequence = 0) :
      Effect model book (.replaceOrder request) ⟨Function.update book.orders index
          (pendReplace (book.orders index) request.command.priceTicks
            request.command.quantityUnits entry.dueNs),
          book.events ++ [entry]⟩ none
  | settling {call : Call} {now : UInt64} (time : call.time = some now) :
      Effect model book call ⟨settled model now book.orders, book.events⟩ none
  | passing {event : SyntheticEvent} {index : Fin kMaximumGatewayOrders} {units : UInt64} :
      Effect model book (.onMarketEvent event)
        ⟨Function.update (settled model event.processMonotonicTimeNs book.orders) index
          (passOver (settled model event.processMonotonicTimeNs book.orders index) units),
          book.events⟩ none
  | filling {event : SyntheticEvent} {index : Fin kMaximumGatewayOrders} {market : MarketSlot}
      {entry : ScheduledEvent} {quantity : UInt64}
      (shape : validEventShape event = true)
      (tradable : tradable event market
        (settled model event.processMonotonicTimeNs book.orders index) = true)
      (amount : quantity = fillQuantity model event
        (settled model event.processMonotonicTimeNs book.orders index))
      (some' : quantity ≠ 0)
      (due : entry.dueNs = event.processMonotonicTimeNs) (kind : entry.event.kind = .fill)
      (orderId : entry.event.orderId =
        (settled model event.processMonotonicTimeNs book.orders index).orderId)
      (units : entry.event.quantityUnits = quantity)
      (unsequenced : entry.event.venueSequence = 0) :
      Effect model book (.onMarketEvent event)
        ⟨Function.update (settled model event.processMonotonicTimeNs book.orders) index
          (filledOrder (settled model event.processMonotonicTimeNs book.orders index) quantity),
          book.events ++ [entry]⟩ none
  | withdrawing {now : UInt64} {scheduled : ScheduledEvent} {output : Option GatewayEvent}
      (due : earliestDue now book.events = some scheduled)
      (reports : ∀ event ∈ output, Reports scheduled event) :
      Effect model book (.pollEvent now)
        ⟨settled model now book.orders, book.events.erase scheduled⟩ output
  | suspending {now : UInt64} :
      Effect model book (.beginRecovery now) ⟨fun index => suspend (book.orders index), []⟩ none
  | rebuilding {snapshot : GatewayRecoverySnapshot} {now : UInt64} {table : OrderTable}
      (valid : validRecoverySnapshot snapshot = true)
      (unambiguous : recoveryIsAmbiguous snapshot = false)
      (built : (rebuildRecoveryOrders snapshot).1 = table) :
      Effect model book (.recover snapshot now) ⟨table, book.events⟩ none

namespace SimulatedGateway

variable {s s' : SimulatedGateway} {request : GatewayRequest} {kind : GatewayCommandKind}
  {call : Call} {output : Option GatewayEvent}

def Has (s : SimulatedGateway) (call : Call) (s' : SimulatedGateway)
    (output : Option GatewayEvent) : Prop :=
  Effect s.model s.book call s'.book output ∧ s'.configuration = s.configuration

theorem Has.kept (same : SameBook s s') : Has s call s' none :=
  ⟨same.book ▸ .kept, same.configuration⟩

theorem Has.around {before after : SimulatedGateway} (first : SameBook s before)
    (has : Has before call after output) (last : SameBook after s') : Has s call s' output := by
  obtain ⟨effect, configuration⟩ := has
  refine ⟨?_, last.configuration.trans (configuration.trans first.configuration)⟩
  rw [last.book, ← first.book, model, ← first.configuration]
  exact effect

theorem Has.before {before : SimulatedGateway} (first : SameBook s before)
    (has : Has before call s' output) : Has s call s' output :=
  has.around first ⟨rfl, rfl⟩

theorem Has.after {after : SimulatedGateway} (has : Has s call after output)
    (last : SameBook after s') : Has s call s' output :=
  has.around ⟨rfl, rfl⟩ last

theorem has_reserving {Result : Type} {now : UInt64} {full : Result}
    {body : Nat → SimulatedGateway → SimulatedGateway × Result} (inner : ∀ reservation journal,
      Has s call (body reservation { s with journal }).1 none) :
    Has s call (s.reserving now full body).1 none := by
  rcases s.reserving_cases now full body with ⟨-, unreserved⟩ | ⟨reservation, journal, -, reserved⟩
  · rw [unreserved]
    exact .kept ⟨rfl, rfl⟩
  · rw [reserved]
    exact inner reservation journal

variable {orderId : OrderId} {index : Fin kMaximumGatewayOrders} {dueNs : UInt64}
  {response : GatewayEvent}

theorem find_of_findOrder (found : s.findOrder orderId = some index) :
    orderLayout.find s.orders orderId = some index := by
  unfold findOrder at found
  split at found
  · cases found
  · exact found

theorem find_none_of_findOrder (valid : orderId.valid)
    (absent : s.findOrder orderId = none) : orderLayout.find s.orders orderId = none := by
  rwa [findOrder, valid] at absent

theorem toNat_of_checkedAdd {left right sum : UInt64} (added : checkedAdd left right = some sum) :
    sum.toNat = left.toNat + right.toNat := by
  unfold checkedAdd exactAdd at added
  split at added
  · next fits =>
    cases added
    rw [UInt64.toNat_add, Nat.mod_eq_of_lt fits]
  · cases added

theorem dueNs_ne_zero {latency : UInt64} (now : request.now ≠ 0)
    (added : checkedAdd request.now latency = some dueNs) : dueNs ≠ 0 := by
  have exact' := toNat_of_checkedAdd added
  rintro rfl
  refine now (UInt64.toNat_inj.mp ?_)
  have zero : (0 : UInt64).toNat = 0 := rfl
  omega

theorem filed_newOrder (command : Oms.GatewayCommand) (external : Oms.ExternalOrderId)
    (rejected : Bool) (queueAhead : UInt64) (same : request.command = command)
    (valid : external.valid) (due : dueNs ≠ 0) :
    Filed request (newOrder command external rejected queueAhead dueNs) := by
  subst same
  refine ⟨rfl, rfl, rfl, valid, rfl, rfl, rfl, rfl, rfl, due, ?_⟩
  cases rejected
  · exact .inl rfl
  · exact .inr rfl

theorem externalId_valid (s : SimulatedGateway) (command : Oms.GatewayCommand)
    (outbound : UInt64) : (s.externalId command outbound).valid := by
  simp [externalId, Oms.ExternalOrderId.valid]

theorem fileOrder_has {order : PaperOrderSnapshot} (admitted : Admitted request .newOrder)
    (absent : orderLayout.find s.orders request.command.orderId = none)
    (free : orderLayout.findFree s.orders request.command.orderId = some index)
    (made : Filed request order) (plain : Plain response.kind)
    (unsequenced : response.venueSequence = 0) (room : s.eventRoom) (due : dueNs ≠ 0) :
    Has s (.sendOrder request) (s.fileOrder index order response dueNs).1 none := by
  obtain ⟨s', scheduled, configuration, orders, events⟩ :=
    scheduleEvent_cases { s with orders := update s.orders index order } response room due
  unfold fileOrder
  rw [scheduled]
  refine ⟨?_, configuration⟩
  have book : s'.book = ⟨_, _⟩ := congrArg₂ Book.mk orders events
  rw [book]
  exact .filed admitted absent free made plain unsequenced

theorem plain_newResponse (s : SimulatedGateway) (command : Oms.GatewayCommand)
    (external : Oms.ExternalOrderId) (rejected : Bool) :
    Plain (s.newResponse command external rejected).kind := by
  cases rejected <;> exact ⟨nofun, nofun, nofun⟩

theorem placeOrder_has (admitted : Admitted request .newOrder)
    (absent : orderLayout.find s.orders request.command.orderId = none)
    (free : orderLayout.findFree s.orders request.command.orderId = some index) (room : s.eventRoom)
    (due : dueNs ≠ 0) (outbound : UInt64) :
    Has s (.sendOrder request) (s.placeOrder request.command outbound index dueNs).1 none := by
  unfold placeOrder
  split
  · exact .kept ⟨rfl, rfl⟩
  next queueAhead queued =>
  have made := filed_newOrder request.command (s.externalId request.command outbound)
    (s.rejects s.newOrderOrdinal) queueAhead rfl (s.externalId_valid _ _) due
  have plain := s.plain_newResponse request.command (s.externalId request.command outbound)
    (s.rejects s.newOrderOrdinal)
  exact fileOrder_has admitted absent free made plain rfl room due

theorem processNew_has (admitted : Admitted request .newOrder) (outbound : UInt64) :
    Has s (.sendOrder request) (s.processNew request outbound).1 none := by
  unfold processNew
  split
  · exact .kept ⟨rfl, rfl⟩
  next absent =>
  have absent := find_none_of_findOrder admitted.orderId (by simpa using absent)
  split
  · exact .kept ⟨rfl, rfl⟩
  next index free =>
  split
  · exact .kept ⟨rfl, rfl⟩
  next room =>
  split
  · exact .kept ⟨rfl, rfl⟩
  next dueNs added =>
  have due := dueNs_ne_zero admitted.now added
  have room : s.eventRoom := by simpa using room
  have counted : SameBook s { s with newOrderOrdinal := s.newOrderOrdinal + 1 } := ⟨rfl, rfl⟩
  refine .before counted ?_
  exact placeOrder_has (s := { s with newOrderOrdinal := s.newOrderOrdinal + 1 }) admitted absent
    free room due outbound

theorem respond_spec (s : SimulatedGateway) (response : GatewayEvent)
    (room : s.eventRoom) (due : dueNs ≠ 0) :
    ∃ entry : ScheduledEvent, entry.dueNs = dueNs ∧ entry.event = dated response dueNs ∧
      (s.respond response dueNs).1.configuration = s.configuration ∧
      (s.respond response dueNs).1.book = ⟨s.orders, s.events ++ [entry]⟩ := by
  obtain ⟨s', scheduled, configuration, orders, events⟩ := s.scheduleEvent_cases response room due
  rw [respond, scheduled]
  exact ⟨_, rfl, rfl, configuration, congrArg₂ Book.mk orders events⟩

theorem respond_plain (room : s.eventRoom) (due : dueNs ≠ 0) (plain : Plain response.kind)
    (unsequenced : response.venueSequence = 0) : Has s call (s.respond response dueNs).1 none := by
  obtain ⟨entry, -, event, configuration, book⟩ := s.respond_spec response room due
  refine ⟨?_, configuration⟩
  rw [book]
  exact .plain (event ▸ plain) (event ▸ unsequenced)

theorem processCancel_has (admitted : Admitted request .cancel) :
    Has s (.cancelOrder request) (s.processCancel request).1 none := by
  unfold processCancel
  split
  · exact .kept ⟨rfl, rfl⟩
  next room =>
  have room : s.eventRoom := by simpa using room
  split
  · exact .kept ⟨rfl, rfl⟩
  next dueNs added =>
  split
  · exact respond_plain room (dueNs_ne_zero admitted.now added) ⟨nofun, nofun, nofun⟩ rfl
  next index filtered =>
  obtain ⟨found, active⟩ := Option.filter_eq_some_iff.mp filtered
  obtain ⟨entry, rfl, event, configuration, book⟩ := respond_spec { s with
      orders := update s.orders index (pendCancel (s.orders index) dueNs) }
    (s.controlResponse request.command .cancelAcknowledgement (s.orders index)
      (s.orders index).quantityUnits) room (dueNs_ne_zero admitted.now added)
  refine ⟨?_, configuration⟩
  rw [book]
  refine .canceling admitted ?_ ?_ ?_ ?_ ?_ ?_
  · exact find_of_findOrder found
  · rw [Bool.not_eq_true'] at active
    exact active
  · exact toNat_of_checkedAdd added
  · exact congrArg GatewayEvent.kind event
  · exact congrArg GatewayEvent.orderId event
  · exact congrArg GatewayEvent.venueSequence event

theorem processReplace_has (admitted : Admitted request .replace) :
    Has s (.replaceOrder request) (s.processReplace request).1 none := by
  unfold processReplace
  split
  · exact .kept ⟨rfl, rfl⟩
  next room =>
  have room : s.eventRoom := by simpa using room
  split
  · exact .kept ⟨rfl, rfl⟩
  next dueNs added =>
  split
  · exact respond_plain room (dueNs_ne_zero admitted.now added) ⟨nofun, nofun, nofun⟩ rfl
  next index filtered =>
  obtain ⟨found, active⟩ := Option.filter_eq_some_iff.mp filtered
  simp only [Bool.and_eq_true, Bool.not_eq_true', decide_eq_true_eq] at active
  obtain ⟨entry, rfl, event, configuration, book⟩ := respond_spec { s with
      orders := update s.orders index
        (pendReplace (s.orders index) request.command.priceTicks request.command.quantityUnits
          dueNs) }
    (s.controlResponse request.command .replaceAcknowledgement (s.orders index)
      request.command.quantityUnits) room (dueNs_ne_zero admitted.now added)
  refine ⟨?_, configuration⟩
  rw [book]
  refine .replacing admitted ?_ ?_ ?_ ?_ ?_ ?_ ?_
  · exact find_of_findOrder found
  · exact active.1
  · exact active.2
  · exact toNat_of_checkedAdd added
  · exact congrArg GatewayEvent.kind event
  · exact congrArg GatewayEvent.orderId event
  · exact congrArg GatewayEvent.venueSequence event

def Call.submit (request : GatewayRequest) : GatewayCommandKind → Call
  | .cancel => .cancelOrder request
  | .replace => .replaceOrder request
  | _ => .sendOrder request

theorem processCommand_has (admitted : Admitted request kind) (outbound : UInt64) :
    Has s (.submit request kind) (s.processCommand request outbound).1 none := by
  unfold processCommand
  rw [admitted.kind]
  cases kind with
  | none => exact .kept ⟨rfl, rfl⟩
  | newOrder => exact processNew_has admitted outbound
  | cancel => exact processCancel_has admitted
  | replace => exact processReplace_has admitted

theorem dispatch_has (s : SimulatedGateway) (admitted : Admitted request kind) :
    Has s (.submit request kind) (s.dispatch request).1 none := by
  unfold dispatch
  split
  · exact .kept ⟨rfl, rfl⟩
  · next session outbound _ =>
    exact Has.before ⟨rfl, rfl⟩ (processCommand_has (s := { s with session }) admitted outbound)

theorem finalGate_of_gate (open' : s.gate request kind = .accepted) :
    s.finalGate request kind = .accepted := by
  unfold gate at open'
  split at open'
  · cases open'
  · exact open'

theorem decide_has (s : SimulatedGateway) (request : GatewayRequest) (kind : GatewayCommandKind) :
    Has s (.submit request kind) (s.decide request kind).1 none := by
  have limited := s.sameBook_rateAllowed kind request.now
  unfold decide
  split
  · exact .kept ⟨rfl, rfl⟩
  next open' =>
  split
  · exact .kept limited
  · exact .before limited (dispatch_has _ (admitted_of_gate (finalGate_of_gate (not_not.mp open'))))

theorem answer_has (s : SimulatedGateway) (request : GatewayRequest) (kind : GatewayCommandKind) :
    Has s (.submit request kind) (s.answer request kind).1 none := by
  unfold answer
  split
  · split
    · exact .kept ⟨rfl, rfl⟩
    · exact .kept ⟨rfl, rfl⟩
  · have decided := s.decide_has request kind
    split
    · exact decided
    · exact decided.after ⟨rfl, rfl⟩

theorem submit_has (s : SimulatedGateway) (request : GatewayRequest) (kind : GatewayCommandKind) :
    Has s (.submit request kind) (s.submit request kind).1 none := by
  unfold submit
  split
  · exact .kept ⟨rfl, rfl⟩
  split
  · exact .kept ⟨rfl, rfl⟩
  refine has_reserving fun reservation journal => ?_
  exact (answer_has { s with journal } request kind).around ⟨rfl, rfl⟩
    (sameBook_audit.trans sameBook_updateHealth)

/-- The book of `before`, with its due controls settled. -/
structure Settles (before : SimulatedGateway) (now : UInt64) (s : SimulatedGateway) : Prop where
  orders : s.orders = settled before.model now before.orders
  events : s.events = before.events
  configuration : s.configuration = before.configuration

theorem Settles.has {before : SimulatedGateway} {now : UInt64} (settles : Settles before now s)
    (time : call.time = some now) : Has before call s none := by
  have book : s.book = ⟨_, _⟩ := congrArg₂ Book.mk settles.orders settles.events
  exact ⟨book ▸ .settling time, settles.configuration⟩

section Trades

variable {event : SyntheticEvent} {index : Fin kMaximumGatewayOrders} {market : MarketSlot}
  {before : SimulatedGateway}

section

variable (settles : Settles before event.processMonotonicTimeNs s)
include settles

section

variable (shape : validEventShape event)
include shape

theorem fillOrder_has
    (meets : tradable event market (s.orders index))
    (some' : fillQuantity s.model event (s.orders index) ≠ 0) (room : s.eventRoom) :
    Has before (.onMarketEvent event)
      (s.fillOrder event index (fillQuantity s.model event (s.orders index))).1 none := by
  unfold fillOrder
  split
  · exact settles.has rfl
  next terms priced =>
  obtain ⟨entry, due, report, same, book⟩ := respond_spec { s with
      orders := update s.orders index
        (filledOrder (s.orders index) (fillQuantity s.model event (s.orders index)))
      nextExecutionOrdinal := s.nextExecutionOrdinal + 1 }
    (s.fillEvent event (s.orders index) (fillQuantity s.model event (s.orders index)) terms) room
    (processMonotonicTimeNs_ne_zero shape)
  refine ⟨?_, same.trans settles.configuration⟩
  rw [book]
  have kind : entry.event.kind = .fill := congrArg GatewayEvent.kind report
  have orderId : entry.event.orderId = (s.orders index).orderId :=
    congrArg GatewayEvent.orderId report
  have units : entry.event.quantityUnits = fillQuantity s.model event (s.orders index) :=
    congrArg GatewayEvent.quantityUnits report
  have unsequenced : entry.event.venueSequence = 0 := congrArg GatewayEvent.venueSequence report
  have sameModel : s.model = before.model :=
    congrArg GatewayConfiguration.paperModel settles.configuration
  rw [sameModel] at some' units ⊢
  rw [settles.orders] at some' meets orderId units ⊢
  rw [settles.events]
  exact .filling shape meets rfl some' due kind orderId units unsequenced

theorem tradeAgainst_has
    (meets : tradable event market (s.orders index)) :
    Has before (.onMarketEvent event) (s.tradeAgainst event index).1 none := by
  unfold tradeAgainst
  split
  · refine ⟨?_, settles.configuration⟩
    rw [settles.orders, settles.events]
    exact .passing
  split
  · exact settles.has rfl
  next some' =>
  split
  · exact settles.has rfl
  · next room => exact fillOrder_has settles shape meets some' (by simpa using room)

theorem processTrade_has {index : Nat} :
    Has before (.onMarketEvent event) (s.processTrade event index).1 none := by
  unfold processTrade
  split
  · exact settles.has rfl
  split
  · exact settles.has rfl
  split
  · exact settles.has rfl
  · next met =>
    have meets := List.find?_some met
    exact tradeAgainst_has settles shape meets

end

end

theorem onMarketEvent_has (s : SimulatedGateway) (event : SyntheticEvent) :
    Has s (.onMarketEvent event) (s.onMarketEvent event).1 none := by
  unfold onMarketEvent
  split
  · exact .kept ⟨rfl, rfl⟩
  split
  · exact .kept ⟨rfl, rfl⟩
  next accepted =>
  simp only [Bool.or_eq_true, Bool.not_eq_true', not_or, Bool.not_eq_false] at accepted
  refine has_reserving fun reservation journal => Has.after ?_ (sameBook_audit.trans sameBook_updateHealth)
  unfold observe
  split
  · exact .kept ⟨rfl, rfl⟩
  split
  · exact .kept ⟨rfl, rfl⟩
  · refine processTrade_has ?_ accepted.1.1
    exact ⟨rfl, rfl, rfl⟩

end Trades

theorem refreshed_spec (s : SimulatedGateway) (event : GatewayEvent) :
    (s.refreshed event).kind = event.kind ∧ (s.refreshed event).orderId = event.orderId ∧
      (s.refreshed event).venueSequence = event.venueSequence ∧
      (event.kind = .fill → (s.refreshed event).quantityUnits = event.quantityUnits) := by
  unfold refreshed
  split
  · next acknowledgement =>
    split
    · exact ⟨rfl, rfl, rfl, fun _ => rfl⟩
    · refine ⟨rfl, rfl, rfl, fun fill => ?_⟩
      rw [fill] at acknowledgement
      cases acknowledgement
  · exact ⟨rfl, rfl, rfl, fun _ => rfl⟩

theorem reports_emitted (s : SimulatedGateway) (scheduled : ScheduledEvent) :
    Reports scheduled (s.emitted scheduled) := by
  obtain ⟨kind, orderId, -, quantity⟩ := s.refreshed_spec scheduled.event
  exact ⟨kind, orderId, fun fill => quantity (kind.symm.trans fill)⟩

section Polling

variable {now : UInt64} {scheduled : ScheduledEvent} {before : SimulatedGateway}

theorem Settles.withdrawn (settles : Settles before now s)
    (due : earliestDue now before.events = some scheduled)
    (same : SameBook { s with events := s.events.erase scheduled } s')
    (reports : ∀ event ∈ output, Reports scheduled event) :
    Has before (.pollEvent now) s' output := by
  refine ⟨?_, same.configuration.trans settles.configuration⟩
  rw [same.book, book, settles.orders, settles.events]
  exact .withdrawing due reports

theorem deliver_has (settles : Settles before now s)
    (due : earliestDue now before.events = some scheduled) (reservation : Nat) :
    Has before (.pollEvent now) (s.deliver now scheduled reservation).1
      (s.deliver now scheduled reservation).2.2 := by
  have nothing : ∀ event ∈ (none : Option GatewayEvent), Reports scheduled event := by
    intro event mem
    cases mem
  have reports : ∀ event ∈ some (s.emitted scheduled), Reports scheduled event := by
    intro event mem
    cases mem
    exact s.reports_emitted scheduled
  unfold deliver
  dsimp only
  generalize s.session.observeInbound now (s.emitted scheduled).venueSequence = observed
  have observing : Settles before now { s with session := observed.1 } :=
    ⟨settles.orders, settles.events, settles.configuration⟩
  have audited := @sameBook_audit { s with session := observed.1 } reservation
    (responseRecord (s.emitted scheduled) .accepted) now
  split
  · exact observing.withdrawn due (sameBook_noteAudit.trans sameBook_updateHealth) nothing
  · exact observing.withdrawn due (sameBook_noteAudit.trans sameBook_updateHealth) nothing
  · exact observing.withdrawn due (sameBook_noteAudit.trans sameBook_updateHealth) nothing
  · exact observing.withdrawn due (sameBook_noteAudit.trans sameBook_updateHealth) nothing
  · exact observing.withdrawn due sameBook_noteAudit nothing
  all_goals
    split
    · exact (observing.has rfl).after (SameBook.trans sameBook_setUnsafe sameBook_noteAudit)
    split
    · exact (observing.has rfl).after audited
    have book := audited.book
    refine observing.withdrawn due ⟨?_, audited.configuration⟩ reports
    have orders := congrArg Book.orders book
    have events := congrArg Book.events book
    exact congrArg₂ Book.mk orders (congrArg (List.erase · scheduled) events)

theorem pollEvent_has (s : SimulatedGateway) (now : UInt64) :
    Has s (.pollEvent now) (s.pollEvent now).1 (s.pollEvent now).2.2 := by
  unfold pollEvent
  split
  · exact .kept ⟨rfl, rfl⟩
  split
  · exact .kept ⟨rfl, rfl⟩
  dsimp only
  split
  · exact .kept ⟨rfl, rfl⟩
  have settles : Settles s now
      ({ s with session := (s.session.checkHeartbeatTimeout now).1 }.settleDueControls now) :=
    ⟨rfl, rfl, rfl⟩
  split
  · exact settles.has rfl
  next scheduled due =>
  rcases reserving_cases _ now (GatewayPollStatus.recovering, none) _ with
    ⟨-, full⟩ | ⟨reservation, journal, -, reserved⟩
  · rw [full]
    exact (settles.has rfl).after sameBook_setUnsafe
  · rw [reserved]
    have settles : Settles s now
        { { s with session := (s.session.checkHeartbeatTimeout now).1 }.settleDueControls now with
          journal } := ⟨rfl, rfl, rfl⟩
    exact deliver_has settles due reservation

end Polling

section

variable (s)

theorem start_has (now : UInt64) : Has s (.start now) (s.start now).1 none := by
  unfold start
  split
  · exact .kept ⟨rfl, rfl⟩
  refine has_reserving fun reservation journal => ?_
  have audited := @sameBook_audit
    { { s with journal } with session := (s.session.logon now).1 } reservation
    (transitionRecord (s.session.logon now).2) now
  have audited : SameBook s _ := ⟨audited.book, audited.configuration⟩
  dsimp only
  split
  · exact .kept (audited.trans sameBook_updateHealth)
  split
  · exact .kept (audited.trans (sameBook_setUnsafe.trans sameBook_updateHealth))
  · exact .kept (audited.trans sameBook_updateHealth)

theorem logoff_has (now : UInt64) : Has s (.logoff now) (s.logoff now).1 none := by
  unfold logoff
  split
  · exact .kept ⟨rfl, rfl⟩
  refine has_reserving fun reservation journal => ?_
  have audited := @sameBook_audit
    { { s with journal } with session := (s.session.logoff now).1 } reservation
    (transitionRecord (s.session.logoff now).2) now
  have audited : SameBook s _ := ⟨audited.book, audited.configuration⟩
  exact .kept (audited.trans sameBook_updateHealth)

theorem heartbeat_has (now : UInt64) : Has s (.heartbeat now) (s.heartbeat now).1 none := by
  unfold heartbeat
  split
  · exact .kept ⟨rfl, rfl⟩
  dsimp only
  split
  · exact .kept ⟨rfl, rfl⟩
  split
  · exact .kept ⟨rfl, rfl⟩
  split
  · exact .kept ⟨rfl, rfl⟩
  split
  · exact .kept ⟨rfl, rfl⟩
  next scheduled =>
  unfold scheduleEvent at scheduled
  split at scheduled
  · cases scheduled
  · cases scheduled
    exact ⟨.plain ⟨nofun, nofun, nofun⟩ rfl, rfl⟩

theorem beginRecovery_has (now : UInt64) :
    Has s (.beginRecovery now) (s.beginRecovery now).1 none := by
  unfold beginRecovery
  split
  · exact .kept ⟨rfl, rfl⟩
  refine has_reserving fun reservation journal => ?_
  split
  · have audited := @sameBook_audit { s with journal } reservation
      { kind := .recovery, reason := .sessionNotActive } now
    exact .kept (SameBook.trans ⟨audited.book, audited.configuration⟩ sameBook_updateHealth)
  · next session _ =>
    have suspends : Has s (.beginRecovery now)
        { s with journal, session, orders := fun index => suspend (s.orders index), events := [] }
        none := ⟨.suspending, rfl⟩
    exact suspends.after (sameBook_audit.trans sameBook_updateHealth)

theorem recover_has (snapshot : GatewayRecoverySnapshot) (now : UInt64) :
    Has s (.recover snapshot now) (s.recover snapshot now).1 none := by
  unfold recover
  split
  · exact .kept ⟨rfl, rfl⟩
  split
  · exact .kept ⟨rfl, rfl⟩
  next valid =>
  split
  · exact .kept ⟨rfl, rfl⟩
  refine has_reserving fun reservation journal => ?_
  have rebuilding : ∀ s' : SimulatedGateway, s'.orders = (rebuilt s.orders snapshot).1 →
      s'.events = s.events → s'.configuration = s.configuration →
      Has s (.recover snapshot now) s' none := by
    intro s' orders events configuration
    refine ⟨?_, configuration⟩
    rw [show s'.book = ⟨_, _⟩ from congrArg₂ Book.mk orders events]
    unfold rebuilt
    split
    · exact .kept
    · next clear => exact .rebuilding (by simpa using valid) (by simpa using clear) rfl
  dsimp only
  generalize rebuilt s.orders snapshot = table at rebuilding ⊢
  generalize (if table.2 = true then _ else none : Option SessionLifecycle) = completed
  have recovered := rebuilding
    { s with journal, orders := table.1, session := completed.getD s.session } rfl rfl rfl
  split
  · exact recovered.after sameBook_audit
  · exact recovered.after (sameBook_audit.trans sameBook_updateHealth)

theorem injectSyntheticResponse_has (event : GatewayEvent) (dueNs : UInt64) :
    Has s (.injectSyntheticResponse event dueNs) (s.injectSyntheticResponse event dueNs).1
      none := by
  unfold injectSyntheticResponse
  split
  · exact .kept ⟨rfl, rfl⟩
  split
  · exact .kept ⟨rfl, rfl⟩
  next scheduled =>
  unfold scheduleEvent at scheduled
  split at scheduled
  · cases scheduled
  · cases scheduled
    exact ⟨.injected, rfl⟩

theorem shutdown_has (now : UInt64) : Has s (.shutdown now) (s.shutdown now) none := by
  unfold shutdown
  split
  · exact .kept ⟨rfl, rfl⟩
  dsimp only
  split
  · exact .kept ⟨rfl, rfl⟩
  next reservation journal _ =>
  have noted := @sameBook_noteAudit
    { { s with stopped := true, session := s.session.shutdown now } with journal }
    reservation { kind := .shutdown, reason := .shutdown } now
  exact .kept (SameBook.trans ⟨noted.book, noted.configuration⟩ sameBook_updateHealth)

end

def delivered (s : SimulatedGateway) : Call → Option GatewayEvent
  | .pollEvent now => (s.pollEvent now).2.2
  | _ => none

theorem next_has (s : SimulatedGateway) (call : Call) :
    Has s call (s.next call) (s.delivered call) := by
  cases call with
  | start now => exact s.start_has now
  | logoff now => exact s.logoff_has now
  | sendOrder request => exact s.submit_has request .newOrder
  | cancelOrder request => exact s.submit_has request .cancel
  | replaceOrder request => exact s.submit_has request .replace
  | onMarketEvent event => exact s.onMarketEvent_has event
  | pollEvent now => exact s.pollEvent_has now
  | heartbeat now => exact s.heartbeat_has now
  | beginRecovery now => exact s.beginRecovery_has now
  | recover snapshot now => exact s.recover_has snapshot now
  | injectSyntheticResponse event dueNs => exact s.injectSyntheticResponse_has event dueNs
  | shutdown now => exact s.shutdown_has now

end SimulatedGateway

end Aegis.Execution
