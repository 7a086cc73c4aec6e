import Aegis.Execution.OrderTable
import Aegis.Execution.TestSupport
import Aegis.Foundation.Runs

/-!
Over-fills. A replace is applied when its latency is over, and a trade in between may fill the
order past its new quantity (`Overtakes`, read off the book before the trade); nothing else makes
an order invalid.
-/

namespace Aegis.Execution

open Aegis.Common Aegis.Foundation Aegis.MarketData SimulatedGateway Function

/-- What `valid_paper_order_snapshot` says of an order. -/
structure Viable (order : PaperOrderSnapshot) : Prop where
  sourceCommandId : order.sourceCommandId.valid = true
  orderId : order.orderId.valid = true
  externalOrderId : order.state ≠ .rejected → order.externalOrderId.valid = true
  instrumentId : order.instrumentId.valid = true
  state : validPaperState order.state = true
  side : order.side = .buy ∨ order.side = .sell
  price : 0 < order.priceTicks
  quantity : order.quantityUnits ≠ 0
  filled : order.cumulativeFillQuantityUnits ≤ order.quantityUnits
  acknowledgement : order.state = .pendingAck → order.acknowledgementDueNs ≠ 0
  cancel : order.state = .pendingCancel → order.cancelDueNs ≠ 0
  replace : order.state = .pendingReplace → 0 < order.pendingReplacePriceTicks ∧
    order.cumulativeFillQuantityUnits < order.pendingReplaceQuantityUnits ∧
    order.replaceDueNs ≠ 0

theorem validPaperOrderSnapshot_iff (order : PaperOrderSnapshot) :
    validPaperOrderSnapshot order ↔ Viable order := by
  have positive : ¬ order.priceTicks ≤ 0 ↔ 0 < order.priceTicks := Int64.not_le
  have within : ¬ order.cumulativeFillQuantityUnits > order.quantityUnits ↔
      order.cumulativeFillQuantityUnits ≤ order.quantityUnits := UInt64.not_lt
  unfold validPaperOrderSnapshot
  constructor
  · intro valid
    split at valid
    · cases valid
    next listed =>
    split at valid
    · cases valid
    next acknowledgement =>
    split at valid
    · cases valid
    next cancel =>
    simp only [Bool.or_eq_true, Bool.and_eq_true, Bool.not_eq_true', bne_iff_ne, beq_iff_eq,
      decide_eq_true_eq, not_or, not_and, Bool.not_eq_false, positive, within, ne_eq,
      not_not] at listed acknowledgement cancel valid
    obtain ⟨⟨⟨⟨⟨⟨⟨⟨source, orderId⟩, external⟩, instrument⟩, state⟩, side⟩, price⟩, quantity⟩,
      filled⟩ := listed
    refine ⟨source, orderId, ?_, instrument, state, ?_, price, quantity, filled, acknowledgement,
      cancel, ?_⟩
    · intro live
      by_contra missing
      exact live (external (by simpa using missing))
    · by_contra neither
      rw [not_or] at neither
      exact neither.2 (side neither.1)
    · intro replacing
      rcases valid with other | pending
      · exact absurd replacing other
      · exact ⟨pending.1.1, pending.1.2, pending.2⟩
  · intro viable
    rw [if_neg, if_neg, if_neg]
    · by_cases replacing : order.state = .pendingReplace
      · obtain ⟨price, more, due⟩ := viable.replace replacing
        simp [price, more, due]
      · simp [replacing]
    · have := viable.cancel
      simpa using this
    · have := viable.acknowledgement
      simpa using this
    · have side := viable.side
      have external := viable.externalOrderId
      simp only [Bool.or_eq_true, Bool.and_eq_true, Bool.not_eq_true', bne_iff_ne, beq_iff_eq,
        decide_eq_true_eq, not_or, not_and, Bool.not_eq_false, positive, within, ne_eq, not_not]
      refine ⟨⟨⟨⟨⟨⟨⟨⟨viable.sourceCommandId, viable.orderId⟩, ?_⟩, viable.instrumentId⟩,
        viable.state⟩, ?_⟩, viable.price⟩, viable.quantity⟩, viable.filled⟩
      · intro missing
        by_contra live
        rw [external live] at missing
        cases missing
      · intro notBuy
        exact side.resolve_left notBuy

variable {model : PaperModelConfiguration} {now : UInt64} {order : PaperOrderSnapshot}

theorem Viable.external (viable : Viable order) (live : terminal order.state = false) :
    order.externalOrderId.valid := by
  refine viable.externalOrderId fun rejected => ?_
  rw [rejected] at live
  cases live

theorem Viable.settle (viable : Viable order) : Viable (settleOrder model now order) := by
  unfold settleOrder
  split
  · exact viable
  next live =>
  have external := viable.external (by simp_all)
  split
  · exact { viable with
      state := rfl
      externalOrderId := fun _ => external
      acknowledgement := nofun
      cancel := nofun
      replace := nofun }
  split
  · exact { viable with
      state := rfl
      externalOrderId := fun _ => external
      acknowledgement := nofun
      cancel := nofun
      replace := nofun }
  split
  · next due =>
    simp only [Bool.and_eq_true, decide_eq_true_eq] at due
    obtain ⟨price, more, -⟩ := viable.replace due.1
    exact { viable with
      state := rfl
      externalOrderId := fun _ => external
      price := price
      quantity := by
        rintro (zero : order.pendingReplaceQuantityUnits = 0)
        rw [zero] at more
        exact absurd more (UInt64.not_lt.mpr UInt64.zero_le)
      filled := UInt64.le_of_lt more
      acknowledgement := nofun
      cancel := nofun
      replace := nofun }
  · exact viable

variable {dueNs : UInt64} {event : SyntheticEvent} {market : MarketSlot} {orders : OrderTable}
  {index : Fin kMaximumGatewayOrders} {call : Call} {s : SimulatedGateway}

theorem Viable.pendCancel (viable : Viable order) (live : terminal order.state = false)
    (due : dueNs ≠ 0) : Viable (pendCancel order dueNs) :=
  { viable with
    state := rfl
    externalOrderId := fun _ => viable.external live
    acknowledgement := nofun
    cancel := fun _ => due
    replace := nofun }

theorem Viable.pendReplace (viable : Viable order) (live : terminal order.state = false)
    {priceTicks : Int64} {quantityUnits : UInt64} (price : 0 < priceTicks)
    (more : order.cumulativeFillQuantityUnits < quantityUnits) (due : dueNs ≠ 0) :
    Viable (pendReplace order priceTicks quantityUnits dueNs) :=
  { viable with
    state := rfl
    externalOrderId := fun _ => viable.external live
    acknowledgement := nofun
    cancel := nofun
    replace := fun _ => ⟨price, more, due⟩ }

theorem Viable.suspend (viable : Viable order) : Viable (suspend order) := by
  unfold SimulatedGateway.suspend
  split
  · next live =>
    simp only [Bool.and_eq_true, Bool.not_eq_true'] at live
    exact { viable with
      state := rfl
      externalOrderId := fun _ => viable.external live.2
      acknowledgement := nofun
      cancel := nofun
      replace := nofun }
  · exact viable

theorem tradable_spec (meets : tradable event market order) :
    order.occupied ∧ terminal order.state = false := by
  unfold tradable at meets
  simp only [Bool.and_eq_true, Bool.or_eq_true, beq_iff_eq] at meets
  obtain ⟨⟨⟨occupied, live⟩, -⟩, -⟩ := meets
  refine ⟨occupied, ?_⟩
  rcases live with (working | canceling) | replacing
  · rw [working]
    rfl
  · rw [canceling]
    rfl
  · rw [replacing]
    rfl

theorem Viable.toNat_fill (viable : Viable order) (model : PaperModelConfiguration)
    (event : SyntheticEvent) :
    (order.cumulativeFillQuantityUnits + fillQuantity model event order).toNat =
        order.cumulativeFillQuantityUnits.toNat + (fillQuantity model event order).toNat ∧
      order.cumulativeFillQuantityUnits.toNat + (fillQuantity model event order).toNat ≤
        order.quantityUnits.toNat := by
  have filled := UInt64.le_iff_toNat_le.mp viable.filled
  have left := UInt64.toNat_sub_of_le _ _ viable.filled
  have bound : (fillQuantity model event order).toNat ≤
      (order.quantityUnits - order.cumulativeFillQuantityUnits).toNat := by
    unfold fillQuantity
    rw [toNat_min, toNat_min]
    omega
  have below := order.quantityUnits.toNat_lt
  rw [UInt64.toNat_add]
  omega

theorem Viable.fill (viable : Viable order) (meets : tradable event market order)
    (within : (filledOrder order (fillQuantity model event order)).state = .pendingReplace →
      order.cumulativeFillQuantityUnits + fillQuantity model event order <
        order.pendingReplaceQuantityUnits) :
    Viable (filledOrder order (fillQuantity model event order)) := by
  obtain ⟨exact', most⟩ := viable.toNat_fill model event
  have state : (filledOrder order (fillQuantity model event order)).state = .filled ∨
      (filledOrder order (fillQuantity model event order)).state = order.state := by
    unfold filledOrder
    dsimp only
    split
    · exact .inl rfl
    · exact .inr rfl
  have external := viable.external (tradable_spec meets).2
  refine { viable with
    externalOrderId := fun _ => external
    state := ?_
    filled := ?_
    acknowledgement := ?_
    cancel := ?_
    replace := ?_ }
  · rcases state with filled | same
    · rw [filled]
      rfl
    · rw [same]
      exact viable.state
  · rw [UInt64.le_iff_toNat_le]
    exact exact'.trans_le most
  · rcases state with filled | same
    · rw [filled]
      nofun
    · rw [same]
      exact viable.acknowledgement
  · rcases state with filled | same
    · rw [filled]
      nofun
    · rw [same]
      exact viable.cancel
  · intro replacing
    rcases state with filled | same
    · rw [filled] at replacing
      cases replacing
    · obtain ⟨price, -, due⟩ := viable.replace (same.symm.trans replacing)
      exact ⟨price, within replacing, due⟩

theorem viable_of_filed {request : GatewayRequest} (admitted : Admitted request .newOrder)
    (made : Filed request order) : Viable order := by
  have side := admitted.side nofun
  have state := made.state
  refine ⟨made.sourceCommandId ▸ admitted.commandId, made.orderId ▸ admitted.orderId,
    fun _ => made.externalOrderId, made.instrumentId ▸ admitted.instrumentId, ?_,
    made.side ▸ side, made.price ▸ admitted.price, made.quantity ▸ admitted.quantity, ?_,
    fun _ => made.due, ?_, ?_⟩
  · rcases state with pending | rejected
    · rw [pending]
      rfl
    · rw [rejected]
      rfl
  · rw [made.cumulative]
    exact UInt64.zero_le
  · rcases state with pending | rejected
    · rw [pending]
      nofun
    · rw [rejected]
      nofun
  · rcases state with pending | rejected
    · rw [pending]
      nofun
    · rw [rejected]
      nofun

def AllViable (orders : OrderTable) : Prop :=
  ∀ index, (orders index).occupied = true → Viable (orders index)

theorem AllViable.update (all : AllViable orders) (viable : order.occupied → Viable order) :
    AllViable (update orders index order) := by
  intro other
  by_cases same : other = index
  · subst same
    rw [update_self]
    exact viable
  · rw [update_of_ne same]
    exact all other

theorem AllViable.settled (all : AllViable orders) : AllViable (settled model now orders) := by
  intro index occupied
  have kept := (settleOrder_spec model now (orders index)).1
  exact (all index (kept ▸ occupied)).settle

namespace SimulatedGateway

/-- What a trade fills of the order that it meets, if anything. -/
def fillAmount (s : SimulatedGateway) (event : SyntheticEvent)
    (index : Fin kMaximumGatewayOrders) : Option UInt64 :=
  let quantity := fillQuantity s.model event (s.orders index)
  if (s.orders index).queueAheadUnits ≥ event.quantityUnits ∨ quantity = 0 ∨
      s.eventRoom = false ∨ s.fillTerms event (s.orders index) quantity = none then none
  else some quantity

/-- The order that a trade on a market fills, and the amount. -/
def tradeOf (s : SimulatedGateway) (event : SyntheticEvent) (market : Nat) :
    Option (Fin kMaximumGatewayOrders × UInt64) :=
  if !s.executes event (s.market market) then none
  else if event.priceTicks ≤ 0 || event.quantityUnits = 0 then none
  else (s.metOrder event market).bind fun index =>
    (s.fillAmount event index).map fun quantity => (index, quantity)

/-- The order that an observed event fills, and the amount, on the settled book. -/
def observedFill (s : SimulatedGateway) (event : SyntheticEvent) :
    Option (Fin kMaximumGatewayOrders × UInt64) :=
  if event.dataQuality ≠ .valid then none
  else (s.findEventMarket event).bind fun market =>
    ((s.settleDueControls event.processMonotonicTimeNs).updateMarket event market).tradeOf event
      market

/-- The same behind the checks and the reservation of `on_market_event`. -/
def fillOf (s : SimulatedGateway) (event : SyntheticEvent) :
    Option (Fin kMaximumGatewayOrders × UInt64) :=
  if !s.initialized || s.stopped then none
  else if !validEventShape event || event.eventHash = 0 ||
      event.eventHash ≠ calculateEventHash event then none
  else s.journal.tryReserve.bind fun reserved => { s with journal := reserved.2 }.observedFill event

/-- The order that a call fills, as it is before the fill, and the amount. -/
def filling (s : SimulatedGateway) : Call → Option (PaperOrderSnapshot × UInt64)
  | .onMarketEvent event => (s.fillOf event).map fun fill =>
      (settleOrder s.model event.processMonotonicTimeNs (s.orders fill.1), fill.2)
  | _ => none

/-- A trade fills an order whose replace is not due yet up to the quantity of the replace or
beyond, but not in full. -/
def Overtakes (s : SimulatedGateway) (call : Call) : Prop :=
  ∃ fill ∈ s.filling call, fill.1.state = .pendingReplace ∧
    fill.1.cumulativeFillQuantityUnits + fill.2 ≠ fill.1.quantityUnits ∧
    fill.1.pendingReplaceQuantityUnits ≤ fill.1.cumulativeFillQuantityUnits + fill.2

instance (s : SimulatedGateway) (call : Call) : Decidable (Overtakes s call) :=
  inferInstanceAs (Decidable (∃ fill ∈ s.filling call, _ ∧ _))

variable {s : SimulatedGateway} {event : SyntheticEvent} {index : Fin kMaximumGatewayOrders}

/-- The book after a trade: one order is filled by the amount, or no fill changes. -/
inductive TradeOutcome (orders : OrderTable) (fill : Option (Fin kMaximumGatewayOrders × UInt64))
    (orders' : OrderTable) : Prop
  | filled {index : Fin kMaximumGatewayOrders} {quantity : UInt64}
      (amount : fill = some (index, quantity)) (occupied : (orders index).occupied = true)
      (written : orders' = update orders index (filledOrder (orders index) quantity))
  | unfilled (nothing : fill = none)
      (same : ∀ index, (orders' index).cumulativeFillQuantityUnits =
        (orders index).cumulativeFillQuantityUnits)

theorem tradeAgainst_outcome (shape : validEventShape event) {market : MarketSlot}
    (meets : tradable event market (s.orders index)) :
    TradeOutcome s.orders ((s.fillAmount event index).map fun quantity => (index, quantity))
      (s.tradeAgainst event index).1.orders := by
  unfold tradeAgainst
  split
  · next ahead =>
    refine .unfilled (by simp [fillAmount, ahead]) fun other => ?_
    by_cases here : other = index
    · subst here
      simp [passOver]
    · simp [here]
  next behind =>
  split
  · next nothing => exact .unfilled (by simp [fillAmount, nothing]) fun _ => rfl
  next some' =>
  split
  · next full => exact .unfilled (by simp_all [fillAmount]) fun _ => rfl
  next room =>
  have room : s.eventRoom := by simpa using room
  unfold fillOrder
  split
  · next priced => exact .unfilled (by simp [fillAmount, priced]) fun _ => rfl
  · next terms priced =>
    obtain ⟨entry, -, -, -, book⟩ := respond_spec { s with
        orders := update s.orders index
          (filledOrder (s.orders index) (fillQuantity s.model event (s.orders index)))
        nextExecutionOrdinal := s.nextExecutionOrdinal + 1 }
      (s.fillEvent event (s.orders index) (fillQuantity s.model event (s.orders index)) terms) room
      (processMonotonicTimeNs_ne_zero shape)
    exact .filled (by simp [fillAmount, behind, some', room, priced]) (tradable_spec meets).1
      (congrArg Book.orders book)

theorem processTrade_outcome (shape : validEventShape event) {market : Nat} :
    TradeOutcome s.orders (s.tradeOf event market) (s.processTrade event market).1.orders := by
  unfold processTrade tradeOf
  by_cases idle : !s.executes event (s.market market)
  · rw [if_pos idle, if_pos idle]
    exact .unfilled rfl fun _ => rfl
  rw [if_neg idle, if_neg idle]
  by_cases empty : event.priceTicks ≤ 0 || event.quantityUnits = 0
  · rw [if_pos empty, if_pos empty]
    exact .unfilled rfl fun _ => rfl
  rw [if_neg empty, if_neg empty]
  cases met : s.metOrder event market with
  | none => exact .unfilled rfl fun _ => rfl
  | some index =>
    unfold metOrder at met
    have meets := List.find?_some met
    exact tradeAgainst_outcome shape meets

theorem observe_outcome (shape : validEventShape event) :
    TradeOutcome (settled s.model event.processMonotonicTimeNs s.orders) (s.observedFill event)
      (s.observe event).1.orders := by
  have kept : TradeOutcome (settled s.model event.processMonotonicTimeNs s.orders) none s.orders :=
    .unfilled rfl fun index => (settleOrder_spec _ _ _).2.2.symm
  unfold observe observedFill
  by_cases doubtful : event.dataQuality ≠ .valid
  · rw [if_pos doubtful, if_pos doubtful]
    exact kept
  rw [if_neg doubtful, if_neg doubtful]
  cases s.findEventMarket event with
  | none => exact kept
  | some market =>
    exact processTrade_outcome
      (s := (s.settleDueControls event.processMonotonicTimeNs).updateMarket event market) shape

/-- A market event fills what `fillOf` says, on the settled book, and nothing else. -/
theorem onMarketEvent_outcome (s : SimulatedGateway) (event : SyntheticEvent) :
    TradeOutcome (settled s.model event.processMonotonicTimeNs s.orders) (s.fillOf event)
      (s.onMarketEvent event).1.orders := by
  have kept : TradeOutcome (settled s.model event.processMonotonicTimeNs s.orders) none s.orders :=
    .unfilled rfl fun index => (settleOrder_spec _ _ _).2.2.symm
  unfold onMarketEvent fillOf
  by_cases closed : !s.initialized || s.stopped
  · rw [if_pos closed, if_pos closed]
    exact kept
  rw [if_neg closed, if_neg closed]
  by_cases malformed : !validEventShape event || event.eventHash = 0 ||
      event.eventHash ≠ calculateEventHash event
  · rw [if_pos malformed, if_pos malformed]
    exact kept
  rw [if_neg malformed, if_neg malformed]
  simp only [Bool.or_eq_true, Bool.not_eq_true', not_or, Bool.not_eq_false] at malformed
  rcases s.reserving_cases event.processMonotonicTimeNs GatewayReason.journalCapacity _ with
    ⟨unreserved, eq⟩ | ⟨reservation, journal, reserved, eq⟩
  · rw [eq, unreserved]
    exact kept
  · rw [eq, reserved]
    dsimp only
    rw [(sameBook_audit.trans sameBook_updateHealth).orders]
    exact observe_outcome (s := { s with journal }) malformed.1.1

end SimulatedGateway

theorem dueNs_ne_zero_of_toNat {latency : UInt64} (now' : now ≠ 0)
    (due : dueNs.toNat = now.toNat + latency.toNat) : dueNs ≠ 0 := by
  rintro rfl
  refine now' (UInt64.toNat_inj.mp ?_)
  have zero : (0 : UInt64).toNat = 0 := rfl
  omega

/-- A call keeps the orders valid if its fill stays below the quantity of a pending replace. -/
theorem Effect.viable {book book' : Book} {output : Option GatewayEvent}
    (effect : Effect model book call book' output) (all : AllViable book.orders)
    (within : ∀ event index quantity, call = .onMarketEvent event → quantity ≠ 0 →
      let order := settled model event.processMonotonicTimeNs book.orders index
      book'.orders = update (settled model event.processMonotonicTimeNs book.orders) index
        (filledOrder order quantity) →
      (filledOrder order quantity).state = .pendingReplace →
      order.cumulativeFillQuantityUnits + quantity < order.pendingReplaceQuantityUnits) :
    AllViable book'.orders := by
  cases effect with
  | kept | plain | injected => exact all
  | filed admitted absent free made kind unsequenced =>
    exact all.update fun _ => viable_of_filed admitted made
  | canceling admitted found open' due kind orderId unsequenced =>
    have viable := all _ (Layout.occupied_of_find found).1
    exact all.update fun _ => viable.pendCancel open' (dueNs_ne_zero_of_toNat admitted.now due)
  | replacing admitted found open' more due kind orderId unsequenced =>
    have viable := all _ (Layout.occupied_of_find found).1
    exact all.update fun _ => viable.pendReplace open' admitted.price more
      (dueNs_ne_zero_of_toNat admitted.now due)
  | settling time | withdrawing due reports => exact all.settled
  | passing =>
    exact all.settled.update fun occupied => { all.settled _ occupied with }
  | @filling event index market entry quantity shape meets amount some' =>
    subst amount
    have viable := all.settled index (tradable_spec meets).1
    refine all.settled.update fun _ => viable.fill meets fun replacing => ?_
    exact within event index _ rfl some' rfl replacing
  | suspending =>
    intro index occupied
    have kept := (suspend_spec (book.orders index)).1
    exact (all index (kept ▸ occupied)).suspend
  | rebuilding valid unambiguous built =>
    have given := fun index occupied =>
      (validPaperOrderSnapshot_iff _).mp (valid_order_of_valid valid index occupied)
    have rebuilt := (rebuildRecoveryOrders_spec (Q := Viable) valid given).2
    rw [built] at rebuilt
    exact rebuilt

theorem toNat_foldl_add_le {α : Type} (held : α → Bool) (slots : List α) (count : UInt32) :
    (slots.foldl (fun count slot => count + if held slot then 1 else 0) count).toNat ≤
      count.toNat + slots.length := by
  induction slots generalizing count with
  | nil => exact le_rfl
  | cons slot rest ih =>
    rw [List.foldl_cons, List.length_cons]
    refine (ih _).trans ?_
    have one : (if held slot then 1 else 0 : UInt32).toNat ≤ 1 := by
      split <;> decide
    have sum := UInt32.toNat_add count (if held slot then 1 else 0)
    omega

theorem occupiedCount_le (orders : OrderTable) :
    (occupiedCount orders).toNat ≤ kMaximumGatewayOrders := by
  have counted := toNat_foldl_add_le (fun index => (orders index).occupied)
    (List.finRange kMaximumGatewayOrders) 0
  rwa [List.length_finRange, UInt32.toNat_zero, Nat.zero_add] at counted

theorem stableRecoverySnapshotHash_stableHash (value : GatewayRecoverySnapshot) (hash : UInt64) :
    stableRecoverySnapshotHash { value with stableHash := hash } =
      stableRecoverySnapshotHash value :=
  rfl

theorem not_duplicate_of_keyed (keyed : Keyed orders) (occupied : (orders index).occupied) :
    duplicateRecoveryOrder orders index = false := by
  unfold duplicateRecoveryOrder
  rw [List.any_eq_false]
  rintro other - duplicate
  simp only [Bool.and_eq_true, decide_eq_true_eq, beq_iff_eq] at duplicate
  obtain ⟨⟨before, held⟩, same⟩ := duplicate
  exact before.ne (keyed.distinct other index held occupied same)

theorem validRecoverySnapshot_seal (value : GatewayRecoverySnapshot)
    (session : value.sessionId.valid) (account : value.accountId.valid)
    (venue : value.venueId.valid) (version : value.configurationVersion.valid)
    (hash : value.configurationHash ≠ 0) (epoch : value.exchangeSessionEpoch ≠ 0)
    (inbound : value.nextInboundSequence ≠ 0)
    (count : value.orderCount = occupiedCount value.orders)
    (keyed : Keyed value.orders) (all : AllViable value.orders) :
    validRecoverySnapshot { value with stableHash := stableRecoverySnapshotHash value } := by
  have nonzero : stableRecoverySnapshotHash value ≠ 0 := hashWords_ne_zero _
  have bound : value.orderCount.toNat ≤ kMaximumGatewayOrders := count ▸ occupiedCount_le _
  generalize hashed : stableRecoverySnapshotHash value = sealed at nonzero ⊢
  have rehashed := (stableRecoverySnapshotHash_stableHash value sealed).trans hashed
  unfold validRecoverySnapshot
  rw [rehashed]
  rw [session, account, venue, version, ← count]
  simp only [Bool.and_eq_true, bne_iff_ne, decide_eq_true_eq, beq_self_eq_true, and_true, true_and]
  refine ⟨⟨⟨⟨⟨hash, epoch⟩, inbound⟩, bound⟩, nonzero⟩, ?_⟩
  rw [List.all_eq_true]
  intro index _
  cases occupied : (value.orders index).occupied with
  | false => rfl
  | true =>
    rw [(validPaperOrderSnapshot_iff _).mpr (all index occupied),
      not_duplicate_of_keyed keyed occupied]
    rfl

theorem SimulatedGateway.validRecoverySnapshot_of_viable
    (valid : validGatewayConfiguration s.configuration) (keyed : Keyed s.orders)
    (all : AllViable s.orders) (inbound : s.session.sequences.expectedInbound ≠ 0) :
    validRecoverySnapshot s.recoverySnapshot := by
  unfold validGatewayConfiguration at valid
  simp only [Bool.and_eq_true, bne_iff_ne] at valid
  obtain ⟨⟨⟨⟨⟨⟨⟨⟨⟨⟨⟨⟨⟨⟨⟨⟨⟨⟨⟨⟨⟨⟨session, account⟩, venue⟩, version⟩, -⟩, epoch⟩, -⟩, -⟩, -⟩, -⟩,
    -⟩, -⟩, -⟩, -⟩, -⟩, -⟩, -⟩, -⟩, -⟩, -⟩, hash⟩, -⟩, -⟩ := valid
  obtain ⟨count, counted⟩ : ∃ count, count = occupiedCount s.orders := ⟨_, rfl⟩
  unfold recoverySnapshot
  rw [← counted]
  exact validRecoverySnapshot_seal _
    session account venue version hash epoch inbound counted keyed all

/-- Orders are valid, trades are exact once due controls have settled, and so is the snapshot for a
recovery. -/
structure Intact (s : SimulatedGateway) : Prop where
  filled : ∀ index, (s.orders index).occupied = true →
    (s.orders index).cumulativeFillQuantityUnits ≤ (s.orders index).quantityUnits
  pending : ∀ index, (s.orders index).occupied = true → (s.orders index).state = .pendingReplace →
    (s.orders index).cumulativeFillQuantityUnits < (s.orders index).pendingReplaceQuantityUnits
  remaining : ∀ now index, (s.orders index).occupied = true →
    (settleOrder s.model now (s.orders index)).cumulativeFillQuantityUnits ≤
      (settleOrder s.model now (s.orders index)).quantityUnits
  snapshot : s.session.sequences.expectedInbound ≠ 0 →
    validRecoverySnapshot s.recoverySnapshot = true

theorem intact_of_viable (valid : validGatewayConfiguration s.configuration)
    (keyed : Keyed s.orders) (all : AllViable s.orders) : Intact s := by
  refine ⟨fun index occupied => (all index occupied).filled, ?_, ?_, ?_⟩
  · intro index occupied replacing
    exact ((all index occupied).replace replacing).2.1
  · intro now index occupied
    exact (all index occupied).settle.filled
  · exact validRecoverySnapshot_of_viable valid keyed all

/-- The orders of a gateway are distinct and valid. -/
structure Orderly (configuration : GatewayConfiguration) (s : SimulatedGateway) : Prop where
  same : s.configuration = configuration
  keyed : Keyed s.orders
  viable : AllViable s.orders

theorem Orderly.step {configuration : GatewayConfiguration} (orderly : Orderly configuration s)
    (kept : ¬ Overtakes s call) : Orderly configuration (s.next call) := by
  obtain ⟨effect, same⟩ := s.next_has call
  refine ⟨same.trans orderly.same, effect.keyed orderly.keyed, effect.viable orderly.viable ?_⟩
  rintro event index quantity rfl some' order written replacing
  by_contra overtaken
  have grown : ((s.onMarketEvent event).1.orders index).cumulativeFillQuantityUnits =
      order.cumulativeFillQuantityUnits + quantity := by
    have here := congrArg PaperOrderSnapshot.cumulativeFillQuantityUnits (congrFun written index)
    rwa [update_self] at here
  -- The fill that was seen is the one that the book before the trade tells.
  have amount : s.fillOf event = some (index, quantity) := by
    cases s.onMarketEvent_outcome event with
    | unfilled _ unchanged =>
      rw [unchanged] at grown
      exact absurd (UInt64.left_eq_add.mp grown) some'
    | @filled other amount' told _ written' =>
      rw [written'] at grown
      by_cases here : index = other
      · subst here
        rw [update_self] at grown
        rw [told, (UInt64.add_right_inj _).mp grown]
      · rw [update_of_ne here] at grown
        exact absurd (UInt64.left_eq_add.mp grown) some'
  have open' : order.cumulativeFillQuantityUnits + quantity ≠ order.quantityUnits ∧
      order.state = .pendingReplace := by
    simp only [filledOrder] at replacing
    split at replacing
    · cases replacing
    · next open' => exact ⟨open', replacing⟩
  refine kept ⟨(order, quantity), ?_, open'.2, open'.1, UInt64.not_lt.mp overtaken⟩
  simp only [filling, amount, Option.map_some]
  rfl

/-- No order is over-filled exactly where no replace is overtaken. -/
theorem run_never_overfills {configuration : GatewayConfiguration}
    (valid : validGatewayConfiguration configuration = true) (mode : GatewayMode)
    (calls : List Call) :
    Always next Intact (construct configuration mode) calls ↔
      Throughout next (fun s call => ¬ Overtakes s call) (construct configuration mode) calls := by
  obtain ⟨orders, -, same⟩ := construct_orders configuration mode
  constructor
  · refine throughout_of_always ?_
    rintro s call intact ⟨fill, mem, replacing, open', reached⟩
    cases call with
    | onMarketEvent event =>
      obtain ⟨⟨index, quantity⟩, amount, rfl⟩ := Option.map_eq_some_iff.mp mem
      cases s.onMarketEvent_outcome event with
      | unfilled nothing => cases amount.symm.trans nothing
      | filled told occupied written =>
        cases amount.symm.trans told
        have orders : (s.next (.onMarketEvent event)).orders index = filledOrder
            (settled s.model event.processMonotonicTimeNs s.orders index) quantity :=
          (congrFun written index).trans (update_self ..)
        have pending := intact.pending index
        rw [orders] at pending
        refine absurd (pending occupied ?_) (UInt64.not_lt.mpr reached)
        simp only [filledOrder]
        exact (if_neg open').trans replacing
    | _ => cases mem
  intro conditions
  have start : Orderly configuration (construct configuration mode) := by
    refine ⟨same, orders ▸ keyed_empty, ?_⟩
    rw [orders]
    intro index occupied
    cases occupied
  have always := always_of_throughout (fun _ _ held kept => held.step kept) start conditions
  intro before initial
  obtain ⟨same, keyed, all⟩ := always before initial
  rw [← same] at valid
  exact intact_of_viable valid keyed all

open TestSupport in
theorem run_never_overfills_replaced :
    Always next Intact (construct TestSupport.configuration .simulation)
      [.start kNow, .onMarketEvent (statusEvent .opened 1 kNow),
        .sendOrder (request .newOrder 1 (kNow + 1)), .onMarketEvent (tradeEvent 2 (kNow + 200) 5),
        .replaceOrder (request .replace 2 (kNow + 210) 5),
        .onMarketEvent (tradeEvent 3 (kNow + 500) 5)] :=
  (run_never_overfills (by decide +kernel) .simulation _).mpr (by decide +kernel)

open TestSupport in
/-- An order to be replaced by one of 5 is filled up to 6. -/
def TestSupport.overtakingCalls : List Call :=
  [.start kNow, .onMarketEvent (statusEvent .opened 1 kNow),
    .sendOrder (request .newOrder 1 (kNow + 1)), .onMarketEvent (tradeEvent 2 (kNow + 200) 5),
    .replaceOrder (request .replace 2 (kNow + 210) 5),
    .onMarketEvent (tradeEvent 3 (kNow + 220) 5), .onMarketEvent (tradeEvent 4 (kNow + 500) 1)]

open TestSupport in
/-- The replaced order ends with 6 of its 5 units filled. -/
theorem pending_replace_overtaken :
    let s := run next (construct TestSupport.configuration .simulation) overtakingCalls
    validGatewayConfiguration TestSupport.configuration = true ∧
      ∃ index, (s.orders index).occupied = true ∧ (s.orders index).state = .working ∧
        (s.orders index).cumulativeFillQuantityUnits = 6 ∧ (s.orders index).quantityUnits = 5 := by
  refine ⟨by decide +kernel, (run next (construct TestSupport.configuration .simulation)
    overtakingCalls).findOrder ⟨50, 1⟩ |>.getD 0, ?_⟩
  decide +kernel

end Aegis.Execution
