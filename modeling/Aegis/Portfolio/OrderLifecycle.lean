import Aegis.Portfolio.HandlerEffects
import Aegis.Portfolio.TestSupport

/-!
The lifecycle of the orders that the portfolio service tracks. Fills, corrections and busts write
the state without asking `valid_order_transition`.
-/

namespace Aegis.Portfolio

open Aegis.Common Aegis.Foundation Function

def OrderSlot.closed (order : OrderSlot) : Bool :=
  order.state == .cancelled || order.state == .rejected

namespace PortfolioRiskService

section Calls

variable (s : PortfolioRiskService)

def concernedOrder (event : PortfolioEvent) : Option OrderId :=
  match event.kind with
  | .fill => some event.orderId
  | .fillCorrection => some event.orderId
  | .fillBust => (s.findFill event.targetFillId).map fun index => (s.fills index).orderId
  | _ => none

/-- It applies a fill, correction or bust of a closed order. -/
def writesClosedOrder (call : Call) : Bool :=
  s.takes && (s.reserve.handle call.event).1.status == .applied &&
    (s.concernedOrder call.event).any fun orderId =>
      (s.findOrder orderId).any fun index => (s.orders index).closed

end Calls

inductive OrderChange (s : PortfolioRiskService) (event : PortfolioEvent)
    (internal : InternalApplyResult) : (Fin kMaximumPortfolioOrders → OrderSlot) → Prop
  | kept {orders : Fin kMaximumPortfolioOrders → OrderSlot}
      (same : SameLifecycles s.orders orders) : OrderChange s event internal orders
  | added {index : Fin kMaximumPortfolioOrders} (absent : s.findOrder event.orderId = none)
      (free : orderLayout.findFree s.orders event.orderId = some index) :
      OrderChange s event internal (Function.update s.orders index event.newOrder)
  | updated {index : Fin kMaximumPortfolioOrders} (found : s.findOrder event.orderId = some index)
      (valid : validOrderTransition (s.orders index).state event.orderState = true) :
      OrderChange s event internal
        (Function.update s.orders index ((s.orders index).updatedBy event))
  | written {index : Fin kMaximumPortfolioOrders} {orderId : OrderId} {order : OrderSlot}
      (applied : internal.status = .applied)
      (concerned : s.concernedOrder event = some orderId)
      (found : s.findOrder orderId = some index) (same : SameOrder (s.orders index) order) :
      OrderChange s event internal (Function.update s.orders index order)
  | cleared (kind : event.kind = .sessionRollover) (applied : internal.status = .applied) :
      OrderChange s event internal fun _ => {}

variable {s t : PortfolioRiskService} {event : PortfolioEvent} {internal : InternalApplyResult}
  {call : Call} {orders : Fin kMaximumPortfolioOrders → OrderSlot}

theorem SameLifecycles.refl (orders : Fin kMaximumPortfolioOrders → OrderSlot) :
    SameLifecycles orders orders :=
  fun _ => ⟨⟨rfl, rfl⟩, rfl⟩

theorem orders_of_findOrCreatePosition {accountId : AccountId} {strategyId : StrategyId}
    {instrumentId : InstrumentId} {index : Fin kMaximumPortfolioPositions}
    (opening : s.findOrCreatePosition accountId strategyId instrumentId = some (index, t)) :
    t.orders = s.orders := by
  rcases findOrCreatePosition_eq_some opening with ⟨-, rfl⟩ | ⟨_, -, -, -, rfl⟩ <;> rfl

theorem concernedOrder_of_targets {index : Fin kMaximumPortfolioFills} {changed : FillEntry}
    {positionIndex : Fin kMaximumPortfolioPositions}
    (targets : Targets s event index changed positionIndex) :
    s.concernedOrder event = some changed.orderId := by
  cases targets.rewrites with
  | correction kind => simp [concernedOrder, kind, FillEntry.correctedBy]
  | bust kind active => simp [concernedOrder, kind, targets.found, FillEntry.busted]

theorem Effect.orderChange (effect : Effect s event internal t) :
    OrderChange s event internal t.orders := by
  cases effect with
  | refused | alarmed | orphaned | confirmed | marked => exact .kept (.refl _)
  | orderAdded kind absent free => exact .added absent free
  | orderUpdated kind found valid => exact .updated found valid
  | @overflowed index opened scope opening =>
    show OrderChange s event _ opened.orders
    rw [orders_of_findOrCreatePosition opening]
    exact .kept (.refl _)
  | @filled fillIndex index opened position kind scope free opening accounted =>
    have openedOrders := orders_of_findOrCreatePosition opening
    cases named : s.findOrder event.orderId with
    | none =>
      show OrderChange s event _ opened.orders
      rw [openedOrders]
      exact .kept (.refl _)
    | some orderIndex =>
      show OrderChange s event _
        (update opened.orders orderIndex ((opened.orders orderIndex).filledBy event))
      rw [openedOrders]
      exact .written rfl (by simp [concernedOrder, kind]) named ⟨rfl, rfl⟩
  | rewritten targets rebuilding ordered =>
    obtain ⟨position, -, -, rfl⟩ := rebuildPosition_eq_some rebuilding
    rcases ordered with rfl | ⟨orderIndex, order, named, same, rfl⟩
    · exact .kept (.refl _)
    · exact .written rfl (concernedOrder_of_targets targets) named same
  | reverted targets attempted failed loud =>
    obtain ⟨orders, position, same, reverted, -⟩ := revert_eq attempted
    rw [reverted]
    exact .kept same
  | rolledOver kind => exact .cleared kind rfl
  | acted =>
    refine .kept fun index => ?_
    unfold commitCorporateAction
    dsimp only
    split <;> exact ⟨⟨rfl, rfl⟩, rfl⟩

/-- Every order is found, and no identifier is used twice. -/
structure OrdersSound (orders : Fin kMaximumPortfolioOrders → OrderSlot) : Prop where
  chained : orderLayout.Chained orders
  distinct : orderLayout.Distinct orders

theorem OrdersSound.sameKeys {orders' : Fin kMaximumPortfolioOrders → OrderSlot}
    (sound : OrdersSound orders) (same : orderLayout.SameKeys orders orders') :
    OrdersSound orders' :=
  ⟨same.chained sound.chained, same.distinct sound.distinct⟩

theorem ordersSound_empty : OrdersSound fun _ => {} :=
  ⟨nofun, nofun⟩

theorem OrdersSound.change (sound : OrdersSound s.orders)
    (change : OrderChange s event internal orders) : OrdersSound orders := by
  cases change with
  | kept same => exact sound.sameKeys fun index => ⟨(same index).1.2, fun _ => (same index).1.1⟩
  | added absent free =>
    exact ⟨sound.chained.insert free rfl rfl, sound.distinct.insert free rfl sound.chained absent⟩
  | updated => exact sound.sameKeys (.update rfl rfl)
  | written applied concerned found same => exact sound.sameKeys (.update same.2 same.1)
  | cleared => exact ordersSound_empty

theorem OrdersSound.next (sound : OrdersSound s.orders) (call : Call) :
    OrdersSound (s.next call).orders := by
  rcases next_books s call with ⟨-, books⟩ | ⟨internal, t, taken, handled, books⟩
  · exact books.orders ▸ sound
  · obtain ⟨table, effect⟩ := handle_effect handled
    rw [books.orders]
    exact OrdersSound.change (by exact sound) effect.orderChange

theorem state_of_closed {order : OrderSlot} (closed : order.closed) {state : OrderLifecycleState}
    (valid : validOrderTransition order.state state) : state = order.state := by
  unfold OrderSlot.closed at closed
  simp only [Bool.or_eq_true, beq_iff_eq] at closed
  rcases closed with cancelled | rejected
  · rw [cancelled] at valid ⊢
    simp only [validOrderTransition, Bool.or_false, beq_iff_eq] at valid
    exact valid.symm
  · rw [rejected] at valid ⊢
    simp only [validOrderTransition, Bool.or_false, beq_iff_eq] at valid
    exact valid.symm

structure ClosedAt (index : Fin kMaximumPortfolioOrders) (orderId : OrderId)
    (state : OrderLifecycleState) (s : PortfolioRiskService) : Prop where
  sound : OrdersSound s.orders
  occupied : (s.orders index).occupied = true
  identity : (s.orders index).orderId = orderId
  state : (s.orders index).state = state
  closed : (s.orders index).closed = true

variable {index : Fin kMaximumPortfolioOrders} {orderId : OrderId}
  {state : OrderLifecycleState}

def KeepsClosed (s : PortfolioRiskService) (call : Call) : Prop :=
  s.rollsOver call = false ∧ s.writesClosedOrder call = false

instance (call : Call) : Decidable (s.KeepsClosed call) := inferInstanceAs (Decidable (_ ∧ _))

section

variable (atSlot : ClosedAt index orderId state s)
include atSlot

theorem ClosedAt.next (keeps : s.KeepsClosed call) :
    ClosedAt index orderId state (s.next call) := by
  have sound := atSlot.sound.next call
  -- It is enough that the slot is still occupied by the order in its state.
  suffices kept : SameOrder (s.orders index) ((s.next call).orders index) ∧
      ((s.next call).orders index).state = (s.orders index).state by
    refine ⟨sound, kept.1.2.trans atSlot.occupied, kept.1.1.trans atSlot.identity,
      kept.2.trans atSlot.state, ?_⟩
    have closed := atSlot.closed
    unfold OrderSlot.closed at closed ⊢
    rw [kept.2]
    exact closed
  rcases next_books s call with ⟨-, books⟩ | ⟨internal, t, taken, handled, books⟩
  · rw [books.orders]
    exact ⟨⟨rfl, rfl⟩, rfl⟩
  obtain ⟨table, effect⟩ := handle_effect handled
  have change := effect.orderChange
  dsimp only at change
  rw [books.orders]
  generalize t.orders = orders at change ⊢
  cases change with
  | kept same => exact same index
  | @added freeIndex absent free =>
    have apart : index ≠ freeIndex := by
      rintro rfl
      have vacant : (s.orders index).occupied = false := Layout.free_of_findFree free
      simp [atSlot.occupied] at vacant
    rw [update_of_ne apart]
    exact ⟨⟨rfl, rfl⟩, rfl⟩
  | @updated other found valid =>
    by_cases here : index = other
    · subst here
      rw [update_self]
      exact ⟨⟨rfl, rfl⟩, state_of_closed atSlot.closed valid⟩
    · rw [update_of_ne here]
      exact ⟨⟨rfl, rfl⟩, rfl⟩
  | @written other concernedId order applied concerned found same =>
    have apart : index ≠ other := by
      rintro rfl
      have concerned : s.concernedOrder call.event = some concernedId := concerned
      have found : s.findOrder concernedId = some index := found
      have respected := keeps.2
      simp [writesClosedOrder, taken, handled, applied, concerned, found, atSlot.closed]
        at respected
    rw [update_of_ne apart]
    exact ⟨⟨rfl, rfl⟩, rfl⟩
  | cleared kind applied =>
    have stays := keeps.1
    simp [rollsOver, taken, handled, kind, applied] at stays

theorem ClosedAt.inactive : activeOrderState (s.orders index).state = false := by
  have closed := atSlot.closed
  unfold OrderSlot.closed at closed
  simp only [Bool.or_eq_true, beq_iff_eq] at closed
  rcases closed with cancelled | rejected
  · simp [activeOrderState, cancelled]
  · simp [activeOrderState, rejected]

end

section Fixtures

open TestSupport

def orderIndex : Fin kMaximumPortfolioOrders :=
  idHash kMaximumPortfolioOrders (⟨7, 1⟩ : OrderId)

end Fixtures

end PortfolioRiskService

end Aegis.Portfolio
