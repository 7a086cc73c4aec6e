import Aegis.Execution.BookEffects

/-!
The order table of a gateway: its keys are distinct, and a call other than a recovery keeps every
order in place.
-/

namespace Aegis.Execution

open Aegis.Common Aegis.Foundation Aegis.MarketData SimulatedGateway Function List

/-- The order ids of the table are distinct and can be found. -/
structure Keyed (orders : OrderTable) : Prop where
  chained : orderLayout.Chained orders
  distinct : orderLayout.Distinct orders

theorem keyed_empty : Keyed fun _ => {} := by
  refine ⟨?_, ?_⟩
  · intro index occupied
    cases occupied
  · intro i j occupied
    cases occupied

variable {orders : OrderTable} {Q : PaperOrderSnapshot → Prop} {snapshot : GatewayRecoverySnapshot}
  {index : Fin kMaximumGatewayOrders}

theorem Keyed.of_sameKeys {orders' : OrderTable} (same : orderLayout.SameKeys orders orders')
    (keyed : Keyed orders) : Keyed orders' :=
  ⟨same.chained keyed.chained, same.distinct keyed.distinct⟩

theorem Keyed.insert (keyed : Keyed orders) {order : PaperOrderSnapshot} (occupied : order.occupied)
    (absent : orderLayout.find orders order.orderId = none)
    (free : orderLayout.findFree orders order.orderId = some index) :
    Keyed (update orders index order) :=
  ⟨keyed.chained.insert free occupied rfl, keyed.distinct.insert free rfl keyed.chained absent⟩

section Settled

variable {model : PaperModelConfiguration} {now : UInt64} {orders : OrderTable}

/-- The same order, filled as far as before. -/
abbrev SameFill (order order' : PaperOrderSnapshot) : Prop :=
  order'.occupied = order.occupied ∧ order'.orderId = order.orderId ∧
    order'.cumulativeFillQuantityUnits = order.cumulativeFillQuantityUnits

theorem settleOrder_spec (model : PaperModelConfiguration) (now : UInt64)
    (order : PaperOrderSnapshot) : SameFill order (settleOrder model now order) := by
  unfold settleOrder
  split
  · exact ⟨rfl, rfl, rfl⟩
  split
  · exact ⟨rfl, rfl, rfl⟩
  split
  · exact ⟨rfl, rfl, rfl⟩
  split
  · exact ⟨rfl, rfl, rfl⟩
  · exact ⟨rfl, rfl, rfl⟩

theorem sameKeys_settled (model : PaperModelConfiguration) (now : UInt64) (orders : OrderTable) :
    orderLayout.SameKeys orders (settled model now orders) := by
  intro index
  obtain ⟨occupied, orderId, -⟩ := settleOrder_spec model now (orders index)
  exact ⟨occupied, fun _ => orderId⟩

theorem sameKeys_settled_update {order : PaperOrderSnapshot}
    (occupied : order.occupied = (settled model now orders index).occupied)
    (orderId : order.orderId = (settled model now orders index).orderId) :
    orderLayout.SameKeys orders (update (settled model now orders) index order) := by
  have first := sameKeys_settled model now orders
  have second := Layout.SameKeys.update (L := orderLayout) occupied orderId
  intro other
  refine ⟨(second other).1.trans (first other).1, fun held => ?_⟩
  exact ((second other).2 ((first other).1.trans held)).trans ((first other).2 held)

end Settled

theorem suspend_spec (order : PaperOrderSnapshot) :
    (suspend order).occupied = order.occupied ∧ (suspend order).orderId = order.orderId ∧
      (suspend order).cumulativeFillQuantityUnits = order.cumulativeFillQuantityUnits := by
  unfold suspend
  split
  · exact ⟨rfl, rfl, rfl⟩
  · exact ⟨rfl, rfl, rfl⟩

theorem sameKeys_suspend (orders : OrderTable) :
    orderLayout.SameKeys orders fun index => suspend (orders index) := by
  intro index
  obtain ⟨occupied, orderId, -⟩ := suspend_spec (orders index)
  exact ⟨occupied, fun _ => orderId⟩

def Apart (orders : List PaperOrderSnapshot) : Prop :=
  orders.Pairwise fun first later =>
    first.occupied = true → later.occupied = true → first.orderId ≠ later.orderId

theorem insertOrders_spec (orders : List PaperOrderSnapshot) {table : OrderTable}
    (keyed : Keyed table) (held : ∀ index, (table index).occupied → Q (table index))
    (given : ∀ order ∈ orders, order.occupied → Q order)
    (fresh : ∀ order ∈ orders, order.occupied → orderLayout.find table order.orderId = none)
    (apart : Apart orders) : Keyed (insertOrders orders table).1 ∧
      ∀ index, ((insertOrders orders table).1 index).occupied →
        Q ((insertOrders orders table).1 index) := by
  induction orders generalizing table with
  | nil => exact ⟨keyed, held⟩
  | cons order rest ih =>
    obtain ⟨ahead, apart⟩ := pairwise_cons.mp apart
    have givenRest := fun other mem => given other (mem_cons_of_mem _ mem)
    unfold insertOrders
    split
    · exact ih keyed held givenRest (fun other mem => fresh other (mem_cons_of_mem _ mem)) apart
    next occupied =>
    have occupied : order.occupied := by simpa using occupied
    split
    · exact ⟨keyed, held⟩
    next index free =>
    have absent := fresh order mem_cons_self occupied
    refine ih (keyed.insert occupied absent free) ?_ givenRest ?_ apart
    · intro other
      by_cases same : other = index
      · subst same
        rw [update_self]
        exact given order mem_cons_self
      · rw [update_of_ne same]
        exact held other
    · intro other mem present
      rw [keyed.chained.find_insert_of_ne free occupied rfl (ahead other mem occupied present).symm]
      exact fresh other (mem_cons_of_mem _ mem) present

theorem insertOrders_all (orders : List PaperOrderSnapshot) {table : OrderTable}
    (room : orderLayout.used table + orders.length ≤ kMaximumGatewayOrders) :
    (insertOrders orders table).2 ∧
      (∀ index, (table index).occupied → (insertOrders orders table).1 index = table index) ∧
      ∀ order ∈ orders, order.occupied → ∃ index, (insertOrders orders table).1 index = order := by
  induction orders generalizing table with
  | nil => exact ⟨rfl, fun _ _ => rfl, nofun⟩
  | cons order rest ih =>
    rw [length_cons] at room
    unfold insertOrders
    split
    · next vacant =>
      obtain ⟨all, kept, stored⟩ := @ih table (by omega)
      refine ⟨all, kept, fun other mem occupied => ?_⟩
      rcases mem_cons.mp mem with rfl | mem
      · simp [occupied] at vacant
      · exact stored other mem occupied
    next occupied =>
    have occupied : order.occupied := by simpa using occupied
    have below : orderLayout.used table < kMaximumGatewayOrders := by omega
    obtain ⟨index, free⟩ :=
      Layout.findFree_isSome (Layout.exists_free_of_used_lt below) order.orderId
    have vacant := Layout.free_of_findFree free
    obtain ⟨all, kept, stored⟩ := @ih (update table index order)
      (by rw [Layout.used_insert vacant occupied]; omega)
    rw [free]
    refine ⟨all, fun other held => ?_, fun other mem held => ?_⟩
    · have apart : other ≠ index := by
        rintro rfl
        exact absurd (held.symm.trans vacant) (by simp)
      rw [kept other (by rwa [update_of_ne apart]), update_of_ne apart]
    · rcases mem_cons.mp mem with rfl | mem
      · exact ⟨index, (kept index (by rwa [update_self])).trans (update_self ..)⟩
      · exact stored other mem held

section

variable (valid : validRecoverySnapshot snapshot)
include valid

theorem apart_of_valid : Apart ((finRange kMaximumGatewayOrders).map snapshot.orders) := by
  unfold validRecoverySnapshot at valid
  simp only [Bool.and_eq_true] at valid
  have slots := all_eq_true.mp valid.1.2
  refine pairwise_map.mpr ((pairwise_lt_finRange _).imp ?_)
  intro first later before firstOccupied laterOccupied same
  have slot := slots later (mem_finRange later)
  rw [laterOccupied, Bool.not_true, Bool.false_or, Bool.and_eq_true, Bool.not_eq_true'] at slot
  have duplicate := any_eq_false.mp slot.2 first (mem_finRange first)
  simp [before, firstOccupied, same] at duplicate

theorem valid_order_of_valid (index : Fin kMaximumGatewayOrders)
    (occupied : (snapshot.orders index).occupied) :
    validPaperOrderSnapshot (snapshot.orders index) := by
  unfold validRecoverySnapshot at valid
  simp only [Bool.and_eq_true] at valid
  have slot := all_eq_true.mp valid.1.2 index (mem_finRange index)
  rw [occupied, Bool.not_true, Bool.false_or, Bool.and_eq_true] at slot
  exact slot.1

theorem rebuildRecoveryOrders_spec
    (given : ∀ index, (snapshot.orders index).occupied → Q (snapshot.orders index)) :
    Keyed (rebuildRecoveryOrders snapshot).1 ∧
      ∀ index, ((rebuildRecoveryOrders snapshot).1 index).occupied →
        Q ((rebuildRecoveryOrders snapshot).1 index) := by
  have apart := apart_of_valid valid
  unfold rebuildRecoveryOrders
  refine insertOrders_spec (Q := Q) _ keyed_empty ?_ ?_ ?_ apart
  · intro index occupied
    cases occupied
  · intro order mem
    obtain ⟨index, -, rfl⟩ := mem_map.mp mem
    exact given index
  · intro order _ _
    refine keyed_empty.chained.find_eq_none_iff.mpr ?_
    intro index occupied
    cases occupied

theorem rebuildRecoveryOrders_all :
    (rebuildRecoveryOrders snapshot).2 ∧
      (∀ index, ((rebuildRecoveryOrders snapshot).1 index).occupied →
        ∃ slot, snapshot.orders slot = (rebuildRecoveryOrders snapshot).1 index) ∧
      ∀ slot, (snapshot.orders slot).occupied → ∃ index,
        orderLayout.find (rebuildRecoveryOrders snapshot).1 (snapshot.orders slot).orderId =
          some index ∧ (rebuildRecoveryOrders snapshot).1 index = snapshot.orders slot := by
  obtain ⟨keyed, given⟩ := rebuildRecoveryOrders_spec
    (Q := fun order => ∃ slot, snapshot.orders slot = order) valid fun slot _ => ⟨slot, rfl⟩
  have inserted := @insertOrders_all ((finRange kMaximumGatewayOrders).map snapshot.orders)
    (fun _ => {}) (by simp [Layout.used, orderLayout])
  rw [← rebuildRecoveryOrders] at inserted
  generalize rebuildRecoveryOrders snapshot = table at *
  obtain ⟨all, -, stored⟩ := inserted
  refine ⟨all, given, fun slot occupied => ?_⟩
  obtain ⟨index, here⟩ := stored _ (mem_map_of_mem (mem_finRange slot)) occupied
  refine ⟨index, ?_, here⟩
  rw [← here] at occupied ⊢
  exact keyed.chained.find_eq_some keyed.distinct occupied

end

section Calls

variable {model : PaperModelConfiguration} {book book' : Book} {call : Call}
  {output : Option GatewayEvent}

section

variable (effect : Effect model book call book' output)
include effect

theorem Effect.table : orderLayout.SameKeys book.orders book'.orders ∨
      (∃ (request : GatewayRequest) (index : Fin kMaximumGatewayOrders)
        (order : PaperOrderSnapshot), call = .sendOrder request ∧
        orderLayout.find book.orders order.orderId = none ∧
        orderLayout.findFree book.orders order.orderId = some index ∧ Filed request order ∧
        book'.orders = update book.orders index order) ∨
      ∃ snapshot now, call = .recover snapshot now ∧ validRecoverySnapshot snapshot ∧
        (rebuildRecoveryOrders snapshot).1 = book'.orders := by
  cases effect with
  | kept | plain | injected => exact .inl (Layout.SameKeys.refl _)
  | @filed request index order entry admitted absent free made =>
    rw [← made.orderId] at absent free
    exact .inr (.inl ⟨request, index, order, rfl, absent, free, made, rfl⟩)
  | canceling | replacing => exact .inl (Layout.SameKeys.update rfl rfl)
  | settling | withdrawing => exact .inl (sameKeys_settled _ _ _)
  | passing | filling => exact .inl (sameKeys_settled_update rfl rfl)
  | suspending => exact .inl (sameKeys_suspend _)
  | @rebuilding snapshot now table valid _ built =>
    exact .inr (.inr ⟨snapshot, now, rfl, valid, built⟩)

theorem Effect.keyed (keyed : Keyed book.orders) : Keyed book'.orders := by
  rcases effect.table with same | ⟨request, index, order, -, absent, free, made, eq⟩ |
    ⟨snapshot, now, -, valid, eq⟩
  · exact keyed.of_sameKeys same
  · rw [eq]
    exact keyed.insert made.occupied absent free
  · rw [← eq]
    exact (rebuildRecoveryOrders_spec (Q := fun _ => True) valid fun _ _ => trivial).1

theorem Effect.find {orderId : OrderId} (found : orderLayout.find book.orders orderId = some index)
    (kept : ∀ snapshot now, call ≠ .recover snapshot now) :
    orderLayout.find book'.orders orderId = some index := by
  rcases effect.table with same | ⟨request, free, order, -, -, vacant, -, eq⟩ |
    ⟨snapshot, now, eq, -⟩
  · rw [same.find]
    exact found
  · rw [eq]
    exact Layout.find_insert_of_found vacant found
  · exact absurd eq (kept snapshot now)

end

end Calls

theorem construct_orders (configuration : GatewayConfiguration) (mode : GatewayMode) :
    (construct configuration mode).orders = (fun _ => {}) ∧
      (construct configuration mode).events = [] ∧
      (construct configuration mode).configuration = configuration := by
  unfold construct
  dsimp only
  split
  · exact ⟨rfl, rfl, rfl⟩
  · exact ⟨rfl, rfl, rfl⟩

end Aegis.Execution
