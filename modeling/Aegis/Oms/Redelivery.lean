import Aegis.Oms.FillDelivery
import Aegis.Oms.OrderValidity

/-!
A venue response that the drop copy repeats. Two do harm: the rejection of a known order, and
every replace acknowledgement.
-/

namespace Aegis.Oms

open Aegis.Common Aegis.Foundation DeterministicOms Function OmsOrderSnapshot

/-- The responses of the venue. -/
def InputKind.responds (kind : InputKind) : Bool :=
  kind.reports && kind != .recoveryObservation

/-- The same response, from the drop copy. -/
structure Redelivers (first second : OmsInput) : Prop where
  source : second.source = .dropCopy
  kind : second.kind = first.kind
  orderId : second.orderId = first.orderId
  externalOrderId : second.externalOrderId = first.externalOrderId
  executionId : second.executionId = first.executionId
  authority : second.authority = first.authority
  priceTicks : second.priceTicks = first.priceTicks
  quantityUnits : second.quantityUnits = first.quantityUnits

/-- What a response, received in `s`, leaves at its order in `t`. -/
inductive Trace (s t : DeterministicOms) (input : OmsInput) (index : OrderIndex) : Prop where
  | filed
      (absent : s.resolveOrder input = none)
      (unfilled : input.kind ≠ .fill)
      (unknown : (t.orders index).value.state = .unknownRecovery)
      (unpriced : (t.orders index).value.pendingReplacePriceTicks = 0)
  | acknowledged
      (kind : input.kind = .acknowledgement)
      (past : (t.orders index).value.state ≠ .pendingAck)
      (bindable : t.Bindable index input.externalOrderId)
  | rejected
      (known : s.resolveOrder input = some index)
      (kind : input.kind = .rejection)
      (state : (t.orders index).value.state = .rejected)
  | canceled
      (kind : input.kind = .cancelAcknowledgement)
      (state : (t.orders index).value.state = .canceled)
  | refused
      (kind : input.kind = .cancelRejection ∨ input.kind = .replaceRejection)
      (state : (t.orders index).value.state = .working ∨
        (t.orders index).value.state = .partiallyFilled)
  | replaced
      (kind : input.kind = .replaceAcknowledgement)
      (unpriced : (t.orders index).value.pendingReplacePriceTicks = 0)
  | executed (execution : ExecutionIndex)
      (kind : input.kind = .fill)
      (found : t.findExecution input.executionId = some execution)
      (same : sameExecution (t.executions execution) input (t.orders index).value.orderId = true)
      (mask : (t.executions execution).sourceMask = sourceBit .gateway)
      (bindable : t.Bindable index input.externalOrderId)

variable {s s₁ t : DeterministicOms} {input first second : OmsInput} {r : InternalResult}
  {index : OrderIndex}

section First

variable {slot : OrderSlot} {event : OrderEvent}

section

variable (moves : Moves s input index slot event)
include moves

theorem Moves.resolves (orders : t.orders = update s.orders index slot) :
    t.resolveOrder input = some index := by
  refine resolveOrder_update orders moves.revised.occupied moves.revised.orderId ?_ moves.resolved
  exact moves.external_cases.imp_right And.left

theorem Moves.rebindable (binds : event.binds) (orders : t.orders = update s.orders index slot) :
    t.Bindable index input.externalOrderId := by
  have occ := occupied_of_resolveOrder moves.resolved
  refine (moves.bindable binds).update orders (moves.revised.occupied.trans occ) (.inr ?_)
  simpa [binds] using moves.external

theorem Moves.trace (orders : t.orders = update s.orders index slot)
    (responds : input.kind.responds) (answered : event.answered input.kind)
    (uncounted : ∀ quantityUnits, event ≠ .filled quantityUnits) : Trace s t input index := by
  have stored : (t.orders index).value = slot.value := by simp [orders]
  have rebindable : event.binds → t.Bindable index input.externalOrderId :=
    fun binds => moves.rebindable binds orders
  obtain ⟨-, resolved, cause, -, step, -, -⟩ := moves
  have openState := (s.orders index).value.view.openState_eq
  generalize after : slot.value.view = v at step
  have state : (t.orders index).value.state = v.state := by
    rw [stored]
    exact congrArg OrderView.state after
  have pending : (t.orders index).value.pendingReplacePriceTicks = v.pendingPriceTicks := by
    rw [stored]
    exact congrArg OrderView.pendingPriceTicks after
  cases step with
  | kept =>
    have kind : input.kind = .acknowledgement := by simpa [OrderEvent.answered] using answered
    have past : (s.orders index).value.state ≠ .pendingAck := by
      simpa [Cause, kind] using cause
    exact .acknowledged kind (by rw [state]; exact past) (rebindable rfl)
  | acknowledged =>
    exact .acknowledged cause (by rw [state]; simp) (rebindable rfl)
  | rejected => exact .rejected resolved cause state
  | canceled => exact .canceled cause state
  | cancelRefused => exact .refused (.inl cause) (by rw [state]; exact openState)
  | replaceRefused => exact .refused (.inr cause) (by rw [state]; exact openState)
  | replaced => exact .replaced cause pending
  | lost => cases answered
  | filled quantityUnits => exact absurd rfl (uncounted quantityUnits)
  | replaceRequested | observed =>
    rw [cause.1] at responds
    cases responds
  | marked | dispatched | cancelRequested | expired | withdrawn =>
    rw [show input.kind = _ from cause] at responds
    cases responds

end

theorem Moves.executedTrace {execution : ExecutionIndex} (moves : Moves s₁ input index slot event)
    (kind : input.kind = .fill) (binds : event.binds) (gateway : input.source = .gateway)
    (new : s₁.findExecution input.executionId = none) (valid : input.executionId.valid)
    (free : s₁.findFreeExecution input.executionId = some execution)
    (orders : t.orders = update s₁.orders index slot)
    (executions : t.executions = update s₁.executions execution
      (executionRecord input (s₁.orders index).value.orderId)) : Trace s t input index := by
  have stored : (t.orders index).value = slot.value := by simp [orders]
  have recorded : t.executions execution =
      executionRecord input (s₁.orders index).value.orderId := by simp [executions]
  rw [findExecution_of_valid valid] at new
  refine .executed execution kind ?_ ?_ ?_ (moves.rebindable binds orders)
  · rw [findExecution_of_valid valid, executions]
    exact Layout.find_insert_self free rfl rfl new
  · rw [recorded, stored, moves.revised.orderId]
    simp [sameExecution, executionRecord]
  · rw [recorded, ← gateway]
    rfl

theorem Discovery.resolves (discovery : Discovery s input s₁ index)
    (orders : t.orders = s₁.orders) : t.resolveOrder input = some index := by
  have filed : t.orders = (s.modifyOrder index fun _ => s.unknownOrderRecord input).orders :=
    orders.trans discovery.leaves.orders
  rw [resolveOrder_congr filed]
  exact resolveOrder_discovered discovery.absent discovery.named discovery.free

structure Traced (s t : DeterministicOms) (input : OmsInput) (index : OrderIndex) : Prop where
  authority : t.authorityMatches input.authority = true
  resolved : t.resolveOrder input = some index
  trace : Trace s t input index

variable {receipts : ReceiptIndex → ReceiptSlot}

theorem Effect.traced (effect : Effect s input s₁ r)
    (ledger : t.ledger = { s₁.ledger with receipts }) (valid : validInput input)
    (responds : input.kind.responds) (gateway : input.source = .gateway)
    (status : r.status = .applied ∨ r.status = .outOfOrderApplied) :
    ∃ index, Traced s t input index := by
  have accepted : r.status.accepted := by rcases status with h | h <;> rw [h] <;> rfl
  have orders : t.orders = s₁.orders := congrArg Ledger.orders ledger
  have executions : t.executions = s₁.executions := congrArg Ledger.executions ledger
  have authority : s₁.configuration = s.configuration →
      s₁.activeFencingToken = s.activeFencingToken → s.authorityMatches input.authority →
      t.authorityMatches input.authority := by
    intro configuration token matched
    rw [authorityMatches_congr input.authority
      ((congrArg Ledger.configuration ledger).trans configuration)
      ((congrArg Ledger.activeFencingToken ledger).trans token)]
    exact matched
  cases effect with
  | refused leaves declined =>
    rw [declined] at accepted
    cases accepted
  | accepted _ kind | rotated kind =>
    rw [kind] at responds
    cases responds
  | discovered index discovery orderIndex flagged quiet unfilled =>
    have stored : (t.orders index).value = s.unknownOrderRecord input := by
      rw [orders, show s₁.orders = _ from discovery.leaves.orders]
      simp
    refine ⟨index, ?_, discovery.resolves orders, .filed discovery.absent unfilled ?_ ?_⟩
    · exact authority discovery.leaves.configuration
        discovery.leaves.activeFencingToken discovery.authority
    · rw [stored]
      rfl
    · rw [stored]
      rfl
  | moved index slot event moves leaves reported orderIndex command uncounted answered =>
    have after := orders.trans leaves.orders
    refine ⟨index, ?_, moves.resolves after,
      moves.trace after responds (answered.symm.trans accepted) uncounted⟩
    exact authority leaves.configuration leaves.activeFencingToken moves.authority
  | executed index slot event execution moves kind counted new free leaves =>
    have after := orders.trans leaves.orders
    have binds : event.binds := by
      rcases counted with rfl | ⟨rfl, -⟩ <;> rfl
    refine ⟨index, ?_, moves.resolves after,
      moves.executedTrace kind binds gateway new (executionId_of_fill valid kind) free after
        (executions.trans leaves.executions)⟩
    exact authority leaves.configuration leaves.activeFencingToken moves.authority
  | confirmed index slot execution moves kind found same leaves flagged orderIndex quiet reconciled =>
    rw [reconciled] at status
    rcases status with h | h <;> cases h

theorem Handled.traced (handled : Handled s input s₁ r)
    (ledger : t.ledger = { s₁.ledger with receipts }) (valid : validInput input)
    (responds : input.kind.responds) (gateway : input.source = .gateway)
    (status : r.status = .applied ∨ r.status = .outOfOrderApplied) :
    ∃ index, Traced s t input index := by
  cases handled with
  | directly effect => exact effect.traced ledger valid responds gateway status
  | afterDiscovery s₂ filed kind discovery resolved effect =>
    obtain ⟨index, authority, resolves, trace⟩ :=
      effect.traced ledger valid responds gateway status
    refine ⟨index, authority, resolves, ?_⟩
    -- A fill leaves its execution, and that does not depend on the state before.
    cases trace with
    | executed execution kind found same mask bindable =>
      exact .executed execution kind found same mask bindable
    | filed _ unfilled => exact absurd kind unfilled
    | acknowledged other | rejected _ other | canceled other | replaced other =>
      rw [kind] at other
      cases other
    | refused other =>
      rw [kind] at other
      rcases other with h | h <;> cases h

end First

theorem Traced.redelivered (again : Redelivers first second) (traced : Traced s t first index) :
    Traced s t second index := by
  obtain ⟨source, kind, orderId, external, executionId, authority, price, quantity⟩ := again
  have resolves : ∀ s : DeterministicOms, s.resolveOrder second = s.resolveOrder first := by
    intro s
    simp only [resolveOrder, orderId, external]
  refine ⟨by rw [authority]; exact traced.authority, by rw [resolves]; exact traced.resolved, ?_⟩
  cases traced.trace with
  | filed absent unfilled unknown unpriced =>
    exact .filed ((resolves s).trans absent) (by rwa [kind]) unknown unpriced
  | acknowledged isKind past bindable =>
    exact .acknowledged (kind.trans isKind) past (by rwa [external])
  | rejected known isKind state =>
    exact .rejected ((resolves s).trans known) (kind.trans isKind) state
  | canceled isKind state => exact .canceled (kind.trans isKind) state
  | refused isKind state => exact .refused (by rwa [kind]) state
  | replaced isKind unpriced => exact .replaced (kind.trans isKind) unpriced
  | executed execution isKind found same mask bindable =>
    refine .executed execution (kind.trans isKind) (by rwa [executionId]) ?_ mask
      (by rwa [external])
    simpa only [sameExecution, price, quantity, external] using same

def DeterministicOms.harms (s : DeterministicOms) (input : OmsInput) : Bool :=
  input.kind = .replaceAcknowledgement || input.kind = .rejection && (s.resolveOrder input).isSome

/-- The handler changes nothing that matters. -/
structure Unmoved (t u : DeterministicOms) (index : OrderIndex) : Prop where
  view : (u.orders index).value.view = (t.orders index).value.view
  invariant : u.invariant = t.invariant

theorem Unmoved.refl : Unmoved t t index := ⟨rfl, rfl⟩

theorem Unmoved.modify {f : OmsOrderSnapshot → OmsOrderSnapshot}
    (kept : (f (t.orders index).value).view = (t.orders index).value.view) :
    Unmoved t (t.modifyOrder index f) index :=
  ⟨by simpa using kept, rfl⟩

theorem unmoved_of_forbidden (authority : t.authorityMatches input.authority)
    (resolved : t.resolveOrder input = some index)
    (kind : input.kind = .cancelAcknowledgement ∨ input.kind = .cancelRejection ∨
      input.kind = .replaceRejection)
    (forbidden : ∀ next, transitionAllowed (t.orders index).value.state input.kind next = false) :
    Unmoved t (t.applyLocked input).1 index := by
  have refused : ∀ next, t.transition index input next = none := by
    intro next
    rw [transition_eq, forbidden]
    rfl
  have unchanged : (t.applyLocked input).1 = t := by
    rcases kind with kind | kind | kind
    · simp only [applyLocked, kind, applyCancelResponse, authority, resolved, refused,
        Bool.not_true, Bool.false_eq_true, if_false, if_true]
      split <;> rfl
    · simp [applyLocked, kind, applyCancelResponse, authority, resolved, refused]
    · simp [applyLocked, kind, applyReplaceResponse, authority, resolved, closeReplace, refused]
  rw [unchanged]
  exact .refl

theorem unmoved_of_acknowledgement (authority : t.authorityMatches input.authority)
    (resolved : t.resolveOrder input = some index) (kind : input.kind = .acknowledgement)
    (external : input.externalOrderId.valid) (past : (t.orders index).value.state ≠ .pendingAck)
    (bindable : (t.orders index).value.state ≠ .unknownRecovery →
      t.Bindable index input.externalOrderId) : Unmoved t (t.applyLocked input).1 index := by
  have kept : acknowledgedState (t.orders index).value.state = (t.orders index).value.state := by
    simp [acknowledgedState, past]
  have handler : t.applyLocked input = t.applyAcknowledgement input := by
    simp [applyLocked, kind]
  rw [handler]
  unfold applyAcknowledgement
  simp only [authority, resolved, kept, Bool.not_true, Bool.false_eq_true, if_false]
  split
  · exact .refl
  split
  · exact .refl
  rename_i allowed
  simp only [Bool.not_eq_true', Bool.not_eq_false] at allowed
  have known : (t.orders index).value.state ≠ .unknownRecovery := by
    intro unknown
    rw [kind, unknown] at allowed
    cases allowed
  have bound : t.bindExternalId index input.externalOrderId =
      some (t.modifyOrder index (·.bound input.externalOrderId)) := by
    have reported : t.bindReported index input.externalOrderId = _ := bindReported_eq _
    simpa [bindReported, external, bindable known] using reported
  simp only [bound, transition_eq, modifyOrder_self, bound_state, allowed, if_true,
    modifyOrder_modifyOrder]
  exact .modify rfl

section

variable (traced : Traced s t input index)
include traced

theorem Traced.unmoved (valid : validInput input)
    (responds : input.kind.responds) (source : input.source = .dropCopy)
    (harmless : s.harms input = false) : Unmoved t (t.applyLocked input).1 index := by
  obtain ⟨authority, resolved, trace⟩ := traced
  simp only [harms, Bool.or_eq_false_iff, decide_eq_false_iff_not, Bool.and_eq_false_iff] at harmless
  have external : input.kind = .acknowledgement → input.externalOrderId.valid := by
    intro kind
    simp only [validInput, kind, validAckInput, Bool.and_eq_true] at valid
    exact valid.2.1.1.2
  cases trace with
  | filed absent unfilled unknown unpriced =>
    have forbidden : input.kind = .cancelAcknowledgement ∨ input.kind = .cancelRejection ∨
        input.kind = .replaceRejection →
        ∀ next, transitionAllowed (t.orders index).value.state input.kind next = false := by
      rintro (kind | kind | kind) next <;> rw [kind, unknown] <;> cases next <;> rfl
    cases kind : input.kind with
    | acknowledgement =>
      exact unmoved_of_acknowledgement authority resolved kind (external kind) (by simp [unknown])
        fun known => absurd unknown known
    | rejection =>
      have refused : t.transition index input .rejected = none := by
        rw [transition_eq, kind, unknown]
        rfl
      simp only [applyLocked, kind, applyRejection, authority, resolved, refused, Bool.not_true,
        Bool.false_eq_true, if_false]
      refine .modify ?_
      rw [view_lost, ← unknown]
      rfl
    | cancelAcknowledgement =>
      exact unmoved_of_forbidden authority resolved (.inl kind) (forbidden (.inl kind))
    | cancelRejection =>
      exact unmoved_of_forbidden authority resolved (.inr (.inl kind))
        (forbidden (.inr (.inl kind)))
    | replaceRejection =>
      exact unmoved_of_forbidden authority resolved (.inr (.inr kind))
        (forbidden (.inr (.inr kind)))
    | replaceAcknowledgement => exact absurd kind harmless.1
    | fill => exact absurd kind unfilled
    | _ =>
      rw [kind] at responds
      cases responds
  | acknowledged kind past bindable =>
    exact unmoved_of_acknowledgement authority resolved kind (external kind) past fun _ => bindable
  | rejected known kind state =>
    rw [known] at harmless
    simp [kind] at harmless
  | canceled kind state =>
    have unchanged : (t.applyLocked input).1 = t := by
      simp [applyLocked, kind, applyCancelResponse, authority, resolved, state]
    rw [unchanged]
    exact .refl
  | refused kind state =>
    refine unmoved_of_forbidden authority resolved (.inr kind) fun next => ?_
    rcases kind with kind | kind <;> rcases state with state | state <;>
      rw [kind, state] <;> cases next <;> rfl
  | replaced kind unpriced => exact absurd kind harmless.1
  | executed execution kind found same mask bindable =>
    have unseen : (t.executions execution).sourceMask &&& sourceBit input.source = 0 := by
      rw [mask, source]
      rfl
    have handled : t.applyLocked input = t.applyExistingFill input index execution := by
      simp [applyLocked, kind, applyFill, authority, resolved, applyFillAt, found]
    rw [handled, applyExistingFill_confirmed same bindable unseen]
    exact ⟨by simp [setExecution]; rfl, rfl⟩

theorem Traced.harmed (harmful : s.harms input) :
    (t.applyLocked input).1.invariant ≠ .none ∨
      ((t.applyLocked input).1.orders index).value.state ≠ (t.orders index).value.state := by
  obtain ⟨authority, resolved, trace⟩ := traced
  simp only [harms, Bool.or_eq_true, decide_eq_true_eq, Bool.and_eq_true] at harmful
  rcases harmful with kind | ⟨kind, known⟩
  · have unpriced : (t.orders index).value.pendingReplacePriceTicks = 0 := by
      cases trace with
      | filed _ _ _ unpriced | replaced _ unpriced => exact unpriced
      | _ => simp_all
    left
    simp [applyLocked, kind, applyReplaceResponse, authority, resolved, unpriced, setUnsafe]
  · have state : (t.orders index).value.state = .rejected := by
      cases trace with
      | filed absent =>
        rw [absent] at known
        cases known
      | rejected _ _ state => exact state
      | _ => simp_all
    have refused : t.transition index input .rejected = none := by
      rw [transition_eq, kind, state]
      rfl
    right
    simp [applyLocked, kind, applyRejection, authority, resolved, refused, state, lost, touched]

theorem Traced.calm (harmless : s.harms input = false) :
    ¬ t.Reopens input := by
  obtain ⟨authority, resolved, trace⟩ := traced
  rintro ⟨-, other, reopens⟩
  have eq : other = index := Option.some.inj (reopens.resolved.symm.trans resolved)
  subst eq
  have terminal := reopens.terminal
  cases trace with
  | filed absent unfilled unknown =>
    rw [unknown] at terminal
    cases terminal
  | rejected known kind state => simp [harms, kind, known] at harmless
  | executed execution kind found same =>
    rcases reopens.contradiction with rejection | ⟨-, ⟨execution', found', different⟩ | ⟨new, -⟩⟩
    · rw [kind] at rejection
      cases rejection
    · cases Option.some.inj (found.symm.trans found')
      rw [same] at different
      cases different
    · rw [found] at new
      cases new
  | refused kind =>
    have contradiction := reopens.contradiction
    rcases kind with kind | kind <;> simp [kind] at contradiction
  | acknowledged kind | canceled kind | replaced kind =>
    simpa [kind] using reopens.contradiction

end

/-- The repetition leaves the order, and raises no alarm. -/
structure Harmless (t u : DeterministicOms) (index : OrderIndex) : Prop where
  state : (u.orders index).value.state = (t.orders index).value.state
  cumulative : (u.orders index).value.cumulativeFillQuantityUnits =
    (t.orders index).value.cumulativeFillQuantityUnits
  remaining : (u.orders index).value.remainingQuantityUnits =
    (t.orders index).value.remainingQuantityUnits
  priceTicks : (u.orders index).value.priceTicks = (t.orders index).value.priceTicks
  quantityUnits : (u.orders index).value.quantityUnits = (t.orders index).value.quantityUnits
  clear : u.invariant = .none

theorem apply_traced (clear : s.invariant = .none) (responds : first.kind.responds)
    (gateway : first.source = .gateway) (status : (s.apply first true).2.status = .applied ∨
      (s.apply first true).2.status = .outOfOrderApplied) :
    (s.apply first true).1.invariant = .none ∧
      ∃ index, Traced s (s.apply first true).1 first index := by
  have accepted : (s.apply first true).2.status.accepted := by
    rcases status with h | h <;> rw [h] <;> rfl
  obtain ⟨reaches, receipt, free⟩ := reaches_of_accepted accepted
  have handled := applyLocked_handled (s := s) reaches.valid
  obtain ⟨concluded, -⟩ := reaches.spec free true
  have same := concluded.status_of_accepted accepted
  have calm := handled.calm (same ▸ accepted)
  refine ⟨?_, handled.traced (reaches.ledger free true) reaches.valid responds gateway (same ▸ status)⟩
  cases concluded with
  | quiet _ _ _ invariant | refreshed _ _ _ _ invariant => exact invariant.trans (calm.trans clear)
  | failed _ _ _ _ _ invalid =>
    rw [invalid] at accepted
    cases accepted

/-- A response can be repeated without harm exactly when it is neither a replace acknowledgement nor
the rejection of a known order. -/
theorem redelivery_harmless_iff {configuration : OmsConfiguration}
    (reachable : Reachable configuration s) (clear : s.invariant = .none)
    (responds : first.kind.responds = true) (gateway : first.source = .gateway)
    (status : (s.apply first true).2.status = .applied ∨
      (s.apply first true).2.status = .outOfOrderApplied)
    (again : Redelivers first second) (reaches : (s.apply first true).1.Reaches second) :
    ∃ index, (s.apply first true).1.resolveOrder first = some index ∧
      (Harmless (s.apply first true).1 ((s.apply first true).1.apply second true).1 index ↔
        s.harms first = false) := by
  obtain ⟨clear', index, traced⟩ := apply_traced clear responds gateway status
  have inv := (reachable.apply first true).invariant
  generalize s.apply first true = delivered at *
  obtain ⟨t, answer⟩ := delivered
  have repeated := traced.redelivered again
  have sameHarm : s.harms second = s.harms first := by
    simp only [harms, resolveOrder, again.kind, again.orderId, again.externalOrderId]
  obtain ⟨receipt, free⟩ := inv.receiptRoom reaches.room second.receiptId
  have orders := reaches.orders free true
  have concluded := (reaches.spec free true).1
  refine ⟨index, traced.resolved, fun harmless => ?_, fun harmless => ?_⟩
  · by_contra harmful
    rw [Bool.not_eq_false, ← sameHarm] at harmful
    rcases repeated.harmed harmful with alarm | moved
    · exact alarm (concluded.clear harmless.clear)
    · rw [← orders] at moved
      exact moved harmless.state
  · rw [← sameHarm] at harmless
    have unmoved := repeated.unmoved reaches.valid (by rw [again.kind]; exact responds)
      again.source harmless
    have view := unmoved.view
    rw [← orders] at view
    refine ⟨congrArg OrderView.state view, congrArg OrderView.cumulative view,
      congrArg OrderView.remaining view, congrArg OrderView.priceTicks view,
      congrArg OrderView.quantityUnits view, ?_⟩
    cases concluded with
    | quiet _ _ _ invariant | refreshed _ _ _ _ invariant =>
      exact invariant.trans (unmoved.invariant.trans clear')
    | failed _ invalid =>
      have received : Received t second (t.remembering second receipt) (t.applyLocked second).2 :=
        .handled _ receipt reaches.valid reaches.fresh free (applyLocked_handled reaches.valid) rfl
      rw [validSnapshot_of_calm inv clear' received reaches.running reaches.room
        (InputFacts.of_valid reaches.valid).time (repeated.calm harmless)] at invalid
      cases invalid

open TestSupport

/-- The drop copy repeats an acknowledgement. -/
theorem redelivered_acknowledgement_harmless :
    ∃ index, (sentOrder.apply (venue .acknowledgement (orderId 1) 4 1) true).1.resolveOrder
        (venue .acknowledgement (orderId 1) 4 1) = some index ∧
      Harmless (sentOrder.apply (venue .acknowledgement (orderId 1) 4 1) true).1
        ((sentOrder.apply (venue .acknowledgement (orderId 1) 4 1) true).1.apply
          (venue .acknowledgement (orderId 1) 5 2 kExternal .dropCopy) true).1 index := by
  obtain ⟨clear, status, reaches, harmless⟩ : sentOrder.invariant = .none ∧
      (sentOrder.apply (venue .acknowledgement (orderId 1) 4 1) true).2.status = .applied ∧
      (sentOrder.apply (venue .acknowledgement (orderId 1) 4 1) true).1.Reaches
        (venue .acknowledgement (orderId 1) 5 2 kExternal .dropCopy) ∧
      sentOrder.harms (venue .acknowledgement (orderId 1) 4 1) = false := by
    decide +kernel
  obtain ⟨index, resolved, exactCase⟩ := redelivery_harmless_iff reachable_sentOrder clear rfl
    rfl (.inl status) (by constructor <;> rfl) reaches
  exact ⟨index, resolved, exactCase.mpr harmless⟩

def rejectedOrder : DeterministicOms × ApplyResult :=
  sentOrder.apply (venue .rejection (orderId 1) 4 1) true

/-- The drop copy repeats a rejection. -/
theorem redelivered_rejection_harmful :
    Reachable configuration sentOrder ∧ sentOrder.invariant = .none ∧
      rejectedOrder.2.status = .applied ∧
      Redelivers (venue .rejection (orderId 1) 4 1)
        (venue .rejection (orderId 1) 5 2 kExternal .dropCopy) ∧
      rejectedOrder.1.Reaches (venue .rejection (orderId 1) 5 2 kExternal .dropCopy) ∧
      ∃ index, rejectedOrder.1.resolveOrder (venue .rejection (orderId 1) 4 1) = some index ∧
        ¬ Harmless rejectedOrder.1
          (rejectedOrder.1.apply (venue .rejection (orderId 1) 5 2 kExternal .dropCopy) true).1
          index := by
  obtain ⟨index, clear, status, reaches, resolved, moved⟩ :
      ∃ index, sentOrder.invariant = .none ∧ rejectedOrder.2.status = .applied ∧
      rejectedOrder.1.Reaches (venue .rejection (orderId 1) 5 2 kExternal .dropCopy) ∧
      rejectedOrder.1.resolveOrder (venue .rejection (orderId 1) 4 1) = some index ∧
      ((rejectedOrder.1.apply (venue .rejection (orderId 1) 5 2 kExternal .dropCopy) true).1.orders
        index).value.state ≠ (rejectedOrder.1.orders index).value.state :=
    ⟨64, by decide +kernel⟩
  exact ⟨Reachable.construct.run _, clear, status, ⟨rfl, rfl, rfl, rfl, rfl, rfl, rfl, rfl⟩, reaches,
    index, resolved, fun harmless => moved harmless.state⟩

end Aegis.Oms
