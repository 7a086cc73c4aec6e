import Aegis.Portfolio.Service

/-!
What an event can do to the portfolio service before its snapshot is rebuilt.
-/

namespace Aegis.Portfolio

open Aegis.Common Aegis.Foundation PositionSlot

namespace PortfolioRiskService

/-- What a correction or a bust makes of the fill it finds. -/
inductive Rewrites (event : PortfolioEvent) (fill : FillEntry) : FillEntry → Prop
  | correction (kind : event.kind = .fillCorrection) : Rewrites event fill (fill.correctedBy event)
  | bust (kind : event.kind = .fillBust) (active : fill.active = true) :
      Rewrites event fill fill.busted

/-- A fill to be rewritten, and its position. -/
structure Targets (s : PortfolioRiskService) (event : PortfolioEvent)
    (index : Fin kMaximumPortfolioFills) (changed : FillEntry)
    (positionIndex : Fin kMaximumPortfolioPositions) : Prop where
  found : s.findFill event.targetFillId = some index
  current : s.isCurrent (s.fills index) = true
  position : s.findPosition (s.fills index).accountId (s.fills index).strategyId
    (s.fills index).instrumentId = some positionIndex
  rewrites : Rewrites event (s.fills index) changed

def SameOrder (order order' : OrderSlot) : Prop :=
  order'.orderId = order.orderId ∧ order'.occupied = order.occupied

/-- The outcome of a handler: its result and the state it leaves. -/
inductive Effect (s : PortfolioRiskService) (event : PortfolioEvent) :
    InternalApplyResult → PortfolioRiskService → Prop
  | refused {internal : InternalApplyResult} (idle : internal.stateChanged = false)
      (failed : internal.status ≠ .applied) : Effect s event internal s
  | alarmed {status : ApplyStatus} {code : InvariantCode} (failed : status ≠ .applied)
      (loud : alarming code = true) : Effect s event ⟨status, code, true⟩ (s.setUnsafe code)
  | orphaned : Effect s event s.reportOrphan.1 s.reportOrphan.2
  | orderAdded {index : Fin kMaximumPortfolioOrders} (kind : event.kind = .order)
      (absent : s.findOrder event.orderId = none)
      (free : orderLayout.findFree s.orders event.orderId = some index) :
      Effect s event .applied (s.putOrder index event.newOrder)
  | orderUpdated {index : Fin kMaximumPortfolioOrders} (kind : event.kind = .order)
      (found : s.findOrder event.orderId = some index)
      (valid : validOrderTransition (s.orders index).state event.orderState = true) :
      Effect s event .applied (s.putOrder index ((s.orders index).updatedBy event))
  | confirmed {index : Fin kMaximumPortfolioFills} {mask : UInt8}
      (found : s.findFill event.logicalFillId = some index) :
      Effect s event ⟨.reconciled, .none, true⟩
        (s.putFill index { s.fills index with sourceMask := mask })
  | overflowed {index : Fin kMaximumPortfolioPositions} {opened : PortfolioRiskService}
      (scope : s.knowsScope event = true)
      (opening : s.findOrCreatePosition event.accountId event.strategyId event.instrumentId =
        some (index, opened)) :
      Effect s event ⟨.arithmeticOverflow, .arithmeticOverflow, true⟩
        (opened.takeOrdinal.setUnsafe .arithmeticOverflow)
  | filled {fillIndex : Fin kMaximumPortfolioFills} {index : Fin kMaximumPortfolioPositions}
      {opened : PortfolioRiskService} {position : PositionSlot} (kind : event.kind = .fill)
      (scope : s.knowsScope event = true)
      (free : fillLayout.findFree s.fills event.logicalFillId = some fillIndex)
      (opening : s.findOrCreatePosition event.accountId event.strategyId event.instrumentId =
        some (index, opened))
      (accounted : applyFillAccounting opened.configuration (opened.positions index)
        (opened.takeOrdinal.newFill event).toFillSlot = some position) :
      Effect s event .applied (((opened.takeOrdinal.putPosition index position).putFill fillIndex
          (opened.takeOrdinal.newFill event)).fillOrder event (s.findOrder event.orderId))
  | rewritten {index : Fin kMaximumPortfolioFills} {changed : FillEntry}
      {positionIndex : Fin kMaximumPortfolioPositions} {rebuilt t : PortfolioRiskService}
      (targets : Targets s event index changed positionIndex)
      (rebuilding : (s.putFill index changed).rebuildPosition positionIndex = some rebuilt)
      (ordered : t = rebuilt ∨ ∃ orderIndex order,
        rebuilt.findOrder changed.orderId = some orderIndex ∧
        SameOrder (rebuilt.orders orderIndex) order ∧ t = rebuilt.putOrder orderIndex order) :
      Effect s event .applied t
  | reverted {index : Fin kMaximumPortfolioFills} {changed : FillEntry}
      {positionIndex : Fin kMaximumPortfolioPositions} {attempt : PortfolioRiskService}
      {status : ApplyStatus} {code : InvariantCode}
      (targets : Targets s event index changed positionIndex)
      (attempted : attempt = s.putFill index changed ∨
        ∃ rebuilt, (s.putFill index changed).rebuildPosition positionIndex = some rebuilt ∧
          (attempt = rebuilt ∨ ∃ orderIndex remaining, attempt = rebuilt.putOrder orderIndex
            { rebuilt.orders orderIndex with remainingQuantityUnits := remaining }))
      (failed : status ≠ .applied) (loud : alarming code = true) :
      Effect s event ⟨status, code, true⟩
        ((attempt.revert index (s.fills index) positionIndex).setUnsafe code)
  | marked {marks : Nat → Int64} {markTimes : Nat → UInt64} (kind : event.kind = .mark) :
      Effect s event .applied { s with marks, markTimes }
  | rolledOver (kind : event.kind = .sessionRollover) :
      Effect s event .applied (s.rollOver event)
  | acted {instrument : Nat} (found : s.findInstrument event.instrumentId = some instrument)
      (kind : event.kind = .corporateAction) :
      Effect s event .applied (s.commitCorporateAction event instrument)

variable {s : PortfolioRiskService} {event : PortfolioEvent}
  {outcome : InternalApplyResult × PortfolioRiskService}

theorem effect_refuse {status : ApplyStatus} {code : InvariantCode} (failed : status ≠ .applied) :
    Effect s event (s.refuse status code).1 (s.refuse status code).2 :=
  .refused rfl failed

theorem applyOrder_effect (kind : event.kind = .order) :
    Effect s event (s.applyOrder event).1 (s.applyOrder event).2 := by
  unfold applyOrder
  split
  · exact effect_refuse (by decide)
  split
  · next index found =>
    dsimp only
    split
    · exact .alarmed (by decide) rfl
    next accepted =>
      simp only [Bool.or_eq_true, not_or, Bool.not_eq_true', Bool.not_eq_false] at accepted
      exact .orderUpdated kind found accepted.1.1.2
  · next absent =>
    split
    · exact effect_refuse (by decide)
    · next index free => exact .orderAdded kind absent free

theorem applyFill_effect (kind : event.kind = .fill) :
    Effect s event (s.applyFill event).1 (s.applyFill event).2 := by
  unfold applyFill
  split
  · exact effect_refuse (by decide)
  next scope =>
  simp only [Bool.not_eq_true', Bool.not_eq_false] at scope
  split
  · next index found =>
    unfold applyRepeatedFill
    dsimp only
    split
    · exact .alarmed (by decide) rfl
    split
    · exact effect_refuse (by decide)
    · exact .confirmed found
  next absent =>
    dsimp only
    split
    · exact .orphaned
    split
    · exact .alarmed (by decide) rfl
    unfold applyNewFill
    split
    · exact .alarmed (by decide) rfl
    next fillIndex free =>
    split
    · exact .alarmed (by decide) rfl
    next index opened opening =>
    dsimp only
    split
    · exact .overflowed scope opening
    · next position accounted => exact .filled kind scope free opening accounted

theorem applyFillCorrection_effect (kind : event.kind = .fillCorrection) :
    Effect s event (s.applyFillCorrection event).1 (s.applyFillCorrection event).2 := by
  unfold applyFillCorrection
  split
  · exact effect_refuse (by decide)
  next index found =>
  dsimp only
  split
  · exact effect_refuse (by decide)
  split
  · exact effect_refuse (by decide)
  next matching =>
  simp only [Bool.or_eq_true, not_or, Bool.not_eq_true', Bool.not_eq_false] at matching
  split
  · exact .alarmed (by decide) rfl
  next positionIndex position =>
  have targets : Targets s event index ((s.fills index).correctedBy event) positionIndex :=
    ⟨found, matching.1.1.1.1, position, .correction kind⟩
  split
  · exact .reverted targets (.inl rfl) (by decide) rfl
  next rebuilt rebuilding =>
  unfold correctOrder
  split
  · exact .rewritten targets rebuilding (.inl rfl)
  next orderIndex named =>
  split
  · exact .reverted targets (.inr ⟨rebuilt, rebuilding, .inl rfl⟩) (by decide) rfl
  next cumulative summed =>
  split
  · exact .reverted targets (.inr ⟨rebuilt, rebuilding, .inl rfl⟩) (by decide) rfl
  · exact .rewritten targets rebuilding (.inr ⟨orderIndex,
      (rebuilt.orders orderIndex).withCumulative cumulative, named, ⟨rfl, rfl⟩, rfl⟩)

theorem applyFillBust_effect (kind : event.kind = .fillBust) :
    Effect s event (s.applyFillBust event).1 (s.applyFillBust event).2 := by
  unfold applyFillBust
  split
  · exact effect_refuse (by decide)
  next index found =>
  dsimp only
  split
  · exact effect_refuse (by decide)
  next active =>
  simp only [Bool.not_eq_true', Bool.not_eq_false] at active
  split
  · exact effect_refuse (by decide)
  next current =>
  simp only [Bool.not_eq_true', Bool.not_eq_false] at current
  split
  · exact .alarmed (by decide) rfl
  next positionIndex position =>
  have targets : Targets s event index (s.fills index).busted positionIndex :=
    ⟨found, current, position, .bust kind active⟩
  split
  · exact .reverted targets (.inl rfl) (by decide) rfl
  next rebuilt rebuilding =>
  unfold bustOrder
  split
  · exact .rewritten targets rebuilding (.inl rfl)
  next orderIndex named =>
  dsimp only
  split
  · exact .reverted targets (.inr ⟨rebuilt, rebuilding, .inl rfl⟩) (by decide) rfl
  split
  · exact .reverted targets (.inr ⟨rebuilt, rebuilding, .inr ⟨orderIndex, _, rfl⟩⟩) (by decide) rfl
  · next remaining summed =>
    exact .rewritten targets rebuilding (.inr ⟨orderIndex,
      (rebuilt.orders orderIndex).withoutFill (s.fills index).quantityUnits remaining, named,
      ⟨rfl, rfl⟩, rfl⟩)

theorem applyLocked_effect : Effect s event (s.applyLocked event).1 (s.applyLocked event).2 := by
  unfold applyLocked
  split
  · next kind => exact applyOrder_effect kind
  · next kind => exact applyFill_effect kind
  · next kind => exact applyFillCorrection_effect kind
  · next kind => exact applyFillBust_effect kind
  · next kind =>
    unfold applyMark
    split
    · exact effect_refuse (by decide)
    split
    · exact effect_refuse (by decide)
    · exact .marked kind
  · next kind =>
    unfold applyRollover
    split
    · exact effect_refuse (by decide)
    split
    · exact effect_refuse (by decide)
    · exact .rolledOver kind
  · next kind =>
    unfold applyCorporateAction
    split
    · exact effect_refuse (by decide)
    next instrument found =>
    split
    · exact effect_refuse (by decide)
    · exact .acted found kind
  · exact effect_refuse (by decide)

theorem recordEvent_eq_some {value : GlobalEventId} {recorded : PortfolioRiskService}
    (returned : s.recordEvent value = some recorded) :
    ∃ table, recorded = { s with idempotency := table } := by
  unfold recordEvent at returned
  split at returned
  · cases returned
    exact ⟨s.idempotency, rfl⟩
  · obtain ⟨index, -, rfl⟩ := Option.map_eq_some_iff.mp returned
    exact ⟨_, rfl⟩

theorem handle_effect (ran : s.handle event = outcome) :
    ∃ table, Effect { s with idempotency := table } event outcome.1 outcome.2 := by
  subst ran
  unfold handle
  split
  · exact ⟨s.idempotency, effect_refuse (by decide)⟩
  split
  · exact ⟨s.idempotency, effect_refuse (by decide)⟩
  split
  · exact ⟨s.idempotency, effect_refuse (by decide)⟩
  split
  · exact ⟨s.idempotency, .alarmed (by decide) rfl⟩
  · next recorded returned =>
    obtain ⟨table, rfl⟩ := recordEvent_eq_some returned
    exact ⟨table, applyLocked_effect⟩

variable {index : Fin kMaximumPortfolioPositions}

theorem findOrCreatePosition_eq_some {accountId : AccountId} {strategyId : StrategyId}
    {instrumentId : InstrumentId} {opened : PortfolioRiskService}
    (returned : s.findOrCreatePosition accountId strategyId instrumentId = some (index, opened)) :
    (s.findPosition accountId strategyId instrumentId = some index ∧ opened = s) ∨
    ∃ instrument, s.findPosition accountId strategyId instrumentId = none ∧
      s.findInstrument instrumentId = some instrument ∧ (s.positions index).occupied = false ∧
      opened = s.putPosition index (openPosition accountId strategyId instrumentId
        (s.corporateActionGenerations instrument)) := by
  unfold findOrCreatePosition at returned
  split at returned
  · next found =>
    cases returned
    exact .inl ⟨found, rfl⟩
  next absent =>
  simp only [Option.bind_eq_bind, Option.bind_eq_some_iff] at returned
  obtain ⟨instrument, known, free, vacant, returned⟩ := returned
  cases returned
  have unoccupied := List.find?_some vacant
  exact .inr ⟨instrument, absent, known, by simpa using unoccupied, rfl⟩

theorem rebuildPosition_eq_some
    {rebuilt : PortfolioRiskService} (returned : s.rebuildPosition index = some rebuilt) :
    ∃ position, (s.positions index).occupied ∧ applyFills s.configuration (s.positions index).atBase
        ((s.fillsOf (s.positions index)).map (·.toFillSlot)) = some position ∧
      rebuilt = s.putPosition index position := by
  obtain ⟨position, applied, rfl⟩ := Option.map_eq_some_iff.mp returned
  unfold Portfolio.rebuildPosition at applied
  split at applied
  · next occupied => exact ⟨position, occupied, applied, rfl⟩
  · cases applied

theorem fillOrder_eq (s : PortfolioRiskService) (event : PortfolioEvent)
    (order : Option (Fin kMaximumPortfolioOrders)) :
    ∃ orders, s.fillOrder event order = { s with orders } := by
  cases order with
  | none => exact ⟨s.orders, rfl⟩
  | some index => exact ⟨_, rfl⟩

def SameLifecycles (orders orders' : Fin kMaximumPortfolioOrders → OrderSlot) : Prop :=
  ∀ index, SameOrder (orders index) (orders' index) ∧ (orders' index).state = (orders index).state

def Folded (s : PortfolioRiskService) (index : Fin kMaximumPortfolioPositions) : Prop :=
  applyFills s.configuration (s.positions index).atBase
    ((s.fillsOf (s.positions index)).map (·.toFillSlot)) = some (s.positions index)

theorem fillsOf_congr {position position' : PositionSlot}
    (same : position'.atBase = position.atBase) : s.fillsOf position' = s.fillsOf position := by
  have account := congrArg accountId same
  have strategy := congrArg strategyId same
  have instrument := congrArg instrumentId same
  have generation := congrArg actionGeneration same
  simp only [atBase] at account strategy instrument generation
  unfold fillsOf FillEntry.countsFor
  rw [account, strategy, instrument, generation]

theorem revert_eq {index : Fin kMaximumPortfolioFills} {changed : FillEntry}
    {positionIndex : Fin kMaximumPortfolioPositions} {attempt : PortfolioRiskService}
    (attempted : attempt = s.putFill index changed ∨
      ∃ rebuilt, (s.putFill index changed).rebuildPosition positionIndex = some rebuilt ∧
        (attempt = rebuilt ∨ ∃ orderIndex remaining, attempt = rebuilt.putOrder orderIndex
          { rebuilt.orders orderIndex with remainingQuantityUnits := remaining })) :
    ∃ orders position, SameLifecycles s.orders orders ∧
      attempt.revert index (s.fills index) positionIndex =
        { s with orders, positions := Function.update s.positions positionIndex position } ∧
      ((s.positions positionIndex).occupied → s.Folded positionIndex →
        position = s.positions positionIndex) := by
  -- Whatever was attempted, the fill is changed and one position may be.
  obtain ⟨orders, position, same, based, rfl⟩ : ∃ orders position, SameLifecycles s.orders orders ∧
      position.atBase = (s.positions positionIndex).atBase ∧
      attempt = { s with
        orders
        fills := Function.update s.fills index changed
        positions := Function.update s.positions positionIndex position } := by
    rcases attempted with rfl | ⟨rebuilt, rebuilding, attempted⟩
    · exact ⟨s.orders, s.positions positionIndex, fun _ => ⟨⟨rfl, rfl⟩, rfl⟩, rfl,
        by rw [Function.update_eq_self]; rfl⟩
    obtain ⟨position, -, applied, rfl⟩ := rebuildPosition_eq_some rebuilding
    have based := atBase_applyFills applied
    rcases attempted with rfl | ⟨orderIndex, remaining, rfl⟩
    · exact ⟨s.orders, position, fun _ => ⟨⟨rfl, rfl⟩, rfl⟩, based, rfl⟩
    refine ⟨_, position, fun k => ?_, based, rfl⟩
    by_cases here : k = orderIndex
    · subst here
      rw [Function.update_self]
      exact ⟨⟨rfl, rfl⟩, rfl⟩
    · rw [Function.update_of_ne here]
      exact ⟨⟨rfl, rfl⟩, rfl⟩
  -- Putting the fill back leaves the position to be rebuilt.
  let restored : PortfolioRiskService :=
    { s with orders, positions := Function.update s.positions positionIndex position }
  have putBack : PortfolioRiskService.putFill
      { s with
        orders
        fills := Function.update s.fills index changed
        positions := Function.update s.positions positionIndex position } index (s.fills index) =
      restored := by
    unfold putFill
    rw [Function.update_idem, Function.update_eq_self]
  have held : restored.positions positionIndex = position := Function.update_self ..
  have fold (occupied : (s.positions positionIndex).occupied) (folded : s.Folded positionIndex) :
      restored.rebuildPosition positionIndex =
        some (restored.putPosition positionIndex (s.positions positionIndex)) := by
    have live : position.occupied := (congrArg PositionSlot.occupied based).trans occupied
    have fills : restored.fillsOf position = s.fillsOf (s.positions positionIndex) :=
      fillsOf_congr based
    unfold PortfolioRiskService.rebuildPosition Portfolio.rebuildPosition
    rw [held, if_pos live, fills, based]
    exact congrArg (Option.map _) folded
  unfold revert
  rw [putBack]
  dsimp only
  cases rebuilding : restored.rebuildPosition positionIndex with
  | none =>
    refine ⟨orders, position, same, rfl, fun occupied folded => ?_⟩
    rw [fold occupied folded] at rebuilding
    cases rebuilding
  | some rebuilt =>
    obtain ⟨position', -, -, rfl⟩ := rebuildPosition_eq_some rebuilding
    refine ⟨orders, position', same, ?_, fun occupied folded => ?_⟩
    · show restored.putPosition positionIndex position' = _
      unfold putPosition
      rw [Function.update_idem]
    · rw [fold occupied folded, Option.some.injEq] at rebuilding
      have agree := congrArg (fun t => t.positions positionIndex) rebuilding
      simpa [putPosition] using agree.symm

section Calls

variable (s : PortfolioRiskService) (call : Call)

def rollsOver : Bool :=
  s.takes && call.event.kind == .sessionRollover &&
    (s.reserve.handle call.event).1.status == .applied

/-- The snapshot of the change overflows. -/
def buildFails : Bool :=
  let handled := s.reserve.handle call.event
  s.takes && handled.1.stateChanged &&
    !(handled.2.numbered.recomputeSnapshot (handled.2.contextOf call.event)).1.isOk

end Calls

inductive Outcome (s : PortfolioRiskService) (call : Call) : PortfolioRiskService → Prop
  | idle (off : (s.initialized && !s.stopped) = false) : Outcome s call s
  | exhausted (on : (s.initialized && !s.stopped) = true) (full : s.takes = false) :
      Outcome s call (s.setUnsafe .journalExhausted)
  | unchanged {internal : InternalApplyResult} {t : PortfolioRiskService} (taken : s.takes = true)
      (handled : s.reserve.handle call.event = (internal, t))
      (same : internal.stateChanged = false) : Outcome s call t
  | installed {internal : InternalApplyResult} {t : PortfolioRiskService}
      {output : PortfolioSnapshot} (taken : s.takes = true)
      (handled : s.reserve.handle call.event = (internal, t))
      (changed : internal.stateChanged = true)
      (built : t.numbered.recomputeSnapshot (t.contextOf call.event) = (.ok (), output)) :
      Outcome s call (t.numbered.install output call.published)
  | failed {internal : InternalApplyResult} {t : PortfolioRiskService}
      {partly : PortfolioSnapshot} (taken : s.takes = true)
      (handled : s.reserve.handle call.event = (internal, t))
      (changed : internal.stateChanged = true)
      (stopped : t.numbered.recomputeSnapshot (t.contextOf call.event) = (.error (), partly)) :
      Outcome s call ((t.numbered.setUnsafe .arithmeticOverflow).install
        ((t.numbered.setUnsafe .arithmeticOverflow).recomputeSnapshot
          (t.contextOf call.event)).2 call.published)

theorem next_outcome (s : PortfolioRiskService) (call : Call) : Outcome s call (s.next call) := by
  obtain ⟨⟨result, t⟩, applied⟩ : ∃ outcome, s.apply call.event call.published = outcome :=
    ⟨_, rfl⟩
  have moved : s.next call = t := congrArg Prod.snd applied
  rw [moved]
  unfold apply at applied
  split at applied
  · next uninitialized =>
    cases applied
    exact .idle (by simp_all)
  split at applied
  · next halted =>
    cases applied
    exact .idle (by simp [halted])
  split at applied
  · next full =>
    cases applied
    exact .exhausted (by simp_all) (by simp [takes, Nat.not_lt.mpr full])
  next started running room =>
  have taken : s.takes := by simp_all [takes]
  obtain ⟨⟨internal, handled⟩, ran⟩ : ∃ outcome, s.reserve.handle call.event = outcome :=
    ⟨_, rfl⟩
  rw [ran] at applied
  dsimp only [conclude] at applied
  split at applied
  · next changed =>
    split at applied
    · next output built =>
      cases applied
      exact .installed taken ran changed built
    · next partly stopped =>
      cases applied
      exact .failed taken ran changed stopped
  · next same =>
    cases applied
    exact .unchanged taken ran (by simpa using same)

/-- What snapshots are built from, apart from the marks. -/
structure SameBooks (s t : PortfolioRiskService) : Prop where
  configuration : t.configuration = s.configuration
  journalSize : t.journalSize = s.journalSize
  positions : t.positions = s.positions
  orders : t.orders = s.orders
  fills : t.fills = s.fills
  generations : t.corporateActionGenerations = s.corporateActionGenerations
  ordinal : t.eventOrdinal = s.eventOrdinal

theorem sameBooks_install (s : PortfolioRiskService) (output : PortfolioSnapshot)
    (published : Bool) : SameBooks s (s.install output published) :=
  ⟨rfl, rfl, rfl, rfl, rfl, rfl, rfl⟩

theorem next_books (s : PortfolioRiskService) (call : Call) :
    s.takes = false ∧ SameBooks s (s.next call) ∨ ∃ internal t, s.takes ∧
      s.reserve.handle call.event = (internal, t) ∧ SameBooks t (s.next call) := by
  have outcome := next_outcome s call
  generalize s.next call = reached at outcome ⊢
  cases outcome with
  | idle off => exact .inl ⟨by simp [takes, off], rfl, rfl, rfl, rfl, rfl, rfl, rfl⟩
  | exhausted on full => exact .inl ⟨full, rfl, rfl, rfl, rfl, rfl, rfl, rfl⟩
  | unchanged taken ran => exact .inr ⟨_, _, taken, ran, rfl, rfl, rfl, rfl, rfl, rfl, rfl⟩
  | @installed internal t output taken ran =>
    have books := sameBooks_install t.numbered output call.published
    exact .inr ⟨internal, t, taken, ran, books.1, books.2, books.3, books.4, books.5, books.6,
      books.7⟩
  | @failed internal t partly taken ran =>
    have books := sameBooks_install (t.numbered.setUnsafe .arithmeticOverflow)
      ((t.numbered.setUnsafe .arithmeticOverflow).recomputeSnapshot (t.contextOf call.event)).2
      call.published
    exact .inr ⟨internal, t, taken, ran, books.1, books.2, books.3, books.4, books.5, books.6,
      books.7⟩

theorem installed_of_mem_publish {call : Call} {output : PortfolioSnapshot}
    (fits : s.buildFails call = false) (published : output ∈ s.publish call) :
    ∃ internal t, s.takes ∧ s.reserve.handle call.event = (internal, t) ∧
      t.numbered.recomputeSnapshot (t.contextOf call.event) = (.ok (), output) ∧
      s.next call = t.numbered.install output call.published := by
  unfold publish at published
  split at published
  case isFalse => nomatch published
  next sent =>
  simp only [Bool.and_eq_true] at sent
  obtain ⟨⟨taken, changed⟩, accepted⟩ := sent
  rw [List.mem_singleton] at published
  have outcome := next_outcome s call
  generalize s.next call = reached at outcome published ⊢
  cases outcome with
  | idle off => simp [takes, off] at taken
  | exhausted on full => simp [full] at taken
  | unchanged _ ran same => simp [ran, same] at changed
  | installed _ ran _ built => exact ⟨_, _, taken, ran, published ▸ built, published ▸ rfl⟩
  | failed _ ran _ stopped =>
    simp [buildFails, taken, ran, stopped, Except.isOk, Except.toBool] at fits
    simp [ran, fits] at changed

end PortfolioRiskService

end Aegis.Portfolio
