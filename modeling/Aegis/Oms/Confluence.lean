import Aegis.Oms.FillDelivery
import Aegis.Oms.Race

/-!
The race of venue reports, as the service runs it: every call of `apply` with a report is one step
of the race.
-/

namespace Aegis.Oms

open Aegis.Common Aegis.Foundation Layout List Function

namespace DeterministicOms

def masksFor (s : DeterministicOms) (orderId : OrderId) (executionId : GlobalEventId) :
    Option UInt8 :=
  (executionLayout.lookup s.executions executionId).bind fun execution =>
    if execution.orderId = orderId then some execution.sourceMask else none

def raceFor (s : DeterministicOms) (index : OrderIndex) : Race where
  view := (s.orders index).value.view
  masks := s.masksFor (s.orders index).value.orderId

/-- What an input reports about its order. -/
def reportOf (bindable : Bool) (input : OmsInput) : Report :=
  match input.kind with
  | .cancelAcknowledgement => .canceled
  | .acknowledgement => if bindable then .acknowledged else .ignored
  | .fill =>
      if bindable then .filled input.executionId input.quantityUnits (sourceBit input.source)
      else .ignored
  | _ => .ignored

def executionMasks (s : DeterministicOms) (orderId : OrderId) : Set (GlobalEventId × UInt8) :=
  { recorded | ∃ execution, (s.executions execution).occupied = true ∧
      (s.executions execution).orderId = orderId ∧
      recorded = ((s.executions execution).executionId, (s.executions execution).sourceMask) }

variable {s s' : DeterministicOms} {input : OmsInput} {index : OrderIndex}
  {execution : ExecutionIndex} {orderId : OrderId}
  {executionId : GlobalEventId} {mask : UInt8} {f : OmsOrderSnapshot → OmsOrderSnapshot}
  {slot : ExecutionSlot}

theorem mem_executionMasks (wf : WellFormed s.ledger) :
    (executionId, mask) ∈ s.executionMasks orderId ↔
      s.masksFor orderId executionId = some mask := by
  have stored : ∀ slot, executionLayout.lookup s.executions executionId = some slot ↔
      ∃ execution, (s.executions execution).occupied ∧
        (s.executions execution).executionId = executionId ∧ s.executions execution = slot :=
    fun slot => lookup_eq_some_iff wf.executionsChained wf.executionsDistinct
  unfold masksFor
  rw [Option.bind_eq_some_iff]
  constructor
  · rintro ⟨execution, occ, named, pair⟩
    cases pair
    exact ⟨_, (stored _).mpr ⟨execution, occ, rfl, rfl⟩, if_pos named⟩
  rintro ⟨slot, found, shown⟩
  obtain ⟨execution, occ, rfl, rfl⟩ := (stored slot).mp found
  split at shown
  · rename_i named
    exact ⟨execution, occ, named, by rw [Option.some.inj shown]⟩
  · cases shown

theorem or_sourceBit_of_seen {source : EventSource}
    (seen : mask &&& sourceBit source ≠ 0) : mask ||| sourceBit source = mask := by
  have single : ∀ (value : BitVec 8), (value &&& 1 ≠ 0 → value ||| 1 = value) ∧
      (value &&& 2 ≠ 0 → value ||| 2 = value) := by
    decide
  apply UInt8.eq_of_toBitVec_eq
  unfold sourceBit at seen ⊢
  split
  · rw [if_pos ‹_›] at seen
    exact (single mask.toBitVec).1 fun zero => seen (UInt8.eq_of_toBitVec_eq zero)
  · rw [if_neg ‹_›] at seen
    split
    · rw [if_pos ‹_›] at seen
      exact (single mask.toBitVec).2 fun zero => seen (UInt8.eq_of_toBitVec_eq zero)
    · simp

/-! ### One report is one step of the race -/

section

variable (same : (f (s.orders index).value).orderId = (s.orders index).value.orderId)
include same

theorem raceFor_modifyOrder :
    (s.modifyOrder index f).raceFor index =
      { s.raceFor index with view := (f (s.orders index).value).view } := by
  unfold raceFor
  simp only [modifyOrder_self, same]
  rfl

theorem raceFor_write
    (lookup : executionLayout.lookup (update s.executions execution slot) =
      update (executionLayout.lookup s.executions) executionId (some slot))
    (named : slot.orderId = (s.orders index).value.orderId) :
    ((s.modifyOrder index f).setExecution execution slot).raceFor index =
      { view := (f (s.orders index).value).view
        masks := update (s.raceFor index).masks executionId (some slot.sourceMask) } := by
  unfold raceFor
  simp only [setExecution_orders, modifyOrder_self, same, Race.mk.injEq, true_and]
  funext other
  have written : ((s.modifyOrder index f).setExecution execution slot).executions =
      update s.executions execution slot := rfl
  unfold masksFor
  rw [written, lookup]
  by_cases eq : other = executionId
  · subst eq
    simp [named]
  · simp [eq]

end

theorem orderId_of_sameExecution
    (same : sameExecution slot input orderId) : slot.orderId = orderId := by
  simp only [sameExecution, Bool.and_eq_true, beq_iff_eq] at same
  exact same.1.1.1

theorem raceFor_masks_of_found (found : s.findExecution input.executionId = some execution)
    (same : sameExecution (s.executions execution) input (s.orders index).value.orderId) :
    (s.raceFor index).masks input.executionId = some (s.executions execution).sourceMask := by
  have valid := (findExecution_eq_some found).1
  rw [findExecution_of_valid valid] at found
  simp [raceFor, masksFor, lookup_of_find found, orderId_of_sameExecution same]

section Steps

variable {bindable : Bool} (authority : s.authorityMatches input.authority = true)
  (resolved : s.resolveOrder input = some index)
  (racing : Race.racing (s.orders index).value.state = true)
  (binds : bindable = true ↔ s.Bindable index input.externalOrderId)

include authority resolved racing

include binds in
theorem hears_acknowledgement (kind : input.kind = .acknowledgement)
    (external : input.externalOrderId.valid) :
    (s.applyLocked input).1.raceFor index = (s.raceFor index).hear (reportOf bindable input) := by
  have handler : s.applyLocked input = s.applyAcknowledgement input := by
    simp [applyLocked, kind]
  have bound : s.bindReported index input.externalOrderId = _ := bindReported_eq _
  rw [bindReported, if_pos external] at bound
  rw [handler]
  unfold applyAcknowledgement
  simp only [authority, resolved, reportOf, kind, Bool.not_true, Bool.false_eq_true, if_false]
  by_cases past : (s.orders index).value.state = .working ∨
      terminalState (s.orders index).value.state
  · have waits : (s.raceFor index).view.state ≠ .pendingAck := by
      rintro (pending : (s.orders index).value.state = .pendingAck)
      simp [pending, terminalState] at past
    rw [if_pos past]
    cases bindable with
    | true => simp [Race.hear, OrderView.afterAcknowledgement, waits]
    | false => rfl
  have allowed : transitionAllowed (s.orders index).value.state .acknowledgement
      (acknowledgedState (s.orders index).value.state) := by
    revert past racing
    cases (s.orders index).value.state <;> decide
  rw [if_neg past]
  simp only [allowed, Bool.not_true, Bool.false_eq_true, if_false, bound]
  cases bindable with
  | true =>
    simp only [if_pos (binds.mp rfl), transition_eq, modifyOrder_self,
      OmsOrderSnapshot.bound_state, kind, allowed, if_true, modifyOrder_modifyOrder]
    rw [raceFor_modifyOrder rfl]
    refine congrArg (fun view => ({ s.raceFor index with view } : Race)) ?_
    show { (s.orders index).value.view with
      state := acknowledgedState (s.orders index).value.state } =
        (s.orders index).value.view.afterAcknowledgement
    unfold acknowledgedState OrderView.afterAcknowledgement
    by_cases pending : (s.orders index).value.state = .pendingAck
    · rw [if_pos pending, if_pos (show (s.orders index).value.view.state = _ from pending)]
    · rw [if_neg pending, if_neg (show (s.orders index).value.view.state ≠ _ from pending)]
      rfl
  | false =>
    rw [if_neg fun held => by cases binds.mpr held]
    rfl

theorem hears_cancelAcknowledgement (kind : input.kind = .cancelAcknowledgement) :
    (s.applyLocked input).1.raceFor index = (s.raceFor index).hear (reportOf bindable input) := by
  have handler : s.applyLocked input = s.applyCancelResponse input := by
    simp [applyLocked, kind]
  rw [handler]
  unfold applyCancelResponse
  simp only [authority, resolved, reportOf, kind, Bool.not_true, Bool.false_eq_true, if_false,
    if_true]
  by_cases settled : (s.orders index).value.state = .canceled ∨ (s.orders index).value.state = .filled
  · rw [if_pos settled]
    simp only [Race.hear, OrderView.afterCancel]
    rw [if_pos (show (s.raceFor index).view.state = _ ∨ (s.raceFor index).view.state = _ from settled)]
  have allowed : transitionAllowed (s.orders index).value.state .cancelAcknowledgement .canceled =
      true := by
    revert settled racing
    cases (s.orders index).value.state <;> decide
  rw [if_neg settled]
  simp only [transition_eq, kind, allowed, if_true, modifyOrder_modifyOrder]
  rw [raceFor_modifyOrder rfl]
  simp only [Race.hear, OrderView.afterCancel]
  rw [if_neg (show ¬ ((s.raceFor index).view.state = _ ∨ (s.raceFor index).view.state = _)
    from settled)]
  rfl

omit racing in
include binds in
theorem hears_recorded_fill (kind : input.kind = .fill)
    (found : s.findExecution input.executionId = some execution)
    (same : sameExecution (s.executions execution) input (s.orders index).value.orderId) :
    (s.applyLocked input).1.raceFor index = (s.raceFor index).hear (reportOf bindable input) := by
  have handler : s.applyLocked input = s.applyExistingFill input index execution := by
    simp [applyLocked, kind, applyFill, authority, resolved, applyFillAt, found]
  have known := raceFor_masks_of_found found same
  rw [handler]
  unfold reportOf
  simp only [kind]
  cases bindable with
  | false =>
    rw [applyExistingFill_taken same fun held => by cases binds.mpr held]
    rfl
  | true =>
    have held := binds.mp rfl
    simp only [if_true]
    rw [Race.hear_known known]
    by_cases seen : (s.executions execution).sourceMask &&& sourceBit input.source = 0
    · obtain ⟨valid, occ, carried⟩ := findExecution_eq_some found
      rw [findExecution_of_valid valid] at found
      rw [applyExistingFill_confirmed same held seen]
      exact raceFor_write rfl (lookup_update found occ carried) (orderId_of_sameExecution same)
    · rw [applyExistingFill_repeated same held seen, or_sourceBit_of_seen seen, ← known,
        update_eq_self]
      cases mapsExternal (s.orders index).value input with
      | true =>
        simp only [if_true]
        rw [raceFor_modifyOrder rfl]
        rfl
      | false => rfl

include binds in
theorem hears_new_fill (wf : WellFormed s.ledger) (kind : input.kind = .fill)
    (valid : input.executionId.valid) (new : s.findExecution input.executionId = none)
    (free : s.findFreeExecution input.executionId = some execution)
    (fits : overFills (s.orders index).value input = false)
    (unfilled : (s.orders index).value.state ≠ .filled) :
    (s.applyLocked input).1.raceFor index = (s.raceFor index).hear (reportOf bindable input) := by
  have handler : s.applyLocked input = s.applyNewFill input index execution := by
    simp [applyLocked, kind, applyFill, authority, resolved, applyFillAt, new, free]
  rw [findExecution_of_valid valid] at new
  have unrecorded : (s.raceFor index).masks input.executionId = none := by
    simp [raceFor, masksFor, lookup_eq_none.mpr new]
  have known : (s.orders index).value.state ≠ .unknownRecovery := by
    intro unknown
    rw [unknown] at racing
    cases racing
  have fillable : unfillable (s.orders index).value.state = false := by
    revert racing
    cases (s.orders index).value.state <;> decide
  have allowed := transitionAllowed_fillable input known fillable unfilled
  rw [← kind] at allowed
  rw [handler]
  unfold reportOf
  simp only [kind]
  cases bindable with
  | false =>
    rw [applyNewFill_conflict (.inr ⟨fits, allowed⟩) fun held => by cases binds.mpr held]
    rfl
  | true =>
    simp only [if_true]
    rw [applyNewFill_credited known fits allowed (binds.mp rfl), Race.hear_new unrecorded]
    exact raceFor_write rfl (lookup_insert free rfl rfl wf.executionsChained new) rfl

end Steps

/-- A valid report of one order under a new receipt, whose execution agrees with its record and all
other reports. -/
structure Contender (s : DeterministicOms) (index : OrderIndex) (external : ExternalOrderId)
    (price : GlobalEventId → Int64) (units : GlobalEventId → UInt64) (input : OmsInput) : Prop where
  valid : validInput input = true
  kind : input.kind = .acknowledgement ∨ input.kind = .cancelAcknowledgement ∨ input.kind = .fill
  orderId : input.orderId = (s.orders index).value.orderId
  externalOrderId : input.externalOrderId = external
  authority : s.authorityMatches input.authority = true
  fresh : s.findReceipt input.receiptId = none
  economics : input.kind = .fill →
    input.priceTicks = price input.executionId ∧ input.quantityUnits = units input.executionId
  recorded : input.kind = .fill → ∀ slot,
    executionLayout.lookup s.executions input.executionId = some slot →
      sameExecution slot input (s.orders index).value.orderId = true

/-- The order is in the race, its new executions fit it, and there is space for all reports. -/
structure Contest (s : DeterministicOms) (index : OrderIndex) (external : ExternalOrderId)
    (price : GlobalEventId → Int64) (units : GlobalEventId → UInt64) (inputs : List OmsInput) :
    Prop where
  running : s.Running
  occupied : (s.orders index).value.occupied = true
  contenders : ∀ input ∈ inputs, s.Contender index external price units input
  receipts : (inputs.map (·.receiptId)).Nodup
  journalRoom : s.journal.reservedSequence + inputs.length ≤ kOmsJournalCapacity
  executionRoom : executionLayout.used s.executions +
    ((s.raceFor index).newExecutions (inputs.map (reportOf true))).card ≤ kMaximumOmsExecutions
  racing : Race.racing (s.orders index).value.state = true
  fits : (s.orders index).value.cumulativeFillQuantityUnits.toNat +
      ∑ executionId ∈ (s.raceFor index).newExecutions (inputs.map (reportOf true)),
        (units executionId).toNat ≤ (s.orders index).value.quantityUnits.toNat

section Contests

variable {external : ExternalOrderId} {price : GlobalEventId → Int64}
  {units : GlobalEventId → UInt64} {rest : List OmsInput} {bindable : Bool}
  {inputs : List OmsInput} {h : DeterministicOms}

theorem reportOf_fill (kind : input.kind = .fill) : reportOf true input =
      .filled input.executionId input.quantityUnits (sourceBit input.source) := by
  simp [reportOf, kind]

theorem Contest.accepted (contest : s.Contest index external price units inputs)
    (inv : Invariant s) : (s.orders index).value.intentId.valid := by
  refine inv.wellFormed.accepted_of_known contest.occupied fun unknown => ?_
  have racing := contest.racing
  rw [unknown] at racing
  cases racing

/-- The reports are ready in the race: a reachable order is filled only in full, and a valid report
of a fill has a quantity. -/
theorem Contest.ready (contest : s.Contest index external price units inputs)
    (inv : Invariant s) : (s.raceFor index).Ready units (inputs.map (reportOf true)) where
  racing := contest.racing
  complete := ((inv.wellFormed.ordersSound index contest.occupied).accepted
    (contest.accepted inv)).view.complete
  economics := by
    intro executionId quantity bit mem
    obtain ⟨input, reported, same⟩ := mem_map.mp mem
    have contender := contest.contenders input reported
    rcases contender.kind with kind | kind | kind
    · simp [reportOf, kind] at same
    · simp [reportOf, kind] at same
    rw [reportOf_fill kind] at same
    cases same
    exact ⟨(contender.economics kind).2, quantityUnits_of_fill contender.valid kind⟩
  fits := contest.fits

theorem Contest.resolved (contest : s.Contest index external price units inputs) (inv : Invariant s)
    (mem : input ∈ inputs) : s.resolveOrder input = some index := by
  have valid := (inv.wellFormed.ordersSound index contest.occupied).orderId
  have found : orderLayout.find s.orders (s.orders index).value.orderId = some index :=
    inv.wellFormed.acceptedFound index contest.occupied (contest.accepted inv)
  apply resolveOrder_of_findOrder
  rw [(contest.contenders input mem).orderId]
  exact (findOrder_of_valid valid).trans found

theorem Contest.hears (contest : s.Contest index external price units (input :: rest))
    (inv : Invariant s) (binds : bindable ↔ s.Bindable index external) :
    (s.applyLocked input).1.raceFor index = (s.raceFor index).hear (reportOf bindable input) := by
  have mem : input ∈ input :: rest := mem_cons_self
  have contender := contest.contenders input mem
  have resolved := contest.resolved inv mem
  have authority := contender.authority
  rw [← contender.externalOrderId] at binds
  rcases contender.kind with kind | kind | kind
  · have valid := contender.valid
    simp only [validInput, kind, validAckInput, Bool.and_eq_true] at valid
    exact hears_acknowledgement authority resolved contest.racing binds kind valid.2.1.1.2
  · exact hears_cancelAcknowledgement authority resolved contest.racing kind
  · have executionId := executionId_of_fill contender.valid kind
    have report : .filled input.executionId input.quantityUnits (sourceBit input.source) ∈
        (input :: rest).map (reportOf true) :=
      mem_map.mpr ⟨input, mem, reportOf_fill kind⟩
    cases found : s.findExecution input.executionId with
    | some execution =>
      have recorded := found
      rw [findExecution_of_valid executionId] at recorded
      exact hears_recorded_fill authority resolved binds kind found
        (contender.recorded kind _ (lookup_of_find recorded))
    | none =>
      have new := found
      rw [findExecution_of_valid executionId] at new
      have unrecorded : (s.raceFor index).masks input.executionId = none := by
        simp [raceFor, masksFor, lookup_eq_none.mpr new]
      -- The execution is one of those the table has space for.
      have room : executionLayout.used s.executions < kMaximumOmsExecutions := by
        have one := Finset.card_pos.mpr ⟨_, Race.mem_newExecutions_of_filled report unrecorded⟩
        have space := contest.executionRoom
        omega
      obtain ⟨execution, free⟩ := findFree_isSome (exists_free_of_used_lt room) input.executionId
      have fits : overFills (s.orders index).value input = false :=
        overFills_eq_false.mpr ((contest.ready inv).fits_filled report unrecorded)
      exact hears_new_fill authority resolved contest.racing binds inv.wellFormed kind executionId
        found free fits ((contest.ready inv).not_filled report unrecorded)

/-! ### What a report leaves for the others -/

/-- What a report writes to the execution table. -/
inductive Logs (s : DeterministicOms) (input : OmsInput) (orderId : OrderId)
    (h : DeterministicOms) : Prop where
  | same (executions : h.executions = s.executions)
  | recorded (kind : input.kind = .fill)
      (new : executionLayout.lookup s.executions input.executionId = none)
      (lookup : executionLayout.lookup h.executions =
        Function.update (executionLayout.lookup s.executions) input.executionId
          (some (executionRecord input orderId)))
      (used : executionLayout.used h.executions = executionLayout.used s.executions + 1)
  | confirmed (slot : ExecutionSlot) (mask : UInt8)
      (found : executionLayout.lookup s.executions input.executionId = some slot)
      (lookup : executionLayout.lookup h.executions =
        Function.update (executionLayout.lookup s.executions) input.executionId
          (some { slot with sourceMask := mask }))
      (used : executionLayout.used h.executions = executionLayout.used s.executions)

/-- What a report writes: its order, and its execution. -/
structure Writes (s : DeterministicOms) (input : OmsInput) (index : OrderIndex)
    (h : DeterministicOms) : Prop where
  configuration : h.configuration = s.configuration
  token : h.activeFencingToken = s.activeFencingToken
  order : ∃ slot, h.orders = Function.update s.orders index slot ∧
    slot.value.identity = (s.orders index).value.identity ∧
    (slot.value.externalOrderId = (s.orders index).value.externalOrderId ∨
      slot.value.externalOrderId =
          ((s.orders index).value.bound input.externalOrderId).externalOrderId ∧
        s.Bindable index input.externalOrderId)
  executions : Logs s input (s.orders index).value.orderId h

theorem Contest.writes (contest : s.Contest index external price units (input :: rest))
    (inv : Invariant s) : s.Writes input index (s.applyLocked input).1 := by
  have mem : input ∈ input :: rest := mem_cons_self
  have contender := contest.contenders input mem
  have resolved := contest.resolved inv mem
  have unchanged : s.orders = update s.orders index (s.orders index) :=
    (update_eq_self index s.orders).symm
  have here : ∀ {other}, s.resolveOrder input = some other → other = index := by
    intro other found
    exact Option.some.inj (found.symm.trans resolved)
  cases applyLocked_handled (s := s) contender.valid with
  | afterDiscovery s₁ other kind discovery =>
    have absent := discovery.absent
    rw [resolved] at absent
    cases absent
  | directly effect =>
    cases effect with
    | refused leaves =>
      exact ⟨leaves.configuration, leaves.activeFencingToken,
        ⟨s.orders index, leaves.orders.trans unchanged, rfl, .inl rfl⟩,
        .same leaves.executions⟩
    | accepted other kind | rotated kind =>
      exfalso
      rcases contender.kind with h | h | h <;> rw [kind] at h <;> cases h
    | discovered other discovery =>
      have absent := discovery.absent
      rw [resolved] at absent
      cases absent
    | moved other slot event moves leaves =>
      obtain rfl := here moves.resolved
      exact ⟨leaves.configuration, leaves.activeFencingToken,
        ⟨slot, leaves.orders, moves.revised.identity, moves.external_cases⟩,
        .same leaves.executions⟩
    | executed other slot event execution moves kind counted new free leaves =>
      obtain rfl := here moves.resolved
      have executions : (s.applyLocked input).1.executions = _ :=
        leaves.executions
      rw [findExecution_of_valid (executionId_of_fill contender.valid kind)] at new
      refine ⟨leaves.configuration, leaves.activeFencingToken,
        ⟨slot, leaves.orders, moves.revised.identity, moves.external_cases⟩,
        .recorded kind (lookup_eq_none.mpr new) ?_ ?_⟩
      · rw [executions]
        exact lookup_insert free rfl rfl inv.wellFormed.executionsChained new
      · rw [executions]
        exact used_insert (free_of_findFree free) rfl
    | confirmed other slot execution moves kind found same leaves =>
      obtain rfl := here moves.resolved
      have executions : (s.applyLocked input).1.executions = _ :=
        leaves.executions
      obtain ⟨valid, occ, carried⟩ := findExecution_eq_some found
      rw [findExecution_of_valid valid] at found
      refine ⟨leaves.configuration, leaves.activeFencingToken,
        ⟨slot, leaves.orders, moves.revised.identity, moves.external_cases⟩,
        .confirmed (s.executions execution)
          ((s.executions execution).sourceMask ||| sourceBit input.source)
          (lookup_of_find found) ?_ ?_⟩
      · rw [executions]
        exact lookup_update found occ carried
      · rw [executions]
        exact used_update rfl

theorem Logs.masksFor_eq_none (logs : Logs s input orderId h) {executionId : GlobalEventId}
    (new : h.masksFor orderId executionId = none) : s.masksFor orderId executionId = none := by
  unfold masksFor at new ⊢
  cases logs with
  | same executions => rwa [executions] at new
  | recorded kind absent lookup =>
    by_cases eq : executionId = input.executionId
    · rw [eq, absent]
      rfl
    · rw [lookup, update_of_ne eq] at new
      exact new
  | confirmed slot mask found lookup =>
    by_cases eq : executionId = input.executionId
    · rw [lookup, eq, update_self] at new
      rw [eq, found]
      simpa using new
    · rw [lookup, update_of_ne eq] at new
      exact new

theorem Logs.room (logs : Logs s input (s.orders index).value.orderId h)
    (same : (h.orders index).value.orderId = (s.orders index).value.orderId) :
    executionLayout.used h.executions +
        ((h.raceFor index).newExecutions (rest.map (reportOf true))).card ≤
      executionLayout.used s.executions +
        ((s.raceFor index).newExecutions ((input :: rest).map (reportOf true))).card := by
  have subset : (h.raceFor index).newExecutions (rest.map (reportOf true)) ⊆
      (s.raceFor index).newExecutions ((input :: rest).map (reportOf true)) := by
    intro executionId mem
    obtain ⟨reported, new⟩ := Race.mem_newExecutions.mp mem
    refine Race.mem_newExecutions.mpr ⟨?_, ?_⟩
    · obtain ⟨report, mem, about⟩ := mem_filterMap.mp reported
      exact mem_filterMap.mpr ⟨report, mem_cons_of_mem _ mem, about⟩
    · simp only [raceFor, same] at new
      exact logs.masksFor_eq_none new
  have fewer := Finset.card_le_card subset
  cases logs with
  | same executions => rw [executions]; omega
  | confirmed slot mask found lookup used => omega
  | recorded kind absent lookup used =>
    -- The execution that was recorded is no longer among the new ones.
    have now : input.executionId ∈
        (s.raceFor index).newExecutions ((input :: rest).map (reportOf true)) := by
      refine Race.mem_newExecutions_of_filled
        (mem_map.mpr ⟨input, mem_cons_self, reportOf_fill kind⟩) ?_
      simp [raceFor, masksFor, absent]
    have later : input.executionId ∉
        (h.raceFor index).newExecutions (rest.map (reportOf true)) := by
      intro mem
      have new := (Race.mem_newExecutions.mp mem).2
      simp [raceFor, masksFor, same, lookup, DeterministicOms.executionRecord] at new
    have less := Finset.card_lt_card (Finset.ssubset_iff_subset_ne.mpr
      ⟨subset, fun eq => later (eq ▸ now)⟩)
    omega

theorem Contest.recorded (contest : s.Contest index external price units (input :: rest))
    (logs : Logs s input (s.orders index).value.orderId h)
    {other : OmsInput} (mem : other ∈ rest) (kind : other.kind = .fill) {slot : ExecutionSlot}
    (found : executionLayout.lookup h.executions other.executionId = some slot) :
    sameExecution slot other (s.orders index).value.orderId := by
  have contender := contest.contenders other (mem_cons_of_mem _ mem)
  have first := contest.contenders input mem_cons_self
  cases logs with
  | same executions =>
    rw [executions] at found
    exact contender.recorded kind slot found
  | recorded kind' absent lookup =>
    rw [lookup] at found
    by_cases eq : other.executionId = input.executionId
    · rw [eq, update_self] at found
      obtain ⟨price', units'⟩ := first.economics kind'
      obtain ⟨price'', units''⟩ := contender.economics kind
      rw [← Option.some.inj found]
      simp [sameExecution, executionRecord, price', units', price'', units'', eq,
        first.externalOrderId, contender.externalOrderId]
    · rw [update_of_ne eq] at found
      exact contender.recorded kind slot found
  | confirmed slot' mask found' lookup =>
    rw [lookup] at found
    by_cases eq : other.executionId = input.executionId
    · rw [eq, update_self] at found
      rw [← Option.some.inj found]
      exact contender.recorded kind slot' (eq ▸ found')
    · rw [update_of_ne eq] at found
      exact contender.recorded kind slot found

theorem ready_hear_reportOf (ready : (s.raceFor index).Ready units
      ((input :: rest).map (reportOf true))) :
    ((s.raceFor index).hear (reportOf bindable input)).Ready units (rest.map (reportOf true)) := by
  cases bindable with
  | true => exact ready.hear
  | false =>
    cases kind : input.kind with
    | cancelAcknowledgement =>
      have canceled : reportOf false input = reportOf true input := by simp [reportOf, kind]
      rw [canceled]
      exact ready.hear
    | _ =>
      have ignored : reportOf false input = .ignored := by simp [reportOf, kind]
      rw [ignored]
      exact ready.tail

theorem Contest.bindable_iff (contest : s.Contest index external price units (input :: rest))
    (writes : s.Writes input index h) :
    h.Bindable index external ↔ s.Bindable index external := by
  obtain ⟨slot, orders, identity, kept⟩ := writes.order
  rw [(contest.contenders input mem_cons_self).externalOrderId] at kept
  have occupied : slot.value.occupied :=
    (congrArg OrderIdentity.occupied identity).trans contest.occupied
  constructor
  · intro bindable
    rcases kept with kept | ⟨-, bindable⟩
    · have back : s.orders = update h.orders index (s.orders index) := by
        rw [orders, update_idem, update_eq_self]
      refine bindable.update back contest.occupied (.inl ?_)
      rw [orders, update_self]
      exact kept.symm
    · exact bindable
  · intro bindable
    exact bindable.update orders occupied (kept.imp_right And.left)

/-- The first report is a step, and the rest is a race again. -/
theorem Contest.next {c : Call} (contest : s.Contest index external price units (c.input :: rest))
    (inv : Invariant s) (binds : bindable ↔ s.Bindable index external) :
    (s.call c).Contest index external price units rest ∧
      (s.call c).raceFor index = (s.raceFor index).hear (reportOf bindable c.input) ∧
      ((s.call c).orders index).value.orderId = (s.orders index).value.orderId ∧
      ((s.call c).Bindable index external ↔ s.Bindable index external) := by
  have first := contest.contenders c.input mem_cons_self
  have length := contest.journalRoom
  rw [length_cons] at length
  have reaches : s.Reaches c.input :=
    ⟨contest.running, show s.journal.reservedSequence < _ by omega, first.valid, first.fresh⟩
  obtain ⟨receipt, free⟩ := inv.receiptRoom reaches.room c.input.receiptId
  obtain ⟨-, closing⟩ := reaches.spec free c.published
  have ledger := reaches.ledger free c.published
  have orders := reaches.orders free c.published
  have executions := reaches.executions free c.published
  have writes := contest.writes inv
  obtain ⟨slot, written, identity, -⟩ := writes.order
  have here : ((s.applyLocked c.input).1.orders index).value.identity =
      (s.orders index).value.identity := by
    rw [written, update_self, identity]
  have orderId : ((s.call c).orders index).value.orderId = (s.orders index).value.orderId := by
    rw [call, orders]
    exact congrArg OrderIdentity.orderId here
  have race : (s.call c).raceFor index = (s.applyLocked c.input).1.raceFor index := by
    unfold raceFor masksFor
    rw [call, orders, executions]
  have heard := race.trans (contest.hears inv binds)
  have logs : Logs s c.input (s.orders index).value.orderId (s.call c) := by
    cases writes.executions with
    | same same => exact .same (executions.trans same)
    | recorded kind new lookup used =>
      rw [← executions] at lookup used
      exact .recorded kind new lookup used
    | confirmed slot mask found lookup used =>
      rw [← executions] at lookup used
      exact .confirmed slot mask found lookup used
  have ready : ((s.call c).raceFor index).Ready units (rest.map (reportOf true)) := by
    rw [heard]
    exact ready_hear_reportOf (contest.ready inv)
  refine ⟨⟨?_, ?_, ?_, ?_, ?_, ?_, ready.racing, ready.fits⟩, heard, orderId, ?_⟩
  · exact contest.running.apply c.input c.published
  · rw [call, orders]
    exact (congrArg OrderIdentity.occupied here).trans contest.occupied
  · intro other mem
    have contender := contest.contenders other (mem_cons_of_mem _ mem)
    refine ⟨contender.valid, contender.kind, contender.orderId.trans orderId.symm,
      contender.externalOrderId, ?_, ?_, contender.economics, ?_⟩
    · rw [call, authorityMatches_congr other.authority
        ((congrArg Ledger.configuration ledger).trans writes.configuration)
        ((congrArg Ledger.activeFencingToken ledger).trans writes.token)]
      exact contender.authority
    · have apart : other.receiptId ≠ c.input.receiptId := by
        intro eq
        have distinct := (nodup_cons.mp contest.receipts).1
        exact distinct (mem_map.mpr ⟨other, mem, eq⟩)
      have valid := (InputFacts.of_valid contender.valid).receiptId
      have fresh := contender.fresh
      rw [findReceipt_of_valid valid] at fresh ⊢
      rw [show (s.call c).receipts = _ from congrArg Ledger.receipts ledger]
      exact (Layout.Chained.find_insert_of_ne free rfl rfl inv.wellFormed.receiptsChained
        apart).trans fresh
    · intro kind found stored
      rw [orderId]
      exact contest.recorded logs mem kind stored
  · exact (nodup_cons.mp contest.receipts).2
  · have sequence : (s.call c).journal.reservedSequence = s.journal.reservedSequence + 1 := by
      rw [show (s.call c).journal = _ from closing.journal, OmsJournal.commit_reservedSequence]
      rfl
    omega
  · exact (logs.room orderId).trans contest.executionRoom
  · have same : (s.call c).Bindable index external ↔
        (s.applyLocked c.input).1.Bindable index external := by
      unfold Bindable findOrderByExternal
      rw [call, orders]
    exact same.trans (contest.bindable_iff writes)

theorem Contest.run {calls : List Call}
    (contest : s.Contest index external price units (calls.map (·.input))) (inv : Invariant s)
    (binds : bindable ↔ s.Bindable index external) :
    (run call s calls).raceFor index = Foundation.run Race.hear (s.raceFor index)
          ((calls.map (·.input)).map (reportOf bindable)) ∧
      ((Foundation.run call s calls).orders index).value.orderId =
        (s.orders index).value.orderId := by
  induction calls generalizing s with
  | nil => exact ⟨rfl, rfl⟩
  | cons c rest ih =>
    obtain ⟨left, heard, orderId, same⟩ := contest.next inv binds
    obtain ⟨later, kept⟩ := ih left (inv.apply c.input c.published) (binds.trans same.symm)
    rw [heard] at later
    exact ⟨later, kept.trans orderId⟩

theorem Contest.perm {inputs' : List OmsInput}
    (contest : s.Contest index external price units inputs) (perm : inputs.Perm inputs') :
    s.Contest index external price units inputs' where
  running := contest.running
  occupied := contest.occupied
  contenders := fun input mem => contest.contenders input (perm.mem_iff.mpr mem)
  receipts := (perm.map _).nodup_iff.mp contest.receipts
  journalRoom := perm.length_eq ▸ contest.journalRoom
  executionRoom := by
    rw [Race.newExecutions_perm (perm.map _)]
    exact contest.executionRoom
  racing := contest.racing
  fits := by
    rw [Race.newExecutions_perm (perm.map _)]
    exact contest.fits

theorem ready_reportOf {r : Race} (ready : r.Ready units (inputs.map (reportOf true))) :
    r.Ready units (inputs.map (reportOf bindable)) := by
  cases bindable with
  | true => exact ready
  | false =>
    have unfilled : ∀ report ∈ inputs.map (reportOf false), report.execution = none := by
      intro report mem
      obtain ⟨input, -, rfl⟩ := mem_map.mp mem
      cases kind : input.kind <;> simp [reportOf, kind, Report.execution]
    refine ⟨ready.racing, ready.complete, fun id quantity bit mem => ?_, ?_⟩
    · cases unfilled _ mem
    have noneNew : r.newExecutions (inputs.map (reportOf false)) = ∅ := by
      unfold Race.newExecutions
      rw [filterMap_eq_nil_iff.mpr unfilled]
      rfl
    rw [noneNew, Finset.sum_empty]
    exact (Nat.add_le_add_left (Nat.zero_le _) _).trans ready.fits

end Contests

end DeterministicOms

open DeterministicOms

/-- The outcome of a race of venue reports does not depend on their order. -/
theorem race_outcome_of_perm {configuration : OmsConfiguration} {s : DeterministicOms}
    {index : OrderIndex} {external : ExternalOrderId} {price : GlobalEventId → Int64}
    {units : GlobalEventId → UInt64} {calls calls' : List Call}
    (reachable : Reachable configuration s)
    (contest : s.Contest index external price units (calls.map (·.input)))
    (perm : (calls.map (·.input)).Perm (calls'.map (·.input))) :
    ((run call s calls).orders index).value.state = ((run call s calls').orders index).value.state ∧
      ((run call s calls).orders index).value.cumulativeFillQuantityUnits =
        ((run call s calls').orders index).value.cumulativeFillQuantityUnits ∧
      ((run call s calls).orders index).value.remainingQuantityUnits =
        ((run call s calls').orders index).value.remainingQuantityUnits ∧
      (run call s calls).executionMasks (s.orders index).value.orderId =
        (run call s calls').executionMasks (s.orders index).value.orderId := by
  have binds : decide (s.Bindable index external) = true ↔ s.Bindable index external :=
    decide_eq_true_iff
  have inv := reachable.invariant
  obtain ⟨left, leftId⟩ := contest.run inv binds
  obtain ⟨right, rightId⟩ := (contest.perm perm).run inv binds
  have met : (run call s calls).raceFor index = (run call s calls').raceFor index := by
    rw [left, right]
    exact Race.run_hear_perm (ready_reportOf (contest.ready inv)) (perm.map _)
  have views := congrArg Race.view met
  refine ⟨congrArg OrderView.state views, congrArg OrderView.cumulative views,
    congrArg OrderView.remaining views, ?_⟩
  ext ⟨executionId, mask⟩
  rw [mem_executionMasks (reachable.run calls).invariant.wellFormed,
    mem_executionMasks (reachable.run calls').invariant.wellFormed]
  have masks := congrFun (congrArg Race.masks met) executionId
  simp only [raceFor, leftId, rightId] at masks
  rw [masks]

open TestSupport

/-- An acknowledgement, fills and a cancel acknowledgement. -/
def venueReports : List Call :=
  [⟨venue .acknowledgement (orderId 1) 4 1, true⟩, ⟨fill (orderId 1) 5 2 1 4, true⟩,
    ⟨fill (orderId 1) 6 3 1 4 .dropCopy, true⟩, ⟨fill (orderId 1) 7 4 2 3, true⟩,
    ⟨venue .cancelAcknowledgement (orderId 1) 8 5, true⟩]

def reportedUnits (executionId : GlobalEventId) : UInt64 :=
  if executionId = ⟨106, 1⟩ then 4 else 3

theorem race_outcome_of_reversed_reports :
    ∃ index, (sentOrder.orders index).value.state = .pendingAck ∧
      ((run call sentOrder venueReports).orders index).value.state =
        ((run call sentOrder venueReports.reverse).orders index).value.state ∧
      ((run call sentOrder venueReports).orders index).value.cumulativeFillQuantityUnits =
        ((run call sentOrder venueReports.reverse).orders index).value.cumulativeFillQuantityUnits ∧
      ((run call sentOrder venueReports).orders index).value.remainingQuantityUnits =
        ((run call sentOrder venueReports.reverse).orders index).value.remainingQuantityUnits ∧
      (run call sentOrder venueReports).executionMasks (sentOrder.orders index).value.orderId =
        (run call sentOrder venueReports.reverse).executionMasks
          (sentOrder.orders index).value.orderId := by
  have facts : ∃ index, let inputs := venueReports.map (·.input)
      let new := (sentOrder.raceFor index).newExecutions (inputs.map (reportOf true))
      sentOrder.Running ∧ (sentOrder.orders index).value.occupied = true ∧
      (sentOrder.orders index).value.state = .pendingAck ∧
      (∀ input ∈ inputs, validInput input = true ∧
        (input.kind = .acknowledgement ∨ input.kind = .cancelAcknowledgement ∨ input.kind = .fill) ∧
        input.orderId = (sentOrder.orders index).value.orderId ∧
        input.externalOrderId = kExternal ∧ sentOrder.authorityMatches input.authority = true ∧
        sentOrder.findReceipt input.receiptId = none ∧
        (input.kind = .fill → (input.priceTicks = 100 ∧
          input.quantityUnits = reportedUnits input.executionId) ∧
          executionLayout.find sentOrder.executions input.executionId = none)) ∧
      (inputs.map (·.receiptId)).Nodup ∧
      sentOrder.journal.reservedSequence + inputs.length ≤ kOmsJournalCapacity ∧
      executionLayout.used sentOrder.executions + new.card ≤ kMaximumOmsExecutions ∧
      (sentOrder.orders index).value.cumulativeFillQuantityUnits.toNat +
          ∑ executionId ∈ new, (reportedUnits executionId).toNat ≤
        (sentOrder.orders index).value.quantityUnits.toNat := by
    exact ⟨64, by decide +kernel⟩
  obtain ⟨index, running, occupied, state, reports, receipts, journal, executions, fits⟩ := facts
  have contest : sentOrder.Contest index kExternal (fun _ => 100) reportedUnits
      (venueReports.map (·.input)) := by
    refine ⟨running, occupied, fun input mem => ?_, receipts, journal, executions,
      by rw [state]; rfl, fits⟩
    obtain ⟨valid, kind, named, external, authority, fresh, economics⟩ := reports input mem
    refine ⟨valid, kind, named, external, authority, fresh, fun kind => (economics kind).1, ?_⟩
    intro kind slot found
    rw [Layout.lookup_eq_none.mpr (economics kind).2] at found
    cases found
  have perm : (venueReports.map (·.input)).Perm (venueReports.reverse.map (·.input)) :=
    (List.reverse_perm venueReports).symm.map _
  exact ⟨index, state, race_outcome_of_perm reachable_sentOrder contest perm⟩

def partlyFilled : DeterministicOms :=
  Foundation.run call sentOrder [⟨fill (orderId 1) 4 1 1 4, true⟩]

/-- An execution is reported again at another price. -/
theorem race_outcome_of_conflicting_report : Reachable configuration partlyFilled ∧ ∃ index,
      (partlyFilled.orders index).value.state = .partiallyFilled ∧
      (∀ input ∈ [venue .cancelAcknowledgement (orderId 1) 5 2,
          fill (orderId 1) 6 3 1 4 .gateway kExternal 101],
        validInput input = true ∧ input.orderId = (partlyFilled.orders index).value.orderId ∧
          input.externalOrderId = kExternal ∧
          partlyFilled.authorityMatches input.authority = true ∧
          partlyFilled.findReceipt input.receiptId = none) ∧
      (partlyFilled.orders index).value.cumulativeFillQuantityUnits + 4 ≤
        (partlyFilled.orders index).value.quantityUnits ∧
      ((run call partlyFilled [⟨venue .cancelAcknowledgement (orderId 1) 5 2, true⟩,
            ⟨fill (orderId 1) 6 3 1 4 .gateway kExternal 101, true⟩]).orders
          index).value.remainingQuantityUnits ≠
        ((run call partlyFilled [⟨fill (orderId 1) 6 3 1 4 .gateway kExternal 101, true⟩,
            ⟨venue .cancelAcknowledgement (orderId 1) 5 2, true⟩]).orders
          index).value.remainingQuantityUnits := by
  have reachable : Reachable configuration partlyFilled :=
    (Reachable.construct.run _).run _
  exact ⟨reachable, 64, by decide +kernel⟩

end Aegis.Oms
