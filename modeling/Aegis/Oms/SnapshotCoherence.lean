import Aegis.Oms.Reachability
import Aegis.Oms.TestSupport

/-!
The snapshot against the live order table: two ways to change an order leave the old snapshot in
place.
-/

namespace Aegis.Oms

open Aegis.Common Aegis.Foundation

namespace DeterministicOms

/-- The snapshot shows the live order table and the active token. -/
structure Coherent (s : DeterministicOms) : Prop where
  orders : ∀ index, s.snapshot.orders index = (s.orders index).value
  token : s.snapshot.activeFencingToken = s.activeFencingToken

/-- A fill files an unknown order and ends unreported. -/
def silentFiling (s : DeterministicOms) (input : OmsInput) : Bool :=
  input.kind = .fill && s.resolveOrder input = none && (s.unknownOrderId input).valid &&
    (s.findFreeOrder (s.unknownOrderId input)).isSome &&
    match s.findExecution input.executionId with
    | some execution =>
        sameExecution (s.executions execution) input (s.unknownOrderId input) &&
          (s.executions execution).sourceMask &&& sourceBit input.source != 0
    | none => (s.findFreeExecution input.executionId).isNone

/-- A partial fill outside the order binds an identifier first. -/
def silentBinding (s : DeterministicOms) (input : OmsInput) : Bool :=
  input.kind = .recoveryObservation &&
    match s.resolveOrder input with
    | none => false
    | some index =>
        (s.orders index).value.state = .unknownRecovery && (s.orders index).value.intentId.valid &&
          input.recoveryObservation = .partiallyFilled &&
          (input.quantityUnits = 0 || (s.orders index).value.quantityUnits ≤ input.quantityUnits) &&
          mapsExternal (s.orders index).value input && s.Bindable index input.externalOrderId

/-- The call changes an order without reporting it. -/
def Silent (s : DeterministicOms) (input : OmsInput) : Prop :=
  s.Reaches input ∧ s.authorityMatches input.authority = true ∧
    (s.silentFiling input = true ∨ s.silentBinding input = true)

instance (s : DeterministicOms) (input : OmsInput) : Decidable (s.Silent input) :=
  inferInstanceAs (Decidable (_ ∧ _))

/-- The snapshot update of the call, if any, succeeds. -/
def Retakes (s : DeterministicOms) (input : OmsInput) : Prop :=
  (s.receive input).2.snapshotChanged = true →
    validSnapshot ((s.reserving (s.receive input).1).nextSnapshot input
      (s.journal.reservedSequence + 1)) = true

instance (s : DeterministicOms) (input : OmsInput) : Decidable (s.Retakes input) :=
  inferInstanceAs (Decidable (_ → _))

variable {s s' : DeterministicOms} {input : OmsInput} {r : InternalResult} {published : Bool}

structure SameOrders (s s' : DeterministicOms) : Prop where
  orders : s'.orders = s.orders
  token : s'.activeFencingToken = s.activeFencingToken

theorem SameOrders.of_ledger (ledger : s'.ledger = s.ledger) : SameOrders s s' :=
  ⟨congrArg Ledger.orders ledger, congrArg Ledger.activeFencingToken ledger⟩

theorem unreported_of_effect (effect : Effect s input s' r) (quiet : r.snapshotChanged = false) :
    SameOrders s s' ∨
      ∃ index slot, SilentBinding s input index slot ∧ s.resolveOrder input = some index ∧
        s.authorityMatches input.authority ∧
        s'.orders = Function.update s.orders index slot ∧
        s'.activeFencingToken = s.activeFencingToken := by
  cases effect with
  | refused leaves => exact .inl (.of_ledger leaves.ledger)
  | moved index slot event moves leaves reported =>
    rcases reported with flagged | silent
    · rw [flagged] at quiet
      cases quiet
    · exact .inr ⟨index, slot, silent, moves.resolved, moves.authority, leaves.orders,
        leaves.activeFencingToken⟩
  | accepted _ _ _ _ _ _ result =>
    rw [result] at quiet
    cases quiet
  | discovered _ _ _ flagged | executed _ _ _ _ _ _ _ _ _ _ flagged
  | confirmed _ _ _ _ _ _ _ _ flagged | rotated _ _ _ flagged =>
    rw [flagged] at quiet
    cases quiet

/-- The state in which `apply_fill` fills the order just filed. -/
def filing (s : DeterministicOms) (input : OmsInput) (index : OrderIndex) : DeterministicOms :=
  { s.modifyOrder index (fun _ => s.unknownOrderRecord input) with health := .recovering }

theorem applyFill_filing {index : OrderIndex} (authority : s.authorityMatches input.authority)
    (absent : s.resolveOrder input = none) (named : (s.unknownOrderId input).valid)
    (free : s.findFreeOrder (s.unknownOrderId input) = some index) :
    s.applyFill input = (s.filing input index).applyFillAt input index := by
  simp [applyFill, authority, absent, unknownOrder, named, free, filing]

theorem filing_bindable (index : OrderIndex) (absent : s.resolveOrder input = none) :
    (s.filing input index).Bindable index input.externalOrderId := by
  intro valid
  have others := (findOrderByExternal_eq_none_iff valid).mp (resolveOrder_eq_none.mp absent).2
  have record : ((s.filing input index).orders index).value = s.unknownOrderRecord input := by
    simp [filing]
  refine ⟨.inr (findOrderByExternal_of_unique valid ?_ ?_ fun other occ same => ?_), fun _ => ?_⟩
  · rw [record]
    rfl
  · rw [record]
    rfl
  · by_contra ne
    have kept : (s.filing input index).orders other = s.orders other :=
      modifyOrder_of_ne (s := s) ne fun _ => s.unknownOrderRecord input
    rw [kept] at occ same
    exact others other occ same
  · rw [record]
    rfl

theorem applyFillAt_filing_quiet {index : OrderIndex} (kind : input.kind = .fill)
    (absent : s.resolveOrder input = none) (named : (s.unknownOrderId input).valid)
    (free : s.findFreeOrder (s.unknownOrderId input) = some index) :
    ((s.filing input index).applyFillAt input index).2.snapshotChanged = false ↔
      s.silentFiling input := by
  have unknown : ((s.filing input index).orders index).value.state = .unknownRecovery := by
    simp [filing, unknownOrderRecord]
  have orderId : ((s.filing input index).orders index).value.orderId = s.unknownOrderId input := by
    simp [filing, unknownOrderRecord]
  have external : mapsExternal ((s.filing input index).orders index).value input = false := by
    simp [filing, unknownOrderRecord, mapsExternal]
  have bindable := filing_bindable index absent
  unfold silentFiling applyFillAt
  rw [show (s.filing input index).findExecution = s.findExecution from rfl,
    show (s.filing input index).findFreeExecution = s.findFreeExecution from rfl]
  simp only [kind, absent, named, free, decide_true, Option.isSome_some, Bool.true_and]
  cases found : s.findExecution input.executionId with
  | some execution =>
    have executions : (s.filing input index).executions = s.executions := rfl
    dsimp only
    rw [← orderId, ← executions]
    cases same : sameExecution ((s.filing input index).executions execution) input
        ((s.filing input index).orders index).value.orderId with
    | false => simp [applyExistingFill_conflict same]
    | true =>
      by_cases seen : ((s.filing input index).executions execution).sourceMask &&&
          sourceBit input.source = 0
      · simp [applyExistingFill_confirmed same bindable seen, seen]
      · simp [applyExistingFill_repeated same bindable seen, seen, external]
  | none =>
    cases room : s.findFreeExecution input.executionId with
    | none => simp
    | some execution => simp [applyNewFill_unknown unknown bindable]

theorem applyLocked_unreported (reaches : s.Reaches input) (loud : ¬ s.Silent input)
    (quiet : (s.applyLocked input).2.snapshotChanged = false) :
    SameOrders s (s.applyLocked input).1 := by
  have settle : ∀ {s' : DeterministicOms} {r : InternalResult}, Effect s input s' r →
      r.snapshotChanged = false → SameOrders s s' := by
    intro s' r effect quiet
    rcases unreported_of_effect effect quiet with
      same | ⟨index, slot, silent, resolved, authority, orders, token⟩
    · exact same
    -- The identifier was bound already.
    have unchanged : slot = s.orders index := by
      rw [silent.slot, bound_eq_self silent.bindable]
      by_contra maps
      refine loud ⟨reaches, authority, .inr ?_⟩
      simp [silentBinding, silent.kind, resolved, silent.known, silent.observation,
        silent.quantity, silent.bindable, Bool.eq_true_of_not_eq_false maps]
    rw [unchanged, Function.update_eq_self] at orders
    exact ⟨orders, token⟩
  have handled := applyLocked_handled (s := s) reaches.valid
  by_cases kind : input.kind = .fill
  · have handler : s.applyLocked input = s.applyFill input := by simp [applyLocked, kind]
    rw [handler] at quiet ⊢
    by_cases authority : s.authorityMatches input.authority
    · cases resolved : s.resolveOrder input with
      | some index =>
        have fill : s.applyFill input = s.applyFillAt input index := by
          simp [applyFill, authority, resolved]
        rw [fill] at quiet ⊢
        exact settle (applyFillAt_effect kind authority resolved) quiet
      | none =>
        by_cases named : (s.unknownOrderId input).valid
        · cases free : s.findFreeOrder (s.unknownOrderId input) with
          | none =>
            have fill : (s.applyFill input).1 = s := by
              simp [applyFill, authority, resolved, unknownOrder, named, free]
            rw [fill]
            exact ⟨rfl, rfl⟩
          | some index =>
            rw [applyFill_filing authority resolved named free,
              applyFillAt_filing_quiet kind resolved named free] at quiet
            exact absurd ⟨reaches, authority, .inl quiet⟩ loud
        · have fill : (s.applyFill input).1 = s := by
            simp [applyFill, authority, resolved, unknownOrder, named, notFoundResult]
          rw [fill]
          exact ⟨rfl, rfl⟩
    · have fill : (s.applyFill input).1 = s := by simp [applyFill, authority]
      rw [fill]
      exact ⟨rfl, rfl⟩
  · cases handled with
    | directly effect => exact settle effect quiet
    | afterDiscovery _ _ isFill => exact absurd isFill kind

theorem Silent.applyLocked (silent : s.Silent input) :
    (s.applyLocked input).2.snapshotChanged = false ∧
      ∃ index, ((s.applyLocked input).1.orders index).value ≠ (s.orders index).value := by
  obtain ⟨reaches, authority, filing | binding⟩ := silent
  · have parts := filing
    simp only [silentFiling, Bool.and_eq_true, decide_eq_true_eq, Option.isSome_iff_exists] at parts
    obtain ⟨⟨⟨⟨kind, absent⟩, named⟩, ⟨index, free⟩⟩, -⟩ := parts
    have handler : s.applyLocked input = (s.filing input index).applyFillAt input index := by
      rw [← applyFill_filing authority absent named free]
      simp [DeterministicOms.applyLocked, kind]
    have quiet := (applyFillAt_filing_quiet kind absent named free).mpr filing
    refine ⟨handler ▸ quiet, index, fun same => ?_⟩
    have occ : ((s.filing input index).orders index).value.occupied := by
      simp [DeterministicOms.filing, unknownOrderRecord]
    have matched : (s.filing input index).authorityMatches input.authority := authority
    have resolved : (s.filing input index).resolveOrder input = some index :=
      resolveOrder_discovered absent named free
    have effect := applyFillAt_effect kind matched resolved
    have identity := effect.identity index occ
    rw [← handler, same] at identity
    have vacant := vacant_of_findFreeOrder free
    have taken : (s.orders index).value.occupied :=
      (congrArg OrderIdentity.occupied identity).trans occ
    rw [vacant] at taken
    cases taken
  · simp only [silentBinding, Bool.and_eq_true, decide_eq_true_eq] at binding
    obtain ⟨kind, rest⟩ := binding
    cases resolved : s.resolveOrder input with
    | none =>
      rw [resolved] at rest
      cases rest
    | some index =>
      simp only [resolved, Bool.and_eq_true, decide_eq_true_eq, Bool.or_eq_true] at rest
      obtain ⟨⟨⟨⟨⟨unknown, intent⟩, observation⟩, quantity⟩, maps⟩, bindable⟩ := rest
      have refused : observed ((s.orders index).value.bound input.externalOrderId) input = none := by
        unfold observed
        rw [observation]
        exact if_pos quantity
      have handler : s.applyLocked input = (s.modifyOrder index (·.bound input.externalOrderId),
            { status := .invalid, reason := .invalidQuantity, orderIndex := some index,
              previousState := (s.orders index).value.state }) := by
        simp [DeterministicOms.applyLocked, kind, applyRecoveryObservation, authority, resolved,
          unknown, intent, bindReported_eq, bindable, observation, refused]
      rw [handler]
      refine ⟨rfl, index, fun same => ?_⟩
      simp only [mapsExternal, Bool.and_eq_true, Bool.not_eq_true'] at maps
      simp only [modifyOrder_self] at same
      have external := congrArg OmsOrderSnapshot.externalOrderId same
      simp only [OmsOrderSnapshot.bound, maps.1, if_true] at external
      rw [← external, maps.1] at maps
      cases maps.2

theorem coherent_of_nextSnapshot {sequence : Nat} (wf : WellFormed s.ledger)
    (ledger : s'.ledger = s.ledger) (snapshot : s'.snapshot = s.nextSnapshot input sequence) :
    s'.Coherent := by
  have orders : s'.orders = s.orders := congrArg Ledger.orders ledger
  refine ⟨fun index => ?_, ?_⟩
  · rw [snapshot, orders]
    have shown : (s.nextSnapshot input sequence).orders index =
        if (s.orders index).value.occupied then (s.orders index).value else {} := rfl
    rw [shown]
    cases occ : (s.orders index).value.occupied with
    | true => rfl
    | false => exact (wf.vacant index occ).symm
  · rw [snapshot, show s'.activeFencingToken = _ from congrArg Ledger.activeFencingToken ledger]
    rfl

theorem Coherent.of_same (coherent : s.Coherent) (same : SameOrders s s')
    (snapshot : s'.snapshot = s.snapshot) : s'.Coherent := by
  refine ⟨fun index => ?_, ?_⟩
  · rw [snapshot, same.orders]
    exact coherent.orders index
  · rw [snapshot, same.token]
    exact coherent.token

/-- A call keeps a snapshot coherent unless it is silent. -/
theorem Coherent.apply (coherent : s.Coherent) (inv : Invariant s) (retakes : s.Retakes input)
    (loud : ¬ s.Silent input) : (s.apply input published).1.Coherent := by
  cases apply_applied s input published with
  | idle off same =>
    rw [same]
    exact coherent
  | exhausted running full same =>
    rw [same]
    exact coherent.of_same ⟨rfl, rfl⟩ rfl
  | committed m internal running room received concluded closing receiving =>
    cases concluded with
    | quiet unchanged snapshot =>
      have same : SameOrders s m := by
        cases received with
        | refused leaves => exact .of_ledger leaves.ledger
        | handled h receipt valid fresh free =>
          rw [receive_handled valid fresh free, Prod.mk.injEq] at receiving
          obtain ⟨rfl, rfl⟩ := receiving
          obtain ⟨orders, token⟩ :=
            applyLocked_unreported ⟨running, room, valid, fresh⟩ loud unchanged
          exact ⟨orders, token⟩
      refine coherent.of_same ⟨?_, ?_⟩ (snapshot.trans received.frame.snapshot)
      · exact (congrArg Ledger.orders closing.ledger).trans same.orders
      · exact (congrArg Ledger.activeFencingToken closing.ledger).trans same.token
    | refreshed changed valid snapshot =>
      have wf : WellFormed m.ledger := received.wellFormed inv.wellFormed running.2
      exact coherent_of_nextSnapshot (s := s.reserving m) wf closing.ledger snapshot
    | failed changed invalid =>
      unfold Retakes at retakes
      rw [receiving] at retakes
      rw [retakes changed] at invalid
      cases invalid

theorem Silent.stale (silent : s.Silent input) (inv : Invariant s) (coherent : s.Coherent) :
    ¬ (s.apply input published).1.Coherent := by
  intro after
  have reaches := silent.1
  obtain ⟨receipt, free⟩ := inv.receiptRoom reaches.room input.receiptId
  obtain ⟨quiet, index, changed⟩ := silent.applyLocked
  have orders := reaches.orders free published
  cases (reaches.spec free published).1 with
  | quiet unchanged snapshot =>
    have kept := (applyLocked_handled (s := s) reaches.valid).frame.snapshot
    have shown := after.orders index
    rw [snapshot.trans kept, coherent.orders index, orders] at shown
    exact changed shown.symm
  | refreshed flagged | failed flagged =>
    rw [quiet] at flagged
    cases flagged

end DeterministicOms

open DeterministicOms

/-- The snapshot update succeeds, and the call reports changes. -/
def DeterministicOms.Reports (s : DeterministicOms) (c : Call) : Prop :=
  s.Retakes c.input ∧ ¬ s.Silent c.input

instance (s : DeterministicOms) (c : Call) : Decidable (s.Reports c) :=
  inferInstanceAs (Decidable (_ ∧ _))

theorem construct_coherent {configuration : OmsConfiguration}
    (valid : validConfiguration configuration) : (construct configuration).Coherent := by
  have facts := ConfigurationFacts.of_valid valid
  have empty : ∀ s : DeterministicOms, s.orders = (fun _ => {}) → s.OrdersValid := by
    intro s orders index occ
    rw [orders] at occ
    cases occ
  unfold construct
  simp only [valid, Bool.not_true, Bool.false_eq_true, if_false, recomputeSnapshot]
  rw [(validSnapshot_buildSnapshot _ 1 0 0 facts facts.initialFencingToken (by decide)).mpr
    (empty _ rfl)]
  exact ⟨fun _ => rfl, rfl⟩

/-- Where all calls report what they change, the snapshot equals the live table; a call keeps that
exactly when it is not silent. -/
theorem snapshot_coherence (configuration : OmsConfiguration)
    (valid : validConfiguration configuration = true) :
    (∀ calls : List Call, Throughout call Reports (.construct configuration) calls →
        Always call Coherent (.construct configuration) calls) ∧
      (∀ (s : DeterministicOms) (c : Call), Reachable configuration s → s.Coherent →
        s.Retakes c.input → ((s.call c).Coherent ↔ ¬ s.Silent c.input)) := by
  refine ⟨fun calls conditions => ?_, fun s c reachable coherent retakes => ?_⟩
  · have carried : Always call (fun s => Invariant s ∧ s.Coherent) (.construct configuration)
        calls := by
      refine always_of_throughout (fun s c held reports => ?_)
        ⟨(construct_fresh configuration).invariant, construct_coherent valid⟩ conditions
      exact ⟨held.1.apply c.input c.published, held.2.apply held.1 reports.1 reports.2⟩
    exact fun before initial => (carried before initial).2
  · have inv := reachable.invariant
    exact ⟨fun after silent => silent.stale inv coherent after, coherent.apply inv retakes⟩

open TestSupport

theorem snapshot_coherence_of_sent_order : Always call Coherent (.construct configuration)
      [⟨accept 1 1, true⟩, ⟨internal .markReady (orderId 1) 2, true⟩,
        ⟨internal .dispatch (orderId 1) 3, true⟩] :=
  (snapshot_coherence configuration (by decide +kernel)).1 _ (by decide +kernel)

def refusedObservation : DeterministicOms :=
  run call (.construct configuration)
    [⟨accept 1 1, true⟩, ⟨internal .markReady (orderId 1) 2, true⟩,
      ⟨internal .dispatch (orderId 1) 3, true⟩, ⟨internal .recoveryBegin (orderId 1) 4, true⟩,
      ⟨recoveryObservation (orderId 1) 5 .partiallyFilled 10, true⟩]

/-- A refused observation bound the external identifier. -/
theorem snapshot_stale_after_refused_observation : ¬ refusedObservation.Coherent := by
  obtain ⟨index, differs⟩ : ∃ index : OrderIndex,
      (refusedObservation.snapshot.orders index).externalOrderId ≠
        (refusedObservation.orders index).value.externalOrderId := ⟨64, by decide +kernel⟩
  intro coherent
  exact differs (congrArg OmsOrderSnapshot.externalOrderId (coherent.orders index))

end Aegis.Oms
