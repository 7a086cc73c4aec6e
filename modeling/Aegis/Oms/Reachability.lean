import Aegis.Foundation.Runs
import Aegis.Oms.WellFormed

/-!
The reachable states of the service and their invariant.
-/

namespace Aegis.Oms

open Aegis.Common Aegis.Foundation Function DeterministicOms

namespace DeterministicOms

variable {s s' : DeterministicOms}

theorem healthFromState_congr (ledger : s'.ledger = s.ledger)
    (invariant : s'.invariant = s.invariant) :
    s'.healthFromState = s.healthFromState := by
  have orders : s'.orders = s.orders := congrArg Ledger.orders ledger
  have executions : s'.executions = s.executions := congrArg Ledger.executions ledger
  have configuration : s'.configuration = s.configuration := congrArg Ledger.configuration ledger
  unfold healthFromState
  rw [orders, executions, configuration, invariant]

theorem healthFromState_eq_healthy : s.healthFromState = .healthy ↔ s.invariant = .none ∧
        (∀ index, (s.orders index).value.occupied →
          (s.orders index).value.state ≠ .unknownRecovery) ∧
        (s.configuration.requireDropCopy → ∀ execution,
          (s.executions execution).occupied → (s.executions execution).sourceMask = 3) := by
  unfold healthFromState
  by_cases alarm : s.invariant = .none
  · simp only [alarm, ne_eq, not_true_eq_false, if_false, true_and]
    by_cases unknown : ∃ index, (s.orders index).value.occupied ∧
        (s.orders index).value.state = .unknownRecovery
    · obtain ⟨index, occ, lost⟩ := unknown
      have someLost : (orderSlots.any fun index => (s.orders index).value.occupied &&
          (s.orders index).value.state == .unknownRecovery) := by
        rw [List.any_eq_true]
        exact ⟨index, mem_orderSlots index, by simp [occ, lost]⟩
      simp only [someLost, Bool.true_or, if_true, reduceCtorEq, false_iff]
      rintro ⟨known, -⟩
      exact known index occ lost
    · simp only [not_exists, not_and] at unknown
      have noneLost : (orderSlots.any fun index => (s.orders index).value.occupied &&
          (s.orders index).value.state == .unknownRecovery) = false := by
        rw [List.any_eq_false]
        intro index _
        simpa using unknown index
      simp only [noneLost, Bool.false_or]
      cases s.configuration.requireDropCopy with
      | false => simpa using unknown
      | true => simpa using fun _ => unknown
  · simp [alarm]

def OrdersBalanced (s : DeterministicOms) : Prop :=
  ∀ index, (s.orders index).value.occupied = true → (s.orders index).value.intentId.valid = true →
    (s.orders index).value.view.Balanced

theorem ordersValid_iff_balanced (wf : WellFormed s.ledger) : s.OrdersValid ↔ s.OrdersBalanced := by
  constructor
  · intro valid index occ
    exact ((wf.ordersSound index occ).validOrderSnapshot_iff occ).mp (valid index occ)
  · intro balanced index occ
    exact ((wf.ordersSound index occ).validOrderSnapshot_iff occ).mpr (balanced index occ)

theorem OrdersBalanced.update (balanced : s.OrdersBalanced) {index : OrderIndex} {slot : OrderSlot}
    (orders : s'.orders = update s.orders index slot)
    (kept : slot.value.occupied → slot.value.intentId.valid →
      slot.value.view.Balanced) : s'.OrdersBalanced := by
  intro other
  rw [orders]
  by_cases eq : other = index
  · subst eq
    simpa using kept
  · rw [update_of_ne eq]
    exact balanced other

theorem OrdersBalanced.congr (balanced : s.OrdersBalanced) (orders : s'.orders = s.orders) :
    s'.OrdersBalanced := by
  unfold OrdersBalanced
  rw [orders]
  exact balanced

end DeterministicOms

section Handlers

variable {s s' : DeterministicOms} {input : OmsInput} {r : InternalResult}

theorem Discovery.balanced {index : OrderIndex} (discovery : Discovery s input s' index)
    (balanced : s.OrdersBalanced) : s'.OrdersBalanced := by
  refine balanced.update discovery.leaves.orders fun _ accepted => ?_
  have missing : (s.unknownOrderRecord input).intentId.valid = false := rfl
  rw [missing] at accepted
  cases accepted

theorem Effect.balanced_of_quiet (effect : Effect s input s' r) (quiet : r.snapshotChanged = false)
    (balanced : s.OrdersBalanced) : s'.OrdersBalanced := by
  cases effect with
  | refused leaves => exact balanced.congr leaves.orders
  | moved index slot event moves leaves reported =>
    rcases reported with flagged | silent
    · rw [flagged] at quiet
      cases quiet
    · refine balanced.update leaves.orders ?_
      rw [silent.slot]
      exact balanced index
  | accepted _ _ _ _ _ _ result =>
    rw [result] at quiet
    cases quiet
  | discovered _ _ _ flagged | executed _ _ _ _ _ _ _ _ _ _ flagged
  | confirmed _ _ _ _ _ _ _ _ flagged | rotated _ _ _ flagged =>
    rw [flagged] at quiet
    cases quiet

theorem Received.balanced_of_quiet (received : Received s input s' r)
    (quiet : r.snapshotChanged = false) (balanced : s.OrdersBalanced) : s'.OrdersBalanced := by
  cases received with
  | refused leaves => exact balanced.congr leaves.orders
  | handled h receipt valid fresh free handled recorded =>
    subst recorded
    cases handled with
    | directly effect => exact effect.balanced_of_quiet quiet balanced
    | afterDiscovery s₁ index kind discovery resolved effect =>
      exact effect.balanced_of_quiet quiet (discovery.balanced balanced)

theorem Received.used_receipts (received : Received s input s' r) :
    receiptLayout.used s'.receipts ≤ receiptLayout.used s.receipts + 1 := by
  cases received with
  | refused leaves =>
    have same : s'.receipts = s.receipts := leaves.receipts
    rw [same]
    exact Nat.le_succ _
  | handled h receipt valid fresh free handled recorded =>
    subst recorded
    exact (Layout.used_insert (Layout.free_of_findFree free) rfl).le

theorem Effect.identity (effect : Effect s input s' r) (index : OrderIndex)
    (occ : (s.orders index).value.occupied) :
    (s'.orders index).value.identity = (s.orders index).value.identity := by
  have update : ∀ {other : OrderIndex} {slot : OrderSlot}, s'.orders = update s.orders other slot →
      (other = index → slot.value.identity = (s.orders index).value.identity) →
      (s'.orders index).value.identity = (s.orders index).value.identity := by
    intro other slot orders same
    rw [orders]
    by_cases eq : index = other
    · subst eq
      simpa using same rfl
    · rw [update_of_ne eq]
  have taken : ∀ {orderId : OrderId} {other : OrderIndex},
      s.findFreeOrder orderId = some other → other ≠ index := by
    rintro orderId other free rfl
    rw [vacant_of_findFreeOrder free] at occ
    cases occ
  cases effect with
  | refused leaves => rw [show s'.orders = s.orders from leaves.orders]
  | accepted other _ _ _ free leaves =>
    exact update leaves.orders fun eq => absurd eq (taken free)
  | discovered other discovery =>
    exact update discovery.leaves.orders fun eq =>
      absurd eq (taken discovery.free)
  | moved other slot event moves leaves
  | executed other slot event execution moves kind counted new free leaves
  | confirmed other slot execution moves kind found same leaves =>
    exact update leaves.orders fun eq => eq ▸ moves.revised.identity
  | rotated kind newer leaves =>
    rw [show s'.orders = _ from leaves.orders]
    rcases rotatedSlot_cases (s.orders index) input with same | ⟨-, -, identity, -⟩
    · exact congrArg (fun slot => slot.value.identity) same
    · exact identity

end Handlers

structure Invariant (s : DeterministicOms) : Prop where
  wellFormed : WellFormed s.ledger
  /-- A healthy service has no alarm and nothing to recover. -/
  settled : s.health = .healthy → s.healthFromState = .healthy
  ordersValid : s.invariant = .none → s.OrdersValid
  counted : receiptLayout.used s.receipts ≤ s.journal.reservedSequence

@[simp] theorem OmsJournal.commit_reservedSequence (journal : OmsJournal) (sequence : Nat)
    (input : OmsInput) (result : ApplyResult) :
    (journal.commit sequence input result).reservedSequence = journal.reservedSequence := by
  unfold OmsJournal.commit
  split <;> rfl

namespace Invariant

open DeterministicOms

variable {s : DeterministicOms}

section

variable (inv : Invariant s)
include inv

theorem of_ledger {s' : DeterministicOms}
    (wellFormed : WellFormed s'.ledger) (orders : s'.orders = s.orders)
    (receipts : s'.receipts = s.receipts) (journal : s'.journal = s.journal)
    (settled : s'.health = .healthy → s'.healthFromState = .healthy)
    (alarm : s'.invariant = s.invariant ∨ s'.invariant ≠ .none) : Invariant s' := by
  refine ⟨wellFormed, settled, fun clear => ?_, ?_⟩
  · rcases alarm with same | alarm
    · unfold OrdersValid
      rw [orders]
      exact inv.ordersValid (same ▸ clear)
    · exact absurd clear alarm
  · rw [receipts, journal]
    exact inv.counted

theorem setUnsafe {invariant : OmsInvariant} (alarm : invariant ≠ .none) :
    Invariant (s.setUnsafe invariant) :=
  inv.of_ledger inv.wellFormed rfl rfl rfl (by simp [DeterministicOms.setUnsafe]) (.inr alarm)

theorem updateHealthFromState : Invariant s.updateHealthFromState := by
  have ledger := updateHealthFromState_ledger (s := s)
  refine inv.of_ledger (ledger ▸ inv.wellFormed) rfl rfl rfl (fun healthy => ?_) (.inl rfl)
  exact (healthFromState_congr ledger rfl).trans healthy

theorem apply (input : OmsInput) (published : Bool) :
    Invariant (s.apply input published).1 := by
  cases apply_applied s input published with
  | idle off same =>
    rw [same]
    exact inv
  | exhausted running full same =>
    rw [same]
    exact inv.setUnsafe (by simp)
  | committed m internal running room received concluded closing =>
    have wf : WellFormed m.ledger := received.wellFormed inv.wellFormed running.2
    have ledger : (s.apply input published).1.ledger = m.ledger := closing.ledger
    have orders : (s.apply input published).1.orders = m.orders := congrArg Ledger.orders ledger
    refine ⟨ledger ▸ wf, ?_, ?_, ?_⟩
    · intro healthy
      -- The health was computed from these very tables, or an alarm was raised since.
      cases concluded with
      | quiet unchanged snapshot health invariant status =>
        rw [healthFromState_congr closing.ledger invariant, ← health]
        exact healthy
      | refreshed changed valid snapshot health invariant status =>
        cases published with
        | false =>
          rw [health] at healthy
          cases healthy
        | true =>
          rw [healthFromState_congr closing.ledger invariant]
          exact health.symm.trans healthy
      | failed changed invalid snapshot health => exact absurd healthy health
    · intro clear
      rw [ordersValid_iff_balanced (ledger ▸ wf)]
      have balanced : m.OrdersBalanced := by
        cases concluded with
        | quiet unchanged snapshot health invariant status =>
          have before : s.invariant = .none := received.frame.alarm (invariant.symm.trans clear)
          exact received.balanced_of_quiet unchanged
            ((ordersValid_iff_balanced inv.wellFormed).mp (inv.ordersValid before))
        | refreshed changed valid snapshot health invariant status =>
          have taken : (s.reserving m).OrdersValid := ordersValid_of_nextSnapshot valid
          exact (ordersValid_iff_balanced wf).mp taken
        | failed changed invalid snapshot health invariant => exact absurd clear invariant
      exact balanced.congr orders
    · have receipts : (s.apply input published).1.receipts = m.receipts :=
        congrArg Ledger.receipts ledger
      have one := received.used_receipts
      have before := inv.counted
      rw [receipts, closing.journal, OmsJournal.commit_reservedSequence]
      exact one.trans (Nat.succ_le_succ before)

end

end Invariant

section

variable {configuration : OmsConfiguration} {s : DeterministicOms}

theorem Invariant.receiptRoom (inv : Invariant s) (room : s.JournalRoom)
    (receiptId : GlobalEventId) : ∃ receipt, s.findFreeReceipt receiptId = some receipt := by
  refine Layout.findFree_isSome (Layout.exists_free_of_used_lt ?_) receiptId
  exact inv.counted.trans_lt room

theorem Invariant.clear (inv : Invariant s) (healthy : s.health = .healthy) : s.invariant = .none :=
  (healthFromState_eq_healthy.mp (inv.settled healthy)).1

theorem WellFormed.empty {token : UInt64} {initialized : Bool}
    (configured : initialized → ConfigurationFacts configuration ∧ token ≠ 0) : WellFormed
      { configuration, orders := fun _ => {}, executions := fun _ => {}, receipts := fun _ => {},
        activeFencingToken := token, initialized, stopped := false } where
  configured := configured
  ordersChained := fun _ occ => nomatch occ
  executionsChained := fun _ occ => nomatch occ
  executionsDistinct := fun _ _ occ => nomatch occ
  receiptsChained := fun _ occ => nomatch occ
  vacant := fun _ _ => rfl
  intentsDistinct := fun _ _ occ => nomatch occ
  acceptedFound := fun _ occ => nomatch occ
  ordersSound := fun _ occ => nomatch occ
  executionsNamed := fun _ occ => nomatch occ

namespace DeterministicOms

/-- A fresh service: empty tables, no receipts, an empty journal. -/
structure Fresh (s : DeterministicOms) (configuration : OmsConfiguration) : Prop where
  ledger : s.ledger =
    { configuration, orders := fun _ => {}, executions := fun _ => {}, receipts := fun _ => {},
      activeFencingToken := configuration.initialFencingToken
      initialized := validConfiguration configuration, stopped := false }
  journal : s.journal = {}
  settled : s.health = .healthy → s.invariant = .none
  orderCount : s.snapshot.orderCount = 0

theorem construct_fresh (configuration : OmsConfiguration) :
    (construct configuration).Fresh configuration := by
  unfold construct
  cases valid : validConfiguration configuration with
  | false => exact ⟨by simp [ledger, valid], rfl, (fun healthy => by cases healthy), rfl⟩
  | true =>
    simp only [Bool.not_true, Bool.false_eq_true, if_false, recomputeSnapshot]
    split
    · exact ⟨by simp [ledger, valid, setUnsafe], rfl, (fun healthy => by cases healthy), rfl⟩
    · refine ⟨by simp [ledger, valid], rfl, fun _ => rfl, ?_⟩
      simp [buildSnapshot, draftSnapshot]

theorem Fresh.invariant (fresh : s.Fresh configuration) : Invariant s := by
  have orders : s.orders = fun _ => {} := congrArg Ledger.orders fresh.ledger
  have executions : s.executions = fun _ => {} := congrArg Ledger.executions fresh.ledger
  have receipts : s.receipts = fun _ => {} := congrArg Ledger.receipts fresh.ledger
  refine ⟨?_, ?_, ?_, ?_⟩
  · rw [fresh.ledger]
    refine WellFormed.empty fun valid => ?_
    have facts := ConfigurationFacts.of_valid valid
    exact ⟨facts, facts.initialFencingToken⟩
  · intro healthy
    rw [healthFromState_eq_healthy, orders, executions]
    exact ⟨fresh.settled healthy, nofun, nofun⟩
  · intro _ index
    rw [orders]
    nofun
  · rw [receipts]
    simp [Layout.used, receiptLayout]

theorem shutdown_spec (s : DeterministicOms) (timeNs : UInt64) (published : Bool) :
    (s.shutdown timeNs published).ledger = { s.ledger with stopped := true } ∧
      (s.shutdown timeNs published).journal = s.journal ∧
      (s.shutdown timeNs published).health ≠ .healthy ∧
      ((s.shutdown timeNs published).invariant = s.invariant ∨
        (s.shutdown timeNs published).invariant ≠ .none) := by
  unfold shutdown recomputeSnapshot publishSnapshot
  split
  · dsimp only
    split <;> exact ⟨rfl, rfl, by simp, by simp⟩
  · dsimp only
    split <;> exact ⟨rfl, rfl, by simp, by simp⟩

end DeterministicOms

theorem Invariant.shutdown (inv : Invariant s) (timeNs : UInt64)
    (published : Bool) : Invariant (s.shutdown timeNs published) := by
  obtain ⟨ledger, journal, unhealthy, alarm⟩ := s.shutdown_spec timeNs published
  refine inv.of_ledger ?_ (congrArg Ledger.orders ledger) (congrArg Ledger.receipts ledger) journal
    (fun healthy => absurd healthy unhealthy) alarm
  rw [ledger]
  exact ⟨inv.wellFormed.configured, inv.wellFormed.ordersChained, inv.wellFormed.executionsChained,
    inv.wellFormed.executionsDistinct, inv.wellFormed.receiptsChained, inv.wellFormed.vacant,
    inv.wellFormed.intentsDistinct, inv.wellFormed.acceptedFound, inv.wellFormed.ordersSound,
    inv.wellFormed.executionsNamed⟩

end

/-- The states of a service called through its public interface. -/
inductive Reachable (configuration : OmsConfiguration) : DeterministicOms → Prop where
  | construct : Reachable configuration (.construct configuration)
  | apply {s} (input : OmsInput) (published : Bool) (reachable : Reachable configuration s) :
      Reachable configuration (s.apply input published).1
  | recoverFrom {s} (source : OmsJournal) (recoveryTimeNs : UInt64) (published : Nat → Bool)
      (reachable : Reachable configuration s) :
      Reachable configuration (s.recoverFrom source recoveryTimeNs published).1
  | verifyInvariants {s} (reachable : Reachable configuration s) :
      Reachable configuration s.verifyInvariants.1
  | shutdown {s} (timeNs : UInt64) (published : Bool) (reachable : Reachable configuration s) :
      Reachable configuration (s.shutdown timeNs published)

/-- A property that calls, alarms and health updates keep. -/
structure Stable (P : DeterministicOms → Prop) : Prop where
  apply : ∀ s input published, P s → P (s.apply input published).1
  setUnsafe : ∀ s invariant, invariant ≠ .none → P s → P (s.setUnsafe invariant)
  updateHealth : ∀ s, P s → P s.updateHealthFromState

namespace Stable

variable {P : DeterministicOms → Prop}

theorem replayFrom (stable : Stable P) (source : OmsJournal) (published : Nat → Bool)
    (remaining sequence : Nat) (s : DeterministicOms) (holds : P s) :
    P (DeterministicOms.replayFrom source published remaining sequence s).1 := by
  induction remaining generalizing sequence s with
  | zero => exact holds
  | succ remaining ih =>
    unfold DeterministicOms.replayFrom
    split
    · exact stable.setUnsafe _ _ (by simp) holds
    rename_i record _
    have next := stable.apply s record.input (published sequence) holds
    dsimp only
    split
    · exact stable.setUnsafe _ _ (by simp) next
    · exact ih _ _ next

theorem inhibitFrom (stable : Stable P) (sourceSize : Nat) (recoveryTimeNs : UInt64)
    (published : Nat → Bool) (slots : List OrderIndex) (ordinal : Nat) (s : DeterministicOms)
    (holds : P s) :
    P (DeterministicOms.inhibitFrom sourceSize recoveryTimeNs published slots ordinal s).1 := by
  induction slots generalizing ordinal s with
  | nil => exact holds
  | cons index rest ih =>
    unfold DeterministicOms.inhibitFrom
    dsimp only
    split
    · exact ih _ _ holds
    · split
      · exact stable.setUnsafe _ _ (by simp) (stable.apply s _ _ holds)
      · exact ih _ _ (stable.apply s _ _ holds)

theorem recoverFrom (stable : Stable P) (source : OmsJournal) (recoveryTimeNs : UInt64)
    (published : Nat → Bool) (s : DeterministicOms) (holds : P s) :
    P (s.recoverFrom source recoveryTimeNs published).1 := by
  have replayed := stable.replayFrom source published source.size 1 s holds
  unfold DeterministicOms.recoverFrom
  split
  · exact holds
  split
  · rename_i failed status ended
    rw [ended] at replayed
    exact replayed
  rename_i state ended
  rw [ended] at replayed
  have inhibited := stable.inhibitFrom source.size recoveryTimeNs published orderSlots 0 state replayed
  split
  · rename_i failed status stopped
    rw [stopped] at inhibited
    exact inhibited
  · rename_i last stopped
    rw [stopped] at inhibited
    exact stable.updateHealth _ inhibited

end Stable

variable {configuration : OmsConfiguration} {s : DeterministicOms}

theorem Reachable.induct {P : DeterministicOms → Prop} (reachable : Reachable configuration s)
    (start : P (.construct configuration)) (stable : Stable P)
    (shutdown : ∀ s timeNs published, P s → P (s.shutdown timeNs published)) : P s := by
  induction reachable with
  | construct => exact start
  | apply input published _ ih => exact stable.apply _ _ _ ih
  | recoverFrom source recoveryTimeNs published _ ih => exact stable.recoverFrom _ _ _ _ ih
  | verifyInvariants _ ih =>
    unfold DeterministicOms.verifyInvariants
    split
    · exact ih
    · exact stable.setUnsafe _ _ (by simp) ih
  | shutdown timeNs published _ ih => exact shutdown _ _ _ ih

theorem Invariant.stable : Stable Invariant where
  apply := fun _ input published inv => inv.apply input published
  setUnsafe := fun _ _ alarm inv => inv.setUnsafe alarm
  updateHealth := fun _ inv => inv.updateHealthFromState

theorem Reachable.invariant (reachable : Reachable configuration s) : Invariant s :=
  reachable.induct (construct_fresh configuration).invariant Invariant.stable
    fun _ timeNs published inv => inv.shutdown timeNs published

/-- One call of `apply`, with the outcome of its publication. -/
structure Call where
  input : OmsInput
  published : Bool := true

def DeterministicOms.call (s : DeterministicOms) (c : Call) : DeterministicOms :=
  (s.apply c.input c.published).1

theorem Reachable.run (reachable : Reachable configuration s) (calls : List Call) :
    Reachable configuration (Foundation.run call s calls) := by
  induction calls generalizing s with
  | nil => exact reachable
  | cons c rest ih => exact ih (reachable.apply c.input c.published)

end Aegis.Oms
