import Aegis.Oms.Service
import Aegis.Oms.StateLaws

/-!
When `recompute_snapshot` succeeds: only the checks of single orders and of the event time can
fail.
-/

namespace Aegis.Oms

open Aegis.Common List

/-- The configuration facts that a snapshot repeats. -/
structure ConfigurationFacts (configuration : OmsConfiguration) : Prop where
  sessionId : configuration.sessionId.valid = true
  accountId : configuration.accountId.valid = true
  configurationVersion : configuration.configurationVersion.valid = true
  exchangeSessionEpoch : configuration.exchangeSessionEpoch ≠ 0
  initialFencingToken : configuration.initialFencingToken ≠ 0
  stableHash : configuration.stableHash ≠ 0

theorem ConfigurationFacts.of_valid {configuration : OmsConfiguration}
    (valid : validConfiguration configuration) : ConfigurationFacts configuration := by
  simp only [validConfiguration, Bool.and_eq_true, bne_iff_ne, ne_eq] at valid
  obtain ⟨⟨⟨⟨⟨⟨⟨⟨session, account⟩, version⟩, -⟩, epoch⟩, token⟩, -⟩, hash⟩, -⟩ := valid
  exact ⟨session, account, version, epoch, token, hash⟩

def OmsSnapshot.occupiedSlots (value : OmsSnapshot) : List (Fin kMaximumOmsOrders) :=
  orderSlots.filter fun index => (value.orders index).occupied

/-- The scalar checks of `valid_snapshot`. -/
structure SnapshotHeader (value : OmsSnapshot) : Prop where
  sessionId : value.sessionId.valid = true
  accountId : value.accountId.valid = true
  configurationVersion : value.configurationVersion.valid = true
  configurationHash : value.configurationHash ≠ 0
  exchangeSessionEpoch : value.exchangeSessionEpoch ≠ 0
  activeFencingToken : value.activeFencingToken ≠ 0
  snapshotSequence : value.snapshotSequence ≠ 0
  time : value.asOfProcessMonotonicTimeNs ≠ 0
  orderCount : value.orderCount ≤ kMaximumOmsOrders
  liveOrderCount : value.liveOrderCount ≤ value.orderCount
  unknownRecoveryCount : value.unknownRecoveryCount ≤ value.orderCount
  hashed : value.stableHash ≠ 0
  stableHash : value.stableHash = stableSnapshotHash value

/-- The checks of `valid_snapshot` that go through the orders. -/
structure SnapshotBody (value : OmsSnapshot) : Prop where
  orders : ∀ index, (value.orders index).occupied = true →
    validOrderSnapshot (value.orders index) = true
  orderCount : value.occupiedSlots.length = value.orderCount
  liveOrderCount : (value.occupiedSlots.countP fun index => liveState (value.orders index).state) =
    value.liveOrderCount
  unknownRecoveryCount :
    (value.occupiedSlots.countP fun index => (value.orders index).state == .unknownRecovery) =
      value.unknownRecoveryCount
  ready : value.ready = true →
    value.health = .healthy ∧ value.unknownRecoveryCount = 0 ∧ value.invariant = .none

theorem validSnapshot_iff {value : OmsSnapshot} :
    validSnapshot value ↔ SnapshotHeader value ∧ SnapshotBody value := by
  have health : ¬ value.health.code < OmsHealth.starting.code ∧
      ¬ value.health.code > OmsHealth.stopped.code := by
    cases value.health <;> decide
  have invariant : ¬ value.invariant.code > OmsInvariant.replayDiverged.code := by
    cases value.invariant <;> decide
  unfold validSnapshot
  split
  · rename_i rejected
    simp only [Bool.false_eq_true, false_iff, not_and]
    intro header
    exfalso
    obtain ⟨h1, h2, h3, h4, h5, h6, h7, h8, h9, h10, h11, h12, h13⟩ := header
    simp [h1, h2, h3, h4, h5, h6, h7, h8, h12, ← h13, Nat.not_lt.mpr h9, Nat.not_lt.mpr h10,
      Nat.not_lt.mpr h11] at rejected
    rcases rejected with (low | high) | out
    · exact health.1 low
    · exact health.2 high
    · exact invariant out
  · rename_i accepted
    simp only [Bool.or_eq_true, Bool.not_eq_true', beq_iff_eq, bne_iff_ne, ne_eq,
      decide_eq_true_eq, not_or, Bool.not_eq_false, not_not, GT.gt, Nat.not_lt] at accepted
    obtain ⟨⟨⟨⟨⟨⟨⟨⟨⟨⟨⟨⟨⟨⟨⟨h1, h2⟩, h3⟩, h4⟩, h5⟩, h6⟩, h7⟩, h8⟩, h9⟩, h10⟩, h11⟩, -⟩, -⟩, -⟩, h12⟩,
      h13⟩ := accepted
    have header : SnapshotHeader value := ⟨h1, h2, h3, h4, h5, h6, h7, h8, h9, h10, h11, h12, h13⟩
    simp only [header, true_and]
    constructor
    · intro checked
      simp only [Bool.and_eq_true, all_eq_true, mem_filter, mem_orderSlots, true_and,
        beq_iff_eq, Bool.or_eq_true, Bool.not_eq_true'] at checked
      obtain ⟨⟨⟨⟨orders, count⟩, live⟩, unknown⟩, ready⟩ := checked
      refine ⟨orders, count, live, unknown, fun isReady => ?_⟩
      rw [isReady] at ready
      simp only [Bool.true_eq_false, false_or] at ready
      exact ⟨ready.1.1, by rw [← unknown]; exact ready.1.2, ready.2⟩
    · rintro ⟨orders, count, live, unknown, ready⟩
      simp only [Bool.and_eq_true, all_eq_true, mem_filter, mem_orderSlots, true_and,
        beq_iff_eq, Bool.or_eq_true, Bool.not_eq_true']
      refine ⟨⟨⟨⟨orders, count⟩, live⟩, unknown⟩, ?_⟩
      cases isReady : value.ready with
      | false => exact .inl rfl
      | true =>
        obtain ⟨healthy, none, clean⟩ := ready isReady
        exact .inr ⟨⟨healthy, by rw [← none]; exact unknown⟩, clean⟩

namespace DeterministicOms

def OrdersValid (s : DeterministicOms) : Prop :=
  ∀ index, (s.orders index).value.occupied = true → validOrderSnapshot (s.orders index).value = true

variable (s : DeterministicOms) (eventTimeNs : UInt64) (journalSequence : Nat)
  (journalHash : UInt64)

theorem buildSnapshot_orders (index : OrderIndex) :
    (s.buildSnapshot eventTimeNs journalSequence journalHash).orders index =
      if (s.orders index).value.occupied then (s.orders index).value else {} := rfl

theorem buildSnapshot_occupied (index : OrderIndex) :
    ((s.buildSnapshot eventTimeNs journalSequence journalHash).orders index).occupied =
      (s.orders index).value.occupied := by
  rw [buildSnapshot_orders]
  split
  · rfl
  · rename_i vacant
    simpa using vacant

theorem buildSnapshot_occupiedSlots :
    (s.buildSnapshot eventTimeNs journalSequence journalHash).occupiedSlots =
      orderSlots.filter fun index => (s.orders index).value.occupied := by
  simp only [OmsSnapshot.occupiedSlots, buildSnapshot_occupied]

theorem buildSnapshot_countP (p : OmsOrderSnapshot → Bool) :
    ((s.buildSnapshot eventTimeNs journalSequence journalHash).occupiedSlots.countP fun index =>
      p ((s.buildSnapshot eventTimeNs journalSequence journalHash).orders index)) =
    (orderSlots.filter fun index => (s.orders index).value.occupied).countP fun index =>
      p (s.orders index).value := by
  rw [buildSnapshot_occupiedSlots]
  apply countP_congr
  intro index mem
  rw [buildSnapshot_orders, if_pos (mem_filter.mp mem).2]

theorem stableSnapshotHash_seal (output : OmsSnapshot) (hash : UInt64) :
    stableSnapshotHash { output with stableHash := hash } = stableSnapshotHash output := rfl

theorem buildSnapshot_header (facts : ConfigurationFacts s.configuration)
    (token : s.activeFencingToken ≠ 0) (time : eventTimeNs ≠ 0) :
    SnapshotHeader (s.buildSnapshot eventTimeNs journalSequence journalHash) where
  sessionId := facts.sessionId
  accountId := facts.accountId
  configurationVersion := facts.configurationVersion
  configurationHash := facts.stableHash
  exchangeSessionEpoch := facts.exchangeSessionEpoch
  activeFencingToken := token
  snapshotSequence := Nat.succ_ne_zero _
  time := time
  orderCount := (length_filter_le _ _).trans_eq length_orderSlots
  liveOrderCount := countP_le_length
  unknownRecoveryCount := countP_le_length
  hashed := nonzeroHash_ne_zero _
  stableHash := (stableSnapshotHash_seal _ _).symm

theorem buildSnapshot_body (valid : s.OrdersValid) :
    SnapshotBody (s.buildSnapshot eventTimeNs journalSequence journalHash) where
  orders := by
    intro index occ
    rw [buildSnapshot_occupied] at occ
    rw [buildSnapshot_orders, if_pos occ]
    exact valid index occ
  orderCount := by rw [buildSnapshot_occupiedSlots]; rfl
  liveOrderCount := buildSnapshot_countP s eventTimeNs journalSequence journalHash
    fun order => liveState order.state
  unknownRecoveryCount := buildSnapshot_countP s eventTimeNs journalSequence journalHash
    fun order => order.state == .unknownRecovery
  ready := by
    intro ready
    simp only [buildSnapshot, draftSnapshot, Bool.and_eq_true, beq_iff_eq] at ready
    exact ⟨ready.1.1.1.1, ready.1.1.2, ready.1.1.1.2⟩

variable {s eventTimeNs journalSequence journalHash} in
theorem ordersValid_of_validSnapshot
    (valid : validSnapshot (s.buildSnapshot eventTimeNs journalSequence journalHash)) :
    s.OrdersValid := by
  intro index occ
  have checked := (validSnapshot_iff.mp valid).2.orders index
  rw [buildSnapshot_occupied, buildSnapshot_orders, if_pos occ] at checked
  exact checked occ

theorem validSnapshot_buildSnapshot (facts : ConfigurationFacts s.configuration)
    (token : s.activeFencingToken ≠ 0) (time : eventTimeNs ≠ 0) :
    validSnapshot (s.buildSnapshot eventTimeNs journalSequence journalHash) ↔
      s.OrdersValid := by
  refine ⟨ordersValid_of_validSnapshot, fun valid => validSnapshot_iff.mpr ⟨?_, ?_⟩⟩
  · exact buildSnapshot_header s eventTimeNs journalSequence journalHash facts token time
  · exact buildSnapshot_body s eventTimeNs journalSequence journalHash valid

end DeterministicOms

end Aegis.Oms
