import Mathlib.Data.List.Nodup
import Aegis.MarketData.FeedArbitrator

/-!
The window of the arbitrator in terms of distances. While a gap is open, what is buffered is a run
of consecutive numbers right after it (`Open`).
-/

namespace Aegis.MarketData

open List SequenceTracker
open UInt64 (toNat_inj le_iff_toNat_le toNat_sub_of_le)

def InRange (maximum sequence : UInt64) : Prop :=
  1 ≤ sequence.toNat ∧ sequence.toNat ≤ maximum.toNat

section Distances

variable {maximum from' sequence : UInt64}

theorem toNat_forwardSequenceDistance (start : InRange maximum from')
    (target : InRange maximum sequence) : (forwardSequenceDistance from' sequence maximum).toNat =
      if from'.toNat ≤ sequence.toNat then sequence.toNat - from'.toNat
      else maximum.toNat - from'.toNat + sequence.toNat := by
  obtain ⟨-, low⟩ := start
  obtain ⟨-, high⟩ := target
  have bound := maximum.toNat_lt
  unfold forwardSequenceDistance
  simp only [ge_iff_le, le_iff_toNat_le]
  split
  · next below => exact toNat_sub_of_le _ _ (le_iff_toNat_le.mpr below)
  · next above =>
    rw [UInt64.toNat_add, toNat_sub_of_le _ _ (le_iff_toNat_le.mpr low)]
    exact Nat.mod_eq_of_lt (by omega)

section

variable (inside : InRange maximum sequence)
include inside

theorem toNat_nextSequence : (nextSequence sequence maximum).toNat =
      if sequence.toNat = maximum.toNat then 1 else sequence.toNat + 1 := by
  obtain ⟨-, high⟩ := inside
  have bound := maximum.toNat_lt
  unfold nextSequence
  simp only [← toNat_inj]
  split
  · rfl
  · rw [UInt64.toNat_add]
    exact Nat.mod_eq_of_lt (by simp only [UInt64.toNat_one]; omega)

theorem toNat_previousSequence : (previousSequence sequence maximum).toNat =
      if sequence.toNat = 1 then maximum.toNat else sequence.toNat - 1 := by
  obtain ⟨low, -⟩ := inside
  unfold previousSequence
  simp only [← toNat_inj, UInt64.toNat_one]
  split
  · rfl
  · exact toNat_sub_of_le _ _ (le_iff_toNat_le.mpr low)

theorem InRange.next : InRange maximum (nextSequence sequence maximum) := by
  have value := toNat_nextSequence inside
  obtain ⟨low, high⟩ := inside
  unfold InRange
  split at value <;> omega

theorem InRange.previous : InRange maximum (previousSequence sequence maximum) := by
  have value := toNat_previousSequence inside
  obtain ⟨low, high⟩ := inside
  unfold InRange
  split at value <;> omega

end

end Distances

namespace FeedAFeedBArbitrator

variable {arbitrator arbitrator' : FeedAFeedBArbitrator} {packet : DecodedPacket}
  {sequence : UInt64} {slot : ArbitratedEvent}

def numbers (arbitrator : FeedAFeedBArbitrator) : List UInt64 :=
  arbitrator.slots.map (·.event.channelSequence)

def ahead (arbitrator : FeedAFeedBArbitrator) (sequence : UInt64) : Nat :=
  (forwardSequenceDistance arbitrator.tracker.expected sequence arbitrator.tracker.maximum).toNat

/-- The sequence numbers are in range and different. -/
structure Window (arbitrator : FeedAFeedBArbitrator) : Prop where
  valid : arbitrator.tracker.valid = true
  expected : InRange arbitrator.tracker.maximum arbitrator.tracker.expected
  inRange : ∀ number ∈ arbitrator.numbers, InRange arbitrator.tracker.maximum number
  nodup : arbitrator.numbers.Nodup

theorem findSlot_eq_none_iff :
    arbitrator.findSlot sequence = none ↔ sequence ∉ arbitrator.numbers := by
  simp [findSlot, numbers]

theorem popReady_eq_some (popped : arbitrator.popReady = (arbitrator', some slot)) :
    slot.event.channelSequence = arbitrator.tracker.expected ∧
      arbitrator'.tracker = arbitrator.tracker.after arbitrator.tracker.expected ∧
      arbitrator'.numbers = arbitrator.numbers.erase arbitrator.tracker.expected ∧
      arbitrator'.occupancy + 1 = arbitrator.occupancy := by
  unfold popReady at popped
  split at popped
  · cases popped
  next found =>
  have mem := mem_of_find?_eq_some found
  have same := find?_some found
  simp only [beq_iff_eq] at same
  unfold commit at popped
  simp only at popped
  split at popped
  · cases popped
  next tracker committed =>
  rw [same] at committed popped
  split at committed
  · cases committed
    cases popped
    refine ⟨same, rfl, ?_, ?_⟩
    · have like : (fun other : ArbitratedEvent =>
          other.event.channelSequence == arbitrator.tracker.expected) =
          (arbitrator.tracker.expected == ·) ∘ (·.event.channelSequence) := by
        funext other
        simp [Bool.beq_comm]
      simp only [numbers, erase_eq_eraseP, eraseP_map, like]
    · have size := length_eraseP_of_mem (p := fun other : ArbitratedEvent =>
      other.event.channelSequence == arbitrator.tracker.expected) mem (by simp [same])
      have positive := length_pos_of_mem mem
      simp only [occupancy, size]
      omega
  · cases committed

theorem popReady_windowCapacity : arbitrator.popReady.1.windowCapacity = arbitrator.windowCapacity := by
  unfold popReady
  split
  · rfl
  · split <;> rfl

theorem Window.popReady_eq_none (window : arbitrator.Window)
    (popped : arbitrator.popReady = (arbitrator', none)) :
    arbitrator' = arbitrator ∧ arbitrator.tracker.expected ∉ arbitrator.numbers := by
  unfold popReady at popped
  split at popped
  · next absent =>
    cases popped
    exact ⟨rfl, findSlot_eq_none_iff.mp absent⟩
  next found =>
  have same := find?_some found
  simp only [beq_iff_eq] at same
  have next : arbitrator.tracker.classify arbitrator.tracker.expected = .next := by
    obtain ⟨low, high⟩ := window.expected
    have nonzero : arbitrator.tracker.expected ≠ 0 := by
      rintro zero
      simp [zero] at low
    simp [classify, window.valid, nonzero, UInt64.lt_iff_toNat_lt, high]
  simp [commit, same, next] at popped

theorem popReady_tracker_of_none (popped : arbitrator.popReady = (arbitrator', none)) :
    arbitrator'.tracker = arbitrator.tracker := by
  unfold popReady at popped
  split at popped
  · cases popped
    rfl
  · split at popped
    · cases popped
      rfl
    · cases popped

/-- `ingest` leaves the numbers, or buffers the packet. -/
theorem ingest_windowCapacity :
    (arbitrator.ingest packet).1.windowCapacity = arbitrator.windowCapacity := by
  unfold ingest
  dsimp only
  repeat' split
  all_goals first | rfl | skip
  unfold buffer
  repeat' split
  all_goals rfl

theorem ingest_cases (arbitrator : FeedAFeedBArbitrator) (packet : DecodedPacket) :
    (arbitrator.ingest packet).1.tracker = arbitrator.tracker ∧
    ((((arbitrator.ingest packet).2 ≠ .ready ∧ (arbitrator.ingest packet).2 ≠ .bufferedGap) ∧
      (arbitrator.ingest packet).1.numbers = arbitrator.numbers) ∨
    (∃ disposition, arbitrator.tracker.classify packet.event.channelSequence = disposition ∧
      (disposition = .next ∨ disposition = .gap) ∧
      packet.event.channelSequence ∉ arbitrator.numbers ∧
      (arbitrator.ingest packet).2 = (if disposition = .next then .ready else .bufferedGap) ∧
      (arbitrator.ingest packet).1.numbers =
        arbitrator.numbers ++ [packet.event.channelSequence])) := by
  unfold ingest
  dsimp only
  split
  · exact ⟨rfl, .inl ⟨by simp, rfl⟩⟩
  split
  · refine ⟨rfl, .inl ⟨?_, rfl⟩⟩
    split <;> simp
  split
  · split
    · exact ⟨rfl, .inl ⟨by simp, rfl⟩⟩
    refine ⟨rfl, .inl ⟨by simp, ?_⟩⟩
    simp only [numbers, noteCopy, map_map]
    refine map_congr_left fun slot _ => ?_
    simp only [Function.comp_apply]
    split <;> rfl
  next fresh =>
  split
  · exact ⟨rfl, .inl ⟨by simp, rfl⟩⟩
  · exact ⟨rfl, .inl ⟨by simp, rfl⟩⟩
  · exact ⟨rfl, .inl ⟨by simp, rfl⟩⟩
  next invalid duplicate outOfOrder =>
  have ahead : arbitrator.tracker.classify packet.event.channelSequence = .next ∨
      arbitrator.tracker.classify packet.event.channelSequence = .gap := by
    cases kind : arbitrator.tracker.classify packet.event.channelSequence <;> simp_all
  unfold buffer
  split
  · exact ⟨rfl, .inl ⟨by simp, rfl⟩⟩
  split
  · exact ⟨rfl, .inl ⟨by simp, rfl⟩⟩
  · exact ⟨rfl, .inr ⟨_, rfl, ahead, findSlot_eq_none_iff.mp fresh, rfl,
      by simp [numbers]⟩⟩

theorem inRange_of_classify {tracker : SequenceTracker}
    (accepted : tracker.classify sequence = .next ∨ tracker.classify sequence = .gap) :
    InRange tracker.maximum sequence ∧
      (tracker.classify sequence = .next → sequence = tracker.expected) ∧
      (tracker.classify sequence = .gap → sequence ≠ tracker.expected) := by
  unfold classify at accepted ⊢
  split at accepted
  · rcases accepted with h | h <;> cases h
  next usable =>
  simp only [Bool.or_eq_true, Bool.not_eq_eq_eq_not, Bool.not_true, beq_iff_eq, gt_iff_lt,
    decide_eq_true_eq, not_or, Bool.not_eq_false, UInt64.not_lt] at usable
  obtain ⟨⟨-, nonzero⟩, high⟩ := usable
  refine ⟨⟨?_, le_iff_toNat_le.mp high⟩, ?_, ?_⟩
  · have positive : sequence.toNat ≠ 0 := fun zero => nonzero (toNat_inj.mp zero)
    omega
  · intro next
    split at next
    · cases next
    split at next
    · assumption
    · split at next <;> try split at next
      all_goals cases next
  · intro gap same
    simp [same] at gap
    split at gap <;> cases gap

section

variable (window : arbitrator.Window)
include window

theorem Window.buffered (inside : InRange arbitrator.tracker.maximum sequence)
    (fresh : sequence ∉ arbitrator.numbers) (tracker : arbitrator'.tracker = arbitrator.tracker)
    (numbers : arbitrator'.numbers = arbitrator.numbers ++ [sequence]) : arbitrator'.Window := by
  refine ⟨by rw [tracker]; exact window.valid, by rw [tracker]; exact window.expected, ?_, ?_⟩
  · rw [numbers, tracker]
    intro number mem
    rcases mem_append.mp mem with old | new
    · exact window.inRange number old
    · rw [mem_singleton.mp new]
      exact inside
  · rw [numbers, nodup_append]
    refine ⟨window.nodup, nodup_singleton _, ?_⟩
    rintro number old other new rfl
    rw [mem_singleton.mp new] at old
    exact fresh old

theorem Window.mem_of_popped (popped : arbitrator.popReady = (arbitrator', some slot))
    {number : UInt64} : number ∈ arbitrator'.numbers ↔
      number ∈ arbitrator.numbers ∧ number ≠ arbitrator.tracker.expected := by
  rw [(popReady_eq_some popped).2.2.1, window.nodup.mem_erase_iff, and_comm]

theorem Window.popped
    (popped : arbitrator.popReady = (arbitrator', some slot)) : arbitrator'.Window := by
  obtain ⟨-, tracker, numbers, -⟩ := popReady_eq_some popped
  refine ⟨?_, ?_, ?_, ?_⟩
  · rw [tracker]
    exact window.valid
  · rw [tracker]
    exact window.expected.next
  · intro number left
    rw [tracker]
    exact window.inRange number ((window.mem_of_popped popped).mp left).1
  · rw [numbers]
    exact window.nodup.erase _

theorem Window.ahead_popped (popped : arbitrator.popReady = (arbitrator', some slot))
    (inside : InRange arbitrator.tracker.maximum sequence)
    (unexpected : sequence ≠ arbitrator.tracker.expected) :
    arbitrator'.ahead sequence + 1 = arbitrator.ahead sequence := by
  obtain ⟨-, tracker, -, -⟩ := popReady_eq_some popped
  have different : sequence.toNat ≠ arbitrator.tracker.expected.toNat :=
    fun same => unexpected (toNat_inj.mp same)
  unfold ahead
  rw [tracker]
  simp only [SequenceTracker.after]
  rw [toNat_forwardSequenceDistance window.expected.next inside,
    toNat_forwardSequenceDistance window.expected inside, toNat_nextSequence window.expected]
  obtain ⟨low, high⟩ := window.expected
  obtain ⟨low', high'⟩ := inside
  split_ifs <;> omega

theorem Window.ahead_eq_zero_iff (inside : InRange arbitrator.tracker.maximum sequence) :
    arbitrator.ahead sequence = 0 ↔ sequence = arbitrator.tracker.expected := by
  unfold ahead
  rw [toNat_forwardSequenceDistance window.expected inside, ← toNat_inj]
  obtain ⟨low, high⟩ := window.expected
  obtain ⟨low', high'⟩ := inside
  split <;> omega

theorem Window.ahead_previous (inside : InRange arbitrator.tracker.maximum sequence)
    (unexpected : sequence ≠ arbitrator.tracker.expected) :
    arbitrator.ahead (previousSequence sequence arbitrator.tracker.maximum) + 1 =
      arbitrator.ahead sequence := by
  have different : sequence.toNat ≠ arbitrator.tracker.expected.toNat :=
    fun same => unexpected (toNat_inj.mp same)
  unfold ahead
  rw [toNat_forwardSequenceDistance window.expected inside.previous,
    toNat_forwardSequenceDistance window.expected inside, toNat_previousSequence inside]
  obtain ⟨low, high⟩ := window.expected
  obtain ⟨low', high'⟩ := inside
  split_ifs <;> omega

end

def Follows (arbitrator : FeedAFeedBArbitrator) (first : Nat) : Prop :=
  ∀ number ∈ arbitrator.numbers, first ≤ arbitrator.ahead number → arbitrator.ahead number = first ∨
      ∃ other ∈ arbitrator.numbers, arbitrator.ahead other + 1 = arbitrator.ahead number

def Consecutive (arbitrator : FeedAFeedBArbitrator) : Prop :=
  arbitrator.Follows 0

/-- A missing event is expected, and what is buffered is a run right after the gap. -/
structure Open (arbitrator : FeedAFeedBArbitrator) (gap : GapDetector) : Prop where
  next : gap.nextMissing = arbitrator.tracker.expected
  maximum : gap.range.maximumSequence = arbitrator.tracker.maximum
  last : InRange arbitrator.tracker.maximum gap.range.last
  follows : arbitrator.Follows (arbitrator.ahead gap.range.last + 1)

section

variable (window : arbitrator.Window)
include window

theorem Window.empty_of_consecutive (consecutive : arbitrator.Consecutive)
    (nothing : arbitrator.tracker.expected ∉ arbitrator.numbers) : arbitrator.numbers = [] := by
  -- A number of least distance would be ready.
  have noneAt : ∀ distance, ∀ number ∈ arbitrator.numbers, arbitrator.ahead number ≠ distance := by
    intro distance
    induction distance with
    | zero =>
      intro number mem zero
      exact nothing ((window.ahead_eq_zero_iff (window.inRange number mem)).mp zero ▸ mem)
    | succ distance ih =>
      intro number mem here
      rcases consecutive number mem (Nat.zero_le _) with zero | ⟨other, mem', before⟩
      · omega
      · exact ih other mem' (by omega)
  exact eq_nil_iff_forall_not_mem.mpr fun number mem => noneAt _ number mem rfl

theorem Window.follows_popped (popped : arbitrator.popReady = (arbitrator', some slot))
    {first : Nat} (follows : arbitrator.Follows (first + 1)) : arbitrator'.Follows first := by
  intro number left far
  obtain ⟨old, unexpected⟩ := (window.mem_of_popped popped).mp left
  have closer := window.ahead_popped popped (window.inRange number old) unexpected
  rcases follows number old (by omega) with here | ⟨before, mem, distance⟩
  · exact .inl (by omega)
  by_cases expected : before = arbitrator.tracker.expected
  · have zero := (window.ahead_eq_zero_iff (window.inRange before mem)).mpr expected
    exact .inl (by omega)
  · have closer' := window.ahead_popped popped (window.inRange before mem) expected
    exact .inr ⟨before, (window.mem_of_popped popped).mpr ⟨mem, expected⟩, by omega⟩

theorem Window.consecutive_popped (popped : arbitrator.popReady = (arbitrator', some slot))
    (consecutive : arbitrator.Consecutive) : arbitrator'.Consecutive := by
  refine window.follows_popped popped fun number mem far => ?_
  rcases consecutive number mem (Nat.zero_le _) with zero | before
  · omega
  · exact .inr before

theorem Window.open_popped {gap : GapDetector} (opened : arbitrator.Open gap) (active : gap.active)
    (popped : arbitrator.popReady = (arbitrator', some slot)) :
    ∃ gap', gap.markApplied arbitrator.tracker.expected = some gap' ∧
      (gap'.active = true ∧ arbitrator'.Open gap' ∨
        gap'.active = false ∧ arbitrator'.Consecutive) := by
  obtain ⟨-, tracker, -, -⟩ := popReady_eq_some popped
  unfold GapDetector.markApplied
  simp only [active, opened.next, Bool.not_true, bne_self_eq_false, Bool.or_self,
    Bool.false_eq_true, if_false]
  by_cases last : arbitrator.tracker.expected = gap.range.last
  · rw [if_pos last]
    refine ⟨_, rfl, .inr ⟨rfl, window.follows_popped popped ?_⟩⟩
    have follows := opened.follows
    rwa [(window.ahead_eq_zero_iff opened.last).mpr last.symm] at follows
  · rw [if_neg last]
    have closer := window.ahead_popped popped opened.last (Ne.symm last)
    refine ⟨_, rfl, .inl ⟨rfl, ?_, ?_, ?_, ?_⟩⟩
    · rw [tracker, opened.maximum]
      rfl
    · rw [tracker]
      exact opened.maximum
    · rw [tracker]
      exact opened.last
    · apply window.follows_popped popped
      rw [closer]
      exact opened.follows

theorem Window.open_of_activate (inside : InRange arbitrator.tracker.maximum sequence)
    (unexpected : sequence ≠ arbitrator.tracker.expected) (only : arbitrator.numbers = [sequence])
    {gap gap' : GapDetector}
    (activated : gap.activate arbitrator.tracker.expected sequence arbitrator.tracker.maximum =
      some gap') : gap'.active = true ∧ arbitrator.Open gap' := by
  unfold GapDetector.activate at activated
  split at activated
  · cases activated
  dsimp only at activated
  split at activated
  · cases activated
  cases activated
  refine ⟨rfl, rfl, rfl, inside.previous, ?_⟩
  intro number mem _
  rw [only, mem_singleton] at mem
  subst mem
  exact .inl (window.ahead_previous inside unexpected).symm

end

theorem Open.buffered {gap : GapDetector} (opened : arbitrator.Open gap)
    (tracker : arbitrator'.tracker = arbitrator.tracker)
    (numbers : arbitrator'.numbers = arbitrator.numbers ++ [sequence])
    (continues : arbitrator.ahead sequence ≤ arbitrator.ahead gap.range.last ∨
      ∃ other ∈ arbitrator.numbers, arbitrator.ahead other + 1 = arbitrator.ahead sequence) :
    arbitrator'.Open gap := by
  have distances : arbitrator'.ahead = arbitrator.ahead := by
    unfold ahead
    rw [tracker]
  refine ⟨by rw [tracker]; exact opened.next, by rw [tracker]; exact opened.maximum,
    by rw [tracker]; exact opened.last, ?_⟩
  unfold Follows
  rw [distances, numbers]
  intro number mem far
  rcases mem_append.mp mem with old | new
  · rcases opened.follows number old far with here | ⟨other, mem', before⟩
    · exact .inl here
    · exact .inr ⟨other, mem_append_left _ mem', before⟩
  · obtain rfl := mem_singleton.mp new
    rcases continues with within | ⟨other, mem', before⟩
    · omega
    · exact .inr ⟨other, mem_append_left _ mem', before⟩

end FeedAFeedBArbitrator

end Aegis.MarketData
