import Aegis.MarketData.FeedStream

/-!
Recovery from a snapshot. A packet that the snapshot covers ends the feed: the arbitrator has
forgotten what it has seen, so the packet is out of order.
-/

namespace Aegis.MarketData

open Aegis.Common Aegis.Foundation FeedAFeedBArbitrator SequenceTracker

namespace SequenceTracker

variable {tracker : SequenceTracker} {sequence : UInt64}

theorem classify_ne_invalid (valid : tracker.valid)
    (inside : InRange tracker.maximum sequence) : tracker.classify sequence ≠ .invalid := by
  obtain ⟨low, high⟩ := inside
  have nonzero : sequence ≠ 0 := by
    rintro rfl
    simp at low
  have bounded : ¬ sequence > tracker.maximum := by
    rw [gt_iff_lt, UInt64.not_lt]
    exact UInt64.le_iff_toNat_le.mpr high
  unfold classify
  rw [if_neg (by simpa [valid, nonzero] using bounded)]
  repeat' split
  all_goals simp

theorem classify_expected (valid : tracker.valid)
    (inside : InRange tracker.maximum tracker.expected) :
    tracker.classify tracker.expected = .next := by
  have sound := classify_ne_invalid valid inside
  unfold classify at sound ⊢
  split at sound
  · exact absurd rfl sound
  · next usable => rw [if_neg usable, if_pos rfl]

end SequenceTracker

namespace FeedAFeedBArbitrator

variable {arbitrator : FeedAFeedBArbitrator} {packet : DecodedPacket}

theorem ingest_expected (empty : arbitrator.slots = []) (capacity : arbitrator.windowCapacity ≠ 0)
    (leg : validFeedLeg packet.feedLeg)
    (unseen : arbitrator.findRecent packet.event.channelSequence = none)
    (expected : packet.event.channelSequence = arbitrator.tracker.expected)
    (next : arbitrator.tracker.classify arbitrator.tracker.expected = .next) :
    arbitrator.ingest packet =
      ({ arbitrator with slots := [⟨packet.event, packet.feedLeg, packet.recovered⟩] }, .ready) := by
  have free : ¬ arbitrator.windowCapacity ≤ 0 := by omega
  rw [expected] at unseen
  simp [ingest, leg, expected, unseen, findSlot, empty, next, buffer, forwardSequenceDistance, free]

/-- A number other than the expected one that the tracker takes for an earlier one, or that is beyond
the window. -/
structure Covers (arbitrator : FeedAFeedBArbitrator) (sequence : UInt64) : Prop where
  inside : InRange arbitrator.tracker.maximum sequence
  other : sequence ≠ arbitrator.tracker.expected
  apart : forwardSequenceDistance sequence arbitrator.tracker.expected arbitrator.tracker.maximum ≤
      forwardSequenceDistance arbitrator.tracker.expected sequence arbitrator.tracker.maximum ∨
    arbitrator.windowCapacity ≤ (forwardSequenceDistance arbitrator.tracker.expected sequence
      arbitrator.tracker.maximum).toNat

theorem ingest_covered (empty : arbitrator.slots = []) (leg : validFeedLeg packet.feedLeg)
    (unseen : arbitrator.findRecent packet.event.channelSequence = none)
    (valid : arbitrator.tracker.valid) (first : arbitrator.tracker.hasLast = false)
    (covers : arbitrator.Covers packet.event.channelSequence) :
    arbitrator.ingest packet = (arbitrator, .outOfOrder) ∨
      arbitrator.ingest packet = (arbitrator, .windowExceeded) := by
  have sound := classify_ne_invalid valid covers.inside
  unfold ingest
  simp only [leg, unseen, findSlot, empty, List.find?_nil, Bool.not_true, Bool.false_eq_true, if_false]
  unfold classify at sound ⊢
  split at sound
  · exact absurd rfl sound
  next usable =>
  rw [if_neg usable, if_neg covers.other, first, Bool.false_and, if_neg Bool.false_ne_true]
  by_cases ahead : forwardSequenceDistance arbitrator.tracker.expected packet.event.channelSequence
      arbitrator.tracker.maximum < forwardSequenceDistance packet.event.channelSequence
        arbitrator.tracker.expected arbitrator.tracker.maximum
  · rw [if_pos ahead]
    exact .inr (if_pos (covers.apart.resolve_left (UInt64.not_le.mpr ahead)))
  · rw [if_neg ahead]
    exact .inl rfl

theorem popReady_only {slot : ArbitratedEvent} (only : arbitrator.slots = [slot])
    (expected : slot.event.channelSequence = arbitrator.tracker.expected)
    (next : arbitrator.tracker.classify arbitrator.tracker.expected = .next) : arbitrator.popReady =
      ({ arbitrator.remember slot.event.channelSequence slot.event.eventHash with
          tracker := arbitrator.tracker.after slot.event.channelSequence
          slots := [] },
        some slot) := by
  unfold popReady
  simp [findSlot, only, expected, commit, next]

theorem findRecent_remember {sequence number hash : UInt64} (other : sequence ≠ number)
    (unseen : arbitrator.findRecent number = none) :
    (arbitrator.remember sequence hash).findRecent number = none := by
  unfold findRecent remember at *
  rw [List.find?_eq_none] at unseen ⊢
  intro entry mem
  rcases List.mem_or_eq_of_mem_set mem with old | rfl
  · exact unseen entry old
  · simp [other]

end FeedAFeedBArbitrator

namespace FeedHandler

variable {World : Type} {ports : Ports World} {holds : World → List DecodedPacket → Prop}
  {queuedNs nowNs last : UInt64} {unread queue rest : List DecodedPacket} {packet : DecodedPacket}
  {s : FeedHandler World}

/-- Publishers accept, and the receiver hands out its packets. -/
structure Serves (ports : Ports World) (queuedNs : UInt64)
    (holds : World → List DecodedPacket → Prop) : Prop where
  packet : ∀ world packet rest, holds world (packet :: rest) → ∃ received raw journaled decoded,
      ports.receive world = (received, .packet, raw) ∧
      raw.receivedProcessMonotonicTimeNs ≤ queuedNs ∧
      ports.enqueue received raw = (journaled, .accepted) ∧
      ports.decode journaled raw = (decoded, .decoded, packet) ∧ holds decoded rest
  publish : ∀ world queue normalized, holds world queue →
    ∃ after, ports.publish world normalized = (after, .accepted) ∧ holds after queue
  publishHealth : ∀ world queue record, holds world queue →
    ∃ after, ports.publishHealth world record = (after, .accepted) ∧ holds after queue
  publishSnapshot : ∀ world queue snapshot, holds world queue →
    ∃ after, ports.publishSnapshot world snapshot = (after, .accepted) ∧ holds after queue

/-! ### A handler that follows the stream -/

def Usable (tracker : SequenceTracker) (maximum : UInt64) : Prop :=
  tracker.valid = true ∧ tracker.maximum = maximum

/-- A healthy handler without a gap, published up to `last`, with unseen packets queued. -/
structure Following (holds : World → List DecodedPacket → Prop) (last : UInt64)
    (unread queue : List DecodedPacket) (s : FeedHandler World) : Prop where
  healthy : s.state = .healthy
  started : s.started = true
  idle : s.recovery.progress = .idle
  closed : s.gapDetector.active = false
  served : holds s.world queue
  legA : Usable s.legATracker s.config.maximumSequence
  legB : Usable s.legBTracker s.config.maximumSequence
  tracker : Usable s.arbitrator.tracker s.config.maximumSequence
  expected : s.arbitrator.tracker.expected = nextSequence last s.config.maximumSequence
  capacity : s.arbitrator.windowCapacity ≠ 0
  empty : s.arbitrator.slots = []
  unseen : ∀ packet ∈ unread, s.arbitrator.findRecent packet.event.channelSequence = none

theorem publishHealth_served (serves : Serves ports queuedNs holds) (served : holds s.world queue)
    (reason : FeedHealthReason) (nowNs : UInt64) : ∃ world dataQuality, holds world queue ∧
      s.publishHealth ports reason nowNs = ({ s with world, dataQuality }, true) := by
  obtain ⟨after, answer, held⟩ :=
    serves.publishHealth s.world queue (s.healthRecord reason nowNs) served
  refine ⟨after, s.healthRecord reason nowNs, held, ?_⟩
  simp [publishHealth, answer]

theorem handlePacket_served {raw : RawPacket} {journaled decoded : World}
    (stamped : raw.receivedProcessMonotonicTimeNs ≤ nowNs)
    (enqueue : ports.enqueue s.world raw = (journaled, .accepted))
    (decode : ports.decode journaled raw = (decoded, .decoded, packet)) :
    s.handlePacket ports raw nowNs =
      { s with world := decoded }.handleDecoded ports packet nowNs := by
  have early : ¬ nowNs < raw.receivedProcessMonotonicTimeNs := UInt64.not_lt.mpr stamped
  simp [handlePacket, early, enqueue, decode]

theorem drain_only (serves : Serves ports queuedNs holds) {slot : ArbitratedEvent}
    (only : s.arbitrator.slots = [slot])
    (due : slot.event.channelSequence = s.arbitrator.tracker.expected)
    (next : s.arbitrator.tracker.classify s.arbitrator.tracker.expected = .next)
    (closed : s.gapDetector.active = false) (served : holds s.world queue) :
    ∃ world normalized, holds world queue ∧ normalized.event = slot.event ∧ drain ports nowNs 2 s =
        ({ s with
            world
            dataQuality := normalized.dataQuality
            accepted := s.accepted ++ [.event normalized]
            arbitrator :=
              { s.arbitrator.remember slot.event.channelSequence slot.event.eventHash with
                tracker := s.arbitrator.tracker.after slot.event.channelSequence
                slots := [] } },
          true) := by
  unfold drain
  rw [popReady_only only due next]
  dsimp only
  unfold publishReady
  generalize ready : FeedHandler.normalized _ slot nowNs = normalized
  obtain ⟨world, answer, held⟩ := serves.publish s.world queue normalized served
  dsimp only
  rw [answer]
  rw [if_neg (by simp)]
  unfold closeGap
  simp only [GapDetector.markApplied, closed, Bool.not_false, Bool.true_or, if_true]
  unfold drain
  refine ⟨world, normalized, held, ?_, rfl⟩
  rw [← ready]
  rfl

namespace Following

theorem reported (following : Following holds last unread queue s) {world : World}
    (held : holds world queue) (dataQuality : DataQualityState) :
    Following holds last unread queue { s with world, dataQuality } :=
  ⟨following.healthy, following.started, following.idle, following.closed, held, following.legA,
    following.legB, following.tracker, following.expected, following.capacity, following.empty,
    following.unseen⟩

theorem setLeg (following : Following holds last unread queue s) {tracker : SequenceTracker}
    (usable : Usable tracker s.config.maximumSequence) (leg : FeedLeg) (degraded : Bool) :
    Following holds last unread queue (s.setLeg leg tracker degraded) := by
  obtain ⟨healthy, started, idle, closed, served, legA, legB, tracked, expected, capacity, empty,
    unseen⟩ := following
  unfold FeedHandler.setLeg
  split
  · exact ⟨healthy, started, idle, closed, served, usable, legB, tracked, expected, capacity, empty,
      unseen⟩
  · exact ⟨healthy, started, idle, closed, served, legA, usable, tracked, expected, capacity, empty,
      unseen⟩

section

variable (serves : Serves ports queuedNs holds)
include serves

theorem observeLeg (following : Following holds last unread queue s)
    (inside : InRange s.config.maximumSequence packet.event.channelSequence) :
    ∃ t, s.observeLeg ports packet nowNs = (t, true) ∧ Following holds last unread queue t ∧
      t.stream = s.stream ∧ t.lastObservedTimeNs = s.lastObservedTimeNs := by
  unfold FeedHandler.observeLeg
  split
  · exact ⟨s, rfl, following, rfl, rfl⟩
  dsimp only
  have usable : Usable (if packet.feedLeg = .a then s.legATracker else s.legBTracker)
      s.config.maximumSequence := by
    split
    · exact following.legA
    · exact following.legB
  generalize (if packet.feedLeg = .a then s.legATracker else s.legBTracker) = tracker at usable ⊢
  generalize (if packet.feedLeg = .a then s.legADegraded else s.legBDegraded) = degraded
  have set : ∀ tracker degraded, (s.setLeg packet.feedLeg tracker degraded).stream = s.stream ∧
      (s.setLeg packet.feedLeg tracker degraded).lastObservedTimeNs = s.lastObservedTimeNs := by
    intro tracker degraded
    unfold FeedHandler.setLeg
    split <;> exact ⟨rfl, rfl⟩
  split
  · next invalid =>
    exact absurd invalid (classify_ne_invalid usable.1 (by rw [usable.2]; exact inside))
  · have after : Usable (tracker.after packet.event.channelSequence) s.config.maximumSequence := usable
    have moved := following.setLeg after packet.feedLeg false
    split
    · obtain ⟨world, dataQuality, held, sent⟩ :=
        publishHealth_served serves moved.served .continuous nowNs
      exact ⟨_, sent, moved.reported held _, set _ _⟩
    · exact ⟨_, rfl, moved, set _ _⟩
  · have after : Usable (tracker.resynchronizeAfter packet.event.channelSequence)
        s.config.maximumSequence := by
      unfold resynchronizeAfter
      split <;> exact usable
    have moved := following.setLeg after packet.feedLeg true
    obtain ⟨world, dataQuality, held, sent⟩ :=
      publishHealth_served serves moved.served .redundantLegGap nowNs
    exact ⟨_, sent, moved.reported held _, set _ _⟩
  · exact ⟨s, rfl, following, rfl, rfl⟩
  · exact ⟨s, rfl, following, rfl, rfl⟩

theorem handleArbitration (following : Following holds last (packet :: unread) queue s)
    (leg : validFeedLeg packet.feedLeg)
    (number : packet.event.channelSequence = nextSequence last s.config.maximumSequence)
    (inside : InRange s.config.maximumSequence packet.event.channelSequence)
    (fresh : ∀ other ∈ unread, packet.event.channelSequence ≠ other.event.channelSequence) :
    ∃ t normalized, s.handleArbitration ports packet nowNs = (t, true) ∧
      Following holds packet.event.channelSequence unread queue t ∧
      normalized.event = packet.event ∧ t.accepted = s.accepted ++ [.event normalized] ∧
      t.config = s.config ∧ t.lastObservedTimeNs = s.lastObservedTimeNs := by
  obtain ⟨healthy, started, idle, closed, served, legA, legB, ⟨valid, maximum⟩, expected, capacity,
    empty, unseen⟩ := following
  have due : packet.event.channelSequence = s.arbitrator.tracker.expected := number.trans expected.symm
  have next : s.arbitrator.tracker.classify s.arbitrator.tracker.expected = .next :=
    classify_expected valid (by rwa [maximum, ← due])
  have ingested := ingest_expected empty capacity leg (unseen packet List.mem_cons_self) due next
  unfold FeedHandler.handleArbitration
  rw [ingested]
  dsimp only
  unfold handleReady
  rw [if_neg (by simp [healthy])]
  obtain ⟨world, normalized, held, event, drained⟩ := drain_only serves (s := { s with
      arbitrator := { s.arbitrator with
        slots := [⟨packet.event, packet.feedLeg, packet.recovered⟩] } })
    rfl due next closed served
  refine ⟨_, normalized, drained, ?_, event, rfl, rfl, rfl⟩
  refine ⟨healthy, started, idle, closed, held, legA, legB, ⟨valid, maximum⟩, ?_, capacity, rfl,
    fun other mem => ?_⟩
  · dsimp only [after]
    rw [maximum]
  · exact findRecent_remember (fresh other mem) (unseen other (List.mem_cons_of_mem _ mem))

omit serves in
theorem handleArbitration_covered (following : Following holds last (packet :: unread) queue s)
    (leg : validFeedLeg packet.feedLeg) (first : s.arbitrator.tracker.hasLast = false)
    (covers : s.arbitrator.Covers packet.event.channelSequence) :
    ¬ (s.handleArbitration ports packet nowNs).1.Live := by
  unfold FeedHandler.handleArbitration
  rcases ingest_covered following.empty leg (following.unseen packet List.mem_cons_self)
    following.tracker.1 first covers with late | far
  · rw [late]
    exact not_live_fail _
  · rw [far]
    exact not_live_fail _

/-- A poll reads the next packet and arbitrates it. -/
theorem arrives (following : Following holds last (packet :: rest) (packet :: rest) s)
    (inside : InRange s.config.maximumSequence packet.event.channelSequence)
    (forward : s.lastObservedTimeNs ≤ nowNs) (queued : queuedNs ≤ nowNs) :
    ∃ t, (s.pollOnce ports nowNs).1 = (t.handleArbitration ports packet nowNs).1 ∧
      Following holds last (packet :: rest) rest t ∧ t.stream = s.stream ∧
      t.lastObservedTimeNs = nowNs := by
  obtain ⟨received, raw, journaled, decoded, receive, stamped, enqueue, decode, held⟩ :=
    serves.packet s.world packet rest following.served
  have observed : s.observeTime ports nowNs =
      ({ s with hasObservedTime := true, lastObservedTimeNs := nowNs }, true) := by
    unfold observeTime
    rw [if_neg (by simp [UInt64.not_lt.mpr forward])]
  unfold FeedHandler.pollOnce
  rw [if_neg (by simp [following.healthy]), if_neg (by simp [following.healthy, following.started]),
    observed]
  dsimp only
  rw [if_neg (by simp [following.healthy])]
  unfold FeedHandler.pollRunning
  rw [if_neg (by simp [following.idle])]
  unfold FeedHandler.pollPacket
  rw [receive]
  dsimp only
  rw [handlePacket_served (UInt64.le_trans stamped queued) enqueue decode]
  unfold FeedHandler.handleDecoded
  dsimp only
  generalize started : ({ s with
    hasObservedTime := true
    lastObservedTimeNs := nowNs
    world := decoded
    hasValidActivity := true
    lastValidActivityNs := nowNs } : FeedHandler World) = u
  have follows : Following holds last (packet :: rest) rest u := by
    subst started
    exact ⟨following.healthy, following.started, following.idle, following.closed, held,
      following.legA, following.legB, following.tracker, following.expected, following.capacity,
      following.empty, following.unseen⟩
  have same : u.stream = s.stream ∧ u.lastObservedTimeNs = nowNs := by
    subst started
    exact ⟨rfl, rfl⟩
  have config : u.config = s.config := congrArg Stream.config same.1
  obtain ⟨t, onLeg, follows', same', time⟩ := follows.observeLeg serves (by rwa [config])
  refine ⟨t, ?_, follows', same'.trans same.1, time.trans same.2⟩
  rw [onLeg]
  dsimp only
  rcases t.handleArbitration ports packet nowNs with ⟨_, _ | _⟩ <;> rfl

theorem pollOnce (following : Following holds last (packet :: rest) (packet :: rest) s)
    (leg : validFeedLeg packet.feedLeg)
    (number : packet.event.channelSequence = nextSequence last s.config.maximumSequence)
    (inside : InRange s.config.maximumSequence packet.event.channelSequence)
    (fresh : ∀ other ∈ rest, packet.event.channelSequence ≠ other.event.channelSequence)
    (forward : s.lastObservedTimeNs ≤ nowNs) (queued : queuedNs ≤ nowNs) :
    ∃ t normalized, (s.pollOnce ports nowNs).1 = t ∧
      Following holds packet.event.channelSequence rest rest t ∧
      normalized.event = packet.event ∧ t.accepted = s.accepted ++ [.event normalized] ∧
      t.config = s.config ∧ t.lastObservedTimeNs = nowNs := by
  obtain ⟨u, polled, follows, same, time⟩ := following.arrives serves inside forward queued
  have accepted : u.accepted = s.accepted := congrArg Stream.accepted same
  have config : u.config = s.config := congrArg Stream.config same
  obtain ⟨t, normalized, arbitrated, follows', event, accepted', config', time'⟩ :=
    follows.handleArbitration serves leg (by rwa [config]) (by rwa [config]) fresh
  refine ⟨t, normalized, by rw [polled, arbitrated], follows', event, ?_, ?_, ?_⟩
  · rw [accepted', accepted]
  · rw [config', config]
  · rw [time', time]

theorem polls (times : List UInt64) (following : Following holds last queue queue s)
    (inside : InRange s.config.maximumSequence last)
    (legs : ∀ packet ∈ queue, validFeedLeg packet.feedLeg = true)
    (chain : (last :: queue.map (·.event.channelSequence)).IsChain
      (fun number next => next = nextSequence number s.config.maximumSequence))
    (distinct : (queue.map (·.event.channelSequence)).Nodup) (count : times.length = queue.length)
    (queued : queuedNs ≤ s.lastObservedTimeNs)
    (forward : (s.lastObservedTimeNs :: times).Pairwise (· ≤ ·)) :
    (run (next ports) s (times.map .pollOnce)).state = .healthy ∧ ∃ events : List NormalizedEvent,
        (run (next ports) s (times.map .pollOnce)).accepted = s.accepted ++ events.map .event ∧
        events.map (·.event) = queue.map (·.event) := by
  induction queue generalizing s last times with
  | nil =>
    rw [List.length_eq_zero_iff.mp count]
    exact ⟨following.healthy, [], by simp, rfl⟩
  | cons packet rest ih =>
    obtain ⟨nowNs, later, rfl⟩ := List.exists_cons_of_length_eq_add_one count
    obtain ⟨number, chain⟩ := List.isChain_cons_cons.mp chain
    obtain ⟨unlike, distinct⟩ := List.nodup_cons.mp distinct
    obtain ⟨first, ordered⟩ := List.pairwise_cons.mp forward
    dsimp only at number chain unlike
    have now : s.lastObservedTimeNs ≤ nowNs := first nowNs List.mem_cons_self
    have inside' : InRange s.config.maximumSequence packet.event.channelSequence := by
      rw [number]
      exact inside.next
    have fresh : ∀ other ∈ rest, packet.event.channelSequence ≠ other.event.channelSequence := by
      intro other mem same
      exact unlike (same ▸ List.mem_map_of_mem mem)
    obtain ⟨t, normalized, polled, follows, event, accepted, config, time⟩ :=
      following.pollOnce serves (legs packet List.mem_cons_self) number inside' fresh now
        (UInt64.le_trans queued now)
    have moved : next ports s (.pollOnce nowNs) = t := polled
    rw [List.map_cons, run_cons, moved]
    obtain ⟨healthy, events, grown, same⟩ := ih later follows (by rwa [config])
      (fun other mem => legs other (List.mem_cons_of_mem _ mem)) (by rwa [config]) distinct
      (Nat.succ.inj count) (by rw [time]; exact UInt64.le_trans queued now) (by rwa [time])
    refine ⟨healthy, normalized :: events, ?_, ?_⟩
    · rw [grown, accepted]
      simp
    · rw [List.map_cons, List.map_cons, event, same]

end

end Following

variable {ready : FeedHandler World} {current orderly : Prop} {rest : FeedAFeedBArbitrator → Prop}
  {snapshot : RecoverySnapshot}

theorem pollOnce_of_readied (started : s.started) (live : s.Live)
    (readied : s.readied ports nowNs = (ready, true)) :
    s.pollOnce ports nowNs = ready.pollRunning ports nowNs := by
  unfold FeedHandler.readied at readied
  unfold pollOnce
  rw [if_neg live.2, if_neg (by simp [started, live.1])]
  generalize s.observeTime ports nowNs = observed at readied ⊢
  obtain ⟨t, _ | _⟩ := observed
  · cases readied
  dsimp only at readied ⊢
  split at readied
  · next stale =>
    rw [if_pos stale, readied]
  · next fresh =>
    rw [if_neg fresh]
    cases readied
    rfl

theorem not_live_polls (dead : ¬ s.Live) (times : List UInt64) :
    ¬ (run (next ports) s (times.map .pollOnce)).Live := by
  have idle : ∀ nowNs, next ports s (.pollOnce nowNs) = s := by
    intro nowNs
    show (s.pollOnce ports nowNs).1 = s
    unfold pollOnce
    split
    · rfl
    next running =>
    rw [if_pos]
    have invalid := not_not.mp fun valid => dead ⟨valid, running⟩
    simp [invalid]
  induction times with
  | nil => exact dead
  | cons nowNs later ih =>
    rw [List.map_cons, run_cons, idle]
    exact ih

theorem transition_lastObservedTimeNs {state : FeedState} {reason : FeedHealthReason} :
    (s.transition ports state reason nowNs).1.lastObservedTimeNs = s.lastObservedTimeNs := by
  have moved : ∀ (s : FeedHandler World) state,
      (s.moveTo state).lastObservedTimeNs = s.lastObservedTimeNs := by
    intro s state
    unfold moveTo
    split <;> rfl
  unfold transition publishHealth
  dsimp only
  split
  · exact moved s state
  · exact (moved _ _).trans (moved s state)

theorem readied_stream (readied : s.readied ports nowNs = (ready, true)) :
    ready.stream = s.stream ∧ ready.lastObservedTimeNs = nowNs := by
  unfold FeedHandler.readied observeTime at readied
  by_cases regressed : (s.hasObservedTime && decide (nowNs < s.lastObservedTimeNs)) = true
  · rw [if_pos regressed] at readied
    cases readied
  rw [if_neg regressed] at readied
  dsimp only at readied
  split at readied
  · unfold requestSnapshot at readied
    dsimp only at readied
    split at readied
    · cases readied
    have moved := congrArg Prod.fst readied
    dsimp only at moved
    rw [← moved, transition_stream, transition_lastObservedTimeNs]
    exact ⟨rfl, rfl⟩
  · cases readied
    exact ⟨rfl, rfl⟩

theorem Following.of_resumed (kept : Kept current orderly rest s) (live : s.Live)
    (started : s.started) (inside : InRange s.config.maximumSequence snapshot.lastSequence)
    (held : holds s.world queue) : Following holds snapshot.lastSequence queue queue
      ((s.resumed snapshot nowNs).moveTo .healthy) := by
  obtain ⟨low, high⟩ := inside.next
  have first : nextSequence snapshot.lastSequence s.config.maximumSequence ≠ 0 := by
    intro zero
    simp [zero] at low
  have maximum : s.config.maximumSequence ≠ 0 := by
    intro zero
    simp only [zero, UInt64.toNat_zero] at high low
    omega
  have usable : Usable (.construct (nextSequence snapshot.lastSequence s.config.maximumSequence)
        s.config.maximumSequence) s.config.maximumSequence :=
    ⟨by simp [SequenceTracker.construct, first, maximum, UInt64.le_iff_toNat_le, high], rfl⟩
  have forgotten : ∀ number, (s.arbitrator.reset (nextSequence snapshot.lastSequence
      s.config.maximumSequence)).findRecent number = none := by
    intro number
    simp [findRecent, reset]
  have tracker : Usable (s.arbitrator.reset (nextSequence snapshot.lastSequence
      s.config.maximumSequence)).tracker s.config.maximumSequence := by
    unfold reset
    rw [kept.maximum]
    exact usable
  unfold moveTo
  split
  · exact ⟨rfl, started, rfl, rfl, held, usable, usable, tracker, rfl, kept.capacity started live, rfl,
      fun packet _ => forgotten _⟩
  · next same =>
    exact ⟨not_not.mp same, started, rfl, rfl, held, usable, usable, tracker, rfl,
      kept.capacity started live, rfl, fun packet _ => forgotten _⟩

theorem Following.of_snapshot (serves : Serves ports queuedNs holds)
    (kept : Kept current orderly rest s) (live : s.Live) (started : s.started)
    (offered : s.offered ports = some snapshot)
    (usable : s.snapshotUsable snapshot nowNs) (held : holds (ports.pollSnapshot s.world).1 queue) :
    ∃ t, (s.pollRunning ports nowNs).1 = t ∧ Following holds snapshot.lastSequence queue queue t ∧
      t.accepted = s.accepted ++ [.snapshot snapshot] ∧ t.config = s.config ∧
      t.lastObservedTimeNs = s.lastObservedTimeNs ∧
      t.arbitrator = s.arbitrator.reset
        (nextSequence snapshot.lastSequence s.config.maximumSequence) := by
  unfold FeedHandler.offered at offered
  rcases polling : ports.pollSnapshot s.world with ⟨after, status, taken⟩
  rw [polling] at offered held
  dsimp only at offered held
  split at offered
  swap
  · cases offered
  next expecting =>
    obtain ⟨awaiting, packet⟩ := expecting
    cases offered
    subst packet
    obtain ⟨published, answer, held'⟩ := serves.publishSnapshot after queue snapshot held
    have inside := snapshotUsable_inRange usable
    have follows : Following holds snapshot.lastSequence queue queue
        ((({ s with world := published } : FeedHandler World).resumed snapshot nowNs).moveTo
          .healthy) := by
      apply Following.of_resumed
      · exact kept.congr rfl rfl
      · exact live
      · exact started
      · exact inside
      · exact held'
    have applied : ({ s with world := after } : FeedHandler World).applySnapshot ports snapshot
        nowNs = ((({ s with world := published } : FeedHandler World).resumed snapshot
          nowNs).moveTo .healthy).publishHealth ports .continuous nowNs := by
      have usable' : ({ s with world := after } : FeedHandler World).snapshotUsable snapshot nowNs =
        true := usable
      unfold applySnapshot
      rw [usable', if_neg (by simp)]
      rw [answer]
      dsimp only
      rw [if_neg (by simp)]
      rfl
    generalize resumes : (({ s with world := published } : FeedHandler World).resumed snapshot
      nowNs).moveTo .healthy = t at follows applied
    obtain ⟨world, dataQuality, held'', sent⟩ :=
      publishHealth_served serves follows.served .continuous nowNs
    rw [sent] at applied
    refine ⟨{ t with world, dataQuality }, ?_, follows.reported held'' dataQuality, ?_⟩
    · unfold FeedHandler.pollRunning
      rw [if_pos awaiting]
      unfold FeedHandler.pollSnapshot
      rw [polling]
      dsimp only
      rw [applied]
    · dsimp only
      rw [← resumes]
      unfold moveTo
      split <;> exact ⟨rfl, rfl, rfl, rfl⟩

/-- A handler that applies a snapshot and reads what follows is healthy and has published just
that, exactly if no packet that the snapshot covers is queued before. -/
theorem snapshot_recovers (serves : Serves ports queuedNs holds) (initial : FeedHandlerConfig)
    (world : World) (calls : List Call) (nowNs : UInt64) (snapshot : RecoverySnapshot)
    (covered queue : List DecodedPacket) {ready : FeedHandler World}
    (reached : run (next ports) (construct initial world) calls = s) (started : s.started = true)
    (live : s.Live) (readied : s.readied ports nowNs = (ready, true))
    (offered : ready.offered ports = some snapshot)
    (usable : ready.snapshotUsable snapshot nowNs = true)
    (held : holds (ports.pollSnapshot ready.world).1 (covered ++ queue))
    (legs : ∀ packet ∈ covered ++ queue, validFeedLeg packet.feedLeg = true)
    (covers : ∀ packet ∈ covered, (s.arbitrator.reset (nextSequence snapshot.lastSequence
      s.config.maximumSequence)).Covers packet.event.channelSequence)
    (chain : (snapshot.lastSequence :: queue.map (·.event.channelSequence)).IsChain
      (fun number next => next = nextSequence number s.config.maximumSequence))
    (distinct : (queue.map (·.event.channelSequence)).Nodup) (times : List UInt64)
    (count : times.length = (covered ++ queue).length) (queued : queuedNs ≤ nowNs)
    (forward : (nowNs :: times).Pairwise (· ≤ ·)) :
    ((run (next ports) s (.pollOnce nowNs :: times.map .pollOnce)).state = .healthy ∧
      ∃ events : List NormalizedEvent,
        (run (next ports) s (.pollOnce nowNs :: times.map .pollOnce)).accepted =
          s.accepted ++ .snapshot snapshot :: events.map .event ∧
        events.map (·.event) = queue.map (·.event)) ↔ covered = [] := by
  have kept : Kept False False Empty s := by
    rw [← reached]
    exact run_preserves (fun s call kept => Kept.next kept nofun nofun) (Kept.construct initial world)
      calls
  have good : Good False False Empty (s.readied ports nowNs) := kept.good_readied live started
  rw [readied] at good
  obtain ⟨keptReady, ⟨-, liveReady, on⟩ | ⟨no, -⟩⟩ := good
  swap
  · cases no
  obtain ⟨same, observed⟩ := readied_stream readied
  have accepted : ready.accepted = s.accepted := congrArg Stream.accepted same
  have configured : ready.config = s.config := congrArg Stream.config same
  have arbitrator : ready.arbitrator = s.arbitrator := congrArg Stream.arbitrator same
  obtain ⟨t, polled, follows, accepted', config', time, reset⟩ :=
    Following.of_snapshot serves keptReady liveReady on offered usable held
  have moved : next ports s (.pollOnce nowNs) = t :=
    (congrArg Prod.fst (pollOnce_of_readied started live readied)).trans polled
  have inside := snapshotUsable_inRange usable
  rw [run_cons, moved]
  have config : t.config = s.config := config'.trans configured
  have now : t.lastObservedTimeNs = nowNs := time.trans observed
  cases covered with
  | nil =>
    refine iff_of_true ?_ rfl
    obtain ⟨healthy, events, grown, same⟩ := follows.polls serves times
      (by rwa [config']) legs (by rwa [config]) distinct count (by rwa [now]) (by rwa [now])
    refine ⟨healthy, events, ?_, same⟩
    rw [grown, accepted', accepted]
    simp
  | cons packet more =>
    -- The first covered packet ends the feed, and no poll revives it.
    refine iff_of_false (fun recovered => ?_) (List.cons_ne_nil _ _)
    have healthy := recovered.1
    obtain ⟨nowNs', later, rfl⟩ := List.exists_cons_of_length_eq_add_one count
    have early := (List.pairwise_cons.mp forward).1 nowNs' List.mem_cons_self
    have covers := covers packet List.mem_cons_self
    rw [← arbitrator, ← configured, ← reset] at covers
    obtain ⟨u, polled', follows', same', -⟩ := follows.arrives serves
      (follows.tracker.2 ▸ covers.inside) (by rwa [now]) (UInt64.le_trans queued early)
    have arbitrator' : u.arbitrator = t.arbitrator := congrArg Stream.arbitrator same'
    have dead : ¬ (next ports t (.pollOnce nowNs')).Live := by
      rw [FeedHandler.next, polled']
      refine follows'.handleArbitration_covered (legs packet List.mem_cons_self) ?_ ?_
      · rw [arbitrator', reset]
        rfl
      · rwa [arbitrator']
    rw [List.map_cons, run_cons] at healthy
    have still : ¬ (run (next ports) _ (later.map .pollOnce)).Live := not_live_polls dead later
    rw [Live, healthy] at still
    exact still ⟨by decide, by decide⟩

theorem serves_script :
    Serves Script.ports 0 fun script queue => script.packets.map Script.decoded = queue where
  packet script packet rest held := by
    obtain ⟨packets, snapshots, retransmits⟩ := script
    cases packets with
    | nil => cases held
    | cons number later =>
      obtain ⟨rfl, tail⟩ := List.cons.inj held
      exact ⟨_, _, _, _, rfl, UInt64.le_refl _, rfl, rfl, tail⟩
  publish _ _ _ held := ⟨_, rfl, held⟩
  publishHealth _ _ _ held := ⟨_, rfl, held⟩
  publishSnapshot _ _ _ held := ⟨_, rfl, held⟩

theorem snapshot_recovers_queued :
    let behind := Script.polled { packets := [1, 3, 5, 6], snapshots := [4] } 2
    let caughtUp := run (next Script.ports) behind [.pollOnce 1, .pollOnce 1, .pollOnce 1]
    caughtUp.state = .healthy ∧ ∃ events : List NormalizedEvent, caughtUp.accepted =
        behind.accepted ++ .snapshot (Script.snapshot 4) :: events.map .event ∧
      events.map (·.event) = [Script.decoded 5, Script.decoded 6].map (·.event) :=
  (snapshot_recovers serves_script Script.config { packets := [1, 3, 5, 6], snapshots := [4] }
    (Script.polls 2) 1 (Script.snapshot 4) [] [Script.decoded 5, Script.decoded 6] rfl (by decide)
    (by decide) rfl rfl (by decide) rfl (by decide) (by simp) (by decide) (by decide) [1, 1] rfl
    (by decide) (by decide)).mpr rfl

/-- A queued packet that the snapshot covers ends the feed. -/
theorem snapshot_covers_queued :
    let script : Script := { packets := [1, 3, 4, 5], snapshots := [4] }
    (script.polled 2).recovery.progress = .snapshotRequested ∧
      (script.polled 3).state = .healthy ∧ (script.polled 5).state = .invalid ∧
      published (script.polled 5).accepted = [1] := by
  decide

end FeedHandler

end Aegis.MarketData
