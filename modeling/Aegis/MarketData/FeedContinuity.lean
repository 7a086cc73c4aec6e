import Aegis.Foundation.Runs
import Aegis.MarketData.FeedHandler
import Aegis.MarketData.FeedWindow

/-!
The invariant of the feed handler (`Kept`). Every accepted event comes right after the one before,
whatever the interfaces do.
-/

namespace Aegis.MarketData

open Aegis.Common Aegis.Foundation FeedAFeedBArbitrator List

def Accepted.sequence : Accepted → UInt64
  | .event normalized => normalized.event.channelSequence
  | .snapshot taken => taken.lastSequence

def lastEvent (accepted : List Accepted) : Option UInt64 :=
  accepted.foldl (fun last entry =>
      match entry with
      | .event normalized => some normalized.event.channelSequence
      | .snapshot _ => last)
    none

def upcoming (config : FeedHandlerConfig) (accepted : List Accepted) : UInt64 :=
  match accepted.getLast? with
  | none => config.initialSequence
  | some entry => nextSequence entry.sequence config.maximumSequence

/-- Every accepted event comes after what was accepted before. -/
def Contiguous (config : FeedHandlerConfig) (accepted : List Accepted) : Prop :=
  ∀ before normalized after, accepted = before ++ .event normalized :: after →
    normalized.event.channelSequence = upcoming config before

/-- Not behind another one in the order of `classify`. -/
def NotBehind (maximum last sequence : UInt64) : Prop :=
  sequence = last ∨
    forwardSequenceDistance last sequence maximum < forwardSequenceDistance sequence last maximum

instance (maximum last sequence : UInt64) : Decidable (NotBehind maximum last sequence) :=
  inferInstanceAs (Decidable (_ ∨ _))

/-- No accepted snapshot is behind the event before it. -/
def MovesForward (config : FeedHandlerConfig) (accepted : List Accepted) : Prop :=
  ∀ before snapshot after, accepted = before ++ .snapshot snapshot :: after →
    ∀ last ∈ lastEvent before, NotBehind config.maximumSequence last snapshot.lastSequence

section Lists

variable {config : FeedHandlerConfig} {accepted : List Accepted} {entry : Accepted}

theorem split_concat {Entry : Type} {entries before after : List Entry} {new entry : Entry}
    (same : entries ++ [new] = before ++ entry :: after) :
    (∃ rest, entries = before ++ entry :: rest) ∨ (entries = before ∧ entry = new) := by
  rcases eq_nil_or_concat after with rfl | ⟨rest, last, rfl⟩
  · obtain ⟨rfl, last⟩ := append_inj' same rfl
    exact .inr ⟨rfl, (singleton_inj.mp last).symm⟩
  · rw [concat_eq_append, ← cons_append, ← append_assoc] at same
    obtain ⟨rfl, -⟩ := append_inj' same rfl
    exact .inl ⟨rest, rfl⟩

@[simp] theorem upcoming_concat :
    upcoming config (accepted ++ [entry]) = nextSequence entry.sequence config.maximumSequence := by
  simp [upcoming]

theorem Contiguous.concat (contiguous : Contiguous config accepted)
    (next : ∀ normalized, entry = .event normalized →
      normalized.event.channelSequence = upcoming config accepted) :
    Contiguous config (accepted ++ [entry]) := by
  intro before normalized after same
  rcases split_concat same with ⟨rest, old⟩ | ⟨rfl, new⟩
  · exact contiguous before normalized rest old
  · exact next normalized new.symm

theorem MovesForward.concat (forward : MovesForward config accepted)
    (next : ∀ snapshot, entry = .snapshot snapshot → ∀ last ∈ lastEvent accepted,
      NotBehind config.maximumSequence last snapshot.lastSequence) :
    MovesForward config (accepted ++ [entry]) := by
  intro before snapshot after same
  rcases split_concat same with ⟨rest, old⟩ | ⟨rfl, new⟩
  · exact forward before snapshot rest old
  · exact next snapshot new.symm

end Lists

namespace FeedHandler

open FeedAFeedBArbitrator (Consecutive)

variable {World : Type} {ports : Ports World} {s : FeedHandler World} {nowNs : UInt64}

/-- The part of the handler that decides what is published. -/
structure Stream where
  config : FeedHandlerConfig
  accepted : List Accepted
  arbitrator : FeedAFeedBArbitrator
  gapDetector : GapDetector
  started : Bool

def stream (s : FeedHandler World) : Stream :=
  ⟨s.config, s.accepted, s.arbitrator, s.gapDetector, s.started⟩

def Live (s : FeedHandler World) : Prop :=
  s.state ≠ .invalid ∧ s.state ≠ .stopped

instance (s : FeedHandler World) : Decidable s.Live :=
  inferInstanceAs (Decidable (_ ∧ _))

@[simp] theorem moveTo_stream (state : FeedState) : (s.moveTo state).stream = s.stream := by
  unfold moveTo
  split <;> rfl

@[simp] theorem moveTo_state (state : FeedState) : (s.moveTo state).state = state := by
  unfold moveTo
  split
  · rfl
  · next same => exact not_not.mp same

@[simp] theorem healthRefused_stream : s.healthRefused.stream = s.stream := by
  unfold healthRefused moveTo
  split <;> rfl

@[simp] theorem healthRefused_state : s.healthRefused.state = .invalid :=
  moveTo_state _

def Steady (s : FeedHandler World) (result : FeedHandler World × Bool) : Prop :=
  result.1.stream = s.stream ∧
    (result.2 = true ∧ result.1.state = s.state ∨ result.2 = false ∧ ¬ result.1.Live)

variable {result : FeedHandler World × Bool} {s s' : FeedHandler World}

theorem Steady.then {t : FeedHandler World}
    (first : Steady s (t, true)) (second : Steady t result) : Steady s result := by
  obtain ⟨same, ⟨-, state⟩ | ⟨no, -⟩⟩ := first
  · refine ⟨second.1.trans same, second.2.imp_left fun ⟨goes, kept⟩ => ⟨goes, kept.trans state⟩⟩
  · cases no

theorem steady_publishHealth (ports : Ports World) (s : FeedHandler World)
    (reason : FeedHealthReason) (nowNs : UInt64) :
    Steady s (s.publishHealth ports reason nowNs) := by
  unfold publishHealth
  dsimp only
  split
  · exact ⟨rfl, .inl ⟨rfl, rfl⟩⟩
  · exact ⟨healthRefused_stream, .inr ⟨rfl, fun live => live.1 healthRefused_state⟩⟩

theorem transition_stream (ports : Ports World) (s : FeedHandler World) (state : FeedState)
    (reason : FeedHealthReason) (nowNs : UInt64) :
    (s.transition ports state reason nowNs).1.stream = s.stream :=
  (steady_publishHealth _ _ _ _).1.trans (moveTo_stream state)

theorem transition_state (ports : Ports World) (s : FeedHandler World) (state : FeedState)
    (reason : FeedHealthReason) (nowNs : UInt64) : (s.transition ports state reason nowNs).2 ∧
        (s.transition ports state reason nowNs).1.state = state ∨
      (s.transition ports state reason nowNs).2 = false ∧
        ¬ (s.transition ports state reason nowNs).1.Live := by
  have reported := (steady_publishHealth ports (s.moveTo state) reason nowNs).2
  rwa [moveTo_state] at reported

@[simp] theorem fail_stream (reason : FeedHealthReason) :
    (s.fail ports reason nowNs).stream = s.stream := by
  unfold fail
  split
  · rfl
  · exact transition_stream _ _ _ _ _

theorem not_live_fail (reason : FeedHealthReason) : ¬ (s.fail ports reason nowNs).Live := by
  unfold fail
  split
  · next stopped => exact fun live => live.2 stopped
  · rcases transition_state ports s .invalid reason nowNs with ⟨-, invalid⟩ | ⟨-, dead⟩
    · exact fun live => live.1 invalid
    · exact dead

/-- The first part of `poll_once` on a running handler. -/
def readied (ports : Ports World) (s : FeedHandler World) (nowNs : UInt64) :
    FeedHandler World × Bool :=
  match s.observeTime ports nowNs with
  | (s, false) => (s, false)
  | (s, true) => if s.state = .stale then s.requestSnapshot ports nowNs else (s, true)

/-- The snapshot that an awaiting handler is about to read. -/
def offered (ports : Ports World) (s : FeedHandler World) : Option RecoverySnapshot :=
  let polled := ports.pollSnapshot s.world
  if s.recovery.progress = .snapshotRequested ∧ polled.2.1 = .packet then some polled.2.2 else none

/-- The packet that any other handler is about to read. -/
def arriving (ports : Ports World) (s : FeedHandler World) : Option DecodedPacket :=
  let received := ports.receive s.world
  let journaled := ports.enqueue received.1 received.2.2
  let decoded := ports.decode journaled.1 received.2.2
  if s.recovery.progress ≠ .snapshotRequested ∧ received.2.1 = .packet ∧
      journaled.2 = .accepted ∧ decoded.2.1 = .decoded then
    some decoded.2.2
  else none

/-- In the open gap, or after what is buffered. -/
def Continues (s : FeedHandler World) (packet : DecodedPacket) : Prop :=
  s.gapDetector.active = true → s.arbitrator.ahead packet.event.channelSequence ≤
        s.arbitrator.ahead s.gapDetector.range.last ∨
      previousSequence packet.event.channelSequence s.arbitrator.tracker.maximum ∈
        s.arbitrator.numbers

/-- A snapshot not behind the last accepted event. -/
def UpToDate (s : FeedHandler World) (snapshot : RecoverySnapshot) : Prop :=
  ∀ last ∈ lastEvent s.accepted, NotBehind s.config.maximumSequence last snapshot.lastSequence

/-- A call reads no packet that leaves a second hole. -/
def Orderly (ports : Ports World) (s : FeedHandler World) : Call → Prop
  | .pollOnce nowNs =>
      s.started = true → s.Live → ∀ packet ∈ (s.readied ports nowNs).1.arriving ports,
        Continues (s.readied ports nowNs).1 packet
  | _ => True

/-- A call reads no outdated snapshot. -/
def Current (ports : Ports World) (s : FeedHandler World) : Call → Prop
  | .pollOnce nowNs =>
      s.started = true → s.Live → ∀ snapshot ∈ (s.readied ports nowNs).1.offered ports,
        UpToDate (s.readied ports nowNs).1 snapshot
  | _ => True

instance (s : FeedHandler World) (packet : DecodedPacket) : Decidable (Continues s packet) :=
  inferInstanceAs (Decidable (_ = _ → _ ∨ _))

instance (s : FeedHandler World) (snapshot : RecoverySnapshot) : Decidable (UpToDate s snapshot) :=
  Option.decidableForallMem _

instance (ports : Ports World) (s : FeedHandler World) : DecidablePred (Orderly ports s)
  | .pollOnce nowNs =>
      have : Decidable (∀ packet ∈ (s.readied ports nowNs).1.arriving ports,
        Continues (s.readied ports nowNs).1 packet) := Option.decidableForallMem _
      inferInstanceAs (Decidable (_ = _ → s.Live → _))
  | .start _ | .onTimer _ | .stop _ => .isTrue trivial

instance (ports : Ports World) (s : FeedHandler World) : DecidablePred (Current ports s)
  | .pollOnce nowNs =>
      have : Decidable (∀ snapshot ∈ (s.readied ports nowNs).1.offered ports,
        UpToDate (s.readied ports nowNs).1 snapshot) := Option.decidableForallMem _
      inferInstanceAs (Decidable (_ = _ → s.Live → _))
  | .start _ | .onTimer _ | .stop _ => .isTrue trivial

theorem snapshotUsable_inRange {snapshot : RecoverySnapshot}
    (usable : s.snapshotUsable snapshot nowNs) :
    InRange s.config.maximumSequence snapshot.lastSequence := by
  unfold snapshotUsable at usable
  simp only [Bool.not_eq_eq_eq_not, Bool.not_true, Bool.or_eq_false_iff, beq_eq_false_iff_ne,
    decide_eq_false_iff_not, gt_iff_lt, UInt64.not_lt] at usable
  have nonzero : snapshot.lastSequence.toNat ≠ 0 := fun zero =>
    usable.1.1.1.1.1.1.2 (UInt64.toNat_inj.mp zero)
  exact ⟨by omega, UInt64.le_iff_toNat_le.mp usable.1.1.1.1.1.2⟩

/-- The window of a started handler without an open gap. -/
structure Settled (rest : FeedAFeedBArbitrator → Prop) (s : FeedHandler World) : Prop where
  window : s.arbitrator.Window
  closed : s.gapDetector.active = false → rest s.arbitrator
  opened : s.gapDetector.active = true → s.state ≠ .healthy ∧ s.arbitrator.Open s.gapDetector

def Empty (arbitrator : FeedAFeedBArbitrator) : Prop :=
  arbitrator.numbers = []

theorem Settled.of_numbers (settled : Settled Empty s)
    (state : s'.state = s.state) (tracker : s'.arbitrator.tracker = s.arbitrator.tracker)
    (numbers : s'.arbitrator.numbers = s.arbitrator.numbers)
    (gap : s'.gapDetector = s.gapDetector) : Settled Empty s' := by
  obtain ⟨⟨valid, expected, inRange, nodup⟩, closed, opened⟩ := settled
  have distances : s'.arbitrator.ahead = s.arbitrator.ahead := by
    unfold ahead
    rw [tracker]
  refine ⟨⟨by rwa [tracker], by rwa [tracker], by rwa [tracker, numbers], by rwa [numbers]⟩,
    by unfold Empty; rwa [gap, numbers], ?_⟩
  rw [gap, state]
  intro active
  obtain ⟨unhealthy, ⟨next, maximum, last, follows⟩⟩ := opened active
  refine ⟨unhealthy, by rwa [tracker], by rwa [tracker], by rwa [tracker], ?_⟩
  unfold FeedAFeedBArbitrator.Follows at follows ⊢
  rwa [distances, numbers]

theorem Settled.of_ready {sequence : UInt64} (settled : Settled Empty s)
    (inside : InRange s.arbitrator.tracker.maximum sequence)
    (expected : sequence = s.arbitrator.tracker.expected) (fresh : sequence ∉ s.arbitrator.numbers)
    (state : s'.state = s.state) (tracker : s'.arbitrator.tracker = s.arbitrator.tracker)
    (numbers : s'.arbitrator.numbers = s.arbitrator.numbers ++ [sequence])
    (gap : s'.gapDetector = s.gapDetector) : Settled Consecutive s' := by
  have window := settled.window.buffered inside fresh tracker numbers
  have zero : s.arbitrator.ahead sequence = 0 :=
    (settled.window.ahead_eq_zero_iff inside).mpr expected
  refine ⟨window, ?_, ?_⟩
  · rw [gap]
    intro inactive number mem _
    rw [numbers, settled.closed inactive, nil_append, mem_singleton] at mem
    exact .inl ((window.ahead_eq_zero_iff (by rwa [mem, tracker])).mpr (by rw [mem, tracker, expected]))
  · rw [gap, state]
    intro active
    exact ⟨(settled.opened active).1,
      (settled.opened active).2.buffered tracker numbers (.inl (by omega))⟩

/-- What every call keeps. `current`: answers are never outdated; `orderly`: packets continue what
is buffered. -/
structure Kept (current orderly : Prop) (rest : FeedAFeedBArbitrator → Prop)
    (s : FeedHandler World) : Prop where
  contiguous : Contiguous s.config s.accepted
  forward : current → MovesForward s.config s.accepted
  maximum : s.arbitrator.tracker.maximum = s.config.maximumSequence
  expecting : s.Live → s.arbitrator.tracker.expected = upcoming s.config s.accepted
  untouched : s.started = false → s.gapDetector.active = false ∧ s.accepted = [] ∧ s.arbitrator =
    .construct s.config.initialSequence s.config.maximumSequence s.config.arbitrationWindow
  capacity : s.started = true → s.Live → s.arbitrator.windowCapacity ≠ 0
  settled : orderly → s.Live → s.started = true → Settled rest s

variable {current orderly : Prop} {rest : FeedAFeedBArbitrator → Prop} {s' : FeedHandler World}

namespace Kept

theorem of_stream (kept : Kept current orderly rest s) (same : s'.stream = s.stream)
    (live : s'.Live → s.Live)
    (state : s'.Live → s'.state = .healthy → s.state = .healthy ∨ s.gapDetector.active = false) :
    Kept current orderly rest s' := by
  have config : s'.config = s.config := congrArg Stream.config same
  have accepted : s'.accepted = s.accepted := congrArg Stream.accepted same
  have arbitrator : s'.arbitrator = s.arbitrator := congrArg Stream.arbitrator same
  have gapDetector : s'.gapDetector = s.gapDetector := congrArg Stream.gapDetector same
  have started : s'.started = s.started := congrArg Stream.started same
  obtain ⟨contiguous, forward, maximum, expecting, untouched, capacity, settled⟩ := kept
  refine ⟨?_, ?_, ?_, ?_, ?_, ?_, ?_⟩
  · rwa [config, accepted]
  · rwa [config, accepted]
  · rwa [config, arbitrator]
  · rw [config, accepted, arbitrator]
    exact fun alive => expecting (live alive)
  · rwa [config, accepted, arbitrator, gapDetector, started]
  · rw [started, arbitrator]
    exact fun on alive => capacity on (live alive)
  · intro ordered alive on
    rw [started] at on
    obtain ⟨window, closed, opened⟩ := settled ordered (live alive) on
    refine ⟨by rwa [arbitrator], by rwa [arbitrator, gapDetector], ?_⟩
    rw [arbitrator, gapDetector]
    intro active
    refine ⟨fun healthy => ?_, (opened active).2⟩
    rcases state alive healthy with old | inactive
    · exact (opened active).1 old
    · rw [active] at inactive
      cases inactive

theorem of_dead (contiguous : Contiguous s'.config s'.accepted)
    (forward : current → MovesForward s'.config s'.accepted)
    (maximum : s'.arbitrator.tracker.maximum = s'.config.maximumSequence)
    (started : s'.started) (dead : ¬ s'.Live) : Kept current orderly rest s' :=
  ⟨contiguous, forward, maximum, fun alive => absurd alive dead,
    fun off => absurd (started.symm.trans off) (by simp), fun _ alive => absurd alive dead,
    fun _ alive => absurd alive dead⟩

theorem congr (kept : Kept current orderly rest s) (same : s'.stream = s.stream)
    (state : s'.state = s.state) : Kept current orderly rest s' :=
  kept.of_stream same (by simp [Live, state]) fun _ healthy => .inl (state ▸ healthy)

theorem fail (kept : Kept current orderly rest s) (reason : FeedHealthReason) :
    Kept current orderly rest (s.fail ports reason nowNs) :=
  kept.of_stream (fail_stream reason) (fun alive => absurd alive (not_live_fail reason))
    fun alive => absurd alive (not_live_fail reason)

end Kept

def Good (current orderly : Prop) (rest : FeedAFeedBArbitrator → Prop)
    (result : FeedHandler World × Bool) : Prop :=
  Kept current orderly rest result.1 ∧ (result.2 = true ∧ result.1.Live ∧ result.1.started = true ∨
      result.2 = false ∧ ¬ result.1.Live)

theorem Good.cases (good : Good current orderly rest result) :
    (∃ t, result = (t, true) ∧ Kept current orderly rest t ∧ t.Live ∧ t.started) ∨
      ∃ t, result = (t, false) ∧ Kept current orderly rest t ∧ ¬ t.Live := by
  obtain ⟨t, goes⟩ := result
  rcases good with ⟨kept, ⟨rfl, live, started⟩ | ⟨rfl, dead⟩⟩
  · exact .inl ⟨t, rfl, kept, live, started⟩
  · exact .inr ⟨t, rfl, kept, dead⟩

namespace Kept

section

variable (kept : Kept current orderly rest s)
include kept

theorem good_fail (reason : FeedHealthReason) :
    Good current orderly rest (s.fail ports reason nowNs, false) :=
  ⟨kept.fail reason, .inr ⟨rfl, not_live_fail reason⟩⟩

theorem good_of_steady (live : s.Live) (started : s.started) {result : FeedHandler World × Bool}
    (steady : Steady s result) : Good current orderly rest result := by
  obtain ⟨same, ⟨goes, state⟩ | ⟨ends, dead⟩⟩ := steady
  · exact ⟨kept.congr same state, .inl ⟨goes, by simpa [Live, state] using live,
      (congrArg Stream.started same).trans started⟩⟩
  · exact ⟨kept.of_stream same (fun _ => live) fun alive => absurd alive dead, .inr ⟨ends, dead⟩⟩

theorem good_transition (live : s.Live) (started : s.started)
    {state : FeedState} (target : state ≠ .invalid ∧ state ≠ .stopped)
    (healthy : state = .healthy → s.gapDetector.active = false) (reason : FeedHealthReason) :
    Good current orderly rest (s.transition ports state reason nowNs) := by
  have same := transition_stream ports s state reason nowNs
  have on := (congrArg Stream.started same).trans started
  rcases transition_state ports s state reason nowNs with ⟨sent, moved⟩ | ⟨refused, dead⟩
  · refine ⟨kept.of_stream same (fun _ => live) fun _ now => .inr (healthy (moved ▸ now)),
      .inl ⟨sent, ?_, on⟩⟩
    unfold Live
    rwa [moved]
  · exact ⟨kept.of_stream same (fun _ => live) fun alive => absurd alive dead, .inr ⟨refused, dead⟩⟩

end

theorem good_failed (contiguous : Contiguous s.config s.accepted)
    (forward : current → MovesForward s.config s.accepted)
    (maximum : s.arbitrator.tracker.maximum = s.config.maximumSequence) (started : s.started)
    (reason : FeedHealthReason) : Good current orderly rest (s.fail ports reason nowNs, false) := by
  have same : (s.fail ports reason nowNs).stream = s.stream := fail_stream reason
  have config : (s.fail ports reason nowNs).config = s.config := congrArg Stream.config same
  have accepted : (s.fail ports reason nowNs).accepted = s.accepted :=
    congrArg Stream.accepted same
  refine ⟨of_dead ?_ ?_ ?_ ((congrArg Stream.started same).trans started) (not_live_fail reason),
    .inr ⟨rfl, not_live_fail reason⟩⟩
  · rwa [config, accepted]
  · rwa [config, accepted]
  · rw [config]
    exact (congrArg (fun stream => stream.arbitrator.tracker.maximum) same).trans maximum

theorem of_not_live {rest' : FeedAFeedBArbitrator → Prop} (kept : Kept current orderly rest s)
    (dead : ¬ s.Live) : Kept current orderly rest' s :=
  { kept with settled := fun _ alive => absurd alive dead }

variable {arbitrator : FeedAFeedBArbitrator} {ready : ArbitratedEvent}

theorem published (kept : Kept current orderly Consecutive s) (live : s.Live)
    (started : s.started) (popped : s.arbitrator.popReady = (arbitrator, some ready))
    {normalized : NormalizedEvent} (event : normalized.event = ready.event)
    (config : s'.config = s.config) (accepted : s'.accepted = s.accepted ++ [.event normalized])
    (moved : s'.arbitrator = arbitrator) (on : s'.started)
    (settled : Settled Consecutive s → Settled Consecutive s') :
    Kept current orderly Consecutive s' := by
  obtain ⟨number, tracker, -, -⟩ := popReady_eq_some popped
  have expected := kept.expecting live
  refine ⟨?_, fun cur => ?_, ?_, fun _ => ?_, fun off => ?_, fun _ _ => ?_,
    fun ordered _ _ => ?_⟩
  · rw [config, accepted]
    refine kept.contiguous.concat fun other same => ?_
    cases same
    rw [event, number, expected]
  · rw [config, accepted]
    exact (kept.forward cur).concat nofun
  · rw [config, moved, tracker]
    exact kept.maximum
  · rw [config, accepted, moved, tracker, upcoming_concat]
    simp only [Accepted.sequence, event, number]
    rw [← kept.maximum]
    rfl
  · rw [on] at off
    cases off
  · have window : s.arbitrator.popReady.1.windowCapacity = s.arbitrator.windowCapacity :=
      popReady_windowCapacity
    rw [popped] at window
    rw [moved, window]
    exact kept.capacity started live
  · exact settled (kept.settled ordered live started)

theorem good_publishReady (kept : Kept current orderly Consecutive s) (live : s.Live)
    (started : s.started) (popped : s.arbitrator.popReady = (arbitrator, some ready)) :
    Good current orderly Consecutive ({ s with arbitrator }.publishReady ports ready nowNs) := by
  obtain ⟨number, tracker, -, -⟩ := popReady_eq_some popped
  unfold publishReady
  dsimp only
  split
  · apply good_failed
    · exact kept.contiguous
    · exact kept.forward
    · dsimp only
      rw [tracker]
      exact kept.maximum
    · exact started
  unfold closeGap
  rw [number]
  -- With a gap open, the popped event is the next missing one.
  have marks : Settled Consecutive s → s.gapDetector.active →
      ∃ gap, s.gapDetector.markApplied s.arbitrator.tracker.expected = some gap ∧
        (gap.active ∧ arbitrator.Open gap ∨ gap.active = false ∧ arbitrator.Consecutive) :=
    fun settled active => settled.window.open_popped (settled.opened active).2 active popped
  cases applied : s.gapDetector.markApplied s.arbitrator.tracker.expected with
  | none =>
    refine ⟨kept.published live started popped rfl rfl rfl rfl started fun settled => ?_,
      .inl ⟨rfl, live, started⟩⟩
    refine ⟨settled.window.popped popped, fun inactive => ?_, fun active => ?_⟩
    · exact settled.window.consecutive_popped popped (settled.closed inactive)
    · obtain ⟨gap, marked, -⟩ := marks settled active
      rw [applied] at marked
      cases marked
  | some gap =>
    have active : s.gapDetector.active := by
      by_contra inactive
      simp [GapDetector.markApplied, inactive] at applied
    have outcome : Settled Consecutive s → gap.active ∧ arbitrator.Open gap ∨
        gap.active = false ∧ arbitrator.Consecutive := by
      intro settled
      obtain ⟨gap', marked, outcome⟩ := marks settled active
      rw [applied] at marked
      cases marked
      exact outcome
    dsimp only
    split
    · next still =>
      refine ⟨kept.published live started popped rfl rfl rfl rfl started fun settled => ?_,
        .inl ⟨rfl, live, started⟩⟩
      refine ⟨settled.window.popped popped, fun inactive => ?_, fun _ => ?_⟩
      · exact absurd (still.symm.trans inactive) (by simp)
      · rcases outcome settled with ⟨-, opened⟩ | ⟨inactive, -⟩
        · exact ⟨(settled.opened active).1, opened⟩
        · exact absurd (still.symm.trans inactive) (by simp)
    · next done =>
      have closed : gap.active = false := by simpa using done
      apply good_transition
      · refine kept.published live started popped rfl rfl rfl rfl started fun settled => ?_
        refine ⟨settled.window.popped popped, fun _ => ?_, fun on => absurd on done⟩
        rcases outcome settled with ⟨open', -⟩ | ⟨-, consecutive⟩
        · exact absurd open' done
        · exact consecutive
      · exact live
      · exact started
      · simp
      · exact fun _ => closed

theorem publishReady_arbitrator (x : FeedHandler World) :
    (x.publishReady ports ready nowNs).1.arbitrator = x.arbitrator := by
  unfold publishReady
  dsimp only
  split
  · exact congrArg Stream.arbitrator (fail_stream _)
  unfold closeGap
  split
  · rfl
  · split
    · rfl
    · exact congrArg Stream.arbitrator (transition_stream _ _ _ _ _)

section

variable (kept : Kept current orderly Consecutive s) (live : s.Live) (started : s.started)
include kept live started

theorem good_drain {rounds : Nat} (enough : s.arbitrator.occupancy < rounds) :
    Good current orderly Empty (drain ports nowNs rounds s) := by
  induction rounds generalizing s with
  | zero => omega
  | succ rounds ih =>
    unfold drain
    split
    · next arbitrator popped =>
      have tracker := popReady_tracker_of_none popped
      have capacity : s.arbitrator.popReady.1.windowCapacity = s.arbitrator.windowCapacity :=
        popReady_windowCapacity
      rw [popped] at capacity
      refine ⟨⟨kept.contiguous, kept.forward, ?_, fun _ => ?_, fun off => ?_, fun _ _ => ?_,
        fun ordered _ _ => ?_⟩, .inl ⟨rfl, live, started⟩⟩
      · rw [tracker]
        exact kept.maximum
      · dsimp only
        rw [tracker]
        exact kept.expecting live
      · exact absurd (started.symm.trans off) (by simp)
      · exact fun zero => kept.capacity started live (capacity.symm.trans zero)
      · obtain ⟨window, closed, opened⟩ := kept.settled ordered live started
        obtain ⟨rfl, nothing⟩ := window.popReady_eq_none popped
        exact ⟨window, fun inactive => window.empty_of_consecutive (closed inactive) nothing,
          opened⟩
    · next arbitrator ready popped =>
      obtain ⟨-, -, -, fewer⟩ := popReady_eq_some popped
      have round : Good current orderly Consecutive
          ({ s with arbitrator }.publishReady ports ready nowNs) :=
        kept.good_publishReady live started popped
      have left : ({ s with arbitrator }.publishReady ports ready nowNs).1.arbitrator =
          arbitrator := publishReady_arbitrator _
      rcases round.cases with ⟨t, result, kept', live', on⟩ | ⟨t, result, kept', dead⟩
      · rw [result] at left
        rw [result]
        exact ih kept' live' on (by rw [left]; omega)
      · rw [result]
        exact ⟨kept'.of_not_live dead, .inr ⟨rfl, dead⟩⟩

theorem good_drainReady : Good current orderly Empty (s.drainReady ports nowNs) :=
  kept.good_drain live started (Nat.lt_succ_self _)

theorem good_handleReady : Good current orderly Empty (s.handleReady ports nowNs) := by
  unfold handleReady
  split
  · next idle =>
    have moved : Good current orderly Consecutive (s.transition ports .healthy .continuous nowNs) :=
      kept.good_transition live started (by simp) (fun _ => idle.2) _
    rcases moved.cases with ⟨t, result, kept', live', on⟩ | ⟨t, result, kept', dead⟩
    · rw [result]
      exact kept'.good_drainReady live' on
    · rw [result]
      exact ⟨kept'.of_not_live dead, .inr ⟨rfl, dead⟩⟩
  · exact kept.good_drainReady live started

end

theorem good_recoverGap (kept : Kept current orderly rest s) (live : s.Live)
    (started : s.started) : Good current orderly rest (s.recoverGap ports nowNs) := by
  unfold recoverGap
  dsimp only
  split
  · apply good_transition
    · exact kept.congr rfl rfl
    · exact live
    · exact started
    · simp
    · simp
  split
  · apply good_transition
    · exact kept.congr rfl rfl
    · exact live
    · exact started
    · simp
    · simp
  · apply good_fail
    exact kept.congr rfl rfl

variable {packet : DecodedPacket} {sequence : UInt64}

section

variable (kept : Kept current orderly Empty s) (live : s.Live) (started : s.started)
include kept live started

theorem buffered (config : s'.config = s.config) (accepted : s'.accepted = s.accepted)
    (tracker : s'.arbitrator.tracker = s.arbitrator.tracker)
    (window : s'.arbitrator.windowCapacity = s.arbitrator.windowCapacity) (on : s'.started)
    (settled : orderly → Settled Empty s → Settled rest s') : Kept current orderly rest s' := by
  refine ⟨by rw [config, accepted]; exact kept.contiguous,
    by rw [config, accepted]; exact kept.forward, by rw [config, tracker]; exact kept.maximum,
    fun _ => by rw [config, accepted, tracker]; exact kept.expecting live, fun off => ?_,
    fun _ _ => by rw [window]; exact kept.capacity started live,
    fun ordered _ _ => settled ordered (kept.settled ordered live started)⟩
  rw [on] at off
  cases off

theorem good_handleGap (gap : s.arbitrator.tracker.classify sequence = .gap)
    (fresh : sequence ∉ s.arbitrator.numbers) (continues : orderly → s.gapDetector.active →
      s.arbitrator.ahead sequence ≤ s.arbitrator.ahead s.gapDetector.range.last ∨
        previousSequence sequence s.arbitrator.tracker.maximum ∈ s.arbitrator.numbers)
    {arbitrator : FeedAFeedBArbitrator} (tracker : arbitrator.tracker = s.arbitrator.tracker)
    (window : arbitrator.windowCapacity = s.arbitrator.windowCapacity)
    (numbers : arbitrator.numbers = s.arbitrator.numbers ++ [sequence]) : Good current orderly Empty
      ({ s with arbitrator }.handleGap ports s.arbitrator.tracker.expected sequence nowNs) := by
  obtain ⟨inside, -, unexpected⟩ := inRange_of_classify (.inr gap)
  have ahead := unexpected gap
  unfold handleGap
  split
  · next active =>
    refine ⟨?_, .inl ⟨rfl, live, started⟩⟩
    refine kept.buffered live started rfl rfl tracker window started fun ordered settled => ?_
    refine ⟨settled.window.buffered inside fresh tracker numbers,
      fun inactive => absurd (active.symm.trans inactive) (by simp), fun _ => ?_⟩
    refine ⟨(settled.opened active).1, (settled.opened active).2.buffered tracker numbers ?_⟩
    rcases continues ordered active with within | mem
    · exact .inl within
    · exact .inr ⟨_, mem, settled.window.ahead_previous inside ahead⟩
  · next inactive =>
    rw [tracker]
    cases activated : s.gapDetector.activate s.arbitrator.tracker.expected sequence
        s.arbitrator.tracker.maximum with
    | none =>
      apply good_failed
      · exact kept.contiguous
      · exact kept.forward
      · rw [tracker]
        exact kept.maximum
      · exact started
    | some opened =>
      dsimp only
      have moved : Good current orderly Empty ({ s with
            arbitrator
            gapDetector := opened
            metrics := { s.metrics with
              missingSequences := s.metrics.missingSequences + opened.missingCount } }.transition
            ports .gapDetected .sequenceGap nowNs) := by
        refine good_of_steady ?_ ?_ ?_ (steady_publishHealth _ _ _ _)
        · have open' : Kept current orderly Empty
              { s with arbitrator, gapDetector := opened, state := .gapDetected } := by
            refine kept.buffered live started rfl rfl tracker window started
              fun _ settled => ?_
            have only : arbitrator.numbers = [sequence] := by
              rw [numbers, settled.closed (by simpa using inactive)]
              rfl
            have window := settled.window.buffered inside fresh tracker numbers
            have gapOpen := window.open_of_activate (by rwa [tracker]) (by rwa [tracker]) only
              (by rw [tracker]; exact activated)
            exact ⟨window, fun off => absurd (gapOpen.1.symm.trans off) (by simp),
              fun _ => ⟨by simp, gapOpen.2⟩⟩
          exact open'.congr (moveTo_stream _) (moveTo_state _)
        · unfold Live
          simp
        · exact (congrArg Stream.started (moveTo_stream _)).trans started
      rcases moved.cases with ⟨t, result, kept', live', on⟩ | ⟨t, result, kept', dead⟩
      · rw [result]
        exact kept'.good_recoverGap live' on
      · rw [result]
        exact ⟨kept', .inr ⟨rfl, dead⟩⟩

theorem good_handleArbitration (continues : orderly → Continues s packet) :
    Good current orderly Empty (s.handleArbitration ports packet nowNs) := by
  obtain ⟨tracker, outcome⟩ := ingest_cases s.arbitrator packet
  have window : (s.arbitrator.ingest packet).1.windowCapacity = s.arbitrator.windowCapacity :=
    ingest_windowCapacity
  unfold handleArbitration
  dsimp only
  rcases outcome with ⟨⟨unready, unbuffered⟩, numbers⟩ |
    ⟨disposition, classified, kinds, fresh, status, numbers⟩
  · have noted : Kept current orderly Empty
        { s with arbitrator := (s.arbitrator.ingest packet).1 } := by
      refine kept.buffered live started rfl rfl tracker window started fun _ settled => ?_
      exact settled.of_numbers rfl tracker numbers rfl
    split
    · next ready => exact absurd ready unready
    · next gap => exact absurd gap unbuffered
    · exact ⟨noted, .inl ⟨rfl, live, started⟩⟩
    all_goals exact noted.good_fail _
  · rcases kinds with next | gap
    · rw [if_pos next] at status
      rw [status]
      apply good_handleReady
      · refine kept.buffered live started rfl rfl tracker window started fun _ settled => ?_
        obtain ⟨inside, expected, -⟩ :=
          inRange_of_classify (.inl (classified.trans next))
        exact settled.of_ready inside (expected (classified.trans next)) fresh rfl tracker numbers rfl
      · exact live
      · exact started
    · rw [gap] at status classified
      rw [status]
      exact kept.good_handleGap live started classified fresh continues tracker window numbers

end

theorem steady_setLeg {leg : FeedLeg} {tracker : SequenceTracker} {degraded : Bool} :
    Steady s (s.setLeg leg tracker degraded, true) := by
  unfold setLeg
  split <;> exact ⟨rfl, .inl ⟨rfl, rfl⟩⟩

theorem steady_observeLeg : Steady s (s.observeLeg ports packet nowNs) := by
  unfold observeLeg
  split
  · exact ⟨rfl, .inl ⟨rfl, rfl⟩⟩
  dsimp only
  generalize (if packet.feedLeg = .a then s.legATracker else s.legBTracker) = tracker
  generalize (if packet.feedLeg = .a then s.legADegraded else s.legBDegraded) = degraded
  split
  · exact ⟨fail_stream _, .inr ⟨rfl, not_live_fail _⟩⟩
  · split
    · exact steady_setLeg.then (steady_publishHealth _ _ _ _)
    · exact steady_setLeg
  · exact steady_setLeg.then (steady_publishHealth _ _ _ _)
  · exact ⟨rfl, .inl ⟨rfl, rfl⟩⟩
  · exact ⟨rfl, .inl ⟨rfl, rfl⟩⟩

theorem handleDecoded (kept : Kept current orderly Empty s) (live : s.Live)
    (started : s.started) (continues : orderly → Continues s packet) :
    Kept current orderly Empty (s.handleDecoded ports packet nowNs).1 := by
  unfold FeedHandler.handleDecoded
  dsimp only
  generalize active : ({ s with
    hasValidActivity := true
    lastValidActivityNs := nowNs } : FeedHandler World) = t
  have kept' : Kept current orderly Empty t := by
    subst active
    exact kept.congr rfl rfl
  have good : Good current orderly Empty (t.observeLeg ports packet nowNs) := by
    subst active
    exact kept'.good_of_steady live started steady_observeLeg
  have same : (t.observeLeg ports packet nowNs).1.stream = s.stream := by
    rw [steady_observeLeg.1]
    subst active
    rfl
  rcases good.cases with ⟨u, result, keptU, liveU, on⟩ | ⟨u, result, keptU, dead⟩
  · rw [result] at same
    rw [result]
    have continuesU : orderly → Continues u packet := by
      intro ordered
      have arbitrator : u.arbitrator = s.arbitrator := congrArg Stream.arbitrator same
      have gap : u.gapDetector = s.gapDetector := congrArg Stream.gapDetector same
      unfold Continues
      rw [arbitrator, gap]
      exact continues ordered
    have handled : Good current orderly Empty (u.handleArbitration ports packet nowNs) :=
      keptU.good_handleArbitration liveU on continuesU
    rcases handled.cases with ⟨v, result', keptV, -⟩ | ⟨v, result', keptV, -⟩ <;>
    · dsimp only
      rw [result']
      exact keptV
  · rw [result]
    exact keptU

theorem resumed (kept : Kept current orderly rest s) (started : s.started)
    {snapshot : RecoverySnapshot} (inside : InRange s.config.maximumSequence snapshot.lastSequence)
    (ahead : current → UpToDate s snapshot) :
    Kept current orderly Empty (s.resumed snapshot nowNs) := by
  have expected := inside.next
  have tracker : (s.resumed snapshot nowNs).arbitrator.tracker =
      .construct (nextSequence snapshot.lastSequence s.config.maximumSequence)
        s.config.maximumSequence := by
    show SequenceTracker.construct _ s.arbitrator.tracker.maximum = _
    rw [kept.maximum]
  refine ⟨?_, fun cur => ?_, ?_, fun _ => ?_, fun off => ?_, kept.capacity, fun _ _ _ => ?_⟩
  · exact kept.contiguous.concat fun _ same => by cases same
  · show MovesForward s.config (s.accepted ++ [.snapshot snapshot])
    refine (kept.forward cur).concat fun other same => ?_
    cases same
    exact ahead cur
  · rw [tracker]
    rfl
  · rw [tracker]
    show _ = upcoming s.config (s.accepted ++ [.snapshot snapshot])
    rw [upcoming_concat]
    rfl
  · exact absurd (started.symm.trans off) (by simp)
  · refine ⟨⟨?_, ?_, fun _ mem => absurd mem not_mem_nil, nodup_nil⟩, fun _ => rfl,
      fun active => absurd active Bool.false_ne_true⟩
    · obtain ⟨low, high⟩ := expected
      have first : nextSequence snapshot.lastSequence s.config.maximumSequence ≠ 0 := by
        intro zero
        simp [zero] at low
      have last : s.config.maximumSequence ≠ 0 := by
        intro zero
        simp only [zero, UInt64.toNat_zero] at high low
        omega
      rw [tracker]
      simp [SequenceTracker.construct, first, last, UInt64.le_iff_toNat_le, high]
    · rw [tracker]
      exact expected

section

variable (kept : Kept current orderly Empty s) (live : s.Live) (started : s.started)
include kept live started

theorem pollSnapshot (ahead : current → (ports.pollSnapshot s.world).2.1 = .packet →
      UpToDate s (ports.pollSnapshot s.world).2.2) :
    Kept current orderly Empty (s.pollSnapshot ports nowNs).1 := by
  have failed : ∀ {x : FeedHandler World}, Kept current orderly Empty x →
      Kept current orderly Empty (x.snapshotFailed ports nowNs).1 := by
    intro x keptX
    unfold snapshotFailed
    split
    · exact keptX.fail _
    · exact keptX
  unfold FeedHandler.pollSnapshot
  dsimp only
  split
  · exact kept.congr rfl rfl
  next polled =>
    have applied : Good current orderly Empty
        (({ s with world := (ports.pollSnapshot s.world).1 } : FeedHandler World).applySnapshot
          ports (ports.pollSnapshot s.world).2.2 nowNs) := by
      unfold applySnapshot
      dsimp only
      split
      · apply good_fail
        exact kept.congr rfl rfl
      next usable =>
      split
      · apply good_fail
        exact kept.congr rfl rfl
      have inside := snapshotUsable_inRange (by simpa using usable)
      apply good_transition
      · apply Kept.resumed
        · exact kept.congr rfl rfl
        · exact started
        · exact inside
        · exact fun cur => ahead cur polled
      · exact live
      · exact started
      · simp
      · exact fun _ => rfl
    rcases applied.cases with ⟨t, result, keptT, -⟩ | ⟨t, result, keptT, -⟩
    · rw [result]
      exact keptT
    · rw [result]
      exact failed keptT
  · exact failed (kept.congr rfl rfl)

theorem handlePacket
    {raw : RawPacket} (continues : orderly → (ports.enqueue s.world raw).2 = .accepted →
      (ports.decode (ports.enqueue s.world raw).1 raw).2.1 = .decoded →
      Continues s (ports.decode (ports.enqueue s.world raw).1 raw).2.2) :
    Kept current orderly Empty (s.handlePacket ports raw nowNs).1 := by
  unfold FeedHandler.handlePacket
  dsimp only
  split
  · apply Kept.fail
    exact kept.congr rfl rfl
  split
  · apply Kept.fail
    exact kept.congr rfl rfl
  next journaled =>
    split
    · unfold refuseDecoded
      dsimp only
      split <;>
      · apply Kept.fail
        exact kept.congr rfl rfl
    next decoded =>
      apply Kept.handleDecoded
      · exact kept.congr rfl rfl
      · exact live
      · exact started
      · exact fun ordered => continues ordered (not_not.mp journaled) (not_not.mp decoded)

theorem pollPacket (idle : s.recovery.progress ≠ .snapshotRequested)
    (continues : orderly → ∀ packet ∈ s.arriving ports, Continues s packet) :
    Kept current orderly Empty (s.pollPacket ports nowNs).1 := by
  unfold FeedHandler.pollPacket
  dsimp only
  split
  · exact kept.congr rfl rfl
  · apply Kept.fail
    exact kept.congr rfl rfl
  · apply Kept.fail
    exact kept.congr rfl rfl
  · next received =>
    apply Kept.handlePacket
    · exact kept.congr rfl rfl
    · exact live
    · exact started
    intro ordered journaled decoded
    refine continues ordered _ ?_
    unfold arriving
    dsimp only
    rw [if_pos ⟨idle, received, journaled, decoded⟩]
    rfl

end

section

variable (kept : Kept current orderly rest s) (live : s.Live) (started : s.started)
include kept live started

theorem good_observeTime : Good current orderly rest (s.observeTime ports nowNs) := by
  unfold observeTime
  split
  · exact kept.good_fail _
  · exact ⟨kept.congr rfl rfl, .inl ⟨rfl, live, started⟩⟩

theorem good_requestSnapshot : Good current orderly rest (s.requestSnapshot ports nowNs) := by
  unfold requestSnapshot
  dsimp only
  split
  · apply good_fail
    exact kept.congr rfl rfl
  apply good_transition
  · exact kept.congr rfl rfl
  · exact live
  · exact started
  · simp
  · exact nofun

theorem good_readied : Good current orderly rest (s.readied ports nowNs) := by
  unfold readied
  have observed : Good current orderly rest (s.observeTime ports nowNs) :=
    kept.good_observeTime live started
  rcases observed.cases with ⟨t, result, keptT, liveT, on⟩ | ⟨t, result, keptT, dead⟩
  · rw [result]
    dsimp only
    split
    · exact keptT.good_requestSnapshot liveT on
    · exact ⟨keptT, .inl ⟨rfl, liveT, on⟩⟩
  · rw [result]
    exact ⟨keptT, .inr ⟨rfl, dead⟩⟩

end

theorem pollRunning (kept : Kept current orderly Empty s) (live : s.Live) (started : s.started)
    (continues : orderly → ∀ packet ∈ s.arriving ports, Continues s packet)
    (ahead : current → ∀ snapshot ∈ s.offered ports, UpToDate s snapshot) :
    Kept current orderly Empty (s.pollRunning ports nowNs).1 := by
  unfold FeedHandler.pollRunning
  split
  · next awaiting =>
    refine kept.pollSnapshot live started fun cur polled => ahead cur _ ?_
    unfold offered
    dsimp only
    rw [if_pos ⟨awaiting, polled⟩]
    rfl
  · next idle => exact kept.pollPacket live started idle continues

theorem pollOnce (kept : Kept current orderly Empty s)
    (ordered : orderly → Orderly ports s (.pollOnce nowNs))
    (cur : current → Current ports s (.pollOnce nowNs)) :
    Kept current orderly Empty (s.pollOnce ports nowNs).1 := by
  unfold FeedHandler.pollOnce
  split
  · exact kept
  next running =>
    split
    · exact kept
    next usable =>
      simp only [Bool.or_eq_true, Bool.not_eq_true', decide_eq_true_eq, not_or,
        Bool.not_eq_false] at usable
      obtain ⟨started, valid⟩ := usable
      have live : s.Live := ⟨valid, running⟩
      have ready : Good current orderly Empty (s.readied ports nowNs) :=
        kept.good_readied live started
      have continues := fun o => ordered o started live
      have ahead := fun c => cur c started live
      -- `poll_once` and `readied` part where the state is stale.
      unfold readied at ready continues ahead
      generalize s.observeTime ports nowNs = observed at ready continues ahead ⊢
      obtain ⟨t, _ | _⟩ := observed
      · exact ready.1
      dsimp only at ready continues ahead ⊢
      split at ready
      · next stale =>
        rw [if_pos stale] at continues ahead ⊢
        rcases ready.cases with ⟨u, result, keptU, liveU, on⟩ | ⟨u, result, keptU, -⟩
        · rw [result] at continues ahead ⊢
          exact keptU.pollRunning liveU on continues ahead
        · rw [result]
          exact keptU
      · next fresh =>
        rw [if_neg fresh] at continues ahead ⊢
        rcases ready.cases with ⟨u, result, keptU, liveU, on⟩ | ⟨u, result, -⟩
        · cases result
          exact keptU.pollRunning liveU on continues ahead
        · cases result

section

variable (kept : Kept current orderly rest s)
include kept

theorem checkStale (live : s.Live)
    (started : s.started) : Kept current orderly rest (s.checkStale ports nowNs) := by
  unfold FeedHandler.checkStale
  split
  · have moved : Good current orderly rest (s.transition ports .stale .staleTimeout nowNs) := by
      apply kept.good_transition live started (by simp)
      exact nofun
    exact moved.1
  · exact kept

theorem onTimer : Kept current orderly rest (s.onTimer ports nowNs) := by
  unfold FeedHandler.onTimer
  split
  · exact kept
  next usable =>
    simp only [Bool.or_eq_true, Bool.not_eq_true', decide_eq_true_eq, not_or,
      Bool.not_eq_false] at usable
    obtain ⟨⟨started, valid⟩, running⟩ := usable
    have observed : Good current orderly rest (s.observeTime ports nowNs) :=
      kept.good_observeTime ⟨valid, running⟩ started
    rcases observed.cases with ⟨t, result, keptT, liveT, on⟩ | ⟨t, result, keptT, -⟩
    · rw [result]
      dsimp only
      split
      · refine (good_transition ?_ ?_ ?_ ?_ ?_ _).1
        · exact keptT.congr rfl rfl
        · exact liveT
        · exact on
        · simp
        · exact nofun
      split
      · apply Kept.fail
        exact keptT.congr rfl rfl
      · apply Kept.checkStale
        · exact keptT.congr rfl rfl
        · exact liveT
        · exact on
    · rw [result]
      exact keptT

theorem stop : Kept current orderly rest (s.stop ports nowNs) := by
  unfold FeedHandler.stop
  split
  · exact kept
  have noted : (s.noteStop nowNs).stream = s.stream := by
    unfold noteStop
    split <;> rfl
  refine kept.of_stream ?_ (fun live => absurd rfl live.2) fun live => absurd rfl live.2
  rw [← noted]
  rfl

end

theorem begun (kept : Kept current orderly Empty s) (off : s.started = false)
    (valid : s.arbitrator.valid) (same : s'.stream = { s.stream with started := true }) :
    Kept current orderly Empty s' := by
  obtain ⟨inactive, none, arbitrator⟩ := kept.untouched off
  have config : s'.config = s.config := congrArg Stream.config same
  have accepted : s'.accepted = [] := (congrArg Stream.accepted same).trans none
  have fresh : s'.arbitrator = .construct s.config.initialSequence s.config.maximumSequence
    s.config.arbitrationWindow := (congrArg Stream.arbitrator same).trans arbitrator
  have gap : s'.gapDetector.active = false :=
    (congrArg (fun stream => stream.gapDetector.active) same).trans inactive
  have on : s'.started := congrArg Stream.started same
  have sound : (SequenceTracker.construct s.config.initialSequence
      s.config.maximumSequence).valid := by
    have tracker := (Bool.and_eq_true_iff.mp valid).1
    rwa [arbitrator] at tracker
  have inside : InRange s.config.maximumSequence s.config.initialSequence := by
    simp only [SequenceTracker.construct, Bool.and_eq_true, bne_iff_ne, decide_eq_true_eq] at sound
    have nonzero : s.config.initialSequence.toNat ≠ 0 := fun zero =>
      sound.1.1 (UInt64.toNat_inj.mp zero)
    exact ⟨by omega, UInt64.le_iff_toNat_le.mp sound.2⟩
  have forward : MovesForward s.config [] := fun before snapshot after split => by simp at split
  have contiguous : Contiguous s.config [] := fun before snapshot after split => by simp at split
  refine ⟨by rwa [config, accepted], fun _ => by rwa [config, accepted], ?_, fun _ => ?_,
    fun off => ?_, fun _ _ => ?_, fun _ _ _ => ⟨⟨?_, ?_, ?_, ?_⟩, fun _ => ?_, fun active => ?_⟩⟩
  · rw [fresh, config]
    rfl
  · rw [fresh, config, accepted]
    rfl
  · rw [on] at off
    cases off
  · rw [fresh, ← arbitrator]
    exact bne_iff_ne.mp (Bool.and_eq_true_iff.mp valid).2
  · rw [fresh]
    exact sound
  · rw [fresh]
    exact inside
  · simp [fresh, FeedAFeedBArbitrator.construct, FeedAFeedBArbitrator.numbers]
  · simp [fresh, FeedAFeedBArbitrator.construct, FeedAFeedBArbitrator.numbers]
  · simp [fresh, FeedAFeedBArbitrator.construct, FeedAFeedBArbitrator.numbers, Empty]
  · rw [gap] at active
    cases active

theorem start (kept : Kept current orderly Empty s) :
    Kept current orderly Empty (s.start ports nowNs).1 := by
  unfold FeedHandler.start
  split
  · exact kept
  next idle =>
    have off : s.started = false := eq_false_of_ne_true idle
    unfold observeTime
    by_cases regressed : (s.hasObservedTime && decide (nowNs < s.lastObservedTimeNs))
    · rw [if_pos regressed]
      exact kept.fail _
    rw [if_neg regressed]
    dsimp only
    split
    · refine (good_failed ?_ ?_ ?_ ?_ _).1
      · exact kept.contiguous
      · exact kept.forward
      · exact kept.maximum
      · rfl
    next usable =>
      simp only [Bool.or_eq_true, Bool.not_eq_true', not_or, Bool.not_eq_false] at usable
      refine kept.begun off usable.1.1.2 ?_
      generalize begin : ({ s with
        hasObservedTime := true, lastObservedTimeNs := nowNs, started := true } :
          FeedHandler World) = t
      have same : t.stream = { s.stream with started := true } := by
        subst begin
        rfl
      rw [← same]
      have reported := (steady_publishHealth ports t .starting nowNs).1
      split
      · next u result =>
        rw [result] at reported
        exact reported
      · next u result =>
        rw [result] at reported
        rw [transition_stream]
        exact reported

theorem construct (config : FeedHandlerConfig) (world : World) :
    Kept current orderly Empty (FeedHandler.construct config world) where
  contiguous before normalized after split := by simp [FeedHandler.construct] at split
  forward _ before snapshot after split := by simp [FeedHandler.construct] at split
  maximum := rfl
  expecting _ := rfl
  untouched _ := ⟨rfl, rfl, rfl⟩
  capacity on := absurd on Bool.false_ne_true
  settled _ _ on := absurd on Bool.false_ne_true

theorem next {call : Call} (kept : Kept current orderly Empty s)
    (ordered : orderly → Orderly ports s call) (cur : current → Current ports s call) :
    Kept current orderly Empty (s.next ports call) := by
  cases call with
  | start nowNs => exact kept.start
  | pollOnce nowNs => exact kept.pollOnce ordered cur
  | onTimer nowNs => exact kept.onTimer
  | stop nowNs => exact kept.stop

end Kept

end FeedHandler

end Aegis.MarketData
