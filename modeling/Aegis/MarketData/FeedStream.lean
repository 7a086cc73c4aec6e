import Aegis.MarketData.FeedContinuity

/-!
What a feed publishes over a whole run. A healthy feed holds nothing back where no packet leaves a
second hole behind a gap.
-/

namespace Aegis.MarketData

open Aegis.Common Aegis.Foundation List

def published (accepted : List Accepted) : List UInt64 :=
  accepted.filterMap fun entry =>
    match entry with
    | .event normalized => some normalized.event.channelSequence
    | .snapshot _ => none

/-- The accepted numbers are in the first half. -/
def InFirstHalf (config : FeedHandlerConfig) (accepted : List Accepted) : Prop :=
  ∀ entry ∈ accepted, 2 * entry.sequence.toNat ≤ config.maximumSequence.toNat

section Lists

variable {config : FeedHandlerConfig} {accepted : List Accepted} {entry : Accepted}

theorem Contiguous.of_concat (contiguous : Contiguous config (accepted ++ [entry])) :
    Contiguous config accepted := by
  intro before normalized after same
  exact contiguous before normalized (after ++ [entry]) (by simp [same])

theorem MovesForward.of_concat (forward : MovesForward config (accepted ++ [entry])) :
    MovesForward config accepted := by
  intro before snapshot after same
  exact forward before snapshot (after ++ [entry]) (by simp [same])

theorem lastEvent_eq_getLast? : lastEvent accepted = (published accepted).getLast? := by
  induction accepted using reverseRecOn with
  | nil => rfl
  | append_singleton accepted entry ih =>
    unfold lastEvent published at *
    rw [foldl_append, ih, filterMap_append]
    cases entry <;> simp

theorem NotBehind.le {maximum last sequence : UInt64} (ahead : NotBehind maximum last sequence)
    (half : 2 * last.toNat ≤ maximum.toNat) : last ≤ sequence := by
  rcases ahead with rfl | closer
  · exact UInt64.le_refl _
  rw [← UInt64.not_lt]
  intro behind
  have bound := maximum.toNat_lt
  have inside : last ≤ maximum := UInt64.le_iff_toNat_le.mpr (by omega)
  unfold forwardSequenceDistance at closer
  rw [if_neg (UInt64.not_le.mpr behind), if_pos (UInt64.le_of_lt behind),
    UInt64.lt_iff_toNat_lt, UInt64.toNat_add, UInt64.toNat_sub_of_le _ _ inside,
    UInt64.toNat_sub_of_le _ _ (UInt64.le_of_lt behind), Nat.mod_eq_of_lt (by omega)] at closer
  omega

theorem lt_nextSequence {maximum sequence : UInt64} (half : 2 * sequence.toNat ≤ maximum.toNat) :
    sequence < nextSequence sequence maximum := by
  have bound := maximum.toNat_lt
  unfold nextSequence
  rw [UInt64.lt_iff_toNat_lt]
  split
  · next same =>
    subst same
    simp only [UInt64.toNat_one]
    omega
  · next other =>
    rw [UInt64.toNat_add, UInt64.toNat_one, Nat.mod_eq_of_lt (by omega)]
    omega

theorem le_getLast_of_sorted {numbers : List UInt64} (sorted : numbers.Pairwise (· < ·))
    {number last : UInt64} (mem : number ∈ numbers) (latest : last ∈ numbers.getLast?) :
    number ≤ last := by
  obtain ⟨before, rfl⟩ := getLast?_eq_some_iff.mp latest
  rcases mem_append.mp mem with old | new
  · exact UInt64.le_of_lt ((pairwise_append.mp sorted).2.2 number old last (by simp))
  · rw [mem_singleton.mp new]
    exact UInt64.le_refl _

theorem lt_upcoming (forward : MovesForward config accepted) (half : InFirstHalf config accepted)
    (sorted : (published accepted).Pairwise (· < ·)) :
    ∀ number ∈ published accepted, number < upcoming config accepted := by
  intro number mem
  rcases eq_nil_or_concat accepted with rfl | ⟨before, entry, rfl⟩
  · exact absurd mem not_mem_nil
  rw [concat_eq_append] at *
  rw [upcoming_concat]
  have least : number ≤ entry.sequence := by
    cases entry with
    | event normalized =>
      refine le_getLast_of_sorted sorted mem ?_
      simp [published, Accepted.sequence]
    | snapshot taken =>
      have same : published (before ++ [.snapshot taken]) = published before := by
        simp [published]
      rw [same] at mem sorted
      cases latest : (published before).getLast? with
      | none =>
        rw [getLast?_eq_none_iff.mp latest] at mem
        exact absurd mem not_mem_nil
      | some last =>
        obtain ⟨earlier, events⟩ := getLast?_eq_some_iff.mp latest
        have accepted : ∃ event ∈ before, Accepted.sequence event = last := by
          have listed : last ∈ published before := by simp [events]
          obtain ⟨event, present, number⟩ := mem_filterMap.mp listed
          refine ⟨event, present, ?_⟩
          cases event with
          | event normalized => exact Option.some.inj number
          | snapshot _ => cases number
        obtain ⟨event, present, number⟩ := accepted
        have ahead := forward before taken [] rfl last (lastEvent_eq_getLast?.trans latest)
        exact UInt64.le_trans (le_getLast_of_sorted sorted mem latest)
          (ahead.le (number ▸ half event (mem_append_left _ present)))
  exact UInt64.lt_of_le_of_lt least (lt_nextSequence (half entry (by simp)))

theorem published_sorted (contiguous : Contiguous config accepted)
    (forward : MovesForward config accepted) (half : InFirstHalf config accepted) :
    (published accepted).Pairwise (· < ·) := by
  induction accepted using reverseRecOn with
  | nil => exact List.Pairwise.nil
  | append_singleton accepted entry ih =>
    have half' : InFirstHalf config accepted := fun other mem =>
      half other (mem_append_left _ mem)
    have sorted := ih contiguous.of_concat forward.of_concat half'
    cases entry with
    | snapshot taken => simpa [published] using sorted
    | event normalized =>
      have number := contiguous accepted normalized [] rfl
      have below := lt_upcoming forward.of_concat half' sorted
      have grown : published (accepted ++ [.event normalized]) =
          published accepted ++ [normalized.event.channelSequence] := by
        simp [published]
      rw [grown, pairwise_append]
      refine ⟨sorted, pairwise_singleton _ _, fun old mem new last => ?_⟩
      rw [mem_singleton.mp last, number]
      exact below old mem

end Lists

/-- The packets and snapshots to come. -/
structure Script where
  packets : List UInt64 := []
  snapshots : List UInt64 := []
  retransmits : Bool := false

namespace Script

def identity : FeedIdentity where
  sessionId := ⟨0, 1⟩
  venueId := ⟨0, 1⟩
  channelId := ⟨0, 1⟩
  venueNumber := 1
  channelNumber := 1

def config : FeedHandlerConfig := { identity, arbitrationWindow := 8 }

def decoded (sequence : UInt64) : DecodedPacket :=
  { event := { channelSequence := sequence, eventHash := sequence } }

def snapshot (lastSequence : UInt64) : RecoverySnapshot :=
  { identity, lastSequence, books := { size := 1, stableHash := 1 }, bookHash := 1 }

def ports : Ports Script where
  receive script := (script, if script.packets.isEmpty then .empty else .packet, {})
  stop script := script
  enqueue script _ := (script, .accepted)
  decode script _ :=
    ({ script with packets := script.packets.tail }, .decoded, decoded (script.packets.headD 0))
  requestRetransmission script _ _ :=
    (script, if script.retransmits then .accepted else .unavailable)
  requestSnapshot script _ := (script, .accepted)
  pollSnapshot script :=
    match script.snapshots with
    | [] => (script, .empty, {})
    | taken :: rest => ({ script with snapshots := rest }, .packet, snapshot taken)
  publishHealth script _ := (script, .accepted)
  publish script _ := (script, .accepted)
  publishSnapshot script _ := (script, .accepted)

def handler (script : Script) : FeedHandler Script :=
  .construct config script

def polls (count : Nat) : List FeedHandler.Call :=
  .start 1 :: List.replicate count (.pollOnce 1)

def polled (script : Script) (count : Nat) : FeedHandler Script :=
  run (FeedHandler.next ports) script.handler (polls count)

end Script

namespace FeedHandler

variable {World : Type} {ports : Ports World} {s : FeedHandler World}

/-- The stream is contiguous and, with current snapshots, moves forward. -/
theorem accepted_contiguous (ports : Ports World) (config : FeedHandlerConfig) (world : World)
    (calls : List Call) :
    Always (next ports) (fun s => Contiguous s.config s.accepted) (construct config world) calls ∧
      (Throughout (next ports) (Current ports) (construct config world) calls → Always (next ports)
          (fun s => MovesForward s.config s.accepted ∧
            (InFirstHalf s.config s.accepted → (published s.accepted).Pairwise (· < ·)))
          (construct config world) calls) := by
  constructor
  · rintro before -
    have kept : Kept False False Empty (run (next ports) (construct config world) before) :=
      run_preserves (fun s call kept => Kept.next kept nofun nofun) (Kept.construct config world)
        before
    exact kept.contiguous
  · rintro conditions before ⟨rest, rfl⟩
    have kept : Kept True False Empty (run (next ports) (construct config world) before) :=
      run_invariant (fun s call kept current => Kept.next kept nofun fun _ => current)
        (Kept.construct config world) (throughout_append.mp conditions).1
    exact ⟨kept.forward trivial, published_sorted kept.contiguous (kept.forward trivial)⟩

theorem accepted_contiguous_caughtUp :
    let script : Script := { packets := [1, 2, 4, 5, 6], snapshots := [4] }
    Throughout (next Script.ports) (Current Script.ports) script.handler (Script.polls 6) ∧
      published (script.polled 6).accepted = [1, 2, 5, 6] ∧
      Always (next Script.ports) (fun s => MovesForward s.config s.accepted ∧
          (InFirstHalf s.config s.accepted → (published s.accepted).Pairwise (· < ·)))
        script.handler (Script.polls 6) := by
  intro script
  have current : Throughout (next Script.ports) (Current Script.ports) script.handler
      (Script.polls 6) := by
    decide
  exact ⟨current, by decide, (accepted_contiguous Script.ports Script.config script _).2 current⟩

/-- An outdated snapshot is accepted, and later events come again. -/
theorem accepted_outdated_snapshot :
    published (Script.polled { packets := [1, 2, 3, 5, 2], snapshots := [1] } 6).accepted =
      [1, 2, 3, 2] := by
  decide

theorem Kept.occupancy_eq_zero {current : Prop} (kept : Kept current True Empty s)
    (healthy : s.state = .healthy) : s.arbitrator.occupancy = 0 := by
  have live : s.Live := by
    unfold Live
    simp [healthy]
  have empty : s.arbitrator.slots = [] := by
    cases started : s.started with
    | false =>
      rw [(kept.untouched started).2.2]
      rfl
    | true =>
      have settled := kept.settled trivial live started
      cases active : s.gapDetector.active with
      | false => exact map_eq_nil_iff.mp (settled.closed active)
      | true => exact absurd healthy (settled.opened active).1
  unfold FeedAFeedBArbitrator.occupancy
  rw [empty]
  rfl

/-- A healthy handler holds nothing back. -/
theorem healthy_occupancy_eq_zero (ports : Ports World) (config : FeedHandlerConfig)
    (world : World) (calls : List Call)
    (conditions : Throughout (next ports) (Orderly ports) (construct config world) calls) :
    Always (next ports) (fun s => s.state = .healthy → s.arbitrator.occupancy = 0)
      (construct config world) calls := by
  rintro before ⟨rest, rfl⟩
  have kept : Kept False True Empty (run (next ports) (construct config world) before) :=
    run_invariant (fun s call kept ordered => Kept.next kept (fun _ => ordered) nofun)
      (Kept.construct config world) (throughout_append.mp conditions).1
  exact kept.occupancy_eq_zero

theorem healthy_occupancy_eq_zero_filled :
    let script : Script := { packets := [1, 3, 4, 2], retransmits := true }
    Throughout (next Script.ports) (Orderly Script.ports) script.handler (Script.polls 4) ∧
      Always (next Script.ports) (fun s => s.state = .healthy → s.arbitrator.occupancy = 0)
        script.handler (Script.polls 4) := by
  intro script
  have ordered : Throughout (next Script.ports) (Orderly Script.ports) script.handler
      (Script.polls 4) := by
    decide
  exact ⟨ordered, healthy_occupancy_eq_zero Script.ports Script.config script _ ordered⟩

/-- The gap at two closes while five waits for four. -/
theorem healthy_second_hole :
    let handler := Script.polled { packets := [1, 3, 5, 2], retransmits := true } 4
    handler.state = .healthy ∧ handler.arbitrator.occupancy = 1 := by
  decide

end FeedHandler

end Aegis.MarketData
