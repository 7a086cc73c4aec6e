import Aegis.Execution.OrderTable
import Aegis.Foundation.Runs

/-!
Histories of a gateway: the time of the last call and the events `poll_event` has returned.
-/

namespace Aegis.Execution

open Aegis.Common Aegis.Foundation Aegis.MarketData SimulatedGateway List

/-- A gateway, the last time and what `poll_event` has returned. -/
structure History where
  gateway : SimulatedGateway
  lastTime : UInt64
  returned : List GatewayEvent

namespace History

def construct (configuration : GatewayConfiguration) (mode : GatewayMode) : History :=
  ⟨.construct configuration mode, 0, []⟩

def next (h : History) (call : Call) : History :=
  { gateway := h.gateway.next call
    lastTime := call.time.getD h.lastTime
    returned := h.returned ++ (h.gateway.delivered call).toList }

def InOrder (h : History) (call : Call) : Prop :=
  ∀ now ∈ call.time, h.lastTime ≤ now

instance (h : History) (call : Call) : Decidable (h.InOrder call) :=
  @Option.decidableForallMem _ _ h.lastTime.decLe call.time

end History

theorem earliestDue_concat (now : UInt64) (events : List ScheduledEvent) (event : ScheduledEvent) :
    earliestDue now (events ++ [event]) =
      if event.dueNs > now then earliestDue now events
      else
        match earliestDue now events with
        | none => some event
        | some earliest => if dueBefore event earliest then some event else some earliest := by
  unfold earliestDue
  rw [foldl_append, foldl_cons, foldl_nil]
  split
  · rfl
  · cases foldl _ _ events <;> rfl

theorem dueNs_le_of_dueBefore {event other : ScheduledEvent} (before : dueBefore event other) :
    event.dueNs ≤ other.dueNs := by
  unfold dueBefore at before
  simp only [Bool.or_eq_true, Bool.and_eq_true, decide_eq_true_eq, beq_iff_eq] at before
  rcases before with less | same
  · exact UInt64.le_of_lt less
  · rw [same.1]
    exact UInt64.le_refl _

theorem le_dueNs_of_not_dueBefore {event other : ScheduledEvent}
    (before : ¬ dueBefore event other = true) : other.dueNs ≤ event.dueNs := by
  unfold dueBefore at before
  simp only [Bool.or_eq_true, decide_eq_true_eq, not_or] at before
  exact UInt64.not_lt.mp before.1

theorem earliestDue_invariant (now : UInt64) (events : List ScheduledEvent) :
    (∀ result, earliestDue now events = some result → result ∈ events ∧ result.dueNs ≤ now) ∧
      ∀ event ∈ events, event.dueNs ≤ now →
        ∃ result, earliestDue now events = some result ∧ result.dueNs ≤ event.dueNs := by
  induction events using reverseRecOn with
  | nil =>
    refine ⟨fun result found => ?_, fun event mem => absurd mem not_mem_nil⟩
    cases found
  | append_singleton events event ih =>
    obtain ⟨among, least⟩ := ih
    have last : event ∈ events ++ [event] := mem_append_right _ mem_cons_self
    rw [earliestDue_concat]
    by_cases late : event.dueNs > now
    · rw [if_pos late]
      refine ⟨fun result found => ?_, fun other mem early => ?_⟩
      · exact (among result found).imp_left (mem_append_left _)
      rcases mem_append.mp mem with mem | mem
      · exact least other mem early
      · rw [mem_singleton.mp mem] at early
        exact absurd early (UInt64.not_le.mpr late)
    rw [if_neg late]
    have early := UInt64.not_lt.mp late
    cases held : earliestDue now events with
    | none =>
      refine ⟨fun result found => ?_, fun other mem due => ⟨event, rfl, ?_⟩⟩
      · rw [← Option.some.inj found]
        exact ⟨last, early⟩
      rcases mem_append.mp mem with mem | mem
      · obtain ⟨result, found, -⟩ := least other mem due
        rw [held] at found
        cases found
      · rw [mem_singleton.mp mem]
        exact UInt64.le_refl _
    | some earliest =>
      obtain ⟨mem, due⟩ := among earliest held
      dsimp only
      by_cases before : dueBefore event earliest = true
      · rw [if_pos before]
        refine ⟨fun result found => ?_, fun other mem due => ⟨event, rfl, ?_⟩⟩
        · rw [← Option.some.inj found]
          exact ⟨last, early⟩
        rcases mem_append.mp mem with mem | mem
        · obtain ⟨result, found, sooner⟩ := least other mem due
          rw [Option.some.inj (held.symm.trans found)] at before
          exact UInt64.le_trans (dueNs_le_of_dueBefore before) sooner
        · rw [mem_singleton.mp mem]
          exact UInt64.le_refl _
      · rw [if_neg before]
        refine ⟨fun result found => ?_, fun other mem due => ⟨earliest, rfl, ?_⟩⟩
        · rw [← Option.some.inj found]
          exact ⟨mem_append_left _ mem, due⟩
        rcases mem_append.mp mem with mem | mem
        · obtain ⟨result, found, sooner⟩ := least other mem due
          rw [Option.some.inj (held.symm.trans found)]
          exact sooner
        · rw [mem_singleton.mp mem]
          exact le_dueNs_of_not_dueBefore before

theorem earliestDue_spec {now : UInt64} {events : List ScheduledEvent} {result : ScheduledEvent}
    (found : earliestDue now events = some result) :
    result ∈ events ∧ result.dueNs ≤ now ∧ ∀ event ∈ events, result.dueNs ≤ event.dueNs := by
  obtain ⟨among, least⟩ := earliestDue_invariant now events
  obtain ⟨mem, inTime⟩ := among result found
  refine ⟨mem, inTime, fun event mem => ?_⟩
  by_cases early : event.dueNs ≤ now
  · obtain ⟨first, eq, sooner⟩ := least event mem early
    rw [Option.some.inj (found.symm.trans eq)]
    exact sooner
  · exact UInt64.le_trans inTime (UInt64.le_of_lt (UInt64.not_le.mp early))

def unitsOf (orderId : OrderId) (event : GatewayEvent) : Nat :=
  if event.kind = .fill ∧ event.orderId = orderId then event.quantityUnits.toNat else 0

def filledUnits (orderId : OrderId) (returned : List GatewayEvent)
    (queued : List ScheduledEvent) : Nat :=
  (returned.map (unitsOf orderId)).sum +
    (queued.map fun scheduled => unitsOf orderId scheduled.event).sum

def History.filled (h : History) (orderId : OrderId) : Nat :=
  filledUnits orderId h.returned h.gateway.events

variable {orderId : OrderId} {returned : List GatewayEvent} {queued : List ScheduledEvent}

theorem unitsOf_of_kind {event : GatewayEvent} (kind : event.kind ≠ .fill) :
    unitsOf orderId event = 0 :=
  if_neg fun fill => kind fill.1

theorem filledUnits_queue (entry : ScheduledEvent) :
    filledUnits orderId returned (queued ++ [entry]) =
      filledUnits orderId returned queued + unitsOf orderId entry.event := by
  unfold filledUnits
  rw [map_append, sum_append, map_singleton, sum_singleton, Nat.add_assoc]

theorem filledUnits_return {scheduled : ScheduledEvent} (mem : scheduled ∈ queued)
    {event : GatewayEvent} (reports : Reports scheduled event) :
    filledUnits orderId (returned ++ [event]) (queued.erase scheduled) =
      filledUnits orderId returned queued := by
  have same : unitsOf orderId event = unitsOf orderId scheduled.event := by
    unfold unitsOf
    rw [reports.kind, reports.orderId]
    split
    · next fill => rw [reports.quantity (reports.kind.trans fill.1)]
    · rfl
  have erased := sum_map_erase (fun scheduled => unitsOf orderId scheduled.event) mem
  unfold filledUnits
  rw [map_append, sum_append, map_singleton, sum_singleton, same]
  omega

end Aegis.Execution
