import Aegis.Foundation.Runs
import Mathlib.Data.UInt

/-!
The lock-free ring of the event bus (`aegis/event_bus/spsc_ring.hpp`). The atomic accesses of its
producer and its consumer interleave, and its 64-bit sequences wrap around. Metrics are left out.
-/

namespace Aegis.EventBus

open Aegis.Foundation Function

inductive OverloadPolicy where
  | rejectNewest | failClosed

inductive EnqueueStatus where
  | accepted | full | invalidated

inductive DequeueStatus where
  | item | empty | invalidated

/-- The producer by the access of `enqueue` that it makes next. -/
inductive Producer (Value : Type) where
  | resting (answer : Option EnqueueStatus)
  | starting (value : Value) (policy : OverloadPolicy)
  | loadingTail (value : Value) (policy : OverloadPolicy)
  | loadingHead (value : Value) (policy : OverloadPolicy) (tail : UInt64)
  | writing (value : Value) (tail : UInt64)
  | publishing (value : Value) (tail : UInt64)
  | invalidating

/-- The consumer by the access of `dequeue` that it makes next. -/
inductive Consumer (Value : Type) where
  | resting (answer : Option DequeueStatus)
  | starting
  | loadingHead
  | loadingTail (head : UInt64)
  | copying (head : UInt64)
  | releasing (value : Value) (head : UInt64)

/-- The ring with its two threads. `Capacity` is a power of two. -/
structure SpscRing (bits : Fin 64) (Value : Type) where
  values : Fin (2 ^ bits.val) → Value
  producerSequence : UInt64 := 0
  consumerSequence : UInt64 := 0
  invalidated : Bool := false
  producer : Producer Value := .resting none
  consumer : Consumer Value := .resting none

inductive Access (Value : Type) where
  | enqueue (value : Value) (policy : OverloadPolicy)
  | producer
  | dequeue
  | consumer
  | invalidate

namespace SpscRing

variable {bits : Fin 64} {Value : Type} (s : SpscRing bits Value)

/-- `sequence & kIndexMask`. -/
def slot (bits : Fin 64) (sequence : UInt64) : Fin (2 ^ bits.val) :=
  ⟨sequence.toNat % 2 ^ bits.val, Nat.mod_lt _ (Nat.two_pow_pos _)⟩

/-- The next access of `enqueue`. -/
def produce : SpscRing bits Value :=
  match s.producer with
  | .resting _ => s
  | .starting value policy =>
      let refused := .resting (some .invalidated)
      { s with producer := if s.invalidated then refused else .loadingTail value policy }
  | .loadingTail value policy =>
      { s with producer := .loadingHead value policy s.producerSequence }
  | .loadingHead value policy tail =>
      if 2 ^ bits.val ≤ (tail - s.consumerSequence).toNat then
        match policy with
        | .failClosed => { s with producer := .invalidating }
        | .rejectNewest => { s with producer := .resting (some .full) }
      else { s with producer := .writing value tail }
  | .writing value tail =>
      { s with
        values := update s.values (slot bits tail) value
        producer := .publishing value tail }
  | .publishing _ tail =>
      { s with producerSequence := tail + 1, producer := .resting (some .accepted) }
  | .invalidating => { s with invalidated := true, producer := .resting (some .invalidated) }

/-- The next access of `dequeue`. -/
def consume : SpscRing bits Value :=
  match s.consumer with
  | .resting _ => s
  | .starting =>
      let refused := .resting (some .invalidated)
      { s with consumer := if s.invalidated then refused else .loadingHead }
  | .loadingHead => { s with consumer := .loadingTail s.consumerSequence }
  | .loadingTail head =>
      if head = s.producerSequence then { s with consumer := .resting (some .empty) }
      else { s with consumer := .copying head }
  | .copying head => { s with consumer := .releasing (s.values (slot bits head)) head }
  | .releasing _ head =>
      { s with consumerSequence := head + 1, consumer := .resting (some .item) }

def next : Access Value → SpscRing bits Value
  | .enqueue value policy =>
      match s.producer with
      | .resting _ => { s with producer := .starting value policy }
      | _ => s
  | .producer => s.produce
  | .dequeue =>
      match s.consumer with
      | .resting _ => { s with consumer := .starting }
      | _ => s
  | .consumer => s.consume
  | .invalidate => { s with invalidated := true }

/-- The value that the producer publishes. -/
def published : Access Value → List Value
  | .producer =>
      match s.producer with
      | .publishing value _ => [value]
      | _ => []
  | _ => []

/-- The value that the consumer takes. -/
def taken : Access Value → List Value
  | .consumer =>
      match s.consumer with
      | .releasing value _ => [value]
      | _ => []
  | _ => []

theorem toNat_ofNat_sub {a b : Nat} (low : b ≤ a) (high : a ≤ b + 2 ^ bits.val) :
    (UInt64.ofNat a - UInt64.ofNat b).toNat = a - b := by
  have : 2 ^ bits.val < UInt64.size := Nat.pow_lt_pow_right (by decide) bits.isLt
  rw [← UInt64.ofNat_sub low, UInt64.toNat_ofNat_of_lt' (by omega)]

theorem eq_of_slot_eq {head p r : Nat} (low : head ≤ p) (high : p < head + 2 ^ bits.val)
    (low' : head ≤ r) (high' : r < head + 2 ^ bits.val)
    (same : slot bits (.ofNat p) = slot bits (.ofNat r)) : p = r := by
  have wrapped : ∀ n, (slot bits (.ofNat n)).val = n % 2 ^ bits.val := fun n =>
    Nat.mod_mod_of_dvd n (Nat.pow_dvd_pow 2 (Nat.le_of_lt bits.isLt))
  have congr : p % 2 ^ bits.val = r % 2 ^ bits.val := by
    rw [← wrapped, ← wrapped, same]
  have left := Nat.sub_mod_eq_zero_of_mod_eq congr
  have right := Nat.sub_mod_eq_zero_of_mod_eq congr.symm
  rw [Nat.mod_eq_of_lt (by omega)] at left right
  omega

/-- What the producer has made sure of. -/
def Prepared (values : Fin (2 ^ bits.val) → Value) (sent head : Nat) : Producer Value → Prop
  | .loadingHead _ _ tail => tail = .ofNat sent
  | .writing _ tail => tail = .ofNat sent ∧ sent < head + 2 ^ bits.val
  | .publishing value tail => tail = .ofNat sent ∧ sent < head + 2 ^ bits.val ∧
      values (slot bits tail) = value
  | _ => True

/-- What the consumer has made sure of. -/
def Expects (sent : List Value) (received : Nat) : Consumer Value → Prop
  | .loadingTail head => head = .ofNat received
  | .copying head => head = .ofNat received ∧ received < sent.length
  | .releasing value head => head = .ofNat received ∧ sent[received]? = some value
  | _ => True

/-- The ring holds what is sent and not received, in order. -/
structure Consistent (s : SpscRing bits Value) (sent received : List Value) : Prop where
  order : received <+: sent
  bounded : sent.length ≤ received.length + 2 ^ bits.val
  tail : s.producerSequence = .ofNat sent.length
  head : s.consumerSequence = .ofNat received.length
  values : ∀ p, received.length ≤ p → p < sent.length →
    sent[p]? = some (s.values (slot bits (.ofNat p)))
  prepared : Prepared s.values sent.length received.length s.producer
  expects : Expects sent received.length s.consumer

variable {s} {sent received : List Value}

theorem Expects.append {head : Nat} {consumer : Consumer Value}
    (expects : Expects sent head consumer) (value : Value) :
    Expects (sent ++ [value]) head consumer := by
  cases consumer with
  | copying => exact ⟨expects.1, Nat.lt_of_lt_of_le expects.2 (by simp)⟩
  | releasing =>
    have before := (List.getElem?_eq_some_iff.mp expects.2).1
    exact ⟨expects.1, (List.getElem?_append_left before).trans expects.2⟩
  | _ => exact expects

theorem Prepared.succ {values : Fin (2 ^ bits.val) → Value} {tail head : Nat}
    {producer : Producer Value} (prepared : Prepared values tail head producer) :
    Prepared values tail (head + 1) producer := by
  have later : tail < head + 2 ^ bits.val → tail < head + 1 + 2 ^ bits.val := by omega
  cases producer with
  | writing => exact ⟨prepared.1, later prepared.2⟩
  | publishing => exact ⟨prepared.1, later prepared.2.1, prepared.2.2⟩
  | _ => exact prepared

theorem Consistent.lag (held : s.Consistent sent received) :
    (UInt64.ofNat sent.length - s.consumerSequence).toNat = sent.length - received.length := by
  rw [held.head]
  exact toNat_ofNat_sub held.order.length_le held.bounded

theorem Consistent.produced (held : s.Consistent sent received) :
    s.produce.Consistent (sent ++ s.published .producer) received := by
  have ⟨order, bounded, tail, head, values, prepared, expects⟩ := held
  have moved : ∀ {producer}, Prepared s.values sent.length received.length producer →
      Consistent { s with producer } sent received := fun prepared =>
    ⟨order, bounded, tail, head, values, prepared, expects⟩
  unfold produce published
  cases found : s.producer <;> rw [found] at prepared <;> simp only [List.append_nil]
  case resting => exact held
  case starting =>
    refine moved ?_
    split <;> trivial
  case loadingTail => exact moved tail
  case loadingHead value policy loaded =>
    split
    · cases policy <;> exact moved trivial
    · next room =>
      rw [prepared, held.lag] at room
      exact moved ⟨prepared, by have := order.length_le; omega⟩
  case writing value loaded =>
    obtain ⟨rfl, room⟩ := prepared
    refine ⟨order, bounded, tail, head, fun p low high => ?_, ⟨rfl, room, update_self ..⟩, expects⟩
    rw [values p low high]
    refine congrArg some (update_of_ne (fun same => ?_) ..).symm
    exact absurd (eq_of_slot_eq low (by omega) order.length_le room same) (Nat.ne_of_lt high)
  case publishing value loaded =>
    obtain ⟨rfl, room, written⟩ := prepared
    refine ⟨order.trans (List.prefix_append _ _), by simpa [Nat.succ_le_iff] using room, by simp,
      head, fun p low high => ?_, trivial, expects.append value⟩
    by_cases last : p = sent.length
    · subst last
      simpa using written.symm
    · have before : p < sent.length := by simp at high; omega
      rw [List.getElem?_append_left before]
      exact values p low before
  case invalidating => exact ⟨order, bounded, tail, head, values, trivial, expects⟩

theorem Consistent.consumed (held : s.Consistent sent received) :
    s.consume.Consistent sent (received ++ s.taken .consumer) := by
  have ⟨order, bounded, tail, head, values, prepared, expects⟩ := held
  have moved : ∀ {consumer}, Expects sent received.length consumer →
      Consistent { s with consumer } sent received := fun expects =>
    ⟨order, bounded, tail, head, values, prepared, expects⟩
  unfold consume taken
  cases found : s.consumer <;> rw [found] at expects <;> simp only [List.append_nil]
  case resting => exact held
  case starting =>
    refine moved ?_
    split <;> trivial
  case loadingHead => exact moved head
  case loadingTail loaded =>
    split
    · exact moved trivial
    · next pending =>
      refine moved ⟨expects, Nat.lt_of_le_of_ne order.length_le fun same => pending ?_⟩
      rw [expects, tail, same]
  case copying loaded =>
    obtain ⟨rfl, pending⟩ := expects
    exact moved ⟨rfl, values _ (Nat.le_refl _) pending⟩
  case releasing value loaded =>
    obtain ⟨rfl, taken⟩ := expects
    have order' : received ++ [value] <+: sent := by
      obtain ⟨rest, rfl⟩ := order
      cases rest <;> simp_all
    refine ⟨order', ?_, tail, ?_, fun p low high => ?_, ?_, trivial⟩
    all_goals rw [List.length_append, List.length_singleton] at *
    · omega
    · simp
    · exact values p (by omega) high
    · exact prepared.succ

/-- What the two threads can tell from the ring. -/
structure Transfers (s : SpscRing bits Value) (sent received : List Value) : Prop where
  order : received <+: sent
  bounded : sent.length ≤ received.length + 2 ^ bits.val
  full : ∀ value policy tail, s.producer = .loadingHead value policy tail →
    2 ^ bits.val ≤ (tail - s.consumerSequence).toNat → sent.length = received.length + 2 ^ bits.val
  empty : ∀ head, s.consumer = .loadingTail head → head = s.producerSequence → received = sent

theorem Consistent.transfers (held : s.Consistent sent received) : s.Transfers sent received := by
  refine ⟨held.order, held.bounded, fun value policy tail found full => ?_,
    fun head found empty => ?_⟩
  · have prepared := held.prepared
    rw [found] at prepared
    rw [prepared, held.lag] at full
    have := held.bounded
    have := held.order.length_le
    omega
  · have expects := held.expects
    rw [found] at expects
    have lag := held.lag
    rw [← held.tail, ← empty, expects, held.head, UInt64.sub_self] at lag
    exact held.order.eq_of_length_le (Nat.sub_eq_zero_iff_le.mp lag.symm)

theorem Consistent.step (held : s.Consistent sent received) (access : Access Value) :
    (s.next access).Consistent (sent ++ s.published access) (received ++ s.taken access) := by
  have ⟨order, bounded, tail, head, values, prepared, expects⟩ := held
  cases access with
  | producer => exact (List.append_nil received).symm ▸ held.produced
  | consumer => exact (List.append_nil sent).symm ▸ held.consumed
  | enqueue =>
    simp only [next, published, taken, List.append_nil]
    split
    · exact ⟨order, bounded, tail, head, values, trivial, expects⟩
    · exact held
  | dequeue =>
    simp only [next, published, taken, List.append_nil]
    split
    · exact ⟨order, bounded, tail, head, values, prepared, trivial⟩
    · exact held
  | invalidate =>
    simp only [next, published, taken, List.append_nil]
    exact ⟨order, bounded, tail, head, values, prepared, expects⟩

theorem Consistent.along (held : s.Consistent sent received) (accesses : List (Access Value)) :
    (run next s accesses).Consistent (sent ++ outputs next published s accesses)
      (received ++ outputs next taken s accesses) := by
  induction accesses generalizing s sent received with
  | nil => simpa [outputs] using held
  | cons access rest ih =>
    rw [run_cons, outputs, outputs, ← List.append_assoc, ← List.append_assoc]
    exact ih (held.step access)

/-- Over every interleaving of accesses, also beyond `2 ^ 64` values: what is received is what was
sent, in order, and at most a capacity behind. The producer finds the ring full only when it is, and
the consumer finds it empty only when everything was received. -/
theorem ring_transfers (values : Fin (2 ^ bits.val) → Value) (accesses : List (Access Value)) :
    (run next { values } accesses).Transfers (outputs next published { values } accesses)
      (outputs next taken { values } accesses) := by
  have start : Consistent { values } ([] : List Value) [] :=
    ⟨List.prefix_rfl, Nat.zero_le _, rfl, rfl, nofun, trivial, trivial⟩
  exact (start.along accesses).transfers

end SpscRing

end Aegis.EventBus
