import Aegis.Oms.FillDelivery

/-!
A receipt is remembered for good, so an input that reached its handler is a duplicate from then
on.
-/

namespace Aegis.Oms

open Aegis.Foundation DeterministicOms Function

namespace DeterministicOms

def Remembers (s : DeterministicOms) (input : OmsInput) : Prop :=
  ∃ receipt, receiptLayout.find s.receipts input.receiptId = some receipt ∧
    (s.receipts receipt).inputHash = input.stableHash

variable {s : DeterministicOms} {input : OmsInput}

theorem Remembers.apply (remembers : s.Remembers input) (other : OmsInput) (published : Bool) :
    (s.apply other published).1.Remembers input := by
  obtain ⟨known, found, hash⟩ := remembers
  unfold Remembers
  rcases s.apply_ledger other published with same | ⟨h, _, receipt, -, -, free, -, ledger⟩
  · rw [show (s.apply other published).1.receipts = _ from congrArg Ledger.receipts same]
    exact ⟨known, found, hash⟩
  have apart : known ≠ receipt := by
    rintro rfl
    have taken := (Layout.occupied_of_find found).1
    rw [Layout.free_of_findFree free] at taken
    cases taken
  rw [show (s.apply other published).1.receipts = update s.receipts receipt _ from
    congrArg Ledger.receipts ledger]
  exact ⟨known, Layout.find_insert_of_found free found, by rwa [update_of_ne apart]⟩

theorem Reaches.remembers (reaches : s.Reaches input) (inv : Invariant s) (published : Bool) :
    (s.apply input published).1.Remembers input := by
  obtain ⟨receipt, free⟩ := inv.receiptRoom reaches.room input.receiptId
  have found := reaches.remembered free published
  rw [findReceipt_of_valid (InputFacts.of_valid reaches.valid).receiptId] at found
  refine ⟨receipt, found, ?_⟩
  rw [show (s.apply input published).1.receipts = _ from
    congrArg Ledger.receipts (reaches.ledger free published)]
  simp [receiptFor]

theorem Remembers.duplicate (remembers : s.Remembers input) (running : s.Running)
    (room : s.JournalRoom) (valid : validInput input) (published : Bool) :
    (s.apply input published).2.status = .duplicate ∧
      (s.apply input published).2.gatewayCommand.kind = .none ∧
      (s.apply input published).1.ledger = s.ledger ∧
      (s.apply input published).1.snapshot = s.snapshot := by
  obtain ⟨receipt, found, hash⟩ := remembers
  rw [← findReceipt_of_valid (InputFacts.of_valid valid).receiptId] at found
  cases apply_applied s input published with
  | idle off => exact absurd running off
  | exhausted _ full => exact absurd room full
  | committed m internal _ _ _ concluded closing receiving =>
    simp only [receive, valid, found, hash, Bool.not_true, Bool.false_eq_true, if_false, if_true,
      Prod.mk.injEq] at receiving
    obtain ⟨rfl, rfl⟩ := receiving
    cases concluded with
    | quiet _ snapshot _ _ status =>
      exact ⟨status, congrArg (·.kind) closing.command, closing.ledger, snapshot⟩
    | refreshed changed | failed changed => cases changed

theorem status_of_full (running : s.Running) (full : ¬ s.JournalRoom) (published : Bool) :
    (s.apply input published).2.status = .journalUnavailable ∧
      (s.apply input published).1.journal = s.journal := by
  obtain ⟨live, initialized⟩ := running
  simp [apply, OmsJournal.tryReserve, live, initialized, Nat.not_lt.mp full, earlyResult, setUnsafe]

theorem not_journalRoom_run (calls : List Call) (running : s.Running)
    (many : kOmsJournalCapacity ≤ s.journal.reservedSequence + calls.length) :
    (run call s calls).Running ∧ ¬ (run call s calls).JournalRoom := by
  induction calls generalizing s with
  | nil => exact ⟨running, Nat.not_lt.mpr many⟩
  | cons c rest ih =>
    refine ih (running.apply _ _) ?_
    rw [List.length_cons] at many
    cases apply_applied s c.input c.published with
    | idle off => exact absurd running off
    | exhausted _ full =>
      rw [call, (status_of_full running full c.published).2]
      exact (Nat.not_lt.mp full).trans (Nat.le_add_right _ _)
    | committed m internal _ _ _ _ closing =>
      rw [call, closing.journal, OmsJournal.commit_reservedSequence]
      exact many.trans (Nat.add_right_comm _ _ 1).le

end DeterministicOms

/-- An input that reached its handler is a duplicate ever after, as long as the journal has
space. -/
theorem redelivered_input_is_duplicate {configuration : OmsConfiguration} {s : DeterministicOms}
    {input : OmsInput} {published again : Bool} {calls : List Call}
    (reachable : Reachable configuration s) (reaches : s.Reaches input)
    (room : (run call (s.apply input published).1 calls).JournalRoom) :
    let before := run call (s.apply input published).1 calls
    let after := before.apply input again
    after.2.status = .duplicate ∧ after.2.gatewayCommand.kind = .none ∧
      after.1.orders = before.orders ∧ after.1.executions = before.executions ∧
      after.1.receipts = before.receipts ∧
      after.1.activeFencingToken = before.activeFencingToken ∧
      after.1.snapshot = before.snapshot := by
  intro before after
  have held : before.Running ∧ before.Remembers input :=
    run_preserves (P := fun s : DeterministicOms => s.Running ∧ s.Remembers input)
      (fun _ c held => ⟨held.1.apply c.input c.published, held.2.apply c.input c.published⟩)
      ⟨reaches.running.apply _ _, reaches.remembers reachable.invariant published⟩ calls
  obtain ⟨status, quiet, ledger, snapshot⟩ := held.2.duplicate held.1 room reaches.valid again
  exact ⟨status, quiet, congrArg Ledger.orders ledger, congrArg Ledger.executions ledger,
    congrArg Ledger.receipts ledger, congrArg Ledger.activeFencingToken ledger, snapshot⟩

open TestSupport

theorem redelivered_accept_is_duplicate :
    ((run call ((construct configuration).apply (accept 1 1) true).1
      [⟨internal .markReady (orderId 1) 2, true⟩]).apply (accept 1 1) true).2.status =
        .duplicate := by
  have reaches : (construct configuration).Reaches (accept 1 1) := by decide +kernel
  exact (redelivered_input_is_duplicate .construct reaches (by decide +kernel)).1

/-- Once the journal is full, the same delivery is refused. -/
theorem redelivered_input_refused : ∃ calls, (construct configuration).Reaches (accept 1 1) ∧
    ((run call ((construct configuration).apply (accept 1 1) true).1 calls).apply
      (accept 1 1) true).2.status = .journalUnavailable := by
  have reaches : (construct configuration).Reaches (accept 1 1) := by decide +kernel
  obtain ⟨running, full⟩ := not_journalRoom_run
    (List.replicate kOmsJournalCapacity ⟨accept 1 1, true⟩)
    (reaches.running.apply (accept 1 1) true) (by simp)
  exact ⟨_, reaches, (status_of_full running full true).1⟩

end Aegis.Oms
