import Aegis.Execution.Types
import Mathlib.Logic.Function.Basic

/-!
The audit journal of a gateway (`execution/src/journal.cpp`). A reservation is the sequence number
it hands out; the gateway is the only writer.
-/

namespace Aegis.Execution

open Aegis.Common

/-- `GatewayAuditJournal::Slot`. -/
structure AuditSlot where
  publishedSequence : Nat := 0
  record : GatewayAuditRecord := {}

structure GatewayAuditJournal where
  slots : Fin kMaximumGatewayJournalRecords → AuditSlot := fun _ => {}
  reservedSequence : Nat := 0
  publishedSequence : Nat := 0
  lastRecordHash : UInt64 := 0

namespace GatewayAuditJournal

variable (journal : GatewayAuditJournal)

def tryReserve : Option (Nat × GatewayAuditJournal) :=
  if journal.reservedSequence ≥ kMaximumGatewayJournalRecords then none
  else
    some (journal.reservedSequence + 1,
      { journal with reservedSequence := journal.reservedSequence + 1 })

/-- The record that `commit` stores for a reservation. -/
def sealRecord (reservation : Nat) (record : GatewayAuditRecord) : GatewayAuditRecord :=
  let numbered :=
    { record with sequence := reservation, previousRecordHash := journal.lastRecordHash }
  { numbered with stableHash := stableGatewayAuditRecordHash numbered }

def commit (reservation : Nat) (record : GatewayAuditRecord) : Option GatewayAuditJournal :=
  if inside : 0 < reservation ∧ reservation ≤ kMaximumGatewayJournalRecords ∧
      record.sequence = 0 ∧ reservation = journal.publishedSequence + 1 then
    some { journal with
      slots := Function.update journal.slots ⟨reservation - 1, by omega⟩
        { publishedSequence := reservation, record := journal.sealRecord reservation record }
      lastRecordHash := (journal.sealRecord reservation record).stableHash
      publishedSequence := reservation }
  else none

def read (sequence : Nat) : Option GatewayAuditRecord :=
  if inside : 0 < sequence ∧ sequence ≤ kMaximumGatewayJournalRecords ∧
      sequence ≤ journal.publishedSequence then
    let slot := journal.slots ⟨sequence - 1, by omega⟩
    if slot.publishedSequence = sequence && slot.record.sequence = sequence &&
        slot.record.stableHash != 0 &&
        slot.record.stableHash == stableGatewayAuditRecordHash slot.record then some slot.record
    else none
  else none

end GatewayAuditJournal

end Aegis.Execution
