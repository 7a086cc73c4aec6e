import Aegis.Oms.Types
import Mathlib.Logic.Function.Basic

/-!
The bounded hash-chained journal (`oms/src/journal.cpp`) without its binary persistence. A
reservation is the sequence number it hands out.
-/

namespace Aegis.Oms

open Aegis.Common

def kOmsJournalCapacity : Nat := 8192

structure OmsJournalRecord where
  sequence : Nat := 0
  input : OmsInput := {}
  result : ApplyResult := {}
  previousRecordHash : UInt64 := 0
  stableHash : UInt64 := 0

/-- `stable_journal_record_hash`, over the hashes of its parts. -/
def stableJournalRecordHash (value : OmsJournalRecord) : UInt64 := Id.run do
  let mut hash := kFnvOffset
  hash := mix hash (UInt64.ofNat value.sequence)
  hash := mix hash value.input.stableHash
  hash := mix hash value.result.stableHash
  hash := mix hash value.previousRecordHash
  return nonzeroHash hash

/-- `OmsJournal::Slot`. -/
structure JournalSlot where
  publishedSequence : Nat := 0
  record : OmsJournalRecord := {}

structure OmsJournal where
  slots : Fin kOmsJournalCapacity → JournalSlot := fun _ => {}
  reservedSequence : Nat := 0
  publishedSequence : Nat := 0
  lastRecordHash : UInt64 := 0

namespace OmsJournal

/-- `try_reserve`; nothing when the journal is full. -/
def tryReserve (journal : OmsJournal) : Option (Nat × OmsJournal) :=
  if journal.reservedSequence ≥ kOmsJournalCapacity then none
  else
    some (journal.reservedSequence + 1,
      { journal with reservedSequence := journal.reservedSequence + 1 })

def sealRecord (journal : OmsJournal) (sequence : Nat) (input : OmsInput) (result : ApplyResult) :
    OmsJournalRecord :=
  let record : OmsJournalRecord :=
    { sequence, input, result, previousRecordHash := journal.lastRecordHash }
  let hash := stableJournalRecordHash record
  { record with stableHash := hash, result := { result with journalRecordHash := hash } }

def commit (journal : OmsJournal) (sequence : Nat) (input : OmsInput) (result : ApplyResult) :
    OmsJournal :=
  if inside : 0 < sequence ∧ sequence ≤ kOmsJournalCapacity then
    let record := journal.sealRecord sequence input result
    { journal with
      slots := Function.update journal.slots ⟨sequence - 1, by omega⟩
        { publishedSequence := sequence, record }
      lastRecordHash := record.stableHash
      publishedSequence := sequence }
  else journal

/-- The three hashes `read` checks before it hands a record out. -/
def intact (record : OmsJournalRecord) : Bool :=
  stableInputHash record.input == record.input.stableHash &&
    stableApplyResultHash record.result == record.result.stableHash &&
    stableJournalRecordHash record == record.stableHash

def read (journal : OmsJournal) (sequence : Nat) : Option OmsJournalRecord :=
  if inside : 0 < sequence ∧ sequence ≤ kOmsJournalCapacity ∧
      sequence ≤ journal.publishedSequence then
    let slot := journal.slots ⟨sequence - 1, by omega⟩
    if slot.publishedSequence = sequence && intact slot.record then some slot.record else none
  else none

def size (journal : OmsJournal) : Nat :=
  journal.publishedSequence

/-- The loop of `verify_chain`. -/
def verifyFrom (journal : OmsJournal) : Nat → Nat → UInt64 → Bool
  | 0, _, previous => previous == journal.lastRecordHash
  | remaining + 1, sequence, previous =>
      match journal.read sequence with
      | none => false
      | some record =>
          if record.sequence ≠ sequence ∨ record.previousRecordHash ≠ previous then false
          else verifyFrom journal remaining (sequence + 1) record.stableHash

def verifyChain (journal : OmsJournal) : Bool :=
  journal.verifyFrom journal.size 1 0

end OmsJournal

end Aegis.Oms
