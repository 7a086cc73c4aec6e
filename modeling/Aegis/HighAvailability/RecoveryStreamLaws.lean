import Aegis.HighAvailability.RecoveryStream

/-!
Laws of the recovery stream: an emission is accepted once, and the fencing token never falls.
-/

namespace Aegis.HighAvailability

open Aegis.Common Aegis.Foundation

variable {ledger ledger' : Ledger} {payload : RecoveryPayload} {commandId : GlobalEventId}

def Known (ledger : Ledger) (commandId : GlobalEventId) : Prop :=
  findCommand ledger commandId ≠ none

/-- Nothing, an acknowledgement or a new entry. -/
inductive LedgerStep (ledger : Ledger) (payload : RecoveryPayload) : Ledger → Prop
  | unchanged (known : payload.kind = .orderEmission → Known ledger payload.commandId) :
      LedgerStep ledger payload ledger
  | acknowledged {index : Fin kRecoveryCommandCapacity} (kind : payload.kind ≠ .orderEmission)
      (found : findCommand ledger payload.commandId = some index) :
      LedgerStep ledger payload
        (Function.update ledger index { ledger index with acknowledged := true })
  | inserted {index : Fin kRecoveryCommandCapacity}
      (absent : findCommand ledger payload.commandId = none)
      (free : commandLayout.findFree ledger payload.commandId = some index) :
      LedgerStep ledger payload (Function.update ledger index
          { commandId := payload.commandId, commandHash := payload.commandHash, occupied := true })

theorem applyToLedger_step (applied : applyToLedger ledger payload = some ledger') :
    LedgerStep ledger payload ledger' := by
  unfold applyToLedger at applied
  split at applied
  · next other =>
    cases applied
    refine .unchanged fun kind => ?_
    rw [kind] at other
    cases other
  split at applied
  · next index found =>
    split at applied
    · cases applied
    split at applied
    · cases applied
      exact .unchanged fun _ => by simp [Known, found]
    · next kind =>
      cases applied
      exact .acknowledged kind found
  · next absent =>
    split at applied
    · obtain ⟨index, free, rfl⟩ := Option.map_eq_some_iff.mp applied
      rw [findFreeCommand, Layout.findFree_reusing absent] at free
      exact .inserted absent free
    · cases applied

theorem LedgerStep.known (step : LedgerStep ledger payload ledger')
    (known : Known ledger commandId) : Known ledger' commandId := by
  cases step with
  | unchanged => exact known
  | @acknowledged index _ _ =>
    have same : commandLayout.SameKeys ledger
        (Function.update ledger index { ledger index with acknowledged := true }) :=
      Layout.SameKeys.update rfl rfl
    rwa [Known, findCommand, same.find]
  | inserted absent free =>
    obtain ⟨index, found⟩ := Option.ne_none_iff_exists'.mp known
    simp [Known, findCommand, Layout.find_insert_of_found free found]

theorem LedgerStep.known_self (step : LedgerStep ledger payload ledger')
    (kind : payload.kind = .orderEmission) : Known ledger' payload.commandId := by
  cases step with
  | unchanged known => exact known kind
  | acknowledged other _ => exact absurd kind other
  | inserted absent free =>
    intro gone
    rw [findCommand, Layout.find_insert_self free (by rfl) (by rfl) absent] at gone
    cases gone

namespace BoundedRecoveryStream

variable {s s' : BoundedRecoveryStream}

/-- The record is published, or refused and the ledger stays. -/
structure Appended (s : BoundedRecoveryStream) (payload : RecoveryPayload)
    (s' : BoundedRecoveryStream) (status : RecoveryAppendStatus) : Prop where
  authority : s'.authority = s.authority
  outcome : (status = .accepted ∧ s.wellFormed payload = true ∧
      s.validateCommandForAppend payload = .accepted ∧
      LedgerStep s.publishedCommands payload s'.publishedCommands) ∨
    (status ≠ .accepted ∧ s'.publishedCommands = s.publishedCommands)

theorem publish_appended (wellFormed : s.wellFormed payload)
    (valid : s.validateCommandForAppend payload = .accepted) :
    Appended s payload (s.publish payload).1 (s.publish payload).2.status := by
  unfold publish
  split
  · exact ⟨rfl, .inr ⟨nofun, rfl⟩⟩
  split
  · exact ⟨rfl, .inr ⟨nofun, rfl⟩⟩
  · next ledger applied =>
    exact ⟨rfl, .inl ⟨rfl, wellFormed, valid, applyToLedger_step applied⟩⟩

theorem append_appended (s : BoundedRecoveryStream) (payload : RecoveryPayload) :
    Appended s payload (s.append payload).1 (s.append payload).2.status := by
  unfold append
  split
  · exact ⟨rfl, .inr ⟨nofun, rfl⟩⟩
  split
  · refine ⟨rfl, .inr ⟨?_, rfl⟩⟩
    split <;> nofun
  next wellFormed =>
  split
  · exact ⟨rfl, .inr ⟨nofun, rfl⟩⟩
  · exact ⟨rfl, .inr ⟨nofun, rfl⟩⟩
  · next valid => exact publish_appended (by simpa using wellFormed) valid
  · next other => exact ⟨rfl, .inr ⟨other, rfl⟩⟩

theorem not_known_of_accepted (kind : payload.kind = .orderEmission)
    (valid : s.validateCommandForAppend payload = .accepted) :
    ¬ Known s.publishedCommands payload.commandId := by
  intro known
  obtain ⟨index, found⟩ := Option.ne_none_iff_exists'.mp known
  unfold validateCommandForAppend at valid
  simp only [kind, commandRecord, found] at valid
  split at valid
  · contradiction
  split at valid
  · cases valid
  split at valid
  · cases valid
  · cases valid

theorem rotateAuthority_cases (s : BoundedRecoveryStream) (authority : RecoveryAuthority) :
    (s.authority.fencingToken < authority.fencingToken ∧
        s.rotateAuthority authority = ({ s with authority }, .rotated)) ∨
      (authority.fencingToken = s.authority.fencingToken ∧
        s.rotateAuthority authority = (s, .unchanged)) ∨
      ∃ status, status ≠ .rotated ∧ status ≠ .unchanged ∧
        s.rotateAuthority authority = (s, status) := by
  unfold rotateAuthority
  split
  · exact .inr (.inr ⟨.unavailable, nofun, nofun, rfl⟩)
  split
  · exact .inr (.inr ⟨.invalid, nofun, nofun, rfl⟩)
  split
  · exact .inr (.inr ⟨.stale, nofun, nofun, rfl⟩)
  next atLeast =>
  split
  · next same => exact .inr (.inl ⟨same, rfl⟩)
  next other =>
  split
  · exact .inr (.inr ⟨.notCaughtUp, nofun, nofun, rfl⟩)
  · refine .inl ⟨?_, rfl⟩
    exact UInt64.lt_of_le_of_ne (UInt64.not_lt.mp atLeast) (Ne.symm other)

theorem token_rotateAuthority (s : BoundedRecoveryStream) (authority : RecoveryAuthority) :
    s.authority.fencingToken ≤ (s.rotateAuthority authority).1.authority.fencingToken := by
  rcases s.rotateAuthority_cases authority with ⟨greater, eq⟩ | ⟨-, eq⟩ | ⟨_, -, -, eq⟩ <;> rw [eq]
  · exact UInt64.le_of_lt greater
  · exact UInt64.le_refl _
  · exact UInt64.le_refl _

end BoundedRecoveryStream

end Aegis.HighAvailability
