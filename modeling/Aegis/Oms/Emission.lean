import Aegis.Oms.OrderValidity

/-!
What the service sends to the gateway: commands of a healthy service, for accepted orders, under
the active authority.
-/

namespace Aegis.Oms

open Aegis.Common Aegis.Risk Aegis.Foundation DeterministicOms Function

variable {s s' : DeterministicOms} {input : OmsInput} {r : InternalResult}

theorem apply_authority (s : DeterministicOms) (input : OmsInput) (published : Bool) :
    (s.apply input published).1.configuration = s.configuration ∧
      s.activeFencingToken ≤ (s.apply input published).1.activeFencingToken := by
  rcases s.apply_ledger input published with same | ⟨h, _, _, -, -, -, handled, ledger⟩
  · exact ⟨congrArg Ledger.configuration same,
      UInt64.le_of_eq (congrArg Ledger.activeFencingToken same).symm⟩
  · exact ⟨(congrArg Ledger.configuration ledger).trans handled.frame.configuration,
      UInt64.le_trans handled.frame.token
        (UInt64.le_of_eq (congrArg Ledger.activeFencingToken ledger).symm)⟩

theorem apply_alarm (input : OmsInput) (published : Bool) (alarm : s.invariant ≠ .none) :
    (s.apply input published).1.invariant ≠ .none := by
  cases apply_applied s input published with
  | idle off same =>
    rw [same]
    exact alarm
  | exhausted running full same =>
    rw [same]
    simp [setUnsafe]
  | committed m internal running room received concluded closing =>
    intro clear
    exact alarm (received.frame.alarm (concluded.clear clear))

/-- The fields of a command that its order and its input decide. -/
structure CommandFields (command : GatewayCommand) : Prop where
  kind : command.kind ≠ .none
  commandId : command.commandId.valid = true
  orderId : command.orderId.valid = true
  sessionId : command.sessionId.valid = true
  accountId : command.accountId.valid = true
  strategyId : command.strategyId.valid = true
  venueId : command.venueId.valid = true
  instrumentId : command.instrumentId.valid = true
  configurationVersion : command.configurationVersion.valid = true
  authority : command.authority.valid = true
  priced : command.priceTicks > 0
  sized : command.quantityUnits ≠ 0
  time : command.generatedProcessMonotonicTimeNs ≠ 0
  clientOrderId : command.clientOrderId.back = '\x00'

theorem stableGatewayCommandHash_ne_zero (command : GatewayCommand) :
    stableGatewayCommandHash command ≠ 0 := by
  -- Unfolding the hash any further would start to compute it.
  delta stableGatewayCommandHash
  rw [Id.run_pure]
  exact nonzeroHash_ne_zero _

variable {command : GatewayCommand}

theorem validGatewayCommand_of_fields (fields : CommandFields command)
    (intentHash : command.intentHash ≠ 0) (decisionHash : command.riskDecisionHash ≠ 0)
    (hash : command.stableHash = stableGatewayCommandHash command) :
    validGatewayCommand command := by
  have codes : GatewayCommandKind.newOrder.code ≤ command.kind.code ∧
      command.kind.code ≤ GatewayCommandKind.replace.code := by
    have named := fields.kind
    revert named
    cases command.kind <;> decide
  have hashed : command.stableHash ≠ 0 := by
    rw [hash]
    exact stableGatewayCommandHash_ne_zero command
  unfold validGatewayCommand
  rw [← hash]
  simp [codes, fields.commandId, fields.orderId, fields.sessionId, fields.accountId,
    fields.strategyId, fields.venueId, fields.instrumentId, fields.configurationVersion,
    fields.authority, fields.priced, fields.sized, intentHash, decisionHash, fields.time,
    fields.clientOrderId, hashed]

theorem stableGatewayCommandHash_seal (command : GatewayCommand) (hash : UInt64) :
    stableGatewayCommandHash { command with stableHash := hash } =
      stableGatewayCommandHash command := rfl

theorem makeGatewayCommand_hash (input : OmsInput) (order : OmsOrderSnapshot)
    (kind : GatewayCommandKind) (priceTicks : Int64) (quantityUnits : UInt64) :
    (makeGatewayCommand input order kind priceTicks quantityUnits).stableHash =
      stableGatewayCommandHash (makeGatewayCommand input order kind priceTicks quantityUnits) :=
  (stableGatewayCommandHash_seal _ _).symm

theorem withIntentEvidence_hash (command : GatewayCommand) (input : OmsInput) :
    (withIntentEvidence command input).stableHash =
      stableGatewayCommandHash (withIntentEvidence command input) :=
  (stableGatewayCommandHash_seal _ _).symm

variable {order : OmsOrderSnapshot} {c : Call} {index : OrderIndex}

theorem makeGatewayCommand_fields {kind : GatewayCommandKind} {priceTicks : Int64}
    {quantityUnits : UInt64} (sound : OrderSound order) (accepted : AcceptedFacts order)
    (facts : InputFacts input) (authority : input.authority.valid) (named : kind ≠ .none)
    (priced : priceTicks > 0) (sized : quantityUnits ≠ 0) :
    CommandFields (makeGatewayCommand input order kind priceTicks quantityUnits) :=
  ⟨named, facts.receiptId, sound.orderId, sound.sessionId, accepted.accountId,
    accepted.strategyId, accepted.venueId, accepted.instrumentId, sound.configurationVersion,
    authority, priced, sized, facts.time, sound.clientOrderId⟩

theorem CommandFields.withIntentEvidence
    (fields : CommandFields command) : CommandFields (withIntentEvidence command input) :=
  ⟨fields.kind, fields.commandId, fields.orderId, fields.sessionId, fields.accountId,
    fields.strategyId, fields.venueId, fields.instrumentId, fields.configurationVersion,
    fields.authority, fields.priced, fields.sized, fields.time, fields.clientOrderId⟩

def DeterministicOms.emissions (s : DeterministicOms) (c : Call) : List GatewayCommand :=
  let command := (s.apply c.input c.published).2.gatewayCommand
  if command.kind = .none then [] else [command]

theorem mem_emissions : command ∈ s.emissions c ↔
      (s.apply c.input c.published).2.gatewayCommand = command ∧ command.kind ≠ .none := by
  unfold emissions
  by_cases silent : (s.apply c.input c.published).2.gatewayCommand.kind = .none
  · simp only [silent, if_true, List.not_mem_nil, false_iff, not_and, not_not]
    rintro rfl
    exact silent
  simp only [silent, if_false, List.mem_singleton]
  constructor
  · rintro rfl
    exact ⟨rfl, silent⟩
  · rintro ⟨rfl, -⟩
    rfl

variable {event : OrderEvent}

theorem Emits.kind (emits : Emits input order event command) (cause : Cause s input index event) :
    input.kind = .dispatch ∨ input.kind = .cancelIntent ∨ input.kind = .replaceIntent := by
  cases emits with
  | newOrder => exact .inl cause
  | cancel => exact .inr (.inl cause)
  | replace => exact .inr (.inr cause.1)

theorem Handled.emission (handled : Handled s input s' r) (loud : r.gatewayCommand.kind ≠ .none) :
    ∃ index slot event, Moves s input index slot event ∧
      Leaves s s' r.status { s.ledger with orders := update s.orders index slot } ∧
      Emission s input index slot.value event r := by
  cases handled with
  | directly effect =>
    cases effect with
    | moved index slot event moves leaves reported orderIndex command =>
      exact ⟨index, slot, event, moves, leaves, command.resolve_left loud⟩
    | accepted _ _ _ _ _ _ result =>
      rw [result] at loud
      exact absurd rfl loud
    | refused _ _ quiet | discovered _ _ _ _ quiet | executed _ _ _ _ _ _ _ _ _ _ _ _ quiet
    | confirmed _ _ _ _ _ _ _ _ _ _ quiet | rotated _ _ _ _ quiet => exact absurd quiet loud
  | afterDiscovery s₁ index kind discovery resolved effect =>
    -- A fill emits nothing.
    cases effect with
    | moved other slot event moves leaves reported orderIndex command =>
      rcases (command.resolve_left loud).command.kind moves.cause with h | h | h <;>
        rw [kind] at h <;> cases h
    | accepted _ accept =>
      rw [kind] at accept
      cases accept
    | refused _ _ quiet | discovered _ _ _ _ quiet | executed _ _ _ _ _ _ _ _ _ _ _ _ quiet
    | confirmed _ _ _ _ _ _ _ _ _ _ quiet | rotated _ _ _ _ quiet => exact absurd quiet loud

theorem evidence_of_valid (valid : validInput input)
    (kind : input.kind = .cancelIntent ∨ input.kind = .replaceIntent) :
    input.authority.valid ∧ IntentFacts input.intent ∧ input.riskDecision.stableHash ≠ 0 ∧
      (input.kind = .replaceIntent → input.intent.action ≠ .cancel) := by
  rcases kind with kind | kind
  · simp only [validInput, kind, validCancelInput, Bool.and_eq_true] at valid
    obtain ⟨intent, decision⟩ := approvalFacts valid.2.2
    exact ⟨valid.2.1.2, intent, decision, by simp [kind]⟩
  · simp only [validInput, kind, validReplaceInput, Bool.and_eq_true, bne_iff_ne, ne_eq] at valid
    obtain ⟨intent, decision⟩ := approvalFacts valid.2.2
    exact ⟨valid.2.1.2, intent, decision, fun _ => valid.2.1.1.2⟩

section

variable (emits : Emits input order event command)
include emits

/-- A command emitted for a sound and accepted order is valid. -/
theorem Emits.valid (cause : Cause s input index event) (valid : validInput input)
    (sound : OrderSound order) (accepted : AcceptedFacts order) : validGatewayCommand command := by
  have facts := InputFacts.of_valid valid
  cases emits with
  | newOrder =>
    have authority : input.authority.valid := by
      have kind : input.kind = .dispatch := cause
      simp only [validInput, kind, Bool.and_eq_true] at valid
      exact valid.2.2
    exact validGatewayCommand_of_fields
      (makeGatewayCommand_fields sound accepted facts authority (by simp) accepted.view.priced
        accepted.view.sized)
      accepted.intentHash accepted.riskDecisionHash (makeGatewayCommand_hash _ _ _ _ _)
  | cancel =>
    obtain ⟨authority, intent, decision, -⟩ := evidence_of_valid valid (.inl cause)
    have fields := makeGatewayCommand_fields sound accepted facts authority
      (show GatewayCommandKind.cancel ≠ .none by simp) accepted.view.priced accepted.view.sized
    exact validGatewayCommand_of_fields fields.withIntentEvidence intent.stableHash decision
      (withIntentEvidence_hash _ _)
  | replace =>
    obtain ⟨authority, intent, decision, action⟩ := evidence_of_valid valid (.inr cause.1)
    obtain ⟨sized, priced⟩ := intent.order (action cause.1)
    have fields := makeGatewayCommand_fields sound accepted facts authority
      (show GatewayCommandKind.replace ≠ .none by simp) priced sized
    exact validGatewayCommand_of_fields fields.withIntentEvidence intent.stableHash decision
      (withIntentEvidence_hash _ _)

theorem Emits.authority : command.authority = input.authority := by
  cases emits <;> rfl

theorem Emits.inService {v v' : OrderView} (step : Step v event v') :
    v'.state ≠ .unknownRecovery := by
  cases emits with
  | newOrder | cancel | replace => cases step; simp

end

structure Authorized (s : DeterministicOms) (c : Call) : Prop where
  valid : validGatewayCommand (s.apply c.input c.published).2.gatewayCommand = true
  status : (s.apply c.input c.published).2.status = .applied
  authority : (s.apply c.input c.published).2.gatewayCommand.authority =
    ⟨s.configuration.exchangeSessionEpoch, s.activeFencingToken⟩
  /-- The token did not change under the call. -/
  token : (s.call c).activeFencingToken = s.activeFencingToken
  clear : s.invariant = .none

theorem authorized_of_emission (inv : Invariant s)
    (loud : (s.apply c.input c.published).2.gatewayCommand.kind ≠ .none) : Authorized s c := by
  obtain ⟨input, published⟩ := c
  cases apply_applied s input published with
  | idle _ _ _ quiet | exhausted _ _ _ _ quiet => exact absurd quiet loud
  | committed m internal running room received concluded closing =>
    have command := closing.command
    rw [command] at loud
    cases received with
    | refused _ _ quiet => exact absurd quiet loud
    | handled h receipt valid fresh free handled recorded =>
      obtain ⟨index, slot, event, moves, leaves, emission⟩ := handled.emission loud
      have emits := emission.command
      have occ := occupied_of_resolveOrder moves.resolved
      have wf := moves.wellFormed inv.wellFormed valid
      have clear := inv.clear emission.healthy
      -- The order is sound, and in service, so it was accepted.
      have sound : OrderSound slot.value := by
        have stored := wf.ordersSound index
        simp only [update_self] at stored
        exact stored (moves.revised.occupied.trans occ)
      have accepted : slot.value.intentId.valid := by
        by_contra missing
        exact emits.inService moves.step (sound.unknown (Bool.eq_false_iff.mpr missing))
      have ledger : m.ledger =
          { s.ledger with
            orders := update s.orders index slot
            receipts := m.receipts } := by
        rw [recorded]
        exact congrArg (fun l : Ledger => ({ l with
          receipts := update s.receipts receipt (receiptFor input) } : Ledger))
          leaves.ledger
      have status : (s.apply input published).2.status = .applied := by
        cases concluded with
        | quiet unchanged =>
          rw [emission.flagged] at unchanged
          cases unchanged
        | refreshed _ _ _ _ _ same => exact same.trans emission.status
        | failed changed invalid =>
          -- Nothing is reopened, so the snapshot is valid.
          have calm : ¬ s.Reopens input := by
            rintro ⟨-, other, reopens⟩
            rcases emits.kind moves.cause with kind | kind | kind <;>
              simpa [kind] using reopens.contradiction
          rw [validSnapshot_of_calm inv clear
            (.handled h receipt valid fresh free handled recorded) running room
            (InputFacts.of_valid valid).time calm] at invalid
          cases invalid
      refine ⟨?_, status, ?_, ?_, clear⟩
      · exact command ▸ emits.valid moves.cause valid sound (sound.accepted accepted)
      · have matched := moves.authority
        simp only [authorityMatches, Bool.and_eq_true, beq_iff_eq] at matched
        rw [command, emits.authority, ← matched.1, ← matched.2]
      · exact (congrArg Ledger.activeFencingToken closing.ledger).trans
          (congrArg Ledger.activeFencingToken ledger)

theorem call_configuration (s : DeterministicOms) (calls : List Call) :
    (run call s calls).configuration = s.configuration := by
  induction calls generalizing s with
  | nil => rfl
  | cons c rest ih =>
    rw [run_cons, ih]
    exact (apply_authority s c.input c.published).1

theorem emissions_ordered (inv : Invariant s) (calls : List Call) :
    (outputs call emissions s calls).Pairwise fun first later =>
      first.authority.fencingToken ≤ later.authority.fencingToken := by
  refine outputs_pairwise (I := Invariant)
    (J := fun command s => command.authority.fencingToken ≤ s.activeFencingToken)
    (fun s c inv => inv.apply c.input c.published) ?_ ?_ ?_ ?_ inv
  · intro s c _
    dsimp only [emissions]
    split
    · exact List.Pairwise.nil
    · exact List.pairwise_singleton _ _
  · intro s c command inv mem
    obtain ⟨rfl, loud⟩ := mem_emissions.mp mem
    have authorized := authorized_of_emission inv loud
    rw [authorized.authority, authorized.token]
    exact UInt64.le_refl _
  · intro s c command _ before
    exact UInt64.le_trans before (apply_authority s c.input c.published).2
  · intro s c first later inv before mem
    obtain ⟨rfl, loud⟩ := mem_emissions.mp mem
    rw [(authorized_of_emission inv loud).authority]
    exact before

theorem emissions_of_alarm (inv : Invariant s) (alarm : s.invariant ≠ .none) (calls : List Call) :
    outputs call emissions s calls = [] := by
  rw [List.eq_nil_iff_forall_not_mem]
  refine forall_mem_outputs (I := fun s => Invariant s ∧ s.invariant ≠ .none)
    (Q := fun _ => False) ?_ ?_ ⟨inv, alarm⟩
  · rintro s c ⟨inv, alarm⟩
    exact ⟨inv.apply c.input c.published, apply_alarm c.input c.published alarm⟩
  · rintro s c ⟨inv, alarm⟩ command mem
    obtain ⟨rfl, loud⟩ := mem_emissions.mp mem
    exact alarm (authorized_of_emission inv loud).clear

/-- Each emitted command is valid, comes with status `applied` and carries the active token; tokens
never decrease; and after an alarm nothing is emitted. -/
theorem emission_safety (configuration : OmsConfiguration) : (∀ (before : List Call) (c : Call),
        let s := run call (.construct configuration) before
        let r := (s.apply c.input c.published).2
        r.gatewayCommand.kind ≠ .none →
          validGatewayCommand r.gatewayCommand = true ∧ r.status = .applied ∧
            r.gatewayCommand.authority =
              ⟨configuration.exchangeSessionEpoch, s.activeFencingToken⟩) ∧
      (∀ calls : List Call,
        (outputs call emissions (.construct configuration) calls).Pairwise fun first later =>
          first.authority.fencingToken ≤ later.authority.fencingToken) ∧
      (∀ before after : List Call, (run call (.construct configuration) before).invariant ≠ .none →
          outputs call emissions (run call (.construct configuration) before) after = []) := by
  have reachable : ∀ before : List Call,
      Invariant (run call (.construct configuration) before) := fun before =>
    (Reachable.construct.run before).invariant
  refine ⟨fun before c => ?_, fun calls => ?_, fun before after alarm => ?_⟩
  · intro s r loud
    have authorized := authorized_of_emission (reachable before) loud
    have same : s.configuration = configuration :=
      (call_configuration _ before).trans
        (congrArg Ledger.configuration (construct_fresh configuration).ledger)
    refine ⟨authorized.valid, authorized.status, ?_⟩
    rw [← same]
    exact authorized.authority
  · exact emissions_ordered (reachable []) calls
  · exact emissions_of_alarm (reachable before) alarm after

end Aegis.Oms
