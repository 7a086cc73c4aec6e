import Aegis.Oms.ApplyLaws

/-!
The invariant of the tables, with one preservation lemma for each kind of write.
-/

namespace Aegis.Oms

open Aegis.Common Aegis.Risk Aegis.Foundation Function DeterministicOms

/-- What `valid_input` guarantees for every kind. -/
structure InputFacts (input : OmsInput) : Prop where
  receiptId : input.receiptId.valid = true
  time : input.processMonotonicTimeNs ≠ 0
  stableHash : input.stableHash = stableInputHash input
  source : validInputSource input = true
  authority : input.kind.reports = true → input.authority.valid = true

variable {input : OmsInput}

theorem InputFacts.of_valid (valid : validInput input) : InputFacts input := by
  simp only [validInput, validEnvelope, Bool.and_eq_true, bne_iff_ne, ne_eq, beq_iff_eq] at valid
  obtain ⟨⟨⟨⟨⟨⟨⟨receipt, -⟩, -⟩, time⟩, -⟩, hash⟩, source⟩, body⟩ := valid
  refine ⟨receipt, time, hash, source, fun reports => ?_⟩
  cases kind : input.kind with
  | fill =>
    simp only [kind, validFillInput, Bool.and_eq_true] at body
    exact body.1.1.1.1.1.2
  | acknowledgement =>
    simp only [kind, validAckInput, Bool.and_eq_true] at body
    exact body.1.2
  | recoveryObservation =>
    simp only [kind, validRecoveryInput, Bool.and_eq_true] at body
    exact body.1.1
  | rejection | cancelAcknowledgement | cancelRejection | replaceAcknowledgement
  | replaceRejection =>
    simp only [kind, Bool.and_eq_true] at body
    exact body.1.2
  | _ =>
    rw [kind] at reports
    cases reports

theorem executionId_of_fill (valid : validInput input)
    (kind : input.kind = .fill) : input.executionId.valid := by
  simp only [validInput, kind, validFillInput, Bool.and_eq_true] at valid
  exact valid.2.1.1.1.1.1.1.2

theorem quantityUnits_of_fill (valid : validInput input)
    (kind : input.kind = .fill) : input.quantityUnits ≠ 0 := by
  simp only [validInput, kind, validFillInput, Bool.and_eq_true, bne_iff_ne, ne_eq] at valid
  exact valid.2.1.1.1.2

theorem approvalFacts {intent : RiskIntent} {decision : RiskDecision} {nowNs : UInt64}
    (approved : exactRiskApproval intent decision nowNs) :
    IntentFacts intent ∧ decision.stableHash ≠ 0 := by
  unfold exactRiskApproval at approved
  split at approved
  · cases approved
  rename_i checks
  simp only [Bool.or_eq_true, Bool.not_eq_true', not_or, Bool.not_eq_false] at checks
  exact ⟨IntentFacts.of_valid checks.1.1.1.1.1.1.1,
    stableHash_ne_zero_of_valid checks.1.1.1.1.1.1.2⟩

theorem acceptFacts_of_valid (valid : validInput input) (kind : input.kind = .acceptIntent) :
    IntentFacts input.intent ∧ input.intent.action ≠ .cancel ∧ input.riskDecision.stableHash ≠ 0 := by
  simp only [validInput, kind, validAcceptInput, Bool.and_eq_true, bne_iff_ne, ne_eq] at valid
  obtain ⟨-, action, approved⟩ := valid
  obtain ⟨intent, decision⟩ := approvalFacts approved
  exact ⟨intent, action, decision⟩

/-- What the record of an accepted order keeps from its intent. -/
structure AcceptedFacts (order : OmsOrderSnapshot) : Prop where
  accountId : order.accountId.valid = true
  strategyId : order.strategyId.valid = true
  venueId : order.venueId.valid = true
  instrumentId : order.instrumentId.valid = true
  intentHash : order.intentHash ≠ 0
  riskDecisionHash : order.riskDecisionHash ≠ 0
  view : order.view.Sound

/-- What `valid_order_snapshot` checks, without the balance. -/
structure OrderSound (order : OmsOrderSnapshot) : Prop where
  orderId : order.orderId.valid = true
  sessionId : order.sessionId.valid = true
  configurationVersion : order.configurationVersion.valid = true
  clientOrderId : order.clientOrderId.back = '\x00'
  authority : order.authority.valid = true
  version : order.stateVersion ≠ 0
  time : order.lastUpdateProcessMonotonicTimeNs ≠ 0
  unknown : order.intentId.valid = false → order.state = .unknownRecovery
  accepted : order.intentId.valid = true → AcceptedFacts order

theorem OrderSound.validOrderSnapshot_iff {order : OmsOrderSnapshot} (sound : OrderSound order)
    (occ : order.occupied) :
    validOrderSnapshot order ↔ (order.intentId.valid → order.view.Balanced) := by
  unfold validOrderSnapshot
  simp only [occ, sound.orderId, sound.sessionId, sound.authority, validOrderState_eq_true,
    sound.clientOrderId, Bool.not_true, Bool.or_self,
    beq_eq_false_iff_ne.mpr sound.version, beq_eq_false_iff_ne.mpr sound.time, bne_self_eq_false,
    Bool.false_eq_true, if_false]
  cases intent : order.intentId.valid with
  | false => simp [sound.unknown intent, sound.configurationVersion]
  | true =>
    obtain ⟨account, strategy, venue, instrument, intentHash, decisionHash, priced, sized,
      bounded, -⟩ := sound.accepted intent
    have priced : order.priceTicks > 0 := priced
    have sized : order.quantityUnits ≠ 0 := sized
    have bounded : order.cumulativeFillQuantityUnits ≤ order.quantityUnits := bounded
    have identity : validOrderIdentity order := by
      simp [validOrderIdentity, intent, account, strategy, venue, instrument,
        sound.configurationVersion, priced, sized, bounded, intentHash, decisionHash]
    simp only [identity, OrderView.Balanced, OmsOrderSnapshot.view, Bool.not_true, Bool.and_false,
      Bool.false_eq_true, if_false, true_implies]
    by_cases filled : order.state = .filled
    · simp [filled]
    · by_cases terminal : terminalState order.state
      · simp [filled, terminal]
      · simp [filled, terminal]

section Revision

variable {input : OmsInput} {order order' : OmsOrderSnapshot} {event : OrderEvent}

theorem Step.unknown {v v' : OrderView} (step : Step v event v')
    (unknown : v.state = .unknownRecovery)
    (unobserved : ∀ observation quantityUnits, event ≠ .observed observation quantityUnits) :
    v'.state = .unknownRecovery := by
  cases step with
  | kept => exact unknown
  | lost | withdrawn => rfl
  | observed observation quantityUnits => exact absurd rfl (unobserved observation quantityUnits)
  | filled _ _ _ known => exact absurd unknown known
  | _ => simp_all

theorem OrderSound.revised (sound : OrderSound order) (revised : Revised input order order')
    (step : Step order.view event order'.view) (time : input.processMonotonicTimeNs ≠ 0)
    (observed : ∀ observation quantityUnits, event = .observed observation quantityUnits →
      order.intentId.valid) : OrderSound order' := by
  have identity := revised.identity
  have intentId := revised.intentId
  simp only [OmsOrderSnapshot.identity, OrderIdentity.mk.injEq] at identity
  obtain ⟨orderId, -, session, account, strategy, venue, instrument, version, client, -,
    intentHash, decisionHash, -⟩ := identity
  refine ⟨by rw [orderId]; exact sound.orderId, by rw [session]; exact sound.sessionId,
    by rw [version]; exact sound.configurationVersion, by rw [client]; exact sound.clientOrderId,
    ?_, ?_, ?_, ?_, ?_⟩
  · rcases revised.authority with same | ⟨same, valid⟩
    · rw [same]; exact sound.authority
    · rw [same]; exact valid
  · have grows := revised.version
    have positive := sound.version
    omega
  · rcases revised.time with same | same
    · rw [same]; exact sound.time
    · rw [same]; exact time
  · intro missing
    rw [intentId] at missing
    refine Step.unknown step (sound.unknown missing) ?_
    rintro observation quantityUnits rfl
    rw [observed observation quantityUnits rfl] at missing
    cases missing
  · intro accepted
    rw [intentId] at accepted
    have facts := sound.accepted accepted
    exact ⟨by rw [account]; exact facts.accountId, by rw [strategy]; exact facts.strategyId,
      by rw [venue]; exact facts.venueId, by rw [instrument]; exact facts.instrumentId,
      by rw [intentHash]; exact facts.intentHash, by rw [decisionHash]; exact facts.riskDecisionHash,
      step.sound facts.view⟩

end Revision

structure WellFormed (l : Ledger) : Prop where
  configured : l.initialized = true → ConfigurationFacts l.configuration ∧ l.activeFencingToken ≠ 0
  ordersChained : orderLayout.Chained l.orders
  executionsChained : executionLayout.Chained l.executions
  executionsDistinct : executionLayout.Distinct l.executions
  receiptsChained : receiptLayout.Chained l.receipts
  /-- A slot that was never taken holds the default record. -/
  vacant : ∀ index, (l.orders index).value.occupied = false → (l.orders index).value = {}
  intentsDistinct : ∀ i j, (l.orders i).value.occupied = true → (l.orders j).value.occupied = true →
    (l.orders i).value.intentId.valid = true →
    (l.orders i).value.intentId = (l.orders j).value.intentId → i = j
  /-- An accepted order is found under its identifier, whatever is filed later. -/
  acceptedFound : ∀ index, (l.orders index).value.occupied = true →
    (l.orders index).value.intentId.valid = true →
    orderLayout.find l.orders (l.orders index).value.orderId = some index
  ordersSound : ∀ index, (l.orders index).value.occupied = true → OrderSound (l.orders index).value
  executionsNamed : ∀ execution, (l.executions execution).occupied = true →
    ∃ index, (l.orders index).value.occupied = true ∧
      (l.orders index).value.orderId = (l.executions execution).orderId

namespace WellFormed

variable {l : Ledger}

theorem revise (wf : WellFormed l) {orders : OrderIndex → OrderSlot}
    (identity : ∀ index, (orders index).value.identity = (l.orders index).value.identity)
    (untouched : ∀ index, (l.orders index).value.occupied = false →
      (orders index).value = (l.orders index).value)
    (sound : ∀ index, (l.orders index).value.occupied → OrderSound (orders index).value) :
    WellFormed { l with orders } := by
  have occupied : ∀ index, (orders index).value.occupied = (l.orders index).value.occupied :=
    fun index => congrArg OrderIdentity.occupied (identity index)
  have orderId : ∀ index, (orders index).value.orderId = (l.orders index).value.orderId :=
    fun index => congrArg OrderIdentity.orderId (identity index)
  have intentId : ∀ index, (orders index).value.intentId = (l.orders index).value.intentId :=
    fun index => congrArg OrderIdentity.intentId (identity index)
  have same : orderLayout.SameKeys l.orders orders := fun index =>
    ⟨occupied index, fun _ => orderId index⟩
  refine ⟨wf.configured, same.chained wf.ordersChained, wf.executionsChained, wf.executionsDistinct,
    wf.receiptsChained, ?_, ?_, ?_, ?_, ?_⟩
  · intro index free
    rw [occupied] at free
    exact (untouched index free).trans (wf.vacant index free)
  · intro i j occI occJ valid eq
    rw [occupied] at occI occJ
    rw [intentId] at valid
    rw [intentId, intentId] at eq
    exact wf.intentsDistinct i j occI occJ valid eq
  · intro index occ valid
    rw [occupied] at occ
    rw [intentId] at valid
    rw [orderId, same.find]
    exact wf.acceptedFound index occ valid
  · intro index occ
    rw [occupied] at occ
    exact sound index occ
  · intro execution occ
    obtain ⟨index, held, named⟩ := wf.executionsNamed execution occ
    exact ⟨index, (occupied index).trans held, (orderId index).trans named⟩

variable {index : OrderIndex} {executionId : GlobalEventId} {execution : ExecutionIndex}
  {slot : ExecutionSlot} {s : DeterministicOms}

theorem file (wf : WellFormed l) {orderId : OrderId} {slot : OrderSlot}
    (free : orderLayout.findFree l.orders orderId = some index) (occ : slot.value.occupied)
    (key : slot.value.orderId = orderId) (sound : OrderSound slot.value)
    (newIntent : slot.value.intentId.valid → ∀ other,
      (l.orders other).value.occupied → (l.orders other).value.intentId ≠ slot.value.intentId)
    (newOrder : slot.value.intentId.valid → orderLayout.find l.orders orderId = none) :
    WellFormed { l with orders := update l.orders index slot } := by
  have vacant := Layout.free_of_findFree free
  refine ⟨wf.configured, wf.ordersChained.insert free occ key, wf.executionsChained,
    wf.executionsDistinct, wf.receiptsChained, ?_, ?_, ?_, ?_, ?_⟩
  · intro other unused
    by_cases eq : other = index
    · subst eq
      simp [occ] at unused
    · simp only [update_of_ne eq] at unused ⊢
      exact wf.vacant other unused
  · intro i j occI occJ valid eq
    refine eq_of_update (R := fun (a b : OrderSlot) => a.value.occupied ∧ b.value.occupied ∧
        a.value.intentId.valid ∧ a.value.intentId = b.value.intentId)
      (fun i j both => wf.intentsDistinct i j both.1 both.2.1 both.2.2.1 both.2.2.2) ?_ ?_
      ⟨occI, occJ, valid, eq⟩
    · rintro j - ⟨-, occ, valid, eq⟩
      exact newIntent valid j occ eq.symm
    · rintro i - ⟨occ, -, valid, eq⟩
      exact newIntent (eq ▸ valid) i occ eq
  · intro other held valid
    by_cases eq : other = index
    · subst eq
      simp only [update_self] at valid ⊢
      rw [key]
      exact Layout.find_insert_self free occ key (newOrder valid)
    · simp only [update_of_ne eq] at held valid ⊢
      exact Layout.find_insert_of_found free (wf.acceptedFound other held valid)
  · intro other held
    by_cases eq : other = index
    · subst eq
      simpa using sound
    · simp only [update_of_ne eq] at held ⊢
      exact wf.ordersSound other held
  · intro execution used
    obtain ⟨other, held, named⟩ := wf.executionsNamed execution used
    have ne : other ≠ index := by
      rintro rfl
      have unused : (l.orders other).value.occupied = false := vacant
      rw [unused] at held
      cases held
    exact ⟨other, by simpa [ne] using held, by simpa [ne] using named⟩

theorem record (wf : WellFormed l) (index : OrderIndex)
    (free : executionLayout.findFree l.executions executionId = some execution)
    (new : executionLayout.find l.executions executionId = none) (occ : slot.occupied)
    (key : slot.executionId = executionId) (held : (l.orders index).value.occupied)
    (named : slot.orderId = (l.orders index).value.orderId) :
    WellFormed { l with executions := update l.executions execution slot } := by
  refine ⟨wf.configured, wf.ordersChained, wf.executionsChained.insert free occ key,
    Layout.Distinct.insert free key wf.executionsChained wf.executionsDistinct new,
    wf.receiptsChained, wf.vacant,
    wf.intentsDistinct, wf.acceptedFound, wf.ordersSound, ?_⟩
  intro other used
  by_cases eq : other = execution
  · subst eq
    exact ⟨index, held, by simp [named]⟩
  · simp only [update_of_ne eq] at used ⊢
    exact wf.executionsNamed other used

theorem confirm (wf : WellFormed l) (occ : slot.occupied = (l.executions execution).occupied)
    (key : slot.executionId = (l.executions execution).executionId)
    (named : slot.orderId = (l.executions execution).orderId) :
    WellFormed { l with executions := update l.executions execution slot } := by
  have same : executionLayout.SameKeys l.executions (update l.executions execution slot) :=
    Layout.SameKeys.update occ key
  refine ⟨wf.configured, wf.ordersChained, same.chained wf.executionsChained,
    same.distinct wf.executionsDistinct, wf.receiptsChained, wf.vacant,
    wf.intentsDistinct, wf.acceptedFound, wf.ordersSound, ?_⟩
  intro other used
  by_cases eq : other = execution
  · subst eq
    simp only [update_self] at used ⊢
    rw [named]
    exact wf.executionsNamed other (occ ▸ used)
  · simp only [update_of_ne eq] at used ⊢
    exact wf.executionsNamed other used

theorem accepted_of_known (wf : WellFormed s.ledger) (occ : (s.orders index).value.occupied)
    (known : (s.orders index).value.state ≠ .unknownRecovery) :
    (s.orders index).value.intentId.valid := by
  by_contra missing
  exact known ((wf.ordersSound index occ).unknown (Bool.eq_false_iff.mpr missing))

theorem receipt (wf : WellFormed l) {receiptId : GlobalEventId} {index : ReceiptIndex}
    {slot : ReceiptSlot} (free : receiptLayout.findFree l.receipts receiptId = some index)
    (occ : slot.occupied) (key : slot.receiptId = receiptId) :
    WellFormed { l with receipts := update l.receipts index slot } :=
  ⟨wf.configured, wf.ordersChained, wf.executionsChained, wf.executionsDistinct,
    wf.receiptsChained.insert free occ key, wf.vacant, wf.intentsDistinct, wf.acceptedFound,
    wf.ordersSound, wf.executionsNamed⟩

end WellFormed

section Created

variable {s : DeterministicOms} {input : OmsInput}

theorem deterministicOrderId_valid {configuration : OmsConfiguration} {intent : RiskIntent} :
    (deterministicOrderId configuration intent).valid :=
  Identifier128.valid_of_high (nonzeroHash_ne_zero _)

theorem acceptedOrder_sound (valid : validInput input) (kind : input.kind = .acceptIntent)
    (facts : ConfigurationFacts s.configuration) (token : s.activeFencingToken ≠ 0) :
    OrderSound (s.acceptedOrder input) := by
  obtain ⟨intent, action, decisionHash⟩ := acceptFacts_of_valid valid kind
  obtain ⟨sized, priced⟩ := intent.order action
  refine ⟨deterministicOrderId_valid, intent.sessionId, intent.configurationVersion,
    toHex_back _, ?_, Nat.one_ne_zero, (InputFacts.of_valid valid).time, ?_, fun _ => ?_⟩
  · simp [acceptedOrder, LeaderAuthority.valid, facts.exchangeSessionEpoch, token]
  · intro missing
    have present : (s.acceptedOrder input).intentId.valid := intent.intentId
    rw [present] at missing
    cases missing
  · exact ⟨intent.accountId, intent.strategyId, intent.venueId, intent.instrumentId,
      intent.stableHash, decisionHash, priced, sized, UInt64.zero_le, nofun⟩

theorem unknownOrderRecord_sound (valid : validInput input)
    (reports : input.kind.reports) (facts : ConfigurationFacts s.configuration)
    (named : (s.unknownOrderId input).valid) : OrderSound (s.unknownOrderRecord input) := by
  have inputFacts := InputFacts.of_valid valid
  refine ⟨named, facts.sessionId, facts.configurationVersion, toHex_back _,
    inputFacts.authority reports, Nat.one_ne_zero, inputFacts.time, fun _ => rfl, fun accepted => ?_⟩
  cases accepted

theorem rotatedSlot_cases (slot : OrderSlot) (input : OmsInput) : rotatedSlot slot input = slot ∨
      slot.value.occupied ∧ liveState slot.value.state ∧
        (rotatedSlot slot input).value.identity = slot.value.identity ∧
        (rotatedSlot slot input).value.authority = input.authority ∧
        (rotatedSlot slot input).value.stateVersion = slot.value.stateVersion + 1 ∧
        (rotatedSlot slot input).value.lastUpdateProcessMonotonicTimeNs =
          input.processMonotonicTimeNs ∧
        Step slot.value.view .withdrawn (rotatedSlot slot input).value.view := by
  unfold rotatedSlot
  split
  · exact .inl rfl
  · rename_i live
    simp only [Bool.or_eq_true, Bool.not_eq_true', not_or, Bool.not_eq_false] at live
    exact .inr ⟨live.1, live.2, rfl, rfl, rfl, rfl, Step.withdrawn (.inl live.2)⟩

end Created

/-! ### The handlers keep the tables well formed -/

section Preservation

variable {s s' : DeterministicOms} {input : OmsInput} {r : InternalResult}

theorem Moves.wellFormed {index : OrderIndex} {slot : OrderSlot} {event : OrderEvent}
    (moves : Moves s input index slot event) (wf : WellFormed s.ledger) (valid : validInput input) :
    WellFormed { s.ledger with orders := update s.orders index slot } := by
  have occ := occupied_of_resolveOrder moves.resolved
  apply wf.revise
  · intro other
    by_cases eq : other = index
    · subst eq
      rw [update_self]
      exact moves.revised.identity
    · simp [eq, ledger]
  · intro other free
    by_cases eq : other = index
    · subst eq
      have free : (s.orders other).value.occupied = false := free
      rw [occ] at free
      cases free
    · simp [eq, ledger]
  · intro other held
    by_cases eq : other = index
    · subst eq
      rw [update_self]
      refine (wf.ordersSound other held).revised moves.revised moves.step
        (InputFacts.of_valid valid).time ?_
      rintro observation quantityUnits rfl
      exact moves.cause.2.2.2
    · rw [update_of_ne eq]
      exact wf.ordersSound other held

theorem Discovery.wellFormed {index : OrderIndex} (discovery : Discovery s input s' index)
    (wf : WellFormed s.ledger) (initialized : s.initialized)
    (valid : validInput input) : WellFormed s'.ledger := by
  rw [discovery.leaves.ledger]
  refine wf.file discovery.free rfl rfl
    (unknownOrderRecord_sound valid discovery.kind (wf.configured initialized).1 discovery.named)
    ?_ ?_
  · intro accepted
    cases accepted
  · intro accepted
    cases accepted

theorem Effect.wellFormed (effect : Effect s input s' r) (wf : WellFormed s.ledger)
    (initialized : s.initialized) (valid : validInput input) : WellFormed s'.ledger := by
  cases effect with
  | refused leaves =>
    rw [leaves.ledger]
    exact wf
  | accepted index kind newIntent newOrder free leaves =>
    obtain ⟨facts, token⟩ := wf.configured initialized
    have intent := (acceptFacts_of_valid valid kind).1.intentId
    rw [leaves.ledger]
    refine wf.file free rfl rfl (acceptedOrder_sound valid kind facts token) (fun _ => ?_) fun _ => ?_
    · exact (findOrderByIntent_eq_none_iff intent).mp newIntent
    · rwa [findOrder_of_valid deterministicOrderId_valid] at newOrder
  | discovered index discovery => exact discovery.wellFormed wf initialized valid
  | moved index slot event moves leaves =>
    rw [leaves.ledger]
    exact moves.wellFormed wf valid
  | executed index slot event execution moves kind counted new free leaves =>
    rw [findExecution_of_valid (executionId_of_fill valid kind)] at new
    have occ := occupied_of_resolveOrder moves.resolved
    rw [leaves.ledger]
    refine (moves.wellFormed wf valid).record index free new rfl rfl ?_ ?_
    · simpa using moves.revised.occupied.trans occ
    · simpa [executionRecord] using moves.revised.orderId.symm
  | confirmed index slot execution moves kind found same leaves =>
    rw [leaves.ledger]
    exact (moves.wellFormed wf valid).confirm rfl rfl rfl
  | rotated kind newer leaves =>
    have authority : input.authority.valid := by
      simp only [validInput, kind, Bool.and_eq_true] at valid
      exact valid.2.1
    have time := (InputFacts.of_valid valid).time
    have revised : WellFormed
        { s.ledger with orders := fun index => rotatedSlot (s.orders index) input } := by
      apply wf.revise
      · intro index
        rcases rotatedSlot_cases (s.orders index) input with same | ⟨-, -, identity, -⟩
        · rw [same]; rfl
        · exact identity
      · intro index free
        rcases rotatedSlot_cases (s.orders index) input with same | ⟨occ, -⟩
        · rw [same]; rfl
        · have free : (s.orders index).value.occupied = false := free
          rw [occ] at free
          cases free
      · intro index held
        rcases rotatedSlot_cases (s.orders index) input with
          same | ⟨-, -, identity, rotated, version, updated, step⟩
        · rw [same]
          exact wf.ordersSound index held
        · refine (wf.ordersSound index held).revised
            ⟨identity, .inr ⟨rotated, authority⟩, ?_, .inr updated⟩ step time (by simp)
          rw [version]
          exact Nat.le_succ _
    rw [leaves.ledger]
    refine ⟨fun _ => ⟨(wf.configured initialized).1, ?_⟩, revised.ordersChained,
      revised.executionsChained, revised.executionsDistinct, revised.receiptsChained,
      revised.vacant, revised.intentsDistinct, revised.acceptedFound, revised.ordersSound,
      revised.executionsNamed⟩
    intro (zero : input.authority.fencingToken = 0)
    rw [zero] at newer
    exact UInt64.not_lt_zero newer

theorem Handled.wellFormed (handled : Handled s input s' r) (wf : WellFormed s.ledger)
    (initialized : s.initialized) (valid : validInput input) : WellFormed s'.ledger := by
  cases handled with
  | directly effect => exact effect.wellFormed wf initialized valid
  | afterDiscovery s₁ index kind discovery resolved effect =>
    refine effect.wellFormed (discovery.wellFormed wf initialized valid) ?_ valid
    exact (congrArg Ledger.initialized discovery.leaves.ledger).trans initialized

theorem Received.wellFormed (received : Received s input s' r) (wf : WellFormed s.ledger)
    (initialized : s.initialized) : WellFormed s'.ledger := by
  cases received with
  | refused leaves =>
    rw [leaves.ledger]
    exact wf
  | handled h receipt valid fresh free handled recorded =>
    subst recorded
    have kept : s.receipts = h.receipts := handled.receipts.symm
    unfold findFreeReceipt at free
    rw [kept] at free ⊢
    exact (handled.wellFormed wf initialized valid).receipt free rfl rfl

end Preservation

theorem validSnapshot_of_wellFormed {s : DeterministicOms} {sequence : Nat}
    (wf : WellFormed s.ledger) (initialized : s.initialized)
    (time : input.processMonotonicTimeNs ≠ 0) (valid : s.OrdersValid) :
    validSnapshot (s.nextSnapshot input sequence) := by
  obtain ⟨facts, token⟩ := wf.configured initialized
  exact validSnapshot_nextSnapshot facts token time valid

end Aegis.Oms
