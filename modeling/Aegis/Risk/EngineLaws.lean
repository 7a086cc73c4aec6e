import Aegis.Risk.Engine

/-!
What an evaluation can do: the facts an approval rests on, and the fields that none touches.
-/

namespace Aegis.Risk

open Aegis.Common Aegis.Foundation Pipeline Engine

variable {e : Engine} {request : RiskEvaluationRequest} {p q : Progress}

def Progress.passed (p : Progress) (number : RiskCheck) : Progress :=
  { p with decision := { p.decision with
    completedCheckMask := p.decision.completedCheckMask ||| checkBit number } }

variable {number : RiskCheck} {returned : Unit}

@[simp] theorem pass_eq_ok_iff : pass number p = (.ok returned, q) ↔ p.passed number = q := by
  simp [pass, Progress.passed]

@[simp] theorem check_eq_ok_iff {bad : Bool} {reason : RiskReason} :
    check number bad reason p = (.ok returned, q) ↔ bad = false ∧ p.passed number = q := by
  simp [check]

def SameEngine (p q : Progress) : Prop :=
  q.engine = p.engine

instance : Std.Refl SameEngine := ⟨fun _ => rfl⟩

instance : IsTrans Progress SameEngine := ⟨fun _ _ _ first second => second.trans first⟩

theorem within_pass : Within SameEngine (pass number) :=
  within_update fun _ => rfl

theorem within_unpass : Within SameEngine (unpass number) :=
  within_update fun _ => rfl

theorem within_setValidUntil {time : UInt64} : Within SameEngine (setValidUntil time) :=
  within_update fun _ => rfl

theorem within_check {bad : Bool} {reason : RiskReason} :
    Within SameEngine (check number bad reason) :=
  within_refuseIf.bind fun _ => within_pass

theorem within_recheck {bad : Bool} {reason : RiskReason} :
    Within SameEngine (recheck number bad reason) := by
  cases bad
  · exact within_pure
  · exact within_unpass.bind fun _ => within_refuse

theorem within_authorizeRequest : Within SameEngine (authorizeRequest e request) :=
  within_check.bind fun _ => within_check.bind fun _ => within_require.bind fun _ =>
    within_check.bind fun _ => within_require.bind fun _ => within_check.bind fun _ => within_pure

theorem within_checkMarket {symbol : SymbolLimit} :
    Within SameEngine (checkMarket e request symbol) :=
  within_check.bind fun _ => within_check.bind fun _ => within_check.bind fun _ =>
    within_check.bind fun _ => within_check

theorem within_checkOrder {symbol : SymbolLimit} : Within SameEngine (checkOrder request symbol) :=
  within_check.bind fun _ => within_require.bind fun _ => within_check.bind fun _ =>
    within_check.bind fun _ => within_check

theorem within_projectStep {symbolIndex : Nat} :
    Within SameEngine (projectStep e request symbolIndex) := by
  intro p
  unfold projectStep
  split <;> rfl

theorem within_checkExposure {symbolIndex : Nat} :
    Within SameEngine (checkExposure e request symbolIndex) :=
  within_projectStep.bind fun _ => within_check.bind fun _ =>
    within_check.bind fun _ => within_check.bind fun _ => within_check.bind fun _ =>
      within_check.bind fun _ => within_pure

theorem within_checkLosses {strategyIndex : Nat} :
    Within SameEngine (checkLosses e request strategyIndex) :=
  within_refuseIf.bind fun _ => within_check.bind fun _ => within_check.bind fun _ =>
    within_require.bind fun _ => within_require.bind fun _ => within_check

theorem within_checkPolicies {exposure : ExposureProjection} :
    Within SameEngine (checkPolicies e request exposure) :=
  within_check.bind fun _ => within_check.bind fun _ => within_check

theorem within_checkVenue {strategyIndex symbolIndex : Nat} :
    Within SameEngine (checkVenue e request strategyIndex symbolIndex) :=
  within_require.bind fun _ => within_check.bind fun _ => within_check.bind fun _ => within_pure

theorem within_checkFreshness {strategyIndex symbolIndex venueIndex : Nat} :
    Within SameEngine (checkFreshness e request strategyIndex symbolIndex venueIndex) :=
  within_refuseIf.bind fun _ => within_refuseIf.bind fun _ => within_check.bind fun _ =>
    within_recheck

theorem within_approvalEnd : Within SameEngine (approvalEnd e request) :=
  within_recheck.bind fun _ => within_setValidUntil.bind fun _ => within_refuseIf

/-! ### What the checks can touch -/

section Checks

variable {R : Progress → Progress → Prop} [Std.Refl R] [IsTrans Progress R]

/-- The checks make four writes before an approval. -/
theorem within_evaluationChecks (decides : ∀ p q, SameEngine p q → R p q)
    (times : ∀ now, Within R (storeEvaluationTime now))
    (records : Within R (recordStep request))
    (orders : Within R (admitOrder e request))
    (cancels : Within R (admitCancel e request)) :
    Within R (evaluationChecks e request) := by
  have screened : Within R (screenRequest e request) :=
    within_refuseIf.bind fun _ => within_refuseIf.bind fun _ =>
      within_refuseIf.bind fun _ => times _
  have duplicate : Within R (checkDuplicate request) :=
    records.bind fun _ => within_pass.mono decides
  have rates : Within R (checkRates e request) := by
    unfold checkRates
    cases request.isCancel
    · exact orders.bind fun _ => (within_pass.mono decides).bind fun _ =>
      within_pure.bind fun _ => within_pass.mono decides
    · exact within_pure.bind fun _ => (within_pass.mono decides).bind fun _ =>
      cancels.bind fun _ => within_pass.mono decides
  exact screened.bind fun _ => (within_authorizeRequest.mono decides).bind fun _ =>
    (within_checkMarket.mono decides).bind fun _ =>
    (within_checkOrder.mono decides).bind fun _ => duplicate.bind fun _ => rates.bind fun _ =>
    (within_checkExposure.mono decides).bind fun _ =>
    (within_checkLosses.mono decides).bind fun _ =>
    (within_checkPolicies.mono decides).bind fun _ =>
    (within_checkVenue.mono decides).bind fun _ =>
    (within_checkFreshness.mono decides).bind fun _ =>
    (within_approvalEnd.mono decides).bind fun _ => within_pure

end Checks

/-- What no evaluation writes. -/
structure Engine.SameControls (e next : Engine) : Prop where
  limits : next.limits = e.limits
  initialized : next.initialized = e.initialized
  authorityEpoch : next.authorityEpoch = e.authorityEpoch
  symbolKillMask : next.symbolKillMask = e.symbolKillMask
  strategyKillMask : next.strategyKillMask = e.strategyKillMask
  venueKillMask : next.venueKillMask = e.venueKillMask

theorem Engine.SameControls.refl (e : Engine) : e.SameControls e := by
  constructor <;> rfl

theorem Engine.SameControls.trans {first second third : Engine} (now : first.SameControls second)
    (later : second.SameControls third) : first.SameControls third := by
  constructor
  · exact later.limits.trans now.limits
  · exact later.initialized.trans now.initialized
  · exact later.authorityEpoch.trans now.authorityEpoch
  · exact later.symbolKillMask.trans now.symbolKillMask
  · exact later.strategyKillMask.trans now.strategyKillMask
  · exact later.venueKillMask.trans now.venueKillMask

def ScreenedProgress (p q : Progress) : Prop :=
  p.engine.SameControls q.engine ∧ q.engine.symbolState = p.engine.symbolState

instance : Std.Refl ScreenedProgress := ⟨fun p => ⟨.refl p.engine, rfl⟩⟩

instance : IsTrans Progress ScreenedProgress :=
  ⟨fun _ _ _ now later => ⟨now.1.trans later.1, later.2.trans now.2⟩⟩

variable {p q : Progress} {exposure : ExposureProjection} {rejection : Rejection}

theorem SameEngine.screened (same : SameEngine p q) : ScreenedProgress p q := by
  rw [ScreenedProgress, same]
  exact ⟨.refl p.engine, rfl⟩

theorem screened_recordStep : Within ScreenedProgress (recordStep request) := by
  intro p
  unfold recordStep
  split
  · exact refl p
  · exact ⟨by constructor <;> rfl, rfl⟩

theorem screened_evaluationChecks : Within ScreenedProgress (evaluationChecks e request) :=
  within_evaluationChecks (fun _ _ same => same.screened)
    (fun _ _ => ⟨by constructor <;> rfl, rfl⟩) screened_recordStep
    (fun _ => ⟨by constructor <;> rfl, rfl⟩) (fun _ => ⟨by constructor <;> rfl, rfl⟩)

/-! ### What an approval rests on -/

/-- The exposure checks, as they hold of the projection. -/
structure WithinLimits (e : Engine) (request : RiskEvaluationRequest) (symbolIndex : Nat)
    (exposure : ExposureProjection) : Prop where
  position : request.isCancel = false → exposure.requestedSymbolWorstPosition ≤
      (e.symbolLimit symbolIndex).maximumAbsolutePositionUnits
  gross : exposure.gross ≤ e.limits.maximumGrossExposureCurrencyNanos
  net : worstMagnitude exposure.netLow exposure.netHigh ≤
    e.limits.maximumAbsoluteNetExposureCurrencyNanos
  sector : ∀ sector limit, e.limits.maximumSectorExposureCurrencyNanos[sector]? = some limit →
    worstMagnitude (exposure.sectorLow sector) (exposure.sectorHigh sector) ≤ limit
  factor : ∀ factor limit, e.limits.maximumFactorExposureCurrencyNanos[factor]? = some limit →
    worstMagnitude (exposure.factorLow factor) (exposure.factorHigh factor) ≤ limit
  credit : exposure.gross ≤ e.limits.creditCapitalLimitCurrencyNanos

/-- The facts established when the order is reserved. -/
structure Approved (e : Engine) (request : RiskEvaluationRequest) (symbolIndex : Nat) : Prop where
  valid : validRiskIntent request.intent = true
  symbol : e.findSymbol request.intent.instrumentId = some symbolIndex
  exposure : ∃ exposure,
    projectExposure e.limits e.symbolState request.now request.intent symbolIndex = .ok exposure ∧
      WithinLimits e request symbolIndex exposure
  unkilled : ∃ strategyIndex venueIndex,
    e.findStrategy request.intent.strategyId = some strategyIndex ∧
      e.findVenue request.intent.venueId = some venueIndex ∧
      e.applicableKill symbolIndex strategyIndex venueIndex = false

theorem screenRequest_ok (passed : screenRequest e request p = (.ok returned, q)) :
    validRiskIntent request.intent := by
  simp only [screenRequest, bind_eq_ok_iff, refuseIf_eq_ok_iff, exists_const,
    ↓existsAndEq, and_true, Bool.or_eq_false_iff, Bool.not_eq_false'] at passed
  exact passed.1.1.2

theorem authorizeRequest_ok {strategy symbol : Nat}
    (passed : authorizeRequest e request p = (.ok (strategy, symbol), q)) :
    e.findStrategy request.intent.strategyId = some strategy ∧
      e.findSymbol request.intent.instrumentId = some symbol := by
  simp only [authorizeRequest, bind_eq_ok_iff, check_eq_ok_iff,
    require_eq_ok_iff, pure_eq_ok_iff, Prod.mk.injEq, exists_const,
    ↓existsAndEq, and_true] at passed
  obtain ⟨-, -, strategyFound, -, symbolFound, -⟩ := passed
  exact ⟨strategyFound, symbolFound⟩

theorem le_of_any_eq_false {limits : List UInt64} {exceeds : Nat → UInt64}
    (none : (limits.zipIdx.any fun (limit, index) => limit < exceeds index) = false) (index : Nat)
    (limit : UInt64) (found : limits[index]? = some limit) : exceeds index ≤ limit := by
  rw [List.any_eq_false] at none
  have member : (limit, index) ∈ limits.zipIdx := List.mem_zipIdx_iff_getElem?.mpr found
  simpa using none (limit, index) member

variable {symbolIndex : Nat}

theorem projectStep_ok (passed : projectStep e request symbolIndex p = (.ok exposure, q)) :
    projectExposure e.limits e.symbolState request.now request.intent symbolIndex =
      .ok exposure := by
  unfold projectStep at passed
  split at passed
  · cases passed
  · rename_i projected
    cases passed
    exact projected

theorem checkExposure_ok (passed : checkExposure e request symbolIndex p = (.ok exposure, q)) :
    projectExposure e.limits e.symbolState request.now request.intent symbolIndex = .ok exposure ∧
    (exposure.gross ≤ e.limits.creditCapitalLimitCurrencyNanos →
      WithinLimits e request symbolIndex exposure) := by
  simp only [checkExposure, bind_eq_ok_iff, check_eq_ok_iff, pure_eq_ok_iff,
    exists_const, ↓existsAndEq, and_true] at passed
  obtain ⟨middle, projected, position, gross, net, sector, factor, -⟩ := passed
  refine ⟨projectStep_ok projected, fun credit => ⟨fun order => ?_, ?_, ?_, ?_, ?_, credit⟩⟩
  · simpa [order] using position
  · simpa using gross
  · simpa using net
  · exact le_of_any_eq_false sector
  · exact le_of_any_eq_false factor

theorem checkPolicies_ok (passed : checkPolicies e request exposure p = (.ok returned, q)) :
    exposure.gross ≤ e.limits.creditCapitalLimitCurrencyNanos := by
  simp only [checkPolicies, bind_eq_ok_iff, check_eq_ok_iff, exists_const, ↓existsAndEq] at passed
  simpa using passed.1

theorem checkVenue_ok {strategyIndex venueIndex : Nat}
    (passed : checkVenue e request strategyIndex symbolIndex p = (.ok venueIndex, q)) :
    e.findVenue request.intent.venueId = some venueIndex ∧
      e.applicableKill symbolIndex strategyIndex venueIndex = false := by
  simp only [checkVenue, bind_eq_ok_iff, check_eq_ok_iff, require_eq_ok_iff,
    pure_eq_ok_iff, exists_const, ↓existsAndEq, and_true] at passed
  exact ⟨passed.1, passed.2.2.1⟩

def SameIntents (p q : Progress) : Prop :=
  q.engine.intentSlots = p.engine.intentSlots

theorem SameEngine.intents (same : SameEngine p q) : SameIntents p q :=
  congrArg intentSlots same

theorem screenRequest_intents
    (passed : screenRequest e request p = (.ok returned, q)) : SameIntents p q := by
  simp only [screenRequest, storeEvaluationTime, bind_eq_ok_iff,
    refuseIf_eq_ok_iff, update_eq_ok_iff, exists_const, ↓existsAndEq,
    and_true] at passed
  obtain ⟨-, -, -, rfl⟩ := passed
  rfl

theorem checkDuplicate_ok (passed : checkDuplicate request p = (.ok returned, q)) :
    recordIntent p.engine.intentSlots request.intent.intentId =
      some (false, q.engine.intentSlots) := by
  simp only [checkDuplicate, bind_eq_ok_iff, pass_eq_ok_iff] at passed
  obtain ⟨_, middle, recorded, rfl⟩ := passed
  unfold recordStep at recorded
  split at recorded
  · cases recorded
  rename_i duplicate slots found
  cases duplicate
  · cases recorded
    exact found
  · cases recorded

theorem checkRates_intents
    (passed : checkRates e request p = (.ok returned, q)) : SameIntents p q := by
  simp only [checkRates, bind_eq_ok_iff, pass_eq_ok_iff] at passed
  obtain ⟨_, p₁, orders, _, _, rfl, _, p₂, cancels, rfl⟩ := passed
  cases cancel : request.isCancel
  · rw [cancel, if_neg Bool.false_ne_true] at orders cancels
    cases cancels
    exact congrArg (fun outcome => outcome.2.engine.intentSlots) orders.symm
  · rw [cancel, if_pos rfl] at orders cancels
    cases orders
    exact congrArg (fun outcome => outcome.2.engine.intentSlots) cancels.symm

/-- An approval rests on the facts of `Approved`. -/
theorem evaluationChecks_ok (passed : evaluationChecks e request p = (.ok symbolIndex, q)) :
    Approved e request symbolIndex ∧ recordIntent p.engine.intentSlots request.intent.intentId =
        some (false, q.engine.intentSlots) := by
  simp only [evaluationChecks, bind_eq_ok_iff, Prod.exists, pure_eq_ok_iff] at passed
  obtain ⟨_, p₁, screened, strategy, symbol, p₂, authorized, _, p₃, market, _, p₄, order, _, p₅,
    recorded, _, p₆, rates, exposure, p₇, projected, _, p₈, losses, _, p₉, policies, venue, p₁₀,
    venueFound, _, p₁₁, fresh, _, p₁₂, ends, rfl, rfl⟩ := passed
  obtain ⟨strategyFound, symbolFound⟩ := authorizeRequest_ok authorized
  obtain ⟨projection, limits⟩ := checkExposure_ok projected
  refine ⟨⟨screenRequest_ok screened, symbolFound,
    ⟨exposure, projection, limits (checkPolicies_ok policies)⟩,
    ⟨strategy, venue, strategyFound, checkVenue_ok venueFound⟩⟩, ?_⟩
  -- Nothing but the check of duplicates writes the intents.
  have before : p₄.engine.intentSlots = p.engine.intentSlots :=
    calc p₄.engine.intentSlots = p₃.engine.intentSlots :=
          (within_checkOrder.moves order).intents
      _ = p₂.engine.intentSlots := (within_checkMarket.moves market).intents
      _ = p₁.engine.intentSlots := (within_authorizeRequest.moves authorized).intents
      _ = p.engine.intentSlots := screenRequest_intents screened
  have after : p₁₂.engine.intentSlots = p₅.engine.intentSlots :=
    calc p₁₂.engine.intentSlots = p₁₁.engine.intentSlots :=
          (within_approvalEnd.moves ends).intents
      _ = p₁₀.engine.intentSlots := (within_checkFreshness.moves fresh).intents
      _ = p₉.engine.intentSlots := (within_checkVenue.moves venueFound).intents
      _ = p₈.engine.intentSlots := (within_checkPolicies.moves policies).intents
      _ = p₇.engine.intentSlots := (within_checkLosses.moves losses).intents
      _ = p₆.engine.intentSlots := (within_checkExposure.moves projected).intents
      _ = p₅.engine.intentSlots := checkRates_intents rates
  rw [after, ← before]
  exact checkDuplicate_ok recorded

/-! ### What an evaluation returns -/

def Engine.Approves (e : Engine) (request : RiskEvaluationRequest) : Prop :=
  (e.evaluate request).2.2.decision = .approved

instance (e : Engine) (request : RiskEvaluationRequest) : Decidable (e.Approves request) :=
  inferInstanceAs (Decidable (_ = _))

def Engine.Reserves (e : Engine) (request : RiskEvaluationRequest) (symbolIndex : Nat)
    (next : Engine) : Prop :=
  request.isCancel = true ∧ next.symbolState = e.symbolState ∨ request.isCancel = false ∧ ∃ state,
      (e.symbolState symbolIndex).reserve request.intent = some state ∧
        next.symbolState = Function.update e.symbolState symbolIndex state

theorem reserveOrder_ok (passed : reserveOrder e request symbolIndex p = (.ok returned, q)) :
    (p.engine.symbolState = e.symbolState → e.Reserves request symbolIndex q.engine) ∧
      p.engine.SameControls q.engine ∧ q.engine.intentSlots = p.engine.intentSlots := by
  unfold reserveOrder at passed
  split at passed
  · rename_i cancel
    cases passed
    exact ⟨fun same => .inl ⟨cancel, same⟩, .refl _, rfl⟩
  rename_i order
  cases reserved : (e.symbolState symbolIndex).reserve request.intent with
  | none =>
    rw [reserved] at passed
    simp only [bind_eq_ok_iff, refuse_ne_ok, and_false, exists_false] at passed
  | some state =>
    rw [reserved] at passed
    cases passed
    refine ⟨fun same => .inr ⟨by simpa using order, state, reserved, ?_⟩, ?_, rfl⟩
    · simp only [same]
    · constructor <;> rfl

theorem reserveOrder_error
    (refused : reserveOrder e request symbolIndex p = (.error rejection, q)) : SameEngine p q := by
  unfold reserveOrder at refused
  split at refused
  · cases refused
  cases reserved : (e.symbolState symbolIndex).reserve request.intent with
  | none =>
    rw [reserved] at refused
    exact (within_unpass.bind fun _ => within_refuse).moves refused
  | some state =>
    rw [reserved] at refused
    cases refused

theorem evaluation_error
    (refused : evaluation e request p = (.error rejection, q)) : ScreenedProgress p q := by
  rcases bind_eq_error_iff.mp refused with early | ⟨symbolIndex, middle, checked, late⟩
  · exact screened_evaluationChecks.moves early
  · exact IsTrans.trans _ _ _ (screened_evaluationChecks.moves checked)
      (reserveOrder_error late).screened

/-- An approval rests on `Approved`; others leave the positions alone. -/
theorem Engine.evaluate_cases (e : Engine) (request : RiskEvaluationRequest) :
    e.SameControls (e.evaluate request).1 ∧
    ((e.Approves request ∧ ∃ symbolIndex, Approved e request symbolIndex ∧
        recordIntent e.intentSlots request.intent.intentId =
          some (false, (e.evaluate request).1.intentSlots) ∧
        e.Reserves request symbolIndex (e.evaluate request).1) ∨
      (¬ e.Approves request ∧ (e.evaluate request).1.symbolState = e.symbolState)) := by
  have started : e.SameControls e.started := by constructor <;> rfl
  unfold Engine.Approves evaluate
  split
  · exact ⟨.refl e, .inr ⟨by simp, rfl⟩⟩
  split
  · exact ⟨.refl e, .inr ⟨by simp, rfl⟩⟩
  unfold evaluateLocked
  dsimp only
  split
  · rename_i approved
    obtain ⟨symbolIndex, middle, checked, reserved⟩ := bind_eq_ok_iff.mp approved
    obtain ⟨facts, recorded⟩ := evaluationChecks_ok checked
    obtain ⟨controls, symbols⟩ := screened_evaluationChecks.moves checked
    obtain ⟨reserves, written, intents⟩ := reserveOrder_ok reserved
    refine ⟨(started.trans controls).trans written, .inl ⟨rfl, symbolIndex,
      ⟨facts.valid, facts.symbol, ?_, facts.unkilled⟩, ?_, reserves symbols⟩⟩
    · obtain ⟨exposure, projected, limits⟩ := facts.exposure
      exact ⟨exposure, projected, limits.position, limits.gross, limits.net, limits.sector,
        limits.factor, limits.credit⟩
    · rw [intents]
      exact recorded
  · rename_i rejection p refused
    obtain ⟨controls, symbols⟩ := evaluation_error refused
    exact ⟨started.trans controls, .inr ⟨by simp [Progress.rejected], symbols⟩⟩

theorem Engine.initialized_of_approves (approves : e.Approves request) : e.initialized := by
  unfold Engine.Approves evaluate at approves
  split at approves
  · cases approves
  · rename_i ready
    simpa using ready

/-! ### What the other operations write -/

theorem Engine.installLimits_cases (e : Engine) (limits : RiskLimitSnapshot) :
    ((e.installLimits limits).2 = .installed ∧ validLimitSnapshot limits ∧
      (e.installLimits limits).1 = e.installed limits) ∨
    ((e.installLimits limits).2 ≠ .installed ∧ (e.installLimits limits).1 = e) := by
  unfold installLimits
  split
  · exact .inr ⟨nofun, rfl⟩
  split
  · exact .inr ⟨nofun, rfl⟩
  split
  · refine .inr ⟨?_, rfl⟩
    split <;> nofun
  · rename_i valid _ _
    exact .inl ⟨rfl, by simpa using valid, rfl⟩

/-- An operation that maintains positions and profits. -/
def EngineAction.maintains : EngineAction → Bool
  | .evaluate _ | .installLimits _ | .updateKillSwitch _ => false
  | _ => true

theorem Engine.applyFill_cases (e : Engine) (update : FillUpdate) :
    (e.SameControls (e.applyFill update).1 ∧ (e.applyFill update).1.intentSlots = e.intentSlots) ∧
    (((e.applyFill update).2 = .applied ∧
        ¬ pendingOf (e.symbolState update.symbolIndex.toNat) update.side <
          update.releaseReservedQuantityUnits ∧
        ∃ position, (e.applyFill update).1.symbolState =
          Function.update e.symbolState update.symbolIndex.toNat
            (filledSymbol (e.symbolState update.symbolIndex.toNat) update position)) ∨
      ((e.applyFill update).2 ≠ .applied ∧ (e.applyFill update).1.symbolState = e.symbolState)) := by
  unfold applyFill
  split
  · exact ⟨⟨.refl e, rfl⟩, .inr ⟨nofun, rfl⟩⟩
  split
  · exact ⟨⟨.refl e, rfl⟩, .inr ⟨nofun, rfl⟩⟩
  dsimp only
  split
  · exact ⟨⟨.refl e, rfl⟩, .inr ⟨nofun, rfl⟩⟩
  rename_i current
  rw [Bool.or_eq_true, decide_eq_true_eq, not_or] at current
  split
  · exact ⟨⟨by constructor <;> rfl, rfl⟩, .inl ⟨rfl, current.2, _, rfl⟩⟩
  · exact ⟨⟨.refl e, rfl⟩, .inr ⟨nofun, rfl⟩⟩

/-- A snapshot that is applied and not the last one. -/
def Engine.Installs (e : Engine) (snapshot : Portfolio.PortfolioSnapshot) : Prop :=
  (e.installPortfolioSnapshot snapshot).2 = .applied ∧
    ¬ (snapshot.sequence = e.lastPortfolioSnapshotSequence ∧
      snapshot.stableHash = e.lastPortfolioSnapshotHash)

instance (e : Engine) (snapshot : Portfolio.PortfolioSnapshot) : Decidable (e.Installs snapshot) :=
  inferInstanceAs (Decidable (_ ∧ _))

theorem Engine.installPortfolioSnapshot_cases (e : Engine)
    (snapshot : Portfolio.PortfolioSnapshot) : (e.Installs snapshot ∧ ∃ instruments strategies,
      e.mapPortfolioSnapshot snapshot = some (instruments, strategies) ∧
        (e.installPortfolioSnapshot snapshot).1 =
          e.installMappedPortfolioSnapshot snapshot instruments strategies) ∨
      (¬ e.Installs snapshot ∧ (e.installPortfolioSnapshot snapshot).1 = e) := by
  unfold Engine.Installs installPortfolioSnapshot
  split
  · exact .inr ⟨by simp, rfl⟩
  split
  · exact .inr ⟨by simp, rfl⟩
  split
  · rename_i same
    exact .inr ⟨fun installs => installs.2 same, rfl⟩
  rename_i other
  split
  · exact .inr ⟨by simp, rfl⟩
  · rename_i mapped
    exact .inl ⟨⟨rfl, other⟩, _, _, mapped, rfl⟩

theorem Engine.installPortfolioSnapshot_controls (e : Engine)
    (snapshot : Portfolio.PortfolioSnapshot) :
    e.SameControls (e.installPortfolioSnapshot snapshot).1 ∧
      (e.installPortfolioSnapshot snapshot).1.intentSlots = e.intentSlots := by
  rcases e.installPortfolioSnapshot_cases snapshot with ⟨-, _, _, -, next⟩ | ⟨-, next⟩
  · rw [next]
    exact ⟨by constructor <;> rfl, rfl⟩
  · rw [next]
    exact ⟨.refl e, rfl⟩

theorem Engine.step_controls (e : Engine) {action : EngineAction} (maintains : action.maintains) :
    e.SameControls (e.step action) ∧ (e.step action).intentSlots = e.intentSlots := by
  cases action with
  | evaluate request | installLimits limits | updateKillSwitch update => cases maintains
  | seedPosition seed =>
    simp only [step, seedPosition]
    split
    · exact ⟨.refl e, rfl⟩
    split
    · exact ⟨.refl e, rfl⟩
    · exact ⟨by constructor <;> rfl, rfl⟩
  | installPortfolioSnapshot snapshot => exact e.installPortfolioSnapshot_controls snapshot
  | applyFill update => exact (e.applyFill_cases update).1
  | updateProfitLoss update =>
    simp only [step, updateProfitLoss]
    split
    · exact ⟨.refl e, rfl⟩
    split
    · exact ⟨.refl e, rfl⟩
    split
    · exact ⟨.refl e, rfl⟩
    · exact ⟨by constructor <;> rfl, rfl⟩
  | setStateAvailable available => exact ⟨by constructor <;> rfl, rfl⟩
  | popDecision =>
    simp only [step]
    split
    · exact ⟨by constructor <;> rfl, rfl⟩
    · exact ⟨.refl e, rfl⟩

theorem Engine.updateKillSwitch_cases (e : Engine) (update : KillSwitchUpdate) :
    ((e.updateKillSwitch update).2 = .applied ∧ e.initialized ∧
      (update.engaged ∨ update.operatorAuthorized) ∧
      validKillTarget update ∧
      (e.updateKillSwitch update).1 = { e.switchKill update with
        lastKillCommandSequence := update.commandSequence
        killGeneration := e.killGeneration + 1 }) ∨
    ((e.updateKillSwitch update).2 ≠ .applied ∧ (e.updateKillSwitch update).1 = e) := by
  unfold updateKillSwitch
  split
  · exact .inr ⟨nofun, rfl⟩
  split
  · exact .inr ⟨nofun, rfl⟩
  split
  · exact .inr ⟨nofun, rfl⟩
  rename_i accepted _ _
  simp only [Bool.or_eq_true, Bool.and_eq_true, Bool.not_eq_true', not_or, not_and,
    Bool.not_eq_false] at accepted
  refine .inl ⟨rfl, accepted.1.1.1, ?_, accepted.1.1.2, rfl⟩
  cases engaged : update.engaged
  · exact .inr (accepted.2 engaged)
  · exact .inl rfl

end Aegis.Risk
