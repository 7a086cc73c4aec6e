import Aegis.Foundation.Runs
import Aegis.Risk.EngineLaws
import Aegis.Risk.TestSupport

/-!
How often an intent is approved. The engine remembers the intents it has checked in a table that
new limits empty.
-/

namespace Aegis.Risk

open Aegis.Common Aegis.Foundation

section Table

variable {slots slots' : Fin kDuplicateIntentCapacity → IntentSlot} {intentId : IntentId}

@[simp] theorem intentLayout_occupied (slot : IntentSlot) :
    intentLayout.occupied slot = slot.occupied := rfl

@[simp] theorem intentLayout_key (slot : IntentSlot) : intentLayout.key slot = slot.intentId := rfl

theorem recordIntentFrom_eq (start : Fin kDuplicateIntentCapacity) (fuel offset : Nat) :
    recordIntentFrom slots intentId start fuel offset =
      match intentLayout.findFrom slots intentId start fuel offset with
      | some _ => some (true, slots)
      | none => (intentLayout.freeFrom slots start fuel offset).map fun index =>
        (false, Function.update slots index ⟨intentId, true⟩) := by
  induction fuel generalizing offset with
  | zero => rfl
  | succ fuel ih =>
    simp only [recordIntentFrom, Layout.findFrom, Layout.freeFrom, intentLayout_occupied,
      intentLayout_key]
    by_cases occupied : (slots (probe start offset)).occupied = true
    · by_cases same : (slots (probe start offset)).intentId = intentId
      · simp [occupied, same]
      · simp [occupied, same, ih]
    · simp [occupied]

theorem recordIntent_eq_new_iff : recordIntent slots intentId = some (false, slots') ↔
      intentLayout.find slots intentId = none ∧
        ∃ index, intentLayout.findFree slots intentId = some index ∧
          Function.update slots index ⟨intentId, true⟩ = slots' := by
  rw [recordIntent, recordIntentFrom_eq, Layout.find, Layout.findFree]
  cases intentLayout.findFrom slots intentId (intentLayout.bucket intentId)
    kDuplicateIntentCapacity 0 <;> simp

theorem recordIntent_eq_duplicate (duplicate : recordIntent slots intentId = some (true, slots')) :
    slots' = slots := by
  rw [recordIntent, recordIntentFrom_eq] at duplicate
  cases found : intentLayout.findFrom slots intentId (intentLayout.bucket intentId)
    kDuplicateIntentCapacity 0 with
  | none => simp [found] at duplicate
  | some index =>
    rw [found] at duplicate
    cases duplicate
    rfl

def Remembers (slots : Fin kDuplicateIntentCapacity → IntentSlot) (intentId : IntentId) : Prop :=
  ∃ index, intentLayout.find slots intentId = some index

structure Grows (slots slots' : Fin kDuplicateIntentCapacity → IntentSlot) : Prop where
  chained : intentLayout.Chained slots → intentLayout.Chained slots'
  remembers : ∀ intentId, Remembers slots intentId → Remembers slots' intentId

theorem Grows.refl (slots : Fin kDuplicateIntentCapacity → IntentSlot) : Grows slots slots :=
  ⟨id, fun _ => id⟩

theorem grows_recordIntent {duplicate : Bool}
    (recorded : recordIntent slots intentId = some (duplicate, slots')) : Grows slots slots' := by
  cases duplicate with
  | true =>
    rw [recordIntent_eq_duplicate recorded]
    exact .refl slots
  | false =>
    obtain ⟨-, index, free, rfl⟩ := recordIntent_eq_new_iff.mp recorded
    exact ⟨fun chained => chained.insert free rfl rfl,
      fun _ ⟨hit, found⟩ => ⟨hit, Layout.find_insert_of_found free found⟩⟩

theorem remembers_of_new (recorded : recordIntent slots intentId = some (false, slots')) :
    ¬ Remembers slots intentId ∧ Remembers slots' intentId := by
  obtain ⟨absent, index, free, rfl⟩ := recordIntent_eq_new_iff.mp recorded
  refine ⟨?_, index, Layout.find_insert_self free rfl rfl absent⟩
  rintro ⟨hit, found⟩
  rw [absent] at found
  cases found

end Table

section Evaluations

variable {e : Engine} {request : RiskEvaluationRequest}

def GrowsProgress (p q : Progress) : Prop :=
  Grows p.engine.intentSlots q.engine.intentSlots

instance : Std.Refl GrowsProgress := ⟨fun _ => .refl _⟩

instance : IsTrans Progress GrowsProgress :=
  ⟨fun _ _ _ now later => ⟨later.chained ∘ now.chained,
    fun intentId => later.remembers intentId ∘ now.remembers intentId⟩⟩

theorem grows_recordStep : Pipeline.Within GrowsProgress (recordStep request) := by
  intro p
  unfold recordStep
  split
  · exact refl p
  · rename_i recorded
    exact grows_recordIntent recorded

theorem SameEngine.grows {p q : Progress} (same : SameEngine p q) : GrowsProgress p q := by
  rw [GrowsProgress, same]
  exact .refl _

theorem grows_reserveOrder (symbolIndex : Nat) :
    Pipeline.Within GrowsProgress (reserveOrder e request symbolIndex) := by
  intro p
  rcases outcome : reserveOrder e request symbolIndex p with ⟨rejection | returned, q⟩
  · exact (reserveOrder_error outcome).grows
  · rw [GrowsProgress, (reserveOrder_ok outcome).2.2]
    exact .refl _

theorem grows_evaluation : Pipeline.Within GrowsProgress (evaluation e request) :=
  (within_evaluationChecks (fun _ _ same => same.grows) (fun _ _ => .refl _) grows_recordStep
    (fun _ => .refl _) (fun _ => .refl _)).bind fun _ => grows_reserveOrder _

theorem grows_evaluate (e : Engine) (request : RiskEvaluationRequest) :
    Grows e.intentSlots (e.evaluate request).1.intentSlots := by
  unfold Engine.evaluate
  split
  · exact .refl _
  split
  · exact .refl _
  unfold Engine.evaluateLocked
  dsimp only
  split
  · rename_i outcome
    exact grows_evaluation.moves outcome
  · rename_i outcome
    exact grows_evaluation.moves outcome

end Evaluations

def EngineAction.presented : EngineAction → Option IntentId
  | .evaluate request => some request.intent.intentId
  | _ => none

/-- An engine with the intents it has approved. -/
structure ApprovalHistory where
  engine : Engine
  current : List IntentId := []
  earlier : List IntentId := []

namespace ApprovalHistory

def approvals (h : ApprovalHistory) : List IntentId :=
  h.current ++ h.earlier

def step (h : ApprovalHistory) (action : EngineAction) : ApprovalHistory :=
  match action with
  | .evaluate request =>
      { h with
        engine := h.engine.step action
        current :=
          if h.engine.Approves request then request.intent.intentId :: h.current else h.current }
  | .installLimits limits =>
      if (h.engine.installLimits limits).2 = .installed then
        ⟨h.engine.step action, [], h.current ++ h.earlier⟩
      else { h with engine := h.engine.step action }
  | _ => { h with engine := h.engine.step action }

/-- No intent approved before the limits in force. -/
def Fresh (h : ApprovalHistory) (action : EngineAction) : Prop :=
  ∀ intentId ∈ action.presented, intentId ∉ h.earlier

instance (h : ApprovalHistory) (action : EngineAction) : Decidable (h.Fresh action) :=
  inferInstanceAs (Decidable (∀ intentId ∈ action.presented, intentId ∉ h.earlier))

/-- The table knows every approval under the limits in force. -/
structure Remembered (h : ApprovalHistory) : Prop where
  nodup : h.approvals.Nodup
  chained : intentLayout.Chained h.engine.intentSlots
  current : ∀ intentId ∈ h.current, Remembers h.engine.intentSlots intentId

variable {h : ApprovalHistory}

theorem Remembered.evaluate (remembered : h.Remembered) (request : RiskEvaluationRequest)
    (fresh : request.intent.intentId ∉ h.earlier) : (h.step (.evaluate request)).Remembered := by
  have grows := grows_evaluate h.engine request
  have kept : ∀ intentId ∈ h.current,
      Remembers (h.engine.evaluate request).1.intentSlots intentId :=
    fun intentId approved => grows.remembers intentId (remembered.current intentId approved)
  rcases (h.engine.evaluate_cases request).2 with ⟨approves, _, -, recorded, -⟩ | ⟨refuses, -⟩
  · -- The table did not know the intent, so it was not approved under these limits.
    obtain ⟨unknown, known⟩ := remembers_of_new recorded
    simp only [step, if_pos approves]
    refine ⟨?_, grows.chained remembered.chained, ?_⟩
    · refine List.nodup_cons.mpr ⟨fun earlier => ?_, remembered.nodup⟩
      rcases List.mem_append.mp earlier with current | before
      · exact unknown (remembered.current _ current)
      · exact fresh before
    · intro intentId mem
      rcases List.mem_cons.mp mem with rfl | before
      · exact known
      · exact kept intentId before
  · simp only [step, if_neg refuses]
    exact ⟨remembered.nodup, grows.chained remembered.chained, kept⟩

theorem Remembered.installLimits (remembered : h.Remembered)
    (limits : RiskLimitSnapshot) : (h.step (.installLimits limits)).Remembered := by
  rcases h.engine.installLimits_cases limits with ⟨done, -, next⟩ | ⟨refused, same⟩
  · simp only [step, Engine.step, if_pos done, next]
    refine ⟨remembered.nodup, fun place held => ?_, fun intentId listed => ?_⟩
    · cases held
    · cases listed
  · simp only [step, Engine.step, if_neg refused, same]
    exact remembered

/-- Every fresh operation leaves the approvals distinct. -/
theorem Remembered.step (remembered : h.Remembered) {action : EngineAction}
    (fresh : h.Fresh action) : (h.step action).Remembered := by
  have kept : (h.engine.step action).intentSlots = h.engine.intentSlots →
      ApprovalHistory.Remembered { h with engine := h.engine.step action } := by
    intro same
    exact ⟨remembered.nodup, by rw [same]; exact remembered.chained,
      by rw [same]; exact remembered.current⟩
  cases action with
  | evaluate request => exact remembered.evaluate request (fresh _ rfl)
  | installLimits limits => exact remembered.installLimits limits
  | updateKillSwitch update =>
    refine kept ?_
    rcases h.engine.updateKillSwitch_cases update with ⟨-, -, -, -, next⟩ | ⟨-, next⟩
    · simp only [Engine.step, next, Engine.switchKill]
      split <;> rfl
    · simp only [Engine.step, next]
  | _ => exact kept (h.engine.step_controls rfl).2

theorem remembered_construct (limits : RiskLimitSnapshot) :
    Remembered ⟨Engine.construct limits, [], []⟩ :=
  ⟨List.nodup_nil, nofun, nofun⟩

end ApprovalHistory

/-- Unless one is presented under later limits, no intent is approved twice. -/
theorem approved_once (limits : RiskLimitSnapshot) (actions : List EngineAction)
    (fresh : Throughout ApprovalHistory.step ApprovalHistory.Fresh ⟨Engine.construct limits, [], []⟩
      actions) :
    Always ApprovalHistory.step (fun h => h.approvals.Nodup) ⟨Engine.construct limits, [], []⟩
      actions := by
  intro before initial
  have remembered := always_of_throughout (P := ApprovalHistory.Remembered)
    (fun _ _ remembered fresh => remembered.step fresh)
    (ApprovalHistory.remembered_construct limits) fresh before initial
  exact remembered.nodup

def laterLimits : RiskLimitSnapshot :=
  TestSupport.sealed { TestSupport.limits with revision := 2 }

def reinstall : List EngineAction :=
  [.installLimits laterLimits,
   .updateKillSwitch { scope := .firm, authorityEpoch := 10, commandSequence := 1
                       engaged := false, operatorAuthorized := true },
   .setStateAvailable true] ++ TestSupport.initializeState

/-- An intent is approved, refused, and another approved later. -/
def freshRun : List EngineAction :=
  TestSupport.initializeState ++
    [.evaluate (TestSupport.request 1), .evaluate (TestSupport.request 1)] ++ reinstall ++
    [.evaluate (TestSupport.request 2)]

theorem approved_once_of_freshRun :
    (run ApprovalHistory.step ⟨Engine.construct TestSupport.limits, [], []⟩
      freshRun).approvals.length = 2 ∧
    Always ApprovalHistory.step (fun h => h.approvals.Nodup)
      ⟨Engine.construct TestSupport.limits, [], []⟩ freshRun :=
  ⟨by decide +kernel, approved_once TestSupport.limits freshRun (by decide +kernel)⟩

/-- An intent approved before and after later limits. -/
def repeatedRun : List EngineAction :=
  TestSupport.initializeState ++ [.evaluate (TestSupport.request 1)] ++ reinstall ++
    [.evaluate (TestSupport.request 1)]

/-- The later limits make the engine forget what it has approved. -/
theorem approved_twice_of_reinstall :
    ¬ (run ApprovalHistory.step ⟨Engine.construct TestSupport.limits, [], []⟩
      repeatedRun).approvals.Nodup := by
  decide +kernel

end Aegis.Risk
