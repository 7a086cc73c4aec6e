import Aegis.Oms.Handlers

/-!
The life of one order, apart from the tables: `OrderEvent` lists what can happen to it and `Step`
says how.
-/

namespace Aegis.Oms

open DeterministicOms

/-! ### Reading the transition table

One line for each input kind that the handlers ask about. -/

section Transitions

variable {origin target : OrderState}

theorem transitionAllowed_markReady :
    transitionAllowed origin .markReady target ↔ origin = .created ∧ target = .ready := by
  cases origin <;> cases target <;> decide

theorem transitionAllowed_dispatch :
    transitionAllowed origin .dispatch target ↔ origin = .ready ∧ target = .pendingAck := by
  cases origin <;> cases target <;> decide

theorem transitionAllowed_cancelIntent : transitionAllowed origin .cancelIntent target ↔
      (origin = .pendingAck ∨ origin = .working ∨ origin = .partiallyFilled ∨
        origin = .pendingReplace) ∧ target = .pendingCancel := by
  cases origin <;> cases target <;> decide

theorem transitionAllowed_replaceIntent : transitionAllowed origin .replaceIntent target ↔
      (origin = .working ∨ origin = .partiallyFilled) ∧ target = .pendingReplace := by
  cases origin <;> cases target <;> decide

theorem transitionAllowed_acknowledgement : transitionAllowed origin .acknowledgement target ↔
      (origin = .pendingAck ∧ target = .working) ∨
        (origin = .partiallyFilled ∨ origin = .pendingCancel ∨ origin = .pendingReplace) ∧
          target = origin := by
  cases origin <;> cases target <;> decide

theorem transitionAllowed_rejection : transitionAllowed origin .rejection target ↔
      origin = .pendingAck ∧ target = .rejected := by
  cases origin <;> cases target <;> decide

theorem transitionAllowed_fill : transitionAllowed origin .fill target ↔
      ((origin = .pendingAck ∨ origin = .working ∨ origin = .partiallyFilled) ∧
          (target = .partiallyFilled ∨ target = .filled)) ∨
        ((origin = .pendingCancel ∨ origin = .pendingReplace ∨ origin = .canceled) ∧
          (target = origin ∨ target = .filled)) ∨
        (origin = .unknownRecovery ∧ target = .unknownRecovery) := by
  cases origin <;> cases target <;> decide

theorem transitionAllowed_cancelAcknowledgement :
    transitionAllowed origin .cancelAcknowledgement target ↔
      ((origin = .pendingAck ∨ origin = .working ∨ origin = .partiallyFilled ∨
          origin = .pendingCancel ∨ origin = .pendingReplace) ∧ target = .canceled) ∨
        (origin = .filled ∧ target = .filled) := by
  cases origin <;> cases target <;> decide

theorem transitionAllowed_cancelRejection : transitionAllowed origin .cancelRejection target ↔
      origin = .pendingCancel ∧ (target = .working ∨ target = .partiallyFilled) := by
  cases origin <;> cases target <;> decide

theorem transitionAllowed_replaceAcknowledgement :
    transitionAllowed origin .replaceAcknowledgement target ↔ origin = .pendingReplace ∧
        (target = .working ∨ target = .partiallyFilled ∨ target = .filled) := by
  cases origin <;> cases target <;> decide

theorem transitionAllowed_replaceRejection : transitionAllowed origin .replaceRejection target ↔
      origin = .pendingReplace ∧ (target = .working ∨ target = .partiallyFilled) := by
  cases origin <;> cases target <;> decide

theorem transitionAllowed_expire : transitionAllowed origin .expire target ↔
      (origin = .created ∨ origin = .ready ∨ origin = .pendingAck ∨ origin = .working ∨
        origin = .partiallyFilled) ∧ target = .expired := by
  cases origin <;> cases target <;> decide

theorem transitionAllowed_recoveryBegin : transitionAllowed origin .recoveryBegin target ↔
      (liveState origin ∨ origin = .unknownRecovery) ∧ target = .unknownRecovery := by
  cases origin <;> cases target <;> decide

theorem transitionAllowed_recoveryObservation :
    transitionAllowed origin .recoveryObservation target ↔ origin = .unknownRecovery ∧
        (target = .working ∨ target = .partiallyFilled ∨ terminalState target ∨
          target = .unknownRecovery) := by
  cases origin <;> cases target <;> decide

theorem fillTarget_cases (state : OrderState) (remaining : UInt64) :
    remaining = 0 ∧ fillTarget state remaining = .filled ∨
      remaining ≠ 0 ∧ fillTarget state remaining =
        if state = .pendingCancel ∨ state = .pendingReplace ∨ state = .canceled then state
        else .partiallyFilled := by
  by_cases nothing : remaining = 0
  · exact .inl ⟨nothing, if_pos nothing⟩
  · exact .inr ⟨nothing, if_neg nothing⟩

end Transitions

/-- The economic content of an order. -/
@[ext]
structure OrderView where
  state : OrderState
  priceTicks : Int64
  quantityUnits : UInt64
  cumulative : UInt64
  remaining : UInt64
  pendingPriceTicks : Int64
  pendingQuantityUnits : UInt64

namespace OmsOrderSnapshot

def view (order : OmsOrderSnapshot) : OrderView where
  state := order.state
  priceTicks := order.priceTicks
  quantityUnits := order.quantityUnits
  cumulative := order.cumulativeFillQuantityUnits
  remaining := order.remainingQuantityUnits
  pendingPriceTicks := order.pendingReplacePriceTicks
  pendingQuantityUnits := order.pendingReplaceQuantityUnits

@[simp] theorem view_lost (order : OmsOrderSnapshot) (input : OmsInput) :
    (order.lost input).view = { order.view with state := .unknownRecovery } := rfl

end OmsOrderSnapshot

inductive OrderEvent where
  /-- Bookkeeping only. -/
  | kept
  | marked
  | dispatched
  | cancelRequested
  | replaceRequested (priceTicks : Int64) (quantityUnits : UInt64)
  | acknowledged
  | rejected
  /-- A contradiction takes the order out of service. -/
  | lost
  | filled (quantityUnits : UInt64)
  | canceled
  | cancelRefused
  | replaced
  | replaceRefused
  | expired
  /-- Restart or a new authority takes a live order out of service. -/
  | withdrawn
  | observed (observation : RecoveryObservation) (quantityUnits : UInt64)

namespace OrderView

/-- `state_for_open_quantity`. -/
def openState (v : OrderView) : OrderState :=
  if v.cumulative = 0 then .working else .partiallyFilled

def afterFill (v : OrderView) (quantityUnits : UInt64) : OrderView :=
  let cumulative := v.cumulative + quantityUnits
  let remaining := v.quantityUnits - cumulative
  let state := DeterministicOms.fillTarget v.state remaining
  { v with
    state
    cumulative
    remaining := if terminalState state then 0 else remaining }

def afterObservation (v : OrderView) (observation : RecoveryObservation)
    (quantityUnits : UInt64) : OrderView :=
  match observation with
  | .working => { v with state := v.openState }
  | .partiallyFilled =>
      { v with
        state := .partiallyFilled
        cumulative := quantityUnits
        remaining := v.quantityUnits - quantityUnits }
  | .filled => { v with state := .filled, cumulative := v.quantityUnits, remaining := 0 }
  | .canceled => { v with state := .canceled, remaining := 0 }
  | .rejected => { v with state := .rejected, remaining := 0 }
  | .expired => { v with state := .expired, remaining := 0 }
  | _ => v

end OrderView

inductive Step : OrderView → OrderEvent → OrderView → Prop where
  | kept {v} : Step v .kept v
  | marked {v} (created : v.state = .created) : Step v .marked { v with state := .ready }
  | dispatched {v} (ready : v.state = .ready) : Step v .dispatched { v with state := .pendingAck }
  | cancelRequested {v}
      (origin : v.state = .pendingAck ∨ v.state = .working ∨ v.state = .partiallyFilled ∨
        v.state = .pendingReplace) :
      Step v .cancelRequested
        { v with state := .pendingCancel, pendingPriceTicks := 0, pendingQuantityUnits := 0 }
  | replaceRequested {v} (priceTicks : Int64) (quantityUnits : UInt64)
      (origin : v.state = .working ∨ v.state = .partiallyFilled)
      (room : v.cumulative < quantityUnits) :
      Step v (.replaceRequested priceTicks quantityUnits)
        { v with
          state := .pendingReplace
          pendingPriceTicks := priceTicks
          pendingQuantityUnits := quantityUnits }
  | acknowledged {v} (pending : v.state = .pendingAck) :
      Step v .acknowledged { v with state := .working }
  | rejected {v} (pending : v.state = .pendingAck) :
      Step v .rejected { v with state := .rejected, remaining := 0 }
  | lost {v} : Step v .lost { v with state := .unknownRecovery }
  | filled {v} (quantityUnits : UInt64)
      (fits : v.cumulative.toNat + quantityUnits.toNat ≤ v.quantityUnits.toNat)
      (allowed : transitionAllowed v.state .fill (v.afterFill quantityUnits).state = true)
      (known : v.state ≠ .unknownRecovery) :
      Step v (.filled quantityUnits) (v.afterFill quantityUnits)
  | canceled {v}
      (origin : v.state = .pendingAck ∨ v.state = .working ∨ v.state = .partiallyFilled ∨
        v.state = .pendingCancel ∨ v.state = .pendingReplace) :
      Step v .canceled { v with state := .canceled, remaining := 0 }
  | cancelRefused {v} (pending : v.state = .pendingCancel) :
      Step v .cancelRefused { v with state := v.openState }
  | replaced {v} (pending : v.state = .pendingReplace) (priced : 0 < v.pendingPriceTicks)
      (room : v.cumulative < v.pendingQuantityUnits) :
      Step v .replaced
        { v with
          state := v.openState
          priceTicks := v.pendingPriceTicks
          quantityUnits := v.pendingQuantityUnits
          remaining := v.pendingQuantityUnits - v.cumulative
          pendingPriceTicks := 0
          pendingQuantityUnits := 0 }
  | replaceRefused {v} (pending : v.state = .pendingReplace) :
      Step v .replaceRefused
        { v with state := v.openState, pendingPriceTicks := 0, pendingQuantityUnits := 0 }
  | expired {v}
      (origin : v.state = .created ∨ v.state = .ready ∨ v.state = .pendingAck ∨
        v.state = .working ∨ v.state = .partiallyFilled) :
      Step v .expired { v with state := .expired, remaining := 0 }
  | withdrawn {v} (origin : liveState v.state = true ∨ v.state = .unknownRecovery) :
      Step v .withdrawn { v with state := .unknownRecovery }
  | observed {v} (observation : RecoveryObservation) (quantityUnits : UInt64)
      (unknown : v.state = .unknownRecovery)
      (partiallyFilled : observation = .partiallyFilled →
        quantityUnits ≠ 0 ∧ quantityUnits < v.quantityUnits) :
      Step v (.observed observation quantityUnits) (v.afterObservation observation quantityUnits)

namespace OrderView

/-- The part of `valid_order_snapshot` that events keep. -/
structure Sound (v : OrderView) : Prop where
  priced : 0 < v.priceTicks
  sized : v.quantityUnits ≠ 0
  bounded : v.cumulative ≤ v.quantityUnits
  complete : v.state = .filled → v.cumulative = v.quantityUnits

/-- The part of `valid_order_snapshot` about what remains. -/
def Balanced (v : OrderView) : Prop :=
  if v.state = .filled then v.cumulative = v.quantityUnits ∧ v.remaining = 0
  else if terminalState v.state then v.remaining = 0
  else v.remaining = v.quantityUnits - v.cumulative

theorem openState_eq (v : OrderView) : v.openState = .working ∨ v.openState = .partiallyFilled := by
  unfold openState
  split
  · exact .inl rfl
  · exact .inr rfl

variable {v : OrderView} {quantityUnits : UInt64}

section

variable (fits : v.cumulative.toNat + quantityUnits.toNat ≤ v.quantityUnits.toNat)
include fits

theorem toNat_cumulative_afterFill :
    (v.afterFill quantityUnits).cumulative.toNat = v.cumulative.toNat + quantityUnits.toNat := by
  have width := v.quantityUnits.toNat_lt
  simp only [afterFill, UInt64.toNat_add]
  exact Nat.mod_eq_of_lt (by omega)

theorem afterFill_complete :
    v.quantityUnits - (v.cumulative + quantityUnits) = 0 ↔
      v.cumulative + quantityUnits = v.quantityUnits := by
  have sum := toNat_cumulative_afterFill fits
  simp only [afterFill] at sum
  have le : v.cumulative + quantityUnits ≤ v.quantityUnits := by
    rw [UInt64.le_iff_toNat_le, sum]
    exact fits
  rw [← UInt64.toNat_inj, ← UInt64.toNat_inj, UInt64.toNat_sub_of_le _ _ le, UInt64.toNat_zero]
  omega

/-- A fill leaves an order filled only if it fills it. -/
theorem cumulative_of_afterFill_filled (filled : (v.afterFill quantityUnits).state = .filled) :
    (v.afterFill quantityUnits).cumulative = v.quantityUnits := by
  by_cases nothing : v.quantityUnits - (v.cumulative + quantityUnits) = 0
  · exact (afterFill_complete fits).mp nothing
  simp only [afterFill, DeterministicOms.fillTarget, if_neg nothing] at filled
  split at filled <;> simp_all

end

end OrderView

section Laws

variable {v v' : OrderView} {event : OrderEvent}

/-- Every event keeps the price, the size and the bound, and fills an order only in full. -/
theorem Step.sound (step : Step v event v') (sound : v.Sound) : v'.Sound := by
  obtain ⟨priced, sized, bounded, complete⟩ := sound
  have openUnfilled : v.openState ≠ .filled := by
    rcases v.openState_eq with state | state <;> simp [state]
  cases step with
  | kept => exact ⟨priced, sized, bounded, complete⟩
  | filled quantityUnits fits allowed known =>
    refine ⟨priced, sized, ?_, OrderView.cumulative_of_afterFill_filled fits⟩
    rw [UInt64.le_iff_toNat_le, OrderView.toNat_cumulative_afterFill fits]
    exact fits
  | replaced pending positive room =>
    refine ⟨positive, ?_, UInt64.le_of_lt room, fun filled => absurd filled openUnfilled⟩
    intro (zero : v.pendingQuantityUnits = 0)
    exact UInt64.not_lt_zero (zero ▸ room)
  | cancelRefused | replaceRefused =>
    exact ⟨priced, sized, bounded, fun filled => absurd filled openUnfilled⟩
  | observed observation quantityUnits unknown partiallyFilled =>
    cases observation with
    | partiallyFilled =>
      exact ⟨priced, sized, UInt64.le_of_lt (partiallyFilled rfl).2, nofun⟩
    | filled => exact ⟨priced, sized, UInt64.le_refl _, fun _ => rfl⟩
    | working => exact ⟨priced, sized, bounded, fun filled => absurd filled openUnfilled⟩
    | canceled | rejected | expired => exact ⟨priced, sized, bounded, nofun⟩
    | _ => exact ⟨priced, sized, bounded, complete⟩
  | _ => exact ⟨priced, sized, bounded, nofun⟩

theorem OrderView.balanced_of_open (nonterminal : terminalState v.state = false) :
    v.Balanced ↔ v.remaining = v.quantityUnits - v.cumulative := by
  have notFilled : v.state ≠ .filled := by
    rintro filled
    simp [filled, terminalState] at nonterminal
  simp [Balanced, notFilled, nonterminal]

theorem OrderView.balanced_afterFill {quantityUnits : UInt64}
    (fits : v.cumulative.toNat + quantityUnits.toNat ≤ v.quantityUnits.toNat) :
    (v.afterFill quantityUnits).Balanced := by
  by_cases nothing : v.quantityUnits - (v.cumulative + quantityUnits) = 0
  · have full := (afterFill_complete fits).mp nothing
    simp [Balanced, afterFill, fillTarget, full, terminalState]
  have notFilled : (v.afterFill quantityUnits).state ≠ .filled := by
    intro filled
    exact nothing ((afterFill_complete fits).mpr (cumulative_of_afterFill_filled fits filled))
  unfold Balanced
  split <;> simp_all [afterFill]

/-- What remains stays in step with the state, unless an ended order is reopened. -/
theorem Step.balanced (step : Step v event v') (balanced : v.Balanced)
    (settled : event = .lost → terminalState v.state → v.cumulative = v.quantityUnits) :
    v'.Balanced := by
  have openNonterminal : terminalState v.openState = false := by
    rcases v.openState_eq with h | h <;> simp [h, terminalState]
  -- A step between nonterminal states that keeps the three quantities.
  have carry : ∀ w : OrderView, terminalState v.state = false → terminalState w.state = false →
      w.quantityUnits = v.quantityUnits → w.cumulative = v.cumulative →
      w.remaining = v.remaining → w.Balanced := by
    intro w before after quantity cumulative remaining
    rw [OrderView.balanced_of_open after, quantity, cumulative, remaining]
    exact (OrderView.balanced_of_open before).mp balanced
  cases step with
  | kept => exact balanced
  | marked created => exact carry _ (by simp [created, terminalState]) rfl rfl rfl rfl
  | dispatched ready => exact carry _ (by simp [ready, terminalState]) rfl rfl rfl rfl
  | cancelRequested origin =>
    exact carry _ (by rcases origin with h | h | h | h <;> simp [h, terminalState]) rfl rfl rfl rfl
  | replaceRequested priceTicks quantityUnits origin room =>
    exact carry _ (by rcases origin with h | h <;> simp [h, terminalState]) rfl rfl rfl rfl
  | acknowledged pending => exact carry _ (by simp [pending, terminalState]) rfl rfl rfl rfl
  | lost =>
    by_cases terminal : terminalState v.state
    · have full := settled rfl terminal
      have noneLeft : v.remaining = 0 := by
        unfold OrderView.Balanced at balanced
        split at balanced
        · exact balanced.2
        · simpa [terminal] using balanced
      rw [OrderView.balanced_of_open rfl]
      simp [full, noneLeft]
    · exact carry _ (by simpa using terminal) rfl rfl rfl rfl
  | filled quantityUnits fits allowed known => exact OrderView.balanced_afterFill fits
  | cancelRefused pending | replaceRefused pending =>
    exact carry _ (by simp [pending, terminalState]) openNonterminal rfl rfl rfl
  | replaced pending positive room => exact (OrderView.balanced_of_open openNonterminal).mpr rfl
  | withdrawn origin =>
    refine carry _ ?_ rfl rfl rfl rfl
    rcases origin with live | unknown
    · simp_all [liveState]
    · simp [unknown, terminalState]
  | observed observation quantityUnits unknown partiallyFilled =>
    cases observation with
    | working => exact carry _ (by simp [unknown, terminalState]) openNonterminal rfl rfl rfl
    | partiallyFilled => exact (OrderView.balanced_of_open rfl).mpr rfl
    | _ => first | exact balanced | simp [OrderView.Balanced, OrderView.afterObservation,
        terminalState]
  | rejected | canceled | expired => simp [OrderView.Balanced, terminalState]

end Laws

end Aegis.Oms
