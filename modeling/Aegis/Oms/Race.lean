import Aegis.Foundation.Runs
import Aegis.Oms.Lifecycle
import Mathlib.Algebra.Order.BigOperators.Group.Finset

/-!
The race of venue reports for one order, apart from the service. Reports that fit the order
commute.
-/

namespace Aegis.Oms

open Aegis.Common Aegis.Foundation Function DeterministicOms OrderView List

/-- What the venue reports. `ignored` is not acted on. -/
inductive Report where
  | ignored
  | acknowledged
  | canceled
  | filled (executionId : GlobalEventId) (quantityUnits : UInt64) (bit : UInt8)

def Report.execution : Report → Option GlobalEventId
  | .filled executionId _ _ => some executionId
  | _ => none

def OrderView.afterAcknowledgement (v : OrderView) : OrderView :=
  if v.state = .pendingAck then { v with state := .working } else v

def OrderView.afterCancel (v : OrderView) : OrderView :=
  if v.state = .canceled ∨ v.state = .filled then v
  else { v with state := .canceled, remaining := 0 }

structure Race where
  view : OrderView
  masks : GlobalEventId → Option UInt8

namespace Race

def hear (r : Race) : Report → Race
  | .ignored => r
  | .acknowledged => { r with view := r.view.afterAcknowledgement }
  | .canceled => { r with view := r.view.afterCancel }
  | .filled executionId quantityUnits bit =>
      match r.masks executionId with
      | some mask =>
          { r with masks := Function.update r.masks executionId (some (mask ||| bit)) }
      | none =>
          { view := r.view.afterFill quantityUnits
            masks := Function.update r.masks executionId (some bit) }

variable {r : Race} {executionId : GlobalEventId} {quantityUnits : UInt64} {bit : UInt8}

theorem hear_known {mask : UInt8} (known : r.masks executionId = some mask) :
    r.hear (.filled executionId quantityUnits bit) =
      { r with masks := update r.masks executionId (some (mask ||| bit)) } := by
  simp [hear, known]

theorem hear_new (new : r.masks executionId = none) :
    r.hear (.filled executionId quantityUnits bit) =
      { view := r.view.afterFill quantityUnits
        masks := update r.masks executionId (some bit) } := by
  simp [hear, new]

def newExecutions (r : Race) (reports : List Report) : Finset GlobalEventId :=
  (reports.filterMap Report.execution).toFinset.filter fun executionId => r.masks executionId = none

def racing (state : OrderState) : Bool :=
  state == .pendingAck || state == .working || state == .partiallyFilled ||
    state == .pendingCancel || state == .canceled || state == .filled

/-- An execution has one quantity, and new ones fit the order. -/
structure Ready (units : GlobalEventId → UInt64) (r : Race) (reports : List Report) : Prop where
  racing : racing r.view.state = true
  complete : r.view.state = .filled → r.view.cumulative = r.view.quantityUnits
  economics : ∀ executionId quantityUnits bit, .filled executionId quantityUnits bit ∈ reports →
    quantityUnits = units executionId ∧ quantityUnits ≠ 0
  fits : r.view.cumulative.toNat + ∑ executionId ∈ r.newExecutions reports,
    (units executionId).toNat ≤ r.view.quantityUnits.toNat

end Race

namespace OrderView

variable {v : OrderView} {first second : UInt64}

/-- The state after two fills is that after the second. -/
theorem fillTarget_fillTarget (state : OrderState) {open_ : UInt64} (rest : UInt64)
    (left : open_ ≠ 0) : fillTarget (fillTarget state open_) rest =
      fillTarget state rest := by
  unfold fillTarget
  rw [if_neg left]
  by_cases nothing : rest = 0
  · simp [nothing]
  · cases state <;> simp [nothing]

/-- Two fills in a row are one fill of both quantities. -/
theorem afterFill_afterFill (left : v.quantityUnits - (v.cumulative + first) ≠ 0) :
    (v.afterFill first).afterFill second = v.afterFill (first + second) := by
  have sum : v.cumulative + first + second = v.cumulative + (first + second) :=
    UInt64.add_assoc _ _ _
  simp only [afterFill, sum, fillTarget_fillTarget _ _ left]

theorem afterFill_state_ne_pendingAck (v : OrderView) (quantityUnits : UInt64) :
    (v.afterFill quantityUnits).state ≠ .pendingAck := by
  rcases fillTarget_cases v.state (v.quantityUnits - (v.cumulative + quantityUnits)) with
    ⟨-, target⟩ | ⟨-, target⟩
  · simp [afterFill, target]
  simp only [afterFill, target]
  split
  · rename_i state
    rcases state with h | h | h <;> simp [h]
  · simp

theorem afterAcknowledgement_afterCancel (v : OrderView) :
    v.afterCancel.afterAcknowledgement = v.afterAcknowledgement.afterCancel := by
  unfold afterAcknowledgement afterCancel
  cases state : v.state <;> simp [state]

/-- Filled before it is acknowledged is as if acknowledged before. -/
theorem afterAcknowledgement_afterFill (v : OrderView) (quantityUnits : UInt64) :
    (v.afterFill quantityUnits).afterAcknowledgement =
      v.afterAcknowledgement.afterFill quantityUnits := by
  have later := v.afterFill_state_ne_pendingAck quantityUnits
  rw [afterAcknowledgement, if_neg later]
  unfold afterAcknowledgement
  by_cases pending : v.state = .pendingAck
  · rw [if_pos pending]
    simp [afterFill, fillTarget, pending]
  · rw [if_neg pending]

/-- A fill after the cancel is as if it had come before. -/
theorem afterCancel_afterFill (quantityUnits : UInt64) (unfilled : v.state ≠ .filled) :
    (v.afterFill quantityUnits).afterCancel = v.afterCancel.afterFill quantityUnits := by
  by_cases canceled : v.state = .canceled
  · have closed : v.afterCancel = v := by simp [afterCancel, canceled]
    rw [closed]
    unfold afterCancel
    rw [if_pos]
    rcases fillTarget_cases v.state (v.quantityUnits - (v.cumulative + quantityUnits)) with
      ⟨-, target⟩ | ⟨left, -⟩
    · exact .inr target
    · exact .inl (by simp [afterFill, fillTarget, canceled, left])
  · have closed : v.afterCancel = { v with state := .canceled, remaining := 0 } := by
      simp [afterCancel, canceled, unfilled]
    rw [closed]
    rcases fillTarget_cases v.state (v.quantityUnits - (v.cumulative + quantityUnits)) with
      ⟨nothing, target⟩ | ⟨left, target⟩
    · simp [afterCancel, afterFill, nothing, fillTarget, terminalState]
    have open_ : fillTarget v.state (v.quantityUnits - (v.cumulative + quantityUnits)) ≠ .canceled ∧
        fillTarget v.state (v.quantityUnits - (v.cumulative + quantityUnits)) ≠ .filled := by
      rw [target]
      split
      · exact ⟨canceled, unfilled⟩
      · simp
    have after : fillTarget .canceled
        (v.quantityUnits - (v.cumulative + quantityUnits)) = .canceled := by
      simp [fillTarget, left]
    simp [afterCancel, afterFill, open_, after, terminalState]

end OrderView

namespace Race

variable {units : GlobalEventId → UInt64} {r : Race} {reports reports' rest : List Report}
  {executionId : GlobalEventId} {quantityUnits : UInt64} {bit : UInt8}

theorem mem_newExecutions : executionId ∈ r.newExecutions reports ↔
      executionId ∈ reports.filterMap Report.execution ∧ r.masks executionId = none := by
  simp [newExecutions]

theorem mem_newExecutions_of_filled (mem : .filled executionId quantityUnits bit ∈ reports)
    (new : r.masks executionId = none) : executionId ∈ r.newExecutions reports :=
  mem_newExecutions.mpr ⟨mem_filterMap.mpr ⟨_, mem, rfl⟩, new⟩

theorem newExecutions_perm (perm : reports.Perm reports') :
    r.newExecutions reports' = r.newExecutions reports := by
  unfold newExecutions
  rw [toFinset_eq_of_perm _ _ (perm.filterMap Report.execution)]

namespace Ready

section

variable (ready : Ready units r reports)
include ready

theorem perm (perm : reports.Perm reports') : Ready units r reports' := by
  refine ⟨ready.racing, ready.complete, fun executionId quantityUnits bit mem => ?_, ?_⟩
  · exact ready.economics executionId quantityUnits bit (perm.mem_iff.mpr mem)
  · rw [newExecutions_perm perm]
    exact ready.fits

section

variable (mem : .filled executionId quantityUnits bit ∈ reports)
include mem

theorem fits_filled (new : r.masks executionId = none) :
    r.view.cumulative.toNat + quantityUnits.toNat ≤ r.view.quantityUnits.toNat := by
  have one := Finset.single_le_sum (f := fun id => (units id).toNat) (fun _ _ => Nat.zero_le _)
    (mem_newExecutions_of_filled mem new)
  have fits := ready.fits
  rw [(ready.economics _ _ _ mem).1]
  omega

theorem fits_both {other : GlobalEventId} {otherUnits : UInt64} {otherBit : UInt8}
    (mem' : .filled other otherUnits otherBit ∈ reports) (apart : executionId ≠ other)
    (new : r.masks executionId = none) (new' : r.masks other = none) :
    r.view.cumulative.toNat + quantityUnits.toNat + otherUnits.toNat ≤
      r.view.quantityUnits.toNat := by
  have pair : ({executionId, other} : Finset GlobalEventId) ⊆ r.newExecutions reports := by
    intro id member
    rcases Finset.mem_insert.mp member with rfl | member
    · exact mem_newExecutions_of_filled mem new
    · rw [Finset.mem_singleton.mp member]
      exact mem_newExecutions_of_filled mem' new'
  have both := Finset.sum_le_sum_of_subset (f := fun id => (units id).toNat) pair
  rw [Finset.sum_pair apart] at both
  have fits := ready.fits
  rw [(ready.economics _ _ _ mem).1, (ready.economics _ _ _ mem').1]
  omega

theorem positive : 0 < quantityUnits.toNat := by
  have nonzero := (ready.economics _ _ _ mem).2
  rw [Nat.pos_iff_ne_zero, ne_eq, ← UInt64.toNat_zero, UInt64.toNat_inj]
  exact nonzero

theorem not_filled (new : r.masks executionId = none) : r.view.state ≠ .filled := by
  intro filled
  have fits := ready.fits_filled mem new
  have positive := ready.positive mem
  rw [ready.complete filled] at fits
  omega

end

end

theorem of_view (ready : Ready units r rest) {view : OrderView} (racing : Race.racing view.state)
    (complete : view.state = .filled → r.view.state = .filled)
    (cumulative : view.cumulative = r.view.cumulative)
    (quantity : view.quantityUnits = r.view.quantityUnits) : Ready units { r with view } rest := by
  refine ⟨racing, fun filled => ?_, ready.economics, ?_⟩
  · rw [cumulative, quantity]
    exact ready.complete (complete filled)
  · rw [cumulative, quantity]
    exact ready.fits

theorem tail {report : Report} (ready : Ready units r (report :: rest)) : Ready units r rest := by
  refine ⟨ready.racing, ready.complete, fun id quantity bit mem => ?_, ?_⟩
  · exact ready.economics id quantity bit (mem_cons_of_mem _ mem)
  have subset : r.newExecutions rest ⊆ r.newExecutions (report :: rest) := by
    intro id member
    obtain ⟨reported, new⟩ := mem_newExecutions.mp member
    refine mem_newExecutions.mpr ⟨?_, new⟩
    rw [filterMap_cons]
    split
    · exact reported
    · exact mem_cons_of_mem _ reported
  have fewer := Finset.sum_le_sum_of_subset (f := fun id => (units id).toNat) subset
  have fits := ready.fits
  omega

theorem fits_rest (ready : Ready units r (.filled executionId quantityUnits bit :: rest))
    (new : r.masks executionId = none) {masks : GlobalEventId → Option UInt8}
    (recorded : masks = update r.masks executionId (some bit)) (view : OrderView) :
    r.view.cumulative.toNat + quantityUnits.toNat +
        ∑ id ∈ newExecutions ⟨view, masks⟩ rest, (units id).toNat ≤
      r.view.quantityUnits.toNat := by
  have absent : executionId ∉ newExecutions ⟨view, masks⟩ rest := by
    intro member
    have unrecorded := (mem_newExecutions.mp member).2
    simp [recorded] at unrecorded
  have subset : insert executionId (newExecutions ⟨view, masks⟩ rest) ⊆
      r.newExecutions (.filled executionId quantityUnits bit :: rest) := by
    intro id member
    rcases Finset.mem_insert.mp member with rfl | member
    · exact mem_newExecutions_of_filled mem_cons_self new
    obtain ⟨reported, unrecorded⟩ := mem_newExecutions.mp member
    refine mem_newExecutions.mpr ⟨mem_cons_of_mem _ reported, ?_⟩
    have ne : id ≠ executionId := by
      rintro eq
      exact absent (eq ▸ member)
    simpa [recorded, ne] using unrecorded
  have sum := Finset.sum_le_sum_of_subset (f := fun id => (units id).toNat) subset
  rw [Finset.sum_insert absent, ← (ready.economics _ _ _ mem_cons_self).1] at sum
  have fits := ready.fits
  omega

theorem hear {report : Report} (ready : Ready units r (report :: rest)) :
    Ready units (r.hear report) rest := by
  have later := ready.tail
  have racing := ready.racing
  cases report with
  | ignored => exact later
  | acknowledged =>
    show Ready units { r with view := r.view.afterAcknowledgement } rest
    unfold afterAcknowledgement
    by_cases pending : r.view.state = .pendingAck
    · rw [if_pos pending]
      exact later.of_view rfl (by simp) rfl rfl
    · rw [if_neg pending]
      exact later
  | canceled =>
    show Ready units { r with view := r.view.afterCancel } rest
    unfold afterCancel
    by_cases settled : r.view.state = .canceled ∨ r.view.state = .filled
    · rw [if_pos settled]
      exact later
    · rw [if_neg settled]
      exact later.of_view rfl (by simp) rfl rfl
  | filled executionId quantityUnits bit =>
    cases known : r.masks executionId with
    | some mask =>
      rw [hear_known known]
      have same : newExecutions
          { r with masks := update r.masks executionId (some (mask ||| bit)) } rest =
            r.newExecutions rest := by
        ext id
        rw [mem_newExecutions, mem_newExecutions]
        by_cases eq : id = executionId
        · subst eq
          simp [known]
        · simp [eq]
      refine ⟨later.racing, later.complete, later.economics, ?_⟩
      rw [same]
      exact later.fits
    | none =>
      rw [hear_new known]
      have fits := ready.fits_filled mem_cons_self known
      have unfilled := ready.not_filled mem_cons_self known
      refine ⟨?_, ?_, later.economics, ?_⟩
      · rcases fillTarget_cases r.view.state
            (r.view.quantityUnits - (r.view.cumulative + quantityUnits)) with
          ⟨-, target⟩ | ⟨-, target⟩
        · simp [afterFill, target, Race.racing]
        simp only [afterFill, target]
        split
        · exact racing
        · rfl
      · intro filled
        apply (afterFill_complete fits).mp
        by_contra left
        simp only [afterFill, fillTarget, if_neg left] at filled
        split at filled
        · exact unfilled filled
        · cases filled
      · have restFits := ready.fits_rest known rfl (r.view.afterFill quantityUnits)
        rw [toNat_cumulative_afterFill fits]
        exact restFits

end Ready

section Commute

variable {other : GlobalEventId} {otherUnits : UInt64} {otherBit : UInt8}

theorem hear_filled_comm {report : Report} {f : OrderView → OrderView}
    (alone : ∀ r : Race, r.hear report = { r with view := f r.view })
    (comm : r.masks executionId = none →
      f (r.view.afterFill quantityUnits) = (f r.view).afterFill quantityUnits) :
    (r.hear report).hear (.filled executionId quantityUnits bit) =
      (r.hear (.filled executionId quantityUnits bit)).hear report := by
  rw [alone, alone]
  cases known : r.masks executionId with
  | some mask =>
    have known' : Race.masks ⟨f r.view, r.masks⟩ executionId = some mask := known
    rw [hear_known known, hear_known known']
  | none =>
    have known' : Race.masks ⟨f r.view, r.masks⟩ executionId = none := known
    rw [hear_new known, hear_new known']
    simp only [comm known]

/-- It does not matter which report of an execution is credited. -/
theorem hear_filled_same (quantities : quantityUnits = otherUnits) :
    (r.hear (.filled executionId quantityUnits bit)).hear
        (.filled executionId otherUnits otherBit) =
      (r.hear (.filled executionId otherUnits otherBit)).hear
        (.filled executionId quantityUnits bit) := by
  subst quantities
  have recorded : ∀ (view : OrderView) (mask : UInt8),
      Race.masks ⟨view, update r.masks executionId (some mask)⟩ executionId =
        some mask := by
    simp
  cases known : r.masks executionId with
  | some mask =>
    rw [hear_known known, hear_known known, hear_known (recorded _ _), hear_known (recorded _ _)]
    simp only [update_idem, UInt8.or_assoc, UInt8.or_comm bit otherBit]
  | none =>
    rw [hear_new known, hear_new known, hear_known (recorded _ _), hear_known (recorded _ _)]
    simp only [update_idem, UInt8.or_comm bit otherBit]

theorem hear_filled_apart (apart : executionId ≠ other)
    (fits : r.masks executionId = none → r.masks other = none →
      (r.view.afterFill quantityUnits).afterFill otherUnits =
        (r.view.afterFill otherUnits).afterFill quantityUnits) :
    (r.hear (.filled executionId quantityUnits bit)).hear (.filled other otherUnits otherBit) =
      (r.hear (.filled other otherUnits otherBit)).hear
        (.filled executionId quantityUnits bit) := by
  have kept : ∀ (view : OrderView) (mask : Option UInt8),
      Race.masks ⟨view, update r.masks executionId mask⟩ other = r.masks other := by
    simp [apart.symm]
  have kept' : ∀ (view : OrderView) (mask : Option UInt8),
      Race.masks ⟨view, update r.masks other mask⟩ executionId = r.masks executionId := by
    simp [apart]
  cases known : r.masks executionId with
  | some mask =>
    cases known' : r.masks other with
    | some mask' =>
      rw [hear_known known, hear_known known', hear_known ((kept _ _).trans known'),
        hear_known ((kept' _ _).trans known)]
      simp only [update_comm apart]
    | none =>
      rw [hear_known known, hear_new known', hear_new ((kept _ _).trans known'),
        hear_known ((kept' _ _).trans known)]
      simp only [update_comm apart]
  | none =>
    cases known' : r.masks other with
    | some mask' =>
      rw [hear_new known, hear_known known', hear_known ((kept _ _).trans known'),
        hear_new ((kept' _ _).trans known)]
      simp only [update_comm apart]
    | none =>
      rw [hear_new known, hear_new known', hear_new ((kept _ _).trans known'),
        hear_new ((kept' _ _).trans known)]
      simp only [update_comm apart, fits known known']

end Commute

namespace Ready

theorem left_open (ready : Ready units r reports) {other : GlobalEventId} {otherUnits : UInt64}
    {otherBit : UInt8} (mem : .filled executionId quantityUnits bit ∈ reports)
    (mem' : .filled other otherUnits otherBit ∈ reports) (apart : executionId ≠ other)
    (new : r.masks executionId = none) (new' : r.masks other = none) :
    r.view.quantityUnits - (r.view.cumulative + quantityUnits) ≠ 0 := by
  intro nothing
  have fits := ready.fits_filled mem new
  have both := ready.fits_both mem mem' apart new new'
  have positive := ready.positive mem'
  have total := toNat_cumulative_afterFill fits
  have full := (afterFill_complete fits).mp nothing
  simp only [afterFill, full] at total
  omega

theorem hear_comm {first second : Report} (ready : Ready units r (first :: second :: rest)) :
    (r.hear first).hear second = (r.hear second).hear first := by
  have head : first ∈ first :: second :: rest := mem_cons_self
  have next : second ∈ first :: second :: rest := mem_cons_of_mem _ mem_cons_self
  have acknowledged : ∀ executionId quantityUnits bit,
      (r.hear .acknowledged).hear (.filled executionId quantityUnits bit) =
        (r.hear (.filled executionId quantityUnits bit)).hear .acknowledged :=
    fun _ quantityUnits _ => hear_filled_comm (fun _ => rfl) fun _ =>
      r.view.afterAcknowledgement_afterFill quantityUnits
  have canceled : ∀ executionId quantityUnits bit,
      .filled executionId quantityUnits bit ∈ first :: second :: rest →
      (r.hear .canceled).hear (.filled executionId quantityUnits bit) =
        (r.hear (.filled executionId quantityUnits bit)).hear .canceled :=
    fun _ quantityUnits _ mem => hear_filled_comm (fun _ => rfl) fun new =>
      afterCancel_afterFill quantityUnits (ready.not_filled mem new)
  have closed : (r.hear .acknowledged).hear .canceled = (r.hear .canceled).hear .acknowledged := by
    simp only [Race.hear, afterAcknowledgement_afterCancel]
  cases first with
  | ignored => rfl
  | acknowledged =>
    cases second with
    | ignored | acknowledged => rfl
    | canceled => exact closed
    | filled executionId quantityUnits bit => exact acknowledged _ _ _
  | canceled =>
    cases second with
    | ignored | canceled => rfl
    | acknowledged => exact closed.symm
    | filled executionId quantityUnits bit => exact canceled _ _ _ next
  | filled executionId quantityUnits bit =>
    cases second with
    | ignored => rfl
    | acknowledged => exact (acknowledged _ _ _).symm
    | canceled => exact (canceled _ _ _ head).symm
    | filled other otherUnits otherBit =>
      by_cases same : executionId = other
      · subst same
        refine hear_filled_same ?_
        rw [(ready.economics _ _ _ head).1, (ready.economics _ _ _ next).1]
      · refine hear_filled_apart same fun new new' => ?_
        rw [afterFill_afterFill (ready.left_open head next same new new'),
          afterFill_afterFill (ready.left_open next head (Ne.symm same) new' new),
          UInt64.add_comm]

end Ready

/-- The outcome does not depend on the order of the reports. -/
theorem run_hear_perm (ready : Ready units r reports)
    (perm : reports.Perm reports') : run hear r reports = run hear r reports' := by
  refine run_eq_of_perm ?_ ?_ ?_ perm ready
  · exact fun _ _ _ perm ready => ready.perm perm
  · exact fun _ _ _ ready => ready.hear
  · exact fun _ _ _ _ ready => ready.hear_comm

end Race

end Aegis.Oms
