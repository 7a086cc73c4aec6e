import Aegis.Execution.VenueChoice
import Aegis.Foundation.Runs
import Mathlib.Algebra.BigOperators.Group.Finset.Basic

/-!
How much the router routes. Only the volume-weighted slice counts what is scheduled: with orders
in flight the others may ask for shares that are scheduled already.
-/

namespace Aegis.Routing

open Aegis.Common Aegis.Foundation
open UInt64 (le_iff_toNat_le toNat_sub_of_le toNat_div)

variable {r : SmartOrderRouter} {configuration : RouterConfiguration} {request : RoutingRequest}
  {rule : VenueRoutingRule} {observation : VenueObservation} {slice limit quantity : UInt64}

variable {left right divisor result : UInt64}

theorem toNat_of_multiplyDivide (computed : multiplyDivide left right divisor = some result) :
    result.toNat = left.toNat * right.toNat / divisor.toNat := by
  unfold multiplyDivide at computed
  split at computed
  · cases computed
  next nonzero =>
  have positive := toNat_pos nonzero
  split at computed
  · next whole product wholeEq productEq =>
    have wholeValue := exactMul_eq_some_iff.mp wholeEq
    have productValue := exactMul_eq_some_iff.mp productEq
    rw [toNat_div] at wholeValue
    rw [UInt64.toNat_mod] at productValue
    rw [toNat_of_exactAdd computed, toNat_div, wholeValue, productValue]
    conv_rhs => rw [← Nat.div_add_mod left.toNat divisor.toNat, Nat.add_mul, Nat.mul_assoc]
    rw [Nat.mul_add_div positive]
  · cases computed

theorem ceilDiv_le_self (dividend : Nat) {divisor : Nat} (positive : 0 < divisor) :
    dividend ⌈/⌉ divisor ≤ dividend :=
  (ceilDiv_le_iff_le_smul positive).mpr (Nat.le_mul_of_pos_left _ positive)

theorem toNat_timeShare (counted : divisor ≠ 0) :
    (left / divisor + if left % divisor = 0 then 0 else 1).toNat =
      left.toNat ⌈/⌉ divisor.toNat := by
  have positive := toNat_pos counted
  have least := Nat.lt_of_le_of_lt (ceilDiv_le_self left.toNat positive) left.toNat_lt
  rw [ceilDiv_eq_div_add positive] at least ⊢
  by_cases even : left % divisor = 0
  · rw [if_pos even, if_pos (mod_eq_zero_iff.mp even), UInt64.add_zero, toNat_div, Nat.add_zero]
  · rw [if_neg (mt mod_eq_zero_iff.mpr even)] at least ⊢
    rw [if_neg even, UInt64.toNat_add, toNat_div]
    exact Nat.mod_eq_of_lt least

/-- The share of a child that the policy asks for. -/
def policyTarget (request : RoutingRequest) (child : Nat) : Nat :=
  let objective := request.objective
  match objective.policy with
  | .participation | .pov => min child (request.marketVolumeSinceLastSliceUnits.toNat *
      objective.participationRatePpm.toNat / 1000000)
  | .twap => min child (objective.remaining.toNat ⌈/⌉ (sliceCount request).toNat)
  | .vwap => min child (objective.totalQuantityUnits.toNat *
      request.targetCumulativeVolumeCurvePpm.toNat / 1000000 -
        (objective.filledQuantityUnits.toNat + request.alreadyScheduledQuantityUnits.toNat))
  | .cancelReplace => min child request.workingOrder.remainingQuantityUnits.toNat
  | _ => child

/-- The share of the paired quantity, in an auction. -/
def auctionTarget (request : RoutingRequest) (observation : VenueObservation) (child : Nat) : Nat :=
  if request.objective.policy = .auctionParticipation then
    min child (observation.auctionPairedQuantityUnits.toNat *
      request.objective.participationRatePpm.toNat / 1000000)
  else child

/-- The quantity that a venue is offered: what the policy asks for within the caps of the
objective, of the venue and of its concentration, and of an auction. -/
def offered (request : RoutingRequest) (rule : VenueRoutingRule)
    (observation : VenueObservation) : Nat :=
  let objective := request.objective
  auctionTarget request observation (min (min (policyTarget request
      (min (objective.totalQuantityUnits.toNat - objective.filledQuantityUnits.toNat)
        objective.maximumChildQuantityUnits.toNat)) rule.maximumChildQuantityUnits.toNat)
    (objective.totalQuantityUnits.toNat * rule.maximumConcentrationPpm.toNat ⌈/⌉ 1000000 -
      observation.alreadyRoutedQuantityUnits.toNat))

theorem policyTarget_le (child : Nat) : policyTarget request child ≤ child := by
  unfold policyTarget
  dsimp only
  split
  all_goals first | exact Nat.min_le_left _ _ | exact Nat.le_refl _

theorem auctionTarget_le (child : Nat) : auctionTarget request observation child ≤ child := by
  unfold auctionTarget
  split
  · exact Nat.min_le_left _ _
  · exact Nat.le_refl _

theorem toNat_curveShare (share : curveShare request limit = .ok quantity) :
    quantity.toNat = min limit.toNat (request.objective.totalQuantityUnits.toNat *
      request.targetCumulativeVolumeCurvePpm.toNat / 1000000 -
        (request.objective.filledQuantityUnits.toNat +
          request.alreadyScheduledQuantityUnits.toNat)) := by
  unfold curveShare at share
  split at share
  · cases share
  split at share
  · cases share
  next target computed =>
  split at share
  · cases share
  next accounted added =>
  split at share
  · cases share
  next above =>
  cases share
  rw [toNat_min, toNat_sub_of_le _ _ (UInt64.le_of_lt (UInt64.not_le.mp above)),
    toNat_of_multiplyDivide computed, toNat_of_exactAdd added]
  rfl

theorem toNat_policyShare (counted : sliceCount request ≠ 0)
    (share : policyShare request limit = .ok quantity) :
    quantity.toNat = policyTarget request limit.toNat := by
  have volume : volumeShare request limit = .ok quantity → quantity.toNat = min limit.toNat
      (request.marketVolumeSinceLastSliceUnits.toNat *
        request.objective.participationRatePpm.toNat / 1000000) := by
    intro share
    unfold volumeShare at share
    split at share
    · cases share
    split at share
    · cases share
    · next target computed =>
      cases share
      rw [toNat_min, toNat_of_multiplyDivide computed]
      rfl
  unfold policyShare at share
  unfold policyTarget
  dsimp only
  generalize request.objective.policy = policy at share ⊢
  cases policy with
  | participation => exact volume share
  | pov => exact volume share
  | twap =>
    dsimp only at share ⊢
    unfold timeShare at share
    split at share
    · cases share
    · cases share
      rw [toNat_min, toNat_timeShare counted]
  | vwap => exact toNat_curveShare share
  | cancelReplace =>
    dsimp only at share ⊢
    unfold workingShare at share
    split at share
    · cases share
    · cases share
      exact toNat_min _ _
  | _ =>
    cases share
    rfl

theorem due_inv (due : (computeSlice request).due) :
    request.nowProcessMonotonicTimeNs ≤ request.objective.endProcessMonotonicTimeNs ∧
      request.objective.filledQuantityUnits < request.objective.totalQuantityUnits ∧
      policyShare request request.objective.childLimit =
        .ok (computeSlice request).quantityUnits := by
  unfold computeSlice at due ⊢
  split at due
  · cases due
  rw [if_neg (by assumption)]
  split at due
  · cases due
  next early =>
  rw [if_neg early]
  split at due
  · cases due
  next left =>
  rw [if_neg left]
  refine ⟨UInt64.not_lt.mp early, UInt64.not_le.mp left, ?_⟩
  split at due
  · cases due
  next quantity share =>
  rw [share]
  split at due
  · cases due
  · next nonzero => rw [if_neg nonzero]

theorem sliceCount_ne_zero (valid : validRoutingRequest request)
    (due : (computeSlice request).due) : sliceCount request ≠ 0 := by
  obtain ⟨early, -⟩ := due_inv due
  simp only [validRoutingRequest, Bool.and_eq_true, bne_iff_ne] at valid
  have positive := toNat_pos valid.1.1.1.1.1.1.1.1.1.1.1.2
  have most := request.objective.endProcessMonotonicTimeNs.toNat_lt
  have part := Nat.div_le_self (request.objective.endProcessMonotonicTimeNs.toNat -
    request.nowProcessMonotonicTimeNs.toNat) request.objective.sliceIntervalNs.toNat
  have one : (1 : UInt64).toNat = 1 := rfl
  have zero : (0 : UInt64).toNat = 0 := rfl
  rw [ne_eq, ← UInt64.toNat_inj, sliceCount, UInt64.toNat_add, toNat_div,
    toNat_sub_of_le _ _ early]
  generalize _ / request.objective.sliceIntervalNs.toNat = share at part ⊢
  omega

theorem toNat_childLimit {objective : ExecutionObjective}
    (unfilled : objective.filledQuantityUnits < objective.totalQuantityUnits) :
    objective.childLimit.toNat =
      min (objective.totalQuantityUnits.toNat - objective.filledQuantityUnits.toNat)
        objective.maximumChildQuantityUnits.toNat := by
  unfold ExecutionObjective.childLimit ExecutionObjective.remaining
  rw [toNat_min, toNat_sub_of_le _ _ (UInt64.le_of_lt unfilled)]

theorem toNat_withinAuction {within : UInt64}
    (capped : withinAuction request observation quantity = some within) :
    within.toNat = auctionTarget request observation quantity.toNat := by
  unfold withinAuction at capped
  unfold auctionTarget
  split at capped
  · next auction =>
    obtain ⟨cap, share, rfl⟩ := Option.map_eq_some_iff.mp capped
    unfold auctionCap at share
    split at share
    · cases share
    · rw [if_pos auction, toNat_min, toNat_of_multiplyDivide share]
      rfl
  · next other =>
    cases capped
    rw [if_neg other]

theorem toNat_proposedQuantity (valid : validRoutingRequest request)
    (due : (computeSlice request).due) (proposed : proposedQuantity request rule observation
      (computeSlice request).quantityUnits = .ok quantity) :
    quantity.toNat = offered request rule observation := by
  obtain ⟨limit, ceiling, room, within⟩ := proposedQuantity_inv proposed
  obtain ⟨-, unfilled, share⟩ := due_inv due
  rw [toNat_withinAuction within, toNat_min, toNat_min, toNat_sub_of_le _ _ (UInt64.le_of_lt room),
    ceiling, toNat_policyShare (sliceCount_ne_zero valid due) share, toNat_childLimit unfilled,
    offered]

/-- A routed new order is proposed at its venue from a due slice. -/
theorem SmartOrderRouter.route_newOrder (routed : (r.route request).2.status = .routed)
    (opened : (r.route request).2.action = .newOrder) :
    validRoutingRequest request = true ∧ (computeSlice request).due = true ∧
      ∃ observation ∈ request.venues, ∃ rule, observation.venueId = (r.route request).2.venueId ∧
        findRule r.configuration (r.route request).2.venueId = some rule ∧
        proposedQuantity request rule observation (computeSlice request).quantityUnits =
          .ok (r.route request).2.quantityUnits := by
  obtain ⟨valid, due, observation, rule, chosen⟩ := route_chosen routed (by rw [opened]; nofun)
  exact ⟨valid, due, observation, chosen.listed, rule, chosen.venueId.symm,
    by rw [chosen.venueId, chosen.known], chosen.eligible.proposed⟩

/-- What the venue is offered fits beside what is scheduled. -/
def LeavesRoom (request : RoutingRequest) (rule : VenueRoutingRule)
    (observation : VenueObservation) : Prop :=
  request.objective.filledQuantityUnits.toNat + request.alreadyScheduledQuantityUnits.toNat +
    offered request rule observation ≤ request.objective.totalQuantityUnits.toNat

/-- The bounds on a routed new order that hold for every policy. -/
structure Bounded (configuration : RouterConfiguration) (request : RoutingRequest)
    (decision : RoutingDecision) : Prop where
  /-- It is within what remains of the objective. -/
  remaining : request.objective.filledQuantityUnits.toNat + decision.quantityUnits.toNat ≤
    request.objective.totalQuantityUnits.toNat
  /-- It is within the child cap of the objective. -/
  child : decision.quantityUnits ≤ request.objective.maximumChildQuantityUnits
  /-- Within the child cap and the concentration limit of the venue, and beside what is scheduled
  exactly if what the venue is offered leaves room. -/
  venue : ∃ observation ∈ request.venues, ∃ rule, observation.venueId = decision.venueId ∧
    findRule configuration decision.venueId = some rule ∧
    decision.quantityUnits ≤ rule.maximumChildQuantityUnits ∧
    observation.alreadyRoutedQuantityUnits.toNat + decision.quantityUnits.toNat ≤
      request.objective.totalQuantityUnits.toNat * rule.maximumConcentrationPpm.toNat ⌈/⌉
        1000000 ∧
    (request.objective.filledQuantityUnits.toNat + request.alreadyScheduledQuantityUnits.toNat +
        decision.quantityUnits.toNat ≤ request.objective.totalQuantityUnits.toNat ↔
      LeavesRoom request rule observation)

theorem SmartOrderRouter.route_bounded (routed : (r.route request).2.status = .routed)
    (opened : (r.route request).2.action = .newOrder) :
    Bounded r.configuration request (r.route request).2 := by
  obtain ⟨valid, due, observation, inside, rule, same, found, proposed⟩ :=
    route_newOrder routed opened
  have exactly := toNat_proposedQuantity valid due proposed
  obtain ⟨-, unfilled, -⟩ := due_inv due
  have auction := exactly.trans_le (auctionTarget_le _)
  have policy := @policyTarget_le request (min (request.objective.totalQuantityUnits.toNat -
    request.objective.filledQuantityUnits.toNat) request.objective.maximumChildQuantityUnits.toNat)
  obtain ⟨limit, ceiling, room, -⟩ := proposedQuantity_inv proposed
  rw [UInt64.lt_iff_toNat_lt] at unfilled room
  rw [ceiling] at room
  exact {
    remaining := by omega
    child := by rw [le_iff_toNat_le]; omega
    venue := ⟨observation, inside, rule, same, found, by rw [le_iff_toNat_le]; omega, by omega,
      by rw [LeavesRoom, exactly]⟩ }

/-! ### One objective over many calls -/

/-- One objective as its caller works it. -/
structure Schedule where
  router : SmartOrderRouter
  total : UInt64
  filled : UInt64 := 0
  scheduled : UInt64 := 0
  routed : Nat := 0

inductive Call where
  /-- A route call. -/
  | route (request : RoutingRequest)
  /-- A fill of scheduled quantity. -/
  | fill (quantity : UInt64)

namespace Schedule

/-- The request with the totals of the objective. -/
def present (s : Schedule) (request : RoutingRequest) : RoutingRequest :=
  { request with
    objective := { request.objective with
      totalQuantityUnits := s.total, filledQuantityUnits := s.filled }
    alreadyScheduledQuantityUnits := s.scheduled }

/-- What a decision adds to the scheduled quantity. -/
def scheduledBy (decision : RoutingDecision) : UInt64 :=
  if decision.status = .routed ∧ decision.action = .newOrder then decision.quantityUnits else 0

def next (s : Schedule) : Call → Schedule
  | .route request =>
      let called := s.router.route (s.present request)
      { s with
        router := called.1
        scheduled := s.scheduled + scheduledBy called.2
        routed := s.routed + (scheduledBy called.2).toNat }
  | .fill quantity =>
      if quantity ≤ s.scheduled then
        { s with filled := s.filled + quantity, scheduled := s.scheduled - quantity }
      else s

/-- Every route call leaves room beside what is scheduled, at each of its venues. -/
def Roomy (s : Schedule) : Call → Prop
  | .route request => ∀ observation ∈ request.venues,
      ∀ rule ∈ findRule s.router.configuration observation.venueId,
        LeavesRoom (s.present request) rule observation
  | .fill _ => True

instance (s : Schedule) (call : Call) : Decidable (s.Roomy call) :=
  match call with
  | .route request => inferInstanceAs (Decidable (∀ observation ∈ request.venues,
      ∀ rule ∈ findRule s.router.configuration observation.venueId, _ ≤ _))
  | .fill _ => inferInstanceAs (Decidable True)

/-- All that was routed is filled or scheduled, within the total. -/
def Balanced (total : UInt64) (filled : Nat) (s : Schedule) : Prop :=
  s.total = total ∧ filled + s.routed = s.filled.toNat + s.scheduled.toNat ∧
    s.filled.toNat + s.scheduled.toNat ≤ total.toNat

theorem scheduledBy_fits {s : Schedule} {request : RoutingRequest}
    (within : s.filled.toNat + s.scheduled.toNat ≤ s.total.toNat)
    (room : s.Roomy (.route request)) : s.filled.toNat + s.scheduled.toNat +
      (scheduledBy (s.router.route (s.present request)).2).toNat ≤ s.total.toNat := by
  unfold scheduledBy
  split
  · next new =>
    obtain ⟨observation, inside, rule, same, found, -, -, fits⟩ :=
      (SmartOrderRouter.route_bounded new.1 new.2).venue
    exact fits.mpr (room observation inside rule (same ▸ found))
  · simpa using within

theorem next_balanced {total : UInt64} {filled : Nat} {s : Schedule} {call : Call}
    (balanced : Balanced total filled s) (roomy : s.Roomy call) :
    Balanced total filled (s.next call) := by
  obtain ⟨rfl, books, within⟩ := balanced
  have most := s.total.toNat_lt
  cases call with
  | route request =>
    have fits := scheduledBy_fits within roomy
    have sum : (s.scheduled + scheduledBy (s.router.route (s.present request)).2).toNat =
        s.scheduled.toNat + (scheduledBy (s.router.route (s.present request)).2).toNat := by
      rw [UInt64.toNat_add, Nat.mod_eq_of_lt (by omega)]
    refine ⟨rfl, ?_, ?_⟩
    · show filled + (s.routed + _) = s.filled.toNat + (s.scheduled + _).toNat
      omega
    · show s.filled.toNat + (s.scheduled + _).toNat ≤ s.total.toNat
      omega
  | fill quantity =>
    unfold next
    dsimp only
    split
    · next scheduled =>
      have less := le_iff_toNat_le.mp scheduled
      have rest : (s.scheduled - quantity).toNat = s.scheduled.toNat - quantity.toNat :=
        toNat_sub_of_le _ _ scheduled
      have sum : (s.filled + quantity).toNat = s.filled.toNat + quantity.toNat := by
        rw [UInt64.toNat_add, Nat.mod_eq_of_lt (by omega)]
      refine ⟨rfl, ?_, ?_⟩
      · show filled + s.routed = (s.filled + quantity).toNat + (s.scheduled - quantity).toNat
        omega
      · show (s.filled + quantity).toNat + (s.scheduled - quantity).toNat ≤ s.total.toNat
        omega
    · exact ⟨rfl, books, within⟩

end Schedule

/-- The router keeps to the caps of every call, counts what is scheduled exactly if what the venue
is offered leaves room and, with room, keeps to the objective over every run. -/
theorem SmartOrderRouter.never_over_routes (r : SmartOrderRouter) :
    (∀ request, (r.route request).2.status = .routed → (r.route request).2.action = .newOrder →
      Bounded r.configuration request (r.route request).2) ∧
    ∀ (total filled : UInt64) (calls : List Call), filled ≤ total →
      Throughout Schedule.next Schedule.Roomy { router := r, total, filled } calls →
      Always Schedule.next (fun s => filled.toNat + s.routed ≤ total.toNat)
        { router := r, total, filled } calls := by
  refine ⟨fun request => route_bounded, ?_⟩
  intro total filled calls within roomy
  have start : Schedule.Balanced total filled.toNat { router := r, total, filled } :=
    ⟨rfl, rfl, by simpa using le_iff_toNat_le.mp within⟩
  intro before initial
  have books : Schedule.Balanced total filled.toNat (run Schedule.next _ before) :=
    always_of_throughout (fun s call balanced allowed =>
      Schedule.next_balanced balanced allowed) start roomy before initial
  obtain ⟨-, books, most⟩ := books
  omega

set_option maxRecDepth 20000 in
/-- Two children of four units. -/
theorem SmartOrderRouter.never_over_routes_filled :
    let r := construct oneVenue
    let calls := [Call.route (buyTen .passiveJoin 4 0 0), .fill 4,
      .route (buyTen .passiveJoin 4 4 0)]
    (r.route (buyTen .passiveJoin 4 0 0)).2.status = .routed ∧
      Bounded r.configuration (buyTen .passiveJoin 4 0 0) (r.route (buyTen .passiveJoin 4 0 0)).2 ∧
      (run Schedule.next { router := r, total := 10 } calls).routed = 8 ∧
      Always Schedule.next (fun s => (0 : UInt64).toNat + s.routed ≤ (10 : UInt64).toNat)
        { router := r, total := 10 } calls := by
  refine ⟨by decide, ?_, by decide, ?_⟩
  · exact (never_over_routes _).1 (buyTen .passiveJoin 4 0 0) (by decide) (by decide)
  · exact (never_over_routes _).2 10 0 _ (by decide) (by decide)

set_option maxRecDepth 20000 in
/-- An order in flight is routed again. -/
theorem SmartOrderRouter.scheduled_quantity_routed_again :
    let r := construct oneVenue
    let request := buyTen .passiveJoin 10 0 10
    let decision := (r.route request).2
    validRouterConfiguration oneVenue = true ∧ validRoutingRequest request = true ∧
      decision.status = .routed ∧ decision.action = .newOrder ∧
      request.objective.totalQuantityUnits.toNat < request.objective.filledQuantityUnits.toNat +
          request.alreadyScheduledQuantityUnits.toNat + decision.quantityUnits.toNat ∧
      (run Schedule.next { router := r, total := 10 }
        [.route (buyTen .passiveJoin 10 0 0), .route request]).routed = 20 := by
  decide

namespace ExecutionObjective

variable (objective : ExecutionObjective)

/-- The number of calls, one every interval. -/
def slices : Nat :=
  (objective.endProcessMonotonicTimeNs.toNat - objective.startProcessMonotonicTimeNs.toNat) /
    objective.sliceIntervalNs.toNat + 1

def dueAt (k : Nat) : Nat :=
  objective.startProcessMonotonicTimeNs.toNat + k * objective.sliceIntervalNs.toNat

/-- An even share of the objective, rounded up. -/
def evenShare : Nat :=
  objective.totalQuantityUnits.toNat ⌈/⌉ objective.slices

end ExecutionObjective

/-- Call `k` is on time, some venue is eligible, and no cap binds below an even share. -/
structure Punctual (r : SmartOrderRouter) (request : RoutingRequest) (k : Nat) : Prop where
  initialized : r.initialized = true
  running : r.health ≠ .stopped
  valid : validRoutingRequest request = true
  version : request.objective.configurationVersion = r.configuration.configurationVersion
  attempt : ¬ r.configuration.maximumRouteAttempts ≤ request.routeAttempt
  policy : request.objective.policy = .twap
  inside : k < request.objective.slices
  time : request.nowProcessMonotonicTimeNs.toNat = request.objective.dueAt k
  last : request.lastSliceProcessMonotonicTimeNs = 0 ∨
    ∃ j < k, request.lastSliceProcessMonotonicTimeNs.toNat = request.objective.dueAt j
  eligible : (computeSlice request).due = true → ∃ observation ∈ request.venues,
    (explainVenue r.configuration request (computeSlice request).quantityUnits
      observation).eligibility = .eligible
  child : request.objective.evenShare ≤ request.objective.maximumChildQuantityUnits.toNat
  /-- A venue has room for an even share, or for all that remains. -/
  room : ∀ observation ∈ request.venues, ∀ rule,
    findRule r.configuration observation.venueId = some rule →
      request.objective.evenShare ≤ rule.maximumChildQuantityUnits.toNat ∧
        observation.alreadyRoutedQuantityUnits.toNat +
            min request.objective.evenShare request.objective.remaining.toNat ≤
          request.objective.totalQuantityUnits.toNat * rule.maximumConcentrationPpm.toNat ⌈/⌉
            1000000

namespace Punctual

variable {k : Nat} (punctual : Punctual r request k)
include punctual

theorem routed (due : (computeSlice request).due) :
    (r.route request).2.status = .routed ∧ (r.route request).2.action = .newOrder := by
  obtain ⟨observation, inside, eligible⟩ := punctual.eligible due
  obtain ⟨selected, chosen, -⟩ := @select_best (candidates r.configuration request _) _
    (List.mem_map_of_mem inside) eligible
  unfold SmartOrderRouter.route routeSlice
  simp [punctual.initialized, punctual.running, punctual.valid, punctual.version, punctual.attempt,
    due, chosen, RoutingDecision.sealed, decideVenue, punctual.policy, selectedFields]

theorem ordered : 0 < request.objective.startProcessMonotonicTimeNs.toNat ∧
    request.objective.dueAt k ≤ request.objective.endProcessMonotonicTimeNs.toNat ∧
    request.objective.filledQuantityUnits ≤ request.objective.totalQuantityUnits := by
  have valid := punctual.valid
  simp only [validRoutingRequest, validExecutionObjective, Bool.and_eq_true, bne_iff_ne,
    decide_eq_true_eq, punctual.policy, bne_self_eq_false, Bool.false_or,
    UInt64.lt_iff_toNat_lt] at valid
  have valid := valid.1.1.1.1.1.1.1.1.1.1.1.1.1
  have before := valid.1.1.1.1.1.1.1.1.1.1.1.2
  have inTime := (Nat.le_div_iff_mul_le (toNat_pos valid.2)).mp (Nat.le_of_lt_succ punctual.inside)
  refine ⟨toNat_pos valid.1.1.1.1.1.1.1.1.1.1.1.1.2, ?_, valid.1.1.1.1.1.1.1.1.1.1.1.1.1.1.1.2⟩
  unfold ExecutionObjective.dueAt
  omega

theorem within :
    request.nowProcessMonotonicTimeNs ≤ request.objective.endProcessMonotonicTimeNs := by
  rw [le_iff_toNat_le, punctual.time]
  exact punctual.ordered.2.1

theorem due : waitsForInterval request = false := by
  unfold waitsForInterval
  rcases punctual.last with none | ⟨j, before, last⟩
  · rw [none]
    rfl
  have next := Nat.mul_le_mul_right request.objective.sliceIntervalNs.toNat before
  have most := request.nowProcessMonotonicTimeNs.toNat_lt
  have time := punctual.time
  unfold ExecutionObjective.dueAt at last time
  rw [Nat.succ_mul] at next
  rw [exactAdd, if_pos (by omega)]
  simp only [Bool.and_eq_false_iff, decide_eq_false_iff_not, UInt64.lt_iff_toNat_lt,
    UInt64.toNat_add]
  right
  omega

theorem toNat_sliceCount : (sliceCount request).toNat = request.objective.slices - k := by
  obtain ⟨started, -⟩ := punctual.ordered
  have counted := Nat.le_of_lt_succ punctual.inside
  have most := request.objective.endProcessMonotonicTimeNs.toNat_lt
  have small := Nat.div_le_self (request.objective.endProcessMonotonicTimeNs.toNat -
    request.objective.startProcessMonotonicTimeNs.toNat) request.objective.sliceIntervalNs.toNat
  have one : UInt64.toNat 1 = 1 := rfl
  unfold sliceCount ExecutionObjective.slices
  rw [UInt64.toNat_add, toNat_div, toNat_sub_of_le _ _ punctual.within, punctual.time,
    ExecutionObjective.dueAt, ← Nat.sub_sub, Nat.mul_comm k, Nat.sub_mul_div]
  omega

theorem toNat_slice
    (unfilled : request.objective.filledQuantityUnits < request.objective.totalQuantityUnits)
    (child : request.objective.remaining.toNat ⌈/⌉ (request.objective.slices - k) ≤
      request.objective.childLimit.toNat) :
    (computeSlice request).due ∧ (computeSlice request).quantityUnits.toNat =
      request.objective.remaining.toNat ⌈/⌉ (request.objective.slices - k) := by
  have count := punctual.toNat_sliceCount
  have positive : 0 < request.objective.slices - k := Nat.sub_pos_of_lt punctual.inside
  have counted : sliceCount request ≠ 0 := by
    intro zero
    rw [zero] at count
    exact positive.ne count
  have share : (min request.objective.childLimit (request.objective.remaining /
      sliceCount request + if request.objective.remaining % sliceCount request = 0 then 0
      else 1)).toNat = request.objective.remaining.toNat ⌈/⌉ (request.objective.slices - k) := by
    rw [toNat_min, toNat_timeShare counted, count, Nat.min_eq_right child]
  have someDue : ¬ request.objective.remaining.toNat ⌈/⌉ (request.objective.slices - k) ≤ 0 := by
    have left : request.objective.remaining.toNat = _ :=
      toNat_sub_of_le _ _ (UInt64.le_of_lt unfilled)
    rw [UInt64.lt_iff_toNat_lt] at unfilled
    rw [ceilDiv_le_iff_le_smul positive, smul_zero]
    omega
  have started : ¬ request.nowProcessMonotonicTimeNs <
      request.objective.startProcessMonotonicTimeNs := by
    rw [UInt64.lt_iff_toNat_lt, punctual.time, ExecutionObjective.dueAt]
    omega
  unfold computeSlice policyShare timeShare
  rw [if_neg started, if_neg (UInt64.not_lt.mpr punctual.within), if_neg (UInt64.not_le.mpr unfilled),
    punctual.policy, punctual.due]
  dsimp only
  rw [if_neg Bool.false_ne_true]
  dsimp only
  rw [if_neg]
  · exact ⟨rfl, share⟩
  · intro zero
    rw [zero] at share
    exact someDue share.symm.le

/-- The step: a call on time routes its slice. -/
theorem toNat_routed (rest : request.objective.remaining.toNat ≤
      (request.objective.slices - k) * request.objective.evenShare) :
    (Schedule.scheduledBy (r.route request).2).toNat =
      request.objective.remaining.toNat ⌈/⌉ (request.objective.slices - k) := by
  have positive : 0 < request.objective.slices - k := Nat.sub_pos_of_lt punctual.inside
  have part := (ceilDiv_le_iff_le_smul positive).mpr rest
  have fits := ceilDiv_le_self request.objective.remaining.toNat positive
  have child := punctual.child
  by_cases unfilled : request.objective.filledQuantityUnits < request.objective.totalQuantityUnits
  · have limit : request.objective.childLimit.toNat = _ := toNat_min _ _
    obtain ⟨due, slice⟩ := punctual.toNat_slice unfilled (by omega)
    obtain ⟨routed, opened⟩ := punctual.routed due
    obtain ⟨-, -, observation, inside, rule, named, found, proposed⟩ :=
      SmartOrderRouter.route_newOrder routed opened
    obtain ⟨venue, room⟩ := punctual.room observation inside rule (by rw [named, found])
    obtain ⟨limit, ceiling, below, within⟩ := proposedQuantity_inv proposed
    rw [withinAuction, if_neg (by rw [punctual.policy]; nofun), Option.some_inj] at within
    rw [Schedule.scheduledBy, if_pos ⟨routed, opened⟩, ← within, toNat_min, toNat_min,
      toNat_sub_of_le _ _ (UInt64.le_of_lt below)]
    omega
  · have idle : Schedule.scheduledBy (r.route request).2 = 0 := if_neg fun opened =>
      unfilled (due_inv (SmartOrderRouter.route_newOrder opened.1 opened.2).2.1).2.1
    have done : request.objective.remaining = 0 := by
      rw [ExecutionObjective.remaining,
        UInt64.le_antisymm (UInt64.not_lt.mp unfilled) punctual.ordered.2.2, UInt64.sub_self]
    rw [idle, done]
    exact (zero_ceilDiv _).symm

end Punctual

def routedUnits (calls : Nat → SmartOrderRouter × RoutingRequest) (k : Nat) : Nat :=
  (Schedule.scheduledBy ((calls k).1.route (calls k).2).2).toNat

def routedBefore (calls : Nat → SmartOrderRouter × RoutingRequest) (k : Nat) : Nat :=
  ∑ j ∈ Finset.range k, routedUnits calls j

section

variable {objective : ExecutionObjective} {calls : Nat → SmartOrderRouter × RoutingRequest}
  (punctual : ∀ k < objective.slices, Punctual (calls k).1 (calls k).2 k)
  (filled : ∀ k < objective.slices, ∃ hash, (calls k).2.objective = { objective with
    filledQuantityUnits := .ofNat (routedBefore calls k), stableHash := hash })
include punctual filled

theorem routedUnits_eq {k : Nat} (inside : k < objective.slices)
    (within : routedBefore calls k ≤ objective.totalQuantityUnits.toNat)
    (rest : objective.totalQuantityUnits.toNat - routedBefore calls k ≤
      (objective.slices - k) * objective.evenShare) : routedUnits calls k =
        (objective.totalQuantityUnits.toNat - routedBefore calls k) ⌈/⌉ (objective.slices - k) := by
  obtain ⟨hash, same⟩ := filled k inside
  have remaining : (calls k).2.objective.remaining.toNat =
      objective.totalQuantityUnits.toNat - routedBefore calls k := by
    have counted : (UInt64.ofNat (routedBefore calls k)).toNat = routedBefore calls k :=
      UInt64.toNat_ofNat_of_lt (Nat.lt_of_le_of_lt within objective.totalQuantityUnits.toNat_lt)
    rw [← counted] at within ⊢
    rw [same]
    exact toNat_sub_of_le _ _ (le_iff_toNat_le.mpr within)
  have slices : (calls k).2.objective.slices = objective.slices := by
    rw [same]
    rfl
  have share : (calls k).2.objective.evenShare = objective.evenShare := by
    rw [same]
    rfl
  rw [← remaining, ← slices, ← share] at rest
  rw [routedUnits, (punctual k inside).toNat_routed rest, remaining, slices]

/-- What remains is at most an even share for each call left. -/
theorem routedBefore_bounds {k : Nat} (inside : k ≤ objective.slices) :
    routedBefore calls k ≤ objective.totalQuantityUnits.toNat ∧
      objective.totalQuantityUnits.toNat - routedBefore calls k ≤
        (objective.slices - k) * objective.evenShare := by
  induction k with
  | zero =>
    refine ⟨Nat.zero_le _, ?_⟩
    exact (ceilDiv_le_iff_le_smul (Nat.succ_pos _)).mp (le_refl objective.evenShare)
  | succ k ih =>
    obtain ⟨within, rest⟩ := ih (Nat.le_of_succ_le inside)
    have share := routedUnits_eq punctual filled inside within rest
    have left : objective.slices - k = objective.slices - (k + 1) + 1 := by omega
    rw [left] at share rest
    have covers := (ceilDiv_le_iff_le_smul (Nat.succ_pos _)).mp share.ge
    have part := (ceilDiv_le_iff_le_smul (Nat.succ_pos _)).mpr rest
    have fits := share.trans_le (ceilDiv_le_self _ (Nat.succ_pos _))
    rw [Nat.succ_eq_add_one, ← share] at part
    have later := Nat.mul_le_mul_left (objective.slices - (k + 1)) part
    rw [smul_eq_mul, Nat.succ_mul] at covers
    rw [routedBefore, Finset.sum_range_succ, ← routedBefore]
    omega

/-- Called on time, with slices filled in time, `twap` routes all of an objective, at most an even
share at a time. -/
theorem twap_completes :
    routedBefore calls objective.slices = objective.totalQuantityUnits.toNat ∧
      ∀ k < objective.slices, routedUnits calls k ≤ objective.evenShare := by
  refine ⟨?_, fun k inside => ?_⟩
  · obtain ⟨within, rest⟩ := routedBefore_bounds punctual filled (Nat.le_refl _)
    rw [Nat.sub_self, Nat.zero_mul] at rest
    omega
  · obtain ⟨within, rest⟩ := routedBefore_bounds punctual filled (Nat.le_of_lt inside)
    rw [routedUnits_eq punctual filled inside within rest]
    exact (ceilDiv_le_iff_le_smul (Nat.sub_pos_of_lt inside)).mpr rest

end

/-- Call `k` for ten units from 20 to 100, five at a time. -/
def twapCall (k : Nat) : SmartOrderRouter × RoutingRequest :=
  let request := buyTen .twap 10 (.ofNat (5 * k)) 0
  let objective : ExecutionObjective :=
    { request.objective with startProcessMonotonicTimeNs := 20, sliceIntervalNs := 50 }
  let timed : RoutingRequest :=
    { request with
      objective := { objective with stableHash := stableExecutionObjectiveHash objective }
      nowProcessMonotonicTimeNs := .ofNat (20 + 50 * k)
      lastSliceProcessMonotonicTimeNs := if k = 0 then 0 else 20 }
  (.construct oneVenue, { timed with stableHash := stableRoutingRequestHash timed })

set_option maxRecDepth 20000 in
theorem twap_completes_ten :
    routedBefore twapCall 2 = 10 ∧ ∀ k < 2, routedUnits twapCall k ≤ 5 := by
  have two : ∀ k < (twapCall 0).2.objective.slices, k = 0 ∨ k = 1 := by decide
  refine @twap_completes (twapCall 0).2.objective twapCall ?_ ?_
  · intro k inside
    rcases two k inside with rfl | rfl
    all_goals
      refine ⟨by decide, by decide, by decide, by decide, by decide, by decide, by decide,
        by decide, by decide, fun _ => ⟨openVenue, by decide, by decide⟩, by decide, ?_⟩
      rintro _ (_ | ⟨_, ⟨⟩⟩) rule found
      cases found
      decide
  · intro k inside
    refine ⟨(twapCall k).2.objective.stableHash, ?_⟩
    rcases two k inside with rfl | rfl
    all_goals decide

end Aegis.Routing
