import Mathlib.Algebra.Order.BigOperators.Group.List
import Aegis.Foundation.Runs
import Aegis.Risk.CheckedArithmetic
import Aegis.Risk.EngineLaws
import Aegis.Risk.TestSupport

/-!
A portfolio snapshot stores its pending quantities over those of the engine. So a run keeps its
reservations exactly if every snapshot was computed from orders that include the reserved ones.
-/

namespace Aegis.Risk

open Aegis.Common Aegis.Foundation Aegis.Portfolio Option

/-- The two sides on which a quantity can be pending. -/
inductive PendingSide where
  | buy | sell
  deriving DecidableEq

/-- `action == buy` picks the first, anything else the second. -/
def IntentAction.side (action : IntentAction) : PendingSide :=
  if action = .buy then .buy else .sell

def RuntimeSymbolState.pending (state : RuntimeSymbolState) : PendingSide → Nat
  | .buy => state.pendingBuyQuantityUnits.toNat
  | .sell => state.pendingSellQuantityUnits.toNat

def exposurePending (exposure : InstrumentExposure) : PendingSide → Nat
  | .buy => exposure.pendingBuyQuantityUnits.toNat
  | .sell => exposure.pendingSellQuantityUnits.toNat

theorem pending_of_reserve {state next : RuntimeSymbolState} {intent : RiskIntent}
    (reserved : state.reserve intent = some next) (side : PendingSide) : next.pending side =
      state.pending side + if intent.action.side = side then intent.quantityUnits.toNat else 0 := by
  unfold RuntimeSymbolState.reserve at reserved
  unfold IntentAction.side
  split at reserved <;>
    obtain ⟨sum, added, written⟩ := bind_eq_some_iff.mp reserved <;>
    have exact := toNat_of_checkedAdd added <;>
    cases written <;>
    cases side <;>
    simp_all [RuntimeSymbolState.pending]

theorem pending_filledSymbol {state : RuntimeSymbolState} {update : FillUpdate}
    (enough : ¬ Engine.pendingOf state update.side < update.releaseReservedQuantityUnits)
    (position : Int64) (side : PendingSide) :
    (Engine.filledSymbol state update position).pending side +
        (if update.side.side = side then update.releaseReservedQuantityUnits.toNat else 0) =
      state.pending side := by
  rw [UInt64.not_lt] at enough
  have left := UInt64.toNat_sub_of_le _ _ enough
  rw [UInt64.le_iff_toNat_le] at enough
  unfold IntentAction.side
  by_cases buys : update.side = .buy <;> cases side <;>
    simp_all [RuntimeSymbolState.pending, Engine.filledSymbol, Engine.pendingOf]

def snapshotPending (limits : RiskLimitSnapshot) (snapshot : PortfolioSnapshot) (symbol : Nat)
    (side : PendingSide) : Nat :=
  (limits.symbols[symbol]?.bind (Engine.mapInstrument snapshot)).elim 0 (exposurePending · side)

theorem getElem?_of_mapM {α β : Type} {f : α → Option β} {source : List α} {mapped : List β}
    (all : source.mapM f = some mapped) :
    mapped.length = source.length ∧ ∀ place : Nat, mapped[place]? = source[place]?.bind f := by
  induction source generalizing mapped with
  | nil =>
    cases all
    simp
  | cons first rest ih =>
    rw [List.mapM_cons] at all
    obtain ⟨head, found, tail⟩ := bind_eq_some_iff.mp all
    obtain ⟨others, mappedRest, whole⟩ := bind_eq_some_iff.mp tail
    cases whole
    obtain ⟨lengths, entries⟩ := ih mappedRest
    refine ⟨congrArg (· + 1) lengths, fun place => ?_⟩
    cases place with
    | zero => exact found.symm
    | succ place => exact entries place

theorem pending_of_installs {e : Engine} {snapshot : PortfolioSnapshot}
    (installs : e.Installs snapshot) {symbol : Nat} (configured : symbol < e.limits.symbols.length)
    (side : PendingSide) :
    ((e.installPortfolioSnapshot snapshot).1.symbolState symbol).pending side =
      snapshotPending e.limits snapshot symbol side := by
  rcases e.installPortfolioSnapshot_cases snapshot with
    ⟨-, instruments, strategies, mapped, next⟩ | ⟨refused, -⟩
  · obtain ⟨entries, all, rest⟩ := bind_eq_some_iff.mp mapped
    obtain ⟨_, -, same⟩ := bind_eq_some_iff.mp rest
    cases same
    obtain ⟨lengths, found⟩ := getElem?_of_mapM all
    have entry := List.getElem?_eq_getElem (lengths ▸ configured)
    rw [next, snapshotPending, ← found, entry]
    simp only [Engine.installMappedPortfolioSnapshot, entry]
    cases side <;> rfl
  · exact absurd installs refused

/-- An approved order that the last snapshot does not have, and how much of it is not released. -/
structure Reservation where
  intentId : IntentId
  symbol : Nat
  side : PendingSide
  quantity : Nat
  deriving DecidableEq

def reservedOn (reservations : List Reservation) (symbol : Nat) (side : PendingSide) : Nat :=
  ((reservations.filter fun r => r.symbol = symbol ∧ r.side = side).map (·.quantity)).sum

/-- Take an amount off the reservations of one order. What is left over belongs to orders that the
last snapshot had. -/
def releaseFrom (owner : IntentId) (symbol : Nat) (side : PendingSide) :
    Nat → List Reservation → List Reservation × Nat
  | amount, [] => ([], amount)
  | amount, r :: rest =>
      if r.intentId = owner ∧ r.symbol = symbol ∧ r.side = side then
        let (others, left) := releaseFrom owner symbol side (amount - r.quantity) rest
        ({ r with quantity := r.quantity - amount } :: others, left)
      else
        let (others, left) := releaseFrom owner symbol side amount rest
        (r :: others, left)

/-- A fill comes with the intent it is for, a snapshot with the intents it was computed from. -/
inductive ReservationAction where
  | evaluate (request : RiskEvaluationRequest)
  | applyFill (update : FillUpdate) (owner : IntentId)
  | installPortfolioSnapshot (snapshot : PortfolioSnapshot) (orders : List IntentId)

/-- An engine with its reservations, the last snapshot and what was released of its orders since. -/
structure ReservationHistory where
  engine : Engine
  outstanding : List Reservation := []
  carried : Nat → PendingSide → Nat
  released : Nat → PendingSide → Nat := fun _ _ => 0

namespace ReservationHistory

def start (e : Engine) : ReservationHistory :=
  { engine := e, carried := fun symbol => (e.symbolState symbol).pending }

def reservation (e : Engine) (request : RiskEvaluationRequest) : Option Reservation :=
  if e.Approves request ∧ request.isCancel = false then
    (e.findSymbol request.intent.instrumentId).map fun symbol =>
      { intentId := request.intent.intentId
        symbol
        side := request.intent.action.side
        quantity := request.intent.quantityUnits.toNat }
  else none

/-- What a fill does to the reservations of its order. -/
def releasedBy (h : ReservationHistory) (update : FillUpdate) (owner : IntentId) :
    List Reservation × Nat :=
  releaseFrom owner update.symbolIndex.toNat update.side.side
    update.releaseReservedQuantityUnits.toNat h.outstanding

def step (h : ReservationHistory) : ReservationAction → ReservationHistory
  | .evaluate request =>
      { h with
        engine := (h.engine.evaluate request).1
        outstanding := (reservation h.engine request).toList ++ h.outstanding }
  | .applyFill update owner =>
      if (h.engine.applyFill update).2 = .applied then
        { h with
          engine := (h.engine.applyFill update).1
          outstanding := (h.releasedBy update owner).1
          released := fun symbol side =>
            h.released symbol side +
              if symbol = update.symbolIndex.toNat ∧ update.side.side = side then
                (h.releasedBy update owner).2
              else 0 }
      else { h with engine := (h.engine.applyFill update).1 }
  | .installPortfolioSnapshot snapshot orders =>
      if h.engine.Installs snapshot then
        { engine := (h.engine.installPortfolioSnapshot snapshot).1
          outstanding := h.outstanding.filter (·.intentId ∉ orders)
          carried := snapshotPending h.engine.limits snapshot }
      else { h with engine := (h.engine.installPortfolioSnapshot snapshot).1 }

/-- A snapshot was computed from every order of which something is still reserved. -/
def Contains (h : ReservationHistory) : ReservationAction → Prop
  | .installPortfolioSnapshot snapshot orders =>
      h.engine.Installs snapshot → ∀ r ∈ h.outstanding, r.quantity ≠ 0 → r.intentId ∈ orders
  | _ => True

/-- What the last snapshot had and what was reserved since is pending, up to what was released of
the orders that the snapshot had. -/
def Kept (h : ReservationHistory) : Prop :=
  ∀ symbol < h.engine.limits.symbols.length, ∀ side,
    h.carried symbol side + reservedOn h.outstanding symbol side ≤
      (h.engine.symbolState symbol).pending side + h.released symbol side

/-- The reservations are on symbols of the limits. -/
def Configured (h : ReservationHistory) : Prop :=
  ∀ r ∈ h.outstanding, r.symbol < h.engine.limits.symbols.length

variable {h : ReservationHistory}

theorem reservedOn_append (first second : List Reservation) (symbol : Nat) (side : PendingSide) :
    reservedOn (first ++ second) symbol side =
      reservedOn first symbol side + reservedOn second symbol side := by
  simp [reservedOn]

theorem reservedOn_singleton (r : Reservation) (symbol : Nat) (side : PendingSide) :
    reservedOn [r] symbol side = if r.symbol = symbol ∧ r.side = side then r.quantity else 0 := by
  unfold reservedOn
  by_cases on : r.symbol = symbol ∧ r.side = side <;> simp [on]

theorem reservedOn_cons (r : Reservation) (rest : List Reservation) (symbol : Nat)
    (side : PendingSide) : reservedOn (r :: rest) symbol side =
      (if r.symbol = symbol ∧ r.side = side then r.quantity else 0) +
        reservedOn rest symbol side := by
  rw [← reservedOn_singleton, ← reservedOn_append, List.singleton_append]

/-- Nothing is reserved on a side exactly if nothing is left of any order there. -/
theorem reservedOn_eq_zero_iff {reservations : List Reservation} {symbol : Nat}
    {side : PendingSide} : reservedOn reservations symbol side = 0 ↔
      ∀ r ∈ reservations, r.symbol = symbol → r.side = side → r.quantity = 0 := by
  rw [reservedOn, List.sum_eq_zero_iff, List.forall_mem_map]
  simp

/-- A release takes its amount off the reservations, but for what is left over, and touches one
side of one symbol only. -/
theorem reservedOn_releaseFrom (owner : IntentId) (symbol place : Nat) (side other : PendingSide)
    (amount : Nat) (reservations : List Reservation) :
    reservedOn (releaseFrom owner place other amount reservations).1 symbol side +
        (if symbol = place ∧ other = side then amount else 0) =
      reservedOn reservations symbol side + if symbol = place ∧ other = side then
        (releaseFrom owner place other amount reservations).2 else 0 := by
  induction reservations generalizing amount with
  | nil => simp [releaseFrom]
  | cons r rest ih =>
    by_cases own : r.intentId = owner ∧ r.symbol = place ∧ r.side = other
    · have taken := ih (amount - r.quantity)
      rw [releaseFrom, if_pos own]
      simp only [reservedOn_cons, own.2.1, own.2.2, eq_comm (a := place)]
      split at taken <;> rename_i here
      · rw [if_pos here, if_pos here, if_pos here, if_pos here]
        omega
      · rw [if_neg here, if_neg here, if_neg here, if_neg here]
        omega
    · have taken := ih amount
      rw [releaseFrom, if_neg own]
      simp only [reservedOn_cons]
      omega

theorem exists_of_mem_releaseFrom {owner : IntentId} {place : Nat} {other : PendingSide}
    {amount : Nat} {reservations : List Reservation} {r : Reservation}
    (mem : r ∈ (releaseFrom owner place other amount reservations).1) :
    ∃ before ∈ reservations, before.symbol = r.symbol := by
  induction reservations generalizing amount with
  | nil => nomatch mem
  | cons first rest ih =>
    rw [releaseFrom] at mem
    split at mem
    all_goals
      rcases List.mem_cons.mp mem with head | later
      · exact ⟨first, List.mem_cons_self, by rw [head]⟩
      · obtain ⟨before, among, same⟩ := ih later
        exact ⟨before, List.mem_cons_of_mem _ among, same⟩

theorem Kept.evaluate (kept : h.Kept) (request : RiskEvaluationRequest) :
    (h.step (.evaluate request)).Kept := by
  obtain ⟨same, written⟩ := h.engine.evaluate_cases request
  intro symbol configured side
  have before := kept symbol (same.limits ▸ configured) side
  simp only [step, reservedOn_append]
  rcases written with ⟨approves, place, facts, -, ⟨cancel, symbols⟩ | ⟨order, state, reserved, symbols⟩⟩ |
    ⟨refuses, symbols⟩
  · rw [symbols, reservation, if_neg (by simp [cancel])]
    simpa [reservedOn] using before
  · rw [symbols, reservation, if_pos ⟨approves, order⟩, facts.symbol]
    simp only [map_some, toList_some, reservedOn_singleton]
    have added := pending_of_reserve reserved side
    by_cases here : symbol = place
    · subst symbol
      simp only [Function.update_self, true_and]
      omega
    · rw [Function.update_of_ne here, if_neg fun both => here both.1.symm]
      omega
  · rw [symbols, reservation, if_neg fun approved => refuses approved.1]
    simpa [reservedOn] using before

theorem Kept.applyFill (kept : h.Kept) (update : FillUpdate) (owner : IntentId) :
    (h.step (.applyFill update owner)).Kept := by
  obtain ⟨⟨same, -⟩, ⟨applied, enough, position, symbols⟩ | ⟨refused, symbols⟩⟩ :=
    h.engine.applyFill_cases update
  · simp only [step, if_pos applied]
    intro symbol configured side
    have before := kept symbol (same.limits ▸ configured) side
    -- The engine and the reservations lose the same amount, but for what is left over.
    have released := reservedOn_releaseFrom owner symbol update.symbolIndex.toNat side
      update.side.side update.releaseReservedQuantityUnits.toNat h.outstanding
    have taken := pending_filledSymbol enough position side
    unfold releasedBy
    by_cases here : symbol = update.symbolIndex.toNat
    · subst symbol
      simp only [symbols, Function.update_self, true_and] at released ⊢
      omega
    · simp only [symbols, Function.update_of_ne here, here, false_and, if_false] at released ⊢
      omega
  · simp only [step, if_neg refused]
    intro symbol configured side
    rw [symbols]
    exact kept symbol (same.limits ▸ configured) side

/-- After a snapshot exactly what it has is pending, whatever was reserved before. -/
theorem pending_installPortfolioSnapshot {snapshot : PortfolioSnapshot}
    (installs : h.engine.Installs snapshot) (orders : List IntentId) {symbol : Nat}
    (configured : symbol < h.engine.limits.symbols.length) (side : PendingSide) :
    ((h.step (.installPortfolioSnapshot snapshot orders)).engine.symbolState symbol).pending side =
      snapshotPending h.engine.limits snapshot symbol side := by
  rw [step, if_pos installs]
  exact pending_of_installs installs configured side

/-- A snapshot keeps the reservations exactly if it was computed from all their orders. -/
theorem kept_installPortfolioSnapshot_iff (base : h.Configured) (kept : h.Kept)
    (snapshot : PortfolioSnapshot) (orders : List IntentId) :
    (h.step (.installPortfolioSnapshot snapshot orders)).Kept ↔
      h.Contains (.installPortfolioSnapshot snapshot orders) := by
  obtain ⟨same, -⟩ := h.engine.installPortfolioSnapshot_controls snapshot
  by_cases installs : h.engine.Installs snapshot
  · have limits : (h.step (.installPortfolioSnapshot snapshot orders)).engine.limits =
        h.engine.limits := by
      rw [step, if_pos installs]
      exact same.limits
    -- Both sides say that nothing is left of the orders the snapshot does not have.
    have empty : (h.step (.installPortfolioSnapshot snapshot orders)).Kept ↔
        ∀ symbol < h.engine.limits.symbols.length, ∀ side,
          reservedOn (h.outstanding.filter (·.intentId ∉ orders)) symbol side = 0 := by
      unfold Kept
      rw [limits]
      refine forall_congr' fun symbol => forall_congr' fun configured => forall_congr' fun side => ?_
      rw [pending_installPortfolioSnapshot installs orders configured side]
      simp only [step, if_pos installs]
      omega
    rw [empty]
    constructor
    · intro none _ r mem left
      by_contra missing
      have gone := reservedOn_eq_zero_iff.mp (none r.symbol (base r mem) r.side) r
        (List.mem_filter.mpr ⟨mem, by simpa using missing⟩) rfl rfl
      exact left gone
    · intro contains symbol _ side
      refine reservedOn_eq_zero_iff.mpr fun r mem _ _ => ?_
      obtain ⟨mem, missing⟩ := List.mem_filter.mp mem
      by_contra left
      exact of_decide_eq_true missing (contains installs r mem left)
  · refine iff_of_true ?_ fun done => absurd done installs
    rcases h.engine.installPortfolioSnapshot_cases snapshot with ⟨done, -⟩ | ⟨-, next⟩
    · exact absurd done installs
    · simp only [step, if_neg installs, next]
      exact kept

/-- Only a snapshot can lose a reservation. -/
theorem kept_step_iff (base : h.Configured) (kept : h.Kept) (action : ReservationAction) :
    (h.step action).Kept ↔ h.Contains action := by
  cases action with
  | evaluate request => exact iff_of_true (kept.evaluate request) trivial
  | applyFill update owner => exact iff_of_true (kept.applyFill update owner) trivial
  | installPortfolioSnapshot snapshot orders =>
    exact kept_installPortfolioSnapshot_iff base kept snapshot orders

theorem Configured.step (base : h.Configured) (action : ReservationAction) :
    (h.step action).Configured := by
  cases action with
  | evaluate request =>
    obtain ⟨same, -⟩ := h.engine.evaluate_cases request
    intro r mem
    simp only [ReservationHistory.step] at mem ⊢
    rw [same.limits]
    rcases List.mem_append.mp mem with new | old
    · simp only [reservation, mem_toList] at new
      split at new
      · obtain ⟨symbol, found, rfl⟩ := map_eq_some_iff.mp new
        exact (List.findIdx?_eq_some_iff_getElem.mp found).1
      · nomatch new
    · exact base r old
  | applyFill update owner =>
    obtain ⟨⟨same, -⟩, -⟩ := h.engine.applyFill_cases update
    simp only [ReservationHistory.step]
    split
    · intro r mem
      obtain ⟨before, among, sameSymbol⟩ := exists_of_mem_releaseFrom mem
      rw [same.limits, ← sameSymbol]
      exact base before among
    · intro r mem
      rw [same.limits]
      exact base r mem
  | installPortfolioSnapshot snapshot orders =>
    obtain ⟨same, -⟩ := h.engine.installPortfolioSnapshot_controls snapshot
    simp only [ReservationHistory.step]
    split
    · intro r mem
      rw [same.limits]
      exact base r (List.mem_filter.mp mem).1
    · intro r mem
      rw [same.limits]
      exact base r mem

theorem kept_start (e : Engine) : (start e).Kept := by
  intro symbol _ side
  simp [start, reservedOn]

theorem configured_start (e : Engine) : (start e).Configured := by
  simp [start, Configured]

instance (h : ReservationHistory) : (action : ReservationAction) → Decidable (h.Contains action)
  | .installPortfolioSnapshot snapshot orders =>
      inferInstanceAs (Decidable (h.engine.Installs snapshot →
        ∀ r ∈ h.outstanding, r.quantity ≠ 0 → r.intentId ∈ orders))
  | .evaluate _ | .applyFill .. => .isTrue trivial

end ReservationHistory

/-- A run keeps its reservations exactly if each snapshot was computed from all orders of which
something was reserved then: evaluations and fills of other orders lose nothing. After a snapshot
that lacks an order, the bound holds for the order only if nothing of it was left. -/
theorem reservations_kept (e : Engine) (actions : List ReservationAction) :
    (Always ReservationHistory.step ReservationHistory.Kept (.start e) actions ↔
      Throughout ReservationHistory.step ReservationHistory.Contains (.start e) actions) ∧
    ∀ snapshot orders,
      let h := run ReservationHistory.step (.start e) actions
      h.engine.Installs snapshot → ∀ r ∈ h.outstanding, r.intentId ∉ orders →
        (snapshotPending h.engine.limits snapshot r.symbol r.side + r.quantity ≤
            ((h.step (.installPortfolioSnapshot snapshot orders)).engine.symbolState
              r.symbol).pending r.side ↔
          r.quantity = 0) := by
  refine ⟨always_iff_throughout (I := ReservationHistory.Configured)
    (fun _ action base => base.step action)
    (fun _ action base kept => ReservationHistory.kept_step_iff base kept action)
    (ReservationHistory.configured_start e) (ReservationHistory.kept_start e), ?_⟩
  intro snapshot orders h installs r mem _
  have base : h.Configured := run_preserves (fun _ action base => base.step action)
    (ReservationHistory.configured_start e) actions
  rw [ReservationHistory.pending_installPortfolioSnapshot installs orders (base r mem) r.side]
  omega

def portfolioSnapshot (sequence pendingBuy : UInt64) : PortfolioSnapshot :=
  let snapshot : PortfolioSnapshot :=
    { sessionId := ⟨1, 1⟩
      configurationVersion := ⟨6, 6⟩
      sequence
      asOfProcessMonotonicTimeNs := TestSupport.kNow - 10
      health := .healthy
      ready := true
      instruments := [{ instrumentId := ⟨5, 5⟩, markPriceTicks := 100
                        pendingBuyQuantityUnits := pendingBuy }]
      strategies := [{ strategyId := ⟨3, 3⟩ }]
      accounts := [{ accountId := ⟨2, 2⟩ }] }
  { snapshot with stableHash := stableSnapshotHash snapshot }

/-- Two approvals, the first one filled in part and known to the second snapshot. -/
def countedRun : List ReservationAction :=
  [.installPortfolioSnapshot (portfolioSnapshot 1 0) [], .evaluate (TestSupport.request 1),
   .applyFill { fillQuantityUnits := 4, releaseReservedQuantityUnits := 4
                asOfProcessMonotonicTimeNs := TestSupport.kNow } ⟨20, 1⟩,
   .installPortfolioSnapshot (portfolioSnapshot 2 6) [⟨20, 1⟩],
   .evaluate (TestSupport.request 2)]

theorem reservations_kept_of_countedRun :
    ((run ReservationHistory.step (.start (Engine.construct TestSupport.limits))
        countedRun).outstanding.map (fun r => (r.intentId, r.quantity)) = [(⟨20, 2⟩, 10)] ∧
      ((run ReservationHistory.step (.start (Engine.construct TestSupport.limits))
        countedRun).engine.symbolState 0).pending .buy = 16) ∧
    Always ReservationHistory.step ReservationHistory.Kept
      (.start (Engine.construct TestSupport.limits)) countedRun :=
  ⟨by decide +kernel, (reservations_kept _ _).1.mpr (by decide +kernel)⟩

/-- An approval unknown to the second snapshot. -/
def overtakenRun : List ReservationAction :=
  [.installPortfolioSnapshot (portfolioSnapshot 1 0) [], .evaluate (TestSupport.request 1),
   .installPortfolioSnapshot (portfolioSnapshot 2 0) []]

/-- The second snapshot overwrites a reservation. -/
theorem reservation_lost_of_overtakenRun :
    ¬ (run ReservationHistory.step (.start (Engine.construct TestSupport.limits))
      overtakenRun).Kept := by
  intro kept
  have numbers :
      let h := (run ReservationHistory.step (.start (Engine.construct TestSupport.limits))
        overtakenRun)
      0 < h.engine.limits.symbols.length ∧ ¬ h.carried 0 .buy + reservedOn h.outstanding 0 .buy ≤
          (h.engine.symbolState 0).pending .buy + h.released 0 .buy := by
    decide +kernel
  exact numbers.2 (kept 0 numbers.1 .buy)

end Aegis.Risk
