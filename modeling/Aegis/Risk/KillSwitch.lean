import Aegis.Foundation.Runs
import Aegis.Risk.EngineLaws
import Aegis.Risk.TestSupport

/-!
Kill switches by identity. The kills are masks over places in the limits in force, and survive the
installation of new limits.
-/

namespace Aegis.Risk

open Aegis.Common Aegis.Foundation Engine List

inductive Identity where
  | instrument (id : InstrumentId)
  | strategy (id : StrategyId)
  | venue (id : VenueId)
  deriving DecidableEq

inductive Scope where
  | symbol | strategy | venue
  deriving DecidableEq

def KillSwitchScope.placed : KillSwitchScope → Option Scope
  | .symbol => some .symbol
  | .strategy => some .strategy
  | .venue => some .venue
  | _ => none

def RiskLimitSnapshot.identities (limits : RiskLimitSnapshot) : Scope → List Identity
  | .symbol => limits.symbols.map (.instrument ·.instrumentId)
  | .strategy => limits.strategies.map (.strategy ·.strategyId)
  | .venue => limits.venues.map (.venue ·.venueId)

def Engine.killMask (e : Engine) : Scope → UInt64
  | .symbol => e.symbolKillMask
  | .strategy => e.strategyKillMask
  | .venue => e.venueKillMask

def RiskIntent.identities (intent : RiskIntent) : List Identity :=
  [.instrument intent.instrumentId, .strategy intent.strategyId, .venue intent.venueId]

variable {limits : RiskLimitSnapshot} {place : Nat} {identity : Identity}

theorem RiskLimitSnapshot.nodup_identities (valid : validLimitSnapshot limits) (scope : Scope) :
    (limits.identities scope).Nodup := by
  have facts := LimitFacts.of_valid valid
  cases scope with
  | symbol =>
    have ids := facts.instruments.map (f := Identity.instrument) fun _ _ same => by cases same; rfl
    rwa [map_map] at ids
  | strategy =>
    have ids := facts.strategyIds.map (f := Identity.strategy) fun _ _ same => by cases same; rfl
    rwa [map_map] at ids
  | venue =>
    have ids := facts.venueIds.map (f := Identity.venue) fun _ _ same => by cases same; rfl
    rwa [map_map] at ids

theorem RiskLimitSnapshot.place_lt (valid : validLimitSnapshot limits) {scope : Scope}
    (found : (limits.identities scope)[place]? = some identity) : place < 64 := by
  have facts := LimitFacts.of_valid valid
  have below := (List.getElem?_eq_some_iff.mp found).1
  have symbols := facts.symbols
  have strategies := facts.strategies
  have venues := facts.venues
  unfold kMaximumRiskSymbols at symbols
  unfold kMaximumRiskStrategies at strategies
  unfold kMaximumRiskVenues at venues
  cases scope <;> simp only [RiskLimitSnapshot.identities, List.length_map] at below <;> omega

/-- An engine with the identities killed and not cleared. -/
structure KillHistory where
  engine : Engine
  killed : List Identity := []

def Engine.target (e : Engine) (update : KillSwitchUpdate) : Option Identity := do
  let scope ← update.scope.placed
  (e.limits.identities scope)[update.targetIndex.toNat]?

def afterCommand (killed : List Identity) (target : Option Identity) (engaged : Bool) :
    List Identity :=
  match target with
  | none => killed
  | some identity => if engaged then identity :: killed else killed.filter (· ≠ identity)

namespace KillHistory

/-- An applied command kills, an authorized one clears. -/
def step (h : KillHistory) (action : EngineAction) : KillHistory :=
  match action with
  | .updateKillSwitch update =>
      if (h.engine.updateKillSwitch update).2 = .applied ∧
          (update.engaged ∨ update.operatorAuthorized) then
        ⟨h.engine.step action, afterCommand h.killed (h.engine.target update) update.engaged⟩
      else { h with engine := h.engine.step action }
  | _ => { h with engine := h.engine.step action }

/-- Every killed identity stands at places whose bit is set. -/
def Covered (killed : List Identity) (limits : RiskLimitSnapshot) (masks : Scope → UInt64) : Prop :=
  ∀ scope, ∀ place identity, (limits.identities scope)[place]? = some identity →
    identity ∈ killed → hasBit (masks scope) place = true

/-- New limits leave every killed identity covered. -/
def Keeps (h : KillHistory) : EngineAction → Prop
  | .installLimits limits =>
      (h.engine.installLimits limits).2 = .installed → Covered h.killed limits h.engine.killMask
  | _ => True

/-- No intent for a killed identity would be approved. -/
def Safe (h : KillHistory) : Prop :=
  ∀ request : RiskEvaluationRequest, ∀ identity ∈ request.intent.identities,
    identity ∈ h.killed → ¬ h.engine.Approves request

/-- The masks cover the killed identities of the limits in force. -/
structure Tracked (h : KillHistory) : Prop where
  valid : h.engine.initialized = true → validLimitSnapshot h.engine.limits = true
  covered : Covered h.killed h.engine.limits h.engine.killMask

end KillHistory

section Commands

variable {e : Engine} {update : KillSwitchUpdate} {scope : Scope}

theorem scope_unique {scope' : Scope} {place' : Nat}
    (first : (limits.identities scope)[place]? = some identity)
    (second : (limits.identities scope')[place']? = some identity) : scope = scope' := by
  have member := mem_of_getElem? first
  have member' := mem_of_getElem? second
  cases scope <;> cases scope' <;>
    simp only [RiskLimitSnapshot.identities, mem_map] at member member' <;>
    first
      | rfl
      | (obtain ⟨_, -, rfl⟩ := member; obtain ⟨_, -, clash⟩ := member'; cases clash)

theorem limits_switchKill : (e.switchKill update).limits = e.limits := by
  unfold switchKill
  split <;> rfl

theorem killMask_switchKill : (e.switchKill update).killMask scope =
      if update.scope.placed = some scope then
        applyKill update.engaged (e.killMask scope) (indexBit update.targetIndex.toNat)
      else e.killMask scope := by
  unfold switchKill KillSwitchScope.placed
  cases update.scope <;> cases scope <;> rfl

theorem target_lt (valid : validKillTarget update)
    (placed : update.scope.placed = some scope) : update.targetIndex.toNat < 64 := by
  unfold validKillTarget kMaximumRiskSymbols kMaximumRiskStrategies kMaximumRiskVenues at valid
  unfold KillSwitchScope.placed at placed
  cases named : update.scope <;> rw [named] at placed valid <;> simp at placed valid <;> omega

theorem covered_switchKill {killed : List Identity} (valid : validKillTarget update)
    (limits : validLimitSnapshot e.limits)
    (covered : KillHistory.Covered killed e.limits e.killMask) :
    KillHistory.Covered (afterCommand killed (e.target update) update.engaged) e.limits
      (e.switchKill update).killMask := by
  intro scope place identity found mem
  have small := RiskLimitSnapshot.place_lt limits found
  rw [killMask_switchKill]
  split
  · rename_i placed
    have targetSmall := target_lt valid placed
    have target : e.target update = (e.limits.identities scope)[update.targetIndex.toNat]? := by
      simp [target, placed]
    rw [target] at mem
    unfold applyKill
    cases engaged : update.engaged with
    | true =>
      rw [if_pos rfl, hasBit_or_indexBit targetSmall, Bool.or_eq_true, decide_eq_true_eq]
      rw [engaged] at mem
      cases here : (e.limits.identities scope)[update.targetIndex.toNat]? with
      | none =>
        rw [here] at mem
        exact .inl (covered scope place identity found mem)
      | some targeted =>
        rw [here] at mem
        rcases List.mem_cons.mp mem with rfl | before
        · -- The identity has one place, the targeted one.
          exact .inr ((List.getElem?_inj (List.getElem?_eq_some_iff.mp here).1
            (RiskLimitSnapshot.nodup_identities limits scope)).mp (here.trans found.symm))
        · exact .inl (covered scope place identity found before)
    | false =>
      rw [if_neg Bool.false_ne_true, hasBit_and_not_indexBit targetSmall small,
        Bool.and_eq_true, decide_eq_true_eq]
      rw [engaged] at mem
      have elsewhere : update.targetIndex.toNat ≠ place := by
        rintro rfl
        rw [found] at mem
        simp [afterCommand] at mem
      have before : identity ∈ killed := by
        unfold afterCommand at mem
        split at mem
        · exact mem
        · exact (List.mem_filter.mp mem).1
      exact ⟨covered scope place identity found before, elsewhere⟩
  · rename_i other
    -- A command for another scope cannot add an identity of this one.
    refine covered scope place identity found ?_
    unfold afterCommand at mem
    split at mem
    · exact mem
    rename_i targeted here
    split at mem
    · rcases List.mem_cons.mp mem with rfl | before
      · obtain ⟨scope', placed, there⟩ := Option.bind_eq_some_iff.mp here
        exact absurd (scope_unique found there ▸ placed) other
      · exact before
    · exact (List.mem_filter.mp mem).1

end Commands

namespace KillHistory

variable {h : KillHistory}

section

variable (tracked : h.Tracked)
include tracked

theorem Tracked.of_sameControls {next : Engine}
    (same : h.engine.SameControls next) : Tracked { h with engine := next } := by
  refine ⟨fun ready => ?_, ?_⟩
  · rw [same.limits]
    exact tracked.valid (same.initialized ▸ ready)
  have masks : next.killMask = h.engine.killMask := by
    funext scope
    cases scope
    · exact same.symbolKillMask
    · exact same.strategyKillMask
    · exact same.venueKillMask
  simp only [same.limits, masks]
  exact tracked.covered

theorem Tracked.installLimits
    (keeps : h.Keeps (.installLimits limits)) : (h.step (.installLimits limits)).Tracked := by
  rcases h.engine.installLimits_cases limits with ⟨done, valid, next⟩ | ⟨-, same⟩
  · have masks : (h.engine.installed limits).killMask = h.engine.killMask := by
      funext scope
      cases scope <;> rfl
    simp only [step, Engine.step, next]
    refine ⟨fun _ => valid, ?_⟩
    simp only [masks]
    exact keeps done
  · simp only [step, Engine.step, same]
    exact tracked

theorem Tracked.updateKillSwitch (update : KillSwitchUpdate) :
    (h.step (.updateKillSwitch update)).Tracked := by
  rcases h.engine.updateKillSwitch_cases update with
    ⟨applied, ready, authorized, target, next⟩ | ⟨refused, same⟩
  · have valid := tracked.valid ready
    simp only [step, Engine.step, if_pos (And.intro applied authorized), next]
    refine ⟨fun _ => by simp only [limits_switchKill]; exact valid, ?_⟩
    simp only [limits_switchKill]
    exact covered_switchKill target valid tracked.covered
  · simp only [step, Engine.step, refused, false_and, if_false, same]
    exact tracked

/-- Operations leave the kills tracked. -/
theorem Tracked.step {action : EngineAction} (keeps : h.Keeps action) :
    (h.step action).Tracked := by
  cases action with
  | evaluate request => exact tracked.of_sameControls (h.engine.evaluate_cases request).1
  | installLimits limits => exact tracked.installLimits keeps
  | updateKillSwitch update => exact tracked.updateKillSwitch update
  | _ => exact tracked.of_sameControls (h.engine.step_controls rfl).1

end

theorem tracked_construct (limits : RiskLimitSnapshot) : Tracked ⟨construct limits, []⟩ :=
  ⟨id, nofun⟩

theorem getElem?_map_of_findIdx? {α β : Type} [DecidableEq β] {entries : List α} {key : α → β}
    {id : β} (wrap : β → Identity)
    (found : entries.findIdx? (key · == id) = some place) :
    (entries.map fun entry => wrap (key entry))[place]? = some (wrap id) := by
  obtain ⟨below, same, -⟩ := findIdx?_eq_some_iff_getElem.mp found
  rw [getElem?_map, getElem?_eq_getElem below, Option.map_some, eq_of_beq same]

theorem exists_clear_place {e : Engine} {request : RiskEvaluationRequest}
    (valid : validLimitSnapshot e.limits) (approves : e.Approves request)
    (mem : identity ∈ request.intent.identities) :
    ∃ scope place, (e.limits.identities scope)[place]? = some identity ∧
      hasBit (e.killMask scope) place = false := by
  rcases (e.evaluate_cases request).2 with ⟨-, symbolPlace, facts, -⟩ | ⟨refuses, -⟩
  · obtain ⟨strategyPlace, venuePlace, strategy, venue, unkilled⟩ := facts.unkilled
    simp only [applicableKill, Bool.or_eq_false_iff] at unkilled
    obtain ⟨⟨⟨-, symbolClear⟩, strategyClear⟩, venueClear⟩ := unkilled
    have clear (scope) {place identity} (stands : (e.limits.identities scope)[place]? = some identity)
        (bit : (e.killMask scope &&& indexBit place != 0) = false) :
        ∃ scope place, (e.limits.identities scope)[place]? = some identity ∧
          hasBit (e.killMask scope) place = false :=
      ⟨scope, place, stands, by
        rw [← and_indexBit_ne_zero (RiskLimitSnapshot.place_lt valid stands)]; exact bit⟩
    rcases mem_cons.mp mem with rfl | mem
    · exact clear .symbol (getElem?_map_of_findIdx? .instrument facts.symbol) symbolClear
    rcases mem_cons.mp mem with rfl | mem
    · exact clear .strategy (getElem?_map_of_findIdx? .strategy strategy) strategyClear
    · obtain rfl := mem_singleton.mp mem
      exact clear .venue (getElem?_map_of_findIdx? .venue venue) venueClear
  · exact absurd approves refuses

theorem Tracked.safe (tracked : h.Tracked) : h.Safe := by
  intro request identity mem killed approves
  have valid := tracked.valid (initialized_of_approves approves)
  obtain ⟨scope, place, found, clear⟩ := exists_clear_place valid approves mem
  have set := tracked.covered scope place identity found killed
  rw [clear] at set
  cases set

end KillHistory

/-- In every run in which no installation uncovers a killed identity, no intent for one is approved
until an authorized command clears its place. -/
theorem kill_follows_identity (limits : RiskLimitSnapshot) (actions : List EngineAction)
    (keeps : Throughout KillHistory.step KillHistory.Keeps ⟨Engine.construct limits, []⟩ actions) :
    Always KillHistory.step KillHistory.Safe ⟨Engine.construct limits, []⟩ actions := by
  intro before initial
  have tracked := always_of_throughout (P := KillHistory.Tracked)
    (fun _ _ tracked keeps => tracked.step keeps)
    (KillHistory.tracked_construct limits) keeps before initial
  exact tracked.safe

instance (killed : List Identity) (limits : RiskLimitSnapshot) (masks : Scope → UInt64) :
    Decidable (KillHistory.Covered killed limits masks) :=
  decidable_of_iff (∀ scope ∈ [Scope.symbol, .strategy, .venue],
      ∀ entry ∈ (limits.identities scope).zipIdx, entry.1 ∈ killed →
        hasBit (masks scope) entry.2 = true) <| by
    constructor
    · intro covered scope place identity found mem
      refine covered scope ?_ (identity, place) (List.mem_zipIdx_iff_getElem?.mpr found) mem
      cases scope <;> decide
    · intro covered scope _ entry member mem
      exact covered scope entry.2 entry.1 (List.mem_zipIdx_iff_getElem?.mp member) mem

instance (h : KillHistory) : (action : EngineAction) → Decidable (h.Keeps action)
  | .installLimits limits =>
      inferInstanceAs (Decidable ((h.engine.installLimits limits).2 = .installed →
        KillHistory.Covered h.killed limits h.engine.killMask))
  | .evaluate _ | .seedPosition _ | .installPortfolioSnapshot _ | .applyFill _
  | .updateProfitLoss _ | .updateKillSwitch _ | .setStateAvailable _ | .popDecision => .isTrue trivial

/-- Limits with the symbols of the given numbers. -/
def limitsOf (revision : UInt64) (numbers : List UInt64) : RiskLimitSnapshot :=
  TestSupport.sealed { TestSupport.limits with
    revision
    symbols := numbers.map fun number =>
      { TestSupport.symbolLimit with instrumentId := ⟨5, number⟩ } }

/-- Kill a symbol, install other limits, make two symbols current. -/
def killAndInstall (place : UInt32) (later : RiskLimitSnapshot) : List EngineAction :=
  [.updateKillSwitch { scope := .symbol, targetIndex := place, authorityEpoch := 10
                       commandSequence := 1, engaged := true },
   .installLimits later,
   .updateKillSwitch { scope := .firm, authorityEpoch := 10, commandSequence := 2
                       engaged := false, operatorAuthorized := true },
   .setStateAvailable true] ++ TestSupport.initializeState ++
  [.seedPosition { symbolIndex := 1, markPriceTicks := 100
                   asOfProcessMonotonicTimeNs := TestSupport.kNow - 10 }]

/-- One of two symbols is killed, and the other replaced. -/
theorem kill_follows_identity_of_replacement :
    (run KillHistory.step ⟨Engine.construct (limitsOf 1 [9, 6]), []⟩
        (killAndInstall 1 (limitsOf 2 [5, 6]))).killed = [.instrument ⟨5, 6⟩] ∧
    (run KillHistory.step ⟨Engine.construct (limitsOf 1 [9, 6]), []⟩
        (killAndInstall 1 (limitsOf 2 [5, 6]))).engine.Approves (TestSupport.request 1) ∧
    Always KillHistory.step KillHistory.Safe ⟨Engine.construct (limitsOf 1 [9, 6]), []⟩
      (killAndInstall 1 (limitsOf 2 [5, 6])) :=
  ⟨by decide +kernel, by decide +kernel, kill_follows_identity _ _ (by decide +kernel)⟩

/-- The symbols are exchanged in the later limits. -/
theorem killed_approved_of_reordering :
    ¬ (run KillHistory.step ⟨Engine.construct (limitsOf 1 [5, 6]), []⟩
      (killAndInstall 0 (limitsOf 2 [6, 5]))).Safe := by
  intro safe
  have approved :
      let h := run KillHistory.step ⟨Engine.construct (limitsOf 1 [5, 6]), []⟩
        (killAndInstall 0 (limitsOf 2 [6, 5]))
      h.engine.Approves (TestSupport.request 1) ∧ Identity.instrument ⟨5, 5⟩ ∈ h.killed := by
    decide +kernel
  exact safe (TestSupport.request 1) _ (List.mem_cons_self ..) approved.2 approved.1

end Aegis.Risk
