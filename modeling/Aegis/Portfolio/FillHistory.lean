import Aegis.Foundation.OrderedSelection
import Aegis.Portfolio.HandlerEffects
import Aegis.Portfolio.TestSupport

/-!
Positions as the fold of their fills: every position is what its active fills make of its base, in
order.
-/

namespace Aegis.Portfolio

open Aegis.Common Aegis.Foundation Function PositionSlot List Nat

def FillEntry.notAfter (left right : FillEntry) : Prop :=
  left.applicationOrdinal ≤ right.applicationOrdinal

instance : DecidableRel FillEntry.notAfter :=
  fun left right => inferInstanceAs (Decidable (left.applicationOrdinal ≤ right.applicationOrdinal))

instance : Std.Total FillEntry.notAfter := ⟨fun _ _ => UInt64.le_total _ _⟩

instance : IsTrans FillEntry FillEntry.notAfter := ⟨fun _ _ _ => UInt64.le_trans⟩

/-- What a fill contributes: nothing once it is busted. -/
def FillEntry.counted (fill : FillEntry) : List FillEntry :=
  if fill.active then [fill] else []

namespace PortfolioRiskService

variable {s t : PortfolioRiskService} {event : PortfolioEvent} {internal : InternalApplyResult}
  {call : Call}

def SameKey (position position' : PositionSlot) : Prop :=
  position'.accountId = position.accountId ∧ position'.strategyId = position.strategyId ∧
    position'.instrumentId = position.instrumentId

/-- Which fill belongs to which position, and when. -/
structure Skeleton (s : PortfolioRiskService) : Prop where
  ordinals : ∀ index, (s.fills index).occupied = true →
    (s.fills index).applicationOrdinal ≤ s.eventOrdinal
  distinct : ∀ index index', (s.fills index).occupied = true → (s.fills index').occupied = true →
    (s.fills index).applicationOrdinal = (s.fills index').applicationOrdinal → index = index'
  generations : ∀ index, (s.fills index).occupied = true →
    ∃ instrument, s.findInstrument (s.fills index).instrumentId = some instrument ∧
      (s.fills index).actionGeneration ≤ s.corporateActionGenerations instrument
  current : ∀ index, (s.positions index).occupied = true →
    ∃ instrument, s.findInstrument (s.positions index).instrumentId = some instrument ∧
      (s.positions index).actionGeneration = s.corporateActionGenerations instrument
  unique : ∀ index index', (s.positions index).occupied = true →
    (s.positions index').occupied = true →
    SameKey (s.positions index) (s.positions index') → index = index'
  positioned : ∀ index, (s.fills index).occupied = true →
    ∃ position, (s.positions position).isFor (s.fills index).accountId (s.fills index).strategyId
      (s.fills index).instrumentId = true

/-- The books: every position is the fold of its fills. -/
structure Ledger (s : PortfolioRiskService) : Prop extends Skeleton s where
  folded : ∀ index, (s.positions index).occupied = true → s.Folded index

variable {position : PositionSlot}

theorem countsFor_iff {fill : FillEntry} : fill.countsFor position ↔
      fill.occupied ∧ fill.active ∧ fill.accountId = position.accountId ∧
        fill.strategyId = position.strategyId ∧ fill.instrumentId = position.instrumentId ∧
        fill.actionGeneration = position.actionGeneration := by
  simp [FillEntry.countsFor, and_assoc]

variable {accountId : AccountId} {strategyId : StrategyId} {instrumentId : InstrumentId}

theorem isFor_iff : position.isFor accountId strategyId instrumentId ↔
      position.occupied ∧ position.accountId = accountId ∧
        position.strategyId = strategyId ∧ position.instrumentId = instrumentId := by
  simp [isFor, and_assoc]

variable {index positionIndex : Fin kMaximumPortfolioPositions} {instrument : Nat}
  {fillIndex : Fin kMaximumPortfolioFills}

theorem isFor_of_findPosition
    (found : s.findPosition accountId strategyId instrumentId = some index) :
    (s.positions index).isFor accountId strategyId instrumentId := by
  generalize finRange kMaximumPortfolioPositions = indices at found
  have holds := find?_some found
  exact holds

theorem findPosition_eq_none (absent : s.findPosition accountId strategyId instrumentId = none)
    (index : Fin kMaximumPortfolioPositions) :
    (s.positions index).isFor accountId strategyId instrumentId = false := by
  have noneFound := find?_eq_none.mp absent index (mem_finRange index)
  simpa using noneFound

theorem findInstrument_injective {instrumentId' : InstrumentId} {index : Nat}
    (found : s.findInstrument instrumentId = some index)
    (found' : s.findInstrument instrumentId' = some index) : instrumentId = instrumentId' := by
  obtain ⟨below, here, -⟩ := findIdx?_eq_some_iff_getElem.mp found
  obtain ⟨_, here', -⟩ := findIdx?_eq_some_iff_getElem.mp found'
  rw [beq_iff_eq] at here here'
  exact here.symm.trans here'

theorem Skeleton.ranked (skeleton : Skeleton s) (position : PositionSlot) :
    Ranked FillEntry.notAfter (·.countsFor position) s.fills := by
  intro i j chosenI chosenJ below above
  exact skeleton.distinct i j (countsFor_iff.mp chosenI).1 (countsFor_iff.mp chosenJ).1
    (UInt64.le_antisymm below above)

theorem Skeleton.putPosition (skeleton : Skeleton s)
    (based : position.atBase = (s.positions index).atBase) :
    Skeleton (s.putPosition index position) := by
  have kept : ∀ other, ((s.putPosition index position).positions other).atBase =
      (s.positions other).atBase := by
    intro other
    by_cases here : other = index
    · subst here
      simpa [PortfolioRiskService.putPosition] using based
    · simp [PortfolioRiskService.putPosition, update_of_ne here]
  have occupied := fun other => congrArg occupied (kept other)
  have account := fun other => congrArg accountId (kept other)
  have strategy := fun other => congrArg strategyId (kept other)
  have instrument := fun other => congrArg instrumentId (kept other)
  have generation := fun other => congrArg actionGeneration (kept other)
  simp only [atBase] at occupied account strategy instrument generation
  refine ⟨skeleton.ordinals, skeleton.distinct, skeleton.generations, ?_, ?_, ?_⟩
  · intro other held
    rw [instrument, generation]
    exact skeleton.current other (occupied other ▸ held)
  · intro first second held held' same
    refine skeleton.unique first second (occupied first ▸ held) (occupied second ▸ held') ?_
    unfold SameKey at same ⊢
    rwa [account, account, strategy, strategy, instrument, instrument] at same
  · intro fill held
    obtain ⟨place, isFor⟩ := skeleton.positioned fill held
    refine ⟨place, ?_⟩
    rw [isFor_iff] at isFor ⊢
    rwa [occupied, account, strategy, instrument]

/-- Identities, ordinal and generation are kept. -/
structure Recast (fill changed : FillEntry) : Prop where
  occupied : changed.occupied = fill.occupied
  accountId : changed.accountId = fill.accountId
  strategyId : changed.strategyId = fill.strategyId
  instrumentId : changed.instrumentId = fill.instrumentId
  ordinal : changed.applicationOrdinal = fill.applicationOrdinal
  generation : changed.actionGeneration = fill.actionGeneration

section

variable {fill changed : FillEntry}

theorem Skeleton.putFill (skeleton : Skeleton s) {index : Fin kMaximumPortfolioFills}
    (recast : Recast (s.fills index) changed) : Skeleton (s.putFill index changed) := by
  have kept : ∀ other, Recast (s.fills other) ((s.putFill index changed).fills other) := by
    intro other
    by_cases here : other = index
    · subst here
      simpa [PortfolioRiskService.putFill] using recast
    · simp only [PortfolioRiskService.putFill, update_of_ne here]
      constructor <;> rfl
  refine ⟨?_, ?_, ?_, skeleton.current, skeleton.unique, ?_⟩
  · intro other held
    rw [(kept other).ordinal]
    exact skeleton.ordinals other ((kept other).occupied ▸ held)
  · intro first second held held' same
    rw [(kept first).ordinal, (kept second).ordinal] at same
    exact skeleton.distinct first second ((kept first).occupied ▸ held)
      ((kept second).occupied ▸ held') same
  · intro other held
    rw [(kept other).instrumentId, (kept other).generation]
    exact skeleton.generations other ((kept other).occupied ▸ held)
  · intro other held
    rw [(kept other).accountId, (kept other).strategyId, (kept other).instrumentId]
    exact skeleton.positioned other ((kept other).occupied ▸ held)

theorem Skeleton.openPosition (skeleton : Skeleton s)
    (absent : s.findPosition accountId strategyId instrumentId = none)
    (known : s.findInstrument instrumentId = some instrument)
    (vacant : (s.positions index).occupied = false) :
    Skeleton (s.putPosition index (Portfolio.openPosition accountId strategyId instrumentId
      (s.corporateActionGenerations instrument))) := by
  refine ⟨skeleton.ordinals, skeleton.distinct, skeleton.generations, ?_, ?_, ?_⟩
  · intro other held
    by_cases here : other = index
    · subst here
      simp only [PortfolioRiskService.putPosition, update_self]
      exact ⟨instrument, known, rfl⟩
    · simp only [PortfolioRiskService.putPosition, update_of_ne here] at held ⊢
      exact skeleton.current other held
  · -- No other position is for the key of the new one.
    have fresh : ∀ other, (s.positions other).occupied →
        ¬ SameKey (Portfolio.openPosition accountId strategyId instrumentId
          (s.corporateActionGenerations instrument)) (s.positions other) := by
      intro other held same
      have missing := findPosition_eq_none absent other
      have present : (s.positions other).isFor accountId strategyId instrumentId :=
        isFor_iff.mpr ⟨held, same.1, same.2.1, same.2.2⟩
      rw [present] at missing
      cases missing
    intro first second held held' same
    refine eq_of_update (R := fun (a b : PositionSlot) => a.occupied ∧ b.occupied ∧ SameKey a b)
      (fun i j both => skeleton.unique i j both.1 both.2.1 both.2.2) ?_ ?_ ⟨held, held', same⟩
    · rintro second - ⟨-, held, same⟩
      exact fresh second held same
    · rintro first - ⟨held, -, same⟩
      exact fresh first held ⟨same.1.symm, same.2.1.symm, same.2.2.symm⟩
  · intro fill held
    obtain ⟨place, isFor⟩ := skeleton.positioned fill held
    refine ⟨place, ?_⟩
    have elsewhere : place ≠ index := by
      rintro rfl
      rw [isFor_iff, vacant] at isFor
      cases isFor.1
    simpa [PortfolioRiskService.putPosition, update_of_ne elsewhere] using isFor

theorem lt_takeOrdinal (room : s.eventOrdinal.toNat + 1 < 2 ^ 64) {ordinal : UInt64}
    (below : ordinal ≤ s.eventOrdinal) : ordinal < s.takeOrdinal.eventOrdinal := by
  rw [UInt64.le_iff_toNat_le] at below
  rw [UInt64.lt_iff_toNat_lt]
  show _ < (s.eventOrdinal + 1).toNat
  rw [UInt64.toNat_add, UInt64.toNat_one, mod_eq_of_lt room]
  omega

theorem Skeleton.takeOrdinal (skeleton : Skeleton s)
    (room : s.eventOrdinal.toNat + 1 < 2 ^ 64) : Skeleton s.takeOrdinal :=
  ⟨fun index held => UInt64.le_of_lt (lt_takeOrdinal room (skeleton.ordinals index held)),
    skeleton.distinct, skeleton.generations, skeleton.current, skeleton.unique,
    skeleton.positioned⟩

/-- A fill in a free slot with an ordinal above all others. -/
structure Fresh (s : PortfolioRiskService) (index : Fin kMaximumPortfolioFills)
    (fill : FillEntry) : Prop where
  vacant : (s.fills index).occupied = false
  last : fill.applicationOrdinal = s.eventOrdinal
  above : ∀ other, (s.fills other).occupied = true →
    (s.fills other).applicationOrdinal < s.eventOrdinal
  generation : ∃ instrument, s.findInstrument fill.instrumentId = some instrument ∧
    fill.actionGeneration ≤ s.corporateActionGenerations instrument
  positioned : ∃ position, (s.positions position).isFor fill.accountId fill.strategyId
    fill.instrumentId = true

theorem Skeleton.addFill (skeleton : Skeleton s) {index : Fin kMaximumPortfolioFills}
    (fresh : Fresh s index fill) : Skeleton (s.putFill index fill) := by
  have stored : (s.putFill index fill).fills index = fill := update_self ..
  have elsewhere : ∀ other, other ≠ index → (s.putFill index fill).fills other = s.fills other :=
    fun other apart => update_of_ne apart ..
  -- The new ordinal is none of the others.
  have apart : ∀ other, (s.fills other).occupied →
      (s.fills other).applicationOrdinal ≠ fill.applicationOrdinal := by
    intro other held same
    have below := fresh.above other held
    rw [same, fresh.last] at below
    exact UInt64.lt_irrefl _ below
  refine ⟨?_, ?_, ?_, skeleton.current, skeleton.unique, ?_⟩
  · intro other held
    by_cases here : other = index
    · rw [here, stored, fresh.last]
      exact UInt64.le_refl _
    · rw [elsewhere other here] at held ⊢
      exact skeleton.ordinals other held
  · intro first second held held' same
    refine eq_of_update (R := fun (a b : FillEntry) => a.occupied ∧ b.occupied ∧
        a.applicationOrdinal = b.applicationOrdinal)
      (fun i j both => skeleton.distinct i j both.1 both.2.1 both.2.2) ?_ ?_ ⟨held, held', same⟩
    · rintro second - ⟨-, held, same⟩
      exact apart second held same.symm
    · rintro first - ⟨held, -, same⟩
      exact apart first held same
  · intro other held
    by_cases here : other = index
    · rw [here, stored]
      exact fresh.generation
    · rw [elsewhere other here] at held ⊢
      exact skeleton.generations other held
  · intro other held
    by_cases here : other = index
    · rw [here, stored]
      exact fresh.positioned
    · rw [elsewhere other here] at held ⊢
      exact skeleton.positioned other held

theorem fillsOf_of_fills (same : t.fills = s.fills) (position : PositionSlot) :
    t.fillsOf position = s.fillsOf position := by
  unfold fillsOf
  rw [same]

theorem Recast.countsFor (recast : Recast fill changed)
    (active : changed.active = fill.active) (position : PositionSlot) :
    changed.countsFor position = fill.countsFor position := by
  unfold FillEntry.countsFor
  rw [recast.occupied, active, recast.accountId, recast.strategyId, recast.instrumentId,
    recast.generation]

theorem fillsOf_putFill_of_not {index : Fin kMaximumPortfolioFills}
    (before : (s.fills index).countsFor position = false)
    (after : fill.countsFor position = false) :
    (s.putFill index fill).fillsOf position = s.fillsOf position := by
  refine inOrder_congr fun other chosen => ?_
  by_cases here : other = index
  · subst here
    simp only [PortfolioRiskService.putFill, update_self, before, after] at chosen
    rcases chosen with chosen | chosen <;> cases chosen
  · simp [PortfolioRiskService.putFill, update_of_ne here]

section

variable (skeleton : Skeleton s)
include skeleton

theorem fillsOf_addFill {index : Fin kMaximumPortfolioFills}
    (fresh : Fresh s index fill) (counts : fill.countsFor position) :
    (s.putFill index fill).fillsOf position = s.fillsOf position ++ [fill] := by
  refine inOrder_insert (skeleton.ranked position) ((skeleton.addFill fresh).ranked position)
    ?_ counts ?_
  · simp [FillEntry.countsFor, fresh.vacant]
  intro other chosen below
  have above := fresh.above other (countsFor_iff.mp chosen).1
  rw [fresh.last] at below
  exact UInt64.lt_irrefl _ (UInt64.lt_of_lt_of_le above below)

theorem fillsOf_putFill {index : Fin kMaximumPortfolioFills}
    (recast : Recast (s.fills index) changed) (counts : (s.fills index).countsFor position) :
    ∃ before after, s.fillsOf position = before ++ s.fills index :: after ∧
      (s.putFill index changed).fillsOf position =
        before ++ (if changed.active then [changed] else []) ++ after := by
  have ranked := skeleton.ranked position
  have ranked' := (skeleton.putFill recast).ranked position
  cases active : changed.active with
  | true =>
    have counts' : changed.countsFor position := by
      obtain ⟨occupied, -, account, strategy, instrument, generation⟩ := countsFor_iff.mp counts
      exact countsFor_iff.mpr ⟨recast.occupied.trans occupied, active,
        recast.accountId.trans account, recast.strategyId.trans strategy,
        recast.instrumentId.trans instrument, recast.generation.trans generation⟩
    obtain ⟨before, after, old, new⟩ := inOrder_replace ranked ranked' counts counts'
      (fun member => by unfold FillEntry.notAfter; rw [recast.ordinal])
    exact ⟨before, after, old, new.trans (by simp)⟩
  | false =>
    have skipped : changed.countsFor position = false := by
      simp [FillEntry.countsFor, active]
    obtain ⟨before, after, old, new⟩ := inOrder_remove ranked ranked' counts skipped
    exact ⟨before, after, old, new.trans (by simp)⟩

theorem Skeleton.not_countsFor
    {other : Fin kMaximumPortfolioPositions}
    (isFor : (s.positions index).isFor fill.accountId fill.strategyId fill.instrumentId)
    (apart : other ≠ index) (held : (s.positions other).occupied) :
    fill.countsFor (s.positions other) = false := by
  by_contra counted
  rw [Bool.not_eq_false, countsFor_iff] at counted
  obtain ⟨occupied, account, strategy, instrument⟩ := isFor_iff.mp isFor
  exact apart (skeleton.unique other index held occupied
    ⟨account.trans counted.2.2.1, strategy.trans counted.2.2.2.1,
      instrument.trans counted.2.2.2.2.1⟩)

theorem Skeleton.ledger_putPosition
    (applied : applyFills s.configuration (s.positions index).atBase
      ((s.fillsOf (s.positions index)).map (·.toFillSlot)) = some position)
    (others : ∀ other, other ≠ index → (s.positions other).occupied → s.Folded other) :
    Ledger (s.putPosition index position) := by
  have kept := atBase_applyFills applied
  have based : position.atBase = (s.positions index).atBase := kept
  refine ⟨skeleton.putPosition based, fun other held => ?_⟩
  by_cases here : other = index
  · subst here
    unfold Folded
    have stored : (s.putPosition other position).positions other = position :=
      update_self ..
    have fills : (s.putPosition other position).fillsOf position = s.fillsOf (s.positions other) :=
      (fillsOf_of_fills rfl position).trans (fillsOf_congr based)
    rw [stored, fills, based]
    exact applied
  · have stored : (s.putPosition index position).positions other = s.positions other :=
      update_of_ne here ..
    rw [stored] at held
    unfold Folded
    rw [stored]
    exact others other here held

end

section

variable (ledger : Ledger s)
include ledger

theorem Ledger.congr (configuration : t.configuration = s.configuration)
    (positions : t.positions = s.positions) (fills : t.fills = s.fills)
    (generations : t.corporateActionGenerations = s.corporateActionGenerations)
    (ordinal : t.eventOrdinal = s.eventOrdinal) : Ledger t := by
  cases s
  cases t
  subst configuration positions fills generations ordinal
  exact ⟨⟨ledger.ordinals, ledger.distinct, ledger.generations, ledger.current, ledger.unique,
    ledger.positioned⟩, ledger.folded⟩

theorem Ledger.confirm {index : Fin kMaximumPortfolioFills}
    (recast : Recast (s.fills index) changed) (active : changed.active = (s.fills index).active)
    (amounts : changed.toFillSlot = (s.fills index).toFillSlot) :
    Ledger (s.putFill index changed) := by
  refine ⟨ledger.putFill recast, fun position held => ?_⟩
  have folded : s.Folded position := ledger.folded position held
  have same : ((s.putFill index changed).fillsOf (s.positions position)).map (·.toFillSlot) =
      (s.fillsOf (s.positions position)).map (·.toFillSlot) := by
    cases counts : (s.fills index).countsFor (s.positions position) with
    | true =>
      obtain ⟨before, after, old, new⟩ := fillsOf_putFill ledger.toSkeleton recast counts
      rw [old, new, active, if_pos (countsFor_iff.mp counts).2.1]
      simp [amounts]
    | false =>
      rw [fillsOf_putFill_of_not counts ((recast.countsFor active _).trans counts)]
  exact (congrArg (applyFills s.configuration (s.positions position).atBase) same).trans folded

theorem Ledger.opened
    (opening : s.findOrCreatePosition accountId strategyId instrumentId = some (index, t)) :
    Ledger t ∧ (t.positions index).isFor accountId strategyId instrumentId := by
  rcases findOrCreatePosition_eq_some opening with
    ⟨found, rfl⟩ | ⟨instrument, absent, known, vacant, rfl⟩
  · exact ⟨ledger, isFor_of_findPosition found⟩
  let position := Portfolio.openPosition accountId strategyId instrumentId
    (s.corporateActionGenerations instrument)
  have stored : (s.putPosition index position).positions index = position :=
    update_self ..
  refine ⟨⟨ledger.openPosition absent known vacant, fun other held => ?_⟩, ?_⟩
  · by_cases here : other = index
    · subst here
      -- A fill of the new position would have had a position before.
      have empty : (s.putPosition other position).fillsOf position = [] := by
        refine eq_nil_iff_forall_not_mem.mpr fun fill mem => ?_
        obtain ⟨k, rfl, counts⟩ := mem_selected ((mem_insertionSort _).mp mem)
        obtain ⟨occupied, -, account, strategy, named, -⟩ := countsFor_iff.mp counts
        obtain ⟨place, isFor⟩ := ledger.positioned k occupied
        have missing := findPosition_eq_none absent place
        have account : (s.fills k).accountId = accountId := account
        have strategy : (s.fills k).strategyId = strategyId := strategy
        have named : (s.fills k).instrumentId = instrumentId := named
        rw [account, strategy, named, missing] at isFor
        cases isFor
      unfold Folded
      rw [stored, empty]
      rfl
    · have elsewhere : (s.putPosition index position).positions other = s.positions other :=
        update_of_ne here ..
      have held : (s.positions other).occupied := elsewhere ▸ held
      unfold Folded
      rw [elsewhere]
      exact ledger.folded other held
  · show ((s.putPosition index position).positions index).isFor _ _ _
    rw [stored]
    exact isFor_iff.mpr ⟨rfl, rfl, rfl, rfl⟩

theorem Ledger.takeOrdinal (room : s.eventOrdinal.toNat + 1 < 2 ^ 64) :
    Ledger s.takeOrdinal :=
  ⟨ledger.toSkeleton.takeOrdinal room, ledger.folded⟩

end

theorem applyFills_append_one {configuration : PortfolioConfiguration}
    {start middle : PositionSlot} {fills : List FillEntry}
    (folded : applyFills configuration start (fills.map (·.toFillSlot)) = some middle)
    (accounted : applyFillAccounting configuration middle fill.toFillSlot = some position) :
    applyFills configuration start ((fills ++ [fill]).map (·.toFillSlot)) = some position := by
  unfold applyFills at folded ⊢
  rw [map_append, foldlM_append, folded]
  simpa using accounted

theorem Ledger.addFill (ledger : Ledger s) (fresh : Fresh s fillIndex fill)
    (counts : fill.countsFor (s.positions index)) (held : (s.positions index).occupied)
    (accounted : applyFillAccounting s.configuration (s.positions index) fill.toFillSlot =
      some position) : Ledger ((s.putPosition index position).putFill fillIndex fill) := by
  have skeleton : Skeleton (s.putFill fillIndex fill) := ledger.toSkeleton.addFill fresh
  have isFor : (s.positions index).isFor fill.accountId fill.strategyId fill.instrumentId =
      true := by
    obtain ⟨-, -, account, strategy, instrument, -⟩ := countsFor_iff.mp counts
    exact isFor_iff.mpr ⟨held, account.symm, strategy.symm, instrument.symm⟩
  have applied : applyFills s.configuration (s.positions index).atBase
      (((s.putFill fillIndex fill).fillsOf (s.positions index)).map (·.toFillSlot)) =
      some position := by
    rw [fillsOf_addFill ledger.toSkeleton fresh counts]
    exact applyFills_append_one (ledger.folded index held) accounted
  refine (show Ledger ((s.putFill fillIndex fill).putPosition index position) from
    skeleton.ledger_putPosition applied fun other apart occupied => ?_)
  have folded : s.Folded other := ledger.folded other occupied
  have vacant : (s.fills fillIndex).countsFor (s.positions other) = false := by
    simp [FillEntry.countsFor, fresh.vacant]
  have same := fillsOf_putFill_of_not vacant (ledger.not_countsFor isFor apart occupied)
  show applyFills s.configuration (s.positions other).atBase
    (((s.putFill fillIndex fill).fillsOf (s.positions other)).map (·.toFillSlot)) = _
  rw [same]
  exact folded

theorem Rewrites.recast (rewrites : Rewrites event fill changed) :
    Recast fill changed := by
  cases rewrites <;> constructor <;> rfl

theorem Ledger.rewrite (ledger : Ledger s) {index : Fin kMaximumPortfolioFills}
    (targets : Targets s event index changed positionIndex)
    (applied : applyFills s.configuration (s.positions positionIndex).atBase
      (((s.putFill index changed).fillsOf (s.positions positionIndex)).map (·.toFillSlot)) =
      some position) : Ledger ((s.putFill index changed).putPosition positionIndex position) := by
  have recast := targets.rewrites.recast
  have isFor := isFor_of_findPosition targets.position
  refine (ledger.putFill recast).ledger_putPosition applied fun other apart occupied => ?_
  have folded : s.Folded other := ledger.folded other occupied
  have isFor' : (s.positions positionIndex).isFor changed.accountId changed.strategyId
      changed.instrumentId := by
    rw [recast.accountId, recast.strategyId, recast.instrumentId]
    exact isFor
  have same := fillsOf_putFill_of_not (ledger.not_countsFor isFor apart occupied)
    (ledger.not_countsFor isFor' apart occupied)
  show applyFills s.configuration (s.positions other).atBase
    (((s.putFill index changed).fillsOf (s.positions other)).map (·.toFillSlot)) = _
  rw [same]
  exact folded

theorem folded_of_no_fills
    (noneCounts : ∀ fill, (s.fills fill).countsFor (s.positions index) = false)
    (based : (s.positions index).atBase = s.positions index) : s.Folded index := by
  have empty : s.fillsOf (s.positions index) = [] := by
    refine eq_nil_iff_forall_not_mem.mpr fun fill mem => ?_
    obtain ⟨k, rfl, counts⟩ := mem_selected ((mem_insertionSort _).mp mem)
    rw [noneCounts k] at counts
    cases counts
  unfold Folded
  rw [empty, based]
  rfl

theorem clearSession_occupied {carry : Bool} (held : (position.clearSession carry).occupied) :
    position.occupied ∧ SameKey position (position.clearSession carry) ∧
      (position.clearSession carry).actionGeneration = 0 ∧
      (position.clearSession carry).atBase = position.clearSession carry := by
  unfold clearSession at held ⊢
  split at held
  · next free =>
    rw [held] at free
    cases free
  next occupied =>
  rw [Bool.not_eq_true', Bool.not_eq_false] at occupied
  split at held
  · cases held
  next carried =>
  rw [if_neg (by simp [occupied]), if_neg carried]
  exact ⟨occupied, ⟨rfl, rfl, rfl⟩, rfl, rfl⟩

theorem Ledger.rollOver (ledger : Ledger s) (event : PortfolioEvent) :
    Ledger (s.rollOver event) := by
  refine ⟨⟨nofun, nofun, nofun, ?_, ?_, nofun⟩, ?_⟩
  · intro index held
    obtain ⟨occupied, same, generation, -⟩ := clearSession_occupied held
    obtain ⟨instrument, found, -⟩ := ledger.current index occupied
    exact ⟨instrument, by rw [← found]; exact congrArg s.findInstrument same.2.2, generation⟩
  · intro first second held held' same
    obtain ⟨occupied, key, -⟩ := clearSession_occupied held
    obtain ⟨occupied', key', -⟩ := clearSession_occupied held'
    exact ledger.unique first second occupied occupied'
      ⟨key'.1.symm.trans (same.1.trans key.1), key'.2.1.symm.trans (same.2.1.trans key.2.1),
        key'.2.2.symm.trans (same.2.2.trans key.2.2)⟩
  · intro index held
    exact folded_of_no_fills (fun _ => rfl) (clearSession_occupied held).2.2.2

/-- A position moves to the new generation as its own base. -/
theorem positions_commitCorporateAction (s : PortfolioRiskService) (event : PortfolioEvent)
    (instrument : Nat) (index : Fin kMaximumPortfolioPositions) : let position := s.positions index
    let position' := (s.commitCorporateAction event instrument).positions index
    position'.occupied = position.occupied ∧ SameKey position position' ∧
      (position.occupied → position.instrumentId = event.instrumentId →
        position'.actionGeneration = s.corporateActionGenerations instrument + 1 ∧
        position'.atBase = position') ∧
      (position.instrumentId ≠ event.instrumentId → position' = position) := by
  dsimp only [commitCorporateAction]
  split
  · next concerned =>
    simp only [Bool.and_eq_true, beq_iff_eq] at concerned
    exact ⟨rfl, ⟨rfl, rfl, rfl⟩, fun _ _ => ⟨rfl, rfl⟩, fun other => absurd concerned.2 other⟩
  · next untouched =>
    refine ⟨rfl, ⟨rfl, rfl, rfl⟩, fun held same => ?_, fun _ => rfl⟩
    simp [held, same] at untouched

theorem lt_nextGeneration {generation : UInt64} (room : generation.toNat + 1 < 2 ^ 64) :
    generation < generation + 1 := by
  rw [UInt64.lt_iff_toNat_lt, UInt64.toNat_add, UInt64.toNat_one, mod_eq_of_lt room]
  omega

theorem Ledger.commitCorporateAction (ledger : Ledger s)
    (found : s.findInstrument event.instrumentId = some instrument)
    (room : (s.corporateActionGenerations instrument).toNat + 1 < 2 ^ 64) :
    Ledger (s.commitCorporateAction event instrument) := by
  have risen := lt_nextGeneration room
  have moved := positions_commitCorporateAction s event instrument
  have generationSelf : (s.commitCorporateAction event instrument).corporateActionGenerations
      instrument = s.corporateActionGenerations instrument + 1 := update_self ..
  have generationNe : ∀ other, other ≠ instrument →
      (s.commitCorporateAction event instrument).corporateActionGenerations other =
        s.corporateActionGenerations other := fun other apart => update_of_ne apart ..
  refine ⟨⟨ledger.ordinals, ledger.distinct, ?_, ?_, ?_, ?_⟩, ?_⟩
  · intro fill held
    obtain ⟨place, known, below⟩ := ledger.generations fill held
    refine ⟨place, known, ?_⟩
    by_cases here : place = instrument
    · rw [here, generationSelf]
      rw [here] at below
      exact UInt64.le_of_lt (UInt64.lt_of_le_of_lt below risen)
    · rw [generationNe place here]
      exact below
  · intro index held
    obtain ⟨occupied, same, concerned, other⟩ := moved index
    rw [occupied] at held
    obtain ⟨place, known, current⟩ := ledger.current index held
    rw [same.2.2]
    refine ⟨place, known, ?_⟩
    by_cases named : (s.positions index).instrumentId = event.instrumentId
    · have here : place = instrument := by
        rw [named, found] at known
        exact (Option.some.inj known).symm
      rw [here, generationSelf]
      exact (concerned held named).1
    · have apart : place ≠ instrument := by
        rintro rfl
        exact named (findInstrument_injective known found)
      rw [generationNe place apart, other named]
      exact current
  · intro first second held held' same
    obtain ⟨occupied, key, -, -⟩ := moved first
    obtain ⟨occupied', key', -, -⟩ := moved second
    exact ledger.unique first second (occupied ▸ held) (occupied' ▸ held')
      ⟨key'.1.symm.trans (same.1.trans key.1), key'.2.1.symm.trans (same.2.1.trans key.2.1),
        key'.2.2.symm.trans (same.2.2.trans key.2.2)⟩
  · intro fill held
    obtain ⟨place, isFor⟩ := ledger.positioned fill held
    obtain ⟨occupied, key, -, -⟩ := moved place
    obtain ⟨live, account, strategy, named⟩ := isFor_iff.mp isFor
    exact ⟨place, isFor_iff.mpr ⟨occupied.trans live, key.1.trans account,
      key.2.1.trans strategy, key.2.2.trans named⟩⟩
  · intro index held
    obtain ⟨occupied, same, concerned, other⟩ := moved index
    rw [occupied] at held
    by_cases named : (s.positions index).instrumentId = event.instrumentId
    · obtain ⟨generation, based⟩ := concerned held named
      refine folded_of_no_fills (fun fill => ?_) based
      -- Fills of the new generation would be newer than the action.
      by_contra counted
      rw [Bool.not_eq_false, countsFor_iff] at counted
      obtain ⟨live, -, -, -, sameInstrument, sameGeneration⟩ := counted
      obtain ⟨place, known, below⟩ := ledger.generations fill live
      have known : s.findInstrument (s.fills fill).instrumentId = some place := known
      have sameInstrument : (s.fills fill).instrumentId = event.instrumentId :=
        sameInstrument.trans (same.2.2.trans named)
      rw [sameInstrument, found, Option.some.injEq] at known
      have newer : (s.fills fill).actionGeneration =
          s.corporateActionGenerations instrument + 1 := sameGeneration.trans generation
      rw [← known, newer] at below
      exact UInt64.lt_irrefl _ (UInt64.lt_of_lt_of_le risen below)
    · have folded := ledger.folded index held
      unfold Folded at folded ⊢
      rw [other named]
      exact folded

/-- Ordinals and generations are counted by the journal. -/
structure Bounded (s : PortfolioRiskService) : Prop where
  journal : s.journalSize ≤ kPortfolioJournalCapacity
  ordinal : s.eventOrdinal.toNat ≤ s.journalSize
  generations : ∀ instrument, (s.corporateActionGenerations instrument).toNat ≤ s.journalSize

/-- The bounds while an event is handled. -/
structure Roomy (s : PortfolioRiskService) : Prop where
  journal : s.journalSize ≤ kPortfolioJournalCapacity
  ordinal : s.eventOrdinal.toNat < s.journalSize
  generations : ∀ instrument, (s.corporateActionGenerations instrument).toNat < s.journalSize

theorem Roomy.small (roomy : Roomy s) {count : Nat} (below : count < s.journalSize) :
    count + 1 < 2 ^ 64 := by
  have journal := roomy.journal
  have capacity : kPortfolioJournalCapacity = 8192 := rfl
  omega

theorem Bounded.congr (bounded : Bounded s) (journalSize : t.journalSize = s.journalSize)
    (ordinal : t.eventOrdinal = s.eventOrdinal)
    (generations : t.corporateActionGenerations = s.corporateActionGenerations) : Bounded t := by
  refine ⟨journalSize ▸ bounded.journal, ?_, ?_⟩
  · rw [ordinal, journalSize]
    exact bounded.ordinal
  · rw [generations, journalSize]
    exact bounded.generations

theorem Roomy.bounded (roomy : Roomy s) : Bounded s :=
  ⟨roomy.journal, roomy.ordinal.le, fun instrument => (roomy.generations instrument).le⟩

theorem counters_of_findOrCreatePosition
    (opening : s.findOrCreatePosition accountId strategyId instrumentId = some (index, t)) :
    t.configuration = s.configuration ∧ t.journalSize = s.journalSize ∧ t.fills = s.fills ∧
      t.corporateActionGenerations = s.corporateActionGenerations ∧
      t.eventOrdinal = s.eventOrdinal := by
  rcases findOrCreatePosition_eq_some opening with ⟨-, rfl⟩ | ⟨_, -, -, -, rfl⟩ <;>
    exact ⟨rfl, rfl, rfl, rfl, rfl⟩

theorem Roomy.opened (roomy : Roomy s)
    (opening : s.findOrCreatePosition accountId strategyId instrumentId = some (index, t)) :
    Roomy t := by
  obtain ⟨-, journal, -, generations, ordinal⟩ := counters_of_findOrCreatePosition opening
  refine ⟨journal ▸ roomy.journal, ?_, ?_⟩
  · rw [ordinal, journal]
    exact roomy.ordinal
  · rw [generations, journal]
    exact roomy.generations

theorem Roomy.takeOrdinal (roomy : Roomy s) : Bounded s.takeOrdinal := by
  refine ⟨roomy.journal, ?_, fun instrument => (roomy.generations instrument).le⟩
  show (s.eventOrdinal + 1).toNat ≤ s.journalSize
  rw [UInt64.toNat_add, UInt64.toNat_one, mod_eq_of_lt (roomy.small roomy.ordinal)]
  exact roomy.ordinal

theorem Effect.bounded (effect : Effect s event internal t) (roomy : Roomy s) : Bounded t := by
  have same := roomy.bounded
  cases effect with
  | refused => exact same
  | alarmed | orphaned | orderAdded | orderUpdated | confirmed | marked =>
    exact same.congr rfl rfl rfl
  | @overflowed index opened scope opening =>
    have roomy := roomy.opened opening
    exact roomy.takeOrdinal.congr rfl rfl rfl
  | @filled fillIndex index opened position kind scope free opening accounted =>
    have roomy := roomy.opened opening
    obtain ⟨orders, ordered⟩ := fillOrder_eq _ event (s.findOrder event.orderId)
    rw [ordered]
    exact roomy.takeOrdinal.congr rfl rfl rfl
  | rewritten targets rebuilding ordered =>
    obtain ⟨position, -, -, rfl⟩ := rebuildPosition_eq_some rebuilding
    rcases ordered with rfl | ⟨_, _, -, -, rfl⟩ <;>
      exact same.congr rfl rfl rfl
  | reverted targets attempted failed loud =>
    obtain ⟨orders, position, -, reverted, -⟩ := revert_eq attempted
    rw [reverted]
    exact same.congr rfl rfl rfl
  | rolledOver => exact ⟨same.journal, zero_le _, fun _ => zero_le _⟩
  | @acted instrument found =>
    refine ⟨same.journal, same.ordinal, fun other => ?_⟩
    by_cases here : other = instrument
    · subst here
      have next : (s.commitCorporateAction event other).corporateActionGenerations other =
          s.corporateActionGenerations other + 1 := update_self ..
      rw [next, UInt64.toNat_add, UInt64.toNat_one,
        mod_eq_of_lt (roomy.small (roomy.generations other))]
      exact roomy.generations other
    · have kept : (s.commitCorporateAction event instrument).corporateActionGenerations other =
          s.corporateActionGenerations other := update_of_ne here ..
      rw [kept]
      exact same.generations other

theorem Ledger.newFill (ledger : Ledger s) (roomy : Roomy s)
    (vacant : (s.fills fillIndex).occupied = false)
    (isFor : (s.positions index).isFor event.accountId event.strategyId event.instrumentId) :
    Fresh s.takeOrdinal fillIndex (s.takeOrdinal.newFill event) ∧
      (s.takeOrdinal.newFill event).countsFor (s.positions index) := by
  obtain ⟨held, account, strategy, named⟩ := isFor_iff.mp isFor
  obtain ⟨instrument, known, current⟩ := ledger.current index held
  rw [named] at known
  have generation : (s.takeOrdinal.newFill event).actionGeneration =
      s.corporateActionGenerations instrument := by
    show (s.findInstrument event.instrumentId).elim 0 s.corporateActionGenerations = _
    rw [known]
    rfl
  refine ⟨⟨vacant, rfl, fun other occupied => ?_, ⟨instrument, known, ?_⟩, ⟨index, isFor⟩⟩, ?_⟩
  · exact lt_takeOrdinal (roomy.small roomy.ordinal) (ledger.ordinals other occupied)
  · rw [generation]
    exact UInt64.le_refl _
  · exact countsFor_iff.mpr ⟨rfl, rfl, account.symm, strategy.symm, named.symm,
      generation.trans current.symm⟩

/-- The positions stay the folds of their fills. -/
theorem Effect.ledger (effect : Effect s event internal t) (ledger : Ledger s)
    (roomy : Roomy s) : Ledger t := by
  cases effect with
  | refused => exact ledger
  | alarmed | orphaned | orderAdded | orderUpdated | marked =>
    exact ledger.congr rfl rfl rfl rfl rfl
  | confirmed => exact ledger.confirm ⟨rfl, rfl, rfl, rfl, rfl, rfl⟩ rfl rfl
  | overflowed scope opening =>
    have roomy := roomy.opened opening
    have taken := (ledger.opened opening).1.takeOrdinal (roomy.small roomy.ordinal)
    exact taken.congr rfl rfl rfl rfl rfl
  | @filled fillIndex index opened position kind scope free opening accounted =>
    have roomy := roomy.opened opening
    obtain ⟨ledger, isFor⟩ := ledger.opened opening
    obtain ⟨-, -, fills, -, -⟩ := counters_of_findOrCreatePosition opening
    have vacant : (opened.fills fillIndex).occupied = false := by
      rw [fills]
      exact Layout.free_of_findFree free
    obtain ⟨fresh, counts⟩ := ledger.newFill roomy vacant isFor
    have taken := ledger.takeOrdinal (roomy.small roomy.ordinal)
    have added := taken.addFill fresh counts (isFor_iff.mp isFor).1 accounted
    obtain ⟨orders, ordered⟩ := fillOrder_eq ((opened.takeOrdinal.putPosition index
      position).putFill fillIndex (opened.takeOrdinal.newFill event)) event
      (s.findOrder event.orderId)
    rw [ordered]
    exact added.congr rfl rfl rfl rfl rfl
  | rewritten targets rebuilding ordered =>
    obtain ⟨position, -, applied, rfl⟩ := rebuildPosition_eq_some rebuilding
    have rewritten := ledger.rewrite targets applied
    rcases ordered with rfl | ⟨_, _, -, -, rfl⟩
    · exact rewritten
    · exact rewritten.congr rfl rfl rfl rfl rfl
  | @reverted index changed positionIndex attempt status code targets attempted =>
    obtain ⟨orders, position, -, reverted, same⟩ := revert_eq attempted
    have held := (isFor_iff.mp (isFor_of_findPosition targets.position)).1
    rw [reverted, same held (ledger.folded positionIndex held), update_eq_self]
    exact ledger.congr rfl rfl rfl rfl rfl
  | rolledOver => exact ledger.rollOver event
  | acted found =>
    exact ledger.commitCorporateAction found (roomy.small (roomy.generations _))

structure Kept (s : PortfolioRiskService) : Prop where
  ledger : Ledger s
  bounded : Bounded s

theorem Kept.congr (kept : Kept s) (books : SameBooks s t) : Kept t :=
  ⟨kept.ledger.congr books.configuration books.positions books.fills books.generations
    books.ordinal, kept.bounded.congr books.journalSize books.ordinal books.generations⟩

theorem Kept.reserve (kept : Kept s) (taken : s.takes)
    (table : Fin kPortfolioIdempotencyCapacity → IdempotencySlot) :
    Ledger { s.reserve with idempotency := table } ∧
      Roomy { s.reserve with idempotency := table } := by
  refine ⟨kept.ledger.congr rfl rfl rfl rfl rfl, ?_, ?_, fun instrument => ?_⟩
  · have room : s.journalSize < kPortfolioJournalCapacity := by
      simp only [takes, Bool.and_eq_true, decide_eq_true_eq] at taken
      exact taken.2
    exact room
  · exact lt_succ_of_le kept.bounded.ordinal
  · exact lt_succ_of_le (kept.bounded.generations instrument)

theorem Kept.next (kept : Kept s) (call : Call) : Kept (s.next call) := by
  rcases next_books s call with ⟨-, same⟩ | ⟨internal, t, taken, handled, same⟩
  · exact kept.congr same
  · obtain ⟨table, effect⟩ := handle_effect handled
    obtain ⟨ledger, roomy⟩ := kept.reserve taken table
    exact Kept.congr ⟨effect.ledger ledger roomy, effect.bounded roomy⟩ same

def applies (s : PortfolioRiskService) (call : Call) : Bool :=
  s.takes && (s.reserve.handle call.event).1.status == .applied

/-- As if the fill had been `rewrite fill` all along. -/
def Replayed (s : PortfolioRiskService) (call : Call) (rewrite : FillEntry → FillEntry) : Prop :=
  ∃ index position before after, s.findFill call.event.targetFillId = some index ∧
    s.findPosition (s.fills index).accountId (s.fills index).strategyId
      (s.fills index).instrumentId = some position ∧
    s.fillsOf (s.positions position) = before ++ (s.fills index).counted ++ after ∧
    applyFills s.configuration (s.positions position).atBase
      ((before ++ (rewrite (s.fills index)).counted ++ after).map (·.toFillSlot)) =
        some ((s.next call).positions position)

theorem Ledger.fillsOf_rewrite (ledger : Ledger s) {index : Fin kMaximumPortfolioFills}
    (targets : Targets s event index changed positionIndex) : ∃ before after,
      s.fillsOf (s.positions positionIndex) = before ++ (s.fills index).counted ++ after ∧
      (s.putFill index changed).fillsOf (s.positions positionIndex) =
        before ++ changed.counted ++ after := by
  have recast := targets.rewrites.recast
  cases active : (s.fills index).active with
  | true =>
    obtain ⟨held, account, strategy, named⟩ :=
      isFor_iff.mp (isFor_of_findPosition targets.position)
    obtain ⟨instrument, known, current⟩ := ledger.current positionIndex held
    have generation : (s.fills index).actionGeneration =
        s.corporateActionGenerations instrument := by
      have accepted := targets.current
      rw [named] at known
      unfold isCurrent at accepted
      rw [known] at accepted
      exact beq_iff_eq.mp accepted
    have occupied := (Layout.occupied_of_find targets.found).1
    have counts : (s.fills index).countsFor (s.positions positionIndex) :=
      countsFor_iff.mpr ⟨occupied, active, account.symm, strategy.symm, named.symm,
        generation.trans current.symm⟩
    obtain ⟨before, after, old, new⟩ := fillsOf_putFill ledger.toSkeleton recast counts
    refine ⟨before, after, ?_, new⟩
    rw [old, FillEntry.counted, if_pos active, append_assoc, singleton_append]
  | false =>
    -- Only a correction reaches a busted fill, and leaves it busted.
    have busted : changed.active = false := by
      cases targets.rewrites with
      | correction => exact active
      | bust kind unbusted => exact absurd (active.symm.trans unbusted) (by decide)
    have absent : ∀ fill : FillEntry, fill.active = false →
        fill.countsFor (s.positions positionIndex) = false := by
      intro fill inactive
      simp [FillEntry.countsFor, inactive]
    refine ⟨s.fillsOf (s.positions positionIndex), [], ?_, ?_⟩
    · simp [FillEntry.counted, active]
    · rw [fillsOf_putFill_of_not (absent _ active) (absent _ busted)]
      simp [FillEntry.counted, busted]

theorem Effect.rewrites (effect : Effect s event internal t) (applied : internal.status = .applied)
    (kind : event.kind = .fillCorrection ∨ event.kind = .fillBust) :
    ∃ index changed position, Targets s event index changed position ∧
      applyFills s.configuration (s.positions position).atBase
        (((s.putFill index changed).fillsOf (s.positions position)).map (·.toFillSlot)) =
          some (t.positions position) := by
  cases effect with
  | refused idle failed | alarmed failed | reverted targets attempted failed =>
    exact absurd applied failed
  | orphaned | confirmed | overflowed => cases applied
  | orderAdded other | orderUpdated other | filled other | marked other | rolledOver other
  | acted found other => simp [other] at kind
  | @rewritten index changed position rebuilt t targets rebuilding ordered =>
    obtain ⟨value, -, folded, rfl⟩ := rebuildPosition_eq_some rebuilding
    have stored : t.positions position = value := by
      rcases ordered with rfl | ⟨_, _, -, -, rfl⟩ <;> exact update_self ..
    exact ⟨index, changed, position, targets, stored ▸ folded⟩

theorem Kept.replayed (kept : Kept s) {rewrite : FillEntry → FillEntry}
    (kind : call.event.kind = .fillCorrection ∨ call.event.kind = .fillBust)
    (rewrites : ∀ fill changed, Rewrites call.event fill changed → changed = rewrite fill)
    (applied : s.applies call) : s.Replayed call rewrite := by
  simp only [applies, Bool.and_eq_true, beq_iff_eq] at applied
  obtain ⟨taken, applied⟩ := applied
  rcases next_books s call with ⟨refused, -⟩ | ⟨internal, t, -, handled, books⟩
  · exact absurd (refused.symm.trans taken) (by decide)
  rw [handled] at applied
  obtain ⟨table, effect⟩ := handle_effect handled
  obtain ⟨index, changed, position, targets, folded⟩ := effect.rewrites applied kind
  obtain ⟨before, after, old, new⟩ := (kept.reserve taken table).1.fillsOf_rewrite targets
  rw [new, rewrites _ _ targets.rewrites] at folded
  refine ⟨index, position, before, after, targets.found, targets.position, old, ?_⟩
  rw [books.positions]
  exact folded

end

open TestSupport

end PortfolioRiskService

end Aegis.Portfolio
