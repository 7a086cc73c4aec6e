import Mathlib.Algebra.BigOperators.Fin
import Mathlib.Algebra.BigOperators.Ring.Finset
import Mathlib.Data.ZMod.Defs
import Mathlib.Tactic.Abel

/-!
Open-addressed tables with linear probing and without deletion. The invariant is `Chained`: no
slot is free between the bucket of a key and the slot that carries it. It makes `find` complete
(`find_eq_none_iff`), and an insertion at `findFree` keeps it (`Chained.insert`).
-/

set_option linter.unusedSectionVars false

namespace Aegis.Foundation

open Function Finset

/-- How slots are used as an open-addressed table. -/
structure Layout (n : Nat) (Slot Key : Type) where
  occupied : Slot → Bool
  key : Slot → Key
  bucket : Key → Fin n

/-- The position at a distance from a start. -/
def probe {n : Nat} [NeZero n] (start : Fin n) (offset : Nat) : Fin n :=
  start + Fin.ofNat n offset

theorem exists_probe_eq {n : Nat} [NeZero n] (start index : Fin n) :
    ∃ offset < n, probe start offset = index := by
  refine ⟨(index - start).val, (index - start).isLt, ?_⟩
  rw [probe, Fin.ofNat_val_eq_self]
  abel

/-- Related slots stay one slot after a write related to no other. -/
theorem eq_of_update {n : Nat} {Slot : Type} {R : Slot → Slot → Prop} {table : Fin n → Slot}
    {index i j : Fin n} {slot : Slot} (one : ∀ i j, R (table i) (table j) → i = j)
    (after : ∀ j ≠ index, ¬ R slot (table j)) (before : ∀ i ≠ index, ¬ R (table i) slot)
    (related : R (update table index slot i) (update table index slot j)) : i = j := by
  by_contra ne
  by_cases hi : i = index
  · subst hi
    rw [update_self, update_of_ne (Ne.symm ne)] at related
    exact after j (Ne.symm ne) related
  rw [update_of_ne hi] at related
  by_cases hj : j = index
  · subst hj
    rw [update_self] at related
    exact before i hi related
  · rw [update_of_ne hj] at related
    exact ne (one i j related)

namespace Layout

variable {n : Nat} [NeZero n] {Slot Key : Type} [DecidableEq Key] (L : Layout n Slot Key)

def findFrom (table : Fin n → Slot) (key : Key) (start : Fin n) : Nat → Nat → Option (Fin n)
  | 0, _ => none
  | fuel + 1, offset =>
      if !L.occupied (table (probe start offset)) then none
      else if L.key (table (probe start offset)) = key then some (probe start offset)
      else findFrom table key start fuel (offset + 1)

def find (table : Fin n → Slot) (key : Key) : Option (Fin n) :=
  L.findFrom table key (L.bucket key) n 0

def freeFrom (table : Fin n → Slot) (start : Fin n) : Nat → Nat → Option (Fin n)
  | 0, _ => none
  | fuel + 1, offset =>
      if !L.occupied (table (probe start offset)) then some (probe start offset)
      else freeFrom table start fuel (offset + 1)

def findFree (table : Fin n → Slot) (key : Key) : Option (Fin n) :=
  L.freeFrom table (L.bucket key) n 0

variable {L} {table : Fin n → Slot} {key : Key} {start index : Fin n}

variable {fuel offset : Nat} {slot : Slot} {table' : Fin n → Slot}

theorem findFrom_eq_some_iff : L.findFrom table key start fuel offset = some index ↔
      ∃ d, offset ≤ d ∧ d < offset + fuel ∧ probe start d = index ∧
        L.occupied (table index) ∧ L.key (table index) = key ∧
        ∀ e, offset ≤ e → e < d → L.occupied (table (probe start e)) ∧
          L.key (table (probe start e)) ≠ key := by
  induction fuel generalizing offset with
  | zero =>
    simp only [findFrom, reduceCtorEq, false_iff]
    rintro ⟨d, low, high, -⟩
    omega
  | succ fuel ih =>
    unfold findFrom
    by_cases occ : L.occupied (table (probe start offset))
    · by_cases same : L.key (table (probe start offset)) = key
      · simp only [occ, same, Bool.not_true, Bool.false_eq_true, if_false, if_true,
          Option.some.injEq]
        constructor
        · rintro rfl
          exact ⟨offset, le_rfl, by omega, rfl, occ, same, fun e low high => by omega⟩
        · rintro ⟨d, low, high, rfl, -, -, before⟩
          -- A later hit would have to pass over this one.
          rcases Nat.eq_or_lt_of_le low with rfl | later
          · rfl
          · exact absurd same (before offset le_rfl later).2
      · simp only [occ, same, Bool.not_true, Bool.false_eq_true, if_false, ih]
        constructor
        · rintro ⟨d, low, high, hit, held, match', before⟩
          refine ⟨d, by omega, by omega, hit, held, match', fun e le lt => ?_⟩
          rcases Nat.eq_or_lt_of_le le with rfl | later
          · exact ⟨occ, same⟩
          · exact before e later lt
        · rintro ⟨d, low, high, hit, held, match', before⟩
          rcases Nat.eq_or_lt_of_le low with rfl | later
          · exact absurd (hit ▸ match') same
          · exact ⟨d, later, by omega, hit, held, match',
              fun e le lt => before e (by omega) lt⟩
    · simp only [occ, Bool.not_false, if_true, reduceCtorEq, false_iff]
      rintro ⟨d, low, high, hit, held, -, before⟩
      rcases Nat.eq_or_lt_of_le low with rfl | later
      · exact occ (hit ▸ held)
      · exact occ (before offset le_rfl later).1

theorem freeFrom_eq_findFrom : L.freeFrom table start fuel offset =
      (⟨fun _ => true, fun slot => !L.occupied slot, fun _ => start⟩ : Layout n Slot Bool).findFrom
        table true start fuel offset := by
  induction fuel generalizing offset with
  | zero => rfl
  | succ fuel ih => simp [freeFrom, findFrom, ih]

theorem freeFrom_eq_some_iff : L.freeFrom table start fuel offset = some index ↔
      ∃ d, offset ≤ d ∧ d < offset + fuel ∧ probe start d = index ∧
        L.occupied (table index) = false ∧
        ∀ e, offset ≤ e → e < d → L.occupied (table (probe start e)) := by
  rw [freeFrom_eq_findFrom, findFrom_eq_some_iff]
  simp

theorem find_eq_some_iff : L.find table key = some index ↔
      ∃ d < n, probe (L.bucket key) d = index ∧ L.occupied (table index) ∧
        L.key (table index) = key ∧
        ∀ e < d, L.occupied (table (probe (L.bucket key) e)) ∧
          L.key (table (probe (L.bucket key) e)) ≠ key := by
  unfold find
  rw [findFrom_eq_some_iff]
  simp

theorem findFree_eq_some_iff : L.findFree table key = some index ↔
      ∃ d < n, probe (L.bucket key) d = index ∧ L.occupied (table index) = false ∧
        ∀ e < d, L.occupied (table (probe (L.bucket key) e)) := by
  unfold findFree
  rw [freeFrom_eq_some_iff]
  simp

theorem occupied_of_find (found : L.find table key = some index) :
    L.occupied (table index) ∧ L.key (table index) = key := by
  obtain ⟨d, -, -, occ, same, -⟩ := find_eq_some_iff.mp found
  exact ⟨occ, same⟩

theorem free_of_findFree (free : L.findFree table key = some index) :
    L.occupied (table index) = false := by
  obtain ⟨d, -, -, vacant, -⟩ := findFree_eq_some_iff.mp free
  exact vacant

/-- The layout in which a slot that carries `key` counts as free. -/
def reusing (L : Layout n Slot Key) (key : Key) : Layout n Slot Key :=
  { L with occupied := fun slot => L.occupied slot && decide (L.key slot ≠ key) }

theorem findFree_reusing (absent : L.find table key = none) :
    (L.reusing key).findFree table key = L.findFree table key := by
  have loop : ∀ fuel offset, L.findFrom table key (L.bucket key) fuel offset = none →
      (L.reusing key).freeFrom table (L.bucket key) fuel offset =
        L.freeFrom table (L.bucket key) fuel offset := by
    intro fuel
    induction fuel with
    | zero => intros; rfl
    | succ fuel ih =>
      intro offset noneFound
      unfold findFrom at noneFound
      unfold freeFrom
      by_cases occ : L.occupied (table (probe (L.bucket key) offset))
      · by_cases same : L.key (table (probe (L.bucket key) offset)) = key
        · simp [occ, same] at noneFound
        · simp only [occ, same, Bool.not_true, Bool.false_eq_true, if_false] at noneFound
          simp [reusing, occ, same, ← ih (offset + 1) noneFound]
      · simp [reusing, occ]
  exact loop n 0 absent

theorem findFree_isSome (vacant : ∃ index, L.occupied (table index) = false) (key : Key) :
    ∃ index, L.findFree table key = some index := by
  obtain ⟨free, isFree⟩ := vacant
  obtain ⟨d, below, reach⟩ := exists_probe_eq (L.bucket key) free
  have existsFree : ∃ d, d < n ∧ L.occupied (table (probe (L.bucket key) d)) = false :=
    ⟨d, below, reach ▸ isFree⟩
  classical
  -- The first free position on the probe sequence is the answer.
  refine ⟨probe (L.bucket key) (Nat.find existsFree), findFree_eq_some_iff.mpr
    ⟨_, (Nat.find_spec existsFree).1, rfl, (Nat.find_spec existsFree).2, fun e lt => ?_⟩⟩
  have earlier := Nat.find_min existsFree lt
  by_contra notOccupied
  exact earlier ⟨lt.trans (Nat.find_spec existsFree).1, by simpa using notOccupied⟩

/-- No free slot between the bucket of a stored key and its slot. -/
def Chained (L : Layout n Slot Key) (table : Fin n → Slot) : Prop :=
  ∀ index, L.occupied (table index) = true →
    ∃ d < n, probe (L.bucket (L.key (table index))) d = index ∧
      ∀ e < d, L.occupied (table (probe (L.bucket (L.key (table index))) e)) = true

def Distinct (L : Layout n Slot Key) (table : Fin n → Slot) : Prop :=
  ∀ i j, L.occupied (table i) = true → L.occupied (table j) = true →
    L.key (table i) = L.key (table j) → i = j

theorem Chained.find_of_mem (chained : L.Chained table) (occ : L.occupied (table index))
    (same : L.key (table index) = key) : ∃ hit, L.find table key = some hit := by
  obtain ⟨d, below, reach, path⟩ := chained index occ
  rw [same] at reach path
  have existsHit : ∃ e, e ≤ d ∧ L.key (table (probe (L.bucket key) e)) = key :=
    ⟨d, le_rfl, by rw [reach, same]⟩
  classical
  refine ⟨probe (L.bucket key) (Nat.find existsHit), find_eq_some_iff.mpr
    ⟨_, lt_of_le_of_lt (Nat.find_spec existsHit).1 below, rfl, ?_,
      (Nat.find_spec existsHit).2, fun e lt => ⟨?_, fun hit => ?_⟩⟩⟩
  · rcases Nat.eq_or_lt_of_le (Nat.find_spec existsHit).1 with last | earlier
    · rw [last, reach]; exact occ
    · exact path _ earlier
  · exact path e (lt_of_lt_of_le lt (Nat.find_spec existsHit).1)
  · exact Nat.find_min existsHit lt
      ⟨le_of_lt (lt_of_lt_of_le lt (Nat.find_spec existsHit).1), hit⟩

/-- A miss means that no slot carries the key. -/
theorem Chained.find_eq_none_iff (chained : L.Chained table) : L.find table key = none ↔
      ∀ index, L.occupied (table index) → L.key (table index) ≠ key := by
  constructor
  · intro miss index occ same
    obtain ⟨hit, found⟩ := chained.find_of_mem occ same
    rw [miss] at found
    cases found
  · intro absent
    cases found : L.find table key with
    | none => rfl
    | some hit =>
      obtain ⟨occ, same⟩ := occupied_of_find found
      exact absurd same (absent hit occ)

theorem Chained.find_eq_some (chained : L.Chained table) (distinct : L.Distinct table)
    (occ : L.occupied (table index)) : L.find table (L.key (table index)) = some index := by
  obtain ⟨hit, found⟩ := chained.find_of_mem occ rfl
  obtain ⟨hitOcc, same⟩ := occupied_of_find found
  rw [found, distinct hit index hitOcc occ same]

def SameKeys (L : Layout n Slot Key) (table table' : Fin n → Slot) : Prop :=
  ∀ index, L.occupied (table' index) = L.occupied (table index) ∧
    (L.occupied (table index) = true → L.key (table' index) = L.key (table index))

theorem SameKeys.refl (table : Fin n → Slot) : L.SameKeys table table :=
  fun _ => ⟨rfl, fun _ => rfl⟩

theorem SameKeys.update (occ : L.occupied slot = L.occupied (table index))
    (same : L.key slot = L.key (table index)) :
    L.SameKeys table (update table index slot) := by
  intro other
  by_cases eq : other = index
  · subst eq
    simp [occ, same]
  · simp [update_of_ne eq]

section

variable (same : L.SameKeys table table')
include same

theorem SameKeys.chained
    (chained : L.Chained table) : L.Chained table' := by
  intro index occ
  rw [(same index).1] at occ
  obtain ⟨d, below, reach, path⟩ := chained index occ
  rw [(same index).2 occ]
  exact ⟨d, below, reach, fun e lt => by rw [(same _).1]; exact path e lt⟩

theorem SameKeys.distinct
    (distinct : L.Distinct table) : L.Distinct table' := by
  intro i j occI occJ eq
  rw [(same i).1] at occI
  rw [(same j).1] at occJ
  rw [(same i).2 occI, (same j).2 occJ] at eq
  exact distinct i j occI occJ eq

theorem SameKeys.find (key : Key) :
    L.find table' key = L.find table key := by
  apply Option.ext
  intro index
  rw [find_eq_some_iff, find_eq_some_iff]
  constructor
  · rintro ⟨d, below, reach, occ, hit, path⟩
    rw [(same index).1] at occ
    rw [(same index).2 occ] at hit
    refine ⟨d, below, reach, occ, hit, fun e lt => ?_⟩
    obtain ⟨occE, ne⟩ := path e lt
    rw [(same _).1] at occE
    rw [(same _).2 occE] at ne
    exact ⟨occE, ne⟩
  · rintro ⟨d, below, reach, occ, hit, path⟩
    refine ⟨d, below, reach, by rw [(same index).1, occ], by rw [(same index).2 occ, hit],
      fun e lt => ?_⟩
    obtain ⟨occE, ne⟩ := path e lt
    exact ⟨by rw [(same _).1, occE], by rw [(same _).2 occE]; exact ne⟩

end

/-! ### Insertion into the first free slot -/

section Insert

variable {slot : Slot} (free : L.findFree table key = some index)
  (occ : L.occupied slot = true) (same : L.key slot = key)

include occ in
theorem occupied_insert {other : Fin n} (held : L.occupied (table other)) :
    L.occupied (update table index slot other) := by
  by_cases eq : other = index
  · subst eq
    simpa using occ
  · simpa [update_of_ne eq] using held

include free occ same in
theorem Chained.insert (chained : L.Chained table) : L.Chained (update table index slot) := by
  obtain ⟨d, below, reach, vacant, path⟩ := findFree_eq_some_iff.mp free
  intro other held
  by_cases eq : other = index
  · subst eq
    rw [update_self, same]
    exact ⟨d, below, reach, fun e lt => occupied_insert occ (path e lt)⟩
  · rw [update_of_ne eq] at held ⊢
    obtain ⟨d', below', reach', path'⟩ := chained other held
    exact ⟨d', below', reach', fun e lt => occupied_insert occ (path' e lt)⟩

include free in
theorem find_insert_of_found {other : Key} {hit : Fin n} (found : L.find table other = some hit) :
    L.find (update table index slot) other = some hit := by
  have vacant := free_of_findFree free
  have neOfOccupied : ∀ j, L.occupied (table j) → j ≠ index := by
    rintro j held rfl
    rw [vacant] at held
    cases held
  obtain ⟨d, below, reach, held, match', path⟩ := find_eq_some_iff.mp found
  refine find_eq_some_iff.mpr ⟨d, below, reach, ?_, ?_, fun e lt => ?_⟩
  · rw [update_of_ne (neOfOccupied hit held)]; exact held
  · rw [update_of_ne (neOfOccupied hit held)]; exact match'
  · rw [update_of_ne (neOfOccupied _ (path e lt).1)]; exact path e lt

include free occ same in
theorem find_insert_self (absent : L.find table key = none) :
    L.find (update table index slot) key = some index := by
  obtain ⟨d, below, reach, vacant, path⟩ := findFree_eq_some_iff.mp free
  have ne_key : ∀ e < d, L.key (table (probe (L.bucket key) e)) ≠ key := by
    -- Otherwise the first such position would have been a hit.
    intro e
    induction e using Nat.strong_induction_on with
    | _ e ih =>
      intro lt hit
      have found : L.find table key = some (probe (L.bucket key) e) :=
        find_eq_some_iff.mpr ⟨e, lt.trans below, rfl, path e lt, hit,
          fun e' lt' => ⟨path e' (lt'.trans lt), ih e' lt' (lt'.trans lt)⟩⟩
      rw [absent] at found
      cases found
  have neIndex : ∀ e < d, probe (L.bucket key) e ≠ index := by
    intro e lt eq
    have held := path e lt
    rw [eq, vacant] at held
    cases held
  refine find_eq_some_iff.mpr ⟨d, below, reach, by simpa using occ, by simpa using same,
    fun e lt => ?_⟩
  rw [update_of_ne (neIndex e lt)]
  exact ⟨path e lt, ne_key e lt⟩

include free occ same in
theorem Chained.find_insert_of_ne (chained : L.Chained table) {other : Key} (ne : other ≠ key) :
    L.find (update table index slot) other = L.find table other := by
  cases found : L.find table other with
  | some hit => exact find_insert_of_found free found
  | none =>
    rw [(chained.insert free occ same).find_eq_none_iff]
    intro j held
    by_cases eq : j = index
    · subst eq
      rw [update_self, same]
      exact ne.symm
    · rw [update_of_ne eq] at held ⊢
      exact chained.find_eq_none_iff.mp found j held

include free same in
theorem Distinct.insert (chained : L.Chained table) (distinct : L.Distinct table)
    (absent : L.find table key = none) : L.Distinct (update table index slot) := by
  have fresh := chained.find_eq_none_iff.mp absent
  intro i j occI occJ eq
  refine eq_of_update (R := fun a b => L.occupied a ∧ L.occupied b ∧ L.key a = L.key b)
    (fun i j both => distinct i j both.1 both.2.1 both.2.2) ?_ ?_ ⟨occI, occJ, eq⟩
  · rintro j - ⟨-, occ, eq⟩
    exact fresh j occ (eq.symm.trans same)
  · rintro i - ⟨occ, -, eq⟩
    exact fresh i occ (eq.trans same)

end Insert

/-! ### A table as a map -/

def lookup (L : Layout n Slot Key) (table : Fin n → Slot) (key : Key) : Option Slot :=
  (L.find table key).map table

theorem lookup_eq_none : L.lookup table key = none ↔ L.find table key = none := by
  simp [lookup]

theorem lookup_of_find (found : L.find table key = some index) :
    L.lookup table key = some (table index) := by
  simp [lookup, found]

theorem lookup_eq_some_iff (chained : L.Chained table) (distinct : L.Distinct table) :
    L.lookup table key = some slot ↔
      ∃ index, L.occupied (table index) ∧ L.key (table index) = key ∧ table index = slot := by
  unfold lookup
  rw [Option.map_eq_some_iff]
  constructor
  · rintro ⟨index, found, stored⟩
    obtain ⟨occ, same⟩ := occupied_of_find found
    exact ⟨index, occ, same, stored⟩
  · rintro ⟨index, occ, rfl, stored⟩
    exact ⟨index, chained.find_eq_some distinct occ, stored⟩

theorem lookup_insert (free : L.findFree table key = some index) (occ : L.occupied slot)
    (same : L.key slot = key) (chained : L.Chained table) (absent : L.find table key = none) :
    L.lookup (update table index slot) = update (L.lookup table) key (some slot) := by
  have vacant := free_of_findFree free
  funext other
  by_cases eq : other = key
  · subst eq
    rw [lookup_of_find (find_insert_self free occ same absent), update_self, update_self]
  rw [update_of_ne eq]
  unfold lookup
  rw [chained.find_insert_of_ne free occ same eq]
  cases found : L.find table other with
  | none => rfl
  | some hit =>
    have ne : hit ≠ index := by
      rintro rfl
      exact absurd (occupied_of_find found).1 (by simp [vacant])
    simp [ne]

theorem lookup_update (found : L.find table key = some index) (occ : L.occupied slot)
    (same : L.key slot = key) : L.lookup (update table index slot) =
      update (L.lookup table) key (some slot) := by
  obtain ⟨held, carried⟩ := occupied_of_find found
  have keys : L.SameKeys table (update table index slot) :=
    SameKeys.update (occ.trans held.symm) (same.trans carried.symm)
  funext other
  unfold lookup
  rw [keys.find]
  by_cases eq : other = key
  · subst eq
    simp [found]
  rw [update_of_ne eq]
  cases hit : L.find table other with
  | none => rfl
  | some position =>
    have ne : position ≠ index := by
      rintro rfl
      exact eq ((occupied_of_find hit).2.symm.trans carried)
    simp [ne]

def used (L : Layout n Slot Key) (table : Fin n → Slot) : Nat :=
  ∑ index, if L.occupied (table index) then 1 else 0

end Layout

theorem sum_update_add {n : Nat} {Slot M : Type} [AddCommMonoid M] (weight : Slot → M)
    (table : Fin n → Slot) (index : Fin n) (slot : Slot) :
    ∑ j, weight (update table index slot j) + weight (table index) =
      ∑ j, weight (table j) + weight slot := by
  classical
  have split : ∀ t : Fin n → Slot, ∑ j, weight (t j) =
      weight (t index) + ∑ j ∈ univ.erase index, weight (t j) := fun t =>
    (add_sum_erase univ (fun j => weight (t j)) (mem_univ index)).symm
  have rest : ∑ j ∈ univ.erase index, weight (update table index slot j) =
      ∑ j ∈ univ.erase index, weight (table j) :=
    sum_congr rfl fun j mem => by rw [update_of_ne (ne_of_mem_erase mem)]
  rw [split (update table index slot), split table, rest, update_self]
  abel

namespace Layout

variable {n : Nat} [NeZero n] {Slot Key : Type} {L : Layout n Slot Key}
  {table : Fin n → Slot} {index : Fin n} {slot : Slot}

theorem used_insert (vacant : L.occupied (table index) = false) (occ : L.occupied slot) :
    L.used (update table index slot) = L.used table + 1 := by
  have exchange := sum_update_add (fun s => if L.occupied s then 1 else 0) table index slot
  simpa [used, vacant, occ] using exchange

theorem used_update (occ : L.occupied slot = L.occupied (table index)) :
    L.used (update table index slot) = L.used table := by
  have exchange := sum_update_add (fun s => if L.occupied s then 1 else 0) table index slot
  rw [occ] at exchange
  exact Nat.add_right_cancel exchange

theorem exists_free_of_used_lt (room : L.used table < n) :
    ∃ index, L.occupied (table index) = false := by
  by_contra full
  simp only [not_exists, Bool.not_eq_false] at full
  have all : L.used table = n := by simp [used, full]
  omega

end Layout

end Aegis.Foundation
