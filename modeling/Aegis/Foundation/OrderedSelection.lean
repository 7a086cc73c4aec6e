import Mathlib.Data.List.FinRange
import Mathlib.Data.List.Sort
import Mathlib.Data.List.TakeWhile

/-!
The selected slots of a table, listed in an order that tells them apart. Writing one slot edits
the list in one place.
-/

namespace Aegis.Foundation

open List Function

variable {n : Nat} {Slot : Type} (le : Slot → Slot → Prop) [DecidableRel le] (select : Slot → Bool)

def inOrder (table : Fin n → Slot) : List Slot :=
  (((List.finRange n).map table).filter select).insertionSort le

/-- The order tells the selected slots of a table apart. -/
def Ranked (table : Fin n → Slot) : Prop :=
  ∀ i j, select (table i) = true → select (table j) = true → le (table i) (table j) →
    le (table j) (table i) → i = j

def selectedOthers (table : Fin n → Slot) (index : Fin n) : List Slot :=
  (((List.finRange n).erase index).map table).filter select

variable {le select} {table : Fin n → Slot} {index : Fin n} {slot : Slot}

theorem selectedOthers_update : selectedOthers select (update table index slot) index =
      selectedOthers select table index := by
  unfold selectedOthers
  congr 1
  refine map_congr_left fun other mem => update_of_ne ?_ _ _
  exact ((nodup_finRange n).mem_erase_iff.mp mem).1

theorem mem_selected {member : Slot} (mem : member ∈ ((finRange n).map table).filter select) :
    ∃ i, table i = member ∧ select (table i) := by
  simp only [mem_filter, mem_map, mem_finRange, true_and] at mem
  obtain ⟨⟨i, rfl⟩, chosen⟩ := mem
  exact ⟨i, rfl, chosen⟩

theorem inOrder_congr {table' : Fin n → Slot}
    (same : ∀ i, select (table i) ∨ select (table' i) → table' i = table i) :
    inOrder le select table' = inOrder le select table := by
  have lists : ∀ indices : List (Fin n),
      (indices.map table').filter select = (indices.map table).filter select := by
    intro indices
    induction indices with
    | nil => rfl
    | cons i rest ih =>
      simp only [map_cons, filter_cons, ih]
      by_cases chosen : select (table i) ∨ select (table' i)
      · rw [same i chosen]
      · rw [not_or] at chosen
        rw [if_neg chosen.1, if_neg chosen.2]
  unfold inOrder
  rw [lists]

section Edits

variable [Std.Total le] [IsTrans Slot le]

theorem inOrder_eq_of_perm (members : List Slot) (ranked : Ranked le select table)
    (perm : (((finRange n).map table).filter select).Perm members) :
    inOrder le select table = members.insertionSort le := by
  refine List.Perm.eq_of_pairwise (fun x y memX memY below above => ?_)
    (pairwise_insertionSort le _) (pairwise_insertionSort le members)
    ((perm_insertionSort le _).trans (perm.trans (perm_insertionSort le _).symm))
  obtain ⟨i, rfl, chosenI⟩ := mem_selected ((mem_insertionSort le).mp memX)
  obtain ⟨j, rfl, chosenJ⟩ :=
    mem_selected (perm.mem_iff.mpr ((mem_insertionSort le).mp memY))
  rw [ranked i j chosenI chosenJ below above]

section

variable (ranked : Ranked le select table)
include ranked

theorem inOrder_of_selected (chosen : select (table index)) : inOrder le select table =
      ((selectedOthers select table index).insertionSort le).orderedInsert le (table index) := by
  refine inOrder_eq_of_perm (table index :: selectedOthers select table index) ranked ?_
  have front := perm_cons_erase (mem_finRange index)
  have listed := (front.map table).filter select
  rwa [map_cons, filter_cons_of_pos chosen] at listed

theorem inOrder_of_unselected (skipped : select (table index) = false) :
    inOrder le select table = (selectedOthers select table index).insertionSort le := by
  refine inOrder_eq_of_perm (selectedOthers select table index) ranked ?_
  have front := perm_cons_erase (mem_finRange index)
  have listed := (front.map table).filter select
  rwa [map_cons, filter_cons_of_neg (by simp [skipped])] at listed

section

variable (ranked' : Ranked le select (Function.update table index slot))
include ranked'

theorem inOrder_insert (skipped : select (table index) = false) (chosen : select slot)
    (above : ∀ i, select (table i) → ¬ le slot (table i)) :
    inOrder le select (update table index slot) = inOrder le select table ++ [slot] := by
  have chosen' : select (update table index slot index) := by simpa using chosen
  rw [inOrder_of_selected ranked' chosen', selectedOthers_update, update_self,
    ← inOrder_of_unselected ranked skipped, orderedInsert_eq_take_drop]
  have all : ∀ member ∈ inOrder le select table, decide (¬ le slot member) := by
    intro member mem
    obtain ⟨i, rfl, chosenI⟩ := mem_selected ((mem_insertionSort le).mp mem)
    exact decide_eq_true (above i chosenI)
  rw [takeWhile_eq_self_iff.mpr all, dropWhile_eq_nil_iff.mpr all]

theorem inOrder_remove (chosen : select (table index)) (skipped : select slot = false) :
    ∃ before after, inOrder le select table = before ++ table index :: after ∧
      inOrder le select (update table index slot) = before ++ after := by
  have skipped' : select (update table index slot index) = false := by
    simpa using skipped
  refine ⟨_, _, (inOrder_of_selected ranked chosen).trans (orderedInsert_eq_take_drop ..), ?_⟩
  rw [inOrder_of_unselected ranked' skipped', selectedOthers_update, takeWhile_append_dropWhile]

theorem inOrder_replace (chosen : select (table index)) (chosen' : select slot)
    (same : ∀ member, le slot member ↔ le (table index) member) :
    ∃ before after, inOrder le select table = before ++ table index :: after ∧
      inOrder le select (update table index slot) = before ++ slot :: after := by
  have updated : select (update table index slot index) := by simpa using chosen'
  refine ⟨_, _, (inOrder_of_selected ranked chosen).trans (orderedInsert_eq_take_drop ..), ?_⟩
  rw [inOrder_of_selected ranked' updated, selectedOthers_update, update_self,
    orderedInsert_eq_take_drop]
  simp only [same]

end

end

end Edits

end Aegis.Foundation
