import Mathlib.Algebra.BigOperators.Group.List.Basic
import Mathlib.Tactic.Abel

/-!
Lists with one entry rewritten by a partial function: the checked update of an array of records.
-/

namespace Aegis.Foundation

open List

variable {Entry : Type}

/-- Rewrite the entry at an index where the function is defined. -/
def amendAt (change : Entry → Option Entry) : List Entry → Nat → Option (List Entry)
  | [], _ => none
  | entry :: rest, 0 => (change entry).map (· :: rest)
  | entry :: rest, index + 1 => (amendAt change rest index).map (entry :: ·)

variable {change : Entry → Option Entry} {entries entries' : List Entry} {index : Nat}

theorem sum_map_amendAt {M : Type} [AddCommMonoid M] {weight : Entry → M} {shift : M}
    (shifted : ∀ entry entry', change entry = some entry' → weight entry' = weight entry + shift)
    (amended : amendAt change entries index = some entries') :
    (entries'.map weight).sum = (entries.map weight).sum + shift := by
  induction entries generalizing index entries' with
  | nil => cases amended
  | cons entry rest ih =>
    cases index with
    | zero =>
      obtain ⟨entry', changed, rfl⟩ := Option.map_eq_some_iff.mp amended
      simp only [map_cons, sum_cons, shifted entry entry' changed]
      abel
    | succ index =>
      obtain ⟨rest', changed, rfl⟩ := Option.map_eq_some_iff.mp amended
      simp only [map_cons, sum_cons, ih changed, add_assoc]

theorem map_amendAt {Value : Type} {view : Entry → Value}
    (kept : ∀ entry entry', change entry = some entry' → view entry' = view entry)
    (amended : amendAt change entries index = some entries') :
    entries'.map view = entries.map view := by
  induction entries generalizing index entries' with
  | nil => cases amended
  | cons entry rest ih =>
    cases index with
    | zero =>
      obtain ⟨entry', changed, rfl⟩ := Option.map_eq_some_iff.mp amended
      simp only [map_cons, kept entry entry' changed]
    | succ index =>
      obtain ⟨rest', changed, rfl⟩ := Option.map_eq_some_iff.mp amended
      simp only [map_cons, ih changed]

end Aegis.Foundation
