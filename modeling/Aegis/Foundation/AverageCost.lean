import Mathlib.Algebra.Order.Ring.Int
import Mathlib.Tactic.Linarith
import Mathlib.Tactic.Ring

/-!
Average-cost accounting of a signed holding, over the integers. A trade against the holding
realizes the difference between its price and a share of the cost, rounded towards zero.
-/

namespace Aegis.Foundation

/-- A signed quantity, what it cost, and the realized profit. -/
@[ext]
structure Holding where
  quantity : Int
  cost : Int
  realized : Int

/-- A trade of a signed quantity at a price per unit. -/
structure Trade where
  quantity : Int
  unitPrice : Int
  fee : Int

/-- What a trade costs: positive for a purchase. -/
def Trade.notional (t : Trade) : Int :=
  t.unitPrice * t.quantity

namespace Holding

def Extends (h : Holding) (t : Trade) : Prop :=
  h.quantity = 0 ∨ 0 < h.quantity ∧ 0 < t.quantity ∨ h.quantity < 0 ∧ t.quantity < 0

instance (h : Holding) (t : Trade) : Decidable (h.Extends t) :=
  inferInstanceAs (Decidable (_ ∨ _))

def closing (h : Holding) (t : Trade) : Int :=
  min |h.quantity| |t.quantity|

def share (h : Holding) (t : Trade) : Int :=
  |h.cost| * h.closing t / |h.quantity|

def gain (h : Holding) (t : Trade) : Int :=
  if 0 < h.quantity then t.unitPrice * h.closing t - h.share t
  else h.share t - t.unitPrice * h.closing t

/-- What is left of the cost after a trade against the holding. -/
def costLeft (h : Holding) (t : Trade) : Int :=
  if |h.quantity| < |t.quantity| then t.unitPrice * (h.quantity + t.quantity)
  else if h.quantity + t.quantity = 0 then 0
  else if 0 < h.cost then h.cost - h.share t
  else h.cost + h.share t

def trade (h : Holding) (t : Trade) : Holding :=
  if h.Extends t then
    ⟨h.quantity + t.quantity, h.cost + t.notional, h.realized - t.fee⟩
  else ⟨h.quantity + t.quantity, h.costLeft t, h.realized + h.gain t - t.fee⟩

def SignsAgree (h : Holding) : Prop :=
  h.quantity = 0 ∧ h.cost = 0 ∨ 0 < h.quantity ∧ 0 < h.cost ∨ h.quantity < 0 ∧ h.cost < 0

variable {h : Holding} {t : Trade}

@[simp] theorem trade_quantity : (h.trade t).quantity = h.quantity + t.quantity := by
  unfold trade
  split <;> rfl

theorem share_of_closed (held : h.quantity ≠ 0) (covers : |h.quantity| ≤ |t.quantity|) :
    h.share t = |h.cost| := by
  unfold share closing
  rw [min_eq_left covers]
  exact Int.mul_ediv_cancel _ (abs_ne_zero.mpr held)

theorem share_le (held : h.quantity ≠ 0) : h.share t ≤ |h.cost| := by
  unfold share closing
  refine Int.ediv_le_of_le_mul (abs_pos.mpr held) ?_
  exact mul_le_mul_of_nonneg_left (min_le_left _ _) (abs_nonneg _)

theorem share_lt_of_open (open_ : |t.quantity| < |h.quantity|) (costly : 0 < |h.cost|) :
    h.share t < |h.cost| := by
  unfold share closing
  rw [min_eq_right open_.le]
  refine Int.ediv_lt_of_lt_mul (lt_of_le_of_lt (abs_nonneg _) open_) ?_
  exact mul_lt_mul_of_pos_left open_ costly

theorem opposes_of_not_extends (against : ¬ h.Extends t) :
    0 < h.quantity ∧ t.quantity ≤ 0 ∨ h.quantity < 0 ∧ 0 ≤ t.quantity := by
  unfold Extends at against
  omega

theorem costLeft_of_closed (against : ¬ h.Extends t) (covers : |h.quantity| ≤ |t.quantity|) :
    h.costLeft t = t.unitPrice * (h.quantity + t.quantity) := by
  unfold costLeft
  split
  · rfl
  rename_i reached
  have flat : h.quantity + t.quantity = 0 := by
    have same : |h.quantity| = |t.quantity| := le_antisymm covers (not_lt.mp reached)
    rcases opposes_of_not_extends against with ⟨long, sold⟩ | ⟨short, bought⟩
    · rw [abs_of_pos long, abs_of_nonpos sold] at same
      omega
    · rw [abs_of_neg short, abs_of_nonneg bought] at same
      omega
  rw [if_pos flat, flat, mul_zero]

theorem costLeft_of_open (against : ¬ h.Extends t) (open_ : |t.quantity| < |h.quantity|) :
    h.costLeft t = if 0 < h.cost then h.cost - h.share t else h.cost + h.share t := by
  have held : h.quantity + t.quantity ≠ 0 := by
    rcases opposes_of_not_extends against with ⟨long, sold⟩ | ⟨short, bought⟩
    · rw [abs_of_pos long, abs_of_nonpos sold] at open_
      omega
    · rw [abs_of_neg short, abs_of_nonneg bought] at open_
      omega
  unfold costLeft
  rw [if_neg (not_lt.mpr open_.le), if_neg held]

/-- Profit is the net receipts plus the change of the open cost. -/
theorem trade_cash (agree : h.SignsAgree) :
    (h.trade t).realized - h.realized = -t.notional - t.fee + ((h.trade t).cost - h.cost) := by
  unfold trade
  by_cases against : h.Extends t
  · simp only [if_pos against]
    ring
  simp only [if_neg against]
  have opposed := opposes_of_not_extends against
  unfold SignsAgree at agree
  have held : h.quantity ≠ 0 := by omega
  unfold gain Trade.notional
  rcases le_or_gt |h.quantity| |t.quantity| with covers | open_
  · have all : h.closing t = |h.quantity| := min_eq_left covers
    rw [costLeft_of_closed against covers, share_of_closed held covers, all]
    rcases opposed with ⟨long, -⟩ | ⟨short, -⟩
    · have costly : 0 < h.cost := by omega
      rw [if_pos long, abs_of_pos long, abs_of_pos costly]
      ring
    · have costly : h.cost < 0 := by omega
      rw [if_neg (by omega), abs_of_neg short, abs_of_neg costly]
      ring
  · have part : h.closing t = |t.quantity| := min_eq_right open_.le
    rw [costLeft_of_open against open_, part]
    rcases opposed with ⟨long, sold⟩ | ⟨short, bought⟩
    · rw [if_pos long, if_pos (by omega : 0 < h.cost), abs_of_nonpos sold]
      ring
    · rw [if_neg (by omega), if_neg (by omega : ¬ 0 < h.cost), abs_of_nonneg bought]
      ring

theorem trade_signsAgree (agree : h.SignsAgree) (priced : 0 < t.unitPrice) :
    (h.trade t).SignsAgree := by
  unfold trade
  by_cases against : h.Extends t
  · rw [if_pos against]
    unfold SignsAgree Extends Trade.notional at *
    dsimp only
    rcases lt_trichotomy t.quantity 0 with sold | none | bought
    · have negative : t.unitPrice * t.quantity < 0 := mul_neg_of_pos_of_neg priced sold
      omega
    · rw [none, mul_zero, add_zero, add_zero]
      exact agree
    · have positive : 0 < t.unitPrice * t.quantity := mul_pos priced bought
      omega
  rw [if_neg against]
  have opposed := opposes_of_not_extends against
  unfold SignsAgree at agree ⊢
  dsimp only
  rcases le_or_gt |h.quantity| |t.quantity| with covers | open_
  · rw [costLeft_of_closed against covers]
    rcases lt_trichotomy (h.quantity + t.quantity) 0 with short | flat | long
    · exact .inr (.inr ⟨short, mul_neg_of_pos_of_neg priced short⟩)
    · exact .inl ⟨flat, by rw [flat, mul_zero]⟩
    · exact .inr (.inl ⟨long, mul_pos priced long⟩)
  · have costly : 0 < |h.cost| := abs_pos.mpr (by omega)
    have share := share_lt_of_open open_ costly
    rw [costLeft_of_open against open_]
    rcases opposed with ⟨long, sold⟩ | ⟨short, bought⟩
    · have positive : 0 < h.cost := by omega
      rw [abs_of_pos long, abs_of_nonpos sold] at open_
      rw [abs_of_pos positive] at share
      omega
    · have negative : h.cost < 0 := by omega
      rw [abs_of_neg short, abs_of_nonneg bought] at open_
      rw [abs_of_neg negative] at share
      omega

end Holding

end Aegis.Foundation
