import Mathlib.Order.Defs.Unbundled

/-!
Computations over a state that may be refused half way. An early return of imperative code is a
refusal, and its assignments are updates that stay.
-/

namespace Aegis.Foundation

/-- A computation that returns a `Value` or is refused. -/
def Pipeline (State Reason Value : Type) : Type :=
  State → Except Reason Value × State

namespace Pipeline

variable {State Reason Value Result : Type}

instance : Monad (Pipeline State Reason) where
  pure value := fun s => (.ok value, s)
  bind first next := fun s =>
    match first s with
    | (.ok value, s') => next value s'
    | (.error reason, s') => (.error reason, s')

def refuse (reason : Reason) : Pipeline State Reason Value :=
  fun s => (.error reason, s)

def refuseIf (bad : Bool) (reason : Reason) : Pipeline State Reason Unit :=
  fun s => if bad then (.error reason, s) else (.ok (), s)

def update (change : State → State) : Pipeline State Reason Unit :=
  fun s => (.ok (), change s)

def require (value : Option Value) (reason : Reason) : Pipeline State Reason Value :=
  fun s =>
    match value with
    | some value => (.ok value, s)
    | none => (.error reason, s)

def ask (question : State → Except Reason Value) : Pipeline State Reason Value :=
  fun s => (question s, s)

def amend (change : State → Option State) (reason : Reason) : Pipeline State Reason Unit :=
  fun s =>
    match change s with
    | some s' => (.ok (), s')
    | none => (.error reason, s)

/-- Run it for every item, or stop at the first refusal. -/
def each {Item : Type} (body : Item → Pipeline State Reason Unit) :
    List Item → Pipeline State Reason Unit
  | [] => pure ()
  | item :: rest => body item >>= fun _ => each body rest

variable {s t : State} {reason : Reason} {value : Value}

@[simp] theorem pure_eq_ok_iff {returned : Value} :
    (pure value : Pipeline State Reason Value) s = (.ok returned, t) ↔
      value = returned ∧ s = t := by
  show ((Except.ok value : Except Reason Value), s) = (.ok returned, t) ↔ _
  simp

variable {first : Pipeline State Reason Value} {next : Value → Pipeline State Reason Result}
  {returned : Unit}

@[simp] theorem bind_eq_ok_iff {returned : Result} : (first >>= next) s = (.ok returned, t) ↔
      ∃ value middle, first s = (.ok value, middle) ∧ next value middle = (.ok returned, t) := by
  show (match first s with
    | (.ok value, s') => next value s'
    | (.error reason, s') => (.error reason, s')) = _ ↔ _
  rcases first s with ⟨_ | value, middle⟩
  · simp
  simp only [Prod.mk.injEq, Except.ok.injEq]
  constructor
  · intro tail
    exact ⟨value, middle, ⟨rfl, rfl⟩, tail⟩
  · rintro ⟨_, _, ⟨rfl, rfl⟩, tail⟩
    exact tail

theorem bind_eq_error_iff : (first >>= next) s = (.error reason, t) ↔ first s = (.error reason, t) ∨
      ∃ value middle, first s = (.ok value, middle) ∧ next value middle = (.error reason, t) := by
  show (match first s with
    | (.ok value, s') => next value s'
    | (.error reason, s') => (.error reason, s')) = _ ↔ _
  rcases first s with ⟨_ | value, middle⟩
  · simp
  simp only [Prod.mk.injEq, Except.ok.injEq, reduceCtorEq, false_and, false_or]
  constructor
  · intro tail
    exact ⟨value, middle, ⟨rfl, rfl⟩, tail⟩
  · rintro ⟨_, _, ⟨rfl, rfl⟩, tail⟩
    exact tail

@[simp] theorem refuse_ne_ok {returned : Value} :
    (refuse reason : Pipeline State Reason Value) s ≠ (.ok returned, t) := by
  simp [refuse]

@[simp] theorem refuseIf_eq_ok_iff {bad : Bool} :
    (refuseIf bad reason : Pipeline State Reason Unit) s = (.ok returned, t) ↔
      bad = false ∧ s = t := by
  cases bad <;> simp [refuseIf]

@[simp] theorem update_eq_ok_iff {change : State → State} :
    (update change : Pipeline State Reason Unit) s = (.ok returned, t) ↔ change s = t := by
  simp [update]

@[simp] theorem require_eq_ok_iff {option : Option Value} :
    (require option reason : Pipeline State Reason Value) s = (.ok value, t) ↔
      option = some value ∧ s = t := by
  cases option <;> simp [require]

@[simp] theorem ask_eq_ok_iff {question : State → Except Reason Value} :
    (ask question : Pipeline State Reason Value) s = (.ok value, t) ↔
      question s = .ok value ∧ s = t := by
  simp [ask]

@[simp] theorem amend_eq_ok_iff {change : State → Option State} :
    (amend change reason : Pipeline State Reason Unit) s = (.ok returned, t) ↔
      change s = some t := by
  unfold amend
  cases change s <;> simp

/-- The loop rule. -/
theorem each_invariant {Item : Type} {body : Item → Pipeline State Reason Unit} {items : List Item}
    {P : List Item → State → Prop}
    (kept : ∀ item rest s t, item ∈ items → P (item :: rest) s → body item s = (.ok (), t) →
      P rest t) (start : P items s) (ran : each body items s = (.ok (), t)) : P [] t := by
  induction items generalizing s with
  | nil =>
    obtain ⟨-, same⟩ := pure_eq_ok_iff.mp ran
    exact same ▸ start
  | cons item rest ih =>
    obtain ⟨_, middle, now, later⟩ := bind_eq_ok_iff.mp ran
    exact ih (fun next tail s t mem => kept next tail s t (List.mem_cons_of_mem _ mem))
      (kept item rest s middle List.mem_cons_self start now) later

/-! ### What no branch can do -/

/-- Whatever the outcome, the state moves within a relation. -/
def Within (R : State → State → Prop) (computation : Pipeline State Reason Value) : Prop :=
  ∀ s, R s (computation s).2

section Within

variable {R : State → State → Prop}

theorem within_refuse [Std.Refl R] : Within R (refuse reason : Pipeline State Reason Value) :=
  fun s => refl s

theorem within_refuseIf [Std.Refl R] {bad : Bool} :
    Within R (refuseIf bad reason : Pipeline State Reason Unit) := by
  intro s
  cases bad <;> exact refl s

theorem within_require [Std.Refl R] {option : Option Value} :
    Within R (require option reason : Pipeline State Reason Value) := by
  intro s
  cases option <;> exact refl s

theorem within_pure [Std.Refl R] {value : Value} :
    Within R (pure value : Pipeline State Reason Value) :=
  fun s => refl s

theorem within_update {change : State → State} (moves : ∀ s, R s (change s)) :
    Within R (update change : Pipeline State Reason Unit) :=
  moves

theorem within_amend [Std.Refl R] {change : State → Option State}
    (moves : ∀ s t, change s = some t → R s t) :
    Within R (amend change reason : Pipeline State Reason Unit) := by
  intro s
  unfold amend
  cases changed : change s with
  | none => exact refl s
  | some t => exact moves s t changed

theorem Within.bind [IsTrans State R] {first : Pipeline State Reason Value}
    {next : Value → Pipeline State Reason Result} (head : Within R first)
    (tail : ∀ value, Within R (next value)) : Within R (first >>= next) := by
  intro s
  have now := head s
  show R s (match first s with
    | (.ok value, s') => next value s'
    | (.error reason, s') => (.error reason, s')).2
  generalize first s = outcome at now ⊢
  rcases outcome with ⟨_ | value, middle⟩
  · exact now
  · exact IsTrans.trans _ _ _ now (tail value middle)

theorem Within.each [Std.Refl R] [IsTrans State R] {Item : Type}
    {body : Item → Pipeline State Reason Unit} (within : ∀ item, Within R (body item))
    (items : List Item) : Within R (each body items) := by
  induction items with
  | nil => exact within_pure
  | cons item rest ih => exact (within item).bind fun _ => ih

variable {computation : Pipeline State Reason Value}

theorem Within.moves {outcome : Except Reason Value}
    (within : Within R computation) (ran : computation s = (outcome, t)) : R s t := by
  have moved := within s
  rwa [ran] at moved

theorem Within.mono {R' : State → State → Prop}
    (within : Within R computation) (weaker : ∀ s t, R s t → R' s t) : Within R' computation :=
  fun s => weaker _ _ (within s)

end Within

end Pipeline

end Aegis.Foundation
