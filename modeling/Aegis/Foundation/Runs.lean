import Mathlib.Data.List.Basic

/-!
Runs of a deterministic transition function: a step lemma under a condition gives a run lemma.
-/

namespace Aegis.Foundation

open List

section Runs

variable {State Action : Type} (step : State → Action → State)

def run (s : State) (actions : List Action) : State :=
  actions.foldl step s

/-- Every action meets a condition in the state it is taken in. -/
def Throughout (allowed : State → Action → Prop) : State → List Action → Prop
  | _, [] => True
  | s, action :: rest => allowed s action ∧ Throughout allowed (step s action) rest

/-- Every state that the actions pass through has a property. -/
def Always (P : State → Prop) (s : State) (actions : List Action) : Prop :=
  ∀ before, before <+: actions → P (run step s before)

instance decidableThroughout (allowed : State → Action → Prop)
    [∀ s action, Decidable (allowed s action)] :
    ∀ s actions, Decidable (Throughout step allowed s actions)
  | _, [] => .isTrue trivial
  | s, action :: rest =>
      match decidableThroughout allowed (step s action) rest with
      | .isTrue later =>
          if now : allowed s action then .isTrue ⟨now, later⟩ else .isFalse fun h => now h.1
      | .isFalse later => .isFalse fun h => later h.2

variable {step}

@[simp] theorem run_nil (s : State) : run step s [] = s := rfl

@[simp] theorem run_cons (s : State) (action : Action) (rest : List Action) :
    run step s (action :: rest) = run step (step s action) rest := rfl

@[simp] theorem run_append (s : State) (first rest : List Action) :
    run step s (first ++ rest) = run step (run step s first) rest :=
  foldl_append

variable {allowed : State → Action → Prop} {s : State}

theorem throughout_append {first rest : List Action} : Throughout step allowed s (first ++ rest) ↔
      Throughout step allowed s first ∧ Throughout step allowed (run step s first) rest := by
  induction first generalizing s with
  | nil => simp [Throughout]
  | cons action first ih =>
    simp only [cons_append, Throughout, run_cons, ih, and_assoc]

theorem throughout_of_forall (always : ∀ s action, allowed s action) (s : State)
    (actions : List Action) : Throughout step allowed s actions := by
  induction actions generalizing s with
  | nil => trivial
  | cons action rest ih => exact ⟨always s action, ih _⟩

variable {actions : List Action}

theorem throughout_and {required : State → Action → Prop} :
    Throughout step (fun s action => allowed s action ∧ required s action) s actions ↔
      Throughout step allowed s actions ∧ Throughout step required s actions := by
  induction actions generalizing s with
  | nil => exact ⟨fun _ => ⟨trivial, trivial⟩, fun _ => trivial⟩
  | cons action rest ih =>
    simp only [Throughout, ih]
    exact and_and_and_comm

variable {P : State → Prop}

/-- The run rule. -/
theorem run_invariant (preserved : ∀ s action, P s → allowed s action → P (step s action))
    (start : P s) (conditions : Throughout step allowed s actions) : P (run step s actions) := by
  induction actions generalizing s with
  | nil => exact start
  | cons action rest ih => exact ih (preserved s action start conditions.1) conditions.2

theorem run_preserves (preserved : ∀ s action, P s → P (step s action)) (start : P s)
    (actions : List Action) : P (run step s actions) :=
  run_invariant (fun s action held _ => preserved s action held) start
    (throughout_of_forall (fun _ _ => trivial) s actions)

/-- Some action of a run is one of the first kind, and none after it is one of the second. -/
def Since (done undone : Action → Prop) (actions : List Action) : Prop :=
  ∃ before action after, actions = before ++ action :: after ∧ done action ∧
    ∀ later ∈ after, ¬ undone later

/-- The rule for what one kind of action establishes in every state, and only another kind undoes. -/
theorem run_of_since {I Q : State → Prop} {done undone : Action → Prop}
    (invariant : ∀ s action, I s → I (step s action))
    (established : ∀ s action, I s → done action → Q (step s action))
    (kept : ∀ s action, I s → Q s → ¬ undone action → Q (step s action)) (start : I s)
    (since : Since done undone actions) : Q (run step s actions) := by
  obtain ⟨before, action, after, rfl, now, later⟩ := since
  have base : I (run step s before) := run_preserves invariant start before
  have held : I (step (run step s before) action) ∧ Q (step (run step s before) action) :=
    ⟨invariant _ action base, established _ action base now⟩
  rw [run_append, run_cons]
  generalize step (run step s before) action = t at held
  induction after generalizing t with
  | nil => exact held.2
  | cons other rest ih =>
    have next := kept t other held.1 held.2 (later other mem_cons_self)
    exact ih (fun action mem => later action (mem_cons_of_mem _ mem)) _
      ⟨invariant t other held.1, next⟩

theorem always_of_throughout (preserved : ∀ s action, P s → allowed s action → P (step s action))
    (start : P s) (conditions : Throughout step allowed s actions) : Always step P s actions := by
  rintro before ⟨rest, rfl⟩
  exact run_invariant preserved start (throughout_append.mp conditions).1

theorem always_cons {action : Action} {rest : List Action} :
    Always step P s (action :: rest) ↔ P s ∧ Always step P (step s action) rest := by
  constructor
  · intro always
    refine ⟨always [] nil_prefix, fun before initial => ?_⟩
    exact always (action :: before) (cons_prefix_cons.mpr ⟨rfl, initial⟩)
  rintro ⟨now, later⟩ before initial
  cases before with
  | nil => exact now
  | cons other before =>
    obtain ⟨rfl, shorter⟩ := cons_prefix_cons.mp initial
    exact later before shorter

/-- A property of all next states is one of all steps. -/
theorem throughout_of_always (required : ∀ s action, P (step s action) → allowed s action)
    (always : Always step P s actions) : Throughout step allowed s actions := by
  induction actions generalizing s with
  | nil => trivial
  | cons action rest ih =>
    have later := (always_cons.mp always).2
    exact ⟨required s action (later [] nil_prefix), ih later⟩

/-- The exact run rule, for steps that keep a property exactly if they meet a condition. -/
theorem always_iff_throughout {I : State → Prop} (invariant : ∀ s action, I s → I (step s action))
    (exactStep : ∀ s action, I s → P s → (P (step s action) ↔ allowed s action)) (base : I s)
    (start : P s) : Always step P s actions ↔ Throughout step allowed s actions := by
  induction actions generalizing s with
  | nil =>
    refine ⟨fun _ => trivial, fun _ before initial => ?_⟩
    rw [prefix_nil.mp initial]
    exact start
  | cons action rest ih =>
    rw [always_cons]
    constructor
    · rintro ⟨-, later⟩
      have next : P (step s action) := later [] nil_prefix
      exact ⟨(exactStep s action base start).mp next, (ih (invariant s action base) next).mp later⟩
    · rintro ⟨now, later⟩
      have next : P (step s action) := (exactStep s action base start).mpr now
      exact ⟨start, (ih (invariant s action base) next).mpr later⟩

/-- The confluence rule, for actions that commute wherever they are ready. -/
theorem run_eq_of_perm {Ready : State → List Action → Prop}
    (permuted : ∀ s (actions actions' : List Action), actions.Perm actions' → Ready s actions →
      Ready s actions')
    (next : ∀ s action rest, Ready s (action :: rest) → Ready (step s action) rest)
    (commute : ∀ s first second rest, Ready s (first :: second :: rest) →
      step (step s first) second = step (step s second) first) {actions' : List Action} (perm : actions.Perm actions')
    (ready : Ready s actions) : run step s actions = run step s actions' := by
  induction perm generalizing s with
  | nil => rfl
  | cons action _ ih => exact ih (next s action _ ready)
  | swap first second rest =>
    simp only [run_cons]
    rw [commute s second first rest ready]
  | trans perm _ ih ih' => exact (ih ready).trans (ih' (permuted s _ _ perm ready))

def outputs {Output : Type} (step : State → Action → State) (emit : State → Action → List Output) :
    State → List Action → List Output
  | _, [] => []
  | s, action :: rest => emit s action ++ outputs step emit (step s action) rest

section Outputs

variable {Output : Type} {emit : State → Action → List Output} {I : State → Prop}
  {s : State} {actions : List Action}

theorem exists_of_mem_outputs {output : Output} (mem : output ∈ outputs step emit s actions) :
    ∃ action ∈ actions, ∃ s, output ∈ emit s action := by
  induction actions generalizing s with
  | nil => nomatch mem
  | cons action rest ih =>
    rcases mem_append.mp mem with now | later
    · exact ⟨action, mem_cons_self, s, now⟩
    · obtain ⟨other, among, emitted⟩ := ih later
      exact ⟨other, mem_cons_of_mem _ among, emitted⟩

/-- Outputs that a step takes out of what it is given are taken out of what the run is given. -/
theorem map_outputs_sublist {Other : Type} {given : State → Action → List Other}
    {f : Output → Other} (each : ∀ s action, ((emit s action).map f).Sublist (given s action)) :
    ((outputs step emit s actions).map f).Sublist (outputs step given s actions) := by
  induction actions generalizing s with
  | nil => exact Sublist.refl []
  | cons action rest ih =>
    rw [outputs, map_append]
    exact (each s action).append ih

/-- What every allowed step keeps of the last output and the state. -/
theorem latest_invariant {J : Option Output → State → Prop} {allowed : State → Action → Prop}
    (kept : ∀ s action latest, J latest s → allowed s action →
      J ((emit s action).getLast?.or latest) (step s action))
    (start : J none s) (conditions : Throughout step allowed s actions) :
    J (outputs step emit s actions).getLast? (run step s actions) := by
  have continued : ∀ (actions : List Action) (s : State) (latest : Option Output), J latest s →
      Throughout step allowed s actions →
      J ((outputs step emit s actions).getLast?.or latest) (run step s actions) := by
    intro actions
    induction actions with
    | nil => exact fun s latest start _ => start
    | cons action rest ih =>
      intro s latest start conditions
      rw [outputs, getLast?_append, Option.or_assoc]
      exact ih _ _ (kept s action latest start conditions.1) conditions.2
  simpa using continued actions s none start conditions

/-- Pairwise related actions emit pairwise related outputs. -/
theorem outputs_pairwise_of_actions {R : Output → Output → Prop} {A : Action → Action → Prop}
    (single : ∀ s action, (emit s action).Pairwise R)
    (related : ∀ s s' first later, A first later → ∀ x ∈ emit s first, ∀ y ∈ emit s' later, R x y)
    (ordered : actions.Pairwise A) : (outputs step emit s actions).Pairwise R := by
  induction actions generalizing s with
  | nil => exact List.Pairwise.nil
  | cons action rest ih =>
    obtain ⟨ahead, ordered⟩ := pairwise_cons.mp ordered
    refine pairwise_append.mpr ⟨single s action, ih ordered, fun x now y after => ?_⟩
    obtain ⟨other, among, s', emitted⟩ := exists_of_mem_outputs after
    exact related s s' action other (ahead other among) x now y emitted

theorem forall_mem_outputs {Q : Output → Prop} (invariant : ∀ s action, I s → I (step s action))
    (emitted : ∀ s action, I s → ∀ output ∈ emit s action, Q output) (start : I s) :
    ∀ output ∈ outputs step emit s actions, Q output := by
  induction actions generalizing s with
  | nil => nofun
  | cons action rest ih =>
    intro output mem
    rcases mem_append.mp mem with now | later
    · exact emitted s action start output now
    · exact ih (invariant s action start) output later

section History

/-! `J output s` says that `output` may have been emitted before `s`. -/

variable {R : Output → Output → Prop} {J : Output → State → Prop}
  {allowed : State → Action → Prop}
  (invariant : ∀ s action, I s → allowed s action → I (step s action))
  (kept : ∀ s action output, I s → allowed s action → J output s → J output (step s action))
  (related : ∀ s action first later, I s → allowed s action → J first s →
    later ∈ emit s action → R first later)

include invariant kept related

variable {s : State} {actions : List Action}

/-- A recorded output is related to all later ones. -/
theorem related_of_recorded {first : Output} (start : I s)
    (before : J first s) (conditions : Throughout step allowed s actions) :
    ∀ later ∈ outputs step emit s actions, R first later := by
  induction actions generalizing s with
  | nil => nofun
  | cons action rest ih =>
    intro later mem
    rcases mem_append.mp mem with now | after
    · exact related s action first later start conditions.1 before now
    · exact ih (invariant s action start conditions.1)
        (kept s action first start conditions.1 before) conditions.2 later after

omit related in
/-- What is recorded of an output, and kept, holds at the end. -/
theorem recorded_of_mem_outputs
    (recorded : ∀ s action output, I s → allowed s action → output ∈ emit s action →
      J output (step s action)) (start : I s) (conditions : Throughout step allowed s actions) :
    ∀ output ∈ outputs step emit s actions, J output (run step s actions) := by
  induction actions generalizing s with
  | nil => nofun
  | cons action rest ih =>
    have next := invariant s action start conditions.1
    intro output mem
    rcases mem_append.mp mem with now | after
    · have after := run_invariant (P := fun s => I s ∧ J output s)
        (fun s action held allowed => ⟨invariant s action held.1 allowed,
          kept s action output held.1 allowed held.2⟩)
        ⟨next, recorded s action output start conditions.1 now⟩ conditions.2
      exact after.2
    · exact ih next conditions.2 output after

/-- The history rule: `J` holds after an emission, is kept, and relates earlier outputs to later
ones. -/
theorem outputs_pairwise_of_throughout (single : ∀ s action, I s → (emit s action).Pairwise R)
    (recorded : ∀ s action output, I s → allowed s action → output ∈ emit s action →
      J output (step s action)) (start : I s) (conditions : Throughout step allowed s actions) :
    (outputs step emit s actions).Pairwise R := by
  induction actions generalizing s with
  | nil => exact List.Pairwise.nil
  | cons action rest ih =>
    have next := invariant s action start conditions.1
    refine pairwise_append.mpr ⟨single s action start, ih next conditions.2, ?_⟩
    intro first now
    exact related_of_recorded invariant kept related next
      (recorded s action first start conditions.1 now) conditions.2

end History

theorem outputs_pairwise {R : Output → Output → Prop} {J : Output → State → Prop}
    (invariant : ∀ s action, I s → I (step s action))
    (single : ∀ s action, I s → (emit s action).Pairwise R)
    (recorded : ∀ s action output, I s → output ∈ emit s action → J output (step s action))
    (kept : ∀ s action output, I s → J output s → J output (step s action))
    (related : ∀ s action first later, I s → J first s → later ∈ emit s action → R first later)
    (start : I s) : (outputs step emit s actions).Pairwise R :=
  outputs_pairwise_of_throughout (fun s action held _ => invariant s action held)
    (fun s action output held _ => kept s action output held)
    (fun s action first later held _ => related s action first later held) single
    (fun s action output held _ => recorded s action output held) start
    (throughout_of_forall (fun _ _ => trivial) s actions)

end Outputs

end Runs

end Aegis.Foundation
