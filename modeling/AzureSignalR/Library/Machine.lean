import Mathlib.Order.WellFounded

/-!
Contract: state machines given by a partial step function, and their runs.

Owns: finite runs over a list of actions, conditions along a run, the
invariant rule, infinite runs and the two rules that exclude or construct
them.

Does not own: any particular machine. States and actions are arbitrary types;
an action that is not enabled has no next state.
-/

set_option autoImplicit false

namespace AzureSignalR.Library.Machine

variable {σ α : Type} (step : σ → α → Option σ)

/-- The state after performing the actions in order, if each is enabled. -/
def run (state : σ) : List α → Option σ
  | [] => some state
  | action :: actions =>
      match step state action with
      | none => none
      | some next => run next actions

/-- Every step of the run meets the condition. -/
def Along (condition : σ → α → Prop) (state : σ) : List α → Prop
  | [] => True
  | action :: actions =>
      condition state action ∧
        ∀ next, step state action = some next → Along condition next actions

/-- No action is enabled. -/
def Stuck (state : σ) : Prop := ∀ action, step state action = none

/-- An infinite run. -/
def Diverges (state : σ) : Prop :=
  ∃ states : Nat → σ, states 0 = state ∧
    ∀ time, ∃ action, step (states time) action = some (states (time + 1))

/-- What the steps of a run put out, in order. -/
def outputs {β : Type} (output : σ → α → List β) (state : σ) : List α → List β
  | [] => []
  | action :: actions =>
      output state action ++
        match step state action with
        | none => []
        | some next => outputs output next actions

variable {step}

@[simp] theorem run_nil (state : σ) : run step state [] = some state := rfl

theorem run_cons {state final : σ} {action : α} {actions : List α} :
    run step state (action :: actions) = some final ↔
      ∃ next, step state action = some next ∧ run step next actions = some final := by
  rw [run]
  cases step state action with
  | none => simp
  | some next => simp

theorem run_append {state final : σ} {first second : List α} :
    run step state (first ++ second) = some final ↔
      ∃ middle, run step state first = some middle ∧
        run step middle second = some final := by
  induction first generalizing state with
  | nil => simp
  | cons action first inductionHypothesis =>
      rw [List.cons_append, run_cons]
      constructor
      · rintro ⟨next, stepped, ran⟩
        obtain ⟨middle, before, after⟩ := inductionHypothesis.mp ran
        exact ⟨middle, run_cons.2 ⟨next, stepped, before⟩, after⟩
      · rintro ⟨middle, before, after⟩
        obtain ⟨next, stepped, ran⟩ := run_cons.1 before
        exact ⟨next, stepped, inductionHypothesis.mpr ⟨middle, ran, after⟩⟩

instance decidableAlong {condition : σ → α → Prop}
    [∀ state action, Decidable (condition state action)] :
    (state : σ) → (actions : List α) → Decidable (Along step condition state actions)
  | _, [] => .isTrue trivial
  | state, action :: actions =>
      match stepped : step state action with
      | none =>
          decidable_of_iff (condition state action)
            ⟨fun here => ⟨here, fun _ impossible => by simp [stepped] at impossible⟩, And.left⟩
      | some next =>
          have : Decidable (Along step condition next actions) := decidableAlong next actions
          decidable_of_iff (condition state action ∧ Along step condition next actions)
            ⟨fun both => ⟨both.1, fun other also => by
              rw [stepped, Option.some.injEq] at also
              exact also ▸ both.2⟩, fun along => ⟨along.1, along.2 next stepped⟩⟩

/-- A condition on actions alone. -/
theorem along_of_forall {condition : α → Prop} {actions : List α}
    (all : ∀ action ∈ actions, condition action) (state : σ) :
    Along step (fun _ action => condition action) state actions := by
  induction actions generalizing state with
  | nil => trivial
  | cons action actions inductionHypothesis =>
      refine ⟨all action List.mem_cons_self, fun next _ => ?_⟩
      exact inductionHypothesis
        (fun other member => all other (List.mem_cons_of_mem _ member)) next

theorem along_cons {condition : σ → α → Prop} {state next : σ} {action : α}
    {actions : List α} (here : condition state action)
    (stepped : step state action = some next) (after : Along step condition next actions) :
    Along step condition state (action :: actions) := by
  refine ⟨here, fun other also => ?_⟩
  rw [stepped, Option.some.injEq] at also
  exact also ▸ after

/-- A condition along a run of two parts. -/
theorem Along.of_append {condition : σ → α → Prop} {state middle : σ} {first second : List α}
    (along : Along step condition state (first ++ second))
    (ran : run step state first = some middle) :
    Along step condition state first ∧ Along step condition middle second := by
  induction first generalizing state with
  | nil =>
      cases ran
      exact ⟨trivial, along⟩
  | cons action first inductionHypothesis =>
      obtain ⟨next, stepped, rest⟩ := run_cons.1 ran
      obtain ⟨before, after⟩ := inductionHypothesis (along.2 next stepped) rest
      exact ⟨along_cons along.1 stepped before, after⟩

theorem Along.and {first second : σ → α → Prop} {state : σ} {actions : List α}
    (one : Along step first state actions) (other : Along step second state actions) :
    Along step (fun state action => first state action ∧ second state action) state
      actions := by
  induction actions generalizing state with
  | nil => trivial
  | cons action actions inductionHypothesis =>
      refine ⟨⟨one.1, other.1⟩, fun next stepped => ?_⟩
      exact inductionHypothesis (one.2 next stepped) (other.2 next stepped)

/-- What the steps that meet the condition preserve holds after every run of
such steps. -/
theorem run_along {condition : σ → α → Prop} {invariant : σ → Prop}
    (preserved : ∀ {state action next}, invariant state → condition state action →
      step state action = some next → invariant next)
    {state final : σ} {actions : List α} (start : invariant state)
    (along : Along step condition state actions)
    (ran : run step state actions = some final) : invariant final := by
  induction actions generalizing state with
  | nil =>
      rw [run_nil, Option.some.injEq] at ran
      exact ran ▸ start
  | cons action actions inductionHypothesis =>
      obtain ⟨next, stepped, rest⟩ := run_cons.1 ran
      exact inductionHypothesis (preserved start along.1 stepped) (along.2 next stepped) rest

/-- What every step preserves holds after every run. -/
theorem run_invariant {invariant : σ → Prop}
    (preserved : ∀ {state action next}, invariant state →
      step state action = some next → invariant next)
    {state final : σ} {actions : List α} (start : invariant state)
    (ran : run step state actions = some final) : invariant final := by
  induction actions generalizing state with
  | nil =>
      rw [run_nil, Option.some.injEq] at ran
      exact ran ▸ start
  | cons action actions inductionHypothesis =>
      obtain ⟨next, stepped, rest⟩ := run_cons.1 ran
      exact inductionHypothesis (preserved start stepped) rest

/-- What holds before a step when it holds after it, holds before a run when it
holds after it. -/
theorem run_backwards {bound : σ → Prop}
    (bounded : ∀ {state action next}, step state action = some next → bound next → bound state)
    {state final : σ} {actions : List α} (ran : run step state actions = some final)
    (last : bound final) : bound state := by
  induction actions generalizing state with
  | nil =>
      rw [run_nil, Option.some.injEq] at ran
      exact ran ▸ last
  | cons action actions inductionHypothesis =>
      obtain ⟨next, stepped, rest⟩ := run_cons.1 ran
      exact bounded stepped (inductionHypothesis rest)

/-- A bound that holds of the last state holds after every step. -/
theorem along_backwards {bound : σ → Prop}
    (bounded : ∀ {state action next}, step state action = some next → bound next → bound state)
    {state final : σ} {actions : List α} (ran : run step state actions = some final)
    (last : bound final) :
    Along step (fun state action => ∀ next, step state action = some next → bound next) state
      actions := by
  induction actions generalizing state with
  | nil => trivial
  | cons action actions inductionHypothesis =>
      obtain ⟨next, stepped, rest⟩ := run_cons.1 ran
      refine along_cons ?_ stepped (inductionHypothesis rest)
      intro other also
      rw [stepped, Option.some.injEq] at also
      exact also ▸ run_backwards bounded rest last

/-- What every step preserves together with what it puts out holds of every run
and its outputs. `bound` holds of the last state, and so of all before it. -/
theorem run_outputs {β : Type} {output : σ → α → List β} {condition : α → Prop}
    {invariant : σ → List β → Prop} {bound : σ → Prop}
    (bounded : ∀ {state action next}, step state action = some next → bound next → bound state)
    (preserved : ∀ {state action next past}, invariant state past → condition action →
      bound next → step state action = some next → invariant next (past ++ output state action))
    {state final : σ} {actions : List α} {past : List β} (start : invariant state past)
    (all : ∀ action ∈ actions, condition action)
    (ran : run step state actions = some final) (last : bound final) :
    invariant final (past ++ outputs step output state actions) := by
  induction actions generalizing state past with
  | nil =>
      rw [run_nil, Option.some.injEq] at ran
      rw [outputs, List.append_nil, ← ran]
      exact start
  | cons action actions inductionHypothesis =>
      obtain ⟨next, stepped, rest⟩ := run_cons.1 ran
      have kept := preserved start (all action List.mem_cons_self)
        (run_backwards bounded rest last) stepped
      have others : ∀ other ∈ actions, condition other :=
        fun other member => all other (List.mem_cons_of_mem _ member)
      rw [outputs, stepped, ← List.append_assoc]
      exact inductionHypothesis kept others rest

/-- When permitted steps decrease a measure until the goal is reached, they lead to it. -/
theorem run_until {permitted : α → Prop} {invariant goal : σ → Prop} (measure : σ → Nat)
    (progress : ∀ {state}, invariant state → ¬ goal state →
      ∃ action next, permitted action ∧ step state action = some next ∧ invariant next ∧
        measure next < measure state)
    {state : σ} (start : invariant state) :
    ∃ actions final, (∀ action ∈ actions, permitted action) ∧
      run step state actions = some final ∧ invariant final ∧ goal final := by
  induction size : measure state using Nat.strong_induction_on generalizing state with
  | _ size inductionHypothesis =>
      by_cases reached : goal state
      · exact ⟨[], state, by simp, rfl, start, reached⟩
      · obtain ⟨action, next, isPermitted, stepped, kept, smaller⟩ := progress start reached
        obtain ⟨actions, final, arePermitted, ran, holds, atGoal⟩ :=
          inductionHypothesis (measure next) (size ▸ smaller) kept rfl
        refine ⟨action :: actions, final, ?_, run_cons.2 ⟨next, stepped, ran⟩, holds, atGoal⟩
        intro other member
        rcases List.mem_cons.mp member with rfl | behind
        · exact isPermitted
        · exact arePermitted other behind

/-- A measure that every step decreases excludes infinite runs. -/
theorem not_diverges {invariant : σ → Prop} (measure : σ → Nat)
    (preserved : ∀ {state action next}, invariant state →
      step state action = some next → invariant next)
    (decreases : ∀ {state action next}, invariant state →
      step state action = some next → measure next < measure state)
    {state : σ} (start : invariant state) : ¬ Diverges step state := by
  rintro ⟨states, first, forever⟩
  have always : ∀ time, invariant (states time) := by
    intro time
    induction time with
    | zero => exact first ▸ start
    | succ time inductionHypothesis =>
        obtain ⟨action, stepped⟩ := forever time
        exact preserved inductionHypothesis stepped
  have falls : ∀ time, measure (states time) + time ≤ measure (states 0) := by
    intro time
    induction time with
    | zero => exact le_refl _
    | succ time inductionHypothesis =>
        obtain ⟨action, stepped⟩ := forever time
        have smaller := decreases (always time) stepped
        omega
  have impossible := falls (measure (states 0) + 1)
  omega

/-- An invariant that always allows one more step gives an infinite run. -/
theorem diverges {invariant : σ → Prop}
    (enabled : ∀ {state}, invariant state →
      ∃ action next, step state action = some next ∧ invariant next)
    {state : σ} (start : invariant state) : Diverges step state := by
  have next : ∀ state, invariant state →
      ∃ next, (∃ action, step state action = some next) ∧ invariant next := by
    intro state holds
    obtain ⟨action, next, stepped, kept⟩ := enabled holds
    exact ⟨next, ⟨action, stepped⟩, kept⟩
  have : Nonempty σ := ⟨state⟩
  choose! following taken kept using next
  refine ⟨fun time => following^[time] state, rfl, ?_⟩
  have always : ∀ time, invariant (following^[time] state) := by
    intro time
    induction time with
    | zero => exact start
    | succ time inductionHypothesis =>
        rw [Function.iterate_succ_apply']
        exact kept _ inductionHypothesis
  intro time
  change ∃ action, step (following^[time] state) action =
    some (following^[time + 1] state)
  rw [Function.iterate_succ_apply']
  exact taken _ (always time)

/-- An infinite run after a finite one. -/
theorem Diverges.of_run {state middle : σ} {actions : List α}
    (ran : run step state actions = some middle) (after : Diverges step middle) :
    Diverges step state := by
  induction actions generalizing state with
  | nil =>
      rw [run_nil, Option.some.injEq] at ran
      exact ran ▸ after
  | cons action actions inductionHypothesis =>
      obtain ⟨next, stepped, rest⟩ := run_cons.1 ran
      obtain ⟨states, first, forever⟩ := inductionHypothesis rest
      refine ⟨fun time => Nat.casesOn time state states, rfl, ?_⟩
      intro time
      cases time with
      | zero =>
          refine ⟨action, ?_⟩
          change step state action = some (states 0)
          rw [first]
          exact stepped
      | succ time => exact forever time

end AzureSignalR.Library.Machine
