import AzureSignalR.Library.Machine

/-!
Contract: several machines of one kind side by side.

Owns: the machine whose steps are steps of one component, and the projection of
its runs and of conditions along them to the components.

Does not own: any particular machine. The components share nothing.
-/

set_option autoImplicit false

namespace AzureSignalR.Library.Machine

variable {σ α : Type} {step : σ → α → Option σ}

/-- One component takes a step. -/
def stepComponent (step : σ → α → Option σ) (states : List σ) (action : Nat × α) :
    Option (List σ) :=
  match states[action.1]? with
  | none => none
  | some state =>
      match step state action.2 with
      | none => none
      | some next => some (states.set action.1 next)

/-- The actions of one component. -/
def componentActions (component : Nat) (actions : List (Nat × α)) : List α :=
  actions.filterMap fun action => if action.1 = component then some action.2 else none

/-- A condition on the component that takes the step. -/
def OnComponent (condition : σ → α → Prop) (states : List σ) (action : Nat × α) : Prop :=
  ∀ state, states[action.1]? = some state → condition state action.2

instance {condition : σ → α → Prop} [∀ state action, Decidable (condition state action)]
    (states : List σ) (action : Nat × α) : Decidable (OnComponent condition states action) :=
  match equation : states[action.1]? with
  | none => .isTrue (by simp [OnComponent, equation])
  | some state => decidable_of_iff (condition state action.2) (by simp [OnComponent, equation])

theorem stepComponent_cases {states next : List σ} {component : Nat} {action : α}
    (stepped : stepComponent step states (component, action) = some next) :
    ∃ before after, states[component]? = some before ∧ step before action = some after ∧
      next = states.set component after := by
  unfold stepComponent at stepped
  split at stepped
  next => cases stepped
  next before present =>
    split at stepped
    next => cases stepped
    next after moved =>
      cases stepped
      exact ⟨before, after, present, moved, rfl⟩

/-- A component of the last state has made a run of its own, along which it has met
its condition. -/
theorem run_component {condition : σ → α → Prop} {states final : List σ}
    {actions : List (Nat × α)}
    (along : Along (stepComponent step) (OnComponent condition) states actions)
    (ran : run (stepComponent step) states actions = some final) {component : Nat} {last : σ}
    (isLast : final[component]? = some last) :
    ∃ first, states[component]? = some first ∧
      run step first (componentActions component actions) = some last ∧
      Along step condition first (componentActions component actions) := by
  induction actions generalizing states with
  | nil =>
      rw [run_nil, Option.some.injEq] at ran
      rw [← ran] at isLast
      exact ⟨last, isLast, rfl, trivial⟩
  | cons action actions inductionHypothesis =>
      obtain ⟨next, stepped, rest⟩ := run_cons.1 ran
      obtain ⟨index, taken⟩ := action
      obtain ⟨before, after, present, moved, rfl⟩ := stepComponent_cases stepped
      obtain ⟨first, isFirst, ranRest, alongRest⟩ :=
        inductionHypothesis (along.2 _ stepped) rest
      by_cases here : index = component
      · have inside := (List.getElem?_eq_some_iff.mp present).1
        rw [← here, List.getElem?_set_self inside, Option.some.injEq] at isFirst
        have actionsEq : componentActions component ((index, taken) :: actions) =
            taken :: componentActions component actions := by
          simp [componentActions, here]
        rw [actionsEq]
        refine ⟨before, here ▸ present, ?_, ?_⟩
        · rw [run_cons]
          exact ⟨after, moved, isFirst ▸ ranRest⟩
        · exact along_cons (along.1 before present) moved (isFirst ▸ alongRest)
      · have actionsEq : componentActions component ((index, taken) :: actions) =
            componentActions component actions := by
          simp [componentActions, here]
        rw [actionsEq]
        rw [List.getElem?_set_ne here] at isFirst
        exact ⟨first, isFirst, ranRest, alongRest⟩

end AzureSignalR.Library.Machine
