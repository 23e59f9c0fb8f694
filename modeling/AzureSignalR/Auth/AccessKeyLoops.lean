import AzureSignalR.Auth.AccessKeyAvailability
import AzureSignalR.Library.Threads

/-!
Contract: refresh loops end.

Owns: the stages a loop goes through, how many events it has left, and that its task source is
completed when it has none.

Does not own: how an attempt ends, or when.
-/

set_option autoImplicit false

namespace AzureSignalR.Auth

open Library Library.Threads

/-! ## The stages of a loop -/

/-- How many more events a loop can have: an attempt may be followed by a delay. -/
def LoopStage.remaining : LoopStage → Nat
  | .attempting i => 2 * (getAccessKeyMaxRetryTimes - i)
  | .delaying i => 2 * (getAccessKeyMaxRetryTimes - i) - 1
  | .ended => 0

/-- A loop goes on to a further attempt, or it has completed its source. -/
def RefreshLoop.Valid (loop : RefreshLoop) : Prop :=
  match loop.stage with
  | .attempting i | .delaying i => i < getAccessKeyMaxRetryTimes
  | .ended => loop.result.isSome = true

theorem RefreshLoop.valid_trySetResult {loop : RefreshLoop} (valid : loop.Valid) (result : Bool) :
    (loop.trySetResult result).Valid := by
  rw [RefreshLoop.Valid] at valid ⊢
  show match loop.stage with
    | .attempting i | .delaying i => i < getAccessKeyMaxRetryTimes
    | .ended => true = true
  cases stage : loop.stage with
  | attempting i =>
      rw [stage] at valid
      exact valid
  | delaying i =>
      rw [stage] at valid
      exact valid
  | ended => rfl

structure Looped (state : State) : Prop where
  loops : ∀ loop ∈ state.loops, loop.Valid
  waits : ∀ loop, .waiting loop ∈ state.requests → loop < state.loops.length

namespace Looped

variable {state : State}

theorem later (looped : Looped state) (now : Nat) : Looped { state with now := now } :=
  { looped with }

/-- A loop is changed in its place. -/
theorem modify (looped : Looped state) (index : Nat) {change : RefreshLoop → RefreshLoop}
    (valid : ∀ loop, state.loops[index]? = some loop → (change loop).Valid) :
    Looped { state with loops := state.loops.modify index change } where
  loops := by
    intro loop member
    rcases mem_modify_cases member with before | ⟨before, found, rfl⟩
    · exact looped.loops loop before
    · exact valid before found
  waits := by
    intro loop member
    rw [List.length_modify]
    exact looped.waits loop member

theorem endLoop (looped : Looped state) (loop : Nat) (result : Bool) :
    Looped (state.endLoop loop result) :=
  looped.modify loop fun _ _ => rfl

theorem updateAccessKey (looped : Looped state) (kid : Option String) (keyStr : String) :
    Looped (state.updateAccessKey kid keyStr) :=
  { looped.modify (state.loops.length - 1) fun loop found =>
      RefreshLoop.valid_trySetResult (looped.loops loop (List.mem_of_getElem? found)) true with }

theorem nextAttempt (looped : Looped state) (loop i : Nat) :
    Looped (state.nextAttempt loop i) := by
  rw [State.nextAttempt]
  split_ifs with more
  · exact looped.modify loop fun _ _ => more
  · rw [State.giveUp]
    split_ifs
    · exact looped.endLoop loop false
    · exact { looped.endLoop loop false with }

theorem request (looped : Looped state) {request : Request}
    (inside : ∀ loop, request = .waiting loop → loop < state.loops.length) :
    Looped { state with requests := state.requests ++ [request] } where
  loops := looped.loops
  waits := by
    intro loop member
    rcases List.mem_append.mp member with before | new
    · exact looped.waits loop before
    · exact inside loop (List.mem_singleton.mp new).symm

theorem start (looped : Looped state) (startedAt : Nat) :
    Looped { state with loops := state.loops ++ [{ startedAt }] } where
  loops := by
    intro loop member
    rcases List.mem_append.mp member with before | new
    · exact looped.loops loop before
    · rw [List.mem_singleton.mp new]
      exact Nat.succ_pos 2
  waits := by
    intro loop member
    rw [List.length_append]
    exact Nat.lt_add_right 1 (looped.waits loop member)

theorem waiting_requestOn {loop other : Nat} (waits : state.requestOn loop = .waiting other) :
    other = loop := by
  rw [State.requestOn] at waits
  split_ifs at waits
  cases waits
  rfl

theorem acts (looped : Looped state) {action : Action} {next : State}
    (acts : Acts state action next) : Looped next := by
  cases acts with
  | answers needed => exact looped.request nofun
  | joins needed isLast found pending =>
      refine looped.request fun loop waits => ?_
      rw [waiting_requestOn waits, ← isLast]
      exact Nat.lt_succ_self _
  | starts needed completed =>
      refine (looped.start state.now).request fun loop waits => ?_
      rw [waiting_requestOn waits, List.length_append]
      exact Nat.lt_succ_self _
  | receives outcome kid keyStr found stage =>
      exact (looped.updateAccessKey _ keyStr).endLoop _ true
  | succeeds outcome found stage => exact looped.endLoop _ true
  | @throws loop running i outcome exception found stage =>
      have inside : i < getAccessKeyMaxRetryTimes := by
        have valid := looped.loops running (List.mem_of_getElem? found)
        rw [RefreshLoop.Valid, stage] at valid
        exact valid
      have moved : Looped (state.goTo loop (.delaying i)) := looped.modify loop fun _ _ => inside
      exact { moved with }
  | cancels outcome exception found stage =>
      have caught : Looped (state.catchException exception) := { looped with }
      exact caught.nextAttempt _ _
  | delays found stage => exact looped.nextAttempt _ _
  | ignores keyMessage => exact looped
  | pushes keyMessage keyStr => exact looped.updateAccessKey _ keyStr
  | resumes canceled waits =>
      refine { looped with waits := fun loop member => ?_ }
      rcases List.mem_or_eq_of_mem_set member with before | new
      · exact looped.waits loop before
      · cases new

end Looped

/-! ## The events of a loop -/

def State.stageAt (state : State) (index : Nat) : Option LoopStage :=
  state.loops[index]?.map RefreshLoop.stage

/-- An attempt or a delay of the loop ends. -/
def Action.isOf (index : Nat) : Action → Bool
  | .attempt loop _ | .delay loop => loop == index
  | .request | .push _ | .resume _ _ => false

section Stages

variable {state : State} {loop index : Nat} {running : RefreshLoop}

theorem stageAt_modify_of_ne (change : RefreshLoop → RefreshLoop) (differs : loop ≠ index) :
    State.stageAt { state with loops := state.loops.modify loop change } index =
      state.stageAt index := by
  rw [State.stageAt, List.getElem?_modify_ne _ _ differs]
  rfl

theorem stageAt_modify_self (found : state.loops[loop]? = some running)
    (change : RefreshLoop → RefreshLoop) :
    State.stageAt { state with loops := state.loops.modify loop change } loop =
      some (change running).stage := by
  rw [State.stageAt, List.getElem?_modify_eq, found]
  rfl

theorem stageAt_updateAccessKey (kid : Option String) (keyStr : String) :
    (state.updateAccessKey kid keyStr).stageAt index = state.stageAt index := by
  rw [State.stageAt, State.stageAt, State.updateAccessKey, List.getElem?_modify]
  cases state.loops[index]? with
  | none => rfl
  | some running =>
      show some (RefreshLoop.stage (if _ then _ else _)) = _
      split_ifs
      · rfl
      · rfl

/-- A loop behind its `i`-th attempt. -/
theorem stageAt_nextAttempt (found : state.loops[loop]? = some running) (i : Nat) :
    (state.nextAttempt loop i).stageAt loop = some (if i + 1 < getAccessKeyMaxRetryTimes
      then .attempting (i + 1) else .ended) ∧
      ∀ index, loop ≠ index → (state.nextAttempt loop i).stageAt index = state.stageAt index := by
  rw [State.nextAttempt]
  split_ifs
  · exact ⟨stageAt_modify_self found _, fun index differs => stageAt_modify_of_ne _ differs⟩
  · rw [State.giveUp]
    split_ifs
    · exact ⟨stageAt_modify_self found _, fun index differs => stageAt_modify_of_ne _ differs⟩
    · exact ⟨stageAt_modify_self found _, fun index differs => stageAt_modify_of_ne _ differs⟩

/-- What is left for a loop behind an event. -/
def Spends (state : State) (action : Action) (next : State) : Prop :=
  ∀ index stage, state.stageAt index = some stage →
    ∃ after, next.stageAt index = some after ∧
      after.remaining + (if action.isOf index then 1 else 0) ≤ stage.remaining

theorem spends_of_same {action : Action} {next : State}
    (foreign : ∀ index, action.isOf index = false)
    (same : ∀ {index stage}, state.stageAt index = some stage → next.stageAt index = some stage) :
    Spends state action next := by
  intro index stage before
  refine ⟨stage, same before, ?_⟩
  rw [foreign index]
  exact Nat.le_refl _

/-- One loop goes on. -/
theorem spends_of_one {action : Action} {next : State} {after : LoopStage}
    (isOf : ∀ index, action.isOf index = (loop == index))
    (found : state.loops[loop]? = some running) (here : next.stageAt loop = some after)
    (others : ∀ index, loop ≠ index → next.stageAt index = state.stageAt index)
    (less : after.remaining < running.stage.remaining) : Spends state action next := by
  intro index stage before
  rw [isOf]
  by_cases isHere : loop = index
  · subst isHere
    rw [State.stageAt, found] at before
    cases before
    refine ⟨after, here, ?_⟩
    rw [beq_self_eq_true]
    exact less
  · refine ⟨stage, (others index isHere).trans before, ?_⟩
    rw [beq_false_of_ne isHere]
    exact Nat.le_refl _

theorem remaining_next {i : Nat} (inside : i < getAccessKeyMaxRetryTimes) :
    (if i + 1 < getAccessKeyMaxRetryTimes then LoopStage.attempting (i + 1)
      else .ended).remaining < (LoopStage.delaying i).remaining := by
  split_ifs
  · show 2 * (getAccessKeyMaxRetryTimes - (i + 1)) < 2 * (getAccessKeyMaxRetryTimes - i) - 1
    omega
  · show 0 < 2 * (getAccessKeyMaxRetryTimes - i) - 1
    omega

theorem remaining_delaying {i : Nat} (inside : i < getAccessKeyMaxRetryTimes) :
    (LoopStage.delaying i).remaining < (LoopStage.attempting i).remaining := by
  show 2 * (getAccessKeyMaxRetryTimes - i) - 1 < 2 * (getAccessKeyMaxRetryTimes - i)
  omega

theorem Looped.inside {i : Nat} (looped : Looped state) (found : state.loops[loop]? = some running)
    (stage : running.stage = .attempting i ∨ running.stage = .delaying i) :
    i < getAccessKeyMaxRetryTimes := by
  have valid := looped.loops running (List.mem_of_getElem? found)
  rw [RefreshLoop.Valid] at valid
  rcases stage with stage | stage
  · rw [stage] at valid
    exact valid
  · rw [stage] at valid
    exact valid

theorem Looped.spends (looped : Looped state) {action : Action} {next : State}
    (acts : Acts state action next) : Spends state action next := by
  cases acts with
  | answers needed => exact spends_of_same (fun _ => rfl) id
  | joins needed isLast found pending => exact spends_of_same (fun _ => rfl) id
  | starts needed completed =>
      refine spends_of_same (fun _ => rfl) fun {index stage} before => ?_
      obtain ⟨running, found, isStage⟩ := Option.map_eq_some_iff.mp before
      have inside := (List.getElem?_eq_some_iff.mp found).1
      rw [State.stageAt, List.getElem?_append_left inside, found]
      exact congrArg some isStage
  | @receives loop running i outcome kid keyStr found stage =>
      have inside := looped.inside found (.inl stage)
      have still : ∃ other,
          (state.updateAccessKey (some kid) keyStr).loops[loop]? = some other := by
        have same :
            (state.updateAccessKey (some kid) keyStr).stageAt loop = some running.stage := by
          rw [stageAt_updateAccessKey, State.stageAt, found]
          rfl
        obtain ⟨other, isOther, -⟩ := Option.map_eq_some_iff.mp same
        exact ⟨other, isOther⟩
      obtain ⟨other, isOther⟩ := still
      refine spends_of_one (fun _ => rfl) found (stageAt_modify_self isOther _) ?_ ?_
      · intro index differs
        exact (stageAt_modify_of_ne _ differs).trans (stageAt_updateAccessKey _ _)
      · rw [stage]
        exact Nat.zero_lt_of_lt (remaining_delaying inside)
  | @succeeds loop running i outcome found stage =>
      have inside := looped.inside found (.inl stage)
      refine spends_of_one (fun _ => rfl) found (stageAt_modify_self found _)
        (fun index differs => stageAt_modify_of_ne _ differs) ?_
      rw [stage]
      exact Nat.zero_lt_of_lt (remaining_delaying inside)
  | @throws loop running i outcome exception found stage =>
      have inside := looped.inside found (.inl stage)
      refine spends_of_one (fun _ => rfl) found (stageAt_modify_self found _)
        (fun index differs => stageAt_modify_of_ne _ differs) ?_
      rw [stage]
      exact remaining_delaying inside
  | @cancels loop running i outcome exception found stage =>
      have inside := looped.inside found (.inl stage)
      have caught : (state.catchException exception).loops[loop]? = some running := found
      obtain ⟨here, others⟩ := stageAt_nextAttempt caught i
      refine spends_of_one (fun _ => rfl) found here others ?_
      rw [stage]
      exact (remaining_next inside).trans (remaining_delaying inside)
  | @delays loop running i found stage =>
      have inside := looped.inside found (.inr stage)
      obtain ⟨here, others⟩ := stageAt_nextAttempt found i
      refine spends_of_one (fun _ => rfl) found here others ?_
      rw [stage]
      exact remaining_next inside
  | ignores keyMessage => exact spends_of_same (fun _ => rfl) id
  | pushes keyMessage keyStr =>
      refine spends_of_same (fun _ => rfl) fun before => ?_
      rw [stageAt_updateAccessKey]
      exact before
  | resumes canceled waits => exact spends_of_same (fun _ => rfl) id

end Stages

end AzureSignalR.Auth
