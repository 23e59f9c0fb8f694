import AzureSignalR.Library.Machine
import Mathlib.Logic.Function.Basic

/-!
Contract: `BackOffPolicy.CallProbeWithBackOffAsync` under any number of callers.

Owns: the probe slot, the completion source of each caller, and the order in which a
caller races for the slot, probes, backs off, releases the slot and publishes.

Does not own: time and probes. A delay may end at any moment after it has begun, and a
probe may throw, or its task may end at any moment or never. `getRetryDelay` is taken to
return a delay, as its documentation says.
-/

set_option autoImplicit false

namespace AzureSignalR.Utilities.BackOffPolicy

open Library

/-- How a probe ends. A cancelled task throws when it is awaited. -/
inductive ProbeResult (ε : Type) where
  | completed (success : Bool)
  | exception (error : ε)
deriving DecidableEq, Repr

/-- What a caller does behind its `finally`. -/
inductive Remaining (ε : Type) where
  /-- `probeSuccess` is set. -/
  | success
  /-- `awaitProbeTask` is set. -/
  | awaitProbeTask
  /-- `probe()` has thrown. -/
  | throw (error : ε)
deriving DecidableEq, Repr

inductive Stage (ι ε : Type) where
  | idle
  /-- In front of `CompareExchange`. -/
  | racing
  | acquired
  /-- `probe()` has returned its task. -/
  | counting
  /-- `_currentRetryCount` is read. -/
  | delaying (retryCount : BitVec 32)
  /-- At `Task.WhenAny(delayTask, probeTask)`. -/
  | waiting
  /-- The probe has not succeeded. -/
  | deciding
  /-- At `await delayTask`. -/
  | backingOff
  | releasing (remaining : Remaining ε)
  | publishing (remaining : Remaining ε)
  /-- At `await probeTask`. -/
  | awaitingProbe
  /-- At `await ongoingProbeTcs.Task`, which is the source of the owner. -/
  | observing (owner : ι)
  /-- The result of the owner was `true`. -/
  | calling (owner : ι)
  /-- At `await probe()`. -/
  | probing
  | finishing (probeSuccess : Bool)
  | ended (result : ProbeResult ε)
deriving DecidableEq, Repr

structure Caller (ι ε : Type) where
  stage : Stage ι ε := .idle
  /-- How often `probe()` was called. -/
  invocations : Nat := 0
  /-- How the task of its probe has ended. -/
  probeTask : Option (ProbeResult ε) := none
  /-- Whether `delayTask` has ended. -/
  delayed : Bool := false
  myTcs : Option Bool := none
deriving DecidableEq, Repr

structure State (ι ε : Type) where
  /-- `_currentProbeTcs`, as the caller whose source it is. -/
  currentProbeTcs : Option ι := none
  currentRetryCount : BitVec 32 := 0
  callers : ι → Caller ι ε := fun _ => {}

inductive Action (ι ε : Type) where
  | call (caller : ι)
  | resume (caller : ι)
  /-- `probe()`, which may throw. -/
  | invokeProbe (caller : ι) (thrown : Option ε)
  | probeEnds (caller : ι) (result : ProbeResult ε)
  | delayEnds (caller : ι)
deriving DecidableEq, Repr

variable {ι ε : Type}

def Action.caller : Action ι ε → ι
  | .call caller | .resume caller | .invokeProbe caller _ | .probeEnds caller _
  | .delayEnds caller => caller

/-- `probeTask.Result` of a task that ran to completion. -/
def Caller.succeeded (caller : Caller ι ε) : Bool :=
  match caller.probeTask with
  | some (.completed success) => success
  | _ => false

@[simp] def Remaining.published : Remaining ε → Bool
  | .success => true
  | .awaitProbeTask | .throw _ => false

@[simp] def Remaining.next : Remaining ε → Stage ι ε
  | .success => .finishing true
  | .awaitProbeTask => .awaitingProbe
  | .throw error => .ended (.exception error)

/-- What an `await` of the own probe comes to. -/
@[simp] def ProbeResult.next : ProbeResult ε → Stage ι ε
  | .completed success => .finishing success
  | .exception error => .ended (.exception error)

variable [DecidableEq ι]

def State.set (state : State ι ε) (index : ι) (caller : Caller ι ε) : State ι ε :=
  { state with callers := Function.update state.callers index caller }

def State.goTo (state : State ι ε) (index : ι) (stage : Stage ι ε) : State ι ε :=
  state.set index { state.callers index with stage := stage }

/-- The next step of a caller between its calls of `probe()`. -/
def resume (state : State ι ε) (index : ι) : Option (State ι ε) :=
  let caller := state.callers index
  match caller.stage with
  | .racing =>
      match state.currentProbeTcs with
      | none => some ({ state with currentProbeTcs := some index }.goTo index .acquired)
      | some owner => some (state.goTo index (.observing owner))
  | .counting => some (state.goTo index (.delaying state.currentRetryCount))
  | .delaying retryCount =>
      some ({ state with currentRetryCount := retryCount + 1 }.goTo index .waiting)
  | .waiting =>
      if caller.delayed ∨ caller.probeTask.isSome then
        if caller.succeeded then some (state.goTo index (.releasing .success))
        else some (state.goTo index .deciding)
      else none
  | .deciding =>
      if caller.delayed then some (state.goTo index (.releasing .awaitProbeTask))
      else some (state.goTo index .backingOff)
  | .backingOff =>
      if caller.delayed then some (state.goTo index (.releasing .awaitProbeTask)) else none
  | .releasing remaining =>
      some ({ state with currentProbeTcs := none }.goTo index (.publishing remaining))
  | .publishing remaining =>
      some (state.set index
        { caller with myTcs := some remaining.published, stage := remaining.next })
  | .awaitingProbe | .probing =>
      match caller.probeTask with
      | none => none
      | some result => some (state.goTo index result.next)
  | .observing owner =>
      match (state.callers owner).myTcs with
      | none => none
      | some true => some (state.goTo index (.calling owner))
      | some false => some (state.goTo index .racing)
  | .finishing probeSuccess =>
      some (({ state with
        currentRetryCount := if probeSuccess then 0 else state.currentRetryCount }).goTo index
          (.ended (.completed probeSuccess)))
  | .idle | .acquired | .calling _ | .ended _ => none

/-- `probe()`; the stages behind it depend on where it is called. -/
def invokeProbe (state : State ι ε) (index : ι) (thrown : Option ε) : Option (State ι ε) :=
  let caller := state.callers index
  let called : Caller ι ε :=
    { caller with
      invocations := caller.invocations + 1
      probeTask := thrown.map .exception }
  match caller.stage, thrown with
  | .acquired, none => some (state.set index { called with stage := .counting })
  | .acquired, some error =>
      some (state.set index { called with stage := .releasing (.throw error) })
  | .calling _, none => some (state.set index { called with stage := .probing })
  | .calling _, some error =>
      some (state.set index { called with stage := .ended (.exception error) })
  | _, _ => none

def step (state : State ι ε) : Action ι ε → Option (State ι ε)
  | .call index =>
      match (state.callers index).stage with
      | .idle => some (state.goTo index .racing)
      | _ => none
  | .resume index => resume state index
  | .invokeProbe index thrown => invokeProbe state index thrown
  | .probeEnds index result =>
      if (state.callers index).invocations ≠ 0 ∧ (state.callers index).probeTask = none then
        some (state.set index { state.callers index with probeTask := some result })
      else none
  | .delayEnds index =>
      match (state.callers index).stage with
      | .waiting | .deciding | .backingOff =>
          some (state.set index { state.callers index with delayed := true })
      | _ => none

/-! ## What a caller keeps -/

/-- The caller has exchanged the slot and has not released it. -/
@[simp] def Stage.Holding : Stage ι ε → Prop
  | .acquired | .counting | .delaying _ | .waiting | .deciding | .backingOff
  | .releasing _ => True
  | _ => False

/-- The caller has not called its probe. -/
@[simp] def Stage.Unprobed : Stage ι ε → Prop
  | .idle | .racing | .acquired | .observing _ | .calling _ => True
  | _ => False

/-- The outcome of the probe that a stage has taken over. -/
@[simp] def Stage.taken : Stage ι ε → Option (ProbeResult ε)
  | .releasing .success | .publishing .success => some (.completed true)
  | .releasing (.throw error) | .publishing (.throw error) => some (.exception error)
  | .finishing success => some (.completed success)
  | .ended result => some result
  | _ => none

/-- The source of the caller has no result yet and may be waited on. -/
@[simp] def Stage.Publishes : Stage ι ε → Prop
  | .publishing _ => True
  | stage => stage.Holding

structure Caller.Sound (caller : Caller ι ε) : Prop where
  unprobed : caller.stage.Unprobed → caller.invocations = 0 ∧ caller.probeTask = none
  probed : ¬ caller.stage.Unprobed → caller.invocations = 1
  taken : ∀ result, caller.stage.taken = some result → caller.probeTask = some result
  unpublished : caller.stage.Unprobed ∨ caller.stage.Publishes → caller.myTcs = none
  published : caller.myTcs = some true → caller.probeTask = some (.completed true)

/-- The source that a caller waits on or has waited on. -/
structure Linked (callers : ι → Caller ι ε) (caller : Caller ι ε) : Prop where
  observing : ∀ owner, caller.stage = .observing owner →
    (callers owner).myTcs ≠ none ∨ (callers owner).stage.Publishes
  calling : ∀ owner, caller.stage = .calling owner → (callers owner).myTcs = some true

structure Sound (state : State ι ε) : Prop where
  callers : ∀ index, (state.callers index).Sound
  slot : ∀ index, state.currentProbeTcs = some index ↔ (state.callers index).stage.Holding
  linked : ∀ index, Linked state.callers (state.callers index)

/-! ## What a step does -/

/-- The steps that change the stage of their caller and nothing else. -/
inductive Goes (state : State ι ε) (caller : Caller ι ε) : Stage ι ε → Prop where
  | call (stage : caller.stage = .idle) : Goes state caller .racing
  | observe (owner : ι) (stage : caller.stage = .racing)
      (taken : state.currentProbeTcs = some owner) : Goes state caller (.observing owner)
  | count (retryCount : BitVec 32) (stage : caller.stage = .counting) :
      Goes state caller (.delaying retryCount)
  | delay (retryCount : BitVec 32) (stage : caller.stage = .delaying retryCount) :
      Goes state caller .waiting
  | succeed (stage : caller.stage = .waiting)
      (success : caller.probeTask = some (.completed true)) :
      Goes state caller (.releasing .success)
  | fail (stage : caller.stage = .waiting) : Goes state caller .deciding
  | backOff (stage : caller.stage = .deciding) : Goes state caller .backingOff
  | giveUp (stage : caller.stage = .deciding ∨ caller.stage = .backingOff) :
      Goes state caller (.releasing .awaitProbeTask)
  | await (result : ProbeResult ε) (stage : caller.stage = .awaitingProbe ∨ caller.stage = .probing)
      (ended : caller.probeTask = some result) : Goes state caller result.next
  | observed (owner : ι) (stage : caller.stage = .observing owner)
      (published : (state.callers owner).myTcs = some true) : Goes state caller (.calling owner)
  | retry (owner : ι) (stage : caller.stage = .observing owner) : Goes state caller .racing
  | finish (success : Bool) (stage : caller.stage = .finishing success) :
      Goes state caller (.ended (.completed success))

/-- What a step does to its caller and to the slot. -/
inductive Moves (state : State ι ε) (index : ι) (caller : Caller ι ε) :
    Option ι → Caller ι ε → Prop where
  | goes (stage : Stage ι ε) (goes : Goes state caller stage) :
      Moves state index caller state.currentProbeTcs { caller with stage := stage }
  | acquire (stage : caller.stage = .racing) (free : state.currentProbeTcs = none) :
      Moves state index caller (some index) { caller with stage := .acquired }
  | release (remaining : Remaining ε) (stage : caller.stage = .releasing remaining) :
      Moves state index caller none { caller with stage := .publishing remaining }
  | publish (remaining : Remaining ε) (stage : caller.stage = .publishing remaining) :
      Moves state index caller state.currentProbeTcs
        { caller with myTcs := some remaining.published, stage := remaining.next }
  | probe (thrown : Option ε) (next : Stage ι ε)
      (stage : caller.stage = .acquired ∧
          next = thrown.elim .counting (fun error => .releasing (.throw error)) ∨
        (∃ owner, caller.stage = .calling owner) ∧
          next = thrown.elim .probing (fun error => .ended (.exception error))) :
      Moves state index caller state.currentProbeTcs
        { caller with
          invocations := caller.invocations + 1
          probeTask := thrown.map .exception
          stage := next }
  | probeEnds (result : ProbeResult ε) (invoked : caller.invocations ≠ 0)
      (running : caller.probeTask = none) :
      Moves state index caller state.currentProbeTcs { caller with probeTask := some result }
  | delayEnds : Moves state index caller state.currentProbeTcs { caller with delayed := true }

theorem moves_of_resume {state next : State ι ε} {index : ι}
    (resumed : resume state index = some next) :
    ∃ slot caller retryCount, Moves state index (state.callers index) slot caller ∧
      next = { state with currentProbeTcs := slot, currentRetryCount := retryCount }.set index
        caller := by
  unfold resume at resumed
  simp only at resumed
  split at resumed
  next stage =>
    split at resumed
    next free =>
      cases resumed
      exact ⟨_, _, _, .acquire stage free, rfl⟩
    next owner taken =>
      cases resumed
      exact ⟨_, _, _, .goes _ (.observe owner stage taken), rfl⟩
  next stage =>
    cases resumed
    exact ⟨_, _, _, .goes _ (.count _ stage), rfl⟩
  next retryCount stage =>
    cases resumed
    exact ⟨_, _, _, .goes _ (.delay retryCount stage), rfl⟩
  next stage =>
    split_ifs at resumed with isOver success
    · cases resumed
      refine ⟨_, _, _, .goes _ (.succeed stage ?_), rfl⟩
      unfold Caller.succeeded at success
      split at success
      next ended => rw [ended, success]
      next => cases success
    · cases resumed
      exact ⟨_, _, _, .goes _ (.fail stage), rfl⟩
  next stage =>
    split_ifs at resumed
    · cases resumed
      exact ⟨_, _, _, .goes _ (.giveUp (.inl stage)), rfl⟩
    · cases resumed
      exact ⟨_, _, _, .goes _ (.backOff stage), rfl⟩
  next stage =>
    split_ifs at resumed
    cases resumed
    exact ⟨_, _, _, .goes _ (.giveUp (.inr stage)), rfl⟩
  next remaining stage =>
    cases resumed
    exact ⟨_, _, _, .release remaining stage, rfl⟩
  next remaining stage =>
    cases resumed
    exact ⟨_, _, _, .publish remaining stage, rfl⟩
  next stage =>
    split at resumed
    next => cases resumed
    next result ended =>
      cases resumed
      exact ⟨_, _, _, .goes _ (.await result (.inl stage) ended), rfl⟩
  next stage =>
    split at resumed
    next => cases resumed
    next result ended =>
      cases resumed
      exact ⟨_, _, _, .goes _ (.await result (.inr stage) ended), rfl⟩
  next owner stage =>
    split at resumed
    next => cases resumed
    next published =>
      cases resumed
      exact ⟨_, _, _, .goes _ (.observed owner stage published), rfl⟩
    next =>
      cases resumed
      exact ⟨_, _, _, .goes _ (.retry owner stage), rfl⟩
  next success stage =>
    cases resumed
    exact ⟨_, _, _, .goes _ (.finish success stage), rfl⟩
  all_goals cases resumed

theorem moves_of_step {state next : State ι ε} {action : Action ι ε}
    (stepped : step state action = some next) :
    ∃ slot caller retryCount,
      Moves state action.caller (state.callers action.caller) slot caller ∧
        next = { state with currentProbeTcs := slot, currentRetryCount := retryCount }.set
          action.caller caller := by
  cases action with
  | call index =>
      unfold step at stepped
      simp only at stepped
      split at stepped
      next stage =>
        cases stepped
        exact ⟨_, _, _, .goes _ (.call stage), rfl⟩
      next => cases stepped
  | resume index => exact moves_of_resume stepped
  | invokeProbe index thrown =>
      unfold step invokeProbe at stepped
      simp only at stepped
      split at stepped
      next stage =>
        cases stepped
        exact ⟨_, _, _, .probe none _ (.inl ⟨stage, rfl⟩), rfl⟩
      next error stage =>
        cases stepped
        exact ⟨_, _, _, .probe (some error) _ (.inl ⟨stage, rfl⟩), rfl⟩
      next owner stage =>
        cases stepped
        exact ⟨_, _, _, .probe none _ (.inr ⟨⟨owner, stage⟩, rfl⟩), rfl⟩
      next owner error stage =>
        cases stepped
        exact ⟨_, _, _, .probe (some error) _ (.inr ⟨⟨owner, stage⟩, rfl⟩), rfl⟩
      next => cases stepped
  | probeEnds index result =>
      unfold step at stepped
      simp only at stepped
      split_ifs at stepped with running
      cases stepped
      exact ⟨_, _, _, .probeEnds result running.1 running.2, rfl⟩
  | delayEnds index =>
      unfold step at stepped
      simp only at stepped
      split at stepped
      all_goals cases stepped
      all_goals exact ⟨_, _, _, .delayEnds, rfl⟩

/-! ## Phases -/

section Phases

omit [DecidableEq ι]

/-- Which of the invariant's parts a stage has to do with. -/
inductive Phase where
  | free
  | acquired
  | held
  | publishing
  | past
deriving DecidableEq

def Stage.phase : Stage ι ε → Phase
  | .idle | .racing | .observing _ | .calling _ => .free
  | .acquired => .acquired
  | .counting | .delaying _ | .waiting | .deciding | .backingOff | .releasing _ => .held
  | .publishing _ => .publishing
  | .awaitingProbe | .probing | .finishing _ | .ended _ => .past

namespace Stage

variable {stage before after : Stage ι ε}

theorem unprobed_iff : stage.Unprobed ↔ stage.phase = .free ∨ stage.phase = .acquired := by
  cases stage <;> simp [phase]

theorem holding_iff : stage.Holding ↔ stage.phase = .acquired ∨ stage.phase = .held := by
  cases stage <;> simp [phase]

theorem publishes_iff :
    stage.Publishes ↔
      stage.phase = .acquired ∨ stage.phase = .held ∨ stage.phase = .publishing := by
  cases stage <;> simp [phase]

theorem unprobed_congr (same : after.phase = before.phase) :
    after.Unprobed ↔ before.Unprobed := by
  rw [unprobed_iff, unprobed_iff, same]

theorem holding_congr (same : after.phase = before.phase) : after.Holding ↔ before.Holding := by
  rw [holding_iff, holding_iff, same]

theorem publishes_congr (same : after.phase = before.phase) :
    after.Publishes ↔ before.Publishes := by
  rw [publishes_iff, publishes_iff, same]

theorem publishes_of_holding (holding : stage.Holding) : stage.Publishes := by
  rw [holding_iff] at holding
  rw [publishes_iff, ← or_assoc]
  exact .inl holding

/-- Behind its probe a caller has not the slot, and nobody is to wait on it. -/
theorem of_past (past : stage.phase = .past) :
    ¬ stage.Unprobed ∧ ¬ stage.Holding ∧ ¬ stage.Publishes := by
  rw [unprobed_iff, holding_iff, publishes_iff, past]
  decide

theorem of_held (held : stage.phase = .held) : ¬ stage.Unprobed ∧ stage.Holding := by
  rw [unprobed_iff, holding_iff, held]
  decide

end Stage

theorem Remaining.phase_next (remaining : Remaining ε) :
    (remaining.next : Stage ι ε).phase = .past := by
  cases remaining <;> rfl

theorem Remaining.taken_next (remaining : Remaining ε) :
    (remaining.next : Stage ι ε).taken = (Stage.publishing remaining : Stage ι ε).taken := by
  cases remaining <;> rfl

theorem ProbeResult.phase_next (result : ProbeResult ε) :
    (result.next : Stage ι ε).phase = .past := by
  cases result <;> rfl

theorem ProbeResult.taken_next (result : ProbeResult ε) :
    (result.next : Stage ι ε).taken = some result := by
  cases result <;> rfl

end Phases

/-! ## The invariant -/

section Invariant

variable {state next : State ι ε} {index : ι} {caller changed : Caller ι ε} {slot : Option ι}

omit [DecidableEq ι] in
theorem Goes.phase {stage : Stage ι ε} (goes : Goes state caller stage) :
    stage.phase = caller.stage.phase := by
  cases goes with
  | giveUp before => rcases before with before | before <;> rw [before] <;> rfl
  | await result before =>
      rw [result.phase_next]
      rcases before with before | before <;> rw [before] <;> rfl
  | call before => rw [before]; rfl
  | observe owner before => rw [before]; rfl
  | count retryCount before => rw [before]; rfl
  | delay retryCount before => rw [before]; rfl
  | succeed before => rw [before]; rfl
  | fail before => rw [before]; rfl
  | backOff before => rw [before]; rfl
  | observed owner before => rw [before]; rfl
  | retry owner before => rw [before]; rfl
  | finish success before => rw [before]; rfl

omit [DecidableEq ι] in
/-- An outcome that is taken over is that of the caller's probe. -/
theorem Goes.taken {stage : Stage ι ε} (goes : Goes state caller stage) (sound : caller.Sound)
    {result : ProbeResult ε} (isTaken : stage.taken = some result) :
    caller.probeTask = some result := by
  cases goes with
  | succeed before success =>
      cases isTaken
      exact success
  | await ended before isEnded =>
      rw [ended.taken_next] at isTaken
      rw [isEnded, isTaken]
  | finish success before =>
      apply sound.taken
      rw [before]
      exact isTaken
  | _ => cases isTaken

omit [DecidableEq ι] in
/-- What the callers go on to wait on is the holder's source, and then its result. -/
theorem Goes.linked {stage : Stage ι ε} (goes : Goes state caller stage)
    (held : ∀ owner, state.currentProbeTcs = some owner → (state.callers owner).stage.Holding) :
    Linked state.callers { caller with stage := stage } := by
  cases goes with
  | observe owner before taken =>
      constructor
      · intro other same
        cases same
        exact .inr (Stage.publishes_of_holding (held owner taken))
      · exact fun other impossible => nomatch impossible
  | observed owner before published =>
      constructor
      · exact fun other impossible => nomatch impossible
      · intro other same
        cases same
        exact published
  | await result => cases result <;> exact ⟨nofun, nofun⟩
  | _ => exact ⟨nofun, nofun⟩

omit [DecidableEq ι] in
/-- Only a caller that has not called its probe waits on another one. -/
theorem Linked.of_phase {callers : ι → Caller ι ε} (notFree : caller.stage.phase ≠ .free) :
    Linked callers caller := by
  constructor
  · intro owner stage
    rw [stage] at notFree
    exact absurd rfl notFree
  · intro owner stage
    rw [stage] at notFree
    exact absurd rfl notFree

/-- What a call of the probe comes to: the holder keeps the slot, the others are behind it. -/
structure Probes (before after : Stage ι ε) (thrown : Option ε) : Prop where
  unprobed : before.Unprobed
  probed : ¬ after.Unprobed
  holding : after.Holding ↔ before.Holding
  publishes : after.Publishes ↔ before.Publishes
  taken : after.taken = thrown.map .exception

omit [DecidableEq ι] in
theorem probes_of_acquired {before : Stage ι ε} (isAcquired : before = .acquired)
    (thrown : Option ε) :
    Probes before (thrown.elim .counting fun error => .releasing (.throw error)) thrown := by
  subst isAcquired
  cases thrown with
  | none => exact ⟨trivial, id, Iff.rfl, Iff.rfl, rfl⟩
  | some error => exact ⟨trivial, id, Iff.rfl, Iff.rfl, rfl⟩

omit [DecidableEq ι] in
theorem probes_of_calling {before : Stage ι ε} {owner : ι} (isCalling : before = .calling owner)
    (thrown : Option ε) :
    Probes before (thrown.elim .probing fun error => .ended (.exception error)) thrown := by
  subst isCalling
  cases thrown with
  | none => exact ⟨trivial, id, Iff.rfl, Iff.rfl, rfl⟩
  | some error => exact ⟨trivial, id, Iff.rfl, Iff.rfl, rfl⟩

omit [DecidableEq ι] in
theorem probes_of_probe {before after : Stage ι ε} {thrown : Option ε}
    (probe : before = .acquired ∧
        after = thrown.elim .counting (fun error => .releasing (.throw error)) ∨
      (∃ owner, before = .calling owner) ∧
        after = thrown.elim .probing (fun error => .ended (.exception error))) :
    Probes before after thrown := by
  rcases probe with ⟨isAcquired, rfl⟩ | ⟨⟨owner, isCalling⟩, rfl⟩
  · exact probes_of_acquired isAcquired thrown
  · exact probes_of_calling isCalling thrown

omit [DecidableEq ι] in
theorem Moves.sound (moves : Moves state index caller slot changed) (sound : caller.Sound) :
    changed.Sound := by
  cases moves with
  | goes stage goes =>
      have unprobed := Stage.unprobed_congr goes.phase
      have publishes := Stage.publishes_congr goes.phase
      constructor
      · exact fun isUnprobed => sound.unprobed (unprobed.mp isUnprobed)
      · exact fun isProbed => sound.probed fun was => isProbed (unprobed.mpr was)
      · exact fun result isTaken => goes.taken sound isTaken
      · exact fun isOpen => sound.unpublished (isOpen.imp unprobed.mp publishes.mp)
      · exact sound.published
  | acquire stage free =>
      have unprobed : caller.stage.Unprobed := by rw [stage]; trivial
      constructor
      · exact fun _ => sound.unprobed unprobed
      · exact fun isProbed => absurd trivial isProbed
      · exact fun result isTaken => nomatch isTaken
      · exact fun _ => sound.unpublished (.inl unprobed)
      · exact sound.published
  | release remaining stage =>
      obtain ⟨probed, holding⟩ := Stage.of_held (congrArg Stage.phase stage)
      have sameTaken : caller.stage.taken = (Stage.publishing remaining : Stage ι ε).taken := by
        rw [stage]
        cases remaining <;> rfl
      constructor
      · exact fun isUnprobed => isUnprobed.elim
      · exact fun _ => sound.probed probed
      · exact fun result isTaken => sound.taken result (sameTaken.trans isTaken)
      · exact fun _ => sound.unpublished (.inr (Stage.publishes_of_holding holding))
      · exact sound.published
  | publish remaining stage =>
      obtain ⟨probed, -, unpublishing⟩ := Stage.of_past (ι := ι) remaining.phase_next
      have wasProbed : ¬ caller.stage.Unprobed := by rw [stage]; exact id
      constructor
      · exact fun isUnprobed => absurd isUnprobed probed
      · exact fun _ => sound.probed wasProbed
      · intro result isTaken
        apply sound.taken
        rw [stage, ← remaining.taken_next]
        exact isTaken
      · exact fun isOpen => absurd isOpen (not_or.mpr ⟨probed, unpublishing⟩)
      · intro isPublished
        apply sound.taken
        rw [stage]
        cases remaining with
        | success => rfl
        | awaitProbeTask => cases isPublished
        | throw error => cases isPublished
  | probe thrown next stage =>
      have probes := probes_of_probe stage
      have unpublished := sound.unpublished (.inl probes.unprobed)
      constructor
      · exact fun isUnprobed => absurd isUnprobed probes.probed
      · intro _
        show caller.invocations + 1 = 1
        rw [(sound.unprobed probes.unprobed).1]
      · exact fun result isTaken => probes.taken.symm.trans isTaken
      · exact fun _ => unpublished
      · intro isPublished
        rw [unpublished] at isPublished
        cases isPublished
  | probeEnds result invoked running =>
      constructor
      · intro isUnprobed
        exact absurd (sound.unprobed isUnprobed).1 invoked
      · exact sound.probed
      · intro other isTaken
        have impossible := sound.taken other isTaken
        rw [running] at impossible
        cases impossible
      · exact sound.unpublished
      · intro isPublished
        have impossible := sound.published isPublished
        rw [running] at impossible
        cases impossible
  | delayEnds =>
      exact ⟨sound.unprobed, sound.probed, sound.taken, sound.unpublished, sound.published⟩

omit [DecidableEq ι] in
/-- Only its holder gives the slot up, and only a free slot is taken. -/
theorem Moves.slot_iff (moves : Moves state index caller slot changed)
    (holding : state.currentProbeTcs = some index ↔ caller.stage.Holding) :
    (slot = some index ↔ changed.stage.Holding) ∧
      ∀ other, other ≠ index → (slot = some other ↔ state.currentProbeTcs = some other) := by
  cases moves with
  | goes stage goes =>
      exact ⟨holding.trans (Stage.holding_congr goes.phase).symm, fun _ _ => Iff.rfl⟩
  | acquire stage free =>
      refine ⟨iff_of_true rfl trivial, fun other isOther => ?_⟩
      rw [free, Option.some.injEq]
      exact iff_of_false (fun same => isOther same.symm) nofun
  | release remaining stage =>
      have held : state.currentProbeTcs = some index :=
        holding.mpr (Stage.of_held (congrArg Stage.phase stage)).2
      refine ⟨iff_of_false nofun id, fun other isOther => ?_⟩
      rw [held, Option.some.injEq]
      exact iff_of_false nofun fun same => isOther same.symm
  | publish remaining stage =>
      have noHolder : ¬ caller.stage.Holding := by rw [stage]; exact id
      have past := Stage.of_past (ι := ι) remaining.phase_next
      exact ⟨holding.trans (iff_of_false noHolder past.2.1), fun _ _ => Iff.rfl⟩
  | probe thrown next stage =>
      exact ⟨holding.trans (probes_of_probe stage).holding.symm, fun _ _ => Iff.rfl⟩
  | probeEnds result invoked running => exact ⟨holding, fun _ _ => Iff.rfl⟩
  | delayEnds => exact ⟨holding, fun _ _ => Iff.rfl⟩

/-- A result stays, and a source that may be waited on is one that gets its result. -/
structure Grows (caller changed : Caller ι ε) : Prop where
  tcs : ∀ result, caller.myTcs = some result → changed.myTcs = some result
  publishes : caller.stage.Publishes → changed.stage.Publishes ∨ changed.myTcs ≠ none

omit [DecidableEq ι] in
theorem Moves.grows (moves : Moves state index caller slot changed) (sound : caller.Sound) :
    Grows caller changed := by
  cases moves with
  | goes stage goes =>
      exact ⟨fun _ same => same, fun publishes =>
        .inl ((Stage.publishes_congr goes.phase).mpr publishes)⟩
  | acquire stage free => exact ⟨fun _ same => same, fun _ => .inl trivial⟩
  | release remaining stage => exact ⟨fun _ same => same, fun _ => .inl trivial⟩
  | publish remaining stage =>
      have publishes : caller.stage.Publishes := by rw [stage]; trivial
      constructor
      · intro result isResult
        rw [sound.unpublished (.inr publishes)] at isResult
        cases isResult
      · exact fun _ => .inr (Option.some_ne_none _)
  | probe thrown next stage =>
      exact ⟨fun _ same => same, fun publishes =>
        .inl ((probes_of_probe stage).publishes.mpr publishes)⟩
  | probeEnds result invoked running => exact ⟨fun _ same => same, .inl⟩
  | delayEnds => exact ⟨fun _ same => same, .inl⟩

omit [DecidableEq ι] in
theorem Moves.linked (moves : Moves state index caller slot changed)
    (held : ∀ owner, state.currentProbeTcs = some owner → (state.callers owner).stage.Holding)
    (linked : Linked state.callers caller) : Linked state.callers changed := by
  cases moves with
  | goes stage goes => exact goes.linked held
  | acquire stage free => exact .of_phase nofun
  | release remaining stage => exact .of_phase nofun
  | publish remaining stage =>
      apply Linked.of_phase
      rw [remaining.phase_next]
      nofun
  | probe thrown next stage =>
      apply Linked.of_phase
      intro isFree
      exact (probes_of_probe stage).probed (Stage.unprobed_iff.mpr (.inl isFree))
  | probeEnds result invoked running => exact ⟨linked.observing, linked.calling⟩
  | delayEnds => exact ⟨linked.observing, linked.calling⟩

/-- What a caller waits on is kept while the callers grow. -/
theorem Linked.update (linked : Linked state.callers caller)
    (grows : Grows (state.callers index) changed) :
    Linked (Function.update state.callers index changed) caller := by
  constructor
  · intro owner stage
    by_cases same : owner = index
    · subst same
      rw [Function.update_self]
      rcases linked.observing owner stage with published | publishes
      · obtain ⟨result, isResult⟩ := Option.ne_none_iff_exists'.mp published
        exact .inl (by simp [grows.tcs result isResult])
      · exact (grows.publishes publishes).symm
    · rw [Function.update_of_ne same]
      exact linked.observing owner stage
  · intro owner stage
    by_cases same : owner = index
    · subst same
      rw [Function.update_self]
      exact grows.tcs true (linked.calling owner stage)
    · rw [Function.update_of_ne same]
      exact linked.calling owner stage

omit [DecidableEq ι] in
theorem sound_initial : Sound ({} : State ι ε) where
  callers _ := by constructor <;> simp
  slot _ := by simp
  linked _ := by constructor <;> simp

theorem sound_step {action : Action ι ε} (sound : Sound state)
    (stepped : step state action = some next) : Sound next := by
  obtain ⟨slot, changed, retryCount, moves, rfl⟩ := moves_of_step stepped
  have slots := moves.slot_iff (sound.slot action.caller)
  have grows := moves.grows (sound.callers action.caller)
  have linked := moves.linked (fun owner => (sound.slot owner).mp) (sound.linked action.caller)
  constructor
  · intro other
    by_cases same : other = action.caller
    · subst same
      simpa [State.set] using moves.sound (sound.callers action.caller)
    · simpa [State.set, same] using sound.callers other
  · intro other
    by_cases same : other = action.caller
    · subst same
      simpa [State.set] using slots.1
    · simpa [State.set, same] using (slots.2 other same).trans (sound.slot other)
  · intro other
    by_cases same : other = action.caller
    · subst same
      simpa [State.set] using linked.update grows
    · simpa [State.set, same] using (sound.linked other).update grows

end Invariant

/-! ## The holder gives the slot up -/

/-- How many steps of its own a holder has left until it publishes. -/
def Stage.distance : Stage ι ε → Nat
  | .acquired => 8
  | .counting => 7
  | .delaying _ => 6
  | .waiting => 5
  | .deciding => 4
  | .backingOff => 3
  | .releasing _ => 2
  | .publishing _ => 1
  | _ => 0

/-- The steps and the delay that are left, of a caller whose source is waited on. -/
def Caller.distance (caller : Caller ι ε) : Nat :=
  2 * caller.stage.distance + if caller.delayed then 0 else 1

/-- A caller that may be waited on goes on by itself, whatever its probe does. -/
theorem publisher_progress {state : State ι ε} {index : ι}
    (publishes : (state.callers index).stage.Publishes) :
    ∃ action next, action.caller = index ∧ step state action = some next ∧
      ((next.callers index).myTcs ≠ none ∨ (next.callers index).stage.Publishes) ∧
      (next.callers index).distance < (state.callers index).distance := by
  cases stage : (state.callers index).stage with
  | acquired =>
      refine ⟨.invokeProbe index none, _, rfl, by simp [step, invokeProbe, stage]; rfl, ?_⟩
      simp [State.set, Caller.distance, Stage.distance, stage]
  | counting =>
      refine ⟨.resume index, _, rfl, by simp [step, resume, stage]; rfl, ?_⟩
      simp [State.goTo, State.set, Caller.distance, Stage.distance, stage]
  | delaying retryCount =>
      refine ⟨.resume index, _, rfl, by simp [step, resume, stage]; rfl, ?_⟩
      simp [State.goTo, State.set, Caller.distance, Stage.distance, stage]
  | waiting =>
      cases delayed : (state.callers index).delayed with
      | false =>
          refine ⟨.delayEnds index, _, rfl, by simp [step, stage]; rfl, ?_⟩
          simp [State.set, Caller.distance, stage, delayed]
      | true =>
          cases success : (state.callers index).succeeded with
          | false =>
              refine ⟨.resume index, _, rfl,
                by simp [step, resume, stage, delayed, success]; rfl, ?_⟩
              simp [State.goTo, State.set, Caller.distance, Stage.distance, stage]
          | true =>
              refine ⟨.resume index, _, rfl,
                by simp [step, resume, stage, delayed, success]; rfl, ?_⟩
              simp [State.goTo, State.set, Caller.distance, Stage.distance, stage]
  | deciding =>
      cases delayed : (state.callers index).delayed with
      | false =>
          refine ⟨.delayEnds index, _, rfl, by simp [step, stage]; rfl, ?_⟩
          simp [State.set, Caller.distance, stage, delayed]
      | true =>
          refine ⟨.resume index, _, rfl, by simp [step, resume, stage, delayed]; rfl, ?_⟩
          simp [State.goTo, State.set, Caller.distance, Stage.distance, stage]
  | backingOff =>
      cases delayed : (state.callers index).delayed with
      | false =>
          refine ⟨.delayEnds index, _, rfl, by simp [step, stage]; rfl, ?_⟩
          simp [State.set, Caller.distance, stage, delayed]
      | true =>
          refine ⟨.resume index, _, rfl, by simp [step, resume, stage, delayed]; rfl, ?_⟩
          simp [State.goTo, State.set, Caller.distance, Stage.distance, stage]
  | releasing remaining =>
      refine ⟨.resume index, _, rfl, by simp [step, resume, stage]; rfl, ?_⟩
      simp [State.goTo, State.set, Caller.distance, Stage.distance, stage]
  | publishing remaining =>
      refine ⟨.resume index, _, rfl, by simp [step, resume, stage]; rfl, ?_⟩
      cases remaining <;> simp [State.set, Caller.distance, Stage.distance, stage]
  | idle => simp [stage] at publishes
  | racing => simp [stage] at publishes
  | awaitingProbe => simp [stage] at publishes
  | observing owner => simp [stage] at publishes
  | calling owner => simp [stage] at publishes
  | probing => simp [stage] at publishes
  | finishing success => simp [stage] at publishes
  | ended result => simp [stage] at publishes

/-- A caller that may be waited on publishes by its own steps and its delay. -/
theorem publisher_publishes {state : State ι ε} {index : ι}
    (publishes : (state.callers index).stage.Publishes) :
    ∃ actions final, (∀ action ∈ actions, action.caller = index) ∧
      Machine.run step state actions = some final ∧ (final.callers index).myTcs ≠ none := by
  have progress : ∀ {state : State ι ε},
      (state.callers index).myTcs ≠ none ∨ (state.callers index).stage.Publishes →
      ¬ (state.callers index).myTcs ≠ none →
      ∃ action next, action.caller = index ∧ step state action = some next ∧
        ((next.callers index).myTcs ≠ none ∨ (next.callers index).stage.Publishes) ∧
        (next.callers index).distance < (state.callers index).distance := by
    intro state invariant missing
    exact publisher_progress (invariant.resolve_left missing)
  have start : (state.callers index).myTcs ≠ none ∨ (state.callers index).stage.Publishes :=
    .inr publishes
  obtain ⟨actions, final, own, ran, -, published⟩ :=
    Machine.run_until (fun state : State ι ε => (state.callers index).distance) progress start
  exact ⟨actions, final, own, ran, published⟩

/-! ## The contract -/

/-- In every state that callers can come to: a probe is called at most once, and a call that
has ended has called it once and ends as it did; one caller holds the slot, and a caller that
has ended does not; a probe is called outside the slot when the shared probe that its caller
waited on has succeeded; and whoever is waited on has published or does so by itself. -/
theorem backOff_contract (actions : List (Action ι ε)) {state : State ι ε}
    (ran : Machine.run step {} actions = some state) :
    (∀ index, (state.callers index).invocations ≤ 1) ∧
    (∀ index result, (state.callers index).stage = .ended result →
      (state.callers index).invocations = 1 ∧ (state.callers index).probeTask = some result ∧
        state.currentProbeTcs ≠ some index) ∧
    (∀ one other, (state.callers one).stage.Holding → (state.callers other).stage.Holding →
      one = other) ∧
    (∀ index thrown next, step state (.invokeProbe index thrown) = some next →
      ¬ (state.callers index).stage.Holding →
        ∃ owner, (state.callers index).stage = .calling owner ∧
          (state.callers owner).myTcs = some true ∧
          (state.callers owner).probeTask = some (.completed true)) ∧
    (∀ index owner, (state.callers index).stage = .observing owner →
      ∃ more final, (∀ action ∈ more, action.caller = owner) ∧
        Machine.run step state more = some final ∧ (final.callers owner).myTcs ≠ none) := by
  have sound : Sound state := Machine.run_invariant sound_step sound_initial ran
  refine ⟨?_, ?_, ?_, ?_, ?_⟩
  · intro index
    by_cases unprobed : (state.callers index).stage.Unprobed
    · rw [((sound.callers index).unprobed unprobed).1]
      exact Nat.zero_le 1
    · rw [(sound.callers index).probed unprobed]
  · intro index result ended
    refine ⟨(sound.callers index).probed (by simp [ended]),
      (sound.callers index).taken result (by simp [ended]), ?_⟩
    rw [ne_eq, sound.slot, ended]
    simp
  · intro one other holdsOne holdsOther
    have first := (sound.slot one).mpr holdsOne
    rw [(sound.slot other).mpr holdsOther, Option.some.injEq] at first
    exact first.symm
  · intro index thrown next stepped outside
    cases stage : (state.callers index).stage with
    | calling owner =>
        have published := (sound.linked index).calling owner stage
        exact ⟨owner, rfl, published, (sound.callers owner).published published⟩
    | acquired => simp [stage] at outside
    | _ => simp [step, invokeProbe, stage] at stepped
  · intro index owner observing
    rcases (sound.linked index).observing owner observing with published | publishes
    · exact ⟨[], state, by simp, rfl, published⟩
    · exact publisher_publishes publishes

/-- The probe of the first caller succeeds while the second one waits on it, whose own probe
then fails. -/
def sharedProbe : List (Action Nat String) :=
  [.call 0, .call 1, .resume 0, .resume 1, .invokeProbe 0 none, .resume 0, .resume 0,
    .probeEnds 0 (.completed true), .resume 0, .resume 0, .resume 0, .resume 1,
    .invokeProbe 1 none, .probeEnds 1 (.completed false), .resume 1, .resume 1, .resume 0]

theorem backOff_contract_sharedProbe :
    ∃ state, Machine.run step {} sharedProbe = some state ∧
      (state.callers 0).stage = .ended (.completed true) ∧
      (state.callers 1).stage = .ended (.completed false) ∧
      (state.callers 1).invocations = 1 ∧
      (state.callers 1).probeTask = some (.completed false) := by
  refine ⟨_, rfl, rfl, rfl, ?_⟩
  have contract := backOff_contract sharedProbe rfl
  have ended := contract.2.1 1 (.completed false) rfl
  exact ⟨ended.1, ended.2.1⟩

end AzureSignalR.Utilities.BackOffPolicy
