import AzureSignalR.Common.BinaryMessage
import AzureSignalR.Library.Machine
import Mathlib.Data.Fintype.Basic
import Mathlib.Logic.Function.Basic

/-!
Contract: who completes `Application.Output` of a client connection, and when.

Owns: `WriteToApplicationAsync` with `WriteMessageAsyncCore`, and `CompleteIncoming`, under any
number of calls of both, with `_connectionState` between them.

Does not own: the pipe. A write may be suspended, may throw and may come back canceled at any
time; `CancelPendingFlush` is a step without an effect of its own. The calls of
`CompleteIncoming` come from `OnClientDisconnectedAsync` and `PerformDisconnectAsync`, one
after another or not.
-/

set_option autoImplicit false

namespace AzureSignalR.ClientConnections.OutputCompletion

open Library

/-- `_connectionState`. -/
inductive ConnectionState where
  | idle
  | writing
  | completed
deriving DecidableEq, Repr

/-- How far a call of `WriteToApplicationAsync` has got. -/
inductive Writer where
  | idle
  /-- At `_writeLock.WaitAsync`. -/
  | waiting
  /-- In front of the first `CompareExchange`. -/
  | acquired
  /-- In front of the next `WriteAsync`; `single` is `IsSingleSegment`. -/
  | writing (single : Bool) (segments : List Bytes)
  /-- In `WriteAsync`, with the segments behind it. -/
  | flushing (single : Bool) (segments : List Bytes)
  /-- In front of the second `CompareExchange`. -/
  | finishing
  /-- In front of `Application.Output.Complete`. -/
  | completing
  | releasing
  | returned
deriving DecidableEq, Repr

/-- How far a call of `CompleteIncoming` has got. -/
inductive Completer where
  | idle
  /-- In front of `Interlocked.Exchange`. -/
  | called
  /-- In front of `CancelPendingFlush`. -/
  | exchanged (previousState : ConnectionState)
  | canceled (previousState : ConnectionState)
  | returned
deriving DecidableEq, Repr

structure State (ι γ : Type) where
  connectionState : ConnectionState := .idle
  writeLock : Option ι := none
  /-- Whether `Application.Output.Complete` has been called. -/
  completed : Bool := false
  writers : ι → Writer := fun _ => .idle
  completers : γ → Completer := fun _ => .idle

inductive Action (ι γ : Type) where
  /-- `WriteToApplicationAsync` is called. -/
  | write (writer : ι)
  /-- The next step of a writer; `isCanceled` is what a flush says that returns. -/
  | resume (writer : ι) (isCanceled : Bool)
  /-- `WriteAsync` throws. -/
  | throws (writer : ι)
  | completeIncoming (completer : γ)
  | proceed (completer : γ)
deriving DecidableEq, Repr

namespace Writer

/-- In `WriteMessageAsyncCore`. -/
def isWriting : Writer → Bool
  | .writing _ _ | .flushing _ _ => true
  | _ => false

/-- Between the two ends of the inner `try`. -/
def isBusy : Writer → Bool
  | .writing _ _ | .flushing _ _ | .finishing | .completing => true
  | _ => false

/-- Inside the lock. -/
def isInside : Writer → Bool
  | .idle | .waiting | .returned => false
  | _ => true

end Writer

variable {ι γ : Type} [DecidableEq ι] [DecidableEq γ]

namespace State

def goTo (state : State ι γ) (index : ι) (writer : Writer) : State ι γ :=
  { state with writers := Function.update state.writers index writer }

def moveTo (state : State ι γ) (index : γ) (completer : Completer) : State ι γ :=
  { state with completers := Function.update state.completers index completer }

end State

/-- The next step of a writer; `payloads` gives the segments of each payload. -/
def resume (payloads : ι → List Bytes) (state : State ι γ) (index : ι) (isCanceled : Bool) :
    Option (State ι γ) :=
  match state.writers index with
  | .idle | .returned => none
  | .waiting =>
      if state.writeLock = none then
        some { state.goTo index .acquired with writeLock := some index }
      else none
  | .acquired =>
      let writing := state.goTo index
        (.writing ((payloads index).length = 1) (payloads index))
      match state.connectionState with
      | .completed => some (state.goTo index .releasing)
      | .idle => some { writing with connectionState := .writing }
      | .writing => some writing
  | .writing _ [] => some (state.goTo index .finishing)
  | .writing single (_ :: segments) => some (state.goTo index (.flushing single segments))
  | .flushing single segments =>
      if single ∨ isCanceled then some (state.goTo index .finishing)
      else some (state.goTo index (.writing single segments))
  | .finishing =>
      match state.connectionState with
      | .completed => some (state.goTo index .completing)
      | .writing => some { state.goTo index .releasing with connectionState := .idle }
      | .idle => some (state.goTo index .releasing)
  | .completing => some { state.goTo index .releasing with completed := true }
  | .releasing => some { state.goTo index .returned with writeLock := none }

/-- The next step of `CompleteIncoming`. -/
def proceed (state : State ι γ) (index : γ) : Option (State ι γ) :=
  match state.completers index with
  | .idle | .returned => none
  | .called =>
      some { state.moveTo index (.exchanged state.connectionState) with
        connectionState := .completed }
  | .exchanged previousState => some (state.moveTo index (.canceled previousState))
  | .canceled previousState =>
      if previousState ≠ .writing then
        some { state.moveTo index .returned with completed := true }
      else some (state.moveTo index .returned)

def step (payloads : ι → List Bytes) (state : State ι γ) : Action ι γ → Option (State ι γ)
  | .write index =>
      if state.writers index = .idle then some (state.goTo index .waiting) else none
  | .resume index isCanceled => resume payloads state index isCanceled
  | .throws index =>
      if (state.writers index).isWriting then some (state.goTo index .finishing) else none
  | .completeIncoming index =>
      if state.completers index = .idle then some (state.moveTo index .called) else none
  | .proceed index => proceed state index

/-- A call of `CompleteIncoming` that has found the connection completed comes to `Complete` only
when no write is in progress. -/
def Awaited (state : State ι γ) : Action ι γ → Prop
  | .proceed index =>
      state.completers index = .canceled .completed →
        ∀ writer, (state.writers writer).isWriting = false
  | _ => True

instance [Fintype ι] (state : State ι γ) : (action : Action ι γ) →
    Decidable (Awaited state action)
  | .proceed index =>
      inferInstanceAs (Decidable (state.completers index = .canceled .completed →
        ∀ writer, (state.writers writer).isWriting = false))
  | .write _ | .resume _ _ | .throws _ | .completeIncoming _ => isTrue trivial

/-- Once `Complete` has been called nobody is writing, so it was not called during a write and
no write has started behind it; and it has been called when a call of `CompleteIncoming` has
returned and no write is in progress. -/
def Orderly (state : State ι γ) : Prop :=
  (state.completed = true → ∀ writer, (state.writers writer).isWriting = false) ∧
  ((∃ completer, state.completers completer = .returned) →
    (∀ writer, (state.writers writer).isBusy = false) → state.completed = true)

/-! ## The invariant -/

namespace Completer

/-- It has found no write in progress and goes on to `Complete`. -/
def isEarly : Completer → Bool
  | .exchanged .idle | .canceled .idle => true
  | _ => false

/-- It leaves `Complete` to a write in progress, or has returned. -/
def isDue : Completer → Bool
  | .exchanged .writing | .canceled .writing | .returned => true
  | _ => false

/-- It has not yet come to `Interlocked.Exchange`. -/
def isBefore : Completer → Bool
  | .idle | .called => true
  | _ => false

end Completer

structure Sound (state : State ι γ) : Prop where
  exclusive : ∀ {writer}, (state.writers writer).isInside = true → state.writeLock = some writer
  idle : state.connectionState = .idle → ∀ writer, (state.writers writer).isBusy = false
  busy : state.connectionState = .writing → ∃ writer, (state.writers writer).isBusy = true
  completing : ∀ {writer}, state.writers writer = .completing →
    state.connectionState = .completed
  fresh : state.connectionState ≠ .completed →
    state.completed = false ∧ ∀ completer, (state.completers completer).isBefore = true
  calm : state.completed = true → ∀ writer, (state.writers writer).isWriting = false
  early : ∀ {completer}, (state.completers completer).isEarly = true →
    ∀ writer, (state.writers writer).isWriting = false
  due : ∀ {completer}, (state.completers completer).isDue = true →
    state.completed = true ∨ ∃ writer, (state.writers writer).isBusy = true

omit [DecidableEq ι] [DecidableEq γ] in
theorem sound_initial : Sound ({} : State ι γ) where
  exclusive := by nofun
  idle _ _ := rfl
  busy := by nofun
  completing := by nofun
  fresh _ := ⟨rfl, fun _ => rfl⟩
  calm := by nofun
  early := by nofun
  due := by nofun

theorem isInside_of_isBusy {writer : Writer} (busy : writer.isBusy = true) :
    writer.isInside = true := by
  cases writer <;> first | rfl | cases busy

theorem isBusy_of_isWriting {writer : Writer} (writing : writer.isWriting = true) :
    writer.isBusy = true := by
  cases writer <;> first | rfl | cases writing

theorem isEarly_of_isBefore {completer : Completer} (before : completer.isBefore = true) :
    ¬ completer.isEarly = true := by
  cases completer with
  | idle => nofun
  | called => nofun
  | exchanged _ => cases before
  | canceled _ => cases before
  | returned => cases before

theorem isDue_of_isBefore {completer : Completer} (before : completer.isBefore = true) :
    ¬ completer.isDue = true := by
  cases completer with
  | idle => nofun
  | called => nofun
  | exchanged _ => cases before
  | canceled _ => cases before
  | returned => cases before

namespace Sound

variable {state : State ι γ} {index : ι} {before stage : Writer}

omit [DecidableEq ι] [DecidableEq γ] in
/-- Only one writer is busy. -/
theorem busy_unique (sound : Sound state) (inside : (state.writers index).isInside = true)
    {other : ι} (busy : (state.writers other).isBusy = true) : other = index := by
  have taken := sound.exclusive (isInside_of_isBusy busy)
  rw [sound.exclusive inside] at taken
  exact (Option.some.inj taken).symm

omit [DecidableEq γ] in
theorem notWriting_goTo (isBefore : state.writers index = before)
    (writing : stage.isWriting = true → before.isWriting = true)
    (calm : ∀ writer, (state.writers writer).isWriting = false) (writer : ι) :
    (Function.update state.writers index stage writer).isWriting = false := by
  by_cases isHere : writer = index
  · rw [isHere, Function.update_self]
    cases isWriting : stage.isWriting with
    | false => rfl
    | true =>
        have wasWriting := writing isWriting
        rw [← isBefore, calm index] at wasWriting
        cases wasWriting
  · rw [Function.update_of_ne isHere]
    exact calm writer

omit [DecidableEq γ] in
theorem busy_goTo (isBefore : state.writers index = before)
    (same : stage.isBusy = before.isBusy) (writer : ι) :
    (Function.update state.writers index stage writer).isBusy =
      (state.writers writer).isBusy := by
  by_cases isHere : writer = index
  · rw [isHere, Function.update_self, same, isBefore]
  · rw [Function.update_of_ne isHere]

omit [DecidableEq γ] in
/-- A step of a writer between two places where it is busy, or between two where it is not. -/
theorem move (sound : Sound state) (isBefore : state.writers index = before) {lock : Option ι}
    (inside : ∀ writer, (Function.update state.writers index stage writer).isInside = true →
      lock = some writer)
    (writing : stage.isWriting = true → before.isWriting = true)
    (same : stage.isBusy = before.isBusy)
    (completes : stage = .completing → state.connectionState = .completed) :
    Sound { state.goTo index stage with writeLock := lock } where
  exclusive isInside := inside _ isInside
  idle isIdle writer := (busy_goTo isBefore same writer).trans (sound.idle isIdle writer)
  busy isWriting := by
    obtain ⟨writer, isBusy⟩ := sound.busy isWriting
    exact ⟨writer, (busy_goTo isBefore same writer).trans isBusy⟩
  completing {writer} isCompleting := by
    change Function.update state.writers index stage writer = _ at isCompleting
    by_cases isHere : writer = index
    · rw [isHere, Function.update_self] at isCompleting
      exact completes isCompleting
    · rw [Function.update_of_ne isHere] at isCompleting
      exact sound.completing isCompleting
  fresh := sound.fresh
  calm isCompleted := notWriting_goTo isBefore writing (sound.calm isCompleted)
  early isEarly := notWriting_goTo isBefore writing (sound.early isEarly)
  due isDue := by
    rcases sound.due isDue with isCompleted | ⟨writer, isBusy⟩
    · exact .inl isCompleted
    · exact .inr ⟨writer, (busy_goTo isBefore same writer).trans isBusy⟩

omit [DecidableEq γ] in
/-- The writer stays inside the lock, or stays outside. -/
theorem inside_goTo (sound : Sound state) (isBefore : state.writers index = before)
    (inside : stage.isInside = true → before.isInside = true) (writer : ι)
    (isInside : (Function.update state.writers index stage writer).isInside = true) :
    state.writeLock = some writer := by
  by_cases isHere : writer = index
  · rw [isHere, Function.update_self] at isInside
    rw [isHere]
    exact sound.exclusive (isBefore ▸ inside isInside)
  · rw [Function.update_of_ne isHere] at isInside
    exact sound.exclusive isInside

omit [DecidableEq γ] in
/-- The writer leaves the inner `try`, and nobody else is inside it. -/
theorem notBusy_goTo (sound : Sound state) (isBefore : state.writers index = before)
    (wasInside : before.isInside = true) (notBusy : stage.isBusy = false) (writer : ι) :
    (Function.update state.writers index stage writer).isBusy = false := by
  by_cases isHere : writer = index
  · rw [isHere, Function.update_self]
    exact notBusy
  · rw [Function.update_of_ne isHere]
    cases isBusy : (state.writers writer).isBusy with
    | false => rfl
    | true =>
        rw [← isBefore] at wasInside
        exact absurd (sound.busy_unique wasInside isBusy) isHere

omit [DecidableEq γ] in
/-- The write starts. -/
theorem start (sound : Sound state) (isAcquired : state.writers index = .acquired)
    (isIdle : state.connectionState = .idle) {single : Bool} {segments : List Bytes} :
    Sound { state.goTo index (.writing single segments) with connectionState := .writing } := by
  obtain ⟨notCompleted, before⟩ := sound.fresh (by rw [isIdle]; nofun)
  refine ⟨?_, by nofun, ?_, ?_, fun _ => ⟨notCompleted, before⟩, ?_, ?_, ?_⟩
  · intro writer isInside
    exact sound.inside_goTo isAcquired (fun _ => rfl) writer isInside
  · intro _
    refine ⟨index, ?_⟩
    change (Function.update state.writers index _ index).isBusy = true
    rw [Function.update_self]
    rfl
  · intro writer isCompleting
    change Function.update state.writers index _ writer = _ at isCompleting
    by_cases isHere : writer = index
    · rw [isHere, Function.update_self] at isCompleting
      cases isCompleting
    · rw [Function.update_of_ne isHere] at isCompleting
      have isCompleted := sound.completing isCompleting
      rw [isIdle] at isCompleted
      cases isCompleted
  · intro isCompleted
    change state.completed = true at isCompleted
    rw [notCompleted] at isCompleted
    cases isCompleted
  · intro completer isEarly
    exact absurd isEarly (isEarly_of_isBefore (before completer))
  · intro completer isDue
    exact absurd isDue (isDue_of_isBefore (before completer))

omit [DecidableEq γ] in
/-- The write ends in an open connection. -/
theorem finish (sound : Sound state) (isFinishing : state.writers index = .finishing)
    (isWriting : state.connectionState = .writing) :
    Sound { state.goTo index .releasing with connectionState := .idle } := by
  obtain ⟨notCompleted, before⟩ := sound.fresh (by rw [isWriting]; nofun)
  have notBusy := sound.notBusy_goTo isFinishing rfl (rfl : Writer.releasing.isBusy = false)
  refine ⟨?_, fun _ => notBusy, by nofun, ?_, fun _ => ⟨notCompleted, before⟩, ?_, ?_, ?_⟩
  · intro writer isInside
    exact sound.inside_goTo isFinishing (fun _ => rfl) writer isInside
  · intro writer isCompleting
    have isBusy := notBusy writer
    rw [show Function.update state.writers index .releasing writer = _ from isCompleting] at isBusy
    cases isBusy
  · intro isCompleted
    change state.completed = true at isCompleted
    rw [notCompleted] at isCompleted
    cases isCompleted
  · intro completer isEarly
    exact absurd isEarly (isEarly_of_isBefore (before completer))
  · intro completer isDue
    exact absurd isDue (isDue_of_isBefore (before completer))

omit [DecidableEq γ] in
/-- The writer completes the output. -/
theorem complete (sound : Sound state) (isCompleting : state.writers index = .completing) :
    Sound { state.goTo index .releasing with completed := true } := by
  have closed := sound.completing isCompleting
  have notBusy := sound.notBusy_goTo isCompleting rfl (rfl : Writer.releasing.isBusy = false)
  have notWriting : ∀ writer,
      (Function.update state.writers index .releasing writer).isWriting = false := by
    intro writer
    cases isWriting : (Function.update state.writers index .releasing writer).isWriting with
    | false => rfl
    | true =>
        have isBusy := notBusy writer
        rw [isBusy_of_isWriting isWriting] at isBusy
        cases isBusy
  refine ⟨?_, ?_, ?_, fun _ => closed, ?_, fun _ => notWriting, fun _ => notWriting,
    fun _ => .inl rfl⟩
  · intro writer isInside
    exact sound.inside_goTo isCompleting (fun _ => rfl) writer isInside
  · intro isIdle
    exact absurd (closed.symm.trans isIdle) (by nofun)
  · intro isWriting
    exact absurd (closed.symm.trans isWriting) (by nofun)
  · intro isOpen
    exact absurd closed isOpen

/-! ### `CompleteIncoming` -/

variable {caller : γ} {completer : Completer}

omit [DecidableEq ι] in
/-- What holds of every call of `CompleteIncoming` still does. -/
theorem forall_moveTo {p : Completer → Prop} (here : p completer)
    (elsewhere : ∀ other, p (state.completers other)) (other : γ) :
    p (Function.update state.completers caller completer other) := by
  by_cases isHere : other = caller
  · rw [isHere, Function.update_self]
    exact here
  · rw [Function.update_of_ne isHere]
    exact elsewhere other

omit [DecidableEq ι] in
/-- A step of `CompleteIncoming` that leaves the connection as it is. -/
theorem proceed (sound : Sound state) {earlier : Completer}
    (wasEarlier : state.completers caller = earlier)
    (before : earlier.isBefore = true → completer.isBefore = true)
    (early : completer.isEarly = true → earlier.isEarly = true)
    (due : completer.isDue = true → earlier.isDue = true) :
    Sound (state.moveTo caller completer) where
  exclusive := sound.exclusive
  idle := sound.idle
  busy := sound.busy
  completing := sound.completing
  fresh isOpen := by
    obtain ⟨notCompleted, allBefore⟩ := sound.fresh isOpen
    refine ⟨notCompleted,
      forall_moveTo (p := fun stage => stage.isBefore = true) (before ?_) allBefore⟩
    rw [← wasEarlier]
    exact allBefore caller
  calm := sound.calm
  early {other} := by
    refine forall_moveTo (p := fun stage => stage.isEarly = true → _) ?_
      (fun _ => sound.early) other
    intro isEarly
    exact sound.early (wasEarlier ▸ early isEarly)
  due {other} := by
    refine forall_moveTo (p := fun stage => stage.isDue = true → _) ?_ (fun _ => sound.due) other
    intro isDue
    exact sound.due (wasEarlier ▸ due isDue)

omit [DecidableEq ι] in
/-- `Interlocked.Exchange`. -/
theorem exchange (sound : Sound state) :
    Sound { state.moveTo caller (.exchanged state.connectionState) with
      connectionState := .completed } where
  exclusive := sound.exclusive
  idle := by nofun
  busy := by nofun
  completing _ := rfl
  fresh isOpen := absurd rfl isOpen
  calm := sound.calm
  early {other} := by
    refine forall_moveTo (p := fun stage => stage.isEarly = true → _) ?_
      (fun _ => sound.early) other
    intro isEarly writer
    cases isState : state.connectionState with
    | idle =>
        cases isWriting : (state.writers writer).isWriting with
        | false => rfl
        | true =>
            have notBusy := sound.idle isState writer
            rw [isBusy_of_isWriting isWriting] at notBusy
            cases notBusy
    | writing =>
        rw [isState] at isEarly
        cases isEarly
    | completed =>
        rw [isState] at isEarly
        cases isEarly
  due {other} := by
    refine forall_moveTo (p := fun stage => stage.isDue = true → _) ?_ (fun _ => sound.due) other
    intro isDue
    cases isState : state.connectionState with
    | idle =>
        rw [isState] at isDue
        cases isDue
    | writing => exact .inr (sound.busy isState)
    | completed =>
        rw [isState] at isDue
        cases isDue

omit [DecidableEq ι] in
/-- `CompleteIncoming` completes the output. -/
theorem completeIncoming (sound : Sound state) {previousState : ConnectionState}
    (isCanceled : state.completers caller = .canceled previousState)
    (calm : ∀ writer, (state.writers writer).isWriting = false) :
    Sound { state.moveTo caller .returned with completed := true } where
  exclusive := sound.exclusive
  idle := sound.idle
  busy := sound.busy
  completing := sound.completing
  fresh isOpen := by
    have before := (sound.fresh isOpen).2 caller
    rw [isCanceled] at before
    cases before
  calm _ := calm
  early _ := calm
  due _ := .inl rfl

end Sound

section Runs

variable {payloads : ι → List Bytes} {state next : State ι γ} {index : ι} {caller : γ}

omit [DecidableEq γ] in
theorem sound_resume {isCanceled : Bool} (sound : Sound state)
    (resumed : resume payloads state index isCanceled = some next) : Sound next := by
  unfold resume at resumed
  cases stage : state.writers index with
  | idle =>
      rw [stage] at resumed
      cases resumed
  | waiting =>
      rw [stage] at resumed
      dsimp only at resumed
      split at resumed
      next free =>
        cases resumed
        refine sound.move stage ?_ (by nofun) rfl (by nofun)
        intro writer isInside
        by_cases isHere : writer = index
        · rw [isHere]
        · rw [Function.update_of_ne isHere] at isInside
          have taken := sound.exclusive isInside
          rw [free] at taken
          cases taken
      next => cases resumed
  | acquired =>
      rw [stage] at resumed
      dsimp only at resumed
      split at resumed
      next =>
        cases resumed
        exact sound.move stage (sound.inside_goTo stage fun _ => rfl) (by nofun) rfl (by nofun)
      next isIdle =>
        cases resumed
        exact sound.start stage isIdle
      next isWriting =>
        -- Whoever is writing would be inside the lock as well.
        obtain ⟨writer, isBusy⟩ := sound.busy isWriting
        have isHere := sound.busy_unique (by rw [stage]; rfl) isBusy
        rw [isHere, stage] at isBusy
        cases isBusy
  | writing single segments =>
      rw [stage] at resumed
      cases segments with
      | nil =>
          cases resumed
          exact sound.move stage (sound.inside_goTo stage fun _ => rfl) (by nofun) rfl (by nofun)
      | cons segment segments =>
          cases resumed
          exact sound.move stage (sound.inside_goTo stage fun _ => rfl) (fun _ => rfl) rfl
            (by nofun)
  | flushing single segments =>
      rw [stage] at resumed
      dsimp only at resumed
      split at resumed
      next =>
        cases resumed
        exact sound.move stage (sound.inside_goTo stage fun _ => rfl) (by nofun) rfl (by nofun)
      next =>
        cases resumed
        exact sound.move stage (sound.inside_goTo stage fun _ => rfl) (fun _ => rfl) rfl
          (by nofun)
  | finishing =>
      rw [stage] at resumed
      dsimp only at resumed
      split at resumed
      next isCompleted =>
        cases resumed
        exact sound.move stage (sound.inside_goTo stage fun _ => rfl) (by nofun) rfl
          fun _ => isCompleted
      next isWriting =>
        cases resumed
        exact sound.finish stage isWriting
      next isIdle =>
        have notBusy := sound.idle isIdle index
        rw [stage] at notBusy
        cases notBusy
  | completing =>
      rw [stage] at resumed
      cases resumed
      exact sound.complete stage
  | releasing =>
      rw [stage] at resumed
      cases resumed
      refine sound.move stage ?_ (by nofun) rfl (by nofun)
      intro writer isInside
      by_cases isHere : writer = index
      · rw [isHere, Function.update_self] at isInside
        cases isInside
      · rw [Function.update_of_ne isHere] at isInside
        have taken := sound.exclusive isInside
        rw [sound.exclusive (by rw [stage]; rfl : (state.writers index).isInside = true)] at taken
        exact absurd (Option.some.inj taken).symm isHere
  | returned =>
      rw [stage] at resumed
      cases resumed

omit [DecidableEq ι] in
theorem sound_proceed (sound : Sound state) (awaited : Awaited state (.proceed caller))
    (proceeded : proceed state caller = some next) : Sound next := by
  unfold proceed at proceeded
  cases stage : state.completers caller with
  | idle =>
      rw [stage] at proceeded
      cases proceeded
  | called =>
      rw [stage] at proceeded
      cases proceeded
      exact sound.exchange
  | exchanged previousState =>
      rw [stage] at proceeded
      cases proceeded
      refine sound.proceed stage (by nofun) ?_ ?_
      · cases previousState <;> exact id
      · cases previousState <;> exact id
  | canceled previousState =>
      rw [stage] at proceeded
      cases previousState with
      | idle =>
          cases proceeded
          exact sound.completeIncoming stage (sound.early (by rw [stage]; rfl))
      | writing =>
          cases proceeded
          exact sound.proceed stage (by nofun) (by nofun) fun _ => rfl
      | completed =>
          cases proceeded
          exact sound.completeIncoming stage (awaited stage)
  | returned =>
      rw [stage] at proceeded
      cases proceeded

theorem sound_step {action : Action ι γ} (sound : Sound state) (awaited : Awaited state action)
    (stepped : step payloads state action = some next) : Sound next := by
  cases action with
  | write index =>
      rw [step] at stepped
      split at stepped
      next stage =>
        cases stepped
        exact sound.move stage (sound.inside_goTo stage (by nofun)) (by nofun) rfl (by nofun)
      next => cases stepped
  | resume index isCanceled => exact sound_resume sound stepped
  | throws index =>
      rw [step] at stepped
      split at stepped
      next isWriting =>
        cases stepped
        refine sound.move rfl (sound.inside_goTo rfl fun _ => ?_) (by nofun) ?_ (by nofun)
        · exact isInside_of_isBusy (isBusy_of_isWriting isWriting)
        · exact (isBusy_of_isWriting isWriting).symm
      next => cases stepped
  | completeIncoming caller =>
      rw [step] at stepped
      split at stepped
      next stage =>
        cases stepped
        exact sound.proceed stage (fun _ => rfl) (by nofun) (by nofun)
      next => cases stepped
  | proceed caller => exact sound_proceed sound awaited stepped

omit [DecidableEq ι] [DecidableEq γ] in
theorem Sound.orderly (sound : Sound state) : Orderly state := by
  refine ⟨sound.calm, ?_⟩
  rintro ⟨completer, isReturned⟩ notBusy
  refine (sound.due (by rw [isReturned]; rfl)).resolve_right ?_
  rintro ⟨writer, isBusy⟩
  rw [notBusy writer] at isBusy
  cases isBusy

end Runs

/-- The output of a client connection under any number of writes and of calls of
`CompleteIncoming`, in every state of a run in which the repeated calls wait for the write. -/
theorem output_completion_orderly (payloads : ι → List Bytes) (actions : List (Action ι γ))
    {state : State ι γ} (ran : Machine.run (step payloads) {} actions = some state)
    (awaited : Machine.Along (step payloads) Awaited {} actions) : Orderly state :=
  (Machine.run_along sound_step sound_initial awaited ran).orderly

/-- A write is suspended in its flush when the first call of `CompleteIncoming` comes. -/
def completesOnce : List (Action Unit Bool) :=
  [.write (), .resume () false, .resume () false, .resume () false, .completeIncoming false,
    .proceed false, .proceed false, .proceed false]

/-- The write ends before the second call, as in a migration. -/
def endsBetween : List (Action Unit Bool) :=
  completesOnce ++ [Action.resume () true, .resume () false, .resume () false,
    .completeIncoming true, .proceed true, .proceed true, .proceed true]

theorem output_completion_orderly_endsBetween :
    ∃ state : State Unit Bool,
      Machine.run (step fun _ => [[1, 2]]) {} endsBetween = some state ∧
      state.completers true = .returned ∧ Orderly state :=
  ⟨_, rfl, rfl, output_completion_orderly (fun _ => [[1, 2]]) endsBetween rfl (by decide)⟩

/-- The write is still suspended when the second call comes. -/
def completesTwice : List (Action Unit Bool) :=
  completesOnce ++ [Action.completeIncoming true, .proceed true, .proceed true, .proceed true]

theorem output_completed_during_write :
    ∃ state : State Unit Bool,
      Machine.run (step fun _ => [[1, 2]]) {} completesTwice = some state ∧
      state.completed = true ∧ state.writers () = .flushing true [] ∧ ¬ Orderly state := by
  refine ⟨_, rfl, rfl, rfl, ?_⟩
  rintro ⟨calm, -⟩
  exact absurd (calm rfl ()) (by decide)

end AzureSignalR.ClientConnections.OutputCompletion
