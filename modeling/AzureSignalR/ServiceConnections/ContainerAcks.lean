import AzureSignalR.Utilities.AckCauses

/-!
Contract: the containers of a process and the ack handler they share.

Owns: `WriteAckableMessageAsync` and `InvokeAsync` of the containers, the
removal of an endpoint with the disposal of its container, and what a removal
may do to the acks of the other containers.

Does not own: the connections of a container. Writing a message succeeds or
throws; the clients of a removed endpoint leave at some time. A container is
the number of its endpoint.
-/

set_option autoImplicit false

namespace AzureSignalR.ServiceConnections

open Library Library.Machine Utilities

variable {τ : Type}

/-! ## Calls -/

/-- What an ackable call returns. -/
inductive CallResult (τ : Type) where
  /-- By `WriteAckableMessageAsync`. -/
  | acked (value : Bool)
  /-- By `InvokeAsync`. -/
  | invoked (value : τ)
deriving DecidableEq, Repr

/-- A running or finished `WriteAckableMessageAsync` or `InvokeAsync`. -/
structure AckableCall (τ : Type) where
  container : Nat
  /-- The class of the message. -/
  messageType : String
  /-- The call of `CreateSingleAck`. -/
  handle : Nat
  sent : Bool := false
  result : Option (Except Exn (CallResult τ)) := none
deriving DecidableEq, Repr

/-- What the call makes of the outcome of the task that it awaits. -/
def AckableCall.finish (call : AckableCall τ) (ackId : Int32) :
    AckOutcome τ → Except Exn (CallResult τ)
  | .status status => (handleAckStatus call.messageType ackId status).map .acked
  | .payload value => .ok (.invoked value)
  | .faulted error => .error error
  | .canceled => .error .taskCanceled

/-- Where `RemoveHubServiceEndpointAsync` is. -/
inductive RemovalStage where
  /-- In `WaitForClientsDisconnect`. -/
  | waiting
  /-- In `StopAsync`, behind `UpdateEndpointsStore`. -/
  | stopping
  /-- Before `Dispose`. -/
  | disposing
  | ended
deriving DecidableEq, Repr

structure Removal where
  container : Nat
  stage : RemovalStage
deriving DecidableEq, Repr

structure ContainersState (τ : Type) where
  /-- The endpoints messages are routed to. -/
  endpoints : List Nat := []
  removals : List Removal := []
  /-- The containers that have been disposed. -/
  disposed : List Nat := []
  /-- `AckHandler.Singleton`. -/
  ackHandler : AckHandler τ := {}
  calls : List (AckableCall τ) := []
deriving DecidableEq, Repr

namespace ContainersState

variable (context : AckContext τ) (state : ContainersState τ)

/-- `WriteAckableMessageAsync` or `InvokeAsync` calls `CreateSingleAck`. -/
def start (container : Nat) (messageType : String) (kind : AckKind) : ContainersState τ :=
  { state with
    ackHandler := state.ackHandler.create context kind none
    calls := state.calls ++
      [{ container := container
         messageType := messageType
         handle := state.ackHandler.handles.length }] }

def setCall (index : Nat) (call : AckableCall τ) : ContainersState τ :=
  { state with calls := state.calls.set index call }

/-- `WriteMessageAsync` of a call has ended. -/
def written (index : Nat) (call : AckableCall τ) (handle : AckHandle τ) (error : Option Exn) :
    Option (ContainersState τ) :=
  match handle.task with
  | .creating _ | .registering _ | .threw _ => none
  | .info _ | .completed _ =>
      if call.sent = false ∧ call.result.isNone then
        match error with
        | none => some (state.setCall index { call with sent := true })
        | some error => some (state.setCall index { call with result := some (.error error) })
      else none

/-- A call returns. -/
def awaitAck (index : Nat) (call : AckableCall τ) (handle : AckHandle τ) :
    Option (ContainersState τ) :=
  if call.result.isSome then none
  else
    match handle.task with
    | .threw error => some (state.setCall index { call with result := some (.error error) })
    | .creating _ | .registering _ | .info _ | .completed _ =>
        if call.sent then
          match state.ackHandler.outcome handle with
          | none => none
          | some outcome =>
              some (state.setCall index
                { call with result := some (call.finish handle.id outcome) })
        else none

/-- `UpdateEndpointsStore` with `ScaleOperation.Remove`. -/
def removeEndpoint (container : Nat) : ContainersState τ :=
  { state with endpoints := state.endpoints.filter fun endpoint => endpoint ≠ container }

/-- `RemoveHubServiceEndpointAsync` up to its first `await`. -/
def remove (container : Nat) (scaleCompleted : Bool) : ContainersState τ :=
  if scaleCompleted then state.removeEndpoint container
  else if container ∈ state.endpoints then
    { state with removals := state.removals ++ [⟨container, .waiting⟩] }
  else state

def setStage (index : Nat) (container : Nat) (stage : RemovalStage) : ContainersState τ :=
  { state with removals := state.removals.set index ⟨container, stage⟩ }

/-- `Dispose` of a container; `Dispose(bool)` disposes the handler. -/
def dispose (container : Nat) : ContainersState τ :=
  { state with
    disposed := container :: state.disposed
    ackHandler := { state.ackHandler with disposed := true } }

/-- `RemoveHubServiceEndpointAsync` goes on. -/
def advance (index : Nat) (removal : Removal) : Option (ContainersState τ) :=
  match removal.stage with
  | .waiting =>
      some ((state.removeEndpoint removal.container).setStage index removal.container .stopping)
  | .stopping => some (state.setStage index removal.container .disposing)
  | .disposing =>
      some ((state.dispose removal.container).setStage index removal.container .ended)
  | .ended => none

end ContainersState

inductive ContainersAction where
  | writeAckableMessage (container : Nat) (messageType : String)
  | invoke (container : Nat) (messageType : String)
  | written (call : Nat) (error : Option Exn)
  | awaitAck (call : Nat)
  /-- Any container may receive the ack. -/
  | handleAck (ackId : Int32) (status : AckStatus) (payload : Option Bytes)
  | add (container : Nat)
  | remove (container : Nat) (scaleCompleted : Bool)
  | advance (removal : Nat)
  /-- An awaited step of a removal throws; the exception is logged. -/
  | fail (removal : Nat)
  /-- A token, the timer or a thread of the handler. -/
  | handler (action : AckAction)
deriving DecidableEq, Repr

/-- What the handler does by itself. -/
def internal : AckAction → Bool
  | .create _ _ | .triggerAck _ _ _ | .setExpectedCount _ _ | .dispose => false
  | .getOrAdd _ | .register _ | .cancelToken _ | .sweep | .checkAck _ _ | .disposeAck _
  | .resume _ | .tick => true

def containersStep (context : AckContext τ) (state : ContainersState τ) :
    ContainersAction → Option (ContainersState τ)
  | .writeAckableMessage container messageType =>
      some (state.start context container messageType .singleStatus)
  | .invoke container messageType =>
      some (state.start context container messageType .singlePayload)
  | .written index error =>
      match state.calls[index]? with
      | none => none
      | some call =>
          match state.ackHandler.handles[call.handle]? with
          | none => none
          | some handle => state.written index call handle error
  | .awaitAck index =>
      match state.calls[index]? with
      | none => none
      | some call =>
          match state.ackHandler.handles[call.handle]? with
          | none => none
          | some handle => state.awaitAck index call handle
  | .handleAck ackId status payload =>
      some { state with ackHandler := state.ackHandler.triggerAck ackId status payload }
  | .add container => some { state with endpoints := state.endpoints ++ [container] }
  | .remove container scaleCompleted => some (state.remove container scaleCompleted)
  | .advance index =>
      match state.removals[index]? with
      | none => none
      | some removal => state.advance index removal
  | .fail index =>
      match state.removals[index]? with
      | none => none
      | some removal => some (state.setStage index removal.container .ended)
  | .handler action =>
      if internal action then
        match ackStep context state.ackHandler action with
        | none => none
        | some next => some { state with ackHandler := next }
      else none

/-! ## Isolation -/

namespace ContainersState

/-- The call of `CreateSingleAck` is one of a container that has not been
disposed. -/
def Live (state : ContainersState τ) (handle : Nat) : Prop :=
  ∃ call ∈ state.calls, call.handle = handle ∧ call.container ∉ state.disposed

/-- An ack of a remaining container is pending until an ack with its id, its
token or its timeout ends it. -/
def PendingUndisturbed (state : ContainersState τ) : Prop :=
  ∀ call ∈ state.calls, call.container ∉ state.disposed →
    ∀ (handle : AckHandle τ) (ref : Nat) (info : AckInfo τ),
      state.ackHandler.handles[call.handle]? = some handle → handle.task = .info ref →
        state.ackHandler.infos[ref]? = some info → info.outcome ≠ none →
          (∃ status, .acked handle.id ref status ∈ state.ackHandler.log) ∨
            .canceled ref ∈ state.ackHandler.log ∨ .expired ref ∈ state.ackHandler.log

/-- `WriteAckableMessageAsync` of a remaining container has returned `true` only
when an `Ok` ack with its id has been received. -/
def TrueOnlyAcked (state : ContainersState τ) : Prop :=
  ∀ call ∈ state.calls, call.container ∉ state.disposed →
    call.result = some (.ok (.acked true)) → state.ackHandler.AckedOk call.handle

/-- The call is one of the container, or has its ack. -/
def settledFor (state : ContainersState τ) (container : Nat) (call : AckableCall τ) : Bool :=
  decide (call.container = container) || decide (call.container ∈ state.disposed) ||
    match state.ackHandler.handles[call.handle]? with
    | none => false
    | some handle => state.ackHandler.settled handle

/-- The removal does not dispose its container, or every ack of the other
containers has completed. -/
def mayAdvance (state : ContainersState τ) (index : Nat) : Bool :=
  match state.removals[index]? with
  | none => true
  | some removal =>
      decide (removal.stage ≠ .disposing) ||
        state.calls.all (state.settledFor removal.container)

end ContainersState

/-- A container is disposed only when every ack of the others has completed, and
no ackable call begins on a remaining container once the handler is disposed. -/
def Isolated (state : ContainersState τ) : ContainersAction → Prop
  | .writeAckableMessage container _ | .invoke container _ =>
      state.ackHandler.disposed = false ∨ container ∈ state.disposed
  | .advance index => state.mayAdvance index = true
  | .written _ _ | .awaitAck _ | .handleAck _ _ _ | .add _ | .remove _ _ | .fail _
  | .handler _ => True

instance (state : ContainersState τ) :
    (action : ContainersAction) → Decidable (Isolated state action)
  | .writeAckableMessage container _ | .invoke container _ =>
      inferInstanceAs
        (Decidable (state.ackHandler.disposed = false ∨ container ∈ state.disposed))
  | .advance index => inferInstanceAs (Decidable (state.mayAdvance index = true))
  | .written _ _ | .awaitAck _ | .handleAck _ _ _ | .add _ | .remove _ _ | .fail _
  | .handler _ => .isTrue trivial

structure AcksInvariant (state : ContainersState τ) : Prop where
  allocated : ∀ call ∈ state.calls, call.handle < state.ackHandler.handles.length
  sound : Sound state.Live state.ackHandler
  acked : state.TrueOnlyAcked

variable {context : AckContext τ} {state next : ContainersState τ}

theorem acksInvariant_initial (endpoints : List Nat) :
    AcksInvariant ({ endpoints := endpoints } : ContainersState τ) where
  allocated := by simp
  sound := by constructor <;> simp
  acked := by simp [ContainersState.TrueOnlyAcked]

namespace AcksInvariant

theorem allocated_grow (invariant : AcksInvariant state) {ackHandler : AckHandler τ}
    (grows : Grows state.ackHandler ackHandler) {call : AckableCall τ}
    (member : call ∈ state.calls) : call.handle < ackHandler.handles.length := by
  have inside := invariant.allocated call member
  obtain ⟨after, found, -⟩ := grows.called _ _ (List.getElem?_eq_getElem inside)
  exact (List.getElem?_eq_some_iff.mp found).1

/-- The handler has taken a step by itself. -/
theorem grow (invariant : AcksInvariant state) {ackHandler : AckHandler τ}
    (grows : Grows state.ackHandler ackHandler) (sound : Sound state.Live ackHandler) :
    AcksInvariant { state with ackHandler := ackHandler } where
  allocated _ member := invariant.allocated_grow grows member
  sound := sound
  acked call member remains isTrue :=
    grows.ackedOk (invariant.acked call member remains isTrue)

theorem start (invariant : AcksInvariant state) {container : Nat} {messageType : String}
    {kind : AckKind} (single : kind ≠ .multi)
    (isolated : state.ackHandler.disposed = false ∨ container ∈ state.disposed) :
    AcksInvariant (state.start context container messageType kind) := by
  have grows : Grows state.ackHandler (state.ackHandler.create context kind none) :=
    .create state.ackHandler kind none
  have earlier : ∀ index, index < state.ackHandler.handles.length →
      (state.start context container messageType kind).Live index → state.Live index := by
    rintro index inside ⟨call, member, isHandle, remains⟩
    rcases List.mem_append.mp member with before | itself
    · exact ⟨call, before, isHandle, remains⟩
    · rw [List.mem_singleton.mp itself] at isHandle
      exact absurd isHandle (Nat.ne_of_gt inside)
  constructor
  · intro call member
    rcases List.mem_append.mp member with before | itself
    · exact invariant.allocated_grow grows before
    · rw [List.mem_singleton.mp itself]
      exact state.ackHandler.create_length kind none
  · apply (invariant.sound.weaken earlier).create none single
    rintro ⟨call, member, isHandle, remains⟩
    rcases List.mem_append.mp member with before | itself
    · exact absurd isHandle (Nat.ne_of_lt (invariant.allocated call before))
    · rw [List.mem_singleton.mp itself] at remains
      rcases isolated with serving | disposed
      · exact serving
      · exact absurd disposed remains
  · intro call member remains isTrue
    rcases List.mem_append.mp member with before | itself
    · exact grows.ackedOk (invariant.acked call before remains isTrue)
    · rw [List.mem_singleton.mp itself] at isTrue
      cases isTrue

/-- A call has gone on; when it has returned `true`, it has its ack. -/
theorem setCall (invariant : AcksInvariant state) {index : Nat} {call after : AckableCall τ}
    (found : state.calls[index]? = some call) (keptContainer : after.container = call.container)
    (keptHandle : after.handle = call.handle)
    (acked : after.container ∉ state.disposed → after.result = some (.ok (.acked true)) →
      state.ackHandler.AckedOk after.handle) :
    AcksInvariant (state.setCall index after) := by
  have member := List.mem_of_getElem? found
  constructor
  · intro other present
    rcases List.mem_or_eq_of_mem_set present with before | itself
    · exact invariant.allocated other before
    · rw [itself, keptHandle]
      exact invariant.allocated call member
  · apply invariant.sound.weaken
    rintro handle - ⟨other, present, isHandle, remains⟩
    rcases List.mem_or_eq_of_mem_set present with before | itself
    · exact ⟨other, before, isHandle, remains⟩
    · rw [itself, keptContainer] at remains
      rw [itself, keptHandle] at isHandle
      exact ⟨call, member, isHandle, remains⟩
  · intro other present remains isTrue
    rcases List.mem_or_eq_of_mem_set present with before | itself
    · exact invariant.acked other before remains isTrue
    · rw [itself] at remains isTrue ⊢
      exact acked remains isTrue

/-- The removals and the routing are not what the acks depend on. -/
theorem of_same (invariant : AcksInvariant state) (handler : next.ackHandler = state.ackHandler)
    (calls : next.calls = state.calls) (disposed : next.disposed = state.disposed) :
    AcksInvariant next where
  allocated := by
    rw [handler, calls]
    exact invariant.allocated
  sound := by
    have live : next.Live = state.Live := by
      funext handle
      rw [ContainersState.Live, calls, disposed, ContainersState.Live]
    rw [handler, live]
    exact invariant.sound
  acked := by
    rw [ContainersState.TrueOnlyAcked, handler, calls, disposed]
    exact invariant.acked

theorem dispose (invariant : AcksInvariant state) (container : Nat)
    (settled : ∀ call ∈ state.calls, state.settledFor container call = true) :
    AcksInvariant (state.dispose container) := by
  have grows : Grows state.ackHandler { state.ackHandler with disposed := true } :=
    .of_same (fun _ => id) (fun _ => rfl) rfl rfl (le_refl _)
  have remaining : ∀ call ∈ state.calls, call.container ∉ (state.dispose container).disposed →
      call.container ≠ container ∧ call.container ∉ state.disposed :=
    fun _ _ remains => not_or.mp (mt List.mem_cons.mpr remains)
  constructor
  · exact invariant.allocated
  · apply (invariant.sound.weaken ?_).dispose
    · rintro index handle ⟨call, member, isHandle, remains⟩ found
      obtain ⟨other, remained⟩ := remaining call member remains
      have isSettled := settled call member
      rw [ContainersState.settledFor, isHandle, found] at isSettled
      simpa [other, remained] using isSettled
    · rintro index - ⟨call, member, isHandle, remains⟩
      exact ⟨call, member, isHandle, (remaining call member remains).2⟩
  · intro call member remains isTrue
    exact grows.ackedOk (invariant.acked call member (remaining call member remains).2 isTrue)

end AcksInvariant

/-! ## Runs -/

/-- Only `Ok` makes `WriteAckableMessageAsync` return `true`. -/
theorem finish_true {call : AckableCall τ} {ackId : Int32} {outcome : AckOutcome τ}
    (isTrue : call.finish ackId outcome = .ok (.acked true)) : outcome = .status .ok := by
  cases outcome with
  | payload | faulted | canceled => simp [AckableCall.finish] at isTrue
  | status status =>
      simp only [AckableCall.finish, handleAckStatus] at isTrue
      split_ifs at isTrue with isOk
      · rw [isOk]
      · simp [Except.map] at isTrue
      · simp [Except.map] at isTrue
      · simp [Except.map] at isTrue

theorem undisturbed_of_internal {action : AckAction} (isInternal : internal action = true)
    (live : Nat → Prop) (handler : AckHandler τ) : Undisturbed live handler action := by
  cases action with
  | create | triggerAck | setExpectedCount | dispose => cases isInternal
  | getOrAdd | register | cancelToken | sweep | checkAck | disposeAck | resume | tick => trivial

namespace AcksInvariant

theorem throwCall (invariant : AcksInvariant state) {index : Nat} {call : AckableCall τ}
    (found : state.calls[index]? = some call) (error : Exn) :
    AcksInvariant (state.setCall index { call with result := some (.error error) }) := by
  apply invariant.setCall found
  · rfl
  · rfl
  · rintro - ⟨⟩

theorem written (invariant : AcksInvariant state) {index : Nat} {call : AckableCall τ}
    {handle : AckHandle τ} {error : Option Exn} (found : state.calls[index]? = some call)
    (stepped : state.written index call handle error = some next) : AcksInvariant next := by
  have returned : call.result = none →
      AcksInvariant (state.setCall index { call with sent := true }) := by
    intro pending
    apply invariant.setCall found
    · rfl
    · rfl
    · intro _ isTrue
      rw [pending] at isTrue
      cases isTrue
  unfold ContainersState.written at stepped
  split at stepped
  · cases stepped
  · cases stepped
  · cases stepped
  all_goals
    split at stepped
    next guard =>
      split at stepped
      · rw [Option.some.injEq] at stepped
        rw [← stepped]
        exact returned (Option.isNone_iff_eq_none.mp guard.2)
      · rw [Option.some.injEq] at stepped
        rw [← stepped]
        exact invariant.throwCall found _
    · cases stepped

theorem awaitAck (invariant : AcksInvariant state) {index : Nat} {call : AckableCall τ}
    {handle : AckHandle τ} (found : state.calls[index]? = some call)
    (present : state.ackHandler.handles[call.handle]? = some handle)
    (stepped : state.awaitAck index call handle = some next) : AcksInvariant next := by
  have returned : ∀ outcome, state.ackHandler.outcome handle = some outcome →
      AcksInvariant (state.setCall index
        { call with result := some (call.finish handle.id outcome) }) := by
    intro outcome completed
    apply invariant.setCall found
    · rfl
    · rfl
    · intro remains isTrue
      rw [Option.some.injEq] at isTrue
      rw [finish_true isTrue] at completed
      exact invariant.sound.ackedOk ⟨call, List.mem_of_getElem? found, rfl, remains⟩ present
        completed
  unfold ContainersState.awaitAck at stepped
  split at stepped
  · cases stepped
  · split at stepped
    · rw [Option.some.injEq] at stepped
      rw [← stepped]
      exact invariant.throwCall found _
    all_goals
      split at stepped
      · split at stepped
        · cases stepped
        next outcome completed =>
          rw [Option.some.injEq] at stepped
          rw [← stepped]
          exact returned outcome completed
      · cases stepped

theorem remove (invariant : AcksInvariant state) (container : Nat) (scaleCompleted : Bool) :
    AcksInvariant (state.remove container scaleCompleted) := by
  rw [ContainersState.remove]
  split_ifs
  · exact invariant.of_same rfl rfl rfl
  · exact invariant.of_same rfl rfl rfl
  · exact invariant

theorem advance (invariant : AcksInvariant state) {index : Nat} {removal : Removal}
    (found : state.removals[index]? = some removal) (isolated : state.mayAdvance index = true)
    (stepped : state.advance index removal = some next) : AcksInvariant next := by
  rw [ContainersState.advance] at stepped
  cases stage : removal.stage with
  | waiting | stopping =>
      simp only [stage, Option.some.injEq] at stepped
      rw [← stepped]
      exact invariant.of_same rfl rfl rfl
  | disposing =>
      simp only [stage, Option.some.injEq] at stepped
      rw [← stepped]
      have settled : ∀ call ∈ state.calls,
          state.settledFor removal.container call = true := by
        rw [ContainersState.mayAdvance, found] at isolated
        simpa [stage] using isolated
      exact (invariant.dispose removal.container settled).of_same rfl rfl rfl
  | ended => simp only [stage, reduceCtorEq] at stepped

theorem step (invariant : AcksInvariant state) {action : ContainersAction}
    (isolated : Isolated state action)
    (stepped : containersStep context state action = some next) : AcksInvariant next := by
  cases action with
  | writeAckableMessage container messageType =>
      rw [containersStep, Option.some.injEq] at stepped
      rw [← stepped]
      exact invariant.start (by decide) isolated
  | invoke container messageType =>
      rw [containersStep, Option.some.injEq] at stepped
      rw [← stepped]
      exact invariant.start (by decide) isolated
  | written index error =>
      rw [containersStep] at stepped
      split at stepped
      · cases stepped
      next call found =>
        split at stepped
        · cases stepped
        · exact invariant.written found stepped
  | awaitAck index =>
      rw [containersStep] at stepped
      split at stepped
      · cases stepped
      next call found =>
        split at stepped
        · cases stepped
        next handle present => exact invariant.awaitAck found present stepped
  | handleAck ackId status payload =>
      rw [containersStep, Option.some.injEq] at stepped
      rw [← stepped]
      exact invariant.grow (.triggerAck _ ackId status payload)
        (invariant.sound.triggerAck ackId status payload)
  | add container =>
      rw [containersStep, Option.some.injEq] at stepped
      rw [← stepped]
      exact invariant.of_same rfl rfl rfl
  | remove container scaleCompleted =>
      rw [containersStep, Option.some.injEq] at stepped
      rw [← stepped]
      exact invariant.remove container scaleCompleted
  | advance index =>
      rw [containersStep] at stepped
      split at stepped
      · cases stepped
      next removal found => exact invariant.advance found isolated stepped
  | fail index =>
      rw [containersStep] at stepped
      split at stepped
      · cases stepped
      · rw [Option.some.injEq] at stepped
        rw [← stepped]
        exact invariant.of_same rfl rfl rfl
  | handler action =>
      rw [containersStep] at stepped
      split_ifs at stepped with isInternal
      split at stepped
      · cases stepped
      next handler inside =>
        rw [Option.some.injEq] at stepped
        rw [← stepped]
        exact invariant.grow (.step inside)
          (invariant.sound.step (undisturbed_of_internal isInternal _ _) inside)

theorem pendingUndisturbed (invariant : AcksInvariant state) : state.PendingUndisturbed := by
  intro call member remains handle ref info found task present completed
  exact invariant.sound.cause ⟨call, member, rfl, remains⟩ found task present completed

end AcksInvariant

/-- As long as a container is disposed only when the others have their acks, and
none of the others asks for an ack afterwards, no removal disturbs the acks of
another container. -/
theorem removal_leaves_acks_of_others (context : AckContext τ) (endpoints : List Nat)
    {actions : List ContainersAction} {final : ContainersState τ}
    (isolated : Along (containersStep context) Isolated { endpoints := endpoints } actions)
    (ran : run (containersStep context) { endpoints := endpoints } actions = some final) :
    final.PendingUndisturbed ∧ final.TrueOnlyAcked := by
  have invariant : AcksInvariant final := by
    apply run_along _ (acksInvariant_initial endpoints) isolated ran
    intro state action next invariant isolated stepped
    exact invariant.step isolated stepped
  exact ⟨invariant.pendingUndisturbed, invariant.acked⟩

/-- The second endpoint has its ack when the first is removed. -/
theorem removal_leaves_acks_of_others_acked :
    ∃ final : ContainersState (List String),
      run (containersStep queryAckContext) { endpoints := [1, 2] }
          [.writeAckableMessage 2 "JoinGroupWithAckMessage", .handler (.getOrAdd 0),
            .handler (.register 0), .written 0 none, .remove 1 false, .advance 0,
            .handleAck 1 .ok none, .handler (.resume 0), .advance 0, .advance 0, .awaitAck 0] =
            some final ∧
        final.disposed = [1] ∧
        final.calls.map AckableCall.result = [some (.ok (.acked true))] ∧
        final.PendingUndisturbed ∧ final.TrueOnlyAcked := by
  have ran : run (containersStep queryAckContext) { endpoints := [1, 2] }
      [.writeAckableMessage 2 "JoinGroupWithAckMessage", .handler (.getOrAdd 0),
        .handler (.register 0), .written 0 none, .remove 1 false, .advance 0,
        .handleAck 1 .ok none, .handler (.resume 0), .advance 0, .advance 0, .awaitAck 0] =
      some
        { endpoints := [2]
          removals := [⟨1, .ended⟩]
          disposed := [1]
          ackHandler :=
            { nextId := 1
              disposed := true
              infos := [{ id := 1, kind := .singleStatus, timeoutAt := 10000,
                          outcome := some (.status .ok) }]
              acks := [(1, 0)]
              handles := [{ id := 1, kind := .singleStatus, task := .info 0 }]
              tasks := [.removing 1]
              log := [.acked 1 0 .ok] }
          calls := [{ container := 2, messageType := "JoinGroupWithAckMessage",
                      handle := 0, sent := true,
                      result := some (.ok (.acked true)) }] } := by decide
  exact ⟨_, ran, rfl, rfl,
    removal_leaves_acks_of_others queryAckContext [1, 2] (by decide) ran⟩

/-- The first endpoint is removed while the second waits for an ack: the ack is
cancelled by nothing of its own, and the next write on the second endpoint
returns `true` though no ack has been received. -/
theorem not_removal_leaves_acks_of_others :
    ∃ final : ContainersState (List String),
      run (containersStep queryAckContext) { endpoints := [1, 2] }
          [.writeAckableMessage 2 "JoinGroupWithAckMessage", .handler (.getOrAdd 0),
            .handler (.register 0), .written 0 none, .remove 1 false, .advance 0, .advance 0,
            .advance 0, .handler (.disposeAck 1), .handler (.resume 0), .handler (.resume 0),
            .writeAckableMessage 2 "JoinGroupWithAckMessage", .written 1 none,
            .awaitAck 1] = some final ∧
        ¬ final.PendingUndisturbed ∧ ¬ final.TrueOnlyAcked := by
  refine ⟨
    { endpoints := [2]
      removals := [⟨1, .ended⟩]
      disposed := [1]
      ackHandler :=
        { nextId := 2
          disposed := true
          infos := [{ id := 1, kind := .singleStatus, timeoutAt := 10000,
                      outcome := some .canceled }]
          handles := [{ id := 1, kind := .singleStatus, task := .info 0 },
            { id := 2, kind := .singleStatus, task := .completed (.status .ok) }] }
      calls := [{ container := 2, messageType := "JoinGroupWithAckMessage",
                  handle := 0, sent := true },
        { container := 2, messageType := "JoinGroupWithAckMessage",
          handle := 1, sent := true,
          result := some (.ok (.acked true)) }] }, by decide, ?_, ?_⟩
  · intro undisturbed
    have causes := undisturbed _ List.mem_cons_self (by decide) _ 0 _ rfl rfl rfl (by decide)
    rcases causes with ⟨_, acked⟩ | canceled | expired
    · cases acked
    · cases canceled
    · cases expired
  · intro onlyAcked
    have acked := onlyAcked _ (List.mem_cons_of_mem _ List.mem_cons_self) (by decide) rfl
    obtain ⟨_, _, _, _, received⟩ := acked
    cases received

end AzureSignalR.ServiceConnections
