import AzureSignalR.Library.Components
import AzureSignalR.Utilities.MultiAck

/-!
Contract: the invocations of client methods that a server waits for.

Owns: `InvokeConnectionAsync` with the registration of its invocation, and what
`CallerClientResultsManager` does to a registered invocation: completions, clean-up,
cancellation and the sweeps over its multi ack, as threads that interleave at every
access to the table, to the ack and to the task.

Does not own: the ack handler. Its ids and those of the invocations are never used
twice, so an invocation has its own entry in the table and its own `MultiAck`, and
different invocations share nothing.
-/

set_option autoImplicit false

namespace AzureSignalR.ClientInvocation

open Library Library.Machine Utilities

variable {ρ : Type}

/-! ## Completions -/

/-- What `TryCompleteResult` is called with. -/
inductive Completion (ρ : Type) where
  | result (value : ρ)
  | error (message : String)
  /-- The error that the token of the caller comes with. -/
  | canceled
deriving DecidableEq, Repr

namespace Completion

def hasResult : Completion ρ → Bool
  | .result _ => true
  | .error _ | .canceled => false

def isCanceled : Completion ρ → Bool
  | .canceled => true
  | .result _ | .error _ => false

/-- A completion that a service connection has received. -/
def ofReceived : Except String ρ → Completion ρ
  | .ok value => .result value
  | .error message => .error message

end Completion

/-- The result of the `TaskCompletionSource`. -/
inductive InvocationOutcome (ρ : Type) where
  | result (value : ρ)
  /-- `HubException` with the error of a completion. -/
  | failed (message : String)
  /-- `HubException` of a clean-up. -/
  | disconnected (message : String)
  /-- `HubException` with the error of the token. -/
  | canceledError
  | canceled
deriving DecidableEq, Repr

/-- What `Complete` makes of a completion. -/
def Completion.outcome : Completion ρ → InvocationOutcome ρ
  | .result value => .result value
  | .error message => .failed message
  | .canceled => .canceledError

def InvocationOutcome.isResult : InvocationOutcome ρ → Bool
  | .result _ => true
  | .failed _ | .disconnected _ | .canceledError | .canceled => false

/-! ## Threads -/

/-- Where `TryCompleteResult` is, behind its look at the table. -/
inductive CompletionStage where
  /-- Before `TriggerAck`. -/
  | triggering
  /-- In `TriggerAck`, behind `TryGetValue`. -/
  | acking
  /-- Behind the lock of `Ack`, when the expected count is reached. -/
  | completingAck
  /-- In `TriggerAck`, before `TryRemove`. -/
  | removingAck
  /-- Before the test of the result and of the ack task. -/
  | testing
  /-- Before `_pendingInvocations.TryRemove`. -/
  | removing
  /-- Before `Complete`. -/
  | finishing
deriving DecidableEq, Repr

inductive InvocationThread (ρ : Type) where
  | completing (stage : CompletionStage) (completion : Completion ρ)
  /-- A clean-up at the entry, before `Complete`. -/
  | cleaningUp
  /-- A clean-up before `TryRemove`. -/
  | removingEntry
  /-- `TrySetCanceled` behind its action. -/
  | canceling
deriving DecidableEq, Repr

/-- The thread is one of the token. -/
def InvocationThread.isCancellation : InvocationThread ρ → Bool
  | .completing _ completion => completion.isCanceled
  | .canceling => true
  | .cleaningUp | .removingEntry => false

/-- Where `InvokeConnectionAsync` is. -/
inductive CallerStage where
  /-- In `WriteAsync`. -/
  | writing
  /-- The message is on a service connection. -/
  | written
  /-- Behind `CreateMultiAck`. -/
  | created
  /-- In `SetExpectedCount`, behind `TryGetValue`. -/
  | counting
  /-- In `SetExpectedCount`, behind its lock, with the count reached. -/
  | completingCount
  /-- In `SetExpectedCount`, before `TryRemove`. -/
  | removingCount
  /-- Before `_pendingInvocations.TryAdd`. -/
  | adding
  /-- Before `RegisterCancellation`. -/
  | registering
  /-- In `RegisterCancellation`, before the assignment to `_tokenRegistration`. -/
  | assigning
  | awaiting
  /-- Before `RemoveInvocation`. -/
  | throwing
  | returned
  /-- `WriteAsync` has thrown. -/
  | failed
deriving DecidableEq, Repr

namespace CallerStage

/-- The message has been written. -/
def isWritten : CallerStage → Bool
  | .writing | .failed => false
  | .written | .created | .counting | .completingCount | .removingCount | .adding
  | .registering | .assigning | .awaiting | .throwing | .returned => true

/-- The multi ack has been created. -/
def hasAck : CallerStage → Bool
  | .writing | .failed | .written => false
  | .created | .counting | .completingCount | .removingCount | .adding | .registering
  | .assigning | .awaiting | .throwing | .returned => true

/-- The invocation has been added to the table. -/
def isAdded : CallerStage → Bool
  | .writing | .failed | .written | .created | .counting | .completingCount
  | .removingCount | .adding => false
  | .registering | .assigning | .awaiting | .throwing | .returned => true

end CallerStage

/-- The registration with the token of the caller. -/
inductive TokenRegistration where
  | none
  /-- The token has the callback, and `_tokenRegistration` is not assigned yet. -/
  | registered
  | active
  | disposed
deriving DecidableEq, Repr

/-! ## An invocation -/

structure Invocation (ρ : Type) where
  connectionId : String
  /-- How many endpoints the router gives for the connection, an `int`. -/
  ackNumber : Fin (2 ^ 31)
  stage : CallerStage := .writing
  ack : MultiAck := {}
  /-- `_pendingInvocations` has its entry. -/
  pending : Bool := false
  routerInstanceId : Option String := none
  outcome : Option (InvocationOutcome ρ) := none
  tokenCanceled : Bool := false
  registration : TokenRegistration := .none
  threads : List (InvocationThread ρ) := []
  /-- The completions that have found the invocation. -/
  received : Nat := 0
  /-- The completions, cancellations and clean-ups there have been for it. -/
  begun : Nat := 0
  /-- The results that have been dispatched for it. -/
  results : List ρ := []
  /-- The first result that has arrived while it was pending. -/
  firstResult : Option ρ := none
deriving DecidableEq, Repr

namespace Invocation

variable (invocation : Invocation ρ)

def spawn (thread : InvocationThread ρ) : Invocation ρ :=
  { invocation with
    begun := invocation.begun + 1
    threads := invocation.threads ++ [thread] }

/-- `TrySetResult`, `TrySetException` or `TrySetCanceled` of the task. -/
def trySet (outcome : InvocationOutcome ρ) : Invocation ρ :=
  { invocation with outcome := invocation.outcome.or (some outcome) }

/-- `Complete`, which disposes the registration if it has been assigned. -/
def complete (outcome : InvocationOutcome ρ) : Invocation ρ :=
  { invocation.trySet outcome with
    registration :=
      if invocation.registration = .active then .disposed else invocation.registration }

/-! ### The caller -/

/-- The token calls `TrySetCanceled`. -/
def trySetCanceled : Invocation ρ :=
  if invocation.pending then invocation.spawn (.completing .triggering .canceled)
  else invocation.spawn .canceling

/-- `SetExpectedCount` under its lock. -/
def setExpectedCount : Option (Invocation ρ) :=
  match multiAckStep invocation.ack (.setExpectedCount (Int32.ofNat invocation.ackNumber)) with
  | none => none
  | some counted =>
      some { invocation with
        ack := counted
        stage := if invocation.ack.completing < counted.completing then .completingCount
          else .adding }

/-- A step of the ack that the caller takes. -/
def stepAck (action : MultiAckAction) (stage : CallerStage) : Option (Invocation ρ) :=
  match multiAckStep invocation.ack action with
  | none => none
  | some stepped => some { invocation with ack := stepped, stage := stage }

/-- `InvokeConnectionAsync` goes on. -/
def call : Option (Invocation ρ) :=
  match invocation.stage with
  | .writing => some { invocation with stage := .written }
  | .written => some { invocation with stage := .created }
  | .created =>
      some { invocation with stage := if invocation.ack.stored then .counting else .adding }
  | .counting => invocation.setExpectedCount
  | .completingCount => invocation.stepAck .complete .removingCount
  | .removingCount => invocation.stepAck .remove .adding
  | .adding => some { invocation with stage := .registering, pending := true }
  | .registering =>
      -- A token that is cancelled already calls back at once and keeps no registration.
      if invocation.tokenCanceled then
        some { invocation with stage := .awaiting }.trySetCanceled
      else some { invocation with stage := .assigning, registration := .registered }
  | .assigning => some { invocation with stage := .awaiting, registration := .active }
  | .awaiting =>
      match invocation.outcome with
      | none => none
      | some outcome =>
          some { invocation with stage := if outcome.isResult then .returned else .throwing }
  | .throwing => some { invocation with stage := .returned, pending := false }
  | .returned | .failed => none

/-- `WriteAsync` throws. -/
def failWrite : Option (Invocation ρ) :=
  if invocation.stage = .writing then some { invocation with stage := .failed } else none

/-- The token is cancelled. -/
def cancel : Option (Invocation ρ) :=
  if invocation.tokenCanceled then none
  else
    let canceled := { invocation with tokenCanceled := true }
    match invocation.registration with
    | .registered | .active => some canceled.trySetCanceled
    | .none | .disposed => some canceled

/-! ### The manager -/

/-- A completion with the id of the invocation is dispatched: `TryCompleteResult` up to
the test of the connection id. The completion is dropped when the table has no entry,
and the call throws when the connection is another one. -/
def dispatch (connectionId : String) (received : Except String ρ) : Option (Invocation ρ) :=
  if invocation.stage.isWritten then
    if connectionId = invocation.connectionId then
      let seen := { invocation with
        results := invocation.results ++ received.toOption.toList }
      if invocation.pending then
        let found := seen.spawn (.completing .triggering (.ofReceived received))
        some { found with
          received := invocation.received + 1
          firstResult :=
            if invocation.outcome = none then invocation.firstResult.or received.toOption
            else invocation.firstResult }
      else some { seen with begun := invocation.begun + 1 }
    else some invocation
  else none

/-- `AddServiceMapping`. -/
def addServiceMapping (instanceId : String) : Invocation ρ :=
  if invocation.pending then { invocation with routerInstanceId := some instanceId }
  else invocation

/-- `CleanupInvocationsByConnection` or `CleanupInvocationsByInstance` finds the entry. -/
def cleanUp (matching : Bool) : Option (Invocation ρ) :=
  if invocation.pending then
    if matching then some (invocation.spawn .cleaningUp) else some invocation
  else none

def disconnectedMessage : String :=
  "Connection '" ++ invocation.connectionId ++ "' is disconnected."

/-- A sweep over the acks of the manager. -/
def sweep (action : MultiAckAction) : Option (Invocation ρ) :=
  if invocation.stage.hasAck then
    match action with
    | .expire | .tryRemove | .timeOut | .force =>
        match multiAckStep invocation.ack action with
        | none => none
        | some swept => some { invocation with ack := swept }
    | .ack | .setExpectedCount _ | .complete | .remove => none
  else none

/-! ### Threads -/

def replace (index : Nat) (thread : InvocationThread ρ) : Invocation ρ :=
  { invocation with threads := invocation.threads.set index thread }

/-- `TryCompleteResult` returns; the token goes on with `base.TrySetCanceled`. -/
def finish (index : Nat) (completion : Completion ρ) : Invocation ρ :=
  if completion.isCanceled then invocation.replace index .canceling
  else { invocation with threads := invocation.threads.eraseIdx index }

/-- Disposing an assigned registration waits for a callback of the token that is running. -/
def disposalWaits : Bool :=
  (invocation.registration = .active ∨ invocation.registration = .disposed) ∧
    invocation.threads.any InvocationThread.isCancellation

/-- A step of the ack that a completion takes. -/
def resumeAck (index : Nat) (completion : Completion ρ) (action : MultiAckAction)
    (next : MultiAck → CompletionStage) : Option (Invocation ρ) :=
  match multiAckStep invocation.ack action with
  | none => none
  | some stepped =>
      some ({ invocation with ack := stepped }.replace index
        (.completing (next stepped) completion))

def resumeCompletion (index : Nat) (completion : Completion ρ) :
    CompletionStage → Option (Invocation ρ)
  | .triggering =>
      some (invocation.replace index
        (.completing (if invocation.ack.stored then .acking else .testing) completion))
  | .acking =>
      invocation.resumeAck index completion .ack fun stepped =>
        if invocation.ack.completing < stepped.completing then .completingAck else .testing
  | .completingAck => invocation.resumeAck index completion .complete fun _ => .removingAck
  | .removingAck => invocation.resumeAck index completion .remove fun _ => .testing
  | .testing =>
      if completion.hasResult ∨ invocation.ack.completed then
        some (invocation.replace index (.completing .removing completion))
      else some (invocation.finish index completion)
  | .removing =>
      if invocation.pending then
        some ({ invocation with pending := false }.replace index
          (.completing .finishing completion))
      else some (invocation.finish index completion)
  | .finishing =>
      if ¬ completion.isCanceled ∧ invocation.disposalWaits then none
      else some ((invocation.complete completion.outcome).finish index completion)

def resume (index : Nat) : Option (Invocation ρ) :=
  match invocation.threads[index]? with
  | none => none
  | some (.completing stage completion) => invocation.resumeCompletion index completion stage
  | some .cleaningUp =>
      if invocation.disposalWaits then none
      else some ((invocation.complete (.disconnected invocation.disconnectedMessage)).replace index
        .removingEntry)
  | some .removingEntry =>
      some { invocation with
        pending := false
        threads := invocation.threads.eraseIdx index }
  | some .canceling =>
      some { invocation.trySet .canceled with threads := invocation.threads.eraseIdx index }

end Invocation

inductive InvocationAction (ρ : Type) where
  | call
  | failWrite
  | cancel
  | dispatch (connectionId : String) (received : Except String ρ)
  | addServiceMapping (instanceId : String)
  | cleanUpByConnection (connectionId : String)
  | cleanUpByInstance (instanceId : String)
  | sweep (action : MultiAckAction)
  | resume (thread : Nat)
deriving DecidableEq, Repr

def invocationStep (invocation : Invocation ρ) : InvocationAction ρ → Option (Invocation ρ)
  | .call => invocation.call
  | .failWrite => invocation.failWrite
  | .cancel => invocation.cancel
  | .dispatch connectionId received => invocation.dispatch connectionId received
  | .addServiceMapping instanceId => some (invocation.addServiceMapping instanceId)
  | .cleanUpByConnection connectionId =>
      invocation.cleanUp (decide (invocation.connectionId = connectionId))
  | .cleanUpByInstance instanceId =>
      invocation.cleanUp (decide (invocation.routerInstanceId = some instanceId))
  | .sweep action => invocation.sweep action
  | .resume index => invocation.resume index

/-- The calls of `InvokeConnectionAsync`, each with its connection and the number of
endpoints for it. -/
def invokeConnections (calls : List (String × Fin (2 ^ 31))) : List (Invocation ρ) :=
  calls.map fun call => { connectionId := call.1, ackNumber := call.2 }

end AzureSignalR.ClientInvocation
