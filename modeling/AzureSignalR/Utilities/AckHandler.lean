import AzureSignalR.Common.BinaryMessage
import AzureSignalR.Library.Machine

/-!
Contract: the pending acks of a process, as `AckHandler` keeps them.

Owns: creating, triggering, expiring and counting acks and disposing the
handler, as threads that interleave at every access to the dictionary and to a
task.

Does not own: who creates the acks and what the tasks are awaited for. The
payload of an ack is parsed by a parameter; `τ` is what it parses to. The clock
is a number that only grows. The continuation of a payload ack has its outcome
as soon as the task behind it.
-/

set_option autoImplicit false

namespace AzureSignalR.Utilities

open Library Library.Machine

/-! ## Acks -/

/-- An `int` with names for some values. -/
structure AckStatus where
  value : Int32
deriving DecidableEq, Repr

namespace AckStatus

def ok : AckStatus := ⟨1⟩
def notFound : AckStatus := ⟨2⟩
def timeout : AckStatus := ⟨3⟩
def internalServerError : AckStatus := ⟨4⟩

end AckStatus

/-- The classes that implement `IAckInfo`. -/
inductive AckKind where
  | singleStatus
  | singlePayload
  | multi
deriving DecidableEq, Repr

inductive AckOutcome (τ : Type) where
  | status (status : AckStatus)
  | payload (value : τ)
  | faulted (error : Exn)
  | canceled
deriving DecidableEq, Repr

/-- `ContinueWith(task => task.Result)`: reading the result of a task that failed throws. -/
def AckOutcome.continued {τ : Type} : AckOutcome τ → AckOutcome τ
  | .status code => .status code
  | .payload value => .payload value
  | .faulted error => .faulted (.aggregate error)
  | .canceled => .faulted (.aggregate .taskCanceled)

/-- The outcome of the task that a call returns, for one of its info: `CreateSingleAck<T>` returns
a continuation. -/
def AckOutcome.returned {τ : Type} (kind : AckKind) (outcome : AckOutcome τ) : AckOutcome τ :=
  match kind with
  | .singlePayload => outcome.continued
  | .singleStatus | .multi => outcome

structure AckInfo (τ : Type) where
  /-- The id under which it was stored. -/
  id : Int32
  kind : AckKind
  timeoutAt : Nat
  ackCount : Int32 := 0
  expectedCount : Option Int32 := none
  /-- The result of its `TaskCompletionSource`. -/
  outcome : Option (AckOutcome τ) := none
deriving DecidableEq, Repr

/-- What the handler is given. -/
structure AckContext (τ : Type) where
  defaultAckTimeout : Nat
  /-- `typeof(T).Name`. -/
  typeName : String
  /-- `new T()`. -/
  empty : τ
  parseMessagePayload : Bytes → Except Exn τ

/-- A handler for queries of the members of a group. -/
def queryAckContext : AckContext (List String) where
  defaultAckTimeout := 10000
  typeName := "GroupMemberQueryResponse"
  empty := []
  parseMessagePayload _ := .error .endOfStream

variable {τ : Type}

/-- What `SinglePayloadAck<T>.Ack` completes its task with. -/
def payloadOutcome (context : AckContext τ) (status : AckStatus) (payload : Option Bytes) :
    AckOutcome τ :=
  if status = .timeout then
    .faulted (.timeout ("Waiting for a " ++ context.typeName ++ " response timed out."))
  else
    match payload with
    | none => .faulted (.invalidData "The expected payload is null.")
    | some bytes =>
        match context.parseMessagePayload bytes with
        | .error error => .faulted error
        | .ok value => .payload value

/-- What `Ack` completes the task of a single ack with. -/
def ackOutcome (context : AckContext τ) (kind : AckKind) (status : AckStatus)
    (payload : Option Bytes) : AckOutcome τ :=
  match kind with
  | .singlePayload => payloadOutcome context status payload
  | .singleStatus | .multi => .status status

/-! ## Threads -/

/-- What a caller of `CreateSingleAck` or `CreateMultiAck` holds. -/
inductive HandleTask (τ : Type) where
  /-- The call is behind its test of `_disposed`. -/
  | creating (timeout : Nat)
  /-- The call is before `cancellationToken.Register`. -/
  | registering (ref : Nat)
  /-- The task of an info, or a continuation of it. -/
  | info (ref : Nat)
  /-- `Task.FromResult`. -/
  | completed (outcome : AckOutcome τ)
  /-- The call has thrown. -/
  | threw (error : Exn)
deriving DecidableEq, Repr

/-- The call has returned or thrown. -/
def HandleTask.returned : HandleTask τ → Bool
  | .creating _ | .registering _ => false
  | .info _ | .completed _ | .threw _ => true

structure AckHandle (τ : Type) where
  id : Int32
  kind : AckKind
  task : HandleTask τ
  tokenCanceled : Bool := false
deriving DecidableEq, Repr

/-- What a thread inside the handler does next. -/
inductive AckTask where
  /-- `TriggerAck` behind `TryGetValue`. -/
  | acking (id : Int32) (ref : Nat) (status : AckStatus) (payload : Option Bytes)
  /-- `MultiAckWithStatusInfo.Ack` or `SetExpectedCount` behind its lock. -/
  | completing (id : Int32) (ref : Nat) (status : AckStatus)
  /-- `TriggerAck` or `SetExpectedCount` before `TryRemove`. -/
  | removing (id : Int32)
  /-- `SetExpectedCount` behind `TryGetValue`. -/
  | counting (id : Int32) (ref : Nat) (expectedCount : Int32)
  /-- `CheckAcks` at an ack that is out of time. -/
  | expiring (id : Int32) (ref : Nat)
  /-- `CheckAcks` behind `TryRemove`. -/
  | timingOut (ref : Nat)
  /-- `ForceAck` behind its lock. -/
  | forcing (ref : Nat)
  /-- `Dispose` at an ack. -/
  | disposing (id : Int32) (ref : Nat)
  /-- `Dispose` behind `TryRemove`. -/
  | canceling (ref : Nat)
deriving DecidableEq, Repr

/-- What may end an ack by itself. -/
inductive AckEvent where
  /-- An ack carrying the id has reached the info. -/
  | acked (id : Int32) (ref : Nat) (status : AckStatus)
  /-- The token of a caller is cancelled. -/
  | canceled (ref : Nat)
  /-- A sweep has found the info out of time. -/
  | expired (ref : Nat)
deriving DecidableEq, Repr

structure AckHandler (τ : Type) where
  nextId : Int32 := 0
  disposed : Bool := false
  /-- Every info created so far; an info is its index. -/
  infos : List (AckInfo τ) := []
  /-- `_acks`. -/
  acks : List (Int32 × Nat) := []
  handles : List (AckHandle τ) := []
  tasks : List AckTask := []
  /-- The times of the running sweeps. -/
  sweeps : List Nat := []
  utcNow : Nat := 0
  log : List AckEvent := []
deriving DecidableEq, Repr

namespace AckHandler

variable (context : AckContext τ) (handler : AckHandler τ)

def tryGetValue (id : Int32) : Option Nat :=
  (handler.acks.find? fun entry => entry.1 = id).map Prod.snd

def tryRemove (id : Int32) : Bool × AckHandler τ :=
  ((handler.tryGetValue id).isSome,
    { handler with acks := handler.acks.filter fun entry => entry.1 ≠ id })

/-- `TrySetResult`, `TrySetException` or `TrySetCanceled`. -/
def complete (ref : Nat) (outcome : AckOutcome τ) : Bool × AckHandler τ :=
  match handler.infos[ref]? with
  | some info =>
      if info.outcome = none then
        (true,
          { handler with infos := handler.infos.set ref { info with outcome := some outcome } })
      else (false, handler)
  | none => (false, handler)

def record (event : AckEvent) : AckHandler τ := { handler with log := handler.log ++ [event] }

def spawn (task : AckTask) : AckHandler τ := { handler with tasks := handler.tasks ++ [task] }

/-! ### Creating -/

/-- `CreateSingleAck` or `CreateMultiAck`, up to its test of `_disposed`. -/
def create (kind : AckKind) (ackTimeout : Option Nat) : AckHandler τ :=
  let id := handler.nextId + 1
  if handler.disposed then
    { handler with
      nextId := id
      handles := handler.handles ++
        [{ id := id
           kind := kind
           task := .completed
            (if kind = .singlePayload then .payload context.empty else .status .ok) }] }
  else
    { handler with
      nextId := id
      handles := handler.handles ++
        [{ id := id
           kind := kind
           task := .creating (ackTimeout.getD context.defaultAckTimeout) }] }

/-- `new InvalidOperationException()`. -/
def invalidOperation : Exn :=
  .invalidOperation "Operation is not valid due to the current state of the object."

/-- The exception for an info of another kind under the same id. -/
def kindError (kind found : AckKind) : Option Exn :=
  match kind, found with
  | .singleStatus, .singleStatus => none
  | .singlePayload, .singlePayload => none
  | .multi, .multi => none
  | .singleStatus, .multi => some invalidOperation
  | .multi, .singleStatus => some invalidOperation
  | _, _ => some .invalidCast

def setTask (index : Nat) (task : HandleTask τ) : AckHandler τ :=
  { handler with handles := handler.handles.modify index fun handle =>
      { handle with task := task } }

/-- `info.Cancel`, called by the token of a caller. -/
def cancelByToken (ref : Nat) : AckHandler τ :=
  ((handler.record (.canceled ref)).complete ref .canceled).2

/-- What the call does with the info; a multi ack has no token. -/
def found (kind : AckKind) (ref : Nat) : HandleTask τ :=
  if kind = .multi then .info ref else .registering ref

/-- `GetOrAdd` and the test of the kind. -/
def getOrAdd (index : Nat) (handle : AckHandle τ) (timeout : Nat) : AckHandler τ :=
  match handler.tryGetValue handle.id with
  | none =>
      let info : AckInfo τ :=
        { id := handle.id
          kind := handle.kind
          timeoutAt := handler.utcNow + timeout }
      let added :=
        { handler with
          infos := handler.infos ++ [info]
          acks := handler.acks ++ [(handle.id, handler.infos.length)] }
      added.setTask index (found handle.kind handler.infos.length)
  | some ref =>
      match (handler.infos[ref]?).bind fun info => kindError handle.kind info.kind with
      | some error => handler.setTask index (.threw error)
      | none => handler.setTask index (found handle.kind ref)

/-- `cancellationToken.Register(info.Cancel)`; a token that is cancelled already
calls back at once. -/
def register (index : Nat) (handle : AckHandle τ) (ref : Nat) : AckHandler τ :=
  let registered := handler.setTask index (.info ref)
  if handle.tokenCanceled then registered.cancelByToken ref else registered

/-- The token given to a call is cancelled. -/
def cancelToken (index : Nat) (handle : AckHandle τ) : AckHandler τ :=
  let canceled := { handler with handles := handler.handles.modify index fun handle =>
    { handle with tokenCanceled := true } }
  match handle.task with
  | .info ref => if handle.kind = .multi then canceled else canceled.cancelByToken ref
  | _ => canceled

/-! ### Completing -/

/-- `TriggerAck` up to `TryGetValue`. -/
def triggerAck (id : Int32) (status : AckStatus) (payload : Option Bytes) : AckHandler τ :=
  match handler.tryGetValue id with
  | none => handler
  | some ref => handler.spawn (.acking id ref status payload)

/-- `Ack`. A multi ack counts under its lock first. -/
def ack (id : Int32) (ref : Nat) (status : AckStatus) (payload : Option Bytes) :
    AckHandler τ :=
  let received := handler.record (.acked id ref status)
  match handler.infos[ref]? with
  | none => received
  | some info =>
      match info.kind with
      | .multi =>
          let counted :=
            { received with
              infos := handler.infos.set ref { info with ackCount := info.ackCount + 1 } }
          match info.expectedCount with
          | some expected =>
              if expected ≤ info.ackCount + 1 then counted.spawn (.completing id ref status)
              else counted
          | none => counted
      | kind =>
          match received.complete ref (ackOutcome context kind status payload) with
          | (true, acked) => acked.spawn (.removing id)
          | (false, acked) => acked

/-- `SetExpectedCount` up to `TryGetValue`. -/
def setExpectedCount (id : Int32) (expectedCount : Int32) : AckHandler τ :=
  if handler.disposed then handler
  else
    match handler.tryGetValue id with
    | none => handler
    | some ref => handler.spawn (.counting id ref expectedCount)

/-- `SetExpectedCount` under its lock; it throws for a single ack, for a negative
count and when the count is set already. -/
def count (id : Int32) (ref : Nat) (expectedCount : Int32) : AckHandler τ :=
  match handler.infos[ref]? with
  | none => handler
  | some info =>
      if info.kind = .multi ∧ 0 ≤ expectedCount ∧ info.expectedCount = none then
        let counted :=
          { handler with
            infos := handler.infos.set ref { info with expectedCount := some expectedCount } }
        if expectedCount ≤ info.ackCount then counted.spawn (.completing id ref .ok)
        else counted
      else handler

/-- `CheckAcks` at an ack. -/
def checkAck (utcNow : Nat) (id : Int32) : AckHandler τ :=
  match handler.tryGetValue id with
  | none => handler
  | some ref =>
      match handler.infos[ref]? with
      | none => handler
      | some info =>
          if info.timeoutAt < utcNow then
            (handler.record (.expired ref)).spawn (.expiring id ref)
          else handler

/-- `CheckAcks` completes an ack it has removed. The `Cancel` behind `Ack` finds
the task completed. -/
def timeOut (ref : Nat) : AckHandler τ :=
  match handler.infos[ref]? with
  | none => handler
  | some info =>
      match info.kind with
      | .multi =>
          { handler with
            infos := handler.infos.set ref
              { info with ackCount := info.expectedCount.getD 0 } }.spawn (.forcing ref)
      | kind => (handler.complete ref (ackOutcome context kind .timeout none)).2

/-- One step of a thread. -/
def runTask : AckTask → AckHandler τ
  | .acking id ref status payload => handler.ack context id ref status payload
  | .completing id ref status => (handler.complete ref (.status status)).2.spawn (.removing id)
  | .removing id => (handler.tryRemove id).2
  | .counting id ref expectedCount => handler.count id ref expectedCount
  | .expiring id ref =>
      match handler.tryRemove id with
      | (true, removed) => removed.spawn (.timingOut ref)
      | (false, removed) => removed
  | .timingOut ref => handler.timeOut context ref
  | .forcing ref => (handler.complete ref (.status .timeout)).2
  | .disposing id ref =>
      match handler.tryRemove id with
      | (true, removed) => removed.spawn (.canceling ref)
      | (false, removed) => removed
  | .canceling ref => (handler.complete ref .canceled).2

end AckHandler

inductive AckAction where
  | create (kind : AckKind) (ackTimeout : Option Nat)
  /-- A call goes on behind its test of `_disposed`. -/
  | getOrAdd (index : Nat)
  | register (index : Nat)
  | cancelToken (index : Nat)
  | triggerAck (id : Int32) (status : AckStatus) (payload : Option Bytes)
  | setExpectedCount (id : Int32) (expectedCount : Int32)
  /-- The timer calls `CheckAcks`. -/
  | sweep
  /-- A running sweep reaches an ack. -/
  | checkAck (sweep : Nat) (id : Int32)
  | dispose
  /-- The loop of `Dispose` reaches an ack. -/
  | disposeAck (id : Int32)
  /-- A thread takes its next step. -/
  | resume (thread : Nat)
  | tick
deriving DecidableEq, Repr

def ackStep (context : AckContext τ) (handler : AckHandler τ) :
    AckAction → Option (AckHandler τ)
  | .create kind ackTimeout => some (handler.create context kind ackTimeout)
  | .getOrAdd index =>
      match handler.handles[index]? with
      | none => none
      | some handle =>
          match handle.task with
          | .creating timeout => some (handler.getOrAdd index handle timeout)
          | .registering _ | .info _ | .completed _ | .threw _ => none
  | .register index =>
      match handler.handles[index]? with
      | none => none
      | some handle =>
          match handle.task with
          | .registering ref => some (handler.register index handle ref)
          | .creating _ | .info _ | .completed _ | .threw _ => none
  | .cancelToken index =>
      match handler.handles[index]? with
      | none => none
      | some handle => some (handler.cancelToken index handle)
  | .triggerAck id status payload => some (handler.triggerAck id status payload)
  | .setExpectedCount id expectedCount => some (handler.setExpectedCount id expectedCount)
  | .sweep =>
      if handler.disposed then none
      else some { handler with sweeps := handler.sweeps ++ [handler.utcNow] }
  | .checkAck sweep id =>
      match handler.sweeps[sweep]? with
      | none => none
      | some utcNow => some (handler.checkAck utcNow id)
  | .dispose => some { handler with disposed := true }
  | .disposeAck id =>
      if handler.disposed then
        match handler.tryGetValue id with
        | none => none
        | some ref => some (handler.spawn (.disposing id ref))
      else none
  | .resume thread =>
      match handler.tasks[thread]? with
      | none => none
      | some task => some ({ handler with tasks := handler.tasks.eraseIdx thread }.runTask
          context task)
  | .tick => some { handler with utcNow := handler.utcNow + 1 }

/-- `HandleAckStatus`, for a message of the given class and id. -/
def handleAckStatus (messageType : String) (ackId : Int32) (status : AckStatus) :
    Except Exn Bool :=
  if status = .ok then .ok true
  else if status = .notFound then .ok false
  else if status = .timeout ∨ status = .internalServerError then
    .error (.timeout ("Ack-able message " ++ messageType ++ "(ackId: " ++ toString ackId ++
      ") timed out."))
  else
    .error (.azureSignalR ("Ack-able message " ++ messageType ++ "(ackId: " ++
      toString ackId ++ ") gets error ack status " ++ toString status.value ++ "."))

end AzureSignalR.Utilities
