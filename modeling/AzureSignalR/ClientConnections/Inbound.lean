import AzureSignalR.Library.Machine
import AzureSignalR.Protocol.ServiceMessage

/-!
Contract: how a client connection writes the data it receives from the
service to its application, as `ClientConnectionContext` does.

Owns: `ProcessConnectionDataMessageAsync`, `ClearBufferedMessages` and
`WriteToApplicationAsync` as tasks that can be suspended at every `await`, the
byte sequence the application is meant to receive, and the runs in which it
does receive it.

Does not own: the closing of the connection; `_connectionState` never leaves
the idle and writing states here. The receive loop starts one message after
the other and does not wait for their tasks.

A task is only ever suspended inside `WriteToApplicationAsync`, waiting for
`_writeLock` or holding it while a flush is pending. The suspended tasks
therefore form one line in the order in which the lock serves them, and its
head holds the lock.
-/

set_option autoImplicit false

namespace AzureSignalR.ClientConnections

open Library Library.Machine Protocol

/-- What a task does once its write to the application has completed. -/
inductive Continuation where
  /-- Inside `foreach (var owner in _bufferedMessages)`: the owner just
  written, its position, the version the enumerator started with, and the
  segments of the payload to write after the loop. -/
  | buffered (owner position version : Nat) (payload : List Bytes)
  /-- The payload has been written; the task ends. -/
  | payload
deriving DecidableEq, Repr

/-- A task inside `WriteToApplicationAsync`, with the segments it has not yet
passed to `Application.Output.WriteAsync`. -/
structure PendingWrite where
  segments : List Bytes
  continuation : Continuation
deriving DecidableEq, Repr

structure InboundState where
  /-- The memory of every owner rented so far; an owner is its index. -/
  owners : List Bytes := []
  disposed : List Nat := []
  bufferedMessages : List Nat := []
  /-- The version of the queue that its enumerators compare. -/
  version : Nat := 0
  /-- The tasks inside `WriteToApplicationAsync`; the first holds the lock. -/
  line : List PendingWrite := []
  /-- The first task has written a segment and awaits the flush. -/
  flushing : Bool := false
  /-- `Application.Output`. -/
  written : Bytes := []
  /-- `Log.FailToWriteMessageToApplication`. -/
  failures : List Exn := []
deriving DecidableEq, Repr

namespace InboundState

variable (state : InboundState)

def memory (owner : Nat) : Bytes := (state.owners[owner]?).getD []

/-- The exception handler of `ProcessConnectionDataMessageAsync`. -/
def fail (error : Exn) : InboundState := { state with failures := state.failures ++ [error] }

/-- The first task passes its next segment to `WriteAsync`. -/
def writeSegment : InboundState :=
  match state.line with
  | [] => state
  | write :: others =>
      { state with
        line := { write with segments := write.segments.tail } :: others
        flushing := true
        written := state.written ++ write.segments.headD [] }

/-- Up to the first suspension: the lock is taken at once when it is free. -/
def writeToApplication (write : PendingWrite) : InboundState :=
  if state.line = [] then
    { state with line := [write] }.writeSegment
  else { state with line := state.line ++ [write] }

/-- `_bufferedMessages.Clear()`. -/
def clearBufferedMessages : InboundState :=
  { state with
    bufferedMessages := []
    version := state.version + 1 }

/-- `MoveNext` and the body of the `foreach` up to its `await`, or the code
behind the loop. -/
def writeBuffered (position version : Nat) (payload : List Bytes) : InboundState :=
  if state.version ≠ version then
    state.fail (.invalidOperation
      "Collection was modified after the enumerator was instantiated.")
  else
    match state.bufferedMessages[position]? with
    | some owner =>
        if owner ∈ state.disposed then state.fail .objectDisposed
        else
          state.writeToApplication
            { segments := [state.memory owner]
              continuation := .buffered owner position version payload }
    | none =>
        state.clearBufferedMessages.writeToApplication
          { segments := payload
            continuation := .payload }

/-- The code behind the `await`, up to the next suspension. -/
def afterWrite : Continuation → InboundState
  | .payload => state
  | .buffered owner position version payload =>
      if owner ∈ state.disposed then state.fail .objectDisposed
      else
        { state with disposed := owner :: state.disposed }.writeBuffered (position + 1)
          version payload

/-- `ProcessConnectionDataMessageAsync` up to its first suspension. `segments`
are the segments of the payload; `net8` says which build it is, since older
ones ignore close messages. -/
def processConnectionDataMessage (net8 : Bool) (message : ConnectionDataMessage)
    (segments : List Bytes) : InboundState :=
  if net8 = false ∧ message.type = .close then state
  else if message.isPartial then
    -- `Rent` refuses a size of zero.
    if message.payload = [] then state.fail (.argumentOutOfRange "size")
    else
      { state with
        owners := state.owners ++ [message.payload]
        bufferedMessages := state.bufferedMessages ++ [state.owners.length]
        version := state.version + 1 }
  else state.writeBuffered 0 state.version segments

end InboundState

inductive InboundAction where
  /-- A data message is dispatched; its payload has these segments. -/
  | data (message : ConnectionDataMessage) (segments : List Bytes)
  /-- `OnConnectionReconnectAsync`. -/
  | reconnect (message : ConnectionReconnectMessage)
  /-- The first task goes on: it has been given the lock, or its flush has
  completed. -/
  | resume
deriving DecidableEq, Repr

/-- A payload is a sequence of one or more segments. -/
def inboundStep (net8 : Bool) (state : InboundState) : InboundAction → Option InboundState
  | .data message segments =>
      if segments ≠ [] ∧ segments.flatten = message.payload then
        some (state.processConnectionDataMessage net8 message segments)
      else none
  | .reconnect _ => some state.clearBufferedMessages
  | .resume =>
      match state.line with
      | [] => none
      | write :: others =>
          if state.flushing = true ∧ write.segments = [] then
            -- The lock is released to the next in line before the task goes on.
            some ({ state with line := others, flushing := false }.afterWrite
              write.continuation)
          else some state.writeSegment

/-! ## What the application is meant to receive -/

structure InboundSpec where
  /-- Partial payloads that no complete message has followed. -/
  partials : Bytes := []
  delivered : Bytes := []
deriving DecidableEq, Repr

def InboundSpec.receive (spec : InboundSpec) : InboundAction → InboundSpec
  | .data message _ =>
      if message.isPartial then { spec with partials := spec.partials ++ message.payload }
      else
        { partials := []
          delivered := spec.delivered ++ spec.partials ++ message.payload }
  | .reconnect _ => { spec with partials := [] }
  | .resume => spec

/-- The bytes to deliver, from the messages in the order of their arrival. -/
def expectedDelivery (actions : List InboundAction) : Bytes :=
  (actions.foldl InboundSpec.receive {}).delivered

end AzureSignalR.ClientConnections
