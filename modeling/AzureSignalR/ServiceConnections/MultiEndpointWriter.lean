import AzureSignalR.Common.BinaryMessage
import AzureSignalR.Library.Machine
import AzureSignalR.Protocol.ServiceMessage

/-!
Contract: an ackable message that is routed to several endpoints.

Owns: `WriteAckableMessageAsync` of `MultiEndpointMessageWriter`, as the calls on
the endpoints and the task of the caller that interleave at every `await`, the
message objects they share, and what the caller is told.

Does not own: the containers. A call on an endpoint takes an ack id, sends its
message and finishes at some time with a value or an exception.
-/

set_option autoImplicit false

namespace AzureSignalR.Protocol.ServiceMessage

/-! ## Ackable messages -/

/-- The classes that implement `IAckableMessage`. -/
def isAckable : ServiceMessage → Bool
  | .userJoinGroupWithAck _ | .userLeaveGroupWithAck _ | .joinGroupWithAck _
  | .leaveGroupWithAck _ | .groupMemberQuery _ | .closeConnectionWithAck _
  | .closeConnectionsWithAck _ | .closeUserConnectionsWithAck _
  | .closeGroupConnectionsWithAck _ | .checkUserInGroupWithAck _
  | .checkGroupExistenceWithAck _ | .checkConnectionExistenceWithAck _
  | .checkUserExistenceWithAck _ => true
  | _ => false

/-- The setter of `AckId`; other classes have none. -/
def setAckId (ackId : Int32) : ServiceMessage → ServiceMessage
  | .userJoinGroupWithAck message => .userJoinGroupWithAck { message with ackId := ackId }
  | .userLeaveGroupWithAck message => .userLeaveGroupWithAck { message with ackId := ackId }
  | .joinGroupWithAck message => .joinGroupWithAck { message with ackId := ackId }
  | .leaveGroupWithAck message => .leaveGroupWithAck { message with ackId := ackId }
  | .groupMemberQuery message => .groupMemberQuery { message with ackId := ackId }
  | .closeConnectionWithAck message => .closeConnectionWithAck { message with ackId := ackId }
  | .closeConnectionsWithAck message => .closeConnectionsWithAck { message with ackId := ackId }
  | .closeUserConnectionsWithAck message =>
      .closeUserConnectionsWithAck { message with ackId := ackId }
  | .closeGroupConnectionsWithAck message =>
      .closeGroupConnectionsWithAck { message with ackId := ackId }
  | .checkUserInGroupWithAck message => .checkUserInGroupWithAck { message with ackId := ackId }
  | .checkGroupExistenceWithAck message =>
      .checkGroupExistenceWithAck { message with ackId := ackId }
  | .checkConnectionExistenceWithAck message =>
      .checkConnectionExistenceWithAck { message with ackId := ackId }
  | .checkUserExistenceWithAck message =>
      .checkUserExistenceWithAck { message with ackId := ackId }
  | message => message

/-- The getter of `AckId`. -/
def ackId? : ServiceMessage → Option Int32
  | .userJoinGroupWithAck message => some message.ackId
  | .userLeaveGroupWithAck message => some message.ackId
  | .joinGroupWithAck message => some message.ackId
  | .leaveGroupWithAck message => some message.ackId
  | .groupMemberQuery message => some message.ackId
  | .closeConnectionWithAck message => some message.ackId
  | .closeConnectionsWithAck message => some message.ackId
  | .closeUserConnectionsWithAck message => some message.ackId
  | .closeGroupConnectionsWithAck message => some message.ackId
  | .checkUserInGroupWithAck message => some message.ackId
  | .checkGroupExistenceWithAck message => some message.ackId
  | .checkConnectionExistenceWithAck message => some message.ackId
  | .checkUserExistenceWithAck message => some message.ackId
  | _ => none

theorem ackId?_setAckId {message : ServiceMessage} (ackable : message.isAckable = true)
    (ackId : Int32) : (message.setAckId ackId).ackId? = some ackId := by
  cases message <;> first | rfl | cases ackable

/-- The messages for which one endpoint has the answer. -/
def isSingleResult : ServiceMessage → Bool
  | .checkConnectionExistenceWithAck _ | .joinGroupWithAck _ | .leaveGroupWithAck _ => true
  | _ => false

end AzureSignalR.Protocol.ServiceMessage

namespace AzureSignalR.ServiceConnections

open Library Library.Machine Protocol

/-! ## Calls -/

/-- What a call on an endpoint throws. -/
inductive WriteExn where
  /-- `ServiceConnectionNotActiveException`. -/
  | notActive
  /-- `FailedWritingMessageToServiceException`. -/
  | failedWriting (serverEndpoint : String)
  /-- `OperationCanceledException`; a task that ends with it is cancelled. -/
  | canceled
  | other (error : Exn)
deriving DecidableEq, Repr

/-- What the task of several calls throws. -/
inductive AggregateExn where
  | inner (error : WriteExn)
  | aggregate (errors : List WriteExn)
deriving DecidableEq, Repr

/-- Where `WriteSingleEndpointMessageAsync` of an endpoint is. -/
inductive CallStage where
  | unstarted
  /-- In `WriteAckableMessageAsync` of the container. -/
  | writing
  /-- That call has finished. -/
  | finished (outcome : Except WriteExn Bool)
  /-- The result is in the bag, or in the source when it is `true`. -/
  | recorded (value : Bool)
  | ended (outcome : Except WriteExn Bool)
deriving DecidableEq, Repr

/-- One target endpoint. -/
structure EndpointCall where
  serverEndpoint : String
  /-- The object `Clone` has made. -/
  clone : Option Nat := none
  /-- The object given to `WriteMessageAsync`. -/
  sent : Option Nat := none
  /-- The id of its ack and the number of that id among all that were created. -/
  ack : Option (Nat × Int32) := none
  stage : CallStage := .unstarted
deriving DecidableEq, Repr

namespace EndpointCall

/-- What the call on the endpoint has returned or thrown. -/
def outcome (call : EndpointCall) : Option (Except WriteExn Bool) :=
  match call.stage with
  | .unstarted | .writing => none
  | .finished outcome | .ended outcome => some outcome
  | .recorded value => some (.ok value)

/-- The result that is in the bag or in the source. -/
def noted (call : EndpointCall) : Option Bool :=
  match call.stage with
  | .unstarted | .writing | .finished _ | .ended (.error _) => none
  | .recorded value | .ended (.ok value) => some value

def isEnded (call : EndpointCall) : Bool :=
  match call.stage with
  | .ended _ => true
  | .unstarted | .writing | .finished _ | .recorded _ => false

/-- What the task of the endpoint throws. -/
def error (call : EndpointCall) : Option WriteExn :=
  match call.stage with
  | .ended (.error .notActive) => some (.failedWriting call.serverEndpoint)
  | .ended (.error error) => some error
  | .unstarted | .writing | .finished _ | .recorded _ | .ended (.ok _) => none

theorem outcome_of_noted {call : EndpointCall} {value : Bool} (noted : call.noted = some value) :
    call.outcome = some (.ok value) := by
  rw [EndpointCall.noted] at noted
  rw [outcome]
  cases stage : call.stage with
  | recorded other =>
      rw [stage] at noted
      cases noted
      rfl
  | ended result =>
      rw [stage] at noted
      cases result with
      | error => cases noted
      | ok other =>
          cases noted
          rfl
  | _ =>
      rw [stage] at noted
      cases noted

theorem outcome_of_isEnded {call : EndpointCall} (ended : call.isEnded = true) :
    call.outcome ≠ none := by
  rw [isEnded] at ended
  rw [outcome]
  cases stage : call.stage with
  | ended result => nofun
  | _ =>
      rw [stage] at ended
      cases ended

/-- A result that is not noted is that of a call that has just finished. -/
theorem finished_of_outcome {call : EndpointCall} {value : Bool}
    (returned : call.outcome = some (.ok value)) (unseen : ¬ call.noted = some value) :
    call.stage = .finished (.ok value) := by
  rw [outcome] at returned
  rw [noted] at unseen
  cases stage : call.stage with
  | finished result =>
      rw [stage] at returned
      cases returned
      rfl
  | recorded other =>
      rw [stage] at returned unseen
      cases returned
      exact absurd rfl unseen
  | ended result =>
      rw [stage] at returned unseen
      cases returned
      exact absurd rfl unseen
  | _ =>
      rw [stage] at returned
      cases returned

end EndpointCall

/-- What `WriteMultiEndpointMessageAsync` throws when every call has ended: the
exception of the only endpoint, or an aggregate of those of the faulted tasks. -/
def whenAll (calls : List EndpointCall) : Option AggregateExn :=
  match calls with
  | [call] => call.error.map .inner
  | calls =>
      match calls.filterMap EndpointCall.error with
      | [] => none
      | errors =>
          match errors.filter fun error => error ≠ .canceled with
          | [] => some (.inner .canceled)
          | faulted => some (.aggregate faulted)

/-! ## The caller -/

/-- Where `WriteAckableMessageAsync` is. -/
inductive WriterStage where
  /-- Starting the calls. -/
  | starting
  /-- In `Task.WhenAny`, or waiting for all calls. -/
  | waiting
  /-- Before `tcs.TrySetResult(false)`. -/
  | setting
  /-- Before `tcs.Task.Result`. -/
  | reading
  /-- In `await writeMessageTask`. -/
  | awaiting
  | returned (result : Except AggregateExn Bool)
deriving DecidableEq, Repr

structure MultiEndpointWrite where
  /-- The message objects; the one of the caller is the first. -/
  objects : List ServiceMessage
  /-- The counter of the ack ids. -/
  nextId : Int32
  /-- How many ids have been created. -/
  created : Nat := 0
  calls : List EndpointCall
  /-- How many calls have been started. -/
  started : Nat := 0
  bag : List Bool := []
  tcs : Option Bool := none
  /-- The result of `WriteMultiEndpointMessageAsync`. -/
  writeMessageTask : Option (Option AggregateExn) := none
  stage : WriterStage := .starting
deriving DecidableEq, Repr

namespace MultiEndpointWrite

variable (single : Bool) (state : MultiEndpointWrite)

/-- `CreateSingleAck` of some caller. -/
def createAck : MultiEndpointWrite :=
  { state with nextId := state.nextId + 1, created := state.created + 1 }

/-- The next call: `Clone`, and `WriteAckableMessageAsync` of the container up to
`WriteMessageAsync`. `CreateSingleAck` may throw. -/
def start (failure : Option WriteExn) : Option MultiEndpointWrite :=
  match state.calls[state.started]?, state.objects[0]? with
  | some call, some source =>
      let clone := state.objects.length
      let acked := state.createAck
      match failure with
      | none =>
          some
            { acked with
              objects := (state.objects ++ [source]).set clone (source.setAckId acked.nextId)
              calls := state.calls.set state.started
                { call with
                  clone := some clone
                  sent := some clone
                  ack := some (acked.created, acked.nextId)
                  stage := .writing }
              started := state.started + 1 }
      | some error =>
          some
            { acked with
              objects := state.objects ++ [source]
              calls := state.calls.set state.started
                { call with clone := some clone, stage := .finished (.error error) }
              started := state.started + 1 }
  | _, _ => none

def setStage (index : Nat) (call : EndpointCall) (stage : CallStage) : MultiEndpointWrite :=
  { state with calls := state.calls.set index { call with stage := stage } }

/-- The call on an endpoint finishes. -/
def finish (index : Nat) (call : EndpointCall) (outcome : Except WriteExn Bool) :
    Option MultiEndpointWrite :=
  match call.stage with
  | .writing => some (state.setStage index call (.finished outcome))
  | .unstarted | .finished _ | .recorded _ | .ended _ => none

/-- What the lambda does with a result. -/
def note (value : Bool) : MultiEndpointWrite :=
  if single then
    if value then { state with tcs := state.tcs.or (some true) } else state
  else { state with bag := state.bag ++ [value] }

/-- The task of an endpoint goes on. -/
def resume (index : Nat) (call : EndpointCall) : Option MultiEndpointWrite :=
  match call.stage with
  | .finished (.error error) => some (state.setStage index call (.ended (.error error)))
  | .finished (.ok value) => some ((state.note single value).setStage index call (.recorded value))
  | .recorded value => some (state.setStage index call (.ended (.ok value)))
  | .unstarted | .writing | .ended _ => none

/-- `WriteMultiEndpointMessageAsync` completes. -/
def completeWrite : Option MultiEndpointWrite :=
  if state.stage ≠ .starting ∧ state.writeMessageTask = none ∧
      ∀ call ∈ state.calls, call.isEnded = true then
    some { state with writeMessageTask := some (whenAll state.calls) }
  else none

/-- `await writeMessageTask`, and what is returned when it does not throw. -/
def awaitWrite (value : Bool) : Option MultiEndpointWrite :=
  match state.writeMessageTask with
  | none => none
  | some none => some { state with stage := .returned (.ok value) }
  | some (some error) => some { state with stage := .returned (.error error) }

/-- The task of the caller goes on. -/
def advance : Option MultiEndpointWrite :=
  match state.stage with
  | .starting =>
      if state.started = state.calls.length then some { state with stage := .waiting } else none
  | .waiting =>
      if single then
        if state.tcs.isSome ∨ state.writeMessageTask.isSome then
          some { state with stage := .setting }
        else none
      else state.awaitWrite (state.bag.any id)
  | .setting => some { state with tcs := state.tcs.or (some false), stage := .reading }
  | .reading =>
      match state.tcs with
      | none => none
      | some true => some { state with stage := .returned (.ok true) }
      | some false => some { state with stage := .awaiting }
  | .awaiting => state.awaitWrite false
  | .returned _ => none

end MultiEndpointWrite

inductive MultiEndpointAction where
  /-- Another caller creates an ack. -/
  | createAck
  | start (failure : Option WriteExn)
  | finish (endpoint : Nat) (outcome : Except WriteExn Bool)
  | resume (endpoint : Nat)
  | completeWrite
  | advance
deriving DecidableEq, Repr

def multiEndpointStep (single : Bool) (state : MultiEndpointWrite) :
    MultiEndpointAction → Option MultiEndpointWrite
  | .createAck => some state.createAck
  | .start failure => state.start failure
  | .finish index outcome =>
      match state.calls[index]? with
      | none => none
      | some call => state.finish index call outcome
  | .resume index =>
      match state.calls[index]? with
      | none => none
      | some call => state.resume single index call
  | .completeWrite => state.completeWrite
  | .advance => state.advance single

/-- `WriteAckableMessageAsync` of the writer is called. -/
def writeAckableMessage (message : ServiceMessage) (nextId : Int32)
    (serverEndpoints : List String) : MultiEndpointWrite where
  objects := [message]
  nextId := nextId
  calls := serverEndpoints.map fun serverEndpoint => { serverEndpoint := serverEndpoint }

end AzureSignalR.ServiceConnections
