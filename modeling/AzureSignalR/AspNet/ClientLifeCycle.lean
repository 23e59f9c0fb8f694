import AzureSignalR.Library.Machine
import Mathlib.Data.Fintype.Basic
import Mathlib.Logic.Function.Basic

/-!
Contract: the clients of one ASP.NET service connection, from their open message to
`OnDisconnected` of their transport.

Owns: the handlers of `ServiceConnection` for open, data and close messages, its clean-ups,
`ProcessMessageAsync` of each client and `PerformDisconnectCore`, interleaved at every access to
the manager, the table, a channel, a cancellation token or a transport.

Does not own: the messages that are written to the service, or an open message whose headers make
its handler throw before it has changed anything. `CreateConnection` is code outside, which may
take its time and may throw. The channel is unbounded and is completed without an error, so
nothing that is read from it throws but a cancellation.
-/

set_option autoImplicit false

namespace AzureSignalR.AspNet

/-! ## Clients -/

/-- A message of the service; `γ` are the open messages and the contexts that are made of them. -/
inductive Message (γ : Type) where
  | openConnection (client : γ)
  | closeConnection (connectionId : String)
  | connectionData (connectionId payload : String)
deriving DecidableEq, Repr

/-- What a transport is told. -/
inductive Event where
  | received (value : String)
  | reconnected
  | disconnected
deriving DecidableEq, Repr

/-- How far a call of `PerformDisconnectCore` has got, up to its `await`. -/
inductive Disconnect (γ : Type) where
  /-- In front of `TryRemoveClientConnection` of the manager. -/
  | manager (connectionId : String)
  /-- In front of `TryRemove` of the table. -/
  | table (connectionId : String)
  /-- In `WaitForApplicationTask`, in front of `TryComplete`. -/
  | complete (client : γ)
  | check (client : γ)
  | cancel (client : γ)
  /-- In front of `Task.WhenAny`. -/
  | wait (client : γ)
  /-- In front of `Transport?.OnDisconnected`. -/
  | transport (client : γ)
deriving DecidableEq, Repr

/-- How far `ProcessMessageAsync` of a client has got. -/
inductive ApplicationTask (γ : Type) where
  | notStarted
  /-- At `WaitToReadAsync`. -/
  | waiting
  /-- In front of `TryRead`. -/
  | reading
  /-- In front of `ThrowIfCancellationRequested`. -/
  | checking (message : Message γ)
  /-- In `CreateConnection`. -/
  | creating (client : γ)
  /-- In front of `OnReceived`. -/
  | passing (payload : String)
  /-- In `PerformDisconnectCore`, of a close message or not. -/
  | disconnecting (disconnect : Disconnect γ) (closes : Bool)
  | ended
deriving DecidableEq, Repr

/-- How far a `PerformDisconnectCore` that has come to its `await` has got. -/
inductive Waiter where
  | idle
  | waiting
  /-- The wait has timed out. -/
  | cancelling
  /-- In front of `Transport?.OnDisconnected`. -/
  | disconnecting
  | returned
deriving DecidableEq, Repr

/-- `ClientConnectionContext`. The first of the transports is `Transport`. -/
structure Client (γ : Type) where
  channel : List (Message γ) := []
  completed : Bool := false
  cancelled : Bool := false
  transports : List (List Event) := []
  task : ApplicationTask γ := .notStarted
  waiter : Waiter := .idle
  /-- All messages that have been written to the channel. -/
  arrived : List (Message γ) := []
  /-- All messages that have been read from it. -/
  taken : List (Message γ) := []
  /-- Whether a `PerformDisconnectCore` has passed `Transport?.OnDisconnected`. -/
  left : Bool := false
deriving DecidableEq, Repr

variable {γ : Type}

/-- `Transport?`. -/
def tell (event : Event) : List (List Event) → List (List Event)
  | [] => []
  | events :: others => (events ++ [event]) :: others

def reconnectMessage : String := "asrs:reconnect"

def eventOf (payload : String) : Event :=
  if payload = reconnectMessage then .reconnected else .received payload

namespace Client

variable (client : Client γ)

def cancelPendingRead : Client γ := { client with cancelled := true }

def onDisconnected : Client γ :=
  { client with transports := tell .disconnected client.transports, left := true }

def write (message : Message γ) : Client γ :=
  { client with
    channel := client.channel ++ [message]
    arrived := client.arrived ++ [message] }

end Client

/-! ## The service connection -/

/-- A clean-up, with the clients that it has not yet come to. -/
structure Cleaning (γ : Type) where
  instanceId : String
  /-- Whether it is the one behind the receive loop. -/
  last : Bool
  rest : List γ
deriving DecidableEq, Repr

/-- How far the receive loop has got with a message. -/
inductive Receiver (γ : Type) where
  | idle
  /-- In front of `TryAddClientConnection` of the manager. -/
  | adding (client : γ)
  /-- In front of `TryAdd` of the table. -/
  | listing (client : γ)
  /-- In front of `ProcessMessageAsync`. -/
  | starting (client : γ)
  /-- In front of `TryGetValue`. -/
  | forwarding (message : Message γ)
  /-- In front of `Output.WriteAsync`. -/
  | writing (client : γ) (message : Message γ)
  | disconnecting (disconnect : Disconnect γ) (closeGracefully : Bool)
      (cleaning : Option (Cleaning γ))
  | cleaning (cleaning : Cleaning γ)
  | ended
deriving DecidableEq, Repr

structure State (γ : Type) where
  /-- `_clientConnections` of the client connection manager. -/
  manager : String → Option γ := fun _ => none
  /-- `_clientConnections`. -/
  table : String → Option γ := fun _ => none
  clients : γ → Client γ := fun _ => {}
  /-- The contexts that have been made. -/
  contexts : List γ := []
  receiver : Receiver γ := .idle

/-- How an `await` of an application task comes back. -/
inductive Outcome where
  | completes
  | cancelled
  | fails
deriving DecidableEq, Repr

inductive Action (γ : Type) where
  | openConnection (client : γ)
  | connectionData (connectionId payload : String)
  | closeConnection (connectionId : String)
  /-- A ping that says an instance is offline. -/
  | offline (instanceId : String)
  /-- The receive loop ends, and the last clean-up begins. -/
  | shutdown
  /-- The next step of the receive loop. -/
  | proceed
  /-- A clean-up comes to a client. -/
  | visit (client : γ)
  /-- The next step of an application task. -/
  | task (client : γ) (outcome : Outcome)
  /-- The next step of a `PerformDisconnectCore` behind its `await`. -/
  | waiter (client : γ) (timesOut : Bool)
deriving DecidableEq, Repr

variable [DecidableEq γ]

namespace State

variable (state : State γ)

def change (client : γ) (update : Client γ → Client γ) : State γ :=
  { state with clients := Function.update state.clients client (update (state.clients client)) }

def setManager (connectionId : String) (client : Option γ) : State γ :=
  { state with manager := Function.update state.manager connectionId client }

def setTable (connectionId : String) (client : Option γ) : State γ :=
  { state with table := Function.update state.table connectionId client }

def goTo (receiver : Receiver γ) : State γ := { state with receiver := receiver }

/-- An application task goes on. -/
def run (client : γ) (task : ApplicationTask γ) : State γ :=
  state.change client fun context => { context with task := task }

end State

/-- The next step of `PerformDisconnectCore`; `none` returns to its caller. -/
def perform (state : State γ) (waitForApplicationTask closeGracefully : Bool) :
    Disconnect γ → State γ × Option (Disconnect γ)
  | .manager connectionId =>
      match state.manager connectionId with
      | none => (state, none)
      | some _ => (state.setManager connectionId none, some (.table connectionId))
  | .table connectionId =>
      match state.table connectionId with
      | none => (state, none)
      | some client =>
          (state.setTable connectionId none,
            some (if waitForApplicationTask then .complete client else .transport client))
  | .complete client =>
      (state.change client fun context => { context with completed := true }, some (.check client))
  | .check client =>
      match (state.clients client).task with
      -- `ApplicationTask` is null
      | .notStarted => (state, none)
      | .ended => (state, some (.transport client))
      | _ => (state, some (if closeGracefully then .wait client else .cancel client))
  | .cancel client => (state.change client Client.cancelPendingRead, some (.wait client))
  | .wait client => (state.change client fun context => { context with waiter := .waiting }, none)
  | .transport client => (state.change client Client.onDisconnected, none)

section Steps

variable (ids instances : γ → String)

def Message.connectionId : Message γ → String
  | .openConnection client => ids client
  | .closeConnection connectionId | .connectionData connectionId _ => connectionId

/-- What a clean-up goes over. -/
def State.cleanup (state : State γ) (instanceId : String) (last : Bool) : State γ :=
  let rest := state.contexts.filter fun client => state.table (ids client) = some client
  state.goTo (.cleaning { instanceId, last, rest })

/-- The receive loop behind a `PerformDisconnectCore` that it has called. -/
def Receiver.returnTo : Option (Cleaning γ) → Receiver γ
  | none => .idle
  | some rest => .cleaning rest

/-- The next step of the receive loop. -/
def proceed (state : State γ) : Option (State γ) :=
  match state.receiver with
  | .idle | .ended => none
  | .adding client =>
      match state.manager (ids client) with
      | some _ => some (state.goTo .idle)
      | none => some ((state.setManager (ids client) (some client)).goTo (.listing client))
  | .listing client =>
      match state.table (ids client) with
      | some _ => some (state.goTo (.starting client))
      | none => some ((state.setTable (ids client) (some client)).goTo (.starting client))
  | .starting client =>
      some ((state.run client .waiting).goTo (.forwarding (.openConnection client)))
  | .forwarding message =>
      match state.table (message.connectionId ids) with
      | none => some (state.goTo .idle)
      | some client => some (state.goTo (.writing client message))
  | .writing client message =>
      if (state.clients client).completed then
        some (state.goTo (.disconnecting (.manager (message.connectionId ids)) true none))
      else some ((state.change client fun context => context.write message).goTo .idle)
  | .disconnecting disconnect closeGracefully cleaning =>
      match perform state true closeGracefully disconnect with
      | (next, none) => some (next.goTo (.returnTo cleaning))
      | (next, some disconnect) =>
          some (next.goTo (.disconnecting disconnect closeGracefully cleaning))
  | .cleaning cleaning =>
      if cleaning.rest = [] then some (state.goTo (if cleaning.last then .ended else .idle))
      else none

/-- A clean-up comes to a client: `Where`, then `PerformDisconnectCore`. -/
def visit (state : State γ) (client : γ) : Option (State γ) :=
  match state.receiver with
  | .cleaning cleaning =>
      if client ∈ cleaning.rest then
        let cleaning := { cleaning with rest := cleaning.rest.erase client }
        if cleaning.instanceId = "" ∨ instances client = cleaning.instanceId then
          some (state.goTo (.disconnecting (.manager (ids client)) false (some cleaning)))
        else some (state.goTo (.cleaning cleaning))
      else none
  | _ => none

/-- The next step of `ProcessMessageAsync`. -/
def task (state : State γ) (client : γ) (outcome : Outcome) : Option (State γ) :=
  let context := state.clients client
  match context.task with
  | .notStarted | .ended => none
  | .waiting =>
      match outcome with
      | .completes =>
          if context.channel ≠ [] then some (state.run client .reading)
          else if context.completed then some (state.run client .ended)
          else none
      | .cancelled => if context.cancelled then some (state.run client .ended) else none
      | .fails => none
  | .reading =>
      match context.channel with
      | [] => some (state.run client .waiting)
      | message :: channel =>
          some (state.change client fun context => { context with
            channel := channel, taken := context.taken ++ [message], task := .checking message })
  | .checking message =>
      if context.cancelled then some (state.run client .ended)
      else match message with
        | .openConnection opened => some (state.run client (.creating opened))
        | .closeConnection connectionId =>
            some (state.run client (.disconnecting (.manager connectionId) true))
        | .connectionData _ payload => some (state.run client (.passing payload))
  | .creating opened =>
      match outcome with
      | .completes =>
          some (state.change client fun context => { context with
            transports := [] :: context.transports, task := .reading })
      | .fails => some (state.run client (.disconnecting (.manager (ids opened)) false))
      | .cancelled => none
  | .passing payload =>
      some (state.change client fun context => { context with
        transports := tell (eventOf payload) context.transports, task := .reading })
  | .disconnecting disconnect closes =>
      match perform state false true disconnect with
      | (next, none) => some (next.run client (if closes then .ended else .reading))
      | (next, some disconnect) => some (next.run client (.disconnecting disconnect closes))

/-- The next step of a `PerformDisconnectCore` behind its `await`. -/
def waiter (state : State γ) (client : γ) (timesOut : Bool) : Option (State γ) :=
  let goOn (waiter : Waiter) := some (state.change client fun context => { context with
    waiter := waiter })
  match (state.clients client).waiter with
  | .idle | .returned => none
  | .waiting =>
      if (state.clients client).task = .ended then goOn .disconnecting
      else if timesOut then goOn .cancelling
      else none
  | .cancelling =>
      some (state.change client fun context => { context.cancelPendingRead with
        waiter := .disconnecting })
  | .disconnecting =>
      some (state.change client fun context => { context.onDisconnected with waiter := .returned })

def step (state : State γ) : Action γ → Option (State γ)
  | .openConnection client =>
      if state.receiver = .idle ∧ client ∉ state.contexts then
        some { state.goTo (.adding client) with contexts := state.contexts ++ [client] }
      else none
  | .connectionData connectionId payload =>
      if state.receiver = .idle then
        some (state.goTo (.forwarding (.connectionData connectionId payload)))
      else none
  | .closeConnection connectionId =>
      if state.receiver = .idle then
        some (state.goTo (.forwarding (.closeConnection connectionId)))
      else none
  | .offline instanceId =>
      if state.receiver = .idle then some (state.cleanup ids instanceId false) else none
  | .shutdown => if state.receiver = .idle then some (state.cleanup ids "" true) else none
  | .proceed => proceed ids state
  | .visit client => visit ids instances state client
  | .task client outcome => task ids state client outcome
  | .waiter client timesOut => waiter state client timesOut

end Steps

/-! ## When it goes as it should -/

def Message.isControl : Message γ → Bool
  | .connectionData _ _ => false
  | _ => true

namespace Client

variable (client : Client γ)

/-- An open or close message in the channel is still going to be handled. -/
def hasControl : Bool := !client.cancelled && client.channel.any Message.isControl

/-- Its application task may still remove its id from the manager. -/
def isArmed : Bool :=
  match client.task with
  | .creating _ | .disconnecting (.manager _) _ => true
  | .checking message => !client.cancelled && (message.isControl || client.hasControl)
  | .disconnecting _ closes => !closes && client.hasControl
  | .ended => false
  | .notStarted | .waiting | .reading | .passing _ => client.hasControl

def isPassing : Bool :=
  match client.task with
  | .passing _ => true
  | _ => false

def isCreating : Bool :=
  match client.task with
  | .creating _ => true
  | _ => false

end Client

section Condition

variable (ids : γ → String)

/-- An id is added to the manager only when no earlier client of that id is in the table or may
still remove the id from the manager; `OnDisconnected` behind a wait comes only when no message
is between its check and `OnReceived`; and no connection is created for a client whose
disconnect has passed `OnDisconnected`. -/
def Undisturbed (state : State γ) : Action γ → Prop
  | .proceed =>
      ∀ client, state.receiver = .adding client → state.manager (ids client) = none →
        state.table (ids client) = none ∧
          ∀ other, other ≠ client → ids other = ids client → (state.clients other).isArmed = false
  | .waiter client _ =>
      (state.clients client).waiter = .disconnecting → (state.clients client).isPassing = false
  | .task client .completes =>
      (state.clients client).isCreating = true → (state.clients client).left = false
  | _ => True

instance [Fintype γ] (state : State γ) : (action : Action γ) →
    Decidable (Undisturbed ids state action)
  | .proceed =>
      inferInstanceAs (Decidable (∀ client, state.receiver = .adding client →
        state.manager (ids client) = none → state.table (ids client) = none ∧
          ∀ other, other ≠ client → ids other = ids client →
            (state.clients other).isArmed = false))
  | .waiter client _ =>
      inferInstanceAs (Decidable ((state.clients client).waiter = .disconnecting →
        (state.clients client).isPassing = false))
  | .task client .completes =>
      inferInstanceAs (Decidable ((state.clients client).isCreating = true →
        (state.clients client).left = false))
  | .task _ .cancelled | .task _ .fails | .openConnection _ | .connectionData _ _ |
      .closeConnection _ | .offline _ | .shutdown | .visit _ => isTrue trivial

end Condition

end AzureSignalR.AspNet
