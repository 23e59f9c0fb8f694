import AzureSignalR.Library.Machine
import AzureSignalR.Library.WhiteSpace
import AzureSignalR.Protocol.MessagePackUtils
import Mathlib.Logic.Function.Basic

/-!
Contract: which clients the service connections of one server know, and under which ids.

Owns: `OnClientConnectedAsync`, `ProcessClientConnectionAsync`, `OnClientDisconnectedAsync`,
`CleanupClientConnections` and `ResumeClientConnectionAsync` as far as they read and change the
client connection manager, the connection-id tables and `ServiceConnection` of the clients.

Does not own: what the application and the transport of a client do, or the dispatch of
messages. The handlers of all service connections may be anywhere in between each other. An
entry of a table holds the client whose `InstanceId` it has; making the client and resolving
its protocol is code outside, which may throw.
-/

set_option autoImplicit false

namespace AzureSignalR.ServiceConnections.ClientBookkeeping

open Library Protocol

/-! ## Headers -/

namespace Constants

def asrsInstanceId : String := "Asrs-Instance-Id"
def asrsIsDiagnosticClient : String := "Asrs-Is-Diagnostic-Client"

end Constants

def trimWhiteSpaceAndNull (text : String) : String :=
  let isTrimmed := fun character => WhiteSpace.isWhiteSpace character || character.toNat == 0
  String.ofList (WhiteSpace.trimBy isTrimmed text.toList)

section Headers

variable (toUpperInvariant : Char → Char)

def tryGetValue (headers : Headers) (name : String) : Option StringValues :=
  (headers.find? fun header => ordinalIgnoreCase toUpperInvariant header.1 name).map Prod.snd

/-- `Convert.ToBoolean(string, IFormatProvider)`. -/
def toBoolean : Option String → Except Exn Bool
  | none => .ok false
  | some text =>
      let value := trimWhiteSpaceAndNull text
      if ordinalIgnoreCase toUpperInvariant value "True" then .ok true
      else if ordinalIgnoreCase toUpperInvariant value "False" then .ok false
      else .error (.format ("String '" ++ text ++ "' was not recognized as a valid Boolean."))

/-- `StringValues.IsNullOrEmpty`. -/
def isNullOrEmpty : StringValues → Bool
  | [] => true
  | [value] => value.getD "" == ""
  | _ => false

/-- The conversion of `StringValues` to a string. -/
def joined : StringValues → Option String
  | [] => none
  | [value] => value
  | values => some (String.intercalate "," ((values.map (·.getD "")).filter (· ≠ "")))

def getInstanceId (headers : Headers) : Option String :=
  match tryGetValue toUpperInvariant headers Constants.asrsInstanceId with
  | some instanceId => joined instanceId
  | none => some ""

/-- Whether the client is a diagnostic one, as its headers say. -/
def isDiagnosticClient (headers : Headers) : Except Exn Bool :=
  let values := (tryGetValue toUpperInvariant headers Constants.asrsIsDiagnosticClient).getD []
  if isNullOrEmpty values then .ok false else toBoolean toUpperInvariant values.head?.join

end Headers

/-- What the handlers call and is not theirs. -/
structure Services where
  toUpperInvariant : Char → Char
  /-- `CreateConnection`, with what is set on the client before it is added. -/
  createConnection : OpenConnectionMessage → Except Exn Unit
  /-- `_hubProtocolResolver.GetProtocol`. -/
  getProtocol : Option String → Except Exn Unit

/-- What `OnClientConnectedAsync` checks behind `TryAddClientConnection`. -/
def Services.checks (services : Services) (message : OpenConnectionMessage) : Except Exn Unit := do
  let _ ← isDiagnosticClient services.toUpperInvariant (message.headers.getD [])
  if message.protocol = some "blazorpack" then pure ()
  else services.getProtocol message.protocol

/-! ## Clients and handlers -/

/-- How far a client has got, from the handler that opens it to the end of its processing task;
with the service connection that has opened it. -/
inductive Stage (σ : Type) where
  | unopened
  /-- Its handler has thrown before it was added. -/
  | refused
  /-- In `TryAddClientConnection`, in front of the manager. -/
  | registering (opener : σ)
  /-- In front of the table. -/
  | listing (opener : σ)
  | checking (opener : σ)
  /-- Its handler has thrown behind `TryAddClientConnection`. -/
  | thrown (opener : σ)
  /-- In `ProcessClientConnectionAsync`, up to `Task.WhenAny`. -/
  | running (opener : σ)
  /-- In `TryRemoveClientConnection`, in front of the table. -/
  | unlisting (opener : σ)
  /-- In front of the manager. -/
  | unregistering (opener : σ)
  /-- The other task has not ended. -/
  | waiting (opener : σ)
  /-- In front of the close message. -/
  | closing (opener : σ)
  | completed
deriving DecidableEq, Repr

/-- How far a Resume message for a client has got. -/
inductive Resume (σ γ : Type) where
  | idle
  /-- The manager has given the client. -/
  | comparing (service : σ) (client : γ)
  /-- In `TryRemoveClientConnection` of the old owner, in front of its table. -/
  | unlisting (service : σ) (client : γ) (owner : σ)
  | unregistering (service : σ) (client : γ)
  /-- In `TryAddClientConnection`, in front of the manager. -/
  | registering (service : σ) (client : γ)
  | listing (service : σ) (client : γ) (added : Bool)
  | assigning (service : σ) (client : γ)
  | returned
deriving DecidableEq, Repr

/-- A close message that a processing task has written. -/
structure CloseMessage (σ γ : Type) where
  client : γ
  /-- The service connection it is written through. -/
  through : σ
  /-- `ServiceConnection` of the client by then. -/
  owner : Option σ
deriving DecidableEq, Repr

structure State (σ γ ρ : Type) where
  /-- `_clientConnections` of the client connection manager. -/
  manager : String → Option γ := fun _ => none
  /-- `_connectionIds` of each service connection. -/
  tables : σ → String → Option γ := fun _ _ => none
  /-- `ServiceConnection` of each client. -/
  owners : γ → Option σ := fun _ => none
  abortOnClose : γ → Bool := fun _ => true
  clients : γ → Stage σ := fun _ => .unopened
  resumes : ρ → Resume σ γ := fun _ => .idle
  /-- The ids that clean-ups have still to remove. -/
  cleanups : List String := []
  /-- The clients in front of `AbortOnClose = false` in `PerformDisconnectAsync`. -/
  disconnects : List γ := []
  closeMessages : List (CloseMessage σ γ) := []

inductive Action (σ γ ρ : Type) where
  /-- An open-connection message. -/
  | openConnection (service : σ) (client : γ)
  /-- The next step of the handler or of the processing task of a client. -/
  | proceed (client : γ)
  /-- The first of the two tasks of a client ends. -/
  | ends (client : γ)
  | endsBoth (client : γ)
  /-- A close-connection message. -/
  | closeConnection (connectionId : String)
  /-- A clean-up comes to an entry of the table. -/
  | visit (service : σ) (fromInstanceId : Option String) (connectionId : String)
  | cleanup (connectionId : String)
  | disconnect (client : γ)
  /-- A Resume message. -/
  | receive (resume : ρ) (service : σ) (connectionId : String)
  | resume (resume : ρ)
deriving DecidableEq, Repr

variable {σ γ ρ : Type} [DecidableEq σ] [DecidableEq γ] [DecidableEq ρ]

namespace State

def setManager (state : State σ γ ρ) (connectionId : String) (client? : Option γ) : State σ γ ρ :=
  { state with manager := Function.update state.manager connectionId client? }

def setTable (state : State σ γ ρ) (service : σ) (connectionId : String) (client? : Option γ) :
    State σ γ ρ :=
  { state with
    tables := Function.update state.tables service
      (Function.update (state.tables service) connectionId client?) }

/-- `_clientConnections.TryAdd`. -/
def tryRegister (state : State σ γ ρ) (connectionId : String) (client : γ) : State σ γ ρ :=
  if state.manager connectionId = none then state.setManager connectionId (some client) else state

/-- `_connectionIds.TryAdd`. -/
def tryList (state : State σ γ ρ) (service : σ) (connectionId : String) (client : γ) :
    State σ γ ρ :=
  if state.tables service connectionId = none then
    state.setTable service connectionId (some client)
  else state

def goTo (state : State σ γ ρ) (client : γ) (stage : Stage σ) : State σ γ ρ :=
  { state with clients := Function.update state.clients client stage }

def moveTo (state : State σ γ ρ) (index : ρ) (resume : Resume σ γ) : State σ γ ρ :=
  { state with resumes := Function.update state.resumes index resume }

def assign (state : State σ γ ρ) (client : γ) (service : σ) : State σ γ ρ :=
  { state with owners := Function.update state.owners client (some service) }

/-- `_clientConnections.TryRemove` of a close or a clean-up, which then disconnects the client. -/
def drop (state : State σ γ ρ) (connectionId : String) : State σ γ ρ :=
  match state.manager connectionId with
  | none => state
  | some client =>
      { state.setManager connectionId none with disconnects := client :: state.disconnects }

end State

section Steps

variable (services : Services) (messages : γ → OpenConnectionMessage)

/-- `ConnectionId` of a client. -/
def ids (client : γ) : String := (messages client).connectionId

/-- The next step of the handler or of the processing task of a client. -/
def proceed (state : State σ γ ρ) (client : γ) : Option (State σ γ ρ) :=
  let connectionId := ids messages client
  match state.clients client with
  | .unopened | .refused | .thrown _ | .running _ | .waiting _ | .completed => none
  | .registering opener =>
      some ((state.tryRegister connectionId client).goTo client (.listing opener))
  | .listing opener =>
      some ((state.tryList opener connectionId client).goTo client (.checking opener))
  | .checking opener =>
      match services.checks (messages client) with
      | .error _ => some (state.goTo client (.thrown opener))
      | .ok _ => some (state.goTo client (.running opener))
  | .unlisting opener =>
      some ((state.setTable opener connectionId none).goTo client (.unregistering opener))
  | .unregistering opener =>
      some ((state.setManager connectionId none).goTo client (.waiting opener))
  | .closing opener =>
      let closed := state.goTo client .completed
      if state.abortOnClose client then
        some { closed with
          closeMessages := state.closeMessages ++ [⟨client, opener, state.owners client⟩] }
      else some closed

/-- The next step of a Resume message. -/
def resume (state : State σ γ ρ) (index : ρ) : Option (State σ γ ρ) :=
  match state.resumes index with
  | .idle | .returned => none
  | .comparing service client =>
      match state.owners client with
      | none => some (state.moveTo index (.registering service client))
      | some owner =>
          if owner = service then some (state.moveTo index .returned)
          else some (state.moveTo index (.unlisting service client owner))
  | .unlisting service client owner =>
      some ((state.setTable owner (ids messages client) none).moveTo index
        (.unregistering service client))
  | .unregistering service client =>
      some ((state.setManager (ids messages client) none).moveTo index
        (.registering service client))
  | .registering service client =>
      let added := state.manager (ids messages client) = none
      some ((state.tryRegister (ids messages client) client).moveTo index
        (.listing service client added))
  | .listing service client added =>
      let listed := state.tryList service (ids messages client) client
      if added then some (listed.moveTo index (.assigning service client))
      else some (listed.moveTo index .returned)
  | .assigning service client => some ((state.assign client service).moveTo index .returned)

def step (state : State σ γ ρ) : Action σ γ ρ → Option (State σ γ ρ)
  | .openConnection service client =>
      if state.clients client = .unopened then
        match services.createConnection (messages client) with
        | .error _ => some (state.goTo client .refused)
        | .ok _ => some ((state.assign client service).goTo client (.registering service))
      else none
  | .proceed client => proceed services messages state client
  | .ends client =>
      match state.clients client with
      | .running opener => some (state.goTo client (.unlisting opener))
      | _ => none
  | .endsBoth client =>
      match state.clients client with
      | .waiting opener => some (state.goTo client (.closing opener))
      | _ => none
  | .closeConnection connectionId => some (state.drop connectionId)
  | .visit service fromInstanceId connectionId =>
      match state.tables service connectionId with
      | none => none
      | some client =>
          let instanceId :=
            getInstanceId services.toUpperInvariant ((messages client).headers.getD [])
          if fromInstanceId.getD "" ≠ "" ∧ instanceId ≠ fromInstanceId then none
          else some { state with cleanups := connectionId :: state.cleanups }
  | .cleanup connectionId =>
      if connectionId ∈ state.cleanups then
        some ({ state with cleanups := state.cleanups.erase connectionId }.drop connectionId)
      else none
  | .disconnect client =>
      if client ∈ state.disconnects then
        some { state with
          disconnects := state.disconnects.erase client
          abortOnClose := Function.update state.abortOnClose client false }
      else none
  | .receive index service connectionId =>
      if state.resumes index = .idle then
        match state.manager connectionId with
        | none => some (state.moveTo index .returned)
        | some client => some (state.moveTo index (.comparing service client))
      else none
  | .resume index => resume messages state index

end Steps

end AzureSignalR.ServiceConnections.ClientBookkeeping
