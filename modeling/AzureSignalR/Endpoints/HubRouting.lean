import AzureSignalR.Endpoints.HubServiceEndpoint
import AzureSignalR.Endpoints.ReloadAlgebra
import AzureSignalR.Library.Machine
import Mathlib.Logic.Function.Basic

/-!
Contract: the hubs of a service endpoint manager and what they route to, from one finished
reload to the next.

Owns: the lists of `_endpointsPerHub` with their objects, the router of each
`MultiEndpointServiceConnectionContainer`, its `OnAdd` and `OnRemove`, and the calls that stop a
connection container.

Does not own: steps of a reload that are seen from outside. A reload here has ended, with all
that its events have started. Which containers start, and in which order their endpoints come
into a router, is left to the run. Hub names that differ in case only are one hub.
-/

set_option autoImplicit false

namespace AzureSignalR.Endpoints.HubRouting

open Library

/-- What ends a connection container, which has the number its hub's generator gave it. -/
inductive ContainerCall where
  | offline (container : Nat)
  | stop (container : Nat)
  | dispose (container : Nat)
deriving DecidableEq, Repr

/-- What a hub has. -/
structure Hub (υ : Type) where
  /-- Its list of `_endpointsPerHub`. -/
  endpoints : List (HubServiceEndpoint υ)
  /-- `_routerEndpoints`, when it has a container. The objects are those of the list, and nothing
  that a router reads of one changes while it is there. -/
  routerEndpoints : Option (List (HubServiceEndpoint υ)) := none
  /-- The generator has not used this number, nor any behind it. -/
  nextContainer : Nat := 0
  calls : List ContainerCall := []
deriving DecidableEq, Repr

/-- How the containers of a reload start. -/
structure Outcome (υ : Type) where
  /-- `ConnectionInitializedTask` does not throw. -/
  starts : ServiceEndpoint υ → Bool
  /-- The order in which endpoints come into the router. -/
  order : List (HubServiceEndpoint υ) → List (HubServiceEndpoint υ)
  perm : ∀ endpoints, (order endpoints).Perm endpoints

variable {υ : Type}

/-- Every container starts, one after the other. -/
def Outcome.all : Outcome υ where
  starts _ := true
  order := id
  perm _ := .refl _

/-- What `ServiceEndpoint.Equals` compares. -/
def identityOf (endpoint : HubServiceEndpoint υ) : EndpointIdentity υ := endpoint.endpoint.identity

namespace Hub

/-- The constructor of `MultiEndpointServiceConnectionContainer`: the generator gives each
endpoint a container. -/
def construct (hub : Hub υ) : Hub υ :=
  let endpoints := hub.endpoints.mapIdx fun index endpoint =>
    { endpoint with connectionContainer := some (hub.nextContainer + index) }
  { hub with
    endpoints := endpoints
    routerEndpoints := some endpoints
    nextContainer := hub.nextContainer + hub.endpoints.length }

/-- The endpoints that a reload creates, when their containers have been generated. An instant
update has one already. -/
def generate (hub : Hub υ) (created : List (HubServiceEndpoint υ)) : List (HubServiceEndpoint υ) :=
  created.mapIdx fun index endpoint =>
    if endpoint.isScaleCompleted then endpoint
    else { endpoint with connectionContainer := some (hub.nextContainer + index) }

/-- The endpoints that come into the router. -/
def joining (outcome : Outcome υ) (generated : List (HubServiceEndpoint υ)) :
    List (HubServiceEndpoint υ) :=
  outcome.order (generated.filter fun endpoint =>
    endpoint.isScaleCompleted || outcome.starts endpoint.endpoint)

/-- `AddHubServiceEndpointAsync` for the endpoints that a reload creates. Where nothing listens
to `OnAdd`, the scale task is completed by the timeout. -/
def addEndpoints (outcome : Outcome υ) (hub : Hub υ) (created : List (HubServiceEndpoint υ)) :
    Hub υ :=
  match hub.routerEndpoints with
  | none =>
      { hub with
        endpoints := hub.endpoints ++ created.map HubServiceEndpoint.completeScale }
  | some router =>
      { hub with
        endpoints := hub.endpoints ++ (hub.generate created).map HubServiceEndpoint.completeScale
        routerEndpoints := some (router ++ joining outcome (hub.generate created))
        nextContainer := hub.nextContainer + created.length }

variable [DecidableEq υ]

/-- `RemoveHubServiceEndpointAsync` of the container, which removes an endpoint at once or
drains it. -/
def removeHubServiceEndpoint (hub : Hub υ) (endpoint : HubServiceEndpoint υ) : Hub υ :=
  match hub.routerEndpoints with
  | none => hub
  | some router =>
      let remaining := router.filter fun other => identityOf other ≠ identityOf endpoint
      if endpoint.isScaleCompleted then { hub with routerEndpoints := some remaining }
      else
        let found := router.find? fun other =>
          other.endpoint.endpoint = endpoint.endpoint.endpoint ∧
            other.endpoint.endpointType = endpoint.endpoint.endpointType
        match found.bind HubServiceEndpoint.connectionContainer with
        -- No endpoint is found, or its container is null and the exception is logged.
        | none => hub
        | some container =>
            { hub with
              routerEndpoints := some remaining
              calls := hub.calls ++ [.offline container, .stop container, .dispose container] }

/-- `UpdateAndGetRemovedHubServiceEndpoints`. -/
def removedEndpoints (hub : Hub υ) (pendingReload : List Nat) (removed : List (ServiceEndpoint υ)) :
    List (HubServiceEndpoint υ) :=
  hub.endpoints.filterMap fun endpoint =>
    (isRemoved removed endpoint).map fun remove =>
      if remove.reference ∈ pendingReload then endpoint.resetScale else endpoint

def removeEndpoints (hub : Hub υ) (pendingReload : List Nat) (removed : List (ServiceEndpoint υ)) :
    Hub υ :=
  (hub.removedEndpoints pendingReload removed).foldl removeHubServiceEndpoint
    { hub with
      endpoints := hub.endpoints.filter fun endpoint => (isRemoved removed endpoint).isNone }

def createHubServiceEndpoints (hub : Hub υ) (update : EndpointUpdate υ) :
    List (HubServiceEndpoint υ) :=
  update.added.map (createHubServiceEndpoint update.pendingReload hub.endpoints)

/-- `AddServiceEndpointsAsync` and `RemoveServiceEndpointsAsync`. -/
def reload (update : EndpointUpdate υ) (outcome : Outcome υ) (hub : Hub υ) : Hub υ :=
  (hub.addEndpoints outcome (hub.createHubServiceEndpoints update)).removeEndpoints
    update.pendingReload update.removed

end Hub

structure State (η υ : Type) where
  endpoints : Entries υ
  /-- The endpoints that have `PendingReload` set. -/
  pendingReload : List Nat := []
  hubs : η → Option (Hub υ) := fun _ => none

inductive Action (η υ : Type) where
  /-- `GetEndpoints`, of a negotiation for one. -/
  | getEndpoints (hub : η)
  /-- A hub gets its container. -/
  | register (hub : η)
  /-- The options have changed to these objects. -/
  | reload (serviceEndpoints : List Nat) (outcome : η → Outcome υ)

/-- The containers that a hub routes to. -/
def Hub.routed (hub : Hub υ) : List (Option Nat) :=
  (hub.routerEndpoints.getD []).map HubServiceEndpoint.connectionContainer

variable {η : Type}

namespace State

def routed (state : State η υ) (hub : η) : List (Option Nat) :=
  ((state.hubs hub).map Hub.routed).getD []

def calls (state : State η υ) (hub : η) : List ContainerCall :=
  ((state.hubs hub).map Hub.calls).getD []

variable [DecidableEq υ]

/-- The list that `GetEndpoints` returns, in what the hub has. -/
def getEndpoints (state : State η υ) (hub : η) : Hub υ :=
  (state.hubs hub).getD
    { endpoints := state.endpoints.keys.map (createHubServiceEndpoint state.pendingReload []) }

def reload (state : State η υ) (serviceEndpoints : List (ServiceEndpoint υ))
    (outcome : η → Outcome υ) : State η υ :=
  match reloadEndpoints state.endpoints state.pendingReload serviceEndpoints with
  | (_, .error _) => state
  | (endpoints, .ok update) =>
      { endpoints := endpoints
        pendingReload := update.pendingReload
        hubs := fun hub => (state.hubs hub).map (Hub.reload update (outcome hub)) }

end State

/-- Configured objects. What is compared of an object is set in its constructor. -/
def configured (objects : Nat → EndpointIdentity υ) (references : List Nat) :
    List (ServiceEndpoint υ) :=
  references.map fun reference => { objects reference with reference }

variable [DecidableEq η] [DecidableEq υ] (objects : Nat → EndpointIdentity υ)

def step (state : State η υ) : Action η υ → Option (State η υ)
  | .getEndpoints hub =>
      some { state with hubs := Function.update state.hubs hub (some (state.getEndpoints hub)) }
  | .register hub =>
      match (state.getEndpoints hub).routerEndpoints with
      | some _ => none
      | none =>
          some { state with
            hubs := Function.update state.hubs hub (some (state.getEndpoints hub).construct) }
  | .reload serviceEndpoints outcome =>
      some (state.reload (configured objects serviceEndpoints) outcome)

/-- A manager with no hub, and the endpoints that its constructor selects. -/
def initial (serviceEndpoints : List Nat) : State η υ where
  endpoints := (selection (configured objects serviceEndpoints)).entries

/-- In the new configuration every endpoint keeps `Endpoint`, `EndpointType` and
`ServerEndpoint`. -/
def Renames (current updated : Entries υ) : Prop :=
  ∀ weakIdentity, weakIdentity ∈ updated.keys.map ServiceEndpoint.weakIdentity ↔
    weakIdentity ∈ current.keys.map ServiceEndpoint.weakIdentity

/-- However a reload ends, it has stopped no container, and every hub routes to the containers
that it has routed to before. -/
def NeverDrops (state : State η υ) (serviceEndpoints : List Nat) : Prop :=
  ∀ outcome next, step objects state (.reload serviceEndpoints outcome) = some next →
    ∀ hub, next.calls hub = state.calls hub ∧ (next.routed hub).Perm (state.routed hub)

/-- A hub can take a new endpoint for the one that it replaces: no earlier reload has marked the
object, and what the hub has in its place has a completed scale task and is in the router. -/
structure Exchangeable (pendingReload : List Nat) (hub : Hub υ)
    (router : List (HubServiceEndpoint υ)) (new : ServiceEndpoint υ) : Prop where
  unmarked : new.reference ∉ pendingReload
  existing : ∃ old ∈ hub.endpoints, old.endpoint.weakIdentity = new.weakIdentity ∧
    old.isScaleCompleted = true ∧ identityOf old ∈ router.map identityOf

/-- Every hub that has a container can take every endpoint that is renamed. -/
def CanRename (state : State η υ) (updated : Entries υ) : Prop :=
  ∀ name hub router, state.hubs name = some hub → hub.routerEndpoints = some router →
    ∀ new ∈ updated.keys, new.identity ∉ state.endpoints.keys.map ServiceEndpoint.identity →
      Exchangeable state.pendingReload hub router new

end AzureSignalR.Endpoints.HubRouting
