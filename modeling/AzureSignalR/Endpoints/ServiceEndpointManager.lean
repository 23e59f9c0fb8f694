import AzureSignalR.Endpoints.ServiceEndpoint
import AzureSignalR.Library.Changes
import AzureSignalR.Library.Machine
import Mathlib.Logic.Function.Basic

/-!
Contract: the service endpoint manager under reloads that overlap.

Owns: `Endpoints` and the lists of `_endpointsPerHub`, `GetEndpoints` with the race of
`GetOrAdd`, and `ReloadServiceEndpointsAsync` with its add and its remove, of which every
`foreach`, every read and every `TryUpdate` is a step of its own.

Does not own: connection containers. How long an add or a remove waits for them, and
whether it runs into the timeout, is left to the run. A list has of its endpoints what
`ServiceEndpoint.Equals` compares.
-/

set_option autoImplicit false

namespace AzureSignalR.Endpoints.ServiceEndpointManager

open Library Library.Changes

/-- A list of `_endpointsPerHub`. -/
structure HubList (υ : Type) extends Replica (EndpointIdentity υ) where
  /-- Which object it is: how many lists the hub has had before. -/
  reference : Nat := 0
  /-- History: how many reloads had changed `Endpoints` when the first list was made of it. -/
  since : Nat

/-- The list that takes the place of another. -/
def HubList.next {υ : Type} (list : HubList υ) (endpoints : Replica (EndpointIdentity υ)) :
    HubList υ :=
  { toReplica := endpoints, reference := list.reference + 1, since := list.since }

/-- A call of `GetEndpoints`. -/
inductive Call (η υ : Type) where
  | returned
  /-- The factory has gone over `Endpoints`, which `since` reloads had changed. -/
  | made (hub : η) (since : Nat) (endpoints : List (EndpointIdentity υ))

/-- `AddServiceEndpointsAsync`. A `foreach` over `_endpointsPerHub` comes to each hub that has
been there at its begin, and to any that are new. -/
inductive AddStage (η : Type) where
  | updated
  /-- In `CreateHubServiceEndpoints`. -/
  | creating (due visited : List η)
  /-- Waiting for the endpoints that are created, or for the timeout. -/
  | waiting (created : List η)
  /-- In `AddEndpointsToNegotiationStore`. -/
  | storing (created due visited : List η)
  /-- There, before `TryUpdate`. -/
  | updating (created due visited : List η) (hub : η) (oldEndpoints : Nat)
  | done
deriving DecidableEq, Repr

/-- `ReloadServiceEndpointsAsync` behind the call of `AddServiceEndpointsAsync`. -/
inductive RemoveStage (η : Type) where
  | adding
  /-- In `UpdateAndGetRemovedHubServiceEndpoints`. -/
  | removing (due visited : List η)
  /-- There, before `TryUpdate`. -/
  | updating (due visited : List η) (hub : η) (oldEndpoints : Nat)
  /-- Waiting for the endpoints that are removed, or for the timeout. -/
  | waiting
  | returned
deriving DecidableEq, Repr

structure Reload (η υ : Type) extends Change (EndpointIdentity υ) where
  add : AddStage η
  remove : RemoveStage η := .adding
deriving DecidableEq, Repr

structure State (η ι υ : Type) where
  endpoints : Entries υ
  pendingReload : List Nat := []
  hubs : List η := []
  lists : η → HubList υ := fun _ => { items := [], version := fun _ => 0, since := 0 }
  calls : ι → Call η υ := fun _ => .returned
  /-- The reloads that have changed `Endpoints`, in their order. -/
  reloads : List (Reload η υ) := []

inductive Action (η ι υ : Type) where
  | getEndpoints (call : ι) (hub : η)
  /-- `TryAdd` of `GetOrAdd`. -/
  | tryAdd (call : ι)
  | reload (serviceEndpoints : List (ServiceEndpoint υ))
  /-- The add of a reload comes to a hub in a `foreach`, or goes on. -/
  | add (number : Nat) (hub : Option η)
  | remove (number : Nat) (hub : Option η)

variable {η ι υ : Type}

/-- What `ServiceEndpoint.Equals` compares of the endpoints. -/
def identities (endpoints : Entries υ) : List (EndpointIdentity υ) :=
  endpoints.keys.map ServiceEndpoint.identity

namespace State

def setReload (state : State η ι υ) (number : Nat) (reload : Reload η υ) : State η ι υ :=
  { state with reloads := state.reloads.set number reload }

/-- The changes of `Endpoints`. -/
def changes (state : State η ι υ) : List (Change (EndpointIdentity υ)) :=
  state.reloads.map fun reload => reload.toChange

variable [DecidableEq η] [DecidableEq υ]

/-- What `GetEndpoints` returns when nothing interferes. -/
def getEndpoints (state : State η ι υ) (hub : η) : List (EndpointIdentity υ) :=
  if hub ∈ state.hubs then (state.lists hub).items else identities state.endpoints

/-- `TryUpdate` of the list of a hub, whose result is ignored. -/
def tryUpdate (state : State η ι υ) (hub : η) (oldEndpoints : Nat)
    (change : Replica (EndpointIdentity υ) → Replica (EndpointIdentity υ)) : State η ι υ :=
  if (state.lists hub).reference = oldEndpoints then
    { state with
      lists := Function.update state.lists hub
        ((state.lists hub).next (change (state.lists hub).toReplica)) }
  else state

end State

/-- `CreateHubServiceEndpoints` is behind the add, which then has returned to its caller. -/
def AddStage.isCreated : AddStage η → Bool
  | .updated | .creating _ _ => false
  | .waiting _ | .storing _ _ _ | .updating _ _ _ _ _ | .done => true

variable [DecidableEq η] [DecidableEq ι] [DecidableEq υ]

def startReload (state : State η ι υ) (serviceEndpoints : List (ServiceEndpoint υ)) :
    State η ι υ :=
  match reloadEndpoints state.endpoints state.pendingReload serviceEndpoints with
  | (_, .error _) => state
  | (endpoints, .ok update) =>
      { state with
        endpoints := endpoints
        pendingReload := update.pendingReload
        reloads := state.reloads ++
          [{ added := update.added.map ServiceEndpoint.identity
             removed := update.removed.map ServiceEndpoint.identity
             add := if update.added = [] then .done else .updated }] }

def resumeAdd (state : State η ι υ) (number : Nat) (reload : Reload η υ) (next : Option η) :
    Option (State η ι υ) :=
  let goTo (state : State η ι υ) (stage : AddStage η) :=
    state.setReload number { reload with add := stage }
  match reload.add, next with
  | .updated, none => some (goTo state (.creating state.hubs []))
  | .creating due visited, some hub =>
      if hub ∈ state.hubs ∧ hub ∉ visited then
        some (goTo state (.creating due (hub :: visited)))
      else none
  | .creating due visited, none =>
      if ∀ hub ∈ due, hub ∈ visited then some (goTo state (.waiting visited)) else none
  | .waiting created, none => some (goTo state (.storing created state.hubs []))
  | .storing created due visited, some hub =>
      if hub ∈ state.hubs ∧ hub ∉ visited then
        if hub ∈ created then
          some (goTo state
            (.updating created due (hub :: visited) hub (state.lists hub).reference))
        else some (goTo state (.storing created due (hub :: visited)))
      else none
  | .updating created due visited hub oldEndpoints, none =>
      some (goTo
        (state.tryUpdate hub oldEndpoints fun endpoints => endpoints.add number reload.added)
        (.storing created due visited))
  | .storing _ due visited, none =>
      if ∀ hub ∈ due, hub ∈ visited then some (goTo state .done) else none
  | _, _ => none

def resumeRemove (state : State η ι υ) (number : Nat) (reload : Reload η υ) (next : Option η) :
    Option (State η ι υ) :=
  let goTo (state : State η ι υ) (stage : RemoveStage η) :=
    state.setReload number { reload with remove := stage }
  match reload.remove, next with
  | .adding, none =>
      if reload.add.isCreated then
        some (goTo state (if reload.removed = [] then .returned else .removing state.hubs []))
      else none
  | .removing due visited, some hub =>
      if hub ∈ state.hubs ∧ hub ∉ visited then
        some (goTo state (.updating due (hub :: visited) hub (state.lists hub).reference))
      else none
  | .updating due visited hub oldEndpoints, none =>
      some (goTo
        (state.tryUpdate hub oldEndpoints fun endpoints => endpoints.remove number reload.removed)
        (.removing due visited))
  | .removing due visited, none =>
      if ∀ hub ∈ due, hub ∈ visited then some (goTo state .waiting) else none
  | .waiting, none => some (goTo state .returned)
  | _, _ => none

def step (state : State η ι υ) : Action η ι υ → Option (State η ι υ)
  | .getEndpoints call hub =>
      match state.calls call with
      | .made _ _ _ => none
      | .returned =>
          if hub ∈ state.hubs then some state
          else
            some { state with
              calls := Function.update state.calls call
                (.made hub state.reloads.length (identities state.endpoints)) }
  | .tryAdd call =>
      match state.calls call with
      | .returned => none
      | .made hub since endpoints =>
          let returned := { state with calls := Function.update state.calls call .returned }
          if hub ∈ state.hubs then some returned
          else
            some { returned with
              hubs := state.hubs ++ [hub]
              lists := Function.update state.lists hub
                { items := endpoints
                  version := fun _ => since
                  since := since } }
  | .reload serviceEndpoints => some (startReload state serviceEndpoints)
  | .add number next =>
      match state.reloads[number]? with
      | none => none
      | some reload => resumeAdd state number reload next
  | .remove number next =>
      match state.reloads[number]? with
      | none => none
      | some reload => resumeRemove state number reload next

/-- A manager with no hub. -/
def initial (endpoints : Entries υ) : State η ι υ := { endpoints := endpoints }

/-! ## Finished reloads -/

namespace Reload

/-- Both the add and the remove have ended. -/
def Finished (reload : Reload η υ) : Prop := reload.add = .done ∧ reload.remove = .returned

instance (reload : Reload η υ) : Decidable reload.Finished := inferInstanceAs (Decidable (_ ∧ _))

end Reload

/-- `GetEndpoints` of every hub returns the endpoints of the manager, none of them twice. -/
def Converged (state : State η ι υ) : Prop :=
  ∀ hub, (state.getEndpoints hub).Nodup ∧
    ∀ identity, identity ∈ state.getEndpoints hub ↔ identity ∈ identities state.endpoints

end AzureSignalR.Endpoints.ServiceEndpointManager
