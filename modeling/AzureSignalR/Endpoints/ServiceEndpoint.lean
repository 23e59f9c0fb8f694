import AzureSignalR.Library.Enumerable

/-!
Contract: configured endpoints and what a reload makes of them.

Owns: service endpoints as objects, their equality and the weaker one of the manager,
`GetValuableEndpoints` and `UpdateEndpoints`.

Does not own: addresses. A `Uri` is any type with a decidable equality, which is the
one of `==`.
-/

set_option autoImplicit false

namespace AzureSignalR.Endpoints

open Library.Enumerable

inductive EndpointType where
  | primary
  | secondary
deriving DecidableEq, Repr

/-- What `ServiceEndpoint.Equals` compares. -/
structure EndpointIdentity (υ : Type) where
  name : String
  endpoint : String
  endpointType : EndpointType
  clientEndpoint : υ
  serverEndpoint : υ
deriving DecidableEq, Repr

/-- A `ServiceEndpoint` object. -/
structure ServiceEndpoint (υ : Type) extends EndpointIdentity υ where
  /-- Which object it is. -/
  reference : Nat
deriving DecidableEq, Repr

variable {υ : Type}

namespace ServiceEndpoint

def identity (endpoint : ServiceEndpoint υ) : EndpointIdentity υ := endpoint.toEndpointIdentity

/-- What `ServiceEndpointWeakComparer` compares. -/
def weakIdentity (endpoint : ServiceEndpoint υ) : String × EndpointType × υ :=
  (endpoint.endpoint, endpoint.endpointType, endpoint.serverEndpoint)

end ServiceEndpoint

open ServiceEndpoint

/-- The entries of a `Dictionary<ServiceEndpoint, ServiceEndpoint>`. -/
abbrev Entries (υ : Type) : Type := List (ServiceEndpoint υ × ServiceEndpoint υ)

def Entries.keys (entries : Entries υ) : List (ServiceEndpoint υ) := entries.map Prod.fst

/-- What the equality of a `KeyValuePair` compares. -/
def pairIdentity (entry : ServiceEndpoint υ × ServiceEndpoint υ) :
    EndpointIdentity υ × EndpointIdentity υ :=
  (entry.1.identity, entry.2.identity)

inductive EndpointError where
  /-- `AzureSignalRConfigurationNoEndpointException`. -/
  | noEndpoint
  /-- `AzureSignalRNoPrimaryEndpointException`. -/
  | noPrimaryEndpoint
  /-- `ArgumentException`, from a dictionary that has the key. -/
  | argument
  /-- `InvalidOperationException`, from `First`. -/
  | invalidOperation
deriving DecidableEq, Repr

variable [DecidableEq υ]

/-- The primary endpoint, otherwise the first one. -/
def mostValuable (items : Grouping (ServiceEndpoint υ)) : ServiceEndpoint υ :=
  if items.1.length = 1 then items.1.head items.2
  else (items.1.find? fun item => item.endpointType = .primary).getD (items.1.head items.2)

/-- One endpoint for each address. -/
def selectEndpoints (endpoints : List (ServiceEndpoint υ)) : List (ServiceEndpoint υ) :=
  (groupBy (fun item => item.endpoint) (distinctBy identity endpoints)).map mostValuable

def getValuableEndpoints (endpoints : List (ServiceEndpoint υ)) :
    Except EndpointError (Entries υ) :=
  match toDictionary weakIdentity ((selectEndpoints endpoints).map fun item => (item, item)) with
  | none => .error .argument
  | some groupedEndpoints =>
      if groupedEndpoints.length = 0 then .error .noEndpoint
      else if ∀ entry ∈ groupedEndpoints, entry.1.endpointType ≠ .primary then
        .error .noPrimaryEndpoint
      else .ok groupedEndpoints

/-- What `UpdateEndpoints` leaves: the map, the lists it puts out and the objects that
have `PendingReload` set. -/
structure EndpointUpdate (υ : Type) where
  endpoints : Entries υ
  added : List (ServiceEndpoint υ) := []
  removed : List (ServiceEndpoint υ) := []
  pendingReload : List Nat := []
deriving DecidableEq, Repr

/-- The endpoints that can be changed at once. -/
def commonEndpoints (current updated : Entries υ) : List (ServiceEndpoint υ) :=
  exceptBy identity (intersectBy weakIdentity updated.keys current.keys) current.keys

/-- One of the endpoints that can be changed at once replaces the one with its address. -/
def replaceEndpoint (current : Entries υ) (update : EndpointUpdate υ)
    (endpoint : ServiceEndpoint υ) : Except EndpointError (EndpointUpdate υ) :=
  match current.keys.find? fun key => key.endpoint = endpoint.endpoint with
  | none => .error .invalidOperation
  | some exist =>
      match addEntry identity update.endpoints (endpoint, endpoint) with
      | none => .error .argument
      | some endpoints =>
          .ok {
            endpoints := endpoints
            added := update.added ++ [endpoint]
            removed := update.removed ++ [exist]
            pendingReload := update.pendingReload.filter fun other => other ≠ exist.reference }

def replaceEndpoints (current : Entries υ) (update : EndpointUpdate υ) :
    List (ServiceEndpoint υ) → Except EndpointError (EndpointUpdate υ)
  | [] => .ok update
  | endpoint :: endpoints =>
      match replaceEndpoint current update endpoint with
      | .error error => .error error
      | .ok next => replaceEndpoints current next endpoints

def updateEndpoints (current updated : Entries υ) (pendingReload : List Nat) :
    Except EndpointError (EndpointUpdate υ) :=
  match toDictionary identity (intersectBy pairIdentity current updated) with
  | none => .error .argument
  | some endpoints =>
      -- Endpoints that require staging.
      let removed := exceptBy weakIdentity current.keys updated.keys
      let added := exceptBy weakIdentity updated.keys current.keys
      match addEntries identity endpoints (added.map fun item => (item, item)) with
      | none => .error .argument
      | some endpoints =>
          replaceEndpoints current
            { endpoints := endpoints
              added := added
              removed := removed
              pendingReload := pendingReload ++ removed.map reference ++ added.map reference }
            (commonEndpoints current updated)

/-- `GetValuableEndpoints` and `UpdateEndpoints` of a reload: the endpoints of the manager
behind it, and the lists or the exception. -/
def reloadEndpoints (current : Entries υ) (pendingReload : List Nat)
    (configuration : List (ServiceEndpoint υ)) :
    Entries υ × Except EndpointError (EndpointUpdate υ) :=
  match getValuableEndpoints configuration with
  | .error error => (current, .error error)
  | .ok updated =>
      match updateEndpoints current updated pendingReload with
      | .error error => (current, .error error)
      | .ok update => (update.endpoints, .ok update)

end AzureSignalR.Endpoints
