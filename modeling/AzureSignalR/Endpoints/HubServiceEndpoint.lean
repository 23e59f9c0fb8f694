import AzureSignalR.Endpoints.ServiceEndpoint

/-!
Contract: the copies of the configured endpoints that a hub has, as objects.

Owns: `HubServiceEndpoint` with its scale task, how the manager creates one, and how it finds
those to remove.

Does not own: who has the objects. A list of a hub has their places among all that there are.
-/

set_option autoImplicit false

namespace AzureSignalR.Endpoints

/-- A `HubServiceEndpoint` object. -/
structure HubServiceEndpoint (υ : Type) where
  endpoint : ServiceEndpoint υ
  online : Bool := true
  connectionContainer : Option Nat := none
  /-- `_scaleTcs`: null, or whether it is completed. -/
  scaleTcs : Option Bool := none
deriving DecidableEq, Repr

namespace HubServiceEndpoint

variable {υ : Type}

/-- `ScaleTask.IsCompleted`. -/
def isScaleCompleted (endpoint : HubServiceEndpoint υ) : Bool := endpoint.scaleTcs.getD true

def completeScale (endpoint : HubServiceEndpoint υ) : HubServiceEndpoint υ :=
  { endpoint with scaleTcs := endpoint.scaleTcs.map fun _ => true }

def resetScale (endpoint : HubServiceEndpoint υ) : HubServiceEndpoint υ :=
  { endpoint with scaleTcs := some false }

end HubServiceEndpoint

variable {υ : Type} [DecidableEq υ]

/-- `CreateHubServiceEndpoint`: where the hub has an endpoint that can be changed at once, its
container is copied. -/
def createHubServiceEndpoint (pendingReload : List Nat) (hubEndpoints : List (HubServiceEndpoint υ))
    (endpoint : ServiceEndpoint υ) : HubServiceEndpoint υ where
  endpoint := endpoint
  connectionContainer :=
    (hubEndpoints.find? fun other =>
      other.endpoint.weakIdentity = endpoint.weakIdentity).bind
        HubServiceEndpoint.connectionContainer
  scaleTcs := if endpoint.reference ∈ pendingReload then some false else none

/-- The endpoints of a hub that `UpdateAndGetRemovedHubServiceEndpoints` removes. -/
def isRemoved (removed : List (ServiceEndpoint υ)) (endpoint : HubServiceEndpoint υ) :
    Option (ServiceEndpoint υ) :=
  removed.find? fun other => other.identity = endpoint.endpoint.identity

end AzureSignalR.Endpoints
