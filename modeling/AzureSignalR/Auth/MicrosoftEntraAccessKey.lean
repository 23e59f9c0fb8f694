import AzureSignalR.Library.Machine
import AzureSignalR.Protocol.ServiceMessage

/-!
Contract: the access key of a Microsoft Entra application, and what asks for it, refreshes it
and pushes it.

Owns: `MicrosoftEntraAccessKey` with its refresh loops and the task sources they complete, the
requests for tokens, and `OnAccessKeyMessageAsync`.

Does not own: the credential, the HTTP client and the clock. An attempt ends when and how it
likes, and the times of the events do not decrease.

One event is one step here: a request up to its `await`, the end of an attempt, a pushed key,
the end of a wait. `Auth.KeyPairing` takes the update of a key apart.
-/

set_option autoImplicit false

namespace AzureSignalR.Auth

open Library Protocol

/-! ## The key -/

/-- A minute in the ticks of `DateTime`. -/
def minute : Nat := 600000000

def getAccessKeyInterval : Nat := 55 * minute

def getAccessKeyIntervalUnavailable : Nat := 5 * minute

def accessKeyExpireTime : Nat := 120 * minute

def getAccessKeyMaxRetryTimes : Nat := 3

/-- The exceptions of an attempt, as `GetExceptionMessage` tells them apart. -/
inductive RefreshException where
  | unauthorized
  | other (message : String)
deriving DecidableEq, Repr

/-- The key; `DateTime.MinValue` is tick 0. -/
structure MicrosoftEntraAccessKey where
  /-- The type of `TokenCredential`. -/
  credentialName : String := "TokenCredential"
  isAuthorized : Bool := false
  updateAt : Nat := 0
  kid : Option String := none
  keyBytes : Option Bytes := none
  lastException : Option RefreshException := none
deriving DecidableEq, Repr

/-- What `GenerateAccessTokenAsync` ends with. The token is signed with the bytes and names the
key id; the audience and the claims are the request's own. -/
inductive Answer where
  | token (keyBytes : Bytes) (kid : String)
  | notAuthorized (message : String) (inner : Option RefreshException)
  | argumentNull (parameter : String)
deriving DecidableEq, Repr

def errorMessageMicrosoftEntra : String :=
  "please check if you set the AzureAuthorityHosts properly in your TokenCredentialOptions, " ++
    "see \"https://learn.microsoft.com/en-us/dotnet/api/azure.identity.azureauthorityhosts\"."

def getExceptionMessage (exception : Option RefreshException) (initialized : Bool) : String :=
  match exception with
  | some .unauthorized => errorMessageMicrosoftEntra
  | some (.other message) => message
  | none =>
      if initialized then "The access key has expired."
      else "The access key has not been initialized."

namespace MicrosoftEntraAccessKey

def available (key : MicrosoftEntraAccessKey) (now : Nat) : Bool :=
  key.isAuthorized && decide (now - key.updateAt < accessKeyExpireTime)

def needRefresh (key : MicrosoftEntraAccessKey) (now : Nat) : Bool :=
  decide ((if key.available now then getAccessKeyInterval else getAccessKeyIntervalUnavailable) <
    now - key.updateAt)

/-- The setter of `Available`. -/
def setAvailable (key : MicrosoftEntraAccessKey) (value : Bool) (now : Nat) :
    MicrosoftEntraAccessKey :=
  { key with
    lastException := if value then none else key.lastException
    updateAt := now
    isAuthorized := value }

/-- `UpdateAccessKey` without its task source. -/
def update (key : MicrosoftEntraAccessKey) (kid : Option String) (keyStr : String) (now : Nat) :
    MicrosoftEntraAccessKey :=
  { key with
    keyBytes := some keyStr.toByteArray.data.toList
    kid := kid }.setAvailable true now

/-- The last statement of `GenerateAccessTokenAsync`. -/
def answer (key : MicrosoftEntraAccessKey) (now : Nat) : Answer :=
  if key.available now then
    match key.keyBytes, key.kid with
    | none, _ => .argumentNull "KeyBytes"
    | some _, none => .argumentNull "Kid"
    | some keyBytes, some kid => .token keyBytes kid
  else
    let message := getExceptionMessage key.lastException key.keyBytes.isSome
    .notAuthorized
      (key.credentialName ++ " is not available for signing client tokens, " ++ message)
      key.lastException

end MicrosoftEntraAccessKey

/-! ## Refresh loops and requests -/

inductive LoopStage where
  /-- The `i`-th attempt runs. -/
  | attempting (i : Nat)
  /-- The `i`-th attempt has failed, and `Task.Delay` runs. -/
  | delaying (i : Nat)
  | ended
deriving DecidableEq, Repr

/-- `UpdateAccessKeyInternalAsync(tcs)`, with the result of its task source. -/
structure RefreshLoop where
  startedAt : Nat
  stage : LoopStage := .attempting 0
  result : Option Bool := none
deriving DecidableEq, Repr

def RefreshLoop.trySetResult (loop : RefreshLoop) (result : Bool) : RefreshLoop :=
  { loop with result := some (loop.result.getD result) }

def RefreshLoop.finish (loop : RefreshLoop) (result : Bool) : RefreshLoop :=
  { loop.trySetResult result with stage := .ended }

inductive Request where
  /-- It awaits the task source of the loop. -/
  | waiting (loop : Nat)
  | answered (time : Nat) (answer : Answer)
deriving DecidableEq, Repr

/-- The content of a response with status 200. -/
inductive Content where
  | invalid (message : String)
  | null
  | accessKeyResponse (keyId accessKey : Option String)
deriving DecidableEq, Repr

/-- How an attempt ends. -/
inductive Outcome where
  | response (content : Content)
  /-- Another status of success, whose content nobody reads. -/
  | success
  | canceled (message : String)
  | throws (exception : RefreshException)
deriving DecidableEq, Repr

/-- `HandleHttpResponseAsync`: the key id and the key. -/
def handleHttpResponse : Content → Except RefreshException (String × String)
  | .invalid message => .error (.other message)
  | .null => .error (.other "Access key response is not expected.")
  | .accessKeyResponse keyId accessKey =>
      if keyId.getD "" = "" then .error (.other "Missing required <KeyId> field.")
      else if accessKey.getD "" = "" then .error (.other "Missing required <AccessKey> field.")
      else .ok (keyId.getD "", accessKey.getD "")

/-- `_updateTaskSource` is the source of the last loop; before the first it is a completed one.
`received` and `failures` are the times at which keys have come, and at which loops have ended
with an unavailable key. -/
structure State where
  now : Nat
  key : MicrosoftEntraAccessKey := {}
  loops : List RefreshLoop := []
  requests : List Request := []
  received : List Nat := []
  failures : List Nat := []
deriving DecidableEq, Repr

inductive Action where
  | request
  | attempt (loop : Nat) (outcome : Outcome)
  | delay (loop : Nat)
  | push (keyMessage : AccessKeyResponseMessage)
  | resume (request : Nat) (canceled : Bool)
deriving DecidableEq, Repr

namespace State

/-- `UpdateAccessKey`. -/
def updateAccessKey (state : State) (kid : Option String) (keyStr : String) : State :=
  { state with
    key := state.key.update kid keyStr state.now
    loops := state.loops.modify (state.loops.length - 1) (·.trySetResult true)
    received := state.received ++ [state.now] }

def endLoop (state : State) (loop : Nat) (result : Bool) : State :=
  { state with loops := state.loops.modify loop (·.finish result) }

/-- All attempts have failed. -/
def giveUp (state : State) (loop : Nat) : State :=
  if state.key.available state.now then state.endLoop loop false
  else
    { state with
      key := state.key.setAvailable false state.now
      failures := state.failures ++ [state.now] }.endLoop loop false

def goTo (state : State) (loop : Nat) (stage : LoopStage) : State :=
  { state with loops := state.loops.modify loop ({ · with stage := stage }) }

/-- Behind the `i`-th attempt. -/
def nextAttempt (state : State) (loop i : Nat) : State :=
  if i + 1 < getAccessKeyMaxRetryTimes then state.goTo loop (.attempting (i + 1))
  else state.giveUp loop

def catchException (state : State) (exception : RefreshException) : State :=
  { state with key := { state.key with lastException := some exception } }

/-- The `i`-th attempt ends. -/
def endAttempt (state : State) (loop i : Nat) : Outcome → State
  | .response content =>
      match handleHttpResponse content with
      | .ok (kid, keyStr) => (state.updateAccessKey (some kid) keyStr).endLoop loop true
      | .error exception => (state.catchException exception).goTo loop (.delaying i)
  | .success => state.endLoop loop true
  | .canceled message => (state.catchException (.other message)).nextAttempt loop i
  | .throws exception => (state.catchException exception).goTo loop (.delaying i)

/-- `UpdateAccessKeyAsync`: the loop whose source is awaited, started where there is none. -/
def updateAccessKeyAsync (state : State) : State × Nat :=
  match state.loops.getLast? with
  | some ⟨_, _, none⟩ => (state, state.loops.length - 1)
  | _ => ({ state with loops := state.loops ++ [{ startedAt := state.now }] }, state.loops.length)

/-- `GenerateAccessTokenAsync` up to its `await`, or to its end where it does not wait. -/
def generateAccessToken (state : State) : State :=
  let (after, request) :=
    if state.key.needRefresh state.now then
      let (after, loop) := state.updateAccessKeyAsync
      (after, if state.key.available state.now then none else some loop)
    else (state, none)
  { after with
    requests := after.requests ++
      [match request with
      | some loop => .waiting loop
      | none => .answered state.now (state.key.answer state.now)] }

/-- `OnAccessKeyMessageAsync`. A key that is null throws before anything is stored. -/
def onAccessKeyMessage (state : State) (keyMessage : AccessKeyResponseMessage) : State :=
  if keyMessage.errorType.getD "" = "" then
    match keyMessage.accessKey with
    | none => state
    | some keyStr => state.updateAccessKey keyMessage.kid keyStr
  else state

/-- What an event does at the time of the state; `none` where there is no such loop or wait. -/
def act (state : State) : Action → Option State
  | .request => some state.generateAccessToken
  | .attempt loop outcome =>
      match state.loops[loop]? with
      | some ⟨_, .attempting i, _⟩ => some (state.endAttempt loop i outcome)
      | _ => none
  | .delay loop =>
      match state.loops[loop]? with
      | some ⟨_, .delaying i, _⟩ => some (state.nextAttempt loop i)
      | _ => none
  | .push keyMessage => some (state.onAccessKeyMessage keyMessage)
  | .resume request canceled =>
      match state.requests[request]? with
      | some (.waiting loop) =>
          if canceled = true ∨ (state.loops[loop]?.bind RefreshLoop.result).isSome = true
          then some
            { state with
              requests := state.requests.set request
                (.answered state.now (state.key.answer state.now)) }
          else none
      | _ => none

end State

/-- An event at its time. -/
def step (state : State) (event : Nat × Action) : Option State :=
  if event.1 < state.now then none else State.act { state with now := event.1 } event.2

def initial (now : Nat) : State := { now := now }

end AzureSignalR.Auth
