import AzureSignalR.Library.Machine
import AzureSignalR.ServiceConnections.PingHandling

/-!
Contract: how a server leaves the service when its host stops.

Owns: `RemoveConnectionAsync` on every connection at once, `GracefulShutdownAsync` and
`ShutdownAsync` with the two timers, and what has happened by the time `StopAsync` is called.

Does not own: the hooks, which may end, be cancelled or throw, and the clients, which come and
go. A hook that throws an `OperationCanceledException` counts as cancelled. The containers of
endpoints that are only weakly connected have nothing to remove.
-/

set_option autoImplicit false

namespace AzureSignalR.ServiceConnections.GracefulShutdown

open Library
open PingHandling (Messages tryGetValue)

inductive GracefulShutdownMode where
  | off
  | waitForClientsClose
  | migrateClients
deriving DecidableEq, Repr

/-! ## The pings -/

def shutdownKey : String := "shutdown"

def getFinPingMessage : GracefulShutdownMode → Messages
  | .waitForClientsClose => [some shutdownKey, some "fin:2"]
  | .migrateClients => [some shutdownKey, some "fin:1"]
  | .off => [some shutdownKey, some "fin:0"]

def getFinAckPingMessage : Messages := [some shutdownKey, some "finack"]

def isFinAck (messages : Messages) : Bool :=
  tryGetValue messages shutdownKey = some (some "finack")

def isEchoMessage (messages : Messages) : Bool := (tryGetValue messages "echo").isSome

def tryGetOffline (messages : Messages) : Option (Option String) := tryGetValue messages "offline"

/-- Whether `OnPingMessageAsync` comes to complete the offline task. -/
def goesOffline (messages : Messages) : Bool :=
  if isEchoMessage messages then false
  else if (tryGetOffline messages).isSome then false
  else isFinAck messages

/-! ## The machine -/

def maxRetryRemoveSeverConnection : Nat := 24

/-- How far a call of `RemoveConnectionAsync` has got. -/
inductive Remover where
  /-- In front of the condition of the loop. -/
  | checking (retry : Nat)
  /-- At the offline task of the connection, with the timer of this turn. -/
  | waiting (retry : Nat)
  | received
  | givenUp (retry : Nat)
deriving DecidableEq, Repr

def Remover.Ended : Remover → Prop
  | .received | .givenUp _ => True
  | _ => False

instance : DecidablePred Remover.Ended
  | .received => .isTrue trivial
  | .givenUp _ => .isTrue trivial
  | .checking _ => .isFalse id
  | .waiting _ => .isFalse id

/-- How far `GracefulShutdownAsync` has got. -/
inductive Graceful where
  /-- At `OfflineAsync`. -/
  | removing
  /-- At `CloseClientConnections`. -/
  | closing
  /-- At `OnShutdown`. -/
  | hooks
  /-- At `WhenAllCompleted`. -/
  | completing
  | completed
  | canceled
  | faulted
deriving DecidableEq, Repr

/-- How far `ShutdownAsync` has got. -/
inductive Shutdown where
  | waiting
  /-- `StopAsync` has been called. -/
  | stopped
  | faulted
deriving DecidableEq, Repr

/-- The connections of the containers, and the mode of the options. -/
structure Server (ι : Type) where
  mode : GracefulShutdownMode
  connections : List ι

structure State (ι κ : Type) where
  /-- The token of the timer over the whole shutdown. -/
  cancelled : Bool := false
  /-- Whether `ConnectionOfflineTask` is completed. -/
  offline : ι → Bool := fun _ => false
  removers : ι → Remover := fun _ => .checking 0
  /-- The pings that `RemoveConnectionAsync` has written. -/
  fins : List (ι × Messages) := []
  /-- How many turns of the loop have used up their five seconds. -/
  expired : ι → Nat := fun _ => 0
  clients : List κ := []
  /-- The clients whose lifetime task is completed. -/
  ended : List κ := []
  /-- The clients that `WhenAllCompleted` has found. -/
  awaited : List κ := []
  graceful : Graceful := .removing
  shutdown : Shutdown := .waiting
  stops : Nat := 0

inductive Action (ι κ : Type) where
  /-- A ping is dispatched on a connection. -/
  | ping (connection : ι) (messages : Messages)
  /-- `ProcessIncomingAsync` ends. -/
  | receiveEnds (connection : ι)
  | check (connection : ι)
  /-- The offline task comes first. -/
  | receive (connection : ι)
  /-- The timer of this turn comes first. -/
  | expire (connection : ι)
  /-- The token comes first. -/
  | give (connection : ι)
  | timeout
  /-- `OfflineAsync` has ended. -/
  | removed
  /-- `CloseClientConnections` has ended. -/
  | closed
  | closeCanceled
  | hooksEnd
  | hooksCancel
  | hooksThrow
  /-- `WhenAllCompleted` has ended. -/
  | completed
  | connect (client : κ)
  | disconnect (client : κ)
  | lifetimeEnds (client : κ)
  /-- `ShutdownAsync` goes on behind `GracefulShutdownAsync`. -/
  | observe
  /-- `ShutdownAsync` goes on because of the token. -/
  | observeToken
deriving Repr

section Machine

variable {ι κ : Type} [DecidableEq ι] [DecidableEq κ]

namespace State

def goTo (state : State ι κ) (connection : ι) (remover : Remover) : State ι κ :=
  { state with removers := Function.update state.removers connection remover }

def setOffline (state : State ι κ) (connection : ι) : State ι κ :=
  { state with offline := Function.update state.offline connection true }

/-- Behind `CloseClientConnections` and the hooks. -/
def whenAllCompleted (state : State ι κ) : State ι κ :=
  { state with graceful := .completing, awaited := state.clients }

def stop (state : State ι κ) : State ι κ :=
  { state with shutdown := .stopped, stops := state.stops + 1 }

end State

/-- One step of `RemoveConnectionAsync` in front of the condition. -/
def check (server : Server ι) (state : State ι κ) (connection : ι) : Option (State ι κ) :=
  match state.removers connection with
  | .checking retry =>
      if retry < maxRetryRemoveSeverConnection ∧ state.cancelled = false then
        some { state.goTo connection (.waiting retry) with
          fins := state.fins ++ [(connection, getFinPingMessage server.mode)] }
      else some (state.goTo connection (.givenUp retry))
  | _ => none

/-- One step of `RemoveConnectionAsync` at the offline task. -/
def leave (state : State ι κ) (connection : ι) (next : Nat → Option (State ι κ)) :
    Option (State ι κ) :=
  match state.removers connection with
  | .waiting retry => next retry
  | _ => none

def step (server : Server ι) (state : State ι κ) : Action ι κ → Option (State ι κ)
  | .ping connection messages =>
      if goesOffline messages then some (state.setOffline connection) else some state
  | .receiveEnds connection => some (state.setOffline connection)
  | .check connection => check server state connection
  | .receive connection => leave state connection fun _ =>
      if state.offline connection then some (state.goTo connection .received) else none
  | .expire connection => leave state connection fun retry =>
      some { state.goTo connection (.checking (retry + 1)) with
        expired := Function.update state.expired connection (state.expired connection + 1) }
  | .give connection => leave state connection fun retry =>
      if state.cancelled then some (state.goTo connection (.checking (retry + 1))) else none
  | .timeout => some { state with cancelled := true }
  | .removed =>
      if state.graceful = .removing ∧ ∀ connection ∈ server.connections,
          (state.removers connection).Ended then
        some { state with graceful := if server.mode = .off then .closing else .hooks }
      else none
  | .closed => if state.graceful = .closing then some state.whenAllCompleted else none
  | .closeCanceled =>
      if state.graceful = .closing ∧ state.cancelled = true then
        some { state with graceful := .canceled }
      else none
  | .hooksEnd => if state.graceful = .hooks then some state.whenAllCompleted else none
  | .hooksCancel =>
      if state.graceful = .hooks then some { state with graceful := .canceled } else none
  | .hooksThrow =>
      if state.graceful = .hooks then some { state with graceful := .faulted } else none
  | .completed =>
      if state.graceful = .completing ∧ ∀ client ∈ state.awaited, client ∈ state.ended then
        some { state with graceful := .completed }
      else none
  | .connect client => some { state with clients := client :: state.clients }
  | .disconnect client => some { state with clients := state.clients.erase client }
  | .lifetimeEnds client => some { state with ended := client :: state.ended }
  | .observe =>
      if state.shutdown = .waiting then
        match state.graceful with
        | .completed | .canceled => some state.stop
        | .faulted => some { state with shutdown := .faulted }
        | _ => none
      else none
  | .observeToken =>
      if state.shutdown = .waiting ∧ state.cancelled = true then some state.stop else none

end Machine

/-! ## What a step does to one connection -/

section Invariant

variable {ι κ : Type} [DecidableEq ι] [DecidableEq κ] {server : Server ι}
  {state next : State ι κ} {action : Action ι κ} {connection other : ι}

/-- How many pings have been written to a connection. -/
def finsOf (state : State ι κ) (connection : ι) : Nat :=
  state.fins.countP fun fin => fin.1 = connection

/-- Each turn of the loop writes one ping, and takes five seconds unless it is cut short. -/
structure Counted (state : State ι κ) (connection : ι) : Prop where
  checking : ∀ retry, state.removers connection = .checking retry →
    finsOf state connection = retry ∧ retry ≤ maxRetryRemoveSeverConnection ∧
      (state.cancelled = false → state.expired connection = retry)
  waiting : ∀ retry, state.removers connection = .waiting retry →
    finsOf state connection = retry + 1 ∧ retry < maxRetryRemoveSeverConnection ∧
      (state.cancelled = false → state.expired connection = retry)
  received : state.removers connection = .received →
    finsOf state connection ≤ maxRetryRemoveSeverConnection ∧
      state.offline connection = true ∧
      (state.cancelled = false → finsOf state connection = state.expired connection + 1)
  givenUp : ∀ retry, state.removers connection = .givenUp retry →
    finsOf state connection = retry ∧ retry ≤ maxRetryRemoveSeverConnection ∧
      (state.cancelled = false → retry = maxRetryRemoveSeverConnection ∧
        state.expired connection = maxRetryRemoveSeverConnection)

omit [DecidableEq κ] in
/-- What a step does to a connection, and to the shutdown. -/
inductive Moves (server : Server ι) (state : State ι κ) (connection : ι) : State ι κ → Prop where
  | write (retry : Nat) (checking : state.removers connection = .checking retry)
      (early : retry < maxRetryRemoveSeverConnection) (active : state.cancelled = false) :
      Moves server state connection
        { state.goTo connection (.waiting retry) with
          fins := state.fins ++ [(connection, getFinPingMessage server.mode)] }
  | giveUp (retry : Nat) (checking : state.removers connection = .checking retry)
      (late : ¬ (retry < maxRetryRemoveSeverConnection ∧ state.cancelled = false)) :
      Moves server state connection (state.goTo connection (.givenUp retry))
  | receive (retry : Nat) (waiting : state.removers connection = .waiting retry)
      (isOffline : state.offline connection = true) :
      Moves server state connection (state.goTo connection .received)
  | expire (retry : Nat) (waiting : state.removers connection = .waiting retry) :
      Moves server state connection
        { state.goTo connection (.checking (retry + 1)) with
          expired := Function.update state.expired connection (state.expired connection + 1) }
  | give (retry : Nat) (waiting : state.removers connection = .waiting retry)
      (cancelled : state.cancelled = true) :
      Moves server state connection (state.goTo connection (.checking (retry + 1)))

/-- What the other steps do. -/
inductive Advances (server : Server ι) (state : State ι κ) : State ι κ → Prop where
  | nothing : Advances server state state
  | cancel : Advances server state { state with cancelled := true }
  | goOffline (connection : ι) : Advances server state (state.setOffline connection)
  | clients (clients ended : List κ) (kept : state.ended ⊆ ended) :
      Advances server state { state with clients := clients, ended := ended }
  | removed (removing : state.graceful = .removing)
      (all : ∀ connection ∈ server.connections, (state.removers connection).Ended)
      (stage : Graceful)
      (byMode : stage = .closing ∧ server.mode = .off ∨ stage = .hooks ∧ server.mode ≠ .off) :
      Advances server state { state with graceful := stage }
  | await (behind : state.graceful = .closing ∨ state.graceful = .hooks) :
      Advances server state state.whenAllCompleted
  | cancelWait (why : state.graceful = .closing ∧ state.cancelled = true ∨
        state.graceful = .hooks) :
      Advances server state { state with graceful := .canceled }
  | throw (hooks : state.graceful = .hooks) :
      Advances server state { state with graceful := .faulted }
  | complete (completing : state.graceful = .completing)
      (all : ∀ client ∈ state.awaited, client ∈ state.ended) :
      Advances server state { state with graceful := .completed }
  | stop (waiting : state.shutdown = .waiting)
      (why : state.cancelled = true ∨ state.graceful = .completed ∨ state.graceful = .canceled) :
      Advances server state state.stop
  | fault (waiting : state.shutdown = .waiting) (faulted : state.graceful = .faulted) :
      Advances server state { state with shutdown := .faulted }

omit [DecidableEq κ] in
@[simp] theorem goTo_removers (state : State ι κ) (connection other : ι) (remover : Remover) :
    (state.goTo connection remover).removers other =
      if other = connection then remover else state.removers other :=
  Function.update_apply ..

omit [DecidableEq κ] in
theorem moves_of_check (checked : check server state connection = some next) :
    Moves server state connection next := by
  unfold check at checked
  split at checked
  next retry checking =>
    split_ifs at checked with early
    · cases checked
      exact .write retry checking early.1 early.2
    · cases checked
      exact .giveUp retry checking early
  next => cases checked

omit [DecidableEq ι] [DecidableEq κ] in
theorem waiting_of_leave {goOn : Nat → Option (State ι κ)}
    (left : leave state connection goOn = some next) :
    ∃ retry, state.removers connection = .waiting retry ∧ goOn retry = some next := by
  unfold leave at left
  split at left
  next retry waiting => exact ⟨retry, waiting, left⟩
  next => cases left

theorem steps_of_step (stepped : step server state action = some next) :
    (∃ connection, Moves server state connection next) ∨ Advances server state next := by
  cases action with
  | ping connection messages =>
      simp only [step] at stepped
      split_ifs at stepped
      · cases stepped
        exact .inr (.goOffline connection)
      · cases stepped
        exact .inr .nothing
  | receiveEnds connection =>
      cases stepped
      exact .inr (.goOffline connection)
  | check connection => exact .inl ⟨connection, moves_of_check stepped⟩
  | receive connection =>
      obtain ⟨retry, waiting, left⟩ := waiting_of_leave stepped
      split_ifs at left with isOffline
      cases left
      exact .inl ⟨connection, .receive retry waiting isOffline⟩
  | expire connection =>
      obtain ⟨retry, waiting, left⟩ := waiting_of_leave stepped
      cases left
      exact .inl ⟨connection, .expire retry waiting⟩
  | give connection =>
      obtain ⟨retry, waiting, left⟩ := waiting_of_leave stepped
      split_ifs at left with cancelled
      cases left
      exact .inl ⟨connection, .give retry waiting cancelled⟩
  | timeout =>
      cases stepped
      exact .inr .cancel
  | removed =>
      simp only [step] at stepped
      split_ifs at stepped with all isOff
      · cases stepped
        exact .inr (.removed all.1 all.2 .closing (.inl ⟨rfl, isOff⟩))
      · cases stepped
        exact .inr (.removed all.1 all.2 .hooks (.inr ⟨rfl, isOff⟩))
  | closed =>
      simp only [step] at stepped
      split_ifs at stepped with closing
      cases stepped
      exact .inr (.await (.inl closing))
  | closeCanceled =>
      simp only [step] at stepped
      split_ifs at stepped with closing
      cases stepped
      exact .inr (.cancelWait (.inl closing))
  | hooksEnd =>
      simp only [step] at stepped
      split_ifs at stepped with hooks
      cases stepped
      exact .inr (.await (.inr hooks))
  | hooksCancel =>
      simp only [step] at stepped
      split_ifs at stepped with hooks
      cases stepped
      exact .inr (.cancelWait (.inr hooks))
  | hooksThrow =>
      simp only [step] at stepped
      split_ifs at stepped with hooks
      cases stepped
      exact .inr (.throw hooks)
  | completed =>
      simp only [step] at stepped
      split_ifs at stepped with all
      cases stepped
      exact .inr (.complete all.1 all.2)
  | connect client =>
      cases stepped
      exact .inr (.clients (client :: state.clients) state.ended (List.Subset.refl _))
  | disconnect client =>
      cases stepped
      exact .inr (.clients (state.clients.erase client) state.ended (List.Subset.refl _))
  | lifetimeEnds client =>
      cases stepped
      exact .inr (.clients state.clients (client :: state.ended) (List.subset_cons_self _ _))
  | observe =>
      simp only [step] at stepped
      split_ifs at stepped with waiting
      split at stepped
      next isCompleted =>
        cases stepped
        exact .inr (.stop waiting (.inr (.inl isCompleted)))
      next isCanceled =>
        cases stepped
        exact .inr (.stop waiting (.inr (.inr isCanceled)))
      next isFaulted =>
        cases stepped
        exact .inr (.fault waiting isFaulted)
      next => cases stepped
  | observeToken =>
      simp only [step] at stepped
      split_ifs at stepped with cancelled
      cases stepped
      exact .inr (.stop cancelled.1 (.inl cancelled.2))

/-! ## What every step keeps -/

/-- How far the shutdown has got, and what that rests on. -/
structure Staged (server : Server ι) (state : State ι κ) : Prop where
  pings : ∀ fin ∈ state.fins, fin.2 = getFinPingMessage server.mode
  removed : state.graceful ≠ .removing →
    ∀ connection ∈ server.connections, (state.removers connection).Ended
  closing : state.graceful = .closing → server.mode = .off
  hooks : state.graceful = .hooks → server.mode ≠ .off
  canceled : state.graceful = .canceled → state.cancelled = true ∨ server.mode ≠ .off
  faulted : state.graceful = .faulted → server.mode ≠ .off
  completed : state.graceful = .completed → ∀ client ∈ state.awaited, client ∈ state.ended
  stops : state.stops = if state.shutdown = .stopped then 1 else 0
  stopped : state.shutdown = .stopped →
    state.cancelled = true ∨ state.graceful = .completed ∨ state.graceful = .canceled
  gone : state.shutdown = .faulted → state.graceful = .faulted

omit [DecidableEq κ] in
theorem finsOf_write (state : State ι κ) (connection other : ι) (retry : Nat)
    (messages : Messages) :
    finsOf { state.goTo connection (.waiting retry) with
        fins := state.fins ++ [(connection, messages)] } other =
      finsOf state other + if connection = other then 1 else 0 := by
  unfold finsOf
  rw [List.countP_append, List.countP_singleton]
  simp

omit [DecidableEq κ] in
theorem Counted.of_other (counted : Counted state other)
    (removers : next.removers other = state.removers other)
    (fins : finsOf next other = finsOf state other)
    (expired : next.expired other = state.expired other)
    (cancelled : next.cancelled = false → state.cancelled = false)
    (offline : state.offline other = true → next.offline other = true) : Counted next other := by
  constructor
  · intro retry checking
    rw [removers] at checking
    obtain ⟨written, bounded, patient⟩ := counted.checking retry checking
    rw [fins, expired]
    exact ⟨written, bounded, fun active => patient (cancelled active)⟩
  · intro retry waiting
    rw [removers] at waiting
    obtain ⟨written, bounded, patient⟩ := counted.waiting retry waiting
    rw [fins, expired]
    exact ⟨written, bounded, fun active => patient (cancelled active)⟩
  · intro received
    rw [removers] at received
    obtain ⟨written, isOffline, patient⟩ := counted.received received
    rw [fins, expired]
    exact ⟨written, offline isOffline, fun active => patient (cancelled active)⟩
  · intro retry givenUp
    rw [removers] at givenUp
    obtain ⟨written, bounded, patient⟩ := counted.givenUp retry givenUp
    rw [fins, expired]
    exact ⟨written, bounded, fun active => patient (cancelled active)⟩

omit [DecidableEq κ] in
theorem Moves.counted_self (moves : Moves server state connection next)
    (counted : Counted state connection) : Counted next connection := by
  cases moves with
  | write retry checking early active =>
      obtain ⟨written, -, patient⟩ := counted.checking retry checking
      refine ⟨by simp, fun found isFound => ?_, by simp, by simp⟩
      simp only [goTo_removers, if_true, Remover.waiting.injEq] at isFound
      subst isFound
      rw [finsOf_write, if_pos rfl, written]
      exact ⟨rfl, early, fun _ => patient active⟩
  | giveUp retry checking late =>
      obtain ⟨written, bounded, patient⟩ := counted.checking retry checking
      refine ⟨by simp, by simp, by simp, fun found isFound => ?_⟩
      simp only [goTo_removers, if_true, Remover.givenUp.injEq] at isFound
      subst isFound
      refine ⟨written, bounded, fun active => ?_⟩
      change state.cancelled = false at active
      have all : retry = maxRetryRemoveSeverConnection := by
        by_contra different
        exact late ⟨by omega, active⟩
      exact ⟨all, (patient active).trans all⟩
  | receive retry waiting isOffline =>
      obtain ⟨written, early, patient⟩ := counted.waiting retry waiting
      refine ⟨by simp, by simp, fun _ => ?_, by simp⟩
      change finsOf state connection ≤ _ ∧ state.offline connection = true ∧
        (state.cancelled = false → finsOf state connection = state.expired connection + 1)
      rw [written]
      exact ⟨early, isOffline, fun active => congrArg Nat.succ (patient active).symm⟩
  | expire retry waiting =>
      obtain ⟨written, early, patient⟩ := counted.waiting retry waiting
      refine ⟨fun found isFound => ?_, by simp, by simp, by simp⟩
      simp only [goTo_removers, if_true, Remover.checking.injEq] at isFound
      subst isFound
      refine ⟨written, early, fun active => ?_⟩
      change state.cancelled = false at active
      change Function.update state.expired connection _ connection = _
      rw [Function.update_self, patient active]
  | give retry waiting cancelled =>
      obtain ⟨written, early, -⟩ := counted.waiting retry waiting
      refine ⟨fun found isFound => ?_, by simp, by simp, by simp⟩
      simp only [goTo_removers, if_true, Remover.checking.injEq] at isFound
      subst isFound
      refine ⟨written, early, fun active => ?_⟩
      change state.cancelled = false at active
      rw [cancelled] at active
      cases active

omit [DecidableEq κ] in
theorem Moves.counted (moves : Moves server state connection next)
    (counted : Counted state other) : Counted next other := by
  by_cases same : other = connection
  · rw [same] at counted ⊢
    exact moves.counted_self counted
  · cases moves with
    | write retry checking early active =>
        refine counted.of_other (by simp [same]) ?_ rfl id id
        rw [finsOf_write, if_neg fun also => same also.symm, Nat.add_zero]
    | giveUp retry checking late => exact counted.of_other (by simp [same]) rfl rfl id id
    | receive retry waiting isOffline => exact counted.of_other (by simp [same]) rfl rfl id id
    | expire retry waiting => exact counted.of_other (by simp [same]) rfl (by simp [same]) id id
    | give retry waiting cancelled => exact counted.of_other (by simp [same]) rfl rfl id id

omit [DecidableEq κ] in
theorem Advances.counted (advances : Advances server state next)
    (counted : Counted state other) : Counted next other := by
  cases advances with
  | goOffline connection =>
      refine counted.of_other rfl rfl rfl id fun isOffline => ?_
      simp [State.setOffline, Function.update_apply, isOffline]
  | cancel => exact counted.of_other rfl rfl rfl (fun active => (by cases active)) id
  | _ => exact counted.of_other rfl rfl rfl id id

omit [DecidableEq κ] in
/-- An ended call of `RemoveConnectionAsync` has no further step. -/
theorem Moves.ended (moves : Moves server state connection next)
    (ended : (state.removers other).Ended) : (next.removers other).Ended := by
  by_cases same : other = connection
  · rw [same] at ended
    cases moves with
    | write retry checking _ _ =>
        rw [checking] at ended
        exact ended.elim
    | giveUp retry checking _ =>
        rw [checking] at ended
        exact ended.elim
    | receive retry waiting _ =>
        rw [waiting] at ended
        exact ended.elim
    | expire retry waiting =>
        rw [waiting] at ended
        exact ended.elim
    | give retry waiting _ =>
        rw [waiting] at ended
        exact ended.elim
  · cases moves <;> simpa [same] using ended

omit [DecidableEq κ] in
theorem Moves.staged (moves : Moves server state connection next) (staged : Staged server state) :
    Staged server next := by
  have removed : state.graceful ≠ .removing →
      ∀ other ∈ server.connections, (next.removers other).Ended :=
    fun stage other member => moves.ended (staged.removed stage other member)
  have pings : ∀ fin ∈ next.fins, fin.2 = getFinPingMessage server.mode := by
    cases moves with
    | write retry checking early active =>
        intro fin member
        rcases List.mem_append.mp member with before | last
        · exact staged.pings fin before
        · rw [List.mem_singleton.mp last]
    | _ => exact staged.pings
  cases moves <;>
    exact ⟨pings, removed, staged.closing, staged.hooks, staged.canceled, staged.faulted,
      staged.completed, staged.stops, staged.stopped, staged.gone⟩

omit [DecidableEq ι] [DecidableEq κ] in
/-- `GracefulShutdownAsync` has not ended, and comes to another stage. -/
theorem Staged.enter (staged : Staged server state) {stage : Graceful} {awaited : List κ}
    (undecided : state.graceful ≠ .completed ∧ state.graceful ≠ .canceled ∧
      state.graceful ≠ .faulted)
    (removed : ∀ connection ∈ server.connections, (state.removers connection).Ended)
    (closing : stage = .closing → server.mode = .off)
    (hooks : stage = .hooks → server.mode ≠ .off)
    (canceled : stage = .canceled → state.cancelled = true ∨ server.mode ≠ .off)
    (faulted : stage = .faulted → server.mode ≠ .off)
    (completed : stage = .completed → ∀ client ∈ awaited, client ∈ state.ended) :
    Staged server { state with graceful := stage, awaited := awaited } where
  pings := staged.pings
  removed _ := removed
  closing := closing
  hooks := hooks
  canceled := canceled
  faulted := faulted
  completed := completed
  stops := staged.stops
  stopped isStopped := by
    rcases staged.stopped isStopped with cancelled | isCompleted | isCanceled
    · exact .inl cancelled
    · exact absurd isCompleted undecided.1
    · exact absurd isCanceled undecided.2.1
  gone isFaulted := absurd (staged.gone isFaulted) undecided.2.2

omit [DecidableEq κ] in
theorem Advances.staged (advances : Advances server state next) (staged : Staged server state) :
    Staged server next := by
  cases advances with
  | nothing => exact staged
  | cancel =>
      exact ⟨staged.pings, staged.removed, staged.closing, staged.hooks, fun _ => .inl rfl,
        staged.faulted, staged.completed, staged.stops, fun _ => .inl rfl, staged.gone⟩
  | goOffline connection =>
      exact ⟨staged.pings, staged.removed, staged.closing, staged.hooks, staged.canceled,
        staged.faulted, staged.completed, staged.stops, staged.stopped, staged.gone⟩
  | clients clients ended kept =>
      exact ⟨staged.pings, staged.removed, staged.closing, staged.hooks, staged.canceled,
        staged.faulted, fun isCompleted client member =>
          kept (staged.completed isCompleted client member),
        staged.stops, staged.stopped, staged.gone⟩
  | removed removing all stage byMode =>
      have undecided : state.graceful ≠ .completed ∧ state.graceful ≠ .canceled ∧
          state.graceful ≠ .faulted := by
        rw [removing]
        exact ⟨nofun, nofun, nofun⟩
      rcases byMode with ⟨rfl, isOff⟩ | ⟨rfl, isOn⟩
      · exact staged.enter undecided all (fun _ => isOff) nofun nofun nofun nofun
      · exact staged.enter undecided all nofun (fun _ => isOn) nofun nofun nofun
  | await behind =>
      refine staged.enter ?_ (staged.removed ?_) (by simp) (by simp) (by simp) (by simp) (by simp)
      · rcases behind with closing | hooks <;> simp [*]
      · rcases behind with closing | hooks <;> simp [*]
  | cancelWait why =>
      refine staged.enter ?_ (staged.removed ?_) (by simp) (by simp) (fun _ => ?_) (by simp)
        (by simp)
      · rcases why with ⟨closing, -⟩ | hooks <;> simp [*]
      · rcases why with ⟨closing, -⟩ | hooks <;> simp [*]
      · exact why.imp And.right staged.hooks
  | throw hooks =>
      exact staged.enter (by simp [hooks]) (staged.removed (by simp [hooks])) (by simp) (by simp)
        (by simp) (fun _ => staged.hooks hooks) (by simp)
  | complete completing all =>
      exact staged.enter (by simp [completing]) (staged.removed (by simp [completing])) (by simp)
        (by simp) (by simp) (by simp) fun _ => all
  | stop waiting why =>
      refine ⟨staged.pings, staged.removed, staged.closing, staged.hooks, staged.canceled,
        staged.faulted, staged.completed, ?_, fun _ => why, fun isFaulted => ?_⟩
      · change state.stops + 1 = 1
        rw [staged.stops, waiting]
        rfl
      · cases isFaulted
  | fault waiting faulted =>
      refine ⟨staged.pings, staged.removed, staged.closing, staged.hooks, staged.canceled,
        staged.faulted, staged.completed, ?_, fun isStopped => ?_, fun _ => faulted⟩
      · change state.stops = 0
        rw [staged.stops, waiting]
        rfl
      · cases isStopped

/-- What every step keeps. -/
structure Kept (server : Server ι) (state : State ι κ) : Prop where
  counted : ∀ connection, Counted state connection
  staged : Staged server state

omit [DecidableEq κ] in
theorem kept_initial : Kept server ({} : State ι κ) where
  counted _ := ⟨fun retry isChecking => by
      cases isChecking
      exact ⟨rfl, Nat.zero_le _, fun _ => rfl⟩, by simp, by simp, by simp⟩
  staged := by constructor <;> simp

theorem kept_step (kept : Kept server state) (stepped : step server state action = some next) :
    Kept server next := by
  rcases steps_of_step stepped with ⟨connection, moves⟩ | advances
  · exact ⟨fun other => moves.counted (kept.counted other), moves.staged kept.staged⟩
  · exact ⟨fun other => advances.counted (kept.counted other), advances.staged kept.staged⟩

/-- Once a hook has thrown and `ShutdownAsync` has failed with it, nothing stops the server. -/
theorem faulted_step (faulted : Staged server state ∧ state.shutdown = .faulted)
    (stepped : step server state action = some next) :
    Staged server next ∧ next.shutdown = .faulted := by
  obtain ⟨staged, isFaulted⟩ := faulted
  rcases steps_of_step stepped with ⟨connection, moves⟩ | advances
  · refine ⟨moves.staged staged, ?_⟩
    cases moves <;> exact isFaulted
  · refine ⟨advances.staged staged, ?_⟩
    cases advances with
    | stop waiting _ =>
        rw [isFaulted] at waiting
        cases waiting
    | fault waiting _ => rfl
    | _ => exact isFaulted

/-- The service has been asked to leave the connection alone, with all the patience there is. -/
def LetGo (state : State ι κ) (connection : ι) : Prop :=
  state.offline connection = true ∨
    finsOf state connection = maxRetryRemoveSeverConnection ∧
      state.expired connection = maxRetryRemoveSeverConnection

omit [DecidableEq κ] in
theorem Counted.bounded (counted : Counted state connection) :
    finsOf state connection ≤ maxRetryRemoveSeverConnection ∧
      (state.cancelled = false →
        finsOf state connection ≤ state.expired connection + 1) := by
  cases remover : state.removers connection with
  | checking retry =>
      obtain ⟨written, bounded, patient⟩ := counted.checking retry remover
      exact ⟨by omega, fun active => by have := patient active; omega⟩
  | waiting retry =>
      obtain ⟨written, early, patient⟩ := counted.waiting retry remover
      exact ⟨by omega, fun active => by have := patient active; omega⟩
  | received =>
      obtain ⟨bounded, -, patient⟩ := counted.received remover
      exact ⟨bounded, fun active => Nat.le_of_eq (patient active)⟩
  | givenUp retry =>
      obtain ⟨written, bounded, patient⟩ := counted.givenUp retry remover
      exact ⟨by omega, fun active => by have := patient active; omega⟩

omit [DecidableEq κ] in
theorem Counted.letGo (counted : Counted state connection) (active : state.cancelled = false)
    (ended : (state.removers connection).Ended) : LetGo state connection := by
  cases remover : state.removers connection with
  | checking retry =>
      rw [remover] at ended
      exact ended.elim
  | waiting retry =>
      rw [remover] at ended
      exact ended.elim
  | received => exact .inl (counted.received remover).2.1
  | givenUp retry =>
      obtain ⟨written, -, patient⟩ := counted.givenUp retry remover
      obtain ⟨all, expired⟩ := patient active
      exact .inr ⟨written.trans all, expired⟩

/-! ## The way to the end -/

/-- The steps that need neither a timer nor a client; the hooks have to end. -/
def Own : Action ι κ → Prop
  | .check _ | .receive _ | .removed | .closed | .hooksEnd | .completed | .observe => True
  | _ => False

/-- Only the calls of `RemoveConnectionAsync` have gone on. -/
structure Beside (state next : State ι κ) : Prop where
  same : next.offline = state.offline ∧ next.clients = state.clients ∧ next.ended = state.ended ∧
    next.awaited = state.awaited ∧ next.graceful = state.graceful ∧
    next.shutdown = state.shutdown
  ended : ∀ connection, (state.removers connection).Ended → (next.removers connection).Ended

omit [DecidableEq ι] [DecidableEq κ] in
theorem Beside.trans {final : State ι κ} (first : Beside state next) (second : Beside next final) :
    Beside state final := by
  obtain ⟨⟨offline, clients, ended, awaited, graceful, shutdown⟩, stays⟩ := first
  obtain ⟨⟨offline', clients', ended', awaited', graceful', shutdown'⟩, stays'⟩ := second
  exact ⟨⟨offline'.trans offline, clients'.trans clients, ended'.trans ended,
    awaited'.trans awaited, graceful'.trans graceful, shutdown'.trans shutdown⟩,
    fun connection isEnded => stays' connection (stays connection isEnded)⟩

omit [DecidableEq κ] in
theorem Moves.beside (moves : Moves server state connection next) : Beside state next := by
  refine ⟨?_, fun other => moves.ended⟩
  cases moves <;> exact ⟨rfl, rfl, rfl, rfl, rfl, rfl⟩

omit [DecidableEq ι] [DecidableEq κ] in
theorem Beside.refl (state : State ι κ) : Beside state state :=
  ⟨⟨rfl, rfl, rfl, rfl, rfl, rfl⟩, fun _ => id⟩

/-- A call of `RemoveConnectionAsync` ends by itself once its connection is offline. -/
theorem remove_one (server : Server ι) (state : State ι κ)
    (isOffline : state.offline connection = true) :
    ∃ actions next, (∀ action ∈ actions, Own action) ∧
      Machine.run (step server) state actions = some next ∧ Beside state next ∧
      (next.removers connection).Ended := by
  have receive : ∀ (found : State ι κ) (retry : Nat),
      found.removers connection = .waiting retry → found.offline connection = true →
      step server found (.receive connection) = some (found.goTo connection .received) := by
    intro found retry waiting offline
    simp [step, leave, waiting, offline]
  cases remover : state.removers connection with
  | checking retry =>
      by_cases early : retry < maxRetryRemoveSeverConnection ∧ state.cancelled = false
      · obtain ⟨begun, written, moves, isWaiting⟩ : ∃ begun,
            step server state (.check connection) = some begun ∧
            Moves server state connection begun ∧ begun.removers connection = .waiting retry := by
          refine ⟨_, ?_, .write retry remover early.1 early.2, by simp⟩
          simp only [step, check, remover, if_pos early]
        have begunOffline : begun.offline connection = true := by
          rw [moves.beside.same.1]
          exact isOffline
        have last : Moves server begun connection (begun.goTo connection .received) :=
          .receive retry isWaiting begunOffline
        refine ⟨[.check connection, .receive connection], begun.goTo connection .received,
          by simp [Own], ?_, moves.beside.trans last.beside, by simp [Remover.Ended]⟩
        exact Machine.run_cons.mpr ⟨begun, written,
          Machine.run_cons.mpr ⟨_, receive begun retry isWaiting begunOffline, rfl⟩⟩
      · have moves : Moves server state connection _ := .giveUp retry remover early
        have givenUp : step server state (.check connection) =
            some (state.goTo connection (.givenUp retry)) := by
          simp only [step, check, remover, if_neg early]
        exact ⟨[.check connection], _, by simp [Own],
          Machine.run_cons.mpr ⟨_, givenUp, rfl⟩, moves.beside, by simp [Remover.Ended]⟩
  | waiting retry =>
      have moves : Moves server state connection _ := .receive retry remover isOffline
      exact ⟨[.receive connection], _, by simp [Own],
        Machine.run_cons.mpr ⟨_, receive state retry remover isOffline, rfl⟩, moves.beside,
        by simp [Remover.Ended]⟩
  | received => exact ⟨[], state, by simp, rfl, .refl state, by simp [remover, Remover.Ended]⟩
  | givenUp retry =>
      exact ⟨[], state, by simp, rfl, .refl state, by simp [remover, Remover.Ended]⟩

theorem remove_all (server : Server ι) (connections : List ι) (state : State ι κ)
    (isOffline : ∀ connection ∈ connections, state.offline connection = true) :
    ∃ actions next, (∀ action ∈ actions, Own action) ∧
      Machine.run (step server) state actions = some next ∧ Beside state next ∧
      ∀ connection ∈ connections, (next.removers connection).Ended := by
  induction connections generalizing state with
  | nil => exact ⟨[], state, by simp, rfl, .refl state, by simp⟩
  | cons connection connections inductionHypothesis =>
      obtain ⟨first, middle, ownFirst, ranFirst, beside, ended⟩ :=
        remove_one server state (isOffline connection List.mem_cons_self)
      obtain ⟨others, next, ownOthers, ranOthers, besideOthers, endedOthers⟩ :=
        inductionHypothesis middle fun other member => by
          rw [beside.same.1]
          exact isOffline other (List.mem_cons_of_mem _ member)
      refine ⟨first ++ others, next, ?_, Machine.run_append.mpr ⟨middle, ranFirst, ranOthers⟩,
        beside.trans besideOthers, ?_⟩
      · intro action member
        exact (List.mem_append.mp member).elim (ownFirst action) (ownOthers action)
      · intro other member
        rcases List.mem_cons.mp member with rfl | inside
        · exact besideOthers.ended other ended
        · exact endedOthers other inside

theorem stop_completed (server : Server ι) (state : State ι κ)
    (waiting : state.shutdown = .waiting) (completed : state.graceful = .completed) :
    step server state .observe = some state.stop := by
  simp [step, waiting, completed]

theorem stop_completing (server : Server ι) (state : State ι κ)
    (waiting : state.shutdown = .waiting) (completing : state.graceful = .completing)
    (gone : ∀ client ∈ state.awaited, client ∈ state.ended) :
    Machine.run (step server) state [.completed, .observe] =
      some { state with
        graceful := .completed
        shutdown := .stopped
        stops := state.stops + 1 } := by
  have first : step server state .completed = some { state with graceful := .completed } :=
    if_pos ⟨completing, gone⟩
  have second := stop_completed server { state with graceful := .completed } waiting rfl
  exact Machine.run_cons.mpr ⟨_, first, Machine.run_cons.mpr ⟨_, second, rfl⟩⟩

/-- Behind `OfflineAsync`, `StopAsync` is called as soon as the clients are gone. -/
theorem stop_behind (server : Server ι) (state : State ι κ) (waiting : state.shutdown = .waiting)
    (unfailing : state.graceful ≠ .faulted) (behind : state.graceful ≠ .removing)
    (gone : ∀ client ∈ state.clients ++ state.awaited, client ∈ state.ended) :
    ∃ actions next, (∀ action ∈ actions, Own action) ∧
      Machine.run (step server) state actions = some next ∧ next.shutdown = .stopped := by
  have clients : ∀ client ∈ state.clients, client ∈ state.ended :=
    fun client member => gone client (List.mem_append_left _ member)
  have awaited : ∀ client ∈ state.awaited, client ∈ state.ended :=
    fun client member => gone client (List.mem_append_right _ member)
  have completing := stop_completing server state.whenAllCompleted waiting rfl clients
  cases graceful : state.graceful with
  | removing => exact absurd graceful behind
  | faulted => exact absurd graceful unfailing
  | closing =>
      have closed : step server state .closed = some state.whenAllCompleted := if_pos graceful
      exact ⟨[.closed, .completed, .observe], _, by simp [Own],
        Machine.run_cons.mpr ⟨_, closed, completing⟩, rfl⟩
  | hooks =>
      have ended : step server state .hooksEnd = some state.whenAllCompleted := if_pos graceful
      exact ⟨[.hooksEnd, .completed, .observe], _, by simp [Own],
        Machine.run_cons.mpr ⟨_, ended, completing⟩, rfl⟩
  | completing =>
      exact ⟨[.completed, .observe], _, by simp [Own],
        stop_completing server state waiting graceful awaited, rfl⟩
  | completed =>
      exact ⟨[.observe], _, by simp [Own],
        Machine.run_cons.mpr ⟨_, stop_completed server state waiting graceful, rfl⟩, rfl⟩
  | canceled =>
      have stopped : step server state .observe = some state.stop := by
        simp [step, waiting, graceful]
      exact ⟨[.observe], _, by simp [Own], Machine.run_cons.mpr ⟨_, stopped, rfl⟩, rfl⟩

/-- The same from the beginning, once every connection is offline. -/
theorem stop_offline (server : Server ι) (state : State ι κ) (waiting : state.shutdown = .waiting)
    (unfailing : state.graceful ≠ .faulted)
    (isOffline : ∀ connection ∈ server.connections, state.offline connection = true)
    (gone : ∀ client ∈ state.clients ++ state.awaited, client ∈ state.ended) :
    ∃ actions next, (∀ action ∈ actions, Own action) ∧
      Machine.run (step server) state actions = some next ∧ next.shutdown = .stopped := by
  by_cases removing : state.graceful = .removing
  · obtain ⟨removal, middle, ownRemoval, ranRemoval, beside, ended⟩ :=
      remove_all server server.connections state isOffline
    obtain ⟨-, sameClients, sameEnded, sameAwaited, sameGraceful, sameShutdown⟩ := beside.same
    have stage : ∃ stage, stage ≠ Graceful.faulted ∧ stage ≠ Graceful.removing ∧
        step server middle .removed = some { middle with graceful := stage } := by
      refine ⟨if server.mode = .off then .closing else .hooks, ?_, ?_,
        if_pos ⟨sameGraceful.trans removing, ended⟩⟩ <;> split_ifs <;> exact Graceful.noConfusion
    obtain ⟨stage, notFaulted, notRemoving, removed⟩ := stage
    obtain ⟨rest, next, ownRest, ranRest, stopped⟩ :=
      stop_behind server { middle with graceful := stage } (sameShutdown.trans waiting) notFaulted
        notRemoving (by
          change ∀ client ∈ middle.clients ++ middle.awaited, client ∈ middle.ended
          rw [sameClients, sameAwaited, sameEnded]
          exact gone)
    refine ⟨removal ++ .removed :: rest, next, ?_,
      Machine.run_append.mpr ⟨middle, ranRemoval, Machine.run_cons.mpr ⟨_, removed, ranRest⟩⟩,
      stopped⟩
    intro action member
    rcases List.mem_append.mp member with early | late
    · exact ownRemoval action early
    · rcases List.mem_cons.mp late with rfl | late
      · trivial
      · exact ownRest action late
  · exact stop_behind server state waiting unfailing removing gone

/-- What holds in every state of a shutdown. -/
structure Contract (server : Server ι) (state : State ι κ) : Prop where
  bounded : ∀ connection, finsOf state connection ≤ maxRetryRemoveSeverConnection ∧
    (state.cancelled = false → finsOf state connection ≤ state.expired connection + 1)
  pings : ∀ fin ∈ state.fins, fin.2 = getFinPingMessage server.mode
  letGo : state.cancelled = false → state.graceful ≠ .removing →
    ∀ connection ∈ server.connections, LetGo state connection
  once : state.stops ≤ 1
  /-- Before the token is cancelled, `StopAsync` waits for every connection to be let go and then
  for the clients, unless a hook is cancelled. -/
  stopped : state.shutdown = .stopped → state.cancelled = true ∨
    (∀ connection ∈ server.connections, LetGo state connection) ∧
      (state.graceful = .completed ∧ (∀ client ∈ state.awaited, client ∈ state.ended) ∨
        state.graceful = .canceled ∧ server.mode ≠ .off)
  /-- A hook that throws keeps `StopAsync` from being called, for good. -/
  faulted : state.shutdown = .faulted → server.mode ≠ .off ∧ ∀ more final,
    Machine.run (step server) state more = some final → final.stops = 0
  settles : state.shutdown = .waiting → state.graceful ≠ .faulted →
    (∀ connection ∈ server.connections, state.offline connection = true) →
    (∀ client ∈ state.clients ++ state.awaited, client ∈ state.ended) →
    ∃ actions next, (∀ action ∈ actions, Own action) ∧
      Machine.run (step server) state actions = some next ∧ next.shutdown = .stopped

theorem graceful_shutdown (server : Server ι) (actions : List (Action ι κ)) {state : State ι κ}
    (ran : Machine.run (step server) {} actions = some state) : Contract server state := by
  have kept : Kept server state := Machine.run_invariant kept_step kept_initial ran
  have staged := kept.staged
  have letGo : state.cancelled = false → state.graceful ≠ .removing →
      ∀ connection ∈ server.connections, LetGo state connection :=
    fun active behind connection member =>
      (kept.counted connection).letGo active (staged.removed behind connection member)
  refine ⟨fun connection => (kept.counted connection).bounded, staged.pings, letGo, ?_, ?_, ?_,
    fun waiting unfailing => stop_offline server state waiting unfailing⟩
  · rw [staged.stops]
    split_ifs <;> decide
  · intro isStopped
    cases active : state.cancelled with
    | true => exact .inl rfl
    | false =>
        refine .inr ?_
        rcases staged.stopped isStopped with cancelled | completed | canceled
        · rw [active] at cancelled
          cases cancelled
        · exact ⟨letGo active (by simp [completed]), .inl ⟨completed, staged.completed completed⟩⟩
        · refine ⟨letGo active (by simp [canceled]), .inr ⟨canceled, ?_⟩⟩
          refine (staged.canceled canceled).resolve_left fun cancelled => ?_
          rw [active] at cancelled
          cases cancelled
  · intro isFaulted
    refine ⟨staged.faulted (staged.gone isFaulted), fun more final later => ?_⟩
    have frozen : Staged server final ∧ final.shutdown = .faulted :=
      Machine.run_invariant faulted_step ⟨staged, isFaulted⟩ later
    rw [frozen.1.stops, frozen.2]
    rfl

/-- One connection is acknowledged in its second turn, the other one is closed; a client that has
come in the meantime is waited for. -/
def acknowledged : List (Action Bool Nat) :=
  [.connect 7, .check false, .check true, .expire false, .check false, .receiveEnds true,
    .ping false getFinAckPingMessage, .receive false, .receive true, .removed, .hooksEnd,
    .lifetimeEnds 7, .disconnect 7, .completed, .observe]

theorem graceful_shutdown_acknowledged :
    ∃ state, Machine.run (step { mode := .waitForClientsClose, connections := [false, true] }) {}
        acknowledged = some state ∧
      state.shutdown = .stopped ∧ state.cancelled = false ∧ finsOf state false = 2 ∧
      Contract { mode := .waitForClientsClose, connections := [false, true] } state := by
  refine ⟨_, rfl, rfl, rfl, rfl, ?_⟩
  exact graceful_shutdown { mode := .waitForClientsClose, connections := [false, true] }
    acknowledged rfl

end Invariant

end AzureSignalR.ServiceConnections.GracefulShutdown
