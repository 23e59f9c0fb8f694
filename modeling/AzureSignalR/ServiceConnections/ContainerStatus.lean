import AzureSignalR.Library.Machine
import AzureSignalR.Library.Threads
import Mathlib.Logic.Function.Basic

/-!
Contract: the status of a container and the statuses of its connections.

Owns: `OnConnectionStatusChanged`, `GetStatus`, the setter of `Status`, `OnStatusChanged`,
and when what they leave agrees with the connections.

Does not own: why a connection changes its status. A connection runs the handler inside the
lock of its own setter, so it does not change again before its handler has ended; it leaves
the list when its `StartAsync` has ended, disconnected.
-/

set_option autoImplicit false

namespace AzureSignalR.ServiceConnections.ContainerStatus

open Library

inductive ServiceConnectionStatus where
  | inited
  | disconnected
  | connecting
  | connected
deriving DecidableEq, Repr

/-- The statuses that `ServiceConnectionBase` goes through. -/
def ServiceConnectionStatus.precedes : ServiceConnectionStatus → ServiceConnectionStatus → Bool
  | .inited, .connecting | .connecting, .connected | .connecting, .disconnected
  | .connected, .disconnected => true
  | _, _ => false

/-- How far the handler that a connection runs has got. -/
inductive Handler (κ : Type) where
  | none
  /-- In front of the conditions of `OnConnectionStatusChanged`. -/
  | entered (newStatus : ServiceConnectionStatus)
  /-- In the `Any` of `GetStatus`. -/
  | scanning (remaining : List κ)
  /-- In front of the first check of the setter of `Status`. -/
  | assigning (value : ServiceConnectionStatus)
  /-- At `lock (_statusLock)`. -/
  | locking (value : ServiceConnectionStatus)
  /-- In front of the second check, inside the lock. -/
  | setting (value : ServiceConnectionStatus)
  /-- In front of `OnStatusChanged`, inside the lock. -/
  | notifying (value : ServiceConnectionStatus)
deriving DecidableEq, Repr

structure State (κ : Type) where
  serviceConnections : List κ
  statuses : κ → ServiceConnectionStatus := fun _ => .inited
  handlers : κ → Handler κ := fun _ => .none
  status : ServiceConnectionStatus := .inited
  /-- Whose handler is inside the lock. -/
  statusLock : Option κ := none
  /-- `Endpoint.Online`. -/
  online : Bool := true
  /-- Whether a connection has reported `Connected` or `Disconnected`. -/
  reported : Bool := false

inductive Action (κ : Type) where
  /-- A connection sets its status and raises `ConnectionStatusChanged`. -/
  | change (connection : κ) (status : ServiceConnectionStatus)
  | resume (connection : κ)
  | add (connection : κ)
  | remove (connection : κ)
  | replace (old new : κ)
deriving DecidableEq, Repr

variable {κ : Type} [DecidableEq κ]

/-- `GetStatus`, if the statuses stay as they are. -/
def getStatus (state : State κ) : ServiceConnectionStatus :=
  if ∃ connection ∈ state.serviceConnections, state.statuses connection = .connected then
    .connected
  else .disconnected

def State.goTo (state : State κ) (connection : κ) (handler : Handler κ) : State κ :=
  { state with handlers := Function.update state.handlers connection handler }

/-- `OnConnectionStatusChanged` goes on to `GetStatus`. -/
def recomputes (status newStatus : ServiceConnectionStatus) : Bool :=
  newStatus = .connected ∧ status ≠ .connected ∨ newStatus = .disconnected ∧ status ≠ .disconnected

def resume (state : State κ) (connection : κ) : Option (State κ) :=
  match state.handlers connection with
  | .none => none
  | .entered newStatus =>
      if recomputes state.status newStatus then
        some (state.goTo connection (.scanning state.serviceConnections))
      else some (state.goTo connection .none)
  | .scanning [] => some (state.goTo connection (.assigning .disconnected))
  | .scanning (other :: remaining) =>
      if state.statuses other = .connected then
        some (state.goTo connection (.assigning .connected))
      else some (state.goTo connection (.scanning remaining))
  | .assigning value =>
      if state.status = value then some (state.goTo connection .none)
      else some (state.goTo connection (.locking value))
  | .locking value =>
      if state.statusLock = none then
        some { state.goTo connection (.setting value) with statusLock := some connection }
      else none
  | .setting value =>
      if state.status = value then
        some { state.goTo connection .none with statusLock := none }
      else some { state.goTo connection (.notifying value) with status := value }
  | .notifying value =>
      some { state.goTo connection .none with
        online := value = .connected, statusLock := none }

/-- A connection that is not started. -/
def State.isNew (state : State κ) (connection : κ) : Bool :=
  connection ∉ state.serviceConnections ∧ state.statuses connection = .inited ∧
    state.handlers connection = .none

/-- A connection of the list whose `StartAsync` has ended. -/
def State.isComplete (state : State κ) (connection : κ) : Bool :=
  connection ∈ state.serviceConnections ∧ state.statuses connection = .disconnected ∧
    state.handlers connection = .none

def step (state : State κ) : Action κ → Option (State κ)
  | .change connection status =>
      if connection ∈ state.serviceConnections ∧
          (state.statuses connection).precedes status ∧ state.handlers connection = .none then
        some { state.goTo connection (.entered status) with
          statuses := Function.update state.statuses connection status
          reported := state.reported ∨ status = .connected ∨ status = .disconnected }
      else none
  | .resume connection => resume state connection
  | .add connection =>
      if state.isNew connection then
        some { state with serviceConnections := state.serviceConnections ++ [connection] }
      else none
  | .remove connection =>
      if state.isComplete connection then
        some { state with serviceConnections := state.serviceConnections.erase connection }
      else none
  | .replace old new =>
      if state.isComplete old ∧ state.isNew new then
        some { state with serviceConnections :=
          state.serviceConnections.set (state.serviceConnections.idxOf old) new }
      else none

/-! ## What a step does -/

/-- What a step of a handler does to the container, and to the handler. -/
inductive Resumes (state : State κ) (connection : κ) : State κ → Handler κ → Prop where
  | ignore (newStatus : ServiceConnectionStatus)
      (handler : state.handlers connection = .entered newStatus)
      (ignored : recomputes state.status newStatus = false) :
      Resumes state connection state .none
  | recompute (newStatus : ServiceConnectionStatus)
      (handler : state.handlers connection = .entered newStatus)
      (recomputed : recomputes state.status newStatus = true) :
      Resumes state connection state (.scanning state.serviceConnections)
  | exhaust (handler : state.handlers connection = .scanning []) :
      Resumes state connection state (.assigning .disconnected)
  | find (other : κ) (remaining : List κ)
      (handler : state.handlers connection = .scanning (other :: remaining))
      (found : state.statuses other = .connected) :
      Resumes state connection state (.assigning .connected)
  | pass (other : κ) (remaining : List κ)
      (handler : state.handlers connection = .scanning (other :: remaining))
      (passed : state.statuses other ≠ .connected) :
      Resumes state connection state (.scanning remaining)
  | skip (value : ServiceConnectionStatus)
      (handler : state.handlers connection = .assigning value) (same : state.status = value) :
      Resumes state connection state .none
  | wait (value : ServiceConnectionStatus)
      (handler : state.handlers connection = .assigning value) (differs : state.status ≠ value) :
      Resumes state connection state (.locking value)
  | enter (value : ServiceConnectionStatus)
      (handler : state.handlers connection = .locking value) (free : state.statusLock = none) :
      Resumes state connection { state with statusLock := some connection } (.setting value)
  | leave (value : ServiceConnectionStatus)
      (handler : state.handlers connection = .setting value) (same : state.status = value) :
      Resumes state connection { state with statusLock := none } .none
  | set (value : ServiceConnectionStatus)
      (handler : state.handlers connection = .setting value) (differs : state.status ≠ value) :
      Resumes state connection { state with status := value } (.notifying value)
  | notify (value : ServiceConnectionStatus)
      (handler : state.handlers connection = .notifying value) :
      Resumes state connection
        { state with online := value = .connected, statusLock := none } .none

theorem resumes_of_resume {state next : State κ} {connection : κ}
    (resumed : resume state connection = some next) :
    ∃ container handler, Resumes state connection container handler ∧
      next = container.goTo connection handler := by
  unfold resume at resumed
  split at resumed
  next => cases resumed
  next newStatus handler =>
    split_ifs at resumed with recomputed
    · cases resumed
      exact ⟨_, _, .recompute newStatus handler recomputed, rfl⟩
    · cases resumed
      exact ⟨_, _, .ignore newStatus handler (Bool.eq_false_iff.mpr recomputed), rfl⟩
  next handler =>
    cases resumed
    exact ⟨_, _, .exhaust handler, rfl⟩
  next other remaining handler =>
    split_ifs at resumed with found
    · cases resumed
      exact ⟨_, _, .find other remaining handler found, rfl⟩
    · cases resumed
      exact ⟨_, _, .pass other remaining handler found, rfl⟩
  next value handler =>
    split_ifs at resumed with same
    · cases resumed
      exact ⟨_, _, .skip value handler same, rfl⟩
    · cases resumed
      exact ⟨_, _, .wait value handler same, rfl⟩
  next value handler =>
    split_ifs at resumed with free
    cases resumed
    exact ⟨_, _, .enter value handler free, rfl⟩
  next value handler =>
    split_ifs at resumed with same
    · cases resumed
      exact ⟨_, _, .leave value handler same, rfl⟩
    · cases resumed
      exact ⟨_, _, .set value handler same, rfl⟩
  next value handler =>
    cases resumed
    exact ⟨_, _, .notify value handler, rfl⟩

/-! ## What a handler keeps -/

/-- The value that a handler has computed. -/
@[simp] def Handler.value? : Handler κ → Option ServiceConnectionStatus
  | .assigning value | .locking value | .setting value | .notifying value => some value
  | _ => Option.none

/-- The handler is inside the lock. -/
@[simp] def Handler.Locked : Handler κ → Prop
  | .setting _ | .notifying _ => True
  | _ => False

/-- The handler has not set the status. -/
@[simp] def Handler.Pending : Handler κ → Prop
  | .none | .notifying _ => False
  | _ => True

/-- The handler sets the status to `Disconnected` if no connection is connected. -/
@[simp] def Handler.Falling : Handler κ → Prop
  | .entered newStatus => newStatus = .disconnected
  | .scanning _ => True
  | .assigning value | .locking value | .setting value => value = .disconnected
  | _ => False

/-- The handler sets a status that was never set. -/
@[simp] def Handler.Deciding : Handler κ → Prop
  | .entered newStatus => newStatus = .connected ∨ newStatus = .disconnected
  | .none | .notifying _ => False
  | _ => True

/-- What holds of the handler of one connection. -/
structure Fitting (state : State κ) (connection : κ) : Prop where
  entered : ∀ newStatus, state.handlers connection = .entered newStatus →
    state.statuses connection = newStatus
  listed : state.handlers connection ≠ .none ∨ state.statuses connection = .connected →
    connection ∈ state.serviceConnections
  scanning : state.statuses connection = .connected →
    ∀ remaining, state.handlers connection = .scanning remaining → connection ∈ remaining
  rising : state.statuses connection = .connected →
    ∀ value, (state.handlers connection).value? = some value → value = .connected
  value : ∀ value, (state.handlers connection).value? = some value →
    value = .connected ∨ value = .disconnected
  locked : (state.handlers connection).Locked ↔ state.statusLock = some connection
  notifying : ∀ value, state.handlers connection = .notifying value → state.status = value

/-- What the handlers together keep. -/
structure Consistent (state : State κ) : Prop where
  fitting : ∀ connection, Fitting state connection
  online : (∀ connection value, state.handlers connection ≠ .notifying value) →
    state.status = .inited ∨ state.online = decide (state.status = .connected)
  rises : (∃ connection, state.statuses connection = .connected) → state.status ≠ .connected →
    ∃ connection, state.statuses connection = .connected ∧ (state.handlers connection).Pending
  falls : (∀ connection, state.statuses connection ≠ .connected) → state.status = .connected →
    ∃ connection, (state.handlers connection).Falling
  reported : state.reported = true →
    state.status ≠ .inited ∨ ∃ connection, (state.handlers connection).Deciding

section Invariant

variable {state next container : State κ} {connection other : κ} {handler : Handler κ}

@[simp] theorem goTo_handlers (state : State κ) (connection other : κ) (handler : Handler κ) :
    (state.goTo connection handler).handlers other =
      if other = connection then handler else state.handlers other :=
  Function.update_apply ..

omit [DecidableEq κ] in
theorem recomputes_connected {status : ServiceConnectionStatus} (differs : status ≠ .connected) :
    recomputes status .connected = true :=
  decide_eq_true (.inl ⟨rfl, differs⟩)

omit [DecidableEq κ] in
theorem recomputes_disconnected {status : ServiceConnectionStatus}
    (differs : status ≠ .disconnected) : recomputes status .disconnected = true :=
  decide_eq_true (.inr ⟨rfl, differs⟩)

omit [DecidableEq κ] in
/-- What the step of a handler leaves to others. -/
theorem Resumes.unchanged (resumes : Resumes state connection container handler) :
    container.statuses = state.statuses ∧ container.handlers = state.handlers ∧
      container.reported = state.reported ∧
      container.serviceConnections = state.serviceConnections := by
  cases resumes <;> exact ⟨rfl, rfl, rfl, rfl⟩

omit [DecidableEq κ] in
/-- A handler that goes on is there, and it does not begin again. -/
theorem Resumes.present (resumes : Resumes state connection container handler) :
    state.handlers connection ≠ .none ∧ ∀ newStatus, handler ≠ .entered newStatus := by
  cases resumes with
  | ignore _ was | recompute _ was | exhaust was | find _ _ was | pass _ _ was | skip _ was
  | wait _ was | enter _ was | leave _ was | set _ was | notify _ was =>
      rw [was]
      exact ⟨nofun, nofun⟩

omit [DecidableEq κ] in
/-- Its own connection is in front of a handler that scans, while it is connected. -/
theorem Resumes.scanning (resumes : Resumes state connection container handler)
    (fitting : Fitting state connection) (connected : state.statuses connection = .connected)
    {remaining : List κ} (isScanning : handler = .scanning remaining) :
    connection ∈ remaining := by
  cases resumes with
  | recompute newStatus isEntered recomputed =>
      cases isScanning
      exact fitting.listed (.inr connected)
  | pass other rest wasScanning passed =>
      cases isScanning
      refine (List.mem_cons.mp (fitting.scanning connected _ wasScanning)).resolve_left ?_
      rintro rfl
      exact passed connected
  | _ => cases isScanning

omit [DecidableEq κ] in
/-- The value of a handler is the one it had, or the one that its scan comes to. -/
theorem Resumes.value (resumes : Resumes state connection container handler)
    {value : ServiceConnectionStatus} (isValue : handler.value? = some value) :
    (state.handlers connection).value? = some value ∨
      (state.handlers connection = .scanning [] ∧ value = .disconnected) ∨
      value = .connected := by
  cases resumes with
  | exhaust was =>
      cases isValue
      exact .inr (.inl ⟨was, rfl⟩)
  | find =>
      cases isValue
      exact .inr (.inr rfl)
  | wait _ was | enter _ was | set _ was =>
      rw [was]
      exact .inl isValue
  | _ => cases isValue

omit [DecidableEq κ] in
theorem Resumes.locked (resumes : Resumes state connection container handler)
    (held : (state.handlers connection).Locked ↔ state.statusLock = some connection) :
    handler.Locked ↔ container.statusLock = some connection := by
  cases resumes with
  | enter => exact iff_of_true trivial rfl
  | leave => exact iff_of_false id nofun
  | notify => exact iff_of_false id nofun
  | ignore _ was | recompute _ was | exhaust was | find _ _ was | pass _ _ was | skip _ was
  | wait _ was | set _ was =>
      -- The handler stays on its side of the lock.
      rw [was] at held
      exact held

omit [DecidableEq κ] in
theorem Resumes.notifying (resumes : Resumes state connection container handler)
    {value : ServiceConnectionStatus} (isNotifying : handler = .notifying value) :
    container.status = value := by
  cases resumes with
  | set newStatus isSetting differs =>
      cases isNotifying
      rfl
  | _ => cases isNotifying

/-- The handler that goes on. -/
theorem Resumes.fitting_self (resumes : Resumes state connection container handler)
    (fitting : Fitting state connection) :
    Fitting (container.goTo connection handler) connection := by
  obtain ⟨statuses, -, -, serviceConnections⟩ := resumes.unchanged
  obtain ⟨present, begun⟩ := resumes.present
  have itself : (container.goTo connection handler).handlers connection = handler := by
    rw [goTo_handlers, if_pos rfl]
  constructor
  · rw [itself]
    exact fun newStatus isEntered => absurd isEntered (begun newStatus)
  · intro _
    show connection ∈ container.serviceConnections
    rw [serviceConnections]
    exact fitting.listed (.inl present)
  · rw [itself]
    change container.statuses connection = _ → _
    rw [statuses]
    exact fun connected remaining => resumes.scanning fitting connected
  · rw [itself]
    change container.statuses connection = _ → _
    rw [statuses]
    intro connected value isValue
    rcases resumes.value isValue with before | ⟨isScanning, -⟩ | isConnected
    · exact fitting.rising connected value before
    · exact absurd (fitting.scanning connected [] isScanning) List.not_mem_nil
    · exact isConnected
  · rw [itself]
    intro value isValue
    rcases resumes.value isValue with before | ⟨-, isDisconnected⟩ | isConnected
    · exact fitting.value value before
    · exact .inr isDisconnected
    · exact .inl isConnected
  · rw [itself]
    exact resumes.locked fitting.locked
  · rw [itself]
    exact fun value => resumes.notifying

omit [DecidableEq κ] in
/-- A handler that does not go on, while the container changes around it. -/
theorem Fitting.frame (fitting : Fitting state connection)
    (handler : next.handlers connection = state.handlers connection)
    (status : next.statuses connection = state.statuses connection)
    (listed : state.handlers connection ≠ .none ∨ state.statuses connection = .connected →
      connection ∈ state.serviceConnections → connection ∈ next.serviceConnections)
    (lock : next.statusLock = some connection ↔ state.statusLock = some connection)
    (kept : (state.handlers connection).Locked → next.status = state.status) :
    Fitting next connection := by
  obtain ⟨entered, wasListed, scanning, rising, value, locked, notifying⟩ := fitting
  constructor
  · rw [handler, status]
    exact entered
  · rw [handler, status]
    exact fun present => listed present (wasListed present)
  · rw [handler, status]
    exact scanning
  · rw [handler, status]
    exact rising
  · rw [handler]
    exact value
  · rw [handler, lock]
    exact locked
  · rw [handler]
    intro value isNotifying
    rw [kept (by rw [isNotifying]; trivial)]
    exact notifying value isNotifying

/-- The handlers of the other connections. One of them inside the lock would exclude this
one. -/
theorem Resumes.fitting_other (resumes : Resumes state connection container handler)
    (fitting : Fitting state connection) (others : Fitting state other)
    (differs : other ≠ connection) : Fitting (container.goTo connection handler) other := by
  have same : (container.goTo connection handler).handlers other = container.handlers other := by
    rw [goTo_handlers, if_neg differs]
  have held : (state.handlers connection).Locked → state.statusLock = some connection :=
    fitting.locked.mp
  have apart : some connection ≠ some other := by
    intro isSame
    exact differs (Option.some.inj isSame).symm
  cases resumes with
  | enter value isLocking free =>
      refine others.frame same rfl (fun _ => id) ?_ fun _ => rfl
      change some connection = some other ↔ state.statusLock = some other
      rw [free]
      exact iff_of_false apart nofun
  | leave value isSetting unchanged =>
      refine others.frame same rfl (fun _ => id) ?_ fun _ => rfl
      change none = some other ↔ state.statusLock = some other
      rw [held (by rw [isSetting]; trivial)]
      exact iff_of_false nofun apart
  | notify value isNotifying =>
      refine others.frame same rfl (fun _ => id) ?_ fun _ => rfl
      change none = some other ↔ state.statusLock = some other
      rw [held (by rw [isNotifying]; trivial)]
      exact iff_of_false nofun apart
  | set value isSetting changes =>
      refine others.frame same rfl (fun _ => id) Iff.rfl ?_
      intro isLocked
      have impossible := others.locked.mp isLocked
      rw [held (by rw [isSetting]; trivial)] at impossible
      exact absurd impossible apart
  | _ => exact others.frame same rfl (fun _ => id) Iff.rfl fun _ => rfl

theorem Resumes.online (resumes : Resumes state connection container handler)
    (consistent : Consistent state) :
    (∀ other value, (container.goTo connection handler).handlers other ≠ .notifying value) →
      container.status = .inited ∨ container.online = decide (container.status = .connected) := by
  intro quiet
  have locked := (consistent.fitting connection).locked
  have notifying := (consistent.fitting connection).notifying
  cases resumes with
  | set value isSetting changes =>
      exact absurd (by simp) (quiet connection value)
  | notify value isNotifying =>
      refine .inr ?_
      change decide (value = .connected) = decide (state.status = .connected)
      rw [notifying value isNotifying]
  | ignore _ was | recompute _ was | exhaust was | find _ _ was | pass _ _ was | skip _ was
  | wait _ was | enter _ was | leave _ was =>
      refine consistent.online fun other value isNotifying => ?_
      have before := quiet other value
      simp only [goTo_handlers] at before
      split_ifs at before with same
      · rw [same, was] at isNotifying
        cases isNotifying
      · exact before isNotifying

omit [DecidableEq κ] in
theorem Resumes.status (resumes : Resumes state connection container handler) :
    container.status = state.status ∨ state.status ≠ container.status ∧
      state.handlers connection = .setting container.status := by
  cases resumes with
  | set value isSetting changes => exact .inr ⟨changes, isSetting⟩
  | _ => exact .inl rfl

omit [DecidableEq κ] in
/-- The handler of a connected connection ends when the status is `Connected`. -/
theorem Resumes.pending (resumes : Resumes state connection container handler)
    (fitting : Fitting state connection) (connected : state.statuses connection = .connected)
    (pending : (state.handlers connection).Pending) (status : container.status ≠ .connected) :
    handler.Pending := by
  have entered := fitting.entered
  have scanning := fitting.scanning connected
  have rising := fitting.rising connected
  cases resumes with
  | ignore newStatus isEntered ignored =>
      rw [← entered newStatus isEntered, connected, recomputes_connected status] at ignored
      cases ignored
  | exhaust isScanning => exact absurd (scanning [] isScanning) List.not_mem_nil
  | skip value isAssigning same =>
      exact absurd (same.trans (rising value (by rw [isAssigning]; rfl))) status
  | leave value isSetting same =>
      exact absurd (same.trans (rising value (by rw [isSetting]; rfl))) status
  | set value isSetting changes => exact absurd (rising value (by rw [isSetting]; rfl)) status
  | notify value isNotifying =>
      rw [isNotifying] at pending
      exact pending.elim
  | _ => trivial

omit [DecidableEq κ] in
/-- While no connection is connected, a handler that was to set `Disconnected` does so. -/
theorem Resumes.falling (resumes : Resumes state connection container handler)
    (down : ∀ connection, state.statuses connection ≠ .connected)
    (falling : (state.handlers connection).Falling) (status : container.status = .connected) :
    handler.Falling := by
  cases resumes with
  | ignore newStatus isEntered ignored =>
      rw [isEntered] at falling
      have isDisconnected : newStatus = .disconnected := falling
      rw [isDisconnected, recomputes_disconnected (by rw [status]; nofun)] at ignored
      cases ignored
  | recompute newStatus isEntered recomputed => trivial
  | exhaust isScanning => exact rfl
  | find other remaining isScanning found => exact absurd found (down other)
  | pass other remaining isScanning passed => trivial
  | skip value isAssigning same =>
      rw [isAssigning] at falling
      exact absurd (status.symm.trans (same.trans falling)) nofun
  | wait value isAssigning differs =>
      rw [isAssigning] at falling
      exact falling
  | enter value isLocking free =>
      rw [isLocking] at falling
      exact falling
  | leave value isSetting same =>
      rw [isSetting] at falling
      exact absurd (status.symm.trans (same.trans falling)) nofun
  | set value isSetting changes =>
      rw [isSetting] at falling
      exact absurd (status.symm.trans falling) nofun
  | notify value isNotifying =>
      rw [isNotifying] at falling
      exact falling.elim

omit [DecidableEq κ] in
/-- A handler that was to set a status has set one when it ends. -/
theorem Resumes.deciding (resumes : Resumes state connection container handler)
    (fitting : Fitting state connection) (deciding : (state.handlers connection).Deciding) :
    container.status ≠ .inited ∨ handler.Deciding := by
  have computed : ∀ value, (state.handlers connection).value? = some value → value ≠ .inited := by
    intro value isValue
    rcases fitting.value value isValue with rfl | rfl <;> nofun
  cases resumes with
  | ignore newStatus isEntered ignored =>
      rw [isEntered] at deciding
      left
      intro isInited
      rw [isInited] at ignored
      rcases deciding with rfl | rfl
      · exact absurd ignored (by decide)
      · exact absurd ignored (by decide)
  | skip value isAssigning same =>
      left
      rw [same]
      exact computed value (by rw [isAssigning]; rfl)
  | leave value isSetting same =>
      left
      change state.status ≠ .inited
      rw [same]
      exact computed value (by rw [isSetting]; rfl)
  | set value isSetting changes => exact .inl (computed value (by rw [isSetting]; rfl))
  | notify value isNotifying =>
      rw [isNotifying] at deciding
      exact deciding.elim
  | _ => exact .inr trivial

omit [DecidableEq κ] in
/-- `GetStatus` tells whether a connection is connected. -/
theorem Consistent.getStatus_eq (consistent : Consistent state) :
    getStatus state = .connected ↔ ∃ connection, state.statuses connection = .connected := by
  unfold getStatus
  split_ifs with found
  · obtain ⟨connection, -, connected⟩ := found
    exact iff_of_true rfl ⟨connection, connected⟩
  · refine iff_of_false nofun ?_
    rintro ⟨connection, connected⟩
    exact found ⟨connection, (consistent.fitting connection).listed (.inr connected), connected⟩

/-- The value that a step gives to the status. -/
def assigned (state : State κ) : Action κ → Option ServiceConnectionStatus
  | .resume connection =>
      match state.handlers connection with
      | .setting value => if state.status = value then none else some value
      | _ => none
  | _ => none

/-- The value that a handler has computed is what `GetStatus` returns when it is assigned. -/
def Current (state : State κ) (action : Action κ) : Prop :=
  ∀ value ∈ assigned state action, value = getStatus state

instance (state : State κ) (action : Action κ) : Decidable (Current state action) :=
  inferInstanceAs (Decidable (∀ value ∈ assigned state action, value = getStatus state))

theorem Consistent.resume (consistent : Consistent state)
    (current : Current state (.resume connection))
    (resumes : Resumes state connection container handler) :
    Consistent (container.goTo connection handler) := by
  obtain ⟨statuses, handlers, reported, -⟩ := resumes.unchanged
  have fitting := consistent.fitting connection
  have elsewhere : ∀ other, other ≠ connection →
      (container.goTo connection handler).handlers other = state.handlers other := by
    intro other differs
    rw [goTo_handlers, if_neg differs, handlers]
  have here : (container.goTo connection handler).handlers connection = handler := by
    rw [goTo_handlers, if_pos rfl]
  have isNow : state.status ≠ container.status →
      state.handlers connection = .setting container.status →
      container.status = getStatus state := by
    intro changes isSetting
    refine current container.status ?_
    rw [Option.mem_def, assigned, isSetting]
    exact if_neg changes
  have up : (∃ other, container.statuses other = .connected) ↔ getStatus state = .connected := by
    rw [statuses]
    exact consistent.getStatus_eq.symm
  refine ⟨?_, resumes.online consistent, ?_, ?_, ?_⟩
  · intro other
    by_cases same : other = connection
    · rw [same]
      exact resumes.fitting_self fitting
    · exact resumes.fitting_other fitting (consistent.fitting other) same
  · intro isUp status
    change container.status ≠ .connected at status
    change ∃ other, container.statuses other = .connected ∧ _
    change ∃ other, container.statuses other = .connected at isUp
    rcases resumes.status with same | ⟨changes, isSetting⟩
    · rw [statuses] at isUp
      obtain ⟨other, connected, pending⟩ := consistent.rises isUp (same ▸ status)
      refine ⟨other, by rw [statuses]; exact connected, ?_⟩
      by_cases isConnection : other = connection
      · subst isConnection
        rw [here]
        exact resumes.pending fitting connected pending status
      · rw [elsewhere other isConnection]
        exact pending
    · exact absurd ((isNow changes isSetting).trans (up.mp isUp)) status
  · intro down status
    change ∀ other, container.statuses other ≠ .connected at down
    change container.status = .connected at status
    rcases resumes.status with same | ⟨changes, isSetting⟩
    · rw [statuses] at down
      obtain ⟨other, falling⟩ := consistent.falls down (same ▸ status)
      refine ⟨other, ?_⟩
      by_cases isConnection : other = connection
      · subst isConnection
        rw [here]
        exact resumes.falling down falling status
      · rw [elsewhere other isConnection]
        exact falling
    · obtain ⟨other, connected⟩ := up.mpr ((isNow changes isSetting).symm.trans status)
      exact absurd connected (down other)
  · intro wasReported
    change container.reported = true at wasReported
    change container.status ≠ .inited ∨ _
    rw [reported] at wasReported
    rcases consistent.reported wasReported with decided | ⟨other, deciding⟩
    · rcases resumes.status with same | ⟨-, isSetting⟩
      · exact .inl (same ▸ decided)
      · exact (resumes.deciding fitting (by rw [isSetting]; trivial)).imp_right
          fun deciding => ⟨connection, by rw [here]; exact deciding⟩
    · by_cases isConnection : other = connection
      · subst isConnection
        exact (resumes.deciding fitting deciding).imp_right
          fun deciding => ⟨other, by rw [here]; exact deciding⟩
      · exact .inr ⟨other, by rw [elsewhere other isConnection]; exact deciding⟩

/-- A connection reports its status. -/
theorem Consistent.change (consistent : Consistent state) {status : ServiceConnectionStatus}
    (listed : connection ∈ state.serviceConnections)
    (precedes : (state.statuses connection).precedes status = true)
    (idle : state.handlers connection = .none) :
    Consistent { state.goTo connection (.entered status) with
      statuses := Function.update state.statuses connection status
      reported := state.reported ∨ status = .connected ∨ status = .disconnected } := by
  have fitting := consistent.fitting connection
  have elsewhere : ∀ other, other ≠ connection →
      (state.goTo connection (.entered status)).handlers other = state.handlers other := by
    intro other differs
    rw [goTo_handlers, if_neg differs]
  have here : (state.goTo connection (.entered status)).handlers connection = .entered status := by
    rw [goTo_handlers, if_pos rfl]
  have busy : ∀ other, state.handlers other ≠ .none → other ≠ connection := by
    rintro other isBusy rfl
    exact isBusy idle
  have unlocked : ¬ state.statusLock = some connection := by
    rw [← fitting.locked, idle]
    exact id
  refine ⟨?_, ?_, ?_, ?_, ?_⟩
  · intro other
    by_cases same : other = connection
    · subst same
      refine ⟨?_, fun _ => listed, ?_, ?_, ?_, ?_, ?_⟩
      all_goals dsimp only
      all_goals simp [unlocked, State.goTo]
    · exact (consistent.fitting other).frame (elsewhere other same)
        (Function.update_of_ne same ..) (fun _ => id) Iff.rfl fun _ => rfl
  · intro quiet
    refine consistent.online fun other value isNotifying => ?_
    refine quiet other value ((elsewhere other (busy other ?_)).trans isNotifying)
    rw [isNotifying]
    nofun
  · rintro ⟨other, connected⟩ isDown
    change Function.update state.statuses connection status other = .connected at connected
    change ∃ other, Function.update state.statuses connection status other = .connected ∧
      ((state.goTo connection (.entered status)).handlers other).Pending
    by_cases isConnection : other = connection
    · subst isConnection
      exact ⟨other, connected, by rw [here]; trivial⟩
    · rw [Function.update_of_ne isConnection] at connected
      obtain ⟨witness, isUp, pending⟩ := consistent.rises ⟨other, connected⟩ isDown
      have differs : witness ≠ connection := busy witness fun none => by
        rw [none] at pending
        exact pending
      refine ⟨witness, ?_, ?_⟩
      · rw [Function.update_of_ne differs]
        exact isUp
      · rw [elsewhere witness differs]
        exact pending
  · intro down isUp
    change ∀ other, Function.update state.statuses connection status other ≠ .connected at down
    change ∃ other, ((state.goTo connection (.entered status)).handlers other).Falling
    by_cases wasConnected : state.statuses connection = .connected
    · -- From `Connected` a connection goes to `Disconnected` only.
      refine ⟨connection, ?_⟩
      rw [here]
      rw [wasConnected] at precedes
      cases status <;> first | rfl | cases precedes
    · have wasDown : ∀ other, state.statuses other ≠ .connected := by
        intro other connected
        have differs : other ≠ connection := by
          rintro rfl
          exact wasConnected connected
        refine down other ?_
        rw [Function.update_of_ne differs]
        exact connected
      obtain ⟨witness, falling⟩ := consistent.falls wasDown isUp
      have differs : witness ≠ connection := busy witness fun none => by
        rw [none] at falling
        exact falling
      refine ⟨witness, ?_⟩
      rw [elsewhere witness differs]
      exact falling
  · intro isReported
    change decide (state.reported ∨ status = .connected ∨ status = .disconnected) = true
      at isReported
    change state.status ≠ .inited ∨
      ∃ other, ((state.goTo connection (.entered status)).handlers other).Deciding
    rcases of_decide_eq_true isReported with before | now
    · rcases consistent.reported before with decided | ⟨witness, deciding⟩
      · exact .inl decided
      · have differs : witness ≠ connection := busy witness fun none => by
          rw [none] at deciding
          exact deciding
        exact .inr ⟨witness, by rw [elsewhere witness differs]; exact deciding⟩
    · exact .inr ⟨connection, by rw [here]; exact now⟩

omit [DecidableEq κ] in
/-- The list may lose connections that have no handler and are not connected. -/
theorem Consistent.relist (consistent : Consistent state) {list : List κ}
    (kept : ∀ connection, state.handlers connection ≠ .none ∨
      state.statuses connection = .connected → connection ∈ state.serviceConnections →
        connection ∈ list) :
    Consistent { state with serviceConnections := list } where
  fitting connection :=
    (consistent.fitting connection).frame rfl rfl (kept connection) Iff.rfl fun _ => rfl
  online := consistent.online
  rises := consistent.rises
  falls := consistent.falls
  reported := consistent.reported

omit [DecidableEq κ] in
theorem consistent_initial (connections : List κ) :
    Consistent ({ serviceConnections := connections } : State κ) where
  fitting _ := by constructor <;> simp
  online _ := .inl rfl
  rises := by simp
  falls := by simp
  reported := by simp

theorem consistent_step {action : Action κ} (consistent : Consistent state)
    (current : Current state action) (stepped : step state action = some next) :
    Consistent next := by
  -- A connection that has completed has no handler and is not connected.
  have complete : ∀ {old : κ}, state.isComplete old = true → ∀ other,
      state.handlers other ≠ .none ∨ state.statuses other = .connected → other ≠ old := by
    intro old isComplete other present same
    subst same
    obtain ⟨-, disconnected, idle⟩ := of_decide_eq_true isComplete
    rcases present with busy | connected
    · exact busy idle
    · rw [disconnected] at connected
      cases connected
  cases action with
  | change connection status =>
      simp only [step] at stepped
      split_ifs at stepped with changes
      cases stepped
      exact consistent.change changes.1 changes.2.1 changes.2.2
  | resume connection =>
      obtain ⟨container, handler, resumes, rfl⟩ := resumes_of_resume stepped
      exact consistent.resume current resumes
  | add connection =>
      simp only [step] at stepped
      split_ifs at stepped
      cases stepped
      exact consistent.relist fun other _ member => List.mem_append_left _ member
  | remove connection =>
      simp only [step] at stepped
      split_ifs at stepped with isComplete
      cases stepped
      refine consistent.relist fun other present member => ?_
      exact (List.mem_erase_of_ne (complete isComplete other present)).mpr member
  | replace old new =>
      simp only [step] at stepped
      split_ifs at stepped with both
      cases stepped
      obtain ⟨isComplete, -⟩ := both
      refine consistent.relist fun other present member => ?_
      have isListed : old ∈ state.serviceConnections := (of_decide_eq_true isComplete).1
      exact Threads.mem_set_of_ne (List.getElem?_idxOf isListed) member
        (complete isComplete other present)

end Invariant

/-! ## The status agrees with the connections -/

/-- When no assignment was out of date, then in every state without a handler, once a
connection has reported, the status and `Endpoint.Online` are those of the connections. -/
theorem container_status_agrees (connections : List κ) (actions : List (Action κ))
    {state : State κ}
    (ran : Machine.run step { serviceConnections := connections } actions = some state)
    (current : Machine.Along step Current { serviceConnections := connections } actions)
    (quiet : ∀ connection, state.handlers connection = .none)
    (reported : state.reported = true) :
    (state.status = .connected ↔
        ∃ connection ∈ state.serviceConnections, state.statuses connection = .connected) ∧
      state.online = decide (state.status = .connected) := by
  have consistent : Consistent state :=
    Machine.run_along consistent_step (consistent_initial connections) current ran
  have decided : state.status ≠ .inited := by
    rcases consistent.reported reported with decided | ⟨connection, deciding⟩
    · exact decided
    · rw [quiet] at deciding
      exact deciding.elim
  constructor
  · constructor
    · intro isConnected
      by_contra none
      have down : ∀ connection, state.statuses connection ≠ .connected := by
        intro connection connected
        exact none ⟨connection, (consistent.fitting connection).listed (.inr connected), connected⟩
      obtain ⟨connection, falling⟩ := consistent.falls down isConnected
      rw [quiet] at falling
      exact falling.elim
    · rintro ⟨connection, -, connected⟩
      by_contra isDown
      obtain ⟨witness, -, pending⟩ := consistent.rises ⟨connection, connected⟩ isDown
      rw [quiet] at pending
      exact pending.elim
  · refine (consistent.online ?_).resolve_left decided
    intro connection value
    rw [quiet]
    nofun

/-- Two connections connect. Both handlers have called `GetStatus` before either is inside the
lock; the second one then finds the status set. -/
def bothConnect : List (Action Bool) :=
  [.change false .connecting, .change true .connecting, .resume true, .resume false,
    .change false .connected, .change true .connected, .resume false, .resume true,
    .resume false, .resume true, .resume false, .resume true, .resume true, .resume true,
    .resume true, .resume false, .resume false]

theorem container_status_agrees_bothConnect :
    ∃ state, Machine.run step { serviceConnections := [false, true] } bothConnect = some state ∧
      state.status = .connected ∧ state.online = true := by
  refine ⟨_, rfl, ?_⟩
  have agrees := container_status_agrees [false, true] bothConnect rfl (by decide) (by decide) rfl
  have status := agrees.1.mpr ⟨false, by decide, rfl⟩
  exact ⟨status, agrees.2.trans (decide_eq_true status)⟩

/-- The first of two connections connects and its handler runs to its end. -/
def firstConnects : List (Action Bool) :=
  [.change false .connecting, .resume false, .change false .connected, .resume false,
    .resume false, .resume false, .resume false, .resume false, .resume false]

/-- Then it disconnects. Behind its `GetStatus` the second one connects, whose handler finds
the status still `Connected`; the first handler goes on and assigns `Disconnected`. -/
def secondConnects : List (Action Bool) :=
  firstConnects ++ [Action.change true .connecting, .resume true, .change false .disconnected,
    .resume false, .resume false, .resume false, .resume false, .change true .connected,
    .resume true, .resume false, .resume false, .resume false, .resume false]

theorem container_status_stale :
    ∃ state, Machine.run step { serviceConnections := [false, true] } secondConnects = some state ∧
      (∀ connection, state.handlers connection = .none) ∧ state.reported = true ∧
      ¬ (state.status = .connected ↔
        ∃ connection ∈ state.serviceConnections, state.statuses connection = .connected) :=
  ⟨_, rfl, by decide, rfl, by decide⟩

end AzureSignalR.ServiceConnections.ContainerStatus
