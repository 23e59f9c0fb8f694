import AzureSignalR.AspNet.ClientDisconnects

/-!
Contract: what the receive loop of an ASP.NET service connection promises of its clients.

Owns: that the messages of a client begin with its open message, and that a client that is in
the manager is not done.

Does not own: what a client passes to its transport.
-/

set_option autoImplicit false

namespace AzureSignalR.AspNet

variable {γ : Type}

/-! ## The receive loop -/

/-- The messages of a client begin with its open message. -/
structure Receiving (ids : γ → String) (state : State γ) : Prop where
  unwritten : ∀ client, (state.clients client).task = .notStarted →
    (state.clients client).arrived = []
  forwarding : ∀ opened, state.receiver = .forwarding (.openConnection opened) →
    ∀ client, state.table (ids opened) = some client → (state.clients client).arrived = []
  writing : ∀ client message, state.receiver = .writing client message →
    (state.clients client).task ≠ .notStarted ∧
      ∀ opened, message = .openConnection opened → (state.clients client).arrived = []
  departing : ∀ client graceful cleaning,
    state.receiver = .disconnecting (.transport client) graceful cleaning →
      (state.clients client).task = .ended

/-- What no step but a write takes from a client. -/
structure Onward (before after : Client γ) : Prop where
  arrived : after.arrived = before.arrived
  started : after.task = .notStarted → before.task = .notStarted
  ended : before.task = .ended → after.task = .ended

theorem Onward.refl (context : Client γ) : Onward context context := ⟨rfl, id, id⟩

theorem Remains.onward {before after : Client γ} (remains : Remains before after) :
    Onward before after where
  arrived := remains.arrived
  started := remains.task.symm.trans
  ended := remains.task.trans

namespace Receiving

variable {ids : γ → String} {state next : State γ} {place : γ → Place γ}

theorem start : Receiving ids ({} : State γ) where
  unwritten := fun _ _ => rfl
  forwarding := nofun
  writing := nofun
  departing := nofun

/-- The receive loop stays where it is. -/
theorem of_onward (receiving : Receiving ids state)
    (onward : ∀ client, Onward (state.clients client) (next.clients client))
    (receiver : next.receiver = state.receiver)
    (table : ∀ {connectionId client}, next.table connectionId = some client →
      state.table connectionId = some client) : Receiving ids next where
  unwritten client notStarted := by
    rw [(onward client).arrived]
    exact receiving.unwritten client ((onward client).started notStarted)
  forwarding opened isForwarding client listed := by
    rw [receiver] at isForwarding
    rw [(onward client).arrived]
    exact receiving.forwarding opened isForwarding client (table listed)
  writing client message isWriting := by
    rw [receiver] at isWriting
    obtain ⟨started, opens⟩ := receiving.writing client message isWriting
    refine ⟨fun notStarted => started ((onward client).started notStarted), ?_⟩
    rw [(onward client).arrived]
    exact opens
  departing client graceful cleaning isDeparting := by
    rw [receiver] at isDeparting
    exact (onward client).ended (receiving.departing client graceful cleaning isDeparting)

/-- The receive loop goes on to a place that promises nothing. -/
theorem of_free (receiving : Receiving ids state)
    (onward : ∀ client, Onward (state.clients client) (next.clients client))
    (forwarding : ∀ opened, next.receiver ≠ .forwarding (.openConnection opened))
    (writing : ∀ client message, next.receiver ≠ .writing client message)
    (departing : ∀ client graceful cleaning,
      next.receiver ≠ .disconnecting (.transport client) graceful cleaning) :
    Receiving ids next where
  unwritten client notStarted := by
    rw [(onward client).arrived]
    exact receiving.unwritten client ((onward client).started notStarted)
  forwarding opened isForwarding := absurd isForwarding (forwarding opened)
  writing client message isWriting := absurd isWriting (writing client message)
  departing client graceful cleaning isDeparting :=
    absurd isDeparting (departing client graceful cleaning)

theorem routes [DecidableEq γ] (receiving : Receiving ids state) (placed : Placed ids state place)
    {receiver : Receiver γ} (route : Route ids state state.receiver receiver) :
    Receiving ids (state.goTo receiver) := by
  have same (client : γ) := Onward.refl (state.clients client)
  have isReceiver : ∃ before, state.receiver = before := ⟨_, rfl⟩
  obtain ⟨before, isReceiver⟩ := isReceiver
  rw [isReceiver] at route
  cases route with
  | receive message isOpen =>
      exact receiving.of_free same (fun opened isForwarding =>
        isOpen opened (Receiver.forwarding.inj isForwarding)) nofun nofun
  | find message client listed =>
      refine { receiving with forwarding := nofun, writing := ?_, departing := nofun }
      rintro _ _ ⟨⟩
      refine ⟨fun notStarted => ?_, ?_⟩
      · have fits := placed.fits client
        have inTable := fits.table.mp (by rw [placed.tableKey listed]; exact listed)
        rcases fits.started notStarted with outside | listing | starting
        · rw [outside] at inTable
          cases inTable
        · rw [listing] at inTable
          cases inTable
        · rw [isReceiver] at starting
          cases starting
      · rintro opened rfl
        exact receiving.forwarding opened isReceiver client listed
  | clean | refuse | miss | reject | visit | skip | goBack | finish =>
      exact receiving.of_free same nofun nofun nofun

variable [DecidableEq γ] {client : γ}

theorem starts (receiving : Receiving ids state) (placed : Placed ids state place)
    (starting : state.receiver = .starting client) :
    Receiving ids ((state.run client .waiting).goTo (.forwarding (.openConnection client))) := by
  have fits := placed.fits client
  obtain ⟨live, notStarted⟩ := fits.starting starting
  have empty := receiving.unwritten client notStarted
  have arrived (other : γ) : ((state.run client .waiting).clients other).arrived =
      (state.clients other).arrived := by
    rw [State.clients_run]
    by_cases isClient : other = client
    · rw [isClient, Function.update_self]
    · rw [Function.update_of_ne isClient]
  refine { unwritten := ?_, forwarding := ?_, writing := nofun, departing := nofun }
  · intro other stillNotStarted
    have isNotStarted : ((state.run client .waiting).clients other).task = .notStarted :=
      stillNotStarted
    refine (arrived other).trans ?_
    by_cases isClient : other = client
    · rw [isClient]
      exact empty
    · rw [State.clients_run, Function.update_of_ne isClient] at isNotStarted
      exact receiving.unwritten other isNotStarted
  · rintro _ ⟨⟩ other listed
    have isListed := fits.table.mpr (by rw [live]; rfl)
    have same := (show state.table (ids client) = some other from listed).symm.trans isListed
    rw [Option.some.inj same]
    exact (arrived client).trans empty

theorem writes (receiving : Receiving ids state) {message : Message γ}
    (writing : state.receiver = .writing client message) :
    Receiving ids ((state.change client fun context => context.write message).goTo .idle) := by
  refine { unwritten := ?_, forwarding := nofun, writing := nofun, departing := nofun }
  intro other notStarted
  have isNotStarted : (Function.update state.clients client
      ((state.clients client).write message) other).task = .notStarted := notStarted
  show (Function.update state.clients client
    ((state.clients client).write message) other).arrived = []
  by_cases isClient : other = client
  · rw [isClient, Function.update_self] at isNotStarted
    exact absurd isNotStarted (receiving.writing client message writing).1
  · rw [Function.update_of_ne isClient] at isNotStarted ⊢
    exact receiving.unwritten other isNotStarted

/-- The receive loop tells a transport at once only behind an application task that has ended. -/
theorem ended_of_transport {graceful : Bool} {disconnect : Disconnect γ}
    {behind : Option (Disconnect γ)} (isBehind : behind = some (.transport client))
    (performed : Performs true graceful state disconnect next behind) :
    (next.clients client).task = .ended := by
  cases performed with
  | ended client ended =>
      cases isBehind
      exact ended
  | goesOn =>
      split at isBehind
      · cases isBehind
      · cases isBehind
  | unknown | leave | unlisted | hold | complete | missing | cancel | wait | transport =>
      cases isBehind

theorem performs (receiving : Receiving ids state) {disconnect : Disconnect γ} {graceful : Bool}
    {cleaning : Option (Cleaning γ)} {behind : Option (Disconnect γ)}
    (performed : Performs true graceful state disconnect next behind) :
    Receiving ids (next.goTo (.behind graceful cleaning behind)) := by
  have onward (other : γ) := (performed.remains other).onward
  cases behind with
  | none =>
      cases cleaning with
      | none => exact receiving.of_free onward nofun nofun nofun
      | some cleaning => exact receiving.of_free onward nofun nofun nofun
  | some isBehind =>
      refine {
        (receiving.of_free onward nofun nofun nofun : Receiving ids (next.goTo .idle)) with
        forwarding := nofun
        writing := nofun
        departing := ?_ }
      rintro client _ _ ⟨⟩
      have ended := ended_of_transport rfl performed
      exact ended

/-- A step that changes one client. -/
theorem changes (receiving : Receiving ids state) {update : Client γ → Client γ}
    (onward : Onward (state.clients client) (update (state.clients client))) :
    Receiving ids (state.change client update) := by
  refine receiving.of_onward (fun other => ?_) rfl id
  rw [State.clients_change]
  by_cases isClient : other = client
  · rw [isClient, Function.update_self]
    exact onward
  · rw [Function.update_of_ne isClient]
    exact .refl _

theorem taskPerforms (receiving : Receiving ids state) {disconnect : Disconnect γ} {closes : Bool}
    {behind : Option (Disconnect γ)}
    (disconnecting : (state.clients client).task = .disconnecting disconnect closes)
    (performed : Performs false true state disconnect next behind) :
    Receiving ids (next.run client (.behind closes behind)) := by
  have between : Receiving ids next :=
    receiving.of_onward (fun other => (performed.remains other).onward) performed.receiver
      performed.table
  have isTask := (performed.remains client).task.trans disconnecting
  refine between.changes ⟨rfl, ?_, ?_⟩
  · intro notStarted
    cases behind with
    | some disconnect => cases notStarted
    | none =>
        cases closes with
        | true => cases notStarted
        | false => cases notStarted
  · rw [isTask]
    nofun

theorem step (receiving : Receiving ids state) (placed : Placed ids state place)
    {action : Action γ} (changed : Change ids state action next) : Receiving ids next := by
  have same (client : γ) := Onward.refl (state.clients client)
  cases changed with
  | opens => exact receiving.of_free same nofun nofun nofun
  | routes route => exact receiving.routes placed route
  | registers => exact receiving.of_free same nofun nofun nofun
  | relists => exact receiving.of_free same nofun nofun nofun
  | lists => exact receiving.of_free same nofun nofun nofun
  | starts client starting => exact receiving.starts placed starting
  | writes client message writing => exact receiving.writes writing
  | performs disconnect graceful cleaning disconnecting performed =>
      exact receiving.performs performed
  | turns client turn =>
      obtain ⟨started, -⟩ := notStarted_of_turn turn
      refine receiving.changes ⟨rfl, fun notStarted => absurd notStarted started, fun ended => ?_⟩
      rw [ended] at turn
      cases turn
  | reads client message channel reading isNext =>
      exact receiving.changes ⟨rfl, nofun, by rw [reading]; nofun⟩
  | creates client opened creating =>
      exact receiving.changes ⟨rfl, nofun, by rw [creating]; nofun⟩
  | passes client payload passing =>
      exact receiving.changes ⟨rfl, nofun, by rw [passing]; nofun⟩
  | taskPerforms client disconnect closes disconnecting performed =>
      exact receiving.taskPerforms disconnecting performed
  | awaits | timesOut | cancels | tells => exact receiving.changes ⟨rfl, id, id⟩

end Receiving

/-! ## Clients that stay -/

/-- In front of the manager, or not disconnecting at all. -/
def ApplicationTask.isStaying : ApplicationTask γ → Bool
  | .ended => false
  | .disconnecting (.manager _) _ => true
  | .disconnecting _ _ => false
  | .notStarted | .waiting | .reading | .checking _ | .creating _ | .passing _ => true

structure Staying (context : Client γ) : Prop where
  completed : context.completed = false
  cancelled : context.cancelled = false
  task : context.task.isStaying = true

section Stays

variable (ids : γ → String)

/-- A client that has not started, or is in the manager, stays. -/
def Stays (state : State γ) : Prop :=
  ∀ client, (state.clients client).task = .notStarted ∨
    state.manager (ids client) = some client → Staying (state.clients client)

end Stays

section Keeps

variable [DecidableEq γ] {ids : γ → String} {state next : State γ} {place : γ → Place γ}
  {client : γ}

theorem Stays.changes (stays : Stays ids state) {update : Client γ → Client γ}
    (started : (update (state.clients client)).task = .notStarted →
      (state.clients client).task = .notStarted)
    (staying : state.manager (ids client) = some client ∨
      (update (state.clients client)).task = .notStarted → Staying (state.clients client) →
        Staying (update (state.clients client))) :
    Stays ids (state.change client update) := by
  intro other early
  rw [State.clients_change] at early ⊢
  by_cases isClient : other = client
  · rw [isClient, Function.update_self] at early ⊢
    exact staying early.symm (stays client (early.imp started id))
  · rw [Function.update_of_ne isClient] at early ⊢
    exact stays other early

omit [DecidableEq γ] in
theorem staying_of_turn {task : ApplicationTask γ} {context : Client γ}
    (turn : Turn ids context context.task task) (staying : Staying context) :
    Staying { context with task := task } := by
  refine { staying with task := ?_ }
  show task.isStaying = true
  generalize context.task = before at turn
  cases turn with
  | stop stops =>
      rw [staying.completed, staying.cancelled] at stops
      rcases stops with completed | cancelled
      · cases completed
      · cases cancelled
  | throws message cancelled =>
      rw [staying.cancelled] at cancelled
      cases cancelled
  | wake | rest | opens | closes | data | fails => rfl

omit [DecidableEq γ] in
/-- A client that somebody has in hand, or behind its wait, is out of the manager. -/
theorem Placed.not_staying (placed : Placed ids state place)
    (inside : (place client).isInside = true) (left : (place client).inManager = false) :
    ¬ ((state.clients client).task = .notStarted ∨ state.manager (ids client) = some client) := by
  rintro (notStarted | inManager)
  · exact placed.started_of_inside inside left notStarted
  · rw [(placed.fits client).manager.mp inManager] at left
    cases left

theorem Stays.leaves (stays : Stays ids state)
    (early : ¬ ((state.clients client).task = .notStarted ∨
      state.manager (ids client) = some client)) {update : Client γ → Client γ}
    (task : (update (state.clients client)).task = (state.clients client).task) :
    Stays ids (state.change client update) := by
  refine stays.changes (by rw [task]; exact id) fun known => absurd ?_ early
  rw [task] at known
  exact known.symm

theorem Stays.performs (stays : Stays ids state) (placed : Placed ids state place)
    {holder : Holder γ} {waits graceful : Bool} {disconnect : Disconnect γ}
    {behind : Option (Disconnect γ)} (role : state.role holder = roleOf (some disconnect))
    (performed : Performs waits graceful state disconnect next behind) : Stays ids next := by
  have held {held : γ} (holding : roleOf (some disconnect) = .holding held) :
      ¬ ((state.clients held).task = .notStarted ∨ state.manager (ids held) = some held) := by
    have isPlace := ((placed.fits held).held holder).mpr (role.trans holding)
    exact placed.not_staying (by rw [isPlace]; rfl) (by rw [isPlace]; rfl)
  cases performed with
  | unknown | unlisted | hold | missing | ended | goesOn => exact stays
  | leave connectionId client present =>
      exact fun other early => stays other (early.imp id Placed.update_none_some)
  | complete client => exact stays.leaves (held rfl) rfl
  | cancel client => exact stays.leaves (held rfl) rfl
  | wait client => exact stays.leaves (held rfl) rfl
  | transport client => exact stays.leaves (held rfl) rfl

/-- The client of the task is out of the manager before its disconnect goes on. -/
theorem Stays.taskPerforms (stays : Stays ids state) (tracked : Tracked ids state place)
    {disconnect : Disconnect γ} {closes : Bool} {behind : Option (Disconnect γ)}
    (disconnecting : (state.clients client).task = .disconnecting disconnect closes)
    (performed : Performs false true state disconnect next behind) :
    Stays ids (next.run client (.behind closes behind)) := by
  have role : state.role (.task client) = roleOf (some disconnect) := by
    rw [State.role, disconnecting]
    rfl
  have addressed := (tracked.guarded.addressed client).task
  rw [disconnecting] at addressed
  have out : next.manager (ids client) ≠ some client := by
    intro present
    cases performed with
    | unknown connectionId absent =>
        have own : connectionId = ids client := addressed
        rw [← own, absent] at present
        cases present
    | leave connectionId =>
        have own : connectionId = ids client := addressed
        rw [own] at present
        have removed : Function.update state.manager (ids client) none (ids client) =
          some client := present
        rw [Function.update_self] at removed
        cases removed
    | unlisted | hold | complete | missing | ended | goesOn | cancel | wait | transport =>
        have staying := (stays client (.inr present)).task
        rw [disconnecting] at staying
        cases staying
  refine (stays.performs tracked.placed role performed).changes ?_ ?_
  · intro notStarted
    cases behind with
    | some disconnect => cases notStarted
    | none =>
        cases closes with
        | true => cases notStarted
        | false => cases notStarted
  · rintro (present | notStarted)
    · exact absurd present out
    · cases behind with
      | some disconnect => cases notStarted
      | none =>
          cases closes with
          | true => cases notStarted
          | false => cases notStarted

theorem Stays.step (stays : Stays ids state) (tracked : Tracked ids state place)
    {action : Action γ} (changed : Change ids state action next) : Stays ids next := by
  have placed := tracked.placed
  cases changed with
  | opens | routes | relists | lists => exact stays
  | registers client adding unknown =>
      intro other early
      refine stays other (early.elim .inl fun inManager => ?_)
      have fits := placed.fits client
      by_cases same : ids other = ids client
      · left
        have isOther : Function.update state.manager (ids client) (some client) (ids other) =
          some other := inManager
        rw [same, Function.update_self, Option.some.injEq] at isOther
        rw [← isOther]
        exact fits.unstarted (.inl (fits.adding adding).1)
      · exact .inr ((Function.update_of_ne same _ _).symm.trans inManager)
  | starts client starting =>
      have running : Stays ids (state.run client .waiting) :=
        stays.changes (fun notStarted => by cases notStarted) fun _ staying =>
          { staying with task := rfl }
      exact running
  | writes client message writing =>
      have written : Stays ids (state.change client fun context => context.write message) :=
        stays.changes id fun _ staying => { staying with }
      exact written
  | performs disconnect graceful cleaning disconnecting performed =>
      have role : state.role .receiver = roleOf (some disconnect) := by
        rw [State.role, disconnecting]
        rfl
      have kept := stays.performs placed role performed
      exact kept
  | turns client turn =>
      obtain ⟨started, -⟩ := notStarted_of_turn turn
      exact stays.changes (fun notStarted => absurd notStarted started)
        fun _ => staying_of_turn turn
  | reads | creates | passes =>
      exact stays.changes (fun notStarted => by cases notStarted) fun _ staying =>
        { staying with task := rfl }
  | taskPerforms client disconnect closes disconnecting performed =>
      exact stays.taskPerforms tracked disconnecting performed
  | awaits | timesOut => exact stays.changes id fun _ staying => { staying with }
  | cancels client cancelling =>
      have waited := (placed.fits client).waited.mpr (by rw [cancelling]; rfl)
      refine stays.leaves (placed.not_staying ?_ ?_) rfl
      · rw [waited]
        rfl
      · rw [waited]
        rfl
  | tells => exact stays.changes id fun _ staying => { staying with }

end Keeps

end AzureSignalR.AspNet
