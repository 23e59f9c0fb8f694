import AzureSignalR.AspNet.ClientMessages
import AzureSignalR.AspNet.ClientReceiving

/-!
Contract: the life cycle of the clients of an ASP.NET service connection.

Owns: that the last clean-up leaves nobody behind, that every client passes on what it has
handled, and the life cycle in every undisturbed run.

Does not own: that a disconnect under way ends, as `CreateConnection` and the wait take their time.
-/

set_option autoImplicit false

namespace AzureSignalR.AspNet

open Library

variable {γ : Type}

/-! ## The life cycle -/

section Statement

variable (ids : γ → String)

/-- A disconnect of the client is under way: a caller has removed its id from the manager or has
the client in hand, or it is behind its wait. -/
def State.IsDisconnecting (state : State γ) (client : γ) : Prop :=
  (∃ holder, state.role holder = .removing (ids client) ∨ state.role holder = .holding client) ∨
    (state.clients client).waiter.isActive = true

structure LifeCycle (state : State γ) : Prop where
  /-- Data is passed in order of arrival, and `OnDisconnected` comes after it. -/
  ordered : ∀ client, ∀ events ∈ (state.clients client).transports, ∃ handled,
    handled <+: (state.clients client).arrived ∧
      events = eventsOf handled ++ (state.clients client).farewell
  /-- While a close is handled, what has arrived before it has been passed. -/
  closes : ∀ client disconnect, (state.clients client).task = .disconnecting disconnect true →
    ∃ before connectionId, before ++ [.closeConnection connectionId] <+:
      (state.clients client).arrived ∧
        ∀ events ∈ (state.clients client).transports,
          events = eventsOf before ++ (state.clients client).farewell
  once : ∀ client, ∀ events ∈ (state.clients client).transports,
    events.count .disconnected = if (state.clients client).left then 1 else 0
  created : ∀ client, (state.clients client).transports.length ≤ 1
  /-- A client with a transport is in both tables and its task goes on, or a disconnect of it is
  under way, or its transport has been told. -/
  known : ∀ client, (state.clients client).transports ≠ [] →
    (state.manager (ids client) = some client ∧ state.table (ids client) = some client ∧
      (state.clients client).task ≠ .ended) ∨
      state.IsDisconnecting ids client ∨ (state.clients client).left = true
  gone : ∀ client, (state.clients client).left = true →
    state.manager (ids client) ≠ some client ∧ state.table (ids client) ≠ some client
  /-- Behind the last clean-up only disconnects are left. -/
  shutdown : state.receiver = .ended → (∀ connectionId, state.manager connectionId = none) ∧
    (∀ client, state.table (ids client) = some client → state.IsDisconnecting ids client) ∧
    ∀ client, (state.clients client).transports ≠ [] →
      state.IsDisconnecting ids client ∨ (state.clients client).left = true

end Statement

/-! ## Clean-ups -/

def Receiver.cleaning? : Receiver γ → Option (Cleaning γ)
  | .cleaning rest => some rest
  | .disconnecting _ _ rest => rest
  | _ => none

/-- The last clean-up has yet to come to every client of the manager. -/
structure Closing (ids : γ → String) (state : State γ) : Prop where
  last : ∀ cleaning, state.receiver.cleaning? = some cleaning → cleaning.last = true →
    cleaning.instanceId = "" ∧ ∀ client, state.manager (ids client) = some client →
      client ∈ cleaning.rest ∨ state.receiver.disconnect? = some (.manager (ids client))
  ended : state.receiver = .ended → ∀ connectionId, state.manager connectionId = none

namespace Closing

variable {ids : γ → String} {state next : State γ} {place : γ → Place γ}

theorem start : Closing ids ({} : State γ) := ⟨nofun, nofun⟩

/-- The receive loop stays where it is. -/
theorem of_less (closing : Closing ids state) (receiver : next.receiver = state.receiver)
    (manager : ∀ {connectionId client}, next.manager connectionId = some client →
      state.manager connectionId = some client) : Closing ids next where
  last cleaning isCleaning isLast := by
    rw [receiver] at isCleaning ⊢
    obtain ⟨all, rest⟩ := closing.last cleaning isCleaning isLast
    exact ⟨all, fun client known => rest client (manager known)⟩
  ended isEnded connectionId := by
    rw [receiver] at isEnded
    have empty := closing.ended isEnded connectionId
    cases found : next.manager connectionId with
    | none => rfl
    | some client =>
        rw [manager found] at empty
        cases empty

variable [DecidableEq γ]

theorem routes (closing : Closing ids state) (placed : Placed ids state place)
    {receiver : Receiver γ} (route : Route ids state state.receiver receiver) :
    Closing ids (state.goTo receiver) := by
  have isReceiver : ∃ before, state.receiver = before := ⟨_, rfl⟩
  obtain ⟨before, isReceiver⟩ := isReceiver
  have last := closing.last
  rw [isReceiver] at route last
  cases route with
  | receive | refuse | miss | find | reject | goBack => exact ⟨nofun, nofun⟩
  | clean cleaning all rest =>
      refine ⟨?_, nofun⟩
      rintro _ ⟨⟩ isLast
      refine ⟨all isLast, fun client known => .inl ?_⟩
      have fits := placed.fits client
      have live := placed.live_of_manager known (by rw [isReceiver]; nofun)
      rw [rest, List.mem_filter, decide_eq_true_eq]
      refine ⟨?_, fits.table.mpr (by rw [live]; rfl)⟩
      by_contra fresh
      rw [fits.fresh fresh] at live
      cases live
  | visit client cleaning member =>
      refine ⟨?_, nofun⟩
      rintro _ ⟨⟩ isLast
      obtain ⟨all, rest⟩ := last cleaning rfl isLast
      refine ⟨all, fun other known => ?_⟩
      by_cases isClient : other = client
      · exact .inr (by rw [isClient]; rfl)
      · left
        exact (List.mem_erase_of_ne isClient).mpr ((rest other known).resolve_right nofun)
  | skip client cleaning member some =>
      refine ⟨?_, nofun⟩
      rintro _ ⟨⟩ isLast
      exact absurd (last cleaning rfl isLast).1 some
  | finish cleaning done isLast =>
      refine ⟨nofun, fun _ connectionId => ?_⟩
      cases found : state.manager connectionId with
      | none => exact found
      | some client =>
          have known : state.manager (ids client) = some client := by
            rw [placed.managerKey found, found]
          rcases (last cleaning rfl isLast).2 client known with member | disconnecting
          · rw [done] at member
            cases member
          · cases disconnecting

theorem performs (closing : Closing ids state) {disconnect : Disconnect γ} {graceful : Bool}
    {cleaning : Option (Cleaning γ)} {behind : Option (Disconnect γ)}
    (disconnecting : state.receiver = .disconnecting disconnect graceful cleaning)
    (performed : Performs true graceful state disconnect next behind) :
    Closing ids (next.goTo (.behind graceful cleaning behind)) := by
  have last := closing.last
  rw [disconnecting] at last
  have isCleaning : (Receiver.behind graceful cleaning behind).cleaning? = cleaning ∧
      Receiver.behind graceful cleaning behind ≠ .ended := by
    cases behind with
    | some disconnect => exact ⟨rfl, nofun⟩
    | none =>
        cases cleaning with
        | none => exact ⟨rfl, nofun⟩
        | some cleaning => exact ⟨rfl, nofun⟩
  refine ⟨fun rest isRest isLast => ?_, fun ended => absurd ended isCleaning.2⟩
  obtain ⟨all, others⟩ := last rest (isCleaning.1.symm.trans isRest) isLast
  refine ⟨all, fun client known =>
    .inl ((others client (performed.manager known)).resolve_right ?_)⟩
  intro isClient
  have isDisconnect : disconnect = .manager (ids client) := Option.some.inj isClient
  rw [isDisconnect] at performed
  -- its id is out of the manager behind this step
  cases performed with
  | unknown _ absent =>
      have present : state.manager (ids client) = some client := known
      rw [absent] at present
      cases present
  | leave =>
      have removed : Function.update state.manager (ids client) none (ids client) = some client :=
        known
      rw [Function.update_self] at removed
      cases removed

theorem step (closing : Closing ids state) (placed : Placed ids state place) {action : Action γ}
    (changed : Change ids state action next) : Closing ids next := by
  cases changed with
  | opens | registers | relists | lists | starts | writes => exact ⟨nofun, nofun⟩
  | routes route => exact closing.routes placed route
  | performs disconnect graceful cleaning disconnecting performed =>
      exact closing.performs disconnecting performed
  | taskPerforms client disconnect closes disconnecting performed =>
      exact closing.of_less performed.receiver performed.manager
  | turns | reads | creates | passes | awaits | timesOut | cancels | tells =>
      exact closing.of_less rfl id

end Closing

/-! ## What the transports are told -/

section Sounds

variable [DecidableEq γ] {ids : γ → String} {state next : State γ} {place : γ → Place γ}
  {client : γ}

theorem sound_change {update : Client γ → Client γ}
    (sound : ∀ other, Sound (state.clients other))
    (changed : Sound (update (state.clients client))) (other : γ) :
    Sound ((state.change client update).clients other) := by
  rw [State.clients_change]
  by_cases isClient : other = client
  · rw [isClient, Function.update_self]
    exact changed
  · rw [Function.update_of_ne isClient]
    exact sound other

omit [DecidableEq γ] in
/-- `OnDisconnected` is in front of a client only once. -/
theorem Placed.left_of_held (placed : Placed ids state place) (holder : Holder γ)
    (held : state.role holder = .holding client) : (state.clients client).left = false := by
  refine Bool.eq_false_of_not_eq_true fun left => ?_
  have isHeld := ((placed.fits client).held holder).mpr held
  rw [(placed.fits client).gone.mpr left] at isHeld
  cases isHeld

theorem Performs.sound {waits graceful : Bool} {disconnect : Disconnect γ}
    {behind : Option (Disconnect γ)} (sound : ∀ other, Sound (state.clients other))
    (performed : Performs waits graceful state disconnect next behind)
    (tells : ∀ client, disconnect = .transport client →
      (state.clients client).left = false ∧ ((state.clients client).transports = [] ∨
        (state.clients client).isQuiet = true)) (other : γ) : Sound (next.clients other) := by
  cases performed with
  | unknown | leave | unlisted | hold | missing | ended | goesOn => exact sound other
  | complete client => exact sound_change sound (sound client).complete other
  | cancel client => exact sound_change sound (sound client).cancelPendingRead other
  | wait client => exact sound_change sound ((sound client).wait .waiting nofun) other
  | transport client =>
      obtain ⟨present, quiet⟩ := tells client rfl
      exact sound_change sound ((sound client).onDisconnected present quiet) other

theorem sound_step (sound : ∀ other, Sound (state.clients other))
    (tracked : Tracked ids state place) (receiving : Receiving ids state) {action : Action γ}
    (undisturbed : Undisturbed ids state action) (changed : Change ids state action next)
    (other : γ) : Sound (next.clients other) := by
  have placed := tracked.placed
  cases changed with
  | opens | routes | registers | relists | lists => exact sound other
  | starts client starting =>
      have notStarted := ((placed.fits client).starting starting).2
      have started : Sound ((state.run client .waiting).clients other) :=
        sound_change sound ((sound client).start notStarted) other
      exact started
  | writes client message writing =>
      have opens := (receiving.writing client message writing).2
      have written :
          Sound ((state.change client fun context => context.write message).clients other) :=
        sound_change sound ((sound client).write opens) other
      exact written
  | performs disconnect graceful cleaning disconnecting performed =>
      refine performed.sound sound (fun client isTransport => ?_) other
      rw [isTransport] at disconnecting
      refine ⟨placed.left_of_held .receiver ?_, .inr ?_⟩
      · rw [State.role, disconnecting]
        rfl
      · rw [Client.isQuiet, receiving.departing client graceful cleaning disconnecting]
  | turns client turn => exact sound_change sound ((sound client).turn turn) other
  | reads client message channel reading isNext =>
      exact sound_change sound ((sound client).read reading isNext) other
  | creates client opened creating =>
      have present := undisturbed (by rw [Client.isCreating, creating])
      exact sound_change sound ((sound client).create creating present) other
  | passes client payload passing =>
      exact sound_change sound ((sound client).pass passing) other
  | taskPerforms client disconnect closes disconnecting performed =>
      have between := performed.sound sound fun own isTransport => by
        rw [isTransport] at disconnecting
        have held : state.role (.task client) = .holding own := by
          rw [State.role, disconnecting]
          rfl
        have isOwn := (placed.fits own).own client
          (.inr (((placed.fits own).held (.task client)).mpr held))
        refine ⟨placed.left_of_held _ held, ?_⟩
        rw [← isOwn]
        exact (sound client).quiet_of_disconnecting disconnecting
      have isTask := (performed.remains client).task.trans disconnecting
      exact sound_change between ((between client).disconnect isTask _) other
  | awaits client waiting ended =>
      exact sound_change sound ((sound client).await (.inl ended)) other
  | timesOut client waiting =>
      have cancelling := (sound client).wait .cancelling fun returned => by cases returned
      exact sound_change sound cancelling other
  | cancels client cancelling =>
      exact sound_change sound ((sound client).cancelPendingRead.await (.inr rfl)) other
  | tells client disconnecting =>
      have isActive := (placed.fits client).waited.mpr (by rw [disconnecting]; rfl)
      have present : (state.clients client).left = false := by
        refine Bool.eq_false_of_not_eq_true fun left => ?_
        rw [(placed.fits client).gone.mpr left] at isActive
        cases isActive
      have notPassing := undisturbed disconnecting
      have told := (sound client).onDisconnected present
        ((sound client).quiet_of_behind disconnecting notPassing)
      have returned := told.wait .returned fun impossible => by cases impossible
      exact sound_change sound returned other

end Sounds

/-! ## Every run -/

/-- What every undisturbed step keeps. -/
structure Living (ids : γ → String) (state : State γ) : Prop where
  tracked : ∃ place, Tracked ids state place
  receiving : Receiving ids state
  sound : ∀ client, Sound (state.clients client)
  stays : Stays ids state
  closing : Closing ids state

theorem Living.start {ids : γ → String} : Living ids ({} : State γ) where
  tracked := ⟨_, .start⟩
  receiving := .start
  sound := fun _ => .fresh
  stays := fun _ _ => ⟨rfl, rfl, rfl⟩
  closing := .start

theorem count_eventsOf (messages : List (Message γ)) :
    (eventsOf messages).count .disconnected = 0 := by
  rw [List.count_eq_zero]
  intro member
  obtain ⟨message, -, isEvent⟩ := List.mem_filterMap.mp member
  cases message with
  | openConnection | closeConnection => cases isEvent
  | connectionData connectionId payload =>
      have isData : eventOf payload = .disconnected := Option.some.inj isEvent
      rw [eventOf] at isData
      split at isData
      · cases isData
      · cases isData

section Runs

variable [DecidableEq γ] {ids instances : γ → String} {state next : State γ}

theorem Living.step {action : Action γ} (living : Living ids state)
    (undisturbed : Undisturbed ids state action)
    (stepped : step ids instances state action = some next) : Living ids next := by
  obtain ⟨⟨place, tracked⟩, receiving, sound, stays, closing⟩ := living
  have changed := change_of_step stepped
  exact {
    tracked := tracked.step undisturbed changed
    receiving := receiving.step tracked.placed changed
    sound := sound_step sound tracked receiving undisturbed changed
    stays := stays.step tracked changed
    closing := closing.step tracked.placed changed }

omit [DecidableEq γ] in
/-- A client is early, in both tables, disconnecting, or gone. -/
theorem Placed.cases {place : γ → Place γ} (placed : Placed ids state place) (client : γ) :
    (state.clients client).task = .notStarted ∨
      (state.manager (ids client) = some client ∧ state.table (ids client) = some client) ∨
      state.IsDisconnecting ids client ∨ (state.clients client).left = true := by
  have fits := placed.fits client
  cases isPlace : place client with
  | outside => exact .inl (fits.unstarted (.inl isPlace))
  | listing => exact .inl (fits.unstarted (.inr isPlace))
  | live =>
      refine .inr (.inl ⟨fits.manager.mpr ?_, fits.table.mpr ?_⟩)
      · rw [isPlace]
        rfl
      · rw [isPlace]
        rfl
  | leaving holder =>
      exact .inr (.inr (.inl (.inl ⟨holder, .inl (fits.leaving holder isPlace)⟩)))
  | held holder =>
      exact .inr (.inr (.inl (.inl ⟨holder, .inr ((fits.held holder).mp isPlace)⟩)))
  | waited => exact .inr (.inr (.inl (.inr (fits.waited.mp isPlace))))
  | gone => exact .inr (.inr (.inr (fits.gone.mp isPlace)))

omit [DecidableEq γ] in
theorem Sound.handled_begins {context : Client γ} (sound : Sound context) {events : List Event}
    (member : events ∈ context.transports) :
    ∃ handled, handled <+: context.arrived ∧ events = eventsOf handled ++ context.farewell := by
  obtain ⟨handled, isHandled, told, -⟩ := sound.passed
  refine ⟨handled, ?_, told events member⟩
  have taken : handled <+: context.taken := by
    cases isTask : context.task with
    | checking | creating =>
        rw [isTask] at isHandled
        exact ⟨_, isHandled.symm⟩
    | passing =>
        rw [isTask] at isHandled
        obtain ⟨connectionId, isTaken⟩ := isHandled
        exact ⟨_, isTaken.symm⟩
    | disconnecting disconnect closes =>
        rw [isTask] at isHandled
        cases closes with
        | true =>
            obtain ⟨connectionId, isTaken⟩ := isHandled
            exact ⟨_, isTaken.symm⟩
        | false => exact (show context.taken = handled from isHandled) ▸ List.prefix_refl _
    | ended =>
        rw [isTask] at isHandled
        exact isHandled
    | notStarted | waiting | reading =>
        rw [isTask] at isHandled
        exact (show context.taken = handled from isHandled) ▸ List.prefix_refl _
  rw [sound.channel]
  exact taken.trans (List.prefix_append _ _)

omit [DecidableEq γ] in
theorem Living.lifeCycle (living : Living ids state) : LifeCycle ids state := by
  obtain ⟨⟨place, placed, -⟩, receiving, sound, stays, closing⟩ := living
  have started (client : γ) (created : (state.clients client).transports ≠ []) :
      (state.clients client).task ≠ .notStarted := by
    intro notStarted
    obtain ⟨handled, isHandled, -, nonempty⟩ := (sound client).passed
    rw [notStarted] at isHandled
    have channel := (sound client).channel
    rw [receiving.unwritten client notStarted, show (state.clients client).taken = handled from
      isHandled] at channel
    exact nonempty created (List.append_eq_nil_iff.mp channel.symm).1
  refine {
    ordered := fun client events member => (sound client).handled_begins member
    closes := ?_
    once := ?_
    created := fun client => (sound client).created
    known := ?_
    gone := ?_
    shutdown := ?_ }
  · intro client disconnect disconnecting
    obtain ⟨handled, isHandled, told, -⟩ := (sound client).passed
    rw [disconnecting] at isHandled
    obtain ⟨connectionId, isTaken⟩ := isHandled
    refine ⟨handled, connectionId, ?_, told⟩
    rw [(sound client).channel, isTaken]
    exact List.prefix_append _ _
  · intro client events member
    obtain ⟨handled, -, isTold⟩ := (sound client).handled_begins member
    rw [isTold, List.count_append, count_eventsOf, Nat.zero_add, Client.farewell]
    split
    · rfl
    · rfl
  · intro client created
    rcases placed.cases client with early | ⟨known, listed⟩ | later
    · exact absurd early (started client created)
    · refine .inl ⟨known, listed, fun ended => ?_⟩
      have staying := (stays client (.inr known)).task
      rw [ended] at staying
      cases staying
    · exact .inr later
  · intro client left
    have isGone := (placed.fits client).gone.mpr left
    constructor
    · intro known
      have inManager := (placed.fits client).manager.mp known
      rw [isGone] at inManager
      cases inManager
    · intro listed
      have inTable := (placed.fits client).table.mp listed
      rw [isGone] at inTable
      cases inTable
  · intro ended
    have empty := closing.ended ended
    refine ⟨empty, ?_, ?_⟩
    · intro client listed
      have inTable := (placed.fits client).table.mp listed
      cases isPlace : place client with
      | leaving holder =>
          exact .inl ⟨holder, .inl ((placed.fits client).leaving holder isPlace)⟩
      | live =>
          have known := (placed.fits client).manager.mpr (by rw [isPlace]; rfl)
          rw [empty] at known
          cases known
      | outside | listing | held | waited | gone =>
          rw [isPlace] at inTable
          cases inTable
    · intro client created
      rcases placed.cases client with early | ⟨known, -⟩ | later
      · exact absurd early (started client created)
      · rw [empty] at known
        cases known
      · exact later

/-- In every undisturbed run each client passes its data in order, is disconnected once behind
it, and is in neither table then. -/
theorem client_life_cycle {actions : List (Action γ)}
    (along : Machine.Along (AspNet.step ids instances) (Undisturbed ids) {} actions)
    (ran : Machine.run (AspNet.step ids instances) {} actions = some state) :
    LifeCycle ids state :=
  (Machine.run_along Living.step Living.start along ran).lifeCycle

end Runs

/-- A client is opened, gets data and is closed. -/
def closedClient : List (Action Unit) :=
  [.openConnection (), .proceed, .proceed, .proceed, .proceed, .proceed,
    .connectionData "c" "hello", .proceed, .proceed, .closeConnection "c", .proceed, .proceed,
    .task () .completes, .task () .completes, .task () .completes, .task () .completes,
    .task () .completes, .task () .completes, .task () .completes, .task () .completes,
    .task () .completes, .task () .completes, .task () .completes, .task () .completes]

theorem client_life_cycle_closed : ∃ state,
    Machine.run (step (fun _ => "c") fun _ => "i") {} closedClient = some state ∧
      (state.clients ()).transports = [[.received "hello", .disconnected]] ∧
        LifeCycle (fun _ => "c") state := by
  have along : Machine.Along (step (fun _ => "c") fun _ => "i") (Undisturbed fun _ => "c") {}
    closedClient := by decide
  exact ⟨_, rfl, rfl, client_life_cycle along rfl⟩

/-- The wait of the last clean-up times out while the connection of a client is created. -/
def lateClient : List (Action Unit) :=
  [.openConnection (), .proceed, .proceed, .proceed, .proceed, .proceed, .task () .completes,
    .task () .completes, .task () .completes, .shutdown, .visit (), .proceed, .proceed, .proceed,
    .proceed, .proceed, .proceed, .proceed, .waiter () true, .waiter () true, .waiter () true,
    .task () .completes, .task () .completes, .task () .completes]

/-- Its transport is created behind the disconnect and is never told. -/
theorem client_not_disconnected : ∃ state,
    Machine.run (step (fun _ => "c") fun _ => "i") {} lateClient = some state ∧
      Machine.Stuck (step (fun _ => "c") fun _ => "i") state ∧
        (state.clients ()).transports = [[]] ∧ ¬ LifeCycle (fun _ => "c") state := by
  refine ⟨_, rfl, ?_, rfl, fun lifeCycle => ?_⟩
  · intro action
    cases action with
    | openConnection | connectionData | closeConnection | offline | shutdown | proceed | visit |
        task | waiter => rfl
  · have once := lifeCycle.once () [] (by decide)
    cases once

end AzureSignalR.AspNet
