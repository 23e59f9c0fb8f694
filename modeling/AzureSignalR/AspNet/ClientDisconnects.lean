import AzureSignalR.AspNet.ClientEntries

/-!
Contract: the disconnects of the clients of an ASP.NET service connection.

Owns: that a step of `PerformDisconnectCore`, by the receive loop, by an application task or
behind a wait, keeps the places of the clients, and with it every undisturbed step and run.

Does not own: the messages of a client.
-/

set_option autoImplicit false

namespace AzureSignalR.AspNet

variable {γ : Type} [DecidableEq γ] {ids : γ → String} {state next final : State γ}
  {place : γ → Place γ} {client : γ}

/-! ## One step -/

section Performs

variable {waits graceful : Bool} {disconnect : Disconnect γ} {behind : Option (Disconnect γ)}

/-- What a step of a disconnect leaves of a client. -/
structure Remains (before after : Client γ) : Prop where
  task : after.task = before.task
  channel : after.channel = before.channel
  arrived : after.arrived = before.arrived
  cancelled : before.cancelled = true → after.cancelled = true

omit [DecidableEq γ] in
theorem Remains.refl (context : Client γ) : Remains context context := ⟨rfl, rfl, rfl, id⟩

theorem remains_change {update : Client γ → Client γ}
    (remains : Remains (state.clients client) (update (state.clients client))) (other : γ) :
    Remains (state.clients other) ((state.change client update).clients other) := by
  rw [State.clients_change]
  by_cases isClient : other = client
  · rw [isClient, Function.update_self]
    exact remains
  · rw [Function.update_of_ne isClient]
    exact .refl _

theorem Performs.remains (performed : Performs waits graceful state disconnect next behind)
    (other : γ) : Remains (state.clients other) (next.clients other) := by
  cases performed with
  | unknown | leave | unlisted | hold | missing | ended | goesOn => exact .refl _
  | complete client => exact remains_change ⟨rfl, rfl, rfl, id⟩ other
  | cancel client => exact remains_change ⟨rfl, rfl, rfl, fun _ => rfl⟩ other
  | wait client => exact remains_change ⟨rfl, rfl, rfl, id⟩ other
  | transport client => exact remains_change ⟨rfl, rfl, rfl, id⟩ other

omit [DecidableEq γ] in
theorem Remains.hasControl {before after : Client γ} (remains : Remains before after)
    (control : after.hasControl = true) : before.hasControl = true := by
  rw [Client.hasControl, Bool.and_eq_true, Bool.not_eq_true'] at control ⊢
  rw [remains.channel] at control
  refine ⟨Bool.eq_false_of_not_eq_true fun cancelled => ?_, control.2⟩
  rw [remains.cancelled cancelled] at control
  cases control.1

omit [DecidableEq γ] in
theorem Remains.isArmed {before after : Client γ} (remains : Remains before after)
    (armed : after.isArmed = true) : before.isArmed = true := by
  rw [Client.isArmed, remains.task] at armed
  rw [Client.isArmed]
  split at armed
  · rfl
  · rfl
  · rename_i message _
    rw [Bool.and_eq_true, Bool.not_eq_true', Bool.or_eq_true] at armed ⊢
    refine ⟨Bool.eq_false_of_not_eq_true fun cancelled => ?_,
      armed.2.imp id remains.hasControl⟩
    rw [remains.cancelled cancelled] at armed
    cases armed.1
  · rw [Bool.and_eq_true] at armed ⊢
    exact ⟨armed.1, remains.hasControl armed.2⟩
  · cases armed
  · exact remains.hasControl armed
  · exact remains.hasControl armed
  · exact remains.hasControl armed
  · exact remains.hasControl armed

theorem Performs.contexts (performed : Performs waits graceful state disconnect next behind) :
    next.contexts = state.contexts := by
  cases performed with
  | unknown | leave | unlisted | hold | complete | missing | ended | goesOn | cancel | wait |
      transport => rfl

theorem Performs.receiver (performed : Performs waits graceful state disconnect next behind) :
    next.receiver = state.receiver := by
  cases performed with
  | unknown | leave | unlisted | hold | complete | missing | ended | goesOn | cancel | wait |
      transport => rfl

/-- It only takes entries out. -/
theorem Performs.manager {connectionId : String}
    (performed : Performs waits graceful state disconnect next behind)
    (found : next.manager connectionId = some client) :
    state.manager connectionId = some client := by
  cases performed with
  | leave => exact Placed.update_none_some found
  | unknown | unlisted | hold | complete | missing | ended | goesOn | cancel | wait |
      transport => exact found

theorem Performs.table {connectionId : String}
    (performed : Performs waits graceful state disconnect next behind)
    (found : next.table connectionId = some client) :
    state.table connectionId = some client := by
  cases performed with
  | hold => exact Placed.update_none_some found
  | unknown | leave | unlisted | complete | missing | ended | goesOn | cancel | wait |
      transport => exact found

/-- The roles are its callers'. -/
theorem Performs.role {holder : Holder γ}
    (performed : Performs waits graceful state disconnect next behind) :
    next.role holder = state.role holder := by
  have role {update : Client γ → Client γ} {some : γ}
      (task : (update (state.clients some)).task = (state.clients some).task) :
      (state.change some update).role holder = state.role holder := by
    by_cases isClient : holder = .task some
    · rw [isClient, State.role_change_self, task]
      rfl
    · exact State.role_change state some update isClient
  cases performed with
  | unknown | unlisted | missing | ended | goesOn => rfl
  | leave | hold =>
      cases holder with
      | receiver => rfl
      | task client => rfl
  | complete | cancel | wait | transport => exact role rfl

/-- A step of a disconnect keeps the places, whoever performs it and whatever its caller does
next. -/
theorem Placed.performs (placed : Placed ids state place) (holder : Holder γ) (final : State γ)
    (performed : Performs waits graceful state disconnect next behind)
    (role : state.role holder = roleOf (some disconnect))
    (live : ∀ connectionId client, disconnect = .manager connectionId →
      state.manager connectionId = some client →
        place client = .live ∧ state.receiver ≠ .starting client ∧
          ∀ caller, holder = .task caller → caller = client)
    (roles : ∀ other, other ≠ holder → final.role other = next.role other)
    (ownRole : final.role holder = roleOf behind)
    (view : ∀ other, SameView (final.clients other) (next.clients other))
    (clear : StaysClear state.receiver final.receiver) (contexts : final.contexts = next.contexts)
    (manager : final.manager = next.manager) (table : final.table = next.table) :
    ∃ place, Placed ids final place := by
  have allContexts := contexts.trans performed.contexts
  have others (other : Holder γ) (different : other ≠ holder) :
      final.role other = state.role other :=
    (roles other different).trans performed.role
  have steady {changed : γ} {updated : Client γ}
      (clients : next.clients = Function.update state.clients changed updated) {other : γ}
      (same : other = changed → SameView updated (state.clients changed)) :
      Steady state final other := by
    refine .of_sameView ((view other).trans ?_) clear allContexts
    rw [clients]
    by_cases isChanged : other = changed
    · rw [isChanged, Function.update_self]
      exact same isChanged
    · rw [Function.update_of_ne isChanged]
      exact .refl _
  have stays (clients : ∀ other, Steady state final other)
      (sameRole : roleOf behind = roleOf (some disconnect))
      (sameManager : final.manager = state.manager) (sameTable : final.table = state.table) :
      ∃ place, Placed ids final place := by
    refine ⟨place, placed.of_steady clients (fun other => ?_) sameManager sameTable⟩
    by_cases isHolder : other = holder
    · rw [isHolder, ownRole, sameRole, role]
    · exact others other isHolder
  have unchanged (clients : next.clients = state.clients) (other : γ) :
      Steady state final other := by
    refine .of_sameView ((view other).trans ?_) clear allContexts
    rw [clients]
    exact .refl _
  cases performed with
  | unknown => exact stays (unchanged rfl) rfl manager table
  | leave connectionId client present =>
      obtain ⟨isLive, later, own⟩ := live connectionId client rfl present
      have key := placed.managerKey present
      refine ⟨_, placed.leave isLive later role own others ?_ (unchanged rfl) ?_ table⟩
      · rw [ownRole, key]
        rfl
      · rw [manager, key]
        rfl
  | unlisted connectionId absent =>
      obtain ⟨client, key, leaving⟩ := placed.removing role
      have present := (placed.fits client).table.mpr (by rw [leaving]; rfl)
      rw [key, absent] at present
      cases present
  | hold connectionId client present =>
      obtain ⟨found, key, leaving⟩ := placed.removing role
      have isFound := (placed.fits found).table.mpr (by rw [leaving]; rfl)
      rw [key, present, Option.some.injEq] at isFound
      rw [← isFound] at leaving key
      refine ⟨_, placed.hold leaving others ?_ (unchanged rfl) manager ?_⟩
      · rw [ownRole]
        split
        · rfl
        · rfl
      · rw [table, key]
        rfl
  | complete client =>
      have changed := State.clients_change state client fun context =>
        { context with completed := true }
      exact stays (fun other => steady changed fun _ => ⟨rfl, rfl, Iff.rfl⟩) rfl manager table
  | missing client notStarted =>
      have held := ((placed.fits client).held holder).mpr role
      exact absurd notStarted
        (placed.started_of_inside (by rw [held]; rfl) (by rw [held]; rfl))
  | ended client ended => exact stays (unchanged rfl) rfl manager table
  | goesOn client =>
      refine stays (unchanged rfl) ?_ manager table
      split
      · rfl
      · rfl
  | cancel client =>
      have changed := State.clients_change state client Client.cancelPendingRead
      exact stays (fun other => steady changed fun _ => ⟨rfl, rfl, Iff.rfl⟩) rfl manager table
  | wait client =>
      have held := ((placed.fits client).held holder).mpr role
      have changed := State.clients_change state client fun context =>
        { context with waiter := .waiting }
      have viewed := view client
      rw [changed, Function.update_self] at viewed
      refine ⟨_, Placed.pass _ placed (.inl rfl) (by rw [held]; rfl)
        (by rw [held]; exact ⟨rfl, rfl⟩)
        (placed.sole_of_held held) (fun other => placed.not_of_held held) others ownRole
        (fun other different => steady changed fun same => absurd same different)
        (.of_task viewed.task clear allContexts) manager table ?_ ?_⟩
      · rw [viewed.waiter]
        exact ⟨fun _ => rfl, fun _ => rfl⟩
      · rw [viewed.left]
        refine ⟨nofun, fun left => ?_⟩
        rw [(placed.fits client).gone.mpr left] at held
        cases held
  | transport client =>
      have held := ((placed.fits client).held holder).mpr role
      have changed := State.clients_change state client Client.onDisconnected
      have viewed := view client
      rw [changed, Function.update_self] at viewed
      refine ⟨_, Placed.pass _ placed (.inr rfl) (by rw [held]; rfl)
        (by rw [held]; exact ⟨rfl, rfl⟩)
        (placed.sole_of_held held) (fun other => placed.not_of_held held) others ownRole
        (fun other different => steady changed fun same => absurd same different)
        (.of_task viewed.task clear allContexts) manager table ?_ ?_⟩
      · rw [viewed.waiter]
        refine ⟨nofun, fun active => ?_⟩
        rw [(placed.fits client).waited.mpr active] at held
        cases held
      · rw [viewed.left]
        exact ⟨fun _ => rfl, fun _ => rfl⟩

end Performs

/-! ## The steps of a connection -/

section Steps

variable {graceful : Bool} {disconnect : Disconnect γ} {behind : Option (Disconnect γ)}

theorem Performs.knows {waits : Bool}
    (performed : Performs waits graceful state disconnect next behind)
    (known : Knows ids next client) : Knows ids state client :=
  known.imp performed.manager performed.table

omit [DecidableEq γ] in
theorem Receiver.behind_clear (graceful : Bool) (cleaning : Option (Cleaning γ))
    (behind : Option (Disconnect γ)) :
    (Receiver.behind graceful cleaning behind).isOpening = false ∧
      roleOf (Receiver.behind graceful cleaning behind).disconnect? = roleOf behind ∧
      ∀ client message, Receiver.behind graceful cleaning behind ≠ .writing client message := by
  cases behind with
  | some disconnect => exact ⟨rfl, rfl, nofun⟩
  | none =>
      cases cleaning with
      | none => exact ⟨rfl, rfl, nofun⟩
      | some cleaning => exact ⟨rfl, rfl, nofun⟩

omit [DecidableEq γ] in
theorem Placed.live_of_manager (placed : Placed ids state place) {connectionId : String}
    (present : state.manager connectionId = some client)
    (later : state.receiver ≠ .listing client) : place client = .live := by
  have key := placed.managerKey present
  have inManager := (placed.fits client).manager.mp (by rw [key]; exact present)
  cases isPlace : place client with
  | live => rfl
  | listing => exact absurd ((placed.fits client).listing.mp isPlace) later
  | outside | leaving | held | waited | gone =>
      rw [isPlace] at inManager
      cases inManager

/-- By the receive loop. -/
theorem Tracked.performs (tracked : Tracked ids state place) {cleaning : Option (Cleaning γ)}
    (disconnecting : state.receiver = .disconnecting disconnect graceful cleaning)
    (performed : Performs true graceful state disconnect next behind) :
    ∃ place, Tracked ids (next.goTo (.behind graceful cleaning behind)) place := by
  obtain ⟨placed, guarded⟩ := tracked
  obtain ⟨opening, role, notWriting⟩ := Receiver.behind_clear graceful cleaning behind
  have isRole : state.role .receiver = roleOf (some disconnect) := by
    rw [State.role, disconnecting]
    rfl
  obtain ⟨goal, goalPlaced⟩ := placed.performs .receiver
    (next.goTo (.behind graceful cleaning behind)) performed isRole
    (by
      intro connectionId client _ present
      rw [disconnecting]
      refine ⟨placed.live_of_manager present ?_, nofun, nofun⟩
      rw [disconnecting]
      nofun)
    (by
      intro other different
      cases other with
      | receiver => exact absurd rfl different
      | task client => rfl)
    role (fun other => .refl _)
    (by
      rw [disconnecting]
      exact .inr ⟨rfl, opening⟩)
    rfl rfl rfl
  refine ⟨goal, goalPlaced, ?_⟩
  refine guarded.of_less (fun other => performed.knows)
    (fun other => (performed.remains other).isArmed) (fun other => ?_)
    (fun writing => absurd writing (notWriting _ _))
  have remains := performed.remains other
  obtain ⟨channel, task⟩ := guarded.addressed other
  constructor
  · show ∀ message ∈ (next.clients other).channel, _
    rw [remains.channel]
    exact channel
  · show AddressedTask ids other (next.clients other).task
    rw [remains.task]
    exact task

/-- By an application task. -/
theorem Tracked.taskPerforms (tracked : Tracked ids state place) {closes : Bool}
    (disconnecting : (state.clients client).task = .disconnecting disconnect closes)
    (performed : Performs false true state disconnect next behind) :
    ∃ place, Tracked ids (next.run client (.behind closes behind)) place := by
  obtain ⟨placed, guarded⟩ := tracked
  have remains := performed.remains client
  have isTask : (next.clients client).task = .disconnecting disconnect closes :=
    remains.task.trans disconnecting
  have addressed := guarded.addressed client
  have addressedTask := addressed.task
  rw [disconnecting] at addressedTask
  have isRole : state.role (.task client) = roleOf (some disconnect) := by
    rw [State.role, disconnecting]
    rfl
  have started : ApplicationTask.behind closes behind ≠ .notStarted ∧
      roleOf (ApplicationTask.behind closes behind).disconnect? = roleOf behind := by
    cases behind with
    | some disconnect => exact ⟨fun unstarted => (by cases unstarted), rfl⟩
    | none =>
        cases closes with
        | true => exact ⟨fun unstarted => (by cases unstarted), rfl⟩
        | false => exact ⟨fun unstarted => (by cases unstarted), rfl⟩
  obtain ⟨goal, goalPlaced⟩ := placed.performs (.task client)
    (next.run client (.behind closes behind)) performed isRole
    (by
      rintro connectionId other rfl present
      have key := placed.managerKey present
      have armed : (state.clients client).isArmed = true := by
        rw [Client.isArmed, disconnecting]
      have own : other = client := by
        refine guarded.armed armed (.inl ?_) (key.trans addressedTask)
        rw [key]
        exact present
      rw [own] at present ⊢
      refine ⟨placed.live_of_manager present fun listing => ?_, fun starting => ?_, ?_⟩
      · have unstarted := (placed.fits client).unstarted
          (.inr ((placed.fits client).listing.mpr listing))
        rw [disconnecting] at unstarted
        cases unstarted
      · have unstarted := ((placed.fits client).starting starting).2
        rw [disconnecting] at unstarted
        cases unstarted
      · exact fun caller isCaller => (Holder.task.inj isCaller).symm)
    (fun other different => State.role_change next client _ different)
    ((State.role_change_self next client _).trans started.2)
    (by
      intro other
      rw [State.clients_run]
      by_cases isClient : other = client
      · rw [isClient, Function.update_self]
        refine ⟨rfl, rfl, ?_⟩
        rw [isTask]
        exact ⟨fun unstarted => absurd unstarted started.1, fun unstarted => by cases unstarted⟩
      · rw [Function.update_of_ne isClient]
        exact .refl _)
    (.inl performed.receiver) rfl rfl rfl
  refine ⟨goal, goalPlaced, ?_⟩
  have between : Guarded ids next := by
    refine guarded.of_less (fun other => performed.knows)
      (fun other => (performed.remains other).isArmed) (fun other => ?_) ?_
    · have otherRemains := performed.remains other
      obtain ⟨channel, task⟩ := guarded.addressed other
      refine ⟨?_, ?_⟩
      · rw [otherRemains.channel]
        exact channel
      · rw [otherRemains.task]
        exact task
    · intro writer message writing
      rw [performed.receiver] at writing
      obtain ⟨isId, unique⟩ := guarded.writing writing
      exact ⟨isId, fun other known => unique other (performed.knows known)⟩
  refine between.update (State.clients_run next client _) (fun _ => id) ?_ ⟨?_, ?_⟩ (.inl rfl)
  · intro armed
    rw [Client.isArmed, isTask]
    cases performed with
    | unknown | leave => rfl
    | unlisted | hold | complete | missing | ended | goesOn | cancel | wait | transport =>
        cases closes with
        | true => cases armed
        | false => exact armed
  · exact (between.addressed client).channel
  · show AddressedTask ids client (.behind closes behind)
    cases performed with
    | leave => exact addressedTask
    | hold => trivial
    | complete | missing | ended | goesOn | cancel | wait => exact addressedTask.elim
    | unknown | unlisted | transport =>
        cases closes with
        | true => trivial
        | false => trivial

/-- A wait goes on. -/
theorem Tracked.waits (tracked : Tracked ids state place) {update : Client γ → Client γ}
    (remains : Remains (state.clients client) (update (state.clients client)))
    (waiter : (update (state.clients client)).waiter.isActive =
      (state.clients client).waiter.isActive)
    (left : (update (state.clients client)).left = (state.clients client).left) :
    Tracked ids (state.change client update) place := by
  obtain ⟨channel, task⟩ := tracked.guarded.addressed client
  refine tracked.changes ⟨waiter, left, ?_⟩ ?_ remains.isArmed ⟨?_, ?_⟩
  · rw [remains.task]
  · rw [remains.task]
  · rw [remains.channel]
    exact channel
  · rw [remains.task]
    exact task

/-- `OnDisconnected` behind a wait. -/
theorem Tracked.tells (tracked : Tracked ids state place)
    (disconnecting : (state.clients client).waiter = .disconnecting) :
    Tracked ids (state.change client fun context =>
      { context.onDisconnected with waiter := .returned })
      (Function.update place client .gone) := by
  obtain ⟨placed, guarded⟩ := tracked
  have waited := (placed.fits client).waited.mpr (by rw [disconnecting]; rfl)
  have free := placed.free_of_waited waited
  have clients := State.clients_change state client fun context =>
    { context.onDisconnected with waiter := .returned }
  constructor
  · refine Placed.pass (.task client) placed (.inr rfl) ?_ ?_ ?_ ?_ ?_ ?_ ?_ ?_ rfl rfl ?_ ?_
    · rw [waited]
      rfl
    · rw [waited]
      exact ⟨rfl, rfl⟩
    · intro holder holding
      have held := ((placed.fits client).held holder).mpr holding
      rw [waited] at held
      cases held
    · exact fun other _ => placed.not_of_free free other
    · exact fun other different => State.role_change state client _ different
    · exact (State.role_change_self state client _).trans free
    · exact fun other different => .update clients (.inl rfl) rfl fun same => absurd same different
    · refine .of_task ?_ (.inl rfl) rfl
      rw [clients, Function.update_self]
      rfl
    · rw [clients, Function.update_self]
      exact ⟨nofun, nofun⟩
    · rw [clients, Function.update_self]
      exact ⟨fun _ => rfl, fun _ => rfl⟩
  · have addressed := guarded.addressed client
    exact guarded.update clients (fun _ => id) (Remains.isArmed ⟨rfl, rfl, rfl, id⟩)
      ⟨addressed.channel, addressed.task⟩ (.inl rfl)

end Steps

/-! ## Every step -/

omit [DecidableEq γ] in
theorem Tracked.start : Tracked ids ({} : State γ) fun _ => .outside where
  placed := {
    fits := fun client => {
      manager := ⟨nofun, nofun⟩
      table := ⟨nofun, nofun⟩
      leaving := nofun
      held := by
        intro holder
        refine ⟨nofun, fun holding => ?_⟩
        cases holder with
        | receiver => cases holding
        | task client => cases holding
      own := by
        rintro other (same | same)
        · cases same
        · cases same
      waited := ⟨nofun, nofun⟩
      gone := ⟨nofun, nofun⟩
      listing := ⟨nofun, nofun⟩
      apart := nofun
      unstarted := fun _ => rfl
      started := fun _ => .inl rfl
      starting := nofun
      adding := nofun
      fresh := fun _ => rfl }
    managerKey := nofun
    tableKey := nofun
    removing := by
      intro holder connectionId removing
      cases holder with
      | receiver => cases removing
      | task client => cases removing }
  guarded := {
    armed := fun armed => by cases armed
    addressed := fun client => ⟨nofun, trivial⟩
    writing := nofun }

theorem Tracked.step {action : Action γ} (tracked : Tracked ids state place)
    (undisturbed : Undisturbed ids state action) (changed : Change ids state action next) :
    ∃ place, Tracked ids next place := by
  cases changed with
  | opens client idle new => exact ⟨place, tracked.opens idle new⟩
  | routes route => exact ⟨place, tracked.routes route⟩
  | registers client adding unknown =>
      obtain ⟨unlisted, unarmed⟩ := undisturbed client adding unknown
      exact ⟨_, tracked.registers adding unknown unlisted unarmed⟩
  | relists client other listing listed =>
      have fits := tracked.placed.fits client
      rw [fits.apart (fits.listing.mpr listing)] at listed
      cases listed
  | lists client listing unlisted => exact ⟨_, tracked.lists listing⟩
  | starts client starting => exact ⟨place, tracked.starts starting⟩
  | writes client message writing => exact ⟨place, tracked.writes writing⟩
  | performs disconnect graceful cleaning disconnecting performed =>
      exact tracked.performs disconnecting performed
  | turns client turn => exact ⟨place, tracked.turns turn⟩
  | reads client message channel reading isNext => exact ⟨place, tracked.reads reading isNext⟩
  | creates client opened creating => exact ⟨place, tracked.creates creating⟩
  | passes client payload passing => exact ⟨place, tracked.passes passing⟩
  | taskPerforms client disconnect closes disconnecting performed =>
      exact tracked.taskPerforms disconnecting performed
  | awaits client waiting ended =>
      exact ⟨place, tracked.waits ⟨rfl, rfl, rfl, id⟩ (by rw [waiting]; rfl) rfl⟩
  | timesOut client waiting =>
      exact ⟨place, tracked.waits ⟨rfl, rfl, rfl, id⟩ (by rw [waiting]; rfl) rfl⟩
  | cancels client cancelling =>
      exact ⟨place, tracked.waits ⟨rfl, rfl, rfl, fun _ => rfl⟩ (by rw [cancelling]; rfl) rfl⟩
  | tells client disconnecting => exact ⟨_, tracked.tells disconnecting⟩

end AzureSignalR.AspNet
