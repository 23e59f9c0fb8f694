import AzureSignalR.AspNet.ClientPlaces
import AzureSignalR.AspNet.ClientSteps

/-!
Contract: the entries of the clients of an ASP.NET service connection in the manager and the
table, in every undisturbed run.

Owns: that an application task that may still remove an id from the manager removes no other
client, and that every step keeps the places of the clients.

Does not own: the messages of a client.
-/

set_option autoImplicit false

namespace AzureSignalR.AspNet

variable {γ : Type}

section Tracked

variable (ids : γ → String)

/-- A client is in the manager or in the table. -/
def Knows (state : State γ) (client : γ) : Prop :=
  state.manager (ids client) = some client ∨ state.table (ids client) = some client

/-- What an application task has in hand is its own client's. -/
def AddressedTask (client : γ) : ApplicationTask γ → Prop
  | .checking message => message.connectionId ids = ids client
  | .creating opened => ids opened = ids client
  | .disconnecting (.manager connectionId) _ | .disconnecting (.table connectionId) _ =>
      connectionId = ids client
  | .disconnecting (.complete _) _ | .disconnecting (.check _) _ | .disconnecting (.cancel _) _ |
      .disconnecting (.wait _) _ => False
  | _ => True

structure Addressed (client : γ) (context : Client γ) : Prop where
  channel : ∀ message ∈ context.channel, message.connectionId ids = ids client
  task : AddressedTask ids client context.task

/-- No application task is going to remove the id of another client. -/
structure Guarded (state : State γ) : Prop where
  armed : ∀ {client other}, (state.clients other).isArmed = true → Knows ids state client →
    ids client = ids other → client = other
  addressed : ∀ client, Addressed ids client (state.clients client)
  writing : ∀ {client message}, state.receiver = .writing client message →
    message.connectionId ids = ids client ∧
      ∀ other, Knows ids state other → ids other = ids client → other = client

structure Tracked (state : State γ) (place : γ → Place γ) : Prop where
  placed : Placed ids state place
  guarded : Guarded ids state

end Tracked

variable {ids : γ → String} {state next : State γ} {place : γ → Place γ}

/-! ## Known clients -/

namespace Placed

/-- Of an id, one client is known. -/
theorem known_unique (placed : Placed ids state place) {client other : γ}
    (known : Knows ids state client) (alsoKnown : Knows ids state other)
    (same : ids other = ids client) : other = client := by
  have listed {one two : γ} (sameId : ids two = ids one)
      (inManager : state.manager (ids one) = some one)
      (inTable : state.table (ids two) = some two) : two = one := by
    have oneIn := (placed.fits one).manager.mp inManager
    have twoIn := (placed.fits two).table.mp inTable
    cases isPlace : place one with
    | live =>
        have alsoIn := (placed.fits one).table.mpr (by rw [isPlace]; rfl)
        rw [← sameId, inTable] at alsoIn
        exact Option.some.inj alsoIn
    | listing =>
        have apart := (placed.fits one).apart isPlace
        rw [← sameId, inTable] at apart
        cases apart
    | outside | leaving | held | waited | gone =>
        rw [isPlace] at oneIn
        cases oneIn
  rcases known with inManager | inTable
  · rcases alsoKnown with alsoInManager | alsoInTable
    · rw [same, inManager] at alsoInManager
      exact (Option.some.inj alsoInManager).symm
    · exact listed same inManager alsoInTable
  · rcases alsoKnown with alsoInManager | alsoInTable
    · exact (listed same.symm alsoInManager inTable).symm
    · rw [same, inTable] at alsoInTable
      exact (Option.some.inj alsoInTable).symm

end Placed

/-! ## What keeps the guard -/

namespace Guarded

/-- No client gets known, and no application task more than it was. -/
theorem of_less (guarded : Guarded ids state)
    (knows : ∀ client, Knows ids next client → Knows ids state client)
    (armed : ∀ client, (next.clients client).isArmed = true →
      (state.clients client).isArmed = true)
    (addressed : ∀ client, Addressed ids client (next.clients client))
    (writing : ∀ {client message}, next.receiver = .writing client message →
      message.connectionId ids = ids client ∧
        ∀ other, Knows ids next other → ids other = ids client → other = client) :
    Guarded ids next where
  armed isArmed known := guarded.armed (armed _ isArmed) (knows _ known)
  addressed := addressed
  writing := writing

variable [DecidableEq γ]

/-- At most one client has changed. -/
theorem update (guarded : Guarded ids state) {client : γ} {updated : Client γ}
    (clients : next.clients = Function.update state.clients client updated)
    (knows : ∀ client, Knows ids next client → Knows ids state client)
    (armed : updated.isArmed = true → (state.clients client).isArmed = true)
    (addressed : Addressed ids client updated)
    (receiver : next.receiver = state.receiver ∨
      ∀ client message, next.receiver ≠ .writing client message) : Guarded ids next := by
  refine guarded.of_less knows ?_ ?_ ?_
  · intro other
    rw [clients]
    by_cases isClient : other = client
    · rw [isClient, Function.update_self]
      exact armed
    · rw [Function.update_of_ne isClient]
      exact id
  · intro other
    rw [clients]
    by_cases isClient : other = client
    · rw [isClient, Function.update_self]
      exact addressed
    · rw [Function.update_of_ne isClient]
      exact guarded.addressed other
  · intro writer message writing
    rcases receiver with same | notWriting
    · rw [same] at writing
      obtain ⟨isId, unique⟩ := guarded.writing writing
      exact ⟨isId, fun other known => unique other (knows other known)⟩
    · exact absurd writing (notWriting writer message)

end Guarded

/-! ## Application tasks by themselves -/

section Turns

variable {context : Client γ} {before after : ApplicationTask γ} {client : γ}

theorem isArmed_of_turn (turn : Turn ids context before after)
    (isTask : context.task = before)
    (armed : ({ context with task := after } : Client γ).isArmed = true) :
    context.isArmed = true := by
  rw [Client.isArmed, isTask]
  cases turn with
  | wake => exact armed
  | stop => cases armed
  | rest => exact armed
  | throws => cases armed
  | opens opened goesOn => simp [goesOn, Message.isControl]
  | closes connectionId goesOn => simp [goesOn, Message.isControl]
  | data connectionId payload goesOn =>
      have control : context.hasControl = true := armed
      simp [goesOn, control]
  | fails => rfl

theorem addressedTask_of_turn (turn : Turn ids context before after)
    (addressed : AddressedTask ids client before) : AddressedTask ids client after := by
  cases turn with
  | wake | stop | rest | throws | data => trivial
  | opens | closes | fails => exact addressed

/-- Neither had anybody in hand. -/
theorem role_of_turn (turn : Turn ids context before after) :
    roleOf after.disconnect? = roleOf before.disconnect? := by
  cases turn with
  | wake | stop | rest | throws | opens | closes | data | fails => rfl

theorem notStarted_of_turn (turn : Turn ids context before after) :
    after ≠ .notStarted ∧ before ≠ .notStarted := by
  cases turn with
  | wake | stop | rest | throws | opens | closes | data | fails => exact ⟨nofun, nofun⟩

end Turns

/-! ## The receive loop -/

section Receive

variable [DecidableEq γ] {client : γ}

omit [DecidableEq γ] in
/-- Steps that change the receive loop and no client. -/
theorem Guarded.goTo (guarded : Guarded ids state) {receiver : Receiver γ}
    (writing : ∀ {client message}, receiver = .writing client message →
      message.connectionId ids = ids client ∧
        ∀ other, Knows ids state other → ids other = ids client → other = client) :
    Guarded ids (state.goTo receiver) :=
  guarded.of_less (fun _ => id) (fun _ => id) guarded.addressed writing

omit [DecidableEq γ] in
theorem role_goTo {receiver : Receiver γ}
    (same : roleOf receiver.disconnect? = roleOf state.receiver.disconnect?) (holder : Holder γ) :
    (state.goTo receiver).role holder = state.role holder := by
  cases holder with
  | receiver => exact same
  | task client => rfl

omit [DecidableEq γ] in
theorem Tracked.opens (tracked : Tracked ids state place) (idle : state.receiver = .idle)
    (new : client ∉ state.contexts) :
    Tracked ids { state.goTo (.adding client) with contexts := state.contexts ++ [client] }
      place where
  placed := by
    refine tracked.placed.of_steady (fun other => ?_) (fun holder => ?_) rfl rfl
    · exact {
        listing := by
          rw [idle]
          exact ⟨nofun, nofun⟩
        unstarted := .inl
        started := id
        starting := by
          rw [idle]
          nofun
        begun := nofun
        adding := by
          intro adding
          cases adding
          exact .inr ⟨new, List.mem_append_right _ List.mem_cons_self⟩
        contexts := List.mem_append_left _
        waiter := rfl
        left := rfl }
    · refine Eq.trans ?_ (@role_goTo γ state (.adding client) ?_ holder)
      · cases holder with
        | receiver => rfl
        | task other => rfl
      · rw [idle]
        rfl
  guarded := tracked.guarded.of_less (fun _ => id) (fun _ => id) tracked.guarded.addressed nofun

theorem Tracked.routes (tracked : Tracked ids state place) {receiver : Receiver γ}
    (route : Route ids state state.receiver receiver) :
    Tracked ids (state.goTo receiver) place := by
  have clear : StaysClear state.receiver receiver ∧
      roleOf receiver.disconnect? = roleOf state.receiver.disconnect? := by
    generalize state.receiver = before at route
    cases route with
    | receive | clean | refuse | miss | find | reject | visit | skip | goBack | finish =>
        exact ⟨.inr ⟨rfl, rfl⟩, rfl⟩
  constructor
  · exact tracked.placed.of_steady (fun other => .of_sameView (.refl _) clear.1 rfl)
      (role_goTo clear.2) rfl rfl
  · refine tracked.guarded.goTo fun {writer message} writing => ?_
    rw [writing] at route
    generalize state.receiver = before at route
    cases route with
    | find _ _ listed =>
        have key := tracked.placed.tableKey listed
        refine ⟨key.symm, fun other known same => ?_⟩
        have alsoKnown : Knows ids state writer := .inr (key.symm ▸ listed)
        exact tracked.placed.known_unique alsoKnown known same

theorem Tracked.registers (tracked : Tracked ids state place)
    (adding : state.receiver = .adding client) (unknown : state.manager (ids client) = none)
    (unlisted : state.table (ids client) = none)
    (unarmed : ∀ other, other ≠ client → ids other = ids client →
      (state.clients other).isArmed = false) :
    Tracked ids ((state.setManager (ids client) (some client)).goTo (.listing client))
      (Function.update place client .listing) where
  placed := tracked.placed.register adding unknown unlisted
  guarded := {
    armed := by
      intro known other armed isKnown same
      by_cases isClient : known = client
      · rw [isClient] at same ⊢
        by_contra different
        have unarmed := unarmed other (fun isOther => different isOther.symm) same.symm
        have alsoArmed : (state.clients other).isArmed = true := armed
        rw [unarmed] at alsoArmed
        cases alsoArmed
      · refine tracked.guarded.armed armed ?_ same
        rcases isKnown with inManager | inTable
        · left
          by_cases sameId : ids known = ids client
          · have isClient' : Function.update state.manager (ids client) (some client) (ids known) =
              some known := inManager
            rw [sameId, Function.update_self] at isClient'
            exact absurd (Option.some.inj isClient').symm isClient
          · exact (Function.update_of_ne sameId _ _).symm.trans inManager
        · exact .inr inTable
    addressed := tracked.guarded.addressed
    writing := nofun }

theorem Tracked.lists (tracked : Tracked ids state place)
    (listing : state.receiver = .listing client) :
    Tracked ids ((state.setTable (ids client) (some client)).goTo (.starting client))
      (Function.update place client .live) where
  placed := tracked.placed.list listing
  guarded := by
    refine tracked.guarded.of_less (fun other known => ?_) (fun _ => id) tracked.guarded.addressed
      nofun
    have fits := tracked.placed.fits client
    rcases known with inManager | inTable
    · exact .inl inManager
    · by_cases same : ids other = ids client
      · left
        have isOther : Function.update state.table (ids client) (some client) (ids other) =
          some other := inTable
        rw [same, Function.update_self, Option.some.injEq] at isOther
        rw [← isOther]
        exact fits.manager.mpr (by rw [fits.listing.mpr listing]; rfl)
      · right
        exact (Function.update_of_ne same _ _).symm.trans inTable

theorem Tracked.starts (tracked : Tracked ids state place)
    (starting : state.receiver = .starting client) :
    Tracked ids ((state.run client .waiting).goTo (.forwarding (.openConnection client)))
      place := by
  obtain ⟨-, notStarted⟩ := (tracked.placed.fits client).starting starting
  constructor
  · refine tracked.placed.of_steady (fun other => ?_) (fun holder => ?_) rfl rfl
    · have context : ((state.run client .waiting).goTo
          (.forwarding (.openConnection client))).clients other =
          if other = client then { state.clients client with task := .waiting }
          else state.clients other := by
        show Function.update _ _ _ other = _
        by_cases isClient : other = client
        · rw [isClient, Function.update_self, if_pos rfl]
        · rw [Function.update_of_ne isClient, if_neg isClient]
      by_cases isClient : other = client
      · rw [isClient, if_pos rfl] at context
        rw [isClient]
        exact {
          listing := by
            rw [starting]
            exact ⟨nofun, nofun⟩
          unstarted := fun _ => .inr starting
          started := fun unstarted => by
            rw [context] at unstarted
            cases unstarted
          starting := fun _ => by
            rw [context]
            exact .inr nofun
          begun := nofun
          adding := nofun
          contexts := id
          waiter := by rw [context]
          left := by rw [context] }
      · rw [if_neg isClient] at context
        exact {
          listing := by
            rw [starting]
            exact ⟨nofun, nofun⟩
          unstarted := by
            rw [context]
            exact .inl
          started := by
            rw [context]
            exact id
          starting := by
            rw [starting]
            intro isOther
            exact absurd (Receiver.starting.inj isOther).symm isClient
          begun := nofun
          adding := nofun
          contexts := id
          waiter := by rw [context]
          left := by rw [context] }
    · rw [role_goTo]
      · by_cases isClient : holder = .task client
        · rw [isClient]
          refine (State.role_change_self state client _).trans ?_
          show _ = roleOf (state.clients client).task.disconnect?
          rw [notStarted]
          rfl
        · exact State.role_change state client _ isClient
      · show _ = roleOf state.receiver.disconnect?
        rw [starting]
        rfl
  · have addressed := tracked.guarded.addressed client
    have changed : (state.run client .waiting).clients = Function.update state.clients client
        { state.clients client with task := .waiting } := rfl
    refine tracked.guarded.update changed (fun _ => id) ?_ ⟨addressed.channel, trivial⟩ (.inr nofun)
    intro armed
    rw [Client.isArmed, notStarted]
    exact armed

/-- A message for a client. -/
theorem Tracked.writes (tracked : Tracked ids state place) {message : Message γ}
    (writing : state.receiver = .writing client message) :
    Tracked ids ((state.change client fun context => context.write message).goTo .idle)
      place := by
  have clear : StaysClear state.receiver .idle := by
    rw [writing]
    exact .inr ⟨rfl, rfl⟩
  constructor
  · refine tracked.placed.of_steady (fun other => ?_) (fun holder => ?_) rfl rfl
    · have changed : ((state.change client fun context => context.write message).goTo
          .idle).clients =
            Function.update state.clients client ((state.clients client).write message) := rfl
      refine .update changed clear rfl fun _ => ?_
      exact ⟨rfl, rfl, Iff.rfl⟩
    · rw [role_goTo]
      · by_cases isClient : holder = .task client
        · rw [isClient]
          exact State.role_change_self state client _
        · exact State.role_change state client _ isClient
      · show _ = roleOf state.receiver.disconnect?
        rw [writing]
        rfl
  · obtain ⟨isId, unique⟩ := tracked.guarded.writing writing
    exact {
      armed := by
        intro known other armed isKnown same
        by_cases isClient : other = client
        · rw [isClient] at same ⊢
          exact unique known isKnown same
        · refine tracked.guarded.armed ?_ isKnown same
          have sameContext : ((state.change client fun context => context.write message).goTo
              .idle).clients other = state.clients other := Function.update_of_ne isClient _ _
          rwa [sameContext] at armed
      addressed := by
        intro other
        show Addressed ids other (Function.update state.clients client
          ((state.clients client).write message) other)
        by_cases isClient : other = client
        · rw [isClient, Function.update_self]
          have addressed := tracked.guarded.addressed client
          refine ⟨fun some member => ?_, addressed.task⟩
          rcases List.mem_append.mp member with before | new
          · exact addressed.channel some before
          · rw [List.mem_singleton.mp new]
            exact isId
        · rw [Function.update_of_ne isClient]
          exact tracked.guarded.addressed other
      writing := nofun }

end Receive

/-! ## Application tasks -/

section Tasks

variable [DecidableEq γ] {client : γ}

/-- A step of an application task that has nobody in hand, before or behind it. -/
theorem Tracked.changes (tracked : Tracked ids state place) {update : Client γ → Client γ}
    (view : SameView (update (state.clients client)) (state.clients client))
    (role : roleOf (update (state.clients client)).task.disconnect? =
      roleOf (state.clients client).task.disconnect?)
    (armed : (update (state.clients client)).isArmed = true →
      (state.clients client).isArmed = true)
    (addressed : Addressed ids client (update (state.clients client))) :
    Tracked ids (state.change client update) place where
  placed := by
    refine tracked.placed.of_steady (fun other => ?_) (fun holder => ?_) rfl rfl
    · refine .update (State.clients_change state client update) (.inl rfl) rfl fun _ => view
    · by_cases isClient : holder = .task client
      · rw [isClient]
        exact (State.role_change_self state client update).trans role
      · exact State.role_change state client update isClient
  guarded := tracked.guarded.update rfl (fun _ => id) armed addressed (.inl rfl)

theorem Tracked.turns (tracked : Tracked ids state place) {task : ApplicationTask γ}
    (turn : Turn ids (state.clients client) (state.clients client).task task) :
    Tracked ids (state.run client task) place := by
  obtain ⟨started, wasStarted⟩ := notStarted_of_turn turn
  have addressed := tracked.guarded.addressed client
  refine tracked.changes ⟨rfl, rfl, ?_⟩ (role_of_turn turn) (isArmed_of_turn turn rfl)
    ⟨addressed.channel, addressedTask_of_turn turn addressed.task⟩
  exact ⟨fun unstarted => absurd unstarted started, fun unstarted => absurd unstarted wasStarted⟩

theorem Tracked.reads (tracked : Tracked ids state place) {message : Message γ}
    {channel : List (Message γ)} (reading : (state.clients client).task = .reading)
    (isNext : (state.clients client).channel = message :: channel) :
    Tracked ids (state.change client fun context => { context with
      channel := channel, taken := context.taken ++ [message], task := .checking message })
      place := by
  have addressed := (tracked.guarded.addressed client).channel
  rw [isNext] at addressed
  refine tracked.changes ⟨rfl, rfl, ?_⟩ ?_ ?_ ⟨?_, addressed message List.mem_cons_self⟩
  · rw [reading]
    exact ⟨nofun, nofun⟩
  · rw [reading]
    rfl
  · intro armed
    have control : (!(state.clients client).cancelled && (message.isControl ||
      (!(state.clients client).cancelled && channel.any Message.isControl))) = true := armed
    rw [Client.isArmed, reading]
    show (!(state.clients client).cancelled && (state.clients client).channel.any _) = true
    rw [isNext, List.any_cons]
    cases cancelled : (state.clients client).cancelled with
    | true =>
        rw [cancelled] at control
        cases control
    | false =>
        rw [cancelled] at control
        simpa using control
  · exact fun other member => addressed other (List.mem_cons_of_mem _ member)

theorem Tracked.creates (tracked : Tracked ids state place) {opened : γ}
    (creating : (state.clients client).task = .creating opened) :
    Tracked ids (state.change client fun context => { context with
      transports := [] :: context.transports, task := .reading }) place := by
  refine tracked.changes ⟨rfl, rfl, ?_⟩ ?_ ?_
    ⟨(tracked.guarded.addressed client).channel, trivial⟩
  · rw [creating]
    exact ⟨nofun, nofun⟩
  · rw [creating]
    rfl
  · intro _
    rw [Client.isArmed, creating]

theorem Tracked.passes (tracked : Tracked ids state place) {payload : String}
    (passing : (state.clients client).task = .passing payload) :
    Tracked ids (state.change client fun context => { context with
      transports := tell (eventOf payload) context.transports, task := .reading }) place := by
  refine tracked.changes ⟨rfl, rfl, ?_⟩ ?_ ?_
    ⟨(tracked.guarded.addressed client).channel, trivial⟩
  · rw [passing]
    exact ⟨nofun, nofun⟩
  · rw [passing]
    rfl
  · intro armed
    rw [Client.isArmed, passing]
    exact armed

end Tasks

end AzureSignalR.AspNet
