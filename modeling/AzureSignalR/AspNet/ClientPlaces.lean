import AzureSignalR.AspNet.ClientLifeCycle

/-!
Contract: where a client of an ASP.NET service connection is on its way from the manager to
`OnDisconnected`.

Owns: the places, who removes a client and who has it in hand, and what a step of the receive
loop, of an application task or of a wait does to the places.

Does not own: the messages of a client.
-/

set_option autoImplicit false

namespace AzureSignalR.AspNet

variable {γ : Type}

/-! ## Who disconnects -/

/-- A caller of `PerformDisconnectCore`, up to its `await`. -/
inductive Holder (γ : Type) where
  | receiver
  | task (client : γ)
deriving DecidableEq, Repr

/-- What the caller has in hand: nothing, an id that it has removed from the manager, or a client
that it has removed from the table. -/
inductive Role (γ : Type) where
  | free
  | removing (connectionId : String)
  | holding (client : γ)
deriving DecidableEq, Repr

def roleOf : Option (Disconnect γ) → Role γ
  | none | some (.manager _) => .free
  | some (.table connectionId) => .removing connectionId
  | some (.complete client) | some (.check client) | some (.cancel client) | some (.wait client) |
      some (.transport client) => .holding client

def ApplicationTask.disconnect? : ApplicationTask γ → Option (Disconnect γ)
  | .disconnecting disconnect _ => some disconnect
  | _ => none

def Receiver.disconnect? : Receiver γ → Option (Disconnect γ)
  | .disconnecting disconnect _ _ => some disconnect
  | _ => none

def State.role (state : State γ) : Holder γ → Role γ
  | .receiver => roleOf state.receiver.disconnect?
  | .task client => roleOf (state.clients client).task.disconnect?

def Waiter.isActive : Waiter → Bool
  | .idle | .returned => false
  | .waiting | .cancelling | .disconnecting => true

/-! ## Places -/

/-- The life of a client: it gets into the manager and the table, out of both by some caller, and
`OnDisconnected` is passed by that caller or behind a wait. -/
inductive Place (γ : Type) where
  | outside
  | listing
  | live
  | leaving (holder : Holder γ)
  | held (holder : Holder γ)
  | waited
  | gone
deriving DecidableEq, Repr

namespace Place

def inManager : Place γ → Bool
  | .listing | .live => true
  | _ => false

def inTable : Place γ → Bool
  | .live | .leaving _ => true
  | _ => false

/-- It has been in the table. -/
def isInside : Place γ → Bool
  | .outside | .listing => false
  | _ => true

end Place

section Fits

variable (ids : γ → String)

/-- The state has a client at a place. -/
structure Fits (state : State γ) (client : γ) (place : Place γ) : Prop where
  manager : state.manager (ids client) = some client ↔ place.inManager = true
  table : state.table (ids client) = some client ↔ place.inTable = true
  leaving : ∀ holder, place = .leaving holder → state.role holder = .removing (ids client)
  held : ∀ holder, place = .held holder ↔ state.role holder = .holding client
  own : ∀ other, place = .leaving (.task other) ∨ place = .held (.task other) → other = client
  waited : place = .waited ↔ (state.clients client).waiter.isActive = true
  gone : place = .gone ↔ (state.clients client).left = true
  listing : place = .listing ↔ state.receiver = .listing client
  apart : place = .listing → state.table (ids client) = none
  unstarted : place = .outside ∨ place = .listing → (state.clients client).task = .notStarted
  started : (state.clients client).task = .notStarted →
    place = .outside ∨ place = .listing ∨ state.receiver = .starting client
  starting : state.receiver = .starting client →
    place = .live ∧ (state.clients client).task = .notStarted
  adding : state.receiver = .adding client → place = .outside ∧ client ∈ state.contexts
  fresh : client ∉ state.contexts → place = .outside

structure Placed (state : State γ) (place : γ → Place γ) : Prop where
  fits : ∀ client, Fits ids state client (place client)
  managerKey : ∀ {connectionId client}, state.manager connectionId = some client →
    ids client = connectionId
  tableKey : ∀ {connectionId client}, state.table connectionId = some client →
    ids client = connectionId
  removing : ∀ {holder connectionId}, state.role holder = .removing connectionId →
    ∃ client, ids client = connectionId ∧ place client = .leaving holder

/-- A step does not open the client. -/
structure Calm (state next : State γ) (client : γ) : Prop where
  listing : next.receiver = .listing client ↔ state.receiver = .listing client
  unstarted : (state.clients client).task = .notStarted →
    (next.clients client).task = .notStarted ∨ state.receiver = .starting client
  started : (next.clients client).task = .notStarted → (state.clients client).task = .notStarted
  starting : state.receiver = .starting client →
    next.receiver = .starting client ∨ (next.clients client).task ≠ .notStarted
  begun : next.receiver = .starting client → state.receiver = .starting client ∧
    ((state.clients client).task = .notStarted → (next.clients client).task = .notStarted)
  adding : next.receiver = .adding client →
    state.receiver = .adding client ∨ client ∉ state.contexts ∧ client ∈ next.contexts
  contexts : client ∈ state.contexts → client ∈ next.contexts

/-- A step is none of the client's, but for the manager, the table and the roles. -/
structure Steady (state next : State γ) (client : γ) : Prop extends Calm state next client where
  waiter : (next.clients client).waiter.isActive = (state.clients client).waiter.isActive
  left : (next.clients client).left = (state.clients client).left

/-- The same, and its entries stay. -/
structure Alike (state next : State γ) (client : γ) : Prop extends Steady state next client where
  manager : next.manager (ids client) = some client ↔ state.manager (ids client) = some client
  table : next.table (ids client) = some client ↔ state.table (ids client) = some client
  tableNone : next.receiver = .listing client → state.table (ids client) = none →
    next.table (ids client) = none

variable {ids} {state next : State γ} {client : γ} {place : Place γ}

theorem Fits.of_alike (fits : Fits ids state client place) (alike : Alike ids state next client)
    (leaving : ∀ holder, place = .leaving holder → next.role holder = state.role holder)
    (held : ∀ holder, next.role holder = .holding client ↔ state.role holder = .holding client) :
    Fits ids next client place where
  manager := alike.manager.trans fits.manager
  table := alike.table.trans fits.table
  leaving holder isLeaving := (leaving holder isLeaving).trans (fits.leaving holder isLeaving)
  held holder := (fits.held holder).trans (held holder).symm
  own := fits.own
  waited := by rw [alike.waiter]; exact fits.waited
  gone := by rw [alike.left]; exact fits.gone
  listing := fits.listing.trans alike.listing.symm
  apart isListing := alike.tableNone (alike.listing.mpr (fits.listing.mp isListing))
    (fits.apart isListing)
  unstarted := by
    intro early
    rcases alike.unstarted (fits.unstarted early) with unstarted | starting
    · exact unstarted
    · rcases early with outside | listing
      · rw [(fits.starting starting).1] at outside
        cases outside
      · have isListing := fits.listing.mp listing
        rw [starting] at isListing
        cases isListing
  started := by
    intro unstarted
    rcases fits.started (alike.started unstarted) with outside | listing | starting
    · exact .inl outside
    · exact .inr (.inl listing)
    · rcases alike.starting starting with stays | started
      · exact .inr (.inr stays)
      · exact absurd unstarted started
  starting begun := by
    obtain ⟨starting, stays⟩ := alike.begun begun
    obtain ⟨live, notStarted⟩ := fits.starting starting
    exact ⟨live, stays notStarted⟩
  adding isAdding := by
    rcases alike.adding isAdding with adding | ⟨fresh, known⟩
    · obtain ⟨outside, known⟩ := fits.adding adding
      exact ⟨outside, alike.contexts known⟩
    · exact ⟨fits.fresh fresh, known⟩
  fresh isFresh := fits.fresh fun known => isFresh (alike.contexts known)

/-- The client itself moves on. -/
theorem Fits.of_calm {goal : Place γ} (fits : Fits ids state client place)
    (calm : Calm state next client) (inside : place.isInside = true)
    (further : goal.isInside = true)
    (later : state.receiver ≠ .starting client)
    (manager : next.manager (ids client) = some client ↔ goal.inManager = true)
    (table : next.table (ids client) = some client ↔ goal.inTable = true)
    (leaving : ∀ holder, goal = .leaving holder → next.role holder = .removing (ids client))
    (held : ∀ holder, goal = .held holder ↔ next.role holder = .holding client)
    (own : ∀ other, goal = .leaving (.task other) ∨ goal = .held (.task other) → other = client)
    (waited : goal = .waited ↔ (next.clients client).waiter.isActive = true)
    (gone : goal = .gone ↔ (next.clients client).left = true) : Fits ids next client goal where
  manager := manager
  table := table
  leaving := leaving
  held := held
  own := own
  waited := waited
  gone := gone
  listing := by
    constructor
    · rintro rfl
      cases further
    · intro listing
      rw [fits.listing.mpr (calm.listing.mp listing)] at inside
      cases inside
  apart := by
    rintro rfl
    cases further
  unstarted := by
    rintro (rfl | rfl)
    · cases further
    · cases further
  started unstarted := by
    rcases fits.started (calm.started unstarted) with rfl | rfl | starting
    · cases inside
    · cases inside
    · rcases calm.starting starting with stays | started
      · exact .inr (.inr stays)
      · exact absurd unstarted started
  starting begun := absurd (calm.begun begun).1 later
  adding adding := by
    rcases calm.adding adding with before | ⟨fresh, -⟩
    · rw [(fits.adding before).1] at inside
      cases inside
    · rw [fits.fresh fresh] at inside
      cases inside
  fresh isFresh := by
    rw [fits.fresh fun known => isFresh (calm.contexts known)] at inside
    cases inside

end Fits

/-! ## Steady steps -/

namespace State

variable (state : State γ)

variable [DecidableEq γ]

@[simp] theorem clients_change (client : γ) (update : Client γ → Client γ) :
    (state.change client update).clients =
      Function.update state.clients client (update (state.clients client)) := rfl

@[simp] theorem clients_run (client : γ) (task : ApplicationTask γ) :
    (state.run client task).clients =
      Function.update state.clients client { state.clients client with task := task } := rfl

theorem role_change (client : γ) (update : Client γ → Client γ) {holder : Holder γ}
    (other : holder ≠ .task client) :
    (state.change client update).role holder = state.role holder := by
  cases holder with
  | receiver => rfl
  | task caller =>
      have different : caller ≠ client := fun same => other (congrArg Holder.task same)
      show roleOf ((state.change client update).clients caller).task.disconnect? = _
      rw [clients_change, Function.update_of_ne different]
      rfl

theorem role_change_self (client : γ) (update : Client γ → Client γ) :
    (state.change client update).role (.task client) =
      roleOf (update (state.clients client)).task.disconnect? := by
  show roleOf ((state.change client update).clients client).task.disconnect? = _
  rw [clients_change, Function.update_self]

end State

/-- In `OnClientConnectedAsync`, before the open message is forwarded. -/
def Receiver.isOpening : Receiver γ → Bool
  | .adding _ | .listing _ | .starting _ => true
  | _ => false

/-- Between the manager and `ProcessMessageAsync`. -/
def Receiver.isEntering : Receiver γ → Bool
  | .listing _ | .starting _ => true
  | _ => false

/-- Seen from the places, a client has not changed. -/
structure SameView (next context : Client γ) : Prop where
  waiter : next.waiter.isActive = context.waiter.isActive
  left : next.left = context.left
  task : next.task = .notStarted ↔ context.task = .notStarted

theorem SameView.refl (context : Client γ) : SameView context context := ⟨rfl, rfl, Iff.rfl⟩

theorem SameView.trans {one two three : Client γ} (first : SameView one two)
    (second : SameView two three) : SameView one three where
  waiter := first.waiter.trans second.waiter
  left := first.left.trans second.left
  task := first.task.trans second.task

/-- The receive loop stays where it is, or a step of it opens no client. -/
def StaysClear (receiver next : Receiver γ) : Prop :=
  next = receiver ∨ receiver.isEntering = false ∧ next.isOpening = false

section Steady

variable {state next : State γ}

theorem Calm.of_task {client : γ}
    (task : (next.clients client).task = .notStarted ↔ (state.clients client).task = .notStarted)
    (clear : StaysClear state.receiver next.receiver) (contexts : next.contexts = state.contexts) :
    Calm state next client where
  listing := by
    rcases clear with same | ⟨before, after⟩
    · rw [same]
    · constructor
      · intro listing
        rw [listing] at after
        cases after
      · intro listing
        rw [listing] at before
        cases before
  unstarted unstarted := .inl (task.mpr unstarted)
  started := task.mp
  starting starting := by
    rcases clear with same | ⟨before, -⟩
    · exact .inl (same.trans starting)
    · rw [starting] at before
      cases before
  begun begun := by
    rcases clear with same | ⟨-, after⟩
    · exact ⟨same.symm.trans begun, task.mpr⟩
    · rw [begun] at after
      cases after
  adding adding := by
    rcases clear with same | ⟨-, after⟩
    · exact .inl (same.symm.trans adding)
    · rw [adding] at after
      cases after
  contexts := by rw [contexts]; exact id

theorem Steady.of_sameView {client : γ}
    (view : SameView (next.clients client) (state.clients client))
    (clear : StaysClear state.receiver next.receiver) (contexts : next.contexts = state.contexts) :
    Steady state next client where
  toCalm := .of_task view.task clear contexts
  waiter := view.waiter
  left := view.left

variable [DecidableEq γ]

/-- At most one client has changed. -/
theorem Steady.update {client : γ} {updated : Client γ}
    (clients : next.clients = Function.update state.clients client updated)
    (clear : StaysClear state.receiver next.receiver) (contexts : next.contexts = state.contexts)
    {other : γ} (view : other = client → SameView updated (state.clients client)) :
    Steady state next other := by
  refine .of_sameView ?_ clear contexts
  rw [clients]
  by_cases isClient : other = client
  · rw [isClient, Function.update_self]
    exact view isClient
  · rw [Function.update_of_ne isClient]
    exact .refl _

end Steady

namespace Placed

variable {ids : γ → String} {state next : State γ} {place : γ → Place γ}

/-- A step that is nobody's. -/
theorem of_steady (placed : Placed ids state place) (steady : ∀ client, Steady state next client)
    (roles : ∀ holder, next.role holder = state.role holder)
    (manager : next.manager = state.manager) (table : next.table = state.table) :
    Placed ids next place where
  fits client := by
    have alike : Alike ids state next client := {
      steady client with
      manager := by rw [manager]
      table := by rw [table]
      tableNone := fun _ none => by rw [table, none] }
    exact (placed.fits client).of_alike alike (fun holder _ => roles holder)
      fun holder => by rw [roles]
  managerKey := by rw [manager]; exact placed.managerKey
  tableKey := by rw [table]; exact placed.tableKey
  removing := by
    intro holder connectionId isRemoving
    rw [roles] at isRemoving
    exact placed.removing isRemoving

variable [DecidableEq γ]

/-- A step that moves one client, by at most one holder. -/
theorem move (placed : Placed ids state place) {client : γ} {goal : Place γ} {holder : Holder γ}
    (roles : ∀ other, other ≠ holder → next.role other = state.role other)
    (before : ∀ other, other ≠ client → place other ≠ .leaving holder ∧ place other ≠ .held holder)
    (after : ∀ other, other ≠ client → next.role holder ≠ .holding other)
    (others : ∀ other, other ≠ client → Alike ids state next other)
    (self : Fits ids next client goal)
    (manager : ∀ {connectionId other}, next.manager connectionId = some other →
      state.manager connectionId = some other ∨ other = client ∧ connectionId = ids client)
    (table : ∀ {connectionId other}, next.table connectionId = some other →
      state.table connectionId = some other ∨ other = client ∧ connectionId = ids client)
    (removing : ∀ {other connectionId}, next.role other = .removing connectionId →
      (other ≠ holder ∧ place client ≠ .leaving other) ∨
        ids client = connectionId ∧ goal = .leaving other) :
    Placed ids next (Function.update place client goal) where
  fits other := by
    by_cases isClient : other = client
    · rw [isClient, Function.update_self]
      exact self
    · rw [Function.update_of_ne isClient]
      obtain ⟨notLeaving, notHeld⟩ := before other isClient
      refine (placed.fits other).of_alike (others other isClient) ?_ ?_
      · intro some isLeaving
        refine roles some ?_
        rintro rfl
        exact notLeaving isLeaving
      · intro some
        by_cases isHolder : some = holder
        · rw [isHolder]
          constructor
          · intro isHolding
            exact absurd isHolding (after other isClient)
          · intro isHolding
            exact absurd (((placed.fits other).held holder).mpr isHolding) notHeld
        · rw [roles some isHolder]
  managerKey := by
    intro connectionId other found
    rcases manager found with found | ⟨rfl, rfl⟩
    · exact placed.managerKey found
    · rfl
  tableKey := by
    intro connectionId other found
    rcases table found with found | ⟨rfl, rfl⟩
    · exact placed.tableKey found
    · rfl
  removing := by
    intro other connectionId isRemoving
    rcases removing isRemoving with ⟨isOther, notClient⟩ | ⟨isId, isLeaving⟩
    · rw [roles other isOther] at isRemoving
      obtain ⟨found, isId, isLeaving⟩ := placed.removing isRemoving
      refine ⟨found, isId, ?_⟩
      rw [Function.update_of_ne, isLeaving]
      rintro rfl
      exact notClient isLeaving
    · refine ⟨client, isId, ?_⟩
      rw [Function.update_self, isLeaving]

/-! ## The steps of a disconnect -/

omit [DecidableEq γ] in
/-- A holder with empty hands has nobody. -/
theorem not_of_free (placed : Placed ids state place) {holder : Holder γ}
    (free : state.role holder = .free) (other : γ) :
    place other ≠ .leaving holder ∧ place other ≠ .held holder := by
  constructor
  · intro isLeaving
    have role := (placed.fits other).leaving holder isLeaving
    rw [free] at role
    cases role
  · intro isHeld
    have role := ((placed.fits other).held holder).mp isHeld
    rw [free] at role
    cases role

omit [DecidableEq γ] in
/-- A holder that is removing an id has only the client of that id. -/
theorem not_of_leaving (placed : Placed ids state place) {client : γ} {holder : Holder γ}
    (leaving : place client = .leaving holder) {other : γ} (different : other ≠ client) :
    place other ≠ .leaving holder ∧ place other ≠ .held holder := by
  have role := (placed.fits client).leaving holder leaving
  constructor
  · intro alsoLeaving
    have same := (placed.fits other).leaving holder alsoLeaving
    rw [role, Role.removing.injEq] at same
    have one := (placed.fits client).table.mpr (by rw [leaving]; rfl)
    have two := (placed.fits other).table.mpr (by rw [alsoLeaving]; rfl)
    rw [← same, one, Option.some.injEq] at two
    exact different two.symm
  · intro isHeld
    have alsoHeld := ((placed.fits other).held holder).mp isHeld
    rw [role] at alsoHeld
    cases alsoHeld

omit [DecidableEq γ] in
/-- A holder that has a client in hand has only that one. -/
theorem not_of_held (placed : Placed ids state place) {client : γ} {holder : Holder γ}
    (held : place client = .held holder) {other : γ} (different : other ≠ client) :
    place other ≠ .leaving holder ∧ place other ≠ .held holder := by
  have role := ((placed.fits client).held holder).mp held
  constructor
  · intro isLeaving
    have same := (placed.fits other).leaving holder isLeaving
    rw [role] at same
    cases same
  · intro alsoHeld
    have same := ((placed.fits other).held holder).mp alsoHeld
    rw [role, Role.holding.injEq] at same
    exact different same.symm

omit [DecidableEq γ] in
theorem update_none_iff {entries : String → Option γ} {client other : γ}
    (found : entries (ids client) = some client) (different : other ≠ client) :
    Function.update entries (ids client) none (ids other) = some other ↔
      entries (ids other) = some other := by
  by_cases same : ids other = ids client
  · rw [same, Function.update_self, found]
    constructor
    · nofun
    · intro isOther
      exact absurd (Option.some.inj isOther).symm different
  · rw [Function.update_of_ne same]

omit [DecidableEq γ] in
theorem update_none_some {entries : String → Option γ} {connectionId key : String} {other : γ}
    (found : Function.update entries key none connectionId = some other) :
    entries connectionId = some other := by
  by_cases same : connectionId = key
  · rw [same, Function.update_self] at found
    cases found
  · rw [Function.update_of_ne same] at found
    exact found

section Disconnect

variable {client : γ} {holder : Holder γ}

/-- `TryRemoveClientConnection` of the manager. -/
theorem leave (placed : Placed ids state place) (live : place client = .live)
    (later : state.receiver ≠ .starting client)
    (free : state.role holder = .free) (own : ∀ other, holder = .task other → other = client)
    (roles : ∀ other, other ≠ holder → next.role other = state.role other)
    (role : next.role holder = .removing (ids client))
    (steady : ∀ other, Steady state next other)
    (manager : next.manager = Function.update state.manager (ids client) none)
    (table : next.table = state.table) :
    Placed ids next (Function.update place client (.leaving holder)) := by
  have fits := placed.fits client
  rw [live] at fits
  have found := fits.manager.mpr rfl
  refine placed.move roles (fun other _ => placed.not_of_free free other) ?_ ?_ ?_ ?_ ?_ ?_
  · intro other _ holding
    rw [role] at holding
    cases holding
  · intro other different
    exact { steady other with
      manager := by rw [manager]; exact update_none_iff found different
      table := by rw [table]
      tableNone := fun _ none => by rw [table, none] }
  · refine fits.of_calm (steady client).toCalm rfl rfl later ?_ ?_ ?_ ?_ ?_ ?_ ?_
    · rw [manager, Function.update_self]
      exact ⟨nofun, nofun⟩
    · rw [table]
      exact ⟨fun _ => rfl, fun _ => fits.table.mpr rfl⟩
    · intro some same
      rw [← Place.leaving.inj same, role]
    · intro some
      refine ⟨nofun, fun holding => ?_⟩
      by_cases isHolder : some = holder
      · rw [isHolder, role] at holding
        cases holding
      · rw [roles some isHolder] at holding
        cases (fits.held some).mpr holding
    · rintro other (same | same)
      · exact own other (Place.leaving.inj same)
      · cases same
    · rw [(steady client).waiter]
      exact ⟨nofun, fun active => by cases fits.waited.mpr active⟩
    · rw [(steady client).left]
      exact ⟨nofun, fun left => by cases fits.gone.mpr left⟩
  · intro connectionId other found
    rw [manager] at found
    exact .inl (update_none_some found)
  · intro connectionId other found
    rw [table] at found
    exact .inl found
  · intro other connectionId removing
    by_cases isHolder : other = holder
    · rw [isHolder, role] at removing
      exact .inr ⟨Role.removing.inj removing, by rw [isHolder]⟩
    · refine .inl ⟨isHolder, ?_⟩
      rw [live]
      nofun

/-- `TryRemove` of the table. -/
theorem hold (placed : Placed ids state place) (leaving : place client = .leaving holder)
    (roles : ∀ other, other ≠ holder → next.role other = state.role other)
    (role : next.role holder = .holding client) (steady : ∀ other, Steady state next other)
    (manager : next.manager = state.manager)
    (table : next.table = Function.update state.table (ids client) none) :
    Placed ids next (Function.update place client (.held holder)) := by
  have fits := placed.fits client
  rw [leaving] at fits
  have found := fits.table.mpr rfl
  have later : state.receiver ≠ .starting client := fun starting => by
    cases (fits.starting starting).1
  refine placed.move roles (fun other different => placed.not_of_leaving leaving different)
    ?_ ?_ ?_ ?_ ?_ ?_
  · intro other different holding
    rw [role] at holding
    exact different (Role.holding.inj holding).symm
  · intro other different
    exact { steady other with
      manager := by rw [manager]
      table := by rw [table]; exact update_none_iff found different
      tableNone := by
        intro _ none
        rw [table]
        by_cases same : ids other = ids client
        · rw [same, Function.update_self]
        · rw [Function.update_of_ne same, none] }
  · refine fits.of_calm (steady client).toCalm rfl rfl later ?_ ?_ ?_ ?_ ?_ ?_ ?_
    · rw [manager, fits.manager]
      exact ⟨nofun, nofun⟩
    · rw [table, Function.update_self]
      exact ⟨nofun, nofun⟩
    · intro some same
      cases same
    · intro some
      constructor
      · intro same
        rw [← Place.held.inj same, role]
      · intro holding
        by_cases isHolder : some = holder
        · rw [isHolder]
        · rw [roles some isHolder] at holding
          cases (fits.held some).mpr holding
    · rintro other (same | same)
      · cases same
      · exact fits.own other (.inl (by rw [Place.held.inj same]))
    · rw [(steady client).waiter]
      exact ⟨nofun, fun active => by cases fits.waited.mpr active⟩
    · rw [(steady client).left]
      exact ⟨nofun, fun left => by cases fits.gone.mpr left⟩
  · intro connectionId other found
    rw [manager] at found
    exact .inl found
  · intro connectionId other found
    rw [table] at found
    exact .inl (update_none_some found)
  · intro other connectionId removing
    refine .inl ⟨?_, ?_⟩
    · rintro rfl
      rw [role] at removing
      cases removing
    · intro alsoLeaving
      rw [leaving, Place.leaving.injEq] at alsoLeaving
      rw [← alsoLeaving, role] at removing
      cases removing

/-- A client that is in no table comes to its wait, or passes `OnDisconnected`. -/
theorem pass (holder : Holder γ) (placed : Placed ids state place) {goal : Place γ}
    (plain : goal = .waited ∨ goal = .gone) (inside : (place client).isInside = true)
    (absent : (place client).inManager = false ∧ (place client).inTable = false)
    (sole : ∀ some, state.role some = .holding client → some = holder)
    (before : ∀ other, other ≠ client → place other ≠ .leaving holder ∧ place other ≠ .held holder)
    (roles : ∀ other, other ≠ holder → next.role other = state.role other)
    (role : next.role holder = .free) (steady : ∀ other, other ≠ client → Steady state next other)
    (calm : Calm state next client) (manager : next.manager = state.manager)
    (table : next.table = state.table)
    (waited : goal = .waited ↔ (next.clients client).waiter.isActive = true)
    (gone : goal = .gone ↔ (next.clients client).left = true) :
    Placed ids next (Function.update place client goal) := by
  have fits := placed.fits client
  have further : goal.isInside = true ∧ goal.inManager = false ∧ goal.inTable = false ∧
      (∀ some, goal ≠ .leaving some) ∧ ∀ some, goal ≠ .held some := by
    rcases plain with rfl | rfl
    · exact ⟨rfl, rfl, rfl, nofun, nofun⟩
    · exact ⟨rfl, rfl, rfl, nofun, nofun⟩
  obtain ⟨goalInside, notInManager, notInTable, notLeaving, notHeld⟩ := further
  have later : state.receiver ≠ .starting client := fun starting => by
    rw [(fits.starting starting).1] at absent
    cases absent.1
  refine placed.move roles before ?_ ?_ ?_ ?_ ?_ ?_
  · intro other _ holding
    rw [role] at holding
    cases holding
  · intro other different
    exact { steady other different with
      manager := by rw [manager]
      table := by rw [table]
      tableNone := fun _ none => by rw [table, none] }
  · refine fits.of_calm calm inside goalInside later ?_ ?_ ?_ ?_ ?_ waited gone
    · rw [manager, fits.manager, absent.1, notInManager]
    · rw [table, fits.table, absent.2, notInTable]
    · intro some same
      exact absurd same (notLeaving some)
    · intro some
      constructor
      · intro same
        exact absurd same (notHeld some)
      · intro holding
        by_cases isHolder : some = holder
        · rw [isHolder, role] at holding
          cases holding
        · rw [roles some isHolder] at holding
          exact absurd (sole some holding) isHolder
    · rintro other (same | same)
      · exact absurd same (notLeaving _)
      · exact absurd same (notHeld _)
  · intro connectionId other found
    rw [manager] at found
    exact .inl found
  · intro connectionId other found
    rw [table] at found
    exact .inl found
  · intro other connectionId removing
    refine .inl ⟨?_, ?_⟩
    · rintro rfl
      rw [role] at removing
      cases removing
    · intro leaving
      rw [leaving] at absent
      cases absent.2

omit [DecidableEq γ] in
theorem sole_of_held (placed : Placed ids state place) (held : place client = .held holder)
    (some : Holder γ) (holding : state.role some = .holding client) : some = holder := by
  have same := ((placed.fits client).held some).mpr holding
  rw [held, Place.held.injEq] at same
  exact same.symm

omit [DecidableEq γ] in
/-- The application task of a client behind its wait has nobody in hand. -/
theorem free_of_waited (placed : Placed ids state place) (waited : place client = .waited) :
    state.role (.task client) = .free := by
  cases role : state.role (.task client) with
  | free => rfl
  | removing connectionId =>
      obtain ⟨other, -, leaving⟩ := placed.removing role
      have own := (placed.fits other).own client (.inl leaving)
      rw [← own, waited] at leaving
      cases leaving
  | holding other =>
      have held := ((placed.fits other).held _).mpr role
      have own := (placed.fits other).own client (.inr held)
      rw [← own, waited] at held
      cases held

omit [DecidableEq γ] in
/-- A client that is out of the manager has been started. -/
theorem started_of_inside (placed : Placed ids state place)
    (inside : (place client).isInside = true) (left : (place client).inManager = false) :
    (state.clients client).task ≠ .notStarted := by
  intro notStarted
  rcases (placed.fits client).started notStarted with outside | listing | starting
  · rw [outside] at inside
    cases inside
  · rw [listing] at inside
    cases inside
  · rw [((placed.fits client).starting starting).1] at left
    cases left

end Disconnect

/-! ## The steps of an open message -/

section Open

variable {client : γ}

/-- `TryAddClientConnection` of the manager. -/
theorem register (placed : Placed ids state place) (adding : state.receiver = .adding client)
    (unknown : state.manager (ids client) = none) (unlisted : state.table (ids client) = none) :
    Placed ids ((state.setManager (ids client) (some client)).goTo (.listing client))
      (Function.update place client .listing) := by
  have fits := placed.fits client
  obtain ⟨outside, known⟩ := fits.adding adding
  have free : state.role .receiver = .free := by
    show roleOf state.receiver.disconnect? = _
    rw [adding]
    rfl
  refine placed.move ?_ (fun other _ => placed.not_of_free free other)
    ?_ ?_ ?_ ?_ ?_ ?_
  · intro other notReceiver
    cases other with
    | receiver => exact absurd rfl notReceiver
    | task client => rfl
  · nofun
  · intro other different
    exact {
      listing := by
        rw [adding]
        refine ⟨fun listing => ?_, nofun⟩
        exact absurd (Receiver.listing.inj listing).symm different
      unstarted := .inl
      started := id
      starting := by
        rw [adding]
        nofun
      begun := nofun
      adding := nofun
      contexts := id
      waiter := rfl
      left := rfl
      manager := by
        show Function.update state.manager (ids client) (some client) (ids other) = _ ↔ _
        by_cases same : ids other = ids client
        · rw [same, Function.update_self, unknown]
          exact ⟨fun isOther => absurd (Option.some.inj isOther).symm different, nofun⟩
        · rw [Function.update_of_ne same]
      table := Iff.rfl
      tableNone := fun _ => id }
  · rw [outside] at fits
    exact {
      manager := by
        show Function.update state.manager (ids client) (some client) (ids client) = _ ↔ _
        rw [Function.update_self]
        exact ⟨fun _ => rfl, fun _ => rfl⟩
      table := fits.table
      leaving := nofun
      held := by
        intro some
        refine ⟨nofun, fun holding => ?_⟩
        cases some with
        | receiver => cases holding
        | task other => cases (fits.held (.task other)).mpr holding
      own := by
        rintro other (same | same)
        · cases same
        · cases same
      waited := ⟨nofun, fun active => by cases fits.waited.mpr active⟩
      gone := ⟨nofun, fun left => by cases fits.gone.mpr left⟩
      listing := ⟨fun _ => rfl, fun _ => rfl⟩
      apart := fun _ => unlisted
      unstarted := fun _ => fits.unstarted (.inl rfl)
      started := fun _ => .inr (.inl rfl)
      starting := nofun
      adding := nofun
      fresh := fun unknown => absurd known unknown }
  · intro connectionId other found
    by_cases same : connectionId = ids client
    · right
      rw [same]
      have isClient : Function.update state.manager (ids client) (some client) connectionId =
        some other := found
      rw [same, Function.update_self] at isClient
      exact ⟨(Option.some.inj isClient).symm, rfl⟩
    · left
      exact (Function.update_of_ne same _ _).symm.trans found
  · exact .inl
  · intro other connectionId removing
    left
    cases other with
    | receiver => cases removing
    | task caller =>
        refine ⟨nofun, ?_⟩
        rw [outside]
        nofun

/-- `TryAdd` of the table. -/
theorem list (placed : Placed ids state place) (listing : state.receiver = .listing client) :
    Placed ids ((state.setTable (ids client) (some client)).goTo (.starting client))
      (Function.update place client .live) := by
  have fits := placed.fits client
  have isListing := fits.listing.mpr listing
  have unlisted := fits.apart isListing
  have free : state.role .receiver = .free := by
    show roleOf state.receiver.disconnect? = _
    rw [listing]
    rfl
  refine placed.move ?_ (fun other _ => placed.not_of_free free other)
    ?_ ?_ ?_ ?_ ?_ ?_
  · intro other notReceiver
    cases other with
    | receiver => exact absurd rfl notReceiver
    | task client => rfl
  · nofun
  · intro other different
    exact {
      listing := by
        rw [listing]
        refine ⟨nofun, fun isOther => ?_⟩
        exact absurd (Receiver.listing.inj isOther).symm different
      unstarted := .inl
      started := id
      starting := by
        rw [listing]
        nofun
      begun := fun starting => absurd (Receiver.starting.inj starting).symm different
      adding := nofun
      contexts := id
      waiter := rfl
      left := rfl
      manager := Iff.rfl
      table := by
        show Function.update state.table (ids client) (some client) (ids other) = _ ↔ _
        by_cases same : ids other = ids client
        · rw [same, Function.update_self, unlisted]
          exact ⟨fun isOther => absurd (Option.some.inj isOther).symm different, nofun⟩
        · rw [Function.update_of_ne same]
      tableNone := nofun }
  · rw [isListing] at fits
    exact {
      manager := fits.manager
      table := by
        show Function.update state.table (ids client) (some client) (ids client) = _ ↔ _
        rw [Function.update_self]
        exact ⟨fun _ => rfl, fun _ => rfl⟩
      leaving := nofun
      held := by
        intro some
        refine ⟨nofun, fun holding => ?_⟩
        cases some with
        | receiver => cases holding
        | task other => cases (fits.held (.task other)).mpr holding
      own := by
        rintro other (same | same)
        · cases same
        · cases same
      waited := ⟨nofun, fun active => by cases fits.waited.mpr active⟩
      gone := ⟨nofun, fun left => by cases fits.gone.mpr left⟩
      listing := ⟨nofun, nofun⟩
      apart := nofun
      unstarted := by
        rintro (same | same)
        · cases same
        · cases same
      started := fun _ => .inr (.inr rfl)
      starting := fun _ => ⟨rfl, fits.unstarted (.inr rfl)⟩
      adding := nofun
      fresh := fun unknown => by cases fits.fresh unknown }
  · exact .inl
  · intro connectionId other found
    by_cases same : connectionId = ids client
    · right
      have isClient : Function.update state.table (ids client) (some client) connectionId =
        some other := found
      rw [same, Function.update_self] at isClient
      exact ⟨(Option.some.inj isClient).symm, same⟩
    · left
      exact (Function.update_of_ne same _ _).symm.trans found
  · intro other connectionId removing
    left
    cases other with
    | receiver => cases removing
    | task caller =>
        refine ⟨nofun, ?_⟩
        rw [isListing]
        nofun

end Open

end Placed

end AzureSignalR.AspNet
