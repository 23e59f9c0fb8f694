import AzureSignalR.ServiceConnections.ClientBookkeeping
import Mathlib.Data.Fintype.Basic

/-!
Contract: a client is in the table of the service connection that owns it, and in no other.

Owns: the condition under which ownership can move, the invariant that ties the manager, the
tables and `ServiceConnection` of the clients together, and what follows for migrations.

Does not own: which messages arrive. Ids are compared, never made up: two clients may have the
same one.
-/

set_option autoImplicit false

namespace AzureSignalR.ServiceConnections.ClientBookkeeping

open Library Protocol

variable {σ γ ρ : Type}

namespace Stage

/-- It may have an entry, or is about to have one. -/
@[grind] def isAlive : Stage σ → Bool
  | .unopened | .refused | .waiting _ | .closing _ | .completed => false
  | _ => true

/-- The manager may have it. -/
@[grind] def isRegistered : Stage σ → Bool
  | .unopened | .refused | .registering _ | .waiting _ | .closing _ | .completed => false
  | _ => true

/-- A table may have it. -/
@[grind] def isListed : Stage σ → Bool
  | .checking _ | .thrown _ | .running _ | .unlisting _ => true
  | _ => false

/-- Its entries are made and its processing task has not begun to remove them. -/
@[grind] def isMovable : Stage σ → Bool
  | .checking _ | .thrown _ | .running _ => true
  | _ => false

/-- Its handler or its processing task is changing its entries. -/
def isChanging : Stage σ → Bool
  | .registering _ | .listing _ | .unlisting _ | .unregistering _ => true
  | _ => false

/-- The service connection that opened it, from where it changes its entries or writes its close
message. -/
@[grind] def bound : Stage σ → Option σ
  | .registering opener | .listing opener | .unlisting opener | .unregistering opener
  | .waiting opener | .closing opener => some opener
  | _ => none

end Stage

namespace Resume

/-- The client that is being moved. -/
@[grind] def moving : Resume σ γ → Option γ
  | .idle | .comparing _ _ | .returned => none
  | .unlisting _ client _ | .unregistering _ client | .registering _ client
  | .listing _ client _ | .assigning _ client => some client

/-- The client that is in no table. -/
@[grind] def detached : Resume σ γ → Option γ
  | .unregistering _ client | .registering _ client | .listing _ client _ => some client
  | _ => none

/-- The client that is not in the table of its owner. -/
@[grind] def displaced : Resume σ γ → Option γ
  | .assigning _ client => some client
  | resume => resume.detached

end Resume

/-! ## The condition and what follows -/

section Statement

variable (messages : γ → OpenConnectionMessage)

/-- An id is opened again only when no client with it has its removal still in front of it; when
the first task of a client ends, the client is with the service connection that has opened it
and is not being moved; and a client is moved by one service connection at a time, while its
entries are made and its removal has not begun. -/
def Unmoved (state : State σ γ ρ) : Action σ γ ρ → Prop
  | .openConnection _ client =>
      ∀ other, ids messages other = ids messages client → (state.clients other).isAlive = false
  | .ends client =>
      ∀ opener, state.clients client = .running opener →
        state.owners client = some opener ∧ ∀ index, (state.resumes index).moving ≠ some client
  | .resume index =>
      ∀ service client, state.resumes index = .comparing service client →
        state.owners client ≠ some service →
        (state.clients client).isMovable = true ∧
          ∀ other, (state.resumes other).moving ≠ some client
  | _ => True

/-- No handler is in the middle of changing the entries of the client. -/
def Settled (state : State σ γ ρ) (client : γ) : Prop :=
  (state.clients client).isChanging = false ∧
    ∀ index, (state.resumes index).moving ≠ some client

/-- A registered client is in the table of its owner only; a client that has ended is in no
table; and the close messages are written through the owner. -/
structure Tracked (state : State σ γ ρ) : Prop where
  registered : ∀ client, state.manager (ids messages client) = some client →
    Settled state client → ∀ service,
      (state.tables service (ids messages client)).isSome = true ↔
        state.owners client = some service
  ended : ∀ client, (∃ opener, state.clients client = .closing opener) ∨
      state.clients client = .completed → ∀ service other,
    state.tables service (ids messages client) = some other →
      other ≠ client ∧ (state.clients other).isAlive = true
  closed : ∀ message ∈ state.closeMessages, message.owner = some message.through

/-! ## The invariant -/

/-- `places` gives the table that each client is in. -/
structure Sound (state : State σ γ ρ) (places : γ → Option σ) : Prop where
  unique : ∀ one other, ids messages one = ids messages other →
    (state.clients one).isAlive = true → (state.clients other).isAlive = true → one = other
  registered : ∀ connectionId client, state.manager connectionId = some client →
    ids messages client = connectionId ∧ (state.clients client).isRegistered = true
  tables : ∀ service connectionId client, state.tables service connectionId = some client ↔
    ids messages client = connectionId ∧ places client = some service
  unlisted : ∀ client, (state.clients client).isListed = false → places client = none
  owned : ∀ client, (state.clients client).isListed = true → state.owners client ≠ none
  listed : ∀ client, (state.clients client).isListed = true →
    (∀ index, (state.resumes index).displaced ≠ some client) → places client = state.owners client
  bound : ∀ client opener, (state.clients client).bound = some opener →
    state.owners client = some opener
  movable : ∀ index client, (state.resumes index).moving = some client →
    (state.clients client).isMovable = true
  alone : ∀ one other client, (state.resumes one).moving = some client →
    (state.resumes other).moving = some client → one = other
  leaving : ∀ index service client owner,
    state.resumes index = .unlisting service client owner → state.owners client = some owner
  absent : ∀ index client, (state.resumes index).detached = some client → places client = none
  free : ∀ index service client, state.resumes index = .registering service client →
    state.manager (ids messages client) = none
  added : ∀ index service client added, state.resumes index = .listing service client added →
    added = true
  assigning : ∀ index service client, state.resumes index = .assigning service client →
    places client = some service
  closed : ∀ message ∈ state.closeMessages, message.owner = some message.through

end Statement

section Invariant

variable {messages : γ → OpenConnectionMessage} {state : State σ γ ρ} {places : γ → Option σ}
  {client : γ} {index : ρ} {service : σ}

theorem sound_initial : Sound messages ({} : State σ γ ρ) fun _ => none where
  unique := by nofun
  registered := by nofun
  tables _ _ _ := ⟨by nofun, fun placed => by cases placed.2⟩
  unlisted _ _ := rfl
  owned := by nofun
  listed := by nofun
  bound := by nofun
  movable := by nofun
  alone := by nofun
  leaving := by nofun
  absent := by nofun
  free := by nofun
  added := by nofun
  assigning := by nofun
  closed := by nofun

theorem isAlive_of_isRegistered {stage : Stage σ} (registered : stage.isRegistered = true) :
    stage.isAlive = true := by
  cases stage <;> first | rfl | cases registered

theorem isAlive_of_isListed {stage : Stage σ} (listed : stage.isListed = true) :
    stage.isAlive = true := by
  cases stage <;> first | rfl | cases listed

theorem isListed_of_isMovable {stage : Stage σ} (movable : stage.isMovable = true) :
    stage.isListed = true := by
  cases stage <;> first | rfl | cases movable

theorem isRegistered_of_isMovable {stage : Stage σ} (movable : stage.isMovable = true) :
    stage.isRegistered = true := by
  cases stage <;> first | rfl | cases movable

theorem isMovable_of_settled {stage : Stage σ} (registered : stage.isRegistered = true)
    (settled : stage.isChanging = false) : stage.isMovable = true := by
  cases stage with
  | checking _ | thrown _ | running _ => rfl
  | listing _ | unlisting _ | unregistering _ => cases settled
  | unopened | refused | registering _ | waiting _ | closing _ | completed => cases registered

theorem bound_of_isMovable {stage : Stage σ} (movable : stage.isMovable = true) :
    stage.bound = none := by
  cases stage <;> first | rfl | cases movable

@[grind →] theorem moving_of_detached {resume : Resume σ γ} {client : γ}
    (detached : resume.detached = some client) : resume.moving = some client := by
  cases resume <;> first | exact detached | cases detached

@[grind →] theorem moving_of_displaced {resume : Resume σ γ} {client : γ}
    (displaced : resume.displaced = some client) : resume.moving = some client := by
  cases resume <;> first | exact displaced | cases displaced

namespace Sound

/-! ### Facts about one state -/

/-- Nobody else with its id is in a table. -/
theorem placed_unique (sound : Sound messages state places)
    (alive : (state.clients client).isAlive = true) {other : γ}
    (same : ids messages other = ids messages client) (placed : places other ≠ none) :
    other = client := by
  refine sound.unique other client same ?_ alive
  cases isListed : (state.clients other).isListed with
  | false => exact absurd (sound.unlisted other isListed) placed
  | true => exact isAlive_of_isListed isListed

/-- A client that is in no table finds no entry under its id. -/
theorem vacant (sound : Sound messages state places)
    (alive : (state.clients client).isAlive = true) (absent : places client = none) (service : σ) :
    state.tables service (ids messages client) = none := by
  cases entry : state.tables service (ids messages client) with
  | none => rfl
  | some other =>
      obtain ⟨same, placed⟩ := (sound.tables _ _ _).mp entry
      have isClient := sound.placed_unique alive same (by rw [placed]; nofun)
      rw [isClient, absent] at placed
      cases placed

/-- A client that is alive and not in the manager finds its id free. -/
theorem unregistered (sound : Sound messages state places)
    (alive : (state.clients client).isAlive = true)
    (absent : state.manager (ids messages client) ≠ some client) :
    state.manager (ids messages client) = none := by
  cases entry : state.manager (ids messages client) with
  | none => rfl
  | some other =>
      obtain ⟨same, isRegistered⟩ := sound.registered _ _ entry
      have isClient := sound.unique other client same (isAlive_of_isRegistered isRegistered) alive
      rw [isClient] at entry
      exact absurd entry absent

theorem notMoving_of (sound : Sound messages state places)
    (notMovable : (state.clients client).isMovable = false) (index : ρ) :
    (state.resumes index).moving ≠ some client := by
  intro isMoving
  rw [sound.movable index client isMoving] at notMovable
  cases notMovable

/-- Only the client itself is moved under its id. -/
theorem apart (sound : Sound messages state places)
    (alive : (state.clients client).isAlive = true)
    (notMoving : ∀ index, (state.resumes index).moving ≠ some client) {other : γ}
    (isMoving : (state.resumes index).moving = some other) :
    ids messages other ≠ ids messages client := by
  intro same
  have isMovable := sound.movable index other isMoving
  have isClient := sound.unique other client same
    (isAlive_of_isListed (isListed_of_isMovable isMovable)) alive
  rw [isClient] at isMoving
  exact notMoving index isMoving

/-- One Resume message moves a client under an id. -/
theorem only (sound : Sound messages state places)
    (isMoving : (state.resumes index).moving = some client) {another : ρ} {other : γ}
    (alsoMoving : (state.resumes another).moving = some other)
    (same : ids messages other = ids messages client) : another = index := by
  have alive := isAlive_of_isListed (isListed_of_isMovable (sound.movable index client isMoving))
  have alsoAlive :=
    isAlive_of_isListed (isListed_of_isMovable (sound.movable another other alsoMoving))
  have isClient := sound.unique other client same alsoAlive alive
  rw [isClient] at alsoMoving
  exact sound.alone another index client alsoMoving isMoving

/-- An entry is made. -/
theorem tables_list [DecidableEq σ] [DecidableEq γ] (sound : Sound messages state places)
    (alive : (state.clients client).isAlive = true) (absent : places client = none)
    (service : σ) (one : σ) (connectionId : String) (other : γ) :
    (state.setTable service (ids messages client) (some client)).tables one connectionId =
        some other ↔
      ids messages other = connectionId ∧
        Function.update places client (some service) other = some one := by
  have free := sound.vacant alive absent service
  have entries := sound.tables one connectionId other
  simp only [State.setTable, Function.update_apply]
  grind -ring -linarith

/-- An entry is removed. -/
theorem tables_unlist [DecidableEq σ] [DecidableEq γ] (sound : Sound messages state places)
    (alive : (state.clients client).isAlive = true) {service : σ}
    (placed : places client = some service) (one : σ) (connectionId : String) (other : γ) :
    (state.setTable service (ids messages client) none).tables one connectionId = some other ↔
      ids messages other = connectionId ∧ Function.update places client none other = some one := by
  have entries := sound.tables one connectionId other
  have only : ids messages other = ids messages client → places other ≠ none → other = client :=
    sound.placed_unique alive
  simp only [State.setTable, Function.update_apply]
  grind -ring -linarith

/-! ### Steps of a client -/

/-- A step of a client that leaves the entries alone. -/
theorem restage [DecidableEq γ] (sound : Sound messages state places) {before stage : Stage σ}
    (isBefore : state.clients client = before)
    (alive : stage.isAlive = true → before.isAlive = true)
    (registered : before.isRegistered = true → stage.isRegistered = true)
    (listed : stage.isListed = before.isListed)
    (movable : before.isMovable = true → stage.isMovable = true ∨
      ∀ index, (state.resumes index).moving ≠ some client)
    (bound : ∀ opener, stage.bound = some opener → state.owners client = some opener) :
    Sound messages (state.goTo client stage) places := by
  obtain ⟨unique, isRegistered, tables, unlisted, owned, isListed, isBound, isMovable, alone,
    leaving, absent, free, added, assigning, closed⟩ := sound
  refine ⟨?_, ?_, tables, ?_, ?_, ?_, ?_, ?_, alone, leaving, absent, free, added, assigning,
    closed⟩ <;> simp only [State.goTo, Function.update_apply] <;> grind -ring -linarith

variable {opener : σ}

theorem openConnection [DecidableEq γ] (sound : Sound messages state places)
    (isUnopened : state.clients client = .unopened)
    (unused : ∀ other, ids messages other = ids messages client →
      (state.clients other).isAlive = false) :
    Sound messages ((state.assign client opener).goTo client (.registering opener)) places := by
  have notMoving : ∀ index, (state.resumes index).moving ≠ some client :=
    sound.notMoving_of (by rw [isUnopened]; rfl)
  obtain ⟨unique, isRegistered, tables, unlisted, owned, isListed, isBound, isMovable, alone,
    leaving, absent, free, added, assigning, closed⟩ := sound
  refine ⟨?_, ?_, tables, ?_, ?_, ?_, ?_, ?_, alone, ?_, absent, free, added, assigning, closed⟩
  all_goals simp only [State.goTo, State.assign, Function.update_apply]
  all_goals grind -ring -linarith

theorem register [DecidableEq γ] (sound : Sound messages state places)
    (isRegistering : state.clients client = .registering opener) :
    Sound messages ((state.tryRegister (ids messages client) client).goTo client
      (.listing opener)) places := by
  have vacant : state.manager (ids messages client) = none := by
    refine sound.unregistered (by rw [isRegistering]; rfl) ?_
    intro entry
    have isRegistered := (sound.registered _ _ entry).2
    rw [isRegistering] at isRegistered
    cases isRegistered
  have notMoving : ∀ index, (state.resumes index).moving ≠ some client :=
    sound.notMoving_of (by rw [isRegistering]; rfl)
  have apart : ∀ index other, (state.resumes index).moving = some other →
      ids messages other ≠ ids messages client :=
    fun _ _ => sound.apart (by rw [isRegistering]; rfl) notMoving
  rw [State.tryRegister, if_pos vacant]
  obtain ⟨unique, isRegistered, tables, unlisted, owned, isListed, isBound, isMovable, alone,
    leaving, absent, free, added, assigning, closed⟩ := sound
  refine ⟨?_, ?_, tables, ?_, ?_, ?_, ?_, ?_, alone, leaving, absent, ?_, added, assigning, closed⟩
  all_goals simp only [State.goTo, State.setManager, Function.update_apply]
  all_goals grind -ring -linarith

theorem list [DecidableEq σ] [DecidableEq γ] (sound : Sound messages state places)
    (isListing : state.clients client = .listing opener) :
    Sound messages ((state.tryList opener (ids messages client) client).goTo client
      (.checking opener)) (Function.update places client (some opener)) := by
  have alive : (state.clients client).isAlive = true := by rw [isListing]; rfl
  have absent : places client = none := sound.unlisted client (by rw [isListing]; rfl)
  have notMoving : ∀ index, (state.resumes index).moving ≠ some client :=
    sound.notMoving_of (by rw [isListing]; rfl)
  have owner : state.owners client = some opener :=
    sound.bound client opener (by rw [isListing]; rfl)
  rw [State.tryList, if_pos (sound.vacant alive absent opener)]
  refine ⟨?_, ?_, sound.tables_list alive absent opener, ?_, ?_, ?_, ?_, ?_, ?_, ?_, ?_,
    ?_, ?_, ?_, ?_⟩
  all_goals obtain ⟨unique, isRegistered, tables, unlisted, owned, isListed, isBound,
    isMovable, alone,
    leaving, isAbsent, free, added, assigning, closed⟩ := sound
  all_goals simp only [State.goTo, State.setTable, Function.update_apply]
  all_goals grind -ring -linarith

theorem unlist [DecidableEq σ] [DecidableEq γ] (sound : Sound messages state places)
    (isUnlisting : state.clients client = .unlisting opener) :
    Sound messages ((state.setTable opener (ids messages client) none).goTo client
      (.unregistering opener)) (Function.update places client none) := by
  have alive : (state.clients client).isAlive = true := by rw [isUnlisting]; rfl
  have notMoving : ∀ index, (state.resumes index).moving ≠ some client :=
    sound.notMoving_of (by rw [isUnlisting]; rfl)
  have owner : state.owners client = some opener :=
    sound.bound client opener (by rw [isUnlisting]; rfl)
  have placed : places client = some opener := by
    rw [← owner]
    refine sound.listed client (by rw [isUnlisting]; rfl) ?_
    intro index displaced
    exact notMoving index (moving_of_displaced displaced)
  refine ⟨?_, ?_, sound.tables_unlist alive placed, ?_, ?_, ?_, ?_, ?_, ?_, ?_, ?_, ?_, ?_, ?_, ?_⟩
  all_goals obtain ⟨unique, isRegistered, tables, unlisted, owned, isListed, isBound,
    isMovable, alone,
    leaving, isAbsent, free, added, assigning, closed⟩ := sound
  all_goals simp only [State.goTo, State.setTable, Function.update_apply]
  all_goals grind -ring -linarith

theorem unregister [DecidableEq γ] (sound : Sound messages state places)
    (isUnregistering : state.clients client = .unregistering opener) :
    Sound messages ((state.setManager (ids messages client) none).goTo client
      (.waiting opener)) places := by
  have notMoving : ∀ index, (state.resumes index).moving ≠ some client :=
    sound.notMoving_of (by rw [isUnregistering]; rfl)
  refine ⟨?_, ?_, sound.tables, ?_, ?_, ?_, ?_, ?_, ?_, ?_, ?_, ?_, ?_, ?_, ?_⟩
  all_goals obtain ⟨unique, isRegistered, tables, unlisted, owned, isListed, isBound,
    isMovable, alone,
    leaving, isAbsent, free, added, assigning, closed⟩ := sound
  all_goals simp only [State.goTo, State.setManager, Function.update_apply]
  all_goals grind -ring -linarith

/-- A close or a clean-up. -/
theorem drop (sound : Sound messages state places) (connectionId : String) :
    Sound messages (state.drop connectionId) places := by
  unfold State.drop
  split
  next => exact sound
  next =>
    obtain ⟨unique, isRegistered, tables, unlisted, owned, isListed, isBound, isMovable, alone,
      leaving, isAbsent, free, added, assigning, closed⟩ := sound
    refine ⟨unique, ?_, tables, unlisted, owned, isListed, isBound, isMovable, alone, leaving,
      isAbsent, ?_, added, assigning, closed⟩
    all_goals simp only [State.setManager, Function.update_apply]
    all_goals grind -ring -linarith

/-! ### Steps of a Resume message -/

variable {before later : Resume σ γ} {owner : σ}

/-- A step outside a move. -/
theorem reroute [DecidableEq ρ] (sound : Sound messages state places)
    (isBefore : state.resumes index = before) (notMoving : before.moving = none)
    (stillNot : later.moving = none) : Sound messages (state.moveTo index later) places := by
  obtain ⟨unique, isRegistered, tables, unlisted, owned, isListed, isBound, isMovable, alone,
    leaving, isAbsent, free, added, assigning, closed⟩ := sound
  refine ⟨unique, isRegistered, tables, unlisted, owned, ?_, isBound, ?_, ?_, ?_, ?_, ?_, ?_, ?_,
    closed⟩
  all_goals simp only [State.moveTo, Function.update_apply]
  all_goals grind -ring -linarith

theorem leave [DecidableEq ρ] (sound : Sound messages state places)
    (isComparing : state.resumes index = .comparing service client)
    (isOwner : state.owners client = some owner)
    (isMovable : (state.clients client).isMovable = true)
    (notMoving : ∀ other, (state.resumes other).moving ≠ some client) :
    Sound messages (state.moveTo index (.unlisting service client owner)) places := by
  obtain ⟨unique, isRegistered, tables, unlisted, owned, isListed, isBound, areMovable, alone,
    leaving, isAbsent, free, added, assigning, closed⟩ := sound
  refine ⟨unique, isRegistered, tables, unlisted, owned, ?_, isBound, ?_, ?_, ?_, ?_, ?_, ?_, ?_,
    closed⟩
  all_goals simp only [State.moveTo, Function.update_apply]
  all_goals grind -ring -linarith

theorem detach [DecidableEq σ] [DecidableEq γ] [DecidableEq ρ]
    (sound : Sound messages state places)
    (isUnlisting : state.resumes index = .unlisting service client owner) :
    Sound messages ((state.setTable owner (ids messages client) none).moveTo index
      (.unregistering service client)) (Function.update places client none) := by
  have isMoving : (state.resumes index).moving = some client := by rw [isUnlisting]; rfl
  have movable := sound.movable index client isMoving
  have placed : places client = some owner := by
    rw [← sound.leaving index service client owner isUnlisting]
    refine sound.listed client (isListed_of_isMovable movable) ?_
    intro other displaced
    have same := sound.alone index other client isMoving (moving_of_displaced displaced)
    rw [← same, isUnlisting] at displaced
    cases displaced
  refine ⟨?_, ?_, sound.tables_unlist (isAlive_of_isListed (isListed_of_isMovable movable)) placed,
    ?_, ?_, ?_, ?_, ?_, ?_, ?_, ?_, ?_, ?_, ?_, ?_⟩
  all_goals obtain ⟨unique, isRegistered, tables, unlisted, owned, isListed, isBound,
    isMovable, alone,
    leaving, isAbsent, free, added, assigning, closed⟩ := sound
  all_goals simp only [State.moveTo, State.setTable, Function.update_apply]
  all_goals grind -ring -linarith

theorem detachManager [DecidableEq ρ] (sound : Sound messages state places)
    (isUnregistering : state.resumes index = .unregistering service client) :
    Sound messages ((state.setManager (ids messages client) none).moveTo index
      (.registering service client)) places := by
  obtain ⟨unique, isRegistered, tables, unlisted, owned, isListed, isBound, isMovable, alone,
    leaving, isAbsent, free, added, assigning, closed⟩ := sound
  refine ⟨unique, ?_, tables, unlisted, owned, ?_, isBound, ?_, ?_, ?_, ?_, ?_, ?_, ?_, closed⟩
  all_goals simp only [State.moveTo, State.setManager, Function.update_apply]
  all_goals grind -ring -linarith

theorem attachManager [DecidableEq ρ] (sound : Sound messages state places)
    (isRegistering : state.resumes index = .registering service client) :
    Sound messages ((state.tryRegister (ids messages client) client).moveTo index
      (.listing service client (decide (state.manager (ids messages client) = none)))) places := by
  have isMoving : (state.resumes index).moving = some client := by rw [isRegistering]; rfl
  have movable := sound.movable index client isMoving
  have registered := isRegistered_of_isMovable movable
  have only : ∀ another other, (state.resumes another).moving = some other →
      ids messages other = ids messages client → another = index :=
    fun _ _ => sound.only isMoving
  have vacant := sound.free index service client isRegistering
  rw [State.tryRegister, if_pos vacant, vacant]
  obtain ⟨unique, isRegistered, tables, unlisted, owned, isListed, isBound, isMovable, alone,
    leaving, isAbsent, free, added, assigning, closed⟩ := sound
  refine ⟨unique, ?_, tables, unlisted, owned, ?_, isBound, ?_, ?_, ?_, ?_, ?_, ?_, ?_, closed⟩
  all_goals simp only [State.moveTo, State.setManager, Function.update_apply]
  all_goals grind -ring -linarith

theorem attach [DecidableEq σ] [DecidableEq γ] [DecidableEq ρ]
    (sound : Sound messages state places) {added : Bool}
    (isListing : state.resumes index = .listing service client added) :
    Sound messages ((state.tryList service (ids messages client) client).moveTo index
      (.assigning service client)) (Function.update places client (some service)) := by
  have isMoving : (state.resumes index).moving = some client := by rw [isListing]; rfl
  have movable := sound.movable index client isMoving
  have listed := isListed_of_isMovable movable
  have alive := isAlive_of_isListed listed
  have absent : places client = none := sound.absent index client (by rw [isListing]; rfl)
  rw [State.tryList, if_pos (sound.vacant alive absent service)]
  refine ⟨?_, ?_, sound.tables_list alive absent service, ?_, ?_, ?_, ?_, ?_, ?_, ?_, ?_, ?_, ?_,
    ?_, ?_⟩
  all_goals obtain ⟨unique, isRegistered, tables, unlisted, owned, isListed, isBound,
    isMovable, alone,
    leaving, isAbsent, free, isAdded, assigning, closed⟩ := sound
  all_goals simp only [State.moveTo, State.setTable, Function.update_apply]
  all_goals grind -ring -linarith

theorem assign [DecidableEq γ] [DecidableEq ρ] (sound : Sound messages state places)
    (isAssigning : state.resumes index = .assigning service client) :
    Sound messages ((state.assign client service).moveTo index .returned) places := by
  have isMoving : (state.resumes index).moving = some client := by rw [isAssigning]; rfl
  have movable := sound.movable index client isMoving
  have placed := sound.assigning index service client isAssigning
  have notBound := bound_of_isMovable movable
  obtain ⟨unique, isRegistered, tables, unlisted, owned, isListed, isBound, isMovable, alone,
    leaving, isAbsent, free, added, assigning, closed⟩ := sound
  refine ⟨unique, isRegistered, tables, unlisted, ?_, ?_, ?_, ?_, ?_, ?_, ?_, ?_, ?_, ?_, closed⟩
  all_goals simp only [State.moveTo, State.assign, Function.update_apply]
  all_goals grind -ring -linarith

end Sound

end Invariant

/-! ## Runs -/

section Runs

variable [DecidableEq σ] [DecidableEq γ] [DecidableEq ρ] {services : Services}
  {messages : γ → OpenConnectionMessage} {state next : State σ γ ρ}

/-- The entries are where the invariant says, whatever tables the clients are in. -/
def Consistent (messages : γ → OpenConnectionMessage) (state : State σ γ ρ) : Prop :=
  ∃ places, Sound messages state places

omit [DecidableEq ρ] in
theorem consistent_proceed {client : γ} (consistent : Consistent messages state)
    (proceeded : proceed services messages state client = some next) :
    Consistent messages next := by
  obtain ⟨places, sound⟩ := consistent
  unfold proceed at proceeded
  cases stage : state.clients client with
  | unopened | refused | thrown _ | running _ | waiting _ | completed =>
      rw [stage] at proceeded
      cases proceeded
  | registering opener =>
      rw [stage] at proceeded
      cases proceeded
      exact ⟨_, sound.register stage⟩
  | listing opener =>
      rw [stage] at proceeded
      cases proceeded
      exact ⟨_, sound.list stage⟩
  | checking opener =>
      rw [stage] at proceeded
      dsimp only at proceeded
      split at proceeded
      next =>
        cases proceeded
        exact ⟨_, sound.restage stage (fun _ => rfl) (fun _ => rfl) rfl (fun _ => .inl rfl)
          (by nofun)⟩
      next =>
        cases proceeded
        exact ⟨_, sound.restage stage (fun _ => rfl) (fun _ => rfl) rfl (fun _ => .inl rfl)
          (by nofun)⟩
  | unlisting opener =>
      rw [stage] at proceeded
      cases proceeded
      exact ⟨_, sound.unlist stage⟩
  | unregistering opener =>
      rw [stage] at proceeded
      cases proceeded
      exact ⟨_, sound.unregister stage⟩
  | closing opener =>
      rw [stage] at proceeded
      dsimp only at proceeded
      have completed : Sound messages (state.goTo client .completed) places :=
        sound.restage stage (by nofun) (by nofun) rfl (by nofun) (by nofun)
      split at proceeded
      next =>
        cases proceeded
        refine ⟨places, { completed with closed := ?_ }⟩
        intro message member
        rcases List.mem_append.mp member with earlier | isNew
        · exact sound.closed message earlier
        · rw [List.mem_singleton.mp isNew]
          exact sound.bound client opener (by rw [stage]; rfl)
      next =>
        cases proceeded
        exact ⟨places, completed⟩

theorem consistent_resume {index : ρ} (consistent : Consistent messages state)
    (unmoved : Unmoved messages state (.resume index))
    (resumed : resume messages state index = some next) : Consistent messages next := by
  obtain ⟨places, sound⟩ := consistent
  unfold resume at resumed
  cases stage : state.resumes index with
  | idle =>
      rw [stage] at resumed
      cases resumed
  | returned =>
      rw [stage] at resumed
      cases resumed
  | comparing service client =>
      rw [stage] at resumed
      dsimp only at resumed
      split at resumed
      next isOwner =>
        -- A client that may be moved has an owner.
        have movable := (unmoved service client stage (by rw [isOwner]; nofun)).1
        exact absurd isOwner (sound.owned client (isListed_of_isMovable movable))
      next owner isOwner =>
        split at resumed
        next =>
          cases resumed
          exact ⟨_, sound.reroute stage rfl rfl⟩
        next differs =>
          cases resumed
          obtain ⟨movable, notMoving⟩ := unmoved service client stage
            (by rw [isOwner]; exact fun same => differs (Option.some.inj same))
          exact ⟨_, sound.leave stage isOwner movable notMoving⟩
  | unlisting service client owner =>
      rw [stage] at resumed
      cases resumed
      exact ⟨_, sound.detach stage⟩
  | unregistering service client =>
      rw [stage] at resumed
      cases resumed
      exact ⟨_, sound.detachManager stage⟩
  | registering service client =>
      rw [stage] at resumed
      cases resumed
      exact ⟨_, sound.attachManager stage⟩
  | listing service client added =>
      rw [stage] at resumed
      obtain rfl := sound.added index service client added stage
      cases resumed
      exact ⟨_, sound.attach stage⟩
  | assigning service client =>
      rw [stage] at resumed
      cases resumed
      exact ⟨_, sound.assign stage⟩

theorem consistent_step {action : Action σ γ ρ} (consistent : Consistent messages state)
    (unmoved : Unmoved messages state action)
    (stepped : step services messages state action = some next) : Consistent messages next := by
  cases action with
  | openConnection service client =>
      obtain ⟨places, sound⟩ := consistent
      rw [step] at stepped
      split at stepped
      next stage =>
        split at stepped
        next =>
          cases stepped
          exact ⟨places, sound.restage stage (by nofun) (by nofun) rfl (by nofun) (by nofun)⟩
        next =>
          cases stepped
          exact ⟨places, sound.openConnection stage unmoved⟩
      next => cases stepped
  | proceed client => exact consistent_proceed consistent stepped
  | ends client =>
      obtain ⟨places, sound⟩ := consistent
      rw [step] at stepped
      split at stepped
      next opener stage =>
        cases stepped
        obtain ⟨isOwner, notMoving⟩ := unmoved opener stage
        refine ⟨places, sound.restage stage (fun _ => rfl) (fun _ => rfl) rfl
          (fun _ => .inr notMoving) ?_⟩
        rintro _ ⟨⟩
        exact isOwner
      next => cases stepped
  | endsBoth client =>
      obtain ⟨places, sound⟩ := consistent
      rw [step] at stepped
      split at stepped
      next opener stage =>
        cases stepped
        refine ⟨places, sound.restage stage (by nofun) (by nofun) rfl (by nofun) ?_⟩
        rintro _ ⟨⟩
        exact sound.bound client opener (by rw [stage]; rfl)
      next => cases stepped
  | closeConnection connectionId =>
      obtain ⟨places, sound⟩ := consistent
      cases stepped
      exact ⟨places, sound.drop connectionId⟩
  | visit service fromInstanceId connectionId =>
      obtain ⟨places, sound⟩ := consistent
      rw [step] at stepped
      split at stepped
      next => cases stepped
      next =>
        dsimp only at stepped
        split at stepped
        next => cases stepped
        next =>
          cases stepped
          exact ⟨places, { sound with }⟩
  | cleanup connectionId =>
      obtain ⟨places, sound⟩ := consistent
      rw [step] at stepped
      split at stepped
      next =>
        cases stepped
        have cleared : Sound messages
            { state with cleanups := state.cleanups.erase connectionId } places := { sound with }
        exact ⟨places, cleared.drop connectionId⟩
      next => cases stepped
  | disconnect client =>
      obtain ⟨places, sound⟩ := consistent
      rw [step] at stepped
      split at stepped
      next =>
        cases stepped
        exact ⟨places, { sound with }⟩
      next => cases stepped
  | receive index service connectionId =>
      obtain ⟨places, sound⟩ := consistent
      rw [step] at stepped
      split at stepped
      next stage =>
        split at stepped
        next =>
          cases stepped
          exact ⟨places, sound.reroute stage rfl rfl⟩
        next =>
          cases stepped
          exact ⟨places, sound.reroute stage rfl rfl⟩
      next => cases stepped
  | resume index => exact consistent_resume consistent unmoved stepped

omit [DecidableEq σ] [DecidableEq γ] [DecidableEq ρ] in
theorem Sound.tracked {places : γ → Option σ} (sound : Sound messages state places) :
    Tracked messages state where
  registered client entry settled service := by
    have movable := isMovable_of_settled (sound.registered _ _ entry).2 settled.1
    have listed := isListed_of_isMovable movable
    have placed : places client = state.owners client := by
      refine sound.listed client listed ?_
      intro index displaced
      exact settled.2 index (moving_of_displaced displaced)
    rw [← placed]
    constructor
    · intro present
      obtain ⟨other, found⟩ := Option.isSome_iff_exists.mp present
      obtain ⟨same, isThere⟩ := (sound.tables _ _ _).mp found
      rw [← sound.placed_unique (isAlive_of_isListed listed) same (by rw [isThere]; nofun)]
      exact isThere
    · intro isThere
      rw [(sound.tables _ _ _).mpr ⟨rfl, isThere⟩]
      rfl
  ended client hasEnded service other entry := by
    obtain ⟨-, isThere⟩ := (sound.tables _ _ _).mp entry
    have isListed : (state.clients other).isListed = true := by
      cases listed : (state.clients other).isListed with
      | true => rfl
      | false =>
          rw [sound.unlisted other listed] at isThere
          cases isThere
    refine ⟨?_, isAlive_of_isListed isListed⟩
    rintro rfl
    rcases hasEnded with ⟨opener, isClosing⟩ | isCompleted
    · rw [isClosing] at isListed
      cases isListed
    · rw [isCompleted] at isListed
      cases isListed
  closed := sound.closed

end Runs

/-- The clients of any number of service connections, in every state of a run in which they end
where they were opened. -/
theorem clients_tracked [DecidableEq σ] [DecidableEq γ] [DecidableEq ρ] (services : Services)
    (messages : γ → OpenConnectionMessage) (actions : List (Action σ γ ρ)) {state : State σ γ ρ}
    (ran : Machine.run (step services messages) {} actions = some state)
    (unmoved : Machine.Along (step services messages) (Unmoved messages) {} actions) :
    Tracked messages state := by
  obtain ⟨places, sound⟩ : Consistent messages state :=
    Machine.run_along consistent_step ⟨_, sound_initial⟩ unmoved ran
  exact sound.tracked

section Decidability

variable [Fintype σ] [Fintype γ] [Fintype ρ] [DecidableEq σ] [DecidableEq γ]

instance (messages : γ → OpenConnectionMessage) (state : State σ γ ρ) :
    (action : Action σ γ ρ) → Decidable (Unmoved messages state action)
  | .openConnection _ client =>
      inferInstanceAs (Decidable (∀ other, ids messages other = ids messages client →
        (state.clients other).isAlive = false))
  | .ends client =>
      inferInstanceAs (Decidable (∀ opener, state.clients client = .running opener →
        state.owners client = some opener ∧ ∀ index, (state.resumes index).moving ≠ some client))
  | .resume index =>
      inferInstanceAs (Decidable (∀ service client,
        state.resumes index = .comparing service client → state.owners client ≠ some service →
          (state.clients client).isMovable = true ∧
            ∀ other, (state.resumes other).moving ≠ some client))
  | .proceed _ | .endsBoth _ | .closeConnection _ | .visit _ _ _ | .cleanup _ | .disconnect _
  | .receive _ _ _ => isTrue trivial

end Decidability

/-- Services as ASP.NET Core has them: without headers there is no client, and without a name no
protocol. -/
def defaultServices : Services where
  toUpperInvariant := Char.toUpper
  createConnection message := if message.headers.isNone then .error .nullReference else .ok ()
  getProtocol name := if name.isNone then .error (.argumentNull "protocolName") else .ok ()

def openMessage : OpenConnectionMessage where
  connectionId := "c"
  claims := none
  headers := some []
  queryString := none
  protocol := some "json"

/-- A client is opened by one service connection and moved to the other. -/
def movesAway : List (Action Bool Unit Bool) :=
  Action.openConnection false () :: List.replicate 3 (Action.proceed ()) ++
    Action.receive false true "c" :: List.replicate 6 (Action.resume false)

/-- It ends: its entries are removed, and the close message is written. -/
def endsThere : List (Action Bool Unit Bool) :=
  [.ends (), .proceed (), .proceed (), .endsBoth (), .proceed ()]

/-- It is moved back before it ends. -/
def movesBack : List (Action Bool Unit Bool) :=
  movesAway ++ Action.receive true false "c" :: List.replicate 6 (Action.resume true) ++ endsThere

theorem clients_tracked_movesBack :
    ∃ state : State Bool Unit Bool,
      Machine.run (step defaultServices fun _ => openMessage) {} movesBack = some state ∧
      state.closeMessages = [⟨(), false, some false⟩] ∧ Tracked (fun _ => openMessage) state :=
  ⟨_, rfl, rfl, clients_tracked defaultServices (fun _ => openMessage) movesBack rfl (by decide)⟩

theorem moved_client_leaks :
    ∃ state : State Bool Unit Bool,
      Machine.run (step defaultServices fun _ => openMessage) {} (movesAway ++ endsThere) =
        some state ∧
      state.clients () = .completed ∧ state.tables true "c" = some () ∧
      state.closeMessages = [⟨(), false, some true⟩] ∧ ¬ Tracked (fun _ => openMessage) state := by
  refine ⟨_, rfl, rfl, rfl, rfl, ?_⟩
  intro tracked
  exact (tracked.ended () (.inr rfl) true () rfl).1 rfl

end AzureSignalR.ServiceConnections.ClientBookkeeping
