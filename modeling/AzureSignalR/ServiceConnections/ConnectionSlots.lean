import AzureSignalR.Utilities.BackOffPolicy
import Mathlib.Data.List.Nodup

/-!
Contract: the connection list of a container, whose first entries are restarted forever.

Owns: `StartCoreAsync`, `OnConnectionComplete`, the restarts behind the shared back-off,
the on-demand connections of a rebalance ping, and the list that all of them replace.

Does not own: what a connection does between its start and its end, or when either comes.
The factory is taken not to throw.
-/

set_option autoImplicit false

namespace AzureSignalR.ServiceConnections.ConnectionSlots

open Library Utilities

inductive ServiceConnectionType where
  /-- `InitialConnectionType`. -/
  | initial
  | onDemand
deriving DecidableEq, Repr

/-- How far the container has got with a connection. -/
inductive Stage where
  | absent
  /-- Created for a rebalance ping. -/
  | added
  /-- Created by the probe of a restart. -/
  | replacement
  /-- In the list, in front of `StartCoreAsync`. -/
  | listed
  /-- `StartAsync` runs, and the connection is not initialized. -/
  | starting
  | running
  /-- `StartAsync` has ended. -/
  | completing
  /-- `IndexOf` has found it. -/
  | located (index : Nat)
  /-- In `CallProbeWithBackOffAsync`, in front of its probe. -/
  | restarting (index : Nat)
  /-- Its probe has created a connection. -/
  | replacing (index : Nat) (connection : Nat)
  /-- Its probe has put the connection into the list. -/
  | launching (connection : Nat)
  /-- Its probe awaits `ConnectionInitializedTask` of the connection. -/
  | restarted (connection : Nat)
  /-- In front of `RemoveOnDemandConnection`. -/
  | removing
  | removed
  /-- Left alone, because the container is terminated or does not list it. -/
  | abandoned
deriving DecidableEq, Repr

structure State where
  serviceConnections : List Nat
  fixedConnectionCount : Nat
  maxConnectionCount : Option Nat
  terminated : Bool := false
  /-- How many connections the factory has created. -/
  created : Nat
  types : Nat → ServiceConnectionType
  stages : Nat → Stage
  /-- The restarts are named by the connections that have ended. -/
  backOffPolicy : BackOffPolicy.State Nat Empty := {}

/-- A container behind its constructor. -/
def initial (fixedConnectionCount : Nat) (maxConnectionCount : Option Nat) : State where
  serviceConnections := List.range fixedConnectionCount
  fixedConnectionCount := fixedConnectionCount
  maxConnectionCount := maxConnectionCount
  created := fixedConnectionCount
  types _ := .initial
  stages connection := if connection < fixedConnectionCount then .listed else .absent

inductive Action where
  /-- `StartCoreAsync`, from `StartAsync` or from a rebalance ping. -/
  | launch (connection : Nat)
  | connects (connection : Nat)
  | ends (connection : Nat)
  /-- `IndexOf` of `OnConnectionComplete`. -/
  | complete (connection : Nat)
  /-- `RestartFixedServiceConnectionCoreAsync`. -/
  | restart (connection : Nat)
  | policy (action : BackOffPolicy.Action Nat Empty)
  /-- The three steps of `tryNewConnection`. -/
  | createConnection (restart : Nat)
  | replace (restart : Nat)
  | launchReplacement (restart : Nat)
  | remove (connection : Nat)
  /-- `HandlePingAsync` with a rebalance ping. -/
  | rebalance
  | addOnDemand (connection : Nat)
  /-- `StopAsync` or `OfflineAsync`. -/
  | terminate
deriving DecidableEq, Repr

namespace State

def goTo (state : State) (connection : Nat) (stage : Stage) : State :=
  { state with stages := Function.update state.stages connection stage }

/-- `ServiceConnectionFactory.Create`. -/
def create (state : State) (type : ServiceConnectionType) (stage : Stage) : State :=
  { state with
    created := state.created + 1
    types := Function.update state.types state.created type
    stages := Function.update state.stages state.created stage }

/-- `StartCoreAsync` up to the first `await`. -/
def startCore (state : State) (connection : Nat) : State :=
  state.goTo connection (if state.terminated then .abandoned else .starting)

/-- `ConnectionInitializedTask` has ended. -/
def initialized (state : State) (connection : Nat) : Bool :=
  match state.stages connection with
  | .absent | .added | .replacement | .listed | .starting => false
  | _ => true

/-- Whether the back-off may take a step for a restart: its caller is not inside `probe()`,
and the task of the probe ends behind the connection it awaits. -/
def allows (state : State) (action : BackOffPolicy.Action Nat Empty) : Bool :=
  match action, state.stages action.caller with
  | .resume _, .restarting _ | .resume _, .restarted _ => true
  | .delayEnds _, .restarted _ => true
  | .probeEnds _ _, .restarted connection => state.initialized connection
  | _, _ => false

end State

def step (state : State) : Action → Option State
  | .launch connection =>
      if state.stages connection = .listed then some (state.startCore connection) else none
  | .connects connection =>
      if state.stages connection = .starting then some (state.goTo connection .running) else none
  | .ends connection =>
      if state.stages connection = .starting ∨ state.stages connection = .running then
        some (state.goTo connection .completing)
      else none
  | .complete connection =>
      if state.stages connection = .completing then
        match state.serviceConnections.idxOf? connection with
        | none => some (state.goTo connection .abandoned)
        | some index =>
            if index < state.fixedConnectionCount then
              some (state.goTo connection (.located index))
            else some (state.goTo connection .removing)
      else none
  | .restart connection =>
      match state.stages connection with
      | .located index =>
          if state.terminated then some (state.goTo connection .abandoned)
          else
            match BackOffPolicy.step state.backOffPolicy (.call connection) with
            | none => none
            | some policy =>
                some { state.goTo connection (.restarting index) with backOffPolicy := policy }
      | _ => none
  | .policy action =>
      if state.allows action then
        match BackOffPolicy.step state.backOffPolicy action with
        | none => none
        | some policy => some { state with backOffPolicy := policy }
      else none
  | .createConnection restart =>
      match state.stages restart with
      | .restarting index =>
          match BackOffPolicy.step state.backOffPolicy (.invokeProbe restart none) with
          | none => none
          | some policy =>
              some { (state.create .initial .replacement).goTo restart
                (.replacing index state.created) with backOffPolicy := policy }
      | _ => none
  | .replace restart =>
      match state.stages restart with
      | .replacing index connection =>
          some { state.goTo restart (.launching connection) with
            serviceConnections := state.serviceConnections.set index connection }
      | _ => none
  | .launchReplacement restart =>
      match state.stages restart with
      | .launching connection =>
          some ((state.goTo restart (.restarted connection)).startCore connection)
      | _ => none
  | .remove connection =>
      if state.stages connection = .removing then
        some { state.goTo connection .removed with
          serviceConnections := state.serviceConnections.erase connection }
      else none
  | .rebalance =>
      if ∀ count ∈ state.maxConnectionCount, state.serviceConnections.length < count then
        some (state.create .onDemand .added)
      else none
  | .addOnDemand connection =>
      if state.stages connection = .added then
        some { state.goTo connection .listed with
          serviceConnections := state.serviceConnections ++ [connection] }
      else none
  | .terminate => some { state with terminated := true }

/-- What a step does. -/
inductive Steps (state : State) : Action → State → Prop where
  | launch (connection : Nat) (stage : state.stages connection = .listed) :
      Steps state (.launch connection) (state.startCore connection)
  | connects (connection : Nat) (stage : state.stages connection = .starting) :
      Steps state (.connects connection) (state.goTo connection .running)
  | ends (connection : Nat)
      (stage : state.stages connection = .starting ∨ state.stages connection = .running) :
      Steps state (.ends connection) (state.goTo connection .completing)
  | missing (connection : Nat) (stage : state.stages connection = .completing)
      (missing : state.serviceConnections.idxOf? connection = none) :
      Steps state (.complete connection) (state.goTo connection .abandoned)
  | locate (connection index : Nat) (stage : state.stages connection = .completing)
      (found : state.serviceConnections.idxOf? connection = some index)
      (isFixed : index < state.fixedConnectionCount) :
      Steps state (.complete connection) (state.goTo connection (.located index))
  | locateOther (connection index : Nat) (stage : state.stages connection = .completing)
      (found : state.serviceConnections.idxOf? connection = some index)
      (notFixed : ¬ index < state.fixedConnectionCount) :
      Steps state (.complete connection) (state.goTo connection .removing)
  | abandon (connection index : Nat) (stage : state.stages connection = .located index)
      (terminated : state.terminated = true) :
      Steps state (.restart connection) (state.goTo connection .abandoned)
  | restart (connection index : Nat) (policy : BackOffPolicy.State Nat Empty)
      (stage : state.stages connection = .located index) :
      Steps state (.restart connection)
        { state.goTo connection (.restarting index) with backOffPolicy := policy }
  | policy (action : BackOffPolicy.Action Nat Empty) (policy : BackOffPolicy.State Nat Empty) :
      Steps state (.policy action) { state with backOffPolicy := policy }
  | createConnection (connection index : Nat) (policy : BackOffPolicy.State Nat Empty)
      (stage : state.stages connection = .restarting index) :
      Steps state (.createConnection connection)
        { (state.create .initial .replacement).goTo connection
          (.replacing index state.created) with backOffPolicy := policy }
  | replace (connection index replacement : Nat)
      (stage : state.stages connection = .replacing index replacement) :
      Steps state (.replace connection)
        { state.goTo connection (.launching replacement) with
          serviceConnections := state.serviceConnections.set index replacement }
  | launchReplacement (connection replacement : Nat)
      (stage : state.stages connection = .launching replacement) :
      Steps state (.launchReplacement connection)
        ((state.goTo connection (.restarted replacement)).startCore replacement)
  | remove (connection : Nat) (stage : state.stages connection = .removing) :
      Steps state (.remove connection)
        { state.goTo connection .removed with
          serviceConnections := state.serviceConnections.erase connection }
  | rebalance : Steps state .rebalance (state.create .onDemand .added)
  | addOnDemand (connection : Nat) (stage : state.stages connection = .added) :
      Steps state (.addOnDemand connection)
        { state.goTo connection .listed with
          serviceConnections := state.serviceConnections ++ [connection] }
  | terminate : Steps state .terminate { state with terminated := true }

theorem steps_of_step {state next : State} {action : Action}
    (stepped : step state action = some next) : Steps state action next := by
  cases action with
  | launch connection =>
      simp only [step] at stepped
      split_ifs at stepped with stage
      cases stepped
      exact .launch connection stage
  | connects connection =>
      simp only [step] at stepped
      split_ifs at stepped with stage
      cases stepped
      exact .connects connection stage
  | ends connection =>
      simp only [step] at stepped
      split_ifs at stepped with stage
      cases stepped
      exact .ends connection stage
  | complete connection =>
      simp only [step] at stepped
      split_ifs at stepped with stage
      split at stepped
      next missing =>
        cases stepped
        exact .missing connection stage missing
      next index found =>
        split_ifs at stepped with isFixed
        · cases stepped
          exact .locate connection index stage found isFixed
        · cases stepped
          exact .locateOther connection index stage found isFixed
  | restart connection =>
      simp only [step] at stepped
      split at stepped
      next index stage =>
        split_ifs at stepped with terminated
        · cases stepped
          exact .abandon connection index stage terminated
        · split at stepped
          next => cases stepped
          next policy _ =>
            cases stepped
            exact .restart connection index policy stage
      next => cases stepped
  | policy action =>
      simp only [step] at stepped
      split_ifs at stepped
      split at stepped
      next => cases stepped
      next policy _ =>
        cases stepped
        exact .policy action policy
  | createConnection connection =>
      simp only [step] at stepped
      split at stepped
      next index stage =>
        split at stepped
        next => cases stepped
        next policy _ =>
          cases stepped
          exact .createConnection connection index policy stage
      next => cases stepped
  | replace connection =>
      simp only [step] at stepped
      split at stepped
      next index replacement stage =>
        cases stepped
        exact .replace connection index replacement stage
      next => cases stepped
  | launchReplacement connection =>
      simp only [step] at stepped
      split at stepped
      next replacement stage =>
        cases stepped
        exact .launchReplacement connection replacement stage
      next => cases stepped
  | remove connection =>
      simp only [step] at stepped
      split_ifs at stepped with stage
      cases stepped
      exact .remove connection stage
  | rebalance =>
      simp only [step] at stepped
      split_ifs at stepped
      cases stepped
      exact .rebalance
  | addOnDemand connection =>
      simp only [step] at stepped
      split_ifs at stepped with stage
      cases stepped
      exact .addOnDemand connection stage
  | terminate =>
      cases stepped
      exact .terminate

/-! ## Where a connection stands -/

/-- The connection that a restart has created and not yet started. -/
@[simp] def Stage.replacement? : Stage → Option Nat
  | .replacing _ connection | .launching connection => some connection
  | _ => none

/-- Where the list has a connection, by the stage it is in. `fixed` are the first entries
of the list and `others` the rest. -/
@[simp] def Placed (state : State) (fixed others : List Nat) (connection : Nat) : Stage → Prop
  | .absent | .removed => connection ∉ fixed ∧ connection ∉ others
  | .added =>
      connection ∉ fixed ∧ connection ∉ others ∧ state.types connection = .onDemand
  | .replacement => connection ∉ others ∧ state.types connection = .initial
  | .listed | .starting | .running | .completing => connection ∈ fixed ∨ connection ∈ others
  | .located index | .restarting index => fixed[index]? = some connection
  | .replacing index replacement =>
      fixed[index]? = some connection ∧ state.stages replacement = .replacement ∧
        replacement ∉ fixed
  | .launching replacement =>
      connection ∉ fixed ∧ connection ∉ others ∧ state.stages replacement = .replacement ∧
        replacement ∈ fixed ∧ state.types connection = .initial
  | .restarted _ =>
      connection ∉ fixed ∧ connection ∉ others ∧ state.types connection = .initial
  | .removing => connection ∈ others
  | .abandoned => False

/-- The list of a container that is not terminated. -/
structure Slots (state : State) (fixed others : List Nat) : Prop where
  split : state.serviceConnections = fixed ++ others
  length : fixed.length = state.fixedConnectionCount
  nodup : (fixed ++ others).Nodup
  initial : ∀ connection ∈ fixed, state.types connection = .initial
  onDemand : ∀ connection ∈ others, state.types connection = .onDemand
  fresh : ∀ connection, state.created ≤ connection → state.stages connection = .absent
  placed : ∀ connection, Placed state fixed others connection (state.stages connection)
  linked : ∀ one other replacement, (state.stages one).replacement? = some replacement →
    (state.stages other).replacement? = some replacement → one = other

variable {state next : State} {fixed others : List Nat} {connection : Nat} {stage : Stage}

/-- What a stage says is kept when the lists have the connection where they had it, and the
connection it is about to start too. -/
theorem Placed.transfer {before after : State} {newFixed newOthers : List Nat}
    (placed : Placed before fixed others connection stage)
    (types : after.types connection = before.types connection)
    (position : ∀ index : Nat,
      fixed[index]? = some connection → newFixed[index]? = some connection)
    (isFixed : connection ∈ newFixed ↔ connection ∈ fixed)
    (isOther : connection ∈ newOthers ↔ connection ∈ others)
    (links : ∀ replacement, stage.replacement? = some replacement →
      before.stages replacement = .replacement →
      after.stages replacement = .replacement ∧ (replacement ∈ newFixed ↔ replacement ∈ fixed)) :
    Placed after newFixed newOthers connection stage := by
  cases stage with
  | absent => exact ⟨mt isFixed.mp placed.1, mt isOther.mp placed.2⟩
  | restarted link =>
      exact ⟨mt isFixed.mp placed.1, mt isOther.mp placed.2.1, types.trans placed.2.2⟩
  | removed => exact ⟨mt isFixed.mp placed.1, mt isOther.mp placed.2⟩
  | added =>
      exact ⟨mt isFixed.mp placed.1, mt isOther.mp placed.2.1, types.trans placed.2.2⟩
  | replacement => exact ⟨mt isOther.mp placed.1, types.trans placed.2⟩
  | listed => exact placed.imp isFixed.mpr isOther.mpr
  | starting => exact placed.imp isFixed.mpr isOther.mpr
  | running => exact placed.imp isFixed.mpr isOther.mpr
  | completing => exact placed.imp isFixed.mpr isOther.mpr
  | located index => exact position index placed
  | restarting index => exact position index placed
  | replacing index replacement =>
      obtain ⟨isReplacement, isThere⟩ := links replacement rfl placed.2.1
      exact ⟨position index placed.1, isReplacement, mt isThere.mp placed.2.2⟩
  | launching replacement =>
      obtain ⟨isReplacement, isThere⟩ := links replacement rfl placed.2.2.1
      exact ⟨mt isFixed.mp placed.1, mt isOther.mp placed.2.1, isReplacement,
        isThere.mpr placed.2.2.2.1, types.trans placed.2.2.2.2⟩
  | removing => exact isOther.mpr placed
  | abandoned => exact placed

/-- The lists stay. -/
theorem Placed.congr {before after : State}
    (placed : Placed before fixed others connection stage)
    (types : after.types connection = before.types connection)
    (kept : ∀ replacement, before.stages replacement = .replacement →
      stage.replacement? = some replacement → after.stages replacement = .replacement) :
    Placed after fixed others connection stage :=
  placed.transfer types (fun _ same => same) Iff.rfl Iff.rfl
    fun replacement isLinked isReplacement => ⟨kept replacement isReplacement isLinked, Iff.rfl⟩

@[simp] theorem goTo_stages (state : State) (connection other : Nat) (stage : Stage) :
    (state.goTo connection stage).stages other =
      if other = connection then stage else state.stages other :=
  Function.update_apply ..

/-- Only created connections have got anywhere. -/
theorem Slots.known (slots : Slots state fixed others)
    (present : state.stages connection ≠ .absent) : connection < state.created := by
  by_contra new
  exact present (slots.fresh connection (Nat.not_lt.mp new))

/-- A connection goes on, and the list with it. -/
theorem Slots.relist (slots : Slots state fixed others) {newFixed newOthers : List Nat}
    (present : state.stages connection ≠ .absent)
    (same : stage.replacement? = none ∨
      stage.replacement? = (state.stages connection).replacement?)
    (length : newFixed.length = fixed.length) (nodup : (newFixed ++ newOthers).Nodup)
    (initial : ∀ other ∈ newFixed, state.types other = .initial)
    (onDemand : ∀ other ∈ newOthers, state.types other = .onDemand)
    (here : Placed (state.goTo connection stage) newFixed newOthers connection stage)
    (elsewhere : ∀ other, other ≠ connection →
      Placed (state.goTo connection stage) newFixed newOthers other (state.stages other)) :
    Slots { state.goTo connection stage with serviceConnections := newFixed ++ newOthers }
      newFixed newOthers where
  split := rfl
  length := length.trans slots.length
  nodup := nodup
  initial := initial
  onDemand := onDemand
  fresh := by
    intro other new
    have differs : other ≠ connection := by
      rintro rfl
      exact present (slots.fresh other new)
    change (state.goTo connection stage).stages other = .absent
    rw [goTo_stages, if_neg differs]
    exact slots.fresh other new
  placed := by
    intro other
    change Placed (state.goTo connection stage) _ _ _
      ((state.goTo connection stage).stages other)
    rw [goTo_stages]
    split_ifs with isConnection
    · rw [isConnection]
      exact here
    · exact elsewhere other isConnection
  linked := by
    have links : ∀ other replacement,
        ((state.goTo connection stage).stages other).replacement? = some replacement →
        (state.stages other).replacement? = some replacement := by
      intro other replacement isLinked
      rw [goTo_stages] at isLinked
      split_ifs at isLinked with isConnection
      · rw [isConnection]
        exact same.elim (fun none => by rw [none] at isLinked; cases isLinked)
          (fun unchanged => unchanged ▸ isLinked)
      · exact isLinked
    intro one other replacement first second
    exact slots.linked one other replacement (links one replacement first)
      (links other replacement second)

/-- A connection that is not about to be started goes on, and stays where it is. -/
theorem Slots.goTo (slots : Slots state fixed others)
    (present : state.stages connection ≠ .absent)
    (started : state.stages connection ≠ .replacement ∨
      ∀ other, (state.stages other).replacement? ≠ some connection)
    (placed : Placed state fixed others connection stage) (unlinked : stage.replacement? = none) :
    Slots (state.goTo connection stage) fixed others := by
  have moved := slots.relist present (.inl unlinked) rfl slots.nodup slots.initial slots.onDemand
    (placed.congr rfl fun replacement _ isLinked => by rw [unlinked] at isLinked; cases isLinked)
    (fun other _ => (slots.placed other).congr rfl ?_)
  · rw [← slots.split] at moved
    exact moved
  · intro replacement isReplacement isLinked
    rw [goTo_stages, if_neg]
    · exact isReplacement
    · rintro rfl
      rcases started with notReplacement | unlinked
      · exact notReplacement isReplacement
      · exact unlinked other isLinked

theorem Slots.disjoint (slots : Slots state fixed others) (isFixed : connection ∈ fixed) :
    connection ∉ others :=
  List.disjoint_of_nodup_append slots.nodup isFixed

/-- What a restart is about to start is not started. -/
theorem Slots.replacement (slots : Slots state fixed others) {replacement : Nat}
    (isLinked : (state.stages connection).replacement? = some replacement) :
    state.stages replacement = .replacement := by
  have placed := slots.placed connection
  cases stage : state.stages connection with
  | replacing index other =>
      rw [stage] at isLinked placed
      cases isLinked
      exact placed.2.1
  | launching other =>
      rw [stage] at isLinked placed
      cases isLinked
      exact placed.2.2.1
  | _ =>
      rw [stage] at isLinked
      cases isLinked

/-- The back-off does not touch the list. -/
theorem Slots.policy (slots : Slots state fixed others) (policy : BackOffPolicy.State Nat Empty) :
    Slots { state with backOffPolicy := policy } fixed others where
  split := slots.split
  length := slots.length
  nodup := slots.nodup
  initial := slots.initial
  onDemand := slots.onDemand
  fresh := slots.fresh
  placed connection := (slots.placed connection).congr rfl fun _ same _ => same
  linked := slots.linked

/-! ### What each step does to the list -/

/-- A connection that has ended is in the list. -/
theorem Slots.listed (slots : Slots state fixed others)
    (completing : state.stages connection = .completing) :
    connection ∈ state.serviceConnections := by
  have listed := slots.placed connection
  rw [completing] at listed
  rw [slots.split, List.mem_append]
  exact listed

/-- `IndexOf` gives the place of a fixed connection, and tells the others from them. -/
theorem Slots.located (slots : Slots state fixed others) {index : Nat}
    (found : state.serviceConnections.idxOf? connection = some index) :
    (index < state.fixedConnectionCount → fixed[index]? = some connection) ∧
      (¬ index < state.fixedConnectionCount → connection ∈ others) := by
  rw [List.idxOf?, List.findIdx?_eq_some_iff_getElem, slots.split] at found
  obtain ⟨position, isThere, -⟩ := found
  rw [beq_iff_eq] at isThere
  constructor
  · intro isFixed
    rw [← slots.length] at isFixed
    rw [List.getElem_append_left isFixed] at isThere
    exact List.getElem?_eq_some_iff.mpr ⟨isFixed, isThere⟩
  · intro notFixed
    rw [← slots.length, Nat.not_lt] at notFixed
    rw [List.getElem_append_right notFixed] at isThere
    exact isThere ▸ List.getElem_mem _

/-- The factory makes a connection that nothing has seen. -/
theorem Slots.create (slots : Slots state fixed others) {type : ServiceConnectionType}
    (unlinked : stage.replacement? = none)
    (placed : ∀ after : State, after.types state.created = type →
      state.created ∉ fixed → state.created ∉ others →
        Placed after fixed others state.created stage) :
    Slots (state.create type stage) fixed others := by
  have absent := slots.fresh state.created (Nat.le_refl _)
  have unseen := slots.placed state.created
  rw [absent] at unseen
  have stages : ∀ other, (state.create type stage).stages other =
      if other = state.created then stage else state.stages other :=
    fun other => Function.update_apply ..
  have types : ∀ other, other ≠ state.created →
      (state.create type stage).types other = state.types other :=
    fun other differs => Function.update_of_ne differs ..
  refine ⟨slots.split, slots.length, slots.nodup, ?_, ?_, ?_, ?_, ?_⟩
  · intro connection isFixed
    rw [types connection (ne_of_mem_of_not_mem isFixed unseen.1)]
    exact slots.initial connection isFixed
  · intro connection isOther
    rw [types connection (ne_of_mem_of_not_mem isOther unseen.2)]
    exact slots.onDemand connection isOther
  · intro connection new
    change state.created + 1 ≤ connection at new
    rw [stages, if_neg (by omega)]
    exact slots.fresh connection (by omega)
  · intro connection
    rw [stages]
    by_cases isNew : connection = state.created
    · rw [if_pos isNew, isNew]
      exact placed _ (Function.update_self ..) unseen.1 unseen.2
    · rw [if_neg isNew]
      refine (slots.placed connection).congr (types connection isNew) ?_
      intro replacement isReplacement _
      rw [stages, if_neg]
      · exact isReplacement
      · rintro rfl
        rw [absent] at isReplacement
        cases isReplacement
  · have links : ∀ connection replacement,
        ((state.create type stage).stages connection).replacement? = some replacement →
        (state.stages connection).replacement? = some replacement := by
      intro connection replacement isLinked
      rw [stages] at isLinked
      split_ifs at isLinked
      · rw [unlinked] at isLinked
        cases isLinked
      · exact isLinked
    intro one other replacement first second
    exact slots.linked one other replacement (links one replacement first)
      (links other replacement second)

/-- A restart takes the connection it has just created. -/
theorem Slots.createConnection (slots : Slots state fixed others) {index : Nat}
    (restarting : state.stages connection = .restarting index) :
    Slots ((state.create .initial .replacement).goTo connection
      (.replacing index state.created)) fixed others := by
  have known := slots.known (by rw [restarting]; nofun)
  have isFixed := slots.placed connection
  rw [restarting] at isFixed
  have created : Slots (state.create .initial .replacement) fixed others := by
    refine slots.create rfl ?_
    intro after types _ unseen
    exact ⟨unseen, types⟩
  have stages : ∀ other, (state.create .initial .replacement).stages other =
      if other = state.created then .replacement else state.stages other :=
    fun other => Function.update_apply ..
  have absent := slots.fresh state.created (Nat.le_refl _)
  have unseen := slots.placed state.created
  rw [absent] at unseen
  refine ⟨created.split, created.length, created.nodup, created.initial,
    created.onDemand, ?_, ?_, ?_⟩
  · intro other new
    change state.created + 1 ≤ other at new
    rw [goTo_stages, if_neg (by omega)]
    exact created.fresh other new
  · intro other
    rw [goTo_stages]
    by_cases isConnection : other = connection
    · subst isConnection
      rw [if_pos rfl]
      refine ⟨isFixed, ?_, unseen.1⟩
      rw [goTo_stages, if_neg (by omega), stages, if_pos rfl]
    · rw [if_neg isConnection]
      refine (created.placed other).congr rfl ?_
      intro replacement isReplacement _
      rw [goTo_stages, if_neg]
      · exact isReplacement
      · rintro rfl
        rw [stages, if_neg (by omega), restarting] at isReplacement
        cases isReplacement
  · -- Nobody else has the new connection, which was not there before.
    have links : ∀ other replacement,
        (((state.create .initial .replacement).goTo connection
          (.replacing index state.created)).stages other).replacement? = some replacement →
        other = connection ∧ replacement = state.created ∨
          (state.stages other).replacement? = some replacement ∧ replacement ≠ state.created := by
      intro other replacement isLinked
      rw [goTo_stages] at isLinked
      split_ifs at isLinked with isConnection
      · cases isLinked
        exact .inl ⟨isConnection, rfl⟩
      · rw [stages] at isLinked
        split_ifs at isLinked
        · cases isLinked
        · refine .inr ⟨isLinked, ?_⟩
          rintro rfl
          rw [slots.replacement isLinked] at absent
          cases absent
    intro one other replacement first second
    rcases links one replacement first with ⟨rfl, rfl⟩ | ⟨firstLink, isOld⟩
    · rcases links other _ second with ⟨rfl, -⟩ | ⟨-, isOld⟩
      · rfl
      · exact absurd rfl isOld
    · rcases links other replacement second with ⟨rfl, rfl⟩ | ⟨secondLink, -⟩
      · exact absurd rfl isOld
      · exact slots.linked one other replacement firstLink secondLink

/-- Which connections a list has when one replaces another. -/
theorem mem_set_of_nodup {items : List Nat} {index old new other : Nat} (nodup : items.Nodup)
    (found : items[index]? = some old) (unseen : new ∉ items) :
    other ∈ items.set index new ↔ other = new ∨ other ∈ items ∧ other ≠ old := by
  obtain ⟨position, isOld⟩ := List.getElem?_eq_some_iff.mp found
  constructor
  · intro member
    obtain ⟨place, isThere⟩ := List.mem_iff_getElem?.mp member
    rw [List.getElem?_set] at isThere
    split_ifs at isThere with same
    · exact .inl (Option.some.inj isThere).symm
    · refine .inr ⟨List.mem_iff_getElem?.mpr ⟨place, isThere⟩, ?_⟩
      rintro rfl
      exact same ((List.getElem?_inj position nodup).mp (found.trans isThere.symm))
  · rintro (rfl | ⟨member, differs⟩)
    · exact List.mem_set position _
    · obtain ⟨place, isThere⟩ := List.mem_iff_getElem?.mp member
      refine List.mem_iff_getElem?.mpr ⟨place, ?_⟩
      rw [List.getElem?_set_ne]
      · exact isThere
      · rintro rfl
        exact differs (Option.some.inj (isThere.symm.trans found))

/-- Where a list has the connections that stay when one replaces another. -/
theorem getElem?_set_of_ne {items : List Nat} {index place old new other : Nat}
    (found : items[index]? = some old) (isThere : items[place]? = some other)
    (differs : other ≠ old) : (items.set index new)[place]? = some other := by
  rw [List.getElem?_set_ne]
  · exact isThere
  · rintro rfl
    exact differs (Option.some.inj (isThere.symm.trans found))

/-- A restart puts its connection into the place of the one that has ended. -/
theorem Slots.replace (slots : Slots state fixed others) {index replacement : Nat}
    (replacing : state.stages connection = .replacing index replacement) :
    Slots { state.goTo connection (.launching replacement) with
      serviceConnections := state.serviceConnections.set index replacement }
      (fixed.set index replacement) others := by
  have placed := slots.placed connection
  rw [replacing] at placed
  obtain ⟨found, isReplacement, unseen⟩ := placed
  have new := slots.placed replacement
  rw [isReplacement] at new
  obtain ⟨position, isOld⟩ := List.getElem?_eq_some_iff.mp found
  have isFixed : connection ∈ fixed := List.mem_iff_getElem?.mpr ⟨index, found⟩
  have nodup := slots.nodup.of_append_left
  have differs : replacement ≠ connection := fun same => unseen (same ▸ isFixed)
  have members : ∀ other, other ∈ fixed.set index replacement ↔
      other = replacement ∨ other ∈ fixed ∧ other ≠ connection :=
    fun other => mem_set_of_nodup nodup found unseen
  rw [slots.split, List.set_append_left _ _ position]
  refine slots.relist (by rw [replacing]; nofun) (.inr (by rw [replacing]; rfl))
    List.length_set ?_ ?_ slots.onDemand
      ⟨?_, slots.disjoint isFixed, ?_, ?_, slots.initial connection isFixed⟩ ?_
  · refine List.Nodup.append (nodup.set unseen) slots.nodup.of_append_right ?_
    intro other member isOther
    rcases (members other).mp member with rfl | ⟨isFixed, -⟩
    · exact new.1 isOther
    · exact slots.disjoint isFixed isOther
  · intro other member
    rcases (members other).mp member with rfl | ⟨isFixed, -⟩
    · exact new.2
    · exact slots.initial other isFixed
  · rw [members, not_or, not_and]
    exact ⟨differs.symm, fun _ => not_not.mpr rfl⟩
  · rw [goTo_stages, if_neg differs]
    exact isReplacement
  · exact (members replacement).mpr (.inl rfl)
  · intro other isConnection
    by_cases isNew : other = replacement
    · subst isNew
      rw [isReplacement]
      exact new
    · refine (slots.placed other).transfer rfl
        (fun place isThere => getElem?_set_of_ne found isThere isConnection) ?_ Iff.rfl ?_
      · rw [members]
        exact ⟨fun member => (member.resolve_left isNew).1,
          fun member => .inr ⟨member, isConnection⟩⟩
      · intro link isLinked isLink
        have notConnection : link ≠ connection := by
          rintro rfl
          rw [replacing] at isLink
          cases isLink
        have notNew : link ≠ replacement := by
          rintro rfl
          exact isConnection (slots.linked other connection link isLinked (by simp [replacing]))
        rw [goTo_stages, if_neg notConnection, members]
        exact ⟨isLink, fun member => (member.resolve_left notNew).1,
          fun member => .inr ⟨member, notConnection⟩⟩

/-- A restart starts the connection it has put into the list. -/
theorem Slots.launchReplacement (slots : Slots state fixed others) {replacement : Nat}
    (active : state.terminated = false)
    (launching : state.stages connection = .launching replacement) :
    Slots ((state.goTo connection (.restarted replacement)).startCore replacement)
      fixed others := by
  have placed := slots.placed connection
  rw [launching] at placed
  obtain ⟨notFixed, notOther, isReplacement, isFixed, isInitial⟩ := placed
  have released : Slots (state.goTo connection (.restarted replacement)) fixed others :=
    slots.goTo (by rw [launching]; nofun) (.inl (by rw [launching]; nofun))
      ⟨notFixed, notOther, isInitial⟩ rfl
  have notConnection : replacement ≠ connection := by
    rintro rfl
    exact notFixed isFixed
  change Slots (State.goTo _ replacement (if state.terminated then _ else _)) fixed others
  rw [active, if_neg (by simp)]
  refine released.goTo ?_ (.inr ?_) (.inl isFixed) rfl
  · rw [goTo_stages, if_neg notConnection, isReplacement]
    nofun
  · intro other isLinked
    rw [goTo_stages] at isLinked
    split_ifs at isLinked with isConnection
    · cases isLinked
    · exact isConnection (slots.linked other connection replacement isLinked (by simp [launching]))

/-- An on-demand connection that has ended leaves the list. -/
theorem Slots.remove (slots : Slots state fixed others)
    (removing : state.stages connection = .removing) :
    Slots { state.goTo connection .removed with
      serviceConnections := state.serviceConnections.erase connection }
      fixed (others.erase connection) := by
  have isOther := slots.placed connection
  rw [removing] at isOther
  have notFixed : connection ∉ fixed := fun isFixed => slots.disjoint isFixed isOther
  have nodup := slots.nodup.of_append_right
  rw [slots.split, List.erase_append_right _ notFixed]
  refine slots.relist (by rw [removing]; nofun) (.inl rfl) rfl ?_ slots.initial ?_ ⟨notFixed, ?_⟩ ?_
  · refine List.Nodup.append slots.nodup.of_append_left (nodup.erase connection) ?_
    intro other isFixed stays
    exact slots.disjoint isFixed (List.mem_of_mem_erase stays)
  · intro other stays
    exact slots.onDemand other (List.mem_of_mem_erase stays)
  · intro stays
    exact (nodup.mem_erase_iff.mp stays).1 rfl
  · intro other isConnection
    refine (slots.placed other).transfer rfl (fun _ same => same) Iff.rfl ?_ ?_
    · rw [nodup.mem_erase_iff]
      exact and_iff_right isConnection
    · intro link _ isLink
      rw [goTo_stages, if_neg (by rintro rfl; rw [removing] at isLink; cases isLink)]
      exact ⟨isLink, Iff.rfl⟩

/-- A connection for a rebalance ping is put behind the others. -/
theorem Slots.addOnDemand (slots : Slots state fixed others)
    (added : state.stages connection = .added) :
    Slots { state.goTo connection .listed with
      serviceConnections := state.serviceConnections ++ [connection] }
      fixed (others ++ [connection]) := by
  have placed := slots.placed connection
  rw [added] at placed
  obtain ⟨notFixed, notOther, onDemand⟩ := placed
  rw [slots.split, List.append_assoc]
  refine slots.relist (by rw [added]; nofun) (.inl rfl) rfl ?_ slots.initial ?_ (.inr ?_) ?_
  · rw [← List.append_assoc]
    refine List.Nodup.append slots.nodup (List.nodup_singleton connection) ?_
    intro other before isConnection
    rw [List.mem_singleton] at isConnection
    subst isConnection
    exact (List.mem_append.mp before).elim notFixed notOther
  · intro other member
    rcases List.mem_append.mp member with before | isConnection
    · exact slots.onDemand other before
    · rw [List.mem_singleton.mp isConnection]
      exact onDemand
  · exact List.mem_append_right _ (List.mem_singleton_self connection)
  · intro other isConnection
    refine (slots.placed other).transfer rfl (fun _ same => same) Iff.rfl ?_ ?_
    · rw [List.mem_append, List.mem_singleton]
      exact or_iff_left isConnection
    · intro link _ isLink
      rw [goTo_stages, if_neg (by rintro rfl; rw [added] at isLink; cases isLink)]
      exact ⟨isLink, Iff.rfl⟩

/-! ## Every run -/

/-- While a container is not terminated its list is in order. -/
def Ordered (count : Nat) (state : State) : Prop :=
  state.fixedConnectionCount = count ∧
    (state.terminated = false → ∃ fixed others, Slots state fixed others)

theorem ordered_initial (count : Nat) (maximum : Option Nat) :
    Ordered count (initial count maximum) := by
  refine ⟨rfl, fun _ => ⟨List.range count, [], ?_⟩⟩
  refine ⟨by simp [initial], by simp [initial], by simp [List.nodup_range], fun _ _ => rfl,
    by simp, ?_, ?_, ?_⟩
  · intro connection new
    exact if_neg (Nat.not_lt.mpr new)
  · intro connection
    by_cases isFixed : connection < count
    · simp [initial, isFixed]
    · simp [initial, isFixed]
  · intro one other replacement first
    by_cases isFixed : one < count
    · simp [initial, isFixed] at first
    · simp [initial, isFixed] at first

/-- No step starts a terminated container again, or changes how many connections are fixed. -/
theorem Steps.active {action : Action} (steps : Steps state action next) :
    next.fixedConnectionCount = state.fixedConnectionCount ∧
      (next.terminated = false → state.terminated = false) := by
  cases steps with
  | terminate => exact ⟨rfl, nofun⟩
  | _ => exact ⟨rfl, fun active => active⟩

theorem Slots.step {action : Action} (slots : Slots state fixed others)
    (active : state.terminated = false) (steps : Steps state action next)
    (remains : next.terminated = false) : ∃ fixed others, Slots next fixed others := by
  cases steps with
  | launch connection stage =>
      refine ⟨fixed, others, ?_⟩
      have placed := slots.placed connection
      rw [stage] at placed
      change Slots (state.goTo connection (if state.terminated then _ else _)) fixed others
      rw [active, if_neg (by simp)]
      exact slots.goTo (by rw [stage]; nofun) (.inl (by rw [stage]; nofun)) placed rfl
  | connects connection stage =>
      refine ⟨fixed, others, ?_⟩
      have placed := slots.placed connection
      rw [stage] at placed
      exact slots.goTo (by rw [stage]; nofun) (.inl (by rw [stage]; nofun)) placed rfl
  | ends connection stage =>
      refine ⟨fixed, others, ?_⟩
      have placed := slots.placed connection
      rcases stage with stage | stage
      · rw [stage] at placed
        exact slots.goTo (by rw [stage]; nofun) (.inl (by rw [stage]; nofun)) placed rfl
      · rw [stage] at placed
        exact slots.goTo (by rw [stage]; nofun) (.inl (by rw [stage]; nofun)) placed rfl
  | missing connection stage missing =>
      exact absurd (slots.listed stage) (List.idxOf?_eq_none_iff.mp missing)
  | locate connection index stage found isFixed =>
      exact ⟨fixed, others, slots.goTo (by rw [stage]; nofun) (.inl (by rw [stage]; nofun))
        ((slots.located found).1 isFixed) rfl⟩
  | locateOther connection index stage found notFixed =>
      exact ⟨fixed, others, slots.goTo (by rw [stage]; nofun) (.inl (by rw [stage]; nofun))
        ((slots.located found).2 notFixed) rfl⟩
  | abandon connection index stage terminated =>
      rw [active] at terminated
      cases terminated
  | restart connection index policy stage =>
      have placed := slots.placed connection
      rw [stage] at placed
      have moved : Slots (state.goTo connection (.restarting index)) fixed others :=
        slots.goTo (by rw [stage]; nofun) (.inl (by rw [stage]; nofun)) placed rfl
      exact ⟨fixed, others, moved.policy policy⟩
  | policy action policy => exact ⟨fixed, others, slots.policy policy⟩
  | createConnection connection index policy stage =>
      exact ⟨fixed, others, (slots.createConnection stage).policy policy⟩
  | replace connection index replacement stage => exact ⟨_, _, slots.replace stage⟩
  | launchReplacement connection replacement stage =>
      exact ⟨fixed, others, slots.launchReplacement active stage⟩
  | remove connection stage => exact ⟨_, _, slots.remove stage⟩
  | rebalance =>
      refine ⟨fixed, others, slots.create rfl ?_⟩
      intro after types notFixed notOther
      exact ⟨notFixed, notOther, types⟩
  | addOnDemand connection stage => exact ⟨_, _, slots.addOnDemand stage⟩
  | terminate => cases remains

theorem ordered_step {count : Nat} {action : Action} (ordered : Ordered count state)
    (stepped : step state action = some next) : Ordered count next := by
  have steps := steps_of_step stepped
  obtain ⟨same, before⟩ := steps.active
  refine ⟨same.trans ordered.1, fun remains => ?_⟩
  obtain ⟨fixed, others, slots⟩ := ordered.2 (before remains)
  exact slots.step (before remains) steps remains

/-! ### Removals -/

theorem goTo_removed_iff {other : Nat} (before : state.stages connection ≠ .removed)
    (after : stage ≠ .removed) :
    (state.goTo connection stage).stages other = .removed ↔ state.stages other = .removed := by
  rw [goTo_stages]
  split_ifs with same
  · rw [same]
    exact ⟨fun removed => absurd removed after, fun removed => absurd removed before⟩
  · exact Iff.rfl

theorem create_removed_iff {other : Nat} {type : ServiceConnectionType}
    (slots : Slots state fixed others) (after : stage ≠ .removed) :
    (state.create type stage).stages other = .removed ↔ state.stages other = .removed := by
  have absent := slots.fresh state.created (Nat.le_refl _)
  have before : state.stages state.created ≠ .removed := by rw [absent]; nofun
  exact goTo_removed_iff before after

/-- A connection is removed by the one step that says so, and stays removed. -/
theorem Slots.removed_iff {action : Action} (slots : Slots state fixed others)
    (active : state.terminated = false) (steps : Steps state action next) :
    next.stages connection = .removed ↔
      action = .remove connection ∨ state.stages connection = .removed := by
  have otherwise : action ≠ .remove connection →
      (next.stages connection = .removed ↔ state.stages connection = .removed) →
      (next.stages connection = .removed ↔
        action = .remove connection ∨ state.stages connection = .removed) :=
    fun differs same => same.trans (or_iff_right differs).symm
  cases steps with
  | launch other stage =>
      refine otherwise (by nofun) (goTo_removed_iff (by rw [stage]; nofun) ?_)
      rw [active]
      nofun
  | connects other stage =>
      exact otherwise (by nofun) (goTo_removed_iff (by rw [stage]; nofun) (by nofun))
  | ends other stage =>
      refine otherwise (by nofun) (goTo_removed_iff ?_ (by nofun))
      rcases stage with stage | stage
      · rw [stage]
        nofun
      · rw [stage]
        nofun
  | missing other stage =>
      exact otherwise (by nofun) (goTo_removed_iff (by rw [stage]; nofun) (by nofun))
  | locate other index stage =>
      exact otherwise (by nofun) (goTo_removed_iff (by rw [stage]; nofun) (by nofun))
  | locateOther other index stage =>
      exact otherwise (by nofun) (goTo_removed_iff (by rw [stage]; nofun) (by nofun))
  | abandon other index stage =>
      exact otherwise (by nofun) (goTo_removed_iff (by rw [stage]; nofun) (by nofun))
  | restart other index policy stage =>
      exact otherwise (by nofun) (goTo_removed_iff (by rw [stage]; nofun) (by nofun))
  | policy action policy => exact otherwise (by nofun) Iff.rfl
  | createConnection other index policy stage =>
      have created : ∀ {connection : Nat},
          (state.create .initial .replacement).stages connection = .removed ↔
            state.stages connection = .removed :=
        create_removed_iff slots (by nofun)
      have before : (state.create .initial .replacement).stages other ≠ .removed := by
        rw [ne_eq, created, stage]
        nofun
      exact otherwise (by nofun) ((goTo_removed_iff before (by nofun)).trans created)
  | replace other index replacement stage =>
      exact otherwise (by nofun) (goTo_removed_iff (by rw [stage]; nofun) (by nofun))
  | launchReplacement other replacement stage =>
      have isReplacement : state.stages replacement = .replacement :=
        slots.replacement (by rw [stage]; rfl)
      have released : ∀ {connection : Nat},
          (state.goTo other (.restarted replacement)).stages connection = .removed ↔
            state.stages connection = .removed :=
        goTo_removed_iff (by rw [stage]; nofun) (by nofun)
      have before : (state.goTo other (.restarted replacement)).stages replacement ≠ .removed := by
        rw [ne_eq, released, isReplacement]
        nofun
      refine otherwise (by nofun) ((goTo_removed_iff before ?_).trans released)
      change (if state.terminated then _ else _) ≠ _
      rw [active]
      nofun
  | remove other stage =>
      change (state.goTo other .removed).stages connection = .removed ↔ _
      rw [goTo_stages]
      split_ifs with same
      · simp [same]
      · simp [Ne.symm same]
  | rebalance => exact otherwise (by nofun) (create_removed_iff slots (by nofun))
  | addOnDemand other stage =>
      exact otherwise (by nofun) (goTo_removed_iff (by rw [stage]; nofun) (by nofun))
  | terminate => exact otherwise (by nofun) Iff.rfl

/-- A connection that is removed has been so by one step. -/
theorem count_remove {count : Nat} {actions : List Action} (ordered : Ordered count state)
    (ran : Machine.run step state actions = some next) (active : next.terminated = false) :
    actions.count (.remove connection) +
        (if state.stages connection = .removed then 1 else 0) =
      if next.stages connection = .removed then 1 else 0 := by
  induction actions generalizing state with
  | nil =>
      cases ran
      simp
  | cons action actions inductionHypothesis =>
      obtain ⟨middle, stepped, rest⟩ := Machine.run_cons.1 ran
      have later := inductionHypothesis (ordered_step ordered stepped) rest
      have steps := steps_of_step stepped
      have still : middle.terminated = false :=
        Machine.run_backwards (fun stepped => (steps_of_step stepped).active.2) rest active
      have before : state.terminated = false := steps.active.2 still
      obtain ⟨fixed, others, slots⟩ := ordered.2 before
      have removed : middle.stages connection = .removed ↔
          action = .remove connection ∨ state.stages connection = .removed :=
        slots.removed_iff before steps
      -- What is removed is not about to be removed.
      have once : action = .remove connection → state.stages connection ≠ .removed := by
        rintro rfl
        cases steps with
        | remove _ stage =>
            rw [stage]
            nofun
      rw [List.count_cons, ← later]
      by_cases isRemove : action = .remove connection
      · simp [isRemove, removed, once isRemove]
      · simp [isRemove, removed]

/-! ## Slots are conserved -/

/-- The connection has the index: the list has it there and `StartCoreAsync` is in front of
it or has not ended, or it has a restart in progress for the index. -/
def Owns (state : State) (index connection : Nat) : Prop :=
  match state.stages connection with
  | .listed | .replacement | .starting | .running | .completing =>
      state.serviceConnections[index]? = some connection
  | .located other | .restarting other | .replacing other _ => other = index
  | _ => False

theorem Slots.owns_iff (slots : Slots state fixed others) {index : Nat}
    (isFixed : index < state.fixedConnectionCount) :
    Owns state index connection ↔ fixed[index]? = some connection := by
  have inside : index < fixed.length := by
    rw [slots.length]
    exact isFixed
  have front : state.serviceConnections[index]? = fixed[index]? := by
    rw [slots.split, List.getElem?_append_left inside]
  have unique : ∀ other : Nat, fixed[other]? = some connection →
      (other = index ↔ fixed[index]? = some connection) := by
    intro other isThere
    constructor
    · rintro rfl
      exact isThere
    · intro also
      obtain ⟨position, -⟩ := List.getElem?_eq_some_iff.mp isThere
      exact (List.getElem?_inj position slots.nodup.of_append_left).mp (isThere.trans also.symm)
  have excluded : connection ∉ fixed → ¬ fixed[index]? = some connection :=
    fun notFixed isThere => notFixed (List.mem_iff_getElem?.mpr ⟨index, isThere⟩)
  have placed := slots.placed connection
  unfold Owns
  cases stage : state.stages connection with
  | listed => rw [front]
  | replacement => rw [front]
  | starting => rw [front]
  | running => rw [front]
  | completing => rw [front]
  | located other =>
      rw [stage] at placed
      exact unique other placed
  | restarting other =>
      rw [stage] at placed
      exact unique other placed
  | replacing other replacement =>
      rw [stage] at placed
      exact unique other placed.1
  | absent =>
      rw [stage] at placed
      exact iff_of_false id (excluded placed.1)
  | added =>
      rw [stage] at placed
      exact iff_of_false id (excluded placed.1)
  | launching replacement =>
      rw [stage] at placed
      exact iff_of_false id (excluded placed.1)
  | restarted replacement =>
      rw [stage] at placed
      exact iff_of_false id (excluded placed.1)
  | removed =>
      rw [stage] at placed
      exact iff_of_false id (excluded placed.1)
  | removing =>
      rw [stage] at placed
      exact iff_of_false id (excluded fun member => slots.disjoint member placed)
  | abandoned =>
      rw [stage] at placed
      exact placed.elim

/-- An on-demand connection is in the list from its addition to its removal. -/
theorem Slots.onDemand_iff (slots : Slots state fixed others)
    (onDemand : state.types connection = .onDemand) (present : state.stages connection ≠ .absent) :
    connection ∈ state.serviceConnections ↔
      state.stages connection ≠ .added ∧ state.stages connection ≠ .removed := by
  have notFixed : connection ∉ fixed := by
    intro isFixed
    rw [slots.initial connection isFixed] at onDemand
    cases onDemand
  have nowhere : ∀ index : Nat, fixed[index]? ≠ some connection :=
    fun index isThere => notFixed (List.mem_iff_getElem?.mpr ⟨index, isThere⟩)
  have placed := slots.placed connection
  rw [slots.split, List.mem_append, or_iff_right notFixed]
  cases stage : state.stages connection with
  | absent => exact absurd stage present
  | added =>
      rw [stage] at placed
      exact iff_of_false placed.2.1 fun both => both.1 rfl
  | removed =>
      rw [stage] at placed
      exact iff_of_false placed.2 fun both => both.2 rfl
  | listed =>
      rw [stage] at placed
      exact iff_of_true (placed.resolve_left notFixed) ⟨nofun, nofun⟩
  | starting =>
      rw [stage] at placed
      exact iff_of_true (placed.resolve_left notFixed) ⟨nofun, nofun⟩
  | running =>
      rw [stage] at placed
      exact iff_of_true (placed.resolve_left notFixed) ⟨nofun, nofun⟩
  | completing =>
      rw [stage] at placed
      exact iff_of_true (placed.resolve_left notFixed) ⟨nofun, nofun⟩
  | removing =>
      rw [stage] at placed
      exact iff_of_true placed ⟨nofun, nofun⟩
  | replacement =>
      rw [stage] at placed
      rw [placed.2] at onDemand
      cases onDemand
  | launching replacement =>
      rw [stage] at placed
      rw [placed.2.2.2.2] at onDemand
      cases onDemand
  | restarted replacement =>
      rw [stage] at placed
      rw [placed.2.2] at onDemand
      cases onDemand
  | located index =>
      rw [stage] at placed
      exact absurd placed (nowhere index)
  | restarting index =>
      rw [stage] at placed
      exact absurd placed (nowhere index)
  | replacing index replacement =>
      rw [stage] at placed
      exact absurd placed.1 (nowhere index)
  | abandoned =>
      rw [stage] at placed
      exact placed.elim

/-- In every state of a container that is not terminated, each fixed index has one owner, the
list has every connection that runs, and an on-demand connection stands behind the fixed ones
until the one step that removes it. -/
theorem fixed_slots_conserved (fixedConnectionCount : Nat) (maxConnectionCount : Option Nat)
    (actions : List Action) {state : State}
    (ran : Machine.run step (initial fixedConnectionCount maxConnectionCount) actions = some state)
    (active : state.terminated = false) :
    fixedConnectionCount ≤ state.serviceConnections.length ∧
    (∀ index < fixedConnectionCount, ∃! connection, Owns state index connection) ∧
    (∀ connection, state.stages connection = .starting ∨ state.stages connection = .running →
      connection ∈ state.serviceConnections) ∧
    (∀ connection, state.types connection = .onDemand → state.stages connection ≠ .absent →
      (connection ∈ state.serviceConnections ↔
        state.stages connection ≠ .added ∧ state.stages connection ≠ .removed) ∧
      (∀ index, state.serviceConnections[index]? = some connection →
        fixedConnectionCount ≤ index) ∧
      actions.count (.remove connection) =
        if state.stages connection = .removed then 1 else 0) := by
  have ordered : Ordered fixedConnectionCount state :=
    Machine.run_invariant ordered_step (ordered_initial _ _) ran
  obtain ⟨sameCount, inOrder⟩ := ordered
  obtain ⟨fixed, others, slots⟩ := inOrder active
  have length : fixed.length = fixedConnectionCount := slots.length.trans sameCount
  refine ⟨?_, ?_, ?_, ?_⟩
  · rw [slots.split, List.length_append, length]
    exact Nat.le_add_right _ _
  · intro index isFixed
    have inside : index < fixed.length := by
      rw [length]
      exact isFixed
    have owns : ∀ connection, Owns state index connection ↔ fixed[index]? = some connection :=
      fun connection => slots.owns_iff (by rw [sameCount]; exact isFixed)
    refine ⟨fixed[index], (owns _).mpr (List.getElem?_eq_getElem inside), ?_⟩
    intro other alsoOwns
    have isThere := (owns other).mp alsoOwns
    rw [List.getElem?_eq_getElem inside, Option.some.injEq] at isThere
    exact isThere.symm
  · intro connection live
    have placed := slots.placed connection
    rw [slots.split, List.mem_append]
    rcases live with stage | stage
    · rw [stage] at placed
      exact placed
    · rw [stage] at placed
      exact placed
  · intro connection onDemand present
    refine ⟨slots.onDemand_iff onDemand present, ?_, ?_⟩
    · intro index isThere
      by_contra isFixed
      have inside : index < fixed.length := by omega
      rw [slots.split, List.getElem?_append_left inside] at isThere
      rw [slots.initial connection (List.mem_iff_getElem?.mpr ⟨index, isThere⟩)] at onDemand
      cases onDemand
    · have counted : actions.count (.remove connection) +
          (if (initial fixedConnectionCount maxConnectionCount).stages connection = .removed
            then 1 else 0) =
          if state.stages connection = .removed then 1 else 0 :=
        count_remove (ordered_initial _ _) ran active
      have start : (initial fixedConnectionCount maxConnectionCount).stages connection ≠
          .removed := by
        change (if connection < fixedConnectionCount then Stage.listed else .absent) ≠ .removed
        split_ifs <;> nofun
      rw [if_neg start, Nat.add_zero] at counted
      exact counted

/-- The only fixed connection drops and is restarted, and an on-demand connection comes and
goes. -/
def restartAndRebalance : List Action :=
  [.launch 0, .connects 0, .ends 0, .complete 0, .restart 0, .policy (.resume 0),
    .createConnection 0, .rebalance, .replace 0, .addOnDemand 2, .launchReplacement 0,
    .launch 2, .connects 2, .ends 2, .complete 2, .remove 2]

theorem fixed_slots_conserved_restart :
    ∃ state, Machine.run step (initial 1 none) restartAndRebalance = some state ∧
      state.terminated = false ∧ state.serviceConnections = [1] ∧
      (∃! connection, Owns state 0 connection) ∧
      restartAndRebalance.count (.remove 2) = 1 := by
  refine ⟨_, rfl, rfl, rfl, ?_, rfl⟩
  have conserved := fixed_slots_conserved 1 none restartAndRebalance rfl rfl
  exact conserved.2.1 0 Nat.one_pos

end AzureSignalR.ServiceConnections.ConnectionSlots
