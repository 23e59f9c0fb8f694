import AzureSignalR.ServiceConnections.ConnectionSlots
import Mathlib.Data.Finset.Card

/-!
Contract: how many connections the list of a strong container can have.

Owns: the constructor of `StrongServiceConnectionContainer`, the connections that rebalance
pings have been let pass for and have not added yet, and the bound on the list as long as
the pings reckon with them.

Does not own: the list and its steps, which are those of every container.
-/

set_option autoImplicit false

namespace AzureSignalR.ServiceConnections.ConnectionSlots

open Library

/-- A strong container with a maximum. -/
def initialStrong (fixedConnectionCount maxConnectionCount : Nat) : State :=
  initial fixedConnectionCount
    (some (if fixedConnectionCount < maxConnectionCount then maxConnectionCount
      else fixedConnectionCount))

/-- The connections between the check of a rebalance ping and `AddOnDemandConnection`. -/
def State.awaiting (state : State) : Finset Nat :=
  (Finset.range state.created).filter fun connection => state.stages connection = .added

/-- The check of a rebalance ping passes only where there is room for the connections of the
pings before it too. -/
def Reserved (state : State) : Action → Prop
  | .rebalance => ∀ count ∈ state.maxConnectionCount,
      state.serviceConnections.length + state.awaiting.card < count
  | _ => True

/-- The list has room for the connections that are about to be added. -/
structure Capped (count : Nat) (state : State) : Prop where
  maximum : state.maxConnectionCount = some count
  created : ∀ connection, state.stages connection ≠ .absent → connection < state.created
  replacements : ∀ connection replacement,
    (state.stages connection).replacement? = some replacement → replacement < state.created
  room : state.serviceConnections.length + state.awaiting.card ≤ count

section Steps

variable {state next : State} {connection : Nat} {stage : Stage} {count : Nat}

theorem mem_awaiting : connection ∈ state.awaiting ↔
    connection < state.created ∧ state.stages connection = .added := by
  rw [State.awaiting, Finset.mem_filter, Finset.mem_range]

/-- A connection that goes on elsewhere does not await anything. -/
theorem awaiting_goTo_subset (state : State) (connection : Nat) (elsewhere : stage ≠ .added) :
    (state.goTo connection stage).awaiting ⊆ state.awaiting := by
  intro other member
  obtain ⟨created, awaits⟩ := mem_awaiting.1 member
  rw [goTo_stages] at awaits
  split_ifs at awaits with isHere
  · exact absurd awaits elsewhere
  · exact mem_awaiting.2 ⟨created, awaits⟩

theorem awaiting_goTo (awaits : connection ∈ state.awaiting) (elsewhere : stage ≠ .added) :
    (state.goTo connection stage).awaiting.card < state.awaiting.card := by
  refine Finset.card_lt_card (Finset.ssubset_iff_subset_ne.mpr ?_)
  refine ⟨awaiting_goTo_subset state connection elsewhere, ?_⟩
  intro same
  rw [← same] at awaits
  have still := (mem_awaiting.1 awaits).2
  rw [goTo_stages, if_pos rfl] at still
  exact elsewhere still

theorem awaiting_create_subset (state : State) (type : ServiceConnectionType) (stage : Stage) :
    (state.create type stage).awaiting ⊆ insert state.created state.awaiting := by
  intro other member
  obtain ⟨created, awaits⟩ := mem_awaiting.1 member
  rw [Finset.mem_insert]
  by_cases isNew : other = state.created
  · exact .inl isNew
  · right
    have isOld : other < state.created := Nat.lt_of_le_of_ne (Nat.le_of_lt_succ created) isNew
    refine mem_awaiting.2 ⟨isOld, ?_⟩
    rw [← awaits]
    exact (Function.update_of_ne isNew _ _).symm

theorem awaiting_create_of_ne (state : State) (type : ServiceConnectionType)
    (elsewhere : stage ≠ .added) :
    (state.create type stage).awaiting ⊆ state.awaiting := by
  intro other member
  rcases Finset.mem_insert.mp (awaiting_create_subset state type stage member) with rfl | isOld
  · have awaits := (mem_awaiting.1 member).2
    replace awaits : Function.update state.stages state.created stage state.created = .added :=
      awaits
    rw [Function.update_self] at awaits
    exact absurd awaits elsewhere
  · exact isOld

/-- A connection goes on, and the list stays within the room it has. -/
theorem Capped.goTo (capped : Capped count state) (known : connection < state.created)
    (replacement : ∀ replacement, stage.replacement? = some replacement →
      replacement < state.created)
    {serviceConnections : List Nat}
    (room : serviceConnections.length + (state.goTo connection stage).awaiting.card ≤ count) :
    Capped count { state.goTo connection stage with serviceConnections := serviceConnections } where
  maximum := capped.maximum
  created := by
    intro other present
    rcases eq_or_ne other connection with rfl | differs
    · exact known
    · refine capped.created other ?_
      rwa [show (state.goTo connection stage).stages other = state.stages other from
        Function.update_of_ne differs _ _] at present
  replacements := by
    intro other started isStarted
    replace isStarted : ((state.goTo connection stage).stages other).replacement? = some started :=
      isStarted
    rw [goTo_stages] at isStarted
    split_ifs at isStarted
    · exact replacement started isStarted
    · exact capped.replacements other started isStarted
  room := room

/-- A connection goes on with a list that has not grown. -/
theorem Capped.move (capped : Capped count state) (known : connection < state.created)
    (elsewhere : stage ≠ .added)
    (replacement : ∀ replacement, stage.replacement? = some replacement →
      replacement < state.created)
    {serviceConnections : List Nat}
    (shorter : serviceConnections.length ≤ state.serviceConnections.length) :
    Capped count { state.goTo connection stage with serviceConnections := serviceConnections } := by
  have fewer := Finset.card_le_card (awaiting_goTo_subset state connection elsewhere)
  have room := capped.room
  exact capped.goTo known replacement (by omega)

/-- A new connection is created. -/
theorem Capped.create (capped : Capped count state) (type : ServiceConnectionType)
    (elsewhere : stage.replacement? = none)
    (room : state.serviceConnections.length + (state.create type stage).awaiting.card ≤ count) :
    Capped count (state.create type stage) where
  maximum := capped.maximum
  created := by
    intro other present
    show other < state.created + 1
    rcases eq_or_ne other state.created with rfl | differs
    · exact Nat.lt_succ_self _
    · refine Nat.lt_succ_of_lt (capped.created other ?_)
      rwa [show (state.create type stage).stages other = state.stages other from
        Function.update_of_ne differs _ _] at present
  replacements := by
    intro other started isStarted
    show started < state.created + 1
    rcases eq_or_ne other state.created with rfl | differs
    · rw [show (state.create type stage).stages state.created = stage from
        Function.update_self .., elsewhere] at isStarted
      cases isStarted
    · refine Nat.lt_succ_of_lt (capped.replacements other started ?_)
      rwa [show (state.create type stage).stages other = state.stages other from
        Function.update_of_ne differs _ _] at isStarted
  room := room

theorem Capped.policy (capped : Capped count state)
    (policy : Utilities.BackOffPolicy.State Nat Empty) :
    Capped count { state with backOffPolicy := policy } :=
  { capped with }

theorem Capped.startCore (capped : Capped count state) (known : connection < state.created) :
    Capped count (state.startCore connection) := by
  rw [State.startCore]
  split_ifs
  · exact capped.move known (by nofun) (by nofun) (Nat.le_refl _)
  · exact capped.move known (by nofun) (by nofun) (Nat.le_refl _)

theorem capped_step {action : Action} (capped : Capped count state)
    (reserved : Reserved state action) (stepped : step state action = some next) :
    Capped count next := by
  cases steps_of_step stepped with
  | launch connection stage =>
      exact capped.startCore (capped.created connection (by rw [stage]; nofun))
  | connects connection stage =>
      exact capped.move (capped.created connection (by rw [stage]; nofun)) (by nofun) (by nofun)
        (Nat.le_refl _)
  | ends connection stage =>
      refine capped.move (capped.created connection ?_) (by nofun) (by nofun) (Nat.le_refl _)
      rcases stage with stage | stage
      · rw [stage]
        nofun
      · rw [stage]
        nofun
  | missing connection stage missing =>
      exact capped.move (capped.created connection (by rw [stage]; nofun)) (by nofun) (by nofun)
        (Nat.le_refl _)
  | locate connection index stage found isFixed =>
      exact capped.move (capped.created connection (by rw [stage]; nofun)) (by nofun) (by nofun)
        (Nat.le_refl _)
  | locateOther connection index stage found notFixed =>
      exact capped.move (capped.created connection (by rw [stage]; nofun)) (by nofun) (by nofun)
        (Nat.le_refl _)
  | abandon connection index stage terminated =>
      exact capped.move (capped.created connection (by rw [stage]; nofun)) (by nofun) (by nofun)
        (Nat.le_refl _)
  | restart connection index policy stage =>
      have known := capped.created connection (by rw [stage]; nofun)
      have moved : Capped count (state.goTo connection (.restarting index)) :=
        capped.move known (by nofun) (by nofun) (Nat.le_refl _)
      exact moved.policy policy
  | policy action policy => exact capped.policy policy
  | createConnection connection index policy stage =>
      have known := capped.created connection (by rw [stage]; nofun)
      have fewer := Finset.card_le_card (awaiting_create_of_ne state .initial
        (by nofun : Stage.replacement ≠ .added))
      have room := capped.room
      have created : Capped count (state.create .initial .replacement) :=
        capped.create .initial rfl (by omega)
      have moved : Capped count ((state.create .initial .replacement).goTo connection
          (.replacing index state.created)) := by
        refine created.move (Nat.lt_succ_of_lt known) (by nofun) ?_ (Nat.le_refl _)
        intro replacement isReplacement
        cases isReplacement
        exact Nat.lt_succ_self _
      exact moved.policy policy
  | replace connection index replacement stage =>
      refine capped.move (capped.created connection (by rw [stage]; nofun)) (by nofun) ?_
        (Nat.le_of_eq List.length_set)
      intro started isStarted
      exact capped.replacements connection started (by rw [stage]; exact isStarted)
  | launchReplacement connection replacement stage =>
      have known := capped.created connection (by rw [stage]; nofun)
      have created := capped.replacements connection replacement (by rw [stage]; rfl)
      have moved : Capped count (state.goTo connection (.restarted replacement)) :=
        capped.move known (by nofun) (by nofun) (Nat.le_refl _)
      exact moved.startCore created
  | remove connection stage =>
      exact capped.move (capped.created connection (by rw [stage]; nofun)) (by nofun)
        (by nofun) List.length_erase_le
  | rebalance =>
      have fewer := Finset.card_le_card (awaiting_create_subset state .onDemand .added)
      have room := reserved count capped.maximum
      have one := Finset.card_insert_le state.created state.awaiting
      exact capped.create .onDemand rfl (by omega)
  | addOnDemand connection stage =>
      have known := capped.created connection (by rw [stage]; nofun)
      have fewer := awaiting_goTo (mem_awaiting.2 ⟨known, stage⟩)
        (by nofun : Stage.listed ≠ .added)
      have room := capped.room
      refine capped.goTo known (by nofun) ?_
      rw [List.length_append, List.length_singleton]
      omega
  | terminate => exact { capped with }

end Steps

theorem capped_initial (fixedConnectionCount maxConnectionCount : Nat) :
    Capped (max maxConnectionCount fixedConnectionCount)
      (initialStrong fixedConnectionCount maxConnectionCount) := by
  have none : (initialStrong fixedConnectionCount maxConnectionCount).awaiting = ∅ := by
    refine Finset.eq_empty_of_forall_notMem fun connection member => ?_
    have awaits := (mem_awaiting.1 member).2
    replace awaits : (if connection < fixedConnectionCount then Stage.listed else .absent) =
      .added := awaits
    split_ifs at awaits
  refine ⟨?_, ?_, ?_, ?_⟩
  · show some (if fixedConnectionCount < maxConnectionCount then _ else _) = _
    split_ifs with larger
    · rw [Nat.max_eq_left (Nat.le_of_lt larger)]
    · rw [Nat.max_eq_right (Nat.le_of_not_lt larger)]
  · intro connection present
    by_contra new
    exact present (if_neg new)
  · intro connection replacement isReplacement
    replace isReplacement :
      (if connection < fixedConnectionCount then Stage.listed else .absent).replacement? =
        some replacement := isReplacement
    split_ifs at isReplacement
    · cases isReplacement
    · cases isReplacement
  · rw [none, Finset.card_empty, Nat.add_zero]
    show (List.range fixedConnectionCount).length ≤ _
    rw [List.length_range]
    exact Nat.le_max_right _ _

/-- The list of a strong container, in every state of a run in which each check of a rebalance
ping reckons with the pings before it. -/
theorem on_demand_capped (fixedConnectionCount maxConnectionCount : Nat) (actions : List Action)
    {state : State}
    (ran : Machine.run step (initialStrong fixedConnectionCount maxConnectionCount) actions =
      some state)
    (reserved : Machine.Along step Reserved
      (initialStrong fixedConnectionCount maxConnectionCount) actions) :
    state.serviceConnections.length ≤ max maxConnectionCount fixedConnectionCount := by
  have capped := Machine.run_along capped_step (capped_initial _ _) reserved ran
  exact (Nat.le_add_right _ _).trans capped.room

instance (state : State) : (action : Action) → Decidable (Reserved state action)
  | .rebalance => inferInstanceAs (Decidable (∀ count ∈ state.maxConnectionCount,
      state.serviceConnections.length + state.awaiting.card < count))
  | .launch _ | .connects _ | .ends _ | .complete _ | .restart _ | .policy _
  | .createConnection _ | .replace _ | .launchReplacement _ | .remove _ | .addOnDemand _
  | .terminate => isTrue trivial

/-- A ping adds its connection before the next one comes. -/
def pingAfterPing : List Action := [.rebalance, .addOnDemand 1, .rebalance, .addOnDemand 2]

theorem on_demand_capped_pings :
    ∃ state, Machine.run step (initialStrong 1 3) pingAfterPing = some state ∧
      state.serviceConnections = [0, 1, 2] ∧ state.serviceConnections.length ≤ max 3 1 :=
  ⟨_, rfl, rfl, on_demand_capped 1 3 pingAfterPing rfl (by decide)⟩

/-- The checks of two pings pass before either adds its connection. -/
def pingsAtOnce : List Action := [.rebalance, .rebalance, .addOnDemand 1, .addOnDemand 2]

theorem on_demand_cap_exceeded :
    ∃ state, Machine.run step (initialStrong 1 2) pingsAtOnce = some state ∧
      state.serviceConnections = [0, 1, 2] ∧ ¬ state.serviceConnections.length ≤ max 2 1 :=
  ⟨_, rfl, rfl, by decide⟩

end AzureSignalR.ServiceConnections.ConnectionSlots
