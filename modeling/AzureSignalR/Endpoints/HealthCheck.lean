import AzureSignalR.Endpoints.HubServiceEndpoint
import AzureSignalR.Library.Machine
import AzureSignalR.Library.Threads

/-!
Contract: the health checks of a hub's endpoints, between reloads of the configured ones.

Owns: `RestHealthCheckService` with its rounds and their checks, the phases of a reload for its
hub, and when a round gives an endpoint that is not online another chance.

Does not own: the answers of the endpoints. The waits of a reload and of a check are as long as
the run makes them.
-/

set_option autoImplicit false

namespace AzureSignalR.Endpoints.HealthCheck

open Library

def maxRetries : Nat := 2

/-- The check of one endpoint in a round. -/
structure Check where
  endpoint : Nat
  retry : Nat := 0
  ended : Bool := false
deriving DecidableEq, Repr

/-- A reload behind `UpdateEndpoints`: what it has created for the hub, and what it removes. -/
structure Reload (υ : Type) where
  created : List Nat
  removed : List (ServiceEndpoint υ)
  isStored : Bool := false
  isRemoved : Bool := false
deriving DecidableEq, Repr

/-- `objects` are all endpoints of the hub that have been created, and `list` the places of those
that `GetEndpoints` returns. `offline` are the configured endpoints that are not online. -/
structure State (υ : Type) where
  enabledForSingleEndpoint : Bool := false
  endpoints : Entries υ
  offline : List Nat := []
  pendingReload : List Nat := []
  objects : List (HubServiceEndpoint υ) := []
  list : Option (List Nat) := none
  reloads : List (Reload υ) := []
  checks : List Check := []
deriving DecidableEq, Repr

inductive Action (υ : Type) where
  /-- Someone else calls `GetEndpoints`. -/
  | getEndpoints
  /-- A reload up to its first wait. -/
  | reload (serviceEndpoints : List (ServiceEndpoint υ))
  /-- `AddEndpointsToNegotiationStore`. -/
  | store (reload : Nat)
  /-- `UpdateAndGetRemovedHubServiceEndpoints`. -/
  | remove (reload : Nat)
  /-- `CheckEndpointHealthAsync`. -/
  | round
  /-- `IsServiceHealthy` returns; behind an answer that is not the last is the delay. -/
  | answer (check : Nat) (isHealthy : Bool)
deriving DecidableEq, Repr

variable {υ : Type} [DecidableEq υ]

namespace State

/-- The objects of the hub's list. -/
def hubEndpoints (state : State υ) : List (HubServiceEndpoint υ) :=
  (state.list.getD []).filterMap fun place => state.objects[place]?

/-- New objects for the hub, and their places. -/
def create (state : State υ) (endpoints : List (ServiceEndpoint υ)) : State υ × List Nat :=
  ({ state with
      objects := state.objects ++
        endpoints.map (createHubServiceEndpoint state.pendingReload state.hubEndpoints) },
    List.range' state.objects.length endpoints.length)

/-- `GetEndpoints`. -/
def getEndpoints (state : State υ) : State υ × List Nat :=
  match state.list with
  | some list => (state, list)
  | none =>
      let (created, list) := state.create state.endpoints.keys
      ({ created with list := some list }, list)

def startReload (state : State υ) (serviceEndpoints : List (ServiceEndpoint υ)) : State υ :=
  match reloadEndpoints state.endpoints state.pendingReload serviceEndpoints with
  | (_, .error _) => state
  | (endpoints, .ok update) =>
      let updated :=
        { state with endpoints := endpoints, pendingReload := update.pendingReload }
      match state.list with
      | none =>
          { updated with
            reloads := state.reloads ++ [{ created := [], removed := update.removed }] }
      | some _ =>
          let (made, created) := updated.create update.added
          { made with reloads := state.reloads ++ [{ created, removed := update.removed }] }

/-- The scale tasks of what has been created are completed, and the hub gets it. -/
def store (state : State υ) (number : Nat) (reload : Reload υ) : State υ :=
  { state with
    objects := reload.created.foldl
      (fun objects place => objects.modify place HubServiceEndpoint.completeScale) state.objects
    list := state.list.map (· ++ reload.created)
    reloads := state.reloads.set number { reload with isStored := true } }

def remove (state : State υ) (number : Nat) (reload : Reload υ) : State υ :=
  { state with
    list := state.list.map fun list => list.filter fun place =>
      (state.objects[place]?.bind (isRemoved reload.removed)).isNone
    reloads := state.reloads.set number { reload with isRemoved := true } }

/-- A round starts a check of every endpoint of the hub. -/
def checkEndpointHealth (state : State υ) : State υ :=
  if 1 < state.endpoints.length ∨ state.enabledForSingleEndpoint = true ∨
      ∃ key ∈ state.endpoints.keys, key.reference ∈ state.offline then
    let (got, list) := state.getEndpoints
    { got with checks := got.checks ++ list.map fun endpoint => { endpoint } }
  else state

/-- A check gets its answer: it tries again, or stores what it has got. -/
def endCheck (state : State υ) (number : Nat) (check : Check) (isHealthy : Bool) : State υ :=
  if isHealthy = false ∧ check.retry < maxRetries then
    { state with checks := state.checks.set number { check with retry := check.retry + 1 } }
  else
    { state with
      objects := state.objects.modify check.endpoint ({ · with online := isHealthy })
      checks := state.checks.set number { check with retry := check.retry + 1, ended := true } }

end State

def step (state : State υ) : Action υ → Option (State υ)
  | .getEndpoints => some state.getEndpoints.1
  | .reload serviceEndpoints => some (state.startReload serviceEndpoints)
  | .store number =>
      match state.reloads[number]? with
      | none => none
      | some reload => if reload.isStored then none else some (state.store number reload)
  | .remove number =>
      match state.reloads[number]? with
      | none => none
      | some reload => if reload.isRemoved then none else some (state.remove number reload)
  | .round => some state.checkEndpointHealth
  | .answer number isHealthy =>
      match state.checks[number]? with
      | none => none
      | some check => if check.ended then none else some (state.endCheck number check isHealthy)

/-- A service for which health checks are not enabled for a single endpoint. -/
def initial (endpoints : Entries υ) : State υ := { endpoints := endpoints }

/-! ## The answers of a check -/

def answersOf (check : Nat) (actions : List (Action υ)) : List Bool :=
  actions.filterMap fun
    | .answer number isHealthy => if number = check then some isHealthy else none
    | _ => none

/-- A round checks every endpoint of the hub that is not online, and marks it online when it
answers healthily within the retries. -/
def GivesChance (state : State υ) : Prop :=
  ∀ next, step state .round = some next →
    ∀ place endpoint, place ∈ state.list.getD [] → state.objects[place]? = some endpoint →
      endpoint.online = false →
        ∃ check, state.checks.length ≤ check ∧ next.checks[check]? = some { endpoint := place } ∧
          ∀ between final retries,
            Machine.run step next (between ++ [.answer check true]) = some final →
              answersOf check between = List.replicate retries false → retries ≤ maxRetries →
                (final.objects[place]?).map HubServiceEndpoint.online = some true

section Steps

variable {state next : State υ} {action : Action υ} {number : Nat} {check : Check}

theorem getEndpoints_of_some {list : List Nat} (present : state.list = some list) :
    state.getEndpoints = (state, list) := by
  rw [State.getEndpoints, present]

/-- What a reload of the endpoints leaves alone. -/
structure Keeps (state next : State υ) : Prop where
  enabledForSingleEndpoint : next.enabledForSingleEndpoint = state.enabledForSingleEndpoint
  offline : next.offline = state.offline
  checks : next.checks = state.checks
  objects : state.objects.length ≤ next.objects.length

theorem keeps_getEndpoints (state : State υ) : Keeps state state.getEndpoints.1 := by
  rw [State.getEndpoints]
  cases state.list with
  | some list => exact ⟨rfl, rfl, rfl, Nat.le_refl _⟩
  | none =>
      refine ⟨rfl, rfl, rfl, ?_⟩
      show _ ≤ (_ ++ _ : List _).length
      rw [List.length_append]
      exact Nat.le_add_right _ _

theorem keeps_startReload (state : State υ) (serviceEndpoints : List (ServiceEndpoint υ)) :
    Keeps state (state.startReload serviceEndpoints) := by
  rw [State.startReload]
  split
  · exact ⟨rfl, rfl, rfl, Nat.le_refl _⟩
  · cases state.list with
    | none => exact ⟨rfl, rfl, rfl, Nat.le_refl _⟩
    | some list =>
        refine ⟨rfl, rfl, rfl, ?_⟩
        show _ ≤ (_ ++ _ : List _).length
        rw [List.length_append]
        exact Nat.le_add_right _ _

omit [DecidableEq υ] in
theorem length_completed (places : List Nat) (objects : List (HubServiceEndpoint υ)) :
    (places.foldl (fun objects place => objects.modify place HubServiceEndpoint.completeScale)
      objects).length = objects.length := by
  induction places generalizing objects with
  | nil => rfl
  | cons place places inductionHypothesis =>
      rw [List.foldl_cons, inductionHypothesis, List.length_modify]

omit [DecidableEq υ] in
theorem keeps_store (state : State υ) (number : Nat) (reload : Reload υ) :
    Keeps state (state.store number reload) :=
  ⟨rfl, rfl, rfl, (length_completed reload.created state.objects).ge⟩

/-- A check goes on by its own answers. -/
theorem getElem?_checks (found : state.checks[number]? = some check)
    (healthless : ∀ isHealthy, action = .answer number isHealthy →
      isHealthy = false ∧ check.retry < maxRetries)
    (stepped : step state action = some next) :
    next.checks[number]? =
      some { check with retry := check.retry + (answersOf number [action]).length } := by
  have inside := (List.getElem?_eq_some_iff.mp found).1
  cases action with
  | getEndpoints =>
      cases stepped
      rw [(keeps_getEndpoints state).checks]
      exact found
  | reload serviceEndpoints =>
      cases stepped
      rw [(keeps_startReload state serviceEndpoints).checks]
      exact found
  | store reload =>
      rw [step] at stepped
      split at stepped
      · cases stepped
      · split_ifs at stepped
        cases stepped
        exact found
  | remove reload =>
      rw [step] at stepped
      split at stepped
      · cases stepped
      · split_ifs at stepped
        cases stepped
        exact found
  | round =>
      cases stepped
      rw [State.checkEndpointHealth]
      split_ifs
      · show (state.getEndpoints.1.checks ++ _)[number]? = _
        rw [(keeps_getEndpoints state).checks, List.getElem?_append_left inside]
        exact found
      · exact found
  | answer other isHealthy =>
      rw [step] at stepped
      split at stepped
      · cases stepped
      · rename_i otherCheck isOther
        split_ifs at stepped
        cases stepped
        by_cases isHere : other = number
        · subst isHere
          rw [found, Option.some.injEq] at isOther
          subst isOther
          obtain ⟨rfl, more⟩ := healthless isHealthy rfl
          rw [State.endCheck, if_pos ⟨rfl, more⟩]
          show (state.checks.set _ _)[other]? = _
          rw [List.getElem?_set_self inside]
          simp [answersOf]
        · have same : (state.endCheck other otherCheck isHealthy).checks[number]? =
              state.checks[number]? := by
            rw [State.endCheck]
            split_ifs
            · exact List.getElem?_set_ne isHere
            · exact List.getElem?_set_ne isHere
          rw [same, found]
          simp [answersOf, isHere]

/-- The objects stay. -/
theorem length_objects (stepped : step state action = some next) :
    state.objects.length ≤ next.objects.length := by
  cases action with
  | getEndpoints =>
      cases stepped
      exact (keeps_getEndpoints state).objects
  | reload serviceEndpoints =>
      cases stepped
      exact (keeps_startReload state serviceEndpoints).objects
  | store reload =>
      rw [step] at stepped
      split at stepped
      · cases stepped
      · split_ifs at stepped
        cases stepped
        exact (keeps_store state _ _).objects
  | remove reload =>
      rw [step] at stepped
      split at stepped
      · cases stepped
      · split_ifs at stepped
        cases stepped
        exact Nat.le_refl _
  | round =>
      cases stepped
      rw [State.checkEndpointHealth]
      split_ifs
      · exact (keeps_getEndpoints state).objects
      · exact Nat.le_refl _
  | answer other isHealthy =>
      rw [step] at stepped
      split at stepped
      · cases stepped
      · split_ifs at stepped
        cases stepped
        rw [State.endCheck]
        split_ifs
        · exact Nat.le_refl _
        · exact (List.length_modify ..).ge

/-- No endpoint that is configured is ever marked, and the option stays off. -/
def Unmarked (state : State υ) : Prop :=
  state.enabledForSingleEndpoint = false ∧ state.offline = []

omit [DecidableEq υ] in
theorem Keeps.unmarked (keeps : Keeps state next) (unmarked : Unmarked state) : Unmarked next :=
  ⟨keeps.enabledForSingleEndpoint.trans unmarked.1, keeps.offline.trans unmarked.2⟩

theorem unmarked_step (unmarked : Unmarked state) (stepped : step state action = some next) :
    Unmarked next := by
  cases action with
  | getEndpoints =>
      cases stepped
      exact (keeps_getEndpoints state).unmarked unmarked
  | reload serviceEndpoints =>
      cases stepped
      exact (keeps_startReload state serviceEndpoints).unmarked unmarked
  | store reload =>
      rw [step] at stepped
      split at stepped
      · cases stepped
      · split_ifs at stepped
        cases stepped
        exact unmarked
  | remove reload =>
      rw [step] at stepped
      split at stepped
      · cases stepped
      · split_ifs at stepped
        cases stepped
        exact unmarked
  | round =>
      cases stepped
      rw [State.checkEndpointHealth]
      split_ifs
      · exact (keeps_getEndpoints state).unmarked unmarked
      · exact unmarked
  | answer other isHealthy =>
      rw [step] at stepped
      split at stepped
      · cases stepped
      · split_ifs at stepped
        cases stepped
        rw [State.endCheck]
        split_ifs
        · exact unmarked
        · exact unmarked

/-- The tries of a check, as long as its answers are unhealthy. -/
theorem check_run {actions : List (Action υ)} {final : State υ}
    (found : state.checks[number]? = some check)
    (ran : Machine.run step state actions = some final) {retries : Nat}
    (answers : answersOf number actions = List.replicate retries false)
    (within : check.retry + retries ≤ maxRetries) :
    final.checks[number]? = some { check with retry := check.retry + retries } ∧
      state.objects.length ≤ final.objects.length := by
  induction actions generalizing state check retries with
  | nil =>
      cases ran
      have none : retries = 0 := by
        have length := congrArg List.length answers
        rw [List.length_replicate] at length
        exact length.symm
      subst none
      exact ⟨found, Nat.le_refl _⟩
  | cons action actions inductionHypothesis =>
      obtain ⟨next, stepped, rest⟩ := Machine.run_cons.1 ran
      have split : answersOf number (action :: actions) =
          answersOf number [action] ++ answersOf number actions := by
        rw [answersOf, answersOf, answersOf, ← List.filterMap_append]
        rfl
      rw [split] at answers
      obtain ⟨total, first, others⟩ := List.append_eq_replicate_iff.mp answers
      have healthless : ∀ isHealthy, action = .answer number isHealthy →
          isHealthy = false ∧ check.retry < maxRetries := by
        rintro isHealthy rfl
        have one : answersOf number [(.answer number isHealthy : Action υ)] = [isHealthy] := by
          simp [answersOf]
        rw [one] at first total
        rw [List.length_singleton] at total
        exact ⟨(List.cons.inj first).1, by omega⟩
      obtain ⟨last, longer⟩ := inductionHypothesis (getElem?_checks found healthless stepped) rest
        others (show check.retry + _ + _ ≤ _ by omega)
      refine ⟨?_, (length_objects stepped).trans longer⟩
      rw [last, ← total, ← Nat.add_assoc]

/-- A healthy answer to a check that has not ended marks its endpoint. -/
theorem online_of_answer {endpoint retry : Nat}
    (found : state.checks[number]? = some { endpoint, retry })
    (inside : endpoint < state.objects.length)
    (stepped : step state (.answer number true) = some next) :
    (next.objects[endpoint]?).map HubServiceEndpoint.online = some true := by
  rw [step, found] at stepped
  cases stepped
  rw [State.endCheck, if_neg (by simp)]
  show ((state.objects.modify endpoint _)[endpoint]?).map _ = _
  rw [List.getElem?_modify_eq, List.getElem?_eq_getElem inside]
  rfl

/-- A round that has more than one endpoint to choose from checks all of them. -/
theorem givesChance_of_many (many : 1 < state.endpoints.length) : GivesChance state := by
  intro next stepped place endpoint member found unmarked
  cases stepped
  cases isList : state.list with
  | none =>
      rw [isList] at member
      cases member
  | some list =>
      rw [isList] at member
      rw [State.checkEndpointHealth, if_pos (.inl many), getEndpoints_of_some isList]
      obtain ⟨position, isPlace⟩ := List.mem_iff_getElem?.mp member
      have started : (state.checks ++ list.map fun endpoint => ({ endpoint } : Check))[
          state.checks.length + position]? = some { endpoint := place } := by
        rw [List.getElem?_append_right (Nat.le_add_right _ _), Nat.add_sub_cancel_left,
          List.getElem?_map]
        replace isPlace : list[position]? = some place := isPlace
        rw [isPlace]
        rfl
      refine ⟨_, Nat.le_add_right _ position, started, ?_⟩
      intro between final retries ran answers within
      obtain ⟨middle, before, last⟩ := Machine.run_append.1 ran
      obtain ⟨answered, stepped, ended⟩ := Machine.run_cons.1 last
      cases ended
      obtain ⟨check, longer⟩ := check_run started before answers
        ((Nat.zero_add retries).le.trans within)
      have inside := (List.getElem?_eq_some_iff.mp found).1
      exact online_of_answer check (inside.trans_le longer) stepped

/-- A round does nothing for the only endpoint. -/
theorem round_of_single (unmarked : Unmarked state) (single : ¬1 < state.endpoints.length) :
    step state .round = some state := by
  show some state.checkEndpointHealth = _
  rw [State.checkEndpointHealth, if_neg]
  rintro (many | enabled | ⟨key, -, isOffline⟩)
  · exact single many
  · rw [unmarked.1] at enabled
    cases enabled
  · rw [unmarked.2] at isOffline
    cases isOffline

end Steps

/-- In every history, a round gives all endpoints that are not online another chance exactly when
more than one endpoint is configured, or there is none to give it to. -/
theorem unhealthy_endpoint_gets_chance (endpoints : Entries υ) (actions : List (Action υ))
    {state : State υ} (ran : Machine.run step (initial endpoints) actions = some state) :
    GivesChance state ↔ 1 < state.endpoints.length ∨
      ∀ endpoint ∈ state.hubEndpoints, endpoint.online = true := by
  have unmarked : Unmarked state := Machine.run_invariant unmarked_step ⟨rfl, rfl⟩ ran
  constructor
  · intro chance
    by_contra neither
    rw [not_or] at neither
    obtain ⟨single, some⟩ := neither
    push Not at some
    obtain ⟨endpoint, member, isOffline⟩ := some
    obtain ⟨place, isListed, found⟩ := List.mem_filterMap.mp member
    obtain ⟨check, new, started, -⟩ := chance state (round_of_single unmarked single) place endpoint
      isListed found (Bool.eq_false_iff.mpr isOffline)
    have inside := (List.getElem?_eq_some_iff.mp started).1
    omega
  · rintro (many | online)
    · exact givesChance_of_many many
    · intro next stepped place endpoint member found isOffline
      rw [online endpoint (List.mem_filterMap.mpr ⟨place, member, found⟩)] at isOffline
      cases isOffline

/-! ### Two endpoints, of which one goes -/

def configured (endpoint : String) (reference : Nat) : ServiceEndpoint Unit :=
  { name := "", endpoint, endpointType := .primary, clientEndpoint := (), serverEndpoint := (),
    reference }

def twoEndpoints : Entries Unit :=
  [(configured "a" 0, configured "a" 0), (configured "b" 1, configured "b" 1)]

/-- Endpoint `a` does not answer a round. -/
def unhealthyRound : List (Action Unit) :=
  [.round, .answer 0 false, .answer 0 false, .answer 0 false, .answer 1 true]

theorem unhealthy_endpoint_gets_chance_two :
    ∃ state, Machine.run step (initial twoEndpoints) unhealthyRound = some state ∧
      state.hubEndpoints.map HubServiceEndpoint.online = [false, true] ∧ GivesChance state :=
  ⟨_, rfl, rfl, (unhealthy_endpoint_gets_chance twoEndpoints unhealthyRound rfl).mpr
    (.inl (by decide))⟩

/-- Then endpoint `b` is no longer configured. -/
def endpointLeft : List (Action Unit) :=
  unhealthyRound ++ [Action.reload [configured "a" 2], .store 0, .remove 0]

theorem last_endpoint_stays_offline :
    ∃ state, Machine.run step (initial twoEndpoints) endpointLeft = some state ∧
      state.hubEndpoints.map HubServiceEndpoint.online = [false] ∧
      step state .round = some state ∧ ¬ GivesChance state := by
  refine ⟨_, rfl, rfl, rfl, ?_⟩
  intro chance
  obtain ⟨check, new, started, -⟩ := chance _ rfl 0 _ (List.mem_singleton.mpr rfl) rfl rfl
  have inside := (List.getElem?_eq_some_iff.mp started).1
  exact absurd inside (Nat.not_lt.mpr new)

end AzureSignalR.Endpoints.HealthCheck
