import AzureSignalR.ServiceConnections.ClientOwnership

/-!
Contract: every entry that a service connection has made for a client is removed by the
processing task of that client, and by nobody else's.

Owns: the condition on open-connection messages under which this is so, and what follows for one
service connection over opens, closes, ends and clean-ups.

Does not own: migrations by Resume messages, of which one service connection sees none.
-/

set_option autoImplicit false

namespace AzureSignalR.ServiceConnections.ClientBookkeeping

open Library Protocol

namespace Stage

variable {σ : Type}

/-- Its handler has thrown. -/
def hasThrown : Stage σ → Bool
  | .refused | .thrown _ => true
  | _ => false

/-- Its processing task is running, or its handler is just before starting it. -/
def isProcessed : Stage σ → Bool
  | .checking _ | .running _ | .unlisting _ | .unregistering _ | .waiting _ | .closing _ => true
  | _ => false

/-- Its handler is in progress. -/
def isOpening : Stage σ → Bool
  | .registering _ | .listing _ | .checking _ => true
  | _ => false

end Stage

variable {γ : Type}

section Statement

variable (services : Services) (messages : γ → OpenConnectionMessage)

/-- A client that can be made also passes the checks behind `TryAddClientConnection`, and its id
is not that of a client that has its removal still in front of it. -/
def Reopened (state : State Unit γ Empty) : Action Unit γ Empty → Prop
  | .openConnection _ client =>
      (services.createConnection (messages client) = .ok () →
        services.checks (messages client) = .ok ()) ∧
      ∀ other, ids messages other = ids messages client → (state.clients other).isAlive = false
  | _ => True

/-- A handler that throws leaves no entry; an entry of the table belongs to a client whose
processing task is running; and a client removes no entry but its own. -/
structure Kept (state : State Unit γ Empty) : Prop where
  threw : ∀ client, (state.clients client).hasThrown = true →
    state.manager (ids messages client) ≠ some client ∧
      state.tables () (ids messages client) ≠ some client
  processed : ∀ connectionId client, state.tables () connectionId = some client →
    ids messages client = connectionId ∧ (state.clients client).isProcessed = true
  unlists : ∀ client other, state.clients client = .unlisting () →
    state.tables () (ids messages client) = some other → other = client
  unregisters : ∀ client other, state.clients client = .unregistering () →
    state.manager (ids messages client) = some other → other = client

/-- What a run keeps: no client throws behind `TryAddClientConnection`. -/
structure Registered (state : State Unit γ Empty) : Prop where
  consistent : Consistent messages state
  passes : ∀ client, (state.clients client).isOpening = true →
    services.checks (messages client) = .ok ()
  notThrown : ∀ client, state.clients client ≠ .thrown ()

end Statement

section Runs

variable [DecidableEq γ] {services : Services} {messages : γ → OpenConnectionMessage}
  {state next : State Unit γ Empty} {action : Action Unit γ Empty}

omit [DecidableEq γ] in
/-- With one service connection nothing is moved. -/
theorem unmoved_of_reopened (consistent : Consistent messages state)
    (reopened : Reopened services messages state action) : Unmoved messages state action := by
  cases action with
  | openConnection service client => exact reopened.2
  | ends client =>
      intro opener isRunning
      refine ⟨?_, by nofun⟩
      obtain ⟨places, sound⟩ := consistent
      have owned := sound.owned client (by rw [isRunning]; rfl)
      obtain ⟨owner, isOwner⟩ := Option.ne_none_iff_exists'.mp owned
      exact isOwner
  | resume index => exact index.elim
  | _ => trivial

/-- What a step does to the clients: at most one goes on, into a handler only where it is opened,
and to an exception only where a check fails. -/
inductive Goes (services : Services) (messages : γ → OpenConnectionMessage)
    (state : State Unit γ Empty) : Action Unit γ Empty → (γ → Stage Unit) → Prop where
  | stays (action : Action Unit γ Empty) : Goes services messages state action state.clients
  | opens (service : Unit) (client : γ)
      (created : services.createConnection (messages client) = .ok ()) :
      Goes services messages state (.openConnection service client)
        (Function.update state.clients client (.registering service))
  | proceeds (action : Action Unit γ Empty) (client : γ) (stage : Stage Unit)
      (wasOpening : (state.clients client).isOpening = true) (notThrown : stage ≠ .thrown ()) :
      Goes services messages state action (Function.update state.clients client stage)
  | throws (action : Action Unit γ Empty) (client : γ) (exception : Exn)
      (wasOpening : (state.clients client).isOpening = true)
      (failed : services.checks (messages client) = .error exception) :
      Goes services messages state action (Function.update state.clients client (.thrown ()))
  | ends (action : Action Unit γ Empty) (client : γ) (stage : Stage Unit)
      (notOpening : stage.isOpening = false) (notThrown : stage ≠ .thrown ()) :
      Goes services messages state action (Function.update state.clients client stage)

omit [DecidableEq γ] in
theorem clients_drop (connectionId : String) :
    (state.drop connectionId).clients = state.clients := by
  unfold State.drop
  split <;> rfl

omit [DecidableEq γ] in
theorem clients_tryRegister (connectionId : String) (client : γ) :
    (state.tryRegister connectionId client).clients = state.clients := by
  unfold State.tryRegister
  split <;> rfl

omit [DecidableEq γ] in
theorem clients_tryList (service : Unit) (connectionId : String) (client : γ) :
    (state.tryList service connectionId client).clients = state.clients := by
  unfold State.tryList
  split <;> rfl

theorem goes_of_proceed {client : γ}
    (proceeded : proceed services messages state client = some next) :
    Goes services messages state (.proceed client) next.clients := by
  unfold proceed at proceeded
  cases stage : state.clients client with
  | unopened | refused | thrown _ | running _ | waiting _ | completed =>
      rw [stage] at proceeded
      cases proceeded
  | registering opener =>
      rw [stage] at proceeded
      cases proceeded
      simp only [State.goTo, clients_tryRegister]
      exact .proceeds _ client _ (by rw [stage]; rfl) fun thrown => by cases thrown
  | listing opener =>
      rw [stage] at proceeded
      cases proceeded
      simp only [State.goTo, clients_tryList]
      exact .proceeds _ client _ (by rw [stage]; rfl) fun thrown => by cases thrown
  | checking opener =>
      rw [stage] at proceeded
      dsimp only at proceeded
      split at proceeded
      next exception failed =>
        cases proceeded
        exact .throws _ client exception (by rw [stage]; rfl) failed
      next =>
        cases proceeded
        exact .proceeds _ client _ (by rw [stage]; rfl) fun thrown => by cases thrown
  | unlisting opener =>
      rw [stage] at proceeded
      cases proceeded
      exact .ends _ client _ rfl fun thrown => by cases thrown
  | unregistering opener =>
      rw [stage] at proceeded
      cases proceeded
      exact .ends _ client _ rfl fun thrown => by cases thrown
  | closing opener =>
      rw [stage] at proceeded
      dsimp only at proceeded
      split at proceeded <;> cases proceeded <;>
        exact .ends _ client _ rfl fun thrown => by cases thrown

theorem goes_of_step (stepped : step services messages state action = some next) :
    Goes services messages state action next.clients := by
  cases action with
  | openConnection service client =>
      rw [step] at stepped
      split at stepped
      next =>
        split at stepped
        next =>
          cases stepped
          exact .ends _ client _ rfl fun thrown => by cases thrown
        next created =>
          cases stepped
          exact .opens service client created
      next => cases stepped
  | proceed client => exact goes_of_proceed stepped
  | ends client =>
      rw [step] at stepped
      split at stepped
      next =>
        cases stepped
        exact .ends _ client _ rfl fun thrown => by cases thrown
      next => cases stepped
  | endsBoth client =>
      rw [step] at stepped
      split at stepped
      next =>
        cases stepped
        exact .ends _ client _ rfl fun thrown => by cases thrown
      next => cases stepped
  | closeConnection connectionId =>
      cases stepped
      rw [clients_drop]
      exact .stays _
  | visit service fromInstanceId connectionId =>
      rw [step] at stepped
      split at stepped
      next => cases stepped
      next =>
        dsimp only at stepped
        split at stepped
        next => cases stepped
        next =>
          cases stepped
          exact .stays _
  | cleanup connectionId =>
      rw [step] at stepped
      split at stepped
      next =>
        cases stepped
        rw [clients_drop]
        exact .stays _
      next => cases stepped
  | disconnect client =>
      rw [step] at stepped
      split at stepped
      next =>
        cases stepped
        exact .stays _
      next => cases stepped
  | receive index => exact index.elim
  | resume index => exact index.elim

/-- No client comes to an exception behind `TryAddClientConnection`. -/
theorem Goes.keeps {stages : γ → Stage Unit} (goes : Goes services messages state action stages)
    (registered : Registered services messages state)
    (reopened : Reopened services messages state action) (other : γ) :
    ((stages other).isOpening = true → services.checks (messages other) = .ok ()) ∧
      stages other ≠ .thrown () := by
  have unchanged := And.intro (registered.passes other) (registered.notThrown other)
  cases goes with
  | stays => exact unchanged
  | opens service client created =>
      by_cases isHere : other = client
      · rw [isHere, Function.update_self]
        exact ⟨fun _ => reopened.1 created, by nofun⟩
      · rw [Function.update_of_ne isHere]
        exact unchanged
  | proceeds _ client stage wasOpening notThrown =>
      by_cases isHere : other = client
      · rw [isHere, Function.update_self]
        exact ⟨fun _ => registered.passes client wasOpening, notThrown⟩
      · rw [Function.update_of_ne isHere]
        exact unchanged
  | throws _ client exception wasOpening failed =>
      rw [registered.passes client wasOpening] at failed
      cases failed
  | ends _ client stage notOpening notThrown =>
      by_cases isHere : other = client
      · rw [isHere, Function.update_self, notOpening]
        exact ⟨by nofun, notThrown⟩
      · rw [Function.update_of_ne isHere]
        exact unchanged

theorem registered_step (registered : Registered services messages state)
    (reopened : Reopened services messages state action)
    (stepped : step services messages state action = some next) :
    Registered services messages next := by
  have kept := (goes_of_step stepped).keeps registered reopened
  exact ⟨consistent_step registered.consistent
    (unmoved_of_reopened registered.consistent reopened) stepped,
    fun client => (kept client).1, fun client => (kept client).2⟩

omit [DecidableEq γ] in
theorem Registered.kept (registered : Registered services messages state) :
    Kept messages state := by
  obtain ⟨⟨places, sound⟩, -, notThrown⟩ := registered
  have listed : ∀ {connectionId client}, state.tables () connectionId = some client →
      ids messages client = connectionId ∧ (state.clients client).isListed = true := by
    intro connectionId client entry
    obtain ⟨same, placed⟩ := (sound.tables _ _ _).mp entry
    refine ⟨same, ?_⟩
    cases isListed : (state.clients client).isListed with
    | true => rfl
    | false =>
        rw [sound.unlisted client isListed] at placed
        cases placed
  refine ⟨?_, ?_, ?_, ?_⟩
  · intro client hasThrown
    have isRefused : state.clients client = .refused := by
      cases stage : state.clients client with
      | refused => rfl
      | thrown opener => exact absurd stage (notThrown client)
      | _ =>
          rw [stage] at hasThrown
          cases hasThrown
    refine ⟨?_, ?_⟩
    · intro entry
      have isRegistered := (sound.registered _ _ entry).2
      rw [isRefused] at isRegistered
      cases isRegistered
    · intro entry
      have isListed := (listed entry).2
      rw [isRefused] at isListed
      cases isListed
  · intro connectionId client entry
    obtain ⟨same, isListed⟩ := listed entry
    refine ⟨same, ?_⟩
    cases stage : state.clients client with
    | checking opener => rfl
    | running opener => rfl
    | unlisting opener => rfl
    | thrown opener => exact absurd stage (notThrown client)
    | _ =>
        rw [stage] at isListed
        cases isListed
  · intro client other isUnlisting entry
    obtain ⟨same, isListed⟩ := listed entry
    exact sound.unique other client same (isAlive_of_isListed isListed) (by rw [isUnlisting]; rfl)
  · intro client other isUnregistering entry
    obtain ⟨same, isRegistered⟩ := sound.registered _ _ entry
    exact sound.unique other client same (isAlive_of_isRegistered isRegistered)
      (by rw [isUnregistering]; rfl)

end Runs

/-- The clients of one service connection, in every state of a run in which the clients that are
made pass the checks and an id is opened again only behind the removal of the earlier client. -/
theorem registrations_kept [DecidableEq γ] (services : Services)
    (messages : γ → OpenConnectionMessage) (actions : List (Action Unit γ Empty))
    {state : State Unit γ Empty}
    (ran : Machine.run (step services messages) {} actions = some state)
    (reopened : Machine.Along (step services messages) (Reopened services messages) {} actions) :
    Kept messages state := by
  have initially : Registered services messages {} := ⟨⟨_, sound_initial⟩, by nofun, by nofun⟩
  exact (Machine.run_along registered_step initially reopened ran).kept

instance [Fintype γ] (services : Services) (messages : γ → OpenConnectionMessage)
    (state : State Unit γ Empty) : (action : Action Unit γ Empty) →
      Decidable (Reopened services messages state action)
  | .openConnection _ client =>
      inferInstanceAs (Decidable ((services.createConnection (messages client) = .ok () →
        services.checks (messages client) = .ok ()) ∧
          ∀ other, ids messages other = ids messages client →
            (state.clients other).isAlive = false))
  | .proceed _ | .ends _ | .endsBoth _ | .closeConnection _ | .visit _ _ _ | .cleanup _
  | .disconnect _ | .receive _ _ _ | .resume _ => isTrue trivial

/-- A client is opened, and the service closes it. -/
def opensAndCloses : List (Action Unit Bool Empty) :=
  Action.openConnection () false :: List.replicate 3 (Action.proceed false) ++
    [Action.closeConnection "c", .disconnect false]

/-- Its tasks end, and its id is opened again. -/
def opensAgain : List (Action Unit Bool Empty) :=
  opensAndCloses ++ [Action.ends false, .proceed false, .proceed false, .openConnection () true] ++
    List.replicate 3 (Action.proceed true)

theorem registrations_kept_opensAgain :
    ∃ state : State Unit Bool Empty,
      Machine.run (step defaultServices fun _ => openMessage) {} opensAgain = some state ∧
      state.manager "c" = some true ∧ Kept (fun _ => openMessage) state :=
  ⟨_, rfl, rfl, registrations_kept defaultServices (fun _ => openMessage) opensAgain rfl
    (by decide)⟩

/-- Its id is opened again before its tasks end. -/
def opensEarly : List (Action Unit Bool Empty) :=
  opensAndCloses ++ Action.openConnection () true :: List.replicate 3 (Action.proceed true) ++
    [Action.ends false, .proceed false]

/-- A header that is no Boolean. -/
def strangeMessage : OpenConnectionMessage :=
  { openMessage with headers := some [(Constants.asrsIsDiagnosticClient, [some "1"])] }

theorem registrations_lost :
    (∃ state : State Unit Bool Empty,
      Machine.run (step defaultServices fun _ => openMessage) {} opensEarly = some state ∧
      state.manager "c" = some true ∧ ¬ Kept (fun _ => openMessage) state) ∧
    ∃ state : State Unit Bool Empty,
      Machine.run (step defaultServices fun _ => strangeMessage) {}
        (.openConnection () false :: List.replicate 3 (.proceed false)) = some state ∧
      state.manager "c" = some false ∧ state.tables () "c" = some false ∧
      ¬ Kept (fun _ => strangeMessage) state := by
  refine ⟨⟨_, rfl, rfl, ?_⟩, _, rfl, rfl, rfl, ?_⟩
  · intro kept
    have same := kept.unregisters false true rfl rfl
    cases same
  · intro kept
    exact (kept.threw false rfl).1 rfl

end AzureSignalR.ServiceConnections.ClientBookkeeping
