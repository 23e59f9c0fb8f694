import AzureSignalR.AspNet.ClientLifeCycle

/-!
Contract: what a step of an ASP.NET service connection can do.

Owns: the steps that only move the receive loop or an application task, those of
`PerformDisconnectCore`, and the others, each with its guard and the state behind it.

Does not own: what the steps preserve.
-/

set_option autoImplicit false

namespace AzureSignalR.AspNet

variable {γ : Type} [DecidableEq γ]

section Changes

variable (ids : γ → String)

/-- The receive loop goes on by itself. -/
inductive Route (state : State γ) : Receiver γ → Receiver γ → Prop where
  | receive (message : Message γ) (isOpen : ∀ client, message ≠ .openConnection client) :
      Route state .idle (.forwarding message)
  | clean (cleaning : Cleaning γ) (all : cleaning.last = true → cleaning.instanceId = "")
      (rest : cleaning.rest =
        state.contexts.filter fun client => state.table (ids client) = some client) :
      Route state .idle (.cleaning cleaning)
  | refuse (client : γ) : Route state (.adding client) .idle
  | miss (message : Message γ) (unlisted : state.table (message.connectionId ids) = none) :
      Route state (.forwarding message) .idle
  | find (message : Message γ) (client : γ)
      (listed : state.table (message.connectionId ids) = some client) :
      Route state (.forwarding message) (.writing client message)
  | reject (client : γ) (message : Message γ)
      (completed : (state.clients client).completed = true) :
      Route state (.writing client message)
        (.disconnecting (.manager (message.connectionId ids)) true none)
  | visit (client : γ) (cleaning : Cleaning γ) (member : client ∈ cleaning.rest) :
      Route state (.cleaning cleaning) (.disconnecting (.manager (ids client)) false
        (some { cleaning with rest := cleaning.rest.erase client }))
  | skip (client : γ) (cleaning : Cleaning γ) (member : client ∈ cleaning.rest)
      (other : cleaning.instanceId ≠ "") :
      Route state (.cleaning cleaning)
        (.cleaning { cleaning with rest := cleaning.rest.erase client })
  | goBack (cleaning : Cleaning γ) (done : cleaning.rest = []) (more : cleaning.last = false) :
      Route state (.cleaning cleaning) .idle
  | finish (cleaning : Cleaning γ) (done : cleaning.rest = []) (last : cleaning.last = true) :
      Route state (.cleaning cleaning) .ended

/-- An application task goes on by itself. -/
inductive Turn (context : Client γ) : ApplicationTask γ → ApplicationTask γ → Prop where
  | wake : Turn context .waiting .reading
  | stop (last : context.completed = true ∨ context.cancelled = true) :
      Turn context .waiting .ended
  | rest : Turn context .reading .waiting
  | throws (message : Message γ) (cancelled : context.cancelled = true) :
      Turn context (.checking message) .ended
  | opens (client : γ) (goesOn : context.cancelled = false) :
      Turn context (.checking (.openConnection client)) (.creating client)
  | closes (connectionId : String) (goesOn : context.cancelled = false) :
      Turn context (.checking (.closeConnection connectionId))
        (.disconnecting (.manager connectionId) true)
  | data (connectionId payload : String) (goesOn : context.cancelled = false) :
      Turn context (.checking (.connectionData connectionId payload)) (.passing payload)
  | fails (client : γ) :
      Turn context (.creating client) (.disconnecting (.manager (ids client)) false)

/-- A step of `PerformDisconnectCore`. -/
inductive Performs (waits graceful : Bool) (state : State γ) :
    Disconnect γ → State γ → Option (Disconnect γ) → Prop where
  | unknown (connectionId : String) (absent : state.manager connectionId = none) :
      Performs waits graceful state (.manager connectionId) state none
  | leave (connectionId : String) (client : γ)
      (present : state.manager connectionId = some client) :
      Performs waits graceful state (.manager connectionId) (state.setManager connectionId none)
        (some (.table connectionId))
  | unlisted (connectionId : String) (absent : state.table connectionId = none) :
      Performs waits graceful state (.table connectionId) state none
  | hold (connectionId : String) (client : γ) (present : state.table connectionId = some client) :
      Performs waits graceful state (.table connectionId) (state.setTable connectionId none)
        (some (if waits then .complete client else .transport client))
  | complete (client : γ) :
      Performs waits graceful state (.complete client)
        (state.change client fun context => { context with completed := true })
        (some (.check client))
  | missing (client : γ) (notStarted : (state.clients client).task = .notStarted) :
      Performs waits graceful state (.check client) state none
  | ended (client : γ) (ended : (state.clients client).task = .ended) :
      Performs waits graceful state (.check client) state (some (.transport client))
  | goesOn (client : γ) :
      Performs waits graceful state (.check client) state
        (some (if graceful then .wait client else .cancel client))
  | cancel (client : γ) :
      Performs waits graceful state (.cancel client)
        (state.change client Client.cancelPendingRead) (some (.wait client))
  | wait (client : γ) :
      Performs waits graceful state (.wait client)
        (state.change client fun context => { context with waiter := .waiting }) none
  | transport (client : γ) :
      Performs waits graceful state (.transport client)
        (state.change client Client.onDisconnected) none

omit [DecidableEq γ] in
/-- The receive loop behind a step of its `PerformDisconnectCore`. -/
def Receiver.behind (graceful : Bool) (cleaning : Option (Cleaning γ)) :
    Option (Disconnect γ) → Receiver γ
  | none => .returnTo cleaning
  | some disconnect => .disconnecting disconnect graceful cleaning

omit [DecidableEq γ] in
/-- The same for an application task. -/
def ApplicationTask.behind (closes : Bool) : Option (Disconnect γ) → ApplicationTask γ
  | none => if closes then .ended else .reading
  | some disconnect => .disconnecting disconnect closes

/-- A step. -/
inductive Change (state : State γ) : Action γ → State γ → Prop where
  | opens (client : γ) (idle : state.receiver = .idle) (new : client ∉ state.contexts) :
      Change state (.openConnection client)
        { state.goTo (.adding client) with contexts := state.contexts ++ [client] }
  | routes {action : Action γ} {receiver : Receiver γ}
      (route : Route ids state state.receiver receiver) : Change state action (state.goTo receiver)
  | registers (client : γ) (adding : state.receiver = .adding client)
      (unknown : state.manager (ids client) = none) :
      Change state .proceed ((state.setManager (ids client) (some client)).goTo (.listing client))
  | relists (client other : γ) (listing : state.receiver = .listing client)
      (listed : state.table (ids client) = some other) :
      Change state .proceed (state.goTo (.starting client))
  | lists (client : γ) (listing : state.receiver = .listing client)
      (unlisted : state.table (ids client) = none) :
      Change state .proceed ((state.setTable (ids client) (some client)).goTo (.starting client))
  | starts (client : γ) (starting : state.receiver = .starting client) :
      Change state .proceed
        ((state.run client .waiting).goTo (.forwarding (.openConnection client)))
  | writes (client : γ) (message : Message γ) (writing : state.receiver = .writing client message) :
      Change state .proceed
        ((state.change client fun context => context.write message).goTo .idle)
  | performs (disconnect : Disconnect γ) (graceful : Bool) (cleaning : Option (Cleaning γ))
      {next : State γ} {behind : Option (Disconnect γ)}
      (disconnecting : state.receiver = .disconnecting disconnect graceful cleaning)
      (performed : Performs true graceful state disconnect next behind) :
      Change state .proceed (next.goTo (.behind graceful cleaning behind))
  | turns (client : γ) {outcome : Outcome} {task : ApplicationTask γ}
      (turn : Turn ids (state.clients client) (state.clients client).task task) :
      Change state (.task client outcome) (state.run client task)
  | reads (client : γ) {outcome : Outcome} (message : Message γ) (channel : List (Message γ))
      (reading : (state.clients client).task = .reading)
      (isNext : (state.clients client).channel = message :: channel) :
      Change state (.task client outcome) (state.change client fun context => { context with
        channel := channel, taken := context.taken ++ [message], task := .checking message })
  | creates (client opened : γ) (creating : (state.clients client).task = .creating opened) :
      Change state (.task client .completes) (state.change client fun context => { context with
        transports := [] :: context.transports, task := .reading })
  | passes (client : γ) {outcome : Outcome} (payload : String)
      (passing : (state.clients client).task = .passing payload) :
      Change state (.task client outcome) (state.change client fun context => { context with
        transports := tell (eventOf payload) context.transports, task := .reading })
  | taskPerforms (client : γ) {outcome : Outcome} (disconnect : Disconnect γ) (closes : Bool)
      {next : State γ} {behind : Option (Disconnect γ)}
      (disconnecting : (state.clients client).task = .disconnecting disconnect closes)
      (performed : Performs false true state disconnect next behind) :
      Change state (.task client outcome) (next.run client (.behind closes behind))
  | awaits (client : γ) {timesOut : Bool} (waiting : (state.clients client).waiter = .waiting)
      (ended : (state.clients client).task = .ended) :
      Change state (.waiter client timesOut)
        (state.change client fun context => { context with waiter := .disconnecting })
  | timesOut (client : γ) (waiting : (state.clients client).waiter = .waiting) :
      Change state (.waiter client true)
        (state.change client fun context => { context with waiter := .cancelling })
  | cancels (client : γ) {timesOut : Bool}
      (cancelling : (state.clients client).waiter = .cancelling) :
      Change state (.waiter client timesOut)
        (state.change client fun context => { context.cancelPendingRead with
          waiter := .disconnecting })
  | tells (client : γ) {timesOut : Bool}
      (disconnecting : (state.clients client).waiter = .disconnecting) :
      Change state (.waiter client timesOut)
        (state.change client fun context => { context.onDisconnected with waiter := .returned })

end Changes

variable {ids : γ → String} {state next : State γ}

theorem performs_of_perform {waits graceful : Bool} {disconnect : Disconnect γ}
    {behind : Option (Disconnect γ)}
    (performed : perform state waits graceful disconnect = (next, behind)) :
    Performs waits graceful state disconnect next behind := by
  cases disconnect with
  | manager connectionId =>
      rw [perform] at performed
      cases found : state.manager connectionId with
      | none =>
          rw [found] at performed
          cases performed
          exact .unknown connectionId found
      | some client =>
          rw [found] at performed
          cases performed
          exact .leave connectionId client found
  | table connectionId =>
      rw [perform] at performed
      cases found : state.table connectionId with
      | none =>
          rw [found] at performed
          cases performed
          exact .unlisted connectionId found
      | some client =>
          rw [found] at performed
          cases performed
          exact .hold connectionId client found
  | complete client =>
      cases performed
      exact .complete client
  | check client =>
      rw [perform] at performed
      split at performed
      · cases performed
        exact .missing client (by assumption)
      · cases performed
        exact .ended client (by assumption)
      · cases performed
        exact .goesOn client
  | cancel client =>
      cases performed
      exact .cancel client
  | wait client =>
      cases performed
      exact .wait client
  | transport client =>
      cases performed
      exact .transport client

theorem change_of_proceed (stepped : proceed ids state = some next) :
    Change ids state .proceed next := by
  rw [proceed] at stepped
  split at stepped
  · cases stepped
  · cases stepped
  · rename_i client adding
    split at stepped
    · cases stepped
      exact .routes (adding ▸ .refuse client)
    · cases stepped
      exact .registers client adding (by assumption)
  · rename_i client listing
    split at stepped
    · cases stepped
      exact .relists client _ listing (by assumption)
    · cases stepped
      exact .lists client listing (by assumption)
  · cases stepped
    exact .starts _ (by assumption)
  · rename_i message forwarding
    split at stepped
    · cases stepped
      exact .routes (forwarding ▸ .miss message (by assumption))
    · cases stepped
      exact .routes (forwarding ▸ .find message _ (by assumption))
  · rename_i client message writing
    split_ifs at stepped with completed
    · cases stepped
      exact .routes (writing ▸ .reject client message completed)
    · cases stepped
      exact .writes client message writing
  · rename_i disconnect graceful cleaning disconnecting
    split at stepped
    · cases stepped
      exact .performs disconnect graceful cleaning disconnecting
        (performs_of_perform (by assumption))
    · cases stepped
      exact .performs disconnect graceful cleaning disconnecting
        (performs_of_perform (by assumption))
  · rename_i cleaning isCleaning
    by_cases done : cleaning.rest = []
    · rw [if_pos done] at stepped
      cases last : cleaning.last with
      | true =>
          rw [last] at stepped
          cases stepped
          exact .routes (isCleaning ▸ .finish cleaning done last)
      | false =>
          rw [last] at stepped
          cases stepped
          exact .routes (isCleaning ▸ .goBack cleaning done last)
    · rw [if_neg done] at stepped
      cases stepped

theorem change_of_visit {instances : γ → String} {client : γ}
    (stepped : visit ids instances state client = some next) :
    Change ids state (.visit client) next := by
  rw [visit] at stepped
  split at stepped
  · rename_i cleaning isCleaning
    by_cases member : client ∈ cleaning.rest
    · rw [if_pos member] at stepped
      by_cases isMatch : cleaning.instanceId = "" ∨ instances client = cleaning.instanceId
      · simp only [if_pos isMatch, Option.some.injEq] at stepped
        rw [← stepped]
        exact .routes (isCleaning ▸ .visit client cleaning member)
      · simp only [if_neg isMatch, Option.some.injEq] at stepped
        rw [← stepped]
        exact .routes (isCleaning ▸ .skip client cleaning member fun all => isMatch (.inl all))
    · rw [if_neg member] at stepped
      cases stepped
  · cases stepped

theorem change_of_task {client : γ} {outcome : Outcome}
    (stepped : task ids state client outcome = some next) :
    Change ids state (.task client outcome) next := by
  unfold task at stepped
  cases isTask : (state.clients client).task with
  | notStarted => simp only [isTask, reduceCtorEq] at stepped
  | ended => simp only [isTask, reduceCtorEq] at stepped
  | waiting =>
      simp only [isTask] at stepped
      cases outcome with
      | completes =>
          simp only at stepped
          split_ifs at stepped with written completed
          · cases stepped
            exact .turns client (isTask ▸ .wake)
          · cases stepped
            exact .turns client (isTask ▸ .stop (.inl completed))
      | cancelled =>
          simp only at stepped
          split_ifs at stepped with cancelled
          cases stepped
          exact .turns client (isTask ▸ .stop (.inr cancelled))
      | fails => cases stepped
  | reading =>
      simp only [isTask] at stepped
      cases channel : (state.clients client).channel with
      | nil =>
          rw [channel] at stepped
          cases stepped
          exact .turns client (isTask ▸ .rest)
      | cons message rest =>
          rw [channel] at stepped
          cases stepped
          exact .reads client message rest isTask channel
  | checking message =>
      simp only [isTask] at stepped
      split_ifs at stepped with cancelled
      · cases stepped
        exact .turns client (isTask ▸ .throws message cancelled)
      · have goesOn := Bool.eq_false_of_not_eq_true cancelled
        cases message with
        | openConnection opened =>
            cases stepped
            exact .turns client (isTask ▸ .opens opened goesOn)
        | closeConnection connectionId =>
            cases stepped
            exact .turns client (isTask ▸ .closes connectionId goesOn)
        | connectionData connectionId payload =>
            cases stepped
            exact .turns client (isTask ▸ .data connectionId payload goesOn)
  | creating opened =>
      simp only [isTask] at stepped
      cases outcome with
      | completes =>
          cases stepped
          exact .creates client opened isTask
      | fails =>
          cases stepped
          exact .turns client (isTask ▸ .fails opened)
      | cancelled => cases stepped
  | passing payload =>
      simp only [isTask] at stepped
      cases stepped
      exact .passes client payload isTask
  | disconnecting disconnect closes =>
      simp only [isTask] at stepped
      split at stepped
      · cases stepped
        exact .taskPerforms client disconnect closes isTask (performs_of_perform (by assumption))
      · cases stepped
        exact .taskPerforms client disconnect closes isTask (performs_of_perform (by assumption))

theorem change_of_waiter {client : γ} {timesOut : Bool}
    (stepped : waiter state client timesOut = some next) :
    Change ids state (.waiter client timesOut) next := by
  unfold waiter at stepped
  cases isWaiter : (state.clients client).waiter with
  | idle => simp only [isWaiter, reduceCtorEq] at stepped
  | returned => simp only [isWaiter, reduceCtorEq] at stepped
  | waiting =>
      simp only [isWaiter] at stepped
      split_ifs at stepped with ended late
      · cases stepped
        exact .awaits client isWaiter ended
      · cases stepped
        rw [late]
        exact .timesOut client isWaiter
  | cancelling =>
      simp only [isWaiter] at stepped
      cases stepped
      exact .cancels client isWaiter
  | disconnecting =>
      simp only [isWaiter] at stepped
      cases stepped
      exact .tells client isWaiter

/-- Every step is one of these. -/
theorem change_of_step {instances : γ → String} {action : Action γ}
    (stepped : step ids instances state action = some next) : Change ids state action next := by
  cases action with
  | openConnection client =>
      rw [step] at stepped
      split_ifs at stepped with guards
      cases stepped
      exact .opens client guards.1 guards.2
  | connectionData connectionId payload =>
      rw [step] at stepped
      split_ifs at stepped with idle
      cases stepped
      exact .routes (idle ▸ .receive _ nofun)
  | closeConnection connectionId =>
      rw [step] at stepped
      split_ifs at stepped with idle
      cases stepped
      exact .routes (idle ▸ .receive _ nofun)
  | offline instanceId =>
      rw [step] at stepped
      split_ifs at stepped with idle
      cases stepped
      exact .routes (idle ▸ .clean _ nofun rfl)
  | shutdown =>
      rw [step] at stepped
      split_ifs at stepped with idle
      cases stepped
      exact .routes (idle ▸ .clean _ (fun _ => rfl) rfl)
  | proceed => exact change_of_proceed stepped
  | visit client => exact change_of_visit stepped
  | task client outcome => exact change_of_task stepped
  | waiter client timesOut => exact change_of_waiter stepped

end AzureSignalR.AspNet
