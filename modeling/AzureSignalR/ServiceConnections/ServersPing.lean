import AzureSignalR.Library.Machine
import AzureSignalR.Library.Threads
import Mathlib.Data.Fintype.Basic
import Mathlib.Logic.Function.Basic

/-!
Contract: the servers-ping timers while endpoints are added to a multi-endpoint container.

Owns: `AddHubServiceEndpointAsync` with `StartGetServersPing` and `StopGetServersPing` over the
endpoint store, and `CustomizedPingTimer` of each container.

Does not own: what a ping says and who answers, or when the servers are stable. Endpoints are
added in parallel and none is removed; a run may fail anywhere outside `CustomizedPingTimer`,
whose own calls do not throw.
-/

set_option autoImplicit false

namespace AzureSignalR.ServiceConnections.ServersPing

open Library

/-- How far `Start` of one timer has got. -/
inductive Start (κ : Type) where
  /-- In front of the next container. -/
  | next
  /-- In front of `_timer = Init()`. -/
  | creating (container : κ)
  /-- In front of `_timer.Start()`. -/
  | launching (container : κ)
deriving DecidableEq, Repr

/-- How far `Stop` of one timer has got; all but the first are inside the lock. -/
inductive Stop (κ : Type) where
  | next
  /-- In front of `Interlocked.Read`. -/
  | reading (container : κ)
  | decrementing (container : κ)
  /-- In front of `Interlocked.Exchange` in `CleanupTimer`. -/
  | exchanging (container : κ)
  | cleaning (container : κ) (timer : Option Nat)
deriving DecidableEq, Repr

/-- How far a run of `AddHubServiceEndpointAsync` has got. -/
inductive Stage (κ : Type) where
  | idle
  /-- Up to `ConnectionInitializedTask`. -/
  | connecting
  /-- In front of `StartGetServersPing`. -/
  | added
  /-- In `StartGetServersPing`, with the endpoints it goes over. -/
  | starting (endpoints : List κ) (start : Start κ) (remaining : List κ)
  /-- In `WaitForServerStable`. -/
  | waiting (endpoints : List κ)
  /-- It has thrown before `StartGetServersPing`. -/
  | failed
  /-- It has thrown later. -/
  | aborted
  /-- In `StopGetServersPing`; `pinged` says whether it has come to `StartGetServersPing`. -/
  | stopping (pinged : Bool) (stop : Stop κ) (remaining : List κ)
  | completed
deriving DecidableEq, Repr

structure State (ι κ : Type) where
  /-- The containers of `_routerEndpoints.endpoints`. -/
  endpoints : List κ
  /-- `_counter` of each timer. -/
  counters : κ → Nat := fun _ => 0
  /-- `_timer`. -/
  timers : κ → Option Nat := fun _ => none
  locks : κ → Option ι := fun _ => none
  /-- How many timers there have been. -/
  created : Nat := 0
  running : Nat → Bool := fun _ => false
  runs : ι → Stage κ := fun _ => .idle
  /-- The containers that a run has counted itself in at and not out again; no step reads it. -/
  started : ι → List κ := fun _ => []

inductive Action (ι κ : Type) where
  /-- The endpoint needs no scaling: its container is there already. -/
  | add (container : κ)
  | call (run : ι)
  | resume (run : ι)
  | fail (run : ι)
deriving DecidableEq, Repr

variable {ι κ : Type} [DecidableEq ι] [DecidableEq κ]

namespace State

def goTo (state : State ι κ) (run : ι) (stage : Stage κ) : State ι κ :=
  { state with runs := Function.update state.runs run stage }

def lock (state : State ι κ) (container : κ) (owner : Option ι) : State ι κ :=
  { state with locks := Function.update state.locks container owner }

/-- `Interlocked.Increment(ref _counter)`. -/
def increment (state : State ι κ) (run : ι) (container : κ) : State ι κ :=
  { state with
    counters := Function.update state.counters container (state.counters container + 1)
    started := Function.update state.started run (state.started run ++ [container]) }

/-- `Interlocked.Decrement(ref _counter)`. -/
def decrement (state : State ι κ) (run : ι) (container : κ) : State ι κ :=
  { state with
    counters := Function.update state.counters container (state.counters container - 1)
    started := Function.update state.started run ((state.started run).erase container) }

/-- `_timer = Init()`. -/
def create (state : State ι κ) (container : κ) : State ι κ :=
  { state with
    timers := Function.update state.timers container (some state.created)
    created := state.created + 1 }

def takeTimer (state : State ι κ) (container : κ) : State ι κ :=
  { state with timers := Function.update state.timers container none }

def setRunning (state : State ι κ) (timer : Nat) (isRunning : Bool) : State ι κ :=
  { state with running := Function.update state.running timer isRunning }

end State

/-- The next step of a run in `StartGetServersPing`. -/
def resumeStart (state : State ι κ) (run : ι) (endpoints : List κ) :
    Start κ → List κ → State ι κ
  | .next, [] => state.goTo run (.waiting endpoints)
  | .next, container :: remaining =>
      let start := if state.counters container = 0 then .creating container else .next
      (state.increment run container).goTo run (.starting endpoints start remaining)
  | .creating container, remaining =>
      (state.create container).goTo run (.starting endpoints (.launching container) remaining)
  | .launching container, remaining =>
      match state.timers container with
      | none => state.goTo run .aborted
      | some timer =>
          (state.setRunning timer true).goTo run (.starting endpoints .next remaining)

/-- The next step of a run in `StopGetServersPing`. -/
def resumeStop (state : State ι κ) (run : ι) (pinged : Bool) :
    Stop κ → List κ → Option (State ι κ)
  | .next, [] => some (state.goTo run .completed)
  | .next, container :: remaining =>
      if state.locks container = none then
        some ((state.lock container (some run)).goTo run
          (.stopping pinged (.reading container) remaining))
      else none
  | .reading container, remaining =>
      if state.counters container = 0 then
        some ((state.lock container none).goTo run (.stopping pinged .next remaining))
      else some (state.goTo run (.stopping pinged (.decrementing container) remaining))
  | .decrementing container, remaining =>
      if state.counters container = 1 then
        some ((state.decrement run container).goTo run
          (.stopping pinged (.exchanging container) remaining))
      else
        some (((state.decrement run container).lock container none).goTo run
          (.stopping pinged .next remaining))
  | .exchanging container, remaining =>
      some ((state.takeTimer container).goTo run
        (.stopping pinged (.cleaning container (state.timers container)) remaining))
  | .cleaning container timer, remaining =>
      let stopped :=
        match timer with
        | none => state
        | some timer => state.setRunning timer false
      some ((stopped.lock container none).goTo run (.stopping pinged .next remaining))

/-- The next step of a run; `containers` gives what `_generator` makes for each. -/
def resume (containers : ι → κ) (state : State ι κ) (run : ι) : Option (State ι κ) :=
  match state.runs run with
  | .idle | .completed => none
  | .connecting =>
      some ({ state with endpoints := state.endpoints ++ [containers run] }.goTo run .added)
  | .added => some (state.goTo run (.starting state.endpoints .next state.endpoints))
  | .starting endpoints start remaining =>
      some (resumeStart state run endpoints start remaining)
  | .waiting _ | .aborted => some (state.goTo run (.stopping true .next state.endpoints))
  | .failed => some (state.goTo run (.stopping false .next state.endpoints))
  | .stopping pinged stop remaining => resumeStop state run pinged stop remaining

def step (containers : ι → κ) (state : State ι κ) : Action ι κ → Option (State ι κ)
  | .add container => some { state with endpoints := state.endpoints ++ [container] }
  | .call run => if state.runs run = .idle then some (state.goTo run .connecting) else none
  | .resume run => resume containers state run
  | .fail run =>
      match state.runs run with
      | .connecting | .added => some (state.goTo run .failed)
      | .starting _ .next _ | .waiting _ => some (state.goTo run .aborted)
      | _ => none

def initial (endpoints : List κ) : State ι κ := { endpoints := endpoints }

/-! ## Roles -/

/-- What a run is doing to the timer of a container while others may see it. -/
inductive Role where
  | creating
  | launching
  | exchanging
deriving DecidableEq, Repr

namespace Stage

def role (container : κ) : Stage κ → Option Role
  | .starting _ (.creating other) _ => if other = container then some .creating else none
  | .starting _ (.launching other) _ => if other = container then some .launching else none
  | .stopping _ (.exchanging other) _ => if other = container then some .exchanging else none
  | _ => none

/-- The timer that `CleanupTimer` has taken. -/
def taken : Stage κ → Option Nat
  | .stopping _ (.cleaning _ timer) _ => timer
  | _ => none

/-- The container inside whose lock the run is. -/
def locking : Stage κ → Option κ
  | .stopping _ (.reading container) _ | .stopping _ (.decrementing container) _
  | .stopping _ (.exchanging container) _ | .stopping _ (.cleaning container _) _ => some container
  | _ => none

/-- Between the start of `StartGetServersPing` and the end of `StopGetServersPing`. -/
def isPinging : Stage κ → Bool
  | .starting _ _ _ | .waiting _ | .aborted => true
  | .stopping pinged _ _ => pinged
  | _ => false

end Stage

/-- A run counts itself out only where it has counted itself in; a timer is created only when
`_timer` is free; and when a run has gone over the store, no other run is still starting one of
these timers. -/
def Permits (state : State ι κ) (run : ι) : Stage κ → Prop
  | .starting endpoints .next [] =>
      ∀ other, ∀ container ∈ endpoints, (state.runs other).role container ≠ some .creating ∧
        (state.runs other).role container ≠ some .launching
  | .starting _ (.creating container) _ => state.timers container = none
  | .stopping _ (.decrementing container) _ => container ∈ state.started run
  | _ => True

def Balanced (state : State ι κ) : Action ι κ → Prop
  | .resume run => Permits state run (state.runs run)
  | _ => True

/-- While a run is between its `StartGetServersPing` and its `StopGetServersPing`, the timers of
the endpoints it has found in the store are running; and without such a run none is. -/
def PingsServers (state : State ι κ) : Prop :=
  (∀ run endpoints, state.runs run = .waiting endpoints → ∀ container ∈ endpoints,
    ∃ timer, state.timers container = some timer ∧ state.running timer = true) ∧
  ((∀ run, (state.runs run).isPinging = false) → ∀ timer, state.running timer = false)

/-! ## The phases of a timer -/

/-- Where a timer is between two counts of zero. -/
inductive Phase (counter : Nat) (timer? : Option Nat) (running : Nat → Bool)
    (roles : ι → Option Role) : Prop where
  | quiet (zero : counter = 0) (absent : timer? = none) (none : ∀ run, roles run = none)
  | creating (run : ι) (positive : 0 < counter) (absent : timer? = none)
      (role : roles run = some .creating) (only : ∀ other, other ≠ run → roles other = none)
  | launching (run : ι) (timer : Nat) (positive : 0 < counter) (present : timer? = some timer)
      (role : roles run = some .launching) (only : ∀ other, other ≠ run → roles other = none)
  | pinging (timer : Nat) (positive : 0 < counter) (present : timer? = some timer)
      (isRunning : running timer = true) (none : ∀ run, roles run = none)
  | ending (run : ι) (timer : Nat) (zero : counter = 0) (present : timer? = some timer)
      (isRunning : running timer = true) (role : roles run = some .exchanging)
      (only : ∀ other, other ≠ run → roles other = none)
  /-- The counter has grown again before `CleanupTimer` has taken the timer. -/
  | reopening (run creator : ι) (timer : Nat) (positive : 0 < counter)
      (present : timer? = some timer) (isRunning : running timer = true)
      (role : roles run = some .exchanging) (creates : roles creator = some .creating)
      (only : ∀ other, other ≠ run → other ≠ creator → roles other = none)

namespace Phase

variable {counter more : Nat} {timer? : Option Nat} {running later : Nat → Bool}
  {roles next : ι → Option Role} {run : ι}

omit [DecidableEq ι] in
theorem of_running (phase : Phase counter timer? running roles)
    (keeps : ∀ timer, timer? = some timer → running timer = true → later timer = true) :
    Phase counter timer? later roles := by
  cases phase with
  | quiet zero absent none => exact .quiet zero absent none
  | creating run positive absent role only => exact .creating run positive absent role only
  | launching run timer positive present role only =>
      exact .launching run timer positive present role only
  | pinging timer positive present isRunning none =>
      exact .pinging timer positive present (keeps timer present isRunning) none
  | ending run timer zero present isRunning role only =>
      exact .ending run timer zero present (keeps timer present isRunning) role only
  | reopening run creator timer positive present isRunning role creates only =>
      exact .reopening run creator timer positive present (keeps timer present isRunning) role
        creates only

omit [DecidableEq ι] in
/-- The counter changes and stays positive. -/
theorem of_positive (phase : Phase counter timer? running roles) (before : 0 < counter)
    (after : 0 < more) : Phase more timer? running roles := by
  cases phase with
  | quiet zero absent none => omega
  | creating run positive absent role only => exact .creating run after absent role only
  | launching run timer positive present role only =>
      exact .launching run timer after present role only
  | pinging timer positive present isRunning none =>
      exact .pinging timer after present isRunning none
  | ending run timer zero present isRunning role only => omega
  | reopening run creator timer positive present isRunning role creates only =>
      exact .reopening run creator timer after present isRunning role creates only

/-- The first `Start` of a timer. -/
theorem start (phase : Phase 0 timer? running roles) (idle : roles run = none) :
    Phase 1 timer? running (Function.update roles run (some .creating)) := by
  cases phase with
  | quiet zero absent none =>
      refine .creating run Nat.one_pos absent (Function.update_self ..) ?_
      intro other differs
      rw [Function.update_of_ne differs, none]
  | creating run positive absent role only => omega
  | launching run timer positive present role only => omega
  | pinging timer positive present isRunning none => omega
  | ending exchanger timer zero present isRunning role only =>
      have differs : exchanger ≠ run := by
        rintro rfl
        rw [idle] at role
        cases role
      refine .reopening exchanger run timer Nat.one_pos present isRunning ?_
        (Function.update_self ..) ?_
      · rw [Function.update_of_ne differs, role]
      · intro other notExchanger notRun
        rw [Function.update_of_ne notRun, only other notExchanger]
  | reopening run creator timer positive present isRunning role creates only => omega

theorem create (phase : Phase counter none running roles) (creates : roles run = some .creating)
    (timer : Nat) :
    Phase counter (some timer) running (Function.update roles run (some .launching)) := by
  cases phase with
  | quiet zero absent none =>
      rw [none] at creates
      cases creates
  | creating creator positive absent role only =>
      obtain rfl : run = creator := by
        by_contra differs
        rw [only run differs] at creates
        cases creates
      refine .launching run timer positive rfl (Function.update_self ..) ?_
      intro other differs
      rw [Function.update_of_ne differs, only other differs]
  | launching run timer positive present role only => cases present
  | pinging timer positive present isRunning none => cases present
  | ending run timer zero present isRunning role only => cases present
  | reopening run creator timer positive present isRunning role creates only => cases present

theorem launch {timer : Nat} (phase : Phase counter (some timer) running roles)
    (launches : roles run = some .launching) :
    Phase counter (some timer) (Function.update running timer true)
      (Function.update roles run none) := by
  have others : ∀ launcher, (∀ other, other ≠ launcher → roles other = none) → run = launcher := by
    intro launcher only
    by_contra differs
    rw [only run differs] at launches
    cases launches
  cases phase with
  | quiet zero absent none => cases absent
  | creating creator positive absent role only => cases absent
  | launching launcher other positive present role only =>
      obtain rfl := others launcher only
      cases present
      refine .pinging timer positive rfl (Function.update_self ..) ?_
      intro other
      by_cases isRun : other = run
      · rw [isRun, Function.update_self]
      · rw [Function.update_of_ne isRun, only other isRun]
  | pinging other positive present isRunning none =>
      rw [none] at launches
      cases launches
  | ending exchanger other zero present isRunning role only =>
      obtain rfl := others exchanger only
      rw [role] at launches
      cases launches
  | reopening exchanger creator other positive present isRunning role creates only =>
      by_cases isExchanger : run = exchanger
      · rw [isExchanger, role] at launches
        cases launches
      · by_cases isCreator : run = creator
        · rw [isCreator, creates] at launches
          cases launches
        · rw [only run isExchanger isCreator] at launches
          cases launches

omit [DecidableEq ι] in
/-- Somebody counts on the timer and nobody is starting it. -/
theorem pings (phase : Phase counter timer? running roles) (positive : 0 < counter)
    (settled : ∀ other, roles other ≠ some .creating ∧ roles other ≠ some .launching) :
    (∃ timer, timer? = some timer ∧ running timer = true) ∧ ∀ other, roles other = none := by
  cases phase with
  | quiet zero absent none => omega
  | creating creator positive absent role only => exact absurd role (settled creator).1
  | launching launcher timer positive present role only => exact absurd role (settled launcher).2
  | pinging timer positive present isRunning none => exact ⟨⟨timer, present, isRunning⟩, none⟩
  | ending run timer zero present isRunning role only => omega
  | reopening run creator timer positive present isRunning role creates only =>
      exact absurd creates (settled creator).1

omit [DecidableEq ι] in
theorem timer_eq_none (phase : Phase counter timer? running roles) (zero : counter = 0)
    (nobody : ∀ run, roles run = none) : timer? = none := by
  cases phase with
  | quiet _ absent _ => exact absent
  | creating _ positive _ _ _ => omega
  | launching _ _ positive _ _ _ => omega
  | pinging _ positive _ _ _ => omega
  | ending run _ _ _ _ role _ =>
      rw [nobody] at role
      cases role
  | reopening _ _ _ positive _ _ _ _ _ => omega

/-- A timer that is being started is there. -/
theorem exists_timer (phase : Phase counter timer? running roles)
    (launches : roles run = some .launching) : ∃ timer, timer? = some timer := by
  cases phase with
  | quiet zero absent none =>
      rw [none] at launches
      cases launches
  | creating creator positive absent role only =>
      obtain rfl : run = creator := by
        by_contra differs
        rw [only run differs] at launches
        cases launches
      rw [role] at launches
      cases launches
  | launching launcher timer positive present role only => exact ⟨timer, present⟩
  | pinging timer positive present isRunning none => exact ⟨timer, present⟩
  | ending exchanger timer zero present isRunning role only => exact ⟨timer, present⟩
  | reopening exchanger creator timer positive present isRunning role creates only =>
      exact ⟨timer, present⟩

/-- The last `Stop`. -/
theorem stop (phase : Phase counter timer? running roles) (positive : 0 < counter)
    (settled : ∀ other, roles other ≠ some .creating ∧ roles other ≠ some .launching) :
    Phase 0 timer? running (Function.update roles run (some .exchanging)) := by
  obtain ⟨⟨timer, present, isRunning⟩, none⟩ := phase.pings positive settled
  refine .ending run timer rfl present isRunning (Function.update_self ..) ?_
  intro other differs
  rw [Function.update_of_ne differs, none]

theorem exchange (phase : Phase counter timer? running roles)
    (exchanges : roles run = some .exchanging) :
    Phase counter none running (Function.update roles run none) := by
  have others : ∀ other, (∀ another, another ≠ other → roles another = none) → run = other := by
    intro other only
    by_contra differs
    rw [only run differs] at exchanges
    cases exchanges
  cases phase with
  | quiet zero absent none =>
      rw [none] at exchanges
      cases exchanges
  | creating creator positive absent role only =>
      obtain rfl := others creator only
      rw [role] at exchanges
      cases exchanges
  | launching launcher timer positive present role only =>
      obtain rfl := others launcher only
      rw [role] at exchanges
      cases exchanges
  | pinging timer positive present isRunning none =>
      rw [none] at exchanges
      cases exchanges
  | ending exchanger timer zero present isRunning role only =>
      obtain rfl := others exchanger only
      refine .quiet zero rfl ?_
      intro other
      by_cases isRun : other = run
      · rw [isRun, Function.update_self]
      · rw [Function.update_of_ne isRun, only other isRun]
  | reopening exchanger creator timer positive present isRunning role creates only =>
      have differs : creator ≠ run := by
        rintro rfl
        rw [creates] at exchanges
        cases exchanges
      obtain rfl : run = exchanger := by
        by_contra notExchanger
        rw [only run notExchanger differs.symm] at exchanges
        cases exchanges
      refine .creating creator positive rfl ?_ ?_
      · rw [Function.update_of_ne differs, creates]
      · intro other notCreator
        by_cases isRun : other = run
        · rw [isRun, Function.update_self]
        · rw [Function.update_of_ne isRun, only other isRun notCreator]

end Phase

/-! ## The timers -/

/-- Every timer that runs is the timer of one container, or has been taken to be stopped. -/
structure Accounted (timers : κ → Option Nat) (created : Nat) (running : Nat → Bool)
    (takens : ι → Option Nat) : Prop where
  injective : ∀ {one other timer}, timers one = some timer → timers other = some timer →
    one = other
  distinct : ∀ {run timer}, takens run = some timer → ∀ container, timers container ≠ some timer
  bounded : ∀ {container timer}, timers container = some timer → timer < created
  takenBounded : ∀ {run timer}, takens run = some timer → timer < created
  accounted : ∀ {timer}, running timer = true →
    (∃ container, timers container = some timer) ∨ ∃ run, takens run = some timer

namespace Accounted

variable {timers : κ → Option Nat} {created : Nat} {running : Nat → Bool}
  {takens : ι → Option Nat} {container : κ} {run : ι}

omit [DecidableEq ι] in
theorem create (accounted : Accounted timers created running takens)
    (absent : timers container = none) :
    Accounted (Function.update timers container (some created)) (created + 1) running takens := by
  have elsewhere : ∀ {other timer},
      Function.update timers container (some created) other = some timer →
      (other = container ∧ timer = created) ∨
        (other ≠ container ∧ timers other = some timer) := by
    intro other timer present
    by_cases isHere : other = container
    · rw [isHere, Function.update_self] at present
      exact .inl ⟨isHere, (Option.some.inj present).symm⟩
    · rw [Function.update_of_ne isHere] at present
      exact .inr ⟨isHere, present⟩
  refine ⟨?_, ?_, ?_, ?_, ?_⟩
  · intro one other timer first second
    rcases elsewhere first with ⟨isOne, isNew⟩ | ⟨-, wasFirst⟩
    · rcases elsewhere second with ⟨isOther, -⟩ | ⟨-, wasSecond⟩
      · rw [isOne, isOther]
      · exact absurd (accounted.bounded wasSecond) (by omega)
    · rcases elsewhere second with ⟨-, isNew⟩ | ⟨-, wasSecond⟩
      · exact absurd (accounted.bounded wasFirst) (by omega)
      · exact accounted.injective wasFirst wasSecond
  · intro run timer taken other present
    rcases elsewhere present with ⟨-, rfl⟩ | ⟨-, present⟩
    · exact absurd (accounted.takenBounded taken) (Nat.lt_irrefl _)
    · exact accounted.distinct taken other present
  · intro other timer present
    rcases elsewhere present with ⟨-, rfl⟩ | ⟨-, present⟩
    · exact Nat.lt_succ_self _
    · exact Nat.lt_succ_of_lt (accounted.bounded present)
  · intro run timer taken
    exact Nat.lt_succ_of_lt (accounted.takenBounded taken)
  · intro timer isRunning
    rcases accounted.accounted isRunning with ⟨other, present⟩ | taken
    · refine .inl ⟨other, ?_⟩
      rw [Function.update_of_ne ?_]
      · exact present
      · rintro rfl
        rw [absent] at present
        cases present
    · exact .inr taken

omit [DecidableEq ι] [DecidableEq κ] in
theorem launch (accounted : Accounted timers created running takens) {timer : Nat}
    (present : timers container = some timer) :
    Accounted timers created (Function.update running timer true) takens := by
  refine ⟨accounted.injective, accounted.distinct, accounted.bounded, accounted.takenBounded, ?_⟩
  intro other isRunning
  by_cases isTimer : other = timer
  · rw [isTimer]
    exact .inl ⟨container, present⟩
  · rw [Function.update_of_ne isTimer] at isRunning
    exact accounted.accounted isRunning

theorem exchange (accounted : Accounted timers created running takens)
    (free : takens run = none) :
    Accounted (Function.update timers container none) created running
      (Function.update takens run (timers container)) := by
  have remains : ∀ {other timer}, Function.update timers container none other = some timer →
      other ≠ container ∧ timers other = some timer := by
    intro other timer present
    by_cases isHere : other = container
    · rw [isHere, Function.update_self] at present
      cases present
    · rw [Function.update_of_ne isHere] at present
      exact ⟨isHere, present⟩
  have takes : ∀ {other timer}, Function.update takens run (timers container) other = some timer →
      timers container = some timer ∨ takens other = some timer := by
    intro other timer taken
    by_cases isRun : other = run
    · rw [isRun, Function.update_self] at taken
      exact .inl taken
    · rw [Function.update_of_ne isRun] at taken
      exact .inr taken
  refine ⟨?_, ?_, ?_, ?_, ?_⟩
  · intro one other timer first second
    exact accounted.injective (remains first).2 (remains second).2
  · intro other timer taken another present
    obtain ⟨isElsewhere, present⟩ := remains present
    rcases takes taken with here | taken
    · exact isElsewhere (accounted.injective present here)
    · exact accounted.distinct taken another present
  · intro other timer present
    exact accounted.bounded (remains present).2
  · intro other timer taken
    rcases takes taken with here | taken
    · exact accounted.bounded here
    · exact accounted.takenBounded taken
  · intro timer isRunning
    rcases accounted.accounted isRunning with ⟨other, present⟩ | ⟨other, taken⟩
    · by_cases isHere : other = container
      · refine .inr ⟨run, ?_⟩
        rw [Function.update_self, ← isHere, present]
      · exact .inl ⟨other, by rw [Function.update_of_ne isHere, present]⟩
    · refine .inr ⟨other, ?_⟩
      rw [Function.update_of_ne ?_]
      · exact taken
      · rintro rfl
        rw [free] at taken
        cases taken

omit [DecidableEq κ] in
/-- The timer that has been taken is stopped. -/
theorem clean (accounted : Accounted timers created running takens) {timer? : Option Nat}
    (taken : takens run = timer?) {later : Nat → Bool}
    (stopped : ∀ timer, later timer = true → running timer = true ∧ timer? ≠ some timer) :
    Accounted timers created later (Function.update takens run none) := by
  have remains : ∀ {other timer}, Function.update takens run none other = some timer →
      takens other = some timer := by
    intro other timer stillTaken
    by_cases isRun : other = run
    · rw [isRun, Function.update_self] at stillTaken
      cases stillTaken
    · rw [Function.update_of_ne isRun] at stillTaken
      exact stillTaken
  refine ⟨accounted.injective, fun stillTaken => accounted.distinct (remains stillTaken),
    accounted.bounded, fun stillTaken => accounted.takenBounded (remains stillTaken), ?_⟩
  intro timer isRunning
  obtain ⟨wasRunning, notTaken⟩ := stopped timer isRunning
  rcases accounted.accounted wasRunning with present | ⟨other, alsoTaken⟩
  · exact .inl present
  · refine .inr ⟨other, ?_⟩
    rw [Function.update_of_ne ?_]
    · exact alsoTaken
    · rintro rfl
      rw [taken] at alsoTaken
      exact notTaken alsoTaken

end Accounted

/-! ## Where a run is -/

/-- The containers whose counter the run has still to look at. -/
def Stop.left : Stop κ → List κ → List κ
  | .reading container, remaining | .decrementing container, remaining => container :: remaining
  | _, remaining => remaining

/-- What a run has counted itself in at fits to where it is. -/
def Fits (endpoints : List κ) (counters : κ → Nat) (started : List κ) : Stage κ → Prop
  | .idle | .connecting | .added | .failed | .completed => started = []
  | .starting store start remaining =>
      started ++ remaining = store ∧ store <+: endpoints ∧
        ∀ container, start = .creating container ∨ start = .launching container →
          container ∈ started
  | .waiting store => started = store ∧ store <+: endpoints
  | .aborted => started <+: endpoints
  | .stopping pinged stop remaining =>
      (pinged = false → started = [] ∧ (∀ container, stop ≠ .exchanging container) ∧
        ∀ container timer, stop ≠ .cleaning container timer) ∧
      (∀ container, started.count container ≤ (stop.left remaining).count container) ∧
      ∀ container, stop = .decrementing container → 0 < counters container

theorem Fits.mono {endpoints more : List κ} {counters later : κ → Nat} {started : List κ}
    {stage : Stage κ} (fits : Fits endpoints counters started stage) (grows : endpoints <+: more)
    (keeps : ∀ container, stage.locking = some container → 0 < counters container →
      0 < later container) : Fits more later started stage := by
  cases stage with
  | idle => exact fits
  | connecting => exact fits
  | added => exact fits
  | failed => exact fits
  | completed => exact fits
  | starting store start remaining => exact ⟨fits.1, fits.2.1.trans grows, fits.2.2⟩
  | waiting store => exact ⟨fits.1, fits.2.trans grows⟩
  | aborted => exact List.IsPrefix.trans fits grows
  | stopping pinged stop remaining =>
      refine ⟨fits.1, fits.2.1, ?_⟩
      rintro container rfl
      exact keeps container rfl (fits.2.2 container rfl)

/-- Two runs are not inside one lock. -/
def Locked (locks : κ → Option ι) (runs : ι → Stage κ) : Prop :=
  ∀ run container, (runs run).locking = some container → locks container = some run

namespace Locked

variable {locks : κ → Option ι} {runs : ι → Stage κ} {run : ι} {stage : Stage κ} {container : κ}

omit [DecidableEq κ] in
theorem keep (locked : Locked locks runs) {before : Stage κ} (isBefore : runs run = before)
    (same : stage.locking = before.locking) :
    Locked locks (Function.update runs run stage) := by
  intro other inside isInside
  by_cases isRun : other = run
  · rw [isRun] at isInside ⊢
    rw [Function.update_self, same, ← isBefore] at isInside
    exact locked _ _ isInside
  · rw [Function.update_of_ne isRun] at isInside
    exact locked _ _ isInside

theorem acquire (locked : Locked locks runs) (free : locks container = none)
    (inside : stage.locking = some container) :
    Locked (Function.update locks container (some run)) (Function.update runs run stage) := by
  intro other another isInside
  by_cases isRun : other = run
  · rw [isRun] at isInside ⊢
    rw [Function.update_self, inside] at isInside
    cases isInside
    rw [Function.update_self]
  · rw [Function.update_of_ne isRun] at isInside
    have taken := locked _ _ isInside
    rw [Function.update_of_ne ?_]
    · exact taken
    · rintro rfl
      rw [free] at taken
      cases taken

theorem release (locked : Locked locks runs) {before : Stage κ} (isBefore : runs run = before)
    (wasInside : before.locking = some container) (outside : stage.locking = none) :
    Locked (Function.update locks container none) (Function.update runs run stage) := by
  intro other another isInside
  by_cases isRun : other = run
  · rw [isRun, Function.update_self, outside] at isInside
    cases isInside
  · rw [Function.update_of_ne isRun] at isInside
    have taken := locked _ _ isInside
    rw [Function.update_of_ne ?_]
    · exact taken
    · rintro rfl
      rw [← isBefore] at wasInside
      rw [locked _ _ wasInside] at taken
      exact isRun (Option.some.inj taken).symm

end Locked

/-! ## The invariant -/

def State.roles (state : State ι κ) (container : κ) : ι → Option Role :=
  fun run => (state.runs run).role container

def State.takens (state : State ι κ) : ι → Option Nat := fun run => (state.runs run).taken

omit [DecidableEq ι] [DecidableEq κ] in
@[simp] theorem State.takens_apply (state : State ι κ) (run : ι) :
    state.takens run = (state.runs run).taken :=
  rfl

omit [DecidableEq ι] in
@[simp] theorem State.roles_apply (state : State ι κ) (container : κ) (run : ι) :
    state.roles container run = (state.runs run).role container :=
  rfl

theorem roles_goTo (state : State ι κ) (run : ι) (stage : Stage κ) (container : κ) :
    (state.goTo run stage).roles container =
      Function.update (state.roles container) run (stage.role container) :=
  Function.comp_update (Stage.role container) state.runs run stage

omit [DecidableEq κ] in
theorem takens_goTo (state : State ι κ) (run : ι) (stage : Stage κ) :
    (state.goTo run stage).takens = Function.update state.takens run stage.taken :=
  Function.comp_update Stage.taken state.runs run stage

theorem roles_update_none {state : State ι κ} {container : κ} {run : ι}
    (noRole : state.roles container run = none) :
    Function.update (state.roles container) run none = state.roles container :=
  Function.update_eq_self_iff.mpr noRole.symm

omit [DecidableEq κ] in
theorem takens_update_none {state : State ι κ} {run : ι} (nothing : state.takens run = none) :
    Function.update state.takens run none = state.takens :=
  Function.update_eq_self_iff.mpr nothing.symm

/-- Nobody is starting the timer. -/
def State.Settled (state : State ι κ) (container : κ) : Prop :=
  ∀ run, state.roles container run ≠ some .creating ∧
    state.roles container run ≠ some .launching

structure Sound (state : State ι κ) : Prop where
  tallies : ∀ container, Threads.Tallies (state.counters container) fun run =>
    (state.started run).count container
  phases : ∀ container, Phase (state.counters container) (state.timers container) state.running
    (state.roles container)
  accounted : Accounted state.timers state.created state.running state.takens
  locked : Locked state.locks state.runs
  fits : ∀ run, Fits state.endpoints state.counters (state.started run) (state.runs run)
  settled : ∀ {run endpoints}, state.runs run = .waiting endpoints →
    ∀ container ∈ endpoints, state.Settled container

theorem sound_initial (endpoints : List κ) : Sound (initial endpoints : State ι κ) where
  tallies _ := Threads.tallies_zero
  phases _ := .quiet rfl rfl fun _ => rfl
  accounted :=
    { injective := by nofun
      distinct := by nofun
      bounded := by nofun
      takenBounded := by nofun
      accounted := by nofun }
  locked := by nofun
  fits _ := rfl
  settled := by nofun

/-- The run is starting the timer. -/
def Stage.Starts (stage : Stage κ) (container : κ) : Prop :=
  stage.role container = some .creating ∨ stage.role container = some .launching

theorem Stage.Starts.exists_start {stage : Stage κ} {container : κ}
    (starts : stage.Starts container) : ∃ store start remaining,
      stage = .starting store start remaining ∧
        (start = .creating container ∨ start = .launching container) := by
  unfold Stage.Starts at starts
  unfold Stage.role at starts
  split at starts
  next store other remaining =>
    split at starts
    next isHere => exact ⟨store, _, remaining, rfl, .inl (by rw [isHere])⟩
    next => simp at starts
  next store other remaining =>
    split at starts
    next isHere => exact ⟨store, _, remaining, rfl, .inr (by rw [isHere])⟩
    next => simp at starts
  next => split at starts <;> simp at starts
  next => simp at starts

namespace Sound

variable {state : State ι κ} {run : ι} {stage : Stage κ}

theorem counter_pos (sound : Sound state) {container : κ} (holds : container ∈ state.started run) :
    0 < state.counters container :=
  Nat.lt_of_lt_of_le (List.count_pos_iff.mpr holds) ((sound.tallies container).share_le run)

theorem holds_of_starts (sound : Sound state) {container : κ}
    (starts : (state.runs run).Starts container) : container ∈ state.started run := by
  have fits := sound.fits run
  obtain ⟨store, start, remaining, isStarting, isHere⟩ := starts.exists_start
  rw [isStarting] at fits
  exact fits.2.2 container isHere

theorem fits_goTo (sound : Sound state) {endpoints : List κ} {counters : κ → Nat}
    {started : ι → List κ} (grows : state.endpoints <+: endpoints)
    (here : Fits endpoints counters (started run) stage)
    (elsewhere : ∀ other, other ≠ run → started other = state.started other)
    (keeps : ∀ other, other ≠ run → ∀ container,
      (state.runs other).locking = some container → 0 < state.counters container →
        0 < counters container) (other : ι) :
    Fits endpoints counters (started other) (Function.update state.runs run stage other) := by
  by_cases isRun : other = run
  · rw [isRun, Function.update_self]
    exact here
  · rw [Function.update_of_ne isRun, elsewhere other isRun]
    exact (sound.fits other).mono grows (keeps other isRun)

/-- A run that waits finds its timers started. -/
theorem settled_goTo (sound : Sound state)
    (waits : ∀ endpoints, stage = .waiting endpoints →
      ∀ container ∈ endpoints, state.Settled container)
    (starts : ∀ container, stage.Starts container →
      (state.runs run).Starts container ∨ state.counters container = 0)
    {other : ι} {endpoints : List κ}
    (isWaiting : Function.update state.runs run stage other = .waiting endpoints) (container : κ)
    (member : container ∈ endpoints) : (state.goTo run stage).Settled container := by
  have counted : state.Settled container ∧
      (state.counters container = 0 → ¬ stage.Starts container) := by
    by_cases isRun : other = run
    · rw [isRun, Function.update_self] at isWaiting
      refine ⟨waits endpoints isWaiting container member, ?_⟩
      rw [isWaiting]
      rintro - (role | role) <;> cases role
    · rw [Function.update_of_ne isRun] at isWaiting
      have fits := sound.fits other
      rw [isWaiting] at fits
      have positive := sound.counter_pos (by rw [fits.1]; exact member : container ∈ _)
      exact ⟨sound.settled isWaiting container member, fun zero => by omega⟩
  have notStarting : ¬ stage.Starts container := by
    intro isStarting
    rcases starts container isStarting with before | zero
    · exact before.elim (counted.1 run).1 (counted.1 run).2
    · exact counted.2 zero isStarting
  intro another
  rw [roles_goTo]
  by_cases isRun : another = run
  · rw [isRun, Function.update_self]
    exact ⟨fun role => notStarting (.inl role), fun role => notStarting (.inr role)⟩
  · rw [Function.update_of_ne isRun]
    exact counted.1 another

/-- A step that leaves the timers alone. -/
theorem move (sound : Sound state) {before : Stage κ} (isBefore : state.runs run = before)
    {endpoints : List κ} {locks : κ → Option ι} (grows : state.endpoints <+: endpoints)
    (roles : ∀ container, stage.role container = before.role container)
    (taken : stage.taken = before.taken)
    (locked : Locked locks (Function.update state.runs run stage))
    (fits : Fits endpoints state.counters (state.started run) stage)
    (waits : ∀ store, stage = .waiting store → ∀ container ∈ store, state.Settled container) :
    Sound ({ state with endpoints := endpoints, locks := locks }.goTo run stage) where
  tallies := sound.tallies
  phases container := by
    rw [roles_goTo, roles, ← isBefore]
    change Phase _ _ _ (Function.update (state.roles container) run (state.roles container run))
    rw [Function.update_eq_self]
    exact sound.phases container
  accounted := by
    rw [takens_goTo, taken, ← isBefore]
    change Accounted _ _ _ (Function.update state.takens run (state.takens run))
    rw [Function.update_eq_self]
    exact sound.accounted
  locked := locked
  fits := sound.fits_goTo grows fits (fun _ _ => rfl) fun _ _ _ _ positive => positive
  settled := by
    refine sound.settled_goTo waits ?_
    intro container isStarting
    unfold Stage.Starts at isStarting
    rw [roles, ← isBefore] at isStarting
    exact .inl isStarting

theorem count_started (started : ι → List κ) (run : ι) (list : List κ) (container : κ) :
    (fun other => (Function.update started run list other).count container) =
      Function.update (fun other => (started other).count container) run
        (list.count container) :=
  Function.comp_update (fun list : List κ => list.count container) started run list

variable {store remaining : List κ} {container : κ}

theorem increment (sound : Sound state)
    (isStarting : state.runs run = .starting store .next (container :: remaining)) :
    Sound ((state.increment run container).goTo run (.starting store
      (if state.counters container = 0 then .creating container else .next) remaining)) := by
  obtain ⟨whole, isPrefix, -⟩ : Fits _ _ _ (.starting store .next (container :: remaining)) :=
    isStarting ▸ sound.fits run
  have noRole : ∀ other, state.roles other run = none := by
    intro other
    rw [State.roles_apply, isStarting]
    rfl
  refine ⟨?_, ?_, ?_, ?_, ?_, ?_⟩
  · intro other
    change Threads.Tallies (Function.update state.counters container _ other) fun holder =>
      (Function.update state.started run _ holder).count other
    rw [count_started, List.count_append]
    by_cases isHere : other = container
    · rw [isHere, Function.update_self, List.count_singleton_self]
      exact (sound.tallies container).increment run
    · rw [Function.update_of_ne isHere, List.count_singleton,
        if_neg (by simpa using Ne.symm isHere),
        Nat.add_zero, Function.update_eq_self]
      exact sound.tallies other
  · intro other
    rw [roles_goTo]
    change Phase (Function.update state.counters container _ other) _ _
      (Function.update (state.roles other) run _)
    by_cases isHere : other = container
    · subst isHere
      rw [Function.update_self]
      by_cases zero : state.counters other = 0
      · rw [if_pos zero, Stage.role, if_pos rfl, zero]
        exact (zero ▸ sound.phases other).start (noRole other)
      · rw [if_neg zero]
        change Phase _ _ _ (Function.update (state.roles other) run none)
        rw [roles_update_none (noRole other)]
        exact (sound.phases other).of_positive (Nat.pos_of_ne_zero zero) (Nat.succ_pos _)
    · rw [Function.update_of_ne isHere]
      have stillNone : Stage.role other (.starting store
          (if state.counters container = 0 then .creating container else .next) remaining) =
          state.roles other run := by
        rw [noRole]
        split
        · exact if_neg (Ne.symm isHere)
        · rfl
      rw [stillNone, Function.update_eq_self]
      exact sound.phases other
  · rw [takens_goTo]
    change Accounted _ _ _ (Function.update state.takens run none)
    rw [takens_update_none (by rw [State.takens_apply, isStarting]; rfl)]
    exact sound.accounted
  · exact sound.locked.keep isStarting rfl
  · refine sound.fits_goTo (List.prefix_refl _) ?_ ?_ ?_
    · change Fits state.endpoints _ (Function.update state.started run _ run) _
      rw [Function.update_self]
      refine ⟨by rw [List.append_assoc]; exact whole, isPrefix, ?_⟩
      intro other starts
      split at starts
      · rcases starts with isCreating | isLaunching
        · cases isCreating
          exact List.mem_append_right _ List.mem_cons_self
        · cases isLaunching
      · rcases starts with isCreating | isLaunching
        · cases isCreating
        · cases isLaunching
    · intro other differs
      exact Function.update_of_ne differs ..
    · intro other differs another inside positive
      change 0 < Function.update state.counters container _ another
      by_cases isHere : another = container
      · rw [isHere, Function.update_self]
        exact Nat.succ_pos _
      · rw [Function.update_of_ne isHere]
        exact positive
  · refine sound.settled_goTo (by nofun) ?_
    intro other starts
    split at starts
    next zero =>
      refine .inr ?_
      rcases starts with isCreating | isLaunching
      · by_cases isHere : container = other
        · rw [← isHere]
          exact zero
        · rw [Stage.role, if_neg isHere] at isCreating
          cases isCreating
      · rw [Stage.role] at isLaunching
        split at isLaunching <;> cases isLaunching
    next =>
      rcases starts with isCreating | isLaunching
      · cases isCreating
      · cases isLaunching

theorem create (sound : Sound state)
    (isStarting : state.runs run = .starting store (.creating container) remaining)
    (absent : state.timers container = none) :
    Sound ((state.create container).goTo run
      (.starting store (.launching container) remaining)) := by
  obtain ⟨whole, isPrefix, holds⟩ : Fits _ _ _ (.starting store (.creating container) remaining) :=
    isStarting ▸ sound.fits run
  have role : ∀ other,
      state.roles other run = if container = other then some .creating else none := by
    intro other
    rw [State.roles_apply, isStarting]
    rfl
  refine ⟨sound.tallies, ?_, ?_, ?_, ?_, ?_⟩
  · intro other
    rw [roles_goTo]
    change Phase (state.counters other) (Function.update state.timers container _ other) _
      (Function.update (state.roles other) run
        (if container = other then some .launching else none))
    have before := role other
    by_cases isHere : container = other
    · subst isHere
      rw [if_pos rfl] at before
      rw [Function.update_self, if_pos rfl]
      exact (absent ▸ sound.phases container).create before _
    · rw [if_neg isHere] at before
      rw [Function.update_of_ne (Ne.symm isHere), if_neg isHere,
        roles_update_none before]
      exact sound.phases other
  · rw [takens_goTo]
    change Accounted _ _ _ (Function.update state.takens run none)
    rw [takens_update_none (by rw [State.takens_apply, isStarting]; rfl)]
    exact sound.accounted.create absent
  · exact sound.locked.keep isStarting rfl
  · refine sound.fits_goTo (List.prefix_refl _) ⟨whole, isPrefix, ?_⟩ (fun _ _ => rfl)
      fun _ _ _ _ positive => positive
    rintro other (isCreating | isLaunching)
    · cases isCreating
    · cases isLaunching
      exact holds container (.inl rfl)
  · refine sound.settled_goTo (by nofun) ?_
    intro other starts
    refine .inl (.inl ?_)
    rw [← State.roles_apply, role]
    by_cases isHere : container = other
    · exact if_pos isHere
    · rw [Stage.Starts, Stage.role, if_neg isHere] at starts
      rcases starts with isCreating | isLaunching
      · cases isCreating
      · cases isLaunching

theorem launch (sound : Sound state)
    (isStarting : state.runs run = .starting store (.launching container) remaining) :
    ∃ timer, state.timers container = some timer ∧
      Sound ((state.setRunning timer true).goTo run (.starting store .next remaining)) := by
  obtain ⟨whole, isPrefix, -⟩ : Fits _ _ _ (.starting store (.launching container) remaining) :=
    isStarting ▸ sound.fits run
  have role : ∀ other,
      state.roles other run = if container = other then some .launching else none := by
    intro other
    rw [State.roles_apply, isStarting]
    rfl
  obtain ⟨timer, present⟩ : ∃ timer, state.timers container = some timer :=
    (sound.phases container).exists_timer (by rw [role, if_pos rfl])
  refine ⟨timer, present, sound.tallies, ?_, ?_, ?_, ?_, ?_⟩
  · intro other
    rw [roles_goTo]
    change Phase (state.counters other) (state.timers other)
      (Function.update state.running timer true)
      (Function.update (state.roles other) run none)
    have before := role other
    by_cases isHere : container = other
    · subst isHere
      rw [if_pos rfl] at before
      rw [present]
      exact (present ▸ sound.phases container).launch before
    · rw [if_neg isHere] at before
      rw [roles_update_none before]
      refine (sound.phases other).of_running ?_
      intro another _ isRunning
      by_cases isTimer : another = timer
      · rw [isTimer, Function.update_self]
      · rw [Function.update_of_ne isTimer, isRunning]
  · rw [takens_goTo]
    change Accounted _ _ _ (Function.update state.takens run none)
    rw [takens_update_none (by rw [State.takens_apply, isStarting]; rfl)]
    exact sound.accounted.launch present
  · exact sound.locked.keep isStarting rfl
  · exact sound.fits_goTo (List.prefix_refl _) ⟨whole, isPrefix, by nofun⟩ (fun _ _ => rfl)
      fun _ _ _ _ positive => positive
  · exact sound.settled_goTo (by nofun) (by nofun)

variable {pinged : Bool}

/-- Nobody else is inside the lock. -/
theorem locking_unique (sound : Sound state) (inside : (state.runs run).locking = some container)
    {other : ι} (alsoInside : (state.runs other).locking = some container) : other = run := by
  have taken := sound.locked _ _ alsoInside
  rw [sound.locked _ _ inside] at taken
  exact (Option.some.inj taken).symm

/-- What `Interlocked.Decrement` does where the run has counted itself in. -/
theorem tallies_decrement (sound : Sound state) (holds : container ∈ state.started run)
    (other : κ) :
    Threads.Tallies ((state.decrement run container).counters other) fun holder =>
      ((state.decrement run container).started holder).count other := by
  change Threads.Tallies (Function.update state.counters container _ other) fun holder =>
    (Function.update state.started run _ holder).count other
  rw [count_started, List.count_erase]
  by_cases isHere : other = container
  · rw [isHere, Function.update_self, if_pos (beq_self_eq_true container)]
    exact (sound.tallies container).decrement run (List.count_pos_iff.mpr holds)
  · rw [Function.update_of_ne isHere, if_neg (by simpa using Ne.symm isHere), Nat.sub_zero,
      Function.update_eq_self]
    exact sound.tallies other

theorem fits_decrement (sound : Sound state)
    (isStopping : state.runs run = .stopping pinged (.decrementing container) remaining)
    (holds : container ∈ state.started run) {stop : Stop κ}
    (isStop : stop = .exchanging container ∨ stop = .next) (other : ι) :
    Fits state.endpoints (state.decrement run container).counters
      ((state.decrement run container).started other)
      (Function.update state.runs run (.stopping pinged stop remaining) other) := by
  obtain ⟨quiet, counts, -⟩ : Fits _ _ _ (.stopping pinged (.decrementing container) remaining) :=
    isStopping ▸ sound.fits run
  refine sound.fits_goTo (List.prefix_refl _) ?_ ?_ ?_ other
  · change Fits _ _ (Function.update state.started run _ run) _
    rw [Function.update_self]
    refine ⟨?_, ?_, ?_⟩
    · intro notPinged
      rw [(quiet notPinged).1] at holds
      cases holds
    · intro another
      have bound := counts another
      rw [Stop.left, List.count_cons] at bound
      have left : stop.left remaining = remaining := by
        rcases isStop with rfl | rfl <;> rfl
      rw [left, List.count_erase]
      omega
    · rintro another rfl
      rcases isStop with isExchanging | isNext
      · cases isExchanging
      · cases isNext
  · intro another differs
    exact Function.update_of_ne differs ..
  · intro another differs inside alsoInside positive
    change 0 < Function.update state.counters container _ inside
    rw [Function.update_of_ne ?_]
    · exact positive
    · rintro rfl
      exact differs (sound.locking_unique (by rw [isStopping]; rfl) alsoInside)

theorem settled_decrement (sound : Sound state) (holds : container ∈ state.started run)
    (isStopping : state.runs run = .stopping pinged (.decrementing container) remaining)
    (last : state.counters container = 1) : state.Settled container := by
  -- Whoever is starting the timer has counted itself in as well.
  have alone : ∀ other, container ∈ state.started other → other = run := by
    intro other alsoHolds
    by_contra differs
    have both := (sound.tallies container).two_le differs (List.count_pos_iff.mpr alsoHolds)
      (List.count_pos_iff.mpr holds)
    omega
  have outside : ∀ other, (state.runs other).Starts container → False := by
    intro other starts
    have held := sound.holds_of_starts starts
    rw [alone other held, isStopping] at starts
    rcases starts with role | role <;> cases role
  exact fun other => ⟨fun role => outside other (.inl role), fun role => outside other (.inr role)⟩

theorem decrement (sound : Sound state)
    (isStopping : state.runs run = .stopping pinged (.decrementing container) remaining)
    (holds : container ∈ state.started run) (several : state.counters container ≠ 1) :
    Sound (((state.decrement run container).lock container none).goTo run
      (.stopping pinged .next remaining)) := by
  have positive := sound.counter_pos holds
  have noRole : ∀ other, state.roles other run = none := by
    intro other
    rw [State.roles_apply, isStopping]
    rfl
  refine ⟨sound.tallies_decrement holds, ?_, ?_, ?_,
    sound.fits_decrement isStopping holds (.inr rfl),
    ?_⟩
  · intro other
    rw [roles_goTo]
    change Phase (Function.update state.counters container _ other) _ _
      (Function.update (state.roles other) run none)
    rw [roles_update_none (noRole other)]
    by_cases isHere : other = container
    · rw [isHere, Function.update_self]
      exact (sound.phases container).of_positive positive (by omega)
    · rw [Function.update_of_ne isHere]
      exact sound.phases other
  · rw [takens_goTo]
    change Accounted _ _ _ (Function.update state.takens run none)
    rw [takens_update_none (by rw [State.takens_apply, isStopping]; rfl)]
    exact sound.accounted
  · exact sound.locked.release isStopping rfl rfl
  · exact sound.settled_goTo (by nofun) (by nofun)

theorem decrementLast (sound : Sound state)
    (isStopping : state.runs run = .stopping pinged (.decrementing container) remaining)
    (holds : container ∈ state.started run) (last : state.counters container = 1) :
    Sound ((state.decrement run container).goTo run
      (.stopping pinged (.exchanging container) remaining)) := by
  have noRole : ∀ other, state.roles other run = none := by
    intro other
    rw [State.roles_apply, isStopping]
    rfl
  refine ⟨sound.tallies_decrement holds, ?_, ?_, ?_,
    sound.fits_decrement isStopping holds (.inl rfl),
    ?_⟩
  · intro other
    rw [roles_goTo]
    change Phase (Function.update state.counters container _ other) _ _
      (Function.update (state.roles other) run
        (if container = other then some .exchanging else none))
    by_cases isHere : container = other
    · subst isHere
      rw [Function.update_self, if_pos rfl, last]
      exact (sound.phases container).stop (sound.counter_pos holds)
        (sound.settled_decrement holds isStopping last)
    · rw [Function.update_of_ne (Ne.symm isHere), if_neg isHere, roles_update_none (noRole other)]
      exact sound.phases other
  · rw [takens_goTo]
    change Accounted _ _ _ (Function.update state.takens run none)
    rw [takens_update_none (by rw [State.takens_apply, isStopping]; rfl)]
    exact sound.accounted
  · exact sound.locked.keep isStopping rfl
  · refine sound.settled_goTo (by nofun) ?_
    rintro other (isCreating | isLaunching)
    · rw [Stage.role] at isCreating
      split at isCreating <;> cases isCreating
    · rw [Stage.role] at isLaunching
      split at isLaunching <;> cases isLaunching

theorem exchange (sound : Sound state)
    (isStopping : state.runs run = .stopping pinged (.exchanging container) remaining) :
    Sound ((state.takeTimer container).goTo run
      (.stopping pinged (.cleaning container (state.timers container)) remaining)) := by
  obtain ⟨quiet, counts, -⟩ : Fits _ _ _ (.stopping pinged (.exchanging container) remaining) :=
    isStopping ▸ sound.fits run
  have role : ∀ other,
      state.roles other run = if container = other then some .exchanging else none := by
    intro other
    rw [State.roles_apply, isStopping]
    rfl
  refine ⟨sound.tallies, ?_, ?_, ?_, ?_, ?_⟩
  · intro other
    rw [roles_goTo]
    change Phase _ (Function.update state.timers container none other) _
      (Function.update (state.roles other) run none)
    have before := role other
    by_cases isHere : container = other
    · subst isHere
      rw [if_pos rfl] at before
      rw [Function.update_self]
      exact (sound.phases container).exchange before
    · rw [if_neg isHere] at before
      rw [Function.update_of_ne (Ne.symm isHere), roles_update_none before]
      exact sound.phases other
  · rw [takens_goTo]
    exact sound.accounted.exchange (by rw [State.takens_apply, isStopping]; rfl)
  · exact sound.locked.keep isStopping rfl
  · refine sound.fits_goTo (List.prefix_refl _) ⟨?_, counts, by nofun⟩ (fun _ _ => rfl)
      fun _ _ _ _ positive => positive
    intro notPinged
    exact absurd rfl ((quiet notPinged).2.1 container)
  · exact sound.settled_goTo (by nofun) (by nofun)

theorem clean (sound : Sound state) {timer? : Option Nat}
    (isStopping : state.runs run = .stopping pinged (.cleaning container timer?) remaining)
    {later : Nat → Bool}
    (stopped : ∀ timer, later timer = true ↔ state.running timer = true ∧ timer? ≠ some timer) :
    Sound (({ state with running := later }.lock container none).goTo run
      (.stopping pinged .next remaining)) := by
  obtain ⟨quiet, counts, -⟩ : Fits _ _ _
      (.stopping pinged (.cleaning container timer?) remaining) :=
    isStopping ▸ sound.fits run
  have isTaken : state.takens run = timer? := by rw [State.takens_apply, isStopping]; rfl
  refine ⟨sound.tallies, ?_, ?_, ?_, ?_, ?_⟩
  · intro other
    rw [roles_goTo]
    change Phase _ (state.timers other) later (Function.update (state.roles other) run none)
    rw [roles_update_none (by rw [State.roles_apply, isStopping]; rfl)]
    refine (sound.phases other).of_running ?_
    intro timer present isRunning
    refine (stopped timer).mpr ⟨isRunning, ?_⟩
    intro isSame
    exact sound.accounted.distinct (isTaken.trans isSame) other present
  · rw [takens_goTo]
    exact sound.accounted.clean isTaken fun timer => (stopped timer).mp
  · exact sound.locked.release isStopping rfl rfl
  · refine sound.fits_goTo (List.prefix_refl _) ⟨?_, counts, by nofun⟩ (fun _ _ => rfl)
      fun _ _ _ _ positive => positive
    intro notPinged
    exact absurd rfl ((quiet notPinged).2.2 container timer?)
  · exact sound.settled_goTo (by nofun) (by nofun)

end Sound

section Runs

variable {containers : ι → κ} {state next : State ι κ} {run : ι}

theorem sound_resumeStart {store remaining : List κ} {start : Start κ} (sound : Sound state)
    (isStarting : state.runs run = .starting store start remaining)
    (permitted : Permits state run (.starting store start remaining)) :
    Sound (resumeStart state run store start remaining) := by
  obtain ⟨whole, isPrefix, -⟩ : Fits _ _ _ (.starting store start remaining) :=
    isStarting ▸ sound.fits run
  cases start with
  | next =>
      cases remaining with
      | nil =>
          refine sound.move isStarting (List.prefix_refl _) (fun _ => rfl) rfl
            (sound.locked.keep isStarting rfl) ⟨?_, isPrefix⟩ ?_
          · rw [← whole, List.append_nil]
          · rintro _ ⟨⟩ container member other
            exact permitted other container member
      | cons container remaining => exact sound.increment isStarting
  | creating container => exact sound.create isStarting permitted
  | launching container =>
      obtain ⟨timer, present, launched⟩ := sound.launch isStarting
      rw [resumeStart, present]
      exact launched

theorem sound_resumeStop {pinged : Bool} {remaining : List κ} {stop : Stop κ} (sound : Sound state)
    (isStopping : state.runs run = .stopping pinged stop remaining)
    (permitted : Permits state run (.stopping pinged stop remaining))
    (resumed : resumeStop state run pinged stop remaining = some next) : Sound next := by
  obtain ⟨quiet, counts, -⟩ : Fits _ _ _ (.stopping pinged stop remaining) :=
    isStopping ▸ sound.fits run
  have nothing : ∀ {later : Stop κ}, (∀ container, later ≠ .exchanging container) →
      (∀ container timer, later ≠ .cleaning container timer) → pinged = false →
      state.started run = [] ∧ (∀ container, later ≠ .exchanging container) ∧
        ∀ container timer, later ≠ .cleaning container timer :=
    fun notExchanging notCleaning notPinged =>
      ⟨(quiet notPinged).1, notExchanging, notCleaning⟩
  cases stop with
  | next =>
      cases remaining with
      | nil =>
          cases resumed
          refine sound.move isStopping (List.prefix_refl _) (fun _ => rfl) rfl
            (sound.locked.keep isStopping rfl) ?_ (by nofun)
          change state.started run = []
          rw [List.eq_nil_iff_forall_not_mem]
          intro container member
          have bound : _ ≤ List.count container [] := counts container
          have positive := List.count_pos_iff.mpr member
          rw [List.count_nil] at bound
          omega
      | cons container remaining =>
          rw [resumeStop] at resumed
          split at resumed
          next free =>
            cases resumed
            exact sound.move isStopping (List.prefix_refl _) (fun _ => rfl) rfl
              (sound.locked.acquire free rfl) ⟨nothing (by nofun) (by nofun), counts, by nofun⟩
              (by nofun)
          next => cases resumed
  | reading container =>
      rw [resumeStop] at resumed
      split at resumed
      next zero =>
        cases resumed
        refine sound.move isStopping (List.prefix_refl _) (fun _ => rfl) rfl
          (sound.locked.release isStopping rfl rfl)
          ⟨nothing (by nofun) (by nofun), ?_, by nofun⟩ (by nofun)
        intro other
        have bound := counts other
        have share := (sound.tallies other).share_le run
        rw [Stop.left, List.count_cons] at bound
        change _ ≤ remaining.count other
        by_cases isHere : container = other
        · subst isHere
          rw [zero] at share
          omega
        · rw [if_neg (by simpa using isHere)] at bound
          exact bound
      next positive =>
        cases resumed
        refine sound.move isStopping (List.prefix_refl _) (fun _ => rfl) rfl
          (sound.locked.keep isStopping rfl) ⟨nothing (by nofun) (by nofun), counts, ?_⟩ (by nofun)
        rintro other ⟨⟩
        exact Nat.pos_of_ne_zero positive
  | decrementing container =>
      rw [resumeStop] at resumed
      split at resumed
      next last =>
        cases resumed
        exact sound.decrementLast isStopping permitted last
      next several =>
        cases resumed
        exact sound.decrement isStopping permitted several
  | exchanging container =>
      cases resumed
      exact sound.exchange isStopping
  | cleaning container timer? =>
      cases resumed
      cases timer? with
      | none => exact sound.clean isStopping fun timer => by simp
      | some timer =>
          refine sound.clean isStopping ?_
          intro other
          by_cases isTimer : other = timer
          · rw [isTimer, Function.update_self]
            simp
          · rw [Function.update_of_ne isTimer]
            simp [Ne.symm isTimer]

theorem sound_resume (sound : Sound state) (permitted : Permits state run (state.runs run))
    (resumed : resume containers state run = some next) : Sound next := by
  have fits := sound.fits run
  unfold resume at resumed
  cases stage : state.runs run with
  | idle =>
      rw [stage] at resumed
      cases resumed
  | connecting =>
      rw [stage] at resumed fits
      cases resumed
      exact sound.move stage (List.prefix_append _ _) (fun _ => rfl) rfl
        (sound.locked.keep stage rfl) fits (by nofun)
  | added =>
      rw [stage] at resumed fits
      cases resumed
      refine sound.move stage (List.prefix_refl _) (fun _ => rfl) rfl (sound.locked.keep stage rfl)
        ⟨?_, List.prefix_refl _, by nofun⟩ (by nofun)
      rw [show state.started run = [] from fits, List.nil_append]
  | starting store start remaining =>
      rw [stage] at resumed permitted
      cases resumed
      exact sound_resumeStart sound stage permitted
  | waiting store =>
      rw [stage] at resumed fits
      cases resumed
      refine sound.move stage (List.prefix_refl _) (fun _ => rfl) rfl (sound.locked.keep stage rfl)
        ⟨by nofun, ?_, by nofun⟩ (by nofun)
      intro container
      rw [fits.1]
      exact fits.2.sublist.count_le container
  | failed =>
      rw [stage] at resumed fits
      cases resumed
      refine sound.move stage (List.prefix_refl _) (fun _ => rfl) rfl (sound.locked.keep stage rfl)
        ⟨fun _ => ⟨fits, by nofun, by nofun⟩, ?_, by nofun⟩ (by nofun)
      intro container
      rw [show state.started run = [] from fits, List.count_nil]
      exact Nat.zero_le _
  | aborted =>
      rw [stage] at resumed fits
      cases resumed
      refine sound.move stage (List.prefix_refl _) (fun _ => rfl) rfl (sound.locked.keep stage rfl)
        ⟨by nofun, ?_, by nofun⟩ (by nofun)
      intro container
      exact List.Sublist.count_le container (List.IsPrefix.sublist fits)
  | stopping pinged stop remaining =>
      rw [stage] at resumed permitted
      exact sound_resumeStop sound stage permitted resumed
  | completed =>
      rw [stage] at resumed
      cases resumed

theorem sound_step {action : Action ι κ} (sound : Sound state) (balanced : Balanced state action)
    (stepped : step containers state action = some next) : Sound next := by
  cases action with
  | add container =>
      cases stepped
      exact ⟨sound.tallies, sound.phases, sound.accounted, sound.locked,
        fun run => (sound.fits run).mono (List.prefix_append _ _) fun _ _ positive => positive,
        sound.settled⟩
  | call run =>
      rw [step] at stepped
      split at stepped
      next stage =>
        cases stepped
        have fits := sound.fits run
        rw [stage] at fits
        exact sound.move stage (List.prefix_refl _) (fun _ => rfl) rfl
          (sound.locked.keep stage rfl) fits (by nofun)
      next => cases stepped
  | resume run => exact sound_resume sound balanced stepped
  | fail run =>
      have fits := sound.fits run
      rw [step] at stepped
      split at stepped
      next stage =>
        rw [stage] at fits
        cases stepped
        exact sound.move stage (List.prefix_refl _) (fun _ => rfl) rfl
          (sound.locked.keep stage rfl) fits (by nofun)
      next stage =>
        rw [stage] at fits
        cases stepped
        exact sound.move stage (List.prefix_refl _) (fun _ => rfl) rfl
          (sound.locked.keep stage rfl) fits (by nofun)
      next stage =>
        rw [stage] at fits
        cases stepped
        refine sound.move stage (List.prefix_refl _) (fun _ => rfl) rfl
          (sound.locked.keep stage rfl) ?_ (by nofun)
        exact List.IsPrefix.trans ⟨_, fits.1⟩ fits.2.1
      next stage =>
        rw [stage] at fits
        cases stepped
        refine sound.move stage (List.prefix_refl _) (fun _ => rfl) rfl
          (sound.locked.keep stage rfl) ?_ (by nofun)
        exact fits.1 ▸ fits.2
      next => cases stepped

/-- A run outside its pings holds nothing. -/
theorem Sound.outside (sound : Sound state) (notPinging : (state.runs run).isPinging = false) :
    state.started run = [] ∧ (∀ container, state.roles container run = none) ∧
      state.takens run = none := by
  have fits := sound.fits run
  unfold State.roles State.takens
  cases stage : state.runs run with
  | idle =>
      rw [stage] at fits
      exact ⟨fits, fun _ => rfl, rfl⟩
  | connecting =>
      rw [stage] at fits
      exact ⟨fits, fun _ => rfl, rfl⟩
  | added =>
      rw [stage] at fits
      exact ⟨fits, fun _ => rfl, rfl⟩
  | failed =>
      rw [stage] at fits
      exact ⟨fits, fun _ => rfl, rfl⟩
  | completed =>
      rw [stage] at fits
      exact ⟨fits, fun _ => rfl, rfl⟩
  | starting store start remaining =>
      rw [stage] at notPinging
      cases notPinging
  | waiting store =>
      rw [stage] at notPinging
      cases notPinging
  | aborted =>
      rw [stage] at notPinging
      cases notPinging
  | stopping pinged stop remaining =>
      rw [stage] at notPinging fits
      obtain ⟨nothing, notExchanging, notCleaning⟩ := fits.1 notPinging
      cases stop with
      | next => exact ⟨nothing, fun _ => rfl, rfl⟩
      | reading container => exact ⟨nothing, fun _ => rfl, rfl⟩
      | decrementing container => exact ⟨nothing, fun _ => rfl, rfl⟩
      | exchanging container => exact absurd rfl (notExchanging container)
      | cleaning container timer => exact absurd rfl (notCleaning container timer)

theorem Sound.pingsServers (sound : Sound state) : PingsServers state := by
  refine ⟨?_, ?_⟩
  · intro run endpoints isWaiting container member
    have fits := sound.fits run
    rw [isWaiting] at fits
    have positive : 0 < state.counters container :=
      sound.counter_pos (by rw [fits.1]; exact member : container ∈ state.started run)
    exact ((sound.phases container).pings positive
      (sound.settled isWaiting container member)).1
  · intro nobody timer
    have absent : ∀ container, state.timers container = none := by
      intro container
      have zero : state.counters container = 0 := by
        refine (sound.tallies container).counter_eq_zero ?_
        intro run
        rw [(sound.outside (nobody run)).1, List.count_nil]
      exact (sound.phases container).timer_eq_none zero fun run =>
        (sound.outside (nobody run)).2.1 container
    cases isRunning : state.running timer with
    | false => rfl
    | true =>
        rcases sound.accounted.accounted isRunning with ⟨container, present⟩ | ⟨run, taken⟩
        · rw [absent container] at present
          cases present
        · rw [(sound.outside (nobody run)).2.2] at taken
          cases taken

end Runs

/-- The servers-ping timers over any number of runs that add endpoints, in every state of a run
whose steps are balanced. -/
theorem servers_ping_runs (containers : ι → κ) (endpoints : List κ) (actions : List (Action ι κ))
    {state : State ι κ}
    (ran : Machine.run (step containers) (initial endpoints) actions = some state)
    (balanced : Machine.Along (step containers) Balanced (initial endpoints) actions) :
    PingsServers state :=
  (Machine.run_along sound_step (sound_initial endpoints) balanced ran).pingsServers

section Decidability

instance [Fintype ι] (state : State ι κ) (run : ι) : (stage : Stage κ) →
    Decidable (Permits state run stage)
  | .starting endpoints .next [] =>
      inferInstanceAs (Decidable (∀ other, ∀ container ∈ endpoints,
        (state.runs other).role container ≠ some .creating ∧
          (state.runs other).role container ≠ some .launching))
  | .starting _ .next (_ :: _) | .starting _ (.launching _) _ => isTrue trivial
  | .starting _ (.creating container) _ =>
      inferInstanceAs (Decidable (state.timers container = none))
  | .stopping _ (.decrementing container) _ =>
      inferInstanceAs (Decidable (container ∈ state.started run))
  | .stopping _ .next _ | .stopping _ (.reading _) _ | .stopping _ (.exchanging _) _
  | .stopping _ (.cleaning _ _) _ => isTrue trivial
  | .idle | .connecting | .added | .waiting _ | .failed | .aborted | .completed => isTrue trivial

instance [Fintype ι] (state : State ι κ) : (action : Action ι κ) →
    Decidable (Balanced state action)
  | .resume run => inferInstanceAs (Decidable (Permits state run (state.runs run)))
  | .add _ | .call _ | .fail _ => isTrue trivial

end Decidability

/-- The containers of two new endpoints; container 0 is there before. -/
def newContainers (run : Bool) : Nat := if run then 2 else 1

/-- Two runs add their endpoints, start the pings of all three containers in turn and wait
together; then the first one stops its pings. -/
def overlap : List (Action Bool Nat) :=
  [Action.call false, .call true, .resume false, .resume true, .resume false, .resume true] ++
    (List.replicate 3
      [Action.resume false, .resume false, .resume false, .resume true]).flatten ++
    [Action.resume false, .resume true] ++ List.replicate 11 (Action.resume false)

theorem servers_ping_runs_overlap :
    ∃ state, Machine.run (step newContainers) (initial [0]) overlap = some state ∧
      state.runs false = .completed ∧ state.runs true = .waiting [0, 1, 2] ∧
      PingsServers state :=
  ⟨_, rfl, rfl, rfl, servers_ping_runs newContainers [0] overlap rfl (by decide)⟩

/-- One run goes over the store and waits. -/
def oneAdds : List (Action Bool Nat) := .call false :: List.replicate 9 (.resume false)

/-- A second run goes over the store with its own container in it and waits. The first one then
stops the pings of all three. -/
def bothAdd : List (Action Bool Nat) :=
  oneAdds ++ Action.call true :: List.replicate 8 (Action.resume true) ++
    List.replicate 12 (Action.resume false)

theorem servers_ping_stops :
    ∃ state, Machine.run (step newContainers) (initial [0]) bothAdd = some state ∧
      ¬ PingsServers state := by
  refine ⟨_, rfl, ?_⟩
  rintro ⟨pings, -⟩
  obtain ⟨timer, present, -⟩ := pings true [0, 1, 2] rfl 2 (by decide)
  cases present

end AzureSignalR.ServiceConnections.ServersPing
