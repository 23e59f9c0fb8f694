import AzureSignalR.ServiceConnections.ContainerStatus
import Mathlib.Algebra.Group.Int.Defs
import Mathlib.Algebra.Group.Nat.Defs

/-!
Contract: which connection of a container a message is written to.

Owns: `SelectConnection` with the partition cache and the connections of a client connection
scope, and `GetRandomActiveConnection`, under any number of calls.

Does not own: the connections, which go through their statuses and enter and leave the list at
any time, or the garbage collector, which may clear a weak reference. The calls inside one
scope come one after another.
-/

set_option autoImplicit false

namespace AzureSignalR.ServiceConnections.ConnectionSelection

open Library
open ContainerStatus (ServiceConnectionStatus)

/-- Where a call looks for its connection: the box of a `PartitionKey`, or what the scope has
for the endpoint. -/
inductive Cell (σ : Type) where
  | partition (key : UInt8)
  | scope (scope : σ)
deriving DecidableEq, Repr

/-- How far a call of `SelectConnection` has got. -/
inductive Stage (κ : Type) where
  | idle
  /-- In front of `TryGetTarget`. -/
  | reading
  /-- In front of `IsActiveConnection`. -/
  | checking (connection : κ)
  /-- At `lock (box)`. -/
  | locking
  /-- The same inside the lock. -/
  | rereading
  | rechecking (connection : κ)
  /-- In front of `GetRandomActiveConnection`. -/
  | choosing
  | scanning (currentConnections : List κ) (index direction retry : Nat)
  /-- In front of `SetTarget`. -/
  | storing (connection : Option κ)
  | releasing (connection : Option κ)
  /-- Without a connection it throws. -/
  | returned (connection : Option κ)
deriving DecidableEq, Repr

structure State (ι σ κ : Type) where
  serviceConnections : List κ
  statuses : κ → ServiceConnectionStatus := fun _ => .inited
  /-- The targets of the weak references. -/
  targets : Cell σ → Option κ
  /-- Whose call is inside `lock (box)`, or in progress inside the scope. -/
  owners : Cell σ → Option ι := fun _ => none
  calls : ι → Stage κ := fun _ => .idle

/-- A container behind its constructor, and scopes with the connections they were made with. -/
def initial {ι σ κ : Type} (serviceConnections : List κ) (outboundConnections : σ → Option κ) :
    State ι σ κ where
  serviceConnections := serviceConnections
  targets
    | .partition _ => none
    | .scope scope => outboundConnections scope

inductive Action (ι κ : Type) (σ : Type) where
  | call (caller : ι)
  /-- The next step of a call; `initial` is what `StaticRandom.Next` gives. -/
  | resume (caller : ι) (initial : Int)
  | change (connection : κ) (status : ServiceConnectionStatus)
  /-- `ServiceConnections` is replaced. -/
  | relist (serviceConnections : List κ)
  /-- A weak reference is cleared. -/
  | clear (cell : Cell σ)
deriving DecidableEq, Repr

variable {ι σ κ : Type} [DecidableEq ι] [DecidableEq σ] [DecidableEq κ]

/-- `(initial & int.MaxValue) % count`. -/
def startIndex (initial : Int) (count : Nat) : Nat :=
  (if initial < 0 then initial + 2 ^ 31 else initial).toNat % count

def startDirection (initial : Int) (count : Nat) : Nat :=
  if 0 < initial then 1 else count - 1

namespace State

def isActiveConnection (state : State ι σ κ) (connection : κ) : Bool :=
  state.statuses connection = .connected

def goTo (state : State ι σ κ) (caller : ι) (stage : Stage κ) : State ι σ κ :=
  { state with calls := Function.update state.calls caller stage }

def own (state : State ι σ κ) (cell : Cell σ) (owner : Option ι) : State ι σ κ :=
  { state with owners := Function.update state.owners cell owner }

def setTarget (state : State ι σ κ) (cell : Cell σ) (target : Option κ) : State ι σ κ :=
  { state with targets := Function.update state.targets cell target }

end State

/-- Without an active connection a partition takes the lock. -/
@[simp] def Cell.miss : Cell σ → Stage κ
  | .partition _ => .locking
  | .scope _ => .choosing

@[simp] def Cell.hit (connection : κ) : Cell σ → Stage κ
  | .partition _ => .returned (some connection)
  | .scope _ => .releasing (some connection)

/-- The next step of a call; `cells` says where each call looks. -/
def resume (cells : ι → Cell σ) (state : State ι σ κ) (caller : ι) (initial : Int) :
    Option (State ι σ κ) :=
  let cell := cells caller
  match state.calls caller with
  | .idle | .returned _ => none
  | .reading =>
      match state.targets cell with
      | some connection => some (state.goTo caller (.checking connection))
      | none => some (state.goTo caller cell.miss)
  | .checking connection =>
      if state.isActiveConnection connection then
        some (state.goTo caller (cell.hit connection))
      else some (state.goTo caller cell.miss)
  | .locking =>
      if state.owners cell = none then
        some ((state.own cell (some caller)).goTo caller .rereading)
      else none
  | .rereading =>
      match state.targets cell with
      | some connection => some (state.goTo caller (.rechecking connection))
      | none => some (state.goTo caller .choosing)
  | .rechecking connection =>
      if state.isActiveConnection connection then
        some (state.goTo caller (.releasing (some connection)))
      else some (state.goTo caller .choosing)
  | .choosing =>
      let count := state.serviceConnections.length
      if count = 0 then
        -- `% count` throws.
        some (state.goTo caller (.releasing none))
      else if -(count : Int) ≤ initial ∧ initial < count then
        some (state.goTo caller (.scanning state.serviceConnections (startIndex initial count)
          (startDirection initial count) 0))
      else none
  | .scanning currentConnections index direction retry =>
      if retry < currentConnections.length then
        match currentConnections[index]? with
        | none => none
        | some connection =>
            if state.isActiveConnection connection then
              some (state.goTo caller (.storing (some connection)))
            else
              some (state.goTo caller (.scanning currentConnections
                ((index + direction) % currentConnections.length) direction (retry + 1)))
      else some (state.goTo caller (.storing none))
  | .storing connection =>
      some ((state.setTarget cell connection).goTo caller (.releasing connection))
  | .releasing connection =>
      some ((state.own cell none).goTo caller (.returned connection))

def step (cells : ι → Cell σ) (state : State ι σ κ) : Action ι κ σ → Option (State ι σ κ)
  | .call caller =>
      if state.calls caller = .idle then
        match cells caller with
        | .partition _ => some (state.goTo caller .reading)
        | .scope scope =>
            if state.owners (.scope scope) = none then
              some ((state.own (.scope scope) (some caller)).goTo caller .reading)
            else none
      else none
  | .resume caller initial => resume cells state caller initial
  | .change connection status =>
      if (state.statuses connection).precedes status then
        some { state with statuses := Function.update state.statuses connection status }
      else none
  | .relist serviceConnections => some { state with serviceConnections := serviceConnections }
  | .clear cell =>
      match state.targets cell with
      | none => none
      | some _ => some (state.setTarget cell none)

/-- `WeakReference`: the list does not have a connection whose reference is cleared, and no
call is looking at it. -/
def Collected (state : State ι σ κ) : Action ι κ σ → Prop
  | .clear cell =>
      ∀ connection, state.targets cell = some connection →
        connection ∉ state.serviceConnections ∧
          ∀ caller, state.calls caller ≠ .checking connection ∧
            state.calls caller ≠ .rechecking connection
  | _ => True

/-! ## What a step does -/

/-- What a step of a call does to the container, and to the call. -/
inductive Resumes (cells : ι → Cell σ) (state : State ι σ κ) (caller : ι) :
    State ι σ κ → Stage κ → Prop where
  | enter (stage : state.calls caller = .idle) (key : UInt8)
      (cell : cells caller = .partition key) : Resumes cells state caller state .reading
  | enterScope (stage : state.calls caller = .idle) (scope : σ)
      (cell : cells caller = .scope scope) (free : state.owners (.scope scope) = none) :
      Resumes cells state caller (state.own (.scope scope) (some caller)) .reading
  | read (connection : κ) (stage : state.calls caller = .reading)
      (target : state.targets (cells caller) = some connection) :
      Resumes cells state caller state (.checking connection)
  | miss (stage : state.calls caller = .reading) (target : state.targets (cells caller) = none) :
      Resumes cells state caller state (cells caller).miss
  | hit (connection : κ) (stage : state.calls caller = .checking connection)
      (active : state.statuses connection = .connected) :
      Resumes cells state caller state ((cells caller).hit connection)
  | stale (connection : κ) (stage : state.calls caller = .checking connection)
      (inactive : state.statuses connection ≠ .connected) :
      Resumes cells state caller state (cells caller).miss
  | lock (stage : state.calls caller = .locking) (free : state.owners (cells caller) = none) :
      Resumes cells state caller (state.own (cells caller) (some caller)) .rereading
  | reread (connection : κ) (stage : state.calls caller = .rereading)
      (target : state.targets (cells caller) = some connection) :
      Resumes cells state caller state (.rechecking connection)
  | missAgain (stage : state.calls caller = .rereading)
      (target : state.targets (cells caller) = none) :
      Resumes cells state caller state .choosing
  | hitAgain (connection : κ) (stage : state.calls caller = .rechecking connection)
      (active : state.statuses connection = .connected) :
      Resumes cells state caller state (.releasing (some connection))
  | staleAgain (connection : κ) (stage : state.calls caller = .rechecking connection)
      (inactive : state.statuses connection ≠ .connected) :
      Resumes cells state caller state .choosing
  | divide (stage : state.calls caller = .choosing) :
      Resumes cells state caller state (.releasing none)
  | choose (currentConnections : List κ) (index direction : Nat)
      (stage : state.calls caller = .choosing) :
      Resumes cells state caller state (.scanning currentConnections index direction 0)
  | find (currentConnections : List κ) (index direction retry : Nat) (connection : κ)
      (stage : state.calls caller = .scanning currentConnections index direction retry)
      (active : state.statuses connection = .connected) :
      Resumes cells state caller state (.storing (some connection))
  | pass (currentConnections : List κ) (index direction retry next : Nat)
      (stage : state.calls caller = .scanning currentConnections index direction retry) :
      Resumes cells state caller state
        (.scanning currentConnections next direction (retry + 1))
  | exhaust (currentConnections : List κ) (index direction retry : Nat)
      (stage : state.calls caller = .scanning currentConnections index direction retry) :
      Resumes cells state caller state (.storing none)
  | store (connection : Option κ) (stage : state.calls caller = .storing connection) :
      Resumes cells state caller (state.setTarget (cells caller) connection)
        (.releasing connection)
  | release (connection : Option κ) (stage : state.calls caller = .releasing connection) :
      Resumes cells state caller (state.own (cells caller) none) (.returned connection)

variable {cells : ι → Cell σ}

omit [DecidableEq κ] in
theorem resumes_of_resume {state next : State ι σ κ} {caller : ι} {initial : Int}
    (resumed : resume cells state caller initial = some next) :
    ∃ container stage, Resumes cells state caller container stage ∧
      next = container.goTo caller stage := by
  unfold resume at resumed
  simp only at resumed
  split at resumed
  next => cases resumed
  next => cases resumed
  next stage =>
    split at resumed
    next connection target =>
      cases resumed
      exact ⟨_, _, .read connection stage target, rfl⟩
    next target =>
      cases resumed
      exact ⟨_, _, .miss stage target, rfl⟩
  next connection stage =>
    split_ifs at resumed with active
    · cases resumed
      exact ⟨_, _, .hit connection stage (of_decide_eq_true active), rfl⟩
    · cases resumed
      exact ⟨_, _, .stale connection stage fun isActive => active (decide_eq_true isActive), rfl⟩
  next stage =>
    split_ifs at resumed with free
    cases resumed
    exact ⟨_, _, .lock stage free, rfl⟩
  next stage =>
    split at resumed
    next connection target =>
      cases resumed
      exact ⟨_, _, .reread connection stage target, rfl⟩
    next target =>
      cases resumed
      exact ⟨_, _, .missAgain stage target, rfl⟩
  next connection stage =>
    split_ifs at resumed with active
    · cases resumed
      exact ⟨_, _, .hitAgain connection stage (of_decide_eq_true active), rfl⟩
    · cases resumed
      exact ⟨_, _, .staleAgain connection stage fun isActive => active (decide_eq_true isActive),
        rfl⟩
  next stage =>
    split_ifs at resumed
    · cases resumed
      exact ⟨_, _, .divide stage, rfl⟩
    · cases resumed
      exact ⟨_, _, .choose _ _ _ stage, rfl⟩
  next currentConnections index direction retry stage =>
    split_ifs at resumed
    · split at resumed
      next => cases resumed
      next connection _ =>
        split_ifs at resumed with active
        · cases resumed
          exact ⟨_, _, .find currentConnections index direction retry connection stage
            (of_decide_eq_true active), rfl⟩
        · cases resumed
          exact ⟨_, _, .pass currentConnections index direction retry _ stage, rfl⟩
    · cases resumed
      exact ⟨_, _, .exhaust currentConnections index direction retry stage, rfl⟩
  next connection stage =>
    cases resumed
    exact ⟨_, _, .store connection stage, rfl⟩
  next connection stage =>
    cases resumed
    exact ⟨_, _, .release connection stage, rfl⟩

/-- A step is one of a call or one of its surroundings. -/
inductive Steps (cells : ι → Cell σ) (state : State ι σ κ) :
    Action ι κ σ → State ι σ κ → Prop where
  | caller (action : Action ι κ σ) (caller : ι) (container : State ι σ κ) (stage : Stage κ)
      (resumes : Resumes cells state caller container stage) :
      Steps cells state action (container.goTo caller stage)
  | change (connection : κ) (status : ServiceConnectionStatus)
      (precedes : (state.statuses connection).precedes status = true) :
      Steps cells state (.change connection status)
        { state with statuses := Function.update state.statuses connection status }
  | relist (serviceConnections : List κ) :
      Steps cells state (.relist serviceConnections)
        { state with serviceConnections := serviceConnections }
  | clear (cell : Cell σ) (connection : κ) (target : state.targets cell = some connection) :
      Steps cells state (.clear cell) (state.setTarget cell none)

theorem steps_of_step {state next : State ι σ κ} {action : Action ι κ σ}
    (stepped : step cells state action = some next) : Steps cells state action next := by
  cases action with
  | call caller =>
      simp only [step] at stepped
      split_ifs at stepped with stage
      split at stepped
      next key cell =>
        cases stepped
        exact .caller _ caller _ _ (.enter stage key cell)
      next scope cell =>
        split_ifs at stepped with free
        cases stepped
        exact .caller _ caller _ _ (.enterScope stage scope cell free)
  | resume caller initial =>
      obtain ⟨container, stage, resumes, rfl⟩ := resumes_of_resume stepped
      exact .caller _ caller container stage resumes
  | change connection status =>
      simp only [step] at stepped
      split_ifs at stepped with precedes
      cases stepped
      exact .change connection status precedes
  | relist serviceConnections =>
      cases stepped
      exact .relist serviceConnections
  | clear cell =>
      simp only [step] at stepped
      split at stepped
      next => cases stepped
      next connection target =>
        cases stepped
        exact .clear cell connection target

/-! ## What the calls keep -/

/-- The call is inside the lock of a partition, or in progress inside a scope. -/
@[simp] def Stage.Exclusive : Stage κ → Cell σ → Prop
  | .idle, _ | .returned _, _ => False
  | .reading, .partition _ | .checking _, .partition _ | .locking, .partition _ => False
  | _, _ => True

/-- The call is going to replace the target. -/
@[simp] def Stage.Choosing : Stage κ → Prop
  | .choosing | .scanning _ _ _ _ | .storing _ => True
  | _ => False

/-- The status of a connection that was `Connected` once. -/
def WasConnected (status : ServiceConnectionStatus) : Prop :=
  status = .connected ∨ status = .disconnected

/-- What a call knows of its target. What a partition was found to have may be replaced, but
then it is disconnected, and a connection does not connect again. -/
structure Aware (cells : ι → Cell σ) (state : State ι σ κ) (caller : ι) : Prop where
  checking : ∀ connection, state.calls caller = .checking connection →
    ∀ key, cells caller = .partition key →
      WasConnected (state.statuses connection) ∧
        (state.statuses connection = .connected →
          state.targets (cells caller) = some connection)
  checkingScope : ∀ connection, state.calls caller = .checking connection →
    ∀ scope, cells caller = .scope scope → state.targets (cells caller) = some connection
  rechecking : ∀ connection, state.calls caller = .rechecking connection →
    state.targets (cells caller) = some connection
  choosing : (state.calls caller).Choosing → ∀ key, cells caller = .partition key →
    ∀ connection, state.targets (cells caller) = some connection →
      state.statuses connection = .disconnected
  storing : ∀ connection, state.calls caller = .storing (some connection) →
    WasConnected (state.statuses connection)

structure Sound (cells : ι → Cell σ) (state : State ι σ κ) : Prop where
  owned : ∀ caller cell, state.owners cell = some caller ↔
    cells caller = cell ∧ (state.calls caller).Exclusive cell
  aware : ∀ caller, Aware cells state caller
  targets : ∀ key connection, state.targets (.partition key) = some connection →
    WasConnected (state.statuses connection)

section Invariant

variable {state container next : State ι σ κ} {caller other : ι} {stage : Stage κ}
  {cell : Cell σ} {connection : κ}

omit [DecidableEq σ] [DecidableEq κ] in
@[simp] theorem goTo_calls (state : State ι σ κ) (caller other : ι) (stage : Stage κ) :
    (state.goTo caller stage).calls other =
      if other = caller then stage else state.calls other :=
  Function.update_apply ..

omit [DecidableEq ι] [DecidableEq σ] [DecidableEq κ] in
/-- Two calls that are exclusive for one cell are one call. -/
theorem Sound.exclusive (sound : Sound cells state) (mine : cells caller = cell)
    (isExclusive : (state.calls caller).Exclusive cell) (also : cells other = cell)
    (alsoExclusive : (state.calls other).Exclusive cell) : other = caller := by
  have first := (sound.owned caller cell).mpr ⟨mine, isExclusive⟩
  rw [(sound.owned other cell).mpr ⟨also, alsoExclusive⟩, Option.some.injEq] at first
  exact first

omit [DecidableEq ι] [DecidableEq σ] [DecidableEq κ] in
theorem exclusive_of_choosing (isChoosing : stage.Choosing) : stage.Exclusive cell := by
  cases stage <;> trivial

omit [DecidableEq ι] [DecidableEq κ] in
/-- What a call leaves to others. -/
theorem Resumes.unchanged (resumes : Resumes cells state caller container stage) :
    container.calls = state.calls ∧ container.statuses = state.statuses ∧
      container.serviceConnections = state.serviceConnections := by
  cases resumes <;> exact ⟨rfl, rfl, rfl⟩

omit [DecidableEq ι] [DecidableEq κ] in
/-- A call changes a target by storing another one. -/
theorem Resumes.targets (resumes : Resumes cells state caller container stage) :
    container.targets = state.targets ∨ ∃ connection, state.calls caller = .storing connection ∧
      stage = .releasing connection ∧
      container.targets = Function.update state.targets (cells caller) connection := by
  cases resumes with
  | store connection isStoring => exact .inr ⟨connection, isStoring, rfl, rfl⟩
  | _ => exact .inl rfl

omit [DecidableEq ι] [DecidableEq κ] in
/-- Only its owner gives a cell up, and only a free cell is taken. -/
theorem Resumes.ownership (resumes : Resumes cells state caller container stage)
    (held : state.owners (cells caller) = some caller ↔
      (state.calls caller).Exclusive (cells caller)) :
    (container.owners (cells caller) = some caller ↔ stage.Exclusive (cells caller)) ∧
      ∀ other cell, other ≠ caller ∨ cell ≠ cells caller →
        (container.owners cell = some other ↔ state.owners cell = some other) := by
  cases resumes with
  | enterScope isIdle scope isScope free =>
      refine ⟨by simp [State.own, isScope], ?_⟩
      intro other cell differs
      by_cases isCell : cell = .scope scope
      · subst isCell
        have notCaller : other ≠ caller := differs.resolve_right fun notMine => notMine isScope.symm
        simp [State.own, free, notCaller.symm]
      · simp [State.own, isCell]
  | lock isLocking free =>
      refine ⟨by simp [State.own], ?_⟩
      intro other cell differs
      by_cases isCell : cell = cells caller
      · subst isCell
        have notCaller : other ≠ caller := differs.resolve_right fun notMine => notMine rfl
        simp [State.own, free, notCaller.symm]
      · simp [State.own, isCell]
  | release connection isReleasing =>
      have isHeld : state.owners (cells caller) = some caller := held.mpr (by simp [isReleasing])
      refine ⟨by simp [State.own], ?_⟩
      intro other cell differs
      by_cases isCell : cell = cells caller
      · subst isCell
        have notCaller : other ≠ caller := differs.resolve_right fun notMine => notMine rfl
        simp [State.own, isHeld, notCaller.symm]
      · simp [State.own, isCell]
  | enter isStage key isCell =>
      refine ⟨?_, fun _ _ _ => Iff.rfl⟩
      rw [isStage, isCell] at held
      rw [isCell]
      exact held
  | miss isStage _ | stale _ isStage _ | hit _ isStage _ | read _ isStage _ =>
      refine ⟨?_, fun _ _ _ => Iff.rfl⟩
      rw [isStage] at held
      cases isCell : cells caller with
      | partition key =>
          rw [isCell] at held
          exact held
      | scope scope =>
          rw [isCell] at held
          exact held
  | reread _ isStage _ | missAgain isStage _ | hitAgain _ isStage _ | staleAgain _ isStage _
  | divide isStage | choose _ _ _ isStage | find _ _ _ _ _ isStage _
  | pass _ _ _ _ _ isStage | exhaust _ _ _ _ isStage | store _ isStage =>
      -- Inside the lock and behind it, until it is released.
      refine ⟨?_, fun _ _ _ => Iff.rfl⟩
      rw [isStage] at held
      exact held

omit [DecidableEq κ] in
theorem Resumes.owned (resumes : Resumes cells state caller container stage)
    (sound : Sound cells state) (other : ι) (cell : Cell σ) :
    (container.goTo caller stage).owners cell = some other ↔
      cells other = cell ∧ ((container.goTo caller stage).calls other).Exclusive cell := by
  have held : state.owners (cells caller) = some caller ↔
      (state.calls caller).Exclusive (cells caller) :=
    (sound.owned caller (cells caller)).trans (and_iff_right rfl)
  obtain ⟨here, elsewhere⟩ := resumes.ownership held
  rw [goTo_calls]
  change container.owners cell = some other ↔ _
  by_cases isCaller : other = caller
  · subst isCaller
    rw [if_pos rfl]
    by_cases isCell : cell = cells other
    · subst isCell
      rw [here]
      exact (and_iff_right rfl).symm
    · rw [elsewhere other cell (.inr isCell), sound.owned]
      exact ⟨fun both => absurd both.1.symm isCell, fun both => absurd both.1.symm isCell⟩
  · rw [if_neg isCaller, elsewhere other cell (.inl isCaller), resumes.unchanged.1, sound.owned]

omit [DecidableEq ι] [DecidableEq σ] [DecidableEq κ] in
/-- What a call knows depends on its stage, its target and the statuses. -/
theorem Aware.frame (aware : Aware cells state caller)
    (calls : next.calls caller = state.calls caller)
    (statuses : next.statuses = state.statuses)
    (targets : next.targets (cells caller) = state.targets (cells caller)) :
    Aware cells next caller := by
  obtain ⟨checking, checkingScope, rechecking, choosing, storing⟩ := aware
  refine ⟨?_, ?_, ?_, ?_, ?_⟩
  · rw [calls, statuses, targets]
    exact checking
  · rw [calls, targets]
    exact checkingScope
  · rw [calls, targets]
    exact rechecking
  · rw [calls, statuses, targets]
    exact choosing
  · rw [calls, statuses]
    exact storing

omit [DecidableEq κ] in
/-- The calls beside the one that goes on. One that stores a target is alone, and the target it
replaces is disconnected. -/
theorem Resumes.aware_other (resumes : Resumes cells state caller container stage)
    (sound : Sound cells state) (differs : other ≠ caller) :
    Aware cells (container.goTo caller stage) other := by
  obtain ⟨calls, statuses, -⟩ := resumes.unchanged
  have same : (container.goTo caller stage).calls other = state.calls other := by
    rw [goTo_calls, if_neg differs, calls]
  rcases resumes.targets with kept | ⟨connection, isStoring, -, replaced⟩
  · exact (sound.aware other).frame same statuses (congrFun kept _)
  · by_cases isCell : cells other = cells caller
    · have chooses : (state.calls caller).Choosing := by simp [isStoring]
      have alone : ¬ (state.calls other).Exclusive (cells caller) := by
        intro also
        exact differs (sound.exclusive rfl (exclusive_of_choosing chooses) isCell also)
      refine ⟨?_, ?_, ?_, ?_, ?_⟩
      · intro target isChecking key isPartition
        rw [same] at isChecking
        obtain ⟨wasConnected, isTarget⟩ :=
          (sound.aware other).checking target isChecking key isPartition
        change WasConnected (container.statuses target) ∧ (container.statuses target = _ → _)
        rw [statuses]
        refine ⟨wasConnected, fun connected => ?_⟩
        have dead := (sound.aware caller).choosing chooses key (isCell ▸ isPartition) target
          (isCell ▸ isTarget connected)
        rw [connected] at dead
        cases dead
      · intro target isChecking scope isScope
        rw [same] at isChecking
        rw [isChecking, ← isCell, isScope] at alone
        exact absurd trivial alone
      · intro target isRechecking
        rw [same] at isRechecking
        rw [isRechecking] at alone
        exact absurd trivial alone
      · intro isChoosing
        rw [same] at isChoosing
        exact absurd (exclusive_of_choosing isChoosing) alone
      · intro target alsoStoring
        rw [same] at alsoStoring
        rw [alsoStoring] at alone
        exact absurd trivial alone
    · refine (sound.aware other).frame same statuses ?_
      change container.targets (cells other) = _
      rw [replaced, Function.update_of_ne isCell]

omit [DecidableEq κ] in
/-- The call that goes on. -/
theorem Resumes.aware_self (resumes : Resumes cells state caller container stage)
    (sound : Sound cells state) : Aware cells (container.goTo caller stage) caller := by
  have aware := sound.aware caller
  have here : (container.goTo caller stage).calls caller = stage := by
    rw [goTo_calls, if_pos rfl]
  -- Most stages say nothing of a target.
  have silent : (∀ connection, stage ≠ .checking connection) →
      (∀ connection, stage ≠ .rechecking connection) → ¬ stage.Choosing →
      Aware cells (container.goTo caller stage) caller := by
    intro notChecking notRechecking notChoosing
    refine ⟨?_, ?_, ?_, ?_, ?_⟩
    · intro connection isChecking
      rw [here] at isChecking
      exact absurd isChecking (notChecking connection)
    · intro connection isChecking
      rw [here] at isChecking
      exact absurd isChecking (notChecking connection)
    · intro connection isRechecking
      rw [here] at isRechecking
      exact absurd isRechecking (notRechecking connection)
    · intro isChoosing
      rw [here] at isChoosing
      exact absurd isChoosing notChoosing
    · intro connection isStoring
      rw [here] at isStoring
      rw [isStoring] at notChoosing
      exact absurd trivial notChoosing
  -- A call that chooses knows that the target is disconnected.
  have chooses : stage.Choosing → container.targets = state.targets →
      container.statuses = state.statuses →
      (∀ key, cells caller = .partition key → ∀ connection,
        state.targets (cells caller) = some connection →
          state.statuses connection = .disconnected) →
      (∀ connection, stage = .storing (some connection) →
        state.statuses connection = .connected) →
      Aware cells (container.goTo caller stage) caller := by
    intro isChoosing targets statuses dead found
    refine ⟨?_, ?_, ?_, ?_, ?_⟩
    · intro connection isChecking
      rw [here] at isChecking
      rw [isChecking] at isChoosing
      exact isChoosing.elim
    · intro connection isChecking
      rw [here] at isChecking
      rw [isChecking] at isChoosing
      exact isChoosing.elim
    · intro connection isRechecking
      rw [here] at isRechecking
      rw [isRechecking] at isChoosing
      exact isChoosing.elim
    · intro _ key isPartition connection isTarget
      change container.statuses connection = _
      change container.targets (cells caller) = _ at isTarget
      rw [statuses]
      rw [targets] at isTarget
      exact dead key isPartition connection isTarget
    · intro connection isStoring
      rw [here] at isStoring
      change WasConnected (container.statuses connection)
      rw [statuses]
      exact .inl (found connection isStoring)
  cases resumes with
  | read connection isReading target =>
      refine ⟨?_, ?_, ?_, ?_, ?_⟩
      · intro other isChecking key isPartition
        rw [here, Stage.checking.injEq] at isChecking
        subst isChecking
        refine ⟨sound.targets key connection ?_, fun _ => target⟩
        rw [← isPartition]
        exact target
      · intro other isChecking scope isScope
        rw [here, Stage.checking.injEq] at isChecking
        subst isChecking
        exact target
      · rw [here]
        nofun
      · rw [here]
        nofun
      · rw [here]
        nofun
  | reread connection isRereading target =>
      refine ⟨?_, ?_, ?_, ?_, ?_⟩
      · rw [here]
        nofun
      · rw [here]
        nofun
      · intro other isRechecking
        rw [here, Stage.rechecking.injEq] at isRechecking
        subst isRechecking
        exact target
      · rw [here]
        nofun
      · rw [here]
        nofun
  | miss isReading target =>
      cases isCell : cells caller with
      | partition key =>
          rw [isCell] at silent
          exact silent nofun nofun id
      | scope scope =>
          rw [isCell] at chooses
          exact chooses trivial rfl rfl nofun nofun
  | stale connection isChecking inactive =>
      cases isCell : cells caller with
      | partition key =>
          rw [isCell] at silent
          exact silent nofun nofun id
      | scope scope =>
          rw [isCell] at chooses
          exact chooses trivial rfl rfl nofun nofun
  | hit connection isChecking active =>
      cases isCell : cells caller with
      | partition key =>
          rw [isCell] at silent
          exact silent nofun nofun id
      | scope scope =>
          rw [isCell] at silent
          exact silent nofun nofun id
  | missAgain isRereading target =>
      refine chooses trivial rfl rfl ?_ nofun
      intro key _ connection isTarget
      rw [target] at isTarget
      cases isTarget
  | staleAgain connection isRechecking inactive =>
      refine chooses trivial rfl rfl ?_ nofun
      intro key isPartition other isTarget
      have target := aware.rechecking connection isRechecking
      rw [target, Option.some.injEq] at isTarget
      subst isTarget
      rw [isPartition] at target
      exact (sound.targets key connection target).resolve_left inactive
  | choose currentConnections index direction isChoosing =>
      exact chooses trivial rfl rfl (aware.choosing (by simp [isChoosing])) nofun
  | pass currentConnections index direction retry position isScanning =>
      exact chooses trivial rfl rfl (aware.choosing (by simp [isScanning])) nofun
  | exhaust currentConnections index direction retry isScanning =>
      exact chooses trivial rfl rfl (aware.choosing (by simp [isScanning])) nofun
  | find currentConnections index direction retry connection isScanning active =>
      refine chooses trivial rfl rfl (aware.choosing (by simp [isScanning])) ?_
      intro other isStoring
      rw [Stage.storing.injEq, Option.some.injEq] at isStoring
      rw [← isStoring]
      exact active
  | _ => exact silent nofun nofun id

omit [DecidableEq κ] in
theorem Sound.resume (sound : Sound cells state)
    (resumes : Resumes cells state caller container stage) :
    Sound cells (container.goTo caller stage) := by
  obtain ⟨-, statuses, -⟩ := resumes.unchanged
  refine ⟨resumes.owned sound, ?_, ?_⟩
  · intro other
    by_cases isCaller : other = caller
    · rw [isCaller]
      exact resumes.aware_self sound
    · exact resumes.aware_other sound isCaller
  · intro key connection isTarget
    change WasConnected (container.statuses connection)
    change container.targets (.partition key) = _ at isTarget
    rw [statuses]
    rcases resumes.targets with kept | ⟨stored, isStoring, -, replaced⟩
    · rw [kept] at isTarget
      exact sound.targets key connection isTarget
    · rw [replaced] at isTarget
      by_cases isCell : Cell.partition key = cells caller
      · rw [isCell, Function.update_self] at isTarget
        rw [isTarget] at isStoring
        exact (sound.aware caller).storing connection isStoring
      · rw [Function.update_of_ne isCell] at isTarget
        exact sound.targets key connection isTarget

omit [DecidableEq ι] [DecidableEq σ] in
/-- A connection that was connected once does not connect again. -/
theorem wasConnected_change {status : ServiceConnectionStatus}
    (precedes : (state.statuses connection).precedes status = true) {other : κ}
    (before : WasConnected (state.statuses other)) :
    WasConnected (Function.update state.statuses connection status other) ∧
      (Function.update state.statuses connection status other = .connected →
        state.statuses other = .connected) ∧
      (state.statuses other = .disconnected →
        Function.update state.statuses connection status other = .disconnected) := by
  by_cases same : other = connection
  · subst same
    rw [Function.update_self]
    rcases before with connected | disconnected
    · rw [connected] at precedes ⊢
      cases status with
      | disconnected => exact ⟨.inr rfl, nofun, nofun⟩
      | _ => cases precedes
    · rw [disconnected] at precedes
      cases status <;> cases precedes
  · rw [Function.update_of_ne same]
    exact ⟨before, id, id⟩

omit [DecidableEq ι] [DecidableEq σ] in
theorem Sound.change (sound : Sound cells state) {status : ServiceConnectionStatus}
    (precedes : (state.statuses connection).precedes status = true) :
    Sound cells { state with statuses := Function.update state.statuses connection status } := by
  refine ⟨sound.owned, fun caller => ?_, ?_⟩
  · obtain ⟨checking, checkingScope, rechecking, choosing, storing⟩ := sound.aware caller
    refine ⟨?_, checkingScope, rechecking, ?_, ?_⟩
    · intro target isChecking key isPartition
      obtain ⟨wasConnected, isTarget⟩ := checking target isChecking key isPartition
      have changes := wasConnected_change precedes wasConnected
      exact ⟨changes.1, fun connected => isTarget (changes.2.1 connected)⟩
    · intro isChoosing key isPartition target isTarget
      have disconnected := choosing isChoosing key isPartition target isTarget
      exact (wasConnected_change precedes (.inr disconnected)).2.2 disconnected
    · intro target isStoring
      exact (wasConnected_change precedes (storing target isStoring)).1
  · intro key target isTarget
    exact (wasConnected_change precedes (sound.targets key target isTarget)).1

omit [DecidableEq ι] [DecidableEq κ] in
theorem Sound.clear (sound : Sound cells state)
    (collected : ∀ connection, state.targets cell = some connection →
      ∀ caller, state.calls caller ≠ .checking connection ∧
        state.calls caller ≠ .rechecking connection) :
    Sound cells (state.setTarget cell none) := by
  have kept : ∀ other connection, state.targets other = some connection →
      (∃ caller, state.calls caller = .checking connection ∨
        state.calls caller = .rechecking connection) →
      (state.setTarget cell none).targets other = some connection := by
    rintro other connection isTarget ⟨caller, looks⟩
    have differs : other ≠ cell := by
      rintro rfl
      obtain ⟨notChecking, notRechecking⟩ := collected connection isTarget caller
      exact looks.elim notChecking notRechecking
    change Function.update state.targets cell none other = _
    rw [Function.update_of_ne differs]
    exact isTarget
  have before : ∀ other connection, (state.setTarget cell none).targets other = some connection →
      state.targets other = some connection := by
    intro other connection isTarget
    change Function.update state.targets cell none other = _ at isTarget
    by_cases isCell : other = cell
    · rw [isCell, Function.update_self] at isTarget
      cases isTarget
    · rw [Function.update_of_ne isCell] at isTarget
      exact isTarget
  refine ⟨sound.owned, fun caller => ?_, ?_⟩
  · obtain ⟨checking, checkingScope, rechecking, choosing, storing⟩ := sound.aware caller
    refine ⟨?_, ?_, ?_, ?_, storing⟩
    · intro target isChecking key isPartition
      obtain ⟨wasConnected, isTarget⟩ := checking target isChecking key isPartition
      exact ⟨wasConnected, fun connected =>
        kept _ target (isTarget connected) ⟨caller, .inl isChecking⟩⟩
    · intro target isChecking scope isScope
      exact kept _ target (checkingScope target isChecking scope isScope) ⟨caller, .inl isChecking⟩
    · intro target isRechecking
      exact kept _ target (rechecking target isRechecking) ⟨caller, .inr isRechecking⟩
    · intro isChoosing key isPartition target isTarget
      exact choosing isChoosing key isPartition target (before _ target isTarget)
  · intro key target isTarget
    exact sound.targets key target (before _ target isTarget)

theorem sound_step {action : Action ι κ σ} (sound : Sound cells state)
    (collected : Collected state action) (stepped : step cells state action = some next) :
    Sound cells next := by
  cases steps_of_step stepped with
  | caller _ caller container stage resumes => exact sound.resume resumes
  | change connection status precedes => exact sound.change precedes
  | relist serviceConnections =>
      exact ⟨sound.owned, fun caller => (sound.aware caller).frame rfl rfl rfl, sound.targets⟩
  | clear cell connection target =>
      exact sound.clear fun connection isTarget => (collected connection isTarget).2

omit [DecidableEq ι] [DecidableEq σ] [DecidableEq κ] in
theorem sound_initial (cells : ι → Cell σ) (connections : List κ) (outbound : σ → Option κ) :
    Sound cells (initial connections outbound) where
  owned := by simp [initial]
  aware _ := by constructor <;> simp [initial]
  targets := by simp [initial]

/-! ## What is chosen stays -/

/-- What a call has decided on: a connection, or none, and then it is going to throw. -/
@[simp] def Stage.decision? : Stage κ → Option (Option κ)
  | .storing connection | .releasing connection | .returned connection => some connection
  | _ => none

/-- The connection is the target and nobody replaces it, or somebody is going to store it. -/
def Kept (cells : ι → Cell σ) (state : State ι σ κ) (cell : Cell σ) (connection : κ) : Prop :=
  (state.targets cell = some connection ∧
      ∀ caller, cells caller = cell → ¬ (state.calls caller).Choosing) ∨
    ∃ caller, cells caller = cell ∧ state.calls caller = .storing (some connection)

/-- The step at which a call chooses. -/
inductive Chooses (state : State ι σ κ) (caller : ι) (connection : κ) : Stage κ → Prop where
  | checking (stage : Stage κ) (looks : state.calls caller = .checking connection)
      (settled : ¬ stage.Choosing) : Chooses state caller connection stage
  | rechecking (stage : Stage κ) (looks : state.calls caller = .rechecking connection)
      (settled : ¬ stage.Choosing) : Chooses state caller connection stage
  | scanning (looks : (state.calls caller).Choosing)
      (undecided : (state.calls caller).decision? = none) :
      Chooses state caller connection (.storing (some connection))

omit [DecidableEq ι] [DecidableEq κ] in
theorem Resumes.chooses (resumes : Resumes cells state caller container stage)
    (before : (state.calls caller).decision? = none)
    (after : stage.decision? = some (some connection)) :
    container = state ∧ state.statuses connection = .connected ∧
      Chooses state caller connection stage := by
  cases resumes with
  | hit other isChecking active =>
      cases isCell : cells caller with
      | partition key =>
          rw [isCell] at after
          cases after
          exact ⟨rfl, active, .checking _ isChecking id⟩
      | scope scope =>
          rw [isCell] at after
          cases after
          exact ⟨rfl, active, .checking _ isChecking id⟩
  | hitAgain other isRechecking active =>
      cases after
      exact ⟨rfl, active, .rechecking _ isRechecking id⟩
  | find currentConnections index direction retry other isScanning active =>
      cases after
      exact ⟨rfl, active, .scanning (by simp [isScanning]) before⟩
  | miss _ _ | stale _ _ _ =>
      cases isCell : cells caller with
      | partition key =>
          rw [isCell] at after
          cases after
      | scope scope =>
          rw [isCell] at after
          cases after
  | store _ isDecided | release _ isDecided =>
      rw [isDecided] at before
      cases before
  | _ => cases after

omit [DecidableEq ι] [DecidableEq κ] in
/-- A call that finds no connection was looking through the list. -/
theorem Resumes.fails (resumes : Resumes cells state caller container stage)
    (before : (state.calls caller).decision? = none) (after : stage.decision? = some none) :
    (state.calls caller).Choosing := by
  cases resumes with
  | divide isChoosing => simp [isChoosing]
  | exhaust currentConnections index direction retry isScanning => simp [isScanning]
  | miss _ _ | stale _ _ _ | hit _ _ _ =>
      cases isCell : cells caller with
      | partition key =>
          rw [isCell] at after
          cases after
      | scope scope =>
          rw [isCell] at after
          cases after
  | store _ isDecided | release _ isDecided =>
      rw [isDecided] at before
      cases before
  | _ => cases after

omit [DecidableEq ι] [DecidableEq κ] in
/-- A call returns what it has decided on. -/
theorem Resumes.decided (resumes : Resumes cells state caller container stage)
    {decision : Option κ} (before : (state.calls caller).decision? = some decision) :
    stage.decision? = some decision := by
  cases resumes with
  | store _ isDecided | release _ isDecided =>
      rw [isDecided] at before
      exact before
  | enter isStage _ _ | enterScope isStage _ _ _ | read _ isStage _ | miss isStage _
  | hit _ isStage _ | stale _ isStage _ | lock isStage _ | reread _ isStage _
  | missAgain isStage _ | hitAgain _ isStage _ | staleAgain _ isStage _ | divide isStage
  | choose _ _ _ isStage | find _ _ _ _ _ isStage _ | pass _ _ _ _ _ isStage
  | exhaust _ _ _ _ isStage =>
      rw [isStage] at before
      cases before

omit [DecidableEq ι] [DecidableEq σ] [DecidableEq κ] in
/-- What a call is looking at and is connected is the target, and nobody replaces it. -/
theorem Sound.settled (sound : Sound cells state)
    (looks : state.calls caller = .checking connection ∨
      state.calls caller = .rechecking connection)
    (connected : state.statuses connection = .connected) :
    state.targets (cells caller) = some connection ∧
      ∀ other, cells other = cells caller → ¬ (state.calls other).Choosing := by
  have alone : (state.calls caller).Exclusive (cells caller) → ∀ other,
      cells other = cells caller → ¬ (state.calls other).Choosing := by
    intro isExclusive other isCell isChoosing
    rw [sound.exclusive rfl isExclusive isCell (exclusive_of_choosing isChoosing)] at isChoosing
    rcases looks with isChecking | isRechecking
    · rw [isChecking] at isChoosing
      exact isChoosing
    · rw [isRechecking] at isChoosing
      exact isChoosing
  rcases looks with isChecking | isRechecking
  · cases isCell : cells caller with
    | partition key =>
        have target := ((sound.aware caller).checking connection isChecking key isCell).2 connected
        rw [isCell] at target
        refine ⟨target, fun other sameCell isChoosing => ?_⟩
        have dead := (sound.aware other).choosing isChoosing key sameCell connection
          (by rw [sameCell]; exact target)
        rw [connected] at dead
        cases dead
    | scope scope =>
        have target := (sound.aware caller).checkingScope connection isChecking scope isCell
        rw [isCell] at target alone
        exact ⟨target, alone (by simp [isChecking])⟩
  · exact ⟨(sound.aware caller).rechecking connection isRechecking,
      alone (by simp [isRechecking])⟩

omit [DecidableEq σ] [DecidableEq κ] in
/-- What is chosen is kept. -/
theorem Sound.kept_of_chooses (sound : Sound cells state)
    (connected : state.statuses connection = .connected)
    (chooses : Chooses state caller connection stage) :
    Kept cells (state.goTo caller stage) (cells caller) connection := by
  have settle : state.calls caller = .checking connection ∨
      state.calls caller = .rechecking connection → ¬ stage.Choosing →
      Kept cells (state.goTo caller stage) (cells caller) connection := by
    intro looks notChoosing
    obtain ⟨target, quiet⟩ := sound.settled looks connected
    refine .inl ⟨target, fun other isCell => ?_⟩
    rw [goTo_calls]
    split_ifs
    · exact notChoosing
    · exact quiet other isCell
  cases chooses with
  | checking _ looks settled => exact settle (.inl looks) settled
  | rechecking _ looks settled => exact settle (.inr looks) settled
  | scanning looks undecided => exact .inr ⟨caller, rfl, by rw [goTo_calls, if_pos rfl]⟩

omit [DecidableEq ι] [DecidableEq σ] [DecidableEq κ] in
/-- While the connection is kept, a call that looks through the list has found it. -/
theorem Sound.not_choosing_of_kept (sound : Sound cells state)
    (kept : Kept cells state (cells caller) connection)
    (undecided : (state.calls caller).decision? = none) : ¬ (state.calls caller).Choosing := by
  intro looks
  rcases kept with ⟨-, quiet⟩ | ⟨storer, isCell, isStoring⟩
  · exact quiet caller rfl looks
  · have same : storer = caller :=
      sound.exclusive rfl (exclusive_of_choosing looks) isCell (by simp [isStoring])
    rw [← same, isStoring] at undecided
    cases undecided

omit [DecidableEq ι] [DecidableEq σ] [DecidableEq κ] in
/-- While the connection is kept and connected, nobody chooses another. -/
theorem Sound.choice_of_kept (sound : Sound cells state) {other : κ}
    (kept : Kept cells state (cells caller) connection)
    (active : state.statuses other = .connected)
    (chooses : Chooses state caller other stage) : other = connection := by
  have looking : state.calls caller = .checking other ∨ state.calls caller = .rechecking other →
      other = connection := by
    intro looks
    obtain ⟨target, quiet⟩ := sound.settled looks active
    rcases kept with ⟨isTarget, -⟩ | ⟨storer, isCell, isStoring⟩
    · rw [isTarget, Option.some.injEq] at target
      exact target.symm
    · exact absurd (by simp [isStoring]) (quiet storer isCell)
  cases chooses with
  | checking _ looks settled => exact looking (.inl looks)
  | rechecking _ looks settled => exact looking (.inr looks)
  | scanning looks undecided => exact absurd looks (sound.not_choosing_of_kept kept undecided)

omit [DecidableEq ι] [DecidableEq κ] in
/-- A call that begins to choose has found no active target. -/
theorem Resumes.choosing (resumes : Resumes cells state caller container stage)
    (sound : Sound cells state) (target : state.targets (cells caller) = some connection)
    (connected : state.statuses connection = .connected) (isChoosing : stage.Choosing) :
    (state.calls caller).Choosing := by
  have aware := sound.aware caller
  cases resumes with
  | miss isReading missing =>
      rw [missing] at target
      cases target
  | missAgain isRereading missing =>
      rw [missing] at target
      cases target
  | stale other isChecking inactive =>
      cases isCell : cells caller with
      | partition key =>
          rw [isCell] at isChoosing
          exact isChoosing.elim
      | scope scope =>
          have isTarget := aware.checkingScope other isChecking scope isCell
          rw [target, Option.some.injEq] at isTarget
          exact absurd (isTarget ▸ connected) inactive
  | staleAgain other isRechecking inactive =>
      have isTarget := aware.rechecking other isRechecking
      rw [target, Option.some.injEq] at isTarget
      exact absurd (isTarget ▸ connected) inactive
  | hit other isChecking active =>
      cases isCell : cells caller with
      | partition key =>
          rw [isCell] at isChoosing
          exact isChoosing.elim
      | scope scope =>
          rw [isCell] at isChoosing
          exact isChoosing.elim
  | choose currentConnections index direction wasChoosing => simp [wasChoosing]
  | pass currentConnections index direction retry position isScanning => simp [isScanning]
  | exhaust currentConnections index direction retry isScanning => simp [isScanning]
  | find currentConnections index direction retry other isScanning active => simp [isScanning]
  | _ => exact isChoosing.elim

omit [DecidableEq ι] [DecidableEq κ] in
theorem Resumes.stores (resumes : Resumes cells state caller container stage) {stored : Option κ}
    (isStoring : state.calls caller = .storing stored) :
    stage = .releasing stored ∧
      container.targets = Function.update state.targets (cells caller) stored := by
  cases resumes with
  | store other alsoStoring =>
      rw [isStoring, Stage.storing.injEq] at alsoStoring
      rw [alsoStoring]
      exact ⟨rfl, rfl⟩
  | enter isStage _ _ | enterScope isStage _ _ _ | read _ isStage _ | miss isStage _
  | hit _ isStage _ | stale _ isStage _ | lock isStage _ | reread _ isStage _
  | missAgain isStage _ | hitAgain _ isStage _ | staleAgain _ isStage _ | divide isStage
  | choose _ _ _ isStage | find _ _ _ _ _ isStage _ | pass _ _ _ _ _ isStage
  | exhaust _ _ _ _ isStage | release _ isStage =>
      rw [isStoring] at isStage
      cases isStage

omit [DecidableEq κ] in
theorem Sound.kept_resume (sound : Sound cells state) (kept : Kept cells state cell connection)
    (connected : state.statuses connection = .connected)
    (resumes : Resumes cells state caller container stage) :
    Kept cells (container.goTo caller stage) cell connection := by
  obtain ⟨calls, -, -⟩ := resumes.unchanged
  have elsewhere : ∀ other, other ≠ caller →
      (container.goTo caller stage).calls other = state.calls other := by
    intro other differs
    rw [goTo_calls, if_neg differs, calls]
  have here : (container.goTo caller stage).calls caller = stage := by
    rw [goTo_calls, if_pos rfl]
  rcases kept with ⟨target, quiet⟩ | ⟨storer, isCell, isStoring⟩
  · refine .inl ⟨?_, ?_⟩
    · change container.targets cell = _
      rcases resumes.targets with same | ⟨stored, isStoring, -, replaced⟩
      · rw [same]
        exact target
      · have differs : cell ≠ cells caller := by
          rintro rfl
          exact quiet caller rfl (by simp [isStoring])
        rw [replaced, Function.update_of_ne differs]
        exact target
    · intro other sameCell isChoosing
      by_cases isCaller : other = caller
      · subst isCaller
        subst sameCell
        rw [here] at isChoosing
        exact quiet other rfl (resumes.choosing sound target connected isChoosing)
      · rw [elsewhere other isCaller] at isChoosing
        exact quiet other sameCell isChoosing
  · by_cases isCaller : storer = caller
    · subst isCaller
      subst isCell
      -- The call stores its connection now.
      obtain ⟨isReleasing, replaced⟩ := resumes.stores isStoring
      refine .inl ⟨?_, fun other sameCell isChoosing => ?_⟩
      · change container.targets _ = _
        rw [replaced, Function.update_self]
      · by_cases isStorer : other = storer
        · rw [isStorer, here, isReleasing] at isChoosing
          exact isChoosing
        · rw [elsewhere other isStorer] at isChoosing
          exact isStorer (sound.exclusive rfl (by simp [isStoring]) sameCell
            (exclusive_of_choosing isChoosing))
    · exact .inr ⟨storer, isCell, by rw [elsewhere storer isCaller]; exact isStoring⟩

/-- The connection is connected and listed. -/
def Usable (connection : κ) (state : State ι σ κ) : Prop :=
  state.statuses connection = .connected ∧ connection ∈ state.serviceConnections

instance (connection : κ) (state : State ι σ κ) : Decidable (Usable connection state) :=
  inferInstanceAs (Decidable (_ ∧ _))

theorem kept_step {action : Action ι κ σ} (sound : Sound cells state)
    (collected : Collected state action) (usable : Usable connection state)
    (kept : Kept cells state cell connection) (stepped : step cells state action = some next) :
    Kept cells next cell connection := by
  cases steps_of_step stepped with
  | caller _ caller container stage resumes => exact sound.kept_resume kept usable.1 resumes
  | change other status precedes => exact kept
  | relist serviceConnections => exact kept
  | clear cleared other isTarget =>
      rcases kept with ⟨target, quiet⟩ | storing
      · refine .inl ⟨?_, quiet⟩
        have differs : cell ≠ cleared := by
          rintro rfl
          exact (collected connection target).1 usable.2
        change Function.update state.targets cleared none cell = _
        rw [Function.update_of_ne differs]
        exact target
      · exact .inr storing

/-- A step at which a call decides is one of the call. -/
theorem resumes_of_decides {action : Action ι κ σ} (stepped : step cells state action = some next)
    {decision : Option κ} (before : (state.calls caller).decision? = none)
    (after : (next.calls caller).decision? = some decision) :
    ∃ container stage, Resumes cells state caller container stage ∧
      next = container.goTo caller stage ∧ stage.decision? = some decision := by
  have unchanged : next.calls caller = state.calls caller → False := by
    intro same
    rw [same, before] at after
    cases after
  cases steps_of_step stepped with
  | caller _ other container stage resumes =>
      by_cases isCaller : caller = other
      · subst isCaller
        rw [goTo_calls, if_pos rfl] at after
        exact ⟨container, stage, resumes, rfl, after⟩
      · refine (unchanged ?_).elim
        rw [goTo_calls, if_neg isCaller, resumes.unchanged.1]
  | change other status precedes => exact (unchanged rfl).elim
  | relist serviceConnections => exact (unchanged rfl).elim
  | clear cleared other isTarget => exact (unchanged rfl).elim

/-- A step at which a call chooses a connection. -/
theorem chooses_of_step {action : Action ι κ σ} (stepped : step cells state action = some next)
    (before : (state.calls caller).decision? = none)
    (after : (next.calls caller).decision? = some (some connection)) :
    ∃ stage, next = state.goTo caller stage ∧ state.statuses connection = .connected ∧
      Chooses state caller connection stage := by
  obtain ⟨container, stage, resumes, isNext, decided⟩ := resumes_of_decides stepped before after
  obtain ⟨rfl, connected, chooses⟩ := resumes.chooses before decided
  exact ⟨stage, isNext, connected, chooses⟩

/-- While the connection is kept, a call that decides has it. -/
theorem Sound.decision_of_kept (sound : Sound cells state)
    (kept : Kept cells state (cells caller) connection) {action : Action ι κ σ}
    (stepped : step cells state action = some next) {decision : Option κ}
    (before : (state.calls caller).decision? = none)
    (after : (next.calls caller).decision? = some decision) : decision = some connection := by
  cases decision with
  | none =>
      obtain ⟨container, stage, resumes, -, decided⟩ := resumes_of_decides stepped before after
      exact absurd (resumes.fails before decided) (sound.not_choosing_of_kept kept before)
  | some choice =>
      obtain ⟨stage, -, active, chooses⟩ := chooses_of_step stepped before after
      rw [sound.choice_of_kept kept active chooses]

/-- What a call has decided on stays, whatever happens to the connection. -/
theorem decided_step {action : Action ι κ σ} (stepped : step cells state action = some next)
    {decision : Option κ} (before : (state.calls caller).decision? = some decision) :
    (next.calls caller).decision? = some decision := by
  cases steps_of_step stepped with
  | caller _ other container stage resumes =>
      rw [goTo_calls]
      split_ifs with isCaller
      · subst isCaller
        exact resumes.decided before
      · rw [resumes.unchanged.1]
        exact before
  | change other status precedes => exact before
  | relist serviceConnections => exact before
  | clear cleared other isTarget => exact before

theorem decided_run {actions : List (Action ι κ σ)} {decision : Option κ}
    (before : (state.calls caller).decision? = some decision)
    (ran : Machine.run (step cells) state actions = some next) :
    (next.calls caller).decision? = some decision :=
  Machine.run_invariant (fun decided stepped => decided_step stepped decided) before ran

end Invariant

/-! ## Affinity -/

section Affinity

variable {connection : κ} {cell : Cell σ}

/-- What a run keeps while the connection is usable. -/
def Affine (cells : ι → Cell σ) (cell : Cell σ) (connection : κ) (state : State ι σ κ) : Prop :=
  Sound cells state ∧ Kept cells state cell connection

theorem affine_step {state next : State ι σ κ} {action : Action ι κ σ}
    (affine : Affine cells cell connection state)
    (condition : Collected state action ∧ Usable connection state)
    (stepped : step cells state action = some next) : Affine cells cell connection next :=
  ⟨sound_step affine.1 condition.1 stepped,
    kept_step affine.1 condition.1 condition.2 affine.2 stepped⟩

/-- Two calls that look into one cell, the box of a partition key or a scope, and decide one
after the other: if the connection that the first has chosen is usable from there to the decision
of the second, the second does not fail but chooses it too, and it is what both return. -/
theorem partition_affinity (cells : ι → Cell σ) (serviceConnections : List κ)
    (outboundConnections : σ → Option κ) (actions more : List (Action ι κ σ))
    (firstAction secondAction : Action ι κ σ) {before chosen later final : State ι σ κ}
    (ran : Machine.run (step cells) (initial serviceConnections outboundConnections) actions =
      some before)
    (first : step cells before firstAction = some chosen)
    (continued : Machine.run (step cells) chosen more = some later)
    (second : step cells later secondAction = some final)
    (collected : Machine.Along (step cells) Collected
      (initial serviceConnections outboundConnections) (actions ++ firstAction :: more))
    (one other : ι) (sameCell : cells one = cells other) {connection : κ} {decision : Option κ}
    (undecided : (before.calls one).decision? = none)
    (decided : (chosen.calls one).decision? = some (some connection))
    (usable : Machine.Along (step cells) (fun state _ => Usable connection state) chosen more)
    (undecidedOther : (later.calls other).decision? = none)
    (decides : (final.calls other).decision? = some decision) :
    decision = some connection ∧
      ∀ rest last, Machine.run (step cells) final rest = some last →
        (last.calls one).decision? = some (some connection) ∧
          (last.calls other).decision? = some (some connection) := by
  obtain ⟨collectedBefore, collectedAfter⟩ := collected.of_append ran
  have sound : Sound cells before :=
    Machine.run_along sound_step (sound_initial cells serviceConnections outboundConnections)
      collectedBefore ran
  obtain ⟨stage, rfl, connected, isChoice⟩ := chooses_of_step first undecided decided
  have affine : Affine cells (cells one) connection (before.goTo one stage) :=
    ⟨sound_step sound collectedAfter.1 first, sound.kept_of_chooses connected isChoice⟩
  obtain ⟨soundLater, kept⟩ : Affine cells (cells one) connection later :=
    Machine.run_along affine_step affine ((collectedAfter.2 _ first).and usable) continued
  rw [sameCell] at kept
  have same : decision = some connection :=
    soundLater.decision_of_kept kept second undecidedOther decides
  refine ⟨same, fun rest last moved => ⟨?_, ?_⟩⟩
  · exact decided_run (decided_step second (decided_run decided continued)) moved
  · rw [same] at decides
    exact decided_run decides moved

/-- Nothing is collected while nothing is cleared. -/
theorem collected_of_forall {actions : List (Action ι κ σ)}
    (none : ∀ action ∈ actions, ∀ cell, action ≠ .clear cell) (state : State ι σ κ) :
    Machine.Along (step cells) Collected state actions := by
  induction actions generalizing state with
  | nil => trivial
  | cons action actions inductionHypothesis =>
      refine ⟨?_, fun next _ => inductionHypothesis
        (fun other member => none other (List.mem_cons_of_mem _ member)) next⟩
      cases action with
      | clear cell => exact absurd rfl (none _ List.mem_cons_self cell)
      | _ => trivial

end Affinity

/-- Two calls for one partition key. -/
def oneKey : Nat → Cell Unit := fun _ => .partition 5

/-- A connection connects, and the first call finds it by scanning the list. -/
def scans : List (Action Nat Nat Unit) :=
  [.change 7 .connecting, .change 7 .connected, .call 0, .resume 0 0, .resume 0 0, .resume 0 0,
    .resume 0 0]

/-- The second call finds it in the box. -/
def looksUp : List (Action Nat Nat Unit) := [.resume 0 0, .resume 0 0, .call 1, .resume 1 0]

theorem partition_affinity_oneKey :
    ∃ before chosen later final : State Nat Unit Nat,
      Machine.run (step oneKey) (initial [7] fun _ => none) scans = some before ∧
      step oneKey before (.resume 0 0) = some chosen ∧ chosen.calls 0 = .storing (some 7) ∧
      Machine.run (step oneKey) chosen looksUp = some later ∧
      step oneKey later (.resume 1 0) = some final ∧ final.calls 1 = .returned (some 7) ∧
      ∀ decision, (final.calls 1).decision? = some decision → decision = some 7 := by
  refine ⟨_, _, _, _, rfl, rfl, rfl, rfl, rfl, rfl, ?_⟩
  intro decision decides
  have affinity := partition_affinity oneKey [7] (fun _ => none) scans looksUp (.resume 0 0)
    (.resume 1 0) rfl rfl rfl rfl (collected_of_forall (by simp [scans, looksUp]) _) 0 1 rfl rfl
    rfl (by decide) rfl decides
  exact affinity.1

end AzureSignalR.ServiceConnections.ConnectionSelection
