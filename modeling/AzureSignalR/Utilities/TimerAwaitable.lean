import AzureSignalR.Library.Machine
import Mathlib.Tactic.Common

/-!
Contract: `TimerAwaitable` with the loop that awaits it.

Owns: `Start`, `Tick`, `Stop` and `Dispose` as any number of threads call them, the accesses to
`_callback` and `_running` of one `while (await timer)` loop, and that no stop that ticks is slept
through.

Does not own: when the timer fires, or what the loop does between two awaits. A timer that is
disposed of may still fire, but nothing says that it does: behind a `Dispose` no `Stop` ticks any
more, and a loop that waits then may wait for ever.
-/

set_option autoImplicit false

namespace AzureSignalR.Utilities.TimerAwaitable

open Library

/-- What `_callback` refers to. -/
inductive Callback where
  | null
  /-- The continuation of the loop. -/
  | continuation
  /-- `_callbackCompleted`. -/
  | completed
deriving DecidableEq, Repr

/-- How far the loop has got. -/
inductive Stage where
  /-- In front of `IsCompleted`. -/
  | awaiting
  /-- In `OnCompleted`, in front of the first comparison. -/
  | checking
  /-- In front of `Interlocked.CompareExchange`. -/
  | exchanging
  | suspended
  /-- In `GetResult`, in front of `_callback = null`. -/
  | clearing
  /-- In front of `return _running`. -/
  | reading
  /-- Between two awaits. -/
  | body
  | ended
deriving DecidableEq, Repr

structure State where
  callback : Callback := .null
  running : Bool := true
  disposed : Bool := false
  /-- Whether `_timer` is set. -/
  timer : Bool := false
  loop : Stage := .awaiting
  /-- The calls of `Start` in front of the lock. -/
  starting : Nat := 0
  /-- The calls of `Stop` behind the lock and in front of `Tick`. -/
  stopping : Nat := 0
  /-- The threads that are about to invoke the continuation. -/
  taken : Nat := 0
  /-- How many timers there have been; it and what follows is read by no call. -/
  created : Nat := 0
  ticks : Nat := 0
  /-- Whether a `Stop` has been through `Tick`. One behind a `Dispose` returns in front of it. -/
  stopped : Bool := false
  /-- How often the loop has been told to go on. -/
  rounds : Nat := 0
  /-- The continuation was invoked while the loop was not suspended. -/
  overrun : Bool := false
deriving DecidableEq, Repr

inductive Action where
  | start
  | startLocked
  /-- The timer fires. -/
  | tick
  | stop
  | stopTick
  | dispose
  /-- A thread invokes the continuation it has taken. -/
  | invoke
  /-- The loop goes on. -/
  | proceed
deriving DecidableEq, Repr

namespace State

variable (state : State)

/-- `Interlocked.Exchange` in `Tick`. -/
def exchange : State :=
  { state with
    callback := .completed
    taken := if state.callback = .continuation then state.taken + 1 else state.taken
    ticks := state.ticks + 1 }

/-- The unlocked test of `Start`. -/
def start : State :=
  if state.timer then state else { state with starting := state.starting + 1 }

def startLocked : State :=
  if state.disposed then { state with starting := state.starting - 1 }
  else if state.timer then { state with starting := state.starting - 1 }
  else
    { state with
      starting := state.starting - 1
      timer := true
      created := state.created + 1 }

/-- The lock of `Stop`. -/
def stop : State :=
  if state.disposed then state
  else { state with running := false, stopping := state.stopping + 1 }

def stopTick : State :=
  { state.exchange with stopping := state.stopping - 1, stopped := true }

def dispose : State := { state with disposed := true, timer := false }

def invoke : State :=
  if state.loop = .suspended then
    { state with taken := state.taken - 1, loop := .clearing }
  else { state with taken := state.taken - 1, overrun := true }

/-- `Task.Run(continuation)`. -/
def schedule : State := { state with taken := state.taken + 1, loop := .suspended }

/-- The next access of the loop. -/
def proceed : Option State :=
  match state.loop with
  | .awaiting =>
      some { state with loop := if state.callback = .completed then .clearing else .checking }
  | .checking =>
      some (if state.callback = .completed then state.schedule
        else { state with loop := .exchanging })
  | .exchanging =>
      some (match state.callback with
        | .null => { state with callback := .continuation, loop := .suspended }
        | .completed => state.schedule
        | .continuation => { state with loop := .suspended })
  | .suspended => none
  | .clearing => some { state with callback := .null, loop := .reading }
  | .reading =>
      some (if state.running then { state with loop := .body, rounds := state.rounds + 1 }
        else { state with loop := .ended })
  | .body => some { state with loop := .awaiting }
  | .ended => none

end State

def step (state : State) : Action → Option State
  | .start => some state.start
  | .startLocked => if state.starting = 0 then none else some state.startLocked
  | .tick => if state.created = 0 then none else some state.exchange
  | .stop => some state.stop
  | .stopTick => if state.stopping = 0 then none else some state.stopTick
  | .dispose => some state.dispose
  | .invoke => if state.taken = 0 then none else some state.invoke
  | .proceed => state.proceed

/-! ## The invariant -/

/-- The stages in which the loop has yet to look at `_callback`. -/
def Stage.isOutside : Stage → Bool
  | .awaiting | .checking | .exchanging | .body => true
  | .suspended | .clearing | .reading | .ended => false

/-- The ticks that the loop has not gone round for: several that come before it looks are one. -/
def State.pending (state : State) : Nat :=
  match state.loop with
  | .awaiting | .checking | .exchanging | .body => if state.callback = .completed then 1 else 0
  | .suspended => state.taken
  | .clearing => 1
  | .reading => if state.callback = .completed then 2 else 1
  | .ended => 0

/-- While the loop is suspended, its continuation is in one place. -/
structure Held (state : State) : Prop where
  suspended : state.loop = .suspended →
    state.taken = 1 ∧ state.callback ≠ .continuation ∨
      state.taken = 0 ∧ state.callback = .continuation
  free : state.loop ≠ .suspended → state.taken = 0 ∧ state.callback ≠ .continuation

/-- Behind a stop the loop is on its way out. -/
structure Leaves (state : State) : Prop where
  halted : state.running = false
  outside : state.loop.isOutside = true → state.callback = .completed
  suspended : state.loop = .suspended → state.taken = 1

structure Sound (state : State) : Prop where
  held : Held state
  invoked : state.overrun = false
  rounds : state.rounds + state.pending ≤ state.ticks
  single : state.created ≤ 1
  alive : state.timer = true → state.created = 1 ∧ state.disposed = false
  once : state.created = 1 → state.timer = true ∨ state.disposed = true
  ended : state.loop = .ended → state.running = false
  stopping : state.stopping ≠ 0 → state.running = false
  leaves : state.stopped = true → Leaves state

theorem sound_initial : Sound {} where
  held := ⟨by simp, by simp⟩
  invoked := rfl
  rounds := Nat.le_refl 0
  single := Nat.zero_le 1
  alive := by simp
  once := by simp
  ended := by simp
  stopping := by simp
  leaves := by simp

variable {state next : State}

/-! ## Ticks -/

theorem Held.exchange (held : Held state) : Held state.exchange := by
  constructor
  · intro suspended
    left
    rcases held.suspended suspended with ⟨taken, notThere⟩ | ⟨taken, isThere⟩
    · exact ⟨by rw [State.exchange, if_neg notThere, taken], by simp [State.exchange]⟩
    · exact ⟨by rw [State.exchange, if_pos isThere, taken], by simp [State.exchange]⟩
  · intro notSuspended
    obtain ⟨taken, notThere⟩ := held.free notSuspended
    exact ⟨by rw [State.exchange, if_neg notThere, taken], by simp [State.exchange]⟩

/-- A tick is at most one more round of the loop. -/
theorem Held.pending_exchange (held : Held state) :
    state.exchange.pending ≤ state.pending + 1 := by
  cases loop : state.loop with
  | suspended =>
      have after := held.exchange.suspended loop
      simp only [State.pending, State.exchange, loop] at after ⊢
      omega
  | awaiting | checking | exchanging | body | reading =>
      simp only [State.pending, State.exchange, loop]
      split_ifs <;> omega
  | clearing | ended => simp [State.pending, State.exchange, loop]

/-- `Tick` hands the continuation over, or leaves a tick for the loop to find. -/
theorem Sound.exchange (sound : Sound state) : Sound state.exchange where
  held := sound.held.exchange
  invoked := sound.invoked
  rounds := by
    have before := sound.rounds
    have more := sound.held.pending_exchange
    show state.rounds + _ ≤ state.ticks + 1
    omega
  single := sound.single
  alive := sound.alive
  once := sound.once
  ended := sound.ended
  stopping := sound.stopping
  leaves := by
    intro stopped
    obtain ⟨halted, -, suspended⟩ := sound.leaves stopped
    refine ⟨halted, fun _ => rfl, fun isSuspended => ?_⟩
    have after := sound.held.exchange.suspended isSuspended
    exact (after.resolve_right fun none => absurd none.2 (by simp [State.exchange])).1

/-! ## Calls -/

theorem Sound.start (sound : Sound state) : Sound state.start := by
  rw [State.start]
  split_ifs
  · exact sound
  · exact { sound with held := ⟨sound.held.suspended, sound.held.free⟩
                       leaves := fun stopped => { sound.leaves stopped with } }

theorem Sound.startLocked (sound : Sound state) : Sound state.startLocked := by
  rw [State.startLocked]
  split_ifs with disposed timer
  · exact { sound with held := ⟨sound.held.suspended, sound.held.free⟩
                       leaves := fun stopped => { sound.leaves stopped with } }
  · exact { sound with held := ⟨sound.held.suspended, sound.held.free⟩
                       leaves := fun stopped => { sound.leaves stopped with } }
  · have single := sound.single
    have none : state.created = 0 := by
      by_contra some
      rcases sound.once (by omega) with there | isDisposed
      · exact timer there
      · exact disposed isDisposed
    exact
      { sound with
        held := ⟨sound.held.suspended, sound.held.free⟩
        leaves := fun stopped => { sound.leaves stopped with }
        single := by simp [none]
        alive := fun _ => ⟨by simp [none], by simpa using disposed⟩
        once := fun _ => .inl rfl }

theorem Sound.stop (sound : Sound state) : Sound state.stop := by
  rw [State.stop]
  split_ifs
  · exact sound
  · exact
      { sound with
        held := ⟨sound.held.suspended, sound.held.free⟩
        ended := fun _ => rfl
        stopping := fun _ => rfl
        leaves := fun stopped => { sound.leaves stopped with halted := rfl } }

/-- A stop leaves nothing for the loop to wait for. -/
theorem Sound.stopTick (sound : Sound state) (inside : state.stopping ≠ 0) :
    Sound state.stopTick where
  held := ⟨sound.exchange.held.suspended, sound.exchange.held.free⟩
  invoked := sound.invoked
  rounds := sound.exchange.rounds
  single := sound.single
  alive := sound.alive
  once := sound.once
  ended := sound.ended
  stopping _ := sound.stopping inside
  leaves _ :=
    { halted := sound.stopping inside
      outside := fun _ => rfl
      suspended := fun isSuspended => by
        have after := sound.exchange.held.suspended isSuspended
        exact (after.resolve_right fun none => absurd none.2 (by simp [State.exchange])).1 }

theorem Sound.dispose (sound : Sound state) : Sound state.dispose :=
  { sound with
    held := ⟨sound.held.suspended, sound.held.free⟩
    leaves := fun stopped => { sound.leaves stopped with }
    alive := by simp [State.dispose]
    once := fun _ => .inr rfl }

/-- A continuation is invoked only where the loop waits for it. -/
theorem Sound.invoke (sound : Sound state) (taken : state.taken ≠ 0) : Sound state.invoke := by
  have suspended : state.loop = .suspended := by
    by_contra elsewhere
    exact taken (sound.held.free elsewhere).1
  have held := (sound.held.suspended suspended).resolve_right fun none => taken none.1
  have rounds := sound.rounds
  rw [State.invoke, if_pos suspended]
  exact
    { sound with
      held := ⟨by simp, fun _ => ⟨by simp [held.1], held.2⟩⟩
      rounds := by
        simp only [State.pending, suspended, held.1] at rounds ⊢
        exact rounds
      ended := by simp
      leaves := fun stopped =>
        { halted := (sound.leaves stopped).halted
          outside := by simp [Stage.isOutside]
          suspended := by simp } }

/-! ## The loop -/

/-- What the loop does next; a continuation that is there already is no other one's. -/
inductive Proceeds (state : State) : State → Prop where
  | finds (loop : state.loop = .awaiting) (completed : state.callback = .completed) :
      Proceeds state { state with loop := .clearing }
  | goesTo (stage : Stage) (outside : state.loop.isOutside = true)
      (alsoOutside : stage.isOutside = true) : Proceeds state { state with loop := stage }
  | schedules (outside : state.loop.isOutside = true) (completed : state.callback = .completed) :
      Proceeds state state.schedule
  | suspends (outside : state.loop.isOutside = true) (null : state.callback = .null) :
      Proceeds state { state with callback := .continuation, loop := .suspended }
  | joins (outside : state.loop.isOutside = true) (other : state.callback = .continuation) :
      Proceeds state { state with loop := .suspended }
  | clears (loop : state.loop = .clearing) :
      Proceeds state { state with callback := .null, loop := .reading }
  | goesOn (loop : state.loop = .reading) (running : state.running = true) :
      Proceeds state { state with loop := .body, rounds := state.rounds + 1 }
  | ends (loop : state.loop = .reading) (halted : state.running = false) :
      Proceeds state { state with loop := .ended }

theorem proceeds_of_proceed (proceeded : state.proceed = some next) : Proceeds state next := by
  unfold State.proceed at proceeded
  cases loop : state.loop with
  | suspended | ended =>
      rw [loop] at proceeded
      cases proceeded
  | awaiting =>
      rw [loop] at proceeded
      cases proceeded
      split_ifs with completed
      · exact .finds loop completed
      · exact .goesTo _ (by rw [loop]; rfl) rfl
  | checking =>
      rw [loop] at proceeded
      cases proceeded
      split_ifs with completed
      · exact .schedules (by rw [loop]; rfl) completed
      · exact .goesTo _ (by rw [loop]; rfl) rfl
  | exchanging =>
      rw [loop] at proceeded
      cases proceeded
      split
      next callback => exact .suspends (by rw [loop]; rfl) callback
      next callback => exact .schedules (by rw [loop]; rfl) callback
      next callback => exact .joins (by rw [loop]; rfl) callback
  | clearing =>
      rw [loop] at proceeded
      cases proceeded
      exact .clears loop
  | reading =>
      rw [loop] at proceeded
      cases proceeded
      split_ifs with running
      · exact .goesOn loop running
      · exact .ends loop (by simpa using running)
  | body =>
      rw [loop] at proceeded
      cases proceeded
      exact .goesTo _ (by rw [loop]; rfl) rfl

theorem pending_of_outside (outside : state.loop.isOutside = true) :
    state.pending = if state.callback = .completed then 1 else 0 := by
  unfold State.pending
  cases loop : state.loop with
  | awaiting | checking | exchanging | body => rfl
  | suspended | clearing | reading | ended =>
      rw [loop] at outside
      cases outside

theorem Held.outside (held : Held state) (outside : state.loop.isOutside = true) :
    state.taken = 0 ∧ state.callback ≠ .continuation := by
  refine held.free fun suspended => ?_
  rw [suspended] at outside
  cases outside

/-- The loop goes on, and what it has not seen of the ticks stays. -/
theorem Sound.proceed (sound : Sound state) (proceeds : Proceeds state next) : Sound next := by
  have rounds := sound.rounds
  cases proceeds with
  | finds loop completed =>
      have held := sound.held.free (by simp [loop])
      simp only [State.pending, loop, completed] at rounds
      exact
        { sound with
          held := ⟨by simp, fun _ => held⟩
          rounds := rounds
          ended := by simp
          leaves := fun stopped =>
            { halted := (sound.leaves stopped).halted
              outside := by simp [Stage.isOutside]
              suspended := by simp } }
  | goesTo stage outside alsoOutside =>
      have held := sound.held.outside outside
      rw [pending_of_outside outside] at rounds
      have isNot : ∀ other : Stage, other.isOutside = false → stage ≠ other := by
        rintro other isInside rfl
        simp [isInside] at alsoOutside
      exact
        { sound with
          held := ⟨fun suspended => absurd suspended (isNot _ rfl), fun _ => held⟩
          rounds := by
            rw [pending_of_outside alsoOutside]
            exact rounds
          ended := fun ended => absurd ended (isNot _ rfl)
          leaves := fun stopped =>
            { halted := (sound.leaves stopped).halted
              outside := fun _ => (sound.leaves stopped).outside outside
              suspended := fun suspended => absurd suspended (isNot _ rfl) } }
  | schedules outside completed =>
      have held := sound.held.outside outside
      rw [pending_of_outside outside, if_pos completed] at rounds
      exact
        { sound with
          held := ⟨fun _ => .inl ⟨by simp [State.schedule, held.1], held.2⟩,
            by simp [State.schedule]⟩
          rounds := by simpa [State.pending, State.schedule, held.1] using rounds
          ended := by simp [State.schedule]
          leaves := fun stopped =>
            { halted := (sound.leaves stopped).halted
              outside := by simp [State.schedule, Stage.isOutside]
              suspended := by simp [State.schedule, held.1] } }
  | suspends outside null =>
      have held := sound.held.outside outside
      exact
        { sound with
          held := ⟨fun _ => .inr ⟨held.1, rfl⟩, by simp⟩
          rounds := by
            show state.rounds + state.taken ≤ state.ticks
            omega
          ended := by simp
          leaves := fun stopped => by
            have completed := (sound.leaves stopped).outside outside
            rw [null] at completed
            cases completed }
  | joins outside other => exact absurd other (sound.held.outside outside).2
  | clears loop =>
      have held := sound.held.free (by simp [loop])
      simp only [State.pending, loop] at rounds
      exact
        { sound with
          held := ⟨by simp, fun _ => ⟨held.1, by simp⟩⟩
          rounds := rounds
          ended := by simp
          leaves := fun stopped =>
            { halted := (sound.leaves stopped).halted
              outside := by simp [Stage.isOutside]
              suspended := by simp } }
  | goesOn loop running =>
      have held := sound.held.free (by simp [loop])
      simp only [State.pending, loop] at rounds
      exact
        { sound with
          held := ⟨by simp, fun _ => held⟩
          rounds := by
            show state.rounds + 1 + (if state.callback = .completed then 1 else 0) ≤ state.ticks
            split_ifs at rounds ⊢ <;> omega
          ended := by simp
          leaves := fun stopped => by
            have halted := (sound.leaves stopped).halted
            rw [running] at halted
            cases halted }
  | ends loop halted =>
      have held := sound.held.free (by simp [loop])
      exact
        { sound with
          held := ⟨by simp, fun _ => held⟩
          rounds := by
            show state.rounds + 0 ≤ state.ticks
            omega
          ended := fun _ => halted
          leaves := fun _ =>
            { halted := halted
              outside := by simp [Stage.isOutside]
              suspended := by simp } }

theorem sound_step (sound : Sound state) {action : Action}
    (stepped : step state action = some next) : Sound next := by
  cases action with
  | start =>
      cases stepped
      exact sound.start
  | startLocked =>
      simp only [step] at stepped
      split_ifs at stepped
      cases stepped
      exact sound.startLocked
  | tick =>
      simp only [step] at stepped
      split_ifs at stepped
      cases stepped
      exact sound.exchange
  | stop =>
      cases stepped
      exact sound.stop
  | stopTick =>
      simp only [step] at stepped
      split_ifs at stepped with none
      cases stepped
      exact sound.stopTick none
  | dispose =>
      cases stepped
      exact sound.dispose
  | invoke =>
      simp only [step] at stepped
      split_ifs at stepped with none
      cases stepped
      exact sound.invoke none
  | proceed => exact sound.proceed (proceeds_of_proceed stepped)

/-! ## Behind a stop -/

/-- The loop is told to go on only while the timer runs, and a stop is not taken back. -/
theorem stopped_of_step {action : Action} (stepped : step state action = some next)
    (sound : Sound state) (stopped : state.stopped = true) :
    next.stopped = true ∧ next.rounds = state.rounds := by
  cases action with
  | start =>
      cases stepped
      rw [State.start]
      split_ifs <;> exact ⟨stopped, rfl⟩
  | startLocked =>
      simp only [step, State.startLocked] at stepped
      split_ifs at stepped <;> cases stepped <;> exact ⟨stopped, rfl⟩
  | tick =>
      simp only [step] at stepped
      split_ifs at stepped
      cases stepped
      exact ⟨stopped, rfl⟩
  | stop =>
      cases stepped
      rw [State.stop]
      split_ifs <;> exact ⟨stopped, rfl⟩
  | stopTick =>
      simp only [step] at stepped
      split_ifs at stepped
      cases stepped
      exact ⟨rfl, rfl⟩
  | dispose =>
      cases stepped
      exact ⟨stopped, rfl⟩
  | invoke =>
      simp only [step, State.invoke] at stepped
      split_ifs at stepped <;> cases stepped <;> exact ⟨stopped, rfl⟩
  | proceed =>
      cases proceeds_of_proceed stepped with
      | goesOn loop running =>
          have halted := (sound.leaves stopped).halted
          rw [running] at halted
          cases halted
      | finds | goesTo | schedules | suspends | joins | clears | ends => exact ⟨stopped, rfl⟩

/-- The loop goes on by itself, or a thread that has its continuation makes it. -/
def Action.isOwn : Action → Bool
  | .invoke | .proceed => true
  | .start | .startLocked | .tick | .stop | .stopTick | .dispose => false

/-- How far the loop is from its end when there is nothing to wait for. -/
def Stage.rank : Stage → Nat
  | .body => 7
  | .awaiting => 6
  | .checking => 5
  | .exchanging => 4
  | .suspended => 3
  | .clearing => 2
  | .reading => 1
  | .ended => 0

theorem Sound.progress (sound : Sound state) (stopped : state.stopped = true)
    (notEnded : state.loop ≠ .ended) :
    ∃ action next, action.isOwn = true ∧ step state action = some next ∧
      next.loop.rank < state.loop.rank := by
  have leaves := sound.leaves stopped
  cases loop : state.loop with
  | suspended =>
      have taken := leaves.suspended loop
      refine ⟨.invoke, state.invoke, rfl, by rw [step, if_neg (by omega)], ?_⟩
      simp [State.invoke, loop, Stage.rank]
  | awaiting =>
      have completed := leaves.outside (by rw [loop]; rfl)
      refine ⟨.proceed, { state with loop := .clearing }, rfl, ?_, by simp [Stage.rank]⟩
      simp only [step, State.proceed, loop, completed, if_pos]
  | checking =>
      have completed := leaves.outside (by rw [loop]; rfl)
      refine ⟨.proceed, state.schedule, rfl, ?_, by simp [State.schedule, Stage.rank]⟩
      simp only [step, State.proceed, loop, completed, if_pos]
  | exchanging =>
      have completed := leaves.outside (by rw [loop]; rfl)
      refine ⟨.proceed, state.schedule, rfl, ?_, by simp [State.schedule, Stage.rank]⟩
      simp only [step, State.proceed, loop, completed]
  | clearing =>
      refine ⟨.proceed, { state with callback := .null, loop := .reading }, rfl, ?_,
        by simp [Stage.rank]⟩
      simp only [step, State.proceed, loop]
  | reading =>
      refine ⟨.proceed, { state with loop := .ended }, rfl, ?_, by simp [Stage.rank]⟩
      simp only [step, State.proceed, loop, leaves.halted]
      rfl
  | body =>
      refine ⟨.proceed, { state with loop := .awaiting }, rfl, ?_, by simp [Stage.rank]⟩
      simp only [step, State.proceed, loop]
  | ended => exact absurd loop notEnded

theorem Sound.ends (sound : Sound state) (stopped : state.stopped = true) :
    ∃ actions final, (∀ action ∈ actions, action.isOwn = true) ∧
      Machine.run step state actions = some final ∧ final.loop = .ended := by
  have progress : ∀ {state : State}, Sound state ∧ state.stopped = true →
      ¬ state.loop = .ended →
      ∃ action next, action.isOwn = true ∧ step state action = some next ∧
        (Sound next ∧ next.stopped = true) ∧ next.loop.rank < state.loop.rank := by
    intro state both notEnded
    obtain ⟨sound, stopped⟩ := both
    obtain ⟨action, next, isOwn, stepped, smaller⟩ := sound.progress stopped notEnded
    have still := (stopped_of_step stepped sound stopped).1
    exact ⟨action, next, isOwn, stepped, ⟨sound_step sound stepped, still⟩, smaller⟩
  obtain ⟨actions, final, areOwn, ran, -, ended⟩ :=
    Machine.run_until (fun state : State => state.loop.rank) progress ⟨sound, stopped⟩
  exact ⟨actions, final, areOwn, ran, ended⟩

/-- Behind a stop the loop does nothing more between two awaits. -/
theorem Sound.rounds_of_run (sound : Sound state) (stopped : state.stopped = true)
    {actions : List Action} {final : State}
    (ran : Machine.run step state actions = some final) : final.rounds = state.rounds := by
  have kept : ∀ {before : State} {action : Action} {after : State},
      Sound before ∧ before.stopped = true ∧ before.rounds = state.rounds →
      step before action = some after →
      Sound after ∧ after.stopped = true ∧ after.rounds = state.rounds := by
    intro before action after invariant stepped
    obtain ⟨sound, stopped, rounds⟩ := invariant
    have still := stopped_of_step stepped sound stopped
    exact ⟨sound_step sound stepped, still.1, still.2.trans rounds⟩
  exact (Machine.run_invariant kept ⟨sound, stopped, rfl⟩ ran).2.2

/-! ## The contract -/

/-- However calls, ticks and the accesses of the loop interleave: there is one timer at most; a
continuation is invoked only while the loop waits for it, and while it waits its continuation is
held in one place, by a thread that invokes it or in `_callback` for the next tick; the loop goes
round at most once for each tick and ends only when stopped. A stop behind a dispose changes
nothing. Behind one that has ticked the loop does not go round again, and it ends by itself. -/
theorem timer_loop_contract {actions : List Action}
    (ran : Machine.run step {} actions = some state) :
    state.created ≤ 1 ∧ (state.timer = true → state.disposed = false) ∧
      state.overrun = false ∧
      (state.loop = .suspended →
        state.taken = 1 ∧ state.callback ≠ .continuation ∨
          state.taken = 0 ∧ state.callback = .continuation) ∧
      (state.disposed = true → state.stop = state) ∧
      state.rounds ≤ state.ticks ∧ (state.loop = .ended → state.running = false) ∧
      (state.stopped = true →
        (∀ more later, Machine.run step state more = some later →
          later.rounds = state.rounds) ∧
        ∃ more final, (∀ action ∈ more, action.isOwn = true) ∧
          Machine.run step state more = some final ∧ final.loop = .ended) := by
  have sound : Sound state :=
    Machine.run_invariant (fun sound stepped => sound_step sound stepped) sound_initial ran
  refine ⟨sound.single, fun alive => (sound.alive alive).2, sound.invoked, sound.held.suspended,
    ?_, Nat.le_of_add_right_le sound.rounds, sound.ended, fun stopped => ⟨?_, sound.ends stopped⟩⟩
  · intro disposed
    rw [State.stop, if_pos disposed]
  · exact fun more later moved => sound.rounds_of_run stopped moved

/-- A stop while the loop is in front of its exchange, with a tick of the timer behind it. -/
theorem timer_loop_contract_stopped :
    ∃ state, Machine.run step {}
        [.start, .startLocked, .proceed, .proceed, .stop, .tick, .stopTick, .proceed] =
          some state ∧
      ∃ more final, (∀ action ∈ more, action.isOwn = true) ∧
        Machine.run step state more = some final ∧ final.loop = .ended := by
  have ran : Machine.run step {}
      [.start, .startLocked, .proceed, .proceed, .stop, .tick, .stopTick, .proceed] =
      some
        { callback := .completed, running := false, timer := true, loop := .suspended
          taken := 1, created := 1, ticks := 2, stopped := true } := by
    decide
  obtain ⟨-, -, -, -, -, -, -, ends⟩ := timer_loop_contract ran
  exact ⟨_, ran, (ends rfl).2⟩

end AzureSignalR.Utilities.TimerAwaitable
