import AzureSignalR.Auth.AccessKeyLoops

/-!
Contract: the life cycle of a Microsoft Entra access key over every history of its events.

Owns: the single loop at a time of runs in which no loop lasts longer than the refresh interval,
and what every run keeps.

Does not own: what the events do.
-/

set_option autoImplicit false

namespace AzureSignalR.Auth

open Library Library.Threads

/-! ## One loop at a time -/

/-- No request comes when a loop has been running for longer than the refresh interval. -/
def Prompt (state : State) (event : Nat × Action) : Prop :=
  event.2 = .request → ∀ loop ∈ state.loops, loop.stage ≠ .ended →
    event.1 ≤ loop.startedAt + getAccessKeyInterval

instance (state : State) (event : Nat × Action) : Decidable (Prompt state event) :=
  inferInstanceAs (Decidable (event.2 = .request → ∀ loop ∈ state.loops, loop.stage ≠ .ended →
    event.1 ≤ loop.startedAt + getAccessKeyInterval))

/-- Only the last loop runs. Its source is open as long as the key is as old as it was before,
and is completed only when a key has come. -/
structure Flying (state : State) : Prop where
  last : ∀ index loop, state.loops[index]? = some loop → loop.stage ≠ .ended →
    index + 1 = state.loops.length
  pending : ∀ loop ∈ state.loops, loop.stage ≠ .ended → loop.result = none →
    state.key.updateAt + getAccessKeyIntervalUnavailable < loop.startedAt
  completed : ∀ loop ∈ state.loops, loop.stage ≠ .ended → loop.result ≠ none →
    ∃ received ∈ state.received, loop.startedAt ≤ received
  started : ∀ loop ∈ state.loops, loop.startedAt ≤ state.now

namespace Flying

variable {state : State}

/-- A loop that is not older than the refresh interval runs for a key that has to be refreshed,
or a key has come that need not be. -/
theorem pending_of_needRefresh (flying : Flying state) (dated : Dated state) {loop : RefreshLoop}
    (member : loop ∈ state.loops) (runs : loop.stage ≠ .ended)
    (prompt : state.now ≤ loop.startedAt + getAccessKeyInterval)
    (needed : state.key.needRefresh state.now = true ∨ state.key.available state.now = false) :
    loop.result = none := by
  by_contra completed
  obtain ⟨received, isReceived, after⟩ := flying.completed loop member runs completed
  have interval : getAccessKeyInterval < accessKeyExpireTime := by decide
  have isAvailable : state.key.available state.now = true :=
    (dated.available_iff (Nat.le_refl _)).mpr ⟨received, isReceived, by omega⟩
  rcases needed with needed | unavailable
  · rw [MicrosoftEntraAccessKey.needRefresh, if_pos isAvailable, decide_eq_true_iff] at needed
    rw [MicrosoftEntraAccessKey.available, Bool.and_eq_true] at isAvailable
    have young := (dated.authorized isAvailable.1).2 received isReceived
    omega
  · rw [isAvailable] at unavailable
    cases unavailable

/-- A loop is changed in its place, with the key as it was. -/
theorem modify (flying : Flying state) (index : Nat) {change : RefreshLoop → RefreshLoop}
    (startedAt : ∀ loop, (change loop).startedAt = loop.startedAt)
    (kept : ∀ loop, state.loops[index]? = some loop → (change loop).stage ≠ .ended →
      loop.stage ≠ .ended ∧ (change loop).result = loop.result) :
    Flying { state with loops := state.loops.modify index change } where
  last := by
    intro position loop found runs
    rw [List.length_modify]
    obtain ⟨before, present, ⟨rfl, rfl⟩ | ⟨-, rfl⟩⟩ := getElem?_modify_cases found
    · exact flying.last _ before present (kept before present runs).1
    · exact flying.last position _ present runs
  pending := by
    intro loop member runs none
    rcases mem_modify_cases member with old | ⟨before, present, rfl⟩
    · exact flying.pending loop old runs none
    · obtain ⟨ran, same⟩ := kept before present runs
      rw [startedAt]
      exact flying.pending before (List.mem_of_getElem? present) ran (same ▸ none)
  completed := by
    intro loop member runs some
    rcases mem_modify_cases member with old | ⟨before, present, rfl⟩
    · exact flying.completed loop old runs some
    · obtain ⟨ran, same⟩ := kept before present runs
      rw [startedAt]
      exact flying.completed before (List.mem_of_getElem? present) ran (same ▸ some)
  started := by
    intro loop member
    rcases mem_modify_cases member with old | ⟨before, present, rfl⟩
    · exact flying.started loop old
    · rw [startedAt]
      exact flying.started before (List.mem_of_getElem? present)

theorem endLoop (flying : Flying state) (loop : Nat) (result : Bool) :
    Flying (state.endLoop loop result) :=
  flying.modify loop (fun _ => rfl) fun _ _ runs => absurd rfl runs

theorem later (flying : Flying state) {now : Nat} (later : state.now ≤ now) :
    Flying { state with now := now } :=
  { flying with started := fun loop member => (flying.started loop member).trans later }

/-- A key that comes completes the source of the loop that runs. -/
theorem updateAccessKey (flying : Flying state) (kid : Option String) (keyStr : String) :
    Flying (state.updateAccessKey kid keyStr) where
  last := by
    intro position loop found runs
    show _ = (state.loops.modify _ _).length
    rw [List.length_modify]
    obtain ⟨before, present, ⟨-, rfl⟩ | ⟨-, rfl⟩⟩ := getElem?_modify_cases found
    · exact flying.last _ before present runs
    · exact flying.last position _ present runs
  pending := by
    intro loop member runs none
    obtain ⟨position, found⟩ := List.mem_iff_getElem?.mp member
    obtain ⟨before, present, ⟨-, rfl⟩ | ⟨elsewhere, rfl⟩⟩ := getElem?_modify_cases found
    · cases none
    · have isLast := flying.last position _ present runs
      omega
  completed := by
    intro loop member runs some
    refine ⟨state.now, List.mem_append_right _ (List.mem_singleton.mpr rfl), ?_⟩
    rcases mem_modify_cases member with old | ⟨before, present, rfl⟩
    · exact flying.started loop old
    · exact flying.started before (List.mem_of_getElem? present)
  started := by
    intro loop member
    rcases mem_modify_cases member with old | ⟨before, present, rfl⟩
    · exact flying.started loop old
    · exact flying.started before (List.mem_of_getElem? present)

/-- The loop that runs gives up. -/
theorem giveUp (flying : Flying state) {loop : Nat} {running : RefreshLoop}
    (found : state.loops[loop]? = some running) (runs : running.stage ≠ .ended) :
    Flying (state.giveUp loop) := by
  have ended := flying.endLoop loop false
  rw [State.giveUp]
  split_ifs
  · exact ended
  · refine { ended with pending := ?_ }
    intro other member still
    -- The loop that gives up was the only one.
    obtain ⟨position, present⟩ := List.mem_iff_getElem?.mp member
    have isLast := ended.last position other present still
    have wasLast := flying.last loop running found runs
    obtain ⟨before, -, ⟨-, rfl⟩ | ⟨elsewhere, -⟩⟩ := getElem?_modify_cases present
    · exact absurd rfl still
    · have length : (state.endLoop loop false).loops.length = state.loops.length :=
        List.length_modify ..
      omega

theorem nextAttempt (flying : Flying state) {loop : Nat} {running : RefreshLoop}
    (found : state.loops[loop]? = some running) (runs : running.stage ≠ .ended) (i : Nat) :
    Flying (state.nextAttempt loop i) := by
  rw [State.nextAttempt]
  split_ifs
  · refine flying.modify loop (fun _ => rfl) fun other isOther _ => ⟨?_, rfl⟩
    rw [found, Option.some.injEq] at isOther
    exact isOther ▸ runs
  · exact flying.giveUp found runs

/-- A request starts a loop only when none runs. -/
theorem start (flying : Flying state) (dated : Dated state)
    (prompt : ∀ loop ∈ state.loops, loop.stage ≠ .ended →
      state.now ≤ loop.startedAt + getAccessKeyInterval)
    (needed : state.key.needRefresh state.now = true)
    (completed : ∀ loop last, loop + 1 = state.loops.length → state.loops[loop]? = some last →
      last.result.isSome = true) :
    Flying { state with loops := state.loops ++ [{ startedAt := state.now }] } := by
  have ended : ∀ loop ∈ state.loops, loop.stage = .ended := by
    intro loop member
    by_contra runs
    obtain ⟨position, present⟩ := List.mem_iff_getElem?.mp member
    have isCompleted := completed position loop (flying.last position loop present runs) present
    rw [flying.pending_of_needRefresh dated member runs (prompt loop member runs) (.inl needed)]
      at isCompleted
    cases isCompleted
  have old := MicrosoftEntraAccessKey.lt_of_needRefresh needed
  refine ⟨?_, ?_, ?_, ?_⟩
  · intro position loop found runs
    rw [List.length_append, List.length_singleton]
    rcases Nat.lt_or_ge position state.loops.length with inside | outside
    · rw [List.getElem?_append_left inside] at found
      exact absurd (ended loop (List.mem_of_getElem? found)) runs
    · have bound := (List.getElem?_eq_some_iff.mp found).1
      rw [List.length_append, List.length_singleton] at bound
      omega
  · intro loop member runs none
    rcases List.mem_append.mp member with before | new
    · exact absurd (ended loop before) runs
    · rw [List.mem_singleton.mp new]
      exact old
  · intro loop member runs some
    rcases List.mem_append.mp member with before | new
    · exact absurd (ended loop before) runs
    · rw [List.mem_singleton.mp new] at some
      exact absurd rfl some
  · intro loop member
    rcases List.mem_append.mp member with before | new
    · exact flying.started loop before
    · rw [List.mem_singleton.mp new]

theorem acts (flying : Flying state) (dated : Dated state) {action : Action} {next : State}
    (prompt : action = .request → ∀ loop ∈ state.loops, loop.stage ≠ .ended →
      state.now ≤ loop.startedAt + getAccessKeyInterval)
    (acts : Acts state action next) : Flying next := by
  cases acts with
  | answers needed => exact { flying with }
  | joins needed isLast found pending => exact { flying with }
  | starts needed completed => exact { flying.start dated (prompt rfl) needed completed with }
  | receives outcome kid keyStr found stage =>
      exact (flying.updateAccessKey _ keyStr).endLoop _ true
  | succeeds outcome found stage => exact flying.endLoop _ true
  | @throws loop running i outcome exception found stage =>
      have moved : Flying (state.goTo loop (.delaying i)) := by
        refine flying.modify loop (fun _ => rfl) fun other isOther _ => ⟨?_, rfl⟩
        rw [found, Option.some.injEq] at isOther
        rw [← isOther, stage]
        nofun
      exact { moved with }
  | cancels outcome exception found stage =>
      have caught : Flying (state.catchException exception) := { flying with }
      exact caught.nextAttempt found (by rw [stage]; nofun) _
  | delays found stage => exact flying.nextAttempt found (by rw [stage]; nofun) _
  | ignores keyMessage => exact flying
  | pushes keyMessage keyStr => exact flying.updateAccessKey _ keyStr
  | resumes canceled waits => exact { flying with }

end Flying

/-! ## Runs -/

section Runs

variable {state next final : State} {event : Nat × Action} {events : List (Nat × Action)}

theorem acts_of_step (stepped : step state event = some next) :
    state.now ≤ event.1 ∧ Acts { state with now := event.1 } event.2 next := by
  rw [step] at stepped
  split_ifs at stepped with early
  exact ⟨Nat.le_of_not_lt early, acts_of_act stepped⟩

theorem dated_step (dated : Dated state) (stepped : step state event = some next) : Dated next := by
  obtain ⟨later, acts⟩ := acts_of_step stepped
  exact (dated.later later).acts acts

theorem looped_step (looped : Looped state) (stepped : step state event = some next) :
    Looped next := by
  obtain ⟨-, acts⟩ := acts_of_step stepped
  exact (looped.later event.1).acts acts

theorem flying_step (flies : Flying state ∧ Dated state) (prompt : Prompt state event)
    (stepped : step state event = some next) : Flying next ∧ Dated next := by
  obtain ⟨later, acts⟩ := acts_of_step stepped
  exact ⟨(flies.1.later later).acts (flies.2.later later) prompt acts, dated_step flies.2 stepped⟩

theorem dated_initial (now : Nat) : Dated (initial now) :=
  ⟨Nat.zero_le _, nofun, nofun, nofun, nofun, nofun⟩

theorem looped_initial (now : Nat) : Looped (initial now) := ⟨nofun, nofun⟩

theorem flying_initial (now : Nat) : Flying (initial now) := by
  refine ⟨?_, nofun, nofun, nofun⟩
  intro index loop found
  cases found

/-- A loop has no more events than its stage allows. -/
theorem spends_run (looped : Looped state) (ran : Machine.run step state events = some final)
    {index : Nat} {stage : LoopStage} (before : state.stageAt index = some stage) :
    ∃ after, final.stageAt index = some after ∧
      after.remaining + events.countP (·.2.isOf index) ≤ stage.remaining := by
  induction events generalizing state stage with
  | nil =>
      cases ran
      exact ⟨stage, before, Nat.le_refl _⟩
  | cons event events inductionHypothesis =>
      obtain ⟨next, stepped, rest⟩ := Machine.run_cons.1 ran
      obtain ⟨-, acts⟩ := acts_of_step stepped
      obtain ⟨between, isBetween, spent⟩ := (looped.later event.1).spends acts index stage before
      obtain ⟨after, isAfter, rested⟩ :=
        inductionHypothesis (looped_step looped stepped) rest isBetween
      refine ⟨after, isAfter, ?_⟩
      rw [List.countP_cons]
      omega

theorem length_nextAttempt (state : State) (loop i : Nat) :
    (state.nextAttempt loop i).loops.length = state.loops.length := by
  rw [State.nextAttempt]
  split_ifs
  · exact List.length_modify ..
  · rw [State.giveUp]
    split_ifs
    · exact List.length_modify ..
    · exact List.length_modify ..

/-- A loop starts only when a refresh is needed. -/
theorem Acts.length_loops {action : Action} (acts : Acts state action next) :
    next.loops.length = state.loops.length ∨ state.key.needRefresh state.now = true := by
  cases acts with
  | answers needed => exact .inl rfl
  | joins needed isLast found pending => exact .inl rfl
  | starts needed completed => exact .inr needed
  | receives outcome kid keyStr found stage =>
      exact .inl ((List.length_modify ..).trans (List.length_modify ..))
  | succeeds outcome found stage => exact .inl (List.length_modify ..)
  | throws outcome exception found stage => exact .inl (List.length_modify ..)
  | cancels outcome exception found stage => exact .inl (length_nextAttempt ..)
  | delays found stage => exact .inl (length_nextAttempt ..)
  | ignores keyMessage => exact .inl rfl
  | pushes keyMessage keyStr => exact .inl (List.length_modify ..)
  | resumes canceled waits => exact .inl rfl

theorem updateAt_of_starts (stepped : step state event = some next)
    (starts : state.loops.length < next.loops.length) :
    state.key.updateAt + getAccessKeyIntervalUnavailable < event.1 := by
  obtain ⟨-, acts⟩ := acts_of_step stepped
  rcases acts.length_loops with same | needed
  · exact absurd same (Nat.ne_of_gt starts)
  · exact MicrosoftEntraAccessKey.lt_of_needRefresh needed

/-- A wait ends when the source is completed. -/
theorem resume_of_completed {request loop now : Nat} {refresh : RefreshLoop}
    (waits : state.requests[request]? = some (.waiting loop))
    (found : state.loops[loop]? = some refresh) (completed : refresh.result.isSome = true)
    (later : state.now ≤ now) : ∃ next, step state (now, .resume request false) = some next := by
  rw [step, if_neg (Nat.not_lt.mpr later)]
  simp only [State.act, waits, found, Option.bind_some, completed, or_true, if_true]
  exact ⟨_, rfl⟩

/-- A loop that has not ended goes on, however its attempt ends. -/
theorem goesOn {index now : Nat} {stage : LoopStage} (here : state.stageAt index = some stage)
    (runs : stage ≠ .ended) (later : state.now ≤ now) :
    (∀ outcome, ∃ next, step state (now, .attempt index outcome) = some next) ∨
      ∃ next, step state (now, .delay index) = some next := by
  obtain ⟨⟨startedAt, isStage, result⟩, found, rfl⟩ := Option.map_eq_some_iff.mp here
  cases isStage with
  | attempting i =>
      left
      intro outcome
      rw [step, if_neg (Nat.not_lt.mpr later)]
      simp only [State.act, found]
      exact ⟨_, rfl⟩
  | delaying i =>
      right
      rw [step, if_neg (Nat.not_lt.mpr later)]
      simp only [State.act, found]
      exact ⟨_, rfl⟩
  | ended => exact absurd rfl runs

/-- A request that comes while a loop runs starts no other, and without an available key it waits
for that loop. -/
theorem Flying.joins (flying : Flying state) (dated : Dated state) (prompt : Prompt state event)
    (isRequest : event.2 = .request) (stepped : step state event = some next) {index : Nat}
    {loop : RefreshLoop} (found : state.loops[index]? = some loop) (runs : loop.stage ≠ .ended) :
    next.loops = state.loops ∧ (state.key.available event.1 = false →
      next.requests = state.requests ++ [.waiting index]) := by
  obtain ⟨later, acts⟩ := acts_of_step stepped
  have flies := flying.later later
  have isDated := dated.later later
  have member := List.mem_of_getElem? found
  have young := prompt isRequest loop member runs
  have isLast := flying.last index loop found runs
  rw [isRequest] at acts
  cases acts with
  | answers needed =>
      refine ⟨rfl, fun unavailable => ?_⟩
      have pending := flies.pending_of_needRefresh isDated member runs young (.inr unavailable)
      have old := flying.pending loop member runs pending
      have started := flies.started loop member
      rw [MicrosoftEntraAccessKey.needRefresh, decide_eq_false_iff_not] at needed
      replace needed : ¬(if state.key.available event.1 = true then getAccessKeyInterval
        else getAccessKeyIntervalUnavailable) < event.1 - state.key.updateAt := needed
      replace started : loop.startedAt ≤ event.1 := started
      rw [unavailable, if_neg Bool.false_ne_true] at needed
      omega
  | @joins other last needed otherLast isOther pending =>
      refine ⟨rfl, fun unavailable => ?_⟩
      have same : other = index := by
        replace otherLast : other + 1 = state.loops.length := otherLast
        omega
      show _ ++ [State.requestOn _ _] = _
      rw [State.requestOn, if_neg (Bool.eq_false_iff.mp unavailable), same]
  | starts needed completed =>
      have pending := flies.pending_of_needRefresh isDated member runs young (.inl needed)
      have isCompleted := completed index loop isLast found
      rw [pending] at isCompleted
      cases isCompleted

end Runs

/-- What holds whatever the attempts do and whenever they end. -/
structure LifeCycle (state : State) : Prop where
  tokens : ∀ time keyBytes kid, .answered time (.token keyBytes kid) ∈ state.requests →
    ∃ received ∈ state.received, received ≤ time ∧ time < received + accessKeyExpireTime
  /-- A failed refresh takes no key away. -/
  available : ∀ now, state.now ≤ now → (state.key.available now = true ↔
    ∃ received ∈ state.received, now < received + accessKeyExpireTime)
  backOff : ∀ event next, step state event = some next → state.loops.length < next.loops.length →
    ∀ failure ∈ state.failures, failure + getAccessKeyIntervalUnavailable < event.1
  /-- A loop goes on until it has ended, however its attempts end. -/
  goesOn : ∀ index stage, state.stageAt index = some stage → stage ≠ .ended →
    ∀ now, state.now ≤ now →
      (∀ outcome, ∃ next, step state (now, .attempt index outcome) = some next) ∨
        ∃ next, step state (now, .delay index) = some next
  /-- It cannot go on forever. -/
  ends : ∀ events final, Machine.run step state events = some final →
    ∀ index stage, state.stageAt index = some stage → ∃ after, final.stageAt index = some after ∧
      after.remaining + events.countP (·.2.isOf index) ≤ stage.remaining
  completes : ∀ loop ∈ state.loops, loop.stage = .ended → loop.result.isSome = true
  /-- Who waits for a source goes on when it is completed. -/
  resumes : ∀ request loop, state.requests[request]? = some (.waiting loop) →
    ∃ refresh, state.loops[loop]? = some refresh ∧ (refresh.result.isSome = true →
      ∀ now, state.now ≤ now → ∃ next, step state (now, .resume request false) = some next)

/-- What holds as long as no request comes when a loop has run for longer than the interval. -/
structure SingleFlight (state : State) : Prop where
  single : ∀ (one other : Nat) (loop otherLoop : RefreshLoop),
    state.loops[one]? = some loop → loop.stage ≠ .ended →
    state.loops[other]? = some otherLoop → otherLoop.stage ≠ .ended → one = other
  joins : ∀ event next index loop, Prompt state event → event.2 = .request →
    step state event = some next → state.loops[index]? = some loop → loop.stage ≠ .ended →
      next.loops = state.loops ∧ (state.key.available event.1 = false →
        next.requests = state.requests ++ [.waiting index])

theorem access_key_life_cycle (now : Nat) (events : List (Nat × Action)) {state : State}
    (ran : Machine.run step (initial now) events = some state) :
    LifeCycle state ∧ (Machine.Along step Prompt (initial now) events → SingleFlight state) := by
  have dated : Dated state := Machine.run_invariant dated_step (dated_initial now) ran
  have looped : Looped state := Machine.run_invariant looped_step (looped_initial now) ran
  constructor
  · refine ⟨dated.tokens, fun now later => dated.available_iff later, ?_, ?_, ?_, ?_, ?_⟩
    · intro event next stepped starts failure failed
      have before := dated.failures failure failed
      have old := updateAt_of_starts stepped starts
      omega
    · intro index stage here runs now later
      exact goesOn here runs later
    · intro events final ran index stage here
      exact spends_run looped ran here
    · intro loop member ended
      have valid := looped.loops loop member
      rw [RefreshLoop.Valid, ended] at valid
      exact valid
    · intro request loop waits
      have inside := looped.waits loop (List.mem_of_getElem? waits)
      refine ⟨_, List.getElem?_eq_getElem inside, fun completed now later => ?_⟩
      exact resume_of_completed waits (List.getElem?_eq_getElem inside) completed later
  · intro prompt
    obtain ⟨flying, -⟩ := Machine.run_along flying_step ⟨flying_initial now, dated_initial now⟩
      prompt ran
    refine ⟨?_, ?_⟩
    · intro one other loop otherLoop found runs otherFound otherRuns
      have last := flying.last one loop found runs
      have otherLast := flying.last other otherLoop otherFound otherRuns
      omega
    · intro event next index loop isPrompt isRequest stepped found runs
      exact flying.joins dated isPrompt isRequest stepped found runs

/-- A first request waits for its loop; the second attempt brings a key. -/
def firstToken : List (Nat × Action) :=
  [(10 * minute, .request), (10 * minute, .request),
    (11 * minute, .attempt 0 (.throws .unauthorized)), (12 * minute, .delay 0),
    (13 * minute, .attempt 0 (.response (.accessKeyResponse (some "kid") (some "key")))),
    (13 * minute, .resume 0 false), (13 * minute, .resume 1 false)]

theorem access_key_life_cycle_first :
    ∃ state, Machine.run step (initial 0) firstToken = some state ∧
      state.requests = [.answered (13 * minute) (.token [107, 101, 121] "kid"),
        .answered (13 * minute) (.token [107, 101, 121] "kid")] ∧
      LifeCycle state ∧ SingleFlight state := by
  have cycle := access_key_life_cycle 0 firstToken rfl
  exact ⟨_, rfl, rfl, cycle.1, cycle.2 (by decide)⟩

/-- A key is pushed while an attempt hangs, and has to be refreshed when it still does. -/
def hangingAttempt : List (Nat × Action) :=
  [(10 * minute, .request), (11 * minute, .push ⟨some "kid", some "key", none, none⟩),
    (67 * minute, .request)]

/-- Two loops run, and the last request has not waited for either. -/
theorem two_refresh_loops :
    ∃ state, Machine.run step (initial 0) hangingAttempt = some state ∧
      state.stageAt 0 = some (.attempting 0) ∧ state.stageAt 1 = some (.attempting 0) ∧
      state.requests[1]? = some (.answered (67 * minute) (.token [107, 101, 121] "kid")) :=
  ⟨_, rfl, rfl, rfl, rfl⟩

end AzureSignalR.Auth
