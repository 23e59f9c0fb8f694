import AzureSignalR.ClientInvocation.InvocationFailure

/-!
Contract: which completion decides an invocation.

Owns: that the first result which arrives at a waiting invocation completes it, that
nothing completes it twice and that completions for other connections leave it alone;
and the schedule in which a sweep lets it fail early.

Does not own: results that arrive before the invocation waits.
-/

set_option autoImplicit false

namespace AzureSignalR.ClientInvocation

open Library Library.Machine Utilities

variable {ρ : Type}

/-! ## The first result -/

def Completion.value? : Completion ρ → Option ρ
  | .result value => some value
  | .error _ | .canceled => none

def InvocationOutcome.value? : InvocationOutcome ρ → Option ρ
  | .result value => some value
  | .failed _ | .disconnected _ | .canceledError | .canceled => none

theorem value?_outcome (completion : Completion ρ) :
    completion.outcome.value? = completion.value? := by
  cases completion <;> rfl

structure Foremost (invocation : Invocation ρ) : Prop where
  staged : Staged invocation
  /-- The first result is on its way, ahead of the others. -/
  arrived : invocation.outcome = none → ∀ value, invocation.firstResult = some value →
    ∃ stage, invocation.threads.find? InvocationThread.hasResult =
        some (.completing stage (.result value)) ∧
      (stage ≠ .finishing → invocation.pending = true)
  recorded : invocation.outcome = none → invocation.firstResult = none →
    ∀ thread ∈ invocation.threads, thread.hasResult = false
  /-- Whoever has taken the entry knows the first result. -/
  taken : ∀ completion, .completing .finishing completion ∈ invocation.threads →
    invocation.pending = false ∧
      (invocation.outcome = none → invocation.firstResult = completion.value?)
  decided : ∀ outcome, invocation.outcome = some outcome →
    invocation.firstResult = outcome.value?

namespace Foremost

variable {invocation next : Invocation ρ}

theorem initial (connectionId : String) (ackNumber : Fin (2 ^ 31)) :
    Foremost ({ connectionId := connectionId, ackNumber := ackNumber } : Invocation ρ) where
  staged := Staged.initial connectionId ackNumber
  arrived _ _ impossible := nomatch impossible
  recorded _ _ _ member := nomatch member
  taken _ member := nomatch member
  decided _ impossible := nomatch impossible

/-- While no result is on its way, none has arrived. -/
theorem firstResult_eq_none (foremost : Foremost invocation)
    (undecided : invocation.outcome = none)
    (none : ∀ other ∈ invocation.threads, other.hasResult = false) :
    invocation.firstResult = Option.none := by
  cases isFirst : invocation.firstResult with
  | none => rfl
  | some value =>
      obtain ⟨stage, found, -⟩ := foremost.arrived undecided value isFirst
      have impossible := none _ (List.mem_of_find?_eq_some found)
      cases impossible

/-! ### Threads -/

/-- A completion goes on inside `TryCompleteResult`, before it takes the entry. -/
theorem proceed (foremost : Foremost invocation) {index : Nat} {completion : Completion ρ}
    {before after : CompletionStage}
    (present : invocation.threads[index]? = some (.completing before completion))
    (beforeTaking : before ≠ .finishing) (notTaking : after ≠ .finishing) (ack : MultiAck)
    (staged : Staged ({ invocation with ack := ack }.replace index
      (.completing after completion))) :
    Foremost ({ invocation with ack := ack }.replace index (.completing after completion)) := by
  refine ⟨staged, ?_, ?_, ?_, foremost.decided⟩
  · intro undecided value isFirst
    obtain ⟨stage, found, waits⟩ := foremost.arrived undecided value isFirst
    have kept : (InvocationThread.completing after completion).hasResult =
        (InvocationThread.completing before completion).hasResult := rfl
    rcases Threads.find?_set present kept with same | ⟨itself, changed⟩
    · exact ⟨stage, same.trans found, waits⟩
    · rw [found, Option.some.injEq] at itself
      cases itself
      exact ⟨after, changed, fun _ => waits beforeTaking⟩
  · intro undecided noFirst thread member
    rcases List.mem_or_eq_of_mem_set member with already | itself
    · exact foremost.recorded undecided noFirst thread already
    · have noResult := foremost.recorded undecided noFirst _ (List.mem_of_getElem? present)
      rw [itself]
      exact noResult
  · intro other member
    rcases List.mem_or_eq_of_mem_set member with already | itself
    · exact foremost.taken other already
    · cases itself
      exact absurd rfl notTaking

/-- The first result, or no result when there is none. -/
theorem firstResult_of_inTurn (foremost : Foremost invocation) {index : Nat}
    {completion : Completion ρ}
    (present : invocation.threads[index]? = some (.completing .removing completion))
    (pending : invocation.pending = true) (undecided : invocation.outcome = none)
    (inTurn : invocation.InTurn index (.completing .removing completion)) :
    invocation.firstResult = completion.value? := by
  cases completion with
  | result value =>
      have found := Threads.find?_of_take present (inTurn pending) rfl
      cases isFirst : invocation.firstResult with
      | none =>
          have impossible := foremost.recorded undecided isFirst _ (List.mem_of_getElem? present)
          cases impossible
      | some first =>
          obtain ⟨stage, foundFirst, -⟩ := foremost.arrived undecided first isFirst
          rw [found, Option.some.injEq] at foundFirst
          cases foundFirst
          rfl
  | error | canceled => exact foremost.firstResult_eq_none undecided (inTurn pending)

/-- A completion takes the entry off the table in its turn. -/
theorem take (foremost : Foremost invocation) {index : Nat} {completion : Completion ρ}
    (present : invocation.threads[index]? = some (.completing .removing completion))
    (pending : invocation.pending = true)
    (inTurn : invocation.outcome = none →
      invocation.InTurn index (.completing .removing completion))
    (staged : Staged ({ invocation with pending := false }.replace index
      (.completing .finishing completion))) :
    Foremost ({ invocation with pending := false }.replace index
      (.completing .finishing completion)) := by
  have isFirst : invocation.outcome = none → invocation.firstResult = completion.value? :=
    fun undecided => foremost.firstResult_of_inTurn present pending undecided (inTurn undecided)
  refine ⟨staged, ?_, ?_, ?_, foremost.decided⟩
  · intro undecided value isValue
    have own : completion = .result value := by
      have same := (isFirst undecided).symm.trans isValue
      cases completion with
      | result first =>
          cases same
          rfl
      | error | canceled => cases same
    subst own
    refine ⟨.finishing, ?_, fun differs => absurd rfl differs⟩
    have inside := (List.getElem?_eq_some_iff.mp present).1
    have ahead : ∀ earlier ∈ (invocation.threads.set index
        (.completing .finishing (.result value))).take index, earlier.hasResult = false := by
      rw [List.take_set_of_le (Nat.le_refl _)]
      exact inTurn undecided pending
    exact Threads.find?_of_take (List.getElem?_set_self inside) ahead rfl
  · intro undecided noFirst thread member
    rcases List.mem_or_eq_of_mem_set member with already | itself
    · exact foremost.recorded undecided noFirst thread already
    · have noResult := foremost.recorded undecided noFirst _ (List.mem_of_getElem? present)
      rw [itself]
      exact noResult
  · intro other member
    rcases List.mem_or_eq_of_mem_set member with already | itself
    · cases pending.symm.trans (foremost.taken other already).1
    · cases itself
      exact ⟨rfl, isFirst⟩

/-- `TryCompleteResult` returns without completing the task. The first result does so
only when the entry is gone. -/
theorem finish (foremost : Foremost invocation) {index : Nat} {completion : Completion ρ}
    {before : CompletionStage}
    (present : invocation.threads[index]? = some (.completing before completion))
    (beforeTaking : before ≠ .finishing)
    (reason : completion.hasResult = false ∨ invocation.pending = false)
    (staged : Staged { invocation with
      threads := finishThreads invocation.threads index completion }) :
    Foremost { invocation with
      threads := finishThreads invocation.threads index completion } := by
  refine ⟨staged, ?_, ?_, ?_, foremost.decided⟩
  · intro undecided value isFirst
    obtain ⟨stage, found, waits⟩ := foremost.arrived undecided value isFirst
    have another : (.completing before completion : InvocationThread ρ) ≠
        .completing stage (.result value) := by
      intro same
      cases same
      rcases reason with impossible | unpending
      · cases impossible
      · cases unpending.symm.trans (waits beforeTaking)
    refine ⟨stage, ?_, waits⟩
    change (finishThreads invocation.threads index completion).find? _ = _
    unfold finishThreads
    split_ifs with isCanceled
    · have same : (InvocationThread.canceling : InvocationThread ρ).hasResult =
          (InvocationThread.completing before completion).hasResult := by
        cases completion with
        | canceled => rfl
        | result | error => cases isCanceled
      rcases Threads.find?_set present same with kept | ⟨itself, -⟩
      · exact kept.trans found
      · rw [found, Option.some.injEq] at itself
        exact absurd itself.symm another
    · exact Threads.find?_eraseIdx present found another
  · intro undecided noFirst thread member
    rcases mem_of_mem_finishThreads member with already | rfl
    · exact foremost.recorded undecided noFirst thread already
    · rfl
  · intro other member
    rcases mem_of_mem_finishThreads member with already | impossible
    · exact foremost.taken other already
    · cases impossible

/-- The task is completed. -/
theorem conclude (foremost : Foremost invocation) (staged : Staged next)
    {outcome : InvocationOutcome ρ}
    (isOutcome : next.outcome = invocation.outcome.or (some outcome))
    (firstResult : next.firstResult = invocation.firstResult)
    (own : invocation.outcome = none → invocation.firstResult = outcome.value?)
    (gone : invocation.pending = false → next.pending = false)
    (threads : ∀ completion, .completing .finishing completion ∈ next.threads →
      .completing .finishing completion ∈ invocation.threads) : Foremost next := by
  have decided : next.outcome ≠ none := isOutcome ▸ or_some_ne_none _ _
  refine ⟨staged, ?_, ?_, ?_, ?_⟩
  · exact fun undecided => absurd undecided decided
  · exact fun undecided => absurd undecided decided
  · intro completion member
    refine ⟨gone (foremost.taken completion (threads completion member)).1, ?_⟩
    exact fun undecided => absurd undecided decided
  · intro final isFinal
    rw [firstResult]
    rw [isOutcome] at isFinal
    cases before : invocation.outcome with
    | none =>
        rw [before] at isFinal
        cases isFinal
        exact own before
    | some first =>
        rw [before, Option.some_or] at isFinal
        exact foremost.decided final (before.trans isFinal)

theorem resume (foremost : Foremost invocation) {index : Nat}
    (condition : Orderly invocation (.resume index))
    (resumed : Resumes invocation index next) : Foremost next := by
  have staged := foremost.staged.resume resumed
  cases resumed with
  | trigger completion present =>
      exact foremost.proceed present (nomatch ·) (by split_ifs <;> nofun) invocation.ack staged
  | ack completion stepped present moved =>
      exact foremost.proceed present (nomatch ·) (by split_ifs <;> nofun) stepped staged
  | completeAck completion stepped present moved =>
      exact foremost.proceed present (nomatch ·) (by nofun) stepped staged
  | removeAck completion stepped present moved =>
      exact foremost.proceed present (nomatch ·) (by nofun) stepped staged
  | pass completion present enough =>
      exact foremost.proceed present (nomatch ·) (by nofun) invocation.ack staged
  | fallShort completion present noResult incomplete =>
      exact foremost.finish present (nomatch ·) (.inl noResult) staged
  | take completion present pending =>
      exact foremost.take present pending (fun undecided => condition undecided _ present) staged
  | miss completion present unpending =>
      exact foremost.finish present (nomatch ·) (.inr unpending) staged
  | complete completion present =>
      have finishing := foremost.taken completion (List.mem_of_getElem? present)
      refine foremost.conclude staged rfl rfl ?_ id ?_
      · rw [value?_outcome]
        exact finishing.2
      · intro other member
        rcases mem_of_mem_finishThreads member with already | impossible
        · exact already
        · cases impossible
  | cleanUp present =>
      refine foremost.conclude staged rfl rfl ?_ id ?_
      · exact fun undecided =>
          foremost.firstResult_eq_none undecided (condition undecided _ present)
      · intro other member
        rcases List.mem_or_eq_of_mem_set member with already | impossible
        · exact already
        · cases impossible
  | removeEntry present =>
      have completed := foremost.staged.cleaned (List.mem_of_getElem? present)
      obtain ⟨outcome, isOutcome⟩ := Option.ne_none_iff_exists'.mp completed
      have stays : invocation.outcome = invocation.outcome.or (some outcome) := by
        rw [isOutcome, Option.some_or]
      exact foremost.conclude staged stays rfl (fun undecided => absurd undecided completed)
        (fun _ => rfl) (fun _ member => List.mem_of_mem_eraseIdx member)
  | setCanceled present =>
      exact foremost.conclude staged rfl rfl
        (fun undecided => foremost.firstResult_eq_none undecided (condition undecided _ present))
        id (fun _ member => List.mem_of_mem_eraseIdx member)

/-! ### The caller and the manager -/

/-- A cancellation or a clean-up begins. -/
theorem spawn (foremost : Foremost invocation) {thread : InvocationThread ρ}
    (noResult : thread.hasResult = false)
    (starts : ∀ completion, thread ≠ .completing .finishing completion)
    (staged : Staged (invocation.spawn thread)) : Foremost (invocation.spawn thread) := by
  refine ⟨staged, ?_, ?_, ?_, foremost.decided⟩
  · intro undecided value isFirst
    obtain ⟨stage, found, waits⟩ := foremost.arrived undecided value isFirst
    refine ⟨stage, ?_, waits⟩
    change (invocation.threads ++ [thread]).find? _ = _
    rw [List.find?_append, found, Option.some_or]
  · intro undecided noFirst other member
    rcases List.mem_append.mp member with before | new
    · exact foremost.recorded undecided noFirst other before
    · rw [List.mem_singleton.mp new]
      exact noResult
  · intro completion member
    rcases List.mem_append.mp member with before | new
    · exact foremost.taken completion before
    · exact absurd (List.mem_singleton.mp new).symm (starts completion)

theorem trySetCanceled (foremost : Foremost invocation)
    (isAdded : invocation.stage.isAdded = true) : Foremost invocation.trySetCanceled := by
  have staged := foremost.staged.trySetCanceled isAdded
  unfold Invocation.trySetCanceled at staged ⊢
  split_ifs at staged ⊢
  · exact foremost.spawn rfl nofun staged
  · exact foremost.spawn rfl nofun staged

/-- A completion finds the invocation. When it is the first result of an undecided one, it
is the only one on its way. -/
theorem find (foremost : Foremost invocation) (received : Except String ρ)
    (pending : invocation.pending = true)
    (staged : Staged { invocation with
      results := invocation.results ++ received.toOption.toList
      begun := invocation.begun + 1
      threads := invocation.threads ++ [.completing .triggering (.ofReceived received)]
      received := invocation.received + 1
      firstResult :=
        if invocation.outcome = none then invocation.firstResult.or received.toOption
        else invocation.firstResult }) :
    Foremost { invocation with
      results := invocation.results ++ received.toOption.toList
      begun := invocation.begun + 1
      threads := invocation.threads ++ [.completing .triggering (.ofReceived received)]
      received := invocation.received + 1
      firstResult :=
        if invocation.outcome = none then invocation.firstResult.or received.toOption
        else invocation.firstResult } := by
  refine ⟨staged, ?_, ?_, ?_, ?_⟩
  · intro undecided value isFirst
    change invocation.outcome = none at undecided
    change (if invocation.outcome = none then _ else _) = _ at isFirst
    rw [if_pos undecided] at isFirst
    change ∃ stage, (invocation.threads ++ _).find? _ = _ ∧ _
    rw [List.find?_append]
    cases before : invocation.firstResult with
    | some first =>
        rw [before, Option.some_or] at isFirst
        obtain ⟨stage, found, waits⟩ := foremost.arrived undecided value (before.trans isFirst)
        exact ⟨stage, by rw [found, Option.some_or], waits⟩
    | none =>
        rw [before, Option.none_or] at isFirst
        have noneFound : invocation.threads.find? InvocationThread.hasResult = none :=
          List.find?_eq_none.mpr fun other member =>
            Bool.eq_false_iff.mp (foremost.recorded undecided before other member)
        rw [noneFound, Option.none_or]
        cases received with
        | error message => cases isFirst
        | ok result =>
            cases isFirst
            exact ⟨.triggering, rfl, fun _ => pending⟩
  · intro undecided noFirst other member
    change invocation.outcome = none at undecided
    change (if invocation.outcome = none then _ else _) = _ at noFirst
    rw [if_pos undecided, Option.or_eq_none_iff] at noFirst
    rcases List.mem_append.mp member with before | new
    · exact foremost.recorded undecided noFirst.1 other before
    · rw [List.mem_singleton.mp new]
      cases received with
      | error message => rfl
      | ok result => cases noFirst.2
  · intro completion member
    rcases List.mem_append.mp member with before | new
    · cases pending.symm.trans (foremost.taken completion before).1
    · cases List.mem_singleton.mp new
  · intro outcome isOutcome
    change invocation.outcome = some outcome at isOutcome
    change (if invocation.outcome = none then _ else _) = _
    rw [isOutcome, if_neg (Option.some_ne_none _)]
    exact foremost.decided outcome isOutcome

/-- A step of the caller that leaves the threads alone. -/
theorem restage (foremost : Foremost invocation) (staged : Staged next)
    (outcome : next.outcome = invocation.outcome) (threads : next.threads = invocation.threads)
    (firstResult : next.firstResult = invocation.firstResult)
    (pending : invocation.outcome = none → invocation.threads ≠ [] →
      next.pending = invocation.pending)
    (gone : invocation.threads ≠ [] → invocation.pending = false → next.pending = false) :
    Foremost next := by
  have busy : ∀ {thread}, thread ∈ invocation.threads → invocation.threads ≠ [] :=
    fun member => List.ne_nil_of_mem member
  constructor
  · exact staged
  · rw [outcome, firstResult, threads]
    intro undecided value isFirst
    obtain ⟨stage, found, waits⟩ := foremost.arrived undecided value isFirst
    refine ⟨stage, found, ?_⟩
    rw [pending undecided (busy (List.mem_of_find?_eq_some found))]
    exact waits
  · rw [outcome, firstResult, threads]
    exact foremost.recorded
  · rw [outcome, firstResult, threads]
    intro completion member
    obtain ⟨unpending, isFirst⟩ := foremost.taken completion member
    exact ⟨gone (busy member) unpending, isFirst⟩
  · rw [outcome, firstResult]
    exact foremost.decided

theorem call (foremost : Foremost invocation) (calls : Calls invocation next) :
    Foremost next := by
  have staged := foremost.staged.call calls
  cases calls with
  | prepare stage before after =>
      exact foremost.restage staged rfl rfl rfl (fun _ _ => rfl) (fun _ => id)
  | stepAck stage action ack before after kind moved =>
      exact foremost.restage staged rfl rfl rfl (fun _ _ => rfl) (fun _ => id)
  | add adding =>
      have idle := (foremost.staged.unadded (by rw [adding]; rfl)).2.1
      exact foremost.restage staged rfl rfl rfl (fun _ busy => absurd idle busy)
        (fun busy => absurd idle busy)
  | await stage registration before after notThrowing =>
      exact foremost.restage staged rfl rfl rfl (fun _ _ => rfl) (fun _ => id)
  | cancelAtOnce before =>
      have awaiting : Foremost { invocation with stage := .awaiting } :=
        foremost.restage (.behind rfl (nomatch ·) foremost.staged.cleaned) rfl rfl rfl
          (fun _ _ => rfl) (fun _ => id)
      exact awaiting.trySetCanceled rfl
  | resume stage after completed =>
      exact foremost.restage staged rfl rfl rfl (fun _ _ => rfl) (fun _ => id)
  | removeInvocation throwing =>
      exact foremost.restage staged rfl rfl rfl
        (fun undecided => absurd undecided (foremost.staged.threw throwing)) (fun _ _ => rfl)

theorem step (foremost : Foremost invocation) {action : InvocationAction ρ}
    (condition : Orderly invocation action)
    (stepped : invocationStep invocation action = some next) : Foremost next := by
  have staged := foremost.staged.step stepped
  cases steps_of_step stepped with
  | call calls => exact foremost.call calls
  | failWrite | cancel | drop | addServiceMapping | sweep =>
      exact foremost.restage staged rfl rfl rfl (fun _ _ => rfl) (fun _ => id)
  | cancelRegistered isRegistered =>
      obtain ⟨unadded, registered, threw, cleaned⟩ := foremost.staged
      have noted : Foremost { invocation with tokenCanceled := true } :=
        foremost.restage ⟨unadded, registered, threw, cleaned⟩ rfl rfl rfl (fun _ _ => rfl)
          (fun _ => id)
      exact noted.trySetCanceled (registered isRegistered)
  | find received pending => exact foremost.find received pending staged
  | stay => exact foremost
  | cleanUp _ pending => exact foremost.spawn rfl nofun staged
  | resume resumes => exact foremost.resume condition resumes

end Foremost

/-! ## Results -/

section Results

variable {invocation next : Invocation ρ}

/-- The task keeps its result. -/
theorem outcome_of_step {action : InvocationAction ρ} {outcome : InvocationOutcome ρ}
    (isOutcome : invocation.outcome = some outcome)
    (stepped : invocationStep invocation action = some next) : next.outcome = some outcome := by
  have stays : ∀ other, invocation.outcome.or (some other) = some outcome := by
    intro other
    rw [isOutcome, Option.some_or]
  cases steps_of_step stepped with
  | call calls =>
      cases calls with
      | cancelAtOnce before =>
          unfold Invocation.trySetCanceled
          split_ifs <;> exact isOutcome
      | prepare | stepAck | add | await | resume | removeInvocation => exact isOutcome
  | cancelRegistered =>
      unfold Invocation.trySetCanceled
      split_ifs <;> exact isOutcome
  | failWrite | cancel | drop | find | stay | addServiceMapping | cleanUp | sweep =>
      exact isOutcome
  | resume resumes =>
      cases resumes with
      | complete | cleanUp | setCanceled => exact stays _
      | trigger | ack | completeAck | removeAck | pass | fallShort | take | miss | removeEntry =>
          exact isOutcome

/-- A completion fails an invocation only when all endpoints have answered, the first
result that arrives while it is waiting completes it, it is completed at most once and
a completion for another connection leaves it as it is. -/
structure Invocation.DecidedOnce (invocation : Invocation ρ) : Prop where
  failed : ∀ message, invocation.outcome = some (.failed message) →
    invocation.ackNumber ≤ invocation.received
  first : ∀ value, invocation.firstResult = some value →
    invocation.outcome = some (.result value) ∨
      invocation.outcome = none ∧
        ∃ stage, .completing stage (.result value) ∈ invocation.threads
  won : ∀ value, invocation.outcome = some (.result value) → invocation.firstResult = some value
  once : ∀ (later : List (InvocationAction ρ)) (final : Invocation ρ) (outcome : _),
    run invocationStep invocation later = some final → invocation.outcome = some outcome →
    final.outcome = some outcome
  others : ∀ (connectionId : String) (received : Except String ρ) (next : Invocation ρ),
    connectionId ≠ invocation.connectionId →
    invocationStep invocation (.dispatch connectionId received) = some next → next = invocation

/-- However calls, completions, clean-ups, cancellations and sweeps interleave, when no
sweep completes the ack of a waiting invocation early and threads take their turns. -/
theorem invocations_decided_once (calls : List (String × Fin (2 ^ 31)))
    {actions : List (Nat × InvocationAction ρ)} {invocations : List (Invocation ρ)}
    (orderly : Along (stepComponent invocationStep) (OnComponent Orderly)
      (invokeConnections calls) actions)
    (ran : run (stepComponent invocationStep) (invokeConnections calls) actions =
      some invocations) :
    ∀ invocation ∈ invocations, invocation.DecidedOnce := by
  intro invocation member
  obtain ⟨component, isLast⟩ := List.mem_iff_getElem?.mp member
  obtain ⟨first, isFirst, ranAlone, alone⟩ := run_component orderly ran isLast
  obtain ⟨call, -, rfl⟩ := List.mem_map.mp (List.mem_of_getElem? isFirst)
  have accounted : Accounted invocation :=
    run_along (fun accounted condition stepped => accounted.step condition stepped)
      (Accounted.initial call.1 call.2) alone ranAlone
  have foremost : Foremost invocation :=
    run_along (fun foremost condition stepped => foremost.step condition stepped)
      (Foremost.initial call.1 call.2) alone ranAlone
  constructor
  · exact accounted.failed
  · intro value isFirst
    cases decided : invocation.outcome with
    | none =>
        obtain ⟨stage, found, -⟩ := foremost.arrived decided value isFirst
        exact .inr ⟨rfl, stage, List.mem_of_find?_eq_some found⟩
    | some outcome =>
        have isValue := (foremost.decided outcome decided).symm.trans isFirst
        cases outcome with
        | result won =>
            cases isValue
            exact .inl rfl
        | failed | disconnected | canceledError | canceled => cases isValue
  · intro value isOutcome
    exact foremost.decided _ isOutcome
  · intro later final outcome continued isOutcome
    exact run_invariant (fun isOutcome stepped => outcome_of_step isOutcome stepped) isOutcome
      continued
  · intro connectionId received next differs stepped
    unfold invocationStep Invocation.dispatch at stepped
    simp only [if_neg differs] at stepped
    split_ifs at stepped
    cases stepped
    rfl

end Results

/-- Two endpoints: an error from one and the result from the other. -/
def errorThenResult : List (Nat × InvocationAction Nat) :=
  List.replicate 7 (0, .call) ++ (0, .dispatch "c" (.error "e")) ::
    List.replicate 3 (0, .resume 0) ++ (0, .dispatch "c" (.ok 7)) ::
    List.replicate 7 (0, .resume 0)

theorem invocations_decided_once_seven :
    ∃ invocations, run (stepComponent invocationStep) (invokeConnections [("c", 2)])
        errorThenResult = some invocations ∧
      (∃ invocation ∈ invocations, invocation.outcome = some (.result 7)) ∧
      ∀ invocation ∈ invocations, invocation.DecidedOnce := by
  have orderly : Along (stepComponent invocationStep) (OnComponent Orderly)
      (invokeConnections [("c", 2)]) errorThenResult := by
    decide
  exact ⟨_, rfl, by decide, invocations_decided_once [("c", 2)] orderly rfl⟩

/-- Two endpoints: a sweep finds the ack of the waiting invocation out of time, and then
one of them answers with an error. -/
def sweepThenError : List (Nat × InvocationAction Nat) :=
  List.replicate 7 (0, .call) ++
    [(0, .sweep .expire), (0, .sweep .tryRemove), (0, .sweep .timeOut), (0, .sweep .force),
      (0, .dispatch "c" (.error "e"))] ++
    List.replicate 4 (0, .resume 0)

theorem invocation_fails_early :
    ¬ ∀ (calls : List (String × Fin (2 ^ 31))) (actions : List (Nat × InvocationAction Nat))
        (invocations : List (Invocation Nat)),
      run (stepComponent invocationStep) (invokeConnections calls) actions = some invocations →
      ∀ invocation ∈ invocations, invocation.DecidedOnce := by
  intro claimed
  have decided := claimed [("c", 2)] sweepThenError _ rfl _ (List.mem_singleton_self _)
  exact absurd (decided.failed "e" rfl) (by decide)

end AzureSignalR.ClientInvocation
