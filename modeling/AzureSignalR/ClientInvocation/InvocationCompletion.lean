import AzureSignalR.ClientInvocation.InvocationDelivery

/-!
Contract: the threads of an invocation come to an end.

Owns: why a thread at an invocation is never stuck, and so what a dispatched
result comes to when the threads have ended; and the schedule in which a result
is dropped.

Does not own: fairness. What is shown is that the threads can always end.
-/

set_option autoImplicit false

namespace AzureSignalR.ClientInvocation

open Library Library.Machine Utilities

variable {ρ : Type}

/-! ## Threads and their acks -/

/-- Whether a thread is at a place of `TryCompleteResult`. -/
def InvocationThread.at (place : CompletionStage) : InvocationThread ρ → Nat
  | .completing stage _ => if stage = place then 1 else 0
  | .cleaningUp | .removingEntry | .canceling => 0

/-- Each thread that has made the ack complete still has to do so, and each that has
completed it still has to remove it. -/
structure Acked (stage : CallerStage) (ack : MultiAck) (threads : List (InvocationThread ρ)) :
    Prop where
  completing : Threads.total (InvocationThread.at .completingAck) threads +
    (if stage = .completingCount then 1 else 0) ≤ ack.completing
  removing : Threads.total (InvocationThread.at .removingAck) threads +
    (if stage = .removingCount then 1 else 0) ≤ ack.removing

variable {stage : CallerStage} {ack stepped : MultiAck} {threads : List (InvocationThread ρ)}
  {invocation next : Invocation ρ} {index : Nat} {thread : InvocationThread ρ}

theorem completing_of_ack (moved : multiAckStep ack .ack = some stepped) :
    ack.completing ≤ stepped.completing ∧ stepped.removing = ack.removing := by
  simp only [multiAckStep] at moved
  split at moved
  · split_ifs at moved
    · cases moved
      exact ⟨Nat.le_succ _, rfl⟩
    · cases moved
      exact ⟨Nat.le_refl _, rfl⟩
  · cases moved
    exact ⟨Nat.le_refl _, rfl⟩

theorem completing_of_setExpectedCount {expectedCount : Int32}
    (moved : multiAckStep ack (.setExpectedCount expectedCount) = some stepped) :
    ack.completing ≤ stepped.completing ∧ stepped.removing = ack.removing := by
  simp only [multiAckStep] at moved
  split_ifs at moved
  · cases moved
    exact ⟨Nat.le_succ _, rfl⟩
  · cases moved
    exact ⟨Nat.le_refl _, rfl⟩
  · cases moved
    exact ⟨Nat.le_refl _, rfl⟩

theorem completing_of_complete (moved : multiAckStep ack .complete = some stepped) :
    stepped.completing + 1 = ack.completing ∧ stepped.removing = ack.removing + 1 := by
  simp only [multiAckStep] at moved
  split_ifs at moved with positive
  cases moved
  exact ⟨Nat.sub_add_cancel positive, rfl⟩

theorem completing_of_remove (moved : multiAckStep ack .remove = some stepped) :
    stepped.completing = ack.completing ∧ stepped.removing + 1 = ack.removing := by
  simp only [multiAckStep] at moved
  split_ifs at moved with positive
  cases moved
  exact ⟨rfl, Nat.sub_add_cancel positive⟩

theorem completing_of_sweep {action : MultiAckAction}
    (sweeps : action = .expire ∨ action = .tryRemove ∨ action = .timeOut ∨ action = .force)
    (moved : multiAckStep ack action = some stepped) :
    stepped.completing = ack.completing ∧ stepped.removing = ack.removing := by
  rcases sweeps with rfl | rfl | rfl | rfl
  all_goals
    simp only [multiAckStep] at moved
    split_ifs at moved
    all_goals
      cases moved
      exact ⟨rfl, rfl⟩

namespace Acked

theorem set (acked : Acked stage ack threads) (present : threads[index]? = some thread)
    {changed : InvocationThread ρ}
    (completing : changed.at .completingAck + ack.completing ≤
      thread.at .completingAck + stepped.completing)
    (removing : changed.at .removingAck + ack.removing ≤
      thread.at .removingAck + stepped.removing) :
    Acked stage stepped (threads.set index changed) := by
  have completingSum := Threads.total_set (InvocationThread.at .completingAck) changed present
  have removingSum := Threads.total_set (InvocationThread.at .removingAck) changed present
  have completingBefore := acked.completing
  have removingBefore := acked.removing
  constructor <;> omega

theorem eraseIdx (acked : Acked stage ack threads) (present : threads[index]? = some thread) :
    Acked stage ack (threads.eraseIdx index) := by
  have completingSum := Threads.total_eraseIdx (InvocationThread.at .completingAck) present
  have removingSum := Threads.total_eraseIdx (InvocationThread.at .removingAck) present
  have completingBefore := acked.completing
  have removingBefore := acked.removing
  constructor <;> omega

theorem append (acked : Acked stage ack threads) (completing : thread.at .completingAck = 0)
    (removing : thread.at .removingAck = 0) : Acked stage ack (threads ++ [thread]) := by
  have completingBefore := acked.completing
  have removingBefore := acked.removing
  constructor
  · rw [Threads.total_append, Threads.total_cons, Threads.total_nil]
    omega
  · rw [Threads.total_append, Threads.total_cons, Threads.total_nil]
    omega

/-- The caller goes on, with the steps of the ack it still has to take. -/
theorem goOn (acked : Acked stage ack threads) {after : CallerStage}
    (completing : (if after = .completingCount then 1 else 0) + ack.completing ≤
      (if stage = .completingCount then 1 else 0) + stepped.completing)
    (removing : (if after = .removingCount then 1 else 0) + ack.removing ≤
      (if stage = .removingCount then 1 else 0) + stepped.removing) :
    Acked after stepped threads := by
  have completingBefore := acked.completing
  have removingBefore := acked.removing
  constructor <;> omega

/-- The caller goes on elsewhere. -/
theorem elsewhere (acked : Acked stage ack threads) {after : CallerStage}
    (notCompleting : after ≠ .completingCount) (notRemoving : after ≠ .removingCount) :
    Acked after ack threads := by
  refine acked.goOn ?_ ?_
  · rw [if_neg notCompleting, Nat.zero_add]
    exact Nat.le_add_left ..
  · rw [if_neg notRemoving, Nat.zero_add]
    exact Nat.le_add_left ..

theorem finish (acked : Acked stage ack threads) (completion : Completion ρ)
    (present : threads[index]? = some thread) :
    Acked stage ack (finishThreads threads index completion) := by
  unfold finishThreads
  split_ifs
  · exact acked.set present (Nat.add_le_add (Nat.zero_le _) (Nat.le_refl _))
      (Nat.add_le_add (Nat.zero_le _) (Nat.le_refl _))
  · exact acked.eraseIdx present

theorem resume (acked : Acked invocation.stage invocation.ack invocation.threads)
    (resumed : Resumes invocation index next) : Acked next.stage next.ack next.threads := by
  cases resumed with
  | trigger completion present =>
      refine acked.set present ?_ ?_
      · split_ifs <;> simp [InvocationThread.at]
      · split_ifs <;> simp [InvocationThread.at]
  | ack completion stepped present moved =>
      obtain ⟨completing, removing⟩ := completing_of_ack moved
      refine acked.set present ?_ ?_
      · split_ifs with more
        · simp [InvocationThread.at]
          omega
        · simpa [InvocationThread.at] using completing
      · split_ifs with more
        · simp [InvocationThread.at, removing]
        · simp [InvocationThread.at, removing]
  | completeAck completion stepped present moved =>
      obtain ⟨completing, removing⟩ := completing_of_complete moved
      refine acked.set present ?_ ?_
      · simp [InvocationThread.at]
        omega
      · simp [InvocationThread.at]
        omega
  | removeAck completion stepped present moved =>
      obtain ⟨completing, removing⟩ := completing_of_remove moved
      refine acked.set present ?_ ?_
      · simp [InvocationThread.at, completing]
      · simp [InvocationThread.at]
        omega
  | pass completion present enough =>
      exact acked.set present (by simp [InvocationThread.at]) (by simp [InvocationThread.at])
  | take completion present pending =>
      exact acked.set present (by simp [InvocationThread.at]) (by simp [InvocationThread.at])
  | fallShort completion present noResult incomplete => exact acked.finish completion present
  | miss completion present unpending => exact acked.finish completion present
  | complete completion present => exact acked.finish completion present
  | cleanUp present =>
      exact acked.set present (by simp [InvocationThread.at]) (by simp [InvocationThread.at])
  | removeEntry present => exact acked.eraseIdx present
  | setCanceled present => exact acked.eraseIdx present

theorem trySetCanceled (invocation : Invocation ρ)
    (acked : Acked invocation.stage invocation.ack invocation.threads) :
    Acked invocation.trySetCanceled.stage invocation.trySetCanceled.ack
      invocation.trySetCanceled.threads := by
  unfold Invocation.trySetCanceled
  split_ifs
  · exact acked.append rfl rfl
  · exact acked.append rfl rfl

theorem of_stepAck {action : MultiAckAction} {after : CallerStage}
    (called : invocation.stepAck action after = some next)
    (counts : ∀ stepped, multiAckStep invocation.ack action = some stepped →
      Acked after stepped invocation.threads) : Acked next.stage next.ack next.threads := by
  unfold Invocation.stepAck at called
  split at called
  next => cases called
  next stepped moved =>
    cases called
    exact counts stepped moved

theorem call (acked : Acked invocation.stage invocation.ack invocation.threads)
    (called : invocation.call = some next) : Acked next.stage next.ack next.threads := by
  unfold Invocation.call at called
  split at called
  next =>
    cases called
    exact acked.elsewhere (nomatch ·) (nomatch ·)
  next =>
    cases called
    exact acked.elsewhere (nomatch ·) (nomatch ·)
  next =>
    cases called
    exact acked.elsewhere (by split_ifs <;> exact (nomatch ·))
      (by split_ifs <;> exact (nomatch ·))
  next stage =>
    unfold Invocation.setExpectedCount at called
    split at called
    next => cases called
    next stepped moved =>
      cases called
      obtain ⟨completing, removing⟩ := completing_of_setExpectedCount moved
      by_cases counted : invocation.ack.completing < stepped.completing
      · -- The count is complete, and the caller goes on to complete the ack.
        rw [if_pos counted]
        show Acked .completingCount stepped invocation.threads
        refine acked.goOn ?_ ?_
        · rw [if_pos rfl]
          omega
        · rw [if_neg CallerStage.noConfusion, removing]
          omega
      · rw [if_neg counted]
        show Acked .adding stepped invocation.threads
        refine acked.goOn ?_ ?_
        · rw [if_neg CallerStage.noConfusion]
          omega
        · rw [if_neg CallerStage.noConfusion, removing]
          omega
  next stage =>
    refine of_stepAck called fun stepped moved => ?_
    obtain ⟨completing, removing⟩ := completing_of_complete moved
    refine acked.goOn ?_ ?_
    · simp [stage]
      omega
    · simp [stage]
      omega
  next stage =>
    refine of_stepAck called fun stepped moved => ?_
    obtain ⟨completing, removing⟩ := completing_of_remove moved
    refine acked.goOn ?_ ?_
    · simp [stage, completing]
    · simp [stage]
      omega
  next =>
    cases called
    exact acked.elsewhere (nomatch ·) (nomatch ·)
  next =>
    split at called
    · cases called
      exact trySetCanceled { invocation with stage := .awaiting }
        (acked.elsewhere (nomatch ·) (nomatch ·))
    · cases called
      exact acked.elsewhere (nomatch ·) (nomatch ·)
  next =>
    cases called
    exact acked.elsewhere (nomatch ·) (nomatch ·)
  next =>
    split at called
    next => cases called
    next =>
      cases called
      exact acked.elsewhere (by split_ifs <;> exact (nomatch ·))
        (by split_ifs <;> exact (nomatch ·))
  next =>
    cases called
    exact acked.elsewhere (nomatch ·) (nomatch ·)
  next => cases called
  next => cases called

theorem step (acked : Acked invocation.stage invocation.ack invocation.threads)
    {action : InvocationAction ρ} (stepped : invocationStep invocation action = some next) :
    Acked next.stage next.ack next.threads := by
  cases steps_of_step stepped with
  | call calls => exact acked.call stepped
  | failWrite writing => exact acked.elsewhere (nomatch ·) (nomatch ·)
  | cancel => exact acked
  | cancelRegistered registered =>
      exact trySetCanceled { invocation with tokenCanceled := true } acked
  | drop received unpending => exact acked
  | find received pending => exact acked.append rfl rfl
  | stay => exact acked
  | addServiceMapping instanceId => exact acked
  | cleanUp _ pending => exact acked.append rfl rfl
  | sweep action swept hasAck sweeps moved =>
      obtain ⟨completing, removing⟩ := completing_of_sweep sweeps moved
      exact acked.goOn (by rw [completing]) (by rw [removing])
  | resume resumes => exact acked.resume resumes

end Acked

/-! ## Progress -/

/-- How many steps a thread has still to take, at most. -/
def CompletionStage.rank : CompletionStage → Nat
  | .triggering => 8
  | .acking => 7
  | .completingAck => 6
  | .removingAck => 5
  | .testing => 4
  | .removing => 3
  | .finishing => 2

def InvocationThread.rank : InvocationThread ρ → Nat
  | .completing stage _ => stage.rank
  | .cleaningUp => 2
  | .removingEntry | .canceling => 1

theorem rank_set (present : threads[index]? = some thread) {changed : InvocationThread ρ}
    (less : changed.rank < thread.rank) :
    Threads.total InvocationThread.rank (threads.set index changed) <
      Threads.total InvocationThread.rank threads := by
  have sum := Threads.total_set InvocationThread.rank changed present
  omega

theorem rank_eraseIdx (present : threads[index]? = some thread) (positive : 0 < thread.rank) :
    Threads.total InvocationThread.rank (threads.eraseIdx index) <
      Threads.total InvocationThread.rank threads := by
  have sum := Threads.total_eraseIdx InvocationThread.rank present
  omega

/-- A completion goes on inside `TryCompleteResult`. -/
theorem rank_proceed {completion : Completion ρ} {before after : CompletionStage}
    (present : threads[index]? = some (.completing before completion))
    (less : after.rank < before.rank) :
    Threads.total InvocationThread.rank (threads.set index (.completing after completion)) <
      Threads.total InvocationThread.rank threads :=
  rank_set present less

theorem rank_finish {completion : Completion ρ} {before : CompletionStage}
    (present : threads[index]? = some (.completing before completion)) (more : 1 < before.rank) :
    Threads.total InvocationThread.rank (finishThreads threads index completion) <
      Threads.total InvocationThread.rank threads := by
  unfold finishThreads
  split_ifs
  · exact rank_set present more
  · exact rank_eraseIdx present (Nat.zero_lt_of_lt more)

/-- A thread that goes on comes nearer to its end. -/
theorem rank_of_resumes (resumed : Resumes invocation index next) :
    Threads.total InvocationThread.rank next.threads <
      Threads.total InvocationThread.rank invocation.threads := by
  cases resumed with
  | trigger completion present =>
      refine rank_proceed present ?_
      split_ifs <;> decide
  | ack completion stepped present moved =>
      refine rank_proceed present ?_
      split_ifs <;> decide
  | completeAck completion stepped present moved => exact rank_proceed present (by decide)
  | removeAck completion stepped present moved => exact rank_proceed present (by decide)
  | pass completion present enough => exact rank_proceed present (by decide)
  | take completion present pending => exact rank_proceed present (by decide)
  | fallShort completion present noResult incomplete => exact rank_finish present (by decide)
  | miss completion present unpending => exact rank_finish present (by decide)
  | complete completion present => exact rank_finish present (by decide)
  | cleanUp present => exact rank_set present Nat.one_lt_two
  | removeEntry present => exact rank_eraseIdx present Nat.one_pos
  | setCanceled present => exact rank_eraseIdx present Nat.one_pos

theorem exists_ack (ack : MultiAck) : ∃ stepped, multiAckStep ack .ack = some stepped := by
  simp only [multiAckStep]
  split
  · split_ifs <;> exact ⟨_, rfl⟩
  · exact ⟨_, rfl⟩

theorem not_disposalWaits (none : ∀ other ∈ invocation.threads, other.isCancellation = false) :
    ¬ invocation.disposalWaits = true := by
  intro waits
  have cancels := (decide_eq_true_eq.mp waits).2
  obtain ⟨other, member, isCancellation⟩ := List.any_eq_true.mp cancels
  rw [none other member] at isCancellation
  cases isCancellation

/-- A thread can go on when it is one of the token, or there is none of the token. -/
theorem exists_resume (acked : Acked invocation.stage invocation.ack invocation.threads)
    (present : invocation.threads[index]? = some thread)
    (unblocked : thread.isCancellation = true ∨
      ∀ other ∈ invocation.threads, other.isCancellation = false) :
    ∃ next, invocation.resume index = some next := by
  have member := List.mem_of_getElem? present
  simp only [Invocation.resume, present]
  cases thread with
  | completing stage completion =>
      cases stage <;> simp only [Invocation.resumeCompletion, Invocation.resumeAck]
      case triggering => exact ⟨_, rfl⟩
      case acking =>
        obtain ⟨stepped, moved⟩ := exists_ack invocation.ack
        rw [moved]
        exact ⟨_, rfl⟩
      case completingAck =>
        have one : 1 ≤ Threads.total (InvocationThread.at .completingAck) invocation.threads :=
          Threads.weight_le_total (InvocationThread.at .completingAck) member
        have positive : 0 < invocation.ack.completing := by
          have counted := acked.completing
          omega
        simp only [multiAckStep, if_pos positive]
        exact ⟨_, rfl⟩
      case removingAck =>
        have one : 1 ≤ Threads.total (InvocationThread.at .removingAck) invocation.threads :=
          Threads.weight_le_total (InvocationThread.at .removingAck) member
        have positive : 0 < invocation.ack.removing := by
          have counted := acked.removing
          omega
        simp only [multiAckStep, if_pos positive]
        exact ⟨_, rfl⟩
      case testing =>
        split_ifs <;> exact ⟨_, rfl⟩
      case removing =>
        split_ifs <;> exact ⟨_, rfl⟩
      case finishing =>
        rw [if_neg]
        · exact ⟨_, rfl⟩
        · rintro ⟨notCanceled, waits⟩
          rcases unblocked with canceled | none
          · exact notCanceled canceled
          · exact not_disposalWaits none waits
  | cleaningUp =>
      rw [if_neg]
      · exact ⟨_, rfl⟩
      · intro waits
        rcases unblocked with canceled | none
        · cases canceled
        · exact not_disposalWaits none waits
  | removingEntry | canceling => exact ⟨_, rfl⟩

/-- While there are threads, one of them can go on. -/
theorem exists_resumes (acked : Acked invocation.stage invocation.ack invocation.threads)
    (busy : invocation.threads ≠ []) : ∃ index next, invocation.resume index = some next := by
  by_cases cancels : ∃ other ∈ invocation.threads, other.isCancellation = true
  · obtain ⟨other, member, isCancellation⟩ := cancels
    obtain ⟨index, present⟩ := List.mem_iff_getElem?.mp member
    exact ⟨index, exists_resume acked present (.inl isCancellation)⟩
  · obtain ⟨first, member⟩ := List.exists_mem_of_ne_nil _ busy
    obtain ⟨index, present⟩ := List.mem_iff_getElem?.mp member
    refine ⟨index, exists_resume acked present (.inr fun other isOther => ?_)⟩
    by_contra isCancellation
    exact cancels ⟨other, isOther, Bool.eq_true_of_not_eq_false isCancellation⟩

/-- A thread leaves what there was for the invocation as it is. -/
theorem past_of_resumes (resumed : Resumes invocation index next) :
    next.begun = invocation.begun ∧ next.results = invocation.results := by
  cases resumed <;> exact ⟨rfl, rfl⟩

/-- The threads can end, and then the task is completed: with the result, or with
something else that there was for the invocation. -/
def Invocation.Completes (invocation : Invocation ρ) (value : ρ) : Prop :=
  ∃ (actions : List (InvocationAction ρ)) (final : Invocation ρ),
    (∀ action ∈ actions, ∃ thread, action = .resume thread) ∧
      run invocationStep invocation actions = some final ∧ final.threads = [] ∧
      (final.outcome = some (.result value) ∨
        2 ≤ invocation.begun ∧ final.outcome ≠ none)

/-- The threads of an invocation go on from one state to another. -/
structure GoesOn (invocation state : Invocation ρ) : Prop where
  tracked : Tracked state
  acked : Acked state.stage state.ack state.threads
  begun : state.begun = invocation.begun
  results : state.results = invocation.results

theorem GoesOn.progress {state : Invocation ρ} (goesOn : GoesOn invocation state)
    (busy : ¬ state.threads = []) :
    ∃ action next, (∃ thread, action = .resume thread) ∧ invocationStep state action = some next ∧
      GoesOn invocation next ∧
      Threads.total InvocationThread.rank next.threads <
        Threads.total InvocationThread.rank state.threads := by
  obtain ⟨index, next, resumed⟩ := exists_resumes goesOn.acked busy
  have resumes := resumes_of_resume resumed
  have past := past_of_resumes resumes
  exact ⟨.resume index, next, ⟨index, rfl⟩, resumed,
    ⟨goesOn.tracked.resume resumes, goesOn.acked.resume resumes, past.1.trans goesOn.begun,
      past.2.trans goesOn.results⟩,
    rank_of_resumes resumes⟩

theorem Tracked.completes (tracked : Tracked invocation)
    (acked : Acked invocation.stage invocation.ack invocation.threads) {value : ρ}
    (dispatched : value ∈ invocation.results) : invocation.Completes value := by
  have start : GoesOn invocation invocation := ⟨tracked, acked, rfl, rfl⟩
  obtain ⟨actions, final, resumes, ran, goesOn, ended⟩ :=
    run_until (fun state => Threads.total InvocationThread.rank state.threads)
      GoesOn.progress start
  refine ⟨actions, final, resumes, ran, ended, ?_⟩
  rcases goesOn.tracked.delivered value (goesOn.results ▸ dispatched) with
    ⟨stage, isThread⟩ | isOutcome | ⟨many, completed | ⟨completion, isThread⟩⟩
  · rw [ended] at isThread
    cases isThread
  · exact .inl isOutcome
  · exact .inr ⟨goesOn.begun ▸ many, completed⟩
  · rw [ended] at isThread
    cases isThread

/-! ## Results -/

/-- However calls, completions, clean-ups, cancellations and sweeps interleave: a result
that is dispatched behind `TryAdd` completes the task, unless there was something else
for the invocation that does. -/
theorem invocation_results_delivered (calls : List (String × Fin (2 ^ 31)))
    {actions : List (Nat × InvocationAction ρ)} {invocations : List (Invocation ρ)}
    (registered : Along (stepComponent invocationStep) (OnComponent AfterRegistration)
      (invokeConnections calls) actions)
    (ran : run (stepComponent invocationStep) (invokeConnections calls) actions =
      some invocations) :
    ∀ invocation ∈ invocations, ∀ value ∈ invocation.results,
      invocation.Delivered value ∧ invocation.Completes value := by
  intro invocation member value dispatched
  obtain ⟨component, isLast⟩ := List.mem_iff_getElem?.mp member
  obtain ⟨first, isFirst, ranAlone, alone⟩ := run_component registered ran isLast
  obtain ⟨call, -, rfl⟩ := List.mem_map.mp (List.mem_of_getElem? isFirst)
  have tracked : Tracked invocation :=
    run_along (fun tracked condition stepped => tracked.step condition stepped)
      (Tracked.initial call.1 call.2) alone ranAlone
  have preserved : ∀ {state : Invocation ρ} {action : InvocationAction ρ} {next : Invocation ρ},
      Acked state.stage state.ack state.threads → invocationStep state action = some next →
      Acked next.stage next.ack next.threads :=
    fun acked stepped => acked.step stepped
  have acked : Acked invocation.stage invocation.ack invocation.threads := by
    refine run_invariant preserved ?_ ranAlone
    exact ⟨Nat.le_refl 0, Nat.le_refl 0⟩
  exact ⟨tracked.delivered value dispatched, tracked.completes acked dispatched⟩

/-- One call, with the result behind `TryAdd` and before the caller waits. -/
def registeredActions : List (Nat × InvocationAction Nat) :=
  [(0, .call), (0, .call), (0, .call), (0, .call), (0, .call), (0, .dispatch "c" (.ok 7)),
    (0, .resume 0), (0, .call), (0, .call)]

theorem invocation_results_delivered_seven :
    ∃ invocations, run (stepComponent invocationStep) (invokeConnections [("c", 1)])
        registeredActions = some invocations ∧
      (∃ invocation ∈ invocations, 7 ∈ invocation.results) ∧
      ∀ invocation ∈ invocations, ∀ value ∈ invocation.results,
        invocation.Delivered value ∧ invocation.Completes value := by
  have registered : Along (stepComponent invocationStep) (OnComponent AfterRegistration)
      (invokeConnections [("c", 1)]) registeredActions := by
    decide
  exact ⟨_, rfl, by decide, invocation_results_delivered [("c", 1)] registered rfl⟩

/-- The result comes when the message has been written and the invocation has not been
added to the table yet. -/
def droppedActions : List (Nat × InvocationAction Nat) :=
  [(0, .call), (0, .dispatch "c" (.ok 7)), (0, .call), (0, .call), (0, .call), (0, .call),
    (0, .call), (0, .call)]

/-- It is dropped, and the caller waits. -/
theorem invocation_result_dropped :
    ¬ ∀ (calls : List (String × Fin (2 ^ 31))) (actions : List (Nat × InvocationAction Nat))
        (invocations : List (Invocation Nat)),
      run (stepComponent invocationStep) (invokeConnections calls) actions = some invocations →
      ∀ invocation ∈ invocations, ∀ value ∈ invocation.results,
        invocation.Delivered value ∧ invocation.Completes value := by
  intro claimed
  have delivered := (claimed [("c", 1)] droppedActions _ rfl _ (List.mem_singleton_self _) 7
    (List.mem_singleton_self _)).1
  rcases delivered with ⟨stage, isThread⟩ | isOutcome | ⟨many, -⟩
  · cases isThread
  · cases isOutcome
  · exact absurd many (by decide)

end AzureSignalR.ClientInvocation
