import AzureSignalR.ClientInvocation.InvocationSteps

/-!
Contract: results of invocations that are not lost.

Owns: what becomes of a result that is dispatched for an invocation, when the
invocation has been added to the table before, and a schedule in which it has not.

Does not own: which of several completions wins.
-/

set_option autoImplicit false

namespace AzureSignalR.ClientInvocation

open Library Library.Machine Utilities

variable {ρ : Type}

/-! ## The purpose -/

namespace Invocation

/-- The task is completed, or a thread that has taken the entry is about to complete it. -/
def Settling (invocation : Invocation ρ) : Prop :=
  invocation.outcome ≠ none ∨
    ∃ completion, .completing .finishing completion ∈ invocation.threads

/-- A dispatched result is being processed, or the task is completed with it, or
something else that there was for the invocation completes it. -/
def Delivered (invocation : Invocation ρ) (value : ρ) : Prop :=
  (∃ stage, .completing stage (.result value) ∈ invocation.threads) ∨
    invocation.outcome = some (.result value) ∨
    2 ≤ invocation.begun ∧ invocation.Settling

end Invocation

/-- A result is dispatched for an invocation only when it has been added to the table. -/
def AfterRegistration (invocation : Invocation ρ) : InvocationAction ρ → Prop
  | .dispatch connectionId (.ok _) =>
      connectionId = invocation.connectionId → invocation.stage.isAdded = true
  | .dispatch _ (.error _) | .call | .failWrite | .cancel | .addServiceMapping _
  | .cleanUpByConnection _ | .cleanUpByInstance _ | .sweep _ | .resume _ => True

instance (invocation : Invocation ρ) :
    (action : InvocationAction ρ) → Decidable (AfterRegistration invocation action)
  | .dispatch connectionId (.ok _) =>
      inferInstanceAs (Decidable (connectionId = invocation.connectionId →
        invocation.stage.isAdded = true))
  | .dispatch _ (.error _) | .call | .failWrite | .cancel | .addServiceMapping _
  | .cleanUpByConnection _ | .cleanUpByInstance _ | .sweep _ | .resume _ => .isTrue trivial

/-! ## What there was for an invocation -/

/-- Whether a thread may still complete the task. -/
def InvocationThread.weight (outcome : Option (InvocationOutcome ρ)) :
    InvocationThread ρ → Nat
  | .completing _ _ | .cleaningUp => 1
  | .removingEntry => 0
  | .canceling => if outcome = none then 1 else 0

/-- Whether the task is completed. -/
def completions (outcome : Option (InvocationOutcome ρ)) : Nat :=
  if outcome = none then 0 else 1

structure Tracked (invocation : Invocation ρ) : Prop where
  staged : Staged invocation
  tally : Threads.total (InvocationThread.weight invocation.outcome) invocation.threads +
    completions invocation.outcome ≤ invocation.begun
  removed : invocation.stage.isAdded = true → invocation.pending = false → invocation.Settling
  delivered : ∀ value ∈ invocation.results, invocation.Delivered value

variable {invocation next : Invocation ρ}

theorem weight_of_some {outcome : Option (InvocationOutcome ρ)} {completed : InvocationOutcome ρ}
    (thread : InvocationThread ρ) :
    thread.weight (some completed) ≤ thread.weight outcome := by
  cases thread with
  | canceling => simp [InvocationThread.weight]
  | completing | cleaningUp | removingEntry => exact Nat.le_refl _

/-- What is left of the weights when the task is completed. -/
theorem total_completed (before : Option (InvocationOutcome ρ)) (outcome : InvocationOutcome ρ)
    (threads : List (InvocationThread ρ)) :
    Threads.total (InvocationThread.weight (before.or (some outcome))) threads ≤
      Threads.total (InvocationThread.weight before) threads := by
  obtain ⟨completed, isCompleted⟩ :=
    Option.ne_none_iff_exists'.mp (or_some_ne_none before outcome)
  rw [isCompleted]
  exact Threads.total_mono _ fun thread _ => weight_of_some thread

theorem completions_of_ne_none {outcome : Option (InvocationOutcome ρ)}
    (completed : outcome ≠ none) : completions outcome = 1 :=
  if_neg completed

/-- When `TryCompleteResult` returns, its weight is left to the completed task. -/
theorem total_finishThreads {threads : List (InvocationThread ρ)} {index : Nat}
    {completion : Completion ρ} {stage : CompletionStage}
    (present : threads[index]? = some (.completing stage completion))
    (outcome : Option (InvocationOutcome ρ)) :
    Threads.total (InvocationThread.weight outcome) (finishThreads threads index completion) +
        completions outcome ≤
      Threads.total (InvocationThread.weight outcome) threads := by
  unfold finishThreads completions
  split_ifs with isCanceled completed completed
  · have sum := Threads.total_set (InvocationThread.weight outcome) .canceling present
    simp only [InvocationThread.weight, if_pos completed] at sum
    omega
  · have sum := Threads.total_set (InvocationThread.weight outcome) .canceling present
    simp only [InvocationThread.weight, if_neg completed] at sum
    omega
  · have sum := Threads.total_eraseIdx (InvocationThread.weight outcome) present
    simp only [InvocationThread.weight] at sum
    omega
  · have sum := Threads.total_eraseIdx (InvocationThread.weight outcome) present
    simp only [InvocationThread.weight] at sum
    omega

namespace Tracked

theorem initial (connectionId : String) (ackNumber : Fin (2 ^ 31)) :
    Tracked ({ connectionId := connectionId, ackNumber := ackNumber } : Invocation ρ) where
  staged := Staged.initial connectionId ackNumber
  tally := Nat.le_refl 0
  removed added := nomatch added
  delivered _ member := nomatch member

/-! ### Threads -/

/-- One thread goes on. -/
theorem move (tracked : Tracked invocation) (staged : Staged next) {thread : InvocationThread ρ}
    (begun : next.begun = invocation.begun) (results : next.results = invocation.results)
    (keeps : ∀ outcome, invocation.outcome = some outcome → next.outcome = some outcome)
    (others : ∀ other ∈ invocation.threads, other ≠ thread → other ∈ next.threads)
    (tally : Threads.total (InvocationThread.weight next.outcome) next.threads +
        completions next.outcome ≤
      Threads.total (InvocationThread.weight invocation.outcome) invocation.threads +
        completions invocation.outcome)
    (removed : next.pending = false → next.Settling)
    (settles : invocation.Settling → next.Settling)
    (own : ∀ stage value, thread = .completing stage (.result value) → next.Delivered value) :
    Tracked next := by
  constructor
  · exact staged
  · rw [begun]
    exact Nat.le_trans tally tracked.tally
  · exact fun _ => removed
  · intro value member
    rw [results] at member
    rcases tracked.delivered value member with ⟨place, isThread⟩ | isOutcome | ⟨many, settling⟩
    · by_cases itself : .completing place (.result value) = thread
      · exact own place value itself.symm
      · exact .inl ⟨place, others _ isThread itself⟩
    · exact .inr (.inl (keeps _ isOutcome))
    · exact .inr (.inr ⟨begun ▸ many, settles settling⟩)

/-- A completion goes on inside `TryCompleteResult`. -/
theorem proceed (tracked : Tracked invocation) {index : Nat} {completion : Completion ρ}
    {before after : CompletionStage}
    (present : invocation.threads[index]? = some (.completing before completion))
    (notFinishing : before ≠ .finishing) (ack : MultiAck)
    (staged : Staged ({ invocation with ack := ack }.replace index
      (.completing after completion))) :
    Tracked ({ invocation with ack := ack }.replace index (.completing after completion)) := by
  have others : ∀ other ∈ invocation.threads, other ≠ .completing before completion →
      other ∈ invocation.threads.set index (.completing after completion) :=
    fun other member differs => Threads.mem_set_of_ne present member differs
  have settles : invocation.Settling → ({ invocation with ack := ack }.replace index
      (.completing after completion)).Settling := by
    rintro (completed | ⟨other, finishing⟩)
    · exact .inl completed
    · refine .inr ⟨other, others _ finishing ?_⟩
      intro same
      cases same
      exact notFinishing rfl
  refine tracked.move staged rfl rfl (fun _ same => same) others ?_ ?_ settles ?_
  · have sum := Threads.total_set (InvocationThread.weight invocation.outcome)
      (.completing after completion) present
    change Threads.total (InvocationThread.weight invocation.outcome)
      (invocation.threads.set index (.completing after completion)) +
        completions invocation.outcome ≤ _
    simp only [InvocationThread.weight] at sum
    omega
  · exact fun unpending => settles (tracked.removed (tracked.staged.added present) unpending)
  · rintro stage value same
    cases same
    exact .inl ⟨after, Threads.mem_set_self present⟩

/-- A completion takes the entry off the table. -/
theorem take (tracked : Tracked invocation) {index : Nat} {completion : Completion ρ}
    {before : CompletionStage}
    (present : invocation.threads[index]? = some (.completing before completion))
    (staged : Staged ({ invocation with pending := false }.replace index
      (.completing .finishing completion))) :
    Tracked ({ invocation with pending := false }.replace index
      (.completing .finishing completion)) := by
  have finishing : (.completing .finishing completion : InvocationThread ρ) ∈
      invocation.threads.set index (.completing .finishing completion) :=
    Threads.mem_set_self present
  refine tracked.move staged rfl rfl (fun _ same => same)
    (fun other member differs => Threads.mem_set_of_ne present member differs) ?_ ?_ ?_ ?_
  · have sum := Threads.total_set (InvocationThread.weight invocation.outcome)
      (.completing .finishing completion) present
    change Threads.total (InvocationThread.weight invocation.outcome)
      (invocation.threads.set index (.completing .finishing completion)) +
        completions invocation.outcome ≤ _
    simp only [InvocationThread.weight] at sum
    omega
  · exact fun _ => .inr ⟨completion, finishing⟩
  · exact fun _ => .inr ⟨completion, finishing⟩
  · rintro stage value same
    cases same
    exact .inl ⟨.finishing, finishing⟩

theorem one_le_begun (tracked : Tracked invocation) (settling : invocation.Settling) :
    1 ≤ invocation.begun := by
  have tally := tracked.tally
  rcases settling with completed | ⟨completion, finishing⟩
  · rw [completions_of_ne_none completed] at tally
    omega
  · have own : 1 ≤ Threads.total (InvocationThread.weight invocation.outcome)
        invocation.threads :=
      Threads.weight_le_total (InvocationThread.weight invocation.outcome) finishing
    omega

/-- Something other than this thread completes the task. -/
theorem two_le_begun (tracked : Tracked invocation) {index : Nat} {completion : Completion ρ}
    {stage : CompletionStage}
    (present : invocation.threads[index]? = some (.completing stage completion))
    (notFinishing : stage ≠ .finishing ∨ invocation.outcome ≠ none)
    (settling : invocation.Settling) : 2 ≤ invocation.begun := by
  have tally := tracked.tally
  have own : 1 ≤ Threads.total (InvocationThread.weight invocation.outcome) invocation.threads :=
    Threads.weight_le_total (InvocationThread.weight invocation.outcome)
      (List.mem_of_getElem? present)
  rcases settling with completed | ⟨other, finishing⟩
  · rw [completions_of_ne_none completed] at tally
    omega
  · rcases notFinishing with notFinishing | completed
    · have both : 1 + 1 ≤ Threads.total (InvocationThread.weight invocation.outcome)
          invocation.threads := by
        refine Threads.add_weight_le_total (InvocationThread.weight invocation.outcome) present
          finishing ?_
        intro same
        cases same
        exact notFinishing rfl
      omega
    · rw [completions_of_ne_none completed] at tally
      omega

/-- `TryCompleteResult` returns without completing the task: another completion has
taken the entry, or there is no result and the ack is not completed. -/
theorem leave (tracked : Tracked invocation) {index : Nat} {completion : Completion ρ}
    {stage : CompletionStage}
    (present : invocation.threads[index]? = some (.completing stage completion))
    (notFinishing : stage ≠ .finishing)
    (reason : completion.hasResult = false ∨ invocation.pending = false)
    (staged : Staged { invocation with
      threads := finishThreads invocation.threads index completion }) :
    Tracked { invocation with
      threads := finishThreads invocation.threads index completion } := by
  have settles : invocation.Settling → Invocation.Settling { invocation with
      threads := finishThreads invocation.threads index completion } := by
    rintro (completed | ⟨other, finishing⟩)
    · exact .inl completed
    · refine .inr ⟨other, mem_finishThreads present finishing ?_⟩
      intro same
      cases same
      exact notFinishing rfl
  refine tracked.move staged rfl rfl (fun _ same => same)
    (fun other member differs => mem_finishThreads present member differs) ?_ ?_ settles ?_
  · exact Nat.le_trans (total_finishThreads present invocation.outcome) (Nat.le_add_right ..)
  · exact fun unpending => settles (tracked.removed (tracked.staged.added present) unpending)
  · rintro place value same
    cases same
    rcases reason with impossible | unpending
    · cases impossible
    · have settling := tracked.removed (tracked.staged.added present) unpending
      exact .inr (.inr ⟨tracked.two_le_begun present (.inl notFinishing) settling,
        settles settling⟩)

/-- A thread goes on, and the task is completed behind it. -/
theorem conclude (tracked : Tracked invocation) (staged : Staged next)
    {thread : InvocationThread ρ} (begun : next.begun = invocation.begun)
    (results : next.results = invocation.results)
    (keeps : ∀ outcome, invocation.outcome = some outcome → next.outcome = some outcome)
    (others : ∀ other ∈ invocation.threads, other ≠ thread → other ∈ next.threads)
    (completed : next.outcome ≠ none)
    (tally : Threads.total (InvocationThread.weight next.outcome) next.threads + 1 ≤
      Threads.total (InvocationThread.weight invocation.outcome) invocation.threads +
        completions invocation.outcome)
    (own : ∀ stage value, thread = .completing stage (.result value) →
      next.outcome = some (.result value) ∨ 2 ≤ invocation.begun) :
    Tracked next := by
  refine tracked.move staged begun results keeps others ?_ (fun _ => .inl completed)
    (fun _ => .inl completed) ?_
  · rw [completions_of_ne_none completed]
    exact tally
  · intro place value same
    rcases own place value same with isOutcome | many
    · exact .inr (.inl isOutcome)
    · exact .inr (.inr ⟨begun ▸ many, .inl completed⟩)

/-- The task keeps its result. -/
theorem or_of_some {before : Option (InvocationOutcome ρ)} {outcome : InvocationOutcome ρ}
    (other : InvocationOutcome ρ) (same : before = some outcome) :
    before.or (some other) = some outcome := by
  rw [same, Option.some_or]

/-- `Complete` with a completion that has taken the entry. -/
theorem settle (tracked : Tracked invocation) {index : Nat} {completion : Completion ρ}
    (present : invocation.threads[index]? = some (.completing .finishing completion))
    (staged : Staged { invocation.complete completion.outcome with
      threads := finishThreads invocation.threads index completion }) :
    Tracked { invocation.complete completion.outcome with
      threads := finishThreads invocation.threads index completion } := by
  refine tracked.conclude staged rfl rfl (fun _ same => or_of_some _ same)
    (fun other member differs => mem_finishThreads present member differs)
    (or_some_ne_none _ _) ?_ ?_
  · have left := total_finishThreads present (invocation.outcome.or (some completion.outcome))
    have less := total_completed invocation.outcome completion.outcome invocation.threads
    rw [completions_of_ne_none (or_some_ne_none _ _)] at left
    exact Nat.le_trans left (Nat.le_trans less (Nat.le_add_right ..))
  · rintro stage value same
    cases same
    by_cases completed : invocation.outcome = none
    · left
      change invocation.outcome.or _ = _
      rw [completed]
      rfl
    · exact .inr (tracked.two_le_begun present (.inr completed) (.inl completed))

/-- `Complete` of a clean-up. -/
theorem cleanUp (tracked : Tracked invocation) {index : Nat}
    (present : invocation.threads[index]? = some .cleaningUp) (outcome : InvocationOutcome ρ)
    (staged : Staged ((invocation.complete outcome).replace index .removingEntry)) :
    Tracked ((invocation.complete outcome).replace index .removingEntry) := by
  refine tracked.conclude staged rfl rfl (fun _ same => or_of_some _ same)
    (fun other member differs => Threads.mem_set_of_ne present member differs)
    (or_some_ne_none _ _) ?_ (fun _ _ impossible => nomatch impossible)
  have sum := Threads.total_set
    (InvocationThread.weight (invocation.outcome.or (some outcome))) .removingEntry present
  have less := total_completed invocation.outcome outcome invocation.threads
  change Threads.total (InvocationThread.weight (invocation.outcome.or (some outcome)))
    (invocation.threads.set index .removingEntry) + 1 ≤ _
  simp only [InvocationThread.weight] at sum
  omega

/-- A clean-up takes the entry off the table. -/
theorem removeEntry (tracked : Tracked invocation) {index : Nat}
    (present : invocation.threads[index]? = some .removingEntry)
    (staged : Staged { invocation with
      pending := false, threads := invocation.threads.eraseIdx index }) :
    Tracked { invocation with
      pending := false, threads := invocation.threads.eraseIdx index } := by
  have completed := tracked.staged.cleaned (List.mem_of_getElem? present)
  refine tracked.conclude staged rfl rfl (fun _ same => same)
    (fun other member differs => Threads.mem_eraseIdx_of_ne present member differs)
    completed ?_ (fun _ _ impossible => nomatch impossible)
  have sum := Threads.total_eraseIdx (InvocationThread.weight invocation.outcome) present
  rw [completions_of_ne_none completed]
  change Threads.total (InvocationThread.weight invocation.outcome)
    (invocation.threads.eraseIdx index) + 1 ≤ _
  omega

/-- `base.TrySetCanceled`. -/
theorem setCanceled (tracked : Tracked invocation) {index : Nat}
    (present : invocation.threads[index]? = some .canceling)
    (staged : Staged { invocation.trySet .canceled with
      threads := invocation.threads.eraseIdx index }) :
    Tracked { invocation.trySet .canceled with
      threads := invocation.threads.eraseIdx index } := by
  refine tracked.conclude staged rfl rfl (fun _ same => or_of_some _ same)
    (fun other member differs => Threads.mem_eraseIdx_of_ne present member differs)
    (or_some_ne_none _ _) ?_ (fun _ _ impossible => nomatch impossible)
  have sum := Threads.total_eraseIdx (InvocationThread.weight invocation.outcome) present
  have less := total_completed invocation.outcome .canceled (invocation.threads.eraseIdx index)
  have one : InvocationThread.weight invocation.outcome .canceling +
      completions invocation.outcome = 1 := by
    unfold InvocationThread.weight completions
    split_ifs <;> rfl
  change Threads.total (InvocationThread.weight (invocation.outcome.or (some .canceled)))
    (invocation.threads.eraseIdx index) + 1 ≤ _
  omega

theorem resume (tracked : Tracked invocation) {index : Nat}
    (resumed : Resumes invocation index next) : Tracked next := by
  have staged := tracked.staged.resume resumed
  cases resumed with
  | trigger completion present => exact tracked.proceed present (nomatch ·) invocation.ack staged
  | ack completion stepped present acked =>
      exact tracked.proceed present (nomatch ·) stepped staged
  | completeAck completion stepped present acked =>
      exact tracked.proceed present (nomatch ·) stepped staged
  | removeAck completion stepped present acked =>
      exact tracked.proceed present (nomatch ·) stepped staged
  | pass completion present enough =>
      exact tracked.proceed present (nomatch ·) invocation.ack staged
  | fallShort completion present noResult incomplete =>
      exact tracked.leave present (nomatch ·) (.inl noResult) staged
  | take completion present pending => exact tracked.take present staged
  | miss completion present unpending =>
      exact tracked.leave present (nomatch ·) (.inr unpending) staged
  | complete completion present => exact tracked.settle present staged
  | cleanUp present => exact tracked.cleanUp present _ staged
  | removeEntry present => exact tracked.removeEntry present staged
  | setCanceled present => exact tracked.setCanceled present staged

end Tracked

/-! ## The caller and the manager -/

/-- A result stays delivered when nothing is taken away. -/
theorem Invocation.Delivered.mono {value : ρ} (delivered : invocation.Delivered value)
    (outcome : next.outcome = invocation.outcome)
    (threads : ∀ thread ∈ invocation.threads, thread ∈ next.threads)
    (begun : invocation.begun ≤ next.begun) : next.Delivered value := by
  rcases delivered with ⟨stage, isThread⟩ | isOutcome | ⟨many, settling⟩
  · exact .inl ⟨stage, threads _ isThread⟩
  · exact .inr (.inl (outcome ▸ isOutcome))
  · refine .inr (.inr ⟨Nat.le_trans many begun, ?_⟩)
    rcases settling with completed | ⟨other, finishing⟩
    · exact .inl (outcome ▸ completed)
    · exact .inr ⟨other, threads _ finishing⟩

namespace Tracked

/-- A step that neither begins nor moves a thread. -/
theorem restage (tracked : Tracked invocation) (staged : Staged next)
    (threads : next.threads = invocation.threads)
    (outcome : next.outcome = invocation.outcome) (begun : invocation.begun ≤ next.begun)
    (results : ∀ value ∈ next.results, value ∈ invocation.results ∨ next.Delivered value)
    (removed : next.stage.isAdded = true → next.pending = false → invocation.Settling) :
    Tracked next := by
  have settling : next.Settling = invocation.Settling := by
    unfold Invocation.Settling
    rw [outcome, threads]
  constructor
  · exact staged
  · rw [threads, outcome]
    exact Nat.le_trans tracked.tally begun
  · rw [settling]
    exact removed
  · intro value member
    rcases results value member with before | new
    · refine (tracked.delivered value before).mono outcome ?_ begun
      intro thread isThread
      rwa [threads]
    · exact new

/-- Something begins for an invocation in the table. -/
theorem spawn (tracked : Tracked invocation) (isAdded : invocation.stage.isAdded = true)
    {thread : InvocationThread ρ} (starts : thread ≠ .removingEntry) :
    Tracked (invocation.spawn thread) := by
  have keeps : ∀ other ∈ invocation.threads, other ∈ (invocation.spawn thread).threads :=
    fun _ member => List.mem_append_left _ member
  constructor
  · exact tracked.staged.spawn isAdded starts
  · have light : thread.weight invocation.outcome ≤ 1 := by
      unfold InvocationThread.weight
      split
      · exact Nat.le_refl 1
      · exact Nat.le_refl 1
      · exact Nat.zero_le 1
      · split_ifs <;> decide
    have tally := tracked.tally
    change Threads.total (InvocationThread.weight invocation.outcome)
      (invocation.threads ++ [thread]) + completions invocation.outcome ≤ invocation.begun + 1
    rw [Threads.total_append, Threads.total_cons, Threads.total_nil]
    omega
  · intro _ unpending
    rcases tracked.removed isAdded unpending with completed | ⟨other, finishing⟩
    · exact .inl completed
    · exact .inr ⟨other, keeps _ finishing⟩
  · intro value member
    exact (tracked.delivered value member).mono rfl keeps (Nat.le_succ _)

theorem trySetCanceled (tracked : Tracked invocation)
    (isAdded : invocation.stage.isAdded = true) : Tracked invocation.trySetCanceled := by
  unfold Invocation.trySetCanceled
  split_ifs
  · exact tracked.spawn isAdded (nomatch ·)
  · exact tracked.spawn isAdded (nomatch ·)

theorem call (tracked : Tracked invocation) (calls : Calls invocation next) : Tracked next := by
  have staged := tracked.staged.call calls
  cases calls with
  | prepare stage before after =>
      refine tracked.restage staged rfl rfl (Nat.le_refl _) (fun _ => .inl) ?_
      intro added
      cases after.symm.trans added
  | stepAck stage action ack before after kind stepped =>
      refine tracked.restage staged rfl rfl (Nat.le_refl _) (fun _ => .inl) ?_
      intro added
      cases after.symm.trans added
  | add adding => exact tracked.restage staged rfl rfl (Nat.le_refl _) (fun _ => .inl) nofun
  | await stage registration before after notThrowing =>
      exact tracked.restage staged rfl rfl (Nat.le_refl _) (fun _ => .inl)
        (fun _ unpending => tracked.removed before unpending)
  | cancelAtOnce before =>
      have awaiting : Tracked { invocation with stage := .awaiting } :=
        tracked.restage (.behind rfl (nomatch ·) tracked.staged.cleaned) rfl rfl (Nat.le_refl _)
          (fun _ => .inl) (fun _ unpending => tracked.removed before unpending)
      exact awaiting.trySetCanceled rfl
  | resume stage after completed =>
      exact tracked.restage staged rfl rfl (Nat.le_refl _) (fun _ => .inl)
        (fun _ _ => .inl completed)
  | removeInvocation throwing =>
      exact tracked.restage staged rfl rfl (Nat.le_refl _) (fun _ => .inl)
        (fun _ _ => .inl (tracked.staged.threw throwing))

/-- A completion is dispatched. Only the condition of the step keeps a result from being
dropped before `TryAdd`. -/
theorem drop (tracked : Tracked invocation) {received : Except String ρ}
    (condition : AfterRegistration invocation (.dispatch invocation.connectionId received))
    (unpending : invocation.pending = false)
    (staged : Staged { invocation with
      results := invocation.results ++ received.toOption.toList
      begun := invocation.begun + 1 }) :
    Tracked { invocation with
      results := invocation.results ++ received.toOption.toList
      begun := invocation.begun + 1 } := by
  refine tracked.restage staged rfl rfl (Nat.le_succ _) ?_ tracked.removed
  intro value member
  rcases List.mem_append.mp member with before | new
  · exact .inl before
  · cases received with
    | error message => cases new
    | ok result =>
        have settling := tracked.removed (condition rfl) unpending
        exact .inr (.inr (.inr ⟨Nat.succ_le_succ (tracked.one_le_begun settling), settling⟩))

theorem find (tracked : Tracked invocation) (received : Except String ρ)
    (pending : invocation.pending = true) (firstResult : Option ρ) (count : Nat) :
    Tracked { invocation with
      results := invocation.results ++ received.toOption.toList
      begun := invocation.begun + 1
      threads := invocation.threads ++ [.completing .triggering (.ofReceived received)]
      received := count
      firstResult := firstResult } := by
  have spawned : Tracked (invocation.spawn (.completing .triggering (.ofReceived received))) :=
    tracked.spawn (tracked.staged.added_of_pending pending) (nomatch ·)
  obtain ⟨unadded, registered, threw, cleaned⟩ := spawned.staged
  refine spawned.restage ⟨unadded, registered, threw, cleaned⟩ rfl rfl (Nat.le_refl _) ?_
    spawned.removed
  intro value member
  rcases List.mem_append.mp member with before | new
  · exact .inl before
  · cases received with
    | error message => cases new
    | ok result =>
        cases List.mem_singleton.mp new
        exact .inr (.inl ⟨.triggering, List.mem_append_right _ (List.mem_singleton_self _)⟩)

theorem step (tracked : Tracked invocation) {action : InvocationAction ρ}
    (condition : AfterRegistration invocation action)
    (stepped : invocationStep invocation action = some next) : Tracked next := by
  have staged := tracked.staged.step stepped
  cases steps_of_step stepped with
  | call calls => exact tracked.call calls
  | failWrite writing =>
      exact tracked.restage staged rfl rfl (Nat.le_refl _) (fun _ => .inl) nofun
  | cancel =>
      exact tracked.restage staged rfl rfl (Nat.le_refl _) (fun _ => .inl) tracked.removed
  | cancelRegistered isRegistered =>
      obtain ⟨unadded, registered, threw, cleaned⟩ := tracked.staged
      have noted : Tracked { invocation with tokenCanceled := true } :=
        tracked.restage ⟨unadded, registered, threw, cleaned⟩ rfl rfl (Nat.le_refl _)
          (fun _ => .inl) tracked.removed
      exact noted.trySetCanceled (registered isRegistered)
  | drop received unpending => exact tracked.drop condition unpending staged
  | find received pending => exact tracked.find received pending _ _
  | stay => exact tracked
  | addServiceMapping instanceId =>
      exact tracked.restage staged rfl rfl (Nat.le_refl _) (fun _ => .inl) tracked.removed
  | cleanUp _ pending =>
      exact tracked.spawn (tracked.staged.added_of_pending pending) (nomatch ·)
  | sweep action swept hasAck sweeps stepped =>
      exact tracked.restage staged rfl rfl (Nat.le_refl _) (fun _ => .inl) tracked.removed
  | resume resumes => exact tracked.resume resumes

end Tracked

end AzureSignalR.ClientInvocation
