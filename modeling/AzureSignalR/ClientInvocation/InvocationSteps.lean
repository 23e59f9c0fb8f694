import AzureSignalR.ClientInvocation.Invocation
import AzureSignalR.Library.Threads

/-!
Contract: what one step does to an invocation.

Owns: the steps of a thread, of the caller, of a dispatch and of a sweep, each by
what it needs and what it leaves; and what the stage of the caller says about the
rest of an invocation, in every run.

Does not own: what becomes of a completion.
-/

set_option autoImplicit false

namespace AzureSignalR.ClientInvocation

open Library Library.Machine Utilities

variable {ρ : Type}

/-! ## Fields -/

@[simp] theorem replace_ack (invocation : Invocation ρ) (index : Nat)
    (thread : InvocationThread ρ) : (invocation.replace index thread).ack = invocation.ack :=
  rfl

@[simp] theorem complete_ack (invocation : Invocation ρ) (outcome : InvocationOutcome ρ) :
    (invocation.complete outcome).ack = invocation.ack :=
  rfl

/-- The threads that are left when `TryCompleteResult` returns. -/
def finishThreads (threads : List (InvocationThread ρ)) (index : Nat)
    (completion : Completion ρ) : List (InvocationThread ρ) :=
  if completion.isCanceled then threads.set index .canceling else threads.eraseIdx index

theorem finish_eq (invocation : Invocation ρ) (index : Nat) (completion : Completion ρ) :
    invocation.finish index completion =
      { invocation with threads := finishThreads invocation.threads index completion } := by
  unfold Invocation.finish finishThreads
  split_ifs <;> rfl

/-- Behind `Complete` the task is completed. -/
theorem or_some_ne_none (before : Option (InvocationOutcome ρ)) (outcome : InvocationOutcome ρ) :
    before.or (some outcome) ≠ none := by
  cases before <;> exact Option.some_ne_none _

/-! ## What a thread does -/

/-- The steps of one thread. -/
inductive Resumes (invocation : Invocation ρ) (index : Nat) : Invocation ρ → Prop
  | trigger (completion : Completion ρ)
      (present : invocation.threads[index]? = some (.completing .triggering completion)) :
      Resumes invocation index (invocation.replace index
        (.completing (if invocation.ack.stored then .acking else .testing) completion))
  | ack (completion : Completion ρ) (stepped : MultiAck)
      (present : invocation.threads[index]? = some (.completing .acking completion))
      (acked : multiAckStep invocation.ack .ack = some stepped) :
      Resumes invocation index ({ invocation with ack := stepped }.replace index
        (.completing (if invocation.ack.completing < stepped.completing then .completingAck
          else .testing) completion))
  | completeAck (completion : Completion ρ) (stepped : MultiAck)
      (present : invocation.threads[index]? = some (.completing .completingAck completion))
      (acked : multiAckStep invocation.ack .complete = some stepped) :
      Resumes invocation index ({ invocation with ack := stepped }.replace index
        (.completing .removingAck completion))
  | removeAck (completion : Completion ρ) (stepped : MultiAck)
      (present : invocation.threads[index]? = some (.completing .removingAck completion))
      (acked : multiAckStep invocation.ack .remove = some stepped) :
      Resumes invocation index ({ invocation with ack := stepped }.replace index
        (.completing .testing completion))
  | pass (completion : Completion ρ)
      (present : invocation.threads[index]? = some (.completing .testing completion))
      (enough : completion.hasResult = true ∨ invocation.ack.completed = true) :
      Resumes invocation index (invocation.replace index (.completing .removing completion))
  | fallShort (completion : Completion ρ)
      (present : invocation.threads[index]? = some (.completing .testing completion))
      (noResult : completion.hasResult = false) (incomplete : invocation.ack.completed = false) :
      Resumes invocation index { invocation with
        threads := finishThreads invocation.threads index completion }
  | take (completion : Completion ρ)
      (present : invocation.threads[index]? = some (.completing .removing completion))
      (pending : invocation.pending = true) :
      Resumes invocation index ({ invocation with pending := false }.replace index
        (.completing .finishing completion))
  | miss (completion : Completion ρ)
      (present : invocation.threads[index]? = some (.completing .removing completion))
      (unpending : invocation.pending = false) :
      Resumes invocation index { invocation with
        threads := finishThreads invocation.threads index completion }
  | complete (completion : Completion ρ)
      (present : invocation.threads[index]? = some (.completing .finishing completion)) :
      Resumes invocation index { invocation.complete completion.outcome with
        threads := finishThreads invocation.threads index completion }
  | cleanUp (present : invocation.threads[index]? = some .cleaningUp) :
      Resumes invocation index
        ((invocation.complete (.disconnected invocation.disconnectedMessage)).replace index
          .removingEntry)
  | removeEntry (present : invocation.threads[index]? = some .removingEntry) :
      Resumes invocation index { invocation with
        pending := false
        threads := invocation.threads.eraseIdx index }
  | setCanceled (present : invocation.threads[index]? = some .canceling) :
      Resumes invocation index { invocation.trySet .canceled with
        threads := invocation.threads.eraseIdx index }

section Resumes

variable {invocation next : Invocation ρ} {index : Nat}

theorem resumes_of_resumeAck {completion : Completion ρ} {action : MultiAckAction}
    {after : MultiAck → CompletionStage}
    (resumed : invocation.resumeAck index completion action after = some next) :
    ∃ stepped, multiAckStep invocation.ack action = some stepped ∧
      next = { invocation with ack := stepped }.replace index
        (.completing (after stepped) completion) := by
  unfold Invocation.resumeAck at resumed
  split at resumed
  next => cases resumed
  next stepped acked =>
    cases resumed
    exact ⟨stepped, acked, rfl⟩

theorem resumes_of_resumeCompletion {completion : Completion ρ} {stage : CompletionStage}
    (present : invocation.threads[index]? = some (.completing stage completion))
    (resumed : invocation.resumeCompletion index completion stage = some next) :
    Resumes invocation index next := by
  cases stage <;> simp only [Invocation.resumeCompletion] at resumed
  case triggering =>
    cases resumed
    exact .trigger completion present
  case acking =>
    obtain ⟨stepped, acked, rfl⟩ := resumes_of_resumeAck resumed
    exact .ack completion stepped present acked
  case completingAck =>
    obtain ⟨stepped, acked, rfl⟩ := resumes_of_resumeAck resumed
    exact .completeAck completion stepped present acked
  case removingAck =>
    obtain ⟨stepped, acked, rfl⟩ := resumes_of_resumeAck resumed
    exact .removeAck completion stepped present acked
  case testing =>
    split at resumed
    next enough =>
      cases resumed
      exact .pass completion present enough
    next notEnough =>
      cases resumed
      rw [not_or, Bool.not_eq_true, Bool.not_eq_true] at notEnough
      rw [finish_eq]
      exact .fallShort completion present notEnough.1 notEnough.2
  case removing =>
    split at resumed
    next pending =>
      cases resumed
      exact .take completion present pending
    next unpending =>
      cases resumed
      rw [finish_eq]
      exact .miss completion present (Bool.eq_false_iff.mpr unpending)
  case finishing =>
    split at resumed
    next => cases resumed
    next =>
      cases resumed
      rw [finish_eq]
      exact .complete completion present

theorem resumes_of_resume (resumed : invocation.resume index = some next) :
    Resumes invocation index next := by
  unfold Invocation.resume at resumed
  split at resumed
  next => cases resumed
  next stage completion present => exact resumes_of_resumeCompletion present resumed
  next present =>
    split at resumed
    next => cases resumed
    next =>
      cases resumed
      exact .cleanUp present
  next present =>
    cases resumed
    exact .removeEntry present
  next present =>
    cases resumed
    exact .setCanceled present

end Resumes

/-! ## What is left when `TryCompleteResult` returns -/

section Finish

variable {threads : List (InvocationThread ρ)} {index : Nat} {completion : Completion ρ}
  {thread other : InvocationThread ρ}

theorem mem_finishThreads (present : threads[index]? = some thread) (member : other ∈ threads)
    (differs : other ≠ thread) : other ∈ finishThreads threads index completion := by
  unfold finishThreads
  split_ifs
  · exact Threads.mem_set_of_ne present member differs
  · exact Threads.mem_eraseIdx_of_ne present member differs

theorem mem_of_mem_finishThreads (member : other ∈ finishThreads threads index completion) :
    other ∈ threads ∨ other = .canceling := by
  unfold finishThreads at member
  split_ifs at member
  · exact List.mem_or_eq_of_mem_set member
  · exact .inl (List.mem_of_mem_eraseIdx member)

end Finish

/-! ## What the caller does -/

/-- The steps of `InvokeConnectionAsync` behind `WriteAsync`. -/
inductive Calls (invocation : Invocation ρ) : Invocation ρ → Prop
  | prepare (stage : CallerStage) (before : invocation.stage.isAdded = false)
      (after : stage.isAdded = false) :
      Calls invocation { invocation with stage := stage }
  | stepAck (stage : CallerStage) (action : MultiAckAction) (ack : MultiAck)
      (before : invocation.stage.isAdded = false) (after : stage.isAdded = false)
      (kind : action = .setExpectedCount (Int32.ofNat invocation.ackNumber) ∨
        action = .complete ∨ action = .remove)
      (stepped : multiAckStep invocation.ack action = some ack) :
      Calls invocation { invocation with stage := stage, ack := ack }
  | add (adding : invocation.stage = .adding) :
      Calls invocation { invocation with stage := .registering, pending := true }
  | await (stage : CallerStage) (registration : TokenRegistration)
      (before : invocation.stage.isAdded = true) (after : stage.isAdded = true)
      (notThrowing : stage ≠ .throwing) :
      Calls invocation { invocation with stage := stage, registration := registration }
  | cancelAtOnce (before : invocation.stage.isAdded = true) :
      Calls invocation { invocation with stage := .awaiting }.trySetCanceled
  | resume (stage : CallerStage) (after : stage.isAdded = true)
      (completed : invocation.outcome ≠ none) :
      Calls invocation { invocation with stage := stage }
  | removeInvocation (throwing : invocation.stage = .throwing) :
      Calls invocation { invocation with stage := .returned, pending := false }

section Calls

variable {invocation next : Invocation ρ}

theorem calls_of_stepAck {action : MultiAckAction} {stage : CallerStage}
    (before : invocation.stage.isAdded = false) (after : stage.isAdded = false)
    (kind : action = .setExpectedCount (Int32.ofNat invocation.ackNumber) ∨
      action = .complete ∨ action = .remove)
    (called : invocation.stepAck action stage = some next) : Calls invocation next := by
  unfold Invocation.stepAck at called
  split at called
  next => cases called
  next ack stepped =>
    cases called
    exact .stepAck stage action ack before after kind stepped

theorem calls_of_call (called : invocation.call = some next) : Calls invocation next := by
  unfold Invocation.call at called
  split at called
  next stage =>
    cases called
    exact .prepare _ (by rw [stage]; rfl) rfl
  next stage =>
    cases called
    exact .prepare _ (by rw [stage]; rfl) rfl
  next stage =>
    cases called
    exact .prepare _ (by rw [stage]; rfl) (by split_ifs <;> rfl)
  next stage =>
    unfold Invocation.setExpectedCount at called
    split at called
    next => cases called
    next counted stepped =>
      cases called
      exact .stepAck _ _ counted (by rw [stage]; rfl) (by split_ifs <;> rfl) (.inl rfl) stepped
  next stage => exact calls_of_stepAck (by rw [stage]; rfl) rfl (.inr (.inl rfl)) called
  next stage => exact calls_of_stepAck (by rw [stage]; rfl) rfl (.inr (.inr rfl)) called
  next stage =>
    cases called
    exact .add stage
  next stage =>
    split at called
    · cases called
      exact .cancelAtOnce (by rw [stage]; rfl)
    · cases called
      exact .await .assigning .registered (by rw [stage]; rfl) rfl (nomatch ·)
  next stage =>
    cases called
    exact .await .awaiting .active (by rw [stage]; rfl) rfl (nomatch ·)
  next stage =>
    split at called
    next => cases called
    next outcome isOutcome =>
      cases called
      refine .resume _ (by split_ifs <;> rfl) ?_
      rw [isOutcome]
      exact Option.some_ne_none _
  next stage =>
    cases called
    exact .removeInvocation stage
  next => cases called
  next => cases called

end Calls

/-! ## Any step -/

/-- The steps of an invocation. -/
inductive Steps (invocation : Invocation ρ) : InvocationAction ρ → Invocation ρ → Prop
  | call {next : Invocation ρ} (calls : Calls invocation next) : Steps invocation .call next
  | failWrite (writing : invocation.stage = .writing) :
      Steps invocation .failWrite { invocation with stage := .failed }
  | cancel : Steps invocation .cancel { invocation with tokenCanceled := true }
  | cancelRegistered (registered : invocation.registration ≠ .none) :
      Steps invocation .cancel { invocation with tokenCanceled := true }.trySetCanceled
  | drop (received : Except String ρ) (unpending : invocation.pending = false) :
      Steps invocation (.dispatch invocation.connectionId received) { invocation with
        results := invocation.results ++ received.toOption.toList
        begun := invocation.begun + 1 }
  | find (received : Except String ρ) (pending : invocation.pending = true) :
      Steps invocation (.dispatch invocation.connectionId received) { invocation with
        results := invocation.results ++ received.toOption.toList
        begun := invocation.begun + 1
        threads := invocation.threads ++ [.completing .triggering (.ofReceived received)]
        received := invocation.received + 1
        firstResult :=
          if invocation.outcome = none then invocation.firstResult.or received.toOption
          else invocation.firstResult }
  | stay (action : InvocationAction ρ) : Steps invocation action invocation
  | addServiceMapping (instanceId : String) :
      Steps invocation (.addServiceMapping instanceId)
        { invocation with routerInstanceId := some instanceId }
  | cleanUp (action : InvocationAction ρ) (pending : invocation.pending = true) :
      Steps invocation action (invocation.spawn .cleaningUp)
  | sweep (action : MultiAckAction) (swept : MultiAck)
      (hasAck : invocation.stage.hasAck = true)
      (sweeps : action = .expire ∨ action = .tryRemove ∨ action = .timeOut ∨ action = .force)
      (stepped : multiAckStep invocation.ack action = some swept) :
      Steps invocation (.sweep action) { invocation with ack := swept }
  | resume {index : Nat} {next : Invocation ρ} (resumes : Resumes invocation index next) :
      Steps invocation (.resume index) next

section Steps

variable {invocation next : Invocation ρ}

theorem steps_of_dispatch {connectionId : String} {received : Except String ρ}
    (dispatched : invocation.dispatch connectionId received = some next) :
    Steps invocation (.dispatch connectionId received) next := by
  unfold Invocation.dispatch at dispatched
  split at dispatched
  next =>
    split at dispatched
    next own =>
      rw [own]
      split at dispatched
      next pending =>
        cases dispatched
        exact .find received pending
      next unpending =>
        cases dispatched
        exact .drop received (Bool.eq_false_iff.mpr unpending)
    next =>
      cases dispatched
      exact .stay _
  next => cases dispatched

theorem steps_of_cleanUp {matching : Bool} {action : InvocationAction ρ}
    (cleaned : invocation.cleanUp matching = some next) : Steps invocation action next := by
  unfold Invocation.cleanUp at cleaned
  split at cleaned
  next pending =>
    split at cleaned
    next =>
      cases cleaned
      exact .cleanUp action pending
    next =>
      cases cleaned
      exact .stay action
  next => cases cleaned

theorem steps_of_sweep {action : MultiAckAction} (swept : invocation.sweep action = some next) :
    Steps invocation (.sweep action) next := by
  unfold Invocation.sweep at swept
  split at swept
  next hasAck =>
    cases action with
    | expire | tryRemove | timeOut | force =>
        simp only at swept
        split at swept
        next => cases swept
        next ack stepped =>
          cases swept
          exact .sweep _ ack hasAck (by simp) stepped
    | ack | setExpectedCount | complete | remove => cases swept
  next => cases swept

theorem steps_of_cancel (canceled : invocation.cancel = some next) :
    Steps invocation .cancel next := by
  unfold Invocation.cancel at canceled
  split at canceled
  next => cases canceled
  next =>
    split at canceled
    next registered =>
      cases canceled
      exact .cancelRegistered (by rw [registered]; exact (nomatch ·))
    next active =>
      cases canceled
      exact .cancelRegistered (by rw [active]; exact (nomatch ·))
    next =>
      cases canceled
      exact .cancel
    next =>
      cases canceled
      exact .cancel

theorem steps_of_step {action : InvocationAction ρ}
    (stepped : invocationStep invocation action = some next) : Steps invocation action next := by
  cases action with
  | call => exact .call (calls_of_call stepped)
  | failWrite =>
      simp only [invocationStep, Invocation.failWrite] at stepped
      split_ifs at stepped with writing
      cases stepped
      exact .failWrite writing
  | cancel => exact steps_of_cancel stepped
  | dispatch connectionId received => exact steps_of_dispatch stepped
  | addServiceMapping instanceId =>
      cases stepped
      unfold Invocation.addServiceMapping
      split_ifs
      · exact .addServiceMapping instanceId
      · exact .stay _
  | cleanUpByConnection | cleanUpByInstance => exact steps_of_cleanUp stepped
  | sweep action => exact steps_of_sweep stepped
  | resume index => exact .resume (resumes_of_resume stepped)

end Steps

/-! ## What the stage says -/

/-- What the stage of the caller says about the rest of an invocation. -/
structure Staged (invocation : Invocation ρ) : Prop where
  unadded : invocation.stage.isAdded = false →
    invocation.pending = false ∧ invocation.threads = [] ∧ invocation.outcome = none
  registered : invocation.registration ≠ .none → invocation.stage.isAdded = true
  threw : invocation.stage = .throwing → invocation.outcome ≠ none
  cleaned : .removingEntry ∈ invocation.threads → invocation.outcome ≠ none

namespace Staged

variable {invocation next : Invocation ρ}

theorem initial (connectionId : String) (ackNumber : Fin (2 ^ 31)) :
    Staged ({ connectionId := connectionId, ackNumber := ackNumber } : Invocation ρ) where
  unadded _ := ⟨rfl, rfl, rfl⟩
  registered registered := absurd rfl registered
  threw throwing := nomatch throwing
  cleaned member := nomatch member

/-- A thread exists only behind `TryAdd`. -/
theorem added (staged : Staged invocation) {index : Nat} {thread : InvocationThread ρ}
    (present : invocation.threads[index]? = some thread) :
    invocation.stage.isAdded = true := by
  by_contra unadded
  have none := (staged.unadded (Bool.eq_false_iff.mpr unadded)).2.1
  rw [none] at present
  cases present

/-- An invocation in the table has been added to it. -/
theorem added_of_pending (staged : Staged invocation) (pending : invocation.pending = true) :
    invocation.stage.isAdded = true := by
  by_contra unadded
  have missing := (staged.unadded (Bool.eq_false_iff.mpr unadded)).1
  cases pending.symm.trans missing

/-- A step behind `TryAdd`. -/
theorem behind (isAdded : next.stage.isAdded = true)
    (threw : next.stage = .throwing → next.outcome ≠ none)
    (cleaned : .removingEntry ∈ next.threads → next.outcome ≠ none) : Staged next where
  unadded unadded := by cases isAdded.symm.trans unadded
  registered _ := isAdded
  threw := threw
  cleaned := cleaned

/-- Something begins for an invocation in the table. -/
theorem spawn (staged : Staged invocation) (isAdded : invocation.stage.isAdded = true)
    {thread : InvocationThread ρ} (starts : thread ≠ .removingEntry) :
    Staged (invocation.spawn thread) := by
  refine behind isAdded staged.threw ?_
  intro member
  rcases List.mem_append.mp member with before | new
  · exact staged.cleaned before
  · exact absurd (List.mem_singleton.mp new).symm starts

theorem trySetCanceled (staged : Staged invocation) (isAdded : invocation.stage.isAdded = true) :
    Staged invocation.trySetCanceled := by
  unfold Invocation.trySetCanceled
  split_ifs
  · exact staged.spawn isAdded (nomatch ·)
  · exact staged.spawn isAdded (nomatch ·)

/-- One thread goes on. -/
theorem move (staged : Staged invocation) {index : Nat} {thread : InvocationThread ρ}
    (present : invocation.threads[index]? = some thread) (stage : next.stage = invocation.stage)
    (keeps : invocation.outcome ≠ none → next.outcome ≠ none)
    (cleaned : .removingEntry ∈ next.threads →
      .removingEntry ∈ invocation.threads ∨ next.outcome ≠ none) : Staged next := by
  refine behind (stage ▸ staged.added present) ?_ ?_
  · intro throwing
    exact keeps (staged.threw (stage ▸ throwing))
  · intro member
    rcases cleaned member with before | completed
    · exact keeps (staged.cleaned before)
    · exact completed

/-- A completion goes on inside `TryCompleteResult`. -/
theorem proceed (staged : Staged invocation) {index : Nat} {thread : InvocationThread ρ}
    (present : invocation.threads[index]? = some thread) (place : CompletionStage)
    (completion : Completion ρ) (stage : next.stage = invocation.stage)
    (outcome : next.outcome = invocation.outcome)
    (threads : next.threads = invocation.threads.set index (.completing place completion)) :
    Staged next := by
  refine staged.move present stage (fun completed => outcome ▸ completed) ?_
  intro member
  rw [threads] at member
  rcases List.mem_or_eq_of_mem_set member with before | impossible
  · exact .inl before
  · cases impossible

/-- `TryCompleteResult` returns. -/
theorem finish (staged : Staged invocation) {index : Nat} {thread : InvocationThread ρ}
    (present : invocation.threads[index]? = some thread) (completion : Completion ρ)
    (stage : next.stage = invocation.stage)
    (keeps : invocation.outcome ≠ none → next.outcome ≠ none)
    (threads : next.threads = finishThreads invocation.threads index completion) :
    Staged next := by
  refine staged.move present stage keeps ?_
  intro member
  rw [threads] at member
  rcases mem_of_mem_finishThreads member with before | impossible
  · exact .inl before
  · cases impossible

theorem resume (staged : Staged invocation) {index : Nat}
    (resumes : Resumes invocation index next) : Staged next := by
  cases resumes with
  | trigger completion present => exact staged.proceed present _ completion rfl rfl rfl
  | ack completion stepped present moved => exact staged.proceed present _ completion rfl rfl rfl
  | completeAck completion stepped present moved =>
      exact staged.proceed present _ completion rfl rfl rfl
  | removeAck completion stepped present moved =>
      exact staged.proceed present _ completion rfl rfl rfl
  | pass completion present enough => exact staged.proceed present _ completion rfl rfl rfl
  | take completion present pending => exact staged.proceed present _ completion rfl rfl rfl
  | fallShort completion present noResult incomplete =>
      exact staged.finish present completion rfl id rfl
  | miss completion present unpending => exact staged.finish present completion rfl id rfl
  | complete completion present =>
      exact staged.finish present completion rfl (fun _ => or_some_ne_none _ _) rfl
  | cleanUp present =>
      exact staged.move present rfl (fun _ => or_some_ne_none _ _)
        (fun _ => .inr (or_some_ne_none _ _))
  | removeEntry present =>
      exact staged.move present rfl id (fun member => .inl (List.mem_of_mem_eraseIdx member))
  | setCanceled present =>
      exact staged.move present rfl (fun _ => or_some_ne_none _ _)
        (fun member => .inl (List.mem_of_mem_eraseIdx member))

/-- The caller goes on before `TryAdd`. -/
theorem prepare (staged : Staged invocation) {stage : CallerStage} (ack : MultiAck)
    (before : invocation.stage.isAdded = false) (after : stage.isAdded = false) :
    Staged { invocation with stage := stage, ack := ack } where
  unadded _ := staged.unadded before
  registered registered := by cases before.symm.trans (staged.registered registered)
  threw throwing := by
    change stage = .throwing at throwing
    rw [throwing] at after
    cases after
  cleaned := staged.cleaned

theorem call (staged : Staged invocation) (calls : Calls invocation next) : Staged next := by
  cases calls with
  | prepare stage before after => exact staged.prepare invocation.ack before after
  | stepAck stage action ack before after kind stepped => exact staged.prepare ack before after
  | add adding => exact behind rfl (nomatch ·) staged.cleaned
  | await stage registration before after notThrowing =>
      exact behind after (absurd · notThrowing) staged.cleaned
  | cancelAtOnce before =>
      have awaiting : Staged { invocation with stage := .awaiting } :=
        behind rfl (nomatch ·) staged.cleaned
      exact awaiting.trySetCanceled rfl
  | resume stage after completed => exact behind after (fun _ => completed) staged.cleaned
  | removeInvocation throwing => exact behind rfl (nomatch ·) staged.cleaned

theorem step (staged : Staged invocation) {action : InvocationAction ρ}
    (stepped : invocationStep invocation action = some next) : Staged next := by
  obtain ⟨unadded, registered, threw, cleaned⟩ := id staged
  cases steps_of_step stepped with
  | call calls => exact staged.call calls
  | failWrite writing => exact staged.prepare invocation.ack (by rw [writing]; rfl) rfl
  | cancel => exact ⟨unadded, registered, threw, cleaned⟩
  | cancelRegistered isRegistered =>
      have noted : Staged { invocation with tokenCanceled := true } :=
        ⟨unadded, registered, threw, cleaned⟩
      exact noted.trySetCanceled (registered isRegistered)
  | drop received unpending => exact ⟨unadded, registered, threw, cleaned⟩
  | find received pending =>
      have spawned := staged.spawn (staged.added_of_pending pending)
        (show InvocationThread.completing .triggering (.ofReceived received) ≠ .removingEntry
          from (nomatch ·))
      exact ⟨spawned.unadded, spawned.registered, spawned.threw, spawned.cleaned⟩
  | stay => exact staged
  | addServiceMapping instanceId => exact ⟨unadded, registered, threw, cleaned⟩
  | cleanUp _ pending => exact staged.spawn (staged.added_of_pending pending) (nomatch ·)
  | sweep action swept hasAck sweeps stepped => exact ⟨unadded, registered, threw, cleaned⟩
  | resume resumes => exact staged.resume resumes

end Staged

end AzureSignalR.ClientInvocation
