import AzureSignalR.ClientInvocation.InvocationSteps

/-!
Contract: invocations that fail with the error of a completion.

Owns: how many completions an invocation has received when a completion fails it,
by counting the acks of its completions against its multi ack.

Does not own: results. The sweeps over the acks complete the multi ack of an
invocation that is still waiting, and a cancellation counts as an ack as well, so
both are restricted here.
-/

set_option autoImplicit false

namespace AzureSignalR.ClientInvocation

open Library Library.Machine Utilities

variable {ρ : Type}

/-! ## The order of steps -/

/-- The thread has a result. -/
def InvocationThread.hasResult : InvocationThread ρ → Bool
  | .completing _ completion => completion.hasResult
  | .cleaningUp | .removingEntry | .canceling => false

/-- What a thread at an undecided invocation waits for in an orderly run: an error waits
for a cancellation before it looks at the ack, and what decides the invocation waits
for the results that have arrived. -/
def Invocation.InTurn (invocation : Invocation ρ) (index : Nat) : InvocationThread ρ → Prop
  | .completing .testing (.error _) =>
      invocation.ack.completed = true →
        ∀ other ∈ invocation.threads, other.isCancellation = false
  | .completing .removing (.result _) =>
      invocation.pending = true →
        ∀ earlier ∈ invocation.threads.take index, earlier.hasResult = false
  | .completing .removing (.error _) | .completing .removing .canceled =>
      invocation.pending = true → ∀ other ∈ invocation.threads, other.hasResult = false
  | .cleaningUp | .canceling => ∀ other ∈ invocation.threads, other.hasResult = false
  | .completing .triggering _ | .completing .acking _ | .completing .completingAck _
  | .completing .removingAck _ | .completing .testing (.result _)
  | .completing .testing .canceled | .completing .finishing _ | .removingEntry => True

/-- A sweep finds the ack of an undecided invocation out of time only when it is reached,
and threads take their turns. -/
def Orderly (invocation : Invocation ρ) : InvocationAction ρ → Prop
  | .sweep .expire => invocation.outcome ≠ none ∨ invocation.ack.Reached
  | .resume index => invocation.outcome = none →
      ∀ thread, invocation.threads[index]? = some thread → invocation.InTurn index thread
  | .call | .failWrite | .cancel | .dispatch _ _ | .addServiceMapping _
  | .cleanUpByConnection _ | .cleanUpByInstance _ | .sweep .ack
  | .sweep (.setExpectedCount _) | .sweep .complete | .sweep .remove | .sweep .tryRemove
  | .sweep .timeOut | .sweep .force => True

instance (invocation : Invocation ρ) (index : Nat) :
    (thread : InvocationThread ρ) → Decidable (invocation.InTurn index thread)
  | .completing .testing (.error _) =>
      inferInstanceAs (Decidable (invocation.ack.completed = true →
        ∀ other ∈ invocation.threads, other.isCancellation = false))
  | .completing .removing (.result _) =>
      inferInstanceAs (Decidable (invocation.pending = true →
        ∀ earlier ∈ invocation.threads.take index, earlier.hasResult = false))
  | .completing .removing (.error _) | .completing .removing .canceled =>
      inferInstanceAs (Decidable (invocation.pending = true →
        ∀ other ∈ invocation.threads, other.hasResult = false))
  | .cleaningUp | .canceling =>
      inferInstanceAs (Decidable (∀ other ∈ invocation.threads, other.hasResult = false))
  | .completing .triggering _ | .completing .acking _ | .completing .completingAck _
  | .completing .removingAck _ | .completing .testing (.result _)
  | .completing .testing .canceled | .completing .finishing _ | .removingEntry => .isTrue trivial

instance (invocation : Invocation ρ) :
    (action : InvocationAction ρ) → Decidable (Orderly invocation action)
  | .sweep .expire =>
      inferInstanceAs (Decidable (invocation.outcome ≠ none ∨ invocation.ack.Reached))
  | .resume index =>
      match equation : invocation.threads[index]? with
      | none => .isTrue fun _ thread present => by cases equation.symm.trans present
      | some thread =>
          decidable_of_iff (invocation.outcome = none → invocation.InTurn index thread)
            ⟨fun inTurn undecided other present => by
              cases equation.symm.trans present
              exact inTurn undecided, fun orderly undecided => orderly undecided thread equation⟩
  | .call | .failWrite | .cancel | .dispatch _ _ | .addServiceMapping _
  | .cleanUpByConnection _ | .cleanUpByInstance _ | .sweep .ack
  | .sweep (.setExpectedCount _) | .sweep .complete | .sweep .remove | .sweep .tryRemove
  | .sweep .timeOut | .sweep .force => .isTrue trivial

/-! ## The ack of an invocation -/

/-- The multi ack counts up to the number of endpoints, and is completed early only
behind the completion of the task. -/
structure AckRecord (outcome : Option (InvocationOutcome ρ)) (ackNumber : Fin (2 ^ 31))
    (ack : MultiAck) : Prop where
  counted : ack.Counted
  expected : ∀ expected, ack.expectedCount = some expected → expected = Int32.ofNat ackNumber
  expired : ack.expired = true → outcome ≠ none ∨ ack.Reached

namespace AckRecord

variable {outcome : Option (InvocationOutcome ρ)} {ackNumber : Fin (2 ^ 31)}
  {ack stepped : MultiAck}

theorem initial : AckRecord (none : Option (InvocationOutcome ρ)) ackNumber {} where
  counted := .initial
  expected _ isExpected := nomatch isExpected
  expired impossible := nomatch impossible

theorem step (record : AckRecord outcome ackNumber ack) {action : MultiAckAction}
    (countable : ack.Countable action)
    (asked : ∀ expected, action = .setExpectedCount expected → expected = Int32.ofNat ackNumber)
    (inTime : action = .expire → outcome ≠ none ∨ ack.Reached)
    (moved : multiAckStep ack action = some stepped) : AckRecord outcome ackNumber stepped := by
  have growth := MultiAck.growth_of_step moved
  constructor
  · exact record.counted.step countable moved
  · intro expected isExpected
    rcases MultiAck.Counted.expectedCount_of_step moved isExpected with before | new
    · exact record.expected expected before
    · exact asked expected new
  · intro isExpired
    have reason : outcome ≠ none ∨ ack.Reached := by
      rcases growth.expired isExpired with before | now
      · exact record.expired before
      · exact inTime now
    exact reason.imp_right growth.reached

/-- The task is completed. -/
theorem mono (record : AckRecord outcome ackNumber ack) {after : Option (InvocationOutcome ρ)}
    (keeps : outcome ≠ none → after ≠ none) : AckRecord after ackNumber ack where
  counted := record.counted
  expected := record.expected
  expired isExpired := (record.expired isExpired).imp_left keeps

/-- While the task is not completed, the ack is completed by as many acks as there are
endpoints. -/
theorem enough (record : AckRecord outcome ackNumber ack) (undecided : outcome = none)
    (completed : ack.completed = true) : ackNumber ≤ ack.applied := by
  have reached : ack.Reached := by
    rcases record.counted.completed completed with reached | isExpired
    · exact reached
    · rcases record.expired isExpired with decided | reached
      · exact absurd undecided decided
      · exact reached
  obtain ⟨expected, isExpected, many⟩ := reached
  rw [record.expected expected isExpected, MultiAck.toInt_ofNat ackNumber.isLt] at many
  exact Int.ofNat_le.mp many

end AckRecord

/-! ## Acks and completions -/

/-- Whether a completion has still to count as an ack. -/
def InvocationThread.unacked : InvocationThread ρ → Nat
  | .completing .triggering _ | .completing .acking _ => 1
  | .completing .completingAck _ | .completing .removingAck _ | .completing .testing _
  | .completing .removing _ | .completing .finishing _ | .cleaningUp | .removingEntry
  | .canceling => 0

/-- Whether a thread is one of the token, which counts as an ack without having been
received. -/
def InvocationThread.cancels (thread : InvocationThread ρ) : Nat :=
  if thread.isCancellation then 1 else 0

/-- A completion that is behind the test of the ack. -/
def CompletionStage.hasPassed : CompletionStage → Bool
  | .removing | .finishing => true
  | .triggering | .acking | .completingAck | .removingAck | .testing => false

structure Accounted (invocation : Invocation ρ) : Prop where
  staged : Staged invocation
  record : AckRecord invocation.outcome invocation.ackNumber invocation.ack
  unapplied : invocation.stage.isAdded = false → invocation.ack.applied = 0
  acked : invocation.outcome = none →
    invocation.ack.applied + Threads.total InvocationThread.unacked invocation.threads ≤
      invocation.received + Threads.total InvocationThread.cancels invocation.threads
  passed : invocation.outcome = none → ∀ stage message,
    .completing stage (.error message) ∈ invocation.threads → stage.hasPassed = true →
    invocation.ackNumber ≤ invocation.received
  failed : ∀ message, invocation.outcome = some (.failed message) →
    invocation.ackNumber ≤ invocation.received

namespace Accounted

variable {invocation next : Invocation ρ}

theorem initial (connectionId : String) (ackNumber : Fin (2 ^ 31)) :
    Accounted ({ connectionId := connectionId, ackNumber := ackNumber } : Invocation ρ) where
  staged := Staged.initial connectionId ackNumber
  record := .initial
  unapplied _ := rfl
  acked _ := Nat.le_refl 0
  passed _ _ _ member := nomatch member
  failed _ impossible := nomatch impossible

/-! ### Threads -/

/-- A completion goes on inside `TryCompleteResult`. -/
theorem proceed (accounted : Accounted invocation) {index : Nat} {completion : Completion ρ}
    {before after : CompletionStage}
    (present : invocation.threads[index]? = some (.completing before completion))
    {ack : MultiAck} (pending : Bool)
    (record : AckRecord invocation.outcome invocation.ackNumber ack)
    (applied : ack.applied + InvocationThread.unacked (.completing after completion) ≤
      invocation.ack.applied + InvocationThread.unacked (.completing before completion))
    (passes : ∀ message, completion = .error message → after.hasPassed = true →
      before.hasPassed = true ∨
        (invocation.outcome = none → invocation.ackNumber ≤ invocation.received))
    (staged : Staged ({ invocation with ack := ack, pending := pending }.replace index
      (.completing after completion))) :
    Accounted ({ invocation with ack := ack, pending := pending }.replace index
      (.completing after completion)) := by
  refine ⟨staged, record, ?_, ?_, ?_, accounted.failed⟩
  · intro unadded
    cases (accounted.staged.added present).symm.trans unadded
  · intro undecided
    have acked := accounted.acked undecided
    have unacked := Threads.total_set InvocationThread.unacked (.completing after completion)
      present
    have cancels := Threads.total_set InvocationThread.cancels (.completing after completion)
      present
    have same : InvocationThread.cancels (.completing before completion) =
        InvocationThread.cancels (.completing after completion) := rfl
    change ack.applied + Threads.total InvocationThread.unacked
        (invocation.threads.set index (.completing after completion)) ≤
      invocation.received + Threads.total InvocationThread.cancels
        (invocation.threads.set index (.completing after completion))
    omega
  · intro undecided stage message member hasPassed
    rcases List.mem_or_eq_of_mem_set member with already | itself
    · exact accounted.passed undecided stage message already hasPassed
    · cases itself
      rcases passes message rfl hasPassed with already | enough
      · exact accounted.passed undecided before message (List.mem_of_getElem? present) already
      · exact enough undecided

/-- `TryCompleteResult` returns without completing the task. -/
theorem finish (accounted : Accounted invocation) {index : Nat} {completion : Completion ρ}
    {before : CompletionStage}
    (present : invocation.threads[index]? = some (.completing before completion))
    (staged : Staged { invocation with
      threads := finishThreads invocation.threads index completion }) :
    Accounted { invocation with
      threads := finishThreads invocation.threads index completion } := by
  refine ⟨staged, accounted.record, accounted.unapplied, ?_, ?_, accounted.failed⟩
  · intro undecided
    have acked := accounted.acked undecided
    change invocation.ack.applied + Threads.total InvocationThread.unacked
        (finishThreads invocation.threads index completion) ≤
      invocation.received + Threads.total InvocationThread.cancels
        (finishThreads invocation.threads index completion)
    unfold finishThreads
    split_ifs with isCanceled
    · have unacked := Threads.total_set InvocationThread.unacked .canceling present
      have cancels := Threads.total_set InvocationThread.cancels .canceling present
      have one : InvocationThread.cancels (.completing before completion) = 1 := if_pos isCanceled
      have oneToo : InvocationThread.cancels (.canceling : InvocationThread ρ) = 1 := rfl
      have zero : InvocationThread.unacked (.canceling : InvocationThread ρ) = 0 := rfl
      omega
    · have unacked := Threads.total_eraseIdx InvocationThread.unacked present
      have cancels := Threads.total_eraseIdx InvocationThread.cancels present
      have zero : InvocationThread.cancels (.completing before completion) = 0 :=
        if_neg isCanceled
      omega
  · intro undecided stage message member hasPassed
    rcases mem_of_mem_finishThreads member with already | impossible
    · exact accounted.passed undecided stage message already hasPassed
    · cases impossible

/-- A thread goes on, and the task is completed behind it. -/
theorem conclude (accounted : Accounted invocation) (staged : Staged next) {index : Nat}
    {thread : InvocationThread ρ} (present : invocation.threads[index]? = some thread)
    (ack : next.ack = invocation.ack) (ackNumber : next.ackNumber = invocation.ackNumber)
    (stage : next.stage = invocation.stage) (decided : next.outcome ≠ none)
    (failed : ∀ message, next.outcome = some (.failed message) →
      next.ackNumber ≤ next.received) : Accounted next := by
  constructor
  · exact staged
  · rw [ack, ackNumber]
    exact accounted.record.mono fun _ => decided
  · intro unadded
    rw [stage] at unadded
    cases (accounted.staged.added present).symm.trans unadded
  · exact fun undecided => absurd undecided decided
  · exact fun undecided => absurd undecided decided
  · exact failed

/-- The task is failed by whoever completes it first. -/
theorem failed_or (accounted : Accounted invocation) {outcome : InvocationOutcome ρ}
    (own : ∀ message, invocation.outcome = none → outcome = .failed message →
      invocation.ackNumber ≤ invocation.received) (message : String)
    (isFailed : invocation.outcome.or (some outcome) = some (.failed message)) :
    invocation.ackNumber ≤ invocation.received := by
  cases decided : invocation.outcome with
  | none =>
      rw [decided] at isFailed
      exact own message decided (Option.some.inj isFailed)
  | some before =>
      rw [decided, Option.some_or] at isFailed
      exact accounted.failed message (decided.trans isFailed)

/-- An error passes the test of the ack only when enough completions have been received. -/
theorem enough (accounted : Accounted invocation) (undecided : invocation.outcome = none)
    (completed : invocation.ack.completed = true)
    (alone : ∀ other ∈ invocation.threads, other.isCancellation = false) :
    invocation.ackNumber ≤ invocation.received := by
  have acked := accounted.acked undecided
  have applied := accounted.record.enough undecided completed
  have cancels : Threads.total InvocationThread.cancels invocation.threads = 0 := by
    refine Threads.total_eq_zero InvocationThread.cancels fun other member => ?_
    exact if_neg (Bool.eq_false_iff.mp (alone other member))
  omega

theorem resume (accounted : Accounted invocation) {index : Nat}
    (condition : Orderly invocation (.resume index))
    (resumed : Resumes invocation index next) : Accounted next := by
  have staged := accounted.staged.resume resumed
  cases resumed with
  | trigger completion present =>
      refine accounted.proceed present invocation.pending accounted.record ?_ ?_ staged
      · split_ifs
        · exact Nat.le_refl _
        · exact Nat.le_succ _
      · intro message _ hasPassed
        split_ifs at hasPassed <;> cases hasPassed
  | ack completion stepped present moved =>
      have record := accounted.record.step
        (show invocation.ack.Countable .ack from trivial) nofun nofun moved
      refine accounted.proceed present invocation.pending record ?_ ?_ staged
      · rw [(MultiAck.growth_of_step moved).applied, if_pos rfl]
        split_ifs <;> exact Nat.le_refl _
      · intro message _ hasPassed
        split_ifs at hasPassed <;> cases hasPassed
  | completeAck completion stepped present moved =>
      have record := accounted.record.step
        (show invocation.ack.Countable .complete from trivial) nofun nofun moved
      refine accounted.proceed present invocation.pending record ?_ nofun staged
      rw [(MultiAck.growth_of_step moved).applied]
      exact Nat.le_refl _
  | removeAck completion stepped present moved =>
      have record := accounted.record.step
        (show invocation.ack.Countable .remove from trivial) nofun nofun moved
      refine accounted.proceed present invocation.pending record ?_ nofun staged
      rw [(MultiAck.growth_of_step moved).applied]
      exact Nat.le_refl _
  | pass completion present enough =>
      refine accounted.proceed present invocation.pending accounted.record (Nat.le_refl _) ?_
        staged
      rintro message rfl -
      right
      intro undecided
      rcases enough with impossible | completed
      · cases impossible
      · exact accounted.enough undecided completed
          (condition undecided _ present completed)
  | take completion present pending =>
      exact accounted.proceed present false accounted.record (Nat.le_refl _)
        (fun _ _ _ => .inl rfl) staged
  | fallShort completion present noResult incomplete => exact accounted.finish present staged
  | miss completion present unpending => exact accounted.finish present staged
  | complete completion present =>
      refine accounted.conclude staged present rfl rfl rfl (or_some_ne_none _ _) ?_
      refine accounted.failed_or ?_
      intro message undecided isFailed
      cases completion with
      | error own =>
          exact accounted.passed undecided .finishing own (List.mem_of_getElem? present) rfl
      | result | canceled => cases isFailed
  | cleanUp present =>
      refine accounted.conclude staged present rfl rfl rfl (or_some_ne_none _ _) ?_
      exact accounted.failed_or nofun
  | removeEntry present =>
      exact accounted.conclude staged present rfl rfl rfl
        (accounted.staged.cleaned (List.mem_of_getElem? present)) accounted.failed
  | setCanceled present =>
      refine accounted.conclude staged present rfl rfl rfl (or_some_ne_none _ _) ?_
      exact accounted.failed_or nofun

/-! ### The caller and the manager -/

/-- A thread begins. A completion that is received counts itself, one of the token
counts as a cancellation. -/
theorem spawn (accounted : Accounted invocation) {thread : InvocationThread ρ}
    (staged : Staged next) (stage : next.stage = invocation.stage)
    (isAdded : invocation.stage.isAdded = true) (ack : next.ack = invocation.ack)
    (ackNumber : next.ackNumber = invocation.ackNumber)
    (outcome : next.outcome = invocation.outcome)
    (threads : next.threads = invocation.threads ++ [thread])
    (received : invocation.received + thread.unacked ≤ next.received + thread.cancels)
    (more : invocation.received ≤ next.received)
    (starts : ∀ stage message, thread = .completing stage (.error message) →
      stage.hasPassed = false) : Accounted next := by
  constructor
  · exact staged
  · rw [ack, ackNumber, outcome]
    exact accounted.record
  · intro unadded
    rw [stage] at unadded
    cases isAdded.symm.trans unadded
  · intro undecided
    rw [outcome] at undecided
    have acked := accounted.acked undecided
    rw [ack, threads, Threads.total_append, Threads.total_append, Threads.total_cons,
      Threads.total_cons, Threads.total_nil, Threads.total_nil]
    omega
  · intro undecided place message member hasPassed
    rw [outcome] at undecided
    rw [threads] at member
    rw [ackNumber]
    rcases List.mem_append.mp member with before | new
    · exact Nat.le_trans (accounted.passed undecided place message before hasPassed) more
    · cases (starts place message (List.mem_singleton.mp new).symm).symm.trans hasPassed
  · intro message isFailed
    rw [outcome] at isFailed
    rw [ackNumber]
    exact Nat.le_trans (accounted.failed message isFailed) more

theorem trySetCanceled (accounted : Accounted invocation)
    (isAdded : invocation.stage.isAdded = true) : Accounted invocation.trySetCanceled := by
  have staged := accounted.staged.trySetCanceled isAdded
  unfold Invocation.trySetCanceled at staged ⊢
  split_ifs at staged ⊢
  · exact accounted.spawn staged rfl isAdded rfl rfl rfl rfl (Nat.le_refl _) (Nat.le_refl _) nofun
  · exact accounted.spawn staged rfl isAdded rfl rfl rfl rfl (Nat.le_succ _) (Nat.le_refl _) nofun

/-- A step of the caller or of a sweep that leaves the threads alone. -/
theorem restage (accounted : Accounted invocation) (staged : Staged next)
    (record : AckRecord invocation.outcome invocation.ackNumber next.ack)
    (ackNumber : next.ackNumber = invocation.ackNumber)
    (outcome : next.outcome = invocation.outcome) (threads : next.threads = invocation.threads)
    (received : next.received = invocation.received)
    (applied : next.ack.applied = invocation.ack.applied)
    (unapplied : next.stage.isAdded = false → invocation.stage.isAdded = false) :
    Accounted next := by
  refine ⟨staged, ?_, ?_, ?_, ?_, ?_⟩
  · rw [outcome, ackNumber]
    exact record
  · rw [applied]
    exact fun unadded => accounted.unapplied (unapplied unadded)
  · rw [outcome, applied, threads, received]
    exact accounted.acked
  · rw [outcome, threads, ackNumber, received]
    exact accounted.passed
  · rw [outcome, ackNumber, received]
    exact accounted.failed

theorem call (accounted : Accounted invocation) (calls : Calls invocation next) :
    Accounted next := by
  have staged := accounted.staged.call calls
  cases calls with
  | prepare stage before after =>
      exact accounted.restage staged accounted.record rfl rfl rfl rfl rfl (fun _ => before)
  | stepAck stage action ack before after kind moved =>
      have countable : invocation.ack.Countable action := by
        rcases kind with rfl | rfl | rfl
        · change invocation.ack.applied < 2 ^ 31
          rw [accounted.unapplied before]
          exact Nat.two_pow_pos 31
        · trivial
        · trivial
      have asked : ∀ expected, action = .setExpectedCount expected →
          expected = Int32.ofNat invocation.ackNumber := by
        rintro expected rfl
        rcases kind with same | impossible | impossible
        · cases same
          rfl
        · cases impossible
        · cases impossible
      have notAck : action ≠ .ack := by
        rintro rfl
        rcases kind with impossible | impossible | impossible <;> cases impossible
      have notExpire : action ≠ .expire := by
        rintro rfl
        rcases kind with impossible | impossible | impossible <;> cases impossible
      refine accounted.restage staged
        (accounted.record.step countable asked (absurd · notExpire) moved) rfl rfl rfl rfl ?_
        (fun _ => before)
      rw [(MultiAck.growth_of_step moved).applied, if_neg notAck]
  | add adding =>
      exact accounted.restage staged accounted.record rfl rfl rfl rfl rfl nofun
  | await stage registration before after notThrowing =>
      refine accounted.restage staged accounted.record rfl rfl rfl rfl rfl ?_
      intro unadded
      cases after.symm.trans unadded
  | cancelAtOnce before =>
      have awaiting : Accounted { invocation with stage := .awaiting } :=
        accounted.restage (.behind rfl (nomatch ·) accounted.staged.cleaned) accounted.record rfl
          rfl rfl rfl rfl nofun
      exact awaiting.trySetCanceled rfl
  | resume stage after completed =>
      refine accounted.restage staged accounted.record rfl rfl rfl rfl rfl ?_
      intro unadded
      cases after.symm.trans unadded
  | removeInvocation throwing =>
      exact accounted.restage staged accounted.record rfl rfl rfl rfl rfl nofun

theorem step (accounted : Accounted invocation) {action : InvocationAction ρ}
    (condition : Orderly invocation action)
    (stepped : invocationStep invocation action = some next) : Accounted next := by
  have staged := accounted.staged.step stepped
  cases steps_of_step stepped with
  | call calls => exact accounted.call calls
  | failWrite writing =>
      exact accounted.restage staged accounted.record rfl rfl rfl rfl rfl
        (fun _ => by rw [writing]; rfl)
  | cancel => exact accounted.restage staged accounted.record rfl rfl rfl rfl rfl id
  | cancelRegistered isRegistered =>
      obtain ⟨unadded, registered, threw, cleaned⟩ := accounted.staged
      have noted : Accounted { invocation with tokenCanceled := true } :=
        accounted.restage ⟨unadded, registered, threw, cleaned⟩ accounted.record rfl rfl rfl rfl
          rfl id
      exact noted.trySetCanceled (registered isRegistered)
  | drop received unpending =>
      exact accounted.restage staged accounted.record rfl rfl rfl rfl rfl id
  | find received pending =>
      refine accounted.spawn staged rfl (accounted.staged.added_of_pending pending) rfl rfl rfl rfl
        (Nat.le_add_right _ _) (Nat.le_succ _) ?_
      intro stage message same
      injection same with sameStage
      rw [← sameStage]
      rfl
  | stay => exact accounted
  | addServiceMapping instanceId =>
      exact accounted.restage staged accounted.record rfl rfl rfl rfl rfl id
  | cleanUp _ pending =>
      exact accounted.spawn staged rfl (accounted.staged.added_of_pending pending) rfl rfl rfl rfl
        (Nat.le_refl _) (Nat.le_refl _) nofun
  | sweep action swept hasAck sweeps moved =>
      have countable : invocation.ack.Countable action := by
        rcases sweeps with rfl | rfl | rfl | rfl <;> trivial
      have notAsked : ∀ expected, action ≠ .setExpectedCount expected := by
        rcases sweeps with rfl | rfl | rfl | rfl <;> nofun
      have notAck : action ≠ .ack := by
        rcases sweeps with rfl | rfl | rfl | rfl <;> nofun
      have inTime : action = .expire → invocation.outcome ≠ none ∨ invocation.ack.Reached := by
        rintro rfl
        exact condition
      refine accounted.restage staged (accounted.record.step countable
        (fun expected same => absurd same (notAsked expected)) inTime moved) rfl rfl rfl rfl ?_ id
      rw [(MultiAck.growth_of_step moved).applied, if_neg notAck]
  | resume resumes => exact accounted.resume condition resumes

end Accounted

end AzureSignalR.ClientInvocation
