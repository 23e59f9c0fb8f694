import AzureSignalR.Utilities.AckCounting

/-!
Contract: what the caller of a multi ack may rely on.

Owns: that every thread inside a handler comes to its end, that the expected
count of a multi ack is one a caller has set, and when its task completes, over
whole runs.

Does not own: the disposal of the handler.
-/

set_option autoImplicit false

namespace AzureSignalR.Utilities

open Library Library.Machine

variable {τ : Type} {context : AckContext τ} {handler next : AckHandler τ}

/-! ## Threads -/

/-- The steps a thread has before it at most. -/
def AckTask.work : AckTask → Nat
  | .acking _ _ _ _ | .counting _ _ _ | .expiring _ _ => 3
  | .completing _ _ _ | .timingOut _ | .disposing _ _ => 2
  | .removing _ | .forcing _ | .canceling _ => 1

def AckHandler.work (handler : AckHandler τ) : Nat := (handler.tasks.map AckTask.work).sum

theorem complete_tasks (handler : AckHandler τ) (ref : Nat) (outcome : AckOutcome τ) :
    (handler.complete ref outcome).2.tasks = handler.tasks := by
  rcases complete_cases handler ref outcome with unchanged | ⟨info, -, -, completes⟩
  · rw [unchanged]
  · rw [completes]

/-- The thread goes on as another with less before it, or ends. -/
def GoesOn (handler next : AckHandler τ) (work : Nat) : Prop :=
  ∃ task : Option AckTask, next.tasks = handler.tasks ++ task.toList ∧
    ∀ other, task = some other → other.work < work

theorem GoesOn.ends {work : Nat} (tasks : next.tasks = handler.tasks) :
    GoesOn handler next work :=
  ⟨none, by simp [tasks], by simp⟩

theorem GoesOn.spawns {work : Nat} (tasks : next.tasks = handler.tasks) {task : AckTask}
    (less : task.work < work) : GoesOn handler (next.spawn task) work :=
  ⟨some task, congrArg (· ++ [task]) tasks, by simpa using less⟩

theorem goesOn_ack (handler : AckHandler τ) (ackId : Int32) (ref : Nat) (status : AckStatus)
    (payload : Option Bytes) :
    GoesOn handler (handler.ack context ackId ref status payload) 3 := by
  rw [AckHandler.ack]
  cases handler.infos[ref]? with
  | none => exact .ends rfl
  | some info =>
      dsimp only
      split
      · split
        · split_ifs
          · exact .spawns rfl (by simp [AckTask.work])
          · exact .ends rfl
        · exact .ends rfl
      · have tasks := complete_tasks (handler.record (.acked ackId ref status)) ref
          (ackOutcome context info.kind status payload)
        split
        next acked won =>
          rw [won] at tasks
          exact .spawns tasks (by simp [AckTask.work])
        next acked lost =>
          rw [lost] at tasks
          exact .ends tasks

theorem goesOn_count (handler : AckHandler τ) (ackId : Int32) (ref : Nat)
    (expectedCount : Int32) : GoesOn handler (handler.count ackId ref expectedCount) 3 := by
  rw [AckHandler.count]
  cases handler.infos[ref]? with
  | none => exact .ends rfl
  | some info =>
      dsimp only
      split_ifs
      · exact .spawns rfl (by simp [AckTask.work])
      · exact .ends rfl
      · exact .ends rfl

theorem goesOn_timeOut (handler : AckHandler τ) (ref : Nat) :
    GoesOn handler (handler.timeOut context ref) 2 := by
  rw [AckHandler.timeOut]
  cases handler.infos[ref]? with
  | none => exact .ends rfl
  | some info =>
      dsimp only
      split
      · exact .spawns rfl (by simp [AckTask.work])
      · exact .ends (complete_tasks handler ref _)

theorem goesOn_removeThen (handler : AckHandler τ) (ackId : Int32) {task : AckTask} {work : Nat}
    (less : task.work < work) :
    GoesOn handler
      (match handler.tryRemove ackId with
      | (true, removed) => removed.spawn task
      | (false, removed) => removed) work := by
  have tasks : (handler.tryRemove ackId).2.tasks = handler.tasks := rfl
  split
  next after won =>
    rw [won] at tasks
    exact .spawns tasks less
  next after lost =>
    rw [lost] at tasks
    exact .ends tasks

theorem goesOn_runTask (handler : AckHandler τ) (task : AckTask) :
    GoesOn handler (handler.runTask context task) task.work := by
  cases task with
  | acking ackId ref status payload => exact goesOn_ack handler ackId ref status payload
  | completing ackId ref status =>
      exact .spawns (complete_tasks handler ref _) (by simp [AckTask.work])
  | removing => exact .ends rfl
  | counting ackId ref expectedCount => exact goesOn_count handler ackId ref expectedCount
  | expiring ackId ref => exact goesOn_removeThen handler ackId (by simp [AckTask.work])
  | timingOut ref => exact goesOn_timeOut handler ref
  | forcing ref => exact .ends (complete_tasks handler ref _)
  | disposing ackId ref => exact goesOn_removeThen handler ackId (by simp [AckTask.work])
  | canceling ref => exact .ends (complete_tasks handler ref _)

/-- Every thread has a bounded number of steps before it. -/
theorem work_decreases {thread : Nat}
    (stepped : ackStep context handler (.resume thread) = some next) :
    next.work < handler.work := by
  rw [ackStep] at stepped
  cases running : handler.tasks[thread]? with
  | none => simp only [running, reduceCtorEq] at stepped
  | some task =>
      simp only [running, Option.some.injEq] at stepped
      obtain ⟨inside, isTask⟩ := List.getElem?_eq_some_iff.mp running
      have permutation := List.getElem_cons_eraseIdx_perm inside
      have before : handler.work =
          task.work + ((handler.tasks.eraseIdx thread).map AckTask.work).sum := by
        rw [AckHandler.work, ← (permutation.map AckTask.work).sum_nat, isTask, List.map_cons,
          List.sum_cons]
      obtain ⟨following, tasks, less⟩ := goesOn_runTask
        { handler with tasks := handler.tasks.eraseIdx thread } task
      rw [← stepped, before, AckHandler.work, tasks, List.map_append, List.sum_append,
        Nat.add_comm]
      apply Nat.add_lt_add_right
      cases following with
      | none =>
          cases task with
          | acking | completing | removing | counting | expiring | timingOut | forcing
          | disposing | canceling => simp [AckTask.work]
      | some other => simpa using less other rfl

/-! ## Calls of `SetExpectedCount` -/

theorem cancelByToken_tasks (handler : AckHandler τ) (ref : Nat) :
    (handler.cancelByToken ref).tasks = handler.tasks :=
  complete_tasks (handler.record (.canceled ref)) ref .canceled

/-- A thread of `SetExpectedCount` is the work of a call. -/
theorem counting_of_step {action : AckAction}
    (stepped : ackStep context handler action = some next) {ackId : Int32} {ref : Nat}
    {expectedCount : Int32} (running : .counting ackId ref expectedCount ∈ next.tasks) :
    .counting ackId ref expectedCount ∈ handler.tasks ∨
      action = .setExpectedCount ackId expectedCount := by
  cases action with
  | create kind ackTimeout =>
      rw [ackStep, Option.some.injEq] at stepped
      rw [← stepped, AckHandler.create] at running
      by_cases isDisposed : handler.disposed = true
      · rw [if_pos isDisposed] at running
        exact .inl running
      · rw [if_neg isDisposed] at running
        exact .inl running
  | getOrAdd index =>
      rw [ackStep] at stepped
      cases found : handler.handles[index]? with
      | none => simp only [found, reduceCtorEq] at stepped
      | some handle =>
          cases task : handle.task with
          | creating timeout =>
              simp only [found, task, Option.some.injEq] at stepped
              rw [← stepped, AckHandler.getOrAdd] at running
              left
              split at running
              · exact running
              · split at running
                · exact running
                · exact running
          | registering | info | completed | threw =>
              simp only [found, task, reduceCtorEq] at stepped
  | register index =>
      rw [ackStep] at stepped
      cases found : handler.handles[index]? with
      | none => simp only [found, reduceCtorEq] at stepped
      | some handle =>
          cases task : handle.task with
          | registering other =>
              simp only [found, task, Option.some.injEq] at stepped
              rw [← stepped, AckHandler.register] at running
              left
              split_ifs at running
              · rw [cancelByToken_tasks] at running
                exact running
              · exact running
          | creating | info | completed | threw =>
              simp only [found, task, reduceCtorEq] at stepped
  | cancelToken index =>
      rw [ackStep] at stepped
      cases found : handler.handles[index]? with
      | none => simp only [found, reduceCtorEq] at stepped
      | some handle =>
          simp only [found, Option.some.injEq] at stepped
          rw [← stepped, AckHandler.cancelToken] at running
          left
          split at running
          · split_ifs at running
            · exact running
            · rw [cancelByToken_tasks] at running
              exact running
          · exact running
  | triggerAck other status payload =>
      rw [ackStep, Option.some.injEq] at stepped
      rw [← stepped, AckHandler.triggerAck] at running
      left
      split at running
      · exact running
      · simpa [AckHandler.spawn] using running
  | setExpectedCount other count =>
      rw [ackStep, Option.some.injEq] at stepped
      rw [← stepped, AckHandler.setExpectedCount] at running
      split_ifs at running
      · exact .inl running
      · split at running
        · exact .inl running
        · rcases List.mem_append.mp running with earlier | itself
          · exact .inl earlier
          · rw [List.mem_singleton, AckTask.counting.injEq] at itself
            obtain ⟨rfl, -, rfl⟩ := itself
            exact .inr rfl
  | sweep =>
      rw [ackStep] at stepped
      split_ifs at stepped
      rw [Option.some.injEq] at stepped
      rw [← stepped] at running
      exact .inl running
  | checkAck sweep other =>
      rw [ackStep] at stepped
      cases found : handler.sweeps[sweep]? with
      | none => simp only [found, reduceCtorEq] at stepped
      | some utcNow =>
          simp only [found, Option.some.injEq] at stepped
          rw [← stepped, AckHandler.checkAck] at running
          left
          split at running
          · exact running
          · split at running
            · exact running
            · split_ifs at running
              · simpa [AckHandler.spawn, AckHandler.record] using running
              · exact running
  | dispose =>
      rw [ackStep, Option.some.injEq] at stepped
      rw [← stepped] at running
      exact .inl running
  | disposeAck other =>
      rw [ackStep] at stepped
      split_ifs at stepped
      cases found : handler.tryGetValue other with
      | none => simp only [found, reduceCtorEq] at stepped
      | some otherRef =>
          simp only [found, Option.some.injEq] at stepped
          rw [← stepped] at running
          left
          simpa [AckHandler.spawn] using running
  | resume thread =>
      rw [ackStep] at stepped
      cases found : handler.tasks[thread]? with
      | none => simp only [found, reduceCtorEq] at stepped
      | some task =>
          simp only [found, Option.some.injEq] at stepped
          obtain ⟨following, tasks, less⟩ := goesOn_runTask
            { handler with tasks := handler.tasks.eraseIdx thread } task
          rw [← stepped, tasks] at running
          left
          rcases List.mem_append.mp running with earlier | itself
          · exact List.mem_of_mem_eraseIdx earlier
          · -- The thread goes on with less to do than a new one has.
            have small := less _ (Option.mem_toList.mp itself)
            cases task with
            | acking | completing | removing | counting | expiring | timingOut | forcing
            | disposing | canceling => simp [AckTask.work] at small
  | tick =>
      rw [ackStep, Option.some.injEq] at stepped
      rw [← stepped] at running
      exact .inl running

/-! ## Runs -/

/-- The handler is not disposed, and a count that is set finds fewer than
`2 ^ 31` acks applied. -/
def CountInTime (handler : AckHandler τ) : AckAction → Prop
  | .resume thread =>
      match handler.tasks[thread]? with
      | some (.counting _ ref _) => handler.applied ref < 2 ^ 31
      | some (.acking _ _ _ _) | some (.completing _ _ _) | some (.removing _)
      | some (.expiring _ _) | some (.timingOut _) | some (.forcing _) | some (.disposing _ _)
      | some (.canceling _) | none => True
  | .dispose => False
  | .create _ _ | .getOrAdd _ | .register _ | .cancelToken _ | .triggerAck _ _ _
  | .setExpectedCount _ _ | .sweep | .checkAck _ _ | .disposeAck _ | .tick => True

/-- `asked` are the calls of `SetExpectedCount`. -/
structure Counts (asked : Int32 → Int32 → Prop) (handler : AckHandler τ) : Prop
    extends Identified handler where
  counts : ∀ (ref : Nat) (info : AckInfo τ), handler.infos[ref]? = some info →
    info.kind = .multi → (handler.multiAck ref info).Counted
  counting : ∀ (id : Int32) (ref : Nat) (expectedCount : Int32),
    .counting id ref expectedCount ∈ handler.tasks → asked id expectedCount
  expected : ∀ (ref : Nat) (info : AckInfo τ) (expectedCount : Int32),
    handler.infos[ref]? = some info → info.kind = .multi →
      info.expectedCount = some expectedCount → asked info.id expectedCount

/-- A count is set by a thread of `SetExpectedCount`. -/
theorem counting_of_move {ref : Nat} {info : AckInfo τ} {action : AckAction}
    {expectedCount : Int32}
    (moves : handler.move ref info action = some (.setExpectedCount expectedCount)) :
    ∃ (thread : Nat) (id : Int32), action = .resume thread ∧
      handler.tasks[thread]? = some (.counting id ref expectedCount) := by
  cases action with
  | create | getOrAdd | register | cancelToken | triggerAck | setExpectedCount | sweep | dispose
  | disposeAck | tick => cases moves
  | checkAck sweep ackId =>
      rw [AckHandler.move] at moves
      split at moves
      · split_ifs at moves
        cases moves
      · cases moves
  | resume thread =>
      obtain ⟨task, running, isMove⟩ := Option.bind_eq_some_iff.mp moves
      cases task with
      | counting ackId other count =>
          rw [AckTask.move] at isMove
          split_ifs at isMove with same
          rw [Option.some.injEq, MultiAckAction.setExpectedCount.injEq] at isMove
          rw [same, isMove] at running
          exact ⟨thread, ackId, rfl, running⟩
      | acking | completing | removing | expiring | timingOut | forcing =>
          rw [AckTask.move] at isMove
          split_ifs at isMove
          cases isMove
      | disposing | canceling => cases isMove

theorem complete_infos_length (handler : AckHandler τ) (ref : Nat) (outcome : AckOutcome τ) :
    (handler.complete ref outcome).2.infos.length = handler.infos.length := by
  rcases complete_cases handler ref outcome with unchanged | ⟨info, -, -, completes⟩
  · rw [unchanged]
  · rw [completes]
    exact List.length_set

theorem cancelByToken_infos_length (handler : AckHandler τ) (ref : Nat) :
    (handler.cancelByToken ref).infos.length = handler.infos.length :=
  complete_infos_length (handler.record (.canceled ref)) ref .canceled

theorem removeThen_infos_length (handler : AckHandler τ) (ackId : Int32) (task : AckTask) :
    (match handler.tryRemove ackId with
      | (true, removed) => removed.spawn task
      | (false, removed) => removed).infos.length = handler.infos.length := by
  have removed : (handler.tryRemove ackId).2.infos = handler.infos := rfl
  split
  next after won =>
    rw [won] at removed
    exact congrArg List.length removed
  next after lost =>
    rw [lost] at removed
    exact congrArg List.length removed

theorem runTask_infos_length (handler : AckHandler τ) (task : AckTask) :
    (handler.runTask context task).infos.length = handler.infos.length := by
  cases task with
  | acking ackId ref status payload =>
      rw [AckHandler.runTask, AckHandler.ack]
      cases handler.infos[ref]? with
      | none => rfl
      | some info =>
          dsimp only
          split
          · split
            · split_ifs
              · exact List.length_set
              · exact List.length_set
            · exact List.length_set
          · have completed := complete_infos_length (handler.record (.acked ackId ref status)) ref
              (ackOutcome context info.kind status payload)
            split
            next acked won =>
              rw [won] at completed
              exact completed
            next acked lost =>
              rw [lost] at completed
              exact completed
  | completing ackId ref status => exact complete_infos_length handler ref _
  | removing => rfl
  | counting ackId ref expectedCount =>
      rw [AckHandler.runTask, AckHandler.count]
      cases handler.infos[ref]? with
      | none => rfl
      | some info =>
          dsimp only
          split_ifs
          · exact List.length_set
          · exact List.length_set
          · rfl
  | expiring ackId ref => exact removeThen_infos_length handler ackId _
  | timingOut ref =>
      rw [AckHandler.runTask, AckHandler.timeOut]
      cases handler.infos[ref]? with
      | none => rfl
      | some info =>
          dsimp only
          split
          · exact List.length_set
          · exact complete_infos_length handler ref _
  | forcing ref => exact complete_infos_length handler ref _
  | disposing ackId ref => exact removeThen_infos_length handler ackId _
  | canceling ref => exact complete_infos_length handler ref _

/-- `GetOrAdd` alone adds an info. -/
theorem infos_length_of_step {action : AckAction}
    (stepped : ackStep context handler action = some next) :
    (∃ index, action = .getOrAdd index) ∨ next.infos.length = handler.infos.length := by
  cases action with
  | getOrAdd index => exact .inl ⟨index, rfl⟩
  | create kind ackTimeout =>
      rw [ackStep, Option.some.injEq] at stepped
      rw [← stepped, AckHandler.create]
      by_cases isDisposed : handler.disposed = true
      · rw [if_pos isDisposed]
        exact .inr rfl
      · rw [if_neg isDisposed]
        exact .inr rfl
  | register index =>
      rw [ackStep] at stepped
      right
      split at stepped
      · cases stepped
      · split at stepped
        next ref _ =>
          rw [Option.some.injEq] at stepped
          rw [← stepped, AckHandler.register]
          split_ifs
          · exact cancelByToken_infos_length _ ref
          · rfl
        all_goals cases stepped
  | cancelToken index =>
      rw [ackStep] at stepped
      right
      split at stepped
      · cases stepped
      · rw [Option.some.injEq] at stepped
        rw [← stepped, AckHandler.cancelToken]
        split
        · split_ifs
          · rfl
          · exact cancelByToken_infos_length _ _
        · rfl
  | triggerAck ackId status payload =>
      rw [ackStep, Option.some.injEq] at stepped
      rw [← stepped, AckHandler.triggerAck]
      right
      split
      · rfl
      · rfl
  | setExpectedCount ackId expectedCount =>
      rw [ackStep, Option.some.injEq] at stepped
      rw [← stepped, AckHandler.setExpectedCount]
      right
      split_ifs
      · rfl
      · split
        · rfl
        · rfl
  | sweep =>
      rw [ackStep] at stepped
      split_ifs at stepped
      cases stepped
      exact .inr rfl
  | checkAck sweep ackId =>
      rw [ackStep] at stepped
      right
      split at stepped
      · cases stepped
      · rw [Option.some.injEq] at stepped
        rw [← stepped, AckHandler.checkAck]
        split
        · rfl
        · split
          · rfl
          · split_ifs
            · rfl
            · rfl
  | dispose | tick =>
      rw [ackStep] at stepped
      cases stepped
      exact .inr rfl
  | disposeAck ackId =>
      rw [ackStep] at stepped
      split_ifs at stepped
      split at stepped
      · cases stepped
      · cases stepped
        exact .inr rfl
  | resume thread =>
      rw [ackStep] at stepped
      right
      split at stepped
      · cases stepped
      · rw [Option.some.injEq] at stepped
        rw [← stepped]
        exact runTask_infos_length _ _

/-- No thread is about an info that does not exist. -/
theorem tasks_elsewhere (identified : Identified handler) {ackId : Int32}
    (unused : ∀ ref, ¬ handler.Has ref ackId) :
    ∀ task ∈ handler.tasks, task.completes handler.infos.length = false ∧
      task ≠ .removing ackId ∧ task.expires handler.infos.length = false ∧
      task ≠ .timingOut handler.infos.length ∧ task ≠ .forcing handler.infos.length := by
  intro task member
  have known := identified.known task member
  cases task with
  | acking | counting => simp [AckTask.completes, AckTask.expires]
  | completing other ref status =>
      have inside := AckHandler.Has.inside known
      simp [AckTask.completes, AckTask.expires, Nat.ne_of_lt inside]
  | expiring other ref =>
      have inside := AckHandler.Has.inside known
      simp [AckTask.completes, AckTask.expires, Nat.ne_of_lt inside]
  | removing other =>
      obtain ⟨ref, has⟩ := known
      have differs : other ≠ ackId := by
        rintro rfl
        exact unused ref has
      simp [AckTask.completes, AckTask.expires, differs]
  | timingOut ref => simpa [AckTask.completes, AckTask.expires] using Nat.ne_of_lt known
  | forcing ref => simpa [AckTask.completes, AckTask.expires] using Nat.ne_of_lt known
  | disposing | canceling => exact known.elim

theorem log_elsewhere (identified : Identified handler) :
    ∀ event ∈ handler.log, event.acks handler.infos.length = false ∧
      event.expires handler.infos.length = false := by
  intro event member
  have differs := Nat.ne_of_lt (identified.recorded event member)
  cases event with
  | acked other ref status =>
      exact ⟨decide_eq_false differs, rfl⟩
  | canceled ref => exact ⟨rfl, rfl⟩
  | expired ref => exact ⟨rfl, decide_eq_false differs⟩

/-- A new multi ack begins with nothing counted. -/
theorem multiAck_getOrAdd (identified : Identified handler) {index timeout : Nat}
    {handle : AckHandle τ} (found : handler.handles[index]? = some handle)
    (creating : handle.task = .creating timeout) :
    (handler.getOrAdd index handle timeout).multiAck handler.infos.length
        { id := handle.id, kind := handle.kind, timeoutAt := handler.utcNow + timeout } =
      {} := by
  have unused := identified.unused found (by simp [HandleTask.Holds, creating])
  have tasks := tasks_elsewhere identified unused
  have log := log_elsewhere identified
  have isStored : handler.acks.find? (fun entry => entry.1 = handle.id) = none := by
    rw [List.find?_eq_none]
    intro entry member same
    rw [decide_eq_true_eq] at same
    exact unused entry.2 (same ▸ identified.stored entry member)
  rw [identified.getOrAdd_eq found creating]
  simp only [AckHandler.multiAck, AckHandler.setTask, AckHandler.tryGetValue,
    AckHandler.applied, List.find?_append, isStored, MultiAck.mk.injEq, List.countP_eq_zero,
    List.count_eq_zero, List.any_eq_false]
  refine ⟨trivial, trivial, rfl, by simp, ?_, ?_, ?_, ?_, ?_, ?_, ?_⟩
  · intro event member
    simp [(log event member).1]
  · intro event member
    simp [(log event member).2]
  · intro task member
    simp [(tasks task member).1]
  · exact fun member => (tasks _ member).2.1 rfl
  · intro task member
    simp [(tasks task member).2.2.1]
  · exact fun member => (tasks _ member).2.2.2.1 rfl
  · exact fun member => (tasks _ member).2.2.2.2 rfl

namespace Counts

variable {asked : Int32 → Int32 → Prop}

theorem initial (asked : Int32 → Int32 → Prop) : Counts asked ({} : AckHandler τ) where
  toIdentified := .initial
  counts := by simp
  counting := by simp
  expected := by simp

/-- A multi ack that was there before the step. -/
theorem step_old (counts : Counts asked handler) {action : AckAction}
    (inTime : CountInTime handler action) {ref : Nat} {info after : AckInfo τ}
    (stepped : ackStep context handler action = some next)
    (before : handler.infos[ref]? = some info) (present : next.infos[ref]? = some after)
    (multi : info.kind = .multi) (sameId : after.id = info.id) :
    (next.multiAck ref after).Counted ∧
      ∀ expectedCount, after.expectedCount = some expectedCount →
        asked after.id expectedCount := by
  have serving : action ≠ .dispose := by
    rintro rfl
    exact inTime
  have earlier := counts.counts ref info before multi
  obtain ⟨ack, moved, other, also, isAck⟩ :=
    multiAck_step counts.toIdentified serving before multi stepped
  rw [present, Option.some.injEq] at also
  rw [← also] at isAck
  rw [isAck, sameId]
  have isExpected : ack.expectedCount = after.expectedCount := by
    rw [← isAck]
    rfl
  cases move : handler.move ref info action with
  | none =>
      rw [move, MultiAck.moved, Option.some.injEq] at moved
      rw [← moved] at isExpected ⊢
      exact ⟨earlier, fun expectedCount isSome =>
        counts.expected ref info expectedCount before multi (isExpected.trans isSome)⟩
  | some made =>
      rw [move, MultiAck.moved] at moved
      constructor
      · apply earlier.step _ moved
        cases made with
        | setExpectedCount expectedCount =>
            obtain ⟨thread, ackId, isResume, running⟩ := counting_of_move move
            rw [isResume, CountInTime, running] at inTime
            exact inTime
        | ack | complete | remove | expire | tryRemove | timeOut | force => trivial
      · intro expectedCount isSome
        rcases MultiAck.Counted.expectedCount_of_step moved (isExpected.trans isSome) with
          wasExpected | isMove
        · exact counts.expected ref info expectedCount before multi wasExpected
        · rw [isMove] at move
          obtain ⟨thread, ackId, -, running⟩ := counting_of_move move
          have member := List.mem_of_getElem? running
          obtain ⟨otherInfo, found, otherId⟩ := counts.known _ member
          rw [before, Option.some.injEq] at found
          rw [found, otherId]
          exact counts.counting ackId ref expectedCount member

/-- A multi ack that the step has added. -/
theorem step_new (counts : Counts asked handler) {action : AckAction} {ref : Nat}
    {after : AckInfo τ} (stepped : ackStep context handler action = some next)
    (absent : handler.infos[ref]? = none) (present : next.infos[ref]? = some after) :
    next.multiAck ref after = {} ∧ after.expectedCount = none := by
  have outside := List.getElem?_eq_none_iff.mp absent
  obtain ⟨inside, -⟩ := List.getElem?_eq_some_iff.mp present
  rcases infos_length_of_step stepped with ⟨index, isAdd⟩ | sameLength
  · rw [isAdd, ackStep] at stepped
    cases found : handler.handles[index]? with
    | none => simp only [found, reduceCtorEq] at stepped
    | some handle =>
        cases task : handle.task with
        | creating timeout =>
            simp only [found, task, Option.some.injEq] at stepped
            have added := multiAck_getOrAdd counts.toIdentified found task
            rw [stepped] at added
            rw [counts.getOrAdd_eq found task] at stepped
            rw [← stepped] at present
            rcases getElem?_concat_cases present with earlier | ⟨isNew, isInfo⟩
            · rw [absent] at earlier
              cases earlier
            · rw [isNew, isInfo]
              exact ⟨added, rfl⟩
        | registering | info | completed | threw =>
            simp only [found, task, reduceCtorEq] at stepped
  · omega

theorem step (counts : Counts asked handler) {action : AckAction}
    (inTime : CountInTime handler action)
    (isAsked : ∀ id expectedCount, action = .setExpectedCount id expectedCount →
      asked id expectedCount)
    (few : next.handles.length < 2 ^ 32)
    (stepped : ackStep context handler action = some next) : Counts asked next := by
  have serving : action ≠ .dispose := by
    rintro rfl
    exact inTime
  have grows : Grows handler next := .step stepped
  constructor
  · exact counts.toIdentified.step serving few stepped
  · intro ref after present multi
    cases before : handler.infos[ref]? with
    | none =>
        rw [(counts.step_new stepped before present).1]
        exact .initial
    | some info =>
        obtain ⟨other, also, sameId, sameKind, -⟩ := grows.kept ref info before
        rw [present, Option.some.injEq] at also
        rw [← also] at sameId sameKind
        exact (counts.step_old inTime stepped before present (sameKind ▸ multi) sameId).1
  · intro ackId ref expectedCount running
    rcases counting_of_step stepped running with earlier | isCall
    · exact counts.counting ackId ref expectedCount earlier
    · exact isAsked ackId expectedCount isCall
  · intro ref after expectedCount present multi isExpected
    cases before : handler.infos[ref]? with
    | none =>
        rw [(counts.step_new stepped before present).2] at isExpected
        cases isExpected
    | some info =>
        obtain ⟨other, also, sameId, sameKind, -⟩ := grows.kept ref info before
        rw [present, Option.some.injEq] at also
        rw [← also] at sameId sameKind
        exact (counts.step_old inTime stepped before present (sameKind ▸ multi) sameId).2
          expectedCount isExpected

end Counts

/-- The expected count of the info is set, and as many acks have reached it. -/
def AckHandler.Reached (handler : AckHandler τ) (ref : Nat) : Prop :=
  ∃ (info : AckInfo τ) (expected : Int32), handler.infos[ref]? = some info ∧
    info.expectedCount = some expected ∧ expected.toInt ≤ handler.applied ref

/-- What the task of a multi ack says about the acks that have reached it. -/
structure MultiAckCounts (actions : List AckAction) (handler : AckHandler τ)
    (handle : AckHandle τ) (ref : Nat) : Prop where
  /-- It completes for no other reason. -/
  caused : (handler.outcome handle).isSome = true →
    handler.Reached ref ∨ .expired ref ∈ handler.log
  /-- When no thread is inside the handler, either reason has completed it. -/
  idle : handler.tasks = [] → ((handler.outcome handle).isSome = true ↔
    handler.Reached ref ∨ .expired ref ∈ handler.log)
  removed : (handler.outcome handle).isSome = true → .removing handle.id ∉ handler.tasks →
    handler.tryGetValue handle.id = none
  /-- No ack is lost, whether it came before the expected count or after it. -/
  tally : handler.outcome handle = none → .forcing ref ∉ handler.tasks →
    ∃ info, handler.infos[ref]? = some info ∧
      info.ackCount = Int32.ofNat (handler.applied ref)
  asked : ∀ (info : AckInfo τ) (expected : Int32), handler.infos[ref]? = some info →
    info.expectedCount = some expected → .setExpectedCount handle.id expected ∈ actions

theorem multiAck_expired (handler : AckHandler τ) (ref : Nat) (info : AckInfo τ) :
    (handler.multiAck ref info).expired = true ↔ .expired ref ∈ handler.log := by
  simp only [AckHandler.multiAck, List.any_eq_true]
  constructor
  · rintro ⟨event, member, isExpired⟩
    cases event with
    | expired other =>
        rw [AckEvent.expires, decide_eq_true_eq] at isExpired
        exact isExpired ▸ member
    | acked | canceled => cases isExpired
  · exact fun member => ⟨_, member, decide_eq_true rfl⟩

theorem Counts.multiAckCounts {actions : List AckAction}
    (counts : Counts (fun id expected => .setExpectedCount id expected ∈ actions) handler)
    {index ref : Nat} {handle : AckHandle τ} (called : handler.handles[index]? = some handle)
    (multi : handle.kind = .multi) (returned : handle.task = .info ref) :
    MultiAckCounts actions handler handle ref := by
  obtain ⟨info, present, sameId, sameKind⟩ := counts.held index handle ref called (.inl returned)
  have counted := counts.counts ref info present (sameKind.trans multi)
  have isOutcome : handler.outcome handle = info.outcome := by
    rw [AckHandler.outcome, returned, multi]
    simp only [present, Option.bind_some]
    exact Option.map_id'
  have isReached : (handler.multiAck ref info).Reached ↔ handler.Reached ref := by
    constructor
    · rintro ⟨expected, isExpected, enough⟩
      exact ⟨info, expected, present, isExpected, enough⟩
    · rintro ⟨other, expected, also, isExpected, enough⟩
      rw [present, Option.some.injEq] at also
      exact ⟨expected, also ▸ isExpected, enough⟩
  have isExpired := multiAck_expired handler ref info
  constructor
  · rw [isOutcome, ← isReached, ← isExpired]
    exact counted.completed
  · intro idle
    rw [isOutcome, ← isReached, ← isExpired]
    apply counted.completed_iff
    simp [MultiAck.Quiet, AckHandler.multiAck, idle]
  · intro completed finished
    rw [isOutcome] at completed
    rw [← sameId] at finished
    have gone := counted.not_stored completed (List.count_eq_zero.mpr finished)
    rw [← sameId]
    simpa [AckHandler.multiAck] using gone
  · intro pending unforced
    refine ⟨info, present, counted.tally ?_ ?_⟩
    · simp [AckHandler.multiAck, ← isOutcome, pending]
    · exact List.count_eq_zero.mpr unforced
  · intro other expected also isExpected
    rw [present, Option.some.injEq] at also
    rw [← sameId]
    exact counts.expected ref info expected present (sameKind.trans multi) (also ▸ isExpected)

/-- In a handler that is not disposed, with fewer than `2 ^ 32` ids and with fewer
than `2 ^ 31` acks applied to a multi ack before its count is set: its task is
completed when as many acks have been applied as are expected, or when a sweep
has found it out of time, and for no other reason; it keeps its outcome; its
entry is removed; and every thread comes to its end. -/
theorem multi_acks_count (context : AckContext τ) {actions : List AckAction}
    {final : AckHandler τ} (inTime : Along (ackStep context) CountInTime {} actions)
    (ran : run (ackStep context) {} actions = some final)
    (few : final.handles.length < 2 ^ 32) {index ref : Nat} {handle : AckHandle τ}
    (called : final.handles[index]? = some handle) (multi : handle.kind = .multi)
    (returned : handle.task = .info ref) :
    MultiAckCounts actions final handle ref ∧
      (∀ before after handler earlier outcome, actions = before ++ after →
        run (ackStep context) {} before = some handler →
          handler.handles[index]? = some earlier → handler.outcome earlier = some outcome →
            final.outcome handle = some outcome) ∧
      ∀ thread next, ackStep context final (.resume thread) = some next →
        next.work < final.work := by
  have bounded : ∀ {state next : AckHandler τ} {action : AckAction},
      ackStep context state action = some next → next.handles.length < 2 ^ 32 →
        state.handles.length < 2 ^ 32 := by
    intro state next action stepped small
    exact Nat.lt_of_le_of_lt (Grows.step stepped).handles_length small
  have counts : Counts (fun id expected => .setExpectedCount id expected ∈ actions) final := by
    have isCall : ∀ action ∈ actions, ∀ id expected, action = .setExpectedCount id expected →
        .setExpectedCount id expected ∈ actions := by
      intro action member ackId expected isSet
      exact isSet ▸ member
    have along := inTime.and ((along_of_forall isCall _).and (along_backwards bounded ran few))
    apply run_along _ (Counts.initial _) along ran
    intro state action next counts condition stepped
    exact counts.step condition.1 condition.2.1 (condition.2.2 next stepped) stepped
  refine ⟨counts.multiAckCounts called multi returned, ?_, fun _ _ => work_decreases⟩
  intro before after handler earlier outcome split started found completed
  rw [split] at ran
  obtain ⟨middle, first, rest⟩ := run_append.1 ran
  rw [started, Option.some.injEq] at first
  rw [← first] at rest
  obtain ⟨later, present, kept⟩ := (Grows.run rest).outcome found completed
  rw [called, Option.some.injEq] at present
  exact present ▸ kept

instance (handler : AckHandler τ) (action : AckAction) :
    Decidable (CountInTime handler action) := by
  unfold CountInTime
  split
  · split <;> infer_instance
  all_goals infer_instance

/-- Of the two acks that are expected, one comes before the count is set. -/
theorem multi_acks_count_two :
    ∃ (final : AckHandler (List String)) (handle : AckHandle (List String)),
      run (ackStep queryAckContext) {}
          [.create .multi none, .getOrAdd 0, .triggerAck 1 .ok none, .resume 0,
            .setExpectedCount 1 2, .triggerAck 1 .notFound none, .resume 0, .resume 0, .resume 0,
            .resume 0] = some final ∧
        final.handles[0]? = some handle ∧ final.outcome handle = some (.status .notFound) ∧
        final.Reached 0 ∧ final.tryGetValue 1 = none := by
  have ran : run (ackStep queryAckContext) {}
      [.create .multi none, .getOrAdd 0, .triggerAck 1 .ok none, .resume 0,
        .setExpectedCount 1 2, .triggerAck 1 .notFound none, .resume 0, .resume 0, .resume 0,
        .resume 0] =
      some
        { nextId := 1
          infos := [{ id := 1, kind := .multi, timeoutAt := 10000, ackCount := 2,
                      expectedCount := some 2, outcome := some (.status .notFound) }]
          handles := [{ id := 1, kind := .multi, task := .info 0 }]
          log := [.acked 1 0 .ok, .acked 1 0 .notFound] } := by decide
  have called : [({ id := 1, kind := .multi, task := .info 0 } : AckHandle (List String))][0]? =
      some { id := 1, kind := .multi, task := .info 0 } := rfl
  have counts := (multi_acks_count queryAckContext (by decide) ran (by decide) called rfl rfl).1
  refine ⟨_, _, ran, rfl, rfl, ?_, counts.removed rfl (by decide)⟩
  exact ((counts.idle rfl).mp rfl).resolve_right (by decide)

/-- A handler with one multi ack, after as many acks. -/
def overflowing (count : Nat) : AckHandler (List String) where
  nextId := 1
  infos := [{ id := 1, kind := .multi, timeoutAt := 10000, ackCount := Int32.ofNat count }]
  acks := [(1, 0)]
  handles := [{ id := 1, kind := .multi, task := .info 0 }]
  log := List.replicate count (.acked 1 0 .ok)

theorem overflowing_ack (count : Nat) :
    run (ackStep queryAckContext) (overflowing count) [.triggerAck 1 .ok none, .resume 0] =
      some (overflowing (count + 1)) := by
  have sum : Int32.ofNat count + 1 = Int32.ofNat (count + 1) := by
    rw [Int32.ofNat_add]
    rfl
  have log : List.replicate (count + 1) (AckEvent.acked 1 0 .ok) =
      List.replicate count (.acked 1 0 .ok) ++ [.acked 1 0 .ok] := List.replicate_succ'
  rw [overflowing, overflowing, log, ← sum]
  rfl

theorem overflowing_acks (count more : Nat) :
    run (ackStep queryAckContext) (overflowing count)
      (List.replicate more [.triggerAck 1 .ok none, .resume 0]).flatten =
        some (overflowing (count + more)) := by
  induction more generalizing count with
  | zero => rfl
  | succ more inductionHypothesis =>
      rw [List.replicate_succ, List.flatten_cons]
      apply run_append.2
      refine ⟨_, overflowing_ack count, ?_⟩
      rw [inductionHypothesis (count + 1), Nat.add_assoc, Nat.add_comm 1 more]

theorem overflowing_count (count : Nat) (overflown : ¬ (1 : Int32) ≤ Int32.ofNat count) :
    run (ackStep queryAckContext) (overflowing count) [.setExpectedCount 1 1, .resume 0] =
      some { overflowing count with
        infos := [{ id := 1, kind := .multi, timeoutAt := 10000, ackCount := Int32.ofNat count,
                    expectedCount := some 1 }] } := by
  have counted : ∀ tasks : List AckTask,
      AckHandler.count { overflowing count with tasks := tasks } 1 0 1 =
        { overflowing count with
          tasks := tasks
          infos := [{ id := 1, kind := .multi, timeoutAt := 10000, ackCount := Int32.ofNat count,
                      expectedCount := some 1 }] } := by
    intro tasks
    rw [AckHandler.count]
    simp only [overflowing, List.getElem?_cons_zero, true_and]
    rw [if_pos (by decide), if_neg overflown]
    rfl
  exact congrArg some (counted [])

/-- Acks that come before the count is set overflow the counter. -/
theorem pending_of_overflow (count : Nat) (positive : 0 < count)
    (overflown : ¬ (1 : Int32) ≤ Int32.ofNat count) :
    ∃ (final : AckHandler (List String)) (handle : AckHandle (List String)),
      run (ackStep queryAckContext) {}
          (([.create .multi none, .getOrAdd 0] : List AckAction) ++
            (List.replicate count ([.triggerAck 1 .ok none, .resume 0] : List AckAction)).flatten ++
            ([.setExpectedCount 1 1, .resume 0] : List AckAction)) = some final ∧
        final.handles[0]? = some handle ∧ handle.task = .info 0 ∧ final.tasks = [] ∧
        final.Reached 0 ∧ final.outcome handle = none := by
  have begun : run (ackStep queryAckContext) {} [.create .multi none, .getOrAdd 0] =
      some (overflowing 0) := by decide
  have acked := overflowing_acks 0 count
  rw [Nat.zero_add] at acked
  have applied : (overflowing count).applied 0 = count := by
    rw [AckHandler.applied, overflowing, List.countP_replicate]
    rfl
  refine ⟨{ overflowing count with
      infos := [{ id := 1, kind := .multi, timeoutAt := 10000, ackCount := Int32.ofNat count,
                  expectedCount := some 1 }] },
    { id := 1, kind := .multi, task := .info 0 }, ?_, rfl, rfl, rfl, ?_, rfl⟩
  · rw [List.append_assoc]
    exact run_append.2 ⟨_, begun, run_append.2 ⟨_, acked, overflowing_count count overflown⟩⟩
  · refine ⟨_, 1, rfl, rfl, ?_⟩
    change (1 : Int) ≤ ((overflowing count).applied 0 : Int)
    rw [applied]
    omega

/-- One ack is expected, `2 ^ 31` have come, all threads have finished, and the
task is pending. -/
theorem multi_acks_overflow :
    ∃ (final : AckHandler (List String)) (handle : AckHandle (List String)),
      run (ackStep queryAckContext) {}
          ([AckAction.create .multi none, .getOrAdd 0] ++
            (List.replicate (2 ^ 31) [AckAction.triggerAck 1 .ok none, .resume 0]).flatten ++
            [AckAction.setExpectedCount 1 1, .resume 0]) = some final ∧
        final.handles[0]? = some handle ∧ handle.task = .info 0 ∧ final.tasks = [] ∧
        final.Reached 0 ∧ final.outcome handle = none :=
  pending_of_overflow (2 ^ 31) (by decide) (by decide)

end AzureSignalR.Utilities
