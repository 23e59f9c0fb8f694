import AzureSignalR.Utilities.AckHandler

/-!
Contract: what no step of an `AckHandler` takes back.

Owns: the order in which a handler grows, and that every step follows it: what
has happened stays on record, a completed task keeps its outcome, and a call
that has returned keeps its task.

Does not own: why a task is completed.
-/

set_option autoImplicit false

namespace AzureSignalR.Utilities

open Library Library.Machine

variable {τ : Type} {context : AckContext τ} {handler middle next : AckHandler τ}

/-- An element of a list with one more is the new one or an old one. -/
theorem getElem?_concat_cases {α : Type} {list : List α} {last found : α} {index : Nat}
    (present : (list ++ [last])[index]? = some found) :
    list[index]? = some found ∨ (index = list.length ∧ found = last) := by
  rcases Nat.lt_or_ge index list.length with inside | outside
  · rw [List.getElem?_append_left inside] at present
    exact .inl present
  · obtain ⟨bound, -⟩ := List.getElem?_eq_some_iff.mp present
    rw [List.length_append, List.length_singleton] at bound
    rw [List.getElem?_append_right outside] at present
    exact .inr ⟨by omega, List.mem_singleton.mp (List.mem_of_getElem? present)⟩

/-- An element of a list with one changed is the changed one or an old one. -/
theorem getElem?_modify_cases {α : Type} {list : List α} {before found : α} {index other : Nat}
    {change : α → α} (here : list[index]? = some before)
    (present : (list.modify index change)[other]? = some found) :
    (index ≠ other ∧ list[other]? = some found) ∨ (other = index ∧ found = change before) := by
  by_cases itself : index = other
  · rw [← itself, List.getElem?_modify_eq, here, Option.map_eq_map, Option.map_some,
      Option.some.injEq] at present
    exact .inr ⟨itself.symm, present.symm⟩
  · rw [List.getElem?_modify_ne change list itself] at present
    exact .inl ⟨itself, present⟩

/-- The later handler is one the earlier may become. -/
structure Grows (handler next : AckHandler τ) : Prop where
  log : ∀ event ∈ handler.log, event ∈ next.log
  disposed : handler.disposed = true → next.disposed = true
  kept : ∀ (ref : Nat) (info : AckInfo τ), handler.infos[ref]? = some info →
    ∃ after : AckInfo τ, next.infos[ref]? = some after ∧ after.id = info.id ∧
      after.kind = info.kind ∧ after.timeoutAt = info.timeoutAt ∧
      (info.outcome ≠ none → after.outcome = info.outcome)
  called : ∀ (index : Nat) (handle : AckHandle τ), handler.handles[index]? = some handle →
    ∃ after : AckHandle τ, next.handles[index]? = some after ∧ after.id = handle.id ∧
      after.kind = handle.kind ∧ (handle.tokenCanceled = true → after.tokenCanceled = true) ∧
      (handle.task.returned = true → after.task = handle.task)
  clock : handler.utcNow ≤ next.utcNow

namespace Grows

theorem info_refl {handler : AckHandler τ} {ref : Nat} {info : AckInfo τ}
    (found : handler.infos[ref]? = some info) :
    ∃ after : AckInfo τ, handler.infos[ref]? = some after ∧ after.id = info.id ∧
      after.kind = info.kind ∧ after.timeoutAt = info.timeoutAt ∧
      (info.outcome ≠ none → after.outcome = info.outcome) :=
  ⟨info, found, rfl, rfl, rfl, fun _ => rfl⟩

theorem handle_refl {handler : AckHandler τ} {index : Nat} {handle : AckHandle τ}
    (found : handler.handles[index]? = some handle) :
    ∃ after : AckHandle τ, handler.handles[index]? = some after ∧ after.id = handle.id ∧
      after.kind = handle.kind ∧ (handle.tokenCanceled = true → after.tokenCanceled = true) ∧
      (handle.task.returned = true → after.task = handle.task) :=
  ⟨handle, found, rfl, rfl, id, fun _ => rfl⟩

theorem refl (handler : AckHandler τ) : Grows handler handler :=
  ⟨fun _ => id, id, fun _ _ => info_refl, fun _ _ => handle_refl, le_refl _⟩

theorem trans (first : Grows handler middle) (second : Grows middle next) :
    Grows handler next where
  log event member := second.log event (first.log event member)
  disposed isDisposed := second.disposed (first.disposed isDisposed)
  kept ref info found := by
    obtain ⟨between, present, sameId, sameKind, sameTime, sameOutcome⟩ := first.kept ref info found
    obtain ⟨after, later, keptId, keptKind, keptTime, keptOutcome⟩ :=
      second.kept ref between present
    refine ⟨after, later, keptId.trans sameId, keptKind.trans sameKind,
      keptTime.trans sameTime, fun completed => ?_⟩
    have completedBetween : between.outcome ≠ none := by
      rw [sameOutcome completed]
      exact completed
    exact (keptOutcome completedBetween).trans (sameOutcome completed)
  called index handle found := by
    obtain ⟨between, present, sameId, sameKind, sameToken, sameTask⟩ :=
      first.called index handle found
    obtain ⟨after, later, keptId, keptKind, keptToken, keptTask⟩ :=
      second.called index between present
    refine ⟨after, later, keptId.trans sameId, keptKind.trans sameKind,
      fun canceled => keptToken (sameToken canceled), fun returned => ?_⟩
    have returnedBetween : between.task.returned = true := by
      rw [sameTask returned]
      exact returned
    exact (keptTask returnedBetween).trans (sameTask returned)
  clock := first.clock.trans second.clock

theorem handles_length (grows : Grows handler next) :
    handler.handles.length ≤ next.handles.length := by
  rcases Nat.eq_zero_or_pos handler.handles.length with empty | some
  · rw [empty]
    exact Nat.zero_le _
  · have last : handler.handles.length - 1 < handler.handles.length := by omega
    obtain ⟨after, found, -⟩ := grows.called _ _ (List.getElem?_eq_getElem last)
    obtain ⟨inside, -⟩ := List.getElem?_eq_some_iff.mp found
    omega

/-! ## Effects -/

/-- A step that leaves the infos and the calls alone. -/
theorem of_same (log : ∀ event ∈ handler.log, event ∈ next.log)
    (disposed : handler.disposed = true → next.disposed = true)
    (infos : next.infos = handler.infos) (handles : next.handles = handler.handles)
    (clock : handler.utcNow ≤ next.utcNow) : Grows handler next where
  log := log
  disposed := disposed
  kept ref info found := by
    rw [infos]
    exact info_refl found
  called index handle found := by
    rw [handles]
    exact handle_refl found
  clock := clock

theorem record (handler : AckHandler τ) (event : AckEvent) :
    Grows handler (handler.record event) :=
  .of_same (fun _ member => List.mem_append_left _ member) id rfl rfl (le_refl _)

theorem spawn (handler : AckHandler τ) (task : AckTask) : Grows handler (handler.spawn task) :=
  .of_same (fun _ => id) id rfl rfl (le_refl _)

theorem tryRemove (handler : AckHandler τ) (ackId : Int32) :
    Grows handler (handler.tryRemove ackId).2 :=
  .of_same (fun _ => id) id rfl rfl (le_refl _)

theorem setInfo {ref : Nat} {info after : AckInfo τ} (found : handler.infos[ref]? = some info)
    (keptId : after.id = info.id) (keptKind : after.kind = info.kind)
    (keptTime : after.timeoutAt = info.timeoutAt)
    (keptOutcome : info.outcome ≠ none → after.outcome = info.outcome) :
    Grows handler { handler with infos := handler.infos.set ref after } where
  log _ := id
  disposed := id
  kept other before present := by
    obtain ⟨inside, -⟩ := List.getElem?_eq_some_iff.mp found
    by_cases itself : ref = other
    · rw [← itself, found, Option.some.injEq] at present
      rw [← itself, ← present]
      exact ⟨after, List.getElem?_set_self inside, keptId, keptKind, keptTime, keptOutcome⟩
    · exact ⟨before, (List.getElem?_set_ne itself).trans present, rfl, rfl, rfl, fun _ => rfl⟩
  called _ _ := handle_refl
  clock := le_refl _

theorem addInfo (handler : AckHandler τ) (info : AckInfo τ) (entry : Int32 × Nat) :
    Grows handler
      { handler with infos := handler.infos ++ [info], acks := handler.acks ++ [entry] } where
  log _ := id
  disposed := id
  kept ref before present := by
    obtain ⟨inside, -⟩ := List.getElem?_eq_some_iff.mp present
    exact ⟨before, (List.getElem?_append_left inside).trans present, rfl, rfl, rfl,
      fun _ => rfl⟩
  called _ _ := handle_refl
  clock := le_refl _

theorem modifyHandle {index : Nat} {handle : AckHandle τ} {change : AckHandle τ → AckHandle τ}
    (found : handler.handles[index]? = some handle) (keptId : (change handle).id = handle.id)
    (keptKind : (change handle).kind = handle.kind)
    (keptToken : handle.tokenCanceled = true → (change handle).tokenCanceled = true)
    (keptTask : handle.task.returned = true → (change handle).task = handle.task) :
    Grows handler { handler with handles := handler.handles.modify index change } where
  log _ := id
  disposed := id
  kept _ _ := info_refl
  called other before present := by
    by_cases itself : index = other
    · rw [← itself, found, Option.some.injEq] at present
      rw [← itself, ← present]
      refine ⟨change handle, ?_, keptId, keptKind, keptToken, keptTask⟩
      rw [List.getElem?_modify_eq, found]
      rfl
    · refine ⟨before, ?_, rfl, rfl, id, fun _ => rfl⟩
      rw [List.getElem?_modify_ne change handler.handles itself]
      exact present
  clock := le_refl _

theorem addHandle (handler : AckHandler τ) (nextId : Int32) (handle : AckHandle τ) :
    Grows handler
      { handler with nextId := nextId, handles := handler.handles ++ [handle] } where
  log _ := id
  disposed := id
  kept _ _ := info_refl
  called index before present := by
    obtain ⟨inside, -⟩ := List.getElem?_eq_some_iff.mp present
    exact ⟨before, (List.getElem?_append_left inside).trans present, rfl, rfl, id,
      fun _ => rfl⟩
  clock := le_refl _

end Grows

/-- `complete` finds the task completed, or completes it. -/
theorem complete_cases (handler : AckHandler τ) (ref : Nat) (outcome : AckOutcome τ) :
    handler.complete ref outcome = (false, handler) ∨
      ∃ info, handler.infos[ref]? = some info ∧ info.outcome = none ∧
        handler.complete ref outcome =
          (true, { handler with
            infos := handler.infos.set ref { info with outcome := some outcome } }) := by
  rw [AckHandler.complete]
  cases found : handler.infos[ref]? with
  | none => exact .inl rfl
  | some info =>
      by_cases pending : info.outcome = none
      · exact .inr ⟨info, rfl, pending, by simp only [if_pos pending]⟩
      · exact .inl (by simp only [if_neg pending])

theorem complete_eq {ref : Nat} {info : AckInfo τ} {outcome : AckOutcome τ}
    (found : handler.infos[ref]? = some info) :
    handler.complete ref outcome =
      (decide (info.outcome = none),
        { handler with
          infos := if info.outcome = none then
            handler.infos.set ref { info with outcome := some outcome } else handler.infos }) := by
  rw [AckHandler.complete, found]
  by_cases pending : info.outcome = none
  · simp only [pending, decide_true, if_true]
  · simp only [pending, decide_false, if_false]

/-- A call has its place in `handles`. -/
theorem AckHandler.create_length (handler : AckHandler τ) (kind : AckKind)
    (ackTimeout : Option Nat) :
    handler.handles.length < (handler.create context kind ackTimeout).handles.length := by
  rw [AckHandler.create]
  by_cases isDisposed : handler.disposed = true
  · rw [if_pos isDisposed]
    simp
  · rw [if_neg isDisposed]
    simp

namespace Grows

/-! ## Operations -/

theorem complete (handler : AckHandler τ) (ref : Nat) (outcome : AckOutcome τ) :
    Grows handler (handler.complete ref outcome).2 := by
  rcases complete_cases handler ref outcome with unchanged | ⟨info, found, pending, completes⟩
  · rw [unchanged]
    exact refl handler
  · rw [completes]
    exact setInfo found rfl rfl rfl fun completed => absurd pending completed

theorem create (handler : AckHandler τ) (kind : AckKind) (ackTimeout : Option Nat) :
    Grows handler (handler.create context kind ackTimeout) := by
  rw [AckHandler.create]
  by_cases isDisposed : handler.disposed = true
  · rw [if_pos isDisposed]
    exact addHandle handler _ _
  · rw [if_neg isDisposed]
    exact addHandle handler _ _

theorem cancelByToken (handler : AckHandler τ) (ref : Nat) :
    Grows handler (handler.cancelByToken ref) :=
  (record handler _).trans (complete _ ref _)

theorem setTask {index : Nat} {handle : AckHandle τ}
    (found : handler.handles[index]? = some handle) (calling : handle.task.returned = false)
    (task : HandleTask τ) : Grows handler (handler.setTask index task) := by
  apply modifyHandle found
  · rfl
  · rfl
  · exact id
  · intro returned
    rw [calling] at returned
    cases returned

theorem getOrAdd {index : Nat} {handle : AckHandle τ}
    (found : handler.handles[index]? = some handle) (calling : handle.task.returned = false)
    (timeout : Nat) : Grows handler (handler.getOrAdd index handle timeout) := by
  rw [AckHandler.getOrAdd]
  cases handler.tryGetValue handle.id with
  | none =>
      have added := addInfo handler
        { id := handle.id, kind := handle.kind, timeoutAt := handler.utcNow + timeout }
        (handle.id, handler.infos.length)
      apply added.trans
      apply setTask _ calling
      exact found
  | some ref =>
      dsimp only
      split
      · exact setTask found calling _
      · exact setTask found calling _

theorem register {index : Nat} {handle : AckHandle τ}
    (found : handler.handles[index]? = some handle) (calling : handle.task.returned = false)
    (ref : Nat) : Grows handler (handler.register index handle ref) := by
  rw [AckHandler.register]
  split_ifs
  · exact (setTask found calling _).trans (cancelByToken _ ref)
  · exact setTask found calling _

theorem cancelToken {index : Nat} {handle : AckHandle τ}
    (found : handler.handles[index]? = some handle) :
    Grows handler (handler.cancelToken index handle) := by
  have canceled : Grows handler
      { handler with handles := handler.handles.modify index fun handle =>
        { handle with tokenCanceled := true } } :=
    modifyHandle found rfl rfl (fun _ => rfl) fun _ => rfl
  rw [AckHandler.cancelToken]
  cases handle.task with
  | info ref =>
      dsimp only
      split_ifs
      · exact canceled
      · exact canceled.trans (cancelByToken _ ref)
  | creating | registering | completed | threw => exact canceled

theorem triggerAck (handler : AckHandler τ) (ackId : Int32) (status : AckStatus)
    (payload : Option Bytes) : Grows handler (handler.triggerAck ackId status payload) := by
  rw [AckHandler.triggerAck]
  cases handler.tryGetValue ackId with
  | none => exact refl handler
  | some ref => exact spawn handler _

theorem ack (handler : AckHandler τ) (ackId : Int32) (ref : Nat) (status : AckStatus)
    (payload : Option Bytes) : Grows handler (handler.ack context ackId ref status payload) := by
  have received := record handler (.acked ackId ref status)
  rw [AckHandler.ack]
  cases found : handler.infos[ref]? with
  | none => exact received
  | some info =>
      have counted : Grows handler
          { handler.record (.acked ackId ref status) with
            infos := handler.infos.set ref { info with ackCount := info.ackCount + 1 } } :=
        received.trans (setInfo found rfl rfl rfl fun _ => rfl)
      dsimp only
      split
      · split
        · split_ifs
          · exact counted.trans (spawn _ _)
          · exact counted
        · exact counted
      · have completed := received.trans (complete _ ref
          (ackOutcome context info.kind status payload))
        split
        next acked won =>
          rw [won] at completed
          exact completed.trans (spawn acked _)
        next acked lost =>
          rw [lost] at completed
          exact completed

theorem setExpectedCount (handler : AckHandler τ) (ackId : Int32) (expectedCount : Int32) :
    Grows handler (handler.setExpectedCount ackId expectedCount) := by
  rw [AckHandler.setExpectedCount]
  split_ifs
  · exact refl handler
  · cases handler.tryGetValue ackId with
    | none => exact refl handler
    | some ref => exact spawn handler _

theorem count (handler : AckHandler τ) (ackId : Int32) (ref : Nat) (expectedCount : Int32) :
    Grows handler (handler.count ackId ref expectedCount) := by
  rw [AckHandler.count]
  cases found : handler.infos[ref]? with
  | none => exact refl handler
  | some info =>
      have counted : Grows handler
          { handler with
            infos := handler.infos.set ref { info with expectedCount := some expectedCount } } :=
        setInfo found rfl rfl rfl fun _ => rfl
      dsimp only
      split_ifs
      · exact counted.trans (spawn _ _)
      · exact counted
      · exact refl handler

theorem checkAck (handler : AckHandler τ) (utcNow : Nat) (ackId : Int32) :
    Grows handler (handler.checkAck utcNow ackId) := by
  rw [AckHandler.checkAck]
  cases handler.tryGetValue ackId with
  | none => exact refl handler
  | some ref =>
      dsimp only
      cases handler.infos[ref]? with
      | none => exact refl handler
      | some info =>
          dsimp only
          split_ifs
          · exact (record handler _).trans (spawn _ _)
          · exact refl handler

theorem timeOut (handler : AckHandler τ) (ref : Nat) :
    Grows handler (handler.timeOut context ref) := by
  rw [AckHandler.timeOut]
  cases found : handler.infos[ref]? with
  | none => exact refl handler
  | some info =>
      have forced : Grows handler
          { handler with
            infos := handler.infos.set ref
              { info with ackCount := info.expectedCount.getD 0 } } :=
        setInfo found rfl rfl rfl fun _ => rfl
      dsimp only
      split
      · exact forced.trans (spawn _ _)
      · exact complete handler ref _

theorem removeThen (handler : AckHandler τ) (ackId : Int32) (task : AckTask) :
    Grows handler
      (match handler.tryRemove ackId with
      | (true, removed) => removed.spawn task
      | (false, removed) => removed) := by
  have removed := tryRemove handler ackId
  split
  next after won =>
    rw [won] at removed
    exact removed.trans (spawn after task)
  next after lost =>
    rw [lost] at removed
    exact removed

theorem runTask (handler : AckHandler τ) (task : AckTask) :
    Grows handler (handler.runTask context task) := by
  cases task with
  | acking ackId ref status payload => exact ack handler ackId ref status payload
  | completing ackId ref status => exact (complete handler ref _).trans (spawn _ _)
  | removing ackId => exact tryRemove handler ackId
  | counting ackId ref expectedCount => exact count handler ackId ref expectedCount
  | expiring ackId ref => exact removeThen handler ackId _
  | timingOut ref => exact timeOut handler ref
  | forcing ref => exact complete handler ref _
  | disposing ackId ref => exact removeThen handler ackId _
  | canceling ref => exact complete handler ref _

theorem step {action : AckAction} (stepped : ackStep context handler action = some next) :
    Grows handler next := by
  cases action with
  | create kind ackTimeout =>
      rw [ackStep, Option.some.injEq] at stepped
      rw [← stepped]
      exact create handler kind ackTimeout
  | getOrAdd index =>
      rw [ackStep] at stepped
      cases found : handler.handles[index]? with
      | none => simp only [found, reduceCtorEq] at stepped
      | some handle =>
          cases task : handle.task with
          | creating timeout =>
              simp only [found, task, Option.some.injEq] at stepped
              rw [← stepped]
              exact getOrAdd found (by rw [task]; rfl) timeout
          | registering | info | completed | threw =>
              simp only [found, task, reduceCtorEq] at stepped
  | register index =>
      rw [ackStep] at stepped
      cases found : handler.handles[index]? with
      | none => simp only [found, reduceCtorEq] at stepped
      | some handle =>
          cases task : handle.task with
          | registering ref =>
              simp only [found, task, Option.some.injEq] at stepped
              rw [← stepped]
              exact register found (by rw [task]; rfl) ref
          | creating | info | completed | threw =>
              simp only [found, task, reduceCtorEq] at stepped
  | cancelToken index =>
      rw [ackStep] at stepped
      cases found : handler.handles[index]? with
      | none => simp only [found, reduceCtorEq] at stepped
      | some handle =>
          simp only [found, Option.some.injEq] at stepped
          rw [← stepped]
          exact cancelToken found
  | triggerAck ackId status payload =>
      rw [ackStep, Option.some.injEq] at stepped
      rw [← stepped]
      exact triggerAck handler ackId status payload
  | setExpectedCount ackId expectedCount =>
      rw [ackStep, Option.some.injEq] at stepped
      rw [← stepped]
      exact setExpectedCount handler ackId expectedCount
  | sweep =>
      rw [ackStep] at stepped
      split_ifs at stepped
      rw [Option.some.injEq] at stepped
      rw [← stepped]
      exact .of_same (fun _ => id) id rfl rfl (le_refl _)
  | checkAck sweep ackId =>
      rw [ackStep] at stepped
      cases found : handler.sweeps[sweep]? with
      | none => simp only [found, reduceCtorEq] at stepped
      | some utcNow =>
          simp only [found, Option.some.injEq] at stepped
          rw [← stepped]
          exact checkAck handler utcNow ackId
  | dispose =>
      rw [ackStep, Option.some.injEq] at stepped
      rw [← stepped]
      exact .of_same (fun _ => id) (fun _ => rfl) rfl rfl (le_refl _)
  | disposeAck ackId =>
      rw [ackStep] at stepped
      split_ifs at stepped
      cases found : handler.tryGetValue ackId with
      | none => simp only [found, reduceCtorEq] at stepped
      | some ref =>
          simp only [found, Option.some.injEq] at stepped
          rw [← stepped]
          exact spawn handler _
  | resume thread =>
      rw [ackStep] at stepped
      cases found : handler.tasks[thread]? with
      | none => simp only [found, reduceCtorEq] at stepped
      | some task =>
          simp only [found, Option.some.injEq] at stepped
          rw [← stepped]
          refine trans ?_ (runTask _ task)
          exact .of_same (fun _ => id) id rfl rfl (le_refl _)
  | tick =>
      rw [ackStep, Option.some.injEq] at stepped
      rw [← stepped]
      exact .of_same (fun _ => id) id rfl rfl (Nat.le_succ _)

theorem run {actions : List AckAction}
    (ran : Machine.run (ackStep context) handler actions = some next) : Grows handler next := by
  apply run_invariant _ (refl handler) ran
  intro state action following grows stepped
  exact grows.trans (.step stepped)

end Grows

end AzureSignalR.Utilities
