import AzureSignalR.Utilities.AckCorrelation

/-!
Contract: what the caller of a single ack may rely on.

Owns: that a step about one id leaves every other id as it is, and the
correlation of acks over whole runs.

Does not own: the invariant behind it.
-/

set_option autoImplicit false

namespace AzureSignalR.Utilities

open Library Library.Machine

variable {τ : Type} {context : AckContext τ} {handler next : AckHandler τ}

/-! ## Other ids -/

/-- The step has left the call, the outcome of its task and the entry of its id
as they were. -/
structure Untouched (handler next : AckHandler τ) (index : Nat) (handle : AckHandle τ) :
    Prop where
  call : next.handles[index]? = some handle
  outcome : next.outcome handle = handler.outcome handle
  entry : next.tryGetValue handle.id = handler.tryGetValue handle.id

namespace Untouched

variable {index : Nat} {handle : AckHandle τ}

theorem trans {middle : AckHandler τ} (first : Untouched handler middle index handle)
    (second : Untouched middle next index handle) : Untouched handler next index handle :=
  ⟨second.call, second.outcome.trans first.outcome, second.entry.trans first.entry⟩

theorem of_same (found : handler.handles[index]? = some handle)
    (handles : next.handles = handler.handles) (infos : next.infos = handler.infos)
    (acks : next.acks = handler.acks) : Untouched handler next index handle where
  call := by
    rw [handles]
    exact found
  outcome := by
    rw [AckHandler.outcome, infos, AckHandler.outcome]
  entry := by
    rw [AckHandler.tryGetValue, acks, AckHandler.tryGetValue]

/-- The outcomes of other infos do not matter. -/
theorem of_infos (found : handler.handles[index]? = some handle)
    (handles : next.handles = handler.handles) (acks : next.acks = handler.acks)
    (infos : ∀ ref, handle.task = .info ref → next.infos[ref]? = handler.infos[ref]?) :
    Untouched handler next index handle where
  call := by
    rw [handles]
    exact found
  outcome := by
    rw [AckHandler.outcome, AckHandler.outcome]
    cases task : handle.task with
    | info ref => simp only [infos ref task]
    | creating | registering | completed | threw => rfl
  entry := by
    rw [AckHandler.tryGetValue, acks, AckHandler.tryGetValue]

theorem complete (found : handler.handles[index]? = some handle) {ref : Nat}
    (differs : handle.task ≠ .info ref) (outcome : AckOutcome τ) :
    Untouched handler (handler.complete ref outcome).2 index handle := by
  rcases complete_cases handler ref outcome with unchanged | ⟨info, -, -, completes⟩
  · rw [unchanged]
    exact of_same found rfl rfl rfl
  · rw [completes]
    refine of_infos found rfl rfl fun other task => List.getElem?_set_ne ?_
    rintro rfl
    exact differs task

theorem ack (found : handler.handles[index]? = some handle) {ref : Nat} {info : AckInfo τ}
    (present : handler.infos[ref]? = some info) (single : info.kind ≠ .multi)
    (differs : handle.task ≠ .info ref) (ackId : Int32) (status : AckStatus)
    (payload : Option Bytes) :
    Untouched handler (handler.ack context ackId ref status payload) index handle := by
  rw [ack_single present single]
  refine of_infos found rfl rfl fun held task => ?_
  dsimp only
  split_ifs
  · refine List.getElem?_set_ne ?_
    rintro rfl
    exact differs task
  · rfl

theorem timeOut (found : handler.handles[index]? = some handle) {ref : Nat} {info : AckInfo τ}
    (present : handler.infos[ref]? = some info) (single : info.kind ≠ .multi)
    (differs : handle.task ≠ .info ref) :
    Untouched handler (handler.timeOut context ref) index handle := by
  rw [timeOut_single present single]
  exact complete found differs _

theorem modifyHandle (found : handler.handles[index]? = some handle) {other : Nat}
    (differs : other ≠ index) (change : AckHandle τ → AckHandle τ) :
    Untouched handler { handler with handles := handler.handles.modify other change } index
      handle where
  call := (List.getElem?_modify_ne change handler.handles differs).trans found
  outcome := rfl
  entry := rfl

theorem tryRemove (found : handler.handles[index]? = some handle) {ackId : Int32}
    (differs : ackId ≠ handle.id) :
    Untouched handler (handler.tryRemove ackId).2 index handle where
  call := found
  outcome := rfl
  entry := by
    rw [AckHandler.tryRemove, AckHandler.tryGetValue, AckHandler.tryGetValue, List.find?_filter]
    congr 2
    funext entry
    by_cases here : entry.1 = handle.id
    · simp [here, differs.symm]
    · simp [here]

theorem removeThen (found : handler.handles[index]? = some handle) {ackId : Int32}
    (differs : ackId ≠ handle.id) (task : AckTask) :
    Untouched handler
      (match handler.tryRemove ackId with
      | (true, removed) => removed.spawn task
      | (false, removed) => removed) index handle := by
  have removed := tryRemove found differs
  split
  next after won =>
    rw [won] at removed
    exact removed.trans (of_same removed.call rfl rfl rfl)
  next after lost =>
    rw [lost] at removed
    exact removed

end Untouched

namespace Correlated

variable {past : List AckAttempt} {index : Nat} {handle : AckHandle τ}

theorem not_info (correlated : Correlated context handler past)
    (found : handler.handles[index]? = some handle) {ref : Nat} {info : AckInfo τ}
    (present : handler.infos[ref]? = some info) (differs : info.id ≠ handle.id) :
    handle.task ≠ .info ref := by
  intro task
  obtain ⟨other, also, sameId, -⟩ := correlated.held index handle ref found (.inl task)
  rw [present, Option.some.injEq] at also
  exact differs (also ▸ sameId)

theorem differs_index {other : Nat} {caller : AckHandle τ}
    (called : handler.handles[other]? = some caller)
    (found : handler.handles[index]? = some handle) (differs : caller.id ≠ handle.id) :
    other ≠ index := by
  rintro rfl
  rw [found, Option.some.injEq] at called
  exact differs (by rw [called])

/-- The info of another call. -/
theorem not_held (correlated : Correlated context handler past)
    (found : handler.handles[index]? = some handle) {other ref : Nat} {caller : AckHandle τ}
    (called : handler.handles[other]? = some caller) (holds : caller.task.Holds ref)
    (differs : caller.id ≠ handle.id) : handle.task ≠ .info ref := by
  obtain ⟨info, present, sameId, -⟩ := correlated.held other caller ref called holds
  exact correlated.not_info found present (sameId ▸ differs)

theorem untouched_cancelByToken (found : handler.handles[index]? = some handle) {ref : Nat}
    (differs : handle.task ≠ .info ref) :
    Untouched handler (handler.cancelByToken ref) index handle := by
  have recorded : Untouched handler (handler.record (.canceled ref)) index handle :=
    .of_same found rfl rfl rfl
  exact recorded.trans (.complete recorded.call differs .canceled)

theorem untouched_getOrAdd (correlated : Correlated context handler past)
    (found : handler.handles[index]? = some handle) {other timeout : Nat} {caller : AckHandle τ}
    (called : handler.handles[other]? = some caller) (creating : caller.task = .creating timeout)
    (differs : caller.id ≠ handle.id) :
    Untouched handler (handler.getOrAdd other caller timeout) index handle := by
  have waits : ∀ ref, ¬ caller.task.Holds ref := by
    intro ref
    simp [HandleTask.Holds, creating]
  have elsewhere := differs_index called found differs
  rw [AckHandler.getOrAdd, correlated.fresh called waits]
  constructor
  · exact (List.getElem?_modify_ne _ _ elsewhere).trans found
  · rw [AckHandler.outcome, AckHandler.outcome]
    cases task : handle.task with
    | creating | registering | completed | threw => rfl
    | info ref =>
        obtain ⟨info, present, -⟩ := correlated.held index handle ref found (.inl task)
        obtain ⟨inside, -⟩ := List.getElem?_eq_some_iff.mp present
        simp only [AckHandler.setTask, List.getElem?_append_left inside]
  · simp only [AckHandler.tryGetValue, AckHandler.setTask, List.find?_append]
    rw [List.find?_cons_of_neg (by simpa using differs), List.find?_nil, Option.or_none]

theorem untouched_resume (correlated : Correlated context handler past)
    (found : handler.handles[index]? = some handle) {thread : Nat} {task : AckTask}
    (running : handler.tasks[thread]? = some task)
    (other : target handler (.resume thread) ≠ some handle.id) :
    Untouched handler
      ({ handler with tasks := handler.tasks.eraseIdx thread }.runTask context task) index
      handle := by
  have own := correlated.tasks task (List.mem_of_getElem? running)
  have erased : Untouched handler { handler with tasks := handler.tasks.eraseIdx thread } index
      handle := .of_same found rfl rfl rfl
  rw [target, running] at other
  cases task with
  | acking ackId ref status payload =>
      simp only [ne_eq, Option.some.injEq] at other
      obtain ⟨info, present, sameId⟩ := own
      have differs := correlated.not_info found present (sameId ▸ other)
      have single := correlated.single_info present
      exact erased.trans (.ack erased.call present single differs ackId status payload)
  | removing ackId =>
      simp only [ne_eq, Option.some.injEq] at other
      exact erased.trans (.tryRemove erased.call other)
  | expiring ackId ref =>
      simp only [ne_eq, Option.some.injEq] at other
      exact erased.trans (.removeThen erased.call other _)
  | timingOut ref =>
      obtain ⟨info, present, -⟩ := own
      simp only [present, Option.map_some, ne_eq, Option.some.injEq] at other
      have differs := correlated.not_info found present other
      have single := correlated.single_info present
      exact erased.trans (.timeOut erased.call present single differs)
  | completing | counting | forcing | disposing | canceling => exact own.elim

/-- A step about another id. -/
theorem untouched (correlated : Correlated context handler past) {action : AckAction}
    (single : SingleAck action) (stepped : ackStep context handler action = some next)
    (found : handler.handles[index]? = some handle)
    (other : target handler action ≠ some handle.id) : Untouched handler next index handle := by
  cases action with
  | create kind ackTimeout =>
      rw [ackStep, Option.some.injEq] at stepped
      obtain ⟨inside, -⟩ := List.getElem?_eq_some_iff.mp found
      have serving : ¬ handler.disposed = true := by
        rw [correlated.serving]
        exact Bool.false_ne_true
      rw [← stepped, AckHandler.create, if_neg serving]
      exact ⟨(List.getElem?_append_left inside).trans found, rfl, rfl⟩
  | getOrAdd caller =>
      rw [ackStep] at stepped
      cases called : handler.handles[caller]? with
      | none => simp only [called, reduceCtorEq] at stepped
      | some call =>
          rw [target, called] at other
          cases task : call.task with
          | creating timeout =>
              simp only [called, task, Option.some.injEq] at stepped
              rw [← stepped]
              exact correlated.untouched_getOrAdd found called task (by simpa using other)
          | registering | info | completed | threw =>
              simp only [called, task, reduceCtorEq] at stepped
  | register caller =>
      rw [ackStep] at stepped
      cases called : handler.handles[caller]? with
      | none => simp only [called, reduceCtorEq] at stepped
      | some call =>
          rw [target, called] at other
          cases task : call.task with
          | registering ref =>
              simp only [called, task, Option.some.injEq] at stepped
              have differs : call.id ≠ handle.id := by simpa using other
              have registered : Untouched handler (handler.setTask caller (.info ref)) index
                  handle := .modifyHandle found (differs_index called found differs) _
              rw [← stepped, AckHandler.register]
              split_ifs
              · apply registered.trans (untouched_cancelByToken registered.call _)
                exact correlated.not_held found called (.inr task) differs
              · exact registered
          | creating | info | completed | threw =>
              simp only [called, task, reduceCtorEq] at stepped
  | cancelToken caller =>
      rw [ackStep] at stepped
      cases called : handler.handles[caller]? with
      | none => simp only [called, reduceCtorEq] at stepped
      | some call =>
          rw [target, called] at other
          simp only [called, Option.some.injEq] at stepped
          have differs : call.id ≠ handle.id := by simpa using other
          have canceled : Untouched handler
              { handler with handles := handler.handles.modify caller fun call =>
                { call with tokenCanceled := true } } index handle :=
            .modifyHandle found (differs_index called found differs) _
          rw [← stepped, AckHandler.cancelToken]
          cases task : call.task with
          | info ref =>
              dsimp only
              split_ifs
              · exact canceled
              · apply canceled.trans (untouched_cancelByToken canceled.call _)
                exact correlated.not_held found called (.inl task) differs
          | creating | registering | completed | threw => exact canceled
  | triggerAck ackId status payload =>
      rw [ackStep, Option.some.injEq] at stepped
      rw [← stepped, AckHandler.triggerAck]
      cases handler.tryGetValue ackId with
      | none => exact .of_same found rfl rfl rfl
      | some ref => exact .of_same found rfl rfl rfl
  | setExpectedCount | dispose | disposeAck => exact single.elim
  | sweep =>
      rw [ackStep] at stepped
      split_ifs at stepped
      rw [Option.some.injEq] at stepped
      rw [← stepped]
      exact .of_same found rfl rfl rfl
  | checkAck sweep ackId =>
      rw [ackStep] at stepped
      cases running : handler.sweeps[sweep]? with
      | none => simp only [running, reduceCtorEq] at stepped
      | some utcNow =>
          simp only [running, Option.some.injEq] at stepped
          rw [← stepped, AckHandler.checkAck]
          split
          · exact .of_same found rfl rfl rfl
          · split
            · exact .of_same found rfl rfl rfl
            · split_ifs
              · exact .of_same found rfl rfl rfl
              · exact .of_same found rfl rfl rfl
  | resume thread =>
      rw [ackStep] at stepped
      cases running : handler.tasks[thread]? with
      | none => simp only [running, reduceCtorEq] at stepped
      | some task =>
          simp only [running, Option.some.injEq] at stepped
          rw [← stepped]
          exact correlated.untouched_resume found running other
  | tick =>
      rw [ackStep, Option.some.injEq] at stepped
      rw [← stepped]
      exact .of_same found rfl rfl rfl

end Correlated

/-! ## Runs -/

/-- Every returned task has the outcome of the first attempt made for it, and
every attempt made for it is an ack with its id, a cancellation of its token or
a timeout of its info. An id that is acked is no longer stored once the threads
that are to remove it have, unless its token has come first. -/
structure AcksCorrelate (context : AckContext τ) (handler : AckHandler τ)
    (past : List AckAttempt) : Prop where
  distinct : (handler.handles.map AckHandle.id).Nodup
  first : ∀ (index : Nat) (handle : AckHandle τ) (ref : Nat),
    handler.handles[index]? = some handle → handle.task = .info ref →
      handler.outcome handle = (firstAttempt past ref).map fun attempt =>
        (attempt.cause.outcome context handle.kind).returned handle.kind
  own : ∀ (index : Nat) (handle : AckHandle τ) (ref : Nat),
    handler.handles[index]? = some handle → handle.task = .info ref →
      ∀ attempt ∈ past, attempt.ref = ref →
        match attempt.cause with
        | .acked id _ _ => id = handle.id
        | .canceled caller => caller = index ∧ handle.tokenCanceled = true
        | .timedOut => ∃ info, handler.infos[ref]? = some info ∧
            info.timeoutAt < handler.utcNow
  removed : ∀ (index : Nat) (handle : AckHandle τ) (ref : Nat) (id : Int32)
    (status : AckStatus) (payload : Option Bytes),
    handler.handles[index]? = some handle → handle.task = .info ref →
      ⟨ref, .acked id status payload⟩ ∈ past →
        (∀ caller, firstAttempt past ref ≠ some ⟨ref, .canceled caller⟩) →
          .removing handle.id ∉ handler.tasks → handler.tryGetValue handle.id = none

/-- Where there is an attempt, there is a first one. -/
theorem exists_firstAttempt {past : List AckAttempt} {ref : Nat} {cause : AckCause}
    (made : ⟨ref, cause⟩ ∈ past) : ∃ first, firstAttempt past ref = some ⟨ref, first⟩ := by
  have some : (firstAttempt past ref).isSome := by
    rw [firstAttempt, List.find?_isSome]
    exact ⟨_, made, decide_eq_true rfl⟩
  obtain ⟨attempt, isFirst⟩ := Option.isSome_iff_exists.mp some
  have isRef := List.find?_some isFirst
  rw [decide_eq_true_eq] at isRef
  refine ⟨attempt.cause, ?_⟩
  rw [isFirst, ← isRef]

theorem Correlated.acksCorrelate {past : List AckAttempt}
    (correlated : Correlated context handler past) : AcksCorrelate context handler past where
  distinct := by
    rw [List.Nodup, List.pairwise_map, List.pairwise_iff_getElem]
    intro first second insideFirst insideSecond smaller same
    have sameIndex := correlated.index_unique (List.getElem?_eq_getElem insideFirst)
      (List.getElem?_eq_getElem insideSecond) same
    omega
  first index handle ref found task := by
    obtain ⟨info, present, -, sameKind⟩ := correlated.held index handle ref found (.inl task)
    rw [AckHandler.outcome, task, ← sameKind]
    simp only [present, Option.bind_some, correlated.first ref info present, Option.map_map]
    rfl
  own index handle ref found task attempt member isRef := by
    obtain ⟨info, present, own⟩ := correlated.own attempt member
    obtain ⟨other, also, sameId, -⟩ := correlated.held index handle ref found (.inl task)
    rw [isRef] at present own
    rw [present, Option.some.injEq] at also
    cases cause : attempt.cause with
    | acked ackId status payload =>
        rw [cause] at own
        exact Eq.trans own (also ▸ sameId)
    | canceled caller =>
        rw [cause] at own
        obtain ⟨holder, called, holds, canceled⟩ := own
        obtain ⟨same, here, holderId, -⟩ := correlated.held caller holder ref called (.inl holds)
        rw [present, Option.some.injEq] at here
        have isCaller : caller = index := by
          apply correlated.index_unique called found
          rw [← holderId, ← here, also, sameId]
        rw [isCaller, found, Option.some.injEq] at called
        exact ⟨isCaller, called ▸ canceled⟩
    | timedOut =>
        rw [cause] at own
        exact ⟨info, present, own⟩
  removed index handle ref ackId status payload found task acked notToken gone := by
    obtain ⟨info, present, sameId, -⟩ := correlated.held index handle ref found (.inl task)
    cases stored : handler.tryGetValue handle.id with
    | none => rfl
    | some other =>
        exfalso
        have member := mem_acks_of_tryGetValue stored
        obtain ⟨entry, here, entryId⟩ := correlated.stored _ member
        have sameRef : other = ref := correlated.ref_unique here present
          (entryId.trans sameId.symm)
        rw [← sameId, sameRef] at member
        obtain ⟨cause, first⟩ := exists_firstAttempt acked
        cases cause with
        | acked firstId firstStatus firstPayload =>
            have removing :=
              correlated.removed ref info firstId firstStatus firstPayload present first member
            rw [sameId] at removing
            exact gone removing
        | canceled caller => exact notToken caller first
        | timedOut =>
            have timed : ⟨ref, .timedOut⟩ ∈ past := List.mem_of_find?_eq_some first
            exact correlated.withdrawn ref (.inr timed) _ member

/-- In a handler that is used for single acks and not disposed, with fewer than
`2 ^ 32` ids: acks, tokens and timeouts complete the tasks of their own ids, the
first of them decides, a completed task stays as it is, an id that is acked is
removed unless its token has come first, and a step about one id leaves every
other id alone. -/
theorem acks_correlate (context : AckContext τ) {actions : List AckAction}
    {final : AckHandler τ} (single : ∀ action ∈ actions, SingleAck action)
    (ran : run (ackStep context) {} actions = some final)
    (few : final.handles.length < 2 ^ 32) :
    AcksCorrelate context final (outputs (ackStep context) attempts {} actions) ∧
      ∀ before action after handler next, actions = before ++ action :: after →
        run (ackStep context) {} before = some handler →
          ackStep context handler action = some next →
            ∀ (index : Nat) (handle : AckHandle τ), handler.handles[index]? = some handle →
              (∀ outcome, handler.outcome handle = some outcome →
                ∃ later, final.handles[index]? = some later ∧
                  final.outcome later = some outcome) ∧
              (target handler action ≠ some handle.id →
                Untouched handler next index handle) := by
  have fewer : ∀ {state next : AckHandler τ} {action : AckAction},
      ackStep context state action = some next → next.handles.length < 2 ^ 32 →
        state.handles.length < 2 ^ 32 := by
    intro state next action stepped small
    exact Nat.lt_of_le_of_lt (Grows.step stepped).handles_length small
  have invariant : ∀ {actions : List AckAction} {final : AckHandler τ},
      (∀ action ∈ actions, SingleAck action) →
        run (ackStep context) {} actions = some final → final.handles.length < 2 ^ 32 →
          Correlated context final ([] ++ outputs (ackStep context) attempts {} actions) := by
    intro actions final single ran few
    apply run_outputs fewer _ (Correlated.initial context) single ran few
    intro state action next past correlated single few stepped
    exact correlated.step single few stepped
  refine ⟨(invariant single ran few).acksCorrelate, ?_⟩
  intro before action after handler next split earlier stepped index handle found
  rw [split] at ran single
  obtain ⟨middle, first, rest⟩ := run_append.1 ran
  rw [earlier, Option.some.injEq] at first
  rw [← first] at rest
  have grows : Grows handler final := .run rest
  have correlated := invariant
    (fun other member => single other (List.mem_append_left _ member)) earlier
    (Nat.lt_of_le_of_lt grows.handles_length few)
  constructor
  · intro outcome completed
    exact grows.outcome found completed
  · intro other
    have isSingle := single action (List.mem_append_right _ List.mem_cons_self)
    exact correlated.untouched isSingle stepped found other

instance (action : AckAction) : Decidable (SingleAck action) :=
  match action with
  | .create kind _ => inferInstanceAs (Decidable (kind ≠ .multi))
  | .setExpectedCount _ _ | .dispose | .disposeAck _ => .isFalse id
  | .getOrAdd _ | .register _ | .cancelToken _ | .triggerAck _ _ _ | .sweep | .checkAck _ _
  | .resume _ | .tick => .isTrue trivial

/-- One call is acked twice and cancelled afterwards, the other is cancelled, and
an ack for nobody comes in between. -/
theorem acks_correlate_duplicate :
    ∃ final : AckHandler (List String),
      run (ackStep queryAckContext) {}
          [.create .singleStatus none, .create .singlePayload none, .getOrAdd 1, .getOrAdd 0,
            .register 0, .triggerAck 1 .ok none, .triggerAck 1 .notFound none,
            .triggerAck 7 .ok none, .cancelToken 1, .resume 0, .resume 0, .cancelToken 0,
            .register 1, .resume 0] = some final ∧
        final.handles.map final.outcome =
          [some (.status .ok), some (.faulted (.aggregate .taskCanceled))] ∧
        AcksCorrelate queryAckContext final
          [⟨1, .acked 1 .ok none⟩, ⟨1, .acked 1 .notFound none⟩, ⟨1, .canceled 0⟩,
            ⟨0, .canceled 1⟩] := by
  have ran : run (ackStep queryAckContext) {}
      [.create .singleStatus none, .create .singlePayload none, .getOrAdd 1, .getOrAdd 0,
        .register 0, .triggerAck 1 .ok none, .triggerAck 1 .notFound none,
        .triggerAck 7 .ok none, .cancelToken 1, .resume 0, .resume 0, .cancelToken 0,
        .register 1, .resume 0] =
      some
        { nextId := 2
          infos := [{ id := 2, kind := .singlePayload, timeoutAt := 10000,
                      outcome := some .canceled },
            { id := 1, kind := .singleStatus, timeoutAt := 10000,
              outcome := some (.status .ok) }]
          acks := [(2, 0)]
          handles := [{ id := 1, kind := .singleStatus, task := .info 1, tokenCanceled := true },
            { id := 2, kind := .singlePayload, task := .info 0, tokenCanceled := true }]
          log := [.acked 1 1 .ok, .acked 1 1 .notFound, .canceled 1, .canceled 0] } := by decide
  exact ⟨_, ran, rfl, (acks_correlate queryAckContext (by decide) ran (by decide)).1⟩

/-- An ack behind the cancellation of its token: `TrySetResult` is false, and the thread that acks
has come to its end without `TryRemove`. -/
theorem acked_id_stays_stored :
    ∃ final : AckHandler (List String),
      run (ackStep queryAckContext) {}
          [.create .singleStatus none, .getOrAdd 0, .register 0, .cancelToken 0,
            .triggerAck 1 .ok none, .resume 0] = some final ∧
        .acked 1 0 .ok ∈ final.log ∧ final.tasks = [] ∧ final.tryGetValue 1 = some 0 := by
  have ran : run (ackStep queryAckContext) {}
      [.create .singleStatus none, .getOrAdd 0, .register 0, .cancelToken 0,
        .triggerAck 1 .ok none, .resume 0] =
      some
        { nextId := 1
          infos := [{ id := 1, kind := .singleStatus, timeoutAt := 10000,
                      outcome := some .canceled }]
          acks := [(1, 0)]
          handles := [{ id := 1, kind := .singleStatus, task := .info 0, tokenCanceled := true }]
          log := [.canceled 0, .acked 1 0 .ok] } := by decide
  exact ⟨_, ran, by decide, rfl, rfl⟩

end AzureSignalR.Utilities
