import AzureSignalR.Utilities.AckIdentity

/-!
Contract: which ack, cancellation or timeout completes which task.

Owns: the attempts to complete a task that the steps of a handler make, and the
invariant that every task has the outcome of the first attempt made for it,
and that every attempt is made for the task of its own id.

Does not own: multi acks and the disposal of the handler.
-/

set_option autoImplicit false

namespace AzureSignalR.Utilities

open Library Library.Machine

variable {τ : Type} {context : AckContext τ} {handler next : AckHandler τ}

/-! ## Attempts -/

/-- Why a task is to be completed. -/
inductive AckCause where
  | acked (id : Int32) (status : AckStatus) (payload : Option Bytes)
  /-- By the token of the call. -/
  | canceled (index : Nat)
  | timedOut
deriving DecidableEq, Repr

def AckCause.outcome (context : AckContext τ) (kind : AckKind) : AckCause → AckOutcome τ
  | .acked _ status payload => ackOutcome context kind status payload
  | .canceled _ => .canceled
  | .timedOut => ackOutcome context kind .timeout none

/-- A call of `TrySetResult`, `TrySetException` or `TrySetCanceled`. -/
structure AckAttempt where
  ref : Nat
  cause : AckCause
deriving DecidableEq, Repr

/-- The attempts of a step, in a handler without multi acks. -/
def attempts (handler : AckHandler τ) : AckAction → List AckAttempt
  | .register index =>
      match handler.handles[index]? with
      | none => []
      | some handle =>
          match handle.task with
          | .registering ref => if handle.tokenCanceled then [⟨ref, .canceled index⟩] else []
          | .creating _ | .info _ | .completed _ | .threw _ => []
  | .cancelToken index =>
      match handler.handles[index]? with
      | none => []
      | some handle =>
          match handle.task with
          | .info ref => [⟨ref, .canceled index⟩]
          | .creating _ | .registering _ | .completed _ | .threw _ => []
  | .resume thread =>
      match handler.tasks[thread]? with
      | some (.acking id ref status payload) => [⟨ref, .acked id status payload⟩]
      | some (.timingOut ref) => [⟨ref, .timedOut⟩]
      | some (.completing _ _ _) | some (.removing _) | some (.counting _ _ _)
      | some (.expiring _ _) | some (.forcing _) | some (.disposing _ _) | some (.canceling _)
      | none => []
  | .create _ _ | .getOrAdd _ | .triggerAck _ _ _ | .setExpectedCount _ _ | .sweep
  | .checkAck _ _ | .dispose | .disposeAck _ | .tick => []

/-- The action of a handler that is used for single acks and not disposed. -/
def SingleAck : AckAction → Prop
  | .create kind _ => kind ≠ .multi
  | .setExpectedCount _ _ | .dispose | .disposeAck _ => False
  | .getOrAdd _ | .register _ | .cancelToken _ | .triggerAck _ _ _ | .sweep | .checkAck _ _
  | .resume _ | .tick => True

/-- The id a step is about. -/
def target (handler : AckHandler τ) : AckAction → Option Int32
  | .getOrAdd index | .register index | .cancelToken index =>
      (handler.handles[index]?).map AckHandle.id
  | .triggerAck id _ _ | .setExpectedCount id _ | .checkAck _ id | .disposeAck id => some id
  | .resume thread =>
      match handler.tasks[thread]? with
      | some (.acking id _ _ _) | some (.completing id _ _) | some (.removing id)
      | some (.counting id _ _) | some (.expiring id _) | some (.disposing id _) => some id
      | some (.timingOut ref) | some (.forcing ref) | some (.canceling ref) =>
          (handler.infos[ref]?).map AckInfo.id
      | none => none
  | .create _ _ | .sweep | .dispose | .tick => none

/-! ## Invariant -/

/-- The first attempt for an info. -/
def firstAttempt (past : List AckAttempt) (ref : Nat) : Option AckAttempt :=
  past.find? fun attempt => attempt.ref = ref

/-- The cause is one of the info's own. -/
def AckCause.Own (handler : AckHandler τ) (ref : Nat) (info : AckInfo τ) : AckCause → Prop
  | .acked id _ _ => id = info.id
  | .canceled index => ∃ handle : AckHandle τ, handler.handles[index]? = some handle ∧
      handle.task = .info ref ∧ handle.tokenCanceled = true
  | .timedOut => info.timeoutAt < handler.utcNow

/-- What a thread of a handler for single acks relies on. -/
def TaskOwn (handler : AckHandler τ) : AckTask → Prop
  | .acking id ref _ _ => handler.Has ref id
  | .removing id => ∃ ref, handler.Has ref id
  | .expiring id ref => ∃ info, handler.infos[ref]? = some info ∧ info.id = id ∧
      info.timeoutAt < handler.utcNow
  | .timingOut ref => ∃ info, handler.infos[ref]? = some info ∧ info.timeoutAt < handler.utcNow
  | .completing _ _ _ | .counting _ _ _ | .forcing _ | .disposing _ _ | .canceling _ => False

structure Correlated (context : AckContext τ) (handler : AckHandler τ)
    (past : List AckAttempt) : Prop extends Identified handler where
  clock : ∀ time ∈ handler.sweeps, time ≤ handler.utcNow
  single : ∀ handle ∈ handler.handles, handle.kind ≠ .multi
  tasks : ∀ task ∈ handler.tasks, TaskOwn handler task
  first : ∀ (ref : Nat) (info : AckInfo τ), handler.infos[ref]? = some info →
    info.outcome = (firstAttempt past ref).map fun attempt =>
      attempt.cause.outcome context info.kind
  own : ∀ attempt ∈ past, ∃ info, handler.infos[attempt.ref]? = some info ∧
    attempt.cause.Own handler attempt.ref info
  removed : ∀ (ref : Nat) (info : AckInfo τ) (id : Int32) (status : AckStatus)
    (payload : Option Bytes), handler.infos[ref]? = some info →
      firstAttempt past ref = some ⟨ref, .acked id status payload⟩ →
        (info.id, ref) ∈ handler.acks → .removing info.id ∈ handler.tasks
  /-- A sweep takes an info out of the store before it times it out. -/
  withdrawn : ∀ ref, .timingOut ref ∈ handler.tasks ∨ ⟨ref, .timedOut⟩ ∈ past →
    ∀ id, (id, ref) ∉ handler.acks

theorem AckCause.Own.mono {cause : AckCause} {ref : Nat} {info after : AckInfo τ}
    (own : cause.Own handler ref info) (grows : Grows handler next) (sameId : after.id = info.id)
    (sameTime : after.timeoutAt = info.timeoutAt) : cause.Own next ref after := by
  cases cause with
  | acked ackId => exact Eq.trans own sameId.symm
  | canceled index =>
      obtain ⟨handle, found, task, canceled⟩ := own
      obtain ⟨later, present, -, -, keptToken, keptTask⟩ := grows.called index handle found
      refine ⟨later, present, ?_, keptToken canceled⟩
      rw [keptTask (by rw [task]; rfl), task]
  | timedOut =>
      change after.timeoutAt < next.utcNow
      rw [sameTime]
      exact Nat.lt_of_lt_of_le own grows.clock

theorem TaskOwn.mono {task : AckTask} (own : TaskOwn handler task) (grows : Grows handler next) :
    TaskOwn next task := by
  cases task with
  | acking => exact grows.has own
  | removing =>
      obtain ⟨ref, has⟩ := own
      exact ⟨ref, grows.has has⟩
  | expiring ackId ref =>
      obtain ⟨info, found, sameId, late⟩ := own
      obtain ⟨after, present, keptId, -, keptTime, -⟩ := grows.kept ref info found
      refine ⟨after, present, keptId.trans sameId, ?_⟩
      rw [keptTime]
      exact Nat.lt_of_lt_of_le late grows.clock
  | timingOut ref =>
      obtain ⟨info, found, late⟩ := own
      obtain ⟨after, present, -, -, keptTime, -⟩ := grows.kept ref info found
      refine ⟨after, present, ?_⟩
      rw [keptTime]
      exact Nat.lt_of_lt_of_le late grows.clock
  | completing | counting | forcing | disposing | canceling => exact own.elim

theorem TaskOwn.known {task : AckTask} (own : TaskOwn handler task) :
    TaskKnown handler task := by
  cases task with
  | acking | removing => exact own
  | expiring ackId ref =>
      obtain ⟨info, found, sameId, -⟩ := own
      exact ⟨info, found, sameId⟩
  | timingOut ref =>
      obtain ⟨info, found, -⟩ := own
      exact (List.getElem?_eq_some_iff.mp found).1
  | completing | counting | forcing | disposing | canceling => exact own.elim

/-- A new attempt is the first when there was none. -/
theorem firstAttempt_concat (past : List AckAttempt) (attempt : AckAttempt) (ref : Nat) :
    firstAttempt (past ++ [attempt]) ref =
      (firstAttempt past ref).or (if attempt.ref = ref then some attempt else none) := by
  rw [firstAttempt, List.find?_append, firstAttempt]
  congr 1
  by_cases itself : attempt.ref = ref
  · rw [if_pos itself, List.find?_cons_of_pos (by simpa using itself)]
  · rw [if_neg itself, List.find?_cons_of_neg (by simpa using itself), List.find?_nil]

/-- `Ack` of a single ack. -/
theorem ack_single {ackId : Int32} {ref : Nat} {status : AckStatus} {payload : Option Bytes}
    {info : AckInfo τ} (found : handler.infos[ref]? = some info) (single : info.kind ≠ .multi) :
    handler.ack context ackId ref status payload =
      { handler with
        infos := if info.outcome = none then handler.infos.set ref
            { info with outcome := some (ackOutcome context info.kind status payload) }
          else handler.infos
        tasks := if info.outcome = none then handler.tasks ++ [.removing ackId]
          else handler.tasks
        log := handler.log ++ [.acked ackId ref status] } := by
  have here : (handler.record (.acked ackId ref status)).infos[ref]? = some info := found
  rw [AckHandler.ack, found]
  cases kind : info.kind with
  | multi => exact absurd kind single
  | singleStatus | singlePayload =>
      simp only [kind, complete_eq here]
      by_cases pending : info.outcome = none
      · simp [pending, AckHandler.spawn, AckHandler.record]
      · simp [pending, AckHandler.record]

theorem timeOut_single {ref : Nat} {info : AckInfo τ} (found : handler.infos[ref]? = some info)
    (single : info.kind ≠ .multi) :
    handler.timeOut context ref =
      (handler.complete ref (ackOutcome context info.kind .timeout none)).2 := by
  rw [AckHandler.timeOut, found]
  cases kind : info.kind with
  | multi => exact absurd kind single
  | singleStatus | singlePayload => simp only [kind]

namespace Correlated

variable {past : List AckAttempt}

theorem initial (context : AckContext τ) : Correlated context ({} : AckHandler τ) [] where
  toIdentified := .initial
  clock := by simp
  single := by simp
  tasks := by simp
  first := by simp
  own := by simp
  removed := by simp
  withdrawn := by simp

theorem single_info (correlated : Correlated context handler past) {ref : Nat}
    {info : AckInfo τ} (found : handler.infos[ref]? = some info) : info.kind ≠ .multi := by
  obtain ⟨index, handle, called, holds⟩ := correlated.owned ref info found
  obtain ⟨other, also, -, sameKind⟩ := correlated.held index handle ref called holds
  rw [found, Option.some.injEq] at also
  rw [also, sameKind]
  exact correlated.single handle (List.mem_of_getElem? called)

/-! ### Effects -/

theorem own_mono (correlated : Correlated context handler past) (grows : Grows handler next) :
    ∀ attempt ∈ past, ∃ info, next.infos[attempt.ref]? = some info ∧
      attempt.cause.Own next attempt.ref info := by
  intro attempt member
  obtain ⟨info, found, own⟩ := correlated.own attempt member
  obtain ⟨after, present, sameId, -, sameTime, -⟩ := grows.kept attempt.ref info found
  exact ⟨after, present, own.mono grows sameId sameTime⟩

theorem firstAttempt_eq_none (correlated : Correlated context handler past) {ref : Nat}
    (outside : handler.infos.length ≤ ref) : firstAttempt past ref = none := by
  rw [firstAttempt, List.find?_eq_none]
  intro attempt member
  obtain ⟨info, found, -⟩ := correlated.own attempt member
  obtain ⟨inside, -⟩ := List.getElem?_eq_some_iff.mp found
  simp only [decide_eq_true_eq]
  omega

/-- What a step does to the store and to the threads: entries only leave, and an
entry that a thread is to remove keeps its thread. -/
structure Releases (handler next : AckHandler τ) : Prop where
  acks : ∀ entry ∈ next.acks, entry ∈ handler.acks
  tasks : ∀ task ∈ next.tasks, task ∈ handler.tasks ∨ TaskOwn next task
  removing : ∀ id, .removing id ∈ handler.tasks →
    .removing id ∈ next.tasks ∨ ∀ ref, (id, ref) ∉ next.acks
  withdrawn : ∀ ref, .timingOut ref ∈ next.tasks →
    .timingOut ref ∈ handler.tasks ∨ ∀ id, (id, ref) ∉ next.acks
  log : ∀ event ∈ next.log, event ∈ handler.log ∨ event.ref < next.infos.length

/-- What `Identified` asks of a step that leaves the calls alone. -/
theorem identified_of_releases (correlated : Correlated context handler past)
    (grows : Grows handler next) (disposed : next.disposed = handler.disposed)
    (nextId : next.nextId = handler.nextId) (handles : next.handles = handler.handles)
    (infos : next.infos.length = handler.infos.length) (releases : Releases handler next) :
    Identified next := by
  refine correlated.of_calls grows disposed nextId handles infos releases.acks ?_ releases.log
  intro task member
  exact (releases.tasks task member).imp id TaskOwn.known

theorem withdrawn_of_releases (correlated : Correlated context handler past)
    (releases : Releases handler next) {ref : Nat}
    (gone : .timingOut ref ∈ next.tasks ∨ ⟨ref, .timedOut⟩ ∈ past) (id : Int32) :
    (id, ref) ∉ next.acks := by
  have before (gone : .timingOut ref ∈ handler.tasks ∨ ⟨ref, .timedOut⟩ ∈ past) :
      (id, ref) ∉ next.acks :=
    fun stored => correlated.withdrawn ref gone id (releases.acks _ stored)
  rcases gone with timing | timed
  · rcases releases.withdrawn ref timing with earlier | now
    · exact before (.inl earlier)
    · exact now id
  · exact before (.inr timed)

/-- A step that leaves infos and calls alone. -/
theorem of_same (correlated : Correlated context handler past)
    (disposed : next.disposed = handler.disposed) (nextId : next.nextId = handler.nextId)
    (infos : next.infos = handler.infos) (handles : next.handles = handler.handles)
    (clock : handler.utcNow ≤ next.utcNow) (sweeps : ∀ time ∈ next.sweeps, time ≤ next.utcNow)
    (log : ∀ event ∈ handler.log, event ∈ next.log) (releases : Releases handler next) :
    Correlated context next past := by
  have grows : Grows handler next :=
    .of_same log (fun isDisposed => disposed.trans isDisposed) infos handles clock
  constructor
  · exact correlated.identified_of_releases grows disposed nextId handles
      (congrArg List.length infos) releases
  · exact sweeps
  · rw [handles]
    exact correlated.single
  · intro task member
    rcases releases.tasks task member with earlier | own
    · exact (correlated.tasks task earlier).mono grows
    · exact own
  · rw [infos]
    exact correlated.first
  · exact correlated.own_mono grows
  · rw [infos]
    intro ref info ackId status payload found first stored
    have removing := correlated.removed ref info ackId status payload found first
      (releases.acks _ stored)
    rcases releases.removing info.id removing with stays | gone
    · exact stays
    · exact absurd stored (gone ref)
  · exact fun ref => correlated.withdrawn_of_releases releases

/-- An attempt: the info is completed unless it was before. An ack that completes
it goes on to remove it. -/
theorem attempt (correlated : Correlated context handler past) {ref : Nat} {info : AckInfo τ}
    {cause : AckCause} (found : handler.infos[ref]? = some info)
    (own : cause.Own handler ref info) (disposed : next.disposed = handler.disposed)
    (nextId : next.nextId = handler.nextId)
    (infos : next.infos = if info.outcome = none then
      handler.infos.set ref { info with outcome := some (cause.outcome context info.kind) }
      else handler.infos)
    (handles : next.handles = handler.handles) (clock : next.utcNow = handler.utcNow)
    (sweeps : next.sweeps = handler.sweeps) (grows : Grows handler next)
    (releases : Releases handler next)
    (acked : ∀ id status payload, cause = .acked id status payload → info.outcome = none →
      .removing info.id ∈ next.tasks)
    (withdrawn : cause = .timedOut → ∀ id, (id, ref) ∉ next.acks) :
    Correlated context next (past ++ [⟨ref, cause⟩]) := by
  obtain ⟨inside, -⟩ := List.getElem?_eq_some_iff.mp found
  -- Whatever the attempt does to the outcome, it is the one of the first attempt.
  have outcomes : ∀ (other : Nat) (after : AckInfo τ), next.infos[other]? = some after →
      ∃ before, handler.infos[other]? = some before ∧ after.id = before.id ∧
        after.kind = before.kind ∧ after.outcome = before.outcome.or
          (if ref = other then some (cause.outcome context before.kind) else none) := by
    intro other after present
    rw [infos] at present
    by_cases pending : info.outcome = none
    · rw [if_pos pending, List.getElem?_set] at present
      by_cases itself : ref = other
      · rw [if_pos itself, if_pos (itself ▸ inside), Option.some.injEq] at present
        rw [← itself, ← present]
        exact ⟨info, found, rfl, rfl, by simp [pending]⟩
      · rw [if_neg itself] at present
        exact ⟨after, present, rfl, rfl, by simp [itself]⟩
    · rw [if_neg pending] at present
      refine ⟨after, present, rfl, rfl, ?_⟩
      by_cases itself : ref = other
      · rw [← itself, found, Option.some.injEq] at present
        rw [← present]
        exact (Option.or_of_isSome (Option.isSome_iff_ne_none.mpr pending)).symm
      · simp [itself]
  have sameLength : next.infos.length = handler.infos.length := by
    rw [infos]
    split_ifs
    · exact List.length_set
    · rfl
  constructor
  · exact correlated.identified_of_releases grows disposed nextId handles sameLength releases
  · rw [sweeps, clock]
    exact correlated.clock
  · rw [handles]
    exact correlated.single
  · intro task member
    rcases releases.tasks task member with earlier | taskOwn
    · exact (correlated.tasks task earlier).mono grows
    · exact taskOwn
  · intro other after present
    obtain ⟨before, earlier, -, sameKind, outcome⟩ := outcomes other after present
    rw [outcome, correlated.first other before earlier, firstAttempt_concat, sameKind]
    cases firstAttempt past other with
    | some attempt => rfl
    | none =>
        by_cases itself : ref = other
        · simp [itself]
        · simp [itself]
  · intro attempt member
    rcases List.mem_append.mp member with earlier | itself
    · exact correlated.own_mono grows attempt earlier
    · obtain ⟨after, later, keptId, -, keptTime, -⟩ := grows.kept ref info found
      rw [List.mem_singleton.mp itself]
      exact ⟨after, later, own.mono grows keptId keptTime⟩
  · intro other after ackId status payload present first stored
    obtain ⟨before, earlier, sameId, -, -⟩ := outcomes other after present
    rw [sameId] at stored ⊢
    rw [firstAttempt_concat] at first
    cases before_first : firstAttempt past other with
    | some attempt =>
        rw [before_first, Option.some_or, Option.some.injEq] at first
        have removing := correlated.removed other before ackId status payload earlier
          (before_first.trans (congrArg some first)) (releases.acks _ stored)
        rcases releases.removing before.id removing with stays | gone
        · exact stays
        · exact absurd stored (gone other)
    | none =>
        rw [before_first, Option.none_or] at first
        split_ifs at first with itself
        rw [Option.some.injEq, AckAttempt.mk.injEq] at first
        rw [← itself, found, Option.some.injEq] at earlier
        have pending : info.outcome = none := by
          rw [correlated.first ref info found, first.1, before_first]
          rfl
        rw [← earlier]
        exact acked ackId status payload first.2 pending
  · rintro other (timing | timed)
    · exact correlated.withdrawn_of_releases releases (.inl timing)
    · rcases List.mem_append.mp timed with earlier | itself
      · exact correlated.withdrawn_of_releases releases (.inr earlier)
      · rw [List.mem_singleton, AckAttempt.mk.injEq] at itself
        rw [itself.1]
        exact withdrawn itself.2.symm

/-- A call goes on with the infos it had. -/
theorem modifyHandle (correlated : Correlated context handler past) {index : Nat}
    {handle : AckHandle τ} {change : AckHandle τ → AckHandle τ}
    (found : handler.handles[index]? = some handle)
    (identified : Identified { handler with handles := handler.handles.modify index change })
    (grows : Grows handler { handler with handles := handler.handles.modify index change })
    (keptKind : (change handle).kind = handle.kind) :
    Correlated context { handler with handles := handler.handles.modify index change } past := by
  constructor
  · exact identified
  · exact correlated.clock
  · intro result member
    obtain ⟨other, present⟩ := List.mem_iff_getElem?.mp member
    rcases getElem?_modify_cases found present with ⟨-, earlier⟩ | ⟨-, rfl⟩
    · exact correlated.single result (List.mem_of_getElem? earlier)
    · rw [keptKind]
      exact correlated.single handle (List.mem_of_getElem? found)
  · exact fun task member => (correlated.tasks task member).mono grows
  · exact correlated.first
  · exact correlated.own_mono grows
  · exact correlated.removed
  · exact correlated.withdrawn

/-- A sweep times out only what there is. -/
theorem inside_of_gone (correlated : Correlated context handler past) {ref : Nat}
    (gone : .timingOut ref ∈ handler.tasks ∨ ⟨ref, .timedOut⟩ ∈ past) :
    ref < handler.infos.length := by
  rcases gone with timing | timed
  · obtain ⟨info, found, -⟩ := correlated.tasks _ timing
    exact (List.getElem?_eq_some_iff.mp found).1
  · obtain ⟨info, found, -⟩ := correlated.own _ timed
    exact (List.getElem?_eq_some_iff.mp found).1

theorem getOrAdd (correlated : Correlated context handler past) {index timeout : Nat}
    {handle : AckHandle τ} (found : handler.handles[index]? = some handle)
    (creating : handle.task = .creating timeout) :
    Correlated context (handler.getOrAdd index handle timeout) past := by
  have single := correlated.single handle (List.mem_of_getElem? found)
  have grows : Grows handler (handler.getOrAdd index handle timeout) := by
    apply Grows.getOrAdd found
    rw [creating]
    rfl
  have identified := correlated.toIdentified.getOrAdd found creating
  rw [correlated.getOrAdd_eq found creating] at grows identified ⊢
  constructor
  · exact identified
  · exact correlated.clock
  · intro result member
    obtain ⟨other, present⟩ := List.mem_iff_getElem?.mp member
    rcases getElem?_modify_cases found present with ⟨-, earlier⟩ | ⟨-, rfl⟩
    · exact correlated.single result (List.mem_of_getElem? earlier)
    · exact single
  · exact fun task member => (correlated.tasks task member).mono grows
  · intro ref info present
    rcases getElem?_concat_cases present with earlier | ⟨rfl, rfl⟩
    · exact correlated.first ref info earlier
    · -- No attempt has been made for an info that did not exist.
      rw [correlated.firstAttempt_eq_none (Nat.le_refl _)]
      rfl
  · exact correlated.own_mono grows
  · intro ref info ackId status payload present first stored
    rcases getElem?_concat_cases present with earlier | ⟨rfl, -⟩
    · rcases List.mem_append.mp stored with before | itself
      · exact correlated.removed ref info ackId status payload earlier first before
      · have isNew := congrArg Prod.snd (List.mem_singleton.mp itself)
        obtain ⟨inside, -⟩ := List.getElem?_eq_some_iff.mp earlier
        exact absurd isNew (Nat.ne_of_lt inside)
    · rw [correlated.firstAttempt_eq_none (Nat.le_refl _)] at first
      cases first
  · intro ref gone id stored
    rcases List.mem_append.mp stored with before | itself
    · exact correlated.withdrawn ref gone id before
    · have isNew := congrArg Prod.snd (List.mem_singleton.mp itself)
      exact absurd isNew (Nat.ne_of_lt (correlated.inside_of_gone gone))

/-! ### Operations -/

theorem create (correlated : Correlated context handler past) {kind : AckKind}
    {ackTimeout : Option Nat} (single : kind ≠ .multi)
    (few : (handler.create context kind ackTimeout).handles.length < 2 ^ 32) :
    Correlated context (handler.create context kind ackTimeout) past := by
  have serving : ¬ handler.disposed = true := by
    rw [correlated.serving]
    exact Bool.false_ne_true
  have identified := correlated.toIdentified.create few
  have grows : Grows handler (handler.create context kind ackTimeout) :=
    .create handler kind ackTimeout
  rw [AckHandler.create, if_neg serving] at identified grows ⊢
  constructor
  · exact identified
  · exact correlated.clock
  · intro result member
    rcases List.mem_append.mp member with earlier | itself
    · exact correlated.single result earlier
    · rw [List.mem_singleton.mp itself]
      exact single
  · exact fun task member => (correlated.tasks task member).mono grows
  · exact correlated.first
  · exact correlated.own_mono grows
  · exact correlated.removed
  · exact correlated.withdrawn

/-- An attempt that is not an ack. -/
theorem complete (correlated : Correlated context handler past) {ref : Nat} {info : AckInfo τ}
    {cause : AckCause} (found : handler.infos[ref]? = some info)
    (own : cause.Own handler ref info)
    (notAcked : ∀ id status payload, cause ≠ .acked id status payload)
    (withdrawn : cause = .timedOut → ∀ id, (id, ref) ∉ handler.acks) :
    Correlated context (handler.complete ref (cause.outcome context info.kind)).2
      (past ++ [⟨ref, cause⟩]) := by
  have grows : Grows handler (handler.complete ref (cause.outcome context info.kind)).2 :=
    .complete handler ref _
  rw [complete_eq found] at grows ⊢
  apply correlated.attempt found own
  · rfl
  · rfl
  · rfl
  · rfl
  · rfl
  · rfl
  · exact grows
  · exact ⟨fun _ => id, fun _ => .inl, fun _ => .inl, fun _ => .inl, fun _ => .inl⟩
  · intro ackId status payload isAcked
    exact absurd isAcked (notAcked ackId status payload)
  · exact withdrawn

theorem record (correlated : Correlated context handler past) {event : AckEvent}
    (inside : event.ref < handler.infos.length) :
    Correlated context (handler.record event) past := by
  refine correlated.of_same rfl rfl rfl rfl (le_refl _) correlated.clock ?_ ?_
  · exact fun _ member => List.mem_append_left _ member
  · refine ⟨fun _ => id, fun _ => .inl, fun _ => .inl, fun _ => .inl, ?_⟩
    intro other member
    rcases List.mem_append.mp member with earlier | itself
    · exact .inl earlier
    · rw [List.mem_singleton.mp itself]
      exact .inr inside

theorem cancelByToken (correlated : Correlated context handler past) {index ref : Nat}
    {handle : AckHandle τ} (found : handler.handles[index]? = some handle)
    (task : handle.task = .info ref) (canceled : handle.tokenCanceled = true) :
    Correlated context (handler.cancelByToken ref) (past ++ [⟨ref, .canceled index⟩]) := by
  obtain ⟨info, present, -⟩ := correlated.held index handle ref found (.inl task)
  have own : (AckCause.canceled index).Own (handler.record (.canceled ref)) ref info :=
    ⟨handle, found, task, canceled⟩
  have inside := correlated.held_inside found (.inl task)
  have recorded : Correlated context (handler.record (.canceled ref)) past :=
    correlated.record inside
  exact recorded.complete present own (by simp) (by simp)

theorem register (correlated : Correlated context handler past) {index ref : Nat}
    {handle : AckHandle τ} (found : handler.handles[index]? = some handle)
    (task : handle.task = .registering ref) :
    Correlated context (handler.register index handle ref)
      (past ++ attempts handler (.register index)) := by
  have registered : Correlated context (handler.setTask index (.info ref)) past := by
    apply correlated.modifyHandle found
    · exact correlated.registered found task
    · apply Grows.setTask found
      rw [task]
      rfl
    · rfl
  have here : (handler.setTask index (.info ref)).handles[index]? =
      some { handle with task := .info ref } := by
    rw [AckHandler.setTask, List.getElem?_modify_eq, found]
    rfl
  rw [AckHandler.register, attempts, found]
  simp only [task]
  by_cases canceled : handle.tokenCanceled = true
  · rw [if_pos canceled, if_pos canceled]
    exact registered.cancelByToken here rfl canceled
  · rw [if_neg canceled, if_neg canceled, List.append_nil]
    exact registered

theorem cancelToken (correlated : Correlated context handler past) {index : Nat}
    {handle : AckHandle τ} (found : handler.handles[index]? = some handle) :
    Correlated context (handler.cancelToken index handle)
      (past ++ attempts handler (.cancelToken index)) := by
  have canceled : Correlated context
      { handler with handles := handler.handles.modify index fun handle =>
        { handle with tokenCanceled := true } } past := by
    apply correlated.modifyHandle found
    · exact correlated.tokenCanceled found
    · exact .modifyHandle found rfl rfl (fun _ => rfl) fun _ => rfl
    · rfl
  rw [AckHandler.cancelToken, attempts, found]
  cases task : handle.task with
  | info ref =>
      have single := correlated.single handle (List.mem_of_getElem? found)
      simp only [task, if_neg single]
      have here : (handler.handles.modify index fun handle =>
          { handle with tokenCanceled := true })[index]? =
            some { handle with tokenCanceled := true } := by
        rw [List.getElem?_modify_eq, found]
        rfl
      exact canceled.cancelByToken here task rfl
  | creating | registering | completed | threw =>
      simp only [task, List.append_nil]
      exact canceled

/-- A thread begins. -/
theorem spawn (correlated : Correlated context handler past) {task : AckTask}
    (own : TaskOwn handler task)
    (withdrawn : ∀ ref, task = .timingOut ref → ∀ id, (id, ref) ∉ handler.acks) :
    Correlated context (handler.spawn task) past := by
  refine correlated.of_same rfl rfl rfl rfl (le_refl _) correlated.clock (fun _ => id) ?_
  refine ⟨fun _ => id, ?_, fun _ member => .inl (List.mem_append_left _ member), ?_,
    fun _ => .inl⟩
  · intro other member
    rcases List.mem_append.mp member with earlier | itself
    · exact .inl earlier
    · rw [List.mem_singleton.mp itself]
      exact .inr (own.mono (.spawn handler task))
  · intro ref member
    rcases List.mem_append.mp member with earlier | itself
    · exact .inl earlier
    · exact .inr (withdrawn ref (List.mem_singleton.mp itself).symm)

theorem tryRemove (correlated : Correlated context handler past) (ackId : Int32) :
    Correlated context (handler.tryRemove ackId).2 past := by
  refine correlated.of_same rfl rfl rfl rfl (le_refl _) correlated.clock (fun _ => id) ?_
  exact ⟨fun _ => List.mem_of_mem_filter, fun _ => .inl, fun _ => .inl, fun _ => .inl,
    fun _ => .inl⟩

theorem triggerAck (correlated : Correlated context handler past) (ackId : Int32)
    (status : AckStatus) (payload : Option Bytes) :
    Correlated context (handler.triggerAck ackId status payload) past := by
  rw [AckHandler.triggerAck]
  cases stored : handler.tryGetValue ackId with
  | none => exact correlated
  | some ref =>
      exact correlated.spawn (correlated.stored _ (mem_acks_of_tryGetValue stored)) (by simp)

/-- `Ack` of a single ack: when it completes the task, the thread goes on to
remove the entry. -/
theorem ack (correlated : Correlated context handler past) {ackId : Int32} {ref : Nat}
    (status : AckStatus) (payload : Option Bytes) (has : handler.Has ref ackId) :
    Correlated context (handler.ack context ackId ref status payload)
      (past ++ [⟨ref, .acked ackId status payload⟩]) := by
  obtain ⟨info, found, sameId⟩ := has
  have grows : Grows handler (handler.ack context ackId ref status payload) :=
    .ack handler ackId ref status payload
  have single : info.kind ≠ .multi := correlated.single_info found
  rw [ack_single found single] at grows ⊢
  apply correlated.attempt found
  · exact sameId.symm
  · rfl
  · rfl
  · rfl
  · rfl
  · rfl
  · rfl
  · exact grows
  · refine ⟨fun _ => id, ?_, ?_, ?_, ?_⟩
    · intro task member
      dsimp only at member
      split_ifs at member
      · rcases List.mem_append.mp member with earlier | itself
        · exact .inl earlier
        · rw [List.mem_singleton.mp itself]
          exact .inr ⟨ref, grows.has ⟨info, found, sameId⟩⟩
      · exact .inl member
    · intro other member
      dsimp only
      split_ifs
      · exact .inl (List.mem_append_left _ member)
      · exact .inl member
    · intro other member
      dsimp only at member
      split_ifs at member
      · exact .inl (by simpa using member)
      · exact .inl member
    · intro event member
      rcases List.mem_append.mp member with earlier | itself
      · exact .inl earlier
      · rw [List.mem_singleton.mp itself]
        obtain ⟨inside, -⟩ := List.getElem?_eq_some_iff.mp found
        exact .inr (Nat.lt_of_lt_of_le inside grows.infos_length)
  · intro _ _ _ _ pending
    dsimp only
    rw [if_pos pending, sameId]
    exact List.mem_append_right _ List.mem_cons_self
  · nofun

theorem checkAck (correlated : Correlated context handler past) {utcNow : Nat} {ackId : Int32}
    (earlier : utcNow ≤ handler.utcNow) :
    Correlated context (handler.checkAck utcNow ackId) past := by
  rw [AckHandler.checkAck]
  cases stored : handler.tryGetValue ackId with
  | none => exact correlated
  | some ref =>
      obtain ⟨info, found, sameId⟩ := correlated.stored _ (mem_acks_of_tryGetValue stored)
      simp only [found]
      split_ifs with late
      · have recorded : Correlated context (handler.record (.expired ref)) past :=
          correlated.record (List.getElem?_eq_some_iff.mp found).1
        apply recorded.spawn
        · exact ⟨info, found, sameId, Nat.lt_of_lt_of_le late earlier⟩
        · simp
      · exact correlated

theorem timeOut (correlated : Correlated context handler past) {ref : Nat}
    (own : TaskOwn handler (.timingOut ref)) (withdrawn : ∀ id, (id, ref) ∉ handler.acks) :
    Correlated context (handler.timeOut context ref) (past ++ [⟨ref, .timedOut⟩]) := by
  obtain ⟨info, found, late⟩ := own
  have completed : Correlated context
      (handler.complete ref (AckCause.timedOut.outcome context info.kind)).2
      (past ++ [⟨ref, .timedOut⟩]) :=
    correlated.complete found late (by simp) fun _ => withdrawn
  rw [timeOut_single found (correlated.single_info found)]
  exact completed

/-- A sweep goes on only when it has removed the entry itself. -/
theorem removeThen (correlated : Correlated context handler past) {ackId : Int32} {ref : Nat}
    (has : handler.Has ref ackId) (own : TaskOwn handler (.timingOut ref)) :
    Correlated context
      (match handler.tryRemove ackId with
      | (true, removed) => removed.spawn (.timingOut ref)
      | (false, removed) => removed) past := by
  have removed := correlated.tryRemove ackId
  have gone : ∀ id, (id, ref) ∉ (handler.tryRemove ackId).2.acks := by
    intro id stored
    obtain ⟨info, found, isId⟩ := correlated.stored _ (List.mem_of_mem_filter stored)
    obtain ⟨also, present, isAckId⟩ := has
    rw [found, Option.some.injEq] at present
    have differs := List.of_mem_filter stored
    rw [← present, isId] at isAckId
    simp only [decide_not, Bool.not_eq_true', decide_eq_false_iff_not] at differs
    exact differs isAckId
  split
  next after won =>
    have grows := Grows.tryRemove handler ackId
    rw [won] at removed grows gone
    refine removed.spawn (own.mono grows) ?_
    rintro other isTask
    rw [← AckTask.timingOut.inj isTask]
    exact gone
  next after lost =>
    rw [lost] at removed
    exact removed

/-! ### Steps -/

/-- The thread of a step has left the list of threads. -/
theorem eraseTask (correlated : Correlated context handler past) {thread : Nat} {task : AckTask}
    (found : handler.tasks[thread]? = some task) (stays : ∀ id, task ≠ .removing id) :
    Correlated context { handler with tasks := handler.tasks.eraseIdx thread } past := by
  refine correlated.of_same rfl rfl rfl rfl (le_refl _) correlated.clock (fun _ => id) ?_
  refine ⟨fun _ => id, fun _ member => .inl (List.mem_of_mem_eraseIdx member), ?_,
    fun _ member => .inl (List.mem_of_mem_eraseIdx member), fun _ => .inl⟩
  intro ackId member
  left
  rw [List.mem_eraseIdx_iff_getElem?]
  obtain ⟨other, present⟩ := List.mem_iff_getElem?.mp member
  refine ⟨other, ?_, present⟩
  rintro rfl
  rw [found, Option.some.injEq] at present
  exact stays ackId present

/-- `TryRemove` of a thread that an ack has sent. -/
theorem removing (correlated : Correlated context handler past) {thread : Nat} {ackId : Int32}
    (found : handler.tasks[thread]? = some (.removing ackId)) :
    Correlated context
      ({ handler with tasks := handler.tasks.eraseIdx thread }.tryRemove ackId).2 past := by
  refine correlated.of_same rfl rfl rfl rfl (le_refl _) correlated.clock (fun _ => id) ?_
  refine ⟨fun _ => List.mem_of_mem_filter,
    fun _ member => .inl (List.mem_of_mem_eraseIdx member), ?_,
    fun _ member => .inl (List.mem_of_mem_eraseIdx member), fun _ => .inl⟩
  intro other member
  by_cases same : other = ackId
  · right
    intro ref stored
    have differs := List.of_mem_filter stored
    simp [same] at differs
  · left
    obtain ⟨index, present⟩ := List.mem_iff_getElem?.mp member
    refine List.mem_eraseIdx_iff_getElem?.mpr ⟨index, ?_, present⟩
    rintro rfl
    rw [found, Option.some.injEq, AckTask.removing.injEq] at present
    exact same present.symm

theorem resume (correlated : Correlated context handler past) {thread : Nat} {task : AckTask}
    (found : handler.tasks[thread]? = some task) :
    Correlated context
      ({ handler with tasks := handler.tasks.eraseIdx thread }.runTask context task)
      (past ++ attempts handler (.resume thread)) := by
  have own := correlated.tasks task (List.mem_of_getElem? found)
  have grows : Grows handler { handler with tasks := handler.tasks.eraseIdx thread } :=
    .of_same (fun _ => id) id rfl rfl (le_refl _)
  cases task with
  | acking ackId ref status payload =>
      simp only [attempts, found]
      exact (correlated.eraseTask found (by simp)).ack status payload own
  | removing ackId =>
      simp only [attempts, found, List.append_nil]
      exact correlated.removing found
  | expiring ackId ref =>
      simp only [attempts, found, List.append_nil]
      obtain ⟨info, present, sameId, late⟩ := own
      apply (correlated.eraseTask found (by simp)).removeThen
      · exact ⟨info, present, sameId⟩
      · exact ⟨info, present, late⟩
  | timingOut ref =>
      simp only [attempts, found]
      exact (correlated.eraseTask found (by simp)).timeOut (own.mono grows)
        (correlated.withdrawn ref (.inl (List.mem_of_getElem? found)))
  | completing | counting | forcing | disposing | canceling => exact own.elim

theorem step (correlated : Correlated context handler past) {action : AckAction}
    (single : SingleAck action) (few : next.handles.length < 2 ^ 32)
    (stepped : ackStep context handler action = some next) :
    Correlated context next (past ++ attempts handler action) := by
  cases action with
  | create kind ackTimeout =>
      rw [ackStep, Option.some.injEq] at stepped
      rw [← stepped] at few ⊢
      rw [attempts, List.append_nil]
      exact correlated.create single few
  | getOrAdd index =>
      rw [ackStep] at stepped
      rw [attempts, List.append_nil]
      cases found : handler.handles[index]? with
      | none => simp only [found, reduceCtorEq] at stepped
      | some handle =>
          cases task : handle.task with
          | creating timeout =>
              simp only [found, task, Option.some.injEq] at stepped
              rw [← stepped]
              exact correlated.getOrAdd found task
          | registering | info | completed | threw =>
              simp only [found, task, reduceCtorEq] at stepped
  | register index =>
      rw [ackStep] at stepped
      cases found : handler.handles[index]? with
      | none => simp only [found, reduceCtorEq] at stepped
      | some handle =>
          cases task : handle.task with
          | registering ref =>
              simp only [found, task, Option.some.injEq] at stepped
              rw [← stepped]
              exact correlated.register found task
          | creating | info | completed | threw =>
              simp only [found, task, reduceCtorEq] at stepped
  | cancelToken index =>
      rw [ackStep] at stepped
      cases found : handler.handles[index]? with
      | none => simp only [found, reduceCtorEq] at stepped
      | some handle =>
          simp only [found, Option.some.injEq] at stepped
          rw [← stepped]
          exact correlated.cancelToken found
  | triggerAck ackId status payload =>
      rw [ackStep, Option.some.injEq] at stepped
      rw [← stepped, attempts, List.append_nil]
      exact correlated.triggerAck ackId status payload
  | setExpectedCount | dispose | disposeAck => exact single.elim
  | sweep =>
      rw [ackStep] at stepped
      split_ifs at stepped
      rw [Option.some.injEq] at stepped
      rw [← stepped, attempts, List.append_nil]
      refine correlated.of_same rfl rfl rfl rfl (le_refl _) ?_ (fun _ => id) ?_
      · intro time member
        rcases List.mem_append.mp member with earlier | itself
        · exact correlated.clock time earlier
        · rw [List.mem_singleton.mp itself]
      · exact ⟨fun _ => id, fun _ => .inl, fun _ => .inl, fun _ => .inl, fun _ => .inl⟩
  | checkAck sweep ackId =>
      rw [ackStep] at stepped
      cases found : handler.sweeps[sweep]? with
      | none => simp only [found, reduceCtorEq] at stepped
      | some utcNow =>
          simp only [found, Option.some.injEq] at stepped
          rw [← stepped, attempts, List.append_nil]
          exact correlated.checkAck (correlated.clock utcNow (List.mem_of_getElem? found))
  | resume thread =>
      rw [ackStep] at stepped
      cases found : handler.tasks[thread]? with
      | none => simp only [found, reduceCtorEq] at stepped
      | some task =>
          simp only [found, Option.some.injEq] at stepped
          rw [← stepped]
          exact correlated.resume found
  | tick =>
      rw [ackStep, Option.some.injEq] at stepped
      rw [← stepped, attempts, List.append_nil]
      refine correlated.of_same rfl rfl rfl rfl (Nat.le_succ _) ?_ (fun _ => id) ?_
      · intro time member
        exact (correlated.clock time member).trans (Nat.le_succ _)
      · exact ⟨fun _ => id, fun _ => .inl, fun _ => .inl, fun _ => .inl, fun _ => .inl⟩

end Correlated

end AzureSignalR.Utilities
