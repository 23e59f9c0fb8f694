import AzureSignalR.Utilities.AckIdentity
import AzureSignalR.Utilities.MultiAck
import Mathlib.Data.List.Perm.Basic

/-!
Contract: multi acks in a handler.

Owns: the multi ack that a handler keeps for an info, and that every step of the
handler is a step of that multi ack or leaves it alone.

Does not own: the counting itself, which is the business of `MultiAck`, and the
disposal of the handler.
-/

set_option autoImplicit false

namespace AzureSignalR.Utilities

open Library Library.Machine

variable {τ : Type} {context : AckContext τ} {handler next : AckHandler τ}

/-! ## The multi ack of an info -/

def AckEvent.acks (ref : Nat) : AckEvent → Bool
  | .acked _ other _ => other = ref
  | .canceled _ | .expired _ => false

def AckEvent.expires (ref : Nat) : AckEvent → Bool
  | .expired other => other = ref
  | .acked _ _ _ | .canceled _ => false

def AckTask.completes (ref : Nat) : AckTask → Bool
  | .completing _ other _ => other = ref
  | .acking _ _ _ _ | .removing _ | .counting _ _ _ | .expiring _ _ | .timingOut _ | .forcing _
  | .disposing _ _ | .canceling _ => false

def AckTask.expires (ref : Nat) : AckTask → Bool
  | .expiring _ other => other = ref
  | .acking _ _ _ _ | .completing _ _ _ | .removing _ | .counting _ _ _ | .timingOut _
  | .forcing _ | .disposing _ _ | .canceling _ => false

namespace AckHandler

/-- The acks that have reached an info. -/
def applied (handler : AckHandler τ) (ref : Nat) : Nat :=
  handler.log.countP (AckEvent.acks ref)

def multiAck (handler : AckHandler τ) (ref : Nat) (info : AckInfo τ) : MultiAck where
  ackCount := info.ackCount
  expectedCount := info.expectedCount
  completed := info.outcome.isSome
  stored := (handler.tryGetValue info.id).isSome
  applied := handler.applied ref
  expired := handler.log.any (AckEvent.expires ref)
  completing := handler.tasks.countP (AckTask.completes ref)
  removing := handler.tasks.count (.removing info.id)
  expiring := handler.tasks.countP (AckTask.expires ref)
  timingOut := handler.tasks.count (.timingOut ref)
  forcing := handler.tasks.count (.forcing ref)

end AckHandler

/-- A thread at its place. -/
def MultiAck.with (ack : MultiAck) (ref : Nat) (id : Int32) (task : AckTask) : MultiAck :=
  { ack with
    completing := ack.completing + if task.completes ref then 1 else 0
    removing := ack.removing + if task = .removing id then 1 else 0
    expiring := ack.expiring + if task.expires ref then 1 else 0
    timingOut := ack.timingOut + if task = .timingOut ref then 1 else 0
    forcing := ack.forcing + if task = .forcing ref then 1 else 0 }

theorem multiAck_spawn (handler : AckHandler τ) (ref : Nat) (info : AckInfo τ)
    (task : AckTask) :
    (handler.spawn task).multiAck ref info =
      (handler.multiAck ref info).with ref info.id task := by
  simp [AckHandler.multiAck, AckHandler.spawn, MultiAck.with, AckHandler.tryGetValue,
    AckHandler.applied, List.countP_append, List.count_append, List.countP_singleton,
    List.count_singleton]

theorem multiAck_resume {thread : Nat} {task : AckTask}
    (found : handler.tasks[thread]? = some task) (ref : Nat) (info : AckInfo τ) :
    handler.multiAck ref info =
      (AckHandler.multiAck { handler with tasks := handler.tasks.eraseIdx thread } ref
        info).with ref info.id task := by
  obtain ⟨inside, isTask⟩ := List.getElem?_eq_some_iff.mp found
  have permutation : (task :: handler.tasks.eraseIdx thread).Perm handler.tasks := by
    rw [← isTask]
    exact List.getElem_cons_eraseIdx_perm inside
  simp [AckHandler.multiAck, MultiAck.with, AckHandler.tryGetValue, AckHandler.applied,
    ← permutation.countP_eq, ← permutation.count_eq, List.countP_cons, List.count_cons]

/-- What a step of a thread is to the multi ack. -/
def AckTask.move (ref : Nat) (id : Int32) : AckTask → Option MultiAckAction
  | .acking _ other _ _ => if other = ref then some .ack else none
  | .completing _ other _ => if other = ref then some .complete else none
  | .removing other => if other = id then some .remove else none
  | .counting _ other expectedCount =>
      if other = ref then some (.setExpectedCount expectedCount) else none
  | .expiring _ other => if other = ref then some .tryRemove else none
  | .timingOut other => if other = ref then some .timeOut else none
  | .forcing other => if other = ref then some .force else none
  | .disposing _ _ | .canceling _ => none

/-- What a step of the handler is to the multi ack. -/
def AckHandler.move (handler : AckHandler τ) (ref : Nat) (info : AckInfo τ) :
    AckAction → Option MultiAckAction
  | .resume thread => (handler.tasks[thread]?).bind (AckTask.move ref info.id)
  | .checkAck sweep id =>
      match handler.sweeps[sweep]? with
      | some utcNow =>
          if id = info.id ∧ (handler.tryGetValue id).isSome ∧ info.timeoutAt < utcNow then
            some .expire
          else none
      | none => none
  | .create _ _ | .getOrAdd _ | .register _ | .cancelToken _ | .triggerAck _ _ _
  | .setExpectedCount _ _ | .sweep | .dispose | .disposeAck _ | .tick => none

def MultiAck.moved (ack : MultiAck) : Option MultiAckAction → Option MultiAck
  | none => some ack
  | some move => multiAckStep ack move

/-! ## Steps for other acks -/

/-- The step has left the info and its multi ack as they were. -/
structure Beside (handler next : AckHandler τ) (ref : Nat) (info : AckInfo τ) : Prop where
  infos : next.infos[ref]? = handler.infos[ref]?
  multiAck : next.multiAck ref info = handler.multiAck ref info

namespace Beside

variable {middle : AckHandler τ} {ref : Nat} {info : AckInfo τ}

theorem trans (first : Beside handler middle ref info) (second : Beside middle next ref info) :
    Beside handler next ref info :=
  ⟨second.infos.trans first.infos, second.multiAck.trans first.multiAck⟩

theorem of_same (infos : next.infos[ref]? = handler.infos[ref]?)
    (acks : next.acks = handler.acks) (tasks : next.tasks = handler.tasks)
    (log : next.log = handler.log) : Beside handler next ref info where
  infos := infos
  multiAck := by
    simp only [AckHandler.multiAck, AckHandler.tryGetValue, AckHandler.applied, acks, tasks, log]

theorem record (handler : AckHandler τ) {event : AckEvent} (noAck : event.acks ref = false)
    (inTime : event.expires ref = false) : Beside handler (handler.record event) ref info where
  infos := rfl
  multiAck := by
    simp [AckHandler.multiAck, AckHandler.record, AckHandler.tryGetValue, AckHandler.applied,
      List.countP_append, noAck, inTime]

theorem spawn (handler : AckHandler τ) {task : AckTask}
    (elsewhere : ∀ ack : MultiAck, ack.with ref info.id task = ack) :
    Beside handler (handler.spawn task) ref info where
  infos := rfl
  multiAck := (multiAck_spawn handler ref info task).trans (elsewhere _)

theorem setInfo (handler : AckHandler τ) {other : Nat} (differs : other ≠ ref)
    (after : AckInfo τ) :
    Beside handler { handler with infos := handler.infos.set other after } ref info :=
  .of_same (List.getElem?_set_ne differs) rfl rfl rfl

theorem complete (handler : AckHandler τ) {other : Nat} (differs : other ≠ ref)
    (outcome : AckOutcome τ) : Beside handler (handler.complete other outcome).2 ref info := by
  rcases complete_cases handler other outcome with unchanged | ⟨found, -, -, completes⟩
  · rw [unchanged]
    exact ⟨rfl, rfl⟩
  · rw [completes]
    exact setInfo handler differs _

theorem tryGetValue_tryRemove (handler : AckHandler τ) {ackId other : Int32}
    (differs : other ≠ ackId) :
    (handler.tryRemove other).2.tryGetValue ackId = handler.tryGetValue ackId := by
  rw [AckHandler.tryRemove, AckHandler.tryGetValue, AckHandler.tryGetValue, List.find?_filter]
  congr 2
  funext entry
  by_cases here : entry.1 = ackId
  · simp [here, differs.symm]
  · simp [here]

theorem tryRemove (handler : AckHandler τ) {other : Int32} (differs : other ≠ info.id) :
    Beside handler (handler.tryRemove other).2 ref info where
  infos := rfl
  multiAck := by
    simp only [AckHandler.multiAck, tryGetValue_tryRemove handler differs]
    rfl

theorem ack (handler : AckHandler τ) {other : Nat} {ackId : Int32} (differs : other ≠ ref)
    (otherId : ackId ≠ info.id) (status : AckStatus) (payload : Option Bytes) :
    Beside handler (handler.ack context ackId other status payload) ref info := by
  have received : Beside handler (handler.record (.acked ackId other status)) ref info :=
    record handler (by simp [AckEvent.acks, differs]) rfl
  rw [AckHandler.ack]
  cases found : handler.infos[other]? with
  | none => exact received
  | some otherInfo =>
      have counted : Beside handler
          { handler.record (.acked ackId other status) with
            infos := handler.infos.set other
              { otherInfo with ackCount := otherInfo.ackCount + 1 } } ref info :=
        received.trans (setInfo _ differs _)
      dsimp only
      split
      · split
        · split_ifs
          · apply counted.trans (spawn _ _)
            intro ack
            simp [MultiAck.with, AckTask.completes, AckTask.expires, differs]
          · exact counted
        · exact counted
      · have completed := received.trans (complete _ differs
          (ackOutcome context otherInfo.kind status payload))
        split
        next acked won =>
          rw [won] at completed
          apply completed.trans (spawn acked _)
          intro ack
          simp [MultiAck.with, AckTask.completes, AckTask.expires, otherId]
        next acked lost =>
          rw [lost] at completed
          exact completed

theorem count (handler : AckHandler τ) {other : Nat} (ackId : Int32) (differs : other ≠ ref)
    (expectedCount : Int32) :
    Beside handler (handler.count ackId other expectedCount) ref info := by
  rw [AckHandler.count]
  cases found : handler.infos[other]? with
  | none => exact ⟨rfl, rfl⟩
  | some otherInfo =>
      have counted : Beside handler
          { handler with
            infos := handler.infos.set other
              { otherInfo with expectedCount := some expectedCount } } ref info :=
        setInfo handler differs _
      dsimp only
      split_ifs
      · apply counted.trans (spawn _ _)
        intro ack
        simp [MultiAck.with, AckTask.completes, AckTask.expires, differs]
      · exact counted
      · exact ⟨rfl, rfl⟩

theorem timeOut (handler : AckHandler τ) {other : Nat} (differs : other ≠ ref) :
    Beside handler (handler.timeOut context other) ref info := by
  rw [AckHandler.timeOut]
  cases found : handler.infos[other]? with
  | none => exact ⟨rfl, rfl⟩
  | some otherInfo =>
      dsimp only
      split
      · have forced : Beside handler
            { handler with
              infos := handler.infos.set other
                { otherInfo with ackCount := otherInfo.expectedCount.getD 0 } } ref info :=
          setInfo handler differs _
        apply forced.trans (spawn _ _)
        intro ack
        simp [MultiAck.with, AckTask.completes, AckTask.expires, differs]
      · exact complete handler differs _

theorem removeThen (handler : AckHandler τ) {other : Int32} {task : AckTask}
    (differs : other ≠ info.id)
    (elsewhere : ∀ ack : MultiAck, ack.with ref info.id task = ack) :
    Beside handler
      (match handler.tryRemove other with
      | (true, removed) => removed.spawn task
      | (false, removed) => removed) ref info := by
  have removed : Beside handler (handler.tryRemove other).2 ref info := tryRemove handler differs
  split
  next after won =>
    rw [won] at removed
    exact removed.trans (spawn after elsewhere)
  next after lost =>
    rw [lost] at removed
    exact removed

theorem cancelByToken (handler : AckHandler τ) {other : Nat} (differs : other ≠ ref) :
    Beside handler (handler.cancelByToken other) ref info := by
  have recorded : Beside handler (handler.record (.canceled other)) ref info :=
    record handler rfl rfl
  exact recorded.trans (complete _ differs _)

end Beside

/-! ## Steps for the ack -/

section Own

variable {ref : Nat} {info : AckInfo τ}

/-- The handler has the info, and the multi ack it keeps for it is the given one. -/
def Becomes (next : AckHandler τ) (ref : Nat) (ack : MultiAck) : Prop :=
  ∃ after, next.infos[ref]? = some after ∧ next.multiAck ref after = ack

theorem Beside.becomes (beside : Beside handler next ref info)
    (present : handler.infos[ref]? = some info) :
    Becomes next ref (handler.multiAck ref info) :=
  ⟨info, beside.infos.trans present, beside.multiAck⟩

theorem becomes_complete (present : handler.infos[ref]? = some info)
    (outcome : AckOutcome τ) :
    ∃ after, (handler.complete ref outcome).2.infos[ref]? = some after ∧ after.id = info.id ∧
      (handler.complete ref outcome).2.multiAck ref after =
        { handler.multiAck ref info with completed := true } := by
  obtain ⟨inside, -⟩ := List.getElem?_eq_some_iff.mp present
  rw [complete_eq present]
  by_cases pending : info.outcome = none
  · simp only [if_pos pending]
    exact ⟨_, List.getElem?_set_self inside, rfl, rfl⟩
  · simp only [if_neg pending]
    refine ⟨info, present, rfl, ?_⟩
    simp [AckHandler.multiAck, AckHandler.tryGetValue, AckHandler.applied,
      Option.isSome_iff_ne_none, pending]

theorem moves_ack (present : handler.infos[ref]? = some info) (multi : info.kind = .multi)
    (ackId : Int32) (status : AckStatus) (payload : Option Bytes) :
    ∃ ack, multiAckStep (handler.multiAck ref info) .ack = some ack ∧
      Becomes (handler.ack context ackId ref status payload) ref ack := by
  obtain ⟨inside, -⟩ := List.getElem?_eq_some_iff.mp present
  have counted : ∀ info' : AckInfo τ,
      (AckHandler.multiAck { handler.record (.acked ackId ref status) with
        infos := handler.infos.set ref info' } ref info') =
          { handler.multiAck ref info' with applied := handler.applied ref + 1 } := by
    intro info'
    simp [AckHandler.multiAck, AckHandler.record, AckHandler.tryGetValue, AckHandler.applied,
      List.countP_append, AckEvent.acks, AckEvent.expires]
  rw [AckHandler.ack, present]
  simp only [multi, multiAckStep]
  cases expected : info.expectedCount with
  | none =>
      simp only [AckHandler.multiAck, expected]
      refine ⟨_, rfl, _, List.getElem?_set_self inside, ?_⟩
      rw [counted]
      simp [AckHandler.multiAck]
  | some expectedCount =>
      simp only [AckHandler.multiAck, expected]
      split_ifs
      · refine ⟨_, rfl, _, List.getElem?_set_self inside, ?_⟩
        rw [multiAck_spawn, counted]
        simp [AckHandler.multiAck, MultiAck.with, AckTask.completes, AckTask.expires]
      · refine ⟨_, rfl, _, List.getElem?_set_self inside, ?_⟩
        rw [counted]
        simp [AckHandler.multiAck]

theorem moves_count (present : handler.infos[ref]? = some info) (multi : info.kind = .multi)
    (ackId expectedCount : Int32) :
    ∃ ack, multiAckStep (handler.multiAck ref info) (.setExpectedCount expectedCount) =
        some ack ∧ Becomes (handler.count ackId ref expectedCount) ref ack := by
  obtain ⟨inside, -⟩ := List.getElem?_eq_some_iff.mp present
  rw [AckHandler.count, present]
  dsimp only
  rw [multiAckStep]
  by_cases first : info.kind = .multi ∧ 0 ≤ expectedCount ∧ info.expectedCount = none
  · have firstHere : 0 ≤ expectedCount ∧ (handler.multiAck ref info).expectedCount = none :=
      first.2
    rw [if_pos firstHere, if_pos first]
    by_cases enough : expectedCount ≤ info.ackCount
    · have enoughHere : expectedCount ≤ (handler.multiAck ref info).ackCount := enough
      rw [if_pos enoughHere, if_pos enough]
      refine ⟨_, rfl, _, List.getElem?_set_self inside, ?_⟩
      rw [multiAck_spawn]
      simp [AckHandler.multiAck, MultiAck.with, AckTask.completes, AckTask.expires,
        AckHandler.tryGetValue, AckHandler.applied]
    · have enoughHere : ¬ expectedCount ≤ (handler.multiAck ref info).ackCount := enough
      rw [if_neg enoughHere, if_neg enough]
      exact ⟨_, rfl, _, List.getElem?_set_self inside, rfl⟩
  · have firstHere : ¬ (0 ≤ expectedCount ∧ (handler.multiAck ref info).expectedCount = none) :=
      fun both => first ⟨multi, both⟩
    rw [if_neg firstHere, if_neg first]
    exact ⟨_, rfl, info, present, rfl⟩

theorem moves_timeOut (present : handler.infos[ref]? = some info) (multi : info.kind = .multi) :
    ∃ ack, multiAckStep ((handler.multiAck ref info).with ref info.id (.timingOut ref))
        .timeOut = some ack ∧ Becomes (handler.timeOut context ref) ref ack := by
  obtain ⟨inside, -⟩ := List.getElem?_eq_some_iff.mp present
  rw [AckHandler.timeOut, present]
  simp only [multi, multiAckStep, MultiAck.with, if_true, Nat.zero_lt_succ]
  refine ⟨_, rfl, _, List.getElem?_set_self inside, ?_⟩
  rw [multiAck_spawn]
  simp [AckHandler.multiAck, MultiAck.with, AckTask.completes, AckTask.expires,
    AckHandler.tryGetValue, AckHandler.applied]

theorem moves_force (present : handler.infos[ref]? = some info) :
    ∃ ack, multiAckStep ((handler.multiAck ref info).with ref info.id (.forcing ref)) .force =
        some ack ∧ Becomes (handler.complete ref (.status .timeout)).2 ref ack := by
  obtain ⟨after, later, -, completed⟩ := becomes_complete present (.status .timeout)
  simp only [multiAckStep, MultiAck.with, if_true, Nat.zero_lt_succ]
  refine ⟨_, rfl, after, later, ?_⟩
  rw [completed]
  simp [AckTask.completes, AckTask.expires]

theorem moves_complete (present : handler.infos[ref]? = some info) (status : AckStatus) :
    ∃ ack, multiAckStep
          ((handler.multiAck ref info).with ref info.id (.completing info.id ref status))
          .complete = some ack ∧
      Becomes ((handler.complete ref (.status status)).2.spawn (.removing info.id)) ref ack := by
  obtain ⟨after, later, sameId, completed⟩ := becomes_complete present (.status status)
  simp only [multiAckStep, MultiAck.with, AckTask.completes, decide_true, if_true,
    Nat.zero_lt_succ]
  refine ⟨_, rfl, after, later, ?_⟩
  rw [multiAck_spawn, completed, sameId]
  simp [MultiAck.with, AckTask.completes, AckTask.expires]

theorem tryGetValue_tryRemove_self (handler : AckHandler τ) (ackId : Int32) :
    (handler.tryRemove ackId).2.tryGetValue ackId = none := by
  simp [AckHandler.tryRemove, AckHandler.tryGetValue, List.find?_filter]

theorem multiAck_tryRemove (handler : AckHandler τ) :
    (handler.tryRemove info.id).2.multiAck ref info =
      { handler.multiAck ref info with stored := false } := by
  simp only [AckHandler.multiAck, tryGetValue_tryRemove_self]
  rfl

theorem moves_remove (present : handler.infos[ref]? = some info) :
    ∃ ack, multiAckStep ((handler.multiAck ref info).with ref info.id (.removing info.id))
        .remove = some ack ∧ Becomes (handler.tryRemove info.id).2 ref ack := by
  simp only [multiAckStep, MultiAck.with, if_true, Nat.zero_lt_succ]
  refine ⟨_, rfl, info, present, ?_⟩
  rw [multiAck_tryRemove]
  simp [AckTask.completes, AckTask.expires]

theorem moves_tryRemove (present : handler.infos[ref]? = some info) :
    ∃ ack, multiAckStep
          ((handler.multiAck ref info).with ref info.id (.expiring info.id ref))
          .tryRemove = some ack ∧
      Becomes
        (match handler.tryRemove info.id with
        | (true, removed) => removed.spawn (.timingOut ref)
        | (false, removed) => removed) ref ack := by
  have isPair : handler.tryRemove info.id =
      ((handler.multiAck ref info).stored, (handler.tryRemove info.id).2) := rfl
  simp only [multiAckStep, MultiAck.with, AckTask.expires, decide_true, if_true,
    Nat.zero_lt_succ]
  rw [isPair]
  cases stored : (handler.multiAck ref info).stored with
  | true =>
      rw [if_pos rfl]
      refine ⟨_, rfl, info, present, ?_⟩
      rw [multiAck_spawn, multiAck_tryRemove]
      simp [MultiAck.with, AckTask.completes, AckTask.expires]
  | false =>
      rw [if_neg Bool.false_ne_true]
      refine ⟨_, rfl, info, present, ?_⟩
      rw [multiAck_tryRemove]
      simp [AckTask.completes]

/-- A thread for another ack. -/
theorem moves_other {thread : Nat} {task : AckTask}
    (running : handler.tasks[thread]? = some task) (present : handler.infos[ref]? = some info)
    (noMove : task.move ref info.id = none)
    (elsewhere : ∀ ack : MultiAck, ack.with ref info.id task = ack)
    (beside : Beside { handler with tasks := handler.tasks.eraseIdx thread } next ref info) :
    ∃ ack, (handler.multiAck ref info).moved (task.move ref info.id) = some ack ∧
      Becomes next ref ack := by
  rw [noMove, multiAck_resume running, elsewhere]
  exact ⟨_, rfl, beside.becomes present⟩

theorem moves_resume (identified : Identified handler) {thread : Nat} {task : AckTask}
    (running : handler.tasks[thread]? = some task) (present : handler.infos[ref]? = some info)
    (multi : info.kind = .multi) :
    ∃ ack, (handler.multiAck ref info).moved (task.move ref info.id) = some ack ∧
      Becomes ({ handler with tasks := handler.tasks.eraseIdx thread }.runTask context task) ref
        ack := by
  have known := identified.known task (List.mem_of_getElem? running)
  have here : (AckHandler.infos { handler with
      tasks := handler.tasks.eraseIdx thread })[ref]? = some info := present
  -- A thread that has the ref has the id, and the other way round.
  have sameRef : ∀ {ackId : Int32} {other : Nat}, handler.Has other ackId →
      (other = ref ↔ ackId = info.id) := by
    rintro ackId other ⟨otherInfo, found, otherId⟩
    constructor
    · rintro rfl
      rw [present, Option.some.injEq] at found
      rw [← otherId, found]
    · rintro rfl
      exact identified.ref_unique found present otherId
  cases task with
  | acking ackId other status payload =>
      by_cases same : other = ref
      · rw [same, multiAck_resume running, AckTask.move, if_pos rfl, same]
        simp only [MultiAck.moved]
        have elsewhere : ∀ ack : MultiAck,
            ack.with ref info.id (.acking ackId ref status payload) = ack := by
          intro ack
          simp [MultiAck.with, AckTask.completes, AckTask.expires]
        rw [elsewhere]
        exact moves_ack here multi ackId status payload
      · have otherId : ackId ≠ info.id := fun isId => same ((sameRef known).mpr isId)
        apply moves_other running present
        · rw [AckTask.move, if_neg same]
        · intro ack
          simp [MultiAck.with, AckTask.completes, AckTask.expires]
        · exact .ack _ same otherId status payload
  | completing ackId other status =>
      by_cases same : other = ref
      · have isId : ackId = info.id := (sameRef known).mp same
        rw [multiAck_resume running, AckTask.move, if_pos same, same, isId]
        exact moves_complete here status
      · have otherId : ackId ≠ info.id := fun isId => same ((sameRef known).mpr isId)
        apply moves_other running present
        · rw [AckTask.move, if_neg same]
        · intro ack
          simp [MultiAck.with, AckTask.completes, AckTask.expires, same]
        · apply (Beside.complete _ same _).trans (.spawn _ _)
          intro ack
          simp [MultiAck.with, AckTask.completes, AckTask.expires, otherId]
  | removing ackId =>
      by_cases same : ackId = info.id
      · rw [multiAck_resume running, AckTask.move, if_pos same, same]
        exact moves_remove here
      · apply moves_other running present
        · rw [AckTask.move, if_neg same]
        · intro ack
          simp [MultiAck.with, AckTask.completes, AckTask.expires, same]
        · exact .tryRemove _ same
  | counting ackId other expectedCount =>
      by_cases same : other = ref
      · rw [same, multiAck_resume running, AckTask.move, if_pos rfl, same]
        simp only [MultiAck.moved]
        have elsewhere : ∀ ack : MultiAck,
            ack.with ref info.id (.counting ackId ref expectedCount) = ack := by
          intro ack
          simp [MultiAck.with, AckTask.completes, AckTask.expires]
        rw [elsewhere]
        exact moves_count here multi ackId expectedCount
      · apply moves_other running present
        · rw [AckTask.move, if_neg same]
        · intro ack
          simp [MultiAck.with, AckTask.completes, AckTask.expires]
        · exact .count _ ackId same expectedCount
  | expiring ackId other =>
      by_cases same : other = ref
      · have isId : ackId = info.id := (sameRef known).mp same
        rw [multiAck_resume running, AckTask.move, if_pos same, same, isId]
        exact moves_tryRemove here
      · have otherId : ackId ≠ info.id := fun isId => same ((sameRef known).mpr isId)
        apply moves_other running present
        · rw [AckTask.move, if_neg same]
        · intro ack
          simp [MultiAck.with, AckTask.completes, AckTask.expires, same]
        · apply Beside.removeThen _ otherId
          intro ack
          simp [MultiAck.with, AckTask.completes, AckTask.expires, same]
  | timingOut other =>
      by_cases same : other = ref
      · rw [multiAck_resume running, AckTask.move, if_pos same, same]
        exact moves_timeOut here multi
      · apply moves_other running present
        · rw [AckTask.move, if_neg same]
        · intro ack
          simp [MultiAck.with, AckTask.completes, AckTask.expires, same]
        · exact .timeOut _ same
  | forcing other =>
      by_cases same : other = ref
      · rw [multiAck_resume running, AckTask.move, if_pos same, same]
        exact moves_force here
      · apply moves_other running present
        · rw [AckTask.move, if_neg same]
        · intro ack
          simp [MultiAck.with, AckTask.completes, AckTask.expires, same]
        · exact .complete _ same _
  | disposing | canceling => exact known.elim

theorem moves_checkAck (identified : Identified handler) {utcNow : Nat} {ackId : Int32}
    (present : handler.infos[ref]? = some info) :
    ∃ ack, (handler.multiAck ref info).moved
        (if ackId = info.id ∧ (handler.tryGetValue ackId).isSome ∧ info.timeoutAt < utcNow then
          some .expire else none) = some ack ∧
      Becomes (handler.checkAck utcNow ackId) ref ack := by
  rw [AckHandler.checkAck]
  cases stored : handler.tryGetValue ackId with
  | none =>
      rw [if_neg (by simp)]
      exact ⟨_, rfl, info, present, rfl⟩
  | some other =>
      obtain ⟨otherInfo, found, otherId⟩ := identified.stored _ (mem_acks_of_tryGetValue stored)
      have sameRef : other = ref ↔ ackId = info.id := by
        constructor
        · rintro rfl
          rw [present, Option.some.injEq] at found
          rw [found]
          exact otherId.symm
        · rintro rfl
          exact identified.ref_unique found present otherId
      simp only [found]
      by_cases same : other = ref
      · have isId := sameRef.mp same
        rw [same, present, Option.some.injEq] at found
        rw [same, ← found]
        by_cases late : info.timeoutAt < utcNow
        · rw [if_pos ⟨isId, rfl, late⟩, if_pos late, MultiAck.moved, multiAckStep]
          have isStored : (handler.multiAck ref info).stored = true := by
            simp [AckHandler.multiAck, ← isId, stored]
          rw [if_pos isStored]
          refine ⟨_, rfl, info, present, ?_⟩
          rw [multiAck_spawn]
          simp [AckHandler.multiAck, AckHandler.record, MultiAck.with, AckTask.completes,
            AckTask.expires, AckHandler.tryGetValue, AckHandler.applied, List.countP_append,
            AckEvent.acks, AckEvent.expires]
        · rw [if_neg fun all => late all.2.2, if_neg late]
          exact ⟨_, rfl, info, present, rfl⟩
      · rw [if_neg fun all => same (sameRef.mpr all.1)]
        refine ⟨_, rfl, ?_⟩
        split_ifs
        · have recorded : Beside handler (handler.record (.expired other)) ref info :=
            .record handler rfl (by simp [AckEvent.expires, same])
          apply Beside.becomes (recorded.trans (.spawn _ _)) present
          intro ack
          simp [MultiAck.with, AckTask.completes, AckTask.expires, same]
        · exact ⟨info, present, rfl⟩

/-- A token belongs to a call of another kind. -/
theorem not_held (identified : Identified handler) (present : handler.infos[ref]? = some info)
    (multi : info.kind = .multi) {index other : Nat} {handle : AckHandle τ}
    (found : handler.handles[index]? = some handle) (holds : handle.task.Holds other)
    (single : handle.kind ≠ .multi) : other ≠ ref := by
  rintro rfl
  obtain ⟨otherInfo, also, -, sameKind⟩ := identified.held index handle other found holds
  rw [present, Option.some.injEq] at also
  rw [← sameKind, ← also] at single
  exact single multi

end Own

/-- Every step of the handler is a step of the multi ack or leaves it alone. -/
theorem multiAck_step (identified : Identified handler) {action : AckAction}
    (serving : action ≠ .dispose) {ref : Nat} {info : AckInfo τ}
    (present : handler.infos[ref]? = some info) (multi : info.kind = .multi)
    (stepped : ackStep context handler action = some next) :
    ∃ ack, (handler.multiAck ref info).moved (handler.move ref info action) = some ack ∧
      Becomes next ref ack := by
  cases action with
  | create kind ackTimeout =>
      rw [ackStep, Option.some.injEq] at stepped
      have unstopped : ¬ handler.disposed = true := by
        rw [identified.serving]
        exact Bool.false_ne_true
      rw [← stepped, AckHandler.create, if_neg unstopped]
      exact ⟨_, rfl, info, present, rfl⟩
  | getOrAdd index =>
      rw [ackStep] at stepped
      cases found : handler.handles[index]? with
      | none => simp only [found, reduceCtorEq] at stepped
      | some handle =>
          cases task : handle.task with
          | creating timeout =>
              simp only [found, task, Option.some.injEq] at stepped
              rw [← stepped, identified.getOrAdd_eq found task]
              have differs : handle.id ≠ info.id := by
                intro same
                apply identified.unused found (by simp [HandleTask.Holds, task]) ref
                exact ⟨info, present, same.symm⟩
              obtain ⟨inside, -⟩ := List.getElem?_eq_some_iff.mp present
              refine ⟨_, rfl, info, (List.getElem?_append_left inside).trans present, ?_⟩
              simp only [AckHandler.multiAck, AckHandler.setTask, AckHandler.tryGetValue,
                AckHandler.applied, List.find?_append]
              rw [List.find?_cons_of_neg (by simpa using differs), List.find?_nil,
                Option.or_none]
          | registering | info | completed | threw =>
              simp only [found, task, reduceCtorEq] at stepped
  | register index =>
      rw [ackStep] at stepped
      cases found : handler.handles[index]? with
      | none => simp only [found, reduceCtorEq] at stepped
      | some handle =>
          cases task : handle.task with
          | registering other =>
              simp only [found, task, Option.some.injEq] at stepped
              rw [← stepped, AckHandler.register]
              refine ⟨_, rfl, ?_⟩
              split_ifs
              · have single := identified.tokenless index handle other found task
                have differs := not_held identified present multi found (.inr task) single
                have registered : Beside handler (handler.setTask index (.info other)) ref info :=
                  .of_same rfl rfl rfl rfl
                exact (registered.trans (.cancelByToken _ differs)).becomes present
              · exact ⟨info, present, rfl⟩
          | creating | info | completed | threw =>
              simp only [found, task, reduceCtorEq] at stepped
  | cancelToken index =>
      rw [ackStep] at stepped
      cases found : handler.handles[index]? with
      | none => simp only [found, reduceCtorEq] at stepped
      | some handle =>
          simp only [found, Option.some.injEq] at stepped
          rw [← stepped, AckHandler.cancelToken]
          refine ⟨_, rfl, ?_⟩
          cases task : handle.task with
          | info other =>
              dsimp only
              split_ifs with isMulti
              · exact ⟨info, present, rfl⟩
              · have differs := not_held identified present multi found (.inl task) isMulti
                have canceled : Beside handler
                    { handler with handles := handler.handles.modify index fun handle =>
                      { handle with tokenCanceled := true } } ref info :=
                  .of_same rfl rfl rfl rfl
                exact (canceled.trans (.cancelByToken _ differs)).becomes present
          | creating | registering | completed | threw => exact ⟨info, present, rfl⟩
  | triggerAck ackId status payload =>
      rw [ackStep, Option.some.injEq] at stepped
      rw [← stepped, AckHandler.triggerAck]
      refine ⟨_, rfl, ?_⟩
      cases handler.tryGetValue ackId with
      | none => exact ⟨info, present, rfl⟩
      | some other =>
          apply Beside.becomes (.spawn handler _) present
          intro ack
          simp [MultiAck.with, AckTask.completes, AckTask.expires]
  | setExpectedCount ackId expectedCount =>
      rw [ackStep, Option.some.injEq] at stepped
      rw [← stepped, AckHandler.setExpectedCount]
      refine ⟨_, rfl, ?_⟩
      split_ifs
      · exact ⟨info, present, rfl⟩
      · cases handler.tryGetValue ackId with
        | none => exact ⟨info, present, rfl⟩
        | some other =>
            apply Beside.becomes (.spawn handler _) present
            intro ack
            simp [MultiAck.with, AckTask.completes, AckTask.expires]
  | sweep =>
      rw [ackStep] at stepped
      split_ifs at stepped
      rw [Option.some.injEq] at stepped
      rw [← stepped]
      exact ⟨_, rfl, info, present, rfl⟩
  | checkAck sweep ackId =>
      rw [ackStep] at stepped
      cases running : handler.sweeps[sweep]? with
      | none => simp only [running, reduceCtorEq] at stepped
      | some utcNow =>
          simp only [running, Option.some.injEq] at stepped
          rw [← stepped, AckHandler.move, running]
          exact moves_checkAck identified present
  | dispose => exact absurd rfl serving
  | disposeAck ackId =>
      rw [ackStep, if_neg (by simp [identified.serving])] at stepped
      cases stepped
  | resume thread =>
      rw [ackStep] at stepped
      cases running : handler.tasks[thread]? with
      | none => simp only [running, reduceCtorEq] at stepped
      | some task =>
          simp only [running, Option.some.injEq] at stepped
          rw [← stepped, AckHandler.move, running, Option.bind_some]
          exact moves_resume identified running present multi
  | tick =>
      rw [ackStep, Option.some.injEq] at stepped
      rw [← stepped]
      exact ⟨_, rfl, info, present, rfl⟩

end AzureSignalR.Utilities
