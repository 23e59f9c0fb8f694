import AzureSignalR.Utilities.AckCauses

/-!
Contract: the ids of a handler that is not disposed.

Owns: that every id has one call and at most one info, and that every entry,
every thread and every event is about an info that exists. Fewer than
`2 ^ 32` ids are created, so that no id is used twice.

Does not own: what the infos count and when their tasks complete.
-/

set_option autoImplicit false

namespace AzureSignalR.Utilities

open Library Library.Machine

variable {τ : Type} {context : AckContext τ} {handler next : AckHandler τ}

/-! ## Invariant -/

/-- The call works with the info. -/
def HandleTask.Holds (task : HandleTask τ) (ref : Nat) : Prop :=
  task = .info ref ∨ task = .registering ref

/-- The info an event is about. -/
def AckEvent.ref : AckEvent → Nat
  | .acked _ ref _ | .canceled ref | .expired ref => ref

/-- What every thread of a handler relies on that is not disposed. -/
def TaskKnown (handler : AckHandler τ) : AckTask → Prop
  | .acking id ref _ _ | .completing id ref _ | .counting id ref _ | .expiring id ref =>
      handler.Has ref id
  | .removing id => ∃ ref, handler.Has ref id
  | .timingOut ref | .forcing ref => ref < handler.infos.length
  | .disposing _ _ | .canceling _ => False

structure Identified (handler : AckHandler τ) : Prop where
  serving : handler.disposed = false
  few : handler.handles.length < 2 ^ 32
  counted : handler.nextId = Int32.ofNat handler.handles.length
  numbered : ∀ (index : Nat) (handle : AckHandle τ), handler.handles[index]? = some handle →
    handle.id = Int32.ofNat (index + 1)
  held : ∀ (index : Nat) (handle : AckHandle τ) (ref : Nat),
    handler.handles[index]? = some handle → handle.task.Holds ref →
      ∃ info, handler.infos[ref]? = some info ∧ info.id = handle.id ∧ info.kind = handle.kind
  owned : ∀ (ref : Nat) (info : AckInfo τ), handler.infos[ref]? = some info →
    ∃ (index : Nat) (handle : AckHandle τ), handler.handles[index]? = some handle ∧
      handle.task.Holds ref
  tokenless : ∀ (index : Nat) (handle : AckHandle τ) (ref : Nat),
    handler.handles[index]? = some handle → handle.task = .registering ref →
      handle.kind ≠ .multi
  stored : ∀ entry ∈ handler.acks, handler.Has entry.2 entry.1
  known : ∀ task ∈ handler.tasks, TaskKnown handler task
  recorded : ∀ event ∈ handler.log, event.ref < handler.infos.length

theorem Grows.infos_length (grows : Grows handler next) :
    handler.infos.length ≤ next.infos.length := by
  rcases Nat.eq_zero_or_pos handler.infos.length with empty | some
  · rw [empty]
    exact Nat.zero_le _
  · have last : handler.infos.length - 1 < handler.infos.length := by omega
    obtain ⟨after, found, -⟩ := grows.kept _ _ (List.getElem?_eq_getElem last)
    obtain ⟨inside, -⟩ := List.getElem?_eq_some_iff.mp found
    omega

theorem TaskKnown.mono {task : AckTask} (known : TaskKnown handler task)
    (grows : Grows handler next) : TaskKnown next task := by
  cases task with
  | acking | completing | counting | expiring => exact grows.has known
  | removing =>
      obtain ⟨ref, has⟩ := known
      exact ⟨ref, grows.has has⟩
  | timingOut | forcing => exact Nat.lt_of_lt_of_le known grows.infos_length
  | disposing | canceling => exact known.elim

theorem residue_of_ofNat {one other : Nat} (same : Int32.ofNat one = Int32.ofNat other) :
    one % 2 ^ 32 = other % 2 ^ 32 := by
  have bits := congrArg (fun number : Int32 => number.toUInt32.toNat) same
  simpa using bits

theorem AckHandler.Has.inside {ref : Nat} {ackId : Int32} (has : handler.Has ref ackId) :
    ref < handler.infos.length := by
  obtain ⟨info, found, -⟩ := has
  exact (List.getElem?_eq_some_iff.mp found).1

namespace Identified

theorem initial : Identified ({} : AckHandler τ) where
  serving := rfl
  few := by simp
  counted := rfl
  numbered := by simp
  held := by simp
  owned := by simp
  tokenless := by simp
  stored := by simp
  known := by simp
  recorded := by simp

/-! ## Ids -/

theorem index_unique (identified : Identified handler) {first second : Nat}
    {one other : AckHandle τ} (foundFirst : handler.handles[first]? = some one)
    (foundSecond : handler.handles[second]? = some other) (same : one.id = other.id) :
    first = second := by
  obtain ⟨insideFirst, -⟩ := List.getElem?_eq_some_iff.mp foundFirst
  obtain ⟨insideSecond, -⟩ := List.getElem?_eq_some_iff.mp foundSecond
  rw [identified.numbered first one foundFirst, identified.numbered second other foundSecond]
    at same
  have residues := residue_of_ofNat same
  have few := identified.few
  omega

/-- An info has one call that works with it, and an id has one info. -/
theorem ref_unique (identified : Identified handler) {first second : Nat}
    {one other : AckInfo τ} (foundFirst : handler.infos[first]? = some one)
    (foundSecond : handler.infos[second]? = some other) (same : one.id = other.id) :
    first = second := by
  obtain ⟨index, handle, called, holds⟩ := identified.owned first one foundFirst
  obtain ⟨index', handle', called', holds'⟩ := identified.owned second other foundSecond
  obtain ⟨info, present, sameId, -⟩ := identified.held index handle first called holds
  obtain ⟨info', present', sameId', -⟩ := identified.held index' handle' second called' holds'
  rw [foundFirst, Option.some.injEq] at present
  rw [foundSecond, Option.some.injEq] at present'
  have sameIndex : index = index' := by
    apply identified.index_unique called called'
    rw [← sameId, ← sameId', ← present, ← present', same]
  rw [← sameIndex, called, Option.some.injEq] at called'
  rw [← called'] at holds'
  rcases holds with isInfo | isRegistering
  · rcases holds' with isInfo' | isRegistering'
    · simpa [isInfo] using isInfo'
    · simp [isInfo] at isRegistering'
  · rcases holds' with isInfo' | isRegistering'
    · simp [isRegistering] at isInfo'
    · simpa [isRegistering] using isRegistering'

/-- No info has the id of a call that has not reached `GetOrAdd`. -/
theorem unused (identified : Identified handler) {index : Nat} {handle : AckHandle τ}
    (found : handler.handles[index]? = some handle) (waits : ∀ ref, ¬ handle.task.Holds ref)
    (ref : Nat) : ¬ handler.Has ref handle.id := by
  rintro ⟨info, present, sameId⟩
  obtain ⟨other, holder, called, holds⟩ := identified.owned ref info present
  obtain ⟨info', present', holderId, -⟩ := identified.held other holder ref called holds
  rw [present, Option.some.injEq] at present'
  have sameIndex : other = index := by
    apply identified.index_unique called found
    rw [← holderId, ← present', sameId]
  rw [sameIndex, found, Option.some.injEq] at called
  exact waits ref (called ▸ holds)

theorem fresh (identified : Identified handler) {index : Nat} {handle : AckHandle τ}
    (found : handler.handles[index]? = some handle) (waits : ∀ ref, ¬ handle.task.Holds ref) :
    handler.tryGetValue handle.id = none := by
  cases stored : handler.tryGetValue handle.id with
  | none => rfl
  | some ref =>
      have has := identified.stored _ (mem_acks_of_tryGetValue stored)
      exact absurd has (identified.unused found waits ref)

/-! ## Effects -/

/-- A step that leaves the calls alone and adds no info. -/
theorem of_calls (identified : Identified handler) (grows : Grows handler next)
    (disposed : next.disposed = handler.disposed) (nextId : next.nextId = handler.nextId)
    (handles : next.handles = handler.handles)
    (infos : next.infos.length = handler.infos.length)
    (acks : ∀ entry ∈ next.acks, entry ∈ handler.acks)
    (tasks : ∀ task ∈ next.tasks, task ∈ handler.tasks ∨ TaskKnown next task)
    (log : ∀ event ∈ next.log, event ∈ handler.log ∨ event.ref < next.infos.length) :
    Identified next where
  serving := by
    rw [disposed]
    exact identified.serving
  few := by
    rw [handles]
    exact identified.few
  counted := by
    rw [nextId, handles]
    exact identified.counted
  numbered := by
    rw [handles]
    exact identified.numbered
  held := by
    rw [handles]
    intro index handle ref called holds
    obtain ⟨before, present, sameId, sameKind⟩ := identified.held index handle ref called holds
    obtain ⟨after, later, keptId, keptKind, -⟩ := grows.kept ref before present
    exact ⟨after, later, keptId.trans sameId, keptKind.trans sameKind⟩
  owned := by
    rw [handles]
    intro ref after present
    obtain ⟨inside, -⟩ := List.getElem?_eq_some_iff.mp present
    rw [infos] at inside
    exact identified.owned ref _ (List.getElem?_eq_getElem inside)
  tokenless := by
    rw [handles]
    exact identified.tokenless
  stored entry member := grows.has (identified.stored entry (acks entry member))
  known task member := by
    rcases tasks task member with earlier | known
    · exact (identified.known task earlier).mono grows
    · exact known
  recorded event member := by
    rcases log event member with earlier | inside
    · exact Nat.lt_of_lt_of_le (identified.recorded event earlier) grows.infos_length
    · exact inside

/-- A call goes on with the infos it had. -/
theorem modifyHandle (identified : Identified handler) {index : Nat}
    {handle after : AckHandle τ} {change : AckHandle τ → AckHandle τ}
    (found : handler.handles[index]? = some handle) (changed : change handle = after)
    (keptId : after.id = handle.id) (keptKind : after.kind = handle.kind)
    (keptHolds : ∀ ref, after.task.Holds ref ↔ handle.task.Holds ref)
    (keptToken : ∀ ref, after.task = .registering ref → handle.task = .registering ref) :
    Identified { handler with handles := handler.handles.modify index change } := by
  have lookup : ∀ (other : Nat) (result : AckHandle τ),
      (handler.handles.modify index change)[other]? = some result →
        ∃ before, handler.handles[other]? = some before ∧ result.id = before.id ∧
          result.kind = before.kind ∧
          (∀ ref, result.task.Holds ref ↔ before.task.Holds ref) ∧
          ∀ ref, result.task = .registering ref → before.task = .registering ref := by
    intro other result present
    rcases getElem?_modify_cases found present with ⟨-, earlier⟩ | ⟨rfl, rfl⟩
    · exact ⟨result, earlier, rfl, rfl, fun _ => Iff.rfl, fun _ => id⟩
    · rw [changed]
      exact ⟨handle, found, keptId, keptKind, keptHolds, keptToken⟩
  constructor
  · exact identified.serving
  · rw [List.length_modify]
    exact identified.few
  · rw [List.length_modify]
    exact identified.counted
  · intro other result present
    obtain ⟨before, earlier, sameId, -⟩ := lookup other result present
    rw [sameId]
    exact identified.numbered other before earlier
  · intro other result ref present holds
    obtain ⟨before, earlier, sameId, sameKind, sameHolds, -⟩ := lookup other result present
    rw [sameId, sameKind]
    exact identified.held other before ref earlier ((sameHolds ref).mp holds)
  · intro ref info present
    obtain ⟨other, before, earlier, holds⟩ := identified.owned ref info present
    by_cases itself : index = other
    · rw [← itself, found, Option.some.injEq] at earlier
      refine ⟨index, after, ?_, (keptHolds ref).mpr (earlier ▸ holds)⟩
      rw [List.getElem?_modify_eq, found, Option.map_eq_map, Option.map_some, changed]
    · exact ⟨other, before, (List.getElem?_modify_ne _ _ itself).trans earlier, holds⟩
  · intro other result ref present registering
    obtain ⟨before, earlier, -, sameKind, -, sameToken⟩ := lookup other result present
    rw [sameKind]
    exact identified.tokenless other before ref earlier (sameToken ref registering)
  · exact identified.stored
  · exact identified.known
  · exact identified.recorded

theorem addHandle (identified : Identified handler) {handle : AckHandle τ}
    (few : handler.handles.length + 1 < 2 ^ 32) (numbered : handle.id = handler.nextId + 1)
    (begins : ∀ ref, ¬ handle.task.Holds ref) :
    Identified
      { handler with nextId := handler.nextId + 1, handles := handler.handles ++ [handle] } := by
  have number : handler.nextId + 1 = Int32.ofNat (handler.handles.length + 1) := by
    rw [identified.counted, Int32.ofNat_add]
    rfl
  constructor
  · exact identified.serving
  · simpa using few
  · simpa using number
  · intro index result present
    rcases getElem?_concat_cases present with earlier | ⟨rfl, rfl⟩
    · exact identified.numbered index result earlier
    · exact numbered.trans number
  · intro index result ref present holds
    rcases getElem?_concat_cases present with earlier | ⟨-, rfl⟩
    · exact identified.held index result ref earlier holds
    · exact absurd holds (begins ref)
  · intro ref info present
    obtain ⟨index, before, earlier, holds⟩ := identified.owned ref info present
    obtain ⟨inside, -⟩ := List.getElem?_eq_some_iff.mp earlier
    exact ⟨index, before, (List.getElem?_append_left inside).trans earlier, holds⟩
  · intro index result ref present registering
    rcases getElem?_concat_cases present with earlier | ⟨-, rfl⟩
    · exact identified.tokenless index result ref earlier registering
    · exact absurd (.inr registering) (begins ref)
  · exact identified.stored
  · exact identified.known
  · exact identified.recorded

/-- The call works with a new info. -/
theorem addInfo (identified : Identified handler) {index : Nat} {handle : AckHandle τ}
    (found : handler.handles[index]? = some handle) (waits : ∀ ref, ¬ handle.task.Holds ref)
    (timeoutAt : Nat) :
    Identified
      (AckHandler.setTask
        { handler with
          infos := handler.infos ++
            [{ id := handle.id, kind := handle.kind, timeoutAt := timeoutAt }]
          acks := handler.acks ++ [(handle.id, handler.infos.length)] }
        index (AckHandler.found handle.kind handler.infos.length)) := by
  have grows := Grows.addInfo handler
    { id := handle.id, kind := handle.kind, timeoutAt := timeoutAt }
    (handle.id, handler.infos.length)
  have holdsNew : ∀ ref,
      HandleTask.Holds (AckHandler.found handle.kind handler.infos.length : HandleTask τ) ref ↔
        handler.infos.length = ref := by
    intro ref
    rw [AckHandler.found]
    split_ifs
    · simp [HandleTask.Holds]
    · simp [HandleTask.Holds]
  constructor
  · exact identified.serving
  · simpa [AckHandler.setTask] using identified.few
  · simpa [AckHandler.setTask] using identified.counted
  · intro other result present
    rcases getElem?_modify_cases found present with ⟨-, earlier⟩ | ⟨rfl, rfl⟩
    · exact identified.numbered other result earlier
    · exact identified.numbered other handle found
  · intro other result ref present holds
    rcases getElem?_modify_cases found present with ⟨-, earlier⟩ | ⟨-, rfl⟩
    · obtain ⟨info, here, sameId, sameKind⟩ := identified.held other result ref earlier holds
      obtain ⟨inside, -⟩ := List.getElem?_eq_some_iff.mp here
      exact ⟨info, (List.getElem?_append_left inside).trans here, sameId, sameKind⟩
    · rw [← (holdsNew ref).mp holds]
      exact ⟨_, List.getElem?_concat_length, rfl, rfl⟩
  · intro ref info present
    rcases getElem?_concat_cases present with earlier | ⟨rfl, -⟩
    · obtain ⟨other, before, called, holds⟩ := identified.owned ref info earlier
      have differs : index ≠ other := by
        rintro rfl
        rw [found, Option.some.injEq] at called
        exact waits ref (called ▸ holds)
      exact ⟨other, before, (List.getElem?_modify_ne _ _ differs).trans called, holds⟩
    · refine ⟨index,
        { handle with task := AckHandler.found handle.kind handler.infos.length }, ?_, ?_⟩
      · rw [AckHandler.setTask, List.getElem?_modify_eq, found]
        rfl
      · exact (holdsNew _).mpr rfl
  · intro other result ref present registering
    rcases getElem?_modify_cases found present with ⟨-, earlier⟩ | ⟨-, rfl⟩
    · exact identified.tokenless other result ref earlier registering
    · intro isMulti
      simp only [AckHandler.found] at registering
      rw [if_pos isMulti] at registering
      cases registering
  · intro entry member
    rcases List.mem_append.mp member with earlier | itself
    · exact grows.has (identified.stored entry earlier)
    · rw [List.mem_singleton.mp itself]
      exact ⟨_, List.getElem?_concat_length, rfl⟩
  · intro task member
    have known := (identified.known task member).mono grows
    cases task <;> exact known
  · intro event member
    exact Nat.lt_of_lt_of_le (identified.recorded event member) grows.infos_length

theorem setInfo (identified : Identified handler) {ref : Nat} {info after : AckInfo τ}
    (found : handler.infos[ref]? = some info) (keptId : after.id = info.id)
    (keptKind : after.kind = info.kind) (keptTime : after.timeoutAt = info.timeoutAt)
    (keptOutcome : info.outcome ≠ none → after.outcome = info.outcome) :
    Identified { handler with infos := handler.infos.set ref after } := by
  have grows : Grows handler { handler with infos := handler.infos.set ref after } :=
    .setInfo found keptId keptKind keptTime keptOutcome
  exact identified.of_calls grows rfl rfl rfl List.length_set (fun _ => id) (fun _ => .inl)
    fun _ => .inl

theorem record (identified : Identified handler) {event : AckEvent}
    (inside : event.ref < handler.infos.length) : Identified (handler.record event) := by
  refine identified.of_calls (.record handler event) rfl rfl rfl rfl (fun _ => id)
    (fun _ => .inl) ?_
  intro other member
  rcases List.mem_append.mp member with earlier | itself
  · exact .inl earlier
  · rw [List.mem_singleton.mp itself]
    exact .inr inside

theorem spawn (identified : Identified handler) {task : AckTask}
    (known : TaskKnown handler task) : Identified (handler.spawn task) := by
  refine identified.of_calls (.spawn handler task) rfl rfl rfl rfl (fun _ => id) ?_
    fun _ => .inl
  intro other member
  rcases List.mem_append.mp member with earlier | itself
  · exact .inl earlier
  · rw [List.mem_singleton.mp itself]
    exact .inr (known.mono (.spawn handler task))

theorem tryRemove (identified : Identified handler) (ackId : Int32) :
    Identified (handler.tryRemove ackId).2 :=
  identified.of_calls (.tryRemove handler ackId) rfl rfl rfl rfl
    (fun _ => List.mem_of_mem_filter) (fun _ => .inl) fun _ => .inl

theorem eraseTask (identified : Identified handler) (thread : Nat) :
    Identified { handler with tasks := handler.tasks.eraseIdx thread } := by
  refine identified.of_calls (.of_same (fun _ => id) id rfl rfl (le_refl _)) rfl rfl rfl rfl
    (fun _ => id) ?_ fun _ => .inl
  exact fun _ member => .inl (List.mem_of_mem_eraseIdx member)

theorem complete (identified : Identified handler) (ref : Nat) (outcome : AckOutcome τ) :
    Identified (handler.complete ref outcome).2 := by
  rcases complete_cases handler ref outcome with unchanged | ⟨info, found, pending, completes⟩
  · rw [unchanged]
    exact identified
  · rw [completes]
    exact identified.setInfo found rfl rfl rfl fun completed => absurd pending completed

/-! ## Operations -/

theorem create (identified : Identified handler) {kind : AckKind} {ackTimeout : Option Nat}
    (few : (handler.create context kind ackTimeout).handles.length < 2 ^ 32) :
    Identified (handler.create context kind ackTimeout) := by
  have serving : ¬ handler.disposed = true := by
    rw [identified.serving]
    exact Bool.false_ne_true
  rw [AckHandler.create, if_neg serving] at few ⊢
  apply identified.addHandle
  · simpa using few
  · rfl
  · intro ref
    simp [HandleTask.Holds]

/-- `GetOrAdd` finds no info under the id of a new call, and adds one. -/
theorem getOrAdd_eq (identified : Identified handler) {index timeout : Nat}
    {handle : AckHandle τ} (found : handler.handles[index]? = some handle)
    (creating : handle.task = .creating timeout) :
    handler.getOrAdd index handle timeout =
      AckHandler.setTask
        { handler with
          infos := handler.infos ++
            [{ id := handle.id
               kind := handle.kind
               timeoutAt := handler.utcNow + timeout }]
          acks := handler.acks ++ [(handle.id, handler.infos.length)] }
        index (AckHandler.found handle.kind handler.infos.length) := by
  have waits : ∀ ref, ¬ handle.task.Holds ref := by
    intro ref
    simp [HandleTask.Holds, creating]
  rw [AckHandler.getOrAdd, identified.fresh found waits]

theorem getOrAdd (identified : Identified handler) {index timeout : Nat}
    {handle : AckHandle τ} (found : handler.handles[index]? = some handle)
    (creating : handle.task = .creating timeout) :
    Identified (handler.getOrAdd index handle timeout) := by
  rw [identified.getOrAdd_eq found creating]
  apply identified.addInfo found
  intro ref
  simp [HandleTask.Holds, creating]

theorem cancelByToken (identified : Identified handler) {ref : Nat}
    (inside : ref < handler.infos.length) : Identified (handler.cancelByToken ref) := by
  have recorded : Identified (handler.record (.canceled ref)) := identified.record inside
  exact recorded.complete ref _

theorem held_inside (identified : Identified handler) {index ref : Nat} {handle : AckHandle τ}
    (found : handler.handles[index]? = some handle) (holds : handle.task.Holds ref) :
    ref < handler.infos.length := by
  obtain ⟨info, present, -⟩ := identified.held index handle ref found holds
  exact (List.getElem?_eq_some_iff.mp present).1

/-- `Register` leaves the call with the info it had. -/
theorem registered (identified : Identified handler) {index ref : Nat} {handle : AckHandle τ}
    (found : handler.handles[index]? = some handle) (task : handle.task = .registering ref) :
    Identified (handler.setTask index (.info ref)) := by
  apply identified.modifyHandle found rfl
  · rfl
  · rfl
  · intro other
    simp [HandleTask.Holds, task]
  · intro other registering
    cases registering

theorem register (identified : Identified handler) {index ref : Nat} {handle : AckHandle τ}
    (found : handler.handles[index]? = some handle) (task : handle.task = .registering ref) :
    Identified (handler.register index handle ref) := by
  have registered := identified.registered found task
  rw [AckHandler.register]
  split_ifs
  · apply registered.cancelByToken
    exact identified.held_inside found (.inr task)
  · exact registered

theorem tokenCanceled (identified : Identified handler) {index : Nat} {handle : AckHandle τ}
    (found : handler.handles[index]? = some handle) :
    Identified { handler with handles := handler.handles.modify index fun handle =>
      { handle with tokenCanceled := true } } := by
  apply identified.modifyHandle found rfl
  · rfl
  · rfl
  · exact fun _ => Iff.rfl
  · exact fun _ => id

theorem cancelToken (identified : Identified handler) {index : Nat} {handle : AckHandle τ}
    (found : handler.handles[index]? = some handle) :
    Identified (handler.cancelToken index handle) := by
  have canceled := identified.tokenCanceled found
  rw [AckHandler.cancelToken]
  cases task : handle.task with
  | info ref =>
      dsimp only
      split_ifs
      · exact canceled
      · exact canceled.cancelByToken (identified.held_inside found (.inl task))
  | creating | registering | completed | threw => exact canceled

theorem triggerAck (identified : Identified handler) (ackId : Int32) (status : AckStatus)
    (payload : Option Bytes) : Identified (handler.triggerAck ackId status payload) := by
  rw [AckHandler.triggerAck]
  cases stored : handler.tryGetValue ackId with
  | none => exact identified
  | some ref => exact identified.spawn (identified.stored _ (mem_acks_of_tryGetValue stored))

theorem setExpectedCount (identified : Identified handler) (ackId expectedCount : Int32) :
    Identified (handler.setExpectedCount ackId expectedCount) := by
  rw [AckHandler.setExpectedCount]
  split_ifs
  · exact identified
  · cases stored : handler.tryGetValue ackId with
    | none => exact identified
    | some ref => exact identified.spawn (identified.stored _ (mem_acks_of_tryGetValue stored))

theorem ack (identified : Identified handler) {ackId : Int32} {ref : Nat} (status : AckStatus)
    (payload : Option Bytes) (has : handler.Has ref ackId) :
    Identified (handler.ack context ackId ref status payload) := by
  have received : Identified (handler.record (.acked ackId ref status)) :=
    identified.record has.inside
  obtain ⟨info, found, sameId⟩ := has
  rw [AckHandler.ack, found]
  dsimp only
  split
  · have counted : Identified
        { handler.record (.acked ackId ref status) with
          infos := handler.infos.set ref { info with ackCount := info.ackCount + 1 } } :=
      received.setInfo found rfl rfl rfl fun _ => rfl
    have known : AckHandler.Has
        { handler.record (.acked ackId ref status) with
          infos := handler.infos.set ref { info with ackCount := info.ackCount + 1 } }
        ref ackId :=
      ⟨_, List.getElem?_set_self (List.getElem?_eq_some_iff.mp found).1, sameId⟩
    split
    · split_ifs
      · exact counted.spawn known
      · exact counted
    · exact counted
  · have completed := received.complete ref (ackOutcome context info.kind status payload)
    have grows : Grows handler ((handler.record (.acked ackId ref status)).complete ref
        (ackOutcome context info.kind status payload)).2 :=
      (Grows.record handler _).trans (.complete _ ref _)
    split
    next acked won =>
      rw [won] at completed grows
      exact completed.spawn ⟨ref, grows.has ⟨info, found, sameId⟩⟩
    next acked lost =>
      rw [lost] at completed
      exact completed

theorem count (identified : Identified handler) {ackId : Int32} {ref : Nat}
    (expectedCount : Int32) (has : handler.Has ref ackId) :
    Identified (handler.count ackId ref expectedCount) := by
  obtain ⟨info, found, sameId⟩ := has
  rw [AckHandler.count, found]
  dsimp only
  split_ifs
  · have counted : Identified
        { handler with
          infos := handler.infos.set ref { info with expectedCount := some expectedCount } } :=
      identified.setInfo found rfl rfl rfl fun _ => rfl
    have known : AckHandler.Has
        { handler with
          infos := handler.infos.set ref { info with expectedCount := some expectedCount } }
        ref ackId :=
      ⟨_, List.getElem?_set_self (List.getElem?_eq_some_iff.mp found).1, sameId⟩
    exact counted.spawn known
  · exact identified.setInfo found rfl rfl rfl fun _ => rfl
  · exact identified

theorem checkAck (identified : Identified handler) (utcNow : Nat) (ackId : Int32) :
    Identified (handler.checkAck utcNow ackId) := by
  rw [AckHandler.checkAck]
  cases stored : handler.tryGetValue ackId with
  | none => exact identified
  | some ref =>
      have has := identified.stored _ (mem_acks_of_tryGetValue stored)
      dsimp only
      cases handler.infos[ref]? with
      | none => exact identified
      | some info =>
          dsimp only
          split_ifs
          · have recorded : Identified (handler.record (.expired ref)) :=
              identified.record has.inside
            exact recorded.spawn has
          · exact identified

theorem timeOut (identified : Identified handler) (ref : Nat) :
    Identified (handler.timeOut context ref) := by
  rw [AckHandler.timeOut]
  cases found : handler.infos[ref]? with
  | none => exact identified
  | some info =>
      dsimp only
      split
      · have forced : Identified
            { handler with
              infos := handler.infos.set ref
                { info with ackCount := info.expectedCount.getD 0 } } :=
          identified.setInfo found rfl rfl rfl fun _ => rfl
        apply forced.spawn
        change ref < (handler.infos.set ref _).length
        rw [List.length_set]
        exact (List.getElem?_eq_some_iff.mp found).1
      · exact identified.complete ref _

/-- A thread that goes on only when it has removed the entry itself. -/
theorem removeThen (identified : Identified handler) (ackId : Int32) {task : AckTask}
    (known : TaskKnown handler task) :
    Identified
      (match handler.tryRemove ackId with
      | (true, removed) => removed.spawn task
      | (false, removed) => removed) := by
  have removed := identified.tryRemove ackId
  have grows := Grows.tryRemove handler ackId
  split
  next after won =>
    rw [won] at removed grows
    exact removed.spawn (known.mono grows)
  next after lost =>
    rw [lost] at removed
    exact removed

theorem runTask (identified : Identified handler) {task : AckTask}
    (known : TaskKnown handler task) : Identified (handler.runTask context task) := by
  cases task with
  | acking ackId ref status payload => exact identified.ack status payload known
  | completing ackId ref status =>
      apply (identified.complete ref _).spawn
      exact ⟨ref, (Grows.complete handler ref _).has known⟩
  | removing ackId => exact identified.tryRemove ackId
  | counting ackId ref expectedCount => exact identified.count expectedCount known
  | expiring ackId ref => exact identified.removeThen ackId (AckHandler.Has.inside known)
  | timingOut ref => exact identified.timeOut ref
  | forcing ref => exact identified.complete ref _
  | disposing | canceling => exact known.elim

theorem resume (identified : Identified handler) {thread : Nat} {task : AckTask}
    (found : handler.tasks[thread]? = some task) :
    Identified
      ({ handler with tasks := handler.tasks.eraseIdx thread }.runTask context task) := by
  apply (identified.eraseTask thread).runTask
  exact (identified.known task (List.mem_of_getElem? found)).mono
    (.of_same (fun _ => id) id rfl rfl (le_refl _))

theorem step (identified : Identified handler) {action : AckAction}
    (serving : action ≠ .dispose) (few : next.handles.length < 2 ^ 32)
    (stepped : ackStep context handler action = some next) : Identified next := by
  cases action with
  | create kind ackTimeout =>
      rw [ackStep, Option.some.injEq] at stepped
      rw [← stepped] at few ⊢
      exact identified.create few
  | getOrAdd index =>
      rw [ackStep] at stepped
      cases found : handler.handles[index]? with
      | none => simp only [found, reduceCtorEq] at stepped
      | some handle =>
          cases task : handle.task with
          | creating timeout =>
              simp only [found, task, Option.some.injEq] at stepped
              rw [← stepped]
              exact identified.getOrAdd found task
          | registering | info | completed | threw =>
              simp only [found, task, reduceCtorEq] at stepped
  | register index =>
      rw [ackStep] at stepped
      cases found : handler.handles[index]? with
      | none => simp only [found, reduceCtorEq] at stepped
      | some handle =>
          cases task : handle.task with
          | registering ref =>
              simp only [found, task, Option.some.injEq] at stepped
              rw [← stepped]
              exact identified.register found task
          | creating | info | completed | threw =>
              simp only [found, task, reduceCtorEq] at stepped
  | cancelToken index =>
      rw [ackStep] at stepped
      cases found : handler.handles[index]? with
      | none => simp only [found, reduceCtorEq] at stepped
      | some handle =>
          simp only [found, Option.some.injEq] at stepped
          rw [← stepped]
          exact identified.cancelToken found
  | triggerAck ackId status payload =>
      rw [ackStep, Option.some.injEq] at stepped
      rw [← stepped]
      exact identified.triggerAck ackId status payload
  | setExpectedCount ackId expectedCount =>
      rw [ackStep, Option.some.injEq] at stepped
      rw [← stepped]
      exact identified.setExpectedCount ackId expectedCount
  | sweep =>
      rw [ackStep] at stepped
      split_ifs at stepped
      rw [Option.some.injEq] at stepped
      rw [← stepped]
      exact identified.of_calls (.of_same (fun _ => id) id rfl rfl (le_refl _)) rfl rfl rfl rfl
        (fun _ => id) (fun _ => .inl) fun _ => .inl
  | checkAck sweep ackId =>
      rw [ackStep] at stepped
      cases found : handler.sweeps[sweep]? with
      | none => simp only [found, reduceCtorEq] at stepped
      | some utcNow =>
          simp only [found, Option.some.injEq] at stepped
          rw [← stepped]
          exact identified.checkAck utcNow ackId
  | dispose => exact absurd rfl serving
  | disposeAck ackId =>
      rw [ackStep, if_neg (by simp [identified.serving])] at stepped
      cases stepped
  | resume thread =>
      rw [ackStep] at stepped
      cases found : handler.tasks[thread]? with
      | none => simp only [found, reduceCtorEq] at stepped
      | some task =>
          simp only [found, Option.some.injEq] at stepped
          rw [← stepped]
          exact identified.resume found
  | tick =>
      rw [ackStep, Option.some.injEq] at stepped
      rw [← stepped]
      exact identified.of_calls (.of_same (fun _ => id) id rfl rfl (Nat.le_succ _)) rfl rfl rfl
        rfl (fun _ => id) (fun _ => .inl) fun _ => .inl

end Identified

end AzureSignalR.Utilities
