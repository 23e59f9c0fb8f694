import AzureSignalR.Utilities.AckGrowth

/-!
Contract: what completes the task of a single ack.

Owns: the events that account for an outcome, and the invariant that accounts
for every outcome of a handler without multi acks, as far as the handler is
not disposed under a caller.

`live` are the callers that are not to be disturbed when the handler is
disposed; a call is its index in `handles`.
-/

set_option autoImplicit false

namespace AzureSignalR.Utilities

open Library Library.Machine

variable {τ : Type} {context : AckContext τ} {handler next : AckHandler τ}

/-! ## Accounts -/

namespace AckHandler

/-- The info is the one stored for the id. -/
def Has (handler : AckHandler τ) (ref : Nat) (id : Int32) : Prop :=
  ∃ info, handler.infos[ref]? = some info ∧ info.id = id

/-- The outcome of the task a caller holds. -/
def outcome (handler : AckHandler τ) (handle : AckHandle τ) : Option (AckOutcome τ) :=
  match handle.task with
  | .info ref =>
      ((handler.infos[ref]?).bind AckInfo.outcome).map (AckOutcome.returned handle.kind)
  | .completed outcome => some outcome
  | .creating _ | .registering _ | .threw _ => none

/-- The call has ended, and its task has completed. -/
def settled (handler : AckHandler τ) (handle : AckHandle τ) : Bool :=
  match handle.task with
  | .threw _ => true
  | .creating _ | .registering _ | .info _ | .completed _ => (handler.outcome handle).isSome

/-- An `Ok` ack with the id of the call has reached the task the caller holds. -/
def AckedOk (handler : AckHandler τ) (index : Nat) : Prop :=
  ∃ (handle : AckHandle τ) (ref : Nat), handler.handles[index]? = some handle ∧
    handle.task = .info ref ∧ .acked handle.id ref .ok ∈ handler.log

/-- No undisturbed caller holds the info. -/
def Unheld (live : Nat → Prop) (handler : AckHandler τ) (ref : Nat) : Prop :=
  ∀ index handle, live index → handler.handles[index]? = some handle →
    handle.task ≠ .info ref

end AckHandler

/-- The outcome of a single ack has a cause of its own; only the disposal of the
handler cancels an ack without one, and none that an undisturbed caller
holds. -/
def Accounted (live : Nat → Prop) (handler : AckHandler τ) (ref : Nat) (id : Int32) :
    AckOutcome τ → Prop
  | .status status =>
      .acked id ref status ∈ handler.log ∨ (status = .timeout ∧ .expired ref ∈ handler.log)
  | .payload _ | .faulted _ =>
      (∃ status, .acked id ref status ∈ handler.log) ∨ .expired ref ∈ handler.log
  | .canceled => .canceled ref ∈ handler.log ∨ (handler.disposed = true ∧ handler.Unheld live ref)

/-- What a thread of a handler without multi acks relies on. -/
def TaskSound (handler : AckHandler τ) : AckTask → Prop
  | .acking id ref _ _ => handler.Has ref id
  | .removing _ => True
  | .expiring _ ref => .expired ref ∈ handler.log
  | .timingOut ref => .expired ref ∈ handler.log
  | .disposing _ _ => handler.disposed = true
  | .canceling _ => handler.disposed = true
  | .completing _ _ _ => False
  | .counting _ _ _ => False
  | .forcing _ => False

structure Sound (live : Nat → Prop) (handler : AckHandler τ) : Prop where
  stored : ∀ entry ∈ handler.acks, handler.Has entry.2 entry.1
  held : ∀ (index : Nat) (handle : AckHandle τ) (ref : Nat),
    handler.handles[index]? = some handle →
      handle.task = .info ref ∨ handle.task = .registering ref → handler.Has ref handle.id
  single : ∀ info ∈ handler.infos, info.kind ≠ .multi
  asked : ∀ handle ∈ handler.handles, handle.kind ≠ .multi
  tasks : ∀ task ∈ handler.tasks, TaskSound handler task
  accounted : ∀ (ref : Nat) (info : AckInfo τ) (outcome : AckOutcome τ),
    handler.infos[ref]? = some info → info.outcome = some outcome →
      Accounted live handler ref info.id outcome
  settled : handler.disposed = true → ∀ (index : Nat) (handle : AckHandle τ), live index →
    handler.handles[index]? = some handle → handler.settled handle = true
  /-- No undisturbed caller has been told that there is nothing to wait for. -/
  awaited : ∀ (index : Nat) (handle : AckHandle τ) (outcome : AckOutcome τ), live index →
    handler.handles[index]? = some handle → handle.task ≠ .completed outcome

variable {live : Nat → Prop}

/-! ## Effects -/

theorem Grows.has (grows : Grows handler next) {ref : Nat} {ackId : Int32}
    (found : handler.Has ref ackId) : next.Has ref ackId := by
  obtain ⟨info, present, sameId⟩ := found
  obtain ⟨after, later, keptId, -⟩ := grows.kept ref info present
  exact ⟨after, later, keptId.trans sameId⟩

/-- A task keeps its outcome. -/
theorem Grows.outcome (grows : Grows handler next) {index : Nat} {handle : AckHandle τ}
    {outcome : AckOutcome τ} (found : handler.handles[index]? = some handle)
    (completed : handler.outcome handle = some outcome) :
    ∃ later, next.handles[index]? = some later ∧ next.outcome later = some outcome := by
  obtain ⟨later, present, -, keptKind, -, keptTask⟩ := grows.called index handle found
  refine ⟨later, present, ?_⟩
  rw [AckHandler.outcome] at completed ⊢
  rw [keptKind]
  cases task : handle.task with
  | creating | registering | threw => simp only [task, reduceCtorEq] at completed
  | completed =>
      rw [keptTask (by rw [task]; rfl), task]
      rw [task] at completed
      exact completed
  | info ref =>
      rw [keptTask (by rw [task]; rfl), task]
      simp only [task] at completed ⊢
      obtain ⟨decided, isDecided, isReturned⟩ := Option.map_eq_some_iff.mp completed
      obtain ⟨info, before, isOutcome⟩ := Option.bind_eq_some_iff.mp isDecided
      obtain ⟨after, still, -, -, -, keptOutcome⟩ := grows.kept ref info before
      rw [still, Option.bind_some, keptOutcome (by simp [isOutcome]), isOutcome, Option.map_some,
        isReturned]

theorem Grows.settled (grows : Grows handler next) {handle : AckHandle τ}
    (settled : handler.settled handle = true) : next.settled handle = true := by
  rw [AckHandler.settled] at settled ⊢
  rw [AckHandler.outcome] at settled ⊢
  cases task : handle.task with
  | threw => rfl
  | creating | registering | completed =>
      rw [task] at settled
      exact settled
  | info ref =>
      simp only [task, Option.isSome_map] at settled ⊢
      cases found : handler.infos[ref]? with
      | none =>
          rw [found] at settled
          exact absurd settled Bool.false_ne_true
      | some info =>
          rw [found] at settled
          obtain ⟨after, later, -, -, -, completed⟩ := grows.kept ref info found
          rw [later, Option.bind_some]
          rw [Option.bind_some] at settled
          rw [completed (Option.isSome_iff_ne_none.mp settled)]
          exact settled

/-- A continuation makes no status of anything else. -/
theorem AckOutcome.returned_status {kind : AckKind} {outcome : AckOutcome τ} {status : AckStatus}
    (isStatus : outcome.returned kind = .status status) : outcome = .status status := by
  cases kind with
  | singleStatus | multi => exact isStatus
  | singlePayload =>
      cases outcome with
      | status => exact isStatus
      | payload | faulted | canceled => cases isStatus

theorem Grows.ackedOk (grows : Grows handler next) {index : Nat}
    (acked : handler.AckedOk index) : next.AckedOk index := by
  obtain ⟨handle, ref, found, task, received⟩ := acked
  obtain ⟨after, later, sameId, -, -, sameTask⟩ := grows.called index handle found
  refine ⟨after, ref, later, ?_, ?_⟩
  · rw [sameTask (by rw [task]; rfl), task]
  · rw [sameId]
    exact grows.log _ received

theorem Accounted.mono {ref : Nat} {ackId : Int32} {outcome : AckOutcome τ}
    (accounted : Accounted live handler ref ackId outcome) (grows : Grows handler next)
    (unheld : handler.disposed = true → handler.Unheld live ref → next.Unheld live ref) :
    Accounted live next ref ackId outcome := by
  cases outcome with
  | status status =>
      rcases accounted with acked | ⟨timeout, expired⟩
      · exact .inl (grows.log _ acked)
      · exact .inr ⟨timeout, grows.log _ expired⟩
  | payload | faulted =>
      rcases accounted with ⟨status, acked⟩ | expired
      · exact .inl ⟨status, grows.log _ acked⟩
      · exact .inr (grows.log _ expired)
  | canceled =>
      rcases accounted with canceled | ⟨isDisposed, isUnheld⟩
      · exact .inl (grows.log _ canceled)
      · exact .inr ⟨grows.disposed isDisposed, unheld isDisposed isUnheld⟩

theorem TaskSound.mono {task : AckTask} (sound : TaskSound handler task)
    (grows : Grows handler next) : TaskSound next task := by
  cases task with
  | removing => trivial
  | acking => exact grows.has sound
  | expiring | timingOut => exact grows.log _ sound
  | disposing | canceling => exact grows.disposed sound
  | completing | counting | forcing => exact sound.elim

/-- A step that leaves the infos and the callers alone. -/
theorem Sound.of_same (sound : Sound live handler) (infos : next.infos = handler.infos)
    (handles : next.handles = handler.handles) (disposed : next.disposed = handler.disposed)
    (clock : handler.utcNow ≤ next.utcNow)
    (log : ∀ event ∈ handler.log, event ∈ next.log)
    (acks : ∀ entry ∈ next.acks, entry ∈ handler.acks)
    (tasks : ∀ task ∈ next.tasks, task ∈ handler.tasks ∨ TaskSound next task) :
    Sound live next := by
  have grows : Grows handler next :=
    .of_same log (fun isDisposed => disposed.trans isDisposed) infos handles clock
  constructor
  · intro entry member
    exact grows.has (sound.stored entry (acks entry member))
  · rw [handles]
    intro index handle ref found task
    exact grows.has (sound.held index handle ref found task)
  · rw [infos]
    exact sound.single
  · rw [handles]
    exact sound.asked
  · intro task member
    rcases tasks task member with earlier | taskSound
    · exact (sound.tasks task earlier).mono grows
    · exact taskSound
  · rw [infos]
    intro ref info outcome found completed
    apply (sound.accounted ref info outcome found completed).mono grows
    intro _ unheld
    rw [AckHandler.Unheld, handles]
    exact unheld
  · rw [disposed, handles]
    intro isDisposed index handle isLive found
    exact grows.settled (sound.settled isDisposed index handle isLive found)
  · rw [handles]
    exact sound.awaited

/-- Fewer callers to leave undisturbed. -/
theorem Sound.weaken {fewer : Nat → Prop} (sound : Sound live handler)
    (subset : ∀ index, index < handler.handles.length → fewer index → live index) :
    Sound fewer handler := by
  have isLive : ∀ (index : Nat) (handle : AckHandle τ),
      handler.handles[index]? = some handle → fewer index → live index := by
    intro index handle found
    obtain ⟨inside, -⟩ := List.getElem?_eq_some_iff.mp found
    exact subset index inside
  constructor
  · exact sound.stored
  · exact sound.held
  · exact sound.single
  · exact sound.asked
  · exact sound.tasks
  · intro ref info outcome found completed
    have accounted := sound.accounted ref info outcome found completed
    cases outcome with
    | status | payload | faulted => exact accounted
    | canceled =>
        rcases accounted with canceled | ⟨isDisposed, unheld⟩
        · exact .inl canceled
        · refine .inr ⟨isDisposed, fun index handle isFewer present => ?_⟩
          exact unheld index handle (isLive index handle present isFewer) present
  · intro isDisposed index handle isFewer found
    exact sound.settled isDisposed index handle (isLive index handle found isFewer) found
  · intro index handle outcome isFewer found
    exact sound.awaited index handle outcome (isLive index handle found isFewer) found

theorem Sound.record (sound : Sound live handler) (event : AckEvent) :
    Sound live (handler.record event) :=
  sound.of_same rfl rfl rfl (le_refl _)
    (fun _ member => List.mem_append_left _ member) (fun _ => id)
    fun _ => .inl

theorem Sound.spawn (sound : Sound live handler) {task : AckTask}
    (taskSound : TaskSound handler task) : Sound live (handler.spawn task) := by
  refine sound.of_same rfl rfl rfl (le_refl _) (fun _ => id) (fun _ => id) ?_
  intro other member
  rcases List.mem_append.mp member with earlier | itself
  · exact .inl earlier
  · rw [List.mem_singleton.mp itself]
    exact .inr (taskSound.mono (.spawn handler task))

theorem Sound.eraseTask (sound : Sound live handler) (thread : Nat) :
    Sound live { handler with tasks := handler.tasks.eraseIdx thread } :=
  sound.of_same rfl rfl rfl (le_refl _) (fun _ => id) (fun _ => id)
    fun _ member => .inl (List.mem_of_mem_eraseIdx member)

theorem Sound.tryRemove (sound : Sound live handler) (ackId : Int32) :
    Sound live (handler.tryRemove ackId).2 :=
  sound.of_same rfl rfl rfl (le_refl _) (fun _ => id)
    (fun _ => List.mem_of_mem_filter) fun _ => .inl

theorem Sound.complete (sound : Sound live handler) {ref : Nat} {outcome : AckOutcome τ}
    (accounted : ∀ info, handler.infos[ref]? = some info → info.outcome = none →
      Accounted live handler ref info.id outcome) :
    Sound live (handler.complete ref outcome).2 := by
  rcases complete_cases handler ref outcome with unchanged | ⟨info, found, pending, completes⟩
  · rw [unchanged]
    exact sound
  rw [completes]
  obtain ⟨inside, -⟩ := List.getElem?_eq_some_iff.mp found
  have lookup : ∀ other, (handler.infos.set ref { info with outcome := some outcome })[other]? =
      if ref = other then some { info with outcome := some outcome }
      else handler.infos[other]? := by
    intro other
    rw [List.getElem?_set]
    split_ifs with same
    · rfl
    · rfl
  have grows : Grows handler
      { handler with
        infos := handler.infos.set ref { info with outcome := some outcome } } :=
    .setInfo found rfl rfl rfl fun completed => absurd pending completed
  constructor
  · intro entry member
    exact grows.has (sound.stored entry member)
  · intro index handle held present task
    exact grows.has (sound.held index handle held present task)
  · intro other member
    rcases List.mem_or_eq_of_mem_set member with earlier | itself
    · exact sound.single other earlier
    · rw [itself]
      exact sound.single info (List.mem_of_getElem? found)
  · exact sound.asked
  · exact fun task member => (sound.tasks task member).mono grows
  · intro other after result present completed
    rw [lookup] at present
    split_ifs at present with itself
    · rw [Option.some.injEq] at present
      rw [← present] at completed ⊢
      rw [Option.some.injEq] at completed
      rw [← completed, ← itself]
      exact (accounted info found pending).mono grows fun _ => id
    · exact (sound.accounted other after result present completed).mono grows fun _ => id
  · intro isDisposed index handle isLive present
    exact grows.settled (sound.settled isDisposed index handle isLive present)
  · exact sound.awaited

theorem mem_acks_of_tryGetValue {ackId : Int32} {ref : Nat}
    (found : handler.tryGetValue ackId = some ref) : (ackId, ref) ∈ handler.acks := by
  rw [AckHandler.tryGetValue, Option.map_eq_some_iff] at found
  obtain ⟨entry, present, second⟩ := found
  have member := List.mem_of_find?_eq_some present
  have first := List.find?_some present
  rw [decide_eq_true_eq] at first
  rw [← first, ← second]
  exact member

/-- A new info under an id. -/
theorem Sound.addInfo (sound : Sound live handler) (info : AckInfo τ)
    (single : info.kind ≠ .multi) (pending : info.outcome = none) :
    Sound live
      { handler with
        infos := handler.infos ++ [info]
        acks := handler.acks ++ [(info.id, handler.infos.length)] } := by
  have grows : Grows handler
      { handler with
        infos := handler.infos ++ [info]
        acks := handler.acks ++ [(info.id, handler.infos.length)] } := .addInfo handler _ _
  constructor
  · intro entry member
    rcases List.mem_append.mp member with earlier | itself
    · exact grows.has (sound.stored entry earlier)
    · rw [List.mem_singleton.mp itself]
      exact ⟨info, List.getElem?_concat_length, rfl⟩
  · intro index handle ref found task
    exact grows.has (sound.held index handle ref found task)
  · intro other member
    rcases List.mem_append.mp member with earlier | itself
    · exact sound.single other earlier
    · rw [List.mem_singleton.mp itself]
      exact single
  · exact sound.asked
  · exact fun task member => (sound.tasks task member).mono grows
  · intro ref found outcome present completed
    rcases Nat.lt_or_ge ref handler.infos.length with inside | outside
    · rw [List.getElem?_append_left inside] at present
      exact (sound.accounted ref found outcome present completed).mono grows fun _ => id
    · rw [List.getElem?_append_right outside] at present
      have itself := List.mem_singleton.mp (List.mem_of_getElem? present)
      rw [itself, pending] at completed
      cases completed
  · intro isDisposed index handle isLive found
    exact grows.settled (sound.settled isDisposed index handle isLive found)
  · exact sound.awaited

/-- The call at the index goes on; an undisturbed one does not when the handler
is disposed. -/
theorem Sound.modifyHandle (sound : Sound live handler) {index : Nat} {handle after : AckHandle τ}
    {change : AckHandle τ → AckHandle τ} (found : handler.handles[index]? = some handle)
    (changed : change handle = after)
    (grows : Grows handler { handler with handles := handler.handles.modify index change })
    (keptKind : after.kind = handle.kind)
    (held : ∀ ref, after.task = .info ref ∨ after.task = .registering ref →
      handler.Has ref after.id)
    (awaited : ∀ outcome, after.task ≠ .completed outcome ∨ after.task = handle.task)
    (quiet : after.task = handle.task ∨ (handler.disposed = true → ¬ live index)) :
    Sound live { handler with handles := handler.handles.modify index change } := by
  have lookup : ∀ (other : Nat) (result : AckHandle τ),
      (handler.handles.modify index change)[other]? = some result →
        handler.handles[other]? = some result ∨ (other = index ∧ result = after) := by
    intro other result present
    rw [← changed]
    exact (getElem?_modify_cases found present).imp_left And.right
  constructor
  · exact sound.stored
  · intro other result ref present task
    rcases lookup other result present with earlier | ⟨-, rfl⟩
    · exact sound.held other result ref earlier task
    · exact held ref task
  · exact sound.single
  · intro result member
    obtain ⟨other, present⟩ := List.mem_iff_getElem?.mp member
    rcases lookup other result present with earlier | ⟨-, rfl⟩
    · exact sound.asked result (List.mem_of_getElem? earlier)
    · rw [keptKind]
      exact sound.asked handle (List.mem_of_getElem? found)
  · exact fun task member => (sound.tasks task member).mono grows
  · intro ref info outcome present completed
    apply (sound.accounted ref info outcome present completed).mono grows
    intro isDisposed unheld other result isLive here
    rcases lookup other result here with earlier | ⟨rfl, rfl⟩
    · exact unheld other result isLive earlier
    · rcases quiet with same | disturbed
      · rw [same]
        exact unheld other handle isLive found
      · exact absurd isLive (disturbed isDisposed)
  · intro isDisposed other result isLive here
    rcases lookup other result here with earlier | ⟨rfl, rfl⟩
    · exact sound.settled isDisposed other result isLive earlier
    · rcases quiet with same | disturbed
      · have settled := sound.settled isDisposed other handle isLive found
        rw [AckHandler.settled, AckHandler.outcome] at settled ⊢
        rw [same, keptKind]
        exact settled
      · exact absurd isLive (disturbed isDisposed)
  · intro other result outcome isLive here
    rcases lookup other result here with earlier | ⟨rfl, rfl⟩
    · exact sound.awaited other result outcome isLive earlier
    · rcases awaited outcome with differs | same
      · exact differs
      · rw [same]
        exact sound.awaited other handle outcome isLive found

/-- A call begins; an undisturbed one only before the handler is disposed. -/
theorem Sound.addHandle (sound : Sound live handler) {handle : AckHandle τ} (nextId : Int32)
    (single : handle.kind ≠ .multi)
    (begins : ∀ ref, ¬ (handle.task = .info ref ∨ handle.task = .registering ref))
    (undisturbed : live handler.handles.length →
      handler.disposed = false ∧ ∀ outcome, handle.task ≠ .completed outcome) :
    Sound live
      { handler with nextId := nextId, handles := handler.handles ++ [handle] } := by
  have grows : Grows handler
      { handler with nextId := nextId, handles := handler.handles ++ [handle] } :=
    .addHandle handler _ _
  constructor
  · exact sound.stored
  · intro index result ref present task
    rcases getElem?_concat_cases present with earlier | ⟨-, rfl⟩
    · exact sound.held index result ref earlier task
    · exact absurd task (begins ref)
  · exact sound.single
  · intro result member
    rcases List.mem_append.mp member with earlier | itself
    · exact sound.asked result earlier
    · rw [List.mem_singleton.mp itself]
      exact single
  · exact fun task member => (sound.tasks task member).mono grows
  · intro ref info outcome present completed
    apply (sound.accounted ref info outcome present completed).mono grows
    intro _ unheld index result isLive here
    rcases getElem?_concat_cases here with earlier | ⟨-, rfl⟩
    · exact unheld index result isLive earlier
    · exact fun task => begins ref (.inl task)
  · intro isDisposed index result isLive here
    rcases getElem?_concat_cases here with earlier | ⟨rfl, rfl⟩
    · exact sound.settled isDisposed index result isLive earlier
    · have absurdity := (undisturbed isLive).1.symm.trans isDisposed
      cases absurdity
  · intro index result outcome isLive here
    rcases getElem?_concat_cases here with earlier | ⟨rfl, rfl⟩
    · exact sound.awaited index result outcome isLive earlier
    · exact (undisturbed isLive).2 outcome

/-! ## Operations -/

theorem Sound.create (sound : Sound live handler) {kind : AckKind} (ackTimeout : Option Nat)
    (single : kind ≠ .multi)
    (undisturbed : live handler.handles.length → handler.disposed = false) :
    Sound live (handler.create context kind ackTimeout) := by
  rw [AckHandler.create]
  by_cases isDisposed : handler.disposed = true
  · rw [if_pos isDisposed]
    refine sound.addHandle _ single (by simp) fun isLive => ?_
    have absurdity := (undisturbed isLive).symm.trans isDisposed
    cases absurdity
  · rw [if_neg isDisposed]
    exact sound.addHandle _ single (by simp) fun isLive =>
      ⟨undisturbed isLive, fun _ => by rintro ⟨⟩⟩

theorem Sound.cancelByToken (sound : Sound live handler) (ref : Nat) :
    Sound live (handler.cancelByToken ref) := by
  apply (sound.record (.canceled ref)).complete
  intro _ _ _
  exact .inl (List.mem_append_right _ List.mem_cons_self)

theorem Sound.setTask (sound : Sound live handler) {index : Nat} {handle : AckHandle τ}
    {task : HandleTask τ} (found : handler.handles[index]? = some handle)
    (calling : handle.task.returned = false)
    (held : ∀ ref, task = .info ref ∨ task = .registering ref → handler.Has ref handle.id)
    (awaited : ∀ outcome, task ≠ .completed outcome)
    (disturbed : handler.disposed = true → ¬ live index) :
    Sound live (handler.setTask index task) :=
  sound.modifyHandle found rfl (.setTask found calling task) rfl held
    (fun outcome => .inl (awaited outcome)) (.inr disturbed)

/-- The call goes on with an info that is stored for its id. -/
theorem Sound.setFound (sound : Sound live handler) {index ref : Nat} {handle : AckHandle τ}
    (found : handler.handles[index]? = some handle) (calling : handle.task.returned = false)
    (has : handler.Has ref handle.id) (disturbed : handler.disposed = true → ¬ live index) :
    Sound live (handler.setTask index (AckHandler.found handle.kind ref)) := by
  unfold AckHandler.found
  split_ifs
  · apply sound.setTask found calling _ (by simp) disturbed
    intro other same
    have itself : ref = other := by simpa using same
    rw [← itself]
    exact has
  · apply sound.setTask found calling _ (by simp) disturbed
    intro other same
    have itself : ref = other := by simpa using same
    rw [← itself]
    exact has

theorem Sound.getOrAdd (sound : Sound live handler) {index : Nat} {handle : AckHandle τ}
    (found : handler.handles[index]? = some handle) (calling : handle.task.returned = false)
    (timeout : Nat) (disturbed : handler.disposed = true → ¬ live index) :
    Sound live (handler.getOrAdd index handle timeout) := by
  rw [AckHandler.getOrAdd]
  cases stored : handler.tryGetValue handle.id with
  | none =>
      have added := sound.addInfo
        { id := handle.id, kind := handle.kind, timeoutAt := handler.utcNow + timeout }
        (sound.asked handle (List.mem_of_getElem? found)) rfl
      refine added.setFound found calling ?_ disturbed
      exact ⟨_, List.getElem?_concat_length, rfl⟩
  | some ref =>
      have present := sound.stored _ (mem_acks_of_tryGetValue stored)
      dsimp only
      split
      · exact sound.setTask found calling (by simp) (by simp) disturbed
      · exact sound.setFound found calling present disturbed

theorem Sound.register (sound : Sound live handler) {index ref : Nat} {handle : AckHandle τ}
    (found : handler.handles[index]? = some handle) (task : handle.task = .registering ref)
    (disturbed : handler.disposed = true → ¬ live index) :
    Sound live (handler.register index handle ref) := by
  have has := sound.held index handle ref found (.inr task)
  have calling : handle.task.returned = false := by
    rw [task]
    rfl
  have registered : Sound live (handler.setTask index (.info ref)) := by
    apply sound.setTask found calling _ (by simp) disturbed
    intro other same
    have itself : ref = other := by simpa using same
    rw [← itself]
    exact has
  rw [AckHandler.register]
  split_ifs
  · exact registered.cancelByToken ref
  · exact registered

theorem Sound.cancelToken (sound : Sound live handler) {index : Nat} {handle : AckHandle τ}
    (found : handler.handles[index]? = some handle) :
    Sound live (handler.cancelToken index handle) := by
  have canceled : Sound live { handler with handles := handler.handles.modify index fun handle =>
      { handle with tokenCanceled := true } } :=
    sound.modifyHandle found rfl (.modifyHandle found rfl rfl (fun _ => rfl) fun _ => rfl)
      rfl
      (fun ref task => sound.held index handle ref found task) (fun _ => .inr rfl) (.inl rfl)
  rw [AckHandler.cancelToken]
  cases handle.task with
  | info ref =>
      dsimp only
      split_ifs
      · exact canceled
      · exact canceled.cancelByToken ref
  | creating | registering | completed | threw => exact canceled

theorem Sound.triggerAck (sound : Sound live handler) (ackId : Int32) (status : AckStatus)
    (payload : Option Bytes) : Sound live (handler.triggerAck ackId status payload) := by
  rw [AckHandler.triggerAck]
  cases stored : handler.tryGetValue ackId with
  | none => exact sound
  | some ref => exact sound.spawn (sound.stored _ (mem_acks_of_tryGetValue stored))

/-- Whatever a payload is parsed to, the ack or the timeout accounts for it. -/
theorem accounted_payloadOutcome {ref : Nat} {ackId : Int32} (status : AckStatus)
    (payload : Option Bytes)
    (cause : (∃ status, .acked ackId ref status ∈ handler.log) ∨ .expired ref ∈ handler.log) :
    Accounted live handler ref ackId (payloadOutcome context status payload) := by
  unfold payloadOutcome
  split_ifs
  · exact cause
  · cases payload with
    | none => exact cause
    | some bytes =>
        dsimp only
        cases context.parseMessagePayload bytes with
        | error => exact cause
        | ok => exact cause

theorem accounted_acked {ref : Nat} {ackId : Int32} {status : AckStatus} (kind : AckKind)
    (payload : Option Bytes) (acked : .acked ackId ref status ∈ handler.log) :
    Accounted live handler ref ackId (ackOutcome context kind status payload) := by
  cases kind with
  | singlePayload => exact accounted_payloadOutcome status payload (.inl ⟨status, acked⟩)
  | singleStatus | multi => exact .inl acked

theorem accounted_expired {ref : Nat} {ackId : Int32} (kind : AckKind)
    (expired : .expired ref ∈ handler.log) :
    Accounted live handler ref ackId (ackOutcome context kind .timeout none) := by
  cases kind with
  | singlePayload => exact accounted_payloadOutcome .timeout none (.inr expired)
  | singleStatus | multi => exact .inr ⟨rfl, expired⟩

theorem Sound.ack (sound : Sound live handler) {ackId : Int32} {ref : Nat} (status : AckStatus)
    (payload : Option Bytes) (has : handler.Has ref ackId) :
    Sound live (handler.ack context ackId ref status payload) := by
  obtain ⟨info, found, sameId⟩ := has
  have completed : Sound live ((handler.record (.acked ackId ref status)).complete ref
      (ackOutcome context info.kind status payload)).2 := by
    apply (sound.record _).complete
    intro other present _
    rw [AckHandler.record, found, Option.some.injEq] at present
    rw [← present, sameId]
    exact accounted_acked _ _ (List.mem_append_right _ List.mem_cons_self)
  have single := sound.single info (List.mem_of_getElem? found)
  rw [AckHandler.ack, found]
  cases kind : info.kind with
  | multi => exact absurd kind single
  | singleStatus | singlePayload =>
      rw [kind] at completed
      simp only [kind]
      split
      next acked won =>
        rw [won] at completed
        exact completed.spawn trivial
      next acked lost =>
        rw [lost] at completed
        exact completed

theorem Sound.checkAck (sound : Sound live handler) (utcNow : Nat) (ackId : Int32) :
    Sound live (handler.checkAck utcNow ackId) := by
  rw [AckHandler.checkAck]
  cases handler.tryGetValue ackId with
  | none => exact sound
  | some ref =>
      dsimp only
      cases handler.infos[ref]? with
      | none => exact sound
      | some info =>
          dsimp only
          split_ifs
          · apply (sound.record (.expired ref)).spawn
            exact List.mem_append_right _ List.mem_cons_self
          · exact sound

theorem Sound.timeOut (sound : Sound live handler) {ref : Nat}
    (expired : .expired ref ∈ handler.log) : Sound live (handler.timeOut context ref) := by
  rw [AckHandler.timeOut]
  cases found : handler.infos[ref]? with
  | none => exact sound
  | some info =>
      have single := sound.single info (List.mem_of_getElem? found)
      cases kind : info.kind with
      | multi => exact absurd kind single
      | singleStatus | singlePayload =>
          simp only [kind]
          exact sound.complete fun _ _ _ => accounted_expired _ expired

/-- A call of an undisturbed caller is not under way when the handler is
disposed. -/
theorem Sound.disturbed (sound : Sound live handler) {index : Nat} {handle : AckHandle τ}
    (found : handler.handles[index]? = some handle) (calling : handle.task.returned = false)
    (isDisposed : handler.disposed = true) : ¬ live index := by
  intro isLive
  have settled := sound.settled isDisposed index handle isLive found
  rw [AckHandler.settled, AckHandler.outcome] at settled
  cases task : handle.task with
  | creating | registering => simp only [task, Option.isSome_none, Bool.false_eq_true] at settled
  | info | completed | threw =>
      rw [task] at calling
      cases calling

/-- The disposal reaches only infos that no undisturbed caller waits for. -/
theorem Sound.unheld (sound : Sound live handler) (isDisposed : handler.disposed = true)
    {ref : Nat} {info : AckInfo τ} (found : handler.infos[ref]? = some info)
    (pending : info.outcome = none) : handler.Unheld live ref := by
  intro index handle isLive present task
  have settled := sound.settled isDisposed index handle isLive present
  rw [AckHandler.settled, AckHandler.outcome, task] at settled
  simp only [found, Option.bind_some, pending, Option.map_none] at settled
  cases settled

/-- A thread that goes on only when it has removed the ack itself. -/
theorem Sound.removeThen (sound : Sound live handler) (ackId : Int32) {task : AckTask}
    (taskSound : TaskSound handler task) :
    Sound live
      (match handler.tryRemove ackId with
      | (true, removed) => removed.spawn task
      | (false, removed) => removed) := by
  have removed := sound.tryRemove ackId
  cases found : (handler.tryGetValue ackId).isSome with
  | true =>
      rw [AckHandler.tryRemove, found]
      exact removed.spawn (taskSound.mono (.tryRemove handler ackId))
  | false =>
      rw [AckHandler.tryRemove, found]
      exact removed

theorem Sound.runTask (sound : Sound live handler) {task : AckTask}
    (taskSound : TaskSound handler task) : Sound live (handler.runTask context task) := by
  cases task with
  | acking ackId ref status payload => exact sound.ack status payload taskSound
  | removing ackId => exact sound.tryRemove ackId
  | expiring ackId ref => exact sound.removeThen ackId taskSound
  | timingOut ref => exact sound.timeOut taskSound
  | disposing ackId ref => exact sound.removeThen ackId taskSound
  | canceling ref =>
      apply sound.complete
      intro info found pending
      exact .inr ⟨taskSound, sound.unheld taskSound found pending⟩
  | completing | counting | forcing => exact taskSound.elim

/-! ## Steps -/

/-- The step is one of a container, and does not take the handler from under an
undisturbed caller. -/
def Undisturbed (live : Nat → Prop) (handler : AckHandler τ) : AckAction → Prop
  | .create kind _ =>
      kind ≠ .multi ∧ (live handler.handles.length → handler.disposed = false)
  | .setExpectedCount _ _ => False
  | .dispose => ∀ (index : Nat) (handle : AckHandle τ), live index →
      handler.handles[index]? = some handle → handler.settled handle = true
  | _ => True

theorem Sound.dispose (sound : Sound live handler)
    (settled : ∀ (index : Nat) (handle : AckHandle τ), live index →
      handler.handles[index]? = some handle → handler.settled handle = true) :
    Sound live { handler with disposed := true } := by
  have grows : Grows handler { handler with disposed := true } :=
    .of_same (fun _ => id) (fun _ => rfl) rfl rfl (le_refl _)
  constructor
  · exact sound.stored
  · exact sound.held
  · exact sound.single
  · exact sound.asked
  · exact fun task member => (sound.tasks task member).mono grows
  · intro ref info outcome found completed
    exact (sound.accounted ref info outcome found completed).mono grows fun _ => id
  · intro _ index handle isLive found
    exact grows.settled (settled index handle isLive found)
  · exact sound.awaited

theorem Sound.step (sound : Sound live handler) {action : AckAction}
    (undisturbed : Undisturbed live handler action)
    (stepped : ackStep context handler action = some next) : Sound live next := by
  cases action with
  | create kind ackTimeout =>
      rw [ackStep, Option.some.injEq] at stepped
      rw [← stepped]
      exact sound.create ackTimeout undisturbed.1 undisturbed.2
  | getOrAdd index =>
      rw [ackStep] at stepped
      cases found : handler.handles[index]? with
      | none => simp only [found, reduceCtorEq] at stepped
      | some handle =>
          cases task : handle.task with
          | creating timeout =>
              simp only [found, task, Option.some.injEq] at stepped
              rw [← stepped]
              have calling : handle.task.returned = false := by
                rw [task]
                rfl
              exact sound.getOrAdd found calling timeout (sound.disturbed found calling)
          | registering | info | completed | threw =>
              simp only [found, task, reduceCtorEq] at stepped
  | register index =>
      rw [ackStep] at stepped
      cases found : handler.handles[index]? with
      | none => simp only [found, reduceCtorEq] at stepped
      | some handle =>
          cases task : handle.task with
          | registering ref =>
              simp only [found, task, Option.some.injEq] at stepped
              rw [← stepped]
              apply sound.register found task
              apply sound.disturbed found
              rw [task]
              rfl
          | creating | info | completed | threw =>
              simp only [found, task, reduceCtorEq] at stepped
  | cancelToken index =>
      rw [ackStep] at stepped
      cases found : handler.handles[index]? with
      | none => simp only [found, reduceCtorEq] at stepped
      | some handle =>
          simp only [found, Option.some.injEq] at stepped
          rw [← stepped]
          exact sound.cancelToken found
  | triggerAck ackId status payload =>
      rw [ackStep, Option.some.injEq] at stepped
      rw [← stepped]
      exact sound.triggerAck ackId status payload
  | setExpectedCount => exact undisturbed.elim
  | sweep =>
      rw [ackStep] at stepped
      split_ifs at stepped
      rw [Option.some.injEq] at stepped
      rw [← stepped]
      exact sound.of_same rfl rfl rfl (le_refl _) (fun _ => id) (fun _ => id) fun _ => .inl
  | checkAck sweep ackId =>
      rw [ackStep] at stepped
      cases found : handler.sweeps[sweep]? with
      | none => simp only [found, reduceCtorEq] at stepped
      | some utcNow =>
          simp only [found, Option.some.injEq] at stepped
          rw [← stepped]
          exact sound.checkAck utcNow ackId
  | dispose =>
      rw [ackStep, Option.some.injEq] at stepped
      rw [← stepped]
      exact sound.dispose undisturbed
  | disposeAck ackId =>
      rw [ackStep] at stepped
      split_ifs at stepped with isDisposed
      cases found : handler.tryGetValue ackId with
      | none => simp only [found, reduceCtorEq] at stepped
      | some ref =>
          simp only [found, Option.some.injEq] at stepped
          rw [← stepped]
          exact sound.spawn isDisposed
  | resume thread =>
      rw [ackStep] at stepped
      cases found : handler.tasks[thread]? with
      | none => simp only [found, reduceCtorEq] at stepped
      | some task =>
          simp only [found, Option.some.injEq] at stepped
          rw [← stepped]
          have taskSound := sound.tasks task (List.mem_of_getElem? found)
          apply (sound.eraseTask thread).runTask
          exact taskSound.mono (.of_same (fun _ => id) id rfl rfl (le_refl _))
  | tick =>
      rw [ackStep, Option.some.injEq] at stepped
      rw [← stepped]
      exact sound.of_same rfl rfl rfl (Nat.le_succ _) (fun _ => id) (fun _ => id) fun _ => .inl

/-! ## Consequences -/

/-- A task that an undisturbed caller holds has a cause of its own when it is
completed. -/
theorem Sound.cause (sound : Sound live handler) {index ref : Nat} {handle : AckHandle τ}
    {info : AckInfo τ} (isLive : live index) (found : handler.handles[index]? = some handle)
    (task : handle.task = .info ref) (present : handler.infos[ref]? = some info)
    (completed : info.outcome ≠ none) :
    (∃ status, .acked handle.id ref status ∈ handler.log) ∨ .canceled ref ∈ handler.log ∨
      .expired ref ∈ handler.log := by
  obtain ⟨outcome, isOutcome⟩ := Option.ne_none_iff_exists'.mp completed
  have accounted := sound.accounted ref info outcome present isOutcome
  obtain ⟨other, also, sameId⟩ := sound.held index handle ref found (.inl task)
  rw [present, Option.some.injEq] at also
  rw [also, sameId] at accounted
  cases outcome with
  | status status =>
      rcases accounted with acked | ⟨-, expired⟩
      · exact .inl ⟨status, acked⟩
      · exact .inr (.inr expired)
  | payload | faulted =>
      rcases accounted with acked | expired
      · exact .inl acked
      · exact .inr (.inr expired)
  | canceled =>
      rcases accounted with canceled | ⟨-, unheld⟩
      · exact .inr (.inl canceled)
      · exact absurd task (unheld index handle isLive found)

/-- An undisturbed caller sees `Ok` only from an ack with its id. -/
theorem Sound.ackedOk (sound : Sound live handler) {index : Nat} {handle : AckHandle τ}
    (isLive : live index) (found : handler.handles[index]? = some handle)
    (isOk : handler.outcome handle = some (.status .ok)) : handler.AckedOk index := by
  rw [AckHandler.outcome] at isOk
  cases task : handle.task with
  | creating | registering | threw => simp only [task, reduceCtorEq] at isOk
  | completed outcome => exact absurd task (sound.awaited index handle outcome isLive found)
  | info ref =>
      simp only [task] at isOk
      obtain ⟨decided, isDecided, isReturned⟩ := Option.map_eq_some_iff.mp isOk
      rw [AckOutcome.returned_status isReturned] at isDecided
      obtain ⟨info, present, outcome⟩ := Option.bind_eq_some_iff.mp isDecided
      obtain ⟨other, also, sameId⟩ := sound.held index handle ref found (.inl task)
      rw [present, Option.some.injEq] at also
      have accounted := sound.accounted ref info _ present outcome
      rw [also, sameId] at accounted
      rcases accounted with acked | ⟨impossible, -⟩
      · exact ⟨handle, ref, found, task, acked⟩
      · exact absurd impossible (by decide)

end AzureSignalR.Utilities
