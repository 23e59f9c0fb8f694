import AzureSignalR.ServiceConnections.MultiEndpointObjects

/-!
Contract: what a caller is told who writes an ackable message to several endpoints.

Owns: the invariant of the results that the calls on the endpoints leave behind, in
every order in which they finish, the result of the whole write and that it comes.

Does not own: which endpoints a message is routed to.
-/

set_option autoImplicit false

namespace AzureSignalR.ServiceConnections

open Library Library.Machine Protocol

/-! ## The purpose -/

/-- The call has thrown. -/
def threw : Except WriteExn Bool → Bool
  | .error _ => true
  | .ok _ => false

/-- What the caller is to be told about these outcomes; nothing when the write
throws. -/
def aggregated (single : Bool) (outcomes : List (Except WriteExn Bool)) : Option Bool :=
  if single && outcomes.contains (.ok true) then some true
  else if outcomes.any threw then none
  else some (outcomes.contains (.ok true))

namespace MultiEndpointWrite

/-- The outcomes are those of the calls that have finished, whatever the others
will return. -/
def Completes (state : MultiEndpointWrite) (outcomes : List (Except WriteExn Bool)) : Prop :=
  List.Forall₂ (fun call outcome => ∀ found, call.outcome = some found → found = outcome)
    state.calls outcomes

end MultiEndpointWrite

variable {message : ServiceMessage} {first : Int32} {single : Bool}
  {state next : MultiEndpointWrite}

/-! ## Results -/

/-- Some endpoint has returned `true`, and its lambda has seen it. -/
def SomeTrue (calls : List EndpointCall) : Prop := ∃ call ∈ calls, call.noted = some true

def AllEnded (calls : List EndpointCall) : Prop := ∀ call ∈ calls, call.isEnded = true

/-- What `await writeMessageTask` gives, and the value behind it. -/
def awaited (written : Option AggregateExn) (value : Bool) : Except AggregateExn Bool :=
  match written with
  | none => .ok value
  | some error => .error error

/-- What is known where the task of the caller is. -/
def Located (single : Bool) (state : MultiEndpointWrite) : Prop :=
  match state.stage with
  | .starting => state.tcs ≠ some false
  | .waiting => state.tcs ≠ some false
  | .setting => single = true ∧
      (state.tcs = some true ∨ state.tcs = none ∧ state.writeMessageTask ≠ none)
  | .reading => single = true ∧ state.tcs ≠ none
  | .awaiting => single = true ∧ state.tcs = some false
  | .returned result =>
      (single = true ∧ state.tcs = some true ∧ result = .ok true) ∨
      ∃ written, state.writeMessageTask = some written ∧
        ((single = true ∧ state.tcs = some false ∧ result = awaited written false) ∨
          (single = false ∧ result = awaited written (state.bag.any id)))

structure Noted (single : Bool) (state : MultiEndpointWrite) : Prop where
  begun : state.stage ≠ .starting → state.started = state.calls.length
  noticed : single = true → SomeTrue state.calls → state.tcs ≠ none
  isTrue : state.tcs = some true → SomeTrue state.calls
  isFalse : state.tcs = some false → AllEnded state.calls ∧ ¬ SomeTrue state.calls
  bagged : single = false → (true ∈ state.bag ↔ SomeTrue state.calls)
  completed : ∀ written, state.writeMessageTask = some written →
    AllEnded state.calls ∧ written = whenAll state.calls
  located : Located single state

/-- With a call that has not ended, only a `true` result can have been seen. -/
theorem Located.carry (located : Located single state)
    (notWritten : state.writeMessageTask = none) (notFalse : state.tcs ≠ some false)
    (sameStage : next.stage = state.stage)
    (keepsTrue : state.tcs = some true → next.tcs = some true)
    (stillNotFalse : next.tcs ≠ some false) : Located single next := by
  unfold Located at located ⊢
  rw [sameStage]
  cases stage : state.stage with
  | starting => exact stillNotFalse
  | waiting => exact stillNotFalse
  | setting =>
      simp only [stage] at located
      obtain ⟨isSingle, isTrue | ⟨-, written⟩⟩ := located
      · exact ⟨isSingle, .inl (keepsTrue isTrue)⟩
      · exact absurd notWritten written
  | reading =>
      simp only [stage] at located
      obtain ⟨isSingle, isSet⟩ := located
      refine ⟨isSingle, ?_⟩
      cases set : state.tcs with
      | none => exact absurd set isSet
      | some value =>
          cases value with
          | true => simp [keepsTrue set]
          | false => exact absurd set notFalse
  | awaiting =>
      simp only [stage] at located
      exact absurd located.2 notFalse
  | returned result =>
      simp only [stage] at located
      rcases located with ⟨isSingle, isTrue, isResult⟩ | ⟨written, isWritten, -⟩
      · exact .inl ⟨isSingle, keepsTrue isTrue, isResult⟩
      · rw [notWritten] at isWritten
        cases isWritten

/-! ### Steps of the calls -/

theorem mem_set_self {calls : List EndpointCall} {index : Nat} {call changed : EndpointCall}
    (present : calls[index]? = some call) : changed ∈ calls.set index changed := by
  have inside := (List.getElem?_eq_some_iff.mp present).1
  exact List.mem_iff_getElem?.mpr ⟨index, by rw [List.getElem?_set_self inside]⟩

/-- A call of which the result has not been noted is replaced. -/
theorem someTrue_set {calls : List EndpointCall} {index : Nat} {call changed : EndpointCall}
    (present : calls[index]? = some call)
    (notTrue : call.noted = some true → changed.noted = some true) :
    SomeTrue (calls.set index changed) ↔ SomeTrue calls ∨ changed.noted = some true := by
  constructor
  · rintro ⟨other, member, isTrue⟩
    rcases List.mem_or_eq_of_mem_set member with before | rfl
    · exact .inl ⟨other, before, isTrue⟩
    · exact .inr isTrue
  · rintro (⟨other, member, isTrue⟩ | isTrue)
    · obtain ⟨position, found⟩ := List.mem_iff_getElem?.mp member
      by_cases here : position = index
      · rw [here, present] at found
        cases found
        exact ⟨changed, mem_set_self present, notTrue isTrue⟩
      · refine ⟨other, List.mem_iff_getElem?.mpr ⟨position, ?_⟩, isTrue⟩
        rw [List.getElem?_set_ne (Ne.symm here)]
        exact found
    · exact ⟨changed, mem_set_self present, isTrue⟩

theorem not_allEnded {calls : List EndpointCall} {index : Nat} {call : EndpointCall}
    (present : calls[index]? = some call) (running : call.isEnded = false) :
    ¬ AllEnded calls := by
  intro allEnded
  have ended := allEnded call (List.mem_of_getElem? present)
  rw [running] at ended
  cases ended

namespace Noted

theorem initial (single : Bool) (message : ServiceMessage) (first : Int32)
    (serverEndpoints : List String) :
    Noted single (writeAckableMessage message first serverEndpoints) := by
  have nothing : ¬ SomeTrue (writeAckableMessage message first serverEndpoints).calls := by
    rintro ⟨call, member, isTrue⟩
    obtain ⟨_, -, rfl⟩ := List.mem_map.mp member
    cases isTrue
  constructor
  · exact fun started => absurd rfl started
  · exact fun _ isTrue => absurd isTrue nothing
  · exact fun isTrue => nomatch isTrue
  · exact fun isFalse => nomatch isFalse
  · exact fun _ => ⟨fun inBag => (nomatch inBag), fun isTrue => absurd isTrue nothing⟩
  · exact fun _ written => nomatch written
  · exact fun isFalse => nomatch isFalse

/-- One call goes on. What it returned is seen now or was seen before. -/
theorem replace (noted : Noted single state) {index : Nat} {call changed : EndpointCall}
    (present : state.calls[index]? = some call) (running : call.isEnded = false)
    (kept : call.noted = some true → changed.noted = some true)
    (calls : next.calls = state.calls.set index changed) (sameStage : next.stage = state.stage)
    (sameWritten : next.writeMessageTask = state.writeMessageTask)
    (begun : next.stage ≠ .starting → next.started = next.calls.length)
    (tcs : next.tcs = state.tcs ∨
      changed.noted = some true ∧ next.tcs = state.tcs.or (some true))
    (noticed : single = true → changed.noted = some true → next.tcs ≠ none)
    (bag : single = false →
      (true ∈ next.bag ↔ true ∈ state.bag ∨ changed.noted = some true)) :
    Noted single next := by
  have pending := not_allEnded present running
  have notWritten : state.writeMessageTask = none := by
    cases written : state.writeMessageTask with
    | none => rfl
    | some result => exact absurd (noted.completed result written).1 pending
  have notFalse : state.tcs ≠ some false := fun isFalse =>
    pending (noted.isFalse isFalse).1
  have keepsTrue : state.tcs = some true → next.tcs = some true := by
    intro isTrue
    rcases tcs with same | ⟨-, set⟩
    · rw [same, isTrue]
    · rw [set, isTrue]
      rfl
  have stillNotFalse : next.tcs ≠ some false := by
    intro isFalse
    rcases tcs with same | ⟨-, set⟩
    · exact notFalse (same ▸ isFalse)
    · rw [set] at isFalse
      cases before : state.tcs with
      | none =>
          rw [before] at isFalse
          cases isFalse
      | some value =>
          rw [before] at isFalse
          exact notFalse (before.trans isFalse)
  constructor
  · exact begun
  · intro isSingle isTrue
    rw [calls, someTrue_set present kept] at isTrue
    rcases isTrue with before | now
    · have wasSet := noted.noticed isSingle before
      cases set : state.tcs with
      | none => exact absurd set wasSet
      | some value =>
          cases value with
          | true => simp [keepsTrue set]
          | false => exact absurd set notFalse
    · exact noticed isSingle now
  · intro isTrue
    rw [calls, someTrue_set present kept]
    rcases tcs with same | ⟨now, -⟩
    · exact .inl (noted.isTrue (same ▸ isTrue))
    · exact .inr now
  · exact fun isFalse => absurd isFalse stillNotFalse
  · intro isMulti
    rw [bag isMulti, noted.bagged isMulti, calls, someTrue_set present kept]
  · intro written isWritten
    rw [sameWritten, notWritten] at isWritten
    cases isWritten
  · exact noted.located.carry notWritten notFalse sameStage keepsTrue stillNotFalse

/-- A call goes on without a result. -/
theorem setStage (noted : Noted single state) {index : Nat} {call : EndpointCall}
    (present : state.calls[index]? = some call) (running : call.isEnded = false)
    {stage : CallStage} (same : { call with stage := stage }.noted = call.noted) :
    Noted single (state.setStage index call stage) := by
  refine noted.replace present running (fun isTrue => same.trans isTrue) rfl rfl rfl ?_
    (.inl rfl) ?_ ?_
  · intro begun
    change state.started = (state.calls.set index _).length
    rw [List.length_set]
    exact noted.begun begun
  · intro isSingle isTrue
    exact noted.noticed isSingle ⟨call, List.mem_of_getElem? present, same ▸ isTrue⟩
  · intro isMulti
    change true ∈ state.bag ↔ _
    rw [noted.bagged isMulti]
    constructor
    · exact .inl
    · rintro (before | isTrue)
      · exact before
      · exact ⟨call, List.mem_of_getElem? present, same ▸ isTrue⟩

theorem createAck (noted : Noted single state) : Noted single state.createAck :=
  ⟨noted.begun, noted.noticed, noted.isTrue, noted.isFalse, noted.bagged, noted.completed,
    noted.located⟩

theorem start (noted : Noted single state) (cloned : Cloned message first state)
    {failure : Option WriteExn} (started : state.start failure = some next) :
    Noted single next := by
  unfold MultiEndpointWrite.start at started
  rw [cloned.caller] at started
  cases present : state.calls[state.started]? with
  | none =>
      rw [present] at started
      cases started
  | some call =>
      rw [present] at started
      have inside := (List.getElem?_eq_some_iff.mp present).1
      have fresh := (cloned.unstarted _ call present (Nat.le_refl _)).2.2.2
      have running : call.isEnded = false := by rw [EndpointCall.isEnded, fresh]
      have unnoted : call.noted = none := by rw [EndpointCall.noted, fresh]
      have starting : state.stage = .starting := by
        by_contra begun
        exact absurd (noted.begun begun) (Nat.ne_of_lt inside)
      cases failure with
      | none =>
          cases started
          refine noted.replace present running ?_ rfl rfl rfl ?_ (.inl rfl) ?_ ?_
          · intro isTrue
            rw [unnoted] at isTrue
            cases isTrue
          · exact fun begun => absurd starting begun
          · exact fun _ isTrue => by cases isTrue
          · exact fun _ => ⟨.inl, fun either => either.elim id fun isTrue => by cases isTrue⟩
      | some error =>
          cases started
          refine noted.replace present running ?_ rfl rfl rfl ?_ (.inl rfl) ?_ ?_
          · intro isTrue
            rw [unnoted] at isTrue
            cases isTrue
          · exact fun begun => absurd starting begun
          · exact fun _ isTrue => by cases isTrue
          · exact fun _ => ⟨.inl, fun either => either.elim id fun isTrue => by cases isTrue⟩

/-- The lambda sees the result of its call. -/
theorem note (noted : Noted single state) {index : Nat} {call : EndpointCall} {value : Bool}
    (present : state.calls[index]? = some call) (finished : call.stage = .finished (.ok value)) :
    Noted single ((state.note single value).setStage index call (.recorded value)) := by
  have running : call.isEnded = false := by rw [EndpointCall.isEnded, finished]
  have unnoted : call.noted = none := by rw [EndpointCall.noted, finished]
  have began : state.stage ≠ .starting →
      state.started = (state.calls.set index { call with stage := .recorded value }).length := by
    intro begun
    rw [List.length_set]
    exact noted.begun begun
  have kept : call.noted = some true →
      { call with stage := .recorded value }.noted = some true := by
    intro isTrue
    rw [unnoted] at isTrue
    cases isTrue
  unfold MultiEndpointWrite.note
  cases single with
  | true =>
      rw [if_pos rfl]
      cases value with
      | true =>
          rw [if_pos rfl]
          refine noted.replace present running kept rfl rfl rfl began (.inr ⟨rfl, rfl⟩) ?_
            (fun isMulti => by cases isMulti)
          intro _ _
          change state.tcs.or (some true) ≠ none
          cases state.tcs <;> simp
      | false =>
          rw [if_neg (by decide)]
          exact noted.replace present running kept rfl rfl rfl began (.inl rfl)
            (fun _ isTrue => by cases isTrue) (fun isMulti => by cases isMulti)
  | false =>
      rw [if_neg (by decide)]
      refine noted.replace present running kept rfl rfl rfl began (.inl rfl)
        (fun isSingle => by cases isSingle) (fun _ => ?_)
      change true ∈ state.bag ++ [value] ↔ true ∈ state.bag ∨ some value = some true
      rw [List.mem_append, List.mem_singleton, Option.some.injEq, eq_comm (a := true)]

theorem finish (noted : Noted single state) {index : Nat} {call : EndpointCall}
    {outcome : Except WriteExn Bool} (present : state.calls[index]? = some call)
    (finished : state.finish index call outcome = some next) : Noted single next := by
  unfold MultiEndpointWrite.finish at finished
  cases stage : call.stage with
  | writing =>
      simp only [stage, Option.some.injEq] at finished
      rw [← finished]
      refine noted.setStage present ?_ ?_
      · rw [EndpointCall.isEnded, stage]
      · simp only [EndpointCall.noted, stage]
  | unstarted | finished | recorded | ended => simp [stage] at finished

theorem resume (noted : Noted single state) {index : Nat} {call : EndpointCall}
    (present : state.calls[index]? = some call)
    (resumed : state.resume single index call = some next) : Noted single next := by
  unfold MultiEndpointWrite.resume at resumed
  cases stage : call.stage with
  | finished outcome =>
      cases outcome with
      | error error =>
          simp only [stage, Option.some.injEq] at resumed
          rw [← resumed]
          refine noted.setStage present ?_ ?_
          · rw [EndpointCall.isEnded, stage]
          · simp only [EndpointCall.noted, stage]
      | ok value =>
          simp only [stage, Option.some.injEq] at resumed
          rw [← resumed]
          exact noted.note present stage
  | recorded value =>
      simp only [stage, Option.some.injEq] at resumed
      rw [← resumed]
      refine noted.setStage present ?_ ?_
      · rw [EndpointCall.isEnded, stage]
      · simp only [EndpointCall.noted, stage]
  | unstarted | writing | ended => simp [stage] at resumed

/-! ### Steps of the caller -/

theorem completeWrite (noted : Noted single state)
    (completed : state.completeWrite = some next) : Noted single next := by
  unfold MultiEndpointWrite.completeWrite at completed
  split_ifs at completed with ready
  obtain ⟨begun, notWritten, allEnded⟩ := ready
  cases completed
  have carried : Located single { state with writeMessageTask := some (whenAll state.calls) } := by
    have located := noted.located
    unfold Located at located ⊢
    cases stage : state.stage with
    | starting => exact absurd stage begun
    | waiting | reading | awaiting => simpa only [stage] using located
    | setting =>
        simp only [stage, notWritten] at located ⊢
        exact ⟨located.1, located.2.imp id fun unset => ⟨unset.1, Option.some_ne_none _⟩⟩
    | returned result =>
        simp only [stage, notWritten] at located ⊢
        rcases located with isTrue | ⟨written, impossible, -⟩
        · exact .inl isTrue
        · cases impossible
  exact ⟨noted.begun, noted.noticed, noted.isTrue, noted.isFalse, noted.bagged,
    fun written isWritten => by cases isWritten; exact ⟨allEnded, rfl⟩, carried⟩

/-- The caller goes on without an effect on the results. -/
theorem moveTo (noted : Noted single state) {stage : WriterStage}
    (begun : state.started = state.calls.length)
    (located : Located single { state with stage := stage }) :
    Noted single { state with stage := stage } :=
  ⟨fun _ => begun, noted.noticed, noted.isTrue, noted.isFalse, noted.bagged, noted.completed,
    located⟩

theorem awaitWrite (noted : Noted single state) {value : Bool}
    (begun : state.started = state.calls.length)
    (here : ∀ written, state.writeMessageTask = some written →
      Located single { state with stage := .returned (awaited written value) })
    (waited : state.awaitWrite value = some next) : Noted single next := by
  unfold MultiEndpointWrite.awaitWrite at waited
  split at waited
  next => cases waited
  next written =>
      cases waited
      exact noted.moveTo begun (here none written)
  next error written =>
      cases waited
      exact noted.moveTo begun (here (some error) written)

/-- `TrySetResult(false)` loses against a `true` result. Otherwise the wait has ended
because every call has, and then every `true` result has been seen. -/
theorem trySetFalse (noted : Noted single state) (begun : state.started = state.calls.length)
    (isSingle : single = true)
    (ready : state.tcs = some true ∨ state.tcs = none ∧ state.writeMessageTask ≠ none) :
    Noted single { state with tcs := state.tcs.or (some false), stage := .reading } := by
  rcases ready with isTrue | ⟨unset, isWritten⟩
  · rw [isTrue]
    refine ⟨fun _ => begun, fun _ _ => Option.some_ne_none _, fun _ => noted.isTrue isTrue,
      (fun isFalse => by cases isFalse), noted.bagged, noted.completed, isSingle, ?_⟩
    exact Option.some_ne_none _
  · obtain ⟨written, wasWritten⟩ := Option.ne_none_iff_exists'.mp isWritten
    have allEnded := (noted.completed written wasWritten).1
    have noTrue : ¬ SomeTrue state.calls := fun isTrue => noted.noticed isSingle isTrue unset
    rw [unset]
    refine ⟨fun _ => begun, fun _ _ => Option.some_ne_none _, (fun isTrue => by cases isTrue),
      fun _ => ⟨allEnded, noTrue⟩, noted.bagged, noted.completed, isSingle, ?_⟩
    exact Option.some_ne_none _

theorem advance (noted : Noted single state)
    (advanced : state.advance single = some next) : Noted single next := by
  have located := noted.located
  have started := noted.begun
  unfold MultiEndpointWrite.advance at advanced
  unfold Located at located
  cases stage : state.stage with
  | starting =>
      simp only [stage] at advanced located
      split_ifs at advanced with begun
      cases advanced
      exact noted.moveTo begun located
  | waiting =>
      rw [stage] at started
      simp only [stage] at advanced located
      have begun := started (by decide)
      split_ifs at advanced with isSingle ready
      · cases advanced
        refine noted.moveTo begun ⟨isSingle, ?_⟩
        rcases Option.eq_none_or_eq_some state.tcs with unset | ⟨value, set⟩
        · refine .inr ⟨unset, ?_⟩
          rcases ready with isSet | isWritten
          · rw [unset] at isSet
            cases isSet
          · exact Option.isSome_iff_ne_none.mp isWritten
        · cases value with
          | true => exact .inl set
          | false => exact absurd set located
      · refine noted.awaitWrite begun (fun written isWritten => ?_) advanced
        exact .inr ⟨written, isWritten, .inr ⟨Bool.eq_false_iff.mpr isSingle, rfl⟩⟩
  | setting =>
      rw [stage] at started
      simp only [stage] at advanced located
      cases advanced
      exact noted.trySetFalse (started (by decide)) located.1 located.2
  | reading =>
      rw [stage] at started
      simp only [stage] at advanced located
      have begun := started (by decide)
      split at advanced
      next => cases advanced
      next isTrue =>
          cases advanced
          refine noted.moveTo begun ?_
          exact .inl ⟨located.1, isTrue, rfl⟩
      next isFalse =>
          cases advanced
          refine noted.moveTo begun ?_
          exact ⟨located.1, isFalse⟩
  | awaiting =>
      rw [stage] at started
      simp only [stage] at advanced located
      refine noted.awaitWrite (started (by decide)) (fun written isWritten => ?_) advanced
      exact .inr ⟨written, isWritten, .inl ⟨located.1, located.2, rfl⟩⟩
  | returned result => simp [stage] at advanced

end Noted

/-! ## Runs -/

structure WriteInvariant (message : ServiceMessage) (first : Int32) (single : Bool)
    (state : MultiEndpointWrite) : Prop where
  cloned : Cloned message first state
  noted : Noted single state

namespace WriteInvariant

theorem finish (invariant : WriteInvariant message first single state) {index : Nat}
    {call : EndpointCall} {outcome : Except WriteExn Bool}
    (present : state.calls[index]? = some call)
    (finished : state.finish index call outcome = some next) :
    WriteInvariant message first single next := by
  refine ⟨?_, invariant.noted.finish present finished⟩
  unfold MultiEndpointWrite.finish at finished
  cases stage : call.stage with
  | writing =>
      simp only [stage, Option.some.injEq] at finished
      rw [← finished]
      refine invariant.cloned.setStage present ?_ fun _ => by rw [stage]; rfl
      rw [stage]
      exact CallStage.noConfusion
  | unstarted | finished | recorded | ended => simp [stage] at finished

theorem resume (invariant : WriteInvariant message first single state) {index : Nat}
    {call : EndpointCall} (present : state.calls[index]? = some call)
    (resumed : state.resume single index call = some next) :
    WriteInvariant message first single next := by
  refine ⟨?_, invariant.noted.resume present resumed⟩
  have cloned := invariant.cloned
  unfold MultiEndpointWrite.resume at resumed
  cases stage : call.stage with
  | finished outcome =>
      have begun : call.stage ≠ .unstarted := by
        rw [stage]
        exact CallStage.noConfusion
      cases outcome with
      | error error =>
          simp only [stage, Option.some.injEq] at resumed
          rw [← resumed]
          exact cloned.setStage present begun fun reached => nomatch reached
      | ok value =>
          simp only [stage, Option.some.injEq] at resumed
          rw [← resumed]
          have calls : (state.note single value).calls = state.calls := by
            unfold MultiEndpointWrite.note
            split_ifs <;> rfl
          have same : Cloned message first (state.note single value) := by
            unfold MultiEndpointWrite.note
            split_ifs
            · exact cloned.congr rfl rfl rfl rfl rfl
            · exact cloned
            · exact cloned.congr rfl rfl rfl rfl rfl
          refine same.setStage (calls ▸ present) begun fun _ => ?_
          rw [stage]
          rfl
  | recorded value =>
      simp only [stage, Option.some.injEq] at resumed
      rw [← resumed]
      refine cloned.setStage present ?_ fun _ => by rw [stage]; rfl
      rw [stage]
      exact CallStage.noConfusion
  | unstarted | writing | ended => simp [stage] at resumed

theorem completeWrite (invariant : WriteInvariant message first single state)
    (completed : state.completeWrite = some next) :
    WriteInvariant message first single next := by
  refine ⟨?_, invariant.noted.completeWrite completed⟩
  unfold MultiEndpointWrite.completeWrite at completed
  split_ifs at completed
  cases completed
  exact invariant.cloned.congr rfl rfl rfl rfl rfl

theorem advance (invariant : WriteInvariant message first single state)
    (advanced : state.advance single = some next) :
    WriteInvariant message first single next := by
  refine ⟨?_, invariant.noted.advance advanced⟩
  have awaited : ∀ {value : Bool} {next : MultiEndpointWrite},
      state.awaitWrite value = some next → Cloned message first next := by
    intro value next waited
    unfold MultiEndpointWrite.awaitWrite at waited
    split at waited
    · cases waited
    · cases waited
      exact invariant.cloned.congr rfl rfl rfl rfl rfl
    · cases waited
      exact invariant.cloned.congr rfl rfl rfl rfl rfl
  unfold MultiEndpointWrite.advance at advanced
  split at advanced
  · split_ifs at advanced
    cases advanced
    exact invariant.cloned.congr rfl rfl rfl rfl rfl
  · split_ifs at advanced
    · cases advanced
      exact invariant.cloned.congr rfl rfl rfl rfl rfl
    · exact awaited advanced
  · cases advanced
    exact invariant.cloned.congr rfl rfl rfl rfl rfl
  · split at advanced
    · cases advanced
    · cases advanced
      exact invariant.cloned.congr rfl rfl rfl rfl rfl
    · cases advanced
      exact invariant.cloned.congr rfl rfl rfl rfl rfl
  · exact awaited advanced
  · cases advanced

theorem step (invariant : WriteInvariant message first single state)
    {action : MultiEndpointAction} (stepped : multiEndpointStep single state action = some next) :
    WriteInvariant message first single next := by
  cases action with
  | createAck =>
      cases stepped
      exact ⟨invariant.cloned.createAck, invariant.noted.createAck⟩
  | start failure =>
      exact ⟨invariant.cloned.start stepped, invariant.noted.start invariant.cloned stepped⟩
  | finish index outcome =>
      simp only [multiEndpointStep] at stepped
      split at stepped
      next => cases stepped
      next call present => exact invariant.finish present stepped
  | resume index =>
      simp only [multiEndpointStep] at stepped
      split at stepped
      next => cases stepped
      next call present => exact invariant.resume present stepped
  | completeWrite => exact invariant.completeWrite stepped
  | advance => exact invariant.advance stepped

theorem run (message : ServiceMessage) (first : Int32) (single : Bool)
    (serverEndpoints : List String) {actions : List MultiEndpointAction}
    (ran : Machine.run (multiEndpointStep single)
      (writeAckableMessage message first serverEndpoints) actions = some state) :
    WriteInvariant message first single state :=
  run_invariant (fun invariant stepped => invariant.step stepped)
    ⟨.initial message first serverEndpoints, .initial single message first serverEndpoints⟩ ran

end WriteInvariant

/-! ## The result -/

theorem whenAll_eq_none {calls : List EndpointCall} :
    whenAll calls = none ↔ ∀ call ∈ calls, call.error = none := by
  unfold whenAll
  split
  next call => simp
  next =>
    rw [← List.filterMap_eq_nil_iff]
    split
    next isNil => simp [isNil]
    next notNil =>
      refine ⟨fun impossible => ?_, fun isNil => absurd isNil notNil⟩
      split at impossible <;> cases impossible

/-- With every call ended, the outcomes are the ones the tasks have. -/
theorem completes_ended {calls : List EndpointCall} {outcomes : List (Except WriteExn Bool)}
    (completes : List.Forall₂
      (fun call outcome => ∀ found, call.outcome = some found → found = outcome) calls outcomes)
    (allEnded : AllEnded calls) :
    (.ok true ∈ outcomes ↔ SomeTrue calls) ∧
      (outcomes.any threw = true ↔ ∃ call ∈ calls, call.error ≠ none) := by
  induction completes with
  | nil => simp [SomeTrue]
  | @cons call outcome calls outcomes here _ inductionHypothesis =>
      obtain ⟨isTrue, hasThrown⟩ := inductionHypothesis fun other member =>
        allEnded other (List.mem_cons_of_mem _ member)
      have ended := allEnded call List.mem_cons_self
      cases stage : call.stage with
      | ended result =>
          have same : result = outcome := here result (by rw [EndpointCall.outcome, stage])
          cases same
          have noted : (call.noted = some true ↔ outcome = .ok true) := by
            cases outcome <;> simp [EndpointCall.noted, stage]
          have thrown : (call.error ≠ none ↔ threw outcome = true) := by
            cases outcome with
            | ok value => simp [EndpointCall.error, stage, threw]
            | error error => cases error <;> simp [EndpointCall.error, stage, threw]
          constructor
          · rw [List.mem_cons, isTrue]
            unfold SomeTrue
            rw [List.exists_mem_cons_iff, noted, eq_comm]
          · rw [List.any_cons, Bool.or_eq_true, hasThrown, ← thrown]
            rw [List.exists_mem_cons_iff]
      | unstarted | writing | finished | recorded =>
          rw [EndpointCall.isEnded, stage] at ended
          cases ended

/-- A `true` result that has been seen is one of the outcomes. -/
theorem mem_of_someTrue {calls : List EndpointCall} {outcomes : List (Except WriteExn Bool)}
    (completes : List.Forall₂
      (fun call outcome => ∀ found, call.outcome = some found → found = outcome) calls outcomes)
    (isTrue : SomeTrue calls) : .ok true ∈ outcomes := by
  induction completes with
  | nil =>
      obtain ⟨call, member, -⟩ := isTrue
      cases member
  | @cons call outcome calls outcomes here _ inductionHypothesis =>
      obtain ⟨other, member, noted⟩ := isTrue
      rcases List.mem_cons.mp member with rfl | later
      · have returned := EndpointCall.outcome_of_noted noted
        rw [here _ returned]
        exact List.mem_cons_self
      · exact List.mem_cons_of_mem _ (inductionHypothesis ⟨other, later, noted⟩)

/-- With every call ended: the result is what the tasks give. -/
theorem toOption_awaited {calls : List EndpointCall} {outcomes : List (Except WriteExn Bool)}
    {value : Bool} (thrown : outcomes.any threw = true ↔ ∃ call ∈ calls, call.error ≠ none) :
    (awaited (whenAll calls) value).toOption =
      if outcomes.any threw then none else some value := by
  by_cases anyThrown : outcomes.any threw = true
  · rw [if_pos anyThrown]
    obtain ⟨call, member, error⟩ := thrown.mp anyThrown
    cases all : whenAll calls with
    | none => exact absurd (whenAll_eq_none.1 all call member) error
    | some aggregate => rfl
  · rw [if_neg anyThrown]
    have none : whenAll calls = none := by
      refine whenAll_eq_none.2 fun call member => ?_
      by_contra error
      exact anyThrown (thrown.mpr ⟨call, member, error⟩)
    rw [none]
    rfl

theorem Noted.aggregated (noted : Noted single state) {result : Except AggregateExn Bool}
    (returned : state.stage = .returned result) {outcomes : List (Except WriteExn Bool)}
    (completes : state.Completes outcomes) :
    result.toOption = aggregated single outcomes := by
  have located := noted.located
  unfold Located at located
  simp only [returned] at located
  unfold ServiceConnections.aggregated
  rcases located with ⟨isSingle, isTrue, rfl⟩ | ⟨written, isWritten, located⟩
  · have contained := mem_of_someTrue completes (noted.isTrue isTrue)
    rw [if_pos (by simp [isSingle, contained])]
    rfl
  · obtain ⟨allEnded, rfl⟩ := noted.completed written isWritten
    obtain ⟨contained, thrown⟩ := completes_ended completes allEnded
    rcases located with ⟨isSingle, isFalse, rfl⟩ | ⟨isMulti, rfl⟩
    · have notContained : outcomes.contains (.ok true) = false := by
        rw [← Bool.not_eq_true, List.contains_iff_mem, contained]
        exact (noted.isFalse isFalse).2
      rw [toOption_awaited thrown, notContained, Bool.and_false, if_neg Bool.false_ne_true]
    · have inBag : state.bag.any id = outcomes.contains (.ok true) := by
        rw [Bool.eq_iff_iff, List.contains_iff_mem, contained, ← noted.bagged isMulti]
        simp
      rw [toOption_awaited thrown, inBag, isMulti, Bool.false_and, if_neg Bool.false_ne_true]

/-! ## Progress -/

/-- The tasks of the writer; the rest comes from outside. -/
def MultiEndpointAction.isTask : MultiEndpointAction → Bool
  | .resume _ | .completeWrite | .advance => true
  | .createAck | .start _ | .finish _ _ => false

/-- How many steps a call has left when it has finished. -/
def CallStage.rank : CallStage → Nat
  | .unstarted | .writing | .ended _ => 0
  | .finished _ => 2
  | .recorded _ => 1

def WriterStage.rank : WriterStage → Nat
  | .starting => 5
  | .waiting => 4
  | .setting => 3
  | .reading => 2
  | .awaiting => 1
  | .returned _ => 0

def MultiEndpointWrite.rank (state : MultiEndpointWrite) : Nat :=
  (state.calls.map fun call => call.stage.rank).sum +
    (if state.writeMessageTask = none then 1 else 0) + state.stage.rank

theorem sum_set {calls : List EndpointCall} {index : Nat} {call : EndpointCall}
    (present : calls[index]? = some call) {stage : CallStage}
    (smaller : stage.rank < call.stage.rank) :
    ((calls.set index { call with stage := stage }).map fun call => call.stage.rank).sum <
      (calls.map fun call => call.stage.rank).sum := by
  induction calls generalizing index with
  | nil => cases present
  | cons head tail inductionHypothesis =>
      cases index with
      | zero =>
          cases present
          simpa using smaller
      | succ index =>
          have later := inductionHypothesis present
          simpa using later

/-- Every call has finished. -/
def MultiEndpointWrite.Finished (state : MultiEndpointWrite) : Prop :=
  ∀ call ∈ state.calls, call.outcome ≠ none

/-- One step of a task, on the way to the result. -/
def Advances (single : Bool) (state next : MultiEndpointWrite) : Prop :=
  ∃ action : MultiEndpointAction, action.isTask = true ∧
    multiEndpointStep single state action = some next ∧ next.rank < state.rank

theorem finished_set {calls : List EndpointCall} {index : Nat} {changed : EndpointCall}
    (finished : ∀ call ∈ calls, call.outcome ≠ none) (also : changed.outcome ≠ none) :
    ∀ call ∈ calls.set index changed, call.outcome ≠ none := by
  intro call member
  rcases List.mem_or_eq_of_mem_set member with before | rfl
  · exact finished call before
  · exact also

/-- A call that has finished goes on. -/
theorem advances_resume {index : Nat} {call : EndpointCall}
    (present : state.calls[index]? = some call) (finished : call.outcome ≠ none)
    (running : call.isEnded = false) :
    ∃ next stage, Advances single state next ∧
      next.calls = state.calls.set index { call with stage := stage } ∧
      { call with stage := stage }.outcome = call.outcome := by
  have smaller : ∀ {stage : CallStage} {next : MultiEndpointWrite},
      stage.rank < call.stage.rank → next.calls = state.calls → next.stage = state.stage →
        next.writeMessageTask = state.writeMessageTask →
          (next.setStage index call stage).rank < state.rank := by
    intro stage next less calls sameStage sameWritten
    have sum := sum_set present less
    simp only [MultiEndpointWrite.rank, MultiEndpointWrite.setStage, calls, sameStage, sameWritten]
    omega
  have stepped : multiEndpointStep single state (.resume index) =
      state.resume single index call := by
    rw [multiEndpointStep, present]
  cases stage : call.stage with
  | finished outcome =>
      have less : 1 < call.stage.rank := by
        rw [stage]
        exact Nat.lt_succ_self 1
      cases outcome with
      | error error =>
          refine ⟨state.setStage index call (.ended (.error error)), _,
            ⟨.resume index, rfl, ?_, ?_⟩, rfl, ?_⟩
          · rw [stepped, MultiEndpointWrite.resume]
            simp only [stage]
          · exact smaller (Nat.lt_of_succ_lt less) rfl rfl rfl
          · simp only [EndpointCall.outcome, stage]
      | ok value =>
          refine ⟨(state.note single value).setStage index call (.recorded value), .recorded value,
            ⟨.resume index, rfl, ?_, ?_⟩, ?_, ?_⟩
          · rw [stepped, MultiEndpointWrite.resume]
            simp only [stage]
          · refine smaller less ?_ ?_ ?_
            all_goals
              unfold MultiEndpointWrite.note
              split_ifs <;> rfl
          · unfold MultiEndpointWrite.note
            split_ifs <;> rfl
          · simp only [EndpointCall.outcome, stage]
  | recorded value =>
      refine ⟨state.setStage index call (.ended (.ok value)), _, ⟨.resume index, rfl, ?_, ?_⟩,
        rfl, ?_⟩
      · rw [stepped, MultiEndpointWrite.resume]
        simp only [stage]
      · refine smaller ?_ rfl rfl rfl
        rw [stage]
        exact Nat.succ_pos 0
      · simp only [EndpointCall.outcome, stage]
  | unstarted | writing => simp [EndpointCall.outcome, stage] at finished
  | ended => simp [EndpointCall.isEnded, stage] at running

theorem advances_advance (advanced : state.advance single = some next)
    (smaller : next.stage.rank < state.stage.rank) (calls : next.calls = state.calls)
    (written : next.writeMessageTask = state.writeMessageTask) : Advances single state next := by
  refine ⟨.advance, rfl, advanced, ?_⟩
  simp only [MultiEndpointWrite.rank, calls, written]
  omega

/-- The caller goes on when every call has ended and its task has completed. -/
theorem advances_written (noted : Noted single state) (begun : state.stage ≠ .starting)
    (notReturned : ∀ result, state.stage ≠ .returned result)
    (isWritten : state.writeMessageTask ≠ none) :
    ∃ next, Advances single state next ∧ next.calls = state.calls := by
  obtain ⟨written, wasWritten⟩ := Option.ne_none_iff_exists'.mp isWritten
  have awaits : ∀ value, ∃ result, state.awaitWrite value =
      some { state with stage := .returned result } := by
    intro value
    unfold MultiEndpointWrite.awaitWrite
    rw [wasWritten]
    cases written with
    | none => exact ⟨_, rfl⟩
    | some error => exact ⟨_, rfl⟩
  have located := noted.located
  unfold Located at located
  cases stage : state.stage with
  | starting => exact absurd stage begun
  | waiting =>
      cases single with
      | true =>
          refine ⟨{ state with stage := .setting }, advances_advance ?_ ?_ rfl rfl, rfl⟩
          · simp [MultiEndpointWrite.advance, stage, wasWritten]
          · simp [WriterStage.rank, stage]
      | false =>
          obtain ⟨result, awaited⟩ := awaits (state.bag.any id)
          refine ⟨{ state with stage := .returned result }, advances_advance ?_ ?_ rfl rfl, rfl⟩
          · simpa [MultiEndpointWrite.advance, stage] using awaited
          · simp [WriterStage.rank, stage]
  | setting =>
      refine ⟨{ state with tcs := state.tcs.or (some false), stage := .reading },
        advances_advance ?_ ?_ rfl rfl, rfl⟩
      · simp [MultiEndpointWrite.advance, stage]
      · simp [WriterStage.rank, stage]
  | reading =>
      simp only [stage] at located
      obtain ⟨value, set⟩ := Option.ne_none_iff_exists'.mp located.2
      cases value with
      | true =>
          refine ⟨{ state with stage := .returned (.ok true) }, advances_advance ?_ ?_ rfl rfl, rfl⟩
          · simp [MultiEndpointWrite.advance, stage, set]
          · simp [WriterStage.rank, stage]
      | false =>
          refine ⟨{ state with stage := .awaiting }, advances_advance ?_ ?_ rfl rfl, rfl⟩
          · simp [MultiEndpointWrite.advance, stage, set]
          · simp [WriterStage.rank, stage]
  | awaiting =>
      obtain ⟨result, awaited⟩ := awaits false
      refine ⟨{ state with stage := .returned result }, advances_advance ?_ ?_ rfl rfl, rfl⟩
      · simpa [MultiEndpointWrite.advance, stage] using awaited
      · simp [WriterStage.rank, stage]
  | returned result => exact absurd stage (notReturned result)

/-- The caller need not wait any longer: every call has finished, or the source has
been set. -/
def MultiEndpointWrite.Ready (single : Bool) (state : MultiEndpointWrite) : Prop :=
  state.Finished ∨ single = true ∧ state.stage ≠ .starting ∧ state.tcs ≠ none

/-- Every call has finished. -/
theorem advances_finished (invariant : WriteInvariant message first single state)
    (finished : state.Finished) (notReturned : ∀ result, state.stage ≠ .returned result) :
    ∃ next, Advances single state next ∧ next.Finished := by
  by_cases allEnded : AllEnded state.calls
  · by_cases starting : state.stage = .starting
    · have started : state.started = state.calls.length := by
        rcases Nat.lt_or_eq_of_le invariant.cloned.bounded with less | equal
        · have present := List.getElem?_eq_getElem less
          have fresh := invariant.cloned.unstarted _ _ present (Nat.le_refl _)
          refine absurd ?_ (finished _ (List.mem_of_getElem? present))
          rw [EndpointCall.outcome, fresh.2.2.2]
        · exact equal
      refine ⟨{ state with stage := .waiting }, advances_advance ?_ ?_ rfl rfl, finished⟩
      · simp [MultiEndpointWrite.advance, starting, started]
      · simp [WriterStage.rank, starting]
    · by_cases notWritten : state.writeMessageTask = none
      · refine ⟨{ state with writeMessageTask := some (whenAll state.calls) },
          ⟨.completeWrite, rfl, ?_, ?_⟩, finished⟩
        · exact if_pos ⟨starting, notWritten, allEnded⟩
        · simp [MultiEndpointWrite.rank, notWritten]
      · obtain ⟨next, advances, calls⟩ :=
          advances_written invariant.noted starting notReturned notWritten
        refine ⟨next, advances, ?_⟩
        rw [MultiEndpointWrite.Finished, calls]
        exact finished
  · unfold AllEnded at allEnded
    push Not at allEnded
    obtain ⟨call, member, running⟩ := allEnded
    obtain ⟨index, present⟩ := List.mem_iff_getElem?.mp member
    obtain ⟨next, stage, advances, calls, outcome⟩ :=
      advances_resume present (finished call member) (Bool.eq_false_iff.mpr running)
    refine ⟨next, advances, ?_⟩
    rw [MultiEndpointWrite.Finished, calls]
    exact finished_set finished (outcome ▸ finished call member)

theorem advances_ready (invariant : WriteInvariant message first single state)
    (ready : state.Ready single) (notReturned : ∀ result, state.stage ≠ .returned result) :
    ∃ next, Advances single state next ∧ next.Ready single := by
  rcases ready with finished | ⟨isSingle, begun, isSet⟩
  · obtain ⟨next, advances, still⟩ := advances_finished invariant finished notReturned
    exact ⟨next, advances, .inl still⟩
  · have located := invariant.noted.located
    unfold Located at located
    cases stage : state.stage with
    | starting => exact absurd stage begun
    | waiting =>
        refine ⟨{ state with stage := .setting }, advances_advance ?_ ?_ rfl rfl,
          .inr ⟨isSingle, WriterStage.noConfusion, isSet⟩⟩
        · simp [MultiEndpointWrite.advance, stage, isSingle, Option.isSome_iff_ne_none.mpr isSet]
        · simp [WriterStage.rank, stage]
    | setting =>
        refine ⟨{ state with tcs := state.tcs.or (some false), stage := .reading },
          advances_advance ?_ ?_ rfl rfl, .inr ⟨isSingle, WriterStage.noConfusion, ?_⟩⟩
        · simp [MultiEndpointWrite.advance, stage]
        · simp [WriterStage.rank, stage]
        · simp
    | reading =>
        obtain ⟨value, set⟩ := Option.ne_none_iff_exists'.mp isSet
        cases value with
        | true =>
            refine ⟨{ state with stage := .returned (.ok true) }, advances_advance ?_ ?_ rfl rfl,
              .inr ⟨isSingle, WriterStage.noConfusion, isSet⟩⟩
            · simp [MultiEndpointWrite.advance, stage, set]
            · simp [WriterStage.rank, stage]
        | false =>
            refine ⟨{ state with stage := .awaiting }, advances_advance ?_ ?_ rfl rfl,
              .inr ⟨isSingle, WriterStage.noConfusion, isSet⟩⟩
            · simp [MultiEndpointWrite.advance, stage, set]
            · simp [WriterStage.rank, stage]
    | awaiting =>
        -- The source is `false`, so every call has ended.
        simp only [stage] at located
        have finished : state.Finished := by
          intro call member unfinished
          have ended := (invariant.noted.isFalse located.2).1 call member
          exact EndpointCall.outcome_of_isEnded ended unfinished
        obtain ⟨next, advances, still⟩ := advances_finished invariant finished notReturned
        exact ⟨next, advances, .inl still⟩
    | returned result => exact absurd stage (notReturned result)

/-- The tasks of the writer by themselves lead to the result. -/
def Returns (single : Bool) (state : MultiEndpointWrite) : Prop :=
  ∃ tasks : List MultiEndpointAction, (∀ action ∈ tasks, action.isTask = true) ∧
    ∃ final result, run (multiEndpointStep single) state tasks = some final ∧
      final.stage = .returned result

theorem returns_of_ready (invariant : WriteInvariant message first single state)
    (ready : state.Ready single) : Returns single state := by
  have progress : ∀ {state : MultiEndpointWrite},
      WriteInvariant message first single state ∧ state.Ready single →
      ¬ (∃ result, state.stage = .returned result) →
      ∃ (action : MultiEndpointAction) (next : MultiEndpointWrite), action.isTask = true ∧
        multiEndpointStep single state action = some next ∧
        (WriteInvariant message first single next ∧ next.Ready single) ∧
        next.rank < state.rank := by
    intro state both notReturned
    obtain ⟨invariant, ready⟩ := both
    obtain ⟨next, ⟨action, isTask, stepped, smaller⟩, still⟩ :=
      advances_ready invariant ready fun result isReturned => notReturned ⟨result, isReturned⟩
    exact ⟨action, next, isTask, stepped, ⟨invariant.step stepped, still⟩, smaller⟩
  obtain ⟨tasks, final, areTasks, ran, -, result, returned⟩ :=
    Machine.run_until MultiEndpointWrite.rank progress ⟨invariant, ready⟩
  exact ⟨tasks, areTasks, final, result, ran, returned⟩

/-- A `true` result is enough for the messages that have a single one. -/
theorem returns_of_true (invariant : WriteInvariant message first single state)
    (isSingle : single = true) (begun : state.stage ≠ .starting)
    (isTrue : ∃ call ∈ state.calls, call.outcome = some (.ok true)) : Returns single state := by
  by_cases isSet : state.tcs = none
  · obtain ⟨call, member, returnedTrue⟩ := isTrue
    obtain ⟨index, present⟩ := List.mem_iff_getElem?.mp member
    have stage : call.stage = .finished (.ok true) := by
      have unseen : ¬ call.noted = some true := fun noted =>
        invariant.noted.noticed isSingle ⟨call, member, noted⟩ isSet
      exact EndpointCall.finished_of_outcome returnedTrue unseen
    have resumed : multiEndpointStep single state (.resume index) =
        some ((state.note single true).setStage index call (.recorded true)) := by
      simp only [multiEndpointStep, present, MultiEndpointWrite.resume, stage]
    have later : Returns single ((state.note single true).setStage index call
        (.recorded true)) := by
      refine returns_of_ready (invariant.step resumed) (.inr ⟨isSingle, ?_, ?_⟩)
      · rw [isSingle]
        exact begun
      · rw [isSingle]
        change state.tcs.or (some true) ≠ none
        rw [isSet]
        exact Option.some_ne_none _
    obtain ⟨tasks, areTasks, final, result, ran, returned⟩ := later
    refine ⟨.resume index :: tasks, ?_, final, result, run_cons.2 ⟨_, resumed, ran⟩, returned⟩
    intro action isMember
    rcases List.mem_cons.mp isMember with rfl | behind
    · rfl
    · exact areTasks action behind
  · exact returns_of_ready invariant (.inr ⟨isSingle, begun, isSet⟩)

/-- Whatever the calls on the endpoints return and in whatever order they finish: the
caller's message stays as it is, each endpoint has been sent its own clone with its
own ack id, and the caller is told what the outcomes of the endpoints amount to. The
result comes when they have all finished, or with the first `true` when one is enough. -/
theorem multi_endpoint_acks_aggregate {message : ServiceMessage}
    (ackable : message.isAckable = true) (first : Int32) (serverEndpoints : List String)
    {actions : List MultiEndpointAction} {state : MultiEndpointWrite}
    (ran : run (multiEndpointStep message.isSingleResult)
      (writeAckableMessage message first serverEndpoints) actions = some state) :
    state.objects[0]? = some message ∧ state.SendsClones message first ∧
      (∀ call ∈ state.calls, call.stage.reached = true → call.sent ≠ none) ∧
      (∀ result outcomes, state.stage = .returned result → state.Completes outcomes →
        result.toOption = aggregated message.isSingleResult outcomes) ∧
      (state.Finished → Returns message.isSingleResult state) ∧
      (message.isSingleResult = true → state.stage ≠ .starting →
        (∃ call ∈ state.calls, call.outcome = some (.ok true)) →
          Returns message.isSingleResult state) := by
  have invariant := WriteInvariant.run message first message.isSingleResult serverEndpoints ran
  refine ⟨invariant.cloned.caller, invariant.cloned.sendsClones ackable, ?_, ?_, ?_, ?_⟩
  · intro call member
    obtain ⟨index, present⟩ := List.mem_iff_getElem?.mp member
    exact (invariant.cloned.owned index call present).reached
  · intro result outcomes returned completes
    exact invariant.noted.aggregated returned completes
  · exact fun finished => returns_of_ready invariant (.inl finished)
  · exact returns_of_true invariant

/-- A connection joins a group: the first endpoint is not active, the second has the
connection, the third has not answered. -/
theorem multi_endpoint_acks_aggregate_joinGroup :
    ∃ state, run (multiEndpointStep true)
        (writeAckableMessage
          (.joinGroupWithAck { connectionId := "c", groupName := "g", ackId := 0 }) 6
          ["https://a", "https://b", "https://c"])
        [.start none, .start none, .createAck, .finish 0 (.error .notActive), .start none,
          .resume 0, .advance, .finish 1 (.ok true), .resume 1, .advance, .advance,
          .advance] = some state ∧
      state.stage = .returned (.ok true) ∧
      (∀ outcomes, state.Completes outcomes → some true = aggregated true outcomes) ∧
      state.SendsClones (.joinGroupWithAck { connectionId := "c", groupName := "g", ackId := 0 })
        6 := by
  have final : (run (multiEndpointStep true)
      (writeAckableMessage
        (.joinGroupWithAck { connectionId := "c", groupName := "g", ackId := 0 }) 6
        ["https://a", "https://b", "https://c"])
      [.start none, .start none, .createAck, .finish 0 (.error .notActive), .start none,
        .resume 0, .advance, .finish 1 (.ok true), .resume 1, .advance, .advance,
        .advance]).map MultiEndpointWrite.stage = some (.returned (.ok true)) := rfl
  obtain ⟨state, ran, returned⟩ := Option.map_eq_some_iff.mp final
  have told := multi_endpoint_acks_aggregate
    (rfl : (ServiceMessage.joinGroupWithAck
      { connectionId := "c", groupName := "g", ackId := 0 }).isAckable = true) 6 _ ran
  exact ⟨state, ran, returned, fun outcomes => told.2.2.2.1 (.ok true) outcomes returned,
    told.2.1⟩

end AzureSignalR.ServiceConnections
