import AzureSignalR.Auth.MicrosoftEntraAccessKey

/-!
Contract: when a Microsoft Entra access key is available.

Owns: what an event can do to the state, and the relation of the key to the keys that have come.

Does not own: the stages of refresh loops.
-/

set_option autoImplicit false

namespace AzureSignalR.Auth

open Library

/-! ## What an event can do -/

/-- What a request that has asked for a refresh is left with. -/
def State.requestOn (state : State) (loop : Nat) : Request :=
  if state.key.available state.now then .answered state.now (state.key.answer state.now)
  else .waiting loop

inductive Acts (state : State) : Action → State → Prop where
  | answers (needed : state.key.needRefresh state.now = false) :
      Acts state .request { state with
        requests := state.requests ++ [.answered state.now (state.key.answer state.now)] }
  | joins {loop : Nat} {last : RefreshLoop} (needed : state.key.needRefresh state.now = true)
      (isLast : loop + 1 = state.loops.length) (found : state.loops[loop]? = some last)
      (pending : last.result = none) :
      Acts state .request { state with requests := state.requests ++ [state.requestOn loop] }
  | starts (needed : state.key.needRefresh state.now = true)
      (completed : ∀ loop last, loop + 1 = state.loops.length → state.loops[loop]? = some last →
        last.result.isSome = true) :
      Acts state .request { state with
        loops := state.loops ++ [{ startedAt := state.now }]
        requests := state.requests ++ [state.requestOn state.loops.length] }
  | receives {loop : Nat} {running : RefreshLoop} {i : Nat} (outcome : Outcome)
      (kid keyStr : String)
      (found : state.loops[loop]? = some running) (stage : running.stage = .attempting i) :
      Acts state (.attempt loop outcome)
        ((state.updateAccessKey (some kid) keyStr).endLoop loop true)
  | succeeds {loop : Nat} {running : RefreshLoop} {i : Nat} (outcome : Outcome)
      (found : state.loops[loop]? = some running) (stage : running.stage = .attempting i) :
      Acts state (.attempt loop outcome) (state.endLoop loop true)
  | throws {loop : Nat} {running : RefreshLoop} {i : Nat} (outcome : Outcome)
      (exception : RefreshException) (found : state.loops[loop]? = some running)
      (stage : running.stage = .attempting i) :
      Acts state (.attempt loop outcome)
        ((state.catchException exception).goTo loop (.delaying i))
  | cancels {loop : Nat} {running : RefreshLoop} {i : Nat} (outcome : Outcome)
      (exception : RefreshException) (found : state.loops[loop]? = some running)
      (stage : running.stage = .attempting i) :
      Acts state (.attempt loop outcome) ((state.catchException exception).nextAttempt loop i)
  | delays {loop : Nat} {running : RefreshLoop} {i : Nat}
      (found : state.loops[loop]? = some running) (stage : running.stage = .delaying i) :
      Acts state (.delay loop) (state.nextAttempt loop i)
  | ignores (keyMessage : Protocol.AccessKeyResponseMessage) :
      Acts state (.push keyMessage) state
  | pushes (keyMessage : Protocol.AccessKeyResponseMessage) (keyStr : String) :
      Acts state (.push keyMessage) (state.updateAccessKey keyMessage.kid keyStr)
  | resumes {request loop : Nat} (canceled : Bool)
      (waits : state.requests[request]? = some (.waiting loop)) :
      Acts state (.resume request canceled) { state with
        requests := state.requests.set request (.answered state.now (state.key.answer state.now)) }

theorem acts_request (state : State) : Acts state .request state.generateAccessToken := by
  cases needed : state.key.needRefresh state.now with
  | false =>
      rw [State.generateAccessToken, needed]
      exact .answers needed
  | true =>
      have onLoop (after : State) (loop : Nat)
          (async : state.updateAccessKeyAsync = (after, loop)) :
          state.generateAccessToken =
            { after with requests := after.requests ++ [state.requestOn loop] } := by
        rw [State.generateAccessToken, if_pos needed, async, State.requestOn]
        split_ifs
        · rfl
        · rfl
      cases isLast : state.loops.getLast? with
      | none =>
          rw [onLoop _ _ (by rw [State.updateAccessKeyAsync, isLast])]
          refine .starts needed fun loop last position found => ?_
          rw [List.getLast?_eq_none_iff.mp isLast] at found
          cases found
      | some last =>
          have lastOf (loop : Nat) (other : RefreshLoop) (position : loop + 1 = state.loops.length)
              (found : state.loops[loop]? = some other) : other = last := by
            rw [List.getLast?_eq_getElem?, ← position, Nat.add_sub_cancel, found] at isLast
            exact Option.some.inj isLast
          rcases last with ⟨startedAt, stage, _ | result⟩
          · rw [onLoop _ _ (by rw [State.updateAccessKeyAsync, isLast])]
            have nonempty : state.loops ≠ [] := by
              intro empty
              rw [empty] at isLast
              cases isLast
            have positive := List.length_pos_of_ne_nil nonempty
            rw [List.getLast?_eq_getElem?] at isLast
            exact .joins needed (by omega) isLast rfl
          · rw [onLoop _ _ (by rw [State.updateAccessKeyAsync, isLast])]
            refine .starts needed fun loop other position found => ?_
            rw [lastOf loop other position found]
            rfl

theorem acts_attempt {state : State} {loop i : Nat} {running : RefreshLoop}
    (found : state.loops[loop]? = some running) (stage : running.stage = .attempting i)
    (outcome : Outcome) : Acts state (.attempt loop outcome) (state.endAttempt loop i outcome) := by
  cases outcome with
  | response content =>
      rw [State.endAttempt]
      split
      · exact .receives _ _ _ found stage
      · exact .throws _ _ found stage
  | success => exact .succeeds _ found stage
  | canceled message => exact .cancels _ _ found stage
  | throws exception => exact .throws _ _ found stage

theorem acts_of_act {state next : State} {action : Action} (acted : state.act action = some next) :
    Acts state action next := by
  cases action with
  | request =>
      cases acted
      exact acts_request state
  | attempt loop outcome =>
      rw [State.act] at acted
      split at acted
      · rename_i found
        cases acted
        exact acts_attempt found rfl outcome
      · cases acted
  | delay loop =>
      rw [State.act] at acted
      split at acted
      · rename_i found
        cases acted
        exact .delays found rfl
      · cases acted
  | push keyMessage =>
      cases acted
      rw [State.onAccessKeyMessage]
      split_ifs
      · split
        · exact .ignores keyMessage
        · exact .pushes keyMessage _
      · exact .ignores keyMessage
  | resume request canceled =>
      rw [State.act] at acted
      split at acted
      · rename_i waits
        split_ifs at acted
        cases acted
        exact .resumes canceled waits
      · cases acted

/-! ## The key and the keys that have come -/

theorem MicrosoftEntraAccessKey.lt_of_needRefresh {key : MicrosoftEntraAccessKey} {now : Nat}
    (needed : key.needRefresh now = true) :
    key.updateAt + getAccessKeyIntervalUnavailable < now := by
  have shorter : getAccessKeyIntervalUnavailable ≤ getAccessKeyInterval := by decide
  rw [needRefresh, decide_eq_true_iff] at needed
  split_ifs at needed
  · omega
  · omega

/-- The key is as young as the last one that has come. -/
structure Dated (state : State) : Prop where
  updateAt : state.key.updateAt ≤ state.now
  received : ∀ time ∈ state.received, time ≤ state.now
  authorized : state.key.isAuthorized = true →
    state.key.updateAt ∈ state.received ∧ ∀ time ∈ state.received, time ≤ state.key.updateAt
  expired : state.key.isAuthorized = false →
    ∀ time ∈ state.received, time + accessKeyExpireTime ≤ state.now
  failures : ∀ time ∈ state.failures, time ≤ state.key.updateAt
  tokens : ∀ time keyBytes kid, .answered time (.token keyBytes kid) ∈ state.requests →
    ∃ received ∈ state.received, received ≤ time ∧ time < received + accessKeyExpireTime

namespace Dated

variable {state : State}

theorem available_iff (dated : Dated state) {now : Nat} (later : state.now ≤ now) :
    state.key.available now = true ↔
      ∃ received ∈ state.received, now < received + accessKeyExpireTime := by
  rw [MicrosoftEntraAccessKey.available, Bool.and_eq_true, decide_eq_true_iff]
  have known := dated.updateAt
  constructor
  · rintro ⟨isAuthorized, young⟩
    exact ⟨_, (dated.authorized isAuthorized).1, by omega⟩
  · rintro ⟨received, member, young⟩
    cases isAuthorized : state.key.isAuthorized with
    | false =>
        have old := dated.expired isAuthorized received member
        omega
    | true =>
        have last := (dated.authorized isAuthorized).2 received member
        exact ⟨rfl, by omega⟩

theorem later (dated : Dated state) {now : Nat} (later : state.now ≤ now) :
    Dated { state with now := now } :=
  { dated with
    updateAt := dated.updateAt.trans later
    received := fun time member => (dated.received time member).trans later
    expired := fun notAuthorized time member =>
      (dated.expired notAuthorized time member).trans later }

theorem updateAccessKey (dated : Dated state) (kid : Option String) (keyStr : String) :
    Dated (state.updateAccessKey kid keyStr) where
  updateAt := Nat.le_refl _
  received := by
    intro time member
    rcases List.mem_append.mp member with before | new
    · exact dated.received time before
    · exact (List.mem_singleton.mp new).le
  authorized := by
    intro isAuthorized
    refine ⟨List.mem_append_right _ (List.mem_singleton.mpr rfl), ?_⟩
    intro time member
    rcases List.mem_append.mp member with before | new
    · exact dated.received time before
    · exact (List.mem_singleton.mp new).le
  expired := nofun
  failures := fun time member => (dated.failures time member).trans dated.updateAt
  tokens := by
    intro time keyBytes kid member
    obtain ⟨received, isReceived, young⟩ := dated.tokens time keyBytes kid member
    exact ⟨received, List.mem_append_left _ isReceived, young⟩

/-- The guard of the setter: only an expired key is marked unavailable. -/
theorem giveUp (dated : Dated state) (loop : Nat) : Dated (state.giveUp loop) := by
  rw [State.giveUp]
  split_ifs with isAvailable
  · exact { dated with }
  · refine { dated with
      updateAt := Nat.le_refl _, authorized := nofun, expired := ?_, failures := ?_ }
    · intro _ time member
      by_contra young
      exact isAvailable ((dated.available_iff (Nat.le_refl _)).mpr
        ⟨time, member, Nat.lt_of_not_le young⟩)
    · intro time member
      rcases List.mem_append.mp member with before | new
      · exact (dated.failures time before).trans dated.updateAt
      · exact (List.mem_singleton.mp new).le

theorem catchException (dated : Dated state) (exception : RefreshException) :
    Dated (state.catchException exception) :=
  { dated with }

theorem nextAttempt (dated : Dated state) (loop i : Nat) : Dated (state.nextAttempt loop i) := by
  rw [State.nextAttempt]
  split_ifs
  · exact { dated with }
  · exact dated.giveUp loop

/-- A token is made of an available key. -/
theorem tokens_of_answer (dated : Dated state) {time : Nat} {keyBytes : Bytes} {kid : String}
    (isAnswer : Request.answered time (.token keyBytes kid) =
      .answered state.now (state.key.answer state.now)) :
    ∃ received ∈ state.received, received ≤ time ∧ time < received + accessKeyExpireTime := by
  obtain ⟨rfl, isToken⟩ := Request.answered.inj isAnswer
  have isAvailable : state.key.available state.now = true := by
    by_contra unavailable
    rw [MicrosoftEntraAccessKey.answer, if_neg unavailable] at isToken
    cases isToken
  obtain ⟨received, member, young⟩ := (dated.available_iff (Nat.le_refl _)).mp isAvailable
  exact ⟨received, member, dated.received received member, young⟩

/-- New requests wait, or have been answered now. -/
theorem answer (dated : Dated state) {requests : List Request}
    (new : ∀ request ∈ requests, request ∈ state.requests ∨ (∃ loop, request = .waiting loop) ∨
      request = .answered state.now (state.key.answer state.now)) :
    Dated { state with requests := requests } := by
  refine { dated with tokens := ?_ }
  intro time keyBytes kid member
  rcases new _ member with before | ⟨loop, waits⟩ | isAnswer
  · exact dated.tokens time keyBytes kid before
  · cases waits
  · exact dated.tokens_of_answer isAnswer

theorem requestOn (dated : Dated state) (loop : Nat) :
    Dated { state with requests := state.requests ++ [state.requestOn loop] } := by
  refine dated.answer fun request member => ?_
  rcases List.mem_append.mp member with before | new
  · exact .inl before
  · rw [List.mem_singleton.mp new, State.requestOn]
    split_ifs
    · exact .inr (.inr rfl)
    · exact .inr (.inl ⟨loop, rfl⟩)

theorem acts (dated : Dated state) {action : Action} {next : State}
    (acts : Acts state action next) : Dated next := by
  cases acts with
  | answers needed =>
      refine dated.answer fun request member => ?_
      rcases List.mem_append.mp member with before | new
      · exact .inl before
      · exact .inr (.inr (List.mem_singleton.mp new))
  | joins needed isLast found pending => exact dated.requestOn _
  | starts needed completed => exact { dated.requestOn _ with }
  | receives outcome kid keyStr found stage => exact { dated.updateAccessKey _ keyStr with }
  | succeeds outcome found stage => exact { dated with }
  | throws outcome exception found stage => exact { dated with }
  | cancels outcome exception found stage => exact (dated.catchException exception).nextAttempt _ _
  | delays found stage => exact dated.nextAttempt _ _
  | ignores keyMessage => exact dated
  | pushes keyMessage keyStr => exact dated.updateAccessKey _ keyStr
  | resumes canceled waits =>
      refine dated.answer fun request member => ?_
      rcases List.mem_or_eq_of_mem_set member with before | new
      · exact .inl before
      · exact .inr (.inr new)

end Dated

end AzureSignalR.Auth
