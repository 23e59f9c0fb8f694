import AzureSignalR.Auth.MicrosoftEntraAccessKey
import AzureSignalR.Library.Threads

/-!
Contract: the key bytes and the key id of an access token, which are stored and read one after
the other.

Owns: `UpdateAccessKey` and the end of `GenerateAccessTokenAsync` as the steps of their threads,
and the interleavings whose tokens name the key they are signed with.

Does not own: who updates the key. A refresh loop and a service connection make the same call.
-/

set_option autoImplicit false

namespace AzureSignalR.Auth.KeyPairing

open Library

/-! ## Threads -/

/-- What a call of `UpdateAccessKey` stores next. -/
inductive UpdateStage where
  | keyBytes
  | kid
  | lastException
  | updateAt
  | isAuthorized
  | done
deriving DecidableEq, Repr

structure Update where
  kid : Option String
  keyBytes : Bytes
  stage : UpdateStage := .keyBytes
deriving DecidableEq, Repr

/-- The next store of the call. -/
def Update.store (update : Update) (key : MicrosoftEntraAccessKey) (now : Nat) :
    MicrosoftEntraAccessKey :=
  match update.stage with
  | .keyBytes => { key with keyBytes := some update.keyBytes }
  | .kid => { key with kid := update.kid }
  | .lastException => { key with lastException := none }
  | .updateAt => { key with updateAt := now }
  | .isAuthorized => { key with isAuthorized := true }
  | .done => key

def UpdateStage.next : UpdateStage → UpdateStage
  | .keyBytes => .kid
  | .kid => .lastException
  | .lastException => .updateAt
  | .updateAt => .isAuthorized
  | .isAuthorized | .done => .done

/-- The last statement of `GenerateAccessTokenAsync`: the check, and the two arguments in order. -/
inductive Reading where
  | checking
  | readsKeyBytes
  | readsKid (keyBytes : Bytes)
  | done (answer : Answer)
deriving DecidableEq, Repr

def Reading.next (key : MicrosoftEntraAccessKey) (now : Nat) : Reading → Reading
  | .checking => if key.available now then .readsKeyBytes else .done (key.answer now)
  | .readsKeyBytes =>
      match key.keyBytes with
      | none => .done (.argumentNull "KeyBytes")
      | some keyBytes => .readsKid keyBytes
  | .readsKid keyBytes =>
      match key.kid with
      | none => .done (.argumentNull "Kid")
      | some kid => .done (.token keyBytes kid)
  | .done answer => .done answer

structure State where
  key : MicrosoftEntraAccessKey := {}
  updates : List Update := []
  readings : List Reading := []
deriving DecidableEq, Repr

inductive Action where
  /-- A call of `UpdateAccessKey`. -/
  | update (kid : Option String) (keyStr : String)
  | store (update now : Nat)
  /-- A refresh loop has failed with an unavailable key. -/
  | giveUp (now : Nat)
  /-- A token request is at its last statement. -/
  | request
  | read (reading now : Nat)
deriving DecidableEq, Repr

def step (state : State) : Action → Option State
  | .update kid keyStr => some
      { state with
        updates := state.updates ++ [{ kid, keyBytes := keyStr.toByteArray.data.toList }] }
  | .store index now =>
      match state.updates[index]? with
      | none => none
      | some update => some
          { state with
            key := update.store state.key now
            updates := state.updates.set index { update with stage := update.stage.next } }
  | .giveUp now =>
      if state.key.available now then none
      else some { state with key := state.key.setAvailable false now }
  | .request => some { state with readings := state.readings ++ [.checking] }
  | .read index now =>
      match state.readings[index]? with
      | none => none
      | some reading => some
          { state with readings := state.readings.set index (reading.next state.key now) }

/-- The stores of a call in a row are those of `UpdateAccessKey`. -/
theorem stores_in_a_row (key : MicrosoftEntraAccessKey) (kid : Option String) (keyStr : String)
    (now : Nat) :
    let update : Update := { kid, keyBytes := keyStr.toByteArray.data.toList }
    [UpdateStage.keyBytes, .kid, .lastException, .updateAt, .isAuthorized].foldl
      (fun key stage => Update.store { update with stage := stage } key now) key =
        key.update kid keyStr now :=
  rfl

/-- The reads of a request in a row are those of its answer. -/
theorem reads_in_a_row (key : MicrosoftEntraAccessKey) (now : Nat) :
    ((Reading.checking.next key now).next key now).next key now = .done (key.answer now) := by
  rw [MicrosoftEntraAccessKey.answer]
  show Reading.next key now (Reading.next key now
    (if key.available now then .readsKeyBytes else .done (key.answer now))) = _
  split_ifs with available
  · rw [Reading.next]
    cases key.keyBytes with
    | none => rfl
    | some keyBytes =>
        show Reading.next key now (.readsKid keyBytes) = _
        rw [Reading.next]
        cases key.kid with
        | none => rfl
        | some kid => rfl
  · show Reading.done (key.answer now) = _
    rw [MicrosoftEntraAccessKey.answer, if_neg available]

/-! ## Keys that come together -/

/-- The bytes have come with the id. -/
def Together (state : State) (keyBytes : Bytes) (kid : String) : Prop :=
  ∃ update ∈ state.updates, update.keyBytes = keyBytes ∧ update.kid = some kid

/-- No key id is stored between the two reads of a request, and between the two stores of a key
no request reads the bytes and no other key is stored. -/
def Apart (state : State) : Action → Prop
  | .store index _ => ∀ update ∈ state.updates[index]?,
      (update.stage = .keyBytes → ∀ other ∈ state.updates, other.stage ≠ .kid) ∧
        (update.stage = .kid → ∀ reading ∈ state.readings, ∀ keyBytes, reading ≠ .readsKid keyBytes)
  | .read index _ => state.readings[index]? = some .readsKeyBytes →
      ∀ update ∈ state.updates, update.stage ≠ .kid
  | .update _ _ | .giveUp _ | .request => True

structure Matched (state : State) : Prop where
  stored : (∀ update ∈ state.updates, update.stage ≠ .kid) → ∀ keyBytes kid,
    state.key.keyBytes = some keyBytes → state.key.kid = some kid → Together state keyBytes kid
  single : ∀ (one other : Nat) (update otherUpdate : Update), state.updates[one]? = some update →
    update.stage = .kid → state.updates[other]? = some otherUpdate → otherUpdate.stage = .kid →
      one = other
  between : ∀ (index : Nat) (update : Update), state.updates[index]? = some update →
    update.stage = .kid → state.key.keyBytes = some update.keyBytes
  readings : ∀ keyBytes, .readsKid keyBytes ∈ state.readings → ∀ kid, state.key.kid = some kid →
    Together state keyBytes kid
  tokens : ∀ keyBytes kid, .done (.token keyBytes kid) ∈ state.readings →
    Together state keyBytes kid

section Steps

variable {state next : State} {index now : Nat} {update : Update}

/-- The calls with their stages left out. -/
def State.pairs (state : State) : List (Bytes × Option String) :=
  state.updates.map fun update => (update.keyBytes, update.kid)

theorem together_iff {keyBytes : Bytes} {kid : String} :
    Together state keyBytes kid ↔ (keyBytes, some kid) ∈ state.pairs := by
  rw [State.pairs, List.mem_map]
  constructor
  · rintro ⟨update, member, rfl, isKid⟩
    exact ⟨update, member, Prod.ext rfl isKid⟩
  · rintro ⟨update, member, same⟩
    obtain ⟨isBytes, isKid⟩ := Prod.ext_iff.mp same
    exact ⟨update, member, isBytes, isKid⟩

/-- A call goes on, and has still come with its key. -/
theorem pairs_store (found : state.updates[index]? = some update) (stage : UpdateStage)
    (key : MicrosoftEntraAccessKey) :
    State.pairs { state with
      key := key
      updates := state.updates.set index { update with stage := stage } } =
      state.pairs :=
  Threads.map_set_of_eq found rfl

theorem Together.store {keyBytes : Bytes} {kid : String} (together : Together state keyBytes kid)
    (found : state.updates[index]? = some update) (stage : UpdateStage)
    (key : MicrosoftEntraAccessKey) :
    Together { state with
      key := key
      updates := state.updates.set index { update with stage := stage } }
      keyBytes kid := by
  rw [together_iff, pairs_store found]
  exact together_iff.1 together

theorem Together.add {keyBytes : Bytes} {kid : String} (together : Together state keyBytes kid)
    (added : Update) :
    Together { state with updates := state.updates ++ [added] } keyBytes kid := by
  obtain ⟨update, member, same⟩ := together
  exact ⟨update, List.mem_append_left _ member, same⟩

theorem Matched.add (matched : Matched state) (kid : Option String) (keyBytes : Bytes) :
    Matched { state with updates := state.updates ++ [{ kid, keyBytes }] } := by
  have old {position : Nat} {update : Update} (found :
      (state.updates ++ [({ kid, keyBytes } : Update)])[position]? = some update)
      (isBetween : update.stage = .kid) : state.updates[position]? = some update := by
    rcases Nat.lt_or_ge position state.updates.length with inside | outside
    · rwa [List.getElem?_append_left inside] at found
    · rw [List.getElem?_append_right outside] at found
      have member := List.mem_singleton.mp (List.mem_of_getElem? found)
      rw [member] at isBetween
      cases isBetween
  refine ⟨?_, ?_, ?_, ?_, ?_⟩
  · intro none bytes id isBytes isKid
    have stored := matched.stored (fun update member => none update (List.mem_append_left _ member))
    exact (stored bytes id isBytes isKid).add _
  · intro one other update otherUpdate found stage otherFound otherStage
    exact matched.single one other update otherUpdate (old found stage) stage
      (old otherFound otherStage) otherStage
  · intro position update found stage
    exact matched.between position update (old found stage) stage
  · intro bytes member id isKid
    exact (matched.readings bytes member id isKid).add _
  · intro bytes id member
    exact (matched.tokens bytes id member).add _

/-- A store that is neither of the two. -/
theorem Matched.storeOther (matched : Matched state) (found : state.updates[index]? = some update)
    (notKid : update.stage ≠ .kid) {stage : UpdateStage} (stillNot : stage ≠ .kid)
    {key : MicrosoftEntraAccessKey} (sameBytes : key.keyBytes = state.key.keyBytes)
    (sameKid : key.kid = state.key.kid) :
    Matched { state with
      key := key
      updates := state.updates.set index { update with stage := stage } } := by
  have old {position : Nat} {other : Update}
      (isOther : (state.updates.set index { update with stage := stage })[position]? = some other)
      (isBetween : other.stage = .kid) : state.updates[position]? = some other := by
    rcases Threads.getElem?_set_cases isOther with ⟨-, rfl⟩ | ⟨-, before⟩
    · exact absurd isBetween stillNot
    · exact before
  refine ⟨?_, ?_, ?_, ?_, ?_⟩
  · intro none bytes id isBytes isKid
    have before : ∀ other ∈ state.updates, other.stage ≠ .kid := by
      intro other member isBetween
      have differs : other ≠ update := by
        rintro rfl
        exact notKid isBetween
      exact none other (Threads.mem_set_of_ne found member differs) isBetween
    exact (matched.stored before bytes id (sameBytes ▸ isBytes) (sameKid ▸ isKid)).store found _ _
  · intro one other oneUpdate otherUpdate isOne stage isOther otherStage
    exact matched.single one other oneUpdate otherUpdate (old isOne stage) stage
      (old isOther otherStage) otherStage
  · intro position other isOther isBetween
    exact sameBytes.trans (matched.between position other (old isOther isBetween) isBetween)
  · intro bytes member id isKid
    exact (matched.readings bytes member id (sameKid ▸ isKid)).store found _ _
  · intro bytes id member
    exact (matched.tokens bytes id member).store found _ _

/-- The bytes are stored, when no other key is between its two stores. -/
theorem Matched.storeKeyBytes (matched : Matched state)
    (found : state.updates[index]? = some update)
    (apart : ∀ other ∈ state.updates, other.stage ≠ .kid) :
    Matched { state with
      key := { state.key with keyBytes := some update.keyBytes }
      updates := state.updates.set index { update with stage := .kid } } := by
  have here {position : Nat} {other : Update}
      (isOther : (state.updates.set index { update with stage := .kid })[position]? = some other)
      (isBetween : other.stage = .kid) :
      position = index ∧ other = { update with stage := .kid } := by
    rcases Threads.getElem?_set_cases isOther with same | ⟨-, before⟩
    · exact same
    · exact absurd isBetween (apart other (List.mem_of_getElem? before))
  refine ⟨?_, ?_, ?_, ?_, ?_⟩
  · intro none
    exact absurd rfl (none _ (Threads.mem_set_self found))
  · intro one other oneUpdate otherUpdate isOne stage isOther otherStage
    exact (here isOne stage).1.trans (here isOther otherStage).1.symm
  · intro position other isOther isBetween
    rw [(here isOther isBetween).2]
  · intro bytes member id isKid
    exact (matched.readings bytes member id isKid).store found _ _
  · intro bytes id member
    exact (matched.tokens bytes id member).store found _ _

/-- The id is stored, when no request is between its two reads. -/
theorem Matched.storeKid (matched : Matched state) (found : state.updates[index]? = some update)
    (isBetween : update.stage = .kid)
    (apart : ∀ reading ∈ state.readings, ∀ keyBytes, reading ≠ .readsKid keyBytes) :
    Matched { state with
      key := { state.key with kid := update.kid }
      updates := state.updates.set index { update with stage := .lastException } } := by
  have none {position : Nat} {other : Update} (isOther :
      (state.updates.set index { update with stage := .lastException })[position]? = some other) :
      other.stage ≠ .kid := by
    intro alsoBetween
    rcases Threads.getElem?_set_cases isOther with ⟨-, rfl⟩ | ⟨elsewhere, before⟩
    · cases alsoBetween
    · exact elsewhere
        (matched.single position index other update before alsoBetween found isBetween)
  refine ⟨?_, ?_, ?_, ?_, ?_⟩
  · intro _ bytes id isBytes isKid
    have stored := matched.between index update found isBetween
    replace isBytes : state.key.keyBytes = some bytes := isBytes
    rw [stored, Option.some.injEq] at isBytes
    exact ⟨_, Threads.mem_set_self found, isBytes, isKid⟩
  · intro one other oneUpdate otherUpdate isOne stage
    exact absurd stage (none isOne)
  · intro position other isOther stage
    exact absurd stage (none isOther)
  · intro bytes member
    exact absurd rfl (apart _ member bytes)
  · intro bytes id member
    exact (matched.tokens bytes id member).store found _ _

theorem next_readsKid {reading : Reading} {key : MicrosoftEntraAccessKey} {keyBytes : Bytes}
    (next : reading.next key now = .readsKid keyBytes) :
    reading = .readsKeyBytes ∧ key.keyBytes = some keyBytes := by
  cases reading with
  | checking =>
      rw [Reading.next] at next
      split_ifs at next
  | readsKeyBytes =>
      rw [Reading.next] at next
      split at next
      · cases next
      · rename_i stored
        cases next
        exact ⟨rfl, stored⟩
  | readsKid other =>
      rw [Reading.next] at next
      split at next
      · cases next
      · cases next
  | done answer => cases next

theorem next_token {reading : Reading} {key : MicrosoftEntraAccessKey} {keyBytes : Bytes}
    {kid : String} (next : reading.next key now = .done (.token keyBytes kid)) :
    reading = .readsKid keyBytes ∧ key.kid = some kid ∨ reading = .done (.token keyBytes kid) := by
  cases reading with
  | checking =>
      rw [Reading.next] at next
      split_ifs at next with unavailable
      rw [MicrosoftEntraAccessKey.answer, if_neg unavailable] at next
      cases next
  | readsKeyBytes =>
      rw [Reading.next] at next
      split at next
      · cases next
      · cases next
  | readsKid other =>
      rw [Reading.next] at next
      split at next
      · cases next
      · rename_i stored
        cases next
        exact .inl ⟨rfl, stored⟩
  | done answer => exact .inr next

/-- A request reads the bytes when no key is between its two stores. -/
theorem Matched.read (matched : Matched state) {reading : Reading}
    (found : state.readings[index]? = some reading)
    (apart : reading = .readsKeyBytes → ∀ update ∈ state.updates, update.stage ≠ .kid) :
    Matched { state with readings := state.readings.set index (reading.next state.key now) } := by
  refine { matched with readings := ?_, tokens := ?_ }
  · intro bytes member id isKid
    rcases List.mem_or_eq_of_mem_set member with before | new
    · exact matched.readings bytes before id isKid
    · obtain ⟨readsBytes, isBytes⟩ := next_readsKid new.symm
      exact matched.stored (apart readsBytes) bytes id isBytes isKid
  · intro bytes id member
    rcases List.mem_or_eq_of_mem_set member with before | new
    · exact matched.tokens bytes id before
    · rcases next_token new.symm with ⟨rfl, isKid⟩ | rfl
      · exact matched.readings bytes (List.mem_of_getElem? found) id isKid
      · exact matched.tokens bytes id (List.mem_of_getElem? found)

theorem matched_step {action : Action} (matched : Matched state) (apart : Apart state action)
    (stepped : step state action = some next) : Matched next := by
  cases action with
  | update kid keyStr =>
      cases stepped
      exact matched.add kid _
  | store index now =>
      rw [step] at stepped
      split at stepped
      · cases stepped
      · rename_i update found
        cases stepped
        obtain ⟨apartUpdates, apartReadings⟩ := apart update found
        cases stage : update.stage with
        | keyBytes =>
            have stored := matched.storeKeyBytes found (apartUpdates stage)
            rw [Update.store, stage]
            exact stored
        | kid =>
            have stored := matched.storeKid found stage (apartReadings stage)
            rw [Update.store, stage]
            exact stored
        | lastException | updateAt | isAuthorized | done =>
            rw [Update.store, stage]
            exact matched.storeOther found (by rw [stage]; nofun) (by nofun) rfl rfl
  | giveUp now =>
      rw [step] at stepped
      split_ifs at stepped
      cases stepped
      exact { matched with }
  | request =>
      cases stepped
      refine { matched with readings := ?_, tokens := ?_ }
      · intro bytes member id isKid
        rcases List.mem_append.mp member with before | new
        · exact matched.readings bytes before id isKid
        · cases List.mem_singleton.mp new
      · intro bytes id member
        rcases List.mem_append.mp member with before | new
        · exact matched.tokens bytes id before
        · cases List.mem_singleton.mp new
  | read index now =>
      rw [step] at stepped
      split at stepped
      · cases stepped
      · rename_i reading found
        cases stepped
        refine matched.read found fun readsBytes => apart ?_
        rw [found, readsBytes]

end Steps

/-- In every run in which stores and reads of a key keep apart, a token names the key it is signed
with. -/
theorem tokens_name_their_key (actions : List Action) {state : State}
    (ran : Machine.run step {} actions = some state)
    (apart : Machine.Along step Apart {} actions) :
    ∀ keyBytes kid, .done (.token keyBytes kid) ∈ state.readings → Together state keyBytes kid := by
  have start : Matched {} := by
    refine ⟨?_, ?_, ?_, nofun, nofun⟩
    · intro _ bytes id isBytes
      cases isBytes
    · intro one other update otherUpdate found
      cases found
    · intro index update found
      cases found
  exact (Machine.run_along matched_step start apart ran).tokens

instance (state : State) : (action : Action) → Decidable (Apart state action)
  | .store index _ =>
      have (reading : Reading) : Decidable (∀ keyBytes, reading ≠ .readsKid keyBytes) :=
        match reading with
        | .readsKid keyBytes => isFalse fun never => never keyBytes rfl
        | .checking | .readsKeyBytes | .done _ => isTrue nofun
      inferInstanceAs (Decidable (∀ update ∈ state.updates[index]?,
        (update.stage = .keyBytes → ∀ other ∈ state.updates, other.stage ≠ .kid) ∧
          (update.stage = .kid → ∀ reading ∈ state.readings,
            ∀ keyBytes, reading ≠ .readsKid keyBytes)))
  | .read index _ => inferInstanceAs (Decidable (state.readings[index]? = some .readsKeyBytes →
      ∀ update ∈ state.updates, update.stage ≠ .kid))
  | .update _ _ | .giveUp _ | .request => isTrue trivial

/-- The stores of the call, one after the other. -/
def stores (update now : Nat) : List Action := List.replicate 5 (.store update now)

/-- A token of the first key, made while the second is on its way. -/
def keyRotation : List Action :=
  [Action.update (some "first") "a"] ++ stores 0 1 ++
    [Action.update (some "second") "b", .request] ++
    List.replicate 3 (Action.read 0 2) ++ stores 1 3

theorem tokens_name_their_key_rotation :
    ∃ state, Machine.run step {} keyRotation = some state ∧
      state.readings = [.done (.token [97] "first")] ∧ Together state [97] "first" :=
  ⟨_, rfl, rfl, tokens_name_their_key keyRotation rfl (by decide) _ _ (by decide)⟩

/-- The bytes of the second key are stored before a request reads them, and its id is not. -/
def keyTorn : List Action :=
  [Action.update (some "first") "a"] ++ stores 0 1 ++ [Action.update (some "second") "b", .request,
    .store 1 2, .read 0 2, .read 0 2, .read 0 2]

theorem token_names_another_key :
    ∃ state, Machine.run step {} keyTorn = some state ∧
      state.readings = [.done (.token [98] "first")] ∧ ¬ Together state [98] "first" := by
  refine ⟨_, rfl, rfl, ?_⟩
  rintro ⟨update, member, isBytes, isKid⟩
  rcases List.mem_cons.mp member with rfl | second
  · cases isBytes
  · rw [List.mem_singleton.mp second] at isKid
    exact absurd isKid (by decide)

end AzureSignalR.Auth.KeyPairing
