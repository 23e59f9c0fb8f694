import AzureSignalR.ServiceConnections.MultiEndpointWriter

/-!
Contract: the message objects of a write to several endpoints.

Owns: that the caller's object is left as it is and that each endpoint is sent its
own clone with the id of its own ack, in every interleaving.

Does not own: what the calls on the endpoints return.
-/

set_option autoImplicit false

namespace AzureSignalR.ServiceConnections

open Library Library.Machine Protocol

/-! ## The purpose -/

/-- What has been sent to an endpoint is a clone of the caller's message that no
other endpoint has, with the id of the ack that was created for it. -/
def MultiEndpointWrite.SendsClones (message : ServiceMessage) (first : Int32)
    (state : MultiEndpointWrite) : Prop :=
  ∀ (index : Nat) (call : EndpointCall) (ref : Nat), state.calls[index]? = some call →
    call.sent = some ref →
      0 < ref ∧
      (∃ number ackId, call.ack = some (number, ackId) ∧ ackId = first + Int32.ofNat number ∧
        state.objects[ref]? = some (message.setAckId ackId) ∧
        (message.setAckId ackId).ackId? = some ackId ∧
        ∀ (other : Nat) (otherCall : EndpointCall), state.calls[other]? = some otherCall →
          other ≠ index → otherCall.ack.map Prod.fst ≠ some number) ∧
      ∀ (other : Nat) (otherCall : EndpointCall), state.calls[other]? = some otherCall →
        other ≠ index → otherCall.sent ≠ some ref

/-! ## Objects -/

/-- The call cannot be there before its message has been sent. -/
def CallStage.reached : CallStage → Bool
  | .writing | .finished (.ok _) | .recorded _ | .ended (.ok _) => true
  | .unstarted | .finished (.error _) | .ended (.error _) => false

/-- Where the object of a call comes from, among the objects and ids there are. -/
structure OwnsClone (message : ServiceMessage) (first : Int32) (objects : List ServiceMessage)
    (created : Nat) (call : EndpointCall) : Prop where
  inside : ∀ ref, call.clone = some ref → 0 < ref ∧ ref < objects.length
  sent : ∀ ref, call.sent = some ref → call.clone = some ref ∧
    ∃ number ackId, call.ack = some (number, ackId) ∧
      objects[ref]? = some (message.setAckId ackId)
  numbered : ∀ number ackId, call.ack = some (number, ackId) →
    number ≤ created ∧ ackId = first + Int32.ofNat number
  reached : call.stage.reached = true → call.sent ≠ none

/-- The later of two calls has the later object and the later ack. -/
structure Later (call otherCall : EndpointCall) : Prop where
  clones : ∀ ref otherRef, call.clone = some ref → otherCall.clone = some otherRef →
    ref < otherRef
  acks : ∀ number ackId otherNumber otherId, call.ack = some (number, ackId) →
    otherCall.ack = some (otherNumber, otherId) → number < otherNumber

/-- Nothing has been done for the endpoint. -/
def EndpointCall.Fresh (call : EndpointCall) : Prop :=
  call.clone = none ∧ call.sent = none ∧ call.ack = none ∧ call.stage = .unstarted

structure Cloned (message : ServiceMessage) (first : Int32) (state : MultiEndpointWrite) :
    Prop where
  caller : state.objects[0]? = some message
  counter : state.nextId = first + Int32.ofNat state.created
  bounded : state.started ≤ state.calls.length
  unstarted : ∀ (index : Nat) (call : EndpointCall), state.calls[index]? = some call →
    state.started ≤ index → call.Fresh
  owned : ∀ (index : Nat) (call : EndpointCall), state.calls[index]? = some call →
    OwnsClone message first state.objects state.created call
  later : ∀ (index : Nat) (call : EndpointCall) (other : Nat) (otherCall : EndpointCall),
    state.calls[index]? = some call → state.calls[other]? = some otherCall → index < other →
      Later call otherCall

variable {message : ServiceMessage} {first : Int32} {single : Bool}
  {state next : MultiEndpointWrite}

theorem EndpointCall.Fresh.ownsClone {call : EndpointCall} (fresh : call.Fresh)
    (objects : List ServiceMessage) (created : Nat) :
    OwnsClone message first objects created call := by
  obtain ⟨noClone, notSent, noAck, unstarted⟩ := fresh
  constructor
  · intro ref cloned
    rw [noClone] at cloned
    cases cloned
  · intro ref sent
    rw [notSent] at sent
    cases sent
  · intro number ackId acked
    rw [noAck] at acked
    cases acked
  · intro reached
    rw [unstarted] at reached
    cases reached

theorem EndpointCall.Fresh.later {call otherCall : EndpointCall} (fresh : otherCall.Fresh) :
    Later call otherCall := by
  obtain ⟨noClone, -, noAck, -⟩ := fresh
  constructor
  · intro ref otherRef _ cloned
    rw [noClone] at cloned
    cases cloned
  · intro number ackId otherNumber otherId _ acked
    rw [noAck] at acked
    cases acked

theorem OwnsClone.mono {objects : List ServiceMessage} {created : Nat} {call : EndpointCall}
    (owned : OwnsClone message first objects created call) (extra : List ServiceMessage)
    {more : Nat} (grown : created ≤ more) :
    OwnsClone message first (objects ++ extra) more call := by
  constructor
  · intro ref cloned
    obtain ⟨positive, inside⟩ := owned.inside ref cloned
    rw [List.length_append]
    exact ⟨positive, by omega⟩
  · intro ref sent
    obtain ⟨cloned, number, ackId, acked, content⟩ := owned.sent ref sent
    refine ⟨cloned, number, ackId, acked, ?_⟩
    rw [List.getElem?_append_left (owned.inside ref cloned).2]
    exact content
  · intro number ackId acked
    obtain ⟨atMost, isId⟩ := owned.numbered number ackId acked
    exact ⟨by omega, isId⟩
  · exact owned.reached

/-- The calls differ in where they are only. -/
structure SameObject (call changed : EndpointCall) : Prop where
  clone : changed.clone = call.clone
  sent : changed.sent = call.sent
  ack : changed.ack = call.ack
  reached : changed.stage.reached = true → call.stage.reached = true

theorem OwnsClone.congr {objects : List ServiceMessage} {created : Nat}
    {call changed : EndpointCall} (owned : OwnsClone message first objects created call)
    (same : SameObject call changed) : OwnsClone message first objects created changed := by
  constructor
  · rw [same.clone]
    exact owned.inside
  · rw [same.sent, same.clone, same.ack]
    exact owned.sent
  · rw [same.ack]
    exact owned.numbered
  · intro reached
    rw [same.sent]
    exact owned.reached (same.reached reached)

theorem Later.congr {call otherCall changed otherChanged : EndpointCall}
    (later : Later call otherCall) (same : SameObject call changed)
    (sameOther : SameObject otherCall otherChanged) : Later changed otherChanged := by
  constructor
  · rw [same.clone, sameOther.clone]
    exact later.clones
  · rw [same.ack, sameOther.ack]
    exact later.acks

namespace Cloned

theorem initial (message : ServiceMessage) (first : Int32) (serverEndpoints : List String) :
    Cloned message first (writeAckableMessage message first serverEndpoints) := by
  have fresh : ∀ (index : Nat) (call : EndpointCall),
      (writeAckableMessage message first serverEndpoints).calls[index]? = some call →
        call.Fresh := by
    intro index call present
    rw [writeAckableMessage, List.getElem?_map] at present
    obtain ⟨_, -, rfl⟩ := Option.map_eq_some_iff.mp present
    exact ⟨rfl, rfl, rfl, rfl⟩
  constructor
  · rfl
  · exact (Int32.add_zero first).symm
  · exact Nat.zero_le _
  · exact fun index call present _ => fresh index call present
  · exact fun index call present => (fresh index call present).ownsClone _ _
  · exact fun _ _ other otherCall _ present _ => (fresh other otherCall present).later

theorem createAck (cloned : Cloned message first state) :
    Cloned message first state.createAck := by
  constructor
  · exact cloned.caller
  · have counter := cloned.counter
    change state.nextId + 1 = first + Int32.ofNat (state.created + 1)
    rw [counter, Int32.ofNat_add, Int32.add_assoc]
    rfl
  · exact cloned.bounded
  · exact cloned.unstarted
  · intro index call present
    have owned := (cloned.owned index call present).mono [] (Nat.le_succ _)
    rw [List.append_nil] at owned
    exact owned
  · exact cloned.later

/-- The next endpoint gets the object and the ack that have just been made. -/
theorem begin (cloned : Cloned message first state) {call begun : EndpointCall}
    (present : state.calls[state.started]? = some call) {object : ServiceMessage}
    (newClone : begun.clone = some state.objects.length)
    (newAck : ∀ number ackId, begun.ack = some (number, ackId) → number = state.created + 1)
    (owned : OwnsClone message first (state.objects ++ [object]) (state.created + 1) begun) :
    Cloned message first
      { state.createAck with
        objects := state.objects ++ [object]
        calls := state.calls.set state.started begun
        started := state.started + 1 } := by
  have inside : state.started < state.calls.length :=
    (List.getElem?_eq_some_iff.mp present).1
  have lookup : ∀ (index : Nat) (found : EndpointCall),
      (state.calls.set state.started begun)[index]? = some found →
        index = state.started ∧ found = begun ∨
          index ≠ state.started ∧ state.calls[index]? = some found := by
    intro index found isFound
    rw [List.getElem?_set] at isFound
    split_ifs at isFound with isIndex
    · cases isFound
      exact .inl ⟨isIndex.symm, rfl⟩
    · exact .inr ⟨fun same => isIndex same.symm, isFound⟩
  constructor
  · have first : 0 < state.objects.length := (List.getElem?_eq_some_iff.mp cloned.caller).1
    change (state.objects ++ [object])[0]? = some message
    rw [List.getElem?_append_left first]
    exact cloned.caller
  · exact cloned.createAck.counter
  · change state.started + 1 ≤ (state.calls.set state.started begun).length
    rw [List.length_set]
    exact inside
  · intro index found isFound behind
    rcases lookup index found isFound with ⟨isIndex, -⟩ | ⟨-, before⟩
    · rw [isIndex] at behind
      exact absurd behind (Nat.not_succ_le_self _)
    · exact cloned.unstarted index found before (Nat.le_of_succ_le behind)
  · intro index found isFound
    rcases lookup index found isFound with ⟨-, rfl⟩ | ⟨-, before⟩
    · exact owned
    · exact (cloned.owned index found before).mono _ (Nat.le_succ _)
  · intro index found other otherFound isFound isOther ordered
    rcases lookup other otherFound isOther with ⟨isOtherIndex, rfl⟩ | ⟨-, otherBefore⟩
    · rcases lookup index found isFound with ⟨isIndex, -⟩ | ⟨-, before⟩
      · omega
      · have ownedBefore := cloned.owned index found before
        constructor
        · intro ref otherRef clonedRef clonedOther
          rw [newClone] at clonedOther
          cases clonedOther
          exact (ownedBefore.inside ref clonedRef).2
        · intro number ackId otherNumber otherId acked otherAcked
          have isNew := newAck otherNumber otherId otherAcked
          have atMost := (ownedBefore.numbered number ackId acked).1
          omega
    · rcases lookup index found isFound with ⟨isIndex, -⟩ | ⟨-, before⟩
      · exact (cloned.unstarted other otherFound otherBefore (by omega)).later
      · exact cloned.later index found other otherFound before otherBefore ordered

theorem start (cloned : Cloned message first state) {failure : Option WriteExn}
    (started : state.start failure = some next) : Cloned message first next := by
  unfold MultiEndpointWrite.start at started
  rw [cloned.caller] at started
  cases present : state.calls[state.started]? with
  | none =>
      rw [present] at started
      cases started
  | some call =>
      rw [present] at started
      obtain ⟨noClone, notSent, noAck, -⟩ :=
        cloned.unstarted _ call present (Nat.le_refl _)
      have counter := cloned.createAck.counter
      cases failure with
      | none =>
          cases started
          have replaced : ∀ object : ServiceMessage,
              (state.objects ++ [message]).set state.objects.length object =
                state.objects ++ [object] := by
            intro object
            rw [List.set_append_right _ _ (Nat.le_refl _), Nat.sub_self]
            rfl
          rw [replaced]
          refine cloned.begin present rfl ?_ ?_
          · intro number ackId acked
            cases acked
            rfl
          · constructor
            · intro ref clonedRef
              cases clonedRef
              rw [List.length_append]
              have first : 0 < state.objects.length :=
                (List.getElem?_eq_some_iff.mp cloned.caller).1
              exact ⟨first, Nat.lt_succ_self _⟩
            · intro ref sent
              cases sent
              refine ⟨rfl, _, _, rfl, ?_⟩
              rw [List.getElem?_append_right (Nat.le_refl _), Nat.sub_self]
              rfl
            · intro number ackId acked
              cases acked
              exact ⟨Nat.le_refl _, counter⟩
            · exact fun _ => Option.some_ne_none _
      | some error =>
          cases started
          refine cloned.begin present rfl ?_ ?_
          · intro number ackId acked
            change call.ack = _ at acked
            rw [noAck] at acked
            cases acked
          · constructor
            · intro ref clonedRef
              cases clonedRef
              rw [List.length_append]
              have first : 0 < state.objects.length :=
                (List.getElem?_eq_some_iff.mp cloned.caller).1
              exact ⟨first, Nat.lt_succ_self _⟩
            · intro ref sent
              change call.sent = _ at sent
              rw [notSent] at sent
              cases sent
            · intro number ackId acked
              change call.ack = _ at acked
              rw [noAck] at acked
              cases acked
            · exact fun reached => nomatch reached

/-- A step of one call that has been started, with no effect on the objects. -/
theorem setStage (cloned : Cloned message first state) {index : Nat} {call : EndpointCall}
    (present : state.calls[index]? = some call) (begun : call.stage ≠ .unstarted)
    {stage : CallStage} (reached : stage.reached = true → call.stage.reached = true) :
    Cloned message first (state.setStage index call stage) := by
  have same : ∀ (other : Nat) (changed : EndpointCall),
      (state.setStage index call stage).calls[other]? = some changed →
        ∃ before, state.calls[other]? = some before ∧ SameObject before changed ∧
          (changed ≠ before → other = index) := by
    intro other changed found
    rw [MultiEndpointWrite.setStage, List.getElem?_set] at found
    split_ifs at found with isIndex
    · cases found
      exact ⟨call, isIndex ▸ present, ⟨rfl, rfl, rfl, reached⟩, fun _ => isIndex.symm⟩
    · exact ⟨changed, found, ⟨rfl, rfl, rfl, id⟩, fun differs => absurd rfl differs⟩
  constructor
  · exact cloned.caller
  · exact cloned.counter
  · change state.started ≤ (state.calls.set index _).length
    rw [List.length_set]
    exact cloned.bounded
  · intro other changed found behind
    obtain ⟨before, presentBefore, -, differs⟩ := same other changed found
    have fresh := cloned.unstarted other before presentBefore behind
    by_cases unchanged : changed = before
    · rw [unchanged]
      exact fresh
    · have isIndex := differs unchanged
      rw [isIndex, present] at presentBefore
      cases presentBefore
      exact absurd fresh.2.2.2 begun
  · intro other changed found
    obtain ⟨before, presentBefore, isSame, -⟩ := same other changed found
    exact (cloned.owned other before presentBefore).congr isSame
  · intro first firstCall second secondCall foundFirst foundSecond ordered
    obtain ⟨before, presentBefore, isSame, -⟩ := same first firstCall foundFirst
    obtain ⟨other, presentOther, isSameOther, -⟩ := same second secondCall foundSecond
    exact (cloned.later first before second other presentBefore presentOther ordered).congr
      isSame isSameOther

/-- The lambda and the task of the caller have no effect on the objects. -/
theorem congr (cloned : Cloned message first state) (objects : next.objects = state.objects)
    (nextId : next.nextId = state.nextId) (created : next.created = state.created)
    (calls : next.calls = state.calls) (started : next.started = state.started) :
    Cloned message first next := by
  constructor
  · rw [objects]
    exact cloned.caller
  · rw [nextId, created]
    exact cloned.counter
  · rw [started, calls]
    exact cloned.bounded
  · rw [calls, started]
    exact cloned.unstarted
  · rw [calls, objects, created]
    exact cloned.owned
  · rw [calls]
    exact cloned.later

theorem sendsClones (cloned : Cloned message first state) (ackable : message.isAckable = true) :
    state.SendsClones message first := by
  intro index call ref present sent
  have owned := cloned.owned index call present
  obtain ⟨isClone, number, ackId, acked, content⟩ := owned.sent ref sent
  refine ⟨(owned.inside ref isClone).1, ⟨number, ackId, acked,
    (owned.numbered number ackId acked).2, content, message.ackId?_setAckId ackable ackId, ?_⟩, ?_⟩
  · intro other otherCall presentOther differs sameNumber
    obtain ⟨⟨_, otherId⟩, otherAcked, rfl⟩ := Option.map_eq_some_iff.mp sameNumber
    rcases Nat.lt_or_gt_of_ne differs with before | behind
    · have smaller := (cloned.later other otherCall index call presentOther present before).acks
        _ _ _ _ otherAcked acked
      exact absurd smaller (Nat.lt_irrefl _)
    · have smaller := (cloned.later index call other otherCall present presentOther behind).acks
        _ _ _ _ acked otherAcked
      exact absurd smaller (Nat.lt_irrefl _)
  · intro other otherCall presentOther differs sameRef
    have otherClone := ((cloned.owned other otherCall presentOther).sent ref sameRef).1
    rcases Nat.lt_or_gt_of_ne differs with before | behind
    · have smaller := (cloned.later other otherCall index call presentOther present
        before).clones _ _ otherClone isClone
      exact absurd smaller (Nat.lt_irrefl _)
    · have smaller := (cloned.later index call other otherCall present presentOther
        behind).clones _ _ isClone otherClone
      exact absurd smaller (Nat.lt_irrefl _)

end Cloned

end AzureSignalR.ServiceConnections
