import AzureSignalR.ClientConnections.Inbound

/-!
Contract: the application receives the client's data in order, without loss
or duplication, as long as no message overtakes an enumeration.

Owns: the invariant that relates the written bytes, the tasks in line and the
buffered messages to the bytes the application is meant to receive, and the
condition on dispatches under which it is kept.

While a task enumerates the buffered messages it stands last in the line.
Anything dispatched in the meantime changes the queue under its enumerator,
or enumerates the same owners again.
-/

set_option autoImplicit false

namespace AzureSignalR.ClientConnections

open Library Library.Machine Protocol

/-- What the tasks in line do after their current writes. -/
def InboundState.continuations (state : InboundState) : List Continuation :=
  state.line.map PendingWrite.continuation

/-- Some suspended task is inside the `foreach` over the buffered messages. -/
def Enumerating (state : InboundState) : Prop :=
  ∃ continuation ∈ state.continuations, continuation ≠ .payload

/-- The condition on a step: nothing that touches the buffered messages is
dispatched while a task enumerates them, and close messages only arrive at a
build that delivers them. An empty partial message touches nothing. -/
def Undisturbed (net8 : Bool) (state : InboundState) : InboundAction → Prop
  | .data message _ =>
      (message.type = .close → net8 = true) ∧
        (Enumerating state → message.isPartial = true ∧ message.payload = [])
  | .reconnect _ => ¬ Enumerating state
  | .resume => True

instance (state : InboundState) : Decidable (Enumerating state) :=
  inferInstanceAs (Decidable (∃ continuation ∈ state.continuations, continuation ≠ .payload))

instance (net8 : Bool) (state : InboundState) (action : InboundAction) :
    Decidable (Undisturbed net8 state action) :=
  match action with
  | .data _ _ => inferInstanceAs (Decidable (_ ∧ _))
  | .reconnect _ => inferInstanceAs (Decidable (¬ _))
  | .resume => inferInstanceAs (Decidable True)

/-- What the tasks in line have still to pass to the application in their
current writes. -/
def lineBytes (line : List PendingWrite) : Bytes :=
  line.flatMap fun write => write.segments.flatten

@[simp] theorem lineBytes_nil : lineBytes [] = [] := rfl

@[simp] theorem lineBytes_cons (write : PendingWrite) (line : List PendingWrite) :
    lineBytes (write :: line) = write.segments.flatten ++ lineBytes line := rfl

@[simp] theorem lineBytes_append (first second : List PendingWrite) :
    lineBytes (first ++ second) = lineBytes first ++ lineBytes second :=
  List.flatMap_append

namespace InboundState

/-- Passed to the application, or about to be by the writes in line. -/
def underway (state : InboundState) : Bytes := state.written ++ lineBytes state.line

def memories (state : InboundState) (owners : List Nat) : Bytes := owners.flatMap state.memory

/-- No task in line is enumerating. -/
def Plain (state : InboundState) : Prop :=
  ∀ continuation ∈ state.continuations, continuation = .payload

/-- The buffered owners were rented, each is there once, and none that the
queue still has to give out is disposed. -/
structure Holds (state : InboundState) (position : Nat) : Prop where
  rented : ∀ owner ∈ state.bufferedMessages, owner < state.owners.length
  returned : ∀ owner ∈ state.disposed, owner < state.owners.length
  distinct : state.bufferedMessages.Nodup
  alive : ∀ owner ∈ state.bufferedMessages.drop position, owner ∉ state.disposed

variable {state : InboundState}

/-! ## The line -/

theorem underway_writeSegment : state.writeSegment.underway = state.underway := by
  unfold writeSegment underway
  cases line : state.line with
  | nil => simp [line]
  | cons write others =>
      cases segments : write.segments with
      | nil => simp [segments]
      | cons segment rest => simp [segments]

theorem continuations_writeSegment :
    state.writeSegment.continuations = state.continuations := by
  unfold writeSegment continuations
  cases line : state.line with
  | nil => rw [line]
  | cons write others => rfl

/-- Writing a segment touches the line and the output only. -/
structure SameBuffers (before after : InboundState) : Prop where
  owners : after.owners = before.owners
  disposed : after.disposed = before.disposed
  bufferedMessages : after.bufferedMessages = before.bufferedMessages
  version : after.version = before.version

theorem sameBuffers_writeSegment : SameBuffers state state.writeSegment := by
  unfold writeSegment
  cases state.line with
  | nil => exact ⟨rfl, rfl, rfl, rfl⟩
  | cons write others => exact ⟨rfl, rfl, rfl, rfl⟩

theorem SameBuffers.holds {before after : InboundState} (same : SameBuffers before after)
    {position : Nat} (holds : before.Holds position) : after.Holds position := by
  constructor
  · rw [same.owners, same.bufferedMessages]
    exact holds.rented
  · rw [same.owners, same.disposed]
    exact holds.returned
  · rw [same.bufferedMessages]
    exact holds.distinct
  · rw [same.disposed, same.bufferedMessages]
    exact holds.alive

/-- `Clear` leaves nothing to give out. -/
theorem Holds.clear {position : Nat} (holds : state.Holds position) :
    state.clearBufferedMessages.Holds 0 :=
  { rented := by simp [clearBufferedMessages]
    returned := holds.returned
    distinct := by simp [clearBufferedMessages]
    alive := by simp [clearBufferedMessages] }

theorem SameBuffers.memories {before after : InboundState} (same : SameBuffers before after)
    (owners : List Nat) : after.memories owners = before.memories owners := by
  unfold InboundState.memories InboundState.memory
  rw [same.owners]

/-- A task that starts to write stands last in the line. -/
structure JoinsLine (state : InboundState) (write : PendingWrite) (after : InboundState) :
    Prop where
  buffers : SameBuffers state after
  underway : after.underway = state.underway ++ write.segments.flatten
  continuations : after.continuations = state.continuations ++ [write.continuation]

theorem joinsLine_writeToApplication (state : InboundState) (write : PendingWrite) :
    JoinsLine state write (state.writeToApplication write) := by
  unfold writeToApplication
  by_cases free : state.line = []
  · rw [if_pos free]
    constructor
    · exact ⟨rfl, rfl, rfl, rfl⟩
    · rw [underway_writeSegment]
      simp [underway, free]
    · rw [continuations_writeSegment]
      simp [continuations, free]
  · rw [if_neg free]
    constructor
    · exact ⟨rfl, rfl, rfl, rfl⟩
    · simp [underway]
    · simp [continuations]

end InboundState

open InboundState

/-! ## The invariant -/

/-- No task enumerates: the buffered messages are the partials of the
specification, and the line carries the rest of what is to be delivered. -/
structure Quiet (state : InboundState) (spec : InboundSpec) : Prop where
  plain : state.Plain
  holds : state.Holds 0
  partials : state.memories state.bufferedMessages = spec.partials
  delivered : state.underway = spec.delivered

/-- The last task in line is writing the buffered message at `position`. -/
structure Draining (state : InboundState) (spec : InboundSpec) : Prop where
  partials : spec.partials = []
  enumeration : ∃ (plain : List Continuation) (owner position : Nat) (payload : List Bytes),
    state.continuations = plain ++ [.buffered owner position state.version payload] ∧
      (∀ continuation ∈ plain, continuation = .payload) ∧
      state.bufferedMessages[position]? = some owner ∧ state.Holds position ∧
      state.underway ++ state.memories (state.bufferedMessages.drop (position + 1)) ++
        payload.flatten = spec.delivered

def Represents (state : InboundState) (spec : InboundSpec) : Prop :=
  Quiet state spec ∨ Draining state spec

variable {state : InboundState} {spec : InboundSpec}

/-- The owner at `position` and those behind it. -/
theorem drop_of_found {queue : List Nat} {owner position : Nat}
    (found : queue[position]? = some owner) :
    queue.drop position = owner :: queue.drop (position + 1) := by
  obtain ⟨inside, same⟩ := List.getElem?_eq_some_iff.mp found
  rw [List.drop_eq_getElem_cons inside, same]

/-- A task at `MoveNext`: everything is to be delivered except what it has
still to take from the queue, and its payload. -/
theorem represents_writeBuffered (position : Nat) (payload : List Bytes)
    (plain : state.Plain) (holds : state.Holds position) (partials : spec.partials = [])
    (delivered : state.underway ++ state.memories (state.bufferedMessages.drop position) ++
      payload.flatten = spec.delivered) :
    Represents (state.writeBuffered position state.version payload) spec := by
  unfold writeBuffered
  rw [if_neg (not_not.mpr rfl)]
  cases found : state.bufferedMessages[position]? with
  | some owner =>
      have drop := drop_of_found found
      have fresh : owner ∉ state.disposed := holds.alive owner (by rw [drop]; simp)
      simp only [if_neg fresh]
      obtain ⟨buffers, underway, continuations⟩ := joinsLine_writeToApplication state
          { segments := [state.memory owner]
            continuation := .buffered owner position state.version payload }
      right
      refine ⟨partials, state.continuations, owner, position, payload, ?_, plain, ?_,
        buffers.holds holds, ?_⟩
      · rw [continuations, buffers.version]
      · rw [buffers.bufferedMessages]
        exact found
      · rw [underway, buffers.memories, buffers.bufferedMessages, ← delivered, drop]
        simp [InboundState.memories]
  | none =>
      have nothing : state.bufferedMessages.drop position = [] :=
        List.drop_eq_nil_iff.mpr (List.getElem?_eq_none_iff.mp found)
      obtain ⟨buffers, underway, continuations⟩ :=
        joinsLine_writeToApplication state.clearBufferedMessages
          { segments := payload
            continuation := .payload }
      left
      have empty : state.clearBufferedMessages.Holds 0 := holds.clear
      refine ⟨?_, buffers.holds empty, ?_, ?_⟩
      · intro continuation member
        rw [continuations] at member
        rcases List.mem_append.mp member with before | itself
        · exact plain continuation before
        · exact List.mem_singleton.mp itself
      · rw [buffers.bufferedMessages, partials]
        rfl
      · rw [nothing] at delivered
        rw [underway, ← delivered]
        simp [InboundState.memories, InboundState.underway, clearBufferedMessages]

theorem Draining.enumerating (draining : Draining state spec) : Enumerating state := by
  obtain ⟨plain, owner, position, payload, continuations, -⟩ := draining.enumeration
  refine ⟨.buffered owner position state.version payload, ?_, nofun⟩
  rw [continuations]
  simp

theorem Represents.quiet (represents : Represents state spec) (idle : ¬ Enumerating state) :
    Quiet state spec := by
  rcases represents with quiet | draining
  · exact quiet
  · exact absurd draining.enumerating idle

/-- The invariant does not look at the segments themselves. -/
theorem Represents.of_same {after : InboundState} (represents : Represents state spec)
    (buffers : SameBuffers state after) (continuations : after.continuations = state.continuations)
    (underway : after.underway = state.underway) : Represents after spec := by
  rcases represents with quiet | draining
  · left
    constructor
    · intro continuation member
      rw [continuations] at member
      exact quiet.plain continuation member
    · exact buffers.holds quiet.holds
    · rw [buffers.memories, buffers.bufferedMessages]
      exact quiet.partials
    · rw [underway]
      exact quiet.delivered
  · right
    obtain ⟨plain, owner, position, payload, line, others, found, holds, delivered⟩ :=
      draining.enumeration
    refine ⟨draining.partials, plain, owner, position, payload, ?_, others, ?_,
      buffers.holds holds, ?_⟩
    · rw [continuations, buffers.version]
      exact line
    · rw [buffers.bufferedMessages]
      exact found
    · rw [underway, buffers.memories, buffers.bufferedMessages]
      exact delivered

/-! ## One step -/

theorem Quiet.enqueue (quiet : Quiet state spec) (message : ConnectionDataMessage) :
    Quiet
      { state with
        owners := state.owners ++ [message.payload]
        bufferedMessages := state.bufferedMessages ++ [state.owners.length]
        version := state.version + 1 }
      { spec with partials := spec.partials ++ message.payload } := by
  have rented := quiet.holds.rented
  have kept : ∀ owner ∈ state.bufferedMessages,
      ((state.owners ++ [message.payload])[owner]?).getD [] = state.memory owner := by
    intro owner member
    rw [List.getElem?_append_left (rented owner member)]
    rfl
  have holds := quiet.holds
  constructor
  · exact quiet.plain
  · constructor
    · intro owner member
      rw [List.length_append, List.length_singleton]
      rcases List.mem_append.mp member with old | new
      · have bound := holds.rented owner old
        omega
      · rw [List.mem_singleton.mp new]
        omega
    · intro owner member
      have bound := holds.returned owner member
      rw [List.length_append]
      omega
    · rw [List.nodup_append]
      refine ⟨holds.distinct, by simp, ?_⟩
      intro owner old other new same
      have bound := holds.rented owner old
      rw [same, List.mem_singleton.mp new] at bound
      omega
    · intro owner member disposed
      rcases List.mem_append.mp (List.mem_of_mem_drop member) with old | new
      · exact holds.alive owner (by simpa using old) disposed
      · have bound := holds.returned owner disposed
        rw [List.mem_singleton.mp new] at bound
        omega
  · change (state.bufferedMessages ++ [state.owners.length]).flatMap
      (fun owner => ((state.owners ++ [message.payload])[owner]?).getD []) = _
    rw [List.flatMap_append, List.flatMap_congr kept]
    simp [← quiet.partials, InboundState.memories]
  · exact quiet.delivered

/-- A complete message takes over the partials. -/
theorem represents_of_complete (quiet : Quiet state spec) {payload : Bytes}
    {segments : List Bytes} (whole : segments.flatten = payload) :
    Represents (state.writeBuffered 0 state.version segments)
      { partials := []
        delivered := spec.delivered ++ spec.partials ++ payload } := by
  apply represents_writeBuffered 0 segments quiet.plain quiet.holds rfl
  rw [List.drop_zero, quiet.partials, quiet.delivered, whole]

theorem represents_of_data {net8 : Bool} {message : ConnectionDataMessage}
    {segments : List Bytes} (represents : Represents state spec)
    (undisturbed : Undisturbed net8 state (.data message segments))
    (whole : segments.flatten = message.payload) :
    Represents (state.processConnectionDataMessage net8 message segments)
      (spec.receive (.data message segments)) := by
  unfold processConnectionDataMessage InboundSpec.receive
  have delivered : ¬ (net8 = false ∧ message.type = .close) := by
    rintro ⟨older, close⟩
    have newer := undisturbed.1 close
    rw [older] at newer
    exact nomatch newer
  rw [if_neg delivered]
  by_cases isPartial : message.isPartial = true
  · rw [if_pos isPartial]
    simp only [if_pos isPartial]
    by_cases empty : message.payload = []
    · -- Nothing is buffered and nothing is missing.
      rw [if_pos empty, empty, List.append_nil]
      exact represents.of_same ⟨rfl, rfl, rfl, rfl⟩ rfl rfl
    · rw [if_neg empty]
      have idle : ¬ Enumerating state := fun busy => empty (undisturbed.2 busy).2
      left
      exact (represents.quiet idle).enqueue message
  · rw [if_neg isPartial]
    simp only [if_neg isPartial]
    have idle : ¬ Enumerating state := fun busy => isPartial (undisturbed.2 busy).1
    exact represents_of_complete (represents.quiet idle) whole

theorem represents_of_reconnect (represents : Represents state spec)
    (idle : ¬ Enumerating state) :
    Represents state.clearBufferedMessages { spec with partials := [] } := by
  have quiet := represents.quiet idle
  left
  exact ⟨quiet.plain, quiet.holds.clear, rfl, quiet.delivered⟩

/-- Disposing the owner just written keeps those behind it. -/
theorem InboundState.Holds.dispose {owner position : Nat} (holds : state.Holds position)
    (found : state.bufferedMessages[position]? = some owner) (line : List PendingWrite) :
    { state with line := line, flushing := false, disposed := owner :: state.disposed }.Holds
      (position + 1) := by
  have drop := drop_of_found found
  have distinct : (owner :: state.bufferedMessages.drop (position + 1)).Nodup := by
    rw [← drop]
    exact holds.distinct.sublist (List.drop_sublist position _)
  constructor
  · exact holds.rented
  · intro other member
    rcases List.mem_cons.mp member with rfl | earlier
    · exact holds.rented _ (List.mem_of_getElem? found)
    · exact holds.returned other earlier
  · exact holds.distinct
  · intro other behind member
    rcases List.mem_cons.mp member with rfl | earlier
    · exact (List.nodup_cons.mp distinct).1 behind
    · refine holds.alive other ?_ earlier
      rw [drop]
      exact List.mem_cons_of_mem _ behind

/-- The enumerating task, alone in line, goes on to the next owner. -/
theorem represents_of_next {owner position : Nat} {payload : List Bytes}
    (partials : spec.partials = [])
    (found : state.bufferedMessages[position]? = some owner) (holds : state.Holds position)
    (delivered : state.written ++ state.memories (state.bufferedMessages.drop (position + 1)) ++
      payload.flatten = spec.delivered) :
    Represents
      ({ state with line := [], flushing := false }.afterWrite
        (.buffered owner position state.version payload)) spec := by
  have fresh : owner ∉ state.disposed := by
    apply holds.alive owner
    rw [drop_of_found found]
    exact List.mem_cons_self
  unfold afterWrite
  simp only [if_neg fresh]
  apply represents_writeBuffered (position + 1) payload
  · exact fun continuation member => absurd member List.not_mem_nil
  · exact holds.dispose found []
  · exact partials
  · change state.written ++ lineBytes [] ++
      state.memories (state.bufferedMessages.drop (position + 1)) ++ payload.flatten = _
    rw [lineBytes_nil, List.append_nil]
    exact delivered

/-- The first task has nothing left to write and gives the lock up. -/
theorem represents_of_release {write : PendingWrite} {others : List PendingWrite}
    (represents : Represents state spec) (line : state.line = write :: others)
    (done : write.segments = []) :
    Represents
      ({ state with line := others, flushing := false }.afterWrite write.continuation) spec := by
  have underway : { state with line := others, flushing := false }.underway =
      state.underway := by
    simp [InboundState.underway, line, done]
  rcases represents with quiet | draining
  · have plain : write.continuation = .payload :=
      quiet.plain write.continuation (by simp [continuations, line])
    rw [plain]
    left
    refine ⟨?_, ⟨quiet.holds.rented, quiet.holds.returned, quiet.holds.distinct,
      quiet.holds.alive⟩, quiet.partials, underway.trans quiet.delivered⟩
    intro continuation member
    apply quiet.plain continuation
    unfold InboundState.continuations at member ⊢
    rw [line]
    exact List.mem_cons_of_mem _ member
  · obtain ⟨plain, owner, position, payload, continuations, ahead, found, holds, delivered⟩ :=
      draining.enumeration
    unfold InboundState.continuations at continuations
    rw [line, List.map_cons] at continuations
    cases plain with
    | cons first plain =>
        -- A task ahead of the enumerating one ends.
        rw [List.cons_append, List.cons.injEq] at continuations
        rw [continuations.1, ahead first List.mem_cons_self]
        right
        exact ⟨draining.partials, plain, owner, position, payload, continuations.2,
          fun continuation member => ahead continuation (List.mem_cons_of_mem _ member),
          found, ⟨holds.rented, holds.returned, holds.distinct, holds.alive⟩,
          underway ▸ delivered⟩
    | nil =>
        rw [List.nil_append, List.cons.injEq] at continuations
        have alone : others = [] := List.map_eq_nil_iff.mp continuations.2
        rw [continuations.1, alone]
        apply represents_of_next draining.partials found holds
        rw [← underway, alone] at delivered
        simpa [InboundState.underway] using delivered

theorem Represents.step {net8 : Bool} {next : InboundState} {action : InboundAction}
    (represents : Represents state spec) (undisturbed : Undisturbed net8 state action)
    (stepped : inboundStep net8 state action = some next) :
    Represents next (spec.receive action) := by
  cases action with
  | data message segments =>
      simp only [inboundStep] at stepped
      split at stepped
      · rename_i segmented
        cases stepped
        exact represents_of_data represents undisturbed segmented.2
      · exact nomatch stepped
  | reconnect message =>
      cases stepped
      exact represents_of_reconnect represents undisturbed
  | resume =>
      simp only [inboundStep] at stepped
      cases line : state.line with
      | nil =>
          rw [line] at stepped
          exact nomatch stepped
      | cons write others =>
          rw [line] at stepped
          simp only at stepped
          split at stepped
          · rename_i finished
            cases stepped
            exact represents_of_release represents line finished.2
          · cases stepped
            exact represents.of_same sameBuffers_writeSegment continuations_writeSegment
              underway_writeSegment

/-! ## Whole runs -/

theorem Represents.run {net8 : Bool} {final : InboundState} {actions : List InboundAction}
    (represents : Represents state spec)
    (undisturbed : Along (inboundStep net8) (Undisturbed net8) state actions)
    (ran : run (inboundStep net8) state actions = some final) :
    Represents final (actions.foldl InboundSpec.receive spec) := by
  induction actions generalizing state spec with
  | nil =>
      cases ran
      exact represents
  | cons action actions inductionHypothesis =>
      obtain ⟨next, stepped, rest⟩ := run_cons.1 ran
      exact inductionHypothesis (represents.step undisturbed.1 stepped)
        (undisturbed.2 next stepped) rest

theorem Represents.isPrefix (represents : Represents state spec) :
    state.written <+: spec.delivered := by
  rcases represents with quiet | draining
  · exact ⟨_, quiet.delivered⟩
  · obtain ⟨plain, owner, position, payload, -, -, -, -, delivered⟩ := draining.enumeration
    refine ⟨lineBytes state.line ++
      state.memories (state.bufferedMessages.drop (position + 1)) ++ payload.flatten, ?_⟩
    rw [← delivered]
    simp [InboundState.underway]

theorem Represents.written_of_idle (represents : Represents state spec)
    (idle : state.line = []) : state.written = spec.delivered := by
  rcases represents with quiet | draining
  · have delivered := quiet.delivered
    unfold InboundState.underway at delivered
    rw [idle, lineBytes_nil, List.append_nil] at delivered
    exact delivered
  · obtain ⟨plain, owner, position, payload, continuations, -⟩ := draining.enumeration
    unfold InboundState.continuations at continuations
    rw [idle] at continuations
    simp at continuations

/-! ## The line empties -/

/-- The writes a task has still to start after its current one. -/
def Continuation.work (buffered : Nat) : Continuation → Nat
  | .payload => 0
  | .buffered _ position _ segments => 3 * (buffered - (position + 1)) + segments.length + 2

/-- Every resumption decreases it. -/
def remainingWork (state : InboundState) : Nat :=
  (state.line.map fun write =>
    write.segments.length + 2 + write.continuation.work state.bufferedMessages.length).sum +
    (!state.flushing).toNat

theorem remainingWork_writeSegment {write : PendingWrite} {others : List PendingWrite}
    (line : state.line = write :: others)
    (unfinished : ¬ (state.flushing = true ∧ write.segments = [])) :
    remainingWork state.writeSegment < remainingWork state := by
  unfold remainingWork writeSegment
  simp only [line, List.map_cons, List.sum_cons, List.length_tail, Bool.not_true,
    Bool.toNat_false]
  cases flushing : state.flushing with
  | false =>
      simp only [Bool.not_false, Bool.toNat_true]
      omega
  | true =>
      have some : 0 < write.segments.length := by
        apply List.length_pos_iff.mpr
        exact fun empty => unfinished ⟨flushing, empty⟩
      omega

/-- The enumerating task, alone in line, has one write less to do. -/
theorem remainingWork_of_next {owner position : Nat} (payload : List Bytes)
    (found : state.bufferedMessages[position]? = some owner) (holds : state.Holds position) :
    remainingWork
        ({ state with line := [], flushing := false }.afterWrite
          (.buffered owner position state.version payload)) <
      2 + Continuation.work state.bufferedMessages.length
        (.buffered owner position state.version payload) := by
  have fresh : owner ∉ state.disposed := by
    apply holds.alive owner
    rw [drop_of_found found]
    exact List.mem_cons_self
  have alive : ∀ other, state.bufferedMessages[position + 1]? = some other →
      other ∉ owner :: state.disposed := by
    intro other next
    apply (holds.dispose found []).alive other
    change other ∈ state.bufferedMessages.drop (position + 1)
    rw [drop_of_found next]
    exact List.mem_cons_self
  unfold afterWrite writeBuffered
  simp only [if_neg fresh, ne_eq, not_true_eq_false, if_false]
  cases next : state.bufferedMessages[position + 1]? with
  | some other =>
      have inside := (List.getElem?_eq_some_iff.mp next).1
      simp only [if_neg (alive other next)]
      simp [remainingWork, writeToApplication, writeSegment, Continuation.work]
      omega
  | none =>
      simp [remainingWork, writeToApplication, writeSegment, Continuation.work,
        clearBufferedMessages]
      omega

theorem remainingWork_of_release {write : PendingWrite} {others : List PendingWrite}
    (represents : Represents state spec) (line : state.line = write :: others)
    (finished : state.flushing = true ∧ write.segments = []) :
    remainingWork
        ({ state with line := others, flushing := false }.afterWrite write.continuation) <
      remainingWork state := by
  have before : remainingWork state =
      2 + write.continuation.work state.bufferedMessages.length +
        (others.map fun write => write.segments.length + 2 +
          write.continuation.work state.bufferedMessages.length).sum := by
    unfold remainingWork
    simp [line, finished.1, finished.2]
  have ends (plain : write.continuation = .payload) :
      remainingWork
          ({ state with line := others, flushing := false }.afterWrite write.continuation) <
        remainingWork state := by
    rw [before, plain]
    simp only [afterWrite, remainingWork, Continuation.work, Bool.not_false, Bool.toNat_true]
    omega
  rcases represents with quiet | draining
  · exact ends (quiet.plain write.continuation (by simp [continuations, line]))
  · obtain ⟨plain, owner, position, payload, continuations, ahead, found, holds, -⟩ :=
      draining.enumeration
    unfold InboundState.continuations at continuations
    rw [line, List.map_cons] at continuations
    cases plain with
    | cons first plain =>
        rw [List.cons_append, List.cons.injEq] at continuations
        exact ends (continuations.1.trans (ahead first List.mem_cons_self))
    | nil =>
        rw [List.nil_append, List.cons.injEq] at continuations
        have alone : others = [] := List.map_eq_nil_iff.mp continuations.2
        have next := remainingWork_of_next payload found holds
        rw [before, continuations.1, alone]
        simpa using next

/-- The pending flushes complete one after the other until no task is left. -/
theorem Represents.settles {net8 : Bool} (represents : Represents state spec) :
    ∃ count final,
      Machine.run (inboundStep net8) state (List.replicate count .resume) = some final ∧
        final.line = [] ∧ final.written = spec.delivered := by
  have progress : ∀ {state : InboundState}, Represents state spec → ¬ state.line = [] →
      ∃ action next, action = .resume ∧ inboundStep net8 state action = some next ∧
        Represents next spec ∧ remainingWork next < remainingWork state := by
    intro state represents busy
    obtain ⟨write, others, line⟩ := List.exists_cons_of_ne_nil busy
    have smaller : ∃ next, inboundStep net8 state .resume = some next ∧
        remainingWork next < remainingWork state := by
      simp only [inboundStep, line]
      by_cases finished : state.flushing = true ∧ write.segments = []
      · rw [if_pos finished]
        exact ⟨_, rfl, remainingWork_of_release represents line finished⟩
      · rw [if_neg finished]
        exact ⟨_, rfl, remainingWork_writeSegment line finished⟩
    obtain ⟨next, stepped, less⟩ := smaller
    have after : Represents next spec :=
      represents.step (show Undisturbed net8 state .resume from trivial) stepped
    exact ⟨.resume, next, rfl, stepped, after, less⟩
  obtain ⟨actions, final, resumes, ran, settled, idle⟩ :=
    Machine.run_until remainingWork progress represents
  rw [List.eq_replicate_of_mem resumes] at ran
  exact ⟨actions.length, final, ran, idle, settled.written_of_idle idle⟩

/-- The application receives, in order and once, what it is meant to receive:
at any time an initial part of it, and all of it when the pending flushes have
completed. -/
theorem inbound_delivers {net8 : Bool} {actions : List InboundAction} {state : InboundState}
    (undisturbed : Along (inboundStep net8) (Undisturbed net8) {} actions)
    (ran : run (inboundStep net8) {} actions = some state) :
    state.written <+: expectedDelivery actions ∧
      (state.line = [] → state.written = expectedDelivery actions) ∧
      ∃ count final, run (inboundStep net8) state (List.replicate count .resume) =
        some final ∧ final.line = [] ∧ final.written = expectedDelivery actions := by
  have start : Represents {} {} := by
    left
    constructor
    · exact fun continuation member => absurd member List.not_mem_nil
    · constructor <;> simp
    · rfl
    · rfl
  have represents := start.run undisturbed ran
  exact ⟨represents.isPrefix, represents.written_of_idle, represents.settles⟩

def partialMessage (payload : Bytes) : InboundAction :=
  .data { connectionId := "c", payload := payload, isPartial := true } [payload]

def completeMessage (payload : Bytes) : InboundAction :=
  .data { connectionId := "c", payload := payload } [payload]

/-- A complete message overtakes the flush of another one, but no
enumeration. -/
theorem inbound_delivers_overlapping :
    ∃ state, run (inboundStep true) {}
        [partialMessage [1], completeMessage [2], .resume, completeMessage [3], .resume,
          .resume, .resume] = some state ∧ state.written = [1, 2, 3] := by
  have ran : run (inboundStep true) {}
      [partialMessage [1], completeMessage [2], .resume, completeMessage [3], .resume,
        .resume, .resume] =
      some
        { owners := [[1]]
          disposed := [0]
          version := 3
          written := [1, 2, 3] } := by decide
  refine ⟨_, ran, (inbound_delivers ?_ ran).2.1 rfl⟩
  apply along_cons (by decide) rfl
  apply along_cons (by decide) rfl
  apply along_cons (by decide) rfl
  apply along_cons (by decide) rfl
  apply along_cons (by decide) rfl
  apply along_cons (by decide) rfl
  apply along_cons (by decide) rfl
  trivial

/-- A partial message is dispatched while the buffered one before it is being
flushed: the complete message it belongs to is lost. -/
theorem not_inbound_delivers_overtaking :
    ¬ ∀ actions state, run (inboundStep true) {} actions = some state → state.line = [] →
      state.written = expectedDelivery actions := by
  intro delivers
  have ran : run (inboundStep true) {}
      [partialMessage [1], completeMessage [2], partialMessage [3], .resume] =
      some
        { owners := [[1], [3]]
          disposed := [0]
          bufferedMessages := [0, 1]
          version := 2
          written := [1]
          failures := [.invalidOperation
            "Collection was modified after the enumerator was instantiated."] } := by decide
  have lost := delivers _ _ ran rfl
  exact absurd lost (by decide)

end AzureSignalR.ClientConnections
