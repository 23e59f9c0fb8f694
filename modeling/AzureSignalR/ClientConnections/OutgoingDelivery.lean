import AzureSignalR.ClientConnections.OutgoingOrder

/-!
Contract: when the outgoing loop forwards everything the application has
written.

Owns: the output that is exhausted, the loop that has forwarded everything
when it returns, and the loop that has forwarded everything when it waits for
new output, each with the steps that break it.
-/

set_option autoImplicit false

namespace AzureSignalR.ClientConnections

open Library Library.Machine Protocol

variable {context : OutgoingContext} {state next : OutgoingState}

/-! ## Exhausted output -/

/-- No frame can be taken off what is unsent. -/
def Exhausted (context : OutgoingContext) (handshakeComplete : Bool) (unsent : Bytes) : Prop :=
  if handshakeComplete then context.hubProtocol.Halts unsent
  else context.handshakeProtocol.Halts unsent

theorem outputMessages_of_halts {output : Bytes}
    (halts : context.handshakeProtocol.Halts output) : context.outputMessages output = [] := by
  rw [OutgoingContext.outputMessages]
  split
  next parsed => exact absurd parsed (halts _ _)
  next => rfl

theorem Reached.exhausted {output unsent : Bytes} {handshakeComplete : Bool}
    {messages : List ConnectionDataMessage}
    (reached : Reached context output handshakeComplete messages unsent)
    (exhausted : Exhausted context handshakeComplete unsent) :
    messages = context.outputMessages output := by
  cases reached with
  | handshake => exact (outputMessages_of_halts exhausted).symm
  | hub response taken =>
      have halts : context.hubProtocol.Halts unsent := exhausted
      simp only [OutgoingContext.outputMessages, response]
      rw [FrameParser.frames_eq taken halts.withFrame]

/-- Nothing the application can still write adds a message. -/
def Settled (context : OutgoingContext) (state : OutgoingState) : Prop :=
  ∀ more, (state.input.completed = true → more = []) →
    state.messages = context.outputMessages (state.output ++ more)

/-- The output is complete, and no frame is left in it. -/
theorem Position.settled_of_completed {unsent : Bytes}
    (position : Position context state unsent) (completed : state.input.completed = true)
    (exhausted : Exhausted context state.handshakeComplete unsent) :
    Settled context state := by
  intro more finished
  rw [finished completed, List.append_nil]
  exact position.reached.exhausted exhausted

/-- A frame cannot be parsed, whatever follows it. -/
theorem Position.settled_of_malformed {unsent : Bytes}
    (position : Position context state unsent)
    (malformed : ∀ more, Exhausted context state.handshakeComplete (unsent ++ more)) :
    Settled context state := by
  intro more _
  exact (position.reached.append more).exhausted (malformed more)

theorem exhausted_of_none {buffer : Bytes} {handshakeComplete : Bool}
    (unanswered : handshakeComplete = false →
      context.handshakeProtocol.parse buffer = .ok none)
    (drained : handshakeComplete = true → context.hubProtocol.parse buffer = .ok none) :
    Exhausted context handshakeComplete buffer := by
  cases handshakeComplete with
  | false => exact FrameParser.halts_of_none _ (unanswered rfl)
  | true => exact FrameParser.halts_of_none _ (drained rfl)

/-! ## The loop returns -/

/-- The `IsCompleted` of the current read. -/
def OutgoingLoop.completed : OutgoingLoop → Bool
  | .reading _ => false
  | .handshaking _ _ completed => completed
  | .parsing _ completed => completed
  | .waiting _ _ _ completed => completed
  | .forwarding _ _ _ completed => completed
  | .releasing _ completed _ => completed
  | .returned => false

/-- The loop is not aborted, and no forward fails. -/
def OutgoingAction.Succeeds : OutgoingAction → Prop
  | .cancelPendingRead => False
  | .cancelOutgoing => False
  | .forward result => result = .success
  | _ => True

/-- No wait times out once the application has completed its output, and the
loop does not release a permit that a `Resume` has released for it. -/
def Uninterrupted (state : OutgoingState) : OutgoingAction → Prop
  | .timeout => state.loop.completed = false
  | .release => state.pauseHandler.release ≠ none
  | _ => True

instance : DecidablePred OutgoingAction.Succeeds
  | .cancelPendingRead | .cancelOutgoing => instDecidableFalse
  | .forward result => inferInstanceAs (Decidable (result = .success))
  | .write _ | .complete | .read | .parse | .release | .timeout | .observeAbort | .pause
  | .resetPauseAcked | .enterPause | .checkAck | .replyAck _ | .resume | .releasePause =>
      instDecidableTrue

instance (state : OutgoingState) : DecidablePred (Uninterrupted state)
  | .timeout => inferInstanceAs (Decidable (state.loop.completed = false))
  | .release => inferInstanceAs (Decidable (state.pauseHandler.release ≠ none))
  | .write _ | .complete | .cancelPendingRead | .cancelOutgoing | .read | .parse
  | .forward _ | .observeAbort | .pause | .resetPauseAcked | .enterPause | .checkAck
  | .replyAck _ | .resume | .releasePause => instDecidableTrue

structure Delivering (context : OutgoingContext) (state : OutgoingState) : Prop where
  ordered : Ordered context state
  unaborted : state.outgoingAborted = false
  uncanceled : state.input.canceled = false
  succeeded : ∀ forward ∈ state.forwards, forward.2 = .success
  completed : state.loop.completed = true →
    state.input.completed = true ∧ state.input.buffered = []
  settled : ¬ state.loop.Running → Settled context state

/-- What the end of a read leaves of the state. -/
theorem Delivering.endRead {buffer : Bytes} {completed abandoned : Bool}
    (position : Position context state (buffer ++ state.input.buffered))
    (unaborted : state.outgoingAborted = false) (uncanceled : state.input.canceled = false)
    (succeeded : ∀ forward ∈ state.forwards, forward.2 = .success)
    (finished : completed = true →
      state.input.completed = true ∧ state.input.buffered = [])
    (exhausted : completed = true → Exhausted context state.handshakeComplete buffer) :
    Delivering context (state.endRead buffer completed abandoned) := by
  have ordered : Ordered context (state.endRead buffer completed abandoned) :=
    position.endRead
  rw [OutgoingState.endRead] at ordered ⊢
  split_ifs at ordered ⊢ with isCompleted aborted
  · refine ⟨ordered, unaborted, uncanceled, succeeded, by simp [OutgoingLoop.completed], ?_⟩
    intro _
    obtain ⟨inputCompleted, drained⟩ := finished isCompleted
    rw [drained, List.append_nil] at position
    exact Position.settled_of_completed ⟨position.reached, position.goesOn⟩ inputCompleted
      (exhausted isCompleted)
  · exact absurd unaborted (by simp [aborted])
  · refine ⟨ordered, unaborted, uncanceled, succeeded, by simp [OutgoingLoop.completed], ?_⟩
    intro stopped
    exact absurd trivial stopped

@[simp] theorem OutgoingLoop.completed_granted (loop : OutgoingLoop) :
    loop.granted.completed = loop.completed := by
  cases loop <;> rfl

theorem Untouched.settled (untouched : Untouched state next)
    (settled : Settled context state) : Settled context next := by
  intro more finished
  rw [untouched.input] at finished
  rw [untouched.messages, untouched.output]
  exact settled more finished

theorem Delivering.of_keeps (delivering : Delivering context state)
    (keeps : Keeps state next) : Delivering context next where
  ordered := delivering.ordered.of_keeps keeps
  unaborted := keeps.outgoingAborted.trans delivering.unaborted
  uncanceled := by
    rw [keeps.input]
    exact delivering.uncanceled
  succeeded := by
    rw [keeps.forwards]
    exact delivering.succeeded
  completed finished := by
    rw [keeps.input]
    apply delivering.completed
    rcases keeps.loop with same | granted
    · rwa [same] at finished
    · rwa [granted, OutgoingLoop.completed_granted] at finished
  settled stopped := by
    apply keeps.settled
    apply delivering.settled
    rwa [keeps.running] at stopped

theorem Delivering.write {chunk : Bytes} (delivering : Delivering context state)
    (unfinished : state.input.completed = false)
    (ordered : Ordered context
      { state with
        output := state.output ++ chunk
        input := state.input.write chunk }) :
    Delivering context
      { state with
        output := state.output ++ chunk
        input := state.input.write chunk } where
  ordered := ordered
  unaborted := delivering.unaborted
  uncanceled := delivering.uncanceled
  succeeded := delivering.succeeded
  completed finished := by
    have impossible := (delivering.completed finished).1
    exact absurd impossible (by simp [unfinished])
  settled stopped := by
    intro more _
    change state.messages = context.outputMessages (state.output ++ chunk ++ more)
    rw [List.append_assoc]
    apply delivering.settled stopped
    intro impossible
    exact absurd impossible (by simp [unfinished])

theorem Delivering.complete (delivering : Delivering context state)
    (ordered : Ordered context { state with input := state.input.complete }) :
    Delivering context { state with input := state.input.complete } where
  ordered := ordered
  unaborted := delivering.unaborted
  uncanceled := delivering.uncanceled
  succeeded := delivering.succeeded
  completed finished := ⟨rfl, (delivering.completed finished).2⟩
  settled stopped := by
    intro more finished
    rw [finished rfl]
    exact delivering.settled stopped [] fun _ => rfl

/-- The loop goes on and knows as much about the completion as before. -/
theorem Delivering.continues (delivering : Delivering context state)
    (ordered : Ordered context next)
    (unaborted : next.outgoingAborted = state.outgoingAborted)
    (input : next.input = state.input)
    (succeeded : ∀ forward ∈ next.forwards, forward.2 = .success)
    (completed : next.loop.completed = true → state.loop.completed = true)
    (running : next.loop.Running) : Delivering context next where
  ordered := ordered
  unaborted := unaborted.trans delivering.unaborted
  uncanceled := by
    rw [input]
    exact delivering.uncanceled
  succeeded := succeeded
  completed finished := by
    rw [input]
    exact delivering.completed (completed finished)
  settled stopped := absurd running stopped

/-- The loop returns because a frame cannot be parsed. -/
theorem Delivering.malformed {unsent : Bytes} (delivering : Delivering context state)
    (ordered : Ordered context next) (position : Position context next unsent)
    (unaborted : next.outgoingAborted = state.outgoingAborted)
    (uncanceled : next.input.canceled = state.input.canceled)
    (succeeded : next.forwards = state.forwards) (returned : next.loop = .returned)
    (malformed : ∀ more, Exhausted context next.handshakeComplete (unsent ++ more)) :
    Delivering context next where
  ordered := ordered
  unaborted := unaborted.trans delivering.unaborted
  uncanceled := uncanceled.trans delivering.uncanceled
  succeeded := by
    rw [succeeded]
    exact delivering.succeeded
  completed finished := by
    rw [returned] at finished
    exact nomatch finished
  settled _ := position.settled_of_malformed malformed

theorem Delivering.read {abandoned : Bool} (delivering : Delivering context state)
    (reading : state.loop = .reading abandoned)
    (outcome : ReadOutcome context state next) : Delivering context next := by
  have ordered := delivering.ordered.read reading outcome
  have position : Position context state state.input.buffered := by
    have position := delivering.ordered.position (by rw [reading]; trivial)
    rwa [reading] at position
  have lent : Position context { state with input := state.input.lend }
      (state.input.buffered ++ state.input.lend.buffered) := by
    refine ⟨?_, position.goesOn⟩
    rw [show state.input.lend.buffered = [] from rfl, List.append_nil]
    exact position.reached
  have finished : state.input.completed = true →
      state.input.lend.completed = true ∧ state.input.lend.buffered = [] :=
    fun completed => ⟨completed, rfl⟩
  cases outcome with
  | canceled canceled => exact absurd delivering.uncanceled (by simp [canceled])
  | empty empty =>
      rw [empty] at lent
      apply Delivering.endRead lent delivering.unaborted delivering.uncanceled
        delivering.succeeded finished
      intro _
      exact exhausted_of_none (fun _ => context.handshakeProtocol.parse_nil)
        (fun _ => context.hubProtocol.parse_nil)
  | hub complete =>
      exact ⟨ordered, delivering.unaborted, delivering.uncanceled, delivering.succeeded,
        finished, fun stopped => absurd trivial stopped⟩
  | malformed incomplete parsed =>
      have halts : ∀ more,
          Exhausted context state.handshakeComplete (state.input.buffered ++ more) := by
        intro more
        rw [incomplete]
        exact FrameParser.halts_of_error _
          (context.handshakeProtocol.parse_error parsed more)
      exact delivering.malformed ordered ⟨position.reached, position.goesOn⟩ rfl rfl rfl rfl
        halts
  | unanswered incomplete parsed =>
      apply Delivering.endRead lent delivering.unaborted delivering.uncanceled
        delivering.succeeded finished
      intro _
      change Exhausted context state.handshakeComplete state.input.buffered
      rw [incomplete]
      exact FrameParser.halts_of_none _ parsed
  | skipped =>
      exact ⟨ordered, delivering.unaborted, delivering.uncanceled, delivering.succeeded,
        finished, fun stopped => absurd trivial stopped⟩
  | response =>
      exact ⟨ordered, delivering.unaborted, delivering.uncanceled, delivering.succeeded,
        finished, fun stopped => absurd trivial stopped⟩

theorem Delivering.parse {buffer : Bytes} {completed : Bool}
    (delivering : Delivering context state)
    (parsing : state.loop = .parsing buffer completed)
    (outcome : ParseOutcome context state buffer completed next) :
    Delivering context next := by
  have ordered := delivering.ordered.parse parsing outcome
  have complete : state.handshakeComplete = true := by
    have consistent := delivering.ordered.consistent
    rwa [parsing] at consistent
  have position : Position context state (buffer ++ state.input.buffered) := by
    have position := delivering.ordered.position (by rw [parsing]; trivial)
    rwa [parsing] at position
  have finished := delivering.completed
  rw [parsing] at finished
  cases outcome with
  | drained drained =>
      apply Delivering.endRead position delivering.unaborted delivering.uncanceled
        delivering.succeeded finished
      intro _
      rw [complete]
      exact FrameParser.halts_of_none _ drained
  | malformed parsed =>
      have halts : ∀ more, Exhausted context state.handshakeComplete
          (buffer ++ state.input.buffered ++ more) := by
        intro more
        rw [complete, List.append_assoc]
        exact FrameParser.halts_of_error _ (context.hubProtocol.parse_error parsed _)
      exact delivering.malformed ordered ⟨position.reached, position.goesOn⟩ rfl rfl rfl rfl
        halts
  | aborted aborted => exact absurd delivering.unaborted (by simp [aborted])
  | acquired =>
      exact ⟨ordered, delivering.unaborted, delivering.uncanceled, delivering.succeeded,
        finished, fun stopped => absurd trivial stopped⟩
  | queued =>
      exact ⟨ordered, delivering.unaborted, delivering.uncanceled, delivering.succeeded,
        finished, fun stopped => absurd trivial stopped⟩

theorem Delivering.succeeded_record (delivering : Delivering context state)
    (message : ConnectionDataMessage) :
    ∀ forward ∈ (state.record (.data message .success)).forwards, forward.2 = .success := by
  rw [forwards_record]
  intro forward member
  rcases List.mem_append.mp member with earlier | itself
  · exact delivering.succeeded forward earlier
  · rw [List.mem_singleton.mp itself]

theorem Delivering.release {buffer : Bytes} {completed fatal : Bool}
    (delivering : Delivering context state)
    (releasing : state.loop = .releasing buffer completed fatal)
    (ordered : Ordered context (state.releaseFrame buffer completed fatal))
    (released : state.pauseHandler.release ≠ none) :
    Delivering context (state.releaseFrame buffer completed fatal) := by
  have untouched : Untouched state (state.releaseFrame buffer completed fatal) :=
    untouched_releaseFrame
  have succeeded := delivering.succeeded
  rw [← untouched.forwards] at succeeded
  cases fatal with
  | true =>
      have loop : (state.releaseFrame buffer completed true).loop = .returned := by
        rw [releaseFrame_loop, if_pos (.inr rfl)]
      refine ⟨ordered, untouched.outgoingAborted.trans delivering.unaborted, ?_, succeeded,
        ?_, ?_⟩
      · rw [untouched.input]
        exact delivering.uncanceled
      · rw [loop]
        exact fun finished => nomatch finished
      · intro _
        apply untouched.settled
        apply delivering.settled
        rw [releasing]
        exact fun running => nomatch running
  | false =>
      have loop : (state.releaseFrame buffer completed false).loop =
          .parsing buffer completed := by
        rw [releaseFrame_loop, if_neg (by simpa using released)]
      apply delivering.continues ordered untouched.outgoingAborted untouched.input succeeded
      · rw [loop, releasing]
        exact id
      · rw [loop]
        trivial

theorem Delivering.timeout {buffer rest : Bytes} {kind : HubMessageKind} {completed : Bool}
    (delivering : Delivering context state)
    (waiting : state.loop = .waiting buffer rest kind completed)
    (unfinished : completed = false) :
    Delivering context
      ({ state with pauseHandler := state.pauseHandler.giveUp .outgoing }.endRead
        buffer completed true) := by
  have position := delivering.ordered.position (by rw [waiting]; trivial)
  rw [waiting] at position
  apply Delivering.endRead
  · exact ⟨position.reached, position.goesOn⟩
  · exact delivering.unaborted
  · exact delivering.uncanceled
  · exact delivering.succeeded
  · exact fun finished => absurd unfinished (by simp [finished])
  · exact fun finished => absurd unfinished (by simp [finished])

theorem Delivering.step {action : OutgoingAction} (delivering : Delivering context state)
    (condition : action.Succeeds ∧ Uninterrupted state action)
    (stepped : outgoingStep context state action = some next) : Delivering context next := by
  have ordered := delivering.ordered.step stepped
  obtain ⟨succeeds, uninterrupted⟩ := condition
  cases step_outcome stepped with
  | write unfinished => exact delivering.write unfinished ordered
  | complete => exact delivering.complete ordered
  | cancelPendingRead => exact succeeds.elim
  | cancelOutgoing => exact succeeds.elim
  | read loop readable outcome => exact delivering.read loop outcome
  | parse loop outcome => exact delivering.parse loop outcome
  | forwardHandshake loop =>
      cases succeeds
      apply delivering.continues ordered rfl rfl
      · exact delivering.succeeded_record _
      · rw [loop]
        exact id
      · trivial
  | forwardFrame loop =>
      cases succeeds
      apply delivering.continues ordered rfl rfl
      · exact delivering.succeeded_record _
      · rw [loop]
        exact id
      · rfl
  | release loop => exact delivering.release loop ordered uninterrupted
  | timeout loop =>
      apply delivering.timeout loop
      rw [Uninterrupted, loop] at uninterrupted
      exact uninterrupted
  | abortRead aborted => exact absurd delivering.unaborted (by simp [aborted])
  | abortWait aborted => exact absurd delivering.unaborted (by simp [aborted])
  | pause | resetPauseAcked | enterPause | checkAck | replyAck | resume | releasePause =>
      exact delivering.of_keeps (keeps_of_pause (by trivial) stepped)

theorem delivering_start : Delivering context {} where
  ordered := ordered_start
  unaborted := rfl
  uncanceled := rfl
  succeeded _ member := absurd member List.not_mem_nil
  completed finished := nomatch finished
  settled stopped := absurd trivial stopped

/-- When the loop returns, it has forwarded all messages of the application's
output. -/
theorem outgoing_completes {actions : List OutgoingAction}
    (succeeds : ∀ action ∈ actions, action.Succeeds)
    (uninterrupted : Along (outgoingStep context) Uninterrupted {} actions)
    (ran : run (outgoingStep context) {} actions = some state)
    (returned : state.loop = .returned) :
    state.messages = context.outputMessages (writtenBytes actions) ∧
      ∀ forward ∈ state.forwards, forward.2 = .success := by
  have along : Along (outgoingStep context) (fun _ action => action.Succeeds) {} actions :=
    along_of_forall succeeds _
  have delivering : Delivering context state :=
    run_along Delivering.step delivering_start (along.and uninterrupted) ran
  refine ⟨?_, delivering.succeeded⟩
  have stopped : ¬ state.loop.Running := by
    rw [returned]
    exact id
  have settled := delivering.settled stopped [] fun _ => rfl
  rw [output_of_run ran] at settled
  simpa using settled

/-- Every `Pause` is followed by a `Resume`. -/
def EventuallyResumed (actions : List OutgoingAction) : Prop :=
  ∀ after ∈ actions.tails, after.head? = some .pause → .resume ∈ after

instance (actions : List OutgoingAction) : Decidable (EventuallyResumed actions) :=
  inferInstanceAs (Decidable (∀ after ∈ actions.tails, _ → _))

def respondToHandshake : List OutgoingAction :=
  [.write handshakeResponse, .read, .forward .success, .parse]

def pauseAcknowledged : List OutgoingAction :=
  [.pause, .resetPauseAcked, .enterPause, .checkAck, .replyAck true]

/-- A wait times out, and then the application completes. -/
theorem outgoing_completes_timeout :
    ∃ state, run (outgoingStep pingContext) {}
        (respondToHandshake ++ pauseAcknowledged ++
          [OutgoingAction.write pingFrame, .read, .parse, .timeout, .complete, .resume,
            .releasePause, .read, .parse, .forward .success, .release, .parse]) = some state ∧
      state.messages = pingContext.outputMessages (handshakeResponse ++ pingFrame) := by
  have ran : run (outgoingStep pingContext) {}
      (respondToHandshake ++ pauseAcknowledged ++
        ([.write pingFrame, .read, .parse, .timeout, .complete, .resume, .releasePause,
          .read, .parse, .forward .success, .release, .parse] :
          List OutgoingAction)) =
      some
        { output := handshakeResponse ++ pingFrame
          input := { completed := true }
          handshakeComplete := true
          loop := .returned
          log := [forwardedHandshake, .paused, .pauseAck, .resuming, .resumed,
            forwardedPing .success] } := by decide
  exact ⟨_, ran, (outgoing_completes (by decide) (by decide) ran rfl).1⟩

/-- The application completes while the connection is paused, and the loop
reads the completion together with a frame: when its wait times out, it
returns without the frame. -/
theorem not_outgoing_completes_paused :
    ¬ ∀ actions state, (∀ action ∈ actions, action.Succeeds) → EventuallyResumed actions →
      run (outgoingStep pingContext) {} actions = some state → state.loop = .returned →
      state.messages = pingContext.outputMessages (writtenBytes actions) := by
  intro completes
  have ran : run (outgoingStep pingContext) {}
      (respondToHandshake ++ pauseAcknowledged ++
        ([.write pingFrame, .complete, .read, .parse, .timeout, .resume, .releasePause] :
          List OutgoingAction)) =
      some
        { output := handshakeResponse ++ pingFrame
          input := { completed := true }
          handshakeComplete := true
          loop := .returned
          log := [forwardedHandshake, .paused, .pauseAck, .resuming, .resumed] } := by decide
  have lost := completes _ _ (by decide) (by decide) ran rfl
  exact absurd lost (by decide)

/-! ## The loop waits for output -/

/-- A wait times out only while the connection is paused or newer output is
there, and no `Resume` takes effect while the loop waits for newer output with
a frame it has given up. -/
def Watches (state : OutgoingState) : OutgoingAction → Prop
  | .timeout => state.pauseHandler.paused = true ∨ state.input.Readable
  | .resume => state.loop = .reading true → state.input.Readable
  | _ => True

instance (state : OutgoingState) : DecidablePred (Watches state)
  | .timeout =>
      inferInstanceAs (Decidable (state.pauseHandler.paused = true ∨ state.input.Readable))
  | .resume => inferInstanceAs (Decidable (state.loop = .reading true → state.input.Readable))
  | .write _ | .complete | .cancelPendingRead | .cancelOutgoing | .read | .parse | .forward _
  | .release | .observeAbort | .pause | .resetPauseAcked | .enterPause | .checkAck
  | .replyAck _ | .releasePause => instDecidableTrue

/-- What the loop has examined holds no frame, unless it has given one up. -/
structure Watching (context : OutgoingContext) (state : OutgoingState) : Prop where
  within : ∀ abandoned, state.loop = .reading abandoned →
    state.input.examined ≤ state.input.buffered.length
  examined : state.loop = .reading false →
    Exhausted context state.handshakeComplete
      (state.input.buffered.take state.input.examined)
  abandoned : state.loop = .reading true → state.pauseHandler.paused = true ∨
    state.input.Readable

/-- The loop is not in `ReadAsync`. -/
theorem Watching.of_loop (elsewhere : ∀ abandoned, state.loop ≠ .reading abandoned) :
    Watching context state where
  within _ loop := absurd loop (elsewhere _)
  examined loop := absurd loop (elsewhere _)
  abandoned loop := absurd loop (elsewhere _)

theorem Watching.endRead {buffer : Bytes} {completed : Bool}
    (exhausted : Exhausted context state.handshakeComplete buffer) :
    Watching context (state.endRead buffer completed false) := by
  rw [OutgoingState.endRead]
  split_ifs
  · exact .of_loop fun _ loop => by cases loop
  · exact .of_loop fun _ loop => by cases loop
  · constructor
    · intro _ _
      simp [Pipe.giveBack]
    · intro _
      simpa [Pipe.giveBack] using exhausted
    · intro loop
      cases loop

theorem Watching.giveUp {buffer : Bytes} {completed : Bool}
    (watched : state.pauseHandler.paused = true ∨ state.input.Readable) :
    Watching context
      ({ state with pauseHandler := state.pauseHandler.giveUp .outgoing }.endRead
        buffer completed true) := by
  rw [OutgoingState.endRead]
  split_ifs
  · exact .of_loop fun _ loop => by cases loop
  · exact .of_loop fun _ loop => by cases loop
  · constructor
    · intro _ _
      simp [Pipe.giveBack]
    · intro loop
      cases loop
    · intro _
      rcases watched with paused | canceled | completed | newer
      · exact .inl paused
      · exact .inr (.inl canceled)
      · exact .inr (.inr (.inl completed))
      · refine .inr (.inr (.inr ?_))
        simp only [Pipe.giveBack, List.length_append]
        omega

theorem Watching.write {chunk : Bytes} (watching : Watching context state) :
    Watching context
      { state with
        output := state.output ++ chunk
        input := state.input.write chunk } where
  within abandoned loop := by
    have within := watching.within abandoned loop
    simp only [Pipe.write, List.length_append]
    omega
  examined loop := by
    have within := watching.within false loop
    simp only [Pipe.write]
    rw [List.take_append_of_le_length within]
    exact watching.examined loop
  abandoned loop := by
    rcases watching.abandoned loop with paused | canceled | completed | newer
    · exact .inl paused
    · exact .inr (.inl canceled)
    · exact .inr (.inr (.inl completed))
    · refine .inr (.inr (.inr ?_))
      simp only [Pipe.write, List.length_append]
      omega

theorem Watching.of_keeps (watching : Watching context state) (keeps : Keeps state next)
    (paused : state.loop = .reading true →
      state.pauseHandler.paused = true ∨ state.input.Readable →
      next.pauseHandler.paused = true ∨ state.input.Readable) :
    Watching context next := by
  have reading : ∀ abandoned, next.loop = .reading abandoned →
      state.loop = .reading abandoned := by
    intro abandoned loop
    rcases keeps.loop with same | granted
    · rwa [same] at loop
    · rw [granted] at loop
      cases before : state.loop with
      | reading =>
          rw [before] at loop
          exact loop
      | handshaking | parsing | waiting | forwarding | releasing | returned =>
          rw [before] at loop
          cases loop
  constructor
  · intro abandoned loop
    rw [keeps.input]
    exact watching.within abandoned (reading abandoned loop)
  · intro loop
    rw [keeps.input, keeps.handshakeComplete]
    exact watching.examined (reading false loop)
  · intro loop
    rw [keeps.input]
    exact paused (reading true loop) (watching.abandoned (reading true loop))

theorem paused_pause : state.pause.pauseHandler.paused = true := by
  rw [OutgoingState.pause]
  split_ifs with paused
  · exact paused
  · rfl

theorem replyAck_pauseHandler (written : Bool) :
    (state.replyAck written).pauseHandler = state.pauseHandler := by
  rw [OutgoingState.replyAck]
  split_ifs <;> rfl

theorem releasePause_paused :
    state.releasePause.pauseHandler.paused = state.pauseHandler.paused := by
  simp only [OutgoingState.releasePause]
  split
  · rfl
  next released =>
    obtain ⟨semaphore, -, rfl⟩ := PauseHandler.release_some released
    rw [OutgoingState.wake_pauseHandler]

theorem Watching.read (outcome : ReadOutcome context state next) :
    Watching context next := by
  cases outcome with
  | empty =>
      apply Watching.endRead
      exact exhausted_of_none (fun _ => context.handshakeProtocol.parse_nil)
        (fun _ => context.hubProtocol.parse_nil)
  | unanswered incomplete parsed =>
      apply Watching.endRead
      change Exhausted context state.handshakeComplete _
      rw [incomplete]
      exact FrameParser.halts_of_none _ parsed
  | canceled | hub | malformed | skipped | response =>
      exact .of_loop fun _ loop => by cases loop

theorem Watching.parse {buffer : Bytes} {completed : Bool}
    (complete : state.handshakeComplete = true)
    (outcome : ParseOutcome context state buffer completed next) :
    Watching context next := by
  cases outcome with
  | drained drained =>
      apply Watching.endRead
      rw [complete]
      exact FrameParser.halts_of_none _ drained
  | malformed | aborted | acquired | queued => exact .of_loop fun _ loop => by cases loop

theorem Watching.step {action : OutgoingAction}
    (both : Ordered context state ∧ Watching context state)
    (watches : Watches state action)
    (stepped : outgoingStep context state action = some next) :
    Ordered context next ∧ Watching context next := by
  obtain ⟨ordered, watching⟩ := both
  refine ⟨ordered.step stepped, ?_⟩
  cases step_outcome stepped with
  | write => exact watching.write
  | complete =>
      exact ⟨watching.within, watching.examined, fun _ => .inr (.inr (.inl rfl))⟩
  | cancelPendingRead =>
      exact ⟨watching.within, watching.examined, fun _ => .inr (.inl rfl)⟩
  | cancelOutgoing => exact ⟨watching.within, watching.examined, watching.abandoned⟩
  | read loop readable outcome => exact .read outcome
  | parse loop outcome =>
      apply Watching.parse _ outcome
      have consistent := ordered.consistent
      rwa [loop] at consistent
  | forwardHandshake =>
      apply Watching.of_loop
      simp only [OutgoingState.forwardHandshake]
      split_ifs <;> exact fun _ loop => by cases loop
  | @forwardFrame _ _ _ _ result loop =>
      apply Watching.of_loop
      simp only [OutgoingState.forwardFrame]
      split_ifs <;> exact fun _ loop => by cases loop
  | release =>
      apply Watching.of_loop
      rw [releaseFrame_loop]
      split_ifs <;> exact fun _ loop => by cases loop
  | timeout => exact .giveUp watches
  | abortRead | abortWait => exact .of_loop fun _ loop => by cases loop
  | pause => exact watching.of_keeps keeps_pause fun _ _ => .inl paused_pause
  | resume => exact watching.of_keeps keeps_resume fun loop _ => .inr (watches loop)
  | replyAck =>
      apply watching.of_keeps (keeps_replyAck _)
      rw [replyAck_pauseHandler]
      exact fun _ => id
  | releasePause =>
      apply watching.of_keeps keeps_releasePause
      rw [releasePause_paused]
      exact fun _ => id
  | resetPauseAcked | enterPause | checkAck =>
      exact watching.of_keeps (keeps_of_pause (by trivial) stepped) fun _ => id

theorem watching_start : Watching context {} := by
  constructor
  · intro _ _
    exact Nat.le_refl _
  · intro _
    exact exhausted_of_none (fun _ => context.handshakeProtocol.parse_nil)
      (fun _ => context.hubProtocol.parse_nil)
  · intro loop
    exact nomatch loop

/-- Whenever the connection is not paused and the loop waits for new output, it
has forwarded all messages of the output there is. -/
theorem outgoing_leaves_nothing_unsent {actions : List OutgoingAction} {abandoned : Bool}
    (watches : Along (outgoingStep context) Watches {} actions)
    (ran : run (outgoingStep context) {} actions = some state)
    (reading : state.loop = .reading abandoned) (suspended : ¬ state.input.Readable)
    (unpaused : state.pauseHandler.paused = false) :
    state.messages = context.outputMessages (writtenBytes actions) := by
  obtain ⟨ordered, watching⟩ :=
    run_along Watching.step ⟨ordered_start, watching_start⟩ watches ran
  have position := ordered.position (by rw [reading]; trivial)
  rw [reading] at position
  cases abandoned with
  | true =>
      rcases watching.abandoned reading with paused | readable
      · exact absurd paused (by simp [unpaused])
      · exact absurd readable suspended
  | false =>
      have everything : state.input.buffered.take state.input.examined =
          state.input.buffered := by
        apply List.take_of_length_le
        simp only [Pipe.Readable, not_or] at suspended
        omega
      have exhausted := watching.examined reading
      rw [everything] at exhausted
      have sent := position.reached.exhausted exhausted
      rw [output_of_run ran] at sent
      exact sent

/-- The application writes again before the `Resume`. -/
theorem outgoing_leaves_nothing_unsent_newer :
    ∃ state, run (outgoingStep pingContext) {}
        (respondToHandshake ++ pauseAcknowledged ++
          [OutgoingAction.write pingFrame, .read, .parse, .timeout, .write [0x7b], .resume,
            .releasePause, .read, .parse, .forward .success, .release, .parse]) = some state ∧
      state.messages =
        pingContext.outputMessages (handshakeResponse ++ pingFrame ++ [0x7b]) := by
  have ran : run (outgoingStep pingContext) {}
      (respondToHandshake ++ pauseAcknowledged ++
        ([.write pingFrame, .read, .parse, .timeout, .write [0x7b], .resume, .releasePause,
          .read, .parse, .forward .success, .release, .parse] :
          List OutgoingAction)) =
      some
        { output := handshakeResponse ++ pingFrame ++ [0x7b]
          input := { buffered := [0x7b], examined := 1 }
          handshakeComplete := true
          log := [forwardedHandshake, .paused, .pauseAck, .resuming, .resumed,
            forwardedPing .success] } := by decide
  exact ⟨_, ran, outgoing_leaves_nothing_unsent (by decide) ran rfl (by decide) rfl⟩

/-- The wait for the pause times out, and then the `Resume` comes: it does not
wake the loop, which has examined the frame. -/
theorem not_outgoing_leaves_nothing_unsent_resumed :
    ¬ ∀ actions state abandoned, run (outgoingStep pingContext) {} actions = some state →
      state.loop = .reading abandoned → ¬ state.input.Readable →
      state.pauseHandler.paused = false →
      state.messages = pingContext.outputMessages (writtenBytes actions) := by
  intro nothingUnsent
  have ran : run (outgoingStep pingContext) {}
      (respondToHandshake ++ pauseAcknowledged ++
        ([.write pingFrame, .read, .parse, .timeout, .resume, .releasePause] :
          List OutgoingAction)) =
      some
        { output := handshakeResponse ++ pingFrame
          input := { buffered := pingFrame, examined := 11 }
          handshakeComplete := true
          loop := .reading true
          log := [forwardedHandshake, .paused, .pauseAck, .resuming, .resumed] } := by decide
  have unsent := nothingUnsent _ _ _ ran rfl (by decide) rfl
  exact absurd unsent (by decide)

end AzureSignalR.ClientConnections
