import AzureSignalR.ClientConnections.Outgoing

/-!
Contract: the outgoing loop forwards the frames of the application's output in
order, each of them at most once and as a whole.

Owns: the position of the loop in the output, how each step moves it, and the
order of the forwarded messages over every run.

Does not own: that everything is forwarded in the end.
-/

set_option autoImplicit false

namespace AzureSignalR.ClientConnections

open Library Library.Machine Protocol

/-- The calls of `ForwardMessage`, with their results. -/
def Event.forward? : Event → Option (ConnectionDataMessage × ForwardMessageResult)
  | .data message result => some (message, result)
  | _ => none

namespace OutgoingState

def forwards (state : OutgoingState) : List (ConnectionDataMessage × ForwardMessageResult) :=
  state.log.filterMap Event.forward?

def messages (state : OutgoingState) : List ConnectionDataMessage :=
  state.forwards.map Prod.fst

end OutgoingState

/-- What the application writes with an action. -/
def OutgoingAction.chunk : OutgoingAction → Bytes
  | .write chunk => chunk
  | _ => []

def writtenBytes (actions : List OutgoingAction) : Bytes := actions.flatMap OutgoingAction.chunk

/-! ## Frames -/

section Frames

variable {context : OutgoingContext}

theorem frameOf_append {ν : Type} {parser : FrameParser UInt8 ν Exn}
    {buffer next : Bytes} {value : ν}
    (parsed : parser.parse buffer = .ok (some (value, next))) (more : Bytes) :
    OutgoingContext.frameOf (buffer ++ more) (next ++ more) =
      OutgoingContext.frameOf buffer next := by
  obtain ⟨frame, -, split, -⟩ := parser.parse_some parsed
  simp only [OutgoingContext.frameOf]
  rw [split]
  simp

/-- The messages `messages` have been forwarded, and `unsent` is what follows
them in the output. -/
inductive Reached (context : OutgoingContext) (output : Bytes) :
    (handshakeComplete : Bool) → (messages : List ConnectionDataMessage) →
    (unsent : Bytes) → Prop where
  | handshake : Reached context output false [] output
  | hub {hubOutput unsent : Bytes} {frames : List (HubMessageKind × Bytes)}
      (response : context.handshakeProtocol.parse output = .ok (some ((), hubOutput)))
      (taken : context.hubProtocol.withFrame.Takes hubOutput frames unsent) :
      Reached context output true
        (context.handshakeMessages output hubOutput ++ frames.map context.hubMessage) unsent

namespace Reached

variable {output unsent : Bytes} {handshakeComplete : Bool}
  {messages : List ConnectionDataMessage}

theorem append (reached : Reached context output handshakeComplete messages unsent)
    (more : Bytes) :
    Reached context (output ++ more) handshakeComplete messages (unsent ++ more) := by
  cases reached with
  | handshake => exact .handshake
  | @hub hubOutput unsent frames response taken =>
      have same : context.handshakeMessages output hubOutput =
          context.handshakeMessages (output ++ more) (hubOutput ++ more) := by
        simp only [OutgoingContext.handshakeMessages]
        rw [frameOf_append response more]
      rw [same]
      exact .hub (context.handshakeProtocol.parse_append response more) (taken.append more)

theorem isPrefix (reached : Reached context output handshakeComplete messages unsent) :
    messages <+: context.outputMessages output := by
  cases reached with
  | handshake => exact List.nil_prefix
  | hub response taken =>
      simp only [OutgoingContext.outputMessages, response]
      rw [List.prefix_append_right_inj]
      exact taken.isPrefix_frames.map _

/-- The next hub frame has been forwarded. -/
theorem forward {buffer next more : Bytes} {kind : HubMessageKind}
    (reached : Reached context output true messages (buffer ++ more))
    (parsed : context.hubProtocol.parse buffer = .ok (some (kind, next))) :
    Reached context output true
      (messages ++ [context.hubMessage (kind, OutgoingContext.frameOf buffer next)])
      (next ++ more) := by
  cases reached with
  | hub response taken =>
      have found := FrameParser.withFrame_some (context.hubProtocol.parse_append parsed more)
      have frame := frameOf_append parsed more
      rw [OutgoingContext.frameOf] at frame
      rw [frame] at found
      have longer := Reached.hub response (taken.snoc found)
      rwa [List.map_append, ← List.append_assoc] at longer

/-- The handshake response has been forwarded or skipped. -/
theorem respond {buffer next more : Bytes}
    (reached : Reached context output false messages (buffer ++ more))
    (parsed : context.handshakeProtocol.parse buffer = .ok (some ((), next))) :
    Reached context output true (messages ++ context.handshakeMessages buffer next)
      (next ++ more) := by
  generalize whole : buffer ++ more = unsent at reached
  cases reached with
  | handshake =>
      have response := context.handshakeProtocol.parse_append parsed more
      have same : context.handshakeMessages buffer next =
          context.handshakeMessages (buffer ++ more) (next ++ more) := by
        simp only [OutgoingContext.handshakeMessages]
        rw [frameOf_append parsed more]
      rw [same]
      rw [whole] at response ⊢
      have longer := Reached.hub response (.nil (next ++ more))
      rwa [List.map_nil, List.append_nil] at longer

end Reached

end Frames

/-! ## The position of the loop -/

namespace OutgoingLoop

/-- The unsent part of the buffer the loop holds. -/
def held : OutgoingLoop → Bytes
  | .reading _ => []
  | .handshaking buffer _ _ => buffer
  | .parsing buffer _ => buffer
  | .waiting buffer _ _ _ => buffer
  | .forwarding buffer _ _ _ => buffer
  | .releasing buffer _ _ => buffer
  | .returned => []

/-- The loop has not decided to return. -/
def Running : OutgoingLoop → Prop
  | .releasing _ _ fatal => fatal = false
  | .returned => False
  | _ => True

/-- What the loop knows about the buffer it holds. -/
def Consistent (context : OutgoingContext) (handshakeComplete : Bool) : OutgoingLoop → Prop
  | .reading _ => True
  | .handshaking buffer next _ =>
      handshakeComplete = false ∧ context.isMigrated = false ∧
        context.handshakeProtocol.parse buffer = .ok (some ((), next))
  | .parsing _ _ => handshakeComplete = true
  | .waiting buffer next kind _ =>
      handshakeComplete = true ∧ context.hubProtocol.parse buffer = .ok (some (kind, next))
  | .forwarding buffer next kind _ =>
      handshakeComplete = true ∧ context.hubProtocol.parse buffer = .ok (some (kind, next))
  | .releasing _ _ _ => handshakeComplete = true
  | .returned => True

@[simp] theorem held_granted (loop : OutgoingLoop) : loop.granted.held = loop.held := by
  cases loop <;> rfl

theorem running_granted (loop : OutgoingLoop) : loop.granted.Running ↔ loop.Running := by
  cases loop <;> rfl

theorem Consistent.granted {context : OutgoingContext} {handshakeComplete : Bool}
    {loop : OutgoingLoop} (consistent : loop.Consistent context handshakeComplete) :
    loop.granted.Consistent context handshakeComplete := by
  cases loop with
  | waiting buffer next kind completed => exact consistent
  | reading | handshaking | parsing | forwarding | releasing | returned => exact consistent

end OutgoingLoop

/-- A forward after which the loop goes on. -/
def GoesOn (forward : ConnectionDataMessage × ForwardMessageResult) : Prop :=
  forward.2 = .success ∨ (forward.2 = .error ∧ forward.1.type ≠ .handshake)

/-- The loop has forwarded everything before `unsent` and goes on. -/
structure Position (context : OutgoingContext) (state : OutgoingState) (unsent : Bytes) :
    Prop where
  reached : Reached context state.output state.handshakeComplete state.messages unsent
  goesOn : ∀ forward ∈ state.forwards, GoesOn forward

structure Ordered (context : OutgoingContext) (state : OutgoingState) : Prop where
  consistent : state.loop.Consistent context state.handshakeComplete
  position : state.loop.Running →
    Position context state (state.loop.held ++ state.input.buffered)
  isPrefix : state.messages <+: context.outputMessages state.output
  goesOn : ∀ forward ∈ state.forwards.dropLast, GoesOn forward

section Steps

variable {context : OutgoingContext} {state next : OutgoingState}

theorem Position.ordered
    (position : Position context state (state.loop.held ++ state.input.buffered))
    (consistent : state.loop.Consistent context state.handshakeComplete) :
    Ordered context state where
  consistent := consistent
  position _ := position
  isPrefix := position.reached.isPrefix
  goesOn forward member := position.goesOn forward (List.dropLast_sublist _ |>.subset member)

theorem Position.returned {unsent : Bytes} (position : Position context state unsent)
    (returned : state.loop = .returned) : Ordered context state where
  consistent := by
    rw [returned]
    trivial
  position running := by
    rw [returned] at running
    exact running.elim
  isPrefix := position.reached.isPrefix
  goesOn forward member := position.goesOn forward (List.dropLast_sublist _ |>.subset member)

theorem Position.endRead {buffer : Bytes} {completed abandoned : Bool}
    (position : Position context state (buffer ++ state.input.buffered)) :
    Ordered context (state.endRead buffer completed abandoned) := by
  rw [OutgoingState.endRead]
  split_ifs with isCompleted aborted
  · exact Position.returned ⟨position.reached, position.goesOn⟩ rfl
  · exact Position.returned ⟨position.reached, position.goesOn⟩ rfl
  · apply Position.ordered
    · exact ⟨position.reached, position.goesOn⟩
    · trivial

theorem forwards_record (event : Event) :
    (state.record event).forwards = state.forwards ++ event.forward?.toList := by
  simp only [OutgoingState.forwards, OutgoingState.record, List.filterMap_append]
  cases event <;> rfl

/-! ### Steps that do not move the loop -/

/-- The step leaves everything but the loop and the pause handler alone. -/
structure Untouched (state next : OutgoingState) : Prop where
  output : next.output = state.output
  input : next.input = state.input
  handshakeComplete : next.handshakeComplete = state.handshakeComplete
  outgoingAborted : next.outgoingAborted = state.outgoingAborted
  forwards : next.forwards = state.forwards

theorem Untouched.record {event : Event} (untouched : Untouched state next)
    (silent : event.forward? = none) : Untouched state (next.record event) where
  output := untouched.output
  input := untouched.input
  handshakeComplete := untouched.handshakeComplete
  outgoingAborted := untouched.outgoingAborted
  forwards := by
    rw [forwards_record, silent, untouched.forwards]
    exact List.append_nil _

theorem Untouched.wake (untouched : Untouched state next) (woken : Option Waiter) :
    Untouched state (next.wake woken) := by
  obtain ⟨output, input, handshakeComplete, outgoingAborted, forwards⟩ := untouched
  cases woken with
  | none => exact ⟨output, input, handshakeComplete, outgoingAborted, forwards⟩
  | some waiter =>
      cases waiter with
      | outgoing => exact ⟨output, input, handshakeComplete, outgoingAborted, forwards⟩
      | pause => exact ⟨output, input, handshakeComplete, outgoingAborted, forwards⟩

theorem Untouched.messages (untouched : Untouched state next) :
    next.messages = state.messages :=
  congrArg (List.map Prod.fst) untouched.forwards

theorem Untouched.position (untouched : Untouched state next) {unsent : Bytes}
    (position : Position context state unsent) : Position context next unsent where
  reached := by
    rw [untouched.output, untouched.handshakeComplete, untouched.messages]
    exact position.reached
  goesOn := by
    rw [untouched.forwards]
    exact position.goesOn

/-- The loop returns without another forward. -/
theorem Ordered.returns (ordered : Ordered context state) (untouched : Untouched state next)
    (returned : next.loop = .returned) : Ordered context next where
  consistent := by
    rw [returned]
    trivial
  position running := by
    rw [returned] at running
    exact running.elim
  isPrefix := by
    rw [untouched.messages, untouched.output]
    exact ordered.isPrefix
  goesOn := by
    rw [untouched.forwards]
    exact ordered.goesOn

/-- At most the loop is given the permit it waits for. -/
structure Keeps (state next : OutgoingState) : Prop extends Untouched state next where
  loop : next.loop = state.loop ∨ next.loop = state.loop.granted

theorem Keeps.wake (untouched : Untouched state next) (unmoved : next.loop = state.loop)
    (woken : Option Waiter) : Keeps state (next.wake woken) where
  toUntouched := untouched.wake woken
  loop := by
    rcases woken with _ | waiter
    · exact .inl unmoved
    · cases waiter with
      | outgoing => exact .inr (congrArg OutgoingLoop.granted unmoved)
      | pause => exact .inl unmoved

/-- The actions of `Pause` and `Resume` messages. -/
def OutgoingAction.OfPause : OutgoingAction → Prop
  | .pause | .resetPauseAcked | .enterPause | .checkAck | .replyAck _ | .resume
  | .releasePause => True
  | _ => False

theorem keeps_pause : Keeps state state.pause := by
  rw [OutgoingState.pause]
  split_ifs
  · exact ⟨⟨rfl, rfl, rfl, rfl, rfl⟩, .inl rfl⟩
  · exact ⟨Untouched.record ⟨rfl, rfl, rfl, rfl, rfl⟩ rfl, .inl rfl⟩

theorem keeps_replyAck (written : Bool) : Keeps state (state.replyAck written) := by
  rw [OutgoingState.replyAck]
  split_ifs
  · exact ⟨Untouched.record ⟨rfl, rfl, rfl, rfl, rfl⟩ rfl, .inl rfl⟩
  · exact ⟨⟨rfl, rfl, rfl, rfl, rfl⟩, .inl rfl⟩

theorem keeps_resume : Keeps state state.resume := by
  rw [OutgoingState.resume]
  split_ifs
  · exact ⟨Untouched.record ⟨rfl, rfl, rfl, rfl, rfl⟩ rfl, .inl rfl⟩
  · exact ⟨⟨rfl, rfl, rfl, rfl, rfl⟩, .inl rfl⟩

theorem keeps_releasePause : Keeps state state.releasePause := by
  have resumed : Untouched state
      ({ state with resuming := state.resuming - 1 }.record .resumed) :=
    Untouched.record ⟨rfl, rfl, rfl, rfl, rfl⟩ rfl
  simp only [OutgoingState.releasePause]
  split
  · exact ⟨resumed, .inl rfl⟩
  · apply Keeps.wake
    · exact ⟨rfl, rfl, rfl, rfl, resumed.forwards⟩
    · rfl

theorem keeps_of_pause {action : OutgoingAction} (ofPause : action.OfPause)
    (stepped : outgoingStep context state action = some next) : Keeps state next := by
  cases step_outcome stepped with
  | pause => exact keeps_pause
  | resetPauseAcked => exact ⟨⟨rfl, rfl, rfl, rfl, rfl⟩, .inl rfl⟩
  | enterPause => exact ⟨⟨rfl, rfl, rfl, rfl, rfl⟩, .inl rfl⟩
  | checkAck => exact ⟨⟨rfl, rfl, rfl, rfl, rfl⟩, .inl rfl⟩
  | replyAck => exact keeps_replyAck _
  | resume => exact keeps_resume
  | releasePause => exact keeps_releasePause
  | write | complete | cancelPendingRead | cancelOutgoing | read | parse
  | forwardHandshake | forwardFrame | release | timeout | abortRead | abortWait =>
      exact ofPause.elim

theorem Keeps.held (keeps : Keeps state next) : next.loop.held = state.loop.held := by
  rcases keeps.loop with same | granted
  · rw [same]
  · rw [granted, OutgoingLoop.held_granted]

theorem Keeps.running (keeps : Keeps state next) :
    next.loop.Running ↔ state.loop.Running := by
  rcases keeps.loop with same | granted
  · rw [same]
  · rw [granted, OutgoingLoop.running_granted]

theorem Keeps.consistent (keeps : Keeps state next)
    (consistent : state.loop.Consistent context state.handshakeComplete) :
    next.loop.Consistent context next.handshakeComplete := by
  rw [keeps.handshakeComplete]
  rcases keeps.loop with same | granted
  · rw [same]
    exact consistent
  · rw [granted]
    exact consistent.granted

theorem Ordered.of_keeps (ordered : Ordered context state) (keeps : Keeps state next) :
    Ordered context next where
  consistent := keeps.consistent ordered.consistent
  position running := by
    rw [keeps.held, keeps.input]
    exact keeps.position (ordered.position (keeps.running.mp running))
  isPrefix := by
    rw [keeps.messages, keeps.output]
    exact ordered.isPrefix
  goesOn := by
    rw [keeps.forwards]
    exact ordered.goesOn

/-! ### Steps of the application and of the loop -/

theorem outputMessages_isPrefix_append (output more : Bytes) :
    context.outputMessages output <+: context.outputMessages (output ++ more) := by
  cases parsed : context.handshakeProtocol.parse output with
  | error error =>
      simp only [OutgoingContext.outputMessages, parsed]
      exact List.nil_prefix
  | ok found =>
      cases found with
      | none =>
          simp only [OutgoingContext.outputMessages, parsed]
          exact List.nil_prefix
      | some found =>
          obtain ⟨⟨⟩, hubOutput⟩ := found
          obtain ⟨frames, rest, taken, halts⟩ :=
            context.hubProtocol.withFrame.exists_takes hubOutput
          have reached := Reached.hub parsed taken
          have whole : context.outputMessages output =
              context.handshakeMessages output hubOutput ++
                frames.map context.hubMessage := by
            simp only [OutgoingContext.outputMessages, parsed]
            rw [FrameParser.frames_eq taken halts]
          rw [whole]
          exact (reached.append more).isPrefix

theorem Ordered.write (ordered : Ordered context state) (chunk : Bytes) :
    Ordered context
      { state with
        output := state.output ++ chunk
        input := state.input.write chunk } where
  consistent := ordered.consistent
  position running := by
    have position := ordered.position running
    refine ⟨?_, position.goesOn⟩
    have longer := position.reached.append chunk
    rw [List.append_assoc] at longer
    exact longer
  isPrefix := ordered.isPrefix.trans (outputMessages_isPrefix_append _ _)
  goesOn := ordered.goesOn

theorem Ordered.read {abandoned : Bool} (ordered : Ordered context state)
    (reading : state.loop = .reading abandoned)
    (outcome : ReadOutcome context state next) : Ordered context next := by
  have position : Position context state state.input.buffered := by
    have position := ordered.position (by rw [reading]; trivial)
    rwa [reading] at position
  have lent : Position context { state with input := state.input.lend }
      (state.input.buffered ++ state.input.lend.buffered) := by
    refine ⟨?_, position.goesOn⟩
    rw [show state.input.lend.buffered = [] from rfl, List.append_nil]
    exact position.reached
  cases outcome with
  | canceled => exact Position.returned ⟨position.reached, position.goesOn⟩ rfl
  | empty empty =>
      rw [empty] at lent
      exact lent.endRead
  | hub complete => exact Position.ordered ⟨lent.reached, lent.goesOn⟩ complete
  | malformed => exact Position.returned ⟨lent.reached, lent.goesOn⟩ rfl
  | unanswered => exact lent.endRead
  | skipped incomplete migrated parsed =>
      have before := lent.reached
      simp only [incomplete] at before
      have after := before.respond parsed
      rw [OutgoingContext.handshakeMessages, if_pos migrated, List.append_nil] at after
      exact Position.ordered ⟨after, lent.goesOn⟩ rfl
  | response incomplete fresh parsed =>
      exact Position.ordered ⟨lent.reached, lent.goesOn⟩ ⟨incomplete, fresh, parsed⟩

theorem Ordered.parse {buffer : Bytes} {completed : Bool} (ordered : Ordered context state)
    (parsing : state.loop = .parsing buffer completed)
    (outcome : ParseOutcome context state buffer completed next) : Ordered context next := by
  have complete : state.handshakeComplete = true := by
    have consistent := ordered.consistent
    rwa [parsing] at consistent
  have position : Position context state (buffer ++ state.input.buffered) := by
    have position := ordered.position (by rw [parsing]; trivial)
    rwa [parsing] at position
  cases outcome with
  | drained => exact position.endRead
  | malformed => exact Position.returned ⟨position.reached, position.goesOn⟩ rfl
  | aborted => exact Position.returned ⟨position.reached, position.goesOn⟩ rfl
  | acquired parsed =>
      exact Position.ordered ⟨position.reached, position.goesOn⟩ ⟨complete, parsed⟩
  | queued parsed =>
      exact Position.ordered ⟨position.reached, position.goesOn⟩ ⟨complete, parsed⟩

/-- A forward that ends the loop. -/
theorem Position.stops {unsent rest : Bytes} {complete : Bool}
    {last : ConnectionDataMessage × ForwardMessageResult}
    (position : Position context state unsent) (output : next.output = state.output)
    (forwards : next.forwards = state.forwards ++ [last])
    (after : Reached context state.output complete (state.messages ++ [last.1]) rest)
    (consistent : next.loop.Consistent context next.handshakeComplete)
    (stopped : ¬ next.loop.Running) : Ordered context next where
  consistent := consistent
  position running := absurd running stopped
  isPrefix := by
    have messages : next.messages = state.messages ++ [last.1] := by
      rw [OutgoingState.messages, forwards, List.map_append]
      rfl
    rw [messages, output]
    exact after.isPrefix
  goesOn := by
    rw [forwards, List.dropLast_concat]
    exact position.goesOn

/-- A forward after which the loop goes on. -/
theorem Position.continues {unsent : Bytes}
    {last : ConnectionDataMessage × ForwardMessageResult}
    (position : Position context state unsent) (output : next.output = state.output)
    (forwards : next.forwards = state.forwards ++ [last]) (goesOn : GoesOn last)
    (after : Reached context state.output next.handshakeComplete
      (state.messages ++ [last.1]) (next.loop.held ++ next.input.buffered))
    (consistent : next.loop.Consistent context next.handshakeComplete) :
    Ordered context next := by
  apply Position.ordered _ consistent
  constructor
  · have messages : next.messages = state.messages ++ [last.1] := by
      rw [OutgoingState.messages, forwards, List.map_append]
      rfl
    rw [messages, output]
    exact after
  · rw [forwards]
    intro forward member
    rcases List.mem_append.mp member with earlier | itself
    · exact position.goesOn forward earlier
    · rw [List.mem_singleton.mp itself]
      exact goesOn

theorem Ordered.forwardHandshake {buffer rest : Bytes} {completed : Bool}
    (ordered : Ordered context state)
    (handshaking : state.loop = .handshaking buffer rest completed)
    (result : ForwardMessageResult) :
    Ordered context (state.forwardHandshake context buffer rest completed result) := by
  have consistent := ordered.consistent
  rw [handshaking] at consistent
  obtain ⟨incomplete, fresh, parsed⟩ := consistent
  have position : Position context state (buffer ++ state.input.buffered) := by
    have position := ordered.position (by rw [handshaking]; trivial)
    rwa [handshaking] at position
  have before := position.reached
  rw [incomplete] at before
  have after := before.respond parsed
  rw [OutgoingContext.handshakeMessages, if_neg (by simp [fresh])] at after
  simp only [OutgoingState.forwardHandshake]
  split_ifs with success
  · exact position.continues rfl (forwards_record _) (.inl success) after rfl
  · exact position.stops rfl (forwards_record _) after trivial id

theorem dataMessageType_ne_handshake (kind : HubMessageKind) :
    kind.dataMessageType ≠ .handshake := by
  cases kind <;> decide

theorem Ordered.forwardFrame {buffer rest : Bytes} {kind : HubMessageKind}
    {completed : Bool} (ordered : Ordered context state)
    (forwarding : state.loop = .forwarding buffer rest kind completed)
    (result : ForwardMessageResult) :
    Ordered context (state.forwardFrame context buffer rest kind completed result) := by
  have consistent := ordered.consistent
  rw [forwarding] at consistent
  obtain ⟨complete, parsed⟩ := consistent
  have position : Position context state (buffer ++ state.input.buffered) := by
    have position := ordered.position (by rw [forwarding]; trivial)
    rwa [forwarding] at position
  have before := position.reached
  rw [complete] at before
  have after := before.forward parsed
  simp only [OutgoingState.forwardFrame]
  cases result with
  | success =>
      exact position.continues rfl (forwards_record _) (.inl rfl) (complete ▸ after) complete
  | error =>
      have goesOn : GoesOn (context.hubMessage
          (kind, OutgoingContext.frameOf buffer rest), .error) :=
        .inr ⟨rfl, dataMessageType_ne_handshake kind⟩
      exact position.continues rfl (forwards_record _) goesOn (complete ▸ after) complete
  | fatal =>
      exact position.stops rfl (forwards_record _) after complete (by simp [OutgoingLoop.Running])

theorem untouched_releaseFrame {buffer : Bytes} {completed fatal : Bool} :
    Untouched state (state.releaseFrame buffer completed fatal) := by
  rw [OutgoingState.releaseFrame]
  split
  · exact ⟨rfl, rfl, rfl, rfl, rfl⟩
  next woken handler released =>
    have taken : Untouched state { state with pauseHandler := handler } :=
      ⟨rfl, rfl, rfl, rfl, rfl⟩
    have woken := taken.wake woken
    exact ⟨woken.output, woken.input, woken.handshakeComplete, woken.outgoingAborted,
      woken.forwards⟩

theorem releaseFrame_loop {buffer : Bytes} {completed fatal : Bool} :
    (state.releaseFrame buffer completed fatal).loop =
      if state.pauseHandler.release = none ∨ fatal = true then .returned
      else .parsing buffer completed := by
  rw [OutgoingState.releaseFrame]
  cases released : state.pauseHandler.release with
  | none => simp
  | some outcome => cases fatal <;> simp

theorem Ordered.releaseFrame {buffer : Bytes} {completed fatal : Bool}
    (ordered : Ordered context state)
    (releasing : state.loop = .releasing buffer completed fatal) :
    Ordered context (state.releaseFrame buffer completed fatal) := by
  have untouched : Untouched state (state.releaseFrame buffer completed fatal) :=
    untouched_releaseFrame
  by_cases stops : state.pauseHandler.release = none ∨ fatal = true
  · apply ordered.returns untouched
    rw [releaseFrame_loop, if_pos stops]
  · have running : state.loop.Running := by
      rw [releasing]
      simp only [not_or, Bool.not_eq_true] at stops
      exact stops.2
    have loop : (state.releaseFrame buffer completed fatal).loop = .parsing buffer completed := by
      rw [releaseFrame_loop, if_neg stops]
    have complete := ordered.consistent
    have position := ordered.position running
    rw [releasing] at complete position
    apply Position.ordered
    · rw [loop, untouched.input]
      exact untouched.position position
    · rw [loop, untouched.handshakeComplete]
      exact complete

theorem Ordered.timeout {buffer rest : Bytes} {kind : HubMessageKind} {completed : Bool}
    (ordered : Ordered context state)
    (waiting : state.loop = .waiting buffer rest kind completed) :
    Ordered context
      ({ state with pauseHandler := state.pauseHandler.giveUp .outgoing }.endRead
        buffer completed true) := by
  have position := ordered.position (by rw [waiting]; trivial)
  rw [waiting] at position
  exact Position.endRead ⟨position.reached, position.goesOn⟩

theorem Ordered.step {action : OutgoingAction} (ordered : Ordered context state)
    (stepped : outgoingStep context state action = some next) : Ordered context next := by
  cases step_outcome stepped with
  | write => exact ordered.write _
  | complete | cancelPendingRead | cancelOutgoing =>
      refine ⟨ordered.consistent, fun running => ?_, ordered.isPrefix, ordered.goesOn⟩
      have position := ordered.position running
      exact ⟨position.reached, position.goesOn⟩
  | read loop readable outcome => exact ordered.read loop outcome
  | parse loop outcome => exact ordered.parse loop outcome
  | forwardHandshake loop => exact ordered.forwardHandshake loop _
  | forwardFrame loop => exact ordered.forwardFrame loop _
  | release loop => exact ordered.releaseFrame loop
  | timeout loop => exact ordered.timeout loop
  | abortRead => exact ordered.returns ⟨rfl, rfl, rfl, rfl, rfl⟩ rfl
  | abortWait => exact ordered.returns ⟨rfl, rfl, rfl, rfl, rfl⟩ rfl
  | pause | resetPauseAcked | enterPause | checkAck | replyAck | resume | releasePause =>
      exact ordered.of_keeps (keeps_of_pause (by trivial) stepped)

theorem endRead_output (buffer : Bytes) (completed abandoned : Bool) :
    (state.endRead buffer completed abandoned).output = state.output := by
  rw [OutgoingState.endRead]
  split_ifs <;> rfl

theorem forwardHandshake_output (buffer rest : Bytes) (completed : Bool)
    (result : ForwardMessageResult) :
    (state.forwardHandshake context buffer rest completed result).output =
      state.output := by
  simp only [OutgoingState.forwardHandshake]
  split_ifs <;> rfl

theorem output_of_step {action : OutgoingAction}
    (stepped : outgoingStep context state action = some next) :
    next.output = state.output ++ action.chunk := by
  cases step_outcome stepped with
  | write => rfl
  | read loop readable outcome =>
      simp only [OutgoingAction.chunk, List.append_nil]
      cases outcome with
      | empty | unanswered => exact endRead_output _ _ _
      | canceled | hub | malformed | skipped | response => rfl
  | parse loop outcome =>
      simp only [OutgoingAction.chunk, List.append_nil]
      cases outcome with
      | drained => exact endRead_output _ _ _
      | malformed | aborted | acquired | queued => rfl
  | forwardHandshake loop =>
      simp only [OutgoingAction.chunk, List.append_nil]
      exact forwardHandshake_output _ _ _ _
  | release loop =>
      simp only [OutgoingAction.chunk, List.append_nil]
      exact untouched_releaseFrame.output
  | timeout loop =>
      simp only [OutgoingAction.chunk, List.append_nil]
      exact endRead_output _ _ _
  | complete | cancelPendingRead | cancelOutgoing | forwardFrame | abortRead | abortWait =>
      exact (List.append_nil _).symm
  | pause | resetPauseAcked | enterPause | checkAck | replyAck | resume | releasePause =>
      rw [(keeps_of_pause (by trivial) stepped).output]
      exact (List.append_nil _).symm

theorem output_of_run {actions : List OutgoingAction}
    (ran : run (outgoingStep context) state actions = some next) :
    next.output = state.output ++ writtenBytes actions := by
  induction actions generalizing state with
  | nil =>
      cases ran
      exact (List.append_nil _).symm
  | cons action actions inductionHypothesis =>
      obtain ⟨middle, stepped, rest⟩ := run_cons.1 ran
      rw [inductionHypothesis rest, output_of_step stepped, List.append_assoc]
      rfl

end Steps

section Runs

variable {context : OutgoingContext} {actions : List OutgoingAction} {state : OutgoingState}

theorem ordered_start : Ordered context {} := by
  apply Position.ordered
  · exact ⟨.handshake, fun forward member => absurd member List.not_mem_nil⟩
  · trivial

theorem ordered_of_run (ran : run (outgoingStep context) {} actions = some state) :
    Ordered context state :=
  run_invariant Ordered.step ordered_start ran

theorem hubMessage_type_ne_handshake {messages : List (HubMessageKind × Bytes)}
    {message : ConnectionDataMessage} (member : message ∈ messages.map context.hubMessage) :
    message.type ≠ .handshake := by
  obtain ⟨frame, -, rfl⟩ := List.mem_map.mp member
  exact dataMessageType_ne_handshake frame.1

/-- Only the first message is a handshake response, and none is for a migrated
connection. -/
theorem outputMessages_type_ne_handshake {output : Bytes} {message : ConnectionDataMessage}
    (member : message ∈ context.outputMessages output)
    (place : message ∈ (context.outputMessages output).tail ∨ context.isMigrated = true) :
    message.type ≠ .handshake := by
  simp only [OutgoingContext.outputMessages] at member place
  split at member
  next hubOutput parsed =>
    simp only [parsed, OutgoingContext.handshakeMessages] at member place
    cases migrated : context.isMigrated with
    | true =>
        rw [if_pos migrated, List.nil_append] at member
        exact hubMessage_type_ne_handshake member
    | false =>
        rcases place with inTail | isMigrated
        · rw [if_neg (by simp [migrated])] at inTail
          exact hubMessage_type_ne_handshake inTail
        · exact absurd isMigrated (by simp [migrated])
  next => exact absurd member List.not_mem_nil

theorem tail_subset_of_isPrefix {ν : Type} {first second : List ν}
    (isPrefix : first <+: second) : first.tail ⊆ second.tail := by
  obtain ⟨rest, rfl⟩ := isPrefix
  cases first with
  | nil => exact List.nil_subset _
  | cons head tail => exact List.subset_append_left tail rest

/-- The messages passed to the service connection are the first messages of the
application's output, each once and as a whole frame; one that is not the last
of them was accepted, or its own forward returned `Error`. -/
theorem outgoing_forwards_in_order
    (ran : run (outgoingStep context) {} actions = some state) :
    state.messages <+: context.outputMessages (writtenBytes actions) ∧
      ((state.forwards.filter fun forward => forward.2 = .success).map Prod.fst).Sublist
        (context.outputMessages (writtenBytes actions)) ∧
      (∀ forward ∈ state.forwards.dropLast, forward.2 = .success ∨
        (forward.2 = .error ∧ forward.1.type ≠ .handshake)) ∧
      (∀ message ∈ state.messages.tail, message.type ≠ .handshake) ∧
      (context.isMigrated = true →
        ∀ message ∈ state.messages, message.type ≠ .handshake) := by
  have ordered := ordered_of_run ran
  have isPrefix := ordered.isPrefix
  rw [output_of_run ran] at isPrefix
  change state.messages <+: context.outputMessages (writtenBytes actions) at isPrefix
  refine ⟨isPrefix, ?_, ordered.goesOn, ?_, ?_⟩
  · have delivered : (state.forwards.filter fun forward => forward.2 = .success).Sublist
        state.forwards := List.filter_sublist
    exact (delivered.map Prod.fst).trans isPrefix.sublist
  · intro message member
    apply outputMessages_type_ne_handshake (isPrefix.subset (List.mem_of_mem_tail member))
    left
    exact tail_subset_of_isPrefix isPrefix member
  · intro migrated message member
    exact outputMessages_type_ne_handshake (isPrefix.subset member) (.inr migrated)

end Runs

/-- A connection whose messages are pings of the JSON protocol. -/
def pingContext : OutgoingContext where
  connectionId := "c"
  isMigrated := false
  handshakeProtocol := .separated 0x1e fun _ => ()
  hubProtocol := .separated 0x1e fun _ => .other

def handshakeResponse : Bytes := [0x7b, 0x7d, 0x1e]

def pingFrame : Bytes :=
  [0x7b, 0x22, 0x74, 0x79, 0x70, 0x65, 0x22, 0x3a, 0x36, 0x7d, 0x1e]

def forwardedHandshake : Event :=
  .data { connectionId := "c", payload := handshakeResponse, type := .handshake } .success

def forwardedPing (result : ForwardMessageResult) : Event :=
  .data { connectionId := "c", payload := pingFrame, type := .other } result

/-- The response is forwarded, a ping is lost to an error, and the connection
fails at the next one. -/
theorem outgoing_forwards_in_order_failing :
    ∃ state, run (outgoingStep pingContext) {}
        [.write (handshakeResponse ++ pingFrame), .write (pingFrame ++ pingFrame), .read,
          .forward .success, .parse, .forward .error, .release, .parse, .forward .fatal,
          .release] = some state ∧
      state.messages <+: pingContext.outputMessages
        (handshakeResponse ++ pingFrame ++ pingFrame ++ pingFrame) := by
  have ran : run (outgoingStep pingContext) {}
      [.write (handshakeResponse ++ pingFrame), .write (pingFrame ++ pingFrame), .read,
        .forward .success, .parse, .forward .error, .release, .parse, .forward .fatal,
        .release] =
      some
        { output := handshakeResponse ++ pingFrame ++ pingFrame ++ pingFrame
          input := {}
          handshakeComplete := true
          loop := .returned
          log := [forwardedHandshake, forwardedPing .error, forwardedPing .fatal] } := by decide
  exact ⟨_, ran, (outgoing_forwards_in_order ran).1⟩

end AzureSignalR.ClientConnections
