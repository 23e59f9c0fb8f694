import AzureSignalR.Library.Framing
import AzureSignalR.Library.Machine
import AzureSignalR.Library.Pipe
import AzureSignalR.Library.Semaphore
import AzureSignalR.Protocol.ServiceMessage

/-!
Contract: how a client connection forwards the output of its application to
the service, as `ClientConnectionContext` does, and how `PauseHandler` lets the
service pause it.

Owns: `ProcessOutgoingMessagesAsync`, `PauseAsync`, `PauseAckAsync`,
`ResumeAsync` and `PauseHandler` as tasks that interleave at every `await` and
at every interlocked operation, and the messages the application's output
consists of.

Does not own: which service connection serves the client at the moment, the
handshake and hub protocols, which are parameters, and the length of the
random wait: a wait that was not served may time out at any time.
-/

set_option autoImplicit false

namespace AzureSignalR.ClientConnections

open Library Library.Machine Protocol

/-! ## `PauseHandler` -/

/-- Who waits for `_pauseSemaphore`. -/
inductive Waiter where
  | outgoing
  | pause
deriving DecidableEq, Repr

structure PauseHandler where
  pauseSemaphore : Semaphore Waiter := { count := 1 }
  paused : Bool := false
  pauseAcked : Bool := true
deriving DecidableEq, Repr

namespace PauseHandler

variable (handler : PauseHandler)

/-- `Interlocked.CompareExchange(ref _pauseAcked, 1, 0) == 0`. -/
def shouldReplyAck : Bool × PauseHandler :=
  (!handler.pauseAcked, { handler with pauseAcked := true })

/-- `_pauseSemaphore.WaitAsync()`, and `Wait(0)` before a timed `WaitAsync`:
whether the permit is taken at once. -/
def wait (waiter : Waiter) : Bool × PauseHandler :=
  match handler.pauseSemaphore.wait waiter with
  | (acquired, semaphore) => (acquired, { handler with pauseSemaphore := semaphore })

/-- `none` is a `SemaphoreFullException`. -/
def release : Option (Option Waiter × PauseHandler) :=
  match handler.pauseSemaphore.release 1 with
  | none => none
  | some (woken, semaphore) => some (woken, { handler with pauseSemaphore := semaphore })

/-- A wait that times out or is cancelled. -/
def giveUp (waiter : Waiter) : PauseHandler :=
  { handler with pauseSemaphore := handler.pauseSemaphore.giveUp waiter }

variable {handler}

/-- The semaphore is all that a wait changes. -/
theorem wait_eq {waiter : Waiter} {acquired : Bool} {after : PauseHandler}
    (waited : handler.wait waiter = (acquired, after)) :
    ∃ semaphore, handler.pauseSemaphore.wait waiter = (acquired, semaphore) ∧
      after = { handler with pauseSemaphore := semaphore } := by
  simp only [wait, Prod.mk.injEq] at waited
  obtain ⟨rfl, rfl⟩ := waited
  exact ⟨_, rfl, rfl⟩

/-- The semaphore is all that a release changes. -/
theorem release_some {woken : Option Waiter} {after : PauseHandler}
    (released : handler.release = some (woken, after)) :
    ∃ semaphore, handler.pauseSemaphore.release 1 = some (woken, semaphore) ∧
      after = { handler with pauseSemaphore := semaphore } := by
  rw [release] at released
  split at released
  next => exact nomatch released
  next waiter semaphore outcome =>
    simp only [Option.some.injEq, Prod.mk.injEq] at released
    obtain ⟨rfl, rfl⟩ := released
    exact ⟨semaphore, outcome, rfl⟩

theorem release_none (full : handler.release = none) :
    handler.pauseSemaphore.release 1 = none := by
  rw [release] at full
  split at full
  next outcome => exact outcome
  next => exact nomatch full

end PauseHandler

/-! ## Messages -/

inductive ForwardMessageResult where
  | success
  | error
  | fatal
deriving DecidableEq, Repr

/-- The cases of `message switch`. -/
inductive HubMessageKind where
  | invocation
  | close
  | other
deriving DecidableEq, Repr

def HubMessageKind.dataMessageType : HubMessageKind → DataMessageType
  | .invocation => .invocation
  | .close => .close
  | .other => .other

/-- What `ProcessOutgoingMessagesAsync` is given. -/
structure OutgoingContext where
  connectionId : String
  isMigrated : Bool
  handshakeProtocol : FrameParser UInt8 Unit Exn
  hubProtocol : FrameParser UInt8 HubMessageKind Exn

namespace OutgoingContext

variable (context : OutgoingContext)

def dataMessage (type : DataMessageType) (payload : Bytes) : ConnectionDataMessage :=
  { connectionId := context.connectionId
    payload := payload
    type := type }

/-- `buffer.Slice(0, next.Start)`. -/
def frameOf (buffer next : Bytes) : Bytes := buffer.take (buffer.length - next.length)

def handshakeMessages (buffer next : Bytes) : List ConnectionDataMessage :=
  if context.isMigrated then []
  else [context.dataMessage .handshake (frameOf buffer next)]

def hubMessage (frame : HubMessageKind × Bytes) : ConnectionDataMessage :=
  context.dataMessage frame.1.dataMessageType frame.2

/-- The messages that the output of the application stands for: one for the
handshake response, unless the connection is migrated, and one for every hub
frame behind it. -/
def outputMessages (output : Bytes) : List ConnectionDataMessage :=
  match context.handshakeProtocol.parse output with
  | .ok (some (_, hubOutput)) =>
      context.handshakeMessages output hubOutput ++
        (context.hubProtocol.withFrame.frames hubOutput).map context.hubMessage
  | _ => []

end OutgoingContext

/-- What is written to the service connection, and when pauses and resumes take
effect. -/
inductive Event where
  | data (message : ConnectionDataMessage) (result : ForwardMessageResult)
  | pauseAck
  /-- A `Pause` has set `_paused`. -/
  | paused
  /-- A `Resume` has reset `_paused`. -/
  | resuming
  /-- That `Resume` has released the semaphore. -/
  | resumed
deriving DecidableEq, Repr

/-! ## The outgoing loop -/

/-- Where `ProcessOutgoingMessagesAsync` is. `buffer` is the unsent part of the
buffer that was read, `next` what follows its first frame, and `completed` the
`IsCompleted` of that read. -/
inductive OutgoingLoop where
  /-- In `ReadAsync`. `abandoned` says that the last read ended with a pause. -/
  | reading (abandoned : Bool)
  /-- Forwarding the handshake response. -/
  | handshaking (buffer next : Bytes) (completed : Bool)
  /-- At the condition of the inner loop. -/
  | parsing (buffer : Bytes) (completed : Bool)
  /-- Waiting for the semaphore. -/
  | waiting (buffer next : Bytes) (kind : HubMessageKind) (completed : Bool)
  /-- Forwarding a hub frame; the semaphore is taken. -/
  | forwarding (buffer next : Bytes) (kind : HubMessageKind) (completed : Bool)
  /-- In the `finally` block behind it. -/
  | releasing (buffer : Bytes) (completed fatal : Bool)
  | returned
deriving DecidableEq, Repr

namespace OutgoingLoop

/-- The permit is given to the waiting loop. -/
def granted : OutgoingLoop → OutgoingLoop
  | .waiting buffer next kind completed => .forwarding buffer next kind completed
  | loop => loop

end OutgoingLoop

structure OutgoingState where
  /-- Everything the application has written. -/
  output : Bytes := []
  /-- `Application.Input`; the buffer of the current read is taken out of it. -/
  input : Pipe UInt8 := {}
  /-- `HandshakeResponseTask.IsCompleted`. -/
  handshakeComplete : Bool := false
  outgoingAborted : Bool := false
  loop : OutgoingLoop := .reading false
  pauseHandler : PauseHandler := {}
  /-- Tasks of `Pause` that have set `_paused`. -/
  resetting : Nat := 0
  /-- Tasks of `Pause` that have reset `_pauseAcked`. -/
  entering : Nat := 0
  /-- Tasks of `Pause` behind `PauseAsync`. -/
  checking : Nat := 0
  /-- Tasks of `Pause` about to write the ack. -/
  replying : Nat := 0
  /-- Calls of `ResumeAsync` that have reset `_paused`. -/
  resuming : Nat := 0
  log : List Event := []
deriving DecidableEq, Repr

namespace OutgoingState

variable (context : OutgoingContext) (state : OutgoingState)

def record (event : Event) : OutgoingState := { state with log := state.log ++ [event] }

/-- The waiter that was given the permit goes on. -/
def wake : Option Waiter → OutgoingState
  | none => state
  | some .outgoing => { state with loop := state.loop.granted }
  | some .pause => { state with checking := state.checking + 1 }

@[simp] theorem wake_pauseHandler (woken : Option Waiter) :
    (state.wake woken).pauseHandler = state.pauseHandler := by
  rcases woken with _ | _ | _ <;> rfl

/-- The code behind the inner loop, up to the next `ReadAsync`, which throws
once the outgoing task is aborted. -/
def endRead (buffer : Bytes) (completed abandoned : Bool) : OutgoingState :=
  if completed then { state with loop := .returned }
  else
    { state with
      input := state.input.giveBack buffer
      loop := if state.outgoingAborted then .returned else .reading abandoned }

/-- From the result of `ReadAsync` to the first `await` or to the inner loop. -/
def read : OutgoingState :=
  let result := state.input.readResult
  let reader := { state with input := state.input.lend }
  if result.isCanceled then { state with loop := .returned }
  else if result.buffer = [] then reader.endRead [] result.isCompleted false
  else if state.handshakeComplete then
    { reader with loop := .parsing result.buffer result.isCompleted }
  else
    match context.handshakeProtocol.parse result.buffer with
    | .error _ => { reader with loop := .returned }
    | .ok none => reader.endRead result.buffer result.isCompleted false
    | .ok (some (_, next)) =>
        if context.isMigrated then
          { reader with
            handshakeComplete := true
            loop := .parsing next result.isCompleted }
        else { reader with loop := .handshaking result.buffer next result.isCompleted }

/-- The condition of the inner loop and `_pauseHandler.WaitAsync`. -/
def parse (buffer : Bytes) (completed : Bool) : OutgoingState :=
  if buffer = [] then state.endRead buffer completed false
  else
    match context.hubProtocol.parse buffer with
    | .error _ => { state with loop := .returned }
    | .ok none => state.endRead buffer completed false
    | .ok (some (kind, next)) =>
        if state.outgoingAborted then { state with loop := .returned }
        else
          match state.pauseHandler.wait .outgoing with
          | (acquired, handler) =>
              { state with
                pauseHandler := handler
                loop :=
                  if acquired then .forwarding buffer next kind completed
                  else .waiting buffer next kind completed }

/-- `ForwardMessage` has returned. -/
def forwardHandshake (buffer next : Bytes) (completed : Bool)
    (result : ForwardMessageResult) : OutgoingState :=
  let forwarded := state.record
    (.data (context.dataMessage .handshake (OutgoingContext.frameOf buffer next)) result)
  if result = .success then
    { forwarded with
      handshakeComplete := true
      loop := .parsing next completed }
  else { forwarded with loop := .returned }

def forwardFrame (buffer next : Bytes) (kind : HubMessageKind) (completed : Bool)
    (result : ForwardMessageResult) : OutgoingState :=
  let forwarded := state.record
    (.data (context.hubMessage (kind, OutgoingContext.frameOf buffer next)) result)
  { forwarded with
    loop :=
      if result = .fatal then .releasing buffer completed true
      else .releasing next completed false }

/-- The `finally` block; a `SemaphoreFullException` ends the loop. -/
def releaseFrame (buffer : Bytes) (completed fatal : Bool) : OutgoingState :=
  match state.pauseHandler.release with
  | none => { state with loop := .returned }
  | some (woken, handler) =>
      let released := { state with pauseHandler := handler }.wake woken
      { released with loop := if fatal then .returned else .parsing buffer completed }

/-! ## Pause and resume -/

/-- `PauseAsync` up to its first interlocked operation; without effect while
paused, it goes on to `PauseAckAsync`. -/
def pause : OutgoingState :=
  if state.pauseHandler.paused then { state with checking := state.checking + 1 }
  else
    { state with
      pauseHandler := { state.pauseHandler with paused := true }
      resetting := state.resetting + 1 }.record .paused

/-- `Interlocked.Exchange(ref _pauseAcked, 0)`. -/
def resetPauseAcked : OutgoingState :=
  { state with
    pauseHandler := { state.pauseHandler with pauseAcked := false }
    resetting := state.resetting - 1
    entering := state.entering + 1 }

/-- `return _pauseSemaphore.WaitAsync()`. -/
def enterPause : OutgoingState :=
  match state.pauseHandler.wait .pause with
  | (acquired, handler) =>
      { state with
        pauseHandler := handler
        entering := state.entering - 1
        checking := if acquired then state.checking + 1 else state.checking }

/-- `PauseAckAsync` up to its write. -/
def checkAck : OutgoingState :=
  match state.pauseHandler.shouldReplyAck with
  | (reply, handler) =>
      { state with
        pauseHandler := handler
        checking := state.checking - 1
        replying := if reply then state.replying + 1 else state.replying }

/-- The write of the ack, which may fail. -/
def replyAck (written : Bool) : OutgoingState :=
  let replied := { state with replying := state.replying - 1 }
  if written then replied.record .pauseAck else replied

/-- `ResumeAsync` up to its interlocked operation. -/
def resume : OutgoingState :=
  if state.pauseHandler.paused then
    { state with
      pauseHandler := { state.pauseHandler with paused := false }
      resuming := state.resuming + 1 }.record .resuming
  else state

/-- `_pauseSemaphore.Release()` in `ResumeAsync`; a `SemaphoreFullException`
goes to the caller. -/
def releasePause : OutgoingState :=
  let resumed := { state with resuming := state.resuming - 1 }.record .resumed
  match state.pauseHandler.release with
  | none => resumed
  | some (woken, handler) => { resumed with pauseHandler := handler }.wake woken

end OutgoingState

inductive OutgoingAction where
  /-- The application. -/
  | write (chunk : Bytes)
  | complete
  /-- `Application.Input.CancelPendingRead()`. -/
  | cancelPendingRead
  /-- `CancelOutgoing`. -/
  | cancelOutgoing
  /-- The outgoing loop. -/
  | read
  | parse
  | forward (result : ForwardMessageResult)
  | release
  | timeout
  /-- A pending read or wait observes the cancellation. -/
  | observeAbort
  /-- The tasks of `Pause` messages. -/
  | pause
  | resetPauseAcked
  | enterPause
  | checkAck
  | replyAck (written : Bool)
  /-- `Resume` messages. -/
  | resume
  | releasePause
deriving DecidableEq, Repr

def outgoingStep (context : OutgoingContext) (state : OutgoingState) :
    OutgoingAction → Option OutgoingState
  | .write chunk =>
      if state.input.completed then none
      else
        some { state with
          output := state.output ++ chunk
          input := state.input.write chunk }
  | .complete => some { state with input := state.input.complete }
  | .cancelPendingRead => some { state with input := state.input.cancelPendingRead }
  | .cancelOutgoing => some { state with outgoingAborted := true }
  | .read =>
      match state.loop with
      | .reading _ => if state.input.Readable then some (state.read context) else none
      | _ => none
  | .parse =>
      match state.loop with
      | .parsing buffer completed => some (state.parse context buffer completed)
      | _ => none
  | .forward result =>
      match state.loop with
      | .handshaking buffer next completed =>
          some (state.forwardHandshake context buffer next completed result)
      | .forwarding buffer next kind completed =>
          some (state.forwardFrame context buffer next kind completed result)
      | _ => none
  | .release =>
      match state.loop with
      | .releasing buffer completed fatal => some (state.releaseFrame buffer completed fatal)
      | _ => none
  | .timeout =>
      match state.loop with
      | .waiting buffer _ _ completed =>
          some ({ state with pauseHandler := state.pauseHandler.giveUp .outgoing }.endRead
            buffer completed true)
      | _ => none
  | .observeAbort =>
      if state.outgoingAborted then
        match state.loop with
        | .reading _ => some { state with loop := .returned }
        | .waiting _ _ _ _ =>
            some { state with
              pauseHandler := state.pauseHandler.giveUp .outgoing
              loop := .returned }
        | _ => none
      else none
  | .pause => some state.pause
  | .resetPauseAcked => if 0 < state.resetting then some state.resetPauseAcked else none
  | .enterPause => if 0 < state.entering then some state.enterPause else none
  | .checkAck => if 0 < state.checking then some state.checkAck else none
  | .replyAck written => if 0 < state.replying then some (state.replyAck written) else none
  | .resume => some state.resume
  | .releasePause => if 0 < state.resuming then some state.releasePause else none

/-! ## What the longer steps can do -/

/-- The outcomes of a read. -/
inductive ReadOutcome (context : OutgoingContext) (state : OutgoingState) :
    OutgoingState → Prop where
  | canceled (canceled : state.input.canceled = true) :
      ReadOutcome context state { state with loop := .returned }
  | empty (empty : state.input.buffered = []) :
      ReadOutcome context state
        ({ state with input := state.input.lend }.endRead [] state.input.completed false)
  | hub (complete : state.handshakeComplete = true) :
      ReadOutcome context state
        { state with
          input := state.input.lend
          loop := .parsing state.input.buffered state.input.completed }
  | malformed {error : Exn} (incomplete : state.handshakeComplete = false)
      (parsed : context.handshakeProtocol.parse state.input.buffered = .error error) :
      ReadOutcome context state
        { state with
          input := state.input.lend
          loop := .returned }
  | unanswered (incomplete : state.handshakeComplete = false)
      (parsed : context.handshakeProtocol.parse state.input.buffered = .ok none) :
      ReadOutcome context state
        ({ state with input := state.input.lend }.endRead state.input.buffered
          state.input.completed false)
  | skipped {next : Bytes} (incomplete : state.handshakeComplete = false)
      (migrated : context.isMigrated = true)
      (parsed : context.handshakeProtocol.parse state.input.buffered =
        .ok (some ((), next))) :
      ReadOutcome context state
        { state with
          input := state.input.lend
          handshakeComplete := true
          loop := .parsing next state.input.completed }
  | response {next : Bytes} (incomplete : state.handshakeComplete = false)
      (fresh : context.isMigrated = false)
      (parsed : context.handshakeProtocol.parse state.input.buffered =
        .ok (some ((), next))) :
      ReadOutcome context state
        { state with
          input := state.input.lend
          loop := .handshaking state.input.buffered next state.input.completed }

/-- The outcomes of the condition of the inner loop. -/
inductive ParseOutcome (context : OutgoingContext) (state : OutgoingState) (buffer : Bytes)
    (completed : Bool) : OutgoingState → Prop where
  | drained (drained : context.hubProtocol.parse buffer = .ok none) :
      ParseOutcome context state buffer completed (state.endRead buffer completed false)
  | malformed {error : Exn} (parsed : context.hubProtocol.parse buffer = .error error) :
      ParseOutcome context state buffer completed { state with loop := .returned }
  | aborted (aborted : state.outgoingAborted = true) :
      ParseOutcome context state buffer completed { state with loop := .returned }
  | acquired {next : Bytes} {kind : HubMessageKind} {handler : PauseHandler}
      (parsed : context.hubProtocol.parse buffer = .ok (some (kind, next)))
      (waited : state.pauseHandler.wait .outgoing = (true, handler)) :
      ParseOutcome context state buffer completed
        { state with
          pauseHandler := handler
          loop := .forwarding buffer next kind completed }
  | queued {next : Bytes} {kind : HubMessageKind} {handler : PauseHandler}
      (parsed : context.hubProtocol.parse buffer = .ok (some (kind, next)))
      (waited : state.pauseHandler.wait .outgoing = (false, handler)) :
      ParseOutcome context state buffer completed
        { state with
          pauseHandler := handler
          loop := .waiting buffer next kind completed }

section Outcomes

variable (context : OutgoingContext) (state : OutgoingState)

theorem read_outcome : ReadOutcome context state (state.read context) := by
  simp only [OutgoingState.read]
  by_cases canceled : state.input.readResult.isCanceled = true
  · rw [if_pos canceled]
    exact .canceled canceled
  rw [if_neg canceled]
  by_cases empty : state.input.readResult.buffer = []
  · rw [if_pos empty]
    exact .empty empty
  rw [if_neg empty]
  by_cases complete : state.handshakeComplete = true
  · rw [if_pos complete]
    exact .hub complete
  rw [if_neg complete]
  rw [Bool.not_eq_true] at complete
  cases parsed : context.handshakeProtocol.parse state.input.readResult.buffer with
  | error error => exact .malformed complete parsed
  | ok found =>
      cases found with
      | none => exact .unanswered complete parsed
      | some found =>
          obtain ⟨⟨⟩, next⟩ := found
          cases migrated : context.isMigrated with
          | true => exact .skipped complete migrated parsed
          | false => exact .response complete migrated parsed

theorem parse_outcome (buffer : Bytes) (completed : Bool) :
    ParseOutcome context state buffer completed (state.parse context buffer completed) := by
  rw [OutgoingState.parse]
  by_cases empty : buffer = []
  · rw [if_pos empty]
    apply ParseOutcome.drained
    rw [empty]
    exact context.hubProtocol.parse_nil
  rw [if_neg empty]
  cases parsed : context.hubProtocol.parse buffer with
  | error error => exact .malformed parsed
  | ok found =>
      cases found with
      | none => exact .drained parsed
      | some found =>
          obtain ⟨kind, next⟩ := found
          by_cases aborted : state.outgoingAborted = true
          · simp only [if_pos aborted]
            exact .aborted aborted
          · simp only [if_neg aborted]
            cases acquired : (state.pauseHandler.wait .outgoing).1 with
            | true => exact .acquired parsed (Prod.ext acquired rfl)
            | false => exact .queued parsed (Prod.ext acquired rfl)

end Outcomes

/-- Every step, with where the loop has to be for it. -/
inductive StepOutcome (context : OutgoingContext) (state : OutgoingState) :
    OutgoingAction → OutgoingState → Prop where
  | write {chunk : Bytes} (unfinished : state.input.completed = false) :
      StepOutcome context state (.write chunk)
        { state with
          output := state.output ++ chunk
          input := state.input.write chunk }
  | complete : StepOutcome context state .complete { state with input := state.input.complete }
  | cancelPendingRead :
      StepOutcome context state .cancelPendingRead
        { state with input := state.input.cancelPendingRead }
  | cancelOutgoing :
      StepOutcome context state .cancelOutgoing { state with outgoingAborted := true }
  | read {abandoned : Bool} {next : OutgoingState} (loop : state.loop = .reading abandoned)
      (readable : state.input.Readable) (outcome : ReadOutcome context state next) :
      StepOutcome context state .read next
  | parse {buffer : Bytes} {completed : Bool} {next : OutgoingState}
      (loop : state.loop = .parsing buffer completed)
      (outcome : ParseOutcome context state buffer completed next) :
      StepOutcome context state .parse next
  | forwardHandshake {buffer rest : Bytes} {completed : Bool} {result : ForwardMessageResult}
      (loop : state.loop = .handshaking buffer rest completed) :
      StepOutcome context state (.forward result)
        (state.forwardHandshake context buffer rest completed result)
  | forwardFrame {buffer rest : Bytes} {kind : HubMessageKind} {completed : Bool}
      {result : ForwardMessageResult}
      (loop : state.loop = .forwarding buffer rest kind completed) :
      StepOutcome context state (.forward result)
        (state.forwardFrame context buffer rest kind completed result)
  | release {buffer : Bytes} {completed fatal : Bool}
      (loop : state.loop = .releasing buffer completed fatal) :
      StepOutcome context state .release (state.releaseFrame buffer completed fatal)
  | timeout {buffer rest : Bytes} {kind : HubMessageKind} {completed : Bool}
      (loop : state.loop = .waiting buffer rest kind completed) :
      StepOutcome context state .timeout
        ({ state with pauseHandler := state.pauseHandler.giveUp .outgoing }.endRead
          buffer completed true)
  | abortRead {abandoned : Bool} (aborted : state.outgoingAborted = true)
      (loop : state.loop = .reading abandoned) :
      StepOutcome context state .observeAbort { state with loop := .returned }
  | abortWait {buffer rest : Bytes} {kind : HubMessageKind} {completed : Bool}
      (aborted : state.outgoingAborted = true)
      (loop : state.loop = .waiting buffer rest kind completed) :
      StepOutcome context state .observeAbort
        { state with
          pauseHandler := state.pauseHandler.giveUp .outgoing
          loop := .returned }
  | pause : StepOutcome context state .pause state.pause
  | resetPauseAcked (present : 0 < state.resetting) :
      StepOutcome context state .resetPauseAcked state.resetPauseAcked
  | enterPause (present : 0 < state.entering) :
      StepOutcome context state .enterPause state.enterPause
  | checkAck (present : 0 < state.checking) : StepOutcome context state .checkAck state.checkAck
  | replyAck {written : Bool} (present : 0 < state.replying) :
      StepOutcome context state (.replyAck written) (state.replyAck written)
  | resume : StepOutcome context state .resume state.resume
  | releasePause (present : 0 < state.resuming) :
      StepOutcome context state .releasePause state.releasePause

theorem step_outcome {context : OutgoingContext} {state next : OutgoingState}
    {action : OutgoingAction} (stepped : outgoingStep context state action = some next) :
    StepOutcome context state action next := by
  cases action with
  | write chunk =>
      simp only [outgoingStep] at stepped
      split_ifs at stepped with completed
      cases stepped
      exact .write (by simpa using completed)
  | complete | cancelPendingRead | cancelOutgoing | pause | resume =>
      cases stepped
      constructor
  | resetPauseAcked | enterPause | checkAck | replyAck | releasePause =>
      simp only [outgoingStep] at stepped
      split_ifs at stepped with present
      cases stepped
      constructor
      exact present
  | read =>
      simp only [outgoingStep] at stepped
      split at stepped
      next abandoned loop =>
        split_ifs at stepped with readable
        cases stepped
        exact .read loop readable (read_outcome context state)
      next => exact nomatch stepped
  | parse =>
      simp only [outgoingStep] at stepped
      split at stepped
      next buffer completed loop =>
        cases stepped
        exact .parse loop (parse_outcome context state buffer completed)
      next => exact nomatch stepped
  | forward result =>
      simp only [outgoingStep] at stepped
      split at stepped
      next loop =>
        cases stepped
        exact .forwardHandshake loop
      next loop =>
        cases stepped
        exact .forwardFrame loop
      next => exact nomatch stepped
  | release =>
      simp only [outgoingStep] at stepped
      split at stepped
      next loop =>
        cases stepped
        exact .release loop
      next => exact nomatch stepped
  | timeout =>
      simp only [outgoingStep] at stepped
      split at stepped
      next loop =>
        cases stepped
        exact .timeout loop
      next => exact nomatch stepped
  | observeAbort =>
      simp only [outgoingStep] at stepped
      split_ifs at stepped with aborted
      split at stepped
      next loop =>
        cases stepped
        exact .abortRead aborted loop
      next loop =>
        cases stepped
        exact .abortWait aborted loop
      next => exact nomatch stepped

end AzureSignalR.ClientConnections
