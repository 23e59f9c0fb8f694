import AzureSignalR.Library.Machine
import AzureSignalR.Library.Pipe
import AzureSignalR.Protocol.ServiceProtocol

/-!
Contract: how a service connection reads its transport, as
`ServiceConnectionBase` does: the handshake reader, then the receive loop.

Owns: one iteration of `ReceiveHandshakeResponseAsync` and of
`ProcessIncomingAsync`, and the machine in which they run against a transport
that hands over the stream in arbitrary chunks.

Does not own: what a dispatched message does. Whether a dispatch throws is a
parameter that may depend on everything dispatched so far.
-/

set_option autoImplicit false

namespace AzureSignalR.ServiceConnections

open Library Protocol

/-- Whether the last of the messages dispatched so far makes
`DispatchMessageAsync` throw before it returns a task. -/
abbrev DispatchError := List (Option ServiceMessage) → Option Exn

section Iterations

variable (mp : MessagePack) (toUpperInvariant : Char → Char) (dispatchError : DispatchError)

/-! ## The handshake reader -/

inductive HandshakeOutcome where
  | again
  | accepted
  | refused
  | threw (error : Exn)
deriving DecidableEq, Repr

/-- What follows once a first message has been parsed. -/
def handshakeOutcome : Option ServiceMessage → HandshakeOutcome
  | some (.handshakeResponse response) =>
      if response.errorMessage.getD "" = "" then .accepted else .refused
  | some message =>
      .threw (.invalidData
        (message.typeName ++ " received when waiting for handshake response."))
  | none => .threw .nullReference

/-- One iteration of `ReceiveHandshakeResponseAsync`: the bytes it does not
consume, how many of them it leaves unexamined, and how it ends. -/
def receiveHandshakeResponse (result : ReadResult UInt8) : Bytes × Nat × HandshakeOutcome :=
  if result.isCanceled then
    (result.buffer, 0,
      .threw (.invalidOperation "Connection cancelled before handshake complete."))
  else
    match tryParseMessage mp toUpperInvariant result.buffer with
    | .error (_, error) => (result.buffer, 0, .threw error)
    | .ok (some (message, rest)) => (rest, rest.length, handshakeOutcome message)
    | .ok none =>
        if result.isCompleted then
          (result.buffer, 0,
            .threw (.invalidOperation
              "Service disconnected before sending a handshake response."))
        else (result.buffer, 0, .again)

/-! ## The receive loop -/

/-- The `while (TryParseMessage(ref buffer, ...))` loop: the buffer it leaves,
the messages dispatched and the exception that ended it, if any. Every frame
takes a byte, so the length of the buffer bounds the recursion. -/
def dispatchFrom : (bound : Nat) → (buffer : Bytes) →
    (dispatched : List (Option ServiceMessage)) →
    Bytes × List (Option ServiceMessage) × Option Exn
  | 0, buffer, dispatched => (buffer, dispatched, none)
  | bound + 1, buffer, dispatched =>
      match tryParseMessage mp toUpperInvariant buffer with
      | .error (left, error) => (left, dispatched, some error)
      | .ok none => (buffer, dispatched, none)
      | .ok (some (message, rest)) =>
          match dispatchError (dispatched ++ [message]) with
          | some error => (rest, dispatched ++ [message], some error)
          | none => dispatchFrom bound rest (dispatched ++ [message])

def dispatchMessages (buffer : Bytes) (dispatched : List (Option ServiceMessage)) :
    Bytes × List (Option ServiceMessage) × Option Exn :=
  dispatchFrom mp toUpperInvariant dispatchError buffer.length buffer dispatched

inductive LoopOutcome where
  | again
  | threw (error : Exn)
  | broke
deriving DecidableEq, Repr

/-- One iteration of `ProcessIncomingAsync`. The exception handler skips the
test for completion. -/
def processIncoming (result : ReadResult UInt8)
    (dispatched : List (Option ServiceMessage)) :
    Bytes × List (Option ServiceMessage) × LoopOutcome :=
  if result.isCanceled then (result.buffer, dispatched, .broke)
  else
    match dispatchMessages mp toUpperInvariant dispatchError result.buffer dispatched with
    | (buffer, dispatched, some error) => (buffer, dispatched, .threw error)
    | (buffer, dispatched, none) =>
        (buffer, dispatched, if result.isCompleted then .broke else .again)

end Iterations

/-! ## The machine -/

inductive Phase where
  | handshake
  /-- The handshake threw or was refused; the connection is disposed. -/
  | disconnected
  | processing
  | returned
deriving DecidableEq, Repr

structure ReceiveState where
  /-- What the service has sent and the transport has not handed over. -/
  incoming : Bytes
  input : Pipe UInt8
  phase : Phase
  dispatched : List (Option ServiceMessage)
  /-- `Log.ErrorProcessingMessages`. -/
  errors : List Exn

namespace ReceiveState

/-- A connection whose service will send `stream`. -/
def start (stream : Bytes) : ReceiveState :=
  { incoming := stream
    input := {}
    phase := .handshake
    dispatched := []
    errors := [] }

/-- `ProcessIncomingAsync` when the handshake reader has left `buffered`. -/
def processing (buffered stream : Bytes) : ReceiveState :=
  { incoming := stream
    input := { buffered := buffered }
    phase := .processing
    dispatched := []
    errors := [] }

/-- All bytes that are still to be consumed. -/
def pending (state : ReceiveState) : Bytes := state.input.buffered ++ state.incoming

/-- The receive loop waits in `ReadAsync`. -/
def Suspended (state : ReceiveState) : Prop :=
  state.phase = .processing ∧ ¬ state.input.Readable

end ReceiveState

inductive ReceiveAction where
  /-- The transport hands over the next bytes. -/
  | arrive (count : Nat)
  /-- The transport completes the pipe after the last byte. -/
  | complete
  /-- `CancelPendingRead`, by `StopAsync`. -/
  | cancel
  /-- `ReadAsync` returns and the iteration runs to its `AdvanceTo`. -/
  | read
deriving DecidableEq, Repr

section Machine

variable (mp : MessagePack) (toUpperInvariant : Char → Char) (dispatchError : DispatchError)

def handshakeRead (state : ReceiveState) : ReceiveState :=
  match receiveHandshakeResponse mp toUpperInvariant state.input.readResult with
  | (left, unexamined, outcome) =>
      { state with
        input := state.input.advanceTo left unexamined
        phase :=
          match outcome with
          | .again => .handshake
          | .accepted => .processing
          | .refused => .disconnected
          | .threw _ => .disconnected }

def processingRead (state : ReceiveState) : ReceiveState :=
  match processIncoming mp toUpperInvariant dispatchError state.input.readResult
      state.dispatched with
  | (left, dispatched, outcome) =>
      { state with
        input := state.input.advanceTo left 0
        dispatched := dispatched
        phase := if outcome = .broke then .returned else .processing
        errors :=
          match outcome with
          | .threw error => state.errors ++ [error]
          | _ => state.errors }

def receiveStep (state : ReceiveState) : ReceiveAction → Option ReceiveState
  | .arrive count =>
      if 0 < count ∧ count ≤ state.incoming.length then
        some
          { state with
            incoming := state.incoming.drop count
            input := state.input.write (state.incoming.take count) }
      else none
  | .complete =>
      if state.incoming = [] ∧ state.input.completed = false then
        some { state with input := state.input.complete }
      else none
  | .cancel =>
      if state.input.canceled = false then
        some { state with input := state.input.cancelPendingRead }
      else none
  | .read =>
      if state.input.Readable then
        match state.phase with
        | .handshake => some (handshakeRead mp toUpperInvariant state)
        | .processing => some (processingRead mp toUpperInvariant dispatchError state)
        | .disconnected => none
        | .returned => none
      else none

/-! ## What one iteration does -/

/-- What the body of a frame parses to, if it does. -/
def frameMessage (payload : Bytes) : Option (Option ServiceMessage) :=
  match (parseMessage mp toUpperInvariant).run payload with
  | .ok (message, _) => some message
  | .error _ => none

open BinaryMessage (frameParser)

theorem tryParseMessage_of_error {buffer : Bytes} {error : Exn}
    (parsed : frameParser.parse buffer = .error error) :
    tryParseMessage mp toUpperInvariant buffer = .error (buffer, error) := by
  change BinaryMessage.tryParseMessage buffer = _ at parsed
  unfold tryParseMessage
  rw [parsed]

theorem tryParseMessage_of_none {buffer : Bytes}
    (parsed : frameParser.parse buffer = .ok none) :
    tryParseMessage mp toUpperInvariant buffer = .ok none := by
  change BinaryMessage.tryParseMessage buffer = _ at parsed
  unfold tryParseMessage
  rw [parsed]

theorem tryParseMessage_of_malformed {buffer payload rest : Bytes}
    (parsed : frameParser.parse buffer = .ok (some (payload, rest)))
    (malformed : frameMessage mp toUpperInvariant payload = none) :
    ∃ error, tryParseMessage mp toUpperInvariant buffer = .error (rest, error) := by
  change BinaryMessage.tryParseMessage buffer = _ at parsed
  unfold frameMessage at malformed
  unfold tryParseMessage
  rw [parsed]
  cases body : (parseMessage mp toUpperInvariant).run payload with
  | error error => exact ⟨error, by simp only [body]⟩
  | ok read =>
      rw [body] at malformed
      exact nomatch malformed

theorem tryParseMessage_of_message {buffer payload rest : Bytes}
    {message : Option ServiceMessage}
    (parsed : frameParser.parse buffer = .ok (some (payload, rest)))
    (wellFormed : frameMessage mp toUpperInvariant payload = some message) :
    tryParseMessage mp toUpperInvariant buffer = .ok (some (message, rest)) := by
  change BinaryMessage.tryParseMessage buffer = _ at parsed
  unfold frameMessage at wellFormed
  unfold tryParseMessage
  rw [parsed]
  cases body : (parseMessage mp toUpperInvariant).run payload with
  | error error =>
      rw [body] at wellFormed
      exact nomatch wellFormed
  | ok read =>
      rw [body] at wellFormed
      simp only [body]
      cases wellFormed
      rfl

/-- The parse loop takes some frames off the buffer and dispatches those that
parse. It stops where the parser wants more input, or with an exception: of a
malformed or throwing frame it has taken, or of the prefix it stands at. -/
structure Dispatches (buffer : Bytes) (dispatched : List (Option ServiceMessage))
    (payloads : List Bytes)
    (ended : Bytes × List (Option ServiceMessage) × Option Exn) : Prop where
  takes : frameParser.Takes buffer payloads ended.1
  messages : ended.2.1 = dispatched ++ payloads.filterMap (frameMessage mp toUpperInvariant)
  exhausted : ended.2.2 = none → frameParser.parse ended.1 = .ok none
  failed : ∀ error, ended.2.2 = some error → payloads = [] →
    frameParser.parse ended.1 = .error error

theorem dispatches_dispatchFrom (bound : Nat) (buffer : Bytes)
    (dispatched : List (Option ServiceMessage)) (enough : buffer.length ≤ bound) :
    ∃ payloads, Dispatches mp toUpperInvariant buffer dispatched payloads
      (dispatchFrom mp toUpperInvariant dispatchError bound buffer dispatched) := by
  induction bound generalizing buffer dispatched with
  | zero =>
      have empty : buffer = [] := List.eq_nil_of_length_eq_zero (by omega)
      subst empty
      refine ⟨[], .nil [], ?_, fun _ => frameParser.parse_nil, ?_⟩
      · exact (List.append_nil dispatched).symm
      · exact fun error failed => nomatch failed
  | succ bound inductionHypothesis =>
      unfold dispatchFrom
      cases parsed : frameParser.parse buffer with
      | error error =>
          rw [tryParseMessage_of_error mp toUpperInvariant parsed]
          refine ⟨[], .nil buffer, (List.append_nil dispatched).symm, ?_, ?_⟩
          · exact fun none => nomatch none
          · rintro other same -
            cases same
            exact parsed
      | ok found =>
          cases found with
          | none =>
              rw [tryParseMessage_of_none mp toUpperInvariant parsed]
              refine ⟨[], .nil buffer, (List.append_nil dispatched).symm, fun _ => parsed, ?_⟩
              exact fun error failed => nomatch failed
          | some frame =>
              obtain ⟨payload, rest⟩ := frame
              have shorter := frameParser.length_lt parsed
              cases body : frameMessage mp toUpperInvariant payload with
              | none =>
                  obtain ⟨error, threw⟩ :=
                    tryParseMessage_of_malformed mp toUpperInvariant parsed body
                  rw [threw]
                  refine ⟨[payload], .cons parsed (.nil rest), ?_, ?_, ?_⟩
                  · simp [body]
                  · exact fun none => nomatch none
                  · exact fun other failed nothing => nomatch nothing
              | some message =>
                  rw [tryParseMessage_of_message mp toUpperInvariant parsed body]
                  simp only
                  cases outcome : dispatchError (dispatched ++ [message]) with
                  | some error =>
                      refine ⟨[payload], .cons parsed (.nil rest), ?_, ?_, ?_⟩
                      · simp [body]
                      · exact fun none => nomatch none
                      · exact fun other failed nothing => nomatch nothing
                  | none =>
                      obtain ⟨payloads, takes, messages, exhausted, failed⟩ :=
                        inductionHypothesis rest (dispatched ++ [message]) (by omega)
                      refine ⟨payload :: payloads, .cons parsed takes, ?_, exhausted, ?_⟩
                      · rw [messages, List.filterMap_cons, body]
                        simp
                      · exact fun other failed nothing => nomatch nothing

theorem dispatches_dispatchMessages (buffer : Bytes)
    (dispatched : List (Option ServiceMessage)) :
    ∃ payloads, Dispatches mp toUpperInvariant buffer dispatched payloads
      (dispatchMessages mp toUpperInvariant dispatchError buffer dispatched) :=
  dispatches_dispatchFrom mp toUpperInvariant dispatchError buffer.length buffer dispatched
    (le_refl _)

theorem processingRead_canceled (state : ReceiveState)
    (canceled : state.input.canceled = true) :
    processingRead mp toUpperInvariant dispatchError state =
      { state with
        input := state.input.advanceTo state.input.buffered 0
        phase := .returned } := by
  unfold processingRead processIncoming
  rw [if_pos (show state.input.readResult.isCanceled = true from canceled)]
  rfl

theorem processingRead_eq (state : ReceiveState)
    (reading : state.input.canceled = false) :
    ∃ payloads ended, Dispatches mp toUpperInvariant state.input.buffered state.dispatched
        payloads ended ∧
      ended = dispatchMessages mp toUpperInvariant dispatchError state.input.buffered
        state.dispatched ∧
      processingRead mp toUpperInvariant dispatchError state =
        { state with
          input := state.input.advanceTo ended.1 0
          dispatched := ended.2.1
          phase :=
            if ended.2.2 = none ∧ state.input.completed = true then .returned
            else .processing
          errors := state.errors ++ ended.2.2.toList } := by
  obtain ⟨payloads, dispatches⟩ := dispatches_dispatchMessages mp toUpperInvariant
    dispatchError state.input.buffered state.dispatched
  refine ⟨payloads, _, dispatches, rfl, ?_⟩
  have notCanceled : ¬ state.input.readResult.isCanceled = true := by
    change ¬ state.input.canceled = true
    rw [reading]
    exact Bool.false_ne_true
  have buffer : state.input.readResult.buffer = state.input.buffered := rfl
  unfold processingRead processIncoming
  rw [if_neg notCanceled, buffer]
  rcases dispatchMessages mp toUpperInvariant dispatchError state.input.buffered
    state.dispatched with ⟨left, dispatched, outcome⟩
  cases outcome with
  | some error => simp
  | none =>
      cases completed : state.input.completed <;> simp [Pipe.readResult, completed]

theorem handshakeRead_canceled (state : ReceiveState)
    (canceled : state.input.canceled = true) :
    handshakeRead mp toUpperInvariant state =
      { state with
        input := state.input.advanceTo state.input.buffered 0
        phase := .disconnected } := by
  unfold handshakeRead receiveHandshakeResponse
  rw [if_pos (show state.input.readResult.isCanceled = true from canceled)]
  rfl

/-- How the handshake reader leaves a state it was not cancelled in. -/
inductive HandshakeReads (state : ReceiveState) : ReceiveState → Prop where
  | waits (parsed : frameParser.parse state.input.buffered = .ok none)
      (unfinished : state.input.completed = false) :
      HandshakeReads state
        { state with input := state.input.advanceTo state.input.buffered 0 }
  | accepts {payload rest : Bytes} {message : Option ServiceMessage}
      (parsed : frameParser.parse state.input.buffered = .ok (some (payload, rest)))
      (body : frameMessage mp toUpperInvariant payload = some message)
      (accepted : handshakeOutcome message = .accepted) :
      HandshakeReads state
        { state with
          input := state.input.advanceTo rest rest.length
          phase := .processing }
  | rejects {payload rest : Bytes} {message : Option ServiceMessage}
      (parsed : frameParser.parse state.input.buffered = .ok (some (payload, rest)))
      (body : frameMessage mp toUpperInvariant payload = some message)
      (rejected : handshakeOutcome message ≠ .accepted) :
      HandshakeReads state
        { state with
          input := state.input.advanceTo rest rest.length
          phase := .disconnected }
  | malformed {payload rest : Bytes}
      (parsed : frameParser.parse state.input.buffered = .ok (some (payload, rest)))
      (body : frameMessage mp toUpperInvariant payload = none) :
      HandshakeReads state
        { state with
          input := state.input.advanceTo state.input.buffered 0
          phase := .disconnected }
  | fails (parsed : (∃ error, frameParser.parse state.input.buffered = .error error) ∨
        frameParser.parse state.input.buffered = .ok none ∧ state.input.completed = true) :
      HandshakeReads state
        { state with
          input := state.input.advanceTo state.input.buffered 0
          phase := .disconnected }

theorem handshakeOutcome_ne_again (message : Option ServiceMessage) :
    handshakeOutcome message ≠ .again := by
  unfold handshakeOutcome
  split
  · split <;> simp
  · simp
  · simp

theorem handshakeReads_handshakeRead (state : ReceiveState)
    (phase : state.phase = .handshake) (reading : state.input.canceled = false) :
    HandshakeReads mp toUpperInvariant state (handshakeRead mp toUpperInvariant state) := by
  have notCanceled : ¬ state.input.readResult.isCanceled = true := by
    change ¬ state.input.canceled = true
    rw [reading]
    exact Bool.false_ne_true
  have buffer : state.input.readResult.buffer = state.input.buffered := rfl
  unfold handshakeRead receiveHandshakeResponse
  rw [if_neg notCanceled, buffer]
  cases parsed : frameParser.parse state.input.buffered with
  | error error =>
      rw [tryParseMessage_of_error mp toUpperInvariant parsed]
      exact .fails (.inl ⟨error, parsed⟩)
  | ok found =>
      cases found with
      | none =>
          rw [tryParseMessage_of_none mp toUpperInvariant parsed]
          cases completed : state.input.completed with
          | true =>
              have done : state.input.readResult.isCompleted = true := completed
              simp only [done, if_true]
              exact .fails (.inr ⟨parsed, completed⟩)
          | false =>
              have open_ : state.input.readResult.isCompleted = false := completed
              simp only [open_, Bool.false_eq_true, if_false]
              rw [← phase]
              exact .waits parsed completed
      | some frame =>
          obtain ⟨payload, rest⟩ := frame
          cases body : frameMessage mp toUpperInvariant payload with
          | none =>
              obtain ⟨error, threw⟩ :=
                tryParseMessage_of_malformed mp toUpperInvariant parsed body
              rw [threw]
              exact .malformed parsed body
          | some message =>
              rw [tryParseMessage_of_message mp toUpperInvariant parsed body]
              have decided := handshakeOutcome_ne_again message
              cases outcome : handshakeOutcome message with
              | again => exact absurd outcome decided
              | accepted =>
                  simp only [outcome]
                  exact .accepts parsed body outcome
              | refused =>
                  simp only [outcome]
                  exact .rejects parsed body (by simp [outcome])
              | threw error =>
                  simp only [outcome]
                  exact .rejects parsed body (by simp [outcome])

/-- What a step can do. -/
inductive ReceiveSteps (state : ReceiveState) : ReceiveAction → ReceiveState → Prop where
  | arrive {count : Nat} (some : 0 < count) (available : count ≤ state.incoming.length) :
      ReceiveSteps state (.arrive count)
        { state with
          incoming := state.incoming.drop count
          input := state.input.write (state.incoming.take count) }
  | complete (sent : state.incoming = []) (unfinished : state.input.completed = false) :
      ReceiveSteps state .complete { state with input := state.input.complete }
  | cancel (reading : state.input.canceled = false) :
      ReceiveSteps state .cancel { state with input := state.input.cancelPendingRead }
  | handshake (readable : state.input.Readable) (phase : state.phase = .handshake) :
      ReceiveSteps state .read (handshakeRead mp toUpperInvariant state)
  | processing (readable : state.input.Readable) (phase : state.phase = .processing) :
      ReceiveSteps state .read (processingRead mp toUpperInvariant dispatchError state)

theorem receiveSteps_of_receiveStep {state next : ReceiveState} {action : ReceiveAction}
    (stepped : receiveStep mp toUpperInvariant dispatchError state action = some next) :
    ReceiveSteps mp toUpperInvariant dispatchError state action next := by
  cases action with
  | arrive count =>
      simp only [receiveStep] at stepped
      split at stepped
      · rename_i enabled
        cases stepped
        exact .arrive enabled.1 enabled.2
      · exact nomatch stepped
  | complete =>
      simp only [receiveStep] at stepped
      split at stepped
      · rename_i enabled
        cases stepped
        exact .complete enabled.1 enabled.2
      · exact nomatch stepped
  | cancel =>
      simp only [receiveStep] at stepped
      split at stepped
      · rename_i enabled
        cases stepped
        exact .cancel enabled
      · exact nomatch stepped
  | read =>
      simp only [receiveStep] at stepped
      split at stepped
      · rename_i readable
        cases phase : state.phase with
        | handshake =>
            rw [phase] at stepped
            cases stepped
            exact .handshake readable phase
        | processing =>
            rw [phase] at stepped
            cases stepped
            exact .processing readable phase
        | disconnected =>
            rw [phase] at stepped
            exact nomatch stepped
        | returned =>
            rw [phase] at stepped
            exact nomatch stepped
      · exact nomatch stepped

end Machine

/-! ## Some frames -/

/-- A handshake response without an error message. -/
def handshakeResponseFrame : BinaryMessage.Frame :=
  .short [0x94, 0x02, 0xc0, 0x80, 0xc0] (by decide)

def pingFrame : BinaryMessage.Frame := .short [0x91, 0x03] (by decide)

/-- A body that is not an array. -/
def malformedFrame : BinaryMessage.Frame := .short [0xc0] (by decide)

end AzureSignalR.ServiceConnections
