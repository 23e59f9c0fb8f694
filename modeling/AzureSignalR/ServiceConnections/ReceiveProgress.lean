import AzureSignalR.Protocol.MessagePackFormat
import AzureSignalR.ServiceConnections.Receive

/-!
Contract: which complete frames can be left in the buffer while the receive
loop waits for more bytes.

Owns: the frames an iteration handles, and the condition on the buffer under
which it leaves no complete frame behind.

An exception ends the parse loop and marks the whole buffer as examined. The
frames behind the failing one then wait until something else arrives.
-/

set_option autoImplicit false

namespace AzureSignalR.ServiceConnections

open Library Library.Machine Protocol
open BinaryMessage (frameParser Frame)

section Progress

variable (mp : MessagePack) (toUpperInvariant : Char → Char) (dispatchError : DispatchError)

/-- No complete frame stands at the front of the bytes. -/
def NoFrame (bytes : Bytes) : Prop := ∀ (frame : Frame) (rest : Bytes), bytes ≠ frame.bytes ++ rest

/-- The frame is parsed and its dispatch does not throw, after the messages
dispatched so far. -/
def Handled (dispatched : List (Option ServiceMessage)) (frame : Frame) : Prop :=
  frame.Addressable ∧ ∃ message, frameMessage mp toUpperInvariant frame.body = some message ∧
    dispatchError (dispatched ++ [message]) = none

def AllHandled (dispatched : List (Option ServiceMessage)) : List Frame → Prop
  | [] => True
  | frame :: frames =>
      Handled mp toUpperInvariant dispatchError dispatched frame ∧
        AllHandled
          (dispatched ++ (frameMessage mp toUpperInvariant frame.body).toList) frames

/-- The first frame of the buffer that is not handled can be stepped over, and
no complete frame follows it. -/
def FailsOnlyAtLast (buffer : Bytes) (dispatched : List (Option ServiceMessage)) : Prop :=
  ∀ (front : List Frame) (failing : Frame) (rest : Bytes),
    buffer = front.flatMap Frame.bytes ++ (failing.bytes ++ rest) →
    AllHandled mp toUpperInvariant dispatchError dispatched front →
    ¬ Handled mp toUpperInvariant dispatchError
      (dispatched ++ front.filterMap fun frame => frameMessage mp toUpperInvariant frame.body)
      failing →
    failing.Addressable ∧ NoFrame rest

variable {mp toUpperInvariant dispatchError} {buffer : Bytes}
  {dispatched : List (Option ServiceMessage)}

/-- The frame at the front of a buffer, as the parser sees it. -/
theorem parse_of_frame {frame : Frame} {rest : Bytes} (split : buffer = frame.bytes ++ rest) :
    frameParser.parse buffer =
      if frame.Addressable then .ok (some (frame.body, rest))
      else .error (.argumentOutOfRange "start") := by
  rw [split]
  exact BinaryMessage.tryParseMessage_frame frame rest

/-- The first frame of a buffer is determined. -/
theorem frame_unique {frame other : Frame} {rest behind : Bytes}
    (addressable : frame.Addressable)
    (split : buffer = frame.bytes ++ rest) (cut : buffer = other.bytes ++ behind) :
    other.Addressable ∧ other.body = frame.body ∧ behind = rest := by
  have parsed := parse_of_frame split
  have same := parse_of_frame cut
  rw [parsed, if_pos addressable] at same
  split at same
  · rename_i otherAddressable
    simp only [Except.ok.injEq, Option.some.injEq, Prod.mk.injEq] at same
    exact ⟨otherAddressable, same.1.symm, same.2.symm⟩
  · exact nomatch same

theorem noFrame_of_none (waiting : frameParser.parse buffer = .ok none) : NoFrame buffer :=
  BinaryMessage.no_frame_of_none waiting

/-- A buffer without a frame meets the condition. -/
theorem failsOnlyAtLast_of_noFrame (noFrame : NoFrame buffer) :
    FailsOnlyAtLast mp toUpperInvariant dispatchError buffer dispatched := by
  intro front failing rest split
  cases front with
  | nil => exact absurd split (noFrame failing rest)
  | cons frame front =>
      rw [List.flatMap_cons, List.append_assoc] at split
      exact absurd split (noFrame frame _)

/-- At a frame that is not handled, the condition is about what follows it. -/
theorem failsOnlyAtLast_of_not_handled {frame : Frame} {rest : Bytes}
    (split : buffer = frame.bytes ++ rest) (addressable : frame.Addressable)
    (failing : ¬ Handled mp toUpperInvariant dispatchError dispatched frame) :
    FailsOnlyAtLast mp toUpperInvariant dispatchError buffer dispatched ↔ NoFrame rest := by
  constructor
  · intro condition
    have here := condition [] frame rest split trivial (by simpa using failing)
    exact here.2
  · intro noFrame front other behind cut handled _
    cases front with
    | nil =>
        obtain ⟨otherAddressable, -, rfl⟩ := frame_unique addressable split cut
        exact ⟨otherAddressable, noFrame⟩
    | cons first front =>
        rw [List.flatMap_cons, List.append_assoc] at cut
        obtain ⟨-, bodies, -⟩ := frame_unique addressable split cut
        refine absurd ⟨addressable, ?_⟩ failing
        rw [← bodies]
        exact handled.1.2

/-- At a handled frame, the condition is about the rest of the buffer. -/
theorem failsOnlyAtLast_of_handled {frame : Frame} {rest : Bytes}
    {message : Option ServiceMessage} (split : buffer = frame.bytes ++ rest)
    (addressable : frame.Addressable)
    (body : frameMessage mp toUpperInvariant frame.body = some message)
    (quiet : dispatchError (dispatched ++ [message]) = none) :
    FailsOnlyAtLast mp toUpperInvariant dispatchError buffer dispatched ↔
      FailsOnlyAtLast mp toUpperInvariant dispatchError rest (dispatched ++ [message]) := by
  constructor
  · intro condition front failing behind cut handled unhandled
    apply condition (frame :: front) failing behind
    · rw [split, cut, List.flatMap_cons, List.append_assoc]
    · refine ⟨⟨addressable, message, body, quiet⟩, ?_⟩
      rw [body]
      exact handled
    · rw [List.filterMap_cons, body]
      simpa using unhandled
  · intro condition front failing behind cut handled unhandled
    cases front with
    | nil =>
        obtain ⟨otherAddressable, bodies, -⟩ := frame_unique addressable split cut
        have otherHandled : Handled mp toUpperInvariant dispatchError dispatched failing :=
          ⟨otherAddressable, message, by rw [bodies]; exact body, quiet⟩
        exact absurd otherHandled (by simpa using unhandled)
    | cons first front =>
        rw [List.flatMap_cons, List.append_assoc] at cut
        obtain ⟨-, bodies, rests⟩ := frame_unique addressable split cut
        rw [← bodies] at body
        apply condition front failing behind rests.symm
        · have others := handled.2
          rw [body] at others
          exact others
        · rw [List.filterMap_cons, body] at unhandled
          simpa using unhandled

/-- What the parse loop leaves starts with a complete frame exactly when the
condition fails. -/
theorem noFrame_dispatchFrom_iff (bound : Nat) (enough : buffer.length ≤ bound) :
    NoFrame (dispatchFrom mp toUpperInvariant dispatchError bound buffer dispatched).1 ↔
      FailsOnlyAtLast mp toUpperInvariant dispatchError buffer dispatched := by
  induction bound generalizing buffer dispatched with
  | zero =>
      have empty : buffer = [] := List.eq_nil_of_length_eq_zero (by omega)
      have noFrame : NoFrame buffer := by
        rw [empty]
        exact noFrame_of_none frameParser.parse_nil
      exact iff_of_true noFrame (failsOnlyAtLast_of_noFrame noFrame)
  | succ bound inductionHypothesis =>
      unfold dispatchFrom
      cases parsed : frameParser.parse buffer with
      | error error =>
          rw [tryParseMessage_of_error mp toUpperInvariant parsed]
          constructor
          · exact failsOnlyAtLast_of_noFrame
          · -- A frame the parser throws on cannot be stepped over.
            intro condition frame rest split
            have tooLong : ¬ frame.Addressable := by
              intro addressable
              rw [parse_of_frame split, if_pos addressable] at parsed
              cases parsed
            have here := condition [] frame rest split trivial
              (fun handled => tooLong handled.1)
            exact tooLong here.1
      | ok found =>
          cases found with
          | none =>
              rw [tryParseMessage_of_none mp toUpperInvariant parsed]
              have noFrame := noFrame_of_none parsed
              exact iff_of_true noFrame (failsOnlyAtLast_of_noFrame noFrame)
          | some found =>
              obtain ⟨payload, rest⟩ := found
              have shorter := frameParser.length_lt parsed
              obtain ⟨frame, addressable, rfl, split⟩ :=
                BinaryMessage.tryParseMessage_some parsed
              cases body : frameMessage mp toUpperInvariant frame.body with
              | none =>
                  obtain ⟨error, threw⟩ :=
                    tryParseMessage_of_malformed mp toUpperInvariant parsed body
                  rw [threw]
                  refine (failsOnlyAtLast_of_not_handled split addressable ?_).symm
                  rintro ⟨-, message, other, -⟩
                  rw [body] at other
                  cases other
              | some message =>
                  rw [tryParseMessage_of_message mp toUpperInvariant parsed body]
                  simp only
                  cases outcome : dispatchError (dispatched ++ [message]) with
                  | some error =>
                      refine (failsOnlyAtLast_of_not_handled split addressable ?_).symm
                      rintro ⟨-, other, same, quiet⟩
                      rw [body] at same
                      cases same
                      rw [outcome] at quiet
                      cases quiet
                  | none =>
                      rw [failsOnlyAtLast_of_handled split addressable body outcome]
                      exact inductionHypothesis (by omega)

theorem noFrame_dispatchMessages_iff :
    NoFrame (dispatchMessages mp toUpperInvariant dispatchError buffer dispatched).1 ↔
      FailsOnlyAtLast mp toUpperInvariant dispatchError buffer dispatched :=
  noFrame_dispatchFrom_iff buffer.length (le_refl _)

/-! ## Whole runs -/

variable (mp toUpperInvariant dispatchError) in
/-- The condition on a step: a read of the loop, from a pipe that is still
open, finds a buffer in which only the last complete frame may fail. -/
def ReadsCleanly (state : ReceiveState) (action : ReceiveAction) : Prop :=
  action = .read → state.phase = .processing → state.input.canceled = false →
    state.input.completed = false →
    FailsOnlyAtLast mp toUpperInvariant dispatchError state.input.buffered state.dispatched

structure Attended (state : ReceiveState) : Prop where
  examined : state.input.examined ≤ state.input.buffered.length
  consumed : state.Suspended → NoFrame state.input.buffered

/-- Nothing is waiting where `ReadAsync` returns at once. -/
theorem attended_of_readable {state : ReceiveState}
    (examined : state.input.examined ≤ state.input.buffered.length)
    (readable : state.phase = .processing → state.input.Readable) : Attended state :=
  ⟨examined, fun suspended => absurd (readable suspended.1) suspended.2⟩

theorem attended_of_phase {state : ReceiveState}
    (examined : state.input.examined ≤ state.input.buffered.length)
    (phase : state.phase ≠ .processing) : Attended state :=
  ⟨examined, fun suspended => absurd suspended.1 phase⟩

/-- The handshake reader leaves what follows the response unexamined. -/
theorem attended_of_handshake {state next : ReceiveState} (phase : state.phase = .handshake)
    (reads : HandshakeReads mp toUpperInvariant state next) : Attended next := by
  cases reads with
  | waits parsed unfinished =>
      exact attended_of_phase (Nat.sub_le _ _) (by rw [phase]; exact nofun)
  | @accepts payload rest message parsed body accepted =>
      refine ⟨Nat.sub_le _ _, fun suspended => ?_⟩
      have empty : rest = [] := by
        by_contra some
        have positive := List.length_pos_iff.mpr some
        refine suspended.2 (.inr (.inr ?_))
        change rest.length - rest.length < rest.length
        omega
      change NoFrame rest
      rw [empty]
      exact noFrame_of_none frameParser.parse_nil
  | rejects parsed body rejected => exact attended_of_phase (Nat.sub_le _ _) nofun
  | malformed parsed body => exact attended_of_phase (Nat.sub_le _ _) nofun
  | fails parsed => exact attended_of_phase (Nat.sub_le _ _) nofun

theorem Attended.step {state next : ReceiveState} {action : ReceiveAction}
    (attended : Attended state)
    (cleanly : ReadsCleanly mp toUpperInvariant dispatchError state action)
    (stepped : receiveStep mp toUpperInvariant dispatchError state action = some next) :
    Attended next := by
  have examined := attended.examined
  cases receiveSteps_of_receiveStep mp toUpperInvariant dispatchError stepped with
  | @arrive count positive available =>
      have longer : (state.input.buffered ++ state.incoming.take count).length =
          state.input.buffered.length + count := by
        rw [List.length_append, List.length_take, min_eq_left available]
      refine attended_of_readable ?_ fun _ => .inr (.inr ?_)
      · change state.input.examined ≤ (state.input.buffered ++ state.incoming.take count).length
        omega
      · change state.input.examined < (state.input.buffered ++ state.incoming.take count).length
        omega
  | complete sent unfinished => exact attended_of_readable examined fun _ => .inr (.inl rfl)
  | cancel reading => exact attended_of_readable examined fun _ => .inl rfl
  | handshake readable phase =>
      cases reading : state.input.canceled with
      | true =>
          rw [handshakeRead_canceled mp toUpperInvariant state reading]
          exact attended_of_phase (Nat.sub_le _ _) nofun
      | false =>
          exact attended_of_handshake phase
            (handshakeReads_handshakeRead mp toUpperInvariant state phase reading)
  | processing readable phase =>
      cases reading : state.input.canceled with
      | true =>
          rw [processingRead_canceled mp toUpperInvariant dispatchError state reading]
          exact attended_of_phase (Nat.sub_le _ _) nofun
      | false =>
          obtain ⟨taken, ended, -, same, result⟩ :=
            processingRead_eq mp toUpperInvariant dispatchError state reading
          rw [result]
          cases completed : state.input.completed with
          | true =>
              exact attended_of_readable (Nat.sub_le _ _) fun _ => .inr (.inl completed)
          | false =>
              refine ⟨Nat.sub_le _ _, fun _ => ?_⟩
              change NoFrame ended.1
              rw [same]
              exact noFrame_dispatchMessages_iff.2 (cleanly rfl phase reading completed)

/-- While the loop waits for bytes, every complete frame it has received has
been consumed, in every run whose reads find only the last complete frame
failing. -/
theorem processIncoming_consumes {stream : Bytes} {actions : List ReceiveAction}
    {state : ReceiveState}
    (cleanly : Along (receiveStep mp toUpperInvariant dispatchError)
      (ReadsCleanly mp toUpperInvariant dispatchError) (.start stream) actions)
    (ran : run (receiveStep mp toUpperInvariant dispatchError) (.start stream) actions =
      some state)
    (suspended : state.Suspended) : NoFrame state.input.buffered := by
  have start : Attended (.start stream) := attended_of_phase (le_refl _) nofun
  have attended : Attended state :=
    run_along (fun attended cleanly stepped => attended.step cleanly stepped) start cleanly ran
  exact attended.consumed suspended

end Progress

/-- A ping in the same chunk as the handshake response has been consumed when
the loop waits. -/
theorem processIncoming_consumes_ping :
    ∃ state, run (receiveStep messagePackFormat Char.toUpper fun _ => none)
        (.start ([handshakeResponseFrame, pingFrame].flatMap Frame.bytes))
        [.arrive 9, .read, .read] = some state ∧
      state.Suspended ∧ NoFrame state.input.buffered := by
  have ran : run (receiveStep messagePackFormat Char.toUpper fun _ => none)
      (.start ([handshakeResponseFrame, pingFrame].flatMap Frame.bytes))
      [.arrive 9, .read, .read] =
        some
          { incoming := []
            input := {}
            phase := .processing
            dispatched := [some (.ping ⟨[]⟩)]
            errors := [] } := rfl
  refine ⟨_, ran, ⟨rfl, by decide⟩, processIncoming_consumes ?_ ran ⟨rfl, by decide⟩⟩
  refine along_cons nofun rfl (along_cons (fun _ => nofun) rfl (along_cons ?_ rfl trivial))
  intro _ _ _ _
  exact noFrame_dispatchMessages_iff.1 (noFrame_of_none rfl)

/-- A malformed frame and a ping arrive together: the loop waits for bytes and
the ping has not been consumed. -/
theorem not_consumes_behind_malformed :
    ¬ ∀ actions state, run (receiveStep messagePackFormat Char.toUpper fun _ => none)
        (.start ([handshakeResponseFrame, malformedFrame, pingFrame].flatMap Frame.bytes))
        actions = some state →
      state.Suspended → NoFrame state.input.buffered := by
  intro consumes
  have ran : run (receiveStep messagePackFormat Char.toUpper fun _ => none)
      (.start ([handshakeResponseFrame, malformedFrame, pingFrame].flatMap Frame.bytes))
      [.arrive 11, .read, .read] =
        some
          { incoming := []
            input := { buffered := pingFrame.bytes, examined := 3 }
            phase := .processing
            dispatched := []
            errors := [.messagePackSerialization "Unexpected msgpack code"] } := rfl
  exact consumes _ _ ran ⟨rfl, by decide⟩ pingFrame [] rfl

end AzureSignalR.ServiceConnections
