import AzureSignalR.Common.BinaryMessageParser
import AzureSignalR.Library.Batches
import AzureSignalR.Library.Framing
import AzureSignalR.Library.Pipe

/-!
Contract: how the emulator reads the messages of a client, as `HubProxyHandler` does.

Owns: `TryParse` with its binders, `TryGetPayload`, the loop `DispatchMessagesAsync` over the
reads of a pipe, and when it leaves no complete message behind.

Does not own: the hub protocol and the upstream handler, which are parameters; the client timeout.
-/

set_option autoImplicit false

namespace AzureSignalR.Emulator.HubProxyHandler

open Library Library.Batches

/-! ## Messages -/

/-- `InvocationMessage` of the hub protocol. `content` is what else it has. -/
structure InvocationMessage (A : Type) where
  target : String
  invocationId : Option String
  content : A
deriving DecidableEq, Repr

/-- What the loop distinguishes of a `HubMessage`. -/
inductive HubMessage (A : Type) where
  | invocation (message : InvocationMessage A)
  /-- `InvocationBindingFailureMessage`. -/
  | bindingFailure
  | other
deriving DecidableEq, Repr

namespace HubMessage

variable {A : Type}

def isBindingFailure : HubMessage A → Bool
  | .bindingFailure => true
  | _ => false

def asInvocation : HubMessage A → Option (InvocationMessage A)
  | .invocation message => some message
  | _ => none

end HubMessage

/-- `ServerlessProtocol.InvocationMessage`. -/
structure ServerlessInvocation where
  payload : Bytes
  target : String
  invocationId : Option String
deriving DecidableEq, Repr

/-- It binds an invocation with so many arguments. -/
structure InvocationBinder where
  parameterCount : Nat
deriving DecidableEq, Repr

/-- `InvocationBinder.Instance`. -/
def binders : List InvocationBinder :=
  [⟨0⟩, ⟨1⟩, ⟨2⟩, ⟨3⟩, ⟨4⟩, ⟨5⟩, ⟨6⟩, ⟨7⟩, ⟨8⟩, ⟨9⟩, ⟨10⟩]

/-- The class of a hub protocol. -/
inductive ProtocolType where
  | jsonHubProtocol
  | messagePackHubProtocol
  | other (name : String)
deriving DecidableEq, Repr

structure HubProtocol (A : Type) where
  type : ProtocolType
  /-- The buffer behind what it has consumed, and the message when it returns true. -/
  tryParseMessage :
    Bytes → InvocationBinder → Except AzureSignalR.Exn (Bytes × Option (HubMessage A))
  getMessageBytes : InvocationMessage A → Bytes
  tryParseMessage_nil : ∀ binder, tryParseMessage [] binder = .ok ([], none)
  /-- Every message takes a byte. -/
  length_lt : ∀ {input binder rest message},
    tryParseMessage input binder = .ok (rest, some message) → rest.length < input.length

section Loop

variable {A : Type} (protocol : HubProtocol A)

/-- The `foreach` of `TryParse`. `seq` is what the binder before has left. -/
def tryParseWith (buffer : Bytes) :
    (seq : Bytes) → List InvocationBinder → Except AzureSignalR.Exn (Bytes × Option (HubMessage A))
  | seq, [] => .ok (seq, none)
  | _, binder :: others =>
      match protocol.tryParseMessage buffer binder with
      | .error error => .error error
      | .ok (seq, none) => tryParseWith buffer seq others
      | .ok (seq, some message) =>
          if message.isBindingFailure then tryParseWith buffer seq others
          else .ok (seq, some message)

/-- The buffer it leaves, and the message when it returns true. -/
def tryParse (buffer : Bytes) : Except AzureSignalR.Exn (Bytes × Option (HubMessage A)) :=
  tryParseWith protocol buffer buffer binders

def recordSeparator : UInt8 := 0x1e

/-- `TryGetPayload`: `none` when it returns false. -/
def tryGetPayload (message : InvocationMessage A) : Except AzureSignalR.Exn (Option Bytes) :=
  match protocol.type with
  | .jsonHubProtocol =>
      .ok ((splitAtSeparator recordSeparator (protocol.getMessageBytes message)).map Prod.fst)
  | .messagePackHubProtocol =>
      (BinaryMessage.tryParseMessage (protocol.getMessageBytes message)).map
        (Option.map Prod.fst)
  | .other name => .error (.argument (name ++ " is not supported"))

/-- What the loop has done so far: the invocations it has handed to the upstream handler and the
responses it has written to the client. -/
structure Progress where
  handed : List ServerlessInvocation := []
  written : List Bytes := []
deriving DecidableEq, Repr

/-- `WriteMessageAsync` of the upstream handler, for the last of the invocations handed to it. -/
abbrev Upstream := List ServerlessInvocation → Except AzureSignalR.Exn ReadOnlySequence

variable (upstream : Upstream)

/-- The body of the inner loop, with the exception that leaves it. -/
def dispatch (message : HubMessage A) (progress : Progress) :
    Progress × Option AzureSignalR.Exn :=
  match message with
  | .invocation invocationMessage =>
      match tryGetPayload protocol invocationMessage with
      | .error error => (progress, some error)
      | .ok none => (progress, none)
      | .ok (some payload) =>
          let handed := progress.handed ++
            [⟨payload, invocationMessage.target, invocationMessage.invocationId⟩]
          match upstream handed with
          | .error error => ({ progress with handed := handed }, some error)
          | .ok response =>
              if 0 < response.length then (⟨handed, progress.written ++ [response.first]⟩, none)
              else ({ progress with handed := handed }, none)
  | _ => (progress, none)

/-- The loop `while (TryParse(...))`: the buffer it leaves and the exception that ends it. Every
message takes a byte, so the length of the buffer bounds the recursion. -/
def dispatchFrom : (bound : Nat) → (buffer : Bytes) → Progress →
    Bytes × Progress × Option AzureSignalR.Exn
  | 0, buffer, progress => (buffer, progress, none)
  | bound + 1, buffer, progress =>
      match tryParse protocol buffer with
      | .error error => (buffer, progress, some error)
      | .ok (left, none) => (left, progress, none)
      | .ok (left, some message) =>
          match dispatch protocol upstream message progress with
          | (progress, some error) => (left, progress, some error)
          | (progress, none) => dispatchFrom bound left progress

/-- The inner loop is entered for a buffer that is not empty. -/
def dispatchBuffer (buffer : Bytes) (progress : Progress) :
    Bytes × Progress × Option AzureSignalR.Exn :=
  if buffer = [] then (buffer, progress, none)
  else dispatchFrom protocol upstream (buffer.length + 1) buffer progress

inductive Phase where
  /-- In `ReadAsync`. -/
  | waiting
  | returned
  | threw (error : AzureSignalR.Exn)
deriving DecidableEq, Repr

/-- Where the loop stands when the inner loop has left `left` without an exception. -/
def phaseAfter (isCompleted : Bool) (left : Bytes) : Phase :=
  if isCompleted then
    if left = [] then .returned
    else .threw (.invalidData "Connection terminated while reading a message.")
  else .waiting

/-- One iteration of `DispatchMessagesAsync`. -/
def dispatchMessages (result : ReadResult UInt8) (progress : Progress) :
    Bytes × Progress × Phase :=
  if result.isCanceled then (result.buffer, progress, .returned)
  else
    match dispatchBuffer protocol upstream result.buffer progress with
    | (left, progress, some error) => (left, progress, .threw error)
    | (left, progress, none) =>
        (left, progress, phaseAfter result.isCompleted left)

structure DispatchState where
  input : Pipe UInt8 := {}
  progress : Progress := {}
  phase : Phase := .waiting
deriving DecidableEq, Repr

/-- The client's bytes `piece` arrive, with the end of the connection when `completed`. -/
def arrive (input : Pipe UInt8) (piece : Bytes) (completed : Bool) : Pipe UInt8 :=
  { input.write piece with completed := completed }

/-- They arrive, the read returns and the iteration runs to its `AdvanceTo`. -/
def read (state : DispatchState) (piece : Bytes) (completed : Bool) : DispatchState :=
  let input := arrive state.input piece completed
  match state.phase with
  | .waiting =>
      match dispatchMessages protocol upstream input.readResult state.progress with
      | (left, progress, phase) => ⟨input.advanceTo left 0, progress, phase⟩
  | _ => { state with input := input }

def readAll (pieces : List Bytes) : DispatchState :=
  pieces.foldl (fun state piece => read protocol upstream state piece false) {}

end Loop

/-! ## Streams of complete messages -/

section Messages

variable {A : Type} (protocol : HubProtocol A)

/-- A message on the wire: the protocol takes exactly its bytes, also when they do not bind, and
waits while one of them is missing. -/
structure CompleteMessage where
  bytes : Bytes
  reading : InvocationBinder → HubMessage A
  parses : ∀ binder more,
    protocol.tryParseMessage (bytes ++ more) binder = .ok (more, some (reading binder))
  waits : ∀ binder part rest, bytes = part ++ rest → rest ≠ [] →
    protocol.tryParseMessage part binder = .ok (part, none)

namespace CompleteMessage

variable {protocol} (message : CompleteMessage protocol)

/-- What the first binder reads that can bind the message. -/
def bound : Option (HubMessage A) :=
  (binders.map message.reading).find? fun reading => !reading.isBindingFailure

/-- None of the binders can bind it. -/
def Unbindable : Prop := message.bound = none

instance : Decidable message.Unbindable := inferInstanceAs (Decidable (_ = none))

/-- The invocation that it is when some binder can bind it. -/
def invocation : Option (InvocationMessage A) := message.bound.bind HubMessage.asInvocation

def size : Nat := message.bytes.length

theorem size_pos : 0 < message.size := by
  have shorter := protocol.length_lt (message.parses ⟨0⟩ [])
  rw [List.append_nil] at shorter
  exact shorter

end CompleteMessage

variable {protocol}

def stream (messages : List (CompleteMessage protocol)) : Bytes :=
  messages.flatMap CompleteMessage.bytes

@[simp]
theorem stream_nil : stream ([] : List (CompleteMessage protocol)) = [] := rfl

@[simp]
theorem stream_cons (message : CompleteMessage protocol)
    (messages : List (CompleteMessage protocol)) :
    stream (message :: messages) = message.bytes ++ stream messages := rfl

@[simp]
theorem stream_append (messages others : List (CompleteMessage protocol)) :
    stream (messages ++ others) = stream messages ++ stream others :=
  List.flatMap_append

theorem length_stream (messages : List (CompleteMessage protocol)) :
    (stream messages).length = extent CompleteMessage.size messages := by
  induction messages with
  | nil => rfl
  | cons message messages inductionHypothesis =>
      rw [stream_cons, List.length_append, inductionHypothesis, extent_cons, CompleteMessage.size]

theorem stream_eq_nil {messages : List (CompleteMessage protocol)} :
    stream messages = [] ↔ messages = [] := by
  constructor
  · intro empty
    cases messages with
    | nil => rfl
    | cons message messages =>
        have positive := message.size_pos
        have length := length_stream (message :: messages)
        rw [empty, extent_cons, List.length_nil] at length
        omega
  · rintro rfl
    rfl

/-! ## `TryParse` on a complete message -/

theorem tryParseWith_parses (message : CompleteMessage protocol) (more seq : Bytes)
    (others : List InvocationBinder) :
    tryParseWith protocol (message.bytes ++ more) seq others =
      match (others.map message.reading).find? fun reading => !reading.isBindingFailure with
      | some reading => .ok (more, some reading)
      | none => .ok (if others = [] then seq else more, none) := by
  induction others generalizing seq with
  | nil => rfl
  | cons binder others inductionHypothesis =>
      rw [tryParseWith, message.parses]
      show (if (message.reading binder).isBindingFailure then _ else _) = _
      rw [List.map_cons, List.find?_cons]
      cases fails : (message.reading binder).isBindingFailure with
      | false => rfl
      | true =>
          rw [if_pos rfl, inductionHypothesis]
          show _ = match (others.map message.reading).find? _ with
            | some reading => _
            | none => _
          split
          · rfl
          · simp

theorem tryParse_bound {message : CompleteMessage protocol} {reading : HubMessage A}
    (isBound : message.bound = some reading) (more : Bytes) :
    tryParse protocol (message.bytes ++ more) = .ok (more, some reading) := by
  rw [tryParse, tryParseWith_parses]
  rw [CompleteMessage.bound] at isBound
  rw [isBound]

/-- The message is consumed, and the loop ends. -/
theorem tryParse_unbindable {message : CompleteMessage protocol} (unbindable : message.Unbindable)
    (more : Bytes) : tryParse protocol (message.bytes ++ more) = .ok (more, none) := by
  rw [tryParse, tryParseWith_parses]
  rw [CompleteMessage.Unbindable, CompleteMessage.bound] at unbindable
  rw [unbindable]
  rfl

theorem tryParseWith_waits {part seq : Bytes} (same : seq = part)
    (waits : ∀ binder, protocol.tryParseMessage part binder = .ok (part, none))
    (others : List InvocationBinder) :
    tryParseWith protocol part seq others = .ok (part, none) := by
  induction others generalizing seq with
  | nil => rw [tryParseWith, same]
  | cons binder others inductionHypothesis =>
      rw [tryParseWith, waits]
      exact inductionHypothesis rfl

/-- What is left of a stream when its complete messages are taken away. -/
def Incomplete (protocol : HubProtocol A) (part : Bytes) : Prop :=
  tryParse protocol part = .ok (part, none)

theorem incomplete_nil : Incomplete protocol [] :=
  tryParseWith_waits rfl protocol.tryParseMessage_nil binders

theorem CompleteMessage.incomplete (message : CompleteMessage protocol) {part rest : Bytes}
    (cut : message.bytes = part ++ rest) (missing : rest ≠ []) : Incomplete protocol part :=
  tryParseWith_waits rfl (fun binder => message.waits binder part rest cut missing) binders

end Messages

/-! ## What is handed to the upstream handler -/

section Handed

variable {A : Type} (protocol : HubProtocol A)

/-- The protocol writes the invocation as one frame of a format that `TryGetPayload` knows. -/
def Framed (message : InvocationMessage A) : Prop :=
  match protocol.type with
  | .jsonHubProtocol => recordSeparator ∈ protocol.getMessageBytes message
  | .messagePackHubProtocol =>
      ∃ frame : BinaryMessage.Frame, frame.Addressable ∧
        protocol.getMessageBytes message = frame.bytes
  | .other _ => False

def payload (message : InvocationMessage A) : Bytes :=
  match tryGetPayload protocol message with
  | .ok (some payload) => payload
  | _ => []

theorem tryGetPayload_framed {message : InvocationMessage A} (framed : Framed protocol message) :
    tryGetPayload protocol message = .ok (some (payload protocol message)) := by
  suffices found : ∃ found, tryGetPayload protocol message = .ok (some found) by
    obtain ⟨found, isFound⟩ := found
    rw [payload, isFound]
  rw [Framed] at framed
  rw [tryGetPayload]
  cases isType : protocol.type with
  | jsonHubProtocol =>
      rw [isType] at framed
      obtain ⟨before, behind, whole, separates⟩ := List.eq_append_cons_of_mem framed
      refine ⟨before, ?_⟩
      show Except.ok (Option.map _ (splitAtSeparator _ (protocol.getMessageBytes message))) = _
      rw [whole, splitAtSeparator_append separates]
      rfl
  | messagePackHubProtocol =>
      rw [isType] at framed
      obtain ⟨frame, addressable, written⟩ := framed
      refine ⟨frame.body, ?_⟩
      have parsed := BinaryMessage.tryParseMessage_frame frame []
      rw [if_pos addressable, List.append_nil] at parsed
      show Except.map _ (BinaryMessage.tryParseMessage (protocol.getMessageBytes message)) = _
      rw [written, parsed]
      rfl
  | other name =>
      rw [isType] at framed
      exact framed.elim

def handOver (message : InvocationMessage A) : ServerlessInvocation :=
  ⟨payload protocol message, message.target, message.invocationId⟩

variable {protocol}

/-- The bindable invocations, as the upstream handler is to get them. -/
def handedFor (messages : List (CompleteMessage protocol)) : List ServerlessInvocation :=
  (messages.filterMap CompleteMessage.invocation).map (handOver protocol)

@[simp]
theorem handedFor_append (messages others : List (CompleteMessage protocol)) :
    handedFor (messages ++ others) = handedFor messages ++ handedFor others := by
  simp [handedFor]

theorem handedFor_isPrefix {messages others : List (CompleteMessage protocol)}
    (isPrefix : messages <+: others) : handedFor messages <+: handedFor others := by
  obtain ⟨rest, rfl⟩ := isPrefix
  rw [handedFor_append]
  exact List.prefix_append _ _

theorem handedFor_cons (message : CompleteMessage protocol)
    (messages : List (CompleteMessage protocol)) :
    handedFor (message :: messages) = handedFor [message] ++ handedFor messages :=
  handedFor_append [message] messages

theorem handedFor_unbindable {message : CompleteMessage protocol}
    (unbindable : message.Unbindable) : handedFor [message] = [] := by
  have none : message.invocation = none := by
    rw [CompleteMessage.Unbindable] at unbindable
    rw [CompleteMessage.invocation, unbindable]
    rfl
  simp [handedFor, none]

/-- The protocol frames every bindable invocation. -/
def AllFramed (messages : List (CompleteMessage protocol)) : Prop :=
  ∀ message ∈ messages, ∀ invocation, message.invocation = some invocation →
    Framed protocol invocation

/-- The upstream handler throws for none of the invocations. -/
def Answered (upstream : Upstream) (handed : List ServerlessInvocation) : Prop :=
  ∀ front, front <+: handed → front ≠ [] → ∃ response, upstream front = .ok response

namespace Answered

variable {upstream : Upstream} {handed others : List ServerlessInvocation}

theorem nil : Answered upstream [] := by
  intro front isPrefix nonempty
  exact absurd (List.prefix_nil.mp isPrefix) nonempty

theorem mono (answered : Answered upstream handed) (isPrefix : others <+: handed) :
    Answered upstream others :=
  fun front isFront nonempty => answered front (isFront.trans isPrefix) nonempty

theorem snoc (answered : Answered upstream handed) {invocation : ServerlessInvocation}
    {response : ReadOnlySequence} (answers : upstream (handed ++ [invocation]) = .ok response) :
    Answered upstream (handed ++ [invocation]) := by
  intro front isFront nonempty
  rcases List.prefix_concat_iff.mp isFront with rfl | shorter
  · exact ⟨response, answers⟩
  · exact answered front shorter nonempty

end Answered

end Handed

/-! ## The loop -/

section Run

variable {A : Type} {protocol : HubProtocol A} {upstream : Upstream}

theorem dispatch_invocation {message : InvocationMessage A} (framed : Framed protocol message)
    (progress : Progress) {response : ReadOnlySequence}
    (answers : upstream (progress.handed ++ [handOver protocol message]) = .ok response) :
    ∃ written, dispatch protocol upstream (.invocation message) progress =
      (⟨progress.handed ++ [handOver protocol message], written⟩, none) := by
  unfold dispatch
  rw [handOver] at answers ⊢
  simp only [tryGetPayload_framed protocol framed, answers]
  split_ifs
  · exact ⟨_, rfl⟩
  · exact ⟨_, rfl⟩

theorem dispatch_bound {message : CompleteMessage protocol} {reading : HubMessage A}
    (isBound : message.bound = some reading) (progress : Progress)
    (framed : AllFramed [message])
    (answered : Answered upstream (progress.handed ++ handedFor [message])) :
    ∃ written, dispatch protocol upstream reading progress =
      (⟨progress.handed ++ handedFor [message], written⟩, none) := by
  have isInvocation : message.invocation = reading.asInvocation := by
    rw [CompleteMessage.invocation, isBound]
    rfl
  cases reading with
  | invocation invocationMessage =>
      have isFramed := framed message (List.mem_singleton_self message) _ isInvocation
      have isHanded : handedFor [message] = [handOver protocol invocationMessage] := by
        simp [handedFor, isInvocation, HubMessage.asInvocation]
      rw [isHanded] at answered ⊢
      obtain ⟨response, answers⟩ := answered _ List.prefix_rfl (by simp)
      exact dispatch_invocation isFramed progress answers
  | bindingFailure =>
      have none : handedFor [message] = [] := by
        simp [handedFor, isInvocation, HubMessage.asInvocation]
      rw [none, List.append_nil]
      exact ⟨progress.written, rfl⟩
  | other =>
      have none : handedFor [message] = [] := by
        simp [handedFor, isInvocation, HubMessage.asInvocation]
      rw [none, List.append_nil]
      exact ⟨progress.written, rfl⟩

/-- What the loop does not get to: the messages behind the first one that no binder can bind. -/
def leftBehind : List (CompleteMessage protocol) → List (CompleteMessage protocol)
  | [] => []
  | message :: messages => if message.Unbindable then messages else leftBehind messages

/-- What the loop gets to. -/
def reached : List (CompleteMessage protocol) → List (CompleteMessage protocol)
  | [] => []
  | message :: messages => if message.Unbindable then [message] else message :: reached messages

theorem reached_append_leftBehind (messages : List (CompleteMessage protocol)) :
    reached messages ++ leftBehind messages = messages := by
  induction messages with
  | nil => rfl
  | cons message messages inductionHypothesis =>
      rw [reached, leftBehind]
      split_ifs
      · rfl
      · rw [List.cons_append, inductionHypothesis]

theorem leftBehind_eq_nil {messages : List (CompleteMessage protocol)} :
    leftBehind messages = [] ↔ NothingBehind CompleteMessage.Unbindable messages := by
  induction messages with
  | nil =>
      refine ⟨fun _ front item behind split => ?_, fun _ => rfl⟩
      simp at split
  | cons message messages inductionHypothesis =>
      rw [leftBehind, nothingBehind_cons]
      split_ifs with unbindable
      · refine ⟨?_, fun nothing => nothing.1 unbindable⟩
        rintro rfl
        exact ⟨fun _ => rfl, inductionHypothesis.1 rfl⟩
      · rw [inductionHypothesis]
        exact ⟨fun nothing => ⟨fun isUnbindable => absurd isUnbindable unbindable, nothing⟩,
          And.right⟩

/-- The inner loop on complete messages and the beginning of the next. -/
theorem dispatchFrom_batch {messages : List (CompleteMessage protocol)} {part : Bytes}
    (incomplete : Incomplete protocol part) (framed : AllFramed messages) (progress : Progress)
    (answered : Answered upstream (progress.handed ++ handedFor (reached messages)))
    {bound : Nat} (enough : (stream messages ++ part).length < bound) :
    ∃ written, dispatchFrom protocol upstream bound (stream messages ++ part) progress =
      (stream (leftBehind messages) ++ part,
        ⟨progress.handed ++ handedFor (reached messages), written⟩, none) := by
  induction messages generalizing progress bound with
  | nil =>
      cases bound with
      | zero => omega
      | succ bound =>
          refine ⟨progress.written, ?_⟩
          rw [stream_nil, List.nil_append, dispatchFrom, incomplete]
          show _ = (_, Progress.mk (progress.handed ++ []) _, _)
          rw [List.append_nil]
          rfl
  | cons message messages inductionHypothesis =>
      cases bound with
      | zero => omega
      | succ bound =>
          have positive := message.size_pos
          rw [stream_cons, List.append_assoc, List.length_append] at enough
          rw [stream_cons, List.append_assoc, dispatchFrom, leftBehind, reached]
          rw [reached] at answered
          cases isBound : message.bound with
          | none =>
              have unbindable : message.Unbindable := isBound
              rw [tryParse_unbindable unbindable, if_pos unbindable, if_pos unbindable,
                handedFor_unbindable unbindable, List.append_nil]
              exact ⟨progress.written, rfl⟩
          | some reading =>
              have bindable : ¬ message.Unbindable := by
                rw [CompleteMessage.Unbindable, isBound]
                exact nofun
              rw [if_neg bindable, handedFor_cons, ← List.append_assoc] at answered
              have first : Answered upstream (progress.handed ++ handedFor [message]) :=
                answered.mono (List.prefix_append _ _)
              obtain ⟨written, dispatched⟩ := dispatch_bound isBound progress
                (fun other member => framed other
                  (List.mem_singleton.mp member ▸ List.mem_cons_self))
                first
              rw [CompleteMessage.size] at positive
              obtain ⟨others, rest⟩ := inductionHypothesis
                (fun other member => framed other (List.mem_cons_of_mem _ member))
                ⟨progress.handed ++ handedFor [message], written⟩ answered (show _ < bound by omega)
              refine ⟨others, ?_⟩
              rw [tryParse_bound isBound, if_neg bindable, if_neg bindable]
              simp only [dispatched]
              rw [rest, handedFor_cons message (reached messages), List.append_assoc]

/-! ## The upstream handler has answered -/

theorem dispatch_answered {message : HubMessage A} {progress after : Progress}
    (answered : Answered upstream progress.handed)
    (fine : dispatch protocol upstream message progress = (after, none)) :
    Answered upstream after.handed := by
  unfold dispatch at fine
  split at fine
  next invocationMessage =>
    split at fine
    · cases fine
    · cases fine
      exact answered
    · simp only at fine
      split at fine
      · cases fine
      next response answers =>
        split_ifs at fine
        · cases fine
          exact answered.snoc answers
        · cases fine
          exact answered.snoc answers
  · cases fine
    exact answered

theorem dispatchFrom_answered {bound : Nat} {buffer left : Bytes} {progress after : Progress}
    (answered : Answered upstream progress.handed)
    (fine : dispatchFrom protocol upstream bound buffer progress = (left, after, none)) :
    Answered upstream after.handed := by
  induction bound generalizing buffer progress with
  | zero =>
      cases fine
      exact answered
  | succ bound inductionHypothesis =>
      unfold dispatchFrom at fine
      split at fine
      · cases fine
      · cases fine
        exact answered
      · split at fine
        · cases fine
        next middle dispatched =>
          exact inductionHypothesis (dispatch_answered answered dispatched) fine

theorem dispatchBuffer_answered {buffer left : Bytes} {progress after : Progress}
    (answered : Answered upstream progress.handed)
    (fine : dispatchBuffer protocol upstream buffer progress = (left, after, none)) :
    Answered upstream after.handed := by
  unfold dispatchBuffer at fine
  split_ifs at fine
  · cases fine
    exact answered
  · exact dispatchFrom_answered answered fine

theorem dispatchMessages_answered {result : ReadResult UInt8} {progress after : Progress}
    {left : Bytes} {phase : Phase} (answered : Answered upstream progress.handed)
    (isAfter : dispatchMessages protocol upstream result progress = (left, after, phase))
    (fine : ∀ error, phase ≠ .threw error) : Answered upstream after.handed := by
  unfold dispatchMessages at isAfter
  split at isAfter
  · cases isAfter
    exact answered
  · split at isAfter
    next error dispatched =>
      cases isAfter
      exact absurd rfl (fine error)
    next dispatched =>
      cases isAfter
      exact dispatchBuffer_answered answered dispatched

theorem read_answered {state : DispatchState} {piece : Bytes} {completed : Bool}
    (answered : (∀ error, state.phase ≠ .threw error) → Answered upstream state.progress.handed)
    (fine : ∀ error, (read protocol upstream state piece completed).phase ≠ .threw error) :
    Answered upstream (read protocol upstream state piece completed).progress.handed := by
  unfold read at fine ⊢
  cases isPhase : state.phase with
  | waiting =>
      rw [isPhase] at fine answered
      exact dispatchMessages_answered (answered nofun) rfl fine
  | returned =>
      rw [isPhase] at answered
      exact answered nofun
  | threw error =>
      rw [isPhase] at fine
      exact absurd rfl (fine error)

theorem readAll_append (pieces : List Bytes) (piece : Bytes) :
    readAll protocol upstream (pieces ++ [piece]) =
      read protocol upstream (readAll protocol upstream pieces) piece false := by
  rw [readAll, List.foldl_append]
  rfl

theorem readAll_answered (pieces : List Bytes)
    (fine : ∀ error, (readAll protocol upstream pieces).phase ≠ .threw error) :
    Answered upstream (readAll protocol upstream pieces).progress.handed := by
  induction pieces using List.reverseRecOn with
  | nil => exact Answered.nil
  | append_singleton pieces piece inductionHypothesis =>
      rw [readAll_append] at fine ⊢
      exact read_answered inductionHypothesis fine

/-! ## One read of a stream -/

/-- The loop stands in `phase` and has consumed every message that is complete within the
`received` bytes of the stream; the invocations among them are handed over. -/
structure Settled (messages : List (CompleteMessage protocol)) (received : Nat) (phase : Phase)
    (state : DispatchState) : Prop where
  phase : state.phase = phase
  notCanceled : state.input.canceled = false
  buffered : (stream messages).take received =
    stream (within CompleteMessage.size received messages) ++ state.input.buffered
  handed : state.progress.handed = handedFor (within CompleteMessage.size received messages)

/-- What lies behind the complete messages is not one. -/
theorem incomplete_part {messages : List (CompleteMessage protocol)} {received : Nat}
    {part : Bytes} (split : (stream messages).take received =
      stream (within CompleteMessage.size received messages) ++ part) :
    Incomplete protocol part := by
  obtain ⟨rest, isRest⟩ := within_isPrefix CompleteMessage.size received messages
  cases rest with
  | nil =>
      have short := congrArg List.length split
      rw [List.append_nil] at isRest
      rw [isRest, List.length_append, List.length_take] at short
      have none : part = [] := List.length_eq_zero_iff.mp (by omega)
      rw [none]
      exact incomplete_nil
  | cons next rest =>
      have short := lt_of_within CompleteMessage.size isRest.symm
      have fits := extent_within CompleteMessage.size received messages
      have whole := congrArg stream isRest
      rw [stream_append, stream_cons] at whole
      rw [CompleteMessage.size] at short
      rw [← length_stream] at short fits
      rw [← whole, List.take_append, List.take_of_length_le fits, List.append_cancel_left_eq,
        List.take_append_of_le_length (by omega)] at split
      rw [← split]
      apply next.incomplete (List.take_append_drop _ next.bytes).symm
      intro none
      have length := congrArg List.length none
      rw [List.length_drop, List.length_nil] at length
      omega

theorem dispatchBuffer_batch {messages : List (CompleteMessage protocol)} {part : Bytes}
    (incomplete : Incomplete protocol part) (framed : AllFramed messages) (progress : Progress)
    (answered : Answered upstream (progress.handed ++ handedFor (reached messages))) :
    ∃ written, dispatchBuffer protocol upstream (stream messages ++ part) progress =
      (stream (leftBehind messages) ++ part,
        ⟨progress.handed ++ handedFor (reached messages), written⟩, none) := by
  rw [dispatchBuffer]
  split_ifs with empty
  · obtain ⟨noStream, rfl⟩ := List.append_eq_nil_iff.mp empty
    obtain rfl := stream_eq_nil.1 noStream
    refine ⟨progress.written, ?_⟩
    show ([], progress, none) = ([], Progress.mk (progress.handed ++ []) _, none)
    rw [List.append_nil]
  · exact dispatchFrom_batch incomplete framed progress answered (Nat.lt_succ_self _)

theorem dispatchMessages_of_buffer {result : ReadResult UInt8} {progress after : Progress}
    {left : Bytes} (notCanceled : result.isCanceled = false)
    (dispatched : dispatchBuffer protocol upstream result.buffer progress = (left, after, none)) :
    dispatchMessages protocol upstream result progress =
      (left, after, phaseAfter result.isCompleted left) := by
  unfold dispatchMessages
  simp only [notCanceled, dispatched]
  rfl

theorem read_waiting {state : DispatchState} (isWaiting : state.phase = .waiting)
    (notCanceled : state.input.canceled = false) {piece left : Bytes} {after : Progress}
    (completed : Bool)
    (dispatched : dispatchBuffer protocol upstream (state.input.buffered ++ piece)
      state.progress = (left, after, none)) :
    read protocol upstream state piece completed =
      ⟨(arrive state.input piece completed).advanceTo left 0, after,
        phaseAfter completed left⟩ := by
  have outcome : dispatchMessages protocol upstream
      (arrive state.input piece completed).readResult state.progress =
        (left, after, phaseAfter completed left) :=
    dispatchMessages_of_buffer notCanceled dispatched
  unfold read
  simp only [isWaiting, outcome]

theorem exists_part (messages : List (CompleteMessage protocol)) (received : Nat) :
    ∃ part, (stream messages).take received =
      stream (within CompleteMessage.size received messages) ++ part := by
  obtain ⟨rest, isRest⟩ := within_isPrefix CompleteMessage.size received messages
  have fits := extent_within CompleteMessage.size received messages
  rw [← length_stream] at fits
  have whole := congrArg stream isRest
  rw [stream_append] at whole
  rw [← whole, List.take_append, List.take_of_length_le fits]
  exact ⟨_, rfl⟩

/-- A read while the loop waits, in terms of the batch of messages that it completes. -/
theorem read_batch {messages : List (CompleteMessage protocol)} {received : Nat}
    {state : DispatchState} (framed : AllFramed messages)
    (answered : Answered upstream (handedFor messages))
    (settled : Settled messages received .waiting state) {piece : Bytes} (completed : Bool)
    (arrives : (stream messages).take (received + piece.length) =
      (stream messages).take received ++ piece) :
    ∃ part written, (stream messages).take (received + piece.length) =
        stream (within CompleteMessage.size (received + piece.length) messages) ++ part ∧
      read protocol upstream state piece completed =
        ⟨(arrive state.input piece completed).advanceTo (stream (leftBehind
            (batch CompleteMessage.size received (received + piece.length) messages)) ++ part) 0,
          ⟨handedFor (within CompleteMessage.size received messages) ++ handedFor (reached
            (batch CompleteMessage.size received (received + piece.length) messages)), written⟩,
          phaseAfter completed (stream (leftBehind (batch CompleteMessage.size received
            (received + piece.length) messages)) ++ part)⟩ := by
  have isBatch := within_eq_batch CompleteMessage.size (Nat.le_add_right received piece.length)
    messages
  have inMessages := within_isPrefix CompleteMessage.size (received + piece.length) messages
  obtain ⟨part, isPart⟩ := exists_part messages (received + piece.length)
  have incomplete := incomplete_part isPart
  have isBuffer : state.input.buffered ++ piece = stream
      (batch CompleteMessage.size received (received + piece.length) messages) ++ part := by
    rw [arrives, settled.buffered, isBatch, stream_append, List.append_assoc, List.append_assoc,
      List.append_cancel_left_eq] at isPart
    exact isPart
  generalize batch CompleteMessage.size received (received + piece.length) messages = fresh
    at isBatch isBuffer
  rw [isBatch] at inMessages
  have framedFresh : AllFramed fresh := fun message member =>
    framed message (inMessages.subset (List.mem_append_right _ member))
  have answeredFresh : Answered upstream (state.progress.handed ++ handedFor (reached fresh)) := by
    rw [settled.handed, ← handedFor_append]
    apply answered.mono (handedFor_isPrefix _)
    apply List.IsPrefix.trans _ inMessages
    exact (List.prefix_append_right_inj _).mpr ⟨leftBehind fresh, reached_append_leftBehind fresh⟩
  obtain ⟨written, dispatched⟩ :=
    dispatchBuffer_batch incomplete framedFresh state.progress answeredFresh
  rw [← isBuffer] at dispatched
  refine ⟨part, written, isPart, ?_⟩
  rw [read_waiting settled.phase settled.notCanceled completed dispatched, settled.handed]

/-- What is left over is a part of a message exactly when the batch has nothing left behind. -/
theorem read_settled {messages : List (CompleteMessage protocol)} {received : Nat}
    {state : DispatchState} (framed : AllFramed messages)
    (answered : Answered upstream (handedFor messages))
    (settled : Settled messages received .waiting state) {piece : Bytes} (completed : Bool)
    (arrives : (stream messages).take (received + piece.length) =
      (stream messages).take received ++ piece)
    (atEnd : completed = true → (stream messages).length ≤ received + piece.length) :
    Settled messages (received + piece.length) (if completed then .returned else .waiting)
        (read protocol upstream state piece completed) ↔
      NothingBehind CompleteMessage.Unbindable
        (batch CompleteMessage.size received (received + piece.length) messages) := by
  obtain ⟨part, written, isPart, isRead⟩ := read_batch framed answered settled completed arrives
  have isBatch := within_eq_batch CompleteMessage.size (Nat.le_add_right received piece.length)
    messages
  rw [isRead, ← leftBehind_eq_nil]
  generalize batch CompleteMessage.size received (received + piece.length) messages = fresh
    at isBatch
  constructor
  · intro after
    have buffered := after.buffered
    rw [isPart, List.append_cancel_left_eq] at buffered
    have same : part = stream (leftBehind fresh) ++ part := buffered
    exact stream_eq_nil.1 (List.self_eq_append_left.mp same)
  · intro none
    have isReached := reached_append_leftBehind fresh
    rw [none, List.append_nil] at isReached
    rw [none, isReached]
    refine ⟨?_, rfl, isPart, ?_⟩
    · cases completed with
      | false => rfl
      | true =>
          have whole := atEnd rfl
          rw [List.take_of_length_le whole,
            within_all CompleteMessage.size (length_stream messages ▸ whole)] at isPart
          rw [List.self_eq_append_right.mp isPart]
          rfl
    · rw [isBatch, handedFor_append]

/-! ## Whole streams -/

/-- How the stream of the messages comes in: the reads before the client completes its side, and
the read that sees the completion. -/
structure Delivery (messages : List (CompleteMessage protocol)) where
  pieces : List Bytes
  last : Bytes
  whole : (pieces ++ [last]).flatten = stream messages

namespace Delivery

variable {messages : List (CompleteMessage protocol)} (delivery : Delivery messages)

def reads : List Bytes := delivery.pieces ++ [delivery.last]

/-- Whenever the loop waits it has consumed every complete message it has received and handed the
bindable invocations among them over, each once and in order; and it ends so without an error. -/
structure LeavesNothingBehind (upstream : Upstream) : Prop where
  waits : ∀ front, front <+: delivery.pieces →
    Settled messages front.flatten.length .waiting (readAll protocol upstream front)
  ends : Settled messages (stream messages).length .returned
    (read protocol upstream (readAll protocol upstream delivery.pieces) delivery.last true)

theorem extent_reads (pieces : List Bytes) :
    extent List.length pieces = pieces.flatten.length :=
  List.length_flatten.symm

theorem arrives {front : List Bytes} {piece : Bytes}
    (isFront : front ++ [piece] <+: delivery.reads) :
    (stream messages).take (front.flatten.length + piece.length) =
      (stream messages).take front.flatten.length ++ piece := by
  obtain ⟨rest, isRest⟩ := isFront
  have whole := delivery.whole
  rw [← reads, ← isRest, List.flatten_append, List.flatten_append, List.flatten_singleton] at whole
  rw [← whole, List.take_left' (by rw [List.length_append]), List.append_assoc, List.take_left]

theorem settled_start : Settled messages 0 .waiting {} := by
  have fits := extent_within CompleteMessage.size 0 messages
  rw [← length_stream] at fits
  have none : within CompleteMessage.size 0 messages = [] :=
    stream_eq_nil.1 (List.length_eq_zero_iff.mp (Nat.le_zero.mp fits))
  refine ⟨rfl, rfl, ?_, ?_⟩
  · rw [none]
    rfl
  · rw [none]
    rfl

/-- The batch of messages that a read completes. -/
def batch (messages : List (CompleteMessage protocol)) (front : List Bytes) (piece : Bytes) :
    List (CompleteMessage protocol) :=
  Batches.batch CompleteMessage.size front.flatten.length (front ++ [piece]).flatten.length messages

theorem read_settled_false (framed : AllFramed messages)
    (answered : Answered upstream (handedFor messages)) {front : List Bytes} {piece : Bytes}
    (isFront : front ++ [piece] <+: delivery.reads)
    (settled : Settled messages front.flatten.length .waiting (readAll protocol upstream front)) :
    Settled messages (front ++ [piece]).flatten.length .waiting
        (readAll protocol upstream (front ++ [piece])) ↔
      NothingBehind CompleteMessage.Unbindable (batch messages front piece) := by
  have next := read_settled framed answered settled false (delivery.arrives isFront) nofun
  rw [readAll_append, batch, List.flatten_append, List.flatten_singleton, List.length_append]
  exact next

theorem read_settled_true (framed : AllFramed messages)
    (answered : Answered upstream (handedFor messages))
    (settled : Settled messages delivery.pieces.flatten.length .waiting
      (readAll protocol upstream delivery.pieces)) :
    Settled messages (stream messages).length .returned
        (read protocol upstream (readAll protocol upstream delivery.pieces) delivery.last true) ↔
      NothingBehind CompleteMessage.Unbindable
        (batch messages delivery.pieces delivery.last) := by
  have whole := congrArg List.length delivery.whole
  have next := read_settled framed answered settled true (delivery.arrives List.prefix_rfl) (by
    intro _
    rw [← whole, List.flatten_append, List.flatten_singleton, List.length_append])
  rw [batch, ← whole, List.flatten_append, List.flatten_singleton, List.length_append]
  exact next

/-- The reads are read one after another. -/
theorem leavesNothingBehind_iff_batches (framed : AllFramed messages)
    (answered : Answered upstream (handedFor messages)) :
    delivery.LeavesNothingBehind upstream ↔ ∀ front piece, front ++ [piece] <+: delivery.reads →
      NothingBehind CompleteMessage.Unbindable (batch messages front piece) := by
  constructor
  · intro leavesNothing front piece isFront
    rcases List.prefix_concat_iff.mp isFront with isLast | inside
    · obtain ⟨rfl, isPiece⟩ := List.append_inj' isLast rfl
      cases isPiece
      exact (delivery.read_settled_true framed answered
        (leavesNothing.waits _ List.prefix_rfl)).1 leavesNothing.ends
    · have shorter := (List.prefix_append front [piece]).trans inside
      exact (delivery.read_settled_false framed answered isFront
        (leavesNothing.waits front shorter)).1 (leavesNothing.waits _ inside)
  · intro nothing
    have waits : ∀ front, front <+: delivery.pieces →
        Settled messages front.flatten.length .waiting (readAll protocol upstream front) := by
      intro front isFront
      induction front using List.reverseRecOn with
      | nil => exact settled_start
      | append_singleton front piece inductionHypothesis =>
          have isRead := isFront.trans (List.prefix_append delivery.pieces [delivery.last])
          exact (delivery.read_settled_false framed answered isRead (inductionHypothesis
            ((List.prefix_append front [piece]).trans isFront))).2 (nothing front piece isRead)
    refine ⟨waits, ?_⟩
    exact (delivery.read_settled_true framed answered (waits _ List.prefix_rfl)).2
      (nothing _ _ List.prefix_rfl)

/-- The loop ends without an exception only when the upstream handler has thrown none. -/
theorem LeavesNothingBehind.answered (leavesNothing : delivery.LeavesNothingBehind upstream) :
    Answered upstream (handedFor messages) := by
  have isHanded := leavesNothing.ends.handed
  rw [within_all CompleteMessage.size (Nat.le_of_eq (length_stream messages).symm)] at isHanded
  rw [← isHanded]
  apply read_answered (readAll_answered delivery.pieces)
  intro error thrown
  rw [leavesNothing.ends.phase] at thrown
  cases thrown

/-- Nothing is left behind exactly when, behind every message that no binder can bind, a read ends
before the next message is complete, and the upstream handler throws for none of the
invocations. -/
theorem leaves_nothing_behind_iff (framed : AllFramed messages) :
    delivery.LeavesNothingBehind upstream ↔
      Separated CompleteMessage.size List.length CompleteMessage.Unbindable messages
          delivery.reads ∧
        Answered upstream (handedFor messages) := by
  have whole : extent List.length delivery.reads = extent CompleteMessage.size messages := by
    rw [extent_reads, ← length_stream, ← delivery.whole, reads]
  have batches : _ ↔ Separated CompleteMessage.size List.length CompleteMessage.Unbindable
      messages delivery.reads :=
    separated_iff CompleteMessage.size List.length CompleteMessage.size_pos whole
  simp only [extent_reads] at batches
  rw [← batches]
  constructor
  · intro leavesNothing
    have answered := leavesNothing.answered
    exact ⟨(delivery.leavesNothingBehind_iff_batches framed answered).1 leavesNothing, answered⟩
  · rintro ⟨nothing, answered⟩
    exact (delivery.leavesNothingBehind_iff_batches framed answered).2 nothing

end Delivery

end Run

/-! ## A stream of JSON messages -/

/-- How many arguments stand between the brackets. -/
def argumentCount (text : Bytes) : Nat :=
  let arguments := ((text.dropWhile (· ≠ 0x5b)).drop 1).takeWhile (· ≠ 0x5d)
  if arguments = [] then 0 else arguments.count 0x2c + 1

def sampleReading (text : Bytes) (binder : InvocationBinder) : HubMessage Bytes :=
  if argumentCount text = binder.parameterCount then .invocation ⟨"Draw", none, text⟩
  else .bindingFailure

/-- The JSON protocol on invocations of one target with digits as arguments. -/
def sampleProtocol : HubProtocol Bytes where
  type := .jsonHubProtocol
  tryParseMessage input binder :=
    match splitAtSeparator recordSeparator input with
    | none => .ok (input, none)
    | some (text, rest) => .ok (rest, some (sampleReading text binder))
  getMessageBytes message := message.content ++ [recordSeparator]
  tryParseMessage_nil _ := rfl
  length_lt := by
    intro input binder rest message parsed
    cases split : splitAtSeparator recordSeparator input with
    | none =>
        rw [split] at parsed
        cases parsed
    | some parts =>
        rw [split] at parsed
        cases parsed
        rw [(splitAtSeparator_some split).1]
        simp
        omega

def sampleMessage (text : Bytes) (separates : recordSeparator ∉ text) :
    CompleteMessage sampleProtocol where
  bytes := text ++ [recordSeparator]
  reading := sampleReading text
  parses binder more := by
    show (match splitAtSeparator recordSeparator (text ++ [recordSeparator] ++ more) with
      | none => _
      | some (text, rest) => _) = _
    rw [List.append_assoc, List.singleton_append, splitAtSeparator_append separates]
  waits binder part rest cut missing := by
    have inside : recordSeparator ∉ part := by
      have isPrefix : part <+: text ++ [recordSeparator] := ⟨rest, cut.symm⟩
      rcases List.prefix_concat_iff.mp isPrefix with whole | shorter
      · rw [whole, List.self_eq_append_right] at cut
        exact absurd cut missing
      · exact fun member => separates (shorter.subset member)
    show (match splitAtSeparator recordSeparator part with
      | none => _
      | some (text, rest) => _) = _
    rw [splitAtSeparator_eq_none.2 inside]

def ascii (text : String) : Bytes := text.toList.map fun char => UInt8.ofNat char.toNat

/-- `{"type":1,"target":"Draw","arguments":[0,...,0]}`. -/
def drawText (count : Nat) : Bytes :=
  ascii "\x7b\"type\":1,\"target\":\"Draw\",\"arguments\":[" ++
    (List.replicate count 0x30).intersperse 0x2c ++ ascii "]\x7d"

def draw (count : Nat) (separates : recordSeparator ∉ drawText count) :
    CompleteMessage sampleProtocol := sampleMessage (drawText count) separates

def drawEleven : CompleteMessage sampleProtocol := draw 11 (by decide)

def drawNothing : CompleteMessage sampleProtocol := draw 0 (by decide)

theorem sampleFramed (messages : List (CompleteMessage sampleProtocol)) : AllFramed messages := by
  intro message member invocation isInvocation
  show recordSeparator ∈ invocation.content ++ [recordSeparator]
  exact List.mem_append_right _ (List.mem_singleton_self _)

namespace Delivery

/-- Both messages and the completion in one read. -/
def together : Delivery [drawEleven, drawNothing] where
  pieces := []
  last := drawEleven.bytes ++ drawNothing.bytes
  whole := rfl

/-- One message in each read. -/
def apart : Delivery [drawEleven, drawNothing] where
  pieces := [drawEleven.bytes]
  last := drawNothing.bytes
  whole := rfl

/-- The invocation behind the one that no binder can bind is never handed over, and the loop ends
with an exception. -/
theorem together_throws : ¬ together.LeavesNothingBehind fun _ => .ok ⟨[]⟩ := by
  intro leavesNothing
  have returned := leavesNothing.ends.phase
  revert returned
  decide

theorem apart_leaves_nothing_behind : apart.LeavesNothingBehind fun _ => .ok ⟨[]⟩ := by
  refine (apart.leaves_nothing_behind_iff (sampleFramed _)).2 ⟨?_, fun _ _ _ => ⟨_, rfl⟩⟩
  intro before item next behind split _
  have short := congrArg List.length split
  simp only [List.length_append, List.length_cons, List.length_nil] at short
  obtain rfl : before = [] := List.length_eq_zero_iff.mp (by omega)
  cases split
  exact ⟨[drawEleven.bytes], List.prefix_append _ _, by decide, by decide⟩

end Delivery

end AzureSignalR.Emulator.HubProxyHandler
