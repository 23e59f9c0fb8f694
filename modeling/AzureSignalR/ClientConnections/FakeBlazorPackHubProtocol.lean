import AzureSignalR.Common.BinaryMessageParser
import AzureSignalR.Serverless.MessagePackValue

/-!
Contract: the protocol that stands in for BlazorPack, and the frames that pass through it.

Owns: `FakeBlazorPackHubProtocol.TryParseMessage`, the inner loop of
`ProcessOutgoingMessagesAsync` over it, and which frames it lets through.

Does not own: pauses and failures of the loop, which stop it before any frame.
-/

set_option autoImplicit false

namespace AzureSignalR.ClientConnections.FakeBlazorPackHubProtocol

open BinaryMessage Protocol.MessagePackFormat Serverless

inductive HubMessage where
  | invocation
  | close
  | data
deriving DecidableEq, Repr

/-- `switch (type)`. -/
def messageOf (type : UInt8) : Option HubMessage :=
  match type.toNat with
  | 1 | 2 | 3 | 4 | 5 => some .invocation
  | 7 => some .close
  | 6 => some .data
  | _ => none

/-- The message of the first two bytes of a payload; `none` returns false. -/
def classify (header type : UInt8) : Option HubMessage :=
  if 0x90 < header.toNat ∧ header.toNat < 0x9f ∧ type.toNat ≤ 128 then messageOf type else none

/-- `first`, of at least two bytes. -/
def firstOf (payload : ReadOnlySequence) : Except Exn Bytes :=
  if payload.first.length < 2 then
    match payload.slice 0 2 with
    | .error error => .error error
    | .ok front => .ok front.toList
  else .ok payload.first

/-- `TryParseMessage(ref input, binder, out message)`: the message, `none` when it returns false,
and the input, which has moved past the frame in both cases. -/
def tryParseMessage (input : ReadOnlySequence) :
    Except Exn (Option HubMessage × ReadOnlySequence) :=
  match BinaryMessageParser.tryParseMessage input with
  | .error error => .error error
  | .ok none => .ok (none, input)
  | .ok (some (payload, next)) =>
      match firstOf payload with
      | .error error => .error error
      | .ok (header :: type :: _) => .ok (classify header type, next)
      | .ok _ => .error .indexOutOfRange

/-- The inner loop of `ProcessOutgoingMessagesAsync`: what it forwards, and the buffer that it
leaves. Every frame takes a byte, so the length of the buffer bounds the recursion. -/
def forwardFrom : (bound : Nat) → ReadOnlySequence → List (HubMessage × Bytes) × ReadOnlySequence
  | 0, buffer => ([], buffer)
  | bound + 1, buffer =>
      if buffer.length = 0 then ([], buffer)
      else
        match tryParseMessage buffer with
        | .ok (some message, next) =>
            let (others, left) := forwardFrom bound next
            ((message, buffer.toList.take (buffer.length - next.length)) :: others, left)
        | _ => ([], buffer)

def forward (buffer : ReadOnlySequence) : List (HubMessage × Bytes) × ReadOnlySequence :=
  forwardFrom buffer.length buffer

/-! ## Frames -/

/-- A frame whose body is a MessagePack array that starts with an integer. -/
def StartsWith (type : Int) (body : Bytes) : Prop :=
  ∃ (count : Nat) (header integer rest : Bytes), 0 < count ∧
    SizeBytes arrayCodes count header ∧ IntegerBytes type integer ∧
      body = header ++ (integer ++ rest)

/-- The message types of the protocol. -/
def IsMessageType (type : Int) : Prop := 1 ≤ type ∧ type ≤ 7

/-- The bodies that the protocol lets through: an array header of one byte, of at most fourteen
elements, and a message type of one byte. -/
def Recognised : Bytes → Prop
  | header :: type :: _ =>
      (0x91 ≤ header.toNat ∧ header.toNat ≤ 0x9e) ∧ 1 ≤ type.toNat ∧ type.toNat ≤ 7
  | _ => False

/-! ## What the protocol does with a frame -/

theorem messageOf_some {type : UInt8} (low : 1 ≤ type.toNat) (high : type.toNat ≤ 7) :
    ∃ message, messageOf type = some message := by
  rw [messageOf]
  interval_cases type.toNat
  · exact ⟨_, rfl⟩
  · exact ⟨_, rfl⟩
  · exact ⟨_, rfl⟩
  · exact ⟨_, rfl⟩
  · exact ⟨_, rfl⟩
  · exact ⟨_, rfl⟩
  · exact ⟨_, rfl⟩

theorem bounds_of_messageOf {type : UInt8} {message : HubMessage}
    (isMessage : messageOf type = some message) : 1 ≤ type.toNat ∧ type.toNat ≤ 7 := by
  rw [messageOf] at isMessage
  split at isMessage
  next isType => omega
  next isType => omega
  next isType => omega
  next isType => omega
  next isType => omega
  next isType => omega
  next isType => omega
  next => cases isMessage

theorem classify_some_iff (header type : UInt8) (tail : Bytes) :
    (∃ message, classify header type = some message) ↔ Recognised (header :: type :: tail) := by
  constructor
  · rintro ⟨message, classified⟩
    rw [classify] at classified
    split at classified
    next inside => exact ⟨⟨by omega, by omega⟩, bounds_of_messageOf classified⟩
    next => cases classified
  · rintro ⟨⟨low, high⟩, atLeast, atMost⟩
    rw [classify, if_pos ⟨by omega, by omega, by omega⟩]
    exact messageOf_some atLeast atMost

theorem firstOf_short {payload : ReadOnlySequence} (short : payload.toList.length < 2) :
    firstOf payload = .error (.argumentOutOfRange "length") := by
  have isFirst := payload.first_prefix.length_le
  rw [payload.length_toList] at short isFirst
  rw [firstOf, if_pos (by omega), ReadOnlySequence.slice, if_neg (by omega), if_pos (by omega)]

/-- The first two bytes of a payload, wherever its segments end. -/
theorem firstOf_long {payload : ReadOnlySequence} {header type : UInt8} {tail : Bytes}
    (isPayload : payload.toList = header :: type :: tail) :
    ∃ others, firstOf payload = .ok (header :: type :: others) := by
  have isLength := payload.length_toList
  rw [isPayload, List.length_cons, List.length_cons] at isLength
  rw [firstOf]
  split_ifs with short
  · rw [ReadOnlySequence.slice_eq (by omega)]
    refine ⟨[], ?_⟩
    show Except.ok ((payload.drop 0).take 2).toList = _
    rw [Library.Segments.toList_take, Library.Segments.toList_drop, isPayload]
    rfl
  · obtain ⟨behind, split⟩ := payload.first_prefix
    rw [isPayload] at split
    cases isFirst : payload.first with
    | nil =>
        rw [isFirst] at short
        exact absurd Nat.two_pos short
    | cons one others =>
        cases others with
        | nil =>
            rw [isFirst] at short
            exact absurd (Nat.lt_succ_self 1) short
        | cons two others =>
            rw [isFirst] at split
            cases split
            exact ⟨others, rfl⟩

section Frames

variable {input : ReadOnlySequence} {frame : Frame} {rest : Bytes}

theorem tryParseMessage_short (split : input.toList = frame.bytes ++ rest)
    (addressable : frame.Addressable) (short : frame.body.length < 2) :
    tryParseMessage input = .error (.argumentOutOfRange "length") := by
  have parsed := BinaryMessage.tryParseMessage_frame frame rest
  rw [if_pos addressable, ← split] at parsed
  obtain ⟨payload, next, answer, isBody, -⟩ := BinaryMessageParser.some_of_bytes parsed
  rw [tryParseMessage, answer]
  show (match firstOf payload with
    | .error error => Except.error error
    | .ok (header :: type :: _) => .ok (classify header type, next)
    | .ok _ => .error .indexOutOfRange) = _
  rw [firstOf_short (by rw [isBody]; exact short)]

theorem tryParseMessage_body {header type : UInt8} {tail : Bytes}
    (split : input.toList = frame.bytes ++ rest) (addressable : frame.Addressable)
    (isBody : frame.body = header :: type :: tail) :
    ∃ next, tryParseMessage input = .ok (classify header type, next) ∧ next.toList = rest := by
  have parsed := BinaryMessage.tryParseMessage_frame frame rest
  rw [if_pos addressable, ← split] at parsed
  obtain ⟨payload, next, answer, isPayload, isRest⟩ := BinaryMessageParser.some_of_bytes parsed
  obtain ⟨others, isFirst⟩ := firstOf_long (isPayload.trans isBody)
  refine ⟨next, ?_, isRest⟩
  rw [tryParseMessage, answer]
  show (match firstOf payload with
    | .error error => Except.error error
    | .ok (header :: type :: _) => .ok (classify header type, next)
    | .ok _ => .error .indexOutOfRange) = _
  rw [isFirst]

theorem tryParseMessage_large (split : input.toList = frame.bytes ++ rest)
    (beyond : ¬ frame.Addressable) :
    tryParseMessage input = .error (.argumentOutOfRange "start") := by
  have failed := BinaryMessage.tryParseMessage_frame frame rest
  rw [if_neg beyond, ← split, ← BinaryMessageParser.error_iff] at failed
  rw [tryParseMessage, failed]

theorem tryParseMessage_recognised (split : input.toList = frame.bytes ++ rest)
    (addressable : frame.Addressable) (recognised : Recognised frame.body) :
    ∃ message next, tryParseMessage input = .ok (some message, next) ∧ next.toList = rest := by
  cases isBody : frame.body with
  | nil =>
      rw [isBody] at recognised
      exact recognised.elim
  | cons header others =>
      cases others with
      | nil =>
          rw [isBody] at recognised
          exact recognised.elim
      | cons type tail =>
          rw [isBody] at recognised
          obtain ⟨message, classified⟩ := (classify_some_iff header type tail).mpr recognised
          obtain ⟨next, parsed, isRest⟩ := tryParseMessage_body split addressable isBody
          rw [classified] at parsed
          exact ⟨message, next, parsed, isRest⟩

/-- A complete frame that the protocol does not know: it returns false. -/
theorem tryParseMessage_unknown (split : input.toList = frame.bytes ++ rest)
    (addressable : frame.Addressable) (long : 2 ≤ frame.body.length)
    (unknown : ¬ Recognised frame.body) :
    ∃ next, tryParseMessage input = .ok (none, next) ∧ next.toList = rest := by
  cases isBody : frame.body with
  | nil =>
      rw [isBody] at long
      cases long
  | cons header others =>
      cases others with
      | nil =>
          rw [isBody, List.length_singleton] at long
          omega
      | cons type tail =>
          rw [isBody] at unknown
          obtain ⟨next, parsed, isRest⟩ := tryParseMessage_body split addressable isBody
          have none : classify header type = none := by
            by_contra found
            obtain ⟨message, classified⟩ := Option.ne_none_iff_exists'.mp found
            exact unknown ((classify_some_iff header type tail).mp ⟨message, classified⟩)
          rw [none] at parsed
          exact ⟨next, parsed, isRest⟩

/-- In front of a complete frame, exactly the frames that the protocol knows are taken. -/
theorem known_of_parsed (split : input.toList = frame.bytes ++ rest) {message : HubMessage}
    {next : ReadOnlySequence} (parsed : tryParseMessage input = .ok (some message, next)) :
    (frame.Addressable ∧ Recognised frame.body) ∧ next.toList = rest := by
  by_cases addressable : frame.Addressable
  · by_cases recognised : Recognised frame.body
    · obtain ⟨other, behind, known, isRest⟩ :=
        tryParseMessage_recognised split addressable recognised
      rw [known] at parsed
      cases parsed
      exact ⟨⟨addressable, recognised⟩, isRest⟩
    · by_cases short : frame.body.length < 2
      · rw [tryParseMessage_short split addressable short] at parsed
        cases parsed
      · obtain ⟨behind, unknown, -⟩ :=
          tryParseMessage_unknown split addressable (Nat.not_lt.mp short) recognised
        rw [unknown] at parsed
        cases parsed
  · rw [tryParseMessage_large split addressable] at parsed
    cases parsed

end Frames

/-! ## The loop -/

theorem forwardFrom_stops {bound : Nat} {buffer : ReadOnlySequence}
    (stops : ∀ message next, tryParseMessage buffer ≠ .ok (some message, next)) :
    forwardFrom bound buffer = ([], buffer) := by
  cases bound with
  | zero => rfl
  | succ bound =>
      rw [forwardFrom]
      split
      · rfl
      · split
        next message next parsed => exact absurd parsed (stops message next)
        next => rfl

/-- The loop forwards every frame that the protocol knows, one after the other. -/
theorem forwardFrom_frames (frames : List Frame) {bound : Nat} {buffer : ReadOnlySequence}
    {rest : Bytes}
    (known : ∀ frame ∈ frames, frame.Addressable ∧ Recognised frame.body)
    (split : buffer.toList = frames.flatMap Frame.bytes ++ rest)
    (stops : ∀ (frame : Frame) (tail : Bytes), rest ≠ frame.bytes ++ tail)
    (enough : buffer.length ≤ bound) :
    (forwardFrom bound buffer).1.map Prod.snd = frames.map Frame.bytes ∧
      (forwardFrom bound buffer).2.toList = rest := by
  induction frames generalizing bound buffer with
  | nil =>
      have noFrame (message : HubMessage) (next : ReadOnlySequence) :
          tryParseMessage buffer ≠ .ok (some message, next) := by
        intro parsed
        rw [tryParseMessage] at parsed
        split at parsed
        next => cases parsed
        next => cases parsed
        next payload behind answer =>
          obtain ⟨frame, -, -, isFrame⟩ :=
            BinaryMessage.tryParseMessage_some (BinaryMessageParser.bytes_of_some answer)
          exact stops frame _ (split.symm.trans isFrame)
      rw [forwardFrom_stops noFrame]
      exact ⟨rfl, split⟩
  | cons frame frames inductionHypothesis =>
      obtain ⟨addressable, recognised⟩ := known frame List.mem_cons_self
      rw [List.flatMap_cons, List.append_assoc] at split
      obtain ⟨message, next, parsed, isNext⟩ :=
        tryParseMessage_recognised split addressable recognised
      have isLength := congrArg List.length split
      rw [buffer.length_toList, List.length_append, ← isNext, next.length_toList] at isLength
      have positive := List.length_pos_iff.mpr frame.bytes_ne_nil
      cases bound with
      | zero => omega
      | succ bound =>
          obtain ⟨others, left⟩ := inductionHypothesis
            (fun other member => known other (List.mem_cons_of_mem _ member)) isNext
            (show next.length ≤ bound by omega)
          rw [forwardFrom, if_neg (by omega), parsed]
          refine ⟨?_, left⟩
          show buffer.toList.take (buffer.length - next.length) ::
            (forwardFrom bound next).1.map Prod.snd = _
          rw [others, split, isLength, Nat.add_sub_cancel, List.take_left, List.map_cons]

/-- Whatever the loop forwards frame by frame, the protocol knows. -/
theorem known_of_forwardFrom (frames : List Frame) {bound : Nat} {buffer : ReadOnlySequence}
    {rest : Bytes} (split : buffer.toList = frames.flatMap Frame.bytes ++ rest)
    (forwarded : (forwardFrom bound buffer).1.map Prod.snd = frames.map Frame.bytes) :
    ∀ frame ∈ frames, frame.Addressable ∧ Recognised frame.body := by
  induction frames generalizing bound buffer with
  | nil => nofun
  | cons frame frames inductionHypothesis =>
      rw [List.flatMap_cons, List.append_assoc] at split
      by_cases parses : ∃ message next, tryParseMessage buffer = .ok (some message, next)
      · obtain ⟨message, next, parsed⟩ := parses
        obtain ⟨known, isNext⟩ := known_of_parsed split parsed
        cases bound with
        | zero => cases forwarded
        | succ bound =>
            have positive : buffer.length ≠ 0 := by
              have isLength := congrArg List.length split
              have frameLength := List.length_pos_iff.mpr frame.bytes_ne_nil
              rw [buffer.length_toList, List.length_append] at isLength
              omega
            rw [forwardFrom, if_neg positive, parsed] at forwarded
            have others := inductionHypothesis isNext (List.cons.inj forwarded).2
            exact List.forall_mem_cons.mpr ⟨known, others⟩
      · rw [forwardFrom_stops fun message next parsed => parses ⟨message, next, parsed⟩]
          at forwarded
        cases forwarded

/-! ## Frames that pass -/

/-- The protocol is not to return false in front of a complete frame and lets every frame of a
message type pass, and the loop forwards every frame of the output, one after the other. -/
structure Passes (input : ReadOnlySequence) : Prop where
  waits : ∀ next, tryParseMessage input = .ok (none, next) →
    ∀ (frame : Frame) (rest : Bytes), input.toList ≠ frame.bytes ++ rest
  forwards : ∀ (frame : Frame) (rest : Bytes) (type : Int),
    input.toList = frame.bytes ++ rest → IsMessageType type → StartsWith type frame.body →
      ∃ message next, tryParseMessage input = .ok (some message, next) ∧ next.toList = rest
  loops : ∀ (frames : List Frame) (rest : Bytes),
    input.toList = frames.flatMap Frame.bytes ++ rest →
      (∀ (frame : Frame) (tail : Bytes), rest ≠ frame.bytes ++ tail) →
        (forward input).1.map Prod.snd = frames.map Frame.bytes ∧ (forward input).2.toList = rest

/-- What every complete frame of the input is to be. -/
def Accepted (input : ReadOnlySequence) : Prop :=
  ∀ (frames : List Frame) (frame : Frame) (rest : Bytes),
    input.toList = frames.flatMap Frame.bytes ++ (frame.bytes ++ rest) →
      frame.bytes.length < 2 ^ 31 ∧ Recognised frame.body

/-- Bytes are complete frames, and behind them a rest that starts with none. -/
theorem exists_frames (bytes : Bytes) :
    ∃ (frames : List Frame) (rest : Bytes), bytes = frames.flatMap Frame.bytes ++ rest ∧
      ∀ (frame : Frame) (tail : Bytes), rest ≠ frame.bytes ++ tail := by
  induction isLength : bytes.length using Nat.strongRecOn generalizing bytes with
  | ind length inductionHypothesis =>
      by_cases starts : ∃ (frame : Frame) (tail : Bytes), bytes = frame.bytes ++ tail
      · obtain ⟨frame, tail, rfl⟩ := starts
        have positive := List.length_pos_iff.mpr frame.bytes_ne_nil
        rw [List.length_append] at isLength
        obtain ⟨frames, rest, rfl, stops⟩ :=
          inductionHypothesis tail.length (by omega) tail rfl
        exact ⟨frame :: frames, rest, by rw [List.flatMap_cons, List.append_assoc], stops⟩
      · exact ⟨[], bytes, rfl, fun frame tail split => starts ⟨frame, tail, split⟩⟩

theorem accepted_of_passes {input : ReadOnlySequence} (passes : Passes input) :
    Accepted input := by
  intro frames frame rest split
  obtain ⟨others, tail, rfl, stops⟩ := exists_frames rest
  have whole : input.toList = (frames ++ frame :: others).flatMap Frame.bytes ++ tail := by
    rw [split, List.flatMap_append, List.flatMap_cons]
    simp only [List.append_assoc]
  have forwarded := (passes.loops _ tail whole stops).1
  exact known_of_forwardFrom _ whole forwarded frame
    (List.mem_append_right frames List.mem_cons_self)

theorem passes_of_accepted {input : ReadOnlySequence} (accepted : Accepted input) :
    Passes input where
  waits := by
    intro next parsed frame rest split
    obtain ⟨below, recognised⟩ := accepted [] frame rest split
    obtain ⟨message, behind, known, -⟩ := tryParseMessage_recognised split below recognised
    rw [known] at parsed
    cases parsed
  forwards := by
    intro frame rest type split _ _
    obtain ⟨below, recognised⟩ := accepted [] frame rest split
    exact tryParseMessage_recognised split below recognised
  loops := by
    intro frames rest split stops
    refine forwardFrom_frames frames (fun frame member => ?_) split stops (Nat.le_refl _)
    obtain ⟨front, behind, rfl⟩ := List.append_of_mem member
    refine accepted front frame (behind.flatMap Frame.bytes ++ rest) ?_
    rw [split, List.flatMap_append, List.flatMap_cons]
    simp only [List.append_assoc]

/-- The frames of an output pass, and none is blocked behind another, exactly where the protocol
knows every complete frame of it. -/
theorem blazor_pass_through (input : ReadOnlySequence) : Passes input ↔ Accepted input :=
  ⟨accepted_of_passes, passes_of_accepted⟩

/-- A message of type 1 with fourteen more elements. -/
def fifteenElements : Frame := .short (0x9f :: 0x01 :: List.replicate 14 0xc0) (by decide)

def ping : Frame := .short [0x91, 0x06] (by decide)

/-- It is complete, and neither it nor the ping behind it is ever forwarded. -/
theorem fifteen_elements_stall :
    StartsWith 1 fifteenElements.body ∧
      tryParseMessage (.of (fifteenElements.bytes ++ ping.bytes)) = .ok (none, .of ping.bytes) ∧
        forward (.of (fifteenElements.bytes ++ ping.bytes)) =
          ([], .of (fifteenElements.bytes ++ ping.bytes)) ∧
            ¬ Passes (.of (fifteenElements.bytes ++ ping.bytes)) := by
  have stalls : tryParseMessage (.of (fifteenElements.bytes ++ ping.bytes)) =
      .ok (none, .of ping.bytes) := by decide +kernel
  refine ⟨⟨15, [0x9f], [0x01], List.replicate 14 0xc0, by decide, .fixed (by decide),
    .positive 1 (by decide), rfl⟩, stalls, ?_, fun passes => ?_⟩
  · apply forwardFrom_stops
    rw [stalls]
    nofun
  · exact passes.waits _ stalls fifteenElements ping.bytes (Library.Segments.toList_of _)

end AzureSignalR.ClientConnections.FakeBlazorPackHubProtocol
