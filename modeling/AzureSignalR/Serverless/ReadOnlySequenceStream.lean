import AzureSignalR.Common.BinaryMessage
import AzureSignalR.Library.SegmentCursors

/-!
Contract: `ReadOnlySequenceStream`, a stream over a sequence of bytes in segments.

Owns: its operations with their cursors, a stream over plain bytes, and that the first one does
what the second one does whatever segments the bytes lie in.

Does not own: who reads. The members that throw `NotSupportedException` are left out.
-/

set_option autoImplicit false

namespace AzureSignalR.Serverless

/-- `ReadOnlySequence<byte>`: the bytes between two cursors into linked segments. -/
abbrev LinkedSequence := Library.Window UInt8

abbrev SequencePosition := Library.Cursor

namespace LinkedSequence

variable (sequence : LinkedSequence)

/-- `GetPosition(offset, origin)`; the origin is `Start` where the call gives none. -/
def getPosition (offset : Int) (origin : SequencePosition) : Except Exn SequencePosition :=
  if offset < 0 then .error (.argumentOutOfRange "offset")
  else
    match sequence.seek origin offset.toNat with
    | none => .error (.argumentOutOfRange "offset")
    | some position => .ok position

/-- `Slice(start)`. -/
def sliceFrom (start : SequencePosition) : Except Exn LinkedSequence :=
  if sequence.Contains start then .ok { sequence with start := start }
  else .error (.argumentOutOfRange "position")

/-- `Slice(0, end)`. -/
def sliceTo (stop : SequencePosition) : Except Exn LinkedSequence :=
  if sequence.Contains stop then .ok { sequence with stop := stop }
  else .error (.argumentOutOfRange "position")

/-- `Slice(start, length)`. -/
def slice (start length : Int) : Except Exn LinkedSequence :=
  if start < 0 then .error (.argumentOutOfRange "start")
  else if length < 0 then .error (.argumentOutOfRange "length")
  else
    match sequence.seek sequence.start start.toNat with
    | none => .error (.argumentOutOfRange "start")
    | some front =>
        match sequence.seek front length.toNat with
        | none => .error (.argumentOutOfRange "length")
        | some behind => .ok { sequence with start := front, stop := behind }

end LinkedSequence

/-- `CopyTo(buffer.AsSpan(offset, count))`, with the buffer behind it. -/
def copyTo (items buffer : Bytes) (offset count : Int) : Except Exn Bytes :=
  if offset < 0 ∨ count < 0 ∨ buffer.length < offset + count then .error (.argumentOutOfRange "")
  else if count < items.length then .error (.argumentOutOfRange "destination")
  else .ok (buffer.take offset.toNat ++ items ++ buffer.drop (offset.toNat + items.length))

/-- `other` is a value that is none of the three. -/
inductive SeekOrigin where
  | begin
  | current
  | end_
  | other
deriving DecidableEq, Repr

inductive Call where
  | read (buffer : Bytes) (offset count : Int)
  | seek (offset : Int) (origin : SeekOrigin)
  | setPosition (value : Int)
  | getPosition
  | length
deriving DecidableEq, Repr

inductive Answer where
  /-- The buffer behind the call, and what the call returns. -/
  | read (buffer : Bytes) (count : Int)
  | done
  | number (value : Int)
deriving DecidableEq, Repr

structure ReadOnlySequenceStream where
  sequence : LinkedSequence
  position : SequencePosition
deriving DecidableEq, Repr

namespace ReadOnlySequenceStream

def new (sequence : LinkedSequence) : ReadOnlySequenceStream := ⟨sequence, sequence.start⟩

variable (stream : ReadOnlySequenceStream)

/-- A member that throws in front of its assignment leaves the position as it is. -/
def assign (position : Except Exn SequencePosition) : ReadOnlySequenceStream × Except Exn Unit :=
  match position with
  | .error error => (stream, .error error)
  | .ok position => ({ stream with position := position }, .ok ())

def getPosition : Except Exn Int := do
  let before ← stream.sequence.sliceTo stream.position
  pure before.length

def setPosition (value : Int) : ReadOnlySequenceStream × Except Exn Unit :=
  if value < 0 then (stream, .error (.argumentOutOfRange ""))
  else stream.assign (stream.sequence.getPosition value stream.sequence.start)

/-- What `Seek` assigns to the position. -/
def target (offset : Int) : SeekOrigin → Except Exn SequencePosition
  | .begin => stream.sequence.getPosition offset stream.sequence.start
  | .end_ =>
      if 0 ≤ offset then stream.sequence.getPosition offset stream.sequence.stop
      else stream.sequence.getPosition (offset + stream.sequence.length) stream.sequence.start
  | .current =>
      if 0 ≤ offset then stream.sequence.getPosition offset stream.position
      else do
        let position ← stream.getPosition
        stream.sequence.getPosition (offset + position) stream.sequence.start
  | .other => .error (.argumentOutOfRange "")

def seek (offset : Int) (origin : SeekOrigin) : ReadOnlySequenceStream × Except Exn Int :=
  let (moved, assigned) := stream.assign (stream.target offset origin)
  (moved, do
    assigned
    moved.getPosition)

/-- The slice that `Read` copies. -/
def next (count : Int) : Except Exn LinkedSequence := do
  let remain ← stream.sequence.sliceFrom stream.position
  remain.slice 0 (min count remain.length)

/-- The position is assigned before the bytes are copied. -/
def read (buffer : Bytes) (offset count : Int) :
    ReadOnlySequenceStream × Except Exn (Bytes × Int) :=
  match stream.next count with
  | .error error => (stream, .error error)
  | .ok result =>
      ({ stream with position := result.stop }, do
        let filled ← copyTo result.toList buffer offset count
        pure (filled, result.length))

def perform : Call → ReadOnlySequenceStream × Except Exn Answer
  | .read buffer offset count =>
      let (moved, result) := stream.read buffer offset count
      (moved, result.map fun filled => .read filled.1 filled.2)
  | .seek offset origin =>
      let (moved, result) := stream.seek offset origin
      (moved, result.map .number)
  | .setPosition value =>
      let (moved, result) := stream.setPosition value
      (moved, result.map fun _ => .done)
  | .getPosition => (stream, stream.getPosition.map .number)
  | .length => (stream, .ok (.number stream.sequence.length))

def performAll : ReadOnlySequenceStream → List Call →
    ReadOnlySequenceStream × List (Except Exn Answer)
  | stream, [] => (stream, [])
  | stream, call :: calls =>
      let (moved, answer) := stream.perform call
      let (last, answers) := performAll moved calls
      (last, answer :: answers)

end ReadOnlySequenceStream

/-! ## A stream over bytes -/

structure ByteStream where
  bytes : Bytes
  position : Nat
deriving DecidableEq, Repr

namespace ByteStream

variable (stream : ByteStream)

/-- What a call of `Read` takes. -/
def next (count : Int) : Bytes := (stream.bytes.drop stream.position).take count.toNat

def target (offset : Int) : SeekOrigin → Option Int
  | .begin => some offset
  | .end_ => some (stream.bytes.length + offset)
  | .current => some (stream.position + offset)
  | .other => none

/-- The calls that the stream answers: a span inside of the buffer, a target inside of the
bytes. -/
def Permitted : Call → Prop
  | .read buffer offset count => 0 ≤ offset ∧ 0 ≤ count ∧ offset + count ≤ buffer.length
  | .seek offset origin =>
      ∃ target ∈ stream.target offset origin, 0 ≤ target ∧ target ≤ stream.bytes.length
  | .setPosition value => 0 ≤ value ∧ value ≤ stream.bytes.length
  | .getPosition => True
  | .length => True

def perform : Call → ByteStream × Answer
  | .read buffer offset count =>
      let taken := stream.next count
      ({ stream with position := stream.position + taken.length },
        .read (buffer.take offset.toNat ++ taken ++ buffer.drop (offset.toNat + taken.length))
          taken.length)
  | .seek offset origin =>
      let target := (stream.target offset origin).getD stream.position
      ({ stream with position := target.toNat }, .number target)
  | .setPosition value => ({ stream with position := value.toNat }, .done)
  | .getPosition => (stream, .number stream.position)
  | .length => (stream, .number stream.bytes.length)

def performAll : ByteStream → List Call → ByteStream × List Answer
  | stream, [] => (stream, [])
  | stream, call :: calls =>
      let (moved, answer) := stream.perform call
      let (last, answers) := performAll moved calls
      (last, answer :: answers)

theorem bytes_performAll (calls : List Call) :
    (stream.performAll calls).1.bytes = stream.bytes := by
  induction calls generalizing stream with
  | nil => rfl
  | cons call calls inductionHypothesis =>
      apply (inductionHypothesis (stream.perform call).1).trans
      cases call with
      | read buffer offset count => rfl
      | seek offset origin => rfl
      | setPosition value => rfl
      | getPosition => rfl
      | length => rfl

/-- Every call is permitted when its turn comes. -/
def PermittedAll : ByteStream → List Call → Prop
  | _, [] => True
  | stream, call :: calls => stream.Permitted call ∧ PermittedAll (stream.perform call).1 calls

end ByteStream

/-! ## Positions -/

section Positions

variable {sequence : LinkedSequence} {origin : SequencePosition} {offset : Int}

/-- A place of the sequence that stands for a number of bytes behind its start. -/
structure At (sequence : LinkedSequence) (position : SequencePosition) (value : Int) : Prop where
  contains : sequence.Contains position
  distance : (sequence.distance position : Int) = value

theorem at_start (valid : sequence.Valid) : At sequence sequence.start 0 where
  contains := valid.contains_start
  distance := by
    rw [Library.Window.distance, Nat.sub_self]
    rfl

theorem at_stop (valid : sequence.Valid) : At sequence sequence.stop sequence.length where
  contains := valid.contains_stop
  distance := rfl

/-- Inside of the sequence, `GetPosition` adds its offset. -/
theorem getPosition_at (valid : sequence.Valid) {value : Int} (isAt : At sequence origin value)
    (nonneg : 0 ≤ offset) (inside : value + offset ≤ sequence.length) :
    ∃ position, sequence.getPosition offset origin = .ok position ∧ origin.Before position ∧
      At sequence position (value + offset) := by
  have isValue := isAt.distance
  have spec := Library.Window.seek_spec valid isAt.contains offset.toNat
  rw [if_pos (by omega)] at spec
  obtain ⟨position, isFound, contains, onward, distance⟩ := spec
  refine ⟨position, ?_, onward, contains, by omega⟩
  rw [LinkedSequence.getPosition, if_neg (by omega), isFound]

/-- From the start it gives the place of a number. -/
theorem getPosition_start (valid : sequence.Valid) (nonneg : 0 ≤ offset)
    (inside : offset ≤ sequence.length) :
    ∃ position, sequence.getPosition offset sequence.start = .ok position ∧
      At sequence position offset := by
  obtain ⟨position, isFound, -, isAt⟩ :=
    getPosition_at valid (at_start valid) nonneg (by omega)
  rw [Int.zero_add] at isAt
  exact ⟨position, isFound, isAt⟩

theorem getPosition_outside (valid : sequence.Valid) {value : Int}
    (isAt : At sequence origin value) (outside : offset < 0 ∨ sequence.length < value + offset) :
    sequence.getPosition offset origin = .error (.argumentOutOfRange "offset") := by
  have isValue := isAt.distance
  rw [LinkedSequence.getPosition]
  split_ifs with negative
  · rfl
  · have spec := Library.Window.seek_spec valid isAt.contains offset.toNat
    rw [if_neg (by omega)] at spec
    rw [spec]

/-- The first bytes of the sequence. -/
theorem slice_first (valid : sequence.Valid) (length : Int) (nonneg : 0 ≤ length)
    (inside : length ≤ sequence.length) :
    ∃ result, sequence.slice 0 length = .ok result ∧
      result.toList = sequence.toList.take length.toNat ∧ (result.length : Int) = length ∧
        At sequence result.stop length := by
  have front := Library.Window.seek_spec valid valid.contains_start 0
  have atStart : sequence.distance sequence.start = 0 := Nat.sub_self _
  rw [atStart, if_pos (Nat.zero_le _)] at front
  obtain ⟨front, isFront, frontInside, -, frontDistance⟩ := front
  have behind := Library.Window.seek_spec valid frontInside length.toNat
  rw [frontDistance, if_pos (by omega)] at behind
  obtain ⟨behind, isBehind, behindInside, ordered, behindDistance⟩ := behind
  refine ⟨{ sequence with start := front, stop := behind }, ?_, ?_, ?_, behindInside, ?_⟩
  · rw [LinkedSequence.slice, if_neg (by omega), if_neg (by omega)]
    simp only [Int.toNat_zero, isFront, isBehind]
  · rw [frontInside.toList_between behindInside ordered valid, frontDistance, behindDistance,
      Nat.add_zero, List.drop_zero, Nat.zero_add]
  · rw [frontInside.length_between behindInside valid]
    omega
  · show (sequence.distance behind : Int) = length
    omega

end Positions

/-! ## Simulation -/

/-- The stream stands where the stream over its bytes stands. -/
structure Represents (stream : ReadOnlySequenceStream) (plain : ByteStream) : Prop where
  valid : stream.sequence.Valid
  bytes : stream.sequence.toList = plain.bytes
  position : At stream.sequence stream.position plain.position

section Simulation

variable {stream : ReadOnlySequenceStream} {plain : ByteStream}

theorem Represents.length (represents : Represents stream plain) :
    stream.sequence.length = plain.bytes.length := by
  rw [← represents.bytes, represents.valid.length_toList]

theorem Represents.position_le (represents : Represents stream plain) :
    plain.position ≤ plain.bytes.length := by
  have inside := represents.position.contains.distance_le represents.valid
  have isPosition := represents.position.distance
  rw [← represents.length]
  omega

theorem represents_new {sequence : LinkedSequence} (valid : sequence.Valid) :
    Represents (.new sequence) ⟨sequence.toList, 0⟩ where
  valid := valid
  bytes := rfl
  position := at_start valid

theorem Represents.moved (represents : Represents stream plain) {position : SequencePosition}
    {value : Nat} (isAt : At stream.sequence position value) :
    Represents { stream with position := position } { plain with position := value } where
  valid := represents.valid
  bytes := represents.bytes
  position := isAt

theorem At.toNat {sequence : LinkedSequence} {position : SequencePosition} {value : Int}
    (isAt : At sequence position value) : At sequence position value.toNat where
  contains := isAt.contains
  distance := by
    have isValue := isAt.distance
    omega

theorem Represents.getPosition (represents : Represents stream plain) :
    stream.getPosition = .ok (plain.position : Int) := by
  rw [ReadOnlySequenceStream.getPosition, LinkedSequence.sliceTo,
    if_pos represents.position.contains, ← represents.position.distance]
  rfl

/-- `Seek` finds the place of its target. -/
theorem Represents.target (represents : Represents stream plain) {offset value : Int}
    {origin : SeekOrigin} (isTarget : plain.target offset origin = some value)
    (nonneg : 0 ≤ value) (inside : value ≤ plain.bytes.length) :
    ∃ position, stream.target offset origin = .ok position ∧ At stream.sequence position value := by
  have isLength := represents.length
  have valid := represents.valid
  cases origin with
  | begin =>
      cases isTarget
      exact getPosition_start valid nonneg (by omega)
  | end_ =>
      cases isTarget
      rw [ReadOnlySequenceStream.target]
      split_ifs with forward
      · obtain ⟨position, isFound, -, isAt⟩ :=
          getPosition_at valid (at_stop valid) forward (by omega)
        rw [isLength] at isAt
        exact ⟨position, isFound, isAt⟩
      · rw [isLength, Int.add_comm]
        exact getPosition_start valid nonneg (by omega)
  | current =>
      cases isTarget
      rw [ReadOnlySequenceStream.target]
      split_ifs with forward
      · obtain ⟨position, isFound, -, isAt⟩ :=
          getPosition_at valid represents.position forward (by omega)
        exact ⟨position, isFound, isAt⟩
      · rw [represents.getPosition]
        show ∃ position, stream.sequence.getPosition (offset + plain.position) _ = _ ∧ _
        rw [Int.add_comm offset]
        exact getPosition_start valid nonneg (by omega)
  | other => cases isTarget

/-- `Read` copies what is next, and goes behind it. -/
theorem Represents.next (represents : Represents stream plain) {count : Int} (nonneg : 0 ≤ count) :
    ∃ result, stream.next count = .ok result ∧ result.toList = plain.next count ∧
      (result.length : Int) = (plain.next count).length ∧
        At stream.sequence result.stop (plain.position + (plain.next count).length : Nat) := by
  have inside := represents.position.contains
  have isPosition := represents.position.distance
  have position : stream.sequence.distance stream.position = plain.position := by omega
  have left := inside.length_from represents.valid
  rw [position, represents.length] at left
  have remain : stream.sequence.sliceFrom stream.position =
      .ok { stream.sequence with start := stream.position } := if_pos inside
  obtain ⟨result, isResult, isNext, isLength, isAt⟩ :=
    slice_first (inside.valid_from represents.valid)
      (min count (Library.Window.length
        ⟨stream.sequence.segments, stream.position, stream.sequence.stop⟩))
      (by omega) (by omega)
  rw [inside.toList_from represents.valid, represents.bytes, position] at isNext
  have same : result.toList = plain.next count := by
    rw [isNext, ByteStream.next, List.take_eq_take_iff, List.length_drop]
    omega
  have size : (result.length : Int) = (plain.next count).length := by
    rw [ByteStream.next, List.length_take, List.length_drop]
    omega
  refine ⟨result, ?_, same, size, inside.of_from isAt.contains, ?_⟩
  · rw [ReadOnlySequenceStream.next, remain]
    exact isResult
  · have distance := inside.distance_from isAt.contains represents.valid
    have isDistance := isAt.distance
    omega

theorem copyTo_eq {items buffer : Bytes} {offset count : Int} (first : 0 ≤ offset)
    (nonneg : 0 ≤ count) (inside : offset + count ≤ buffer.length) (fits : items.length ≤ count) :
    copyTo items buffer offset count =
      .ok (buffer.take offset.toNat ++ items ++ buffer.drop (offset.toNat + items.length)) := by
  rw [copyTo, if_neg (by omega), if_neg (by omega)]

theorem Represents.read (represents : Represents stream plain) {buffer : Bytes}
    {offset count : Int} (first : 0 ≤ offset) (nonneg : 0 ≤ count)
    (inside : offset + count ≤ buffer.length) :
    (stream.read buffer offset count).2 =
      .ok (buffer.take offset.toNat ++ plain.next count ++
        buffer.drop (offset.toNat + (plain.next count).length), (plain.next count).length) ∧
    Represents (stream.read buffer offset count).1
      { plain with position := plain.position + (plain.next count).length } := by
  obtain ⟨result, isResult, isNext, isLength, isAt⟩ := represents.next nonneg
  have fits : ((plain.next count).length : Int) ≤ count := by
    have taken := List.length_take_le count.toNat (plain.bytes.drop plain.position)
    rw [ByteStream.next]
    omega
  have copied := copyTo_eq first nonneg inside fits
  simp only [ReadOnlySequenceStream.read, isResult, isNext, copied, isLength]
  exact ⟨rfl, represents.moved isAt⟩

/-- A call does what it does on the bytes. -/
theorem Represents.perform (represents : Represents stream plain) {call : Call}
    (permitted : plain.Permitted call) :
    (stream.perform call).2 = .ok (plain.perform call).2 ∧
      Represents (stream.perform call).1 (plain.perform call).1 := by
  cases call with
  | read buffer offset count =>
      obtain ⟨first, nonneg, inside⟩ := permitted
      obtain ⟨answer, moved⟩ := represents.read first nonneg inside
      simp only [ReadOnlySequenceStream.perform, answer]
      exact ⟨rfl, moved⟩
  | seek offset origin =>
      obtain ⟨value, isTarget, nonneg, inside⟩ := permitted
      obtain ⟨position, isFound, isAt⟩ := represents.target isTarget nonneg inside
      have moved := represents.moved isAt.toNat
      have isPosition := moved.getPosition
      rw [Int.toNat_of_nonneg nonneg] at isPosition
      simp only [ReadOnlySequenceStream.perform, ReadOnlySequenceStream.seek, isFound,
        ReadOnlySequenceStream.assign, isPosition, ByteStream.perform, Option.mem_def.1 isTarget,
        Option.getD_some]
      exact ⟨rfl, moved⟩
  | setPosition value =>
      obtain ⟨nonneg, inside⟩ := permitted
      obtain ⟨position, isFound, isAt⟩ :=
        getPosition_start represents.valid nonneg (by rw [represents.length]; exact inside)
      simp only [ReadOnlySequenceStream.perform, ReadOnlySequenceStream.setPosition,
        if_neg (Int.not_lt.2 nonneg), isFound, ReadOnlySequenceStream.assign]
      exact ⟨rfl, represents.moved isAt.toNat⟩
  | getPosition =>
      refine ⟨?_, represents⟩
      show Except.map _ stream.getPosition = _
      rw [represents.getPosition]
      rfl
  | length =>
      refine ⟨?_, represents⟩
      show Except.ok (Answer.number _) = _
      rw [represents.length]
      rfl

/-- A target outside of the bytes throws, and the position stays as it is. -/
theorem Represents.seek_outside (represents : Represents stream plain) {offset value : Int}
    {origin : SeekOrigin} (isTarget : plain.target offset origin = some value)
    (outside : value < 0 ∨ plain.bytes.length < value) :
    stream.seek offset origin = (stream, .error (.argumentOutOfRange "offset")) := by
  have isLength := represents.length
  have valid := represents.valid
  have inside := represents.position_le
  have throws : stream.target offset origin = .error (.argumentOutOfRange "offset") := by
    cases origin with
    | begin =>
        cases isTarget
        exact getPosition_outside valid (at_start valid) (by omega)
    | end_ =>
        cases isTarget
        rw [ReadOnlySequenceStream.target]
        split_ifs with forward
        · exact getPosition_outside valid (at_stop valid) (by omega)
        · exact getPosition_outside valid (at_start valid) (by omega)
    | current =>
        cases isTarget
        rw [ReadOnlySequenceStream.target]
        split_ifs with forward
        · exact getPosition_outside valid represents.position (by omega)
        · rw [represents.getPosition]
          exact getPosition_outside valid (at_start valid) (by omega)
    | other => cases isTarget
  rw [ReadOnlySequenceStream.seek, throws]
  rfl

/-- Calls do what they do on the bytes, one after another. -/
theorem Represents.performAll (represents : Represents stream plain) {calls : List Call}
    (permitted : plain.PermittedAll calls) :
    (stream.performAll calls).2 = (plain.performAll calls).2.map .ok ∧
      Represents (stream.performAll calls).1 (plain.performAll calls).1 := by
  induction calls generalizing stream plain with
  | nil => exact ⟨rfl, represents⟩
  | cons call calls inductionHypothesis =>
      obtain ⟨now, later⟩ := permitted
      obtain ⟨answer, moved⟩ := represents.perform now
      obtain ⟨answers, last⟩ := inductionHypothesis moved later
      refine ⟨?_, last⟩
      simp only [ReadOnlySequenceStream.performAll, ByteStream.performAll, answer, answers,
        List.map_cons]

end Simulation

/-! ## Sequences in segments -/

/-- What is to hold of the stream over a sequence. -/
structure IsByteStream (sequence : LinkedSequence) : Prop where
  answers : ∀ calls, ByteStream.PermittedAll ⟨sequence.toList, 0⟩ calls →
    ((ReadOnlySequenceStream.new sequence).performAll calls).2 =
      ((ByteStream.mk sequence.toList 0).performAll calls).2.map .ok
  position : ∀ calls, ByteStream.PermittedAll ⟨sequence.toList, 0⟩ calls →
    ((ReadOnlySequenceStream.new sequence).performAll calls).1.getPosition =
      .ok (((ByteStream.mk sequence.toList 0).performAll calls).1.position : Int)
  /-- Behind any calls, `Read` returns the next `min(count, remaining)` bytes. -/
  reads : ∀ calls, ByteStream.PermittedAll ⟨sequence.toList, 0⟩ calls →
    ∀ (buffer : Bytes) (offset count : Int), 0 ≤ offset → 0 ≤ count →
      offset + count ≤ buffer.length →
    ∃ (position : Nat) (taken : Bytes),
      ((ReadOnlySequenceStream.new sequence).performAll calls).1.getPosition =
        .ok (position : Int) ∧
      taken <+: sequence.toList.drop position ∧
      (taken.length : Int) = min count (sequence.length - position) ∧
      (((ReadOnlySequenceStream.new sequence).performAll calls).1.read buffer offset count).2 =
        .ok (buffer.take offset.toNat ++ taken ++ buffer.drop (offset.toNat + taken.length),
          taken.length) ∧
      (((ReadOnlySequenceStream.new sequence).performAll calls).1.read buffer offset
        count).1.getPosition = .ok (position + taken.length : Int)
  /-- A target outside of the bytes throws, and the position stays as it is. -/
  outside : ∀ calls, ByteStream.PermittedAll ⟨sequence.toList, 0⟩ calls →
    ∀ (offset value : Int) (origin : SeekOrigin),
      ((ByteStream.mk sequence.toList 0).performAll calls).1.target offset origin = some value →
      value < 0 ∨ sequence.length < value →
    ((ReadOnlySequenceStream.new sequence).performAll calls).1.seek offset origin =
      (((ReadOnlySequenceStream.new sequence).performAll calls).1,
        .error (.argumentOutOfRange "offset"))
  /-- The segments make no difference. -/
  segments : ∀ other : LinkedSequence, other.Valid → other.toList = sequence.toList →
    ∀ calls, ByteStream.PermittedAll ⟨sequence.toList, 0⟩ calls →
      ((ReadOnlySequenceStream.new other).performAll calls).2 =
        ((ReadOnlySequenceStream.new sequence).performAll calls).2

/-- Over every sequence of bytes in segments the stream does what a stream over the bytes does. -/
theorem sequence_stream_is_byte_stream (sequence : LinkedSequence) (valid : sequence.Valid) :
    IsByteStream sequence where
  answers calls permitted := ((represents_new valid).performAll permitted).1
  position calls permitted := ((represents_new valid).performAll permitted).2.getPosition
  reads := by
    intro calls permitted buffer offset count first nonneg inside
    have represents := ((represents_new valid).performAll permitted).2
    have bytes := ByteStream.bytes_performAll ⟨sequence.toList, 0⟩ calls
    have behind := represents.position_le
    obtain ⟨answer, moved⟩ := represents.read first nonneg inside
    refine ⟨_, _, represents.getPosition, ?_, ?_, answer, moved.getPosition⟩
    · rw [ByteStream.next, bytes]
      exact List.take_prefix _ _
    · rw [bytes, valid.length_toList] at behind
      rw [ByteStream.next, bytes, List.length_take, List.length_drop, valid.length_toList]
      omega
  outside := by
    intro calls permitted offset value origin isTarget outside
    have represents := ((represents_new valid).performAll permitted).2
    have bytes := ByteStream.bytes_performAll ⟨sequence.toList, 0⟩ calls
    apply represents.seek_outside isTarget
    rw [bytes, valid.length_toList]
    exact outside
  segments := by
    intro other otherValid same calls permitted
    rw [((represents_new valid).performAll permitted).1]
    rw [← same] at permitted ⊢
    exact ((represents_new otherValid).performAll permitted).1

/-- Three bytes with an empty segment between them. -/
def threeBytes : LinkedSequence := .of [[1], [], [2, 3]]

/-- A read that crosses the segments, and one behind a seek from the end. -/
theorem sequence_stream_is_byte_stream_three :
    IsByteStream threeBytes ∧
      ((ReadOnlySequenceStream.new threeBytes).performAll
        [.read [0, 0, 0] 1 2, .getPosition, .seek (-1) .end_, .read [0, 0] 0 2]).2 =
        [.ok (.read [0, 1, 2] 2), .ok (.number 2), .ok (.number 2), .ok (.read [3, 0] 1)] :=
  ⟨sequence_stream_is_byte_stream threeBytes (Library.Window.valid_of (by decide)), by decide⟩

end AzureSignalR.Serverless
