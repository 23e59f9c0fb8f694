import AzureSignalR.Common.BinaryMessage
import AzureSignalR.Library.Segments

/-!
Contract: `BinaryMessageParser` on a buffer in segments.

Owns: `TryParseMessage` with `GetSpan` over a `ReadOnlySequence<byte>`, that it sees no segments,
and what it answers for every buffer.

Does not own: the loop over the prefix bytes, which the parser on plain bytes owns.
-/

set_option autoImplicit false

namespace AzureSignalR

/-- `ReadOnlySequence<byte>`. -/
abbrev ReadOnlySequence := Library.Segments UInt8

namespace ReadOnlySequence

/-- `Slice(start, length)`. -/
def slice (buffer : ReadOnlySequence) (start length : Nat) : Except Exn ReadOnlySequence :=
  if buffer.length < start then .error (.argumentOutOfRange "start")
  else if buffer.length < start + length then .error (.argumentOutOfRange "length")
  else .ok ((buffer.drop start).take length)

/-- `Slice(start)`. -/
def sliceFrom (buffer : ReadOnlySequence) (start : Int) : Except Exn ReadOnlySequence :=
  if start < 0 ∨ buffer.length < start then .error (.argumentOutOfRange "start")
  else .ok (buffer.drop start.toNat)

theorem slice_eq {buffer : ReadOnlySequence} {start length : Nat}
    (inside : start + length ≤ buffer.length) :
    buffer.slice start length = .ok ((buffer.drop start).take length) := by
  rw [slice, if_neg (by omega), if_neg (by omega)]

theorem sliceFrom_eq {buffer : ReadOnlySequence} {start : Int} (nonnegative : 0 ≤ start)
    (inside : start ≤ buffer.length) :
    buffer.sliceFrom start = .ok (buffer.drop start.toNat) := by
  rw [sliceFrom, if_neg (by omega)]

end ReadOnlySequence

namespace BinaryMessageParser

open BinaryMessage

def getSpan (lengthPrefixBuffer : ReadOnlySequence) : Bytes :=
  if lengthPrefixBuffer.isSingle then lengthPrefixBuffer.first else lengthPrefixBuffer.toList

/-- `TryParseMessage` behind its loop. -/
def readPayload (buffer : ReadOnlySequence) (length numBytes : Nat) (byteRead : UInt8) :
    Except Exn (Option (ReadOnlySequence × ReadOnlySequence)) :=
  if byteRead.toNat &&& 0x80 ≠ 0 ∧ numBytes < maxLengthPrefixSize then .ok none
  else if byteRead.toNat &&& 0x80 ≠ 0 ∨
      (numBytes = maxLengthPrefixSize ∧ 7 < byteRead.toNat) then
    .error (.format "Messages over 2GB in size are not supported.")
  else if buffer.length < length + numBytes then .ok none
  else do
    let payload ← buffer.slice numBytes length
    -- `numBytes + (int)length` is a 32-bit signed sum and wraps around.
    let rest ← buffer.sliceFrom (Int.bmod (numBytes + length) (2 ^ 32))
    pure (some (payload, rest))

/-- `TryParseMessage(ref buffer, out payload)`: `none` when it returns false and leaves the buffer
as it is, otherwise the payload and the buffer behind it. -/
def tryParseMessage (buffer : ReadOnlySequence) :
    Except Exn (Option (ReadOnlySequence × ReadOnlySequence)) :=
  if buffer.length = 0 then .ok none
  else do
    let lengthPrefixBuffer ← buffer.slice 0 (min maxLengthPrefixSize buffer.length)
    let (length, numBytes, byteRead) := readLengthPrefix (getSpan lengthPrefixBuffer) 0 0 0
    readPayload buffer length numBytes byteRead

/-! ## Segments -/

theorem getSpan_eq (buffer : ReadOnlySequence) : getSpan buffer = buffer.toList := by
  rw [getSpan]
  split_ifs with single
  · rw [Library.Segments.toList_eq_first single]
  · rfl

/-- The bytes that the loop goes through are in the buffer. -/
theorem slice_first (buffer : ReadOnlySequence) :
    buffer.slice 0 (min maxLengthPrefixSize buffer.length) =
      .ok ((buffer.drop 0).take (min maxLengthPrefixSize buffer.length)) := by
  apply ReadOnlySequence.slice_eq
  rw [Nat.zero_add]
  exact Nat.min_le_right _ _

theorem getSpan_first (buffer : ReadOnlySequence) :
    getSpan ((buffer.drop 0).take (min maxLengthPrefixSize buffer.length)) =
      buffer.toList.take maxLengthPrefixSize := by
  rw [getSpan_eq, Library.Segments.toList_take, Library.Segments.toList_drop, List.drop_zero,
    ← buffer.length_toList, List.take_eq_take_iff]
  omega

/-- An answer without its segments. -/
def bytesOf : Except Exn (Option (ReadOnlySequence × ReadOnlySequence)) →
    Except Exn (Option (Bytes × Bytes))
  | .error error => .error error
  | .ok none => .ok none
  | .ok (some (payload, rest)) => .ok (some (payload.toList, rest.toList))

theorem bmod_le (value : Nat) : Int.bmod value (2 ^ 32) ≤ value := by
  rw [Int.bmod_def]
  split_ifs
  · omega
  · omega

theorem ok_bind {α β : Type} (value : α) (next : α → Except Exn β) :
    (Except.ok value >>= next) = next value := rfl

/-- Behind the loop. -/
theorem bytesOf_readPayload (buffer : ReadOnlySequence) (length numBytes : Nat) (byteRead : UInt8) :
    bytesOf (readPayload buffer length numBytes byteRead) =
      if byteRead.toNat &&& 0x80 ≠ 0 ∧ numBytes < maxLengthPrefixSize then .ok none
      else if byteRead.toNat &&& 0x80 ≠ 0 ∨
          (numBytes = maxLengthPrefixSize ∧ 7 < byteRead.toNat) then
        .error (.format "Messages over 2GB in size are not supported.")
      else if buffer.length < length + numBytes then .ok none
      else if Int.bmod (numBytes + length) (2 ^ 32) < 0 then .error (.argumentOutOfRange "start")
      else .ok (some ((buffer.toList.drop numBytes).take length,
        buffer.toList.drop (Int.bmod (numBytes + length) (2 ^ 32)).toNat)) := by
  have start_le := bmod_le (numBytes + length)
  rw [Nat.cast_add] at start_le
  rw [readPayload]
  generalize Int.bmod (numBytes + length) (2 ^ 32) = start at start_le ⊢
  split_ifs with unfinished tooLong short negative
  · rfl
  · rfl
  · rfl
  · rw [ReadOnlySequence.slice_eq (by omega), ok_bind, ReadOnlySequence.sliceFrom,
      if_pos (.inl negative)]
    rfl
  · rw [ReadOnlySequence.slice_eq (by omega), ok_bind,
      ReadOnlySequence.sliceFrom_eq (by omega) (by omega), ok_bind]
    show Except.ok _ = _
    rw [Library.Segments.toList_take, Library.Segments.toList_drop, Library.Segments.toList_drop]

/-- The parser does what it does on the bytes. -/
theorem bytesOf_tryParseMessage (buffer : ReadOnlySequence) :
    bytesOf (tryParseMessage buffer) = BinaryMessage.tryParseMessage buffer.toList := by
  have isLength := buffer.length_toList
  rw [tryParseMessage, BinaryMessage.tryParseMessage]
  by_cases empty : buffer.length = 0
  · have none : buffer.toList = [] := List.length_eq_zero_iff.mp (isLength.trans empty)
    rw [if_pos empty, if_pos none]
    rfl
  · have nonempty : buffer.toList ≠ [] := by
      intro none
      rw [none] at isLength
      exact empty isLength.symm
    rw [if_neg empty, if_neg nonempty, slice_first, ok_bind, getSpan_first]
    obtain ⟨⟨length, numBytes, byteRead⟩, isRead⟩ :
        ∃ read, readLengthPrefix (buffer.toList.take maxLengthPrefixSize) 0 0 0 = read := ⟨_, rfl⟩
    rw [isRead]
    refine (bytesOf_readPayload buffer length numBytes byteRead).trans ?_
    rw [← isLength]

theorem none_iff (buffer : ReadOnlySequence) :
    tryParseMessage buffer = .ok none ↔ BinaryMessage.tryParseMessage buffer.toList = .ok none := by
  rw [← bytesOf_tryParseMessage]
  cases tryParseMessage buffer with
  | error error => exact ⟨nofun, nofun⟩
  | ok answer =>
      cases answer with
      | none => exact ⟨fun _ => rfl, fun _ => rfl⟩
      | some taken => exact ⟨nofun, nofun⟩

theorem error_iff (buffer : ReadOnlySequence) (error : Exn) :
    tryParseMessage buffer = .error error ↔
      BinaryMessage.tryParseMessage buffer.toList = .error error := by
  rw [← bytesOf_tryParseMessage]
  cases tryParseMessage buffer with
  | error other =>
      constructor
      · intro same
        cases same
        rfl
      · intro same
        cases same
        rfl
  | ok answer =>
      cases answer with
      | none => exact ⟨nofun, nofun⟩
      | some taken => exact ⟨nofun, nofun⟩

theorem some_of_bytes {buffer : ReadOnlySequence} {body behind : Bytes}
    (parsed : BinaryMessage.tryParseMessage buffer.toList = .ok (some (body, behind))) :
    ∃ payload rest, tryParseMessage buffer = .ok (some (payload, rest)) ∧
      payload.toList = body ∧ rest.toList = behind := by
  rw [← bytesOf_tryParseMessage] at parsed
  cases answer : tryParseMessage buffer with
  | error error =>
      rw [answer] at parsed
      cases parsed
  | ok found =>
      rw [answer] at parsed
      cases found with
      | none => cases parsed
      | some taken =>
          cases parsed
          exact ⟨taken.1, taken.2, rfl, rfl, rfl⟩

theorem bytes_of_some {buffer payload rest : ReadOnlySequence}
    (parsed : tryParseMessage buffer = .ok (some (payload, rest))) :
    BinaryMessage.tryParseMessage buffer.toList = .ok (some (payload.toList, rest.toList)) := by
  rw [← bytesOf_tryParseMessage, parsed]
  rfl

/-! ## Classification -/

/-- The length prefix, or the payload that it announces, is not complete. -/
def Unfinished (bytes : Bytes) : Prop :=
  (Continues bytes ∧ bytes.length ≤ 4) ∨
    ∃ (lengthPrefix : LengthPrefix) (rest : Bytes), bytes = lengthPrefix.bytes ++ rest ∧
      rest.length < lengthPrefix.value

/-- The fifth byte of the length prefix exceeds 7, with or without its high bit. -/
def TooLong (bytes : Bytes) : Prop :=
  ∃ (more : Bytes) (last : UInt8) (rest : Bytes), Continues more ∧ more.length = 4 ∧
    7 < last.toNat ∧ bytes = more ++ last :: rest

def tooLong : Exn := .format "Messages over 2GB in size are not supported."

/-- What the parser is to answer. -/
structure Classified (buffer : ReadOnlySequence) : Prop where
  waits : tryParseMessage buffer = .ok none ↔ Unfinished buffer.toList
  refuses : tryParseMessage buffer = .error tooLong ↔ TooLong buffer.toList
  only : ∀ error, tryParseMessage buffer = .error error → error = tooLong
  takes : ∀ (frame : Frame) (rest : Bytes), buffer.toList = frame.bytes ++ rest →
    ∃ payload behind, tryParseMessage buffer = .ok (some (payload, behind)) ∧
      payload.toList = frame.body ∧ behind.toList = rest
  taken : ∀ payload behind, tryParseMessage buffer = .ok (some (payload, behind)) →
    ∃ frame : Frame, payload.toList = frame.body ∧
      buffer.toList = frame.bytes ++ behind.toList
  /-- The segments make no difference. -/
  segments : ∀ other : ReadOnlySequence, other.toList = buffer.toList →
    bytesOf (tryParseMessage other) = bytesOf (tryParseMessage buffer)
  /-- More bytes make none behind an answer. -/
  frame : ∀ (other : ReadOnlySequence) (more : Bytes), other.toList = buffer.toList ++ more →
    (∀ payload behind, tryParseMessage buffer = .ok (some (payload, behind)) →
      bytesOf (tryParseMessage other) = .ok (some (payload.toList, behind.toList ++ more))) ∧
    ∀ error, tryParseMessage buffer = .error error → tryParseMessage other = .error error

theorem unfinished_iff (bytes : Bytes) :
    BinaryMessage.tryParseMessage bytes = .ok none ↔ Unfinished bytes := by
  constructor
  · intro waiting
    rcases prefix_cases bytes with ⟨lengthPrefix, rest, split⟩ | unfinished |
      ⟨more, last, rest, continues, four, large, split⟩
    · right
      refine ⟨lengthPrefix, rest, split, ?_⟩
      rw [split, tryParseMessage_prefixed] at waiting
      by_contra complete
      rw [if_neg complete] at waiting
      split at waiting
      · cases waiting
      · cases waiting
    · exact .inl unfinished
    · rw [split, tryParseMessage_tooLong rest continues four large] at waiting
      cases waiting
  · rintro (⟨continues, size⟩ | ⟨lengthPrefix, rest, split, short⟩)
    · exact tryParseMessage_unfinished continues size
    · rw [split, tryParseMessage_prefixed, if_pos short]

theorem tooLong_iff (bytes : Bytes) :
    BinaryMessage.tryParseMessage bytes = .error tooLong ↔ TooLong bytes := by
  constructor
  · intro refused
    rcases prefix_cases bytes with ⟨lengthPrefix, rest, split⟩ | ⟨continues, size⟩ | isTooLong
    · rw [split, tryParseMessage_prefixed] at refused
      split at refused
      · cases refused
      · split at refused
        · cases refused
        · cases refused
    · rw [tryParseMessage_unfinished continues size] at refused
      cases refused
    · exact isTooLong
  · rintro ⟨more, last, rest, continues, four, large, rfl⟩
    exact tryParseMessage_tooLong rest continues four large

/-- The parser throws nothing else behind an addressable frame. -/
theorem error_eq {bytes : Bytes} {error : Exn}
    (addressable : ∀ (frame : Frame) (rest : Bytes), bytes = frame.bytes ++ rest →
      frame.Addressable)
    (failed : BinaryMessage.tryParseMessage bytes = .error error) : error = tooLong := by
  rcases prefix_cases bytes with ⟨lengthPrefix, rest, split⟩ | ⟨continues, size⟩ |
    ⟨more, last, rest, continues, four, large, split⟩
  · by_cases short : rest.length < lengthPrefix.value
    · rw [split, tryParseMessage_prefixed, if_pos short] at failed
      cases failed
    · have announced : (rest.take lengthPrefix.value).length = lengthPrefix.value := by
        rw [List.length_take]
        omega
      have isFrame : bytes = (Frame.mk lengthPrefix _ announced).bytes ++
          rest.drop lengthPrefix.value := by
        rw [Frame.bytes, List.append_assoc, List.take_append_drop, split]
      rw [isFrame, tryParseMessage_frame, if_pos (addressable _ _ isFrame)] at failed
      cases failed
  · rw [tryParseMessage_unfinished continues size] at failed
    cases failed
  · rw [split, tryParseMessage_tooLong rest continues four large] at failed
    cases failed
    rfl

/-- The parser answers as it is to, but in front of a complete frame whose end lies at or beyond
the wrap-around of its 32-bit position. -/
theorem parser_classifies (buffer : ReadOnlySequence) :
    Classified buffer ↔ ∀ (frame : Frame) (rest : Bytes), buffer.toList = frame.bytes ++ rest →
      frame.bytes.length < 2 ^ 31 := by
  constructor
  · intro classified frame rest split
    obtain ⟨payload, behind, parsed, -⟩ := classified.takes frame rest split
    have onBytes := bytes_of_some parsed
    rw [split, tryParseMessage_frame] at onBytes
    by_contra large
    have beyond : ¬ frame.Addressable := large
    rw [if_neg beyond] at onBytes
    cases onBytes
  · intro addressable
    refine {
      waits := (none_iff buffer).trans (unfinished_iff _)
      refuses := (error_iff buffer tooLong).trans (tooLong_iff _)
      only := fun error failed => error_eq addressable ((error_iff buffer error).mp failed)
      takes := ?_
      taken := ?_
      segments := ?_
      frame := ?_ }
    · intro frame rest split
      have below : frame.Addressable := addressable frame rest split
      apply some_of_bytes
      rw [split, tryParseMessage_frame, if_pos below]
    · intro payload behind parsed
      obtain ⟨frame, -, isBody, split⟩ := tryParseMessage_some (bytes_of_some parsed)
      exact ⟨frame, isBody.symm, split⟩
    · intro other same
      rw [bytesOf_tryParseMessage, bytesOf_tryParseMessage, same]
    · intro other more split
      constructor
      · intro payload behind parsed
        obtain ⟨frame, isAddressable, isBody, isFrame⟩ :=
          tryParseMessage_some (bytes_of_some parsed)
        rw [bytesOf_tryParseMessage, split, isFrame, List.append_assoc, tryParseMessage_frame,
          if_pos isAddressable, isBody]
      · intro error failed
        rw [error_iff, split]
        exact tryParseMessage_error_append ((error_iff buffer error).mp failed) more

/-- A prefix that announces `0x7fffffff` bytes. -/
def largestPrefix : LengthPrefix where
  more := [0xff, 0xff, 0xff, 0xff]
  last := 0x07
  continues := by simp [Continues]
  ends := by decide
  size := by decide
  limit := by decide

theorem value_largestPrefix : largestPrefix.value = 0x7fffffff := by decide

/-- The largest payload that a prefix can announce. -/
def largestFrame : Frame where
  lengthPrefix := largestPrefix
  body := List.replicate 0x7fffffff 0
  announced := by rw [List.length_replicate, value_largestPrefix]

theorem not_classified {frame : Frame} (large : 2 ^ 31 ≤ frame.bytes.length) :
    tryParseMessage (.of frame.bytes) = .error (.argumentOutOfRange "start") ∧
      ¬ Classified (.of frame.bytes) := by
  have beyond : ¬ frame.Addressable := fun below => absurd below (Nat.not_lt.mpr large)
  have throws := tryParseMessage_frame frame []
  rw [if_neg beyond, List.append_nil] at throws
  have failed : tryParseMessage (.of frame.bytes) = .error (.argumentOutOfRange "start") := by
    rw [error_iff, Library.Segments.toList_of]
    exact throws
  refine ⟨failed, fun classified => ?_⟩
  have other := classified.only _ failed
  rw [tooLong] at other
  cases other

/-- It is there, and the position behind it wraps around. -/
theorem largest_frame_throws :
    tryParseMessage (.of largestFrame.bytes) = .error (.argumentOutOfRange "start") ∧
      ¬ Classified (.of largestFrame.bytes) := by
  apply not_classified
  rw [Frame.bytes, List.length_append, largestFrame.announced]
  show 2 ^ 31 ≤ largestPrefix.bytes.length + largestPrefix.value
  rw [value_largestPrefix, LengthPrefix.length_bytes]
  decide

end BinaryMessageParser

end AzureSignalR
