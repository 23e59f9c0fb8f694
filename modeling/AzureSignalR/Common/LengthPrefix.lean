import AzureSignalR.Common.BinaryMessageParser
import AzureSignalR.Library.BufferWriter
import Mathlib.Data.List.Induction

/-!
Contract: the length prefix between `BinaryMessageFormatter` and `BinaryMessageParser`.

Owns: the parser up to its checks of the length prefix, that these are the first half of the
parser, and that a written prefix is read back, is no answer in part and is the prefix of no
other one.

Does not own: the payload behind the prefix.
-/

set_option autoImplicit false

namespace AzureSignalR.BinaryMessageParser

open BinaryMessage

/-! ## The first half of the parser -/

/-- The checks behind the loop. -/
def checkLength : Nat × Nat × UInt8 → Except Exn (Option (Nat × Nat))
  | (length, numBytes, byteRead) =>
      if byteRead.toNat &&& 0x80 ≠ 0 ∧ numBytes < maxLengthPrefixSize then .ok none
      else if byteRead.toNat &&& 0x80 ≠ 0 ∨
          (numBytes = maxLengthPrefixSize ∧ 7 < byteRead.toNat) then
        .error (.format "Messages over 2GB in size are not supported.")
      else .ok (some (length, numBytes))

/-- `TryParseMessage` up to the checks of the length: `none` while bytes of it are missing,
otherwise the length and the number of bytes that it takes. -/
def readLength (buffer : ReadOnlySequence) : Except Exn (Option (Nat × Nat)) :=
  if buffer.length = 0 then .ok none
  else do
    let lengthPrefixBuffer ← buffer.slice 0 (min maxLengthPrefixSize buffer.length)
    checkLength (readLengthPrefix (getSpan lengthPrefixBuffer) 0 0 0)

/-- `TryParseMessage` behind the checks of the length. -/
def takePayload (buffer : ReadOnlySequence) :
    Option (Nat × Nat) → Except Exn (Option (ReadOnlySequence × ReadOnlySequence))
  | none => .ok none
  | some (length, numBytes) =>
      if buffer.length < length + numBytes then .ok none
      else do
        let payload ← buffer.slice numBytes length
        let rest ← buffer.sliceFrom (Int.bmod (numBytes + length) (2 ^ 32))
        pure (some (payload, rest))

theorem readPayload_eq (buffer : ReadOnlySequence) (length numBytes : Nat) (byteRead : UInt8) :
    readPayload buffer length numBytes byteRead =
      checkLength (length, numBytes, byteRead) >>= takePayload buffer := by
  rw [readPayload, checkLength]
  split_ifs
  · rfl
  · rfl
  · show _ = takePayload buffer (some (length, numBytes))
    rw [takePayload, if_pos ‹_›]
  · show _ = takePayload buffer (some (length, numBytes))
    rw [takePayload, if_neg ‹_›]

/-- The parser is its two halves. -/
theorem tryParseMessage_eq (buffer : ReadOnlySequence) :
    tryParseMessage buffer = readLength buffer >>= takePayload buffer := by
  rw [tryParseMessage, readLength]
  split_ifs with empty
  · rfl
  · rw [slice_first, ok_bind, ok_bind]
    exact readPayload_eq buffer _ _ _

/-! ## On the bytes -/

/-- The first half on a buffer without its segments. -/
def lengthOf (bytes : Bytes) : Except Exn (Option (Nat × Nat)) :=
  if bytes = [] then .ok none
  else checkLength (readLengthPrefix (bytes.take maxLengthPrefixSize) 0 0 0)

theorem readLength_eq (buffer : ReadOnlySequence) :
    readLength buffer = lengthOf buffer.toList := by
  have isLength := buffer.length_toList
  rw [readLength, lengthOf]
  by_cases empty : buffer.length = 0
  · have none : buffer.toList = [] := List.length_eq_zero_iff.mp (isLength.trans empty)
    rw [if_pos empty, if_pos none]
  · have nonempty : buffer.toList ≠ [] := by
      intro none
      rw [none] at isLength
      exact empty isLength.symm
    rw [if_neg empty, if_neg nonempty, slice_first, ok_bind, getSpan_first]

/-- A complete length prefix. -/
theorem lengthOf_prefixed (lengthPrefix : LengthPrefix) (rest : Bytes) :
    lengthOf (lengthPrefix.bytes ++ rest) =
      .ok (some (lengthPrefix.value, lengthPrefix.bytes.length)) := by
  have nonempty : lengthPrefix.bytes ++ rest ≠ [] := by
    simp [LengthPrefix.bytes]
  have low : ¬ (lengthPrefix.last.toNat &&& 0x80 ≠ 0) := by
    rw [and_continuation]
    have ends := lengthPrefix.ends
    omega
  have accepted : ¬ (lengthPrefix.bytes.length = maxLengthPrefixSize ∧
      7 < lengthPrefix.last.toNat) := by
    intro ⟨five, large⟩
    rw [lengthPrefix.length_bytes, maxLengthPrefixSize] at five
    have limit := lengthPrefix.limit (by omega)
    omega
  rw [lengthOf, if_neg nonempty, lengthPrefix.readLengthPrefix_bytes, checkLength,
    if_neg (fun both => low both.1), if_neg (fun either => either.elim low accepted)]

/-- Bytes of the prefix are missing. -/
theorem lengthOf_unfinished {bytes : Bytes} (continues : Continues bytes)
    (size : bytes.length ≤ 4) : lengthOf bytes = .ok none := by
  induction bytes using List.reverseRecOn with
  | nil => rfl
  | append_singleton more last _ =>
      have marked : last.toNat &&& 0x80 ≠ 0 :=
        (and_continuation last).2 (continues last (by simp))
      have counts := readLengthPrefix_last last
        (fun byte member => continues byte (List.mem_append_left _ member)) 0 0 0
      rw [List.length_append, List.length_singleton] at size
      have below : 0 + more.length + 1 < maxLengthPrefixSize := by
        rw [maxLengthPrefixSize]
        omega
      rw [lengthOf, if_neg (by simp), List.take_of_length_le (by simp; omega),
        ← Prod.mk.eta (p := readLengthPrefix _ 0 0 0), counts, checkLength,
        if_pos ⟨marked, below⟩]

/-- The prefix is too long, or announces too much. -/
theorem lengthOf_tooLong {more : Bytes} {last : UInt8} (rest : Bytes)
    (continues : Continues more) (size : more.length = 4) (large : 7 < last.toNat) :
    lengthOf (more ++ last :: rest) = .error tooLong := by
  have span : (more ++ last :: rest).take maxLengthPrefixSize = more ++ [last] := by
    rw [List.take_append, size, List.take_of_length_le (by rw [size]; decide)]
    rfl
  have counts := readLengthPrefix_last last continues 0 0 0
  have five : 0 + more.length + 1 = maxLengthPrefixSize := by
    rw [size]
    rfl
  rw [lengthOf, if_neg (by simp), span, ← Prod.mk.eta (p := readLengthPrefix _ 0 0 0), counts,
    checkLength, five, if_neg (fun both => lt_irrefl _ both.2), if_pos (.inr ⟨rfl, large⟩)]
  rfl

/-! ## As a frame parser -/

/-- The length, and the bytes behind its prefix. -/
def lengthParser : Library.FrameParser UInt8 Nat Exn where
  parse bytes :=
    (lengthOf bytes).map (Option.map fun found => (found.1, bytes.drop found.2))
  parse_nil := rfl
  parse_some := by
    intro bytes length rest parsed
    rcases prefix_cases bytes with ⟨lengthPrefix, behind, rfl⟩ | ⟨continues, size⟩ |
      ⟨more, last, behind, continues, four, large, rfl⟩
    · rw [lengthOf_prefixed] at parsed
      simp only [Except.map, Option.map_some, List.drop_left, Except.ok.injEq,
        Option.some.injEq, Prod.mk.injEq] at parsed
      refine ⟨lengthPrefix.bytes, by simp [LengthPrefix.bytes], by rw [parsed.2], ?_⟩
      intro other
      rw [lengthOf_prefixed, ← parsed.1]
      simp only [Except.map, Option.map_some, List.drop_left]
    · rw [lengthOf_unfinished continues size] at parsed
      cases parsed
    · rw [lengthOf_tooLong behind continues four large] at parsed
      cases parsed
  parse_error := by
    intro bytes error failed other
    rcases prefix_cases bytes with ⟨lengthPrefix, behind, rfl⟩ | ⟨continues, size⟩ |
      ⟨more, last, behind, continues, four, large, rfl⟩
    · rw [lengthOf_prefixed] at failed
      cases failed
    · rw [lengthOf_unfinished continues size] at failed
      cases failed
    · rw [lengthOf_tooLong behind continues four large] at failed
      cases failed
      rw [List.append_assoc, List.cons_append,
        lengthOf_tooLong (behind ++ other) continues four large]
      rfl

theorem isFrame_bytes (lengthPrefix : LengthPrefix) :
    lengthParser.IsFrame lengthPrefix.bytes lengthPrefix.value := by
  have found := lengthOf_prefixed lengthPrefix []
  rw [List.append_nil] at found
  show (lengthOf lengthPrefix.bytes).map _ = _
  rw [found]
  simp only [Except.map, Option.map_some, List.drop_length]

/-- The first half waits where the frame parser does. -/
theorem lengthOf_of_none {bytes : Bytes} (waiting : lengthParser.parse bytes = .ok none) :
    lengthOf bytes = .ok none := by
  have mapped : (lengthOf bytes).map (Option.map fun found => (found.1, bytes.drop found.2)) =
    .ok none := waiting
  cases found : lengthOf bytes with
  | error error =>
      rw [found] at mapped
      cases mapped
  | ok answer =>
      cases answer with
      | none => rfl
      | some taken =>
          rw [found] at mapped
          cases mapped

/-! ## Round trip -/

/-- `WriteLengthPrefix(long, IBufferWriter<byte>)`. -/
def writeLengthPrefixTo {σ : Type} (writer : Library.BufferWriter.Writer σ UInt8)
    (length : Nat) (output : σ) : Except Exn σ := do
  let lenBuffer ← writeLengthPrefix length 5
  pure (Library.BufferWriter.write writer output lenBuffer)

/-- What is to hold of the bytes that `WriteLengthPrefix` writes for a length. -/
structure RoundTrip (length : Nat) (lengthPrefix : Bytes) : Prop where
  written : ∀ space, lengthPrefixLength length ≤ space →
    writeLengthPrefix length space = .ok lengthPrefix
  writtenTo : ∀ {σ : Type} (writer : Library.BufferWriter.Writer σ UInt8) (valid : σ → Prop)
    (contents : σ → Bytes), Library.BufferWriter.Appends writer valid contents →
    ∀ output, valid output → ∃ after, writeLengthPrefixTo writer length output = .ok after ∧
      valid after ∧ contents after = contents output ++ lengthPrefix
  size : lengthPrefix.length = lengthPrefixLength length
  atMost : lengthPrefixLength length ≤ 5
  readBack : ∀ (buffer : ReadOnlySequence) (rest : Bytes), buffer.toList = lengthPrefix ++ rest →
    readLength buffer = .ok (some (length, lengthPrefixLength length))
  /-- A proper part of the bytes is not taken for a length; nor is an exception thrown for it. -/
  waits : ∀ buffer : ReadOnlySequence, buffer.toList <+: lengthPrefix →
    buffer.toList ≠ lengthPrefix → readLength buffer = .ok none ∧
      tryParseMessage buffer = .ok none
  /-- No other length is written to a part or a continuation of the bytes. -/
  apart : ∀ other < 2 ^ 31, other ≠ length → ∀ space bytes,
    writeLengthPrefix other space = .ok bytes → ¬ bytes <+: lengthPrefix ∧ ¬ lengthPrefix <+: bytes

theorem writtenTo {σ : Type} {writer : Library.BufferWriter.Writer σ UInt8} {valid : σ → Prop}
    {contents : σ → Bytes} (appends : Library.BufferWriter.Appends writer valid contents)
    {length : Nat} {lengthPrefix : Bytes} (written : writeLengthPrefix length 5 = .ok lengthPrefix)
    {output : σ} (start : valid output) :
    ∃ after, writeLengthPrefixTo writer length output = .ok after ∧ valid after ∧
      contents after = contents output ++ lengthPrefix := by
  refine ⟨Library.BufferWriter.write writer output lengthPrefix, ?_,
    appends.write start lengthPrefix⟩
  rw [writeLengthPrefixTo, written]
  rfl

/-- What is written for a length is a frame of it, in a span of any size. -/
theorem isFrame_of_written {length space : Nat} {bytes : Bytes} (bounded : length < 2 ^ 31)
    (written : writeLengthPrefix length space = .ok bytes) :
    lengthParser.IsFrame bytes length := by
  obtain ⟨lengthPrefix, isLength, writtenToFive⟩ := writeLengthPrefix_lengthPrefix bounded
  have enough : bytes.length ≤ maxLengthPrefixSize := by
    rw [← lengthPrefixLength_of_written written, lengthPrefixLength_of_written writtenToFive,
      lengthPrefix.length_bytes]
    exact Nat.succ_le_succ lengthPrefix.size
  have same := writeLengthPrefix_of_le written enough
  rw [writtenToFive] at same
  cases same
  rw [← isLength]
  exact isFrame_bytes lengthPrefix

/-- The length prefix of every length up to `0x7fffffff` is read back from the front of every
buffer, and the prefixes of these lengths are a prefix code. -/
theorem length_prefix_round_trip (length : Nat) (bounded : length ≤ 2 ^ 31 - 1) :
    ∃ lengthPrefix, RoundTrip length lengthPrefix := by
  have below : length < 2 ^ 31 := by omega
  obtain ⟨lengthPrefix, isLength, written⟩ := writeLengthPrefix_lengthPrefix below
  have isFrame := isFrame_of_written below written
  have size := lengthPrefixLength_of_written written
  refine ⟨lengthPrefix.bytes, {
    written := ?_
    writtenTo := fun writer valid contents appends output => writtenTo appends written
    size := size.symm
    atMost := ?_
    readBack := ?_
    waits := ?_
    apart := ?_ }⟩
  · intro space enough
    rw [size] at enough
    exact writeLengthPrefix_of_le written enough
  · rw [size, lengthPrefix.length_bytes]
    exact Nat.succ_le_succ lengthPrefix.size
  · intro buffer rest split
    rw [readLength_eq, split, lengthOf_prefixed, isLength, size]
  · intro buffer isPart proper
    have waiting : readLength buffer = .ok none := by
      rw [readLength_eq]
      exact lengthOf_of_none (isFrame.parse_part isPart proper)
    refine ⟨waiting, ?_⟩
    rw [tryParseMessage_eq, waiting]
    rfl
  · intro other otherBounded different space bytes otherWritten
    have otherFrame := isFrame_of_written otherBounded otherWritten
    constructor
    · intro isPrefix
      exact different (otherFrame.eq_of_prefix isFrame isPrefix).2
    · intro isPrefix
      exact different (isFrame.eq_of_prefix otherFrame isPrefix).2.symm

theorem length_prefix_round_trip_300 : RoundTrip 300 [0xac, 0x02] := by
  obtain ⟨lengthPrefix, roundTrip⟩ := length_prefix_round_trip 300 (by decide)
  have written := roundTrip.written 5 roundTrip.atMost
  have isWritten : writeLengthPrefix 300 5 = .ok [0xac, 0x02] := by decide
  rw [isWritten] at written
  cases written
  exact roundTrip

end AzureSignalR.BinaryMessageParser
