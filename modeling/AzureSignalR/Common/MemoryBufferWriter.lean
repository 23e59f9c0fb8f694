import AzureSignalR.Common.BinaryMessage
import AzureSignalR.Library.BufferWriter

/-!
Contract: the pooled buffer of segments that a message is encoded into.

Owns: `MemoryBufferWriter` with its segments, `Reset` and the two ways to copy it, the limit of
an array, and that the buffer has what its client has committed, in whatever segments.

Does not own: the arrays of the pool. `Rent` may give any array that is long enough, with
anything in it.
-/

set_option autoImplicit false

namespace AzureSignalR.Common

open Library Library.BufferWriter

/-- `ArrayPool<byte>.Shared`: what each call of `Rent` gives. -/
structure ArrayPool where
  rent : (call minimumLength : Nat) → Bytes
  le_length : ∀ call minimumLength, minimumLength ≤ (rent call minimumLength).length

structure CompletedBuffer where
  buffer : Bytes
  length : Nat
deriving DecidableEq, Repr

def CompletedBuffer.span (segment : CompletedBuffer) : Bytes := segment.buffer.take segment.length

structure MemoryBufferWriter where
  minimumSegmentSize : Nat := 4096
  bytesWritten : Int32 := 0
  completedSegments : Option (List CompletedBuffer) := none
  currentSegment : Option Bytes := none
  position : Nat := 0
deriving DecidableEq, Repr

/-- `Span.CopyTo`. -/
def copySpan (source destination : Bytes) : Except Exn Bytes :=
  if source.length ≤ destination.length then .ok (source ++ destination.drop source.length)
  else .error (.argument "Destination is too short.")

/-- `Array.MaxLength`. -/
def maxArrayLength : Nat := 0x7FFFFFC7

/-- `new byte[length]`. -/
def newArray (length : Int) : Except Exn Bytes :=
  if length < 0 then .error .overflow
  else if maxArrayLength < length then .error .outOfMemory
  else .ok (List.replicate length.toNat 0)

theorem newArray_of_le {length : Nat} (fits : length ≤ maxArrayLength) :
    newArray length = .ok (List.replicate length 0) := by
  rw [newArray, if_neg (by omega), if_neg (by omega), Int.toNat_natCast]

namespace MemoryBufferWriter

def reset (writer : MemoryBufferWriter) : MemoryBufferWriter :=
  { writer with
    completedSegments := writer.completedSegments.map fun _ => []
    currentSegment := none
    bytesWritten := 0
    position := 0 }

/-- The segments in front of the current one. -/
def segments (writer : MemoryBufferWriter) : List CompletedBuffer :=
  writer.completedSegments.getD []

/-- `_currentSegment.AsSpan(0, _position)`. -/
def currentSpan (writer : MemoryBufferWriter) : Bytes :=
  (writer.currentSegment.getD []).take writer.position

def remainingSize (writer : MemoryBufferWriter) : Nat :=
  (writer.currentSegment.getD []).length - writer.position

/-! ## Writing -/

variable (pool : ArrayPool)

/-- `AddSegment`; `rents` counts the calls of `Rent`. -/
def addSegment (writer : MemoryBufferWriter) (rents sizeHint : Nat) : MemoryBufferWriter :=
  { writer with
    completedSegments :=
      match writer.currentSegment with
      | none => writer.completedSegments
      | some segment => some (writer.segments ++ [⟨segment, writer.position⟩])
    currentSegment := some (pool.rent rents (max writer.minimumSegmentSize sizeHint))
    position := 0 }

def ensureCapacity (state : MemoryBufferWriter × Nat) (sizeHint : Nat) : MemoryBufferWriter × Nat :=
  let (writer, rents) := state
  if sizeHint = 0 ∧ 0 < writer.remainingSize ∨
      0 < sizeHint ∧ sizeHint ≤ writer.remainingSize then
    (writer, rents)
  else (writer.addSegment pool rents sizeHint, rents + 1)

/-- The client fills the front of the span it has got, and calls `Advance`. -/
def advance (writer : MemoryBufferWriter) (bytes : Bytes) : MemoryBufferWriter :=
  { writer with
    currentSegment := writer.currentSegment.map fun segment =>
      segment.take writer.position ++ bytes ++ segment.drop (writer.position + bytes.length)
    bytesWritten := writer.bytesWritten + Int32.ofNat bytes.length
    position := writer.position + bytes.length }

/-- What a client sees of it. -/
def client : BufferWriter.Writer (MemoryBufferWriter × Nat) UInt8 where
  getSpan state sizeHint :=
    let given := ensureCapacity pool state sizeHint
    (given, given.1.remainingSize)
  advance state bytes := (state.1.advance bytes, state.2)

/-! ## Copying -/

/-- `CopyTo(IBufferWriter<byte>)`. -/
def copyTo (writer : MemoryBufferWriter) (destination : Bytes) : Bytes :=
  writer.segments.foldl (fun destination segment => destination ++ segment.span) destination ++
    writer.currentSpan

/-- The loop of `CopyTo(Span<byte>)`. -/
def copySegments : List CompletedBuffer → (span : Bytes) → (totalWritten : Nat) →
    Except Exn (Bytes × Nat)
  | [], span, totalWritten => .ok (span, totalWritten)
  | segment :: segments, span, totalWritten =>
      if span.length < totalWritten then .error (.argumentOutOfRange "start")
      else do
        let copied ← copySpan segment.span (span.drop totalWritten)
        copySegments segments (span.take totalWritten ++ copied)
          (totalWritten + segment.span.length)

/-- `CopyTo(Span<byte>)`. -/
def copyToSpan (writer : MemoryBufferWriter) (span : Bytes) : Except Exn Bytes :=
  match writer.currentSegment with
  | none => .ok span
  | some _ => do
      let (span, totalWritten) ← copySegments writer.segments span 0
      if span.length < totalWritten then .error (.argumentOutOfRange "start")
      else do
        let copied ← copySpan writer.currentSpan (span.drop totalWritten)
        pure (span.take totalWritten ++ copied)

/-! ## Contents -/

/-- What has been committed. -/
def contents (writer : MemoryBufferWriter) : Bytes :=
  writer.segments.flatMap CompletedBuffer.span ++ writer.currentSpan

structure Valid (writer : MemoryBufferWriter) : Prop where
  minimum : 0 < writer.minimumSegmentSize
  position : writer.position ≤ (writer.currentSegment.getD []).length
  counted : writer.bytesWritten = Int32.ofNat writer.contents.length
  /-- Without a segment there is nothing to copy. -/
  empty : writer.currentSegment = none → writer.segments = []

section Contents

variable {pool} {writer : MemoryBufferWriter}

theorem valid_reset (minimum : 0 < writer.minimumSegmentSize) : writer.reset.Valid ∧
    writer.reset.contents = [] := by
  have segments : writer.reset.segments = [] := by
    show (writer.completedSegments.map fun _ => []).getD [] = []
    cases writer.completedSegments <;> rfl
  have contents : writer.reset.contents = [] := by
    rw [MemoryBufferWriter.contents, segments]
    rfl
  refine ⟨⟨minimum, Nat.le_refl _, ?_, fun _ => segments⟩, contents⟩
  rw [contents]
  rfl

/-- A new segment takes the place of the current one, which keeps what is committed. -/
theorem contents_addSegment (valid : writer.Valid) (rents sizeHint : Nat) :
    (writer.addSegment pool rents sizeHint).contents = writer.contents := by
  cases isCurrent : writer.currentSegment with
  | none =>
      have segments : (writer.addSegment pool rents sizeHint).segments = [] := by
        have before := valid.empty isCurrent
        rw [MemoryBufferWriter.segments] at before ⊢
        simp only [addSegment, isCurrent]
        exact before
      rw [contents, contents, segments, valid.empty isCurrent, currentSpan, currentSpan, isCurrent]
      simp [addSegment]
  | some segment =>
      have segments : (writer.addSegment pool rents sizeHint).segments =
          writer.segments ++ [⟨segment, writer.position⟩] := by
        rw [MemoryBufferWriter.segments, addSegment, isCurrent]
        rfl
      have current : writer.currentSpan = segment.take writer.position := by
        rw [currentSpan, isCurrent]
        rfl
      rw [contents, contents, segments, current, List.flatMap_append, List.flatMap_singleton]
      show _ ++ _ ++ List.take 0 _ = _
      rw [List.take_zero, List.append_nil]
      rfl

theorem valid_addSegment (valid : writer.Valid) (rents sizeHint : Nat) :
    (writer.addSegment pool rents sizeHint).Valid where
  minimum := valid.minimum
  position := Nat.zero_le _
  counted := by
    rw [contents_addSegment valid]
    exact valid.counted
  empty := by nofun

variable (pool writer) in
theorem le_remainingSize_addSegment (rents sizeHint : Nat) :
    max writer.minimumSegmentSize sizeHint ≤
      (writer.addSegment pool rents sizeHint).remainingSize :=
  pool.le_length rents _

/-- What is advanced over is behind the rest. -/
theorem contents_advance {bytes : Bytes} {segment : Bytes}
    (isCurrent : writer.currentSegment = some segment)
    (fits : writer.position + bytes.length ≤ segment.length) :
    (writer.advance bytes).contents = writer.contents ++ bytes := by
  have before : writer.currentSpan = segment.take writer.position := by
    rw [currentSpan, isCurrent]
    rfl
  have after : (writer.advance bytes).currentSpan = segment.take writer.position ++ bytes := by
    rw [currentSpan, advance, isCurrent]
    show (segment.take writer.position ++ bytes ++ _).take (writer.position + bytes.length) = _
    have length : (segment.take writer.position ++ bytes).length =
        writer.position + bytes.length := by
      rw [List.length_append, List.length_take_of_le (by omega)]
    rw [← length]
    exact List.take_left
  rw [contents, contents, before, after, ← List.append_assoc]
  rfl

theorem valid_advance (valid : writer.Valid) {bytes : Bytes} {segment : Bytes}
    (isCurrent : writer.currentSegment = some segment)
    (fits : writer.position + bytes.length ≤ segment.length) : (writer.advance bytes).Valid where
  minimum := valid.minimum
  position := by
    rw [advance, isCurrent]
    show writer.position + bytes.length ≤ (_ ++ _ ++ _ : Bytes).length
    rw [List.length_append, List.length_append, List.length_take_of_le (by omega)]
    exact Nat.le_add_right _ _
  counted := by
    rw [contents_advance isCurrent fits, List.length_append, Int32.ofNat_add, ← valid.counted]
    rfl
  empty := by
    rw [advance, isCurrent]
    nofun

theorem remainingSize_of_none (none : writer.currentSegment = none) : writer.remainingSize = 0 := by
  rw [remainingSize, none]
  exact Nat.zero_sub _

variable (pool) in
/-- There is a segment with the space that is given. -/
theorem ensureCapacity_spec (valid : writer.Valid) (rents sizeHint : Nat) :
    let given := (ensureCapacity pool (writer, rents) sizeHint).1
    given.Valid ∧ given.contents = writer.contents ∧ sizeHint ≤ given.remainingSize ∧
      0 < given.remainingSize := by
  rw [ensureCapacity]
  split_ifs with enough
  · refine ⟨valid, rfl, ?_, ?_⟩
    · show sizeHint ≤ writer.remainingSize
      omega
    · show 0 < writer.remainingSize
      omega
  · have size := le_remainingSize_addSegment pool writer rents sizeHint
    have minimum := valid.minimum
    refine ⟨valid_addSegment valid rents sizeHint, contents_addSegment valid rents sizeHint, ?_, ?_⟩
    · exact (Nat.le_max_right _ _).trans size
    · exact minimum.trans_le ((Nat.le_max_left _ _).trans size)

variable (pool) in
/-- A client has the bytes it commits in the buffer, one behind the other. -/
theorem appends : Appends (client pool) (fun state => state.1.Valid)
    (fun state => state.1.contents) where
  getSpan := by
    rintro ⟨writer, rents⟩ valid sizeHint
    obtain ⟨-, -, enough, positive⟩ := ensureCapacity_spec pool valid rents sizeHint
    exact ⟨enough, positive⟩
  advance := by
    rintro ⟨writer, rents⟩ valid sizeHint bytes fits
    obtain ⟨given, same, -, positive⟩ := ensureCapacity_spec pool valid rents sizeHint
    replace fits : bytes.length ≤
      (ensureCapacity pool (writer, rents) sizeHint).1.remainingSize := fits
    show ((ensureCapacity pool (writer, rents) sizeHint).1.advance bytes).Valid ∧
      ((ensureCapacity pool (writer, rents) sizeHint).1.advance bytes).contents = _
    generalize (ensureCapacity pool (writer, rents) sizeHint).1 = next at *
    cases isCurrent : next.currentSegment with
    | none =>
        rw [remainingSize_of_none isCurrent] at positive
        exact absurd positive (Nat.lt_irrefl 0)
    | some segment =>
        have inside := given.position
        rw [isCurrent] at inside
        rw [remainingSize, isCurrent] at fits
        replace inside : next.position ≤ segment.length := inside
        replace fits : bytes.length ≤ segment.length - next.position := fits
        have room : next.position + bytes.length ≤ segment.length := by omega
        refine ⟨valid_advance given isCurrent room, ?_⟩
        rw [contents_advance isCurrent room, same]

/-! ### Copies -/

theorem copyTo_eq (writer : MemoryBufferWriter) (destination : Bytes) :
    writer.copyTo destination = destination ++ writer.contents := by
  have loop : ∀ (segments : List CompletedBuffer) (destination : Bytes),
      segments.foldl (fun destination segment => destination ++ segment.span) destination =
        destination ++ segments.flatMap CompletedBuffer.span := by
    intro segments
    induction segments with
    | nil => exact fun destination => (List.append_nil _).symm
    | cons segment segments inductionHypothesis =>
        intro destination
        rw [List.foldl_cons, inductionHypothesis, List.flatMap_cons, List.append_assoc]
  rw [copyTo, loop, contents, List.append_assoc]

/-- A copy behind what is written already. -/
theorem copySpan_drop {source before behind : Bytes} (fits : source.length ≤ behind.length) :
    copySpan source ((before ++ behind).drop before.length) =
      .ok (source ++ behind.drop source.length) := by
  rw [List.drop_left, copySpan, if_pos fits]

theorem copySegments_eq (segments : List CompletedBuffer) (before behind : Bytes)
    (fits : (segments.flatMap CompletedBuffer.span).length ≤ behind.length) :
    let copied := segments.flatMap CompletedBuffer.span
    copySegments segments (before ++ behind) before.length =
      .ok ((before ++ copied) ++ behind.drop copied.length, (before ++ copied).length) := by
  induction segments generalizing before behind with
  | nil =>
      show Except.ok _ = _
      rw [List.flatMap_nil, List.append_nil]
      rfl
  | cons segment segments inductionHypothesis =>
      rw [List.flatMap_cons, List.length_append] at fits
      have inside : ¬(before ++ behind).length < before.length := by
        rw [List.length_append]
        omega
      rw [copySegments, if_neg inside, copySpan_drop (by omega)]
      show copySegments segments ((before ++ behind).take before.length ++ _) _ = _
      rw [List.take_left, ← List.append_assoc, ← List.length_append, inductionHypothesis]
      · rw [List.flatMap_cons, List.drop_drop]
        simp only [List.append_assoc, List.length_append]
      · rw [List.length_drop]
        omega

/-- The whole buffer is in front of the span, which keeps what is behind it. -/
theorem copyToSpan_eq (valid : writer.Valid) {span : Bytes}
    (fits : writer.contents.length ≤ span.length) :
    writer.copyToSpan span = .ok (writer.contents ++ span.drop writer.contents.length) := by
  rw [copyToSpan]
  cases isCurrent : writer.currentSegment with
  | none =>
      have empty : writer.contents = [] := by
        rw [contents, valid.empty isCurrent, currentSpan, isCurrent]
        exact List.take_nil
      rw [empty]
      rfl
  | some segment =>
      rw [contents, List.length_append] at fits
      have loop := copySegments_eq writer.segments [] span (by omega)
      rw [List.length_nil, List.nil_append] at loop
      rw [loop, contents]
      generalize writer.segments.flatMap CompletedBuffer.span = copied at fits ⊢
      have inside : ¬(copied ++ span.drop copied.length).length < copied.length := by
        rw [List.length_append]
        omega
      have room : writer.currentSpan.length ≤ (span.drop copied.length).length := by
        rw [List.length_drop]
        omega
      show (if (copied ++ span.drop copied.length).length < copied.length then _ else _) = _
      rw [if_neg inside]
      show (copySpan writer.currentSpan ((copied ++ _).drop copied.length) >>= _) = _
      rw [copySpan_drop room]
      show Except.ok ((copied ++ _).take copied.length ++ _) = _
      rw [List.take_left, List.drop_drop, List.length_append, List.append_assoc]

end Contents

end MemoryBufferWriter

end AzureSignalR.Common
