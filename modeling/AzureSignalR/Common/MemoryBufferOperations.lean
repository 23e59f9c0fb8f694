import AzureSignalR.Common.MemoryBufferWriter

/-!
Contract: `MemoryBufferWriter` under every sequence of its operations.

Owns: the three ways to write, spans of any size hint, `Length` and `ToArray`, and that the
segments stand for the bytes written since the last `Reset`.

Does not own: `Dispose` and the copies to a stream.
-/

set_option autoImplicit false

namespace AzureSignalR.Common.MemoryBufferWriter

open Library Library.BufferWriter

/-- The writer, and how often it has called `Rent`. -/
abbrev State := MemoryBufferWriter × Nat

/-! ## Spans -/

section Operations

variable (pool : ArrayPool)

/-- `EnsureCapacity`, for a hint that may be negative; a negative one is below the minimum
segment size. -/
def ensureCapacityFor (state : State) (sizeHint : Int32) : State :=
  if sizeHint.toInt = 0 ∧ 0 < state.1.remainingSize ∨
      0 < sizeHint.toInt ∧ sizeHint.toInt ≤ state.1.remainingSize then
    state
  else (state.1.addSegment pool state.2 sizeHint.toInt.toNat, state.2 + 1)

/-- `GetSpan` and `GetMemory`: the state and the length of what they return. -/
def getSpan (state : State) (sizeHint : Int32) : State × Nat :=
  let given := ensureCapacityFor pool state sizeHint
  (given, given.1.remainingSize)

/-- The client writes into the span that it was given. -/
def store (writer : MemoryBufferWriter) (text : Bytes) : MemoryBufferWriter :=
  { writer with
    currentSegment := writer.currentSegment.map fun segment =>
      segment.take writer.position ++ text ++ segment.drop (writer.position + text.length) }

/-- `Advance`. -/
def advanceBy (writer : MemoryBufferWriter) (count : Nat) : MemoryBufferWriter :=
  { writer with
    bytesWritten := writer.bytesWritten + Int32.ofNat count
    position := writer.position + count }

/-! ## Writing -/

def writeByte (state : State) (value : UInt8) : State :=
  let (writer, rents) := state
  if 0 < writer.remainingSize then ((writer.store [value]).advanceBy 1, rents)
  else (((writer.addSegment pool rents 0).store [value]).advanceBy 1, rents + 1)

/-- `BuffersExtensions.Write(this, span)`. -/
def writeSegments (state : State) (span : Bytes) : State :=
  BufferWriter.write (client pool) state span

/-- `Write(ReadOnlySpan<byte>)`; without a current segment the copy is not tried. -/
def writeSpan (state : State) (span : Bytes) : State :=
  let (writer, rents) := state
  if writer.currentSegment.isSome ∧ span.length ≤ writer.remainingSize then
    ((writer.store span).advanceBy span.length, rents)
  else writeSegments pool state span

/-- The part of an array, when there is one. -/
def slice (buffer : Bytes) (offset count : Int32) : Option Bytes :=
  if 0 ≤ offset.toInt ∧ 0 ≤ count.toInt ∧ offset.toInt + count.toInt ≤ buffer.length then
    some ((buffer.drop offset.toInt.toNat).take count.toInt.toNat)
  else none

/-- What `Buffer.BlockCopy` throws for a part that there is not. -/
def blockCopyError (offset count : Int32) : Exn :=
  if offset.toInt < 0 then .argumentOutOfRange "srcOffset"
  else if count.toInt < 0 then .argumentOutOfRange "count"
  else
    .argument ("Offset and length were out of bounds for the array or count is greater than " ++
      "the number of elements from index to the end of the source collection.")

/-- `Write(byte[], int, int)`. -/
def write (state : State) (buffer : Bytes) (offset count : Int32) : Except Exn State :=
  let (writer, rents) := state
  -- `_currentSegment.Length - count` is a 32-bit difference.
  let fast := match writer.currentSegment with
    | some segment => decide
        ((writer.position : Int) < Int.bmod (segment.length - count.toInt) (2 ^ 32))
    | none => false
  match slice buffer offset count with
  | some part =>
      if fast then .ok ((writer.store part).advanceBy part.length, rents)
      else .ok (writeSegments pool state part)
  | none =>
      if fast then .error (blockCopyError offset count)
      else .error (.argumentOutOfRange "")

/-! ## Reading -/

/-- `Length`. -/
def length (writer : MemoryBufferWriter) : Int := writer.bytesWritten.toInt

/-- `ToArray`. Its loop is that of `CopyTo(Span<byte>)`. -/
def toArray (writer : MemoryBufferWriter) : Except Exn Bytes :=
  if writer.currentSegment = none then .ok []
  else do
    let result ← newArray writer.bytesWritten.toInt
    writer.copyToSpan result

/-- `CopyTo(IBufferWriter<byte>)`, to any buffer writer. -/
def copyToBufferWriter {σ : Type} (destination : BufferWriter.Writer σ UInt8)
    (writer : MemoryBufferWriter) (state : σ) : σ :=
  BufferWriter.write destination
    (writer.segments.foldl
      (fun state segment => BufferWriter.write destination state segment.span) state)
    writer.currentSpan

/-! ## Sequences of operations -/

inductive Operation where
  | write (buffer : Bytes) (offset count : Int32)
  | writeSpan (span : Bytes)
  | writeByte (value : UInt8)
  /-- `GetSpan` or `GetMemory`; the client writes `bytes` and `behind` in front of what it gets
  and advances by the number of `bytes`. -/
  | fill (sizeHint : Int32) (bytes behind : Bytes)
  | reset
deriving DecidableEq, Repr

/-- `none` where the client writes more than it was given. A `Write` that throws changes
nothing. -/
def perform (state : State) : Operation → Option State
  | .write buffer offset count =>
      match write pool state buffer offset count with
      | .ok next => some next
      | .error _ => some state
  | .writeSpan span => some (writeSpan pool state span)
  | .writeByte value => some (writeByte pool state value)
  | .fill sizeHint bytes behind =>
      let (given, returned) := getSpan pool state sizeHint
      if bytes.length + behind.length ≤ returned then
        some ((given.1.store (bytes ++ behind)).advanceBy bytes.length, given.2)
      else none
  | .reset => some (state.1.reset, state.2)

def performAll : State → List Operation → Option State
  | state, [] => some state
  | state, operation :: operations => (perform pool state operation).bind (performAll · operations)

end Operations

/-- The byte list that the buffer stands for. -/
def written (bytes : Bytes) : Operation → Bytes
  | .write buffer offset count => bytes ++ (slice buffer offset count).getD []
  | .writeSpan span => bytes ++ span
  | .writeByte value => bytes ++ [value]
  | .fill _ filled _ => bytes ++ filled
  | .reset => []

def start (minimumSegmentSize : Nat) : State := ({ minimumSegmentSize := minimumSegmentSize }, 0)

/-! ## One operation -/

section Steps

variable {pool : ArrayPool} {writer : MemoryBufferWriter}

theorem valid_start {minimumSegmentSize : Nat} (positive : 0 < minimumSegmentSize) :
    (start minimumSegmentSize).1.Valid :=
  ⟨positive, Nat.le_refl 0, rfl, fun _ => rfl⟩

/-- Where there is space, there is a segment. -/
theorem exists_segment (valid : writer.Valid) {count : Nat} (fits : count ≤ writer.remainingSize)
    (current : writer.currentSegment.isSome) :
    ∃ segment, writer.currentSegment = some segment ∧ writer.position + count ≤ segment.length := by
  obtain ⟨segment, isCurrent⟩ := Option.isSome_iff_exists.mp current
  have inside := valid.position
  rw [isCurrent] at inside
  rw [remainingSize, isCurrent] at fits
  replace inside : writer.position ≤ segment.length := inside
  replace fits : count ≤ segment.length - writer.position := fits
  exact ⟨segment, isCurrent, by omega⟩

theorem isSome_of_remainingSize (positive : 0 < writer.remainingSize) :
    writer.currentSegment.isSome := by
  cases isCurrent : writer.currentSegment with
  | none =>
      rw [remainingSize_of_none isCurrent] at positive
      exact absurd positive (Nat.lt_irrefl 0)
  | some segment => rfl

/-- Bytes that are written into the space and advanced over. -/
theorem advance_spec (valid : writer.Valid) {bytes : Bytes}
    (fits : bytes.length ≤ writer.remainingSize) (current : writer.currentSegment.isSome) :
    ((writer.store bytes).advanceBy bytes.length).Valid ∧
      ((writer.store bytes).advanceBy bytes.length).contents = writer.contents ++ bytes := by
  obtain ⟨segment, isCurrent, room⟩ := exists_segment valid fits current
  exact ⟨valid_advance valid isCurrent room, contents_advance isCurrent room⟩

/-- Bytes behind the position are not committed. -/
theorem store_spec (valid : writer.Valid) {text : Bytes}
    (fits : text.length ≤ writer.remainingSize) (current : writer.currentSegment.isSome) :
    (writer.store text).Valid ∧ (writer.store text).contents = writer.contents ∧
      (writer.store text).remainingSize = writer.remainingSize := by
  obtain ⟨segment, isCurrent, room⟩ := exists_segment valid fits current
  have before : writer.currentSpan = segment.take writer.position := by
    rw [currentSpan, isCurrent]
    rfl
  have front : (segment.take writer.position).length = writer.position :=
    List.length_take_of_le (by omega)
  obtain ⟨stored, isStored⟩ : ∃ stored, segment.take writer.position ++ text ++
      segment.drop (writer.position + text.length) = stored := ⟨_, rfl⟩
  have after : (writer.store text).currentSegment = some stored := by
    rw [store, isCurrent, ← isStored]
    rfl
  have sameLength : stored.length = segment.length := by
    rw [← isStored, List.length_append, List.length_append, front, List.length_drop]
    omega
  have same : (writer.store text).contents = writer.contents := by
    rw [contents, contents, before, currentSpan, after]
    show _ ++ stored.take writer.position = _
    rw [← isStored, List.append_assoc, List.take_left' front]
    rfl
  refine ⟨⟨valid.minimum, ?_, ?_, ?_⟩, same, ?_⟩
  · rw [after]
    show writer.position ≤ stored.length
    omega
  · rw [same]
    exact valid.counted
  · intro absent
    rw [after] at absent
    cases absent
  · rw [remainingSize, remainingSize, after, isCurrent]
    show stored.length - writer.position = segment.length - writer.position
    rw [sameLength]

theorem overwrite_same (front bytes behind : Bytes) :
    (front ++ bytes ++ behind).take front.length ++ bytes ++
      (front ++ bytes ++ behind).drop (front.length + bytes.length) = front ++ bytes ++ behind := by
  rw [← List.length_append, List.drop_left, List.append_assoc front, List.take_left,
    List.append_assoc front]

/-- What is stored once more is there already. -/
theorem store_again (valid : writer.Valid) {bytes behind : Bytes}
    (fits : (bytes ++ behind).length ≤ writer.remainingSize)
    (current : writer.currentSegment.isSome) :
    (writer.store (bytes ++ behind)).store bytes = writer.store (bytes ++ behind) := by
  obtain ⟨segment, isCurrent, room⟩ := exists_segment valid fits current
  have front : (segment.take writer.position).length = writer.position :=
    List.length_take_of_le (by omega)
  have same := overwrite_same (segment.take writer.position) bytes
    (behind ++ segment.drop (writer.position + (bytes ++ behind).length))
  rw [front] at same
  simp only [List.append_assoc] at same
  simp only [store, isCurrent, Option.map_some, List.append_assoc]
  rw [same]

theorem getSpan_spec (pool : ArrayPool) {state : State} (valid : state.1.Valid)
    (sizeHint : Int32) :
    (getSpan pool state sizeHint).1.1.Valid ∧
      (getSpan pool state sizeHint).1.1.contents = state.1.contents ∧
      sizeHint.toInt ≤ (getSpan pool state sizeHint).2 ∧
      0 < (getSpan pool state sizeHint).2 := by
  unfold getSpan ensureCapacityFor
  split_ifs with enough
  · refine ⟨valid, rfl, ?_, ?_⟩
    · show sizeHint.toInt ≤ (state.1.remainingSize : Int)
      omega
    · show 0 < state.1.remainingSize
      omega
  · have size := le_remainingSize_addSegment pool state.1 state.2 sizeHint.toInt.toNat
    have minimum := valid.minimum
    refine ⟨valid_addSegment valid _ _, contents_addSegment valid _ _, ?_, ?_⟩
    · show sizeHint.toInt ≤
        ((state.1.addSegment pool state.2 sizeHint.toInt.toNat).remainingSize : Int)
      omega
    · show 0 < (state.1.addSegment pool state.2 sizeHint.toInt.toNat).remainingSize
      omega

theorem writeByte_spec (pool : ArrayPool) {state : State} (valid : state.1.Valid)
    (value : UInt8) : (writeByte pool state value).1.Valid ∧
      (writeByte pool state value).1.contents = state.1.contents ++ [value] := by
  obtain ⟨writer, rents⟩ := state
  replace valid : writer.Valid := valid
  simp only [writeByte]
  split_ifs with room
  · have one : ([value] : Bytes).length ≤ writer.remainingSize := room
    exact advance_spec valid one (isSome_of_remainingSize room)
  · have size := le_remainingSize_addSegment pool writer rents 0
    have positive := valid.minimum
    have one : ([value] : Bytes).length ≤ (writer.addSegment pool rents 0).remainingSize := by
      show 1 ≤ _
      omega
    have spec := advance_spec (valid_addSegment valid rents 0) one rfl
    rw [contents_addSegment valid] at spec
    exact spec

theorem writeSegments_spec (pool : ArrayPool) {state : State} (valid : state.1.Valid)
    (span : Bytes) : (writeSegments pool state span).1.Valid ∧
      (writeSegments pool state span).1.contents = state.1.contents ++ span :=
  (appends pool).write valid span

theorem writeSpan_spec (pool : ArrayPool) {state : State} (valid : state.1.Valid)
    (span : Bytes) : (writeSpan pool state span).1.Valid ∧
      (writeSpan pool state span).1.contents = state.1.contents ++ span := by
  obtain ⟨writer, rents⟩ := state
  replace valid : writer.Valid := valid
  simp only [writeSpan]
  split_ifs with room
  · exact advance_spec valid room.2 room.1
  · exact writeSegments_spec pool valid span

theorem slice_length {buffer part : Bytes} {offset count : Int32}
    (isSlice : slice buffer offset count = some part) : (part.length : Int) = count.toInt := by
  rw [slice] at isSlice
  split_ifs at isSlice with inside
  cases isSlice
  rw [List.length_take_of_le]
  · omega
  · rw [List.length_drop]
    omega

theorem bmod_le_of_neg_le {value : Int} (lower : -2 ^ 31 ≤ value) :
    Int.bmod value (2 ^ 32) ≤ value := by
  rw [Int.bmod_def]
  split_ifs
  · omega
  · omega

/-- The part of the array is behind the rest; there is none where it throws. -/
theorem write_spec (pool : ArrayPool) {state : State} (valid : state.1.Valid) (buffer : Bytes)
    (offset count : Int32) :
    match slice buffer offset count with
    | some part => ∃ next, write pool state buffer offset count = .ok next ∧ next.1.Valid ∧
        next.1.contents = state.1.contents ++ part
    | none => ∃ error, write pool state buffer offset count = .error error := by
  obtain ⟨writer, rents⟩ := state
  replace valid : writer.Valid := valid
  simp only [write]
  cases isSlice : slice buffer offset count with
  | none =>
      simp only
      split_ifs
      · exact ⟨_, rfl⟩
      · exact ⟨_, rfl⟩
  | some part =>
      simp only
      split_ifs with fast
      · refine ⟨_, rfl, ?_⟩
        have length := slice_length isSlice
        cases isCurrent : writer.currentSegment with
        | none =>
            rw [isCurrent] at fast
            cases fast
        | some segment =>
            rw [isCurrent] at fast
            have shorter := of_decide_eq_true fast
            have most := count.toInt_lt
            have lower : -2 ^ 31 ≤ (segment.length : Int) - count.toInt := by omega
            have least := bmod_le_of_neg_le lower
            apply advance_spec valid
            · rw [remainingSize, isCurrent]
              show part.length ≤ segment.length - writer.position
              omega
            · rw [isCurrent]
              rfl
      · exact ⟨_, rfl, writeSegments_spec pool valid part⟩

/-- What the client writes behind the bytes that it advances over is not committed. -/
theorem fill_spec (valid : writer.Valid) {bytes behind : Bytes}
    (fits : bytes.length + behind.length ≤ writer.remainingSize)
    (positive : 0 < writer.remainingSize) :
    ((writer.store (bytes ++ behind)).advanceBy bytes.length).Valid ∧
      ((writer.store (bytes ++ behind)).advanceBy bytes.length).contents =
        writer.contents ++ bytes := by
  have current := isSome_of_remainingSize positive
  have together : (bytes ++ behind).length ≤ writer.remainingSize := by
    rw [List.length_append]
    exact fits
  obtain ⟨isValid, same, space⟩ := store_spec valid together current
  have again := store_again valid together current
  have room : bytes.length ≤ (writer.store (bytes ++ behind)).remainingSize := by omega
  have spec := advance_spec isValid room (isSome_of_remainingSize (by omega))
  rw [again, same] at spec
  exact spec

/-- One operation does to the contents what it does to the byte list. -/
theorem perform_spec (pool : ArrayPool) {state next : State} (valid : state.1.Valid)
    {operation : Operation} (performed : perform pool state operation = some next) :
    next.1.Valid ∧ next.1.contents = written state.1.contents operation := by
  cases operation with
  | write buffer offset count =>
      have spec := write_spec pool valid buffer offset count
      unfold perform at performed
      rw [written]
      cases isSlice : slice buffer offset count with
      | none =>
          rw [isSlice] at spec
          obtain ⟨error, isError⟩ := spec
          simp only [isError] at performed
          cases performed
          exact ⟨valid, (List.append_nil _).symm⟩
      | some part =>
          rw [isSlice] at spec
          obtain ⟨after, isAfter, isValid, same⟩ := spec
          simp only [isAfter] at performed
          cases performed
          exact ⟨isValid, same⟩
  | writeSpan span =>
      cases performed
      exact writeSpan_spec pool valid span
  | writeByte value =>
      cases performed
      exact writeByte_spec pool valid value
  | fill sizeHint bytes behind =>
      obtain ⟨isValid, same, -, positive⟩ := getSpan_spec pool valid sizeHint
      simp only [perform] at performed
      split_ifs at performed with fits
      cases performed
      rw [written, ← same]
      exact fill_spec isValid fits positive
  | reset =>
      cases performed
      exact valid_reset valid.minimum

theorem performAll_spec (pool : ArrayPool) {operations : List Operation} {state next : State}
    (valid : state.1.Valid) (performed : performAll pool state operations = some next) :
    next.1.Valid ∧ next.1.contents = operations.foldl written state.1.contents := by
  induction operations generalizing state with
  | nil =>
      cases performed
      exact ⟨valid, rfl⟩
  | cons operation operations inductionHypothesis =>
      rw [performAll] at performed
      obtain ⟨middle, first, rest⟩ := Option.bind_eq_some_iff.mp performed
      obtain ⟨isValid, same⟩ := perform_spec pool valid first
      rw [List.foldl_cons, ← same]
      exact inductionHypothesis isValid rest

/-! ## What is read -/

theorem length_eq (valid : writer.Valid) (small : writer.contents.length < 2 ^ 31) :
    writer.length = writer.contents.length := by
  rw [length, valid.counted]
  exact Int32.toInt_ofNat_of_lt small

theorem toArray_eq (valid : writer.Valid) (small : writer.contents.length ≤ maxArrayLength) :
    writer.toArray = .ok writer.contents := by
  have limit : maxArrayLength < 2 ^ 31 := by decide
  have isLength := length_eq valid (small.trans_lt limit)
  rw [length] at isLength
  rw [toArray, isLength]
  split_ifs with none
  · rw [contents, valid.empty none, currentSpan, none]
    exact congrArg Except.ok List.take_nil.symm
  · rw [newArray_of_le small]
    show writer.copyToSpan (List.replicate writer.contents.length 0) = _
    rw [copyToSpan_eq valid (by rw [List.length_replicate]),
      List.drop_of_length_le (by rw [List.length_replicate]), List.append_nil]

/-- With more bytes than an array has, `ToArray` throws. -/
theorem toArray_of_long (valid : writer.Valid) (long : maxArrayLength < writer.contents.length)
    (small : writer.contents.length < 2 ^ 31) : writer.toArray = .error .outOfMemory := by
  have isLength := length_eq valid small
  rw [length] at isLength
  rw [toArray, isLength, if_neg]
  · rw [newArray, if_neg (by omega), if_pos (by omega)]
    rfl
  · intro none
    have empty : writer.contents = [] := by
      rw [contents, valid.empty none, currentSpan, none]
      exact List.take_nil
    rw [empty] at long
    exact absurd long (Nat.not_lt_zero _)

theorem copyToBufferWriter_spec {σ : Type} {destination : BufferWriter.Writer σ UInt8}
    {valid : σ → Prop} {contentsOf : σ → Bytes}
    (appends : Appends destination valid contentsOf) (writer : MemoryBufferWriter) {target : σ}
    (isValid : valid target) :
    valid (copyToBufferWriter destination writer target) ∧
      contentsOf (copyToBufferWriter destination writer target) =
        contentsOf target ++ writer.contents := by
  have loop : ∀ (segments : List CompletedBuffer) (target : σ), valid target →
      valid (segments.foldl
          (fun state segment => BufferWriter.write destination state segment.span) target) ∧
        contentsOf (segments.foldl
          (fun state segment => BufferWriter.write destination state segment.span) target) =
          contentsOf target ++ segments.flatMap CompletedBuffer.span := by
    intro segments
    induction segments with
    | nil => exact fun target isValid => ⟨isValid, (List.append_nil _).symm⟩
    | cons segment segments inductionHypothesis =>
        intro target isValid
        obtain ⟨next, same⟩ := appends.write isValid segment.span
        obtain ⟨last, all⟩ := inductionHypothesis _ next
        refine ⟨last, ?_⟩
        rw [List.foldl_cons, all, same, List.flatMap_cons, List.append_assoc]
  obtain ⟨front, same⟩ := loop writer.segments target isValid
  obtain ⟨last, all⟩ := appends.write front writer.currentSpan
  refine ⟨last, ?_⟩
  rw [copyToBufferWriter, all, same, contents, List.append_assoc]

end Steps

/-! ## The byte list -/

/-- Everything that can be read agrees with the bytes, and every span is long enough. `Length`
counts with 32 bits, and the result of `ToArray` is one array. -/
structure Agrees (pool : ArrayPool) (state : State) (bytes : Bytes) : Prop where
  length : bytes.length < 2 ^ 31 → state.1.length = bytes.length
  toArray : bytes.length ≤ maxArrayLength → state.1.toArray = .ok bytes
  toArrayThrows : maxArrayLength < bytes.length → bytes.length < 2 ^ 31 →
    state.1.toArray = .error .outOfMemory
  copyToSpan : ∀ span : Bytes, bytes.length ≤ span.length →
    state.1.copyToSpan span = .ok (bytes ++ span.drop bytes.length)
  copyToBufferWriter : ∀ {σ : Type} {destination : BufferWriter.Writer σ UInt8}
    {valid : σ → Prop} {contentsOf : σ → Bytes}, Appends destination valid contentsOf →
      ∀ target, valid target →
        contentsOf (state.1.copyToBufferWriter destination target) = contentsOf target ++ bytes
  spans : ∀ sizeHint, sizeHint.toInt ≤ (getSpan pool state sizeHint).2 ∧
    0 < (getSpan pool state sizeHint).2

theorem Agrees.of_valid (pool : ArrayPool) {state : State} (valid : state.1.Valid) :
    Agrees pool state state.1.contents where
  length := length_eq valid
  toArray := toArray_eq valid
  toArrayThrows := toArray_of_long valid
  copyToSpan _ fits := copyToSpan_eq valid fits
  copyToBufferWriter appends _ isValid := (copyToBufferWriter_spec appends state.1 isValid).2
  spans sizeHint := (getSpan_spec pool valid sizeHint).2.2

/-- Behind every sequence of operations, the buffer is the bytes written since the last reset. -/
theorem segments_refine_bytes (pool : ArrayPool) {minimumSegmentSize : Nat}
    (positive : 0 < minimumSegmentSize) {operations : List Operation} {state : State}
    (performed : performAll pool (start minimumSegmentSize) operations = some state) :
    Agrees pool state (operations.foldl written []) := by
  obtain ⟨valid, same⟩ := performAll_spec pool (valid_start positive) performed
  have agrees := Agrees.of_valid pool valid
  rw [same] at agrees
  exact agrees

/-- A pool that gives cleared arrays of the requested length. -/
def cleared : ArrayPool where
  rent _ minimumLength := List.replicate minimumLength 0
  le_length _ _ := by rw [List.length_replicate]

def sampleOperations : List Operation :=
  [.writeByte 1, .reset, .write [1, 2, 3] 1 2, .fill 3 [4] [5, 6], .writeSpan [7, 8, 9]]

theorem segments_refine_bytes_small : ∃ state,
    performAll cleared (start 2) sampleOperations = some state ∧
      Agrees cleared state [2, 3, 4, 7, 8, 9] := by
  have agrees := @segments_refine_bytes cleared 2 (by decide) sampleOperations _ rfl
  exact ⟨_, rfl, agrees⟩

theorem length_writeSpans (pool : ArrayPool) {span : Bytes} (large : span.length = 2 ^ 30) :
    ∃ state, performAll pool (start 4096) [.writeSpan span, .writeSpan span] = some state ∧
      state.1.length = -2 ^ 31 := by
  refine ⟨_, rfl, ?_⟩
  obtain ⟨first, one⟩ := writeSpan_spec pool (valid_start (show 0 < 4096 by decide)) span
  obtain ⟨second, both⟩ := writeSpan_spec pool first span
  have total : (writeSpan pool (writeSpan pool (start 4096) span) span).1.contents.length =
      2 ^ 31 := by
    rw [both, one, List.length_append, List.length_append, large]
    rfl
  show length _ = _
  rw [length, second.counted, total]
  decide

/-- Behind two writes of a gigabyte each, `Length` is negative. -/
theorem length_wraps : ∃ state, performAll cleared (start 4096)
    [.writeSpan (List.replicate (2 ^ 30) 0), .writeSpan (List.replicate (2 ^ 30) 0)] =
      some state ∧ state.1.length ≠ (([.writeSpan (List.replicate (2 ^ 30) 0),
        .writeSpan (List.replicate (2 ^ 30) 0)] : List Operation).foldl written []).length := by
  have large : (List.replicate (2 ^ 30) (0 : UInt8)).length = 2 ^ 30 := List.length_replicate
  obtain ⟨state, performed, negative⟩ := length_writeSpans cleared large
  refine ⟨state, performed, ?_⟩
  rw [negative]
  omega

end AzureSignalR.Common.MemoryBufferWriter
