import AzureSignalR.Common.MemoryBufferWriter
import AzureSignalR.Library.Utf16
import Mathlib.Algebra.Group.Nat.Defs
import Mathlib.Data.List.Basic

/-!
Contract: text and bytes written through the pooled buffers of `MemoryPoolTextWriter`.

Owns: the character buffer, the encoder, the growing byte buffer, the writes and `Flush`, and
that the bytes are the UTF-8 of what was written, in order.

Does not own: the pool, which gives arrays out and takes them back, and the serializers that
write. Code units are `UInt16`, and .NET's encoder puts U+FFFD in the place of half a pair.
-/

set_option autoImplicit false

namespace AzureSignalR.AspNet.MemoryPoolTextWriter

open Common (maxArrayLength)
open Library Library.Utf16

abbrev Bytes := List UInt8

abbrev Text := List UInt16

inductive Failure where
  | argument
  | invalidOperation (message : String)
  /-- A loop has gone round more often than it has text left. -/
  | endless
deriving DecidableEq, Repr

/-- `IMemoryPool`. It has a state of its own: what it gives out may be what came back before. -/
structure MemoryPool (σ : Type) where
  allocChar : σ → Int → Text × σ
  allocByte : σ → Int → Bytes × σ
  freeByte : σ → Bytes → σ

/-- The pool's arrays are at least as long as asked for, if an array can be; their contents are
anything. -/
structure MemoryPool.Serves {σ : Type} (pool : MemoryPool σ) : Prop where
  allocChar : ∀ memory (size : Nat), size ≤ maxArrayLength →
    size ≤ (pool.allocChar memory size).1.length
  allocByte : ∀ memory (size : Nat), size ≤ maxArrayLength →
    size ≤ (pool.allocByte memory size).1.length

/-- An `int` is kept modulo `2 ^ 32`. -/
def int32 (value : Int) : Int := value.bmod (2 ^ 32)

/-- `Array.Copy`, which checks both ranges. -/
def arrayCopy {α : Type} (source : List α) (sourceIndex : Nat) (target : List α) (targetIndex : Nat)
    (count : Nat) : Except Failure (List α) :=
  if sourceIndex + count ≤ source.length ∧ targetIndex + count ≤ target.length then
    .ok (target.take targetIndex ++ (source.drop sourceIndex).take count ++
      target.drop (targetIndex + count))
  else .error .argument

/-- `Encoding.UTF8.GetEncoder()`. -/
def encoder : Transducer (Option UInt16) UInt16 UInt8 := decoder.mapOutput String.utf8EncodeChar

def textLength : Nat := 128

structure Writer (σ : Type) where
  memory : σ
  textArray : Text
  textBegin : Nat := 0
  textEnd : Nat := 0
  dataArray : Bytes := []
  dataEnd : Nat := 0
  encoderState : Option UInt16 := none
deriving Repr

inductive Call where
  | char (value : UInt16)
  | chars (value : Text) (index length : Nat)
  | string (value : Text)
  | bytes (data : Bytes)
  | flush
deriving Repr

section Operations

variable {σ : Type} (pool : MemoryPool σ)

def create (memory : σ) : Writer σ where
  memory := (pool.allocChar memory textLength).2
  textArray := (pool.allocChar memory textLength).1

def Writer.buffer (writer : Writer σ) : Bytes := writer.dataArray.take writer.dataEnd

def Writer.newLength (writer : Writer σ) (minimumAvailable : Nat) : Int :=
  int32 (writer.dataArray.length + max writer.dataArray.length minimumAvailable)

def Writer.grow (writer : Writer σ) (minimumAvailable : Nat) : Except Failure (Writer σ) := do
  if minimumAvailable ≤ writer.dataArray.length - writer.dataEnd then
    return writer
  let given := pool.allocByte writer.memory (writer.newLength minimumAvailable)
  let dataArray ← arrayCopy writer.dataArray 0 given.1 0 writer.dataEnd
  return { writer with
    memory := pool.freeByte given.2 writer.dataArray
    dataArray }

/-- Put bytes behind those that are there. -/
def Writer.append (writer : Writer σ) (data : Bytes) : Except Failure (Writer σ) := do
  let dataArray ← arrayCopy data 0 writer.dataArray writer.dataEnd data.length
  return { writer with dataArray, dataEnd := writer.dataEnd + data.length }

/-- `GetByteCount` counts what `GetBytes` puts out, and leaves the encoder as it is. -/
def Writer.encode (writer : Writer σ) (flush : Bool) : Except Failure (Writer σ) := do
  let text := (writer.textArray.take writer.textEnd).drop writer.textBegin
  let (encoderState, data) := encoder.feed writer.encoderState text flush
  let writer ← writer.grow pool data.length
  let writer ← writer.append data
  return { writer with encoderState, textBegin := 0, textEnd := 0 }

/-- Encode the text if its buffer is full. -/
def Writer.makeRoom (writer : Writer σ) : Except Failure (Writer σ) :=
  if textLength = writer.textEnd then writer.encode pool false else .ok writer

def Writer.writeChar (writer : Writer σ) (value : UInt16) : Except Failure (Writer σ) := do
  let writer ← writer.makeRoom pool
  if textLength = writer.textEnd then
    throw (.invalidOperation "Unexplainable failure to encode text")
  let textArray ← arrayCopy [value] 0 writer.textArray writer.textEnd 1
  return { writer with textArray, textEnd := writer.textEnd + 1 }

/-- `index + length`, for the loop below: a negative sum is below every index. -/
def endOf (index length : Nat) : Nat := (int32 (index + length)).toNat

/-- The loop of the writes of an array and of a string. Every round takes a character, so one
more than their number bounds the rounds. -/
def Writer.writeFrom (source : Text) (sourceLength : Nat) :
    (bound : Nat) → (sourceIndex : Nat) → Writer σ → Except Failure (Writer σ)
  | 0, _, _ => .error .endless
  | bound + 1, sourceIndex, writer =>
      if sourceIndex < sourceLength then do
        let writer ← writer.makeRoom pool
        let count := min (sourceLength - sourceIndex) (textLength - writer.textEnd)
        let textArray ← arrayCopy source sourceIndex writer.textArray writer.textEnd count
        writeFrom source sourceLength bound (sourceIndex + count)
          { writer with textArray, textEnd := writer.textEnd + count }
      else .ok writer

/-- `Write(char[], int, int)`. -/
def Writer.writeChars (writer : Writer σ) (value : Text) (index length : Nat) :
    Except Failure (Writer σ) :=
  writer.writeFrom pool value (endOf index length) (length + 1) index

/-- `Write(string)`. -/
def Writer.writeString (writer : Writer σ) (value : Text) : Except Failure (Writer σ) :=
  writer.writeFrom pool value value.length (value.length + 1) 0

/-- The loop of `Flush`: `Encode` empties the buffer, so it is looked at twice. -/
def Writer.flushFrom : (bound : Nat) → Writer σ → Except Failure (Writer σ)
  | 0, _ => .error .endless
  | bound + 1, writer =>
      if writer.textBegin ≠ writer.textEnd then do
        let writer ← writer.encode pool true
        flushFrom bound writer
      else .ok writer

def Writer.flush (writer : Writer σ) : Except Failure (Writer σ) := writer.flushFrom pool 2

/-- `Write(ArraySegment<byte>)`. -/
def Writer.writeBytes (writer : Writer σ) (data : Bytes) : Except Failure (Writer σ) := do
  let writer ← writer.flush pool
  let writer ← writer.grow pool data.length
  writer.append data

def Writer.call (writer : Writer σ) : Call → Except Failure (Writer σ)
  | .char value => writer.writeChar pool value
  | .chars value index length => writer.writeChars pool value index length
  | .string value => writer.writeString pool value
  | .bytes data => writer.writeBytes pool data
  | .flush => writer.flush pool

def Writer.calls (writer : Writer σ) (calls : List Call) : Except Failure (Writer σ) :=
  calls.foldlM (Writer.call pool) writer

end Operations

/-! ## What the writes stand for -/

/-- The bytes in front of the last flush, and the text behind it. -/
structure Written where
  output : Bytes := []
  text : Text := []
deriving Repr

/-- The UTF-8 of a text, without any buffer. -/
def utf8 (text : Text) : Bytes := (decode text).flatMap String.utf8EncodeChar

theorem endOf_le (index length : Nat) : endOf index length ≤ index + length := by
  have wraps : Int.bmod (index + length) (2 ^ 32) ≤ index + length := by
    rw [Int.bmod_def]
    split_ifs
    · omega
    · omega
  rw [endOf, int32]
  omega

def Call.text : Call → Text
  | .char value => [value]
  | .chars value index length => (value.drop index).take (endOf index length - index)
  | .string value => value
  | .bytes _ => []
  | .flush => []

/-- The range is in the array. -/
def Call.inRange : Call → Bool
  | .chars value index length => endOf index length ≤ value.length
  | _ => true

namespace Written

def flush (written : Written) : Written where
  output := written.output ++ utf8 written.text

def add (written : Written) (text : Text) : Written := { written with text := written.text ++ text }

def call (written : Written) : Call → Written
  | .bytes data => { output := written.flush.output ++ data }
  | .flush => written.flush
  | other => written.add other.text

/-- What has been put out of it before the flush. -/
def early (written : Written) : Bytes := written.output ++ encoder.early written.text

end Written

/-- The bytes that calls stand for in the end. -/
def contents (calls : List Call) : Bytes := (calls.foldl Written.call {}).flush.output

/-! ## What has been put out stays -/

theorem transduce_encoder (text : Text) : encoder.transduce text = utf8 text := by
  rw [encoder, Transducer.transduce_mapOutput, transduce_decoder]
  rfl

namespace Written

theorem early_flush (written : Written) : written.flush.early = written.flush.output :=
  List.append_nil _

theorem early_le_flush (written : Written) : written.early <+: written.flush.early := by
  rw [early_flush, flush, ← transduce_encoder]
  exact (List.prefix_append_right_inj _).mpr (encoder.early_transduce _)

theorem early_le_add (written : Written) (text : Text) :
    written.early <+: (written.add text).early :=
  (List.prefix_append_right_inj _).mpr (encoder.early_append _ _)

theorem early_le_bytes (written : Written) (data : Bytes) :
    written.flush.early <+: (written.call (.bytes data)).early := by
  rw [early_flush]
  show _ <+: written.flush.output ++ data ++ []
  rw [List.append_nil]
  exact List.prefix_append _ _

theorem early_le_call (written : Written) (call : Call) :
    written.early <+: (written.call call).early := by
  cases call with
  | char | chars | string => exact written.early_le_add _
  | bytes data => exact written.early_le_flush.trans (written.early_le_bytes data)
  | flush => exact written.early_le_flush

theorem early_le_calls (written : Written) (calls : List Call) :
    written.early <+: (calls.foldl call written).early := by
  induction calls generalizing written with
  | nil => exact List.prefix_rfl
  | cons call calls inductionHypothesis =>
      exact (written.early_le_call call).trans (inductionHypothesis _)

end Written

/-! ## Results -/

/-- What a call may return, and that it does return where it has to. -/
structure Returns {α : Type} (must : Prop) (may : α → Prop) (result : Except Failure α) : Prop where
  sound : ∀ value, result = .ok value → may value
  complete : must → ∃ value, result = .ok value

namespace Returns

variable {α β : Type} {must : Prop} {may : α → Prop} {mayNext : β → Prop}

theorem ok {value : α} (holds : may value) : Returns must may (.ok value) where
  sound _ same := Except.ok.inj same ▸ holds
  complete _ := ⟨value, rfl⟩

theorem error {failure : Failure} (impossible : ¬ must) :
    Returns must may (.error failure : Except Failure α) where
  sound _ same := (by cases same)
  complete required := (impossible required).elim

theorem bind {result : Except Failure α} {next : α → Except Failure β}
    (first : Returns must may result)
    (second : ∀ value, may value → Returns must mayNext (next value)) :
    Returns must mayNext (result >>= next) := by
  cases result with
  | error failure =>
      apply error
      intro required
      obtain ⟨value, same⟩ := first.complete required
      cases same
  | ok value => exact second value (first.sound value rfl)

end Returns

/-- What `Array.Copy` leaves in the target. -/
structure Copied {α : Type} (source : List α) (sourceIndex : Nat) (target : List α)
    (targetIndex count : Nat) (result : List α) : Prop where
  length_eq : result.length = target.length
  inTarget : targetIndex + count ≤ target.length
  take_eq : result.take (targetIndex + count) =
    target.take targetIndex ++ (source.drop sourceIndex).take count

theorem arrayCopy_returns {α : Type} {must : Prop} {source target : List α}
    {sourceIndex targetIndex count : Nat}
    (fits : must → sourceIndex + count ≤ source.length ∧ targetIndex + count ≤ target.length) :
    Returns must (Copied source sourceIndex target targetIndex count)
      (arrayCopy source sourceIndex target targetIndex count) := by
  rw [arrayCopy]
  split_ifs with inside
  · have front : (target.take targetIndex ++ (source.drop sourceIndex).take count).length =
        targetIndex + count := by
      rw [List.length_append, List.length_take, List.length_take, List.length_drop]
      omega
    apply Returns.ok
    refine ⟨?_, inside.2, List.take_left' front⟩
    rw [List.length_append, front, List.length_drop]
    omega
  · exact Returns.error fun required => inside (fits required)

/-! ## The byte buffer -/

section Steps

variable {σ : Type} {pool : MemoryPool σ} {must : Prop}

/-- Up to here, doubling the buffer never asks for more than an array can have. -/
def maximum : Nat := 0x3FFFFFE4

/-- The text side is as before, and the data is behind the bytes. -/
structure Put (writer : Writer σ) (data : Bytes) (next : Writer σ) : Prop where
  textArray : next.textArray = writer.textArray
  textBegin : next.textBegin = writer.textBegin
  textEnd : next.textEnd = writer.textEnd
  encoderState : next.encoderState = writer.encoderState
  dataEnd : next.dataEnd ≤ next.dataArray.length
  buffer : next.buffer = writer.buffer ++ data

/-- Growing keeps the bytes, and makes room. -/
theorem grow_returns (serves : pool.Serves) {writer : Writer σ}
    (inside : writer.dataEnd ≤ writer.dataArray.length) {size : Nat}
    (fits : must → writer.dataEnd + size ≤ maximum) :
    Returns must (fun next => Put writer [] next ∧ next.dataEnd = writer.dataEnd ∧
        (must → writer.dataEnd + size ≤ next.dataArray.length)) (writer.grow pool size) := by
  rw [Writer.grow]
  split_ifs with enough
  · apply Returns.ok
    exact ⟨⟨rfl, rfl, rfl, rfl, inside, (List.append_nil _).symm⟩, rfl, fun _ => (by omega)⟩
  · have given : must → writer.dataEnd + size ≤
        (pool.allocByte writer.memory (writer.newLength size)).1.length := by
      intro required
      have small := fits required
      have larger := Nat.le_max_right writer.dataArray.length size
      have allowed :
          writer.dataArray.length + max writer.dataArray.length size ≤ maxArrayLength := by
        rw [maximum] at small
        rw [maxArrayLength]
        omega
      have asked : writer.newLength size =
          (writer.dataArray.length + max writer.dataArray.length size : Nat) := by
        rw [maxArrayLength] at allowed
        rw [Writer.newLength, int32, Int.bmod_eq_of_le (by omega) (by omega)]
        omega
      have served := serves.allocByte writer.memory _ allowed
      rw [asked]
      omega
    have copy : Returns must (Copied writer.dataArray 0 _ 0 writer.dataEnd)
        (arrayCopy writer.dataArray 0
          (pool.allocByte writer.memory (writer.newLength size)).1 0 writer.dataEnd) :=
      arrayCopy_returns fun required => (by have room := given required; omega)
    apply Returns.bind copy
    intro dataArray copied
    apply Returns.ok
    have kept := copied.take_eq
    rw [Nat.zero_add, List.take_zero, List.nil_append, List.drop_zero] at kept
    have within := copied.inTarget
    have sameLength := copied.length_eq
    refine ⟨⟨rfl, rfl, rfl, rfl, ?_, ?_⟩, rfl, fun required => ?_⟩
    · show writer.dataEnd ≤ dataArray.length
      omega
    · rw [List.append_nil]
      exact kept
    · show writer.dataEnd + size ≤ dataArray.length
      rw [sameLength]
      exact given required

theorem append_returns (writer : Writer σ) (data : Bytes)
    (fits : must → writer.dataEnd + data.length ≤ writer.dataArray.length) :
    Returns must (Put writer data) (writer.append data) := by
  apply Returns.bind (arrayCopy_returns fun required => ?_)
  · intro dataArray copied
    apply Returns.ok
    have within := copied.inTarget
    have sameLength := copied.length_eq
    refine ⟨rfl, rfl, rfl, rfl, ?_, ?_⟩
    · show writer.dataEnd + data.length ≤ dataArray.length
      omega
    · have taken := copied.take_eq
      rw [List.drop_zero, List.take_length] at taken
      exact taken
  · exact ⟨by omega, fits required⟩

/-- Growing for data and putting it in. -/
theorem put_returns (serves : pool.Serves) {writer : Writer σ}
    (inside : writer.dataEnd ≤ writer.dataArray.length) (data : Bytes)
    (fits : must → writer.dataEnd + data.length ≤ maximum) :
    Returns must (Put writer data)
      (writer.grow pool data.length >>= fun next => next.append data) := by
  apply Returns.bind (grow_returns serves inside fits)
  intro grown ⟨kept, sameEnd, room⟩
  have appended := append_returns grown data fun required => by
    rw [sameEnd]
    exact room required
  refine ⟨fun next isNext => ?_, appended.complete⟩
  have put := appended.sound next isNext
  refine ⟨put.textArray.trans kept.textArray, put.textBegin.trans kept.textBegin,
    put.textEnd.trans kept.textEnd, put.encoderState.trans kept.encoderState, put.dataEnd, ?_⟩
  rw [put.buffer, kept.buffer, List.append_nil]

/-! ## The text buffer -/

/-- The encoder has taken the text in front of the one in the buffer. -/
structure Holds (writer : Writer σ) (written : Written) : Prop where
  textBegin : writer.textBegin = 0
  textEnd : writer.textEnd ≤ textLength
  textArray : textLength ≤ writer.textArray.length
  dataEnd : writer.dataEnd ≤ writer.dataArray.length
  encoded : ∃ front, written.text = front ++ writer.textArray.take writer.textEnd ∧
    writer.encoderState = (encoder.run encoder.start front).1 ∧
    writer.buffer = written.output ++ encoder.early front

/-- Between two calls half a pair waits in the encoder only in front of more text. -/
structure Settled (writer : Writer σ) (written : Written) : Prop extends Holds writer written where
  empty : writer.textEnd = 0 → written.text = []

theorem Settled.create (serves : pool.Serves) (memory : σ) :
    Settled (create pool memory) {} where
  textBegin := rfl
  textEnd := Nat.zero_le _
  textArray := by
    exact serves.allocChar memory textLength (by decide)
  dataEnd := Nat.le_refl _
  encoded := ⟨[], rfl, rfl, rfl⟩
  empty _ := rfl

theorem buffer_length {writer : Writer σ} (inside : writer.dataEnd ≤ writer.dataArray.length) :
    writer.buffer.length = writer.dataEnd := by
  rw [Writer.buffer, List.length_take]
  omega

def Written.encoded (written : Written) (flush : Bool) : Written :=
  if flush then written.flush else written

/-- The text that `Encode` hands over. -/
def Writer.fed (writer : Writer σ) (flush : Bool) : Option UInt16 × Bytes :=
  encoder.feed writer.encoderState ((writer.textArray.take writer.textEnd).drop writer.textBegin)
    flush

theorem encode_eq (writer : Writer σ) (flush : Bool) :
    writer.encode pool flush =
      ((writer.grow pool (writer.fed flush).2.length >>= fun next =>
        next.append (writer.fed flush).2) >>= fun next =>
          pure { next with encoderState := (writer.fed flush).1, textBegin := 0, textEnd := 0 }) :=
  (bind_assoc ..).symm

/-- What is handed over goes on where the encoder is. -/
theorem Holds.fed {writer : Writer σ} {written : Written} (holds : Holds writer written)
    (flush : Bool) :
    ∃ front, (written.encoded flush).text = front ∧
      (writer.fed flush).1 = (encoder.run encoder.start front).1 ∧
      writer.buffer ++ (writer.fed flush).2 =
        (written.encoded flush).output ++ encoder.early front := by
  obtain ⟨front, isText, isState, isBuffer⟩ := holds.encoded
  refine ⟨_, rfl, ?_⟩
  rw [Writer.fed, holds.textBegin, List.drop_zero, isState, isBuffer, List.append_assoc]
  cases flush with
  | false =>
      show _ = (encoder.run encoder.start written.text).1 ∧
        _ = written.output ++ encoder.early written.text
      rw [isText, encoder.early_feed, encoder.state_feed]
      exact ⟨rfl, rfl⟩
  | true =>
      show encoder.start = encoder.start ∧
        _ = (written.output ++ utf8 written.text) ++ []
      rw [isText, encoder.transduce_feed, ← transduce_encoder, List.append_nil]
      exact ⟨rfl, rfl⟩

theorem encode_returns (serves : pool.Serves) {writer : Writer σ} {written : Written}
    (holds : Holds writer written) (flush : Bool)
    (fits : must → (written.encoded flush).early.length ≤ maximum) :
    Returns must (fun next => Holds next (written.encoded flush) ∧ next.textEnd = 0)
      (writer.encode pool flush) := by
  obtain ⟨front, isText, isState, isBuffer⟩ := holds.fed flush
  rw [encode_eq]
  apply Returns.bind (put_returns serves holds.dataEnd _ fun required => ?_)
  · intro next put
    apply Returns.ok
    refine ⟨⟨rfl, Nat.zero_le _, put.textArray ▸ holds.textArray, put.dataEnd, front, ?_, isState,
      put.buffer.trans isBuffer⟩, rfl⟩
    rw [isText]
    exact (List.append_nil _).symm
  · have small := fits required
    rw [Written.early, isText, ← isBuffer, List.length_append, buffer_length holds.dataEnd] at small
    exact small

/-! ## The calls -/

theorem makeRoom_returns (serves : pool.Serves) {writer : Writer σ} {written : Written}
    (settled : Settled writer written) (fits : must → written.early.length ≤ maximum) :
    Returns must (fun next => Holds next written ∧ next.textEnd < textLength)
      (writer.makeRoom pool) := by
  rw [Writer.makeRoom]
  split_ifs with full
  · have encoded := encode_returns serves settled.toHolds false fits
    refine ⟨fun next isNext => ?_, encoded.complete⟩
    obtain ⟨holds, empty⟩ := encoded.sound next isNext
    refine ⟨holds, ?_⟩
    rw [empty]
    decide
  · exact Returns.ok ⟨settled.toHolds, Nat.lt_of_le_of_ne settled.textEnd (Ne.symm full)⟩

/-- Characters behind those in the buffer. -/
theorem Holds.copied {writer : Writer σ} {written : Written} (holds : Holds writer written)
    {source textArray : Text} {sourceIndex count : Nat}
    (copied : Copied source sourceIndex writer.textArray writer.textEnd count textArray)
    (positive : 0 < count) (room : writer.textEnd + count ≤ textLength) :
    Settled { writer with textArray, textEnd := writer.textEnd + count }
      (written.add ((source.drop sourceIndex).take count)) := by
  obtain ⟨front, isText, isState, isBuffer⟩ := holds.encoded
  refine ⟨⟨holds.textBegin, room, ?_, holds.dataEnd, front, ?_, isState, isBuffer⟩, ?_⟩
  · exact copied.length_eq ▸ holds.textArray
  · show written.text ++ _ = front ++ textArray.take (writer.textEnd + count)
    rw [copied.take_eq, isText, List.append_assoc]
  · intro empty
    exact absurd empty (by show writer.textEnd + count ≠ 0; omega)

theorem writeChar_returns (serves : pool.Serves) {writer : Writer σ} {written : Written}
    (settled : Settled writer written) (value : UInt16)
    (fits : must → (written.add [value]).early.length ≤ maximum) :
    Returns must (fun next => Settled next (written.add [value]))
      (writer.writeChar pool value) := by
  apply Returns.bind (makeRoom_returns serves settled fun required =>
    Nat.le_trans (written.early_le_add [value]).length_le (fits required))
  intro roomy ⟨holds, room⟩
  rw [if_neg (Nat.ne_of_gt room)]
  have copy : Returns must (Copied [value] 0 roomy.textArray roomy.textEnd 1)
      (arrayCopy [value] 0 roomy.textArray roomy.textEnd 1) :=
    arrayCopy_returns fun _ => ⟨Nat.le_refl _, Nat.le_trans room holds.textArray⟩
  apply Returns.bind copy
  intro textArray copied
  exact Returns.ok (holds.copied copied Nat.one_pos room)

/-- The loop adds the rest of the range. -/
theorem writeFrom_returns (serves : pool.Serves) {source : Text} {sourceLength bound : Nat}
    {sourceIndex : Nat} (enough : sourceLength - sourceIndex < bound) {writer : Writer σ}
    {written : Written} (settled : Settled writer written)
    (fits : must → sourceLength ≤ source.length ∧
      (written.add ((source.drop sourceIndex).take (sourceLength - sourceIndex))).early.length ≤
        maximum) :
    Returns must
      (fun next => Settled next
        (written.add ((source.drop sourceIndex).take (sourceLength - sourceIndex))))
      (writer.writeFrom pool source sourceLength bound sourceIndex) := by
  induction bound generalizing sourceIndex writer written with
  | zero => omega
  | succ bound inductionHypothesis =>
      rw [Writer.writeFrom]
      split_ifs with more
      · apply Returns.bind (makeRoom_returns serves settled fun required =>
          Nat.le_trans (written.early_le_add _).length_le (fits required).2)
        intro roomy ⟨holds, room⟩
        have isCount := Nat.min_le_left (sourceLength - sourceIndex) (textLength - roomy.textEnd)
        have isRoom := Nat.min_le_right (sourceLength - sourceIndex) (textLength - roomy.textEnd)
        have positive : 0 < min (sourceLength - sourceIndex) (textLength - roomy.textEnd) := by
          omega
        show Returns must _ (arrayCopy source sourceIndex roomy.textArray roomy.textEnd
          (min (sourceLength - sourceIndex) (textLength - roomy.textEnd)) >>= _)
        generalize min (sourceLength - sourceIndex) (textLength - roomy.textEnd) = count at *
        have rest : (source.drop sourceIndex).take count ++
            (source.drop (sourceIndex + count)).take (sourceLength - (sourceIndex + count)) =
              (source.drop sourceIndex).take (sourceLength - sourceIndex) := by
          rw [← List.drop_drop, ← List.take_add]
          congr 1
          omega
        have whole : (written.add ((source.drop sourceIndex).take count)).add
            ((source.drop (sourceIndex + count)).take (sourceLength - (sourceIndex + count))) =
              written.add ((source.drop sourceIndex).take (sourceLength - sourceIndex)) := by
          rw [← rest, Written.add, Written.add, Written.add, List.append_assoc]
        apply Returns.bind (arrayCopy_returns fun required => ?_)
        · intro textArray copied
          rw [← whole]
          apply inductionHypothesis (by omega) (holds.copied copied positive (by omega))
          rw [whole]
          exact fits
        · have inSource := (fits required).1
          have inText := holds.textArray
          omega
      · apply Returns.ok
        rw [show sourceLength - sourceIndex = 0 by omega, List.take_zero]
        show Settled writer ⟨written.output, written.text ++ []⟩
        rw [List.append_nil]
        exact settled

theorem flush_returns (serves : pool.Serves) {writer : Writer σ} {written : Written}
    (settled : Settled writer written) (fits : must → written.flush.early.length ≤ maximum) :
    Returns must (fun next => Settled next written.flush) (writer.flush pool) := by
  rw [Writer.flush, Writer.flushFrom]
  split_ifs with pending
  · apply Returns.bind (encode_returns serves settled.toHolds true fits)
    intro next ⟨holds, empty⟩
    rw [Writer.flushFrom, if_neg (fun other => other (holds.textBegin.trans empty.symm))]
    exact Returns.ok ⟨holds, fun _ => rfl⟩
  · apply Returns.ok
    have empty : written.text = [] :=
      settled.empty ((Decidable.not_not.mp pending).symm.trans settled.textBegin)
    have same : written.flush = written := by
      cases written with
      | mk output text =>
          cases empty
          exact congrArg (Written.mk · []) (List.append_nil output)
    rw [same]
    exact settled

theorem Holds.of_empty {writer : Writer σ} {written : Written} (holds : Holds writer written)
    (empty : written.text = []) :
    writer.textEnd = 0 ∧ writer.encoderState = encoder.start ∧ writer.buffer = written.output := by
  obtain ⟨front, isText, isState, isBuffer⟩ := holds.encoded
  obtain ⟨noFront, noText⟩ := List.append_eq_nil_iff.mp (isText.symm.trans empty)
  rw [noFront] at isState isBuffer
  refine ⟨?_, isState, isBuffer.trans (List.append_nil _)⟩
  have shorter := congrArg List.length noText
  have inArray := holds.textArray
  have inText := holds.textEnd
  rw [List.length_take, List.length_nil] at shorter
  omega

theorem writeBytes_returns (serves : pool.Serves) {writer : Writer σ} {written : Written}
    (settled : Settled writer written) (data : Bytes)
    (fits : must → (written.call (.bytes data)).early.length ≤ maximum) :
    Returns must (fun next => Settled next (written.call (.bytes data)))
      (writer.writeBytes pool data) := by
  apply Returns.bind (flush_returns serves settled fun required =>
    Nat.le_trans (written.early_le_bytes data).length_le (fits required))
  intro flushed settledFlushed
  obtain ⟨noText, isStart, isOutput⟩ := settledFlushed.of_empty rfl
  have put : Returns must (Put flushed data)
      (flushed.grow pool data.length >>= fun next => next.append data) := by
    apply put_returns serves settledFlushed.dataEnd
    intro required
    have small := fits required
    rw [← buffer_length settledFlushed.dataEnd, isOutput, ← List.length_append]
    exact List.append_nil (written.flush.output ++ data) ▸ small
  refine ⟨fun next isNext => ?_, put.complete⟩
  have isPut := put.sound next isNext
  refine ⟨⟨isPut.textBegin.trans settledFlushed.textBegin, isPut.textEnd ▸ settledFlushed.textEnd,
    isPut.textArray ▸ settledFlushed.textArray, isPut.dataEnd, [], ?_,
    isPut.encoderState.trans isStart, ?_⟩, fun _ => rfl⟩
  · rw [isPut.textEnd, noText]
    rfl
  · rw [isPut.buffer, isOutput]
    exact (List.append_nil _).symm

theorem call_returns (serves : pool.Serves) {writer : Writer σ} {written : Written}
    (settled : Settled writer written) (call : Call)
    (fits : must → call.inRange = true ∧ (written.call call).early.length ≤ maximum) :
    Returns must (fun next => Settled next (written.call call)) (writer.call pool call) := by
  cases call with
  | char value => exact writeChar_returns serves settled value fun required => (fits required).2
  | chars value index length =>
      have short := endOf_le index length
      apply writeFrom_returns serves (by omega) settled
      intro required
      obtain ⟨inside, small⟩ := fits required
      rw [Call.inRange, decide_eq_true_iff] at inside
      exact ⟨inside, small⟩
  | string value =>
      have whole : (value.drop 0).take (value.length - 0) = value := by
        rw [List.drop_zero, Nat.sub_zero, List.take_length]
      show Returns must (fun next => Settled next (written.add value)) _
      have wrote := writeFrom_returns serves (Nat.lt_succ_self (value.length - 0)) settled
        fun required : must => ⟨Nat.le_refl _, whole.symm ▸ (fits required).2⟩
      rw [whole] at wrote
      exact wrote
  | bytes data => exact writeBytes_returns serves settled data fun required => (fits required).2
  | flush => exact flush_returns serves settled fun required => (fits required).2

theorem calls_returns (serves : pool.Serves) {writer : Writer σ} {written : Written}
    (settled : Settled writer written) (calls : List Call)
    (fits : must → (∀ call ∈ calls, call.inRange = true) ∧
      (calls.foldl Written.call written).early.length ≤ maximum) :
    Returns must (fun next => Settled next (calls.foldl Written.call written))
      (writer.calls pool calls) := by
  induction calls generalizing writer written with
  | nil => exact Returns.ok settled
  | cons call calls inductionHypothesis =>
      apply Returns.bind (call_returns serves settled call fun required =>
        ⟨(fits required).1 call (List.mem_cons_self ..),
          Nat.le_trans (Written.early_le_calls _ calls).length_le (fits required).2⟩)
      intro next settledNext
      exact inductionHypothesis settledNext fun required =>
        ⟨fun other member => (fits required).1 other (List.mem_cons_of_mem call member),
          (fits required).2⟩

end Steps

/-! ## The bytes of a whole text -/

/-- Text only, whichever way it is cut. -/
def Call.isText : Call → Bool
  | .char _ | .chars .. | .string _ => true
  | .bytes _ | .flush => false

theorem flush_calls_returns {σ : Type} {pool : MemoryPool σ} (serves : pool.Serves) (memory : σ)
    (calls : List Call) :
    Returns ((∀ call ∈ calls, call.inRange = true) ∧ (contents calls).length ≤ maximum)
      (fun writer => writer.buffer = contents calls)
      ((create pool memory).calls pool (calls ++ [.flush])) := by
  have all : (calls ++ [Call.flush]).foldl Written.call {} =
      (calls.foldl Written.call {}).flush := by
    rw [List.foldl_append]
    rfl
  have returns : Returns
      ((∀ call ∈ calls, call.inRange = true) ∧ (contents calls).length ≤ maximum)
      (fun writer => Settled writer ((calls ++ [Call.flush]).foldl Written.call {}))
      ((create pool memory).calls pool (calls ++ [.flush])) := by
    apply calls_returns serves (Settled.create serves memory)
    intro ⟨inRange, small⟩
    constructor
    · intro call member
      rw [List.mem_append, List.mem_singleton] at member
      exact member.elim (inRange call) fun isFlush => isFlush ▸ rfl
    · rw [all, Written.early_flush]
      exact small
  refine ⟨fun writer ran => ?_, returns.complete⟩
  have settled := returns.sound writer ran
  rw [all] at settled
  exact (settled.of_empty rfl).2.2

/-- A pool that gives out what it is asked for. -/
def plainPool : MemoryPool Unit where
  allocChar _ size := (List.replicate size.toNat 0, ())
  allocByte _ size := (List.replicate size.toNat 0, ())
  freeByte _ _ := ()

theorem plainPool_serves : plainPool.Serves where
  allocChar _ size _ := by
    show size ≤ (List.replicate (size : Int).toNat (0 : UInt16)).length
    rw [List.length_replicate, Int.toNat_natCast]
  allocByte _ size _ := by
    show size ≤ (List.replicate (size : Int).toNat (0 : UInt8)).length
    rw [List.length_replicate, Int.toNat_natCast]

end AzureSignalR.AspNet.MemoryPoolTextWriter
