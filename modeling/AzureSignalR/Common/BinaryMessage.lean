import AzureSignalR.Library.Framing
import Mathlib.Data.List.TakeWhile
import Mathlib.Data.Nat.Bitwise
import Mathlib.Tactic.IntervalCases
import Mathlib.Tactic.Linarith
import Mathlib.Tactic.Ring

/-!
Contract: length-prefixed frames, as `BinaryMessageFormatter` writes them and
`BinaryMessageParser` takes them off a buffer.

Owns: the two functions, the valid length prefixes and frames, and what the
parser does on a complete frame, on an unfinished one and on a bad prefix.

Does not own: the contents of a frame. A `ReadOnlySequence<byte>` is the list
of its bytes, so segmentation is not visible here.
-/

set_option autoImplicit false

namespace AzureSignalR

abbrev Bytes := List UInt8

/-- The exceptions the modelled code raises, with the texts it gives them. -/
inductive Exn where
  | format (message : String)
  | argumentOutOfRange (parameter : String)
  | indexOutOfRange
  | invalidData (message : String)
  | invalidOperation (message : String)
  | notImplemented (message : String)
  | argumentNull (parameter : String)
  | argument (message : String)
  | nullReference
  | endOfStream
  | objectDisposed
  | timeout (message : String)
  | taskCanceled
  | aggregate (inner : Exn)
  | invalidCast
  | azureSignalR (message : String)
  | messagePackSerialization (message : String)
  | overflow
  | outOfMemory
deriving DecidableEq, Repr

namespace BinaryMessage

/-! ## Writing -/

/-- `WriteLengthPrefix(long, Span<byte>)`. The recursion is on the space left
in the span; indexing past its end throws. -/
def writeLengthPrefix (length : Nat) : (space : Nat) → Except Exn Bytes
  | 0 => .error .indexOutOfRange
  | space + 1 =>
      let current := length &&& 0x7f
      let length := length >>> 7
      if 0 < length then do
        let tail ← writeLengthPrefix length space
        pure (UInt8.ofNat (current ||| 0x80) :: tail)
      else
        pure [UInt8.ofNat current]

/-- `LengthPrefixLength`. -/
def lengthPrefixLength (length : Nat) : Nat :=
  if 0 < length >>> 7 then lengthPrefixLength (length >>> 7) + 1 else 1
termination_by length
decreasing_by
  rw [Nat.shiftRight_eq_div_pow] at *
  omega

/-! ## Parsing -/

def maxLengthPrefixSize : Nat := 5

/-- The `do ... while` loop over the prefix bytes, started with the bytes
still unread, the length and byte count so far and the last byte read. -/
def readLengthPrefix : (span : Bytes) → (length numBytes : Nat) →
    (byteRead : UInt8) → Nat × Nat × UInt8
  | [], length, numBytes, byteRead => (length, numBytes, byteRead)
  | byteRead :: span, length, numBytes, _ =>
      let length := length ||| ((byteRead.toNat &&& 0x7f) <<< (numBytes * 7)) % 2 ^ 32
      let numBytes := numBytes + 1
      if span ≠ [] ∧ byteRead.toNat &&& 0x80 ≠ 0 then
        readLengthPrefix span length numBytes byteRead
      else
        (length, numBytes, byteRead)

/-- `TryParseMessage(ref buffer, out payload)`: `none` when it returns false,
otherwise the payload and the advanced buffer. -/
def tryParseMessage (buffer : Bytes) : Except Exn (Option (Bytes × Bytes)) :=
  if buffer = [] then
    .ok none
  else
    let (length, numBytes, byteRead) :=
      readLengthPrefix (buffer.take maxLengthPrefixSize) 0 0 0
    if byteRead.toNat &&& 0x80 ≠ 0 ∧ numBytes < maxLengthPrefixSize then
      .ok none
    else if byteRead.toNat &&& 0x80 ≠ 0 ∨
        (numBytes = maxLengthPrefixSize ∧ 7 < byteRead.toNat) then
      .error (.format "Messages over 2GB in size are not supported.")
    else if buffer.length < length + numBytes then
      .ok none
    else
      let payload := (buffer.drop numBytes).take length
      -- `numBytes + (int)length` is a 32-bit signed sum and wraps around.
      let start := Int.bmod (numBytes + length) (2 ^ 32)
      if start < 0 then
        .error (.argumentOutOfRange "start")
      else
        .ok (some (payload, buffer.drop start.toNat))

/-! ## Prefix bytes as numbers -/

theorem and_continuation (byte : UInt8) :
    byte.toNat &&& 0x80 ≠ 0 ↔ 128 ≤ byte.toNat := by
  have bound := byte.toNat_lt
  have bit := Nat.and_two_pow byte.toNat 7
  rw [Nat.testBit_eq_decide_div_mod_eq] at bit
  norm_num at bit
  change byte.toNat &&& 128 ≠ 0 ↔ _
  rw [bit]
  by_cases high : byte.toNat / 128 % 2 = 1
  · simp [high]; omega
  · simp [high]; omega

theorem and_payload (value : Nat) : value &&& 0x7f = value % 128 :=
  Nat.and_two_pow_sub_one_eq_mod value 7

/-- The value of a little-endian base-128 numeral, ignoring the marker bits. -/
def varint : Bytes → Nat
  | [] => 0
  | byte :: tail => byte.toNat % 128 + 128 * varint tail

theorem varint_lt (bytes : Bytes) : varint bytes < 128 ^ bytes.length := by
  induction bytes with
  | nil => simp [varint]
  | cons byte tail inductionHypothesis =>
      have digit : byte.toNat % 128 < 128 := Nat.mod_lt _ (by decide)
      simp only [varint, List.length_cons, pow_succ]
      omega

theorem varint_append (left right : Bytes) :
    varint (left ++ right) = varint left + 128 ^ left.length * varint right := by
  induction left with
  | nil => simp [varint]
  | cons byte left inductionHypothesis =>
      simp only [List.cons_append, varint, inductionHypothesis, List.length_cons,
        pow_succ]
      ring

/-- One more digit on top of a length that fills the bits below it. -/
theorem or_shiftLeft (length digit numBytes : Nat)
    (fills : length < 128 ^ numBytes) :
    length ||| digit <<< (numBytes * 7) = length + 128 ^ numBytes * digit := by
  have power : (128 : Nat) ^ numBytes = 2 ^ (numBytes * 7) := by
    rw [show (128 : Nat) = 2 ^ 7 by norm_num, ← pow_mul, Nat.mul_comm]
  rw [power] at fills ⊢
  rw [Nat.lor_comm, Nat.shiftLeft_eq, Nat.mul_comm digit,
    ← Nat.two_pow_add_eq_or_of_lt fills, Nat.add_comm]

/-! ## The prefix loop -/

/-- A byte with the marker bit: the numeral goes on after it. -/
def Continues (bytes : Bytes) : Prop := ∀ byte ∈ bytes, 128 ≤ byte.toNat

theorem continues_tail {byte : UInt8} {bytes : Bytes}
    (continues : Continues (byte :: bytes)) : Continues bytes :=
  fun other member => continues other (List.mem_cons_of_mem _ member)

/-- Byte count and last byte when the numeral ends inside the span. -/
theorem readLengthPrefix_ends {more : Bytes} {last : UInt8} (rest : Bytes)
    (continues : Continues more) (ends : last.toNat < 128)
    (length numBytes : Nat) (byteRead : UInt8) :
    (readLengthPrefix (more ++ last :: rest) length numBytes byteRead).2 =
      (numBytes + more.length + 1, last) := by
  induction more generalizing length numBytes byteRead with
  | nil =>
      have low : ¬ (last.toNat &&& 0x80 ≠ 0) := by
        rw [and_continuation]
        omega
      simp only [List.nil_append, readLengthPrefix, low, and_false, if_false,
        List.length_nil, Nat.add_zero]
  | cons byte more inductionHypothesis =>
      have high : byte.toNat &&& 0x80 ≠ 0 :=
        (and_continuation byte).mpr (continues byte (by simp))
      have goesOn : more ++ last :: rest ≠ [] := by simp
      simp only [List.cons_append, readLengthPrefix, goesOn, high, ne_eq,
        not_false_eq_true, and_self, if_true]
      rw [inductionHypothesis (continues_tail continues)]
      simp only [List.length_cons, Prod.mk.injEq, and_true]
      omega

/-- Byte count and last byte when the span ends with the first byte that may
lack the marker. -/
theorem readLengthPrefix_last {more : Bytes} (last : UInt8)
    (continues : Continues more) (length numBytes : Nat) (byteRead : UInt8) :
    (readLengthPrefix (more ++ [last]) length numBytes byteRead).2 =
      (numBytes + more.length + 1, last) := by
  induction more generalizing length numBytes byteRead with
  | nil => simp [readLengthPrefix]
  | cons byte more inductionHypothesis =>
      have high : byte.toNat &&& 0x80 ≠ 0 :=
        (and_continuation byte).mpr (continues byte (by simp))
      have goesOn : more ++ [last] ≠ [] := by simp
      simp only [List.cons_append, readLengthPrefix, goesOn, high, ne_eq,
        not_false_eq_true, and_self, if_true]
      rw [inductionHypothesis (continues_tail continues)]
      simp only [List.length_cons, Prod.mk.injEq, and_true]
      omega

/-- One digit of the loop, in arithmetic. The shift never reaches bit 32: a
digit in the fifth position is at most seven. -/
theorem nextLength (length numBytes : Nat) (byte : UInt8)
    (position : numBytes ≤ 4) (limit : numBytes = 4 → byte.toNat ≤ 7)
    (fills : length < 128 ^ numBytes) :
    length ||| ((byte.toNat &&& 0x7f) <<< (numBytes * 7)) % 2 ^ 32 =
      length + 128 ^ numBytes * (byte.toNat % 128) := by
  have digit : byte.toNat % 128 < 128 := Nat.mod_lt _ (by decide)
  have small : (byte.toNat % 128) <<< (numBytes * 7) < 2 ^ 32 := by
    rw [Nat.shiftLeft_eq]
    interval_cases numBytes
    all_goals norm_num
    all_goals omega
  rw [and_payload, Nat.mod_eq_of_lt small, or_shiftLeft _ _ _ fills]

/-- The length the loop computes for a numeral that ends inside the span. -/
theorem readLengthPrefix_value {more : Bytes} {last : UInt8} (rest : Bytes)
    (continues : Continues more) (ends : last.toNat < 128)
    (length numBytes : Nat) (byteRead : UInt8)
    (size : numBytes + more.length ≤ 4)
    (limit : numBytes + more.length = 4 → last.toNat ≤ 7)
    (fills : length < 128 ^ numBytes) :
    (readLengthPrefix (more ++ last :: rest) length numBytes byteRead).1 =
      length + 128 ^ numBytes * varint (more ++ [last]) := by
  induction more generalizing length numBytes byteRead with
  | nil =>
      have low : ¬ (last.toNat &&& 0x80 ≠ 0) := by
        rw [and_continuation]
        omega
      simp only [List.nil_append, readLengthPrefix, low, and_false, if_false]
      rw [nextLength length numBytes last (by simpa using size)
        (by simpa using limit) fills]
      simp [varint]
  | cons byte more inductionHypothesis =>
      simp only [List.length_cons] at size limit
      have high : byte.toNat &&& 0x80 ≠ 0 :=
        (and_continuation byte).mpr (continues byte (by simp))
      have goesOn : more ++ last :: rest ≠ [] := by simp
      have digit : byte.toNat % 128 < 128 := Nat.mod_lt _ (by decide)
      have filled : length + 128 ^ numBytes * (byte.toNat % 128) <
          128 ^ (numBytes + 1) := by
        rw [pow_succ]
        nlinarith
      simp only [List.cons_append, readLengthPrefix, goesOn, high, ne_eq,
        not_false_eq_true, and_self, if_true]
      rw [nextLength length numBytes byte (by omega) (by omega) fills,
        inductionHypothesis (continues_tail continues) _ _ _ (by omega)
          (by omega) filled]
      simp only [varint, pow_succ]
      ring

/-! ## Frames -/

/-- A length prefix `TryParseMessage` accepts: at most five bytes, only the
last one without the marker bit, announcing at most `0x7fffffff`. It need not
be the shortest numeral of its value. -/
structure LengthPrefix where
  more : Bytes
  last : UInt8
  continues : Continues more
  ends : last.toNat < 128
  size : more.length ≤ 4
  limit : more.length = 4 → last.toNat ≤ 7

namespace LengthPrefix

variable (lengthPrefix : LengthPrefix)

def bytes : Bytes := lengthPrefix.more ++ [lengthPrefix.last]

def value : Nat := varint lengthPrefix.bytes

theorem length_bytes :
    lengthPrefix.bytes.length = lengthPrefix.more.length + 1 := by
  simp [bytes]

theorem value_lt : lengthPrefix.value < 2 ^ 31 := by
  have low := varint_lt lengthPrefix.more
  have size := lengthPrefix.size
  have limit := lengthPrefix.limit
  have ends := lengthPrefix.ends
  have digit : lengthPrefix.last.toNat % 128 = lengthPrefix.last.toNat :=
    Nat.mod_eq_of_lt ends
  rw [value, bytes, varint_append]
  simp only [varint, digit]
  interval_cases lengthPrefix.more.length
  all_goals norm_num at low ⊢
  all_goals omega

/-- The loop of `TryParseMessage` on a buffer that starts with the prefix. -/
theorem readLengthPrefix_bytes (rest : Bytes) :
    readLengthPrefix ((lengthPrefix.bytes ++ rest).take maxLengthPrefixSize) 0 0 0 =
      (lengthPrefix.value, lengthPrefix.bytes.length, lengthPrefix.last) := by
  have size := lengthPrefix.size
  have span : (lengthPrefix.bytes ++ rest).take maxLengthPrefixSize =
      lengthPrefix.more ++ lengthPrefix.last ::
        rest.take (4 - lengthPrefix.more.length) := by
    rw [bytes, List.append_assoc, List.take_append,
      List.take_of_length_le (by simp [maxLengthPrefixSize]; omega)]
    simp only [maxLengthPrefixSize]
    rw [show 5 - lengthPrefix.more.length = 4 - lengthPrefix.more.length + 1 by omega]
    simp
  have counts := readLengthPrefix_ends (rest.take (4 - lengthPrefix.more.length))
    lengthPrefix.continues lengthPrefix.ends 0 0 0
  have length := readLengthPrefix_value (rest.take (4 - lengthPrefix.more.length))
    lengthPrefix.continues lengthPrefix.ends 0 0 0 (by omega)
    (by simpa using lengthPrefix.limit) (by simp)
  rw [span]
  refine Prod.ext ?_ ?_
  · rw [length]
    simp [value, bytes]
  · rw [counts, length_bytes]
    simp

end LengthPrefix

/-- A length prefix together with as many bytes as it announces. -/
structure Frame where
  lengthPrefix : LengthPrefix
  body : Bytes
  announced : body.length = lengthPrefix.value

namespace Frame

variable (frame : Frame)

def bytes : Bytes := frame.lengthPrefix.bytes ++ frame.body

theorem bytes_ne_nil : frame.bytes ≠ [] := by
  simp [bytes, LengthPrefix.bytes]

/-- The frame lies below the wrap-around of the parser's 32-bit position. -/
def Addressable : Prop := frame.bytes.length < 2 ^ 31

instance : Decidable frame.Addressable := Nat.decLt _ _

/-- A frame with a one-byte prefix. -/
def short (body : Bytes) (small : body.length < 128) : Frame where
  lengthPrefix :=
    { more := []
      last := UInt8.ofNat body.length
      continues := by simp [Continues]
      ends := by
        rw [UInt8.toNat_ofNat']
        omega
      size := by simp
      limit := by simp }
  body := body
  announced := by
    simp only [LengthPrefix.value, LengthPrefix.bytes, List.nil_append, varint,
      UInt8.toNat_ofNat']
    omega

end Frame

/-! ## What the parser does -/

/-- The parser behind a complete length prefix. -/
theorem tryParseMessage_prefixed (lengthPrefix : LengthPrefix) (rest : Bytes) :
    tryParseMessage (lengthPrefix.bytes ++ rest) =
      if rest.length < lengthPrefix.value then .ok none
      else if lengthPrefix.bytes.length + lengthPrefix.value < 2 ^ 31 then
        .ok (some (rest.take lengthPrefix.value, rest.drop lengthPrefix.value))
      else .error (.argumentOutOfRange "start") := by
  have nonempty : lengthPrefix.bytes ++ rest ≠ [] := by
    simp [LengthPrefix.bytes]
  have low : ¬ (lengthPrefix.last.toNat &&& 0x80 ≠ 0) := by
    rw [and_continuation]
    have := lengthPrefix.ends
    omega
  have accepted : ¬ (lengthPrefix.bytes.length = maxLengthPrefixSize ∧
      7 < lengthPrefix.last.toNat) := by
    rintro ⟨five, large⟩
    rw [lengthPrefix.length_bytes, maxLengthPrefixSize] at five
    have := lengthPrefix.limit (by omega)
    omega
  have valueLt := lengthPrefix.value_lt
  have countLe : lengthPrefix.bytes.length ≤ 5 := by
    have := lengthPrefix.size
    rw [lengthPrefix.length_bytes]
    omega
  unfold tryParseMessage
  rw [if_neg nonempty, lengthPrefix.readLengthPrefix_bytes rest]
  simp only [low, accepted, false_and, or_self, if_false, List.length_append]
  by_cases short : rest.length < lengthPrefix.value
  · rw [if_pos (by omega), if_pos short]
  · rw [if_neg (by omega), if_neg short]
    by_cases addressable : lengthPrefix.bytes.length + lengthPrefix.value < 2 ^ 31
    · have start : Int.bmod (lengthPrefix.bytes.length + lengthPrefix.value)
          (2 ^ 32) = (lengthPrefix.bytes.length + lengthPrefix.value : Nat) := by
        rw [Int.bmod_eq_of_le] <;> push_cast <;> omega
      rw [if_pos addressable, start, if_neg (by omega), Int.toNat_natCast,
        ← List.drop_drop, List.drop_left]
    · have start : Int.bmod (lengthPrefix.bytes.length + lengthPrefix.value)
          (2 ^ 32) < 0 := by
        rw [Int.bmod_def]
        omega
      rw [if_neg addressable, if_pos start]

/-- An unfinished length prefix: more bytes are needed. -/
theorem tryParseMessage_unfinished {buffer : Bytes}
    (continues : Continues buffer) (size : buffer.length ≤ 4) :
    tryParseMessage buffer = .ok none := by
  rcases List.eq_nil_or_concat buffer with empty | ⟨more, last, split⟩
  · simp [tryParseMessage, empty]
  · rw [List.concat_eq_append] at split
    subst split
    have span : (more ++ [last]).take maxLengthPrefixSize = more ++ [last] :=
      List.take_of_length_le (by rw [maxLengthPrefixSize]; omega)
    have marked : last.toNat &&& 0x80 ≠ 0 :=
      (and_continuation last).mpr (continues last (by simp))
    have counts := readLengthPrefix_last last
      (fun byte member => continues byte (List.mem_append_left _ member)) 0 0 0
    simp only [List.length_append, List.length_singleton] at size
    unfold tryParseMessage
    rw [if_neg (by simp), span, ← Prod.mk.eta (p := readLengthPrefix _ 0 0 0), counts]
    simp only [marked, ne_eq, not_false_eq_true, true_and]
    rw [if_pos (by rw [maxLengthPrefixSize]; omega)]

/-- A prefix announcing more than `0x7fffffff`, or going on after five bytes. -/
theorem tryParseMessage_tooLong {more : Bytes} {last : UInt8} (rest : Bytes)
    (continues : Continues more) (size : more.length = 4)
    (large : 7 < last.toNat) :
    tryParseMessage (more ++ last :: rest) =
      .error (.format "Messages over 2GB in size are not supported.") := by
  have span : (more ++ last :: rest).take maxLengthPrefixSize = more ++ [last] := by
    rw [List.take_append, size, List.take_of_length_le (by simp [size, maxLengthPrefixSize])]
    simp [maxLengthPrefixSize]
  have counts := readLengthPrefix_last last continues 0 0 0
  rw [size] at counts
  unfold tryParseMessage
  rw [if_neg (by simp), span, ← Prod.mk.eta (p := readLengthPrefix _ 0 0 0), counts]
  simp [maxLengthPrefixSize, large]

/-- Marked bytes only: more bytes are needed for up to four, and the fifth
already makes the numeral too long. -/
private theorem unfinished_or_tooLong {buffer : Bytes}
    (continues : Continues buffer) :
    (Continues buffer ∧ buffer.length ≤ 4) ∨
      (∃ (more : Bytes) (last : UInt8) (rest : Bytes), Continues more ∧
        more.length = 4 ∧ 7 < last.toNat ∧ buffer = more ++ last :: rest) := by
  by_cases size : buffer.length ≤ 4
  · exact Or.inl ⟨continues, size⟩
  · have fifth : 4 < buffer.length := by omega
    have split := List.take_append_drop 4 buffer
    rw [List.drop_eq_getElem_cons fifth] at split
    refine Or.inr ⟨buffer.take 4, buffer[4], buffer.drop 5, ?_, ?_, ?_, split.symm⟩
    · exact fun byte member => continues byte (List.mem_of_mem_take member)
    · simp
      omega
    · have := continues buffer[4] (List.getElem_mem fifth)
      omega

/-- Every buffer starts with a complete length prefix, is an unfinished one,
or starts with one the parser refuses. -/
theorem prefix_cases (buffer : Bytes) :
    (∃ (lengthPrefix : LengthPrefix) (rest : Bytes),
        buffer = lengthPrefix.bytes ++ rest) ∨
      (Continues buffer ∧ buffer.length ≤ 4) ∨
      (∃ (more : Bytes) (last : UInt8) (rest : Bytes), Continues more ∧
        more.length = 4 ∧ 7 < last.toNat ∧ buffer = more ++ last :: rest) := by
  have cut := List.takeWhile_append_dropWhile
    (p := fun byte : UInt8 => decide (128 ≤ byte.toNat)) (l := buffer)
  have continues : Continues
      (buffer.takeWhile fun byte => decide (128 ≤ byte.toNat)) := by
    intro byte member
    simpa using List.mem_takeWhile_imp member
  generalize buffer.takeWhile (fun byte => decide (128 ≤ byte.toNat)) = more
    at cut continues
  cases tail : buffer.dropWhile fun byte => decide (128 ≤ byte.toNat) with
  | nil =>
      rw [tail, List.append_nil] at cut
      subst cut
      exact Or.inr (unfinished_or_tooLong continues)
  | cons last rest =>
      have ends : last.toNat < 128 := by
        have := List.head_dropWhile_not
          (fun byte : UInt8 => decide (128 ≤ byte.toNat)) (l := buffer) (by simp [tail])
        simpa [tail] using this
      rw [tail] at cut
      by_cases size : more.length ≤ 4
      · by_cases limit : more.length = 4 ∧ 7 < last.toNat
        · exact Or.inr (Or.inr
            ⟨more, last, rest, continues, limit.1, limit.2, cut.symm⟩)
        · refine Or.inl ⟨⟨more, last, continues, ends, size, by omega⟩, rest, ?_⟩
          simp [LengthPrefix.bytes, cut]
      · obtain ⟨-, short⟩ | ⟨first, byte, others, marked, four, large, split⟩ :=
          unfinished_or_tooLong continues
        · exact absurd short size
        · refine Or.inr (Or.inr
            ⟨first, byte, others ++ last :: rest, marked, four, large, ?_⟩)
          rw [← cut, split]
          simp

/-! ## Frames at the front of a buffer -/

theorem tryParseMessage_frame (frame : Frame) (rest : Bytes) :
    tryParseMessage (frame.bytes ++ rest) =
      if frame.Addressable then .ok (some (frame.body, rest))
      else .error (.argumentOutOfRange "start") := by
  rw [Frame.bytes, List.append_assoc, tryParseMessage_prefixed, ← frame.announced,
    if_neg (by simp)]
  simp [Frame.Addressable, Frame.bytes]

/-- A proper part of a frame is not an answer yet. -/
theorem tryParseMessage_incomplete (frame : Frame) {part rest : Bytes}
    (cut : frame.bytes = part ++ rest) (missing : rest ≠ []) :
    tryParseMessage part = .ok none := by
  have missingLength : 0 < rest.length := List.length_pos_iff.mpr missing
  rcases List.append_eq_append_iff.mp cut with
    ⟨body, partEq, bodyEq⟩ | ⟨unread, prefixEq, -⟩
  · -- The length prefix is complete, the body is not.
    rw [partEq, tryParseMessage_prefixed, if_pos]
    rw [← frame.announced, bodyEq, List.length_append]
    omega
  · by_cases whole : unread = []
    · rw [whole, List.append_nil] at prefixEq
      have bodyShort : ([] : Bytes).length < frame.lengthPrefix.value := by
        have total := congrArg List.length cut
        rw [Frame.bytes, List.length_append, List.length_append, prefixEq,
          frame.announced] at total
        simp only [List.length_nil]
        omega
      rw [← prefixEq, ← List.append_nil frame.lengthPrefix.bytes,
        tryParseMessage_prefixed, if_pos bodyShort]
    · -- The cut is inside the length prefix, before its last byte.
      have partMore : part <+: frame.lengthPrefix.more := by
        have isPart : part <+: frame.lengthPrefix.more ++ [frame.lengthPrefix.last] :=
          ⟨unread, prefixEq.symm⟩
        rcases List.prefix_concat_iff.mp isPart with equal | inner
        · rw [equal] at prefixEq
          have total := congrArg List.length prefixEq
          rw [LengthPrefix.bytes, List.length_append] at total
          simp only [List.length_append] at total
          exact absurd (List.length_eq_zero_iff.mp (by omega)) whole
        · exact inner
      have size := partMore.length_le
      have limit := frame.lengthPrefix.size
      exact tryParseMessage_unfinished
        (fun byte member => frame.lengthPrefix.continues byte (partMore.subset member))
        (by omega)

/-- What the parser takes off a buffer is one frame. -/
theorem tryParseMessage_some {buffer payload rest : Bytes}
    (parsed : tryParseMessage buffer = .ok (some (payload, rest))) :
    ∃ frame : Frame, frame.Addressable ∧ frame.body = payload ∧
      buffer = frame.bytes ++ rest := by
  rcases prefix_cases buffer with
    ⟨lengthPrefix, tail, rfl⟩ | ⟨continues, size⟩ |
      ⟨more, last, tail, continues, four, large, rfl⟩
  · rw [tryParseMessage_prefixed] at parsed
    split_ifs at parsed with short addressable
    · simp at parsed
    · simp only [Except.ok.injEq, Option.some.injEq, Prod.mk.injEq] at parsed
      obtain ⟨rfl, rfl⟩ := parsed
      have announced : (tail.take lengthPrefix.value).length = lengthPrefix.value := by
        rw [List.length_take]
        omega
      refine ⟨⟨lengthPrefix, tail.take lengthPrefix.value, announced⟩, ?_, rfl, ?_⟩
      · rw [Frame.Addressable, Frame.bytes, List.length_append, announced]
        exact addressable
      · rw [Frame.bytes, List.append_assoc, List.take_append_drop]
  · rw [tryParseMessage_unfinished continues size] at parsed
    simp at parsed
  · rw [tryParseMessage_tooLong tail continues four large] at parsed
    simp at parsed

/-- An exception of the parser stays whatever arrives behind the buffer. -/
theorem tryParseMessage_error_append {buffer : Bytes} {error : Exn}
    (failed : tryParseMessage buffer = .error error) (more : Bytes) :
    tryParseMessage (buffer ++ more) = .error error := by
  rcases prefix_cases buffer with
    ⟨lengthPrefix, tail, rfl⟩ | ⟨continues, size⟩ |
      ⟨first, last, tail, continues, four, large, rfl⟩
  · rw [tryParseMessage_prefixed] at failed
    split_ifs at failed with short addressable
    rw [List.append_assoc, tryParseMessage_prefixed, if_neg, if_neg addressable]
    · exact failed
    · rw [List.length_append]
      omega
  · rw [tryParseMessage_unfinished continues size] at failed
    simp at failed
  · rw [tryParseMessage_tooLong tail continues four large] at failed
    rw [List.append_assoc, List.cons_append,
      tryParseMessage_tooLong (tail ++ more) continues four large]
    exact failed

/-! ## Written prefixes -/

private theorem toNat_ofNat {value : Nat} (small : value < 256) :
    (UInt8.ofNat value).toNat = value := by
  simp [Nat.mod_eq_of_lt small]

private theorem or_marker {digit : Nat} (small : digit < 128) :
    digit ||| 0x80 = 128 + digit := by
  rw [Nat.lor_comm]
  exact (Nat.two_pow_add_eq_or_of_lt (i := 7) small 1).symm

theorem writeLengthPrefix_last {length : Nat} (small : length < 128)
    (space : Nat) :
    writeLengthPrefix length (space + 1) = .ok [UInt8.ofNat length] := by
  have done : length >>> 7 = 0 := by
    rw [Nat.shiftRight_eq_div_pow]
    omega
  simp [writeLengthPrefix, done, and_payload, Nat.mod_eq_of_lt small, pure, Except.pure]

theorem writeLengthPrefix_more {length : Nat} (large : 128 ≤ length)
    (space : Nat) :
    writeLengthPrefix length (space + 1) =
      (writeLengthPrefix (length / 128) space).map
        (UInt8.ofNat (128 + length % 128) :: ·) := by
  have digit : length % 128 < 128 := Nat.mod_lt _ (by decide)
  have shift : length >>> 7 = length / 128 := Nat.shiftRight_eq_div_pow length 7
  have goesOn : 0 < length / 128 := by omega
  rw [writeLengthPrefix, and_payload, shift, if_pos goesOn, or_marker digit]
  cases writeLengthPrefix (length / 128) space <;> rfl

theorem writeLengthPrefix_ne_nil {length space : Nat} {lengthPrefix : Bytes}
    (written : writeLengthPrefix length space = .ok lengthPrefix) : lengthPrefix ≠ [] := by
  rintro rfl
  cases space with
  | zero => cases written
  | succ space =>
      rcases Nat.lt_or_ge length 128 with small | large
      · rw [writeLengthPrefix_last small] at written
        cases written
      · rw [writeLengthPrefix_more large] at written
        cases tail : writeLengthPrefix (length / 128) space with
        | error failure =>
            rw [tail] at written
            cases written
        | ok bytes =>
            rw [tail] at written
            cases written

/-- The length of the prefix is computed as it is written. -/
theorem lengthPrefixLength_of_written {length space : Nat} {lengthPrefix : Bytes}
    (written : writeLengthPrefix length space = .ok lengthPrefix) :
    lengthPrefixLength length = lengthPrefix.length := by
  induction space generalizing length lengthPrefix with
  | zero => cases written
  | succ space inductionHypothesis =>
      rw [lengthPrefixLength, Nat.shiftRight_eq_div_pow]
      rcases Nat.lt_or_ge length 128 with small | large
      · rw [writeLengthPrefix_last small] at written
        cases written
        rw [if_neg (by omega)]
        rfl
      · rw [writeLengthPrefix_more large] at written
        cases tail : writeLengthPrefix (length / 128) space with
        | error error =>
            rw [tail] at written
            cases written
        | ok bytes =>
            rw [tail] at written
            cases written
            rw [if_pos (by omega)]
            exact congrArg (· + 1) (inductionHypothesis tail)

/-- The prefix is the same in every span it fits into. -/
theorem writeLengthPrefix_of_le {length space room : Nat} {lengthPrefix : Bytes}
    (written : writeLengthPrefix length space = .ok lengthPrefix)
    (fits : lengthPrefix.length ≤ room) : writeLengthPrefix length room = .ok lengthPrefix := by
  induction space generalizing length lengthPrefix room with
  | zero => cases written
  | succ space inductionHypothesis =>
      have nonempty := List.length_pos_of_ne_nil (writeLengthPrefix_ne_nil written)
      obtain ⟨room, rfl⟩ : ∃ less, room = less + 1 := ⟨room - 1, by omega⟩
      rcases Nat.lt_or_ge length 128 with small | large
      · rw [writeLengthPrefix_last small] at written ⊢
        exact written
      · rw [writeLengthPrefix_more large] at written ⊢
        cases tail : writeLengthPrefix (length / 128) space with
        | error error =>
            rw [tail] at written
            cases written
        | ok bytes =>
            rw [tail] at written
            cases written
            rw [inductionHypothesis tail (Nat.le_of_succ_le_succ fits)]
            rfl

/-- The bytes `WriteLengthPrefix` puts into `space + 1` bytes of span form a
numeral of `length`. -/
def WritesNumeral (length space : Nat) : Prop :=
  ∃ (more : Bytes) (last : UInt8),
    writeLengthPrefix length (space + 1) = .ok (more ++ [last]) ∧
      Continues more ∧ last.toNat < 128 ∧ more.length ≤ space ∧
      varint (more ++ [last]) = length

private theorem writesNumeral_last {length : Nat} (small : length < 128)
    (space : Nat) : WritesNumeral length space := by
  refine ⟨[], UInt8.ofNat length, writeLengthPrefix_last small space,
    by simp [Continues], ?_, by simp, ?_⟩
  · rw [toNat_ofNat (by omega)]
    exact small
  · simp only [List.nil_append, varint]
    rw [toNat_ofNat (by omega), Nat.mod_eq_of_lt small]
    rfl

theorem writesNumeral (space length : Nat) (fits : length < 128 ^ (space + 1)) :
    WritesNumeral length space := by
  induction space generalizing length with
  | zero => exact writesNumeral_last (by simpa using fits) 0
  | succ space inductionHypothesis =>
      by_cases small : length < 128
      · exact writesNumeral_last small (space + 1)
      · have digit : length % 128 < 128 := Nat.mod_lt _ (by decide)
        have quotient : length / 128 < 128 ^ (space + 1) := by
          rw [Nat.div_lt_iff_lt_mul (by decide), ← pow_succ]
          exact fits
        have marked : (UInt8.ofNat (128 + length % 128)).toNat = 128 + length % 128 :=
          toNat_ofNat (by omega)
        obtain ⟨more, last, written, continues, ends, size, value⟩ :=
          inductionHypothesis (length / 128) quotient
        refine ⟨UInt8.ofNat (128 + length % 128) :: more, last, ?_, ?_, ends, ?_, ?_⟩
        · rw [writeLengthPrefix_more (by omega), written]
          rfl
        · intro byte member
          rcases List.mem_cons.mp member with rfl | inMore
          · omega
          · exact continues byte inMore
        · simp only [List.length_cons]
          omega
        · rw [List.cons_append, varint, value, marked]
          omega

/-- What is written for a length up to `0x7fffffff` is a prefix that the parser accepts. -/
theorem writeLengthPrefix_lengthPrefix {length : Nat} (size : length < 2 ^ 31) :
    ∃ lengthPrefix : LengthPrefix, lengthPrefix.value = length ∧
      writeLengthPrefix length maxLengthPrefixSize = .ok lengthPrefix.bytes := by
  obtain ⟨more, last, written, continues, ends, short, value⟩ :=
    writesNumeral 4 length (by norm_num; omega)
  have limit : more.length = 4 → last.toNat ≤ 7 := by
    intro four
    have digits := varint_append more [last]
    rw [value, four] at digits
    simp only [varint, Nat.mod_eq_of_lt ends] at digits
    omega
  exact ⟨⟨more, last, continues, ends, short, limit⟩, value, written⟩

/-- Behind the written prefix of its length, a body is a frame. -/
theorem writeLengthPrefix_frame (body : Bytes) (size : body.length < 2 ^ 31) :
    ∃ frame : Frame, frame.body = body ∧
      writeLengthPrefix body.length maxLengthPrefixSize =
        .ok frame.lengthPrefix.bytes := by
  obtain ⟨lengthPrefix, isLength, written⟩ := writeLengthPrefix_lengthPrefix size
  exact ⟨⟨lengthPrefix, body, isLength.symm⟩, rfl, written⟩

/-! ## As a frame parser -/

def frameParser : Library.FrameParser UInt8 Bytes Exn where
  parse := tryParseMessage
  parse_nil := rfl
  parse_some := by
    intro input payload rest parsed
    obtain ⟨frame, addressable, body, split⟩ := tryParseMessage_some parsed
    refine ⟨frame.bytes, frame.bytes_ne_nil, split, ?_⟩
    intro more
    rw [tryParseMessage_frame, if_pos addressable, body]
  parse_error := tryParseMessage_error_append

theorem takes_frames (frames : List Frame) (rest : Bytes)
    (addressable : ∀ frame ∈ frames, frame.Addressable) :
    frameParser.Takes (frames.flatMap Frame.bytes ++ rest) (frames.map Frame.body) rest := by
  induction frames with
  | nil => exact .nil rest
  | cons frame frames inductionHypothesis =>
      have tail := inductionHypothesis
        fun other member => addressable other (List.mem_cons_of_mem _ member)
      refine .cons ?_ tail
      rw [List.flatMap_cons, List.append_assoc]
      change tryParseMessage _ = _
      rw [tryParseMessage_frame, if_pos (addressable frame List.mem_cons_self)]

/-- Where the parser asks for more input there is no complete frame. -/
theorem no_frame_of_none {buffer : Bytes} (waiting : tryParseMessage buffer = .ok none)
    (frame : Frame) (rest : Bytes) : buffer ≠ frame.bytes ++ rest := by
  intro split
  rw [split, tryParseMessage_frame] at waiting
  split at waiting <;> exact nomatch waiting

end BinaryMessage

end AzureSignalR
