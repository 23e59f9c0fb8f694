import AzureSignalR.Common.BinaryMessage
import AzureSignalR.Library.Decoder
import Mathlib.Data.List.Flatten

/-!
Contract: the MessagePack primitives the service protocol is written with.

The MessagePack sources are a submodule outside this repository, so the
primitives are a parameter here. `MessagePack` lists the calls the protocol
makes on `MessagePackWriter` and `MessagePackReader`; `MessagePack.Lawful`
states what it relies on: a read returns what the matching write wrote and
consumes exactly those bytes.

The two header reads are weaker than the others. `ReadArrayHeader` and
`ReadMapHeader` refuse a count that the bytes behind the header cannot hold
at one byte per element, so their laws ask for that many bytes.
-/

set_option autoImplicit false

namespace AzureSignalR.Protocol

open Library

/-- One call on `MessagePackWriter`. `int` is `Write(int)`, which picks the
shortest format; `int32` is `WriteInt32`, which always takes five bytes. -/
inductive Token where
  | arrayHeader (count : Nat)
  | mapHeader (count : Nat)
  | int (value : Int32)
  | int32 (value : Int32)
  | uint64 (value : UInt64)
  | boolean (value : Bool)
  | string (value : Option String)
  | binary (value : Bytes)
  | nil
deriving DecidableEq, Repr

/-- A `MessagePackReader` is the bytes it has not read yet. -/
abbrev Reader := Decoder UInt8 Exn

/-- The primitives of the MessagePack library. -/
structure MessagePack where
  write : Token → Bytes
  readArrayHeader : Reader Nat
  readMapHeader : Reader Nat
  readInt32 : Reader Int32
  readUInt64 : Reader UInt64
  readBoolean : Reader Bool
  readString : Reader (Option String)
  readBytes : Reader (Option Bytes)
  tryReadNil : Reader Bool
  skip : Reader Unit

namespace MessagePack

/-- The bytes of a sequence of writes. -/
def encode (mp : MessagePack) (tokens : List Token) : Bytes :=
  tokens.flatMap mp.write

/-- The bytes of the writes are within the reach of an `int` position. -/
def Fits (mp : MessagePack) (tokens : List Token) : Prop :=
  (mp.encode tokens).length < 2 ^ 31

/-- What the protocol relies on. -/
structure Lawful (mp : MessagePack) : Prop where
  write_ne_nil : ∀ token, mp.write token ≠ []
  readArrayHeader_write : ∀ (count : Nat) (rest : Bytes),
    count < 2 ^ 31 → count ≤ rest.length →
      mp.readArrayHeader.run (mp.write (.arrayHeader count) ++ rest) = .ok (count, rest)
  readMapHeader_write : ∀ (count : Nat) (rest : Bytes),
    count < 2 ^ 31 → 2 * count ≤ rest.length →
      mp.readMapHeader.run (mp.write (.mapHeader count) ++ rest) = .ok (count, rest)
  readInt32_int : ∀ value, mp.readInt32.Consumes (mp.write (.int value)) value
  readInt32_int32 : ∀ value, mp.readInt32.Consumes (mp.write (.int32 value)) value
  readUInt64_write : ∀ value, mp.readUInt64.Consumes (mp.write (.uint64 value)) value
  readBoolean_write : ∀ value, mp.readBoolean.Consumes (mp.write (.boolean value)) value
  readString_write : ∀ value, (mp.write (.string value)).length < 2 ^ 31 →
    mp.readString.Consumes (mp.write (.string value)) value
  readBytes_write : ∀ value, (mp.write (.binary value)).length < 2 ^ 31 →
    mp.readBytes.Consumes (mp.write (.binary value)) (some value)
  readBytes_nil : mp.readBytes.Consumes (mp.write .nil) none
  tryReadNil_nil : mp.tryReadNil.Consumes (mp.write .nil) true
  tryReadNil_int : ∀ (value : Int32) (rest : Bytes),
    mp.tryReadNil.run (mp.write (.int value) ++ rest) =
      .ok (false, mp.write (.int value) ++ rest)

variable {mp : MessagePack}

@[simp] theorem encode_nil : mp.encode [] = [] := rfl

@[simp] theorem encode_cons (token : Token) (tokens : List Token) :
    mp.encode (token :: tokens) = mp.write token ++ mp.encode tokens := rfl

@[simp] theorem encode_append (left right : List Token) :
    mp.encode (left ++ right) = mp.encode left ++ mp.encode right :=
  List.flatMap_append

theorem Lawful.length_le_encode (lawful : mp.Lawful) (tokens : List Token) :
    tokens.length ≤ (mp.encode tokens).length := by
  induction tokens with
  | nil => simp
  | cons token tokens inductionHypothesis =>
      have written : 0 < (mp.write token).length :=
        List.length_pos_iff.mpr (lawful.write_ne_nil token)
      rw [encode_cons, List.length_append, List.length_cons]
      omega

theorem Fits.left {left right : List Token} (fits : mp.Fits (left ++ right)) :
    mp.Fits left := by
  rw [Fits, encode_append, List.length_append] at fits
  rw [Fits]
  omega

theorem Fits.right {left right : List Token} (fits : mp.Fits (left ++ right)) :
    mp.Fits right := by
  rw [Fits, encode_append, List.length_append] at fits
  rw [Fits]
  omega

theorem Fits.tail {token : Token} {tokens : List Token}
    (fits : mp.Fits (token :: tokens)) : mp.Fits tokens := by
  rw [Fits, encode_cons, List.length_append] at fits
  rw [Fits]
  omega

/-- `reader` takes exactly the given writes off the front of every input and
returns `value`. -/
def Reads (mp : MessagePack) {α : Type} (reader : Reader α)
    (tokens : List Token) (value : α) : Prop :=
  mp.Fits tokens → reader.Consumes (mp.encode tokens) value

namespace Reads

variable {α β : Type} {reader : Reader α} {next : α → Reader β}
  {tokens first second : List Token} {value : α} {result : β}

theorem pure_nil (value : α) : mp.Reads (pure value : Reader α) [] value :=
  fun _ => Decoder.Consumes.pure_nil value

theorem bind (head : mp.Reads reader first value)
    (tail : mp.Reads (next value) second result) :
    mp.Reads (reader >>= next) (first ++ second) result := by
  intro fits
  rw [encode_append]
  exact (head fits.left).bind (tail fits.right)

/-- One write, by the law of its primitive. -/
theorem single {token : Token}
    (law : (mp.write token).length < 2 ^ 31 →
      reader.Consumes (mp.write token) value) :
    mp.Reads reader [token] value := by
  intro fits
  rw [Fits, encode_cons, encode_nil, List.append_nil] at fits
  rw [encode_cons, encode_nil, List.append_nil]
  exact law fits

/-- The next write of the message. -/
theorem cons {token : Token} (head : mp.Reads reader [token] value)
    (tail : mp.Reads (next value) second result) :
    mp.Reads (reader >>= next) (token :: second) result :=
  head.bind tail

/-- The last part of a message, followed by code that reads nothing. -/
theorem last {finish : α → β} (head : mp.Reads reader tokens value) :
    mp.Reads (reader >>= fun read => pure (finish read)) tokens (finish value) := by
  have done : mp.Reads (pure (finish value) : Reader β) [] (finish value) :=
    pure_nil (finish value)
  rw [← List.append_nil tokens]
  exact head.bind done

theorem map (function : α → β) (reads : mp.Reads reader tokens value) :
    mp.Reads (function <$> reader) tokens (function value) := by
  rw [map_eq_pure_bind]
  exact reads.last

theorem orElseError (reads : mp.Reads reader tokens value) (error : Exn) :
    mp.Reads (reader.orElseError error) tokens value :=
  fun fits => (reads fits).orElseError error

theorem guarded (reads : mp.Reads reader tokens value) {present : Bool}
    (there : present = true) (default : α) :
    mp.Reads (Decoder.guarded present reader default) tokens value := by
  rw [Decoder.guarded, if_pos there]
  exact reads

theorem orElseError_bind (reads : mp.Reads (reader >>= next) tokens result)
    (error : Exn) :
    mp.Reads (reader.orElseError error >>= next) tokens result :=
  fun fits => (reads fits).orElseError_bind error

theorem repeatFrom {source : Type} {decode : Nat → Reader α}
    {encode : source → List Token} {read : source → α} (items : List source)
    (each : ∀ index, ∀ item ∈ items,
      mp.Reads (decode index) (encode item) (read item)) (start : Nat) :
    mp.Reads (Decoder.repeatFrom decode start items.length)
      (items.flatMap encode) (items.map read) := by
  intro fits
  have flat : mp.encode (items.flatMap encode) =
      items.flatMap fun item => mp.encode (encode item) :=
    List.flatMap_assoc
  rw [flat]
  refine Decoder.Consumes.repeatFrom items (fun index item member => ?_) start
  refine each index item member ?_
  obtain ⟨before, after, rfl⟩ := List.append_of_mem member
  rw [List.flatMap_append, List.flatMap_cons] at fits
  exact fits.right.left

end Reads

/-- An array header, provided its elements are written behind it. -/
theorem Lawful.reads_arrayHeader (lawful : mp.Lawful) {β : Type}
    {next : Nat → Reader β} {tokens : List Token} {result : β} (count : Nat)
    (elements : count ≤ tokens.length)
    (tail : mp.Reads (next count) tokens result) :
    mp.Reads (mp.readArrayHeader >>= next) (.arrayHeader count :: tokens) result := by
  intro fits rest
  have tailFits : mp.Fits tokens := fits.tail
  have enough := lawful.length_le_encode tokens
  rw [Fits] at tailFits
  rw [encode_cons, List.append_assoc, StateT.run_bind,
    lawful.readArrayHeader_write count _ (by omega) (by rw [List.length_append]; omega)]
  exact tail tailFits rest

/-- A map header, provided its keys and values are written behind it. -/
theorem Lawful.reads_mapHeader (lawful : mp.Lawful) {β : Type}
    {next : Nat → Reader β} {tokens : List Token} {result : β} (count : Nat)
    (elements : 2 * count ≤ tokens.length)
    (tail : mp.Reads (next count) tokens result) :
    mp.Reads (mp.readMapHeader >>= next) (.mapHeader count :: tokens) result := by
  intro fits rest
  have tailFits : mp.Fits tokens := fits.tail
  have enough := lawful.length_le_encode tokens
  rw [Fits] at tailFits
  rw [encode_cons, List.append_assoc, StateT.run_bind,
    lawful.readMapHeader_write count _ (by omega) (by rw [List.length_append]; omega)]
  exact tail tailFits rest

end MessagePack

end AzureSignalR.Protocol
