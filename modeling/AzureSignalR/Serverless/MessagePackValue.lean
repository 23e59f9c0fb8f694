import AzureSignalR.Protocol.MessagePackFormat

/-!
Contract: MessagePack values of every kind with all their encodings, and the reads that the
serverless protocol makes of them.

Owns: the values, the bytes that stand for each, and what the protocol relies on when it reads:
a primitive read takes exactly the one value it is made for.

Does not own: the text of the bytes of a string, or the number in those of a float. The
MessagePack sources are a submodule outside this repository.
-/

set_option autoImplicit false

namespace AzureSignalR.Serverless

open Library Protocol MessagePackFormat

/-! ## Values -/

inductive MessagePackType where
  | unknown
  | integer
  | nil
  | boolean
  | float
  | string
  | binary
  | array
  | map
  | extension
deriving DecidableEq, Repr

/-- A value. The keys of a map are strings; strings and floats are what their bytes are. -/
inductive Value where
  | nil
  | boolean (value : Bool)
  | integer (value : Int)
  | float (payload : Bytes)
  | string (payload : Bytes)
  | binary (payload : Bytes)
  | array (elements : List Value)
  | map (entries : List (Bytes × Value))
  | extension (type : UInt8) (payload : Bytes)

def Value.type : Value → MessagePackType
  | .nil => .nil
  | .boolean _ => .boolean
  | .integer _ => .integer
  | .float _ => .float
  | .string _ => .string
  | .binary _ => .binary
  | .array _ => .array
  | .map _ => .map
  | .extension _ _ => .extension

/-! ## Encodings -/

def extensionCodes : SizeCodes where
  fixed := 0
  fixedCount := 0
  short := some 0xc7
  medium := 0xc8
  long := 0xc9
  fixed_le := binaryCodes.fixed_le
  outside := by simp
  distinct := by decide
  fixed_nil := binaryCodes.fixed_nil
  listed_nil := by decide

/-- An entry of a map, with the bytes of its key and of its value. -/
structure Entry where
  key : Bytes
  keyBytes : Bytes
  value : Value
  valueBytes : Bytes

/-- The bytes that stand for a value. -/
inductive Encodes : Value → Bytes → Prop where
  | nil : Encodes .nil [0xc0]
  | boolean (value : Bool) : Encodes (.boolean value) [if value then 0xc3 else 0xc2]
  | integer {value : Int} {bytes : Bytes} (isInteger : IntegerBytes value bytes) :
      Encodes (.integer value) bytes
  | float {code : UInt8} {payload : Bytes}
      (listed : (code, payload.length) ∈ [((0xca : UInt8), 4), (0xcb, 8)]) :
      Encodes (.float payload) (code :: payload)
  | string {payload size : Bytes} (isSize : SizeBytes stringCodes payload.length size) :
      Encodes (.string payload) (size ++ payload)
  | binary {payload size : Bytes} (isSize : SizeBytes binaryCodes payload.length size) :
      Encodes (.binary payload) (size ++ payload)
  | array {elements : List (Value × Bytes)} {size : Bytes}
      (isSize : SizeBytes arrayCodes elements.length size)
      (all : ∀ element ∈ elements, Encodes element.1 element.2) :
      Encodes (.array (elements.map Prod.fst)) (size ++ elements.flatMap Prod.snd)
  | map {entries : List Entry} {size : Bytes} (isSize : SizeBytes mapCodes entries.length size)
      (keys : ∀ entry ∈ entries, Encodes (.string entry.key) entry.keyBytes)
      (values : ∀ entry ∈ entries, Encodes entry.value entry.valueBytes) :
      Encodes (.map (entries.map fun entry => (entry.key, entry.value)))
        (size ++ entries.flatMap fun entry => entry.keyBytes ++ entry.valueBytes)
  | fixedExtension {code type : UInt8} {payload : Bytes}
      (listed : (code, payload.length) ∈
        [((0xd4 : UInt8), 1), (0xd5, 2), (0xd6, 4), (0xd7, 8), (0xd8, 16)]) :
      Encodes (.extension type payload) (code :: type :: payload)
  | extension {type : UInt8} {payload size : Bytes}
      (isSize : SizeBytes extensionCodes payload.length size) :
      Encodes (.extension type payload) (size ++ type :: payload)

theorem Encodes.length_pos {value : Value} {bytes : Bytes} (encodes : Encodes value bytes) :
    0 < bytes.length := by
  have sized {codes : SizeCodes} {size : Nat} {bytes more : Bytes}
      (isSize : SizeBytes codes size bytes) : 0 < (bytes ++ more).length := by
    rw [List.length_append]
    exact Nat.add_pos_left isSize.length_pos _
  cases encodes with
  | nil | boolean | float | fixedExtension => exact Nat.succ_pos _
  | integer isInteger => exact isInteger.length_pos
  | string isSize | binary isSize | extension isSize => exact sized isSize
  | array isSize | map isSize => exact sized isSize

/-! ## Reads -/

/-- The reads of `MessagePackReader`, the text in the bytes of a string and the number in those of
a float. -/
structure MessagePackReader (δ : Type) where
  getString : Bytes → String
  toDouble : Bytes → δ
  nextMessagePackType : Reader MessagePackType
  readNil : Reader Unit
  readBoolean : Reader Bool
  readInt32 : Reader Int32
  readInt64 : Reader Int64
  readDouble : Reader δ
  readString : Reader (Option String)
  readBytes : Reader (Option Bytes)
  readArrayHeader : Reader Nat
  readMapHeader : Reader Nat

namespace MessagePackReader

variable {δ : Type}

/-- What the protocol relies on. -/
structure Lawful (reader : MessagePackReader δ) : Prop where
  nextMessagePackType : ∀ {value bytes}, Encodes value bytes → ∀ rest,
    reader.nextMessagePackType.run (bytes ++ rest) = .ok (value.type, bytes ++ rest)
  readNil : reader.readNil.Consumes [0xc0] ()
  readBoolean : ∀ value, reader.readBoolean.Consumes [if value then 0xc3 else 0xc2] value
  readInt32 : ∀ {value bytes}, IntegerBytes value bytes → -2 ^ 31 ≤ value → value < 2 ^ 31 →
    reader.readInt32.Consumes bytes (Int32.ofInt value)
  readInt64 : ∀ {value bytes}, IntegerBytes value bytes → value < 2 ^ 63 →
    reader.readInt64.Consumes bytes (Int64.ofInt value)
  /-- An unsigned integer that is no `long`. -/
  readInt64_overflow : ∀ {value bytes}, IntegerBytes value bytes → 2 ^ 63 ≤ value → ∀ rest,
    ∃ error, reader.readInt64.run (bytes ++ rest) = .error error
  readDouble : ∀ {payload bytes}, Encodes (.float payload) bytes →
    reader.readDouble.Consumes bytes (reader.toDouble payload)
  readString : ∀ {payload bytes}, Encodes (.string payload) bytes →
    reader.readString.Consumes bytes (some (reader.getString payload))
  readString_nil : reader.readString.Consumes [0xc0] none
  readString_extension : ∀ {type payload bytes}, Encodes (.extension type payload) bytes → ∀ rest,
    ∃ error, reader.readString.run (bytes ++ rest) = .error error
  readBytes : ∀ {payload bytes}, Encodes (.binary payload) bytes →
    reader.readBytes.Consumes bytes (some payload)
  /-- A count is refused if the bytes behind it cannot hold so many values. -/
  readArrayHeader : ∀ {count bytes}, SizeBytes arrayCodes count bytes → ∀ rest : Bytes,
    count ≤ rest.length → reader.readArrayHeader.run (bytes ++ rest) = .ok (count, rest)
  readMapHeader : ∀ {count bytes}, SizeBytes mapCodes count bytes → ∀ rest : Bytes,
    2 * count ≤ rest.length → reader.readMapHeader.run (bytes ++ rest) = .ok (count, rest)

end MessagePackReader

end AzureSignalR.Serverless
