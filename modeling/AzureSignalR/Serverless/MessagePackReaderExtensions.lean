import AzureSignalR.Serverless.MessagePackValue

/-!
Contract: how the serverless protocol reads an invocation message.

Owns: `MessagePackReaderExtensions` and `MessagePackServerlessProtocol.TryParseMessage`.

Does not own: the reads of the MessagePack library.
-/

set_option autoImplicit false

namespace AzureSignalR.Serverless

open Library Protocol

variable {δ : Type}

/-- An `object?` that the protocol makes. A map is its entries, each key once. -/
inductive Obj (δ : Type) where
  | null
  | boolean (value : Bool)
  | int64 (value : Int64)
  | double (value : δ)
  | string (value : String)
  | bytes (value : Bytes)
  | array (elements : List (Obj δ))
  | map (entries : List (String × Obj δ))

/-- `map[key] = value`. -/
def setItem (entries : List (String × Obj δ)) (key : String) (value : Obj δ) :
    List (String × Obj δ) :=
  match entries with
  | [] => [(key, value)]
  | entry :: entries =>
      if entry.1 = key then (key, value) :: entries else entry :: setItem entries key value

namespace MessagePackReaderExtensions

variable (reader : MessagePackReader δ)

def readInt32 (field : String) : Reader Int32 :=
  reader.readInt32.orElseError (.invalidData ("Reading '" ++ field ++ "' as Int32 failed."))

def readString (field : String) : Reader (Option String) :=
  reader.readString.orElseError (.invalidData ("Reading '" ++ field ++ "' as String failed."))

def readMapLength (field : String) : Reader Nat :=
  reader.readMapHeader.orElseError
    (.invalidData ("Reading map length for '" ++ field ++ "' failed."))

def readArrayLength (field : String) : Reader Nat :=
  reader.readArrayHeader.orElseError
    (.invalidData ("Reading array length for '" ++ field ++ "' failed."))

def throwWhenNull : Option String → Reader String
  | some input => pure input
  | none => Decoder.fail (.argumentNull "input")

def elementField (field : String) (index : Nat) : String :=
  "the element at indext " ++ toString index ++ " of " ++ field

/-- `ReadArray`, with `ReadObject` for its elements. -/
def readArrayOf (readObject : String → Reader (Obj δ)) (field : String) :
    Reader (List (Obj δ)) := do
  let count ← readArrayLength reader field
  Decoder.repeatFrom (fun index => readObject (elementField field index)) 0 count

/-- The loop over the entries of a map. -/
def readEntries (readObject : Reader (Obj δ)) :
    Nat → List (String × Obj δ) → Reader (List (String × Obj δ))
  | 0, map => pure map
  | propertyCount + 1, map => do
      let key ← reader.readString >>= throwWhenNull
      let value ← readObject
      readEntries readObject propertyCount (setItem map key value)

/-- The switch of `ReadObject`, with `ReadObject` for the values inside. -/
def readOfType (readObject : String → Reader (Obj δ)) (field : String) :
    MessagePackType → Reader (Obj δ)
  | .binary => (fun bytes => .bytes (bytes.getD [])) <$> reader.readBytes
  | .integer => .int64 <$> reader.readInt64
  | .boolean => .boolean <$> reader.readBoolean
  | .float => .double <$> reader.readDouble
  | .string => (fun text => text.elim .null .string) <$> reader.readString
  | .array => .array <$> readArrayOf reader readObject field
  | .map => do
      let propertyCount ← reader.readMapHeader
      .map <$> readEntries reader (readObject field) propertyCount []
  | .nil => do
      reader.readNil
      pure .null
  | .extension | .unknown => pure .null

/-- `ReadObject`. A value inside another has a header in front of it, so the bytes at hand bound
the recursion. -/
def readObject : (bound : Nat) → (field : String) → Reader (Obj δ)
  | 0, _ => Decoder.fail .endOfStream
  | bound + 1, field => do
      let next ← reader.nextMessagePackType
      readOfType reader (readObject bound) field next

def readArray (field : String) : Reader (List (Obj δ)) := fun stream =>
  (readArrayOf reader (readObject reader stream.length) field).run stream

def headerField (index : Nat) (part : String) : String :=
  "headers[" ++ toString index ++ "]." ++ part

def skipHeader : Reader Unit := do
  let headerCount ← readMapLength reader "headers"
  let _ ← Decoder.repeatFrom
    (fun index => do
      let _ ← readString reader (headerField index "Key")
      readString reader (headerField index "Value"))
    0 headerCount

end MessagePackReaderExtensions

namespace MessagePackServerlessProtocol

open MessagePackReaderExtensions

def invocationMessageType : Int32 := 1

structure InvocationMessage (δ : Type) where
  type : Int32
  invocationId : Option String
  target : Option String
  arguments : List (Obj δ)

variable (reader : MessagePackReader δ)

def convertInvocationMessage : Reader (InvocationMessage δ) := do
  skipHeader reader
  let invocationId ← readString reader "invocationId"
  let target ← readString reader "target"
  let arguments ← readArray reader "arguments"
  pure { type := invocationMessageType, invocationId, target, arguments }

/-- The message, and where the reader of its last part has come to. -/
def parseMessage : Reader (Option (InvocationMessage δ)) := do
  let _ ← reader.readArrayHeader
  let messageType ← readInt32 reader "messageType"
  if messageType = invocationMessageType then some <$> convertInvocationMessage reader
  else pure none

/-- The result and the `message`. -/
def tryParseMessage (input : Bytes) : Except Exn (Bool × Option (InvocationMessage δ)) := do
  let parsed ← (parseMessage reader).run input
  pure (parsed.1.isSome, parsed.1)

end MessagePackServerlessProtocol

end AzureSignalR.Serverless
