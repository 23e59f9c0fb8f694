import AzureSignalR.Serverless.ArgumentPositions
import AzureSignalR.Serverless.MessagePackReads

/-!
Contract: an invocation message is parsed with each argument in its place.

Owns: the bytes of an invocation message, the message they stand for, and when the parser finds
it.

Does not own: how a single value is decoded.
-/

set_option autoImplicit false

namespace AzureSignalR.Serverless

open Library Protocol MessagePackFormat MessagePackReaderExtensions MessagePackServerlessProtocol

/-! ## Messages and their bytes -/

/-- A value and its bytes. -/
structure Encoded where
  value : Value
  bytes : Bytes
  encodes : Encodes value bytes

def Encoded.element (encoded : Encoded) : Value × Bytes := (encoded.value, encoded.bytes)

/-- The value of a string or null. -/
def textValue : Option Bytes → Value
  | none => .nil
  | some payload => .string payload

/-- A string or null, and its bytes. -/
structure EncodedText where
  text : Option Bytes
  bytes : Bytes
  encodes : Encodes (textValue text) bytes

/-- The elements of an invocation message, each in one of its encodings. Other values may come
behind the arguments, as the ids of streams do. -/
structure InvocationEncoding where
  size : Bytes
  type : Bytes
  headerCount : Bytes
  headers : List (EncodedText × EncodedText)
  invocationId : EncodedText
  target : EncodedText
  argumentCount : Bytes
  arguments : List Encoded
  others : List Encoded
  isSize : SizeBytes arrayCodes (5 + others.length) size
  isType : IntegerBytes 1 type
  isHeaderCount : SizeBytes mapCodes headers.length headerCount
  isArgumentCount : SizeBytes arrayCodes arguments.length argumentCount

def headerBytes (header : EncodedText × EncodedText) : Bytes := header.1.bytes ++ header.2.bytes

namespace InvocationEncoding

variable (message : InvocationEncoding)

/-- What comes behind the arguments. -/
def otherBytes : Bytes := message.others.flatMap Encoded.bytes

def argumentsBytes : Bytes := message.argumentCount ++ message.arguments.flatMap Encoded.bytes

def partBytes : Bytes :=
  message.headerCount ++ message.headers.flatMap headerBytes ++
    (message.invocationId.bytes ++ (message.target.bytes ++ message.argumentsBytes))

def bytes : Bytes := message.size ++ (message.type ++ (message.partBytes ++ message.otherBytes))

variable {δ : Type} (reader : MessagePackReader δ)

/-- The message that they stand for. -/
def decoded : InvocationMessage δ where
  type := invocationMessageType
  invocationId := message.invocationId.text.map reader.getString
  target := message.target.text.map reader.getString
  arguments := message.arguments.map fun argument => argument.value.decode reader

/-- Every argument is decoded from its own bytes, and the bytes of the arguments are consumed. -/
structure KeepsPositions (rest : Bytes) : Prop where
  parses : tryParseMessage reader (message.bytes ++ rest) =
    .ok (true, some (message.decoded reader))
  consumes : ∃ parsed, (parseMessage reader).run (message.bytes ++ rest) =
    .ok (parsed, message.otherBytes ++ rest)

end InvocationEncoding

/-! ## Parsing -/

section Parsing

variable {δ : Type} {reader : MessagePackReader δ} (lawful : reader.Lawful)

theorem encodedText_length_pos (text : EncodedText) : 0 < text.bytes.length :=
  text.encodes.length_pos

section
include lawful

theorem consumes_readString (text : EncodedText) (field : String) :
    (readString reader field).Consumes text.bytes (text.text.map reader.getString) := by
  refine Decoder.Consumes.orElseError ?_ _
  obtain ⟨value, bytes, encodes⟩ := text
  cases value with
  | none =>
      cases encodes with
      | nil => exact lawful.readString_nil
  | some payload => exact lawful.readString encodes

theorem consumes_skipHeader {headers : List (EncodedText × EncodedText)} {size : Bytes}
    (isSize : SizeBytes mapCodes headers.length size) :
    (skipHeader reader).Consumes (size ++ headers.flatMap headerBytes) () := by
  intro rest
  have enough : 2 * headers.length ≤ (headers.flatMap headerBytes).length := by
    refine mul_length_le_flatMap fun header _ => ?_
    have key := encodedText_length_pos header.1
    have value := encodedText_length_pos header.2
    rw [headerBytes, List.length_append]
    omega
  have counted : (readMapLength reader "headers").run
      (size ++ (headers.flatMap headerBytes ++ rest)) =
      .ok (headers.length, headers.flatMap headerBytes ++ rest) := by
    refine Decoder.run_orElseError _ (lawful.readMapHeader isSize _ ?_)
    rw [List.length_append]
    omega
  have each (index : Nat) (header : EncodedText × EncodedText) :
      (readString reader (headerField index "Key") >>= fun _ =>
        readString reader (headerField index "Value")).Consumes (headerBytes header)
          (header.2.text.map reader.getString) :=
    (consumes_readString lawful header.1 _).bind (consumes_readString lawful header.2 _)
  have read := Decoder.Consumes.repeatFrom headers (fun index header _ => each index header) 0
  rw [skipHeader, StateT.run_bind, List.append_assoc, counted]
  show (Decoder.repeatFrom _ 0 headers.length >>= fun _ => pure ()).run _ = _
  rw [StateT.run_bind, read rest]
  rfl

end

theorem argumentsBytes_eq (message : InvocationEncoding) :
    message.argumentsBytes =
      message.argumentCount ++ (message.arguments.map Encoded.element).flatMap Prod.snd := by
  rw [InvocationEncoding.argumentsBytes, List.flatMap_map]
  rfl

theorem encodes_elements (message : InvocationEncoding) :
    ∀ element ∈ message.arguments.map Encoded.element, Encodes element.1 element.2 := by
  intro element member
  obtain ⟨argument, -, rfl⟩ := List.mem_map.mp member
  exact argument.encodes

theorem within_arguments (message : InvocationEncoding) (rest : Bytes) :
    ∀ element ∈ message.arguments.map Encoded.element,
      element.2.length ≤ (message.argumentsBytes ++ rest).length := by
  intro element member
  have part := length_le_flatMap_of_mem Prod.snd member
  rw [argumentsBytes_eq, List.length_append, List.length_append]
  omega

theorem isArgumentCount_elements (message : InvocationEncoding) :
    SizeBytes arrayCodes (message.arguments.map Encoded.element).length message.argumentCount := by
  rw [List.length_map]
  exact message.isArgumentCount

theorem enough_elements (message : InvocationEncoding) (rest : Bytes) :
    5 + message.others.length ≤
      (message.type ++ (message.partBytes ++ (message.otherBytes ++ rest))).length := by
  have type := message.isType.length_pos
  have headerCount := message.isHeaderCount.length_pos
  have invocationId := encodedText_length_pos message.invocationId
  have target := encodedText_length_pos message.target
  have argumentCount := message.isArgumentCount.length_pos
  have others : 1 * message.others.length ≤ message.otherBytes.length :=
    mul_length_le_flatMap fun other _ => other.encodes.length_pos
  simp only [InvocationEncoding.partBytes, InvocationEncoding.argumentsBytes, List.length_append]
  omega

section
include lawful

/-- The arguments, when all are supported. -/
theorem run_readArray (message : InvocationEncoding) (rest : Bytes)
    (supported : ∀ argument ∈ message.arguments, argument.value.isSupported = true) :
    (readArray reader "arguments").run (message.argumentsBytes ++ rest) =
      .ok ((message.decoded reader).arguments, rest) := by
  have read := consumes_readArrayOf lawful (isArgumentCount_elements message)
    (encodes_elements message)
    (fun field element member => consumes_readObject lawful
      (encodes_elements message element member)
      (by
        obtain ⟨argument, inArguments, rfl⟩ := List.mem_map.mp member
        exact supported argument inArguments)
      _ (within_arguments message rest element member) field) "arguments" rest
  rw [← argumentsBytes_eq, Value.decodeAll_eq_map, List.map_map, List.map_map] at read
  exact read

/-- Otherwise the reader is not left behind them. -/
theorem derails_readArray (message : InvocationEncoding) (rest : Bytes)
    (some : ∃ argument ∈ message.arguments, argument.value.isSupported = false) :
    Derails rest ((readArray reader "arguments").run (message.argumentsBytes ++ rest)) := by
  have elements : ∃ element ∈ message.arguments.map Encoded.element,
      element.1.isSupported = false := by
    obtain ⟨argument, member, unsupported⟩ := some
    exact ⟨argument.element, List.mem_map_of_mem member, unsupported⟩
  have within := within_arguments message rest
  show Derails rest ((readArrayOf reader
    (readObject reader (message.argumentsBytes ++ rest).length) "arguments").run _)
  rw [readArrayOf, StateT.run_bind]
  rw [argumentsBytes_eq message] at within ⊢
  rw [List.append_assoc, run_readArrayLength lawful (isArgumentCount_elements message) _ _
    (length_le_elements (encodes_elements message) rest)]
  rw [List.append_assoc] at within
  exact derails_elements lawful
    (fun element member supported => consumes_readObject lawful
      (encodes_elements message element member) supported _ (within element member))
    (fun element member unsupported => derails_of_not_supported lawful
      (encodes_elements message element member) unsupported _ (within element member))
    elements _ 0

theorem run_convertInvocationMessage (message : InvocationEncoding) (rest : Bytes) :
    (convertInvocationMessage reader).run (message.partBytes ++ rest) =
      ((readArray reader "arguments").run (message.argumentsBytes ++ rest)).map fun read =>
        ({ message.decoded reader with arguments := read.1 }, read.2) := by
  rw [convertInvocationMessage, InvocationEncoding.partBytes, List.append_assoc,
    Decoder.run_bind_of_run (consumes_skipHeader lawful message.isHeaderCount _), List.append_assoc,
    Decoder.run_bind_of_run (consumes_readString lawful message.invocationId _ _),
    List.append_assoc, Decoder.run_bind_of_run (consumes_readString lawful message.target _ _),
    StateT.run_bind]
  cases (readArray reader "arguments").run (message.argumentsBytes ++ rest) with
  | error failure => rfl
  | ok read => rfl

/-- All but the arguments of a message is read. -/
theorem run_parseMessage (message : InvocationEncoding) (rest : Bytes) :
    (parseMessage reader).run (message.bytes ++ rest) =
      ((readArray reader "arguments").run
        (message.argumentsBytes ++ (message.otherBytes ++ rest))).map fun read =>
          (some { message.decoded reader with arguments := read.1 }, read.2) := by
  have isType : (readInt32 reader "messageType").Consumes message.type invocationMessageType :=
    (lawful.readInt32 message.isType (by decide) (by decide)).orElseError _
  rw [MessagePackServerlessProtocol.parseMessage, InvocationEncoding.bytes, List.append_assoc,
    List.append_assoc, List.append_assoc, Decoder.run_bind_of_run
      (lawful.readArrayHeader message.isSize _ (enough_elements message rest)),
    Decoder.run_bind_of_run (isType _), if_pos rfl, StateT.run_map,
    run_convertInvocationMessage lawful]
  cases (readArray reader "arguments").run
      (message.argumentsBytes ++ (message.otherBytes ++ rest)) with
  | error failure => rfl
  | ok read => rfl

/-- The arguments keep their positions exactly if there is no extension and no integer from
`2 ^ 63` on among them, at any depth. -/
theorem arguments_keep_positions (message : InvocationEncoding) (rest : Bytes) :
    message.KeepsPositions reader rest ↔
      ∀ argument ∈ message.arguments, argument.value.isSupported = true := by
  constructor
  · intro keeps argument member
    by_contra unsupported
    obtain ⟨parsed, ran⟩ := keeps.consumes
    rw [run_parseMessage lawful] at ran
    have derails := derails_readArray lawful message (message.otherBytes ++ rest)
      ⟨argument, member, Bool.eq_false_of_not_eq_true unsupported⟩
    cases read : (readArray reader "arguments").run
        (message.argumentsBytes ++ (message.otherBytes ++ rest)) with
    | error failure =>
        rw [read] at ran
        cases ran
    | ok left =>
        obtain ⟨-, longer⟩ := derails left.1 left.2 read
        rw [read] at ran
        obtain ⟨-, behind⟩ := Prod.mk.inj (Except.ok.inj ran)
        rw [behind] at longer
        exact absurd longer (Nat.lt_irrefl _)
  · intro supported
    have ran : (parseMessage reader).run (message.bytes ++ rest) =
        .ok (some (message.decoded reader), message.otherBytes ++ rest) := by
      rw [run_parseMessage lawful, run_readArray lawful message _ supported]
      rfl
    refine ⟨?_, _, ran⟩
    rw [MessagePackServerlessProtocol.tryParseMessage, ran]
    rfl

end

end Parsing

/-! ### Messages in their shortest encodings -/

/-- The text of bytes that are all below 128. -/
def asciiString (bytes : Bytes) : String :=
  String.ofList (bytes.map fun byte => Char.ofNat byte.toNat)

def encodedText (text : Bytes) (short : text.length < 32) : EncodedText where
  text := some text
  bytes := UInt8.ofNat (0xa0 + text.length) :: text
  encodes := .string (.fixed short)

/-- The method `m` with two arguments. -/
def invocationOf (first second : Encoded) : InvocationEncoding where
  size := [0x95]
  type := [0x01]
  headerCount := [0x80]
  headers := []
  invocationId := { text := none, bytes := [0xc0], encodes := .nil }
  target := encodedText [0x6d] (by decide)
  argumentCount := [0x92]
  arguments := [first, second]
  others := []
  isSize := .fixed (by decide)
  isType := .positive 1 (by decide)
  isHeaderCount := .fixed (by decide)
  isArgumentCount := .fixed (by show 2 < 16; decide)

def encodedInteger (value : Nat) (small : value < 2 ^ 7) : Encoded where
  value := .integer value
  bytes := [UInt8.ofNat value]
  encodes := .integer (.positive value small)

/-- The timestamp of one second after the epoch. -/
def encodedTimestamp : Encoded where
  value := .extension 0xff [0, 0, 0, 1]
  bytes := [0xd6, 0xff, 0, 0, 0, 1]
  encodes := .fixedExtension (by decide)

/-- `2 ^ 63`. -/
def encodedUInt64 : Encoded where
  value := .integer (2 ^ 63 : Nat)
  bytes := 0xcf :: bigEndian 8 (2 ^ 63)
  encodes := .integer (.unsigned 0xcf 8 (2 ^ 63) (by decide) (by decide))

/-- An array of two. -/
def encodedPair (first second : Encoded) : Encoded where
  value := .array [first.value, second.value]
  bytes := [0x92] ++ (first.bytes ++ second.bytes)
  encodes := by
    have all : ∀ element ∈ [first.element, second.element], Encodes element.1 element.2 := by
      intro element member
      simp only [List.mem_cons, List.not_mem_nil, or_false] at member
      rcases member with rfl | rfl
      · exact first.encodes
      · exact second.encodes
    have array := Encodes.array (.fixed (by show 2 < 16; decide)) all
    rw [List.flatMap_cons, List.flatMap_cons, List.flatMap_nil, List.append_nil] at array
    exact array

/-- A map of one entry. -/
def encodedEntry (key : Bytes) (short : key.length < 32) (value : Encoded) : Encoded where
  value := .map [(key, value.value)]
  bytes := [0x81] ++ ((encodedText key short).bytes ++ value.bytes)
  encodes := by
    let entry : Entry := ⟨key, (encodedText key short).bytes, value.value, value.bytes⟩
    have keys : ∀ other ∈ [entry], Encodes (.string other.key) other.keyBytes := by
      intro other member
      rw [List.mem_singleton.mp member]
      exact (encodedText key short).encodes
    have values : ∀ other ∈ [entry], Encodes other.value other.valueBytes := by
      intro other member
      rw [List.mem_singleton.mp member]
      exact value.encodes
    have map := Encodes.map (.fixed (by show 1 < 16; decide)) keys values
    rw [List.flatMap_cons, List.flatMap_nil, List.append_nil] at map
    exact map

def encodedNull : Encoded where
  value := .nil
  bytes := [0xc0]
  encodes := .nil

/-- A message with the arguments `[{"k": [1, null]}, 2]` and `{"k": null}`. -/
def nestedInvocation : InvocationEncoding :=
  invocationOf
    (encodedPair (encodedEntry [0x6b] (by decide)
      (encodedPair (encodedInteger 1 (by decide)) encodedNull)) (encodedInteger 2 (by decide)))
    (encodedEntry [0x6b] (by decide) encodedNull)

theorem arguments_keep_positions_nested :
    nestedInvocation.KeepsPositions (messagePackReader asciiString id) [0x01] := by
  refine (arguments_keep_positions (messagePackReader_lawful asciiString id) _ [0x01]).mpr ?_
  intro argument member
  rcases List.mem_cons.mp member with rfl | behind
  · rfl
  · rw [List.mem_singleton.mp behind]
    rfl

/-- A timestamp takes the places of all that come behind it, and a large integer throws. -/
theorem arguments_lose_positions :
    tryParseMessage (messagePackReader asciiString id)
        (invocationOf encodedTimestamp (encodedInteger 2 (by decide))).bytes =
      .ok (true,
        some { type := 1, invocationId := none, target := some "m", arguments := [.null, .null] }) ∧
    tryParseMessage (messagePackReader asciiString id)
        (invocationOf encodedUInt64 (encodedInteger 2 (by decide))).bytes = .error .overflow ∧
    ¬ (invocationOf encodedTimestamp (encodedInteger 2 (by decide))).KeepsPositions
        (messagePackReader asciiString id) [] := by
  refine ⟨rfl, rfl, fun keeps => ?_⟩
  have parsed := keeps.parses
  rw [List.append_nil] at parsed
  cases parsed

end AzureSignalR.Serverless
