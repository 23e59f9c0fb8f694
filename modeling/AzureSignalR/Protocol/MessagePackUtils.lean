import AzureSignalR.Protocol.MessagePack
import AzureSignalR.Protocol.ServiceMessage

/-!
Contract: the shared field readers of `MessagePackUtils` with the field
writers they answer, and the two dictionaries the readers fill.

Owns: the wrappers that turn a primitive's exception into an
`InvalidDataException` naming the field, and the round trip of every
collection: string arrays, claims, payloads and headers.

Does not own: the messages these fields belong to.
-/

set_option autoImplicit false

namespace AzureSignalR.Protocol

open Library

/-! ## Dictionaries -/

/-- `ArrayDictionary`: the entries added so far and the slots still free. The
two backing arrays of the class hold the entries followed by `free` defaults,
so its capacity is `entries.length + free`. -/
structure ArrayDictionary (κ ν : Type) where
  comparer : κ → κ → Bool
  entries : List (κ × ν)
  free : Nat

namespace ArrayDictionary

variable {κ ν : Type}

def ofCapacity (capacity : Nat) (comparer : κ → κ → Bool) : ArrayDictionary κ ν :=
  ⟨comparer, [], capacity⟩

def capacity (dictionary : ArrayDictionary κ ν) : Nat :=
  dictionary.entries.length + dictionary.free

/-- `Add` looks for a free slot, never for an equal key. -/
def add (dictionary : ArrayDictionary κ ν) (key : κ) (value : ν) :
    Except Exn (ArrayDictionary κ ν) :=
  match dictionary.free with
  | free + 1 =>
      .ok { dictionary with entries := dictionary.entries ++ [(key, value)], free := free }
  | 0 =>
      .error (.invalidOperation
        ("ArrayDictionary is at capacity " ++ toString dictionary.capacity))

end ArrayDictionary

/-- `StringComparer.OrdinalIgnoreCase`, for the invariant upper-case mapping. -/
def ordinalIgnoreCase (toUpperInvariant : Char → Char) (left right : String) : Bool :=
  left.toList.map toUpperInvariant == right.toList.map toUpperInvariant

/-- `Dictionary.Add` on the entries in insertion order. -/
def dictionaryAdd {ν : Type} (comparer : String → String → Bool)
    (entries : List (String × ν)) (key : String) (value : ν) :
    Except Exn (List (String × ν)) :=
  if entries.any fun entry => comparer entry.1 key then
    .error (.argument ("An item with the same key has already been added. Key: " ++ key))
  else
    .ok (entries ++ [(key, value)])

/-- No key is added twice, as the comparer sees keys. -/
def DistinctKeys {ν : Type} (comparer : String → String → Bool)
    (entries : List (String × ν)) : Prop :=
  entries.Pairwise fun earlier later => comparer earlier.1 later.1 = false

instance {ν : Type} (comparer : String → String → Bool) (entries : List (String × ν)) :
    Decidable (DistinctKeys comparer entries) :=
  inferInstanceAs (Decidable (entries.Pairwise _))

/-- An exception or value of code that reads nothing. -/
def liftExcept {α : Type} : Except Exn α → Reader α
  | .ok value => pure value
  | .error error => Decoder.fail error

/-! ## Field readers -/

section Readers

variable (mp : MessagePack)

def invalidField (field kind : String) : Exn :=
  .invalidData ("Reading '" ++ field ++ "' as " ++ kind ++ " failed.")

def readBoolean (field : String) : Reader Bool :=
  mp.readBoolean.orElseError (invalidField field "Boolean")

def readInt32 (field : String) : Reader Int32 :=
  mp.readInt32.orElseError (invalidField field "Int32")

def readString (field : String) : Reader (Option String) :=
  mp.readString.orElseError (invalidField field "String")

def readStringNotNull (field : String) : Reader String := do
  let result ← mp.readString.orElseError (invalidField field "String")
  match result with
  | some value => pure value
  | none => Decoder.fail (invalidField field "Not-Null String")

/-- `reader.ReadBytes()?.ToArray() ?? Array.Empty<byte>()`. -/
def readBytes (field : String) : Reader Bytes := do
  let result ← mp.readBytes.orElseError (invalidField field "Byte[]")
  pure (result.getD [])

def readByteSequence (field : String) : Reader (Option Bytes) :=
  mp.readBytes.orElseError
    (.invalidData ("Reading binary sequence for '" ++ field ++ "' failed."))

def readMapLength (field : String) : Reader Nat :=
  mp.readMapHeader.orElseError
    (.invalidData ("Reading map length for '" ++ field ++ "' failed."))

def readArrayLength (field : String) : Reader Nat :=
  mp.readArrayHeader.orElseError
    (.invalidData ("Reading array length for '" ++ field ++ "' failed."))

/-- `field[index]`, as the readers spell the path of an element. -/
def elementField (field : String) (index : Nat) : String :=
  field ++ "[" ++ toString index ++ "]"

def readStringArray (field : String) : Reader (List String) := do
  let arrayLength ← readArrayLength mp field
  Decoder.repeatFrom (fun index => readStringNotNull mp (elementField field index))
    0 arrayLength

/-- `new Claim(type, value)`. -/
def newClaim (type value : Option String) : Except Exn Claim :=
  match type, value with
  | none, _ => .error (.argumentNull "type")
  | _, none => .error (.argumentNull "value")
  | some type, some value => .ok ⟨type, value⟩

def readClaim (index : Nat) : Reader Claim := do
  let type ← readString mp (elementField "claims" index ++ ".Type")
  let value ← readString mp (elementField "claims" index ++ ".Value")
  liftExcept (newClaim type value)

def readClaims : Reader (List Claim) := do
  let claimCount ← readMapLength mp "claims"
  Decoder.repeatFrom (readClaim mp) 0 claimCount

/-- The loop of `ReadPayloads` over `payloads[start], ...`. -/
def readPayloadsFrom (start : Nat) :
    Nat → ArrayDictionary String Bytes → Reader (ArrayDictionary String Bytes)
  | 0, payloads => pure payloads
  | count + 1, payloads => do
      let key ← readStringNotNull mp (elementField "payloads" start ++ ".key")
      let value ← readBytes mp (elementField "payloads" start ++ ".value")
      let payloads ← liftExcept (payloads.add key value)
      readPayloadsFrom (start + 1) count payloads

variable (toUpperInvariant : Char → Char)

def readPayloads : Reader Payloads := do
  let payloadCount ← readMapLength mp "payloads"
  if 0 < payloadCount then do
    let payloads ← readPayloadsFrom mp 0 payloadCount
      (.ofCapacity payloadCount (ordinalIgnoreCase toUpperInvariant))
    pure payloads.entries
  else
    pure []

/-- The loop of `ReadHeaders` over `headers[start], ...`. -/
def readHeadersFrom (start : Nat) : Nat → Headers → Reader Headers
  | 0, headers => pure headers
  | headerCount + 1, headers => do
      let key ← readStringNotNull mp (elementField "headers" start ++ ".key")
      let count ← readArrayLength mp (elementField "headers" start ++ ".value.length")
      let stringValues ← Decoder.repeatFrom
        (fun index =>
          readString mp (elementField (elementField "headers" start ++ ".value") index))
        0 count
      let headers ← liftExcept
        (dictionaryAdd (ordinalIgnoreCase toUpperInvariant) headers key stringValues)
      readHeadersFrom (start + 1) headerCount headers

def readHeaders : Reader Headers := do
  let headerCount ← readMapLength mp "headers"
  if 0 < headerCount then
    readHeadersFrom mp toUpperInvariant 0 headerCount []
  else
    pure []

end Readers

/-! ## Field writers

The writers test `collection?.Count > 0`, so null is written like empty. -/

def writeStringArray (array : Option (List String)) : List Token :=
  let values := array.getD []
  if 0 < values.length then
    .arrayHeader values.length :: values.map fun value => .string (some value)
  else
    [.arrayHeader 0]

def writeClaim (claim : Claim) : List Token :=
  [.string (some claim.type), .string (some claim.value)]

def writeClaims (claims : Option (List Claim)) : List Token :=
  let claims := claims.getD []
  if 0 < claims.length then
    .mapHeader claims.length :: claims.flatMap writeClaim
  else
    [.mapHeader 0]

def writePayload (payload : String × Bytes) : List Token :=
  [.string (some payload.1), .binary payload.2]

def writePayloads (payloads : Option Payloads) : List Token :=
  let payloads := payloads.getD []
  if 0 < payloads.length then
    .mapHeader payloads.length :: payloads.flatMap writePayload
  else
    [.mapHeader 0]

def writeHeader (header : String × StringValues) : List Token :=
  .string (some header.1) :: .arrayHeader header.2.length :: header.2.map .string

def writeHeaders (headers : Option Headers) : List Token :=
  let headers := headers.getD []
  if 0 < headers.length then
    .mapHeader headers.length :: headers.flatMap writeHeader
  else
    [.mapHeader 0]

/-! ## Round trips

Each collection is its header followed by its elements, also when it is null
or empty. -/

theorem writeStringArray_eq (array : Option (List String)) :
    writeStringArray array =
      .arrayHeader (array.getD []).length ::
        (array.getD []).flatMap fun value => [.string (some value)] := by
  rw [writeStringArray, List.map_eq_flatMap]
  cases array.getD [] <;> simp

theorem writeClaims_eq (claims : Option (List Claim)) :
    writeClaims claims =
      .mapHeader (claims.getD []).length :: (claims.getD []).flatMap writeClaim := by
  rw [writeClaims]
  cases claims.getD [] <;> simp

theorem writePayloads_eq (payloads : Option Payloads) :
    writePayloads payloads =
      .mapHeader (payloads.getD []).length :: (payloads.getD []).flatMap writePayload := by
  rw [writePayloads]
  cases payloads.getD [] <;> simp

theorem writeHeaders_eq (headers : Option Headers) :
    writeHeaders headers =
      .mapHeader (headers.getD []).length :: (headers.getD []).flatMap writeHeader := by
  rw [writeHeaders]
  cases headers.getD [] <;> simp

/-- A header takes at least its key and its array header. -/
theorem length_writeHeader (headers : Headers) :
    2 * headers.length ≤ (headers.flatMap writeHeader).length := by
  induction headers with
  | nil => simp
  | cons header headers inductionHypothesis =>
      simp only [List.flatMap_cons, writeHeader, List.length_append, List.length_cons]
      omega

section RoundTrip

variable {mp : MessagePack} (lawful : mp.Lawful)
include lawful

theorem reads_readInt32 (field : String) (value : Int32) :
    mp.Reads (readInt32 mp field) [.int value] value :=
  (MessagePack.Reads.single fun _ => lawful.readInt32_int value).orElseError _

theorem reads_readInt32_fixed (field : String) (value : Int32) :
    mp.Reads (readInt32 mp field) [.int32 value] value :=
  (MessagePack.Reads.single fun _ => lawful.readInt32_int32 value).orElseError _

theorem reads_readBoolean (field : String) (value : Bool) :
    mp.Reads (readBoolean mp field) [.boolean value] value :=
  (MessagePack.Reads.single fun _ => lawful.readBoolean_write value).orElseError _

theorem reads_readString (field : String) (value : Option String) :
    mp.Reads (readString mp field) [.string value] value :=
  (MessagePack.Reads.single (lawful.readString_write value)).orElseError _

theorem reads_readStringNotNull (field value : String) :
    mp.Reads (readStringNotNull mp field) [.string (some value)] value :=
  (reads_readString lawful field (some value)).cons (.pure_nil value)

theorem reads_readBytes (field : String) (value : Bytes) :
    mp.Reads (readBytes mp field) [.binary value] value :=
  ((MessagePack.Reads.single (lawful.readBytes_write value)).orElseError _).cons
    (.pure_nil value)

theorem reads_readByteSequence (field : String) (value : Bytes) :
    mp.Reads (readByteSequence mp field) [.binary value] (some value) :=
  (MessagePack.Reads.single (lawful.readBytes_write value)).orElseError _

theorem reads_readByteSequence_nil (field : String) :
    mp.Reads (readByteSequence mp field) [.nil] none :=
  (MessagePack.Reads.single fun _ => lawful.readBytes_nil).orElseError _

theorem reads_readStringArray (field : String) (array : Option (List String)) :
    mp.Reads (readStringArray mp field) (writeStringArray array) (array.getD []) := by
  have elements := MessagePack.Reads.repeatFrom (array.getD [])
    (fun index value _ =>
      reads_readStringNotNull lawful (elementField field index) value) 0
  rw [List.map_id'] at elements
  rw [writeStringArray_eq]
  exact (lawful.reads_arrayHeader _ (by simp) elements).orElseError_bind _

theorem reads_readClaim (index : Nat) (claim : Claim) :
    mp.Reads (readClaim mp index) (writeClaim claim) claim :=
  (reads_readString lawful _ (some claim.type)).cons
    ((reads_readString lawful _ (some claim.value)).cons (.pure_nil claim))

theorem reads_readClaims (claims : Option (List Claim)) :
    mp.Reads (readClaims mp) (writeClaims claims) (claims.getD []) := by
  have elements := MessagePack.Reads.repeatFrom (claims.getD [])
    (fun index claim _ => reads_readClaim lawful index claim) 0
  rw [List.map_id'] at elements
  rw [writeClaims_eq]
  refine (lawful.reads_mapHeader _ ?_ elements).orElseError_bind _
  simp [writeClaim, Nat.mul_comm]

/-- The loop of `ReadPayloads` fills the free slots in order. -/
theorem reads_readPayloadsFrom (payloads : Payloads) (start spare : Nat)
    (dictionary : ArrayDictionary String Bytes)
    (room : dictionary.free = payloads.length + spare) :
    mp.Reads (readPayloadsFrom mp start payloads.length dictionary)
      (payloads.flatMap writePayload)
      { dictionary with entries := dictionary.entries ++ payloads, free := spare } := by
  induction payloads generalizing start dictionary with
  | nil =>
      have full : dictionary =
          { dictionary with entries := dictionary.entries ++ [], free := spare } := by
        simp only [List.length_nil, Nat.zero_add] at room
        simp [← room]
      rw [← full]
      exact .pure_nil dictionary
  | cons payload payloads inductionHypothesis =>
      have added : dictionary.add payload.1 payload.2 =
          .ok { dictionary with
            entries := dictionary.entries ++ [payload]
            free := payloads.length + spare } := by
        have slot : dictionary.free = payloads.length + spare + 1 := by
          rw [room, List.length_cons]
          omega
        rw [ArrayDictionary.add, slot]
      have tail := inductionHypothesis (start + 1)
        { dictionary with
          entries := dictionary.entries ++ [payload]
          free := payloads.length + spare } rfl
      simp only [List.append_assoc, List.singleton_append] at tail
      refine (reads_readStringNotNull lawful _ payload.1).cons
        ((reads_readBytes lawful _ payload.2).cons ?_)
      rw [added]
      exact tail

theorem reads_readPayloads (toUpperInvariant : Char → Char) (payloads : Option Payloads) :
    mp.Reads (readPayloads mp toUpperInvariant) (writePayloads payloads)
      (payloads.getD []) := by
  have loop := reads_readPayloadsFrom lawful (payloads.getD []) 0 0
    (.ofCapacity (payloads.getD []).length (ordinalIgnoreCase toUpperInvariant)) rfl
  rw [writePayloads_eq]
  refine (lawful.reads_mapHeader _ (by simp [writePayload, Nat.mul_comm]) ?_).orElseError_bind _
  by_cases empty : payloads.getD [] = []
  · rw [empty]
    exact .pure_nil []
  · rw [if_pos (List.length_pos_iff.mpr empty)]
    exact loop.last

theorem reads_readHeadersFrom (toUpperInvariant : Char → Char) (headers read : Headers)
    (start : Nat)
    (distinct : DistinctKeys (ordinalIgnoreCase toUpperInvariant) (read ++ headers)) :
    mp.Reads (readHeadersFrom mp toUpperInvariant start headers.length read)
      (headers.flatMap writeHeader) (read ++ headers) := by
  induction headers generalizing start read with
  | nil =>
      rw [List.append_nil]
      exact .pure_nil read
  | cons header headers inductionHypothesis =>
      have added : dictionaryAdd (ordinalIgnoreCase toUpperInvariant) read header.1 header.2 =
          .ok (read ++ [header]) := by
        have fresh : ¬ (read.any fun entry =>
            ordinalIgnoreCase toUpperInvariant entry.1 header.1) = true := by
          rw [List.any_eq_true]
          rintro ⟨entry, member, same⟩
          have differs := (List.pairwise_append.mp distinct).2.2 entry member header (by simp)
          rw [differs] at same
          contradiction
        rw [dictionaryAdd, if_neg fresh]
      have values := MessagePack.Reads.repeatFrom header.2
        (fun index value _ => reads_readString lawful
          (elementField (elementField "headers" start ++ ".value") index) value) 0
      rw [List.map_id'] at values
      have tail := inductionHypothesis (read ++ [header]) (start + 1) (by simpa using distinct)
      rw [List.append_assoc, List.singleton_append] at tail
      refine (reads_readStringNotNull lawful _ header.1).cons
        ((lawful.reads_arrayHeader _ (by simp) ?_).orElseError_bind _)
      rw [List.map_eq_flatMap]
      refine values.bind ?_
      rw [added]
      exact tail

theorem reads_readHeaders (toUpperInvariant : Char → Char) (headers : Option Headers)
    (distinct : DistinctKeys (ordinalIgnoreCase toUpperInvariant) (headers.getD [])) :
    mp.Reads (readHeaders mp toUpperInvariant) (writeHeaders headers)
      (headers.getD []) := by
  have loop := reads_readHeadersFrom lawful toUpperInvariant (headers.getD []) [] 0
    (by simpa using distinct)
  rw [writeHeaders_eq]
  refine (lawful.reads_mapHeader _ (length_writeHeader (headers.getD [])) ?_).orElseError_bind _
  by_cases empty : headers.getD [] = []
  · rw [empty]
    exact .pure_nil []
  · rw [if_pos (List.length_pos_iff.mpr empty)]
    exact loop

end RoundTrip

end AzureSignalR.Protocol
