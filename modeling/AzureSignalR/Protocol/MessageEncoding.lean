import AzureSignalR.Common.MemoryBufferWriter
import AzureSignalR.Protocol.MessagePackFormat
import AzureSignalR.Protocol.ServiceProtocol

/-!
Contract: the two ways to encode a message, which share the buffer of their thread.

Owns: `WriteMessage` and `GetMessageBytes` with the buffer they get and return, the calls a
thread has made before, and that both give the length prefix and the body.

Does not own: `MessagePackWriter`. It may ask for space in any portions, and holds back
nothing at `Flush`.
-/

set_option autoImplicit false

namespace AzureSignalR.Protocol

open Common Library Library.BufferWriter

/-- What `MessagePackWriter` does with a buffer for a sequence of writes, behind which
`WriteMessageCore` flushes or throws. -/
structure MessagePackWriter (mp : MessagePack) where
  program : List Token → Option Exn → Client UInt8 Exn
  flushes : ∀ tokens, Commits (program tokens none) (.ok (mp.encode tokens))
  throws : ∀ tokens error, Commits (program tokens (some error)) (.error error)

/-- A message as `WriteMessageCore` meets it. -/
inductive Message where
  | known (message : ServiceMessage)
  /-- A class the `switch` does not have. -/
  | unexpected (typeName : String)
  /-- One of its collections throws behind these writes. -/
  | interrupted (tokens : List Token) (error : Exn)
deriving DecidableEq, Repr

def Message.writes : Message → List Token × Option Exn
  | .known message => (writeMessageCore message, none)
  | .unexpected typeName => ([], some (.invalidData s!"Unexpected message type: {typeName}"))
  | .interrupted tokens error => (tokens, some error)

/-- The encoded message, or what is thrown instead. -/
def Message.body (mp : MessagePack) (message : Message) : Except Exn Bytes :=
  match message.writes with
  | (tokens, none) => .ok (mp.encode tokens)
  | (_, some error) => .error error

namespace MessageEncoding

/-- The thread's static of `MemoryBufferWriter`, and the calls of `Rent` so far. -/
structure Thread where
  cachedInstance : Option MemoryBufferWriter := none
  rents : Nat := 0
deriving DecidableEq, Repr

/-- `MemoryBufferWriter.Get`. -/
def Thread.get (thread : Thread) : MemoryBufferWriter := thread.cachedInstance.getD {}

/-- `MemoryBufferWriter.Return`. -/
def Thread.giveBack (state : MemoryBufferWriter × Nat) : Thread :=
  { cachedInstance := some state.1.reset, rents := state.2 }

/-- `WriteLengthPrefix(long, Span<byte>)`. Of a negative length it writes the lowest bits. -/
def writeLengthPrefix (length : Int) (space : Nat) : Except Exn Bytes :=
  if 0 ≤ length then BinaryMessage.writeLengthPrefix length.toNat space
  else if space = 0 then .error .indexOutOfRange
  else .ok [UInt8.ofNat (length % 128).toNat]

/-- `LengthPrefixLength(long)`. -/
def lengthPrefixLength (length : Int) : Nat :=
  if 0 ≤ length then BinaryMessage.lengthPrefixLength length.toNat else 1

variable {mp : MessagePack} (pool : ArrayPool) (writer : MessagePackWriter mp)

/-- `WriteMessageCore` on the thread's buffer. -/
def encode (thread : Thread) (message : Message) : (MemoryBufferWriter × Nat) × Except Exn Unit :=
  run (MemoryBufferWriter.client pool) (writer.program message.writes.1 message.writes.2)
    (thread.get, thread.rents)

def writeMessage (thread : Thread) (message : Message) (output : Bytes) :
    Thread × Bytes × Except Exn Unit :=
  let (state, written) := encode pool writer thread message
  (Thread.giveBack state,
    match written with
    | .error error => (output, .error error)
    | .ok () =>
        match writeLengthPrefix state.1.bytesWritten.toInt BinaryMessage.maxLengthPrefixSize with
        | .error error => (output, .error error)
        | .ok lengthPrefix => (state.1.copyTo (output ++ lengthPrefix), .ok ()))

def getMessageBytes (thread : Thread) (message : Message) : Thread × Except Exn Bytes :=
  let (state, written) := encode pool writer thread message
  (Thread.giveBack state, do
    written
    let dataLength := state.1.bytesWritten.toInt
    let prefixLength := lengthPrefixLength dataLength
    let array ← newArray (dataLength + prefixLength)
    let lengthPrefix ← writeLengthPrefix dataLength array.length
    let span := lengthPrefix ++ array.drop lengthPrefix.length
    if span.length < prefixLength then .error (.argumentOutOfRange "start")
    else do
      let copied ← state.1.copyToSpan (span.drop prefixLength)
      pure (span.take prefixLength ++ copied))

/-! ## Calls on a thread -/

inductive Call where
  | writeMessage (message : Message) (output : Bytes)
  | getMessageBytes (message : Message)
deriving DecidableEq, Repr

def step (thread : Thread) : Call → Thread
  | .writeMessage message output => (writeMessage pool writer thread message output).1
  | .getMessageBytes message => (getMessageBytes pool writer thread message).1

def after (history : List Call) : Thread := history.foldl (step pool writer) {}

/-- The buffer of the thread has nothing of the messages before. -/
def Thread.Clean (thread : Thread) : Prop := thread.get.Valid ∧ thread.get.contents = []

section Runs

variable {pool writer} {thread : Thread} {message : Message}

theorem clean_giveBack {state : MemoryBufferWriter × Nat} (valid : state.1.Valid) :
    (Thread.giveBack state).Clean :=
  MemoryBufferWriter.valid_reset valid.minimum

variable (pool writer) in
theorem encode_of_error (clean : thread.Clean) {error : Exn}
    (throws : message.body mp = .error error) :
    (encode pool writer thread message).2 = .error error ∧
      (encode pool writer thread message).1.1.Valid := by
  rw [Message.body] at throws
  rw [encode]
  generalize message.writes = writes at throws ⊢
  rcases writes with ⟨tokens, _ | thrown⟩
  · cases throws
  · cases throws
    exact (MemoryBufferWriter.appends pool).run_error (writer.throws tokens _) clean.1

variable (pool writer) in
theorem encode_of_ok (clean : thread.Clean) {body : Bytes} (encoded : message.body mp = .ok body) :
    (encode pool writer thread message).2 = .ok () ∧
      (encode pool writer thread message).1.1.Valid ∧
      (encode pool writer thread message).1.1.contents = body := by
  rw [Message.body] at encoded
  rw [encode]
  generalize message.writes = writes at encoded ⊢
  rcases writes with ⟨tokens, _ | thrown⟩
  · cases encoded
    obtain ⟨ends, valid, contents⟩ :=
      (MemoryBufferWriter.appends pool).run_ok (writer.flushes tokens)
        (show (fun state : MemoryBufferWriter × Nat => state.1.Valid) (thread.get, thread.rents)
          from clean.1)
    refine ⟨ends, valid, contents.trans ?_⟩
    rw [clean.2, List.nil_append]
  · cases encoded

/-- Whatever a call does, the buffer is returned empty. -/
theorem clean_step (clean : thread.Clean) (call : Call) : (step pool writer thread call).Clean := by
  have valid : ∀ message : Message, (encode pool writer thread message).1.1.Valid := by
    intro message
    cases body : message.body mp with
    | error error => exact (encode_of_error pool writer clean body).2
    | ok bytes => exact (encode_of_ok pool writer clean body).2.1
  cases call with
  | writeMessage message output => exact clean_giveBack (valid message)
  | getMessageBytes message => exact clean_giveBack (valid message)

variable (pool writer) in
theorem clean_after (history : List Call) : (after pool writer history).Clean := by
  have start : ({} : Thread).Clean :=
    ⟨⟨by decide, Nat.le_refl _, rfl, fun _ => rfl⟩, rfl⟩
  rw [after]
  generalize ({} : Thread) = thread at start ⊢
  induction history generalizing thread with
  | nil => exact start
  | cons call history inductionHypothesis => exact inductionHypothesis _ (clean_step start call)

/-- The length of a body of less than 2 GB is written before it. -/
theorem lengthPrefix_of_short {body : Bytes} (short : body.length < 2 ^ 31) :
    ∃ lengthPrefix, BinaryMessage.writeLengthPrefix body.length BinaryMessage.maxLengthPrefixSize =
      .ok lengthPrefix := by
  obtain ⟨frame, -, written⟩ := BinaryMessage.writeLengthPrefix_frame body short
  exact ⟨_, written⟩

/-- `Length` is the length of the body. -/
theorem length_encode (clean : thread.Clean) {body : Bytes} (encoded : message.body mp = .ok body)
    (short : body.length < 2 ^ 31) :
    (encode pool writer thread message).1.1.bytesWritten.toInt = body.length := by
  obtain ⟨-, valid, contents⟩ := encode_of_ok pool writer clean encoded
  rw [valid.counted, contents, Int32.toInt_ofNat_of_lt short]

theorem writeLengthPrefix_natCast (length space : Nat) :
    writeLengthPrefix length space = BinaryMessage.writeLengthPrefix length space := by
  rw [writeLengthPrefix, if_pos (Int.natCast_nonneg length), Int.toNat_natCast]

theorem lengthPrefixLength_natCast (length : Nat) :
    lengthPrefixLength length = BinaryMessage.lengthPrefixLength length := by
  rw [lengthPrefixLength, if_pos (Int.natCast_nonneg length), Int.toNat_natCast]

variable (pool writer) in
theorem writeMessage_of_ok (clean : thread.Clean) {body : Bytes}
    (encoded : message.body mp = .ok body) (short : body.length < 2 ^ 31) {lengthPrefix : Bytes}
    (written : BinaryMessage.writeLengthPrefix body.length BinaryMessage.maxLengthPrefixSize =
      .ok lengthPrefix) (output : Bytes) :
    (writeMessage pool writer thread message output).2 =
      (output ++ (lengthPrefix ++ body), .ok ()) := by
  obtain ⟨ends, -, contents⟩ := encode_of_ok pool writer clean encoded
  simp only [writeMessage, ends, length_encode clean encoded short, writeLengthPrefix_natCast,
    written]
  rw [MemoryBufferWriter.copyTo_eq, contents, List.append_assoc]

variable (pool writer) in
theorem writeMessage_of_error (clean : thread.Clean) {error : Exn}
    (throws : message.body mp = .error error) (output : Bytes) :
    (writeMessage pool writer thread message output).2 = (output, .error error) := by
  obtain ⟨ends, -⟩ := encode_of_error pool writer clean throws
  simp only [writeMessage, ends]

variable (pool writer) in
theorem getMessageBytes_of_error (clean : thread.Clean) {error : Exn}
    (throws : message.body mp = .error error) :
    (getMessageBytes pool writer thread message).2 = .error error := by
  obtain ⟨ends, -⟩ := encode_of_error pool writer clean throws
  simp only [getMessageBytes, ends]
  rfl

variable (pool writer) in
/-- The array is filled by the prefix and the body. -/
theorem getMessageBytes_of_ok (clean : thread.Clean) {body : Bytes}
    (encoded : message.body mp = .ok body) {lengthPrefix : Bytes}
    (written : BinaryMessage.writeLengthPrefix body.length BinaryMessage.maxLengthPrefixSize =
      .ok lengthPrefix) (fits : lengthPrefix.length + body.length ≤ maxArrayLength) :
    (getMessageBytes pool writer thread message).2 = .ok (lengthPrefix ++ body) := by
  obtain ⟨ends, valid, contents⟩ := encode_of_ok pool writer clean encoded
  have short : body.length < 2 ^ 31 := by
    have limit : maxArrayLength < 2 ^ 31 := by decide
    omega
  have computed := BinaryMessage.lengthPrefixLength_of_written written
  have array : newArray (body.length + lengthPrefix.length) =
      .ok (List.replicate (lengthPrefix.length + body.length) 0) := by
    rw [← Int.natCast_add, Nat.add_comm, newArray_of_le fits]
  have front : BinaryMessage.writeLengthPrefix body.length (lengthPrefix.length + body.length) =
      .ok lengthPrefix :=
    BinaryMessage.writeLengthPrefix_of_le written (Nat.le_add_right _ _)
  simp only [getMessageBytes, ends, length_encode clean encoded short,
    lengthPrefixLength_natCast, computed]
  show (newArray _ >>= _) = _
  rw [array]
  show (writeLengthPrefix body.length (List.replicate _ (0 : UInt8)).length >>= _) = _
  rw [List.length_replicate, writeLengthPrefix_natCast, front]
  show (if (lengthPrefix ++ (List.replicate _ (0 : UInt8)).drop lengthPrefix.length).length <
    lengthPrefix.length then _ else _) = _
  rw [List.drop_replicate, Nat.add_sub_cancel_left, if_neg (by simp)]
  show (MemoryBufferWriter.copyToSpan _ ((lengthPrefix ++ _).drop lengthPrefix.length) >>= _) = _
  rw [List.drop_left, MemoryBufferWriter.copyToSpan_eq valid (by rw [contents]; simp), contents]
  show Except.ok ((lengthPrefix ++ _).take lengthPrefix.length ++ _) = _
  rw [List.take_left, List.drop_replicate, Nat.sub_self, List.replicate_zero, List.append_nil]

variable (pool writer) in
/-- A frame that is longer than an array is not returned. -/
theorem getMessageBytes_of_long (clean : thread.Clean) {body : Bytes}
    (encoded : message.body mp = .ok body) (short : body.length < 2 ^ 31)
    (long : maxArrayLength < body.length) :
    (getMessageBytes pool writer thread message).2 = .error .outOfMemory := by
  obtain ⟨ends, valid, contents⟩ := encode_of_ok pool writer clean encoded
  have array (prefixLength : Nat) :
      newArray (body.length + prefixLength) = .error .outOfMemory := by
    rw [newArray, if_neg (by omega), if_pos (by omega)]
  simp only [getMessageBytes, ends, length_encode clean encoded short]
  show (newArray _ >>= _) = _
  rw [array]
  rfl

end Runs

variable (mp) in
/-- On every thread, both encoders give the length prefix and the body of a message whose frame
fits into an array; where the encoding throws they throw the same, and nothing is written. -/
theorem encoders_agree (pool : ArrayPool) (writer : MessagePackWriter mp) (history : List Call)
    (message : Message) (output : Bytes) :
    (∀ error, message.body mp = .error error →
      (writeMessage pool writer (after pool writer history) message output).2 =
          (output, .error error) ∧
        (getMessageBytes pool writer (after pool writer history) message).2 = .error error) ∧
      ∀ body, message.body mp = .ok body →
        BinaryMessage.lengthPrefixLength body.length + body.length ≤ maxArrayLength →
          ∃ lengthPrefix,
            BinaryMessage.writeLengthPrefix body.length BinaryMessage.maxLengthPrefixSize =
                .ok lengthPrefix ∧
              (writeMessage pool writer (after pool writer history) message output).2 =
                (output ++ (lengthPrefix ++ body), .ok ()) ∧
              (getMessageBytes pool writer (after pool writer history) message).2 =
                .ok (lengthPrefix ++ body) := by
  have clean := clean_after pool writer history
  constructor
  · intro error throws
    exact ⟨writeMessage_of_error pool writer clean throws output,
      getMessageBytes_of_error pool writer clean throws⟩
  · intro body encoded fits
    have short : body.length < 2 ^ 31 := by
      have limit : maxArrayLength < 2 ^ 31 := by decide
      omega
    obtain ⟨lengthPrefix, written⟩ := lengthPrefix_of_short short
    rw [BinaryMessage.lengthPrefixLength_of_written written] at fits
    exact ⟨lengthPrefix, written, writeMessage_of_ok pool writer clean encoded short written output,
      getMessageBytes_of_ok pool writer clean encoded written fits⟩

/-! ### A pool and a writer -/

/-- A pool of new arrays. -/
def newArrays : ArrayPool where
  rent _ minimumLength := List.replicate minimumLength 0
  le_length _ _ := List.length_replicate.ge

/-- A writer that asks for the space of the whole message. -/
def wholeMessage (mp : MessagePack) : MessagePackWriter mp where
  program
    | tokens, none => .write (mp.encode tokens).length (fun _ => mp.encode tokens) fun _ => .done
    | _, some error => .throws error
  flushes := by
    intro tokens space enough positive
    exact ⟨enough, [], (List.append_nil _).symm, rfl⟩
  throws := by
    intro tokens error
    rfl

/-- A ping behind a message of an unknown class. -/
theorem encoders_agree_ping :
    let history := [Call.writeMessage (.unexpected "NoneMessage") [], .getMessageBytes
      (.known (.connectionReconnect ⟨"a"⟩))]
    let thread := after newArrays (wholeMessage messagePackFormat) history
    ∃ lengthPrefix, (writeMessage newArrays (wholeMessage messagePackFormat) thread
      (.known (.ping ⟨["status"]⟩)) [1]).2 =
        (1 :: (lengthPrefix ++ messagePackFormat.encode (writePingMessage ⟨["status"]⟩)), .ok ()) ∧
      (getMessageBytes newArrays (wholeMessage messagePackFormat) thread
        (.known (.ping ⟨["status"]⟩))).2 =
          .ok (lengthPrefix ++ messagePackFormat.encode (writePingMessage ⟨["status"]⟩)) := by
  obtain ⟨lengthPrefix, -, written, returned⟩ := (encoders_agree messagePackFormat newArrays
    (wholeMessage messagePackFormat) [Call.writeMessage (.unexpected "NoneMessage") [],
      .getMessageBytes (.known (.connectionReconnect ⟨"a"⟩))] (.known (.ping ⟨["status"]⟩)) [1]).2
    _ rfl (by rw [BinaryMessage.lengthPrefixLength, if_neg (by decide)]; decide)
  exact ⟨lengthPrefix, written, returned⟩

/-! ### Above the limit -/

theorem length_body_connectionData (payload : Bytes) (long : 2 ^ 16 ≤ payload.length) :
    (messagePackFormat.encode (writeMessageCore
      (.connectionData { connectionId := "", payload }))).length = payload.length + 9 := by
  have header : (MessagePackFormat.binaryCodes.write payload.length).length = 5 := by
    rw [MessagePackFormat.SizeCodes.write, if_neg (by simp [MessagePackFormat.binaryCodes]),
      if_neg (by omega)]
    simp
  have front : (messagePackFormat.encode [.arrayHeader 4,
      .int ServiceProtocolConstants.connectionDataMessageType, .string (some "")]).length = 3 := by
    decide
  have behind : (messagePackFormat.encode (ExtensionMembers.write {})).length = 1 := by decide
  have tokens : writeMessageCore (.connectionData { connectionId := "", payload }) =
      [.arrayHeader 4, .int ServiceProtocolConstants.connectionDataMessageType,
        .string (some "")] ++
        .binary payload :: ExtensionMembers.write {} := rfl
  have binary : (messagePackFormat.write (.binary payload)).length = 5 + payload.length := by
    rw [← header, ← List.length_append]
    rfl
  rw [MessagePack.encode] at front behind ⊢
  rw [tokens, List.flatMap_append, List.length_append, front, List.flatMap_cons, List.length_append,
    binary, behind]
  omega

/-- A payload of almost 2 GB: `WriteMessage` writes the message, `GetMessageBytes` throws. -/
theorem encoders_disagree :
    let message := Message.known (.connectionData
      { connectionId := "", payload := List.replicate (2 ^ 31 - 10) 0 })
    let thread := after newArrays (wholeMessage messagePackFormat) []
    (writeMessage newArrays (wholeMessage messagePackFormat) thread message []).2.2 = .ok () ∧
      (getMessageBytes newArrays (wholeMessage messagePackFormat) thread message).2 =
        .error .outOfMemory := by
  intro message thread
  have clean : thread.Clean := clean_after newArrays (wholeMessage messagePackFormat) []
  have length := length_body_connectionData (List.replicate (2 ^ 31 - 10) 0)
    (by rw [List.length_replicate]; omega)
  rw [List.length_replicate] at length
  have short : (messagePackFormat.encode (writeMessageCore (.connectionData
      { connectionId := "", payload := List.replicate (2 ^ 31 - 10) 0 }))).length < 2 ^ 31 := by
    omega
  obtain ⟨lengthPrefix, written⟩ := lengthPrefix_of_short short
  have encoded : message.body messagePackFormat = .ok _ := rfl
  have appended := writeMessage_of_ok newArrays (wholeMessage messagePackFormat) clean encoded
    short written []
  refine ⟨congrArg Prod.snd appended, getMessageBytes_of_long newArrays _ clean encoded short ?_⟩
  rw [length]
  decide

end MessageEncoding

end AzureSignalR.Protocol
