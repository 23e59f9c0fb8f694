import AzureSignalR.AspNet.MemoryPoolTextWriter
import AzureSignalR.ServiceConnections.Wire

/-!
Contract: what an ASP.NET transport sends to a client through its service connection.

Owns: `Send` and `CreateConnectionDataMessage` of `AzureTransport`, and that the other end
unwraps the text of every value, for the right client and in order.

Does not own: the serializer, which is the writes it makes, and the service connection, which
writes the message.
-/

set_option autoImplicit false

namespace AzureSignalR.AspNet.TransportSend

open Protocol ServiceConnections ServiceConnections.Wire
open BinaryMessage (frameParser)
open MemoryPoolTextWriter (MemoryPool Call create contents flush_calls_returns)

inductive Failure where
  | text (failure : MemoryPoolTextWriter.Failure)
  | protocol (error : Exn)
  | invalidOperation (message : String)

section Send

variable {σ κ : Type} (mp : MessagePack) (pool : MemoryPool σ)

/-- The message that wraps the payload; it is for no client. -/
def wrapped (payload : Bytes) : ServiceMessage := .connectionData { connectionId := "", payload }

/-- `GetMessageBytes` puts the bytes of `WriteMessage` into an array. -/
def createConnectionDataMessage (memory : σ) (connectionId : String) (serialize : List Call) :
    Except Failure ConnectionDataMessage := do
  let writer ← ((create pool memory).calls pool (serialize ++ [.flush])).mapError .text
  let payload ← (writeMessage mp (wrapped writer.buffer)).mapError .protocol
  return { connectionId, payload }

/-- The service connection that the message is written to, and the message. -/
def send (tryGetClientConnection : String → Option κ) (memory : σ) (connectionId : String)
    (serialize : List Call) : Except Failure (κ × ConnectionDataMessage) :=
  match tryGetClientConnection connectionId with
  | some serviceConnection => do
      let message ← createConnectionDataMessage mp pool memory connectionId serialize
      return (serviceConnection, message)
  | none => .error (.invalidOperation "No service connection found when sending message")

/-- A value that has been sent, and the bytes of its message. -/
structure Sent (tryGetClientConnection : String → Option κ) where
  memory : σ
  connectionId : String
  serialize : List Call
  serviceConnection : κ
  message : ConnectionDataMessage
  bytes : Bytes
  sent : send mp pool tryGetClientConnection memory connectionId serialize =
    .ok (serviceConnection, message)
  written : writeMessage mp (.connectionData message) = .ok bytes
  innerSize : (mp.encode (writeMessageCore (wrapped (contents serialize)))).length < 2 ^ 31 - 5
  outerSize : (mp.encode (writeMessageCore (.connectionData message))).length < 2 ^ 31 - 5

end Send

/-! ## The other end -/

section Service

variable (mp : MessagePack) (toUpperInvariant : Char → Char)

/-- The messages in bytes. -/
def messages (bytes : Bytes) : List (Option (Option ServiceMessage)) :=
  (frameParser.frames bytes).map (frameMessage mp toUpperInvariant)

/-- The client that a message is for, and the text in its payload. -/
def unwrap : Option (Option ServiceMessage) → Option (String × Bytes)
  | some (some (.connectionData outer)) =>
      match messages mp toUpperInvariant outer.payload with
      | [some (some (.connectionData inner))] => some (outer.connectionId, inner.payload)
      | _ => none
  | _ => none

variable {mp toUpperInvariant}

theorem writable_connectionData {message : ConnectionDataMessage}
    (size : (mp.encode (writeMessageCore (.connectionData message))).length < 2 ^ 31 - 5) :
    Writable mp toUpperInvariant (.connectionData message) :=
  ⟨List.Pairwise.nil, size⟩

theorem messages_written (lawful : mp.Lawful) {message : ConnectionDataMessage} {bytes : Bytes}
    (size : (mp.encode (writeMessageCore (.connectionData message))).length < 2 ^ 31 - 5)
    (written : writeMessage mp (.connectionData message) = .ok bytes) :
    messages mp toUpperInvariant bytes = [some (some (.connectionData message))] := by
  have writable : Writable mp toUpperInvariant (.connectionData message) :=
    writable_connectionData size
  obtain ⟨frame, rfl, carries⟩ := carries_of_writeMessage lawful writable written
  have read := read_frames (fun _ : Unit => carries) [()] tryParseMessage_nil
  rw [List.flatMap_singleton, List.append_nil] at read
  exact read

end Service

section Sends

variable {σ κ : Type} {mp : MessagePack} {pool : MemoryPool σ}
  {tryGetClientConnection : String → Option κ}

theorem createConnectionDataMessage_ok (serves : pool.Serves) {memory : σ} {connectionId : String}
    {serialize : List Call} {message : ConnectionDataMessage}
    (created : createConnectionDataMessage mp pool memory connectionId serialize = .ok message) :
    message.connectionId = connectionId ∧
      writeMessage mp (wrapped (contents serialize)) = .ok message.payload := by
  rw [createConnectionDataMessage] at created
  cases flushed : (create pool memory).calls pool (serialize ++ [.flush]) with
  | error failure =>
      rw [flushed] at created
      cases created
  | ok writer =>
      rw [flushed] at created
      change (writeMessage mp (wrapped writer.buffer)).mapError Failure.protocol >>= _ = _
        at created
      cases wrote : writeMessage mp (wrapped writer.buffer) with
      | error failure =>
          rw [wrote] at created
          cases created
      | ok payload =>
          rw [wrote] at created
          cases created
          rw [← (flush_calls_returns serves memory serialize).sound writer flushed]
          exact ⟨rfl, wrote⟩

/-- Where the text fits into a buffer and into a message, the message is made. -/
theorem createConnectionDataMessage_eq (serves : pool.Serves) (memory : σ) (connectionId : String)
    {serialize : List Call} (inRange : ∀ call ∈ serialize, call.inRange = true)
    (small : (contents serialize).length ≤ MemoryPoolTextWriter.maximum) {payload : Bytes}
    (wrote : writeMessage mp (wrapped (contents serialize)) = .ok payload) :
    createConnectionDataMessage mp pool memory connectionId serialize =
      .ok { connectionId, payload } := by
  have returns := flush_calls_returns serves memory serialize
  obtain ⟨writer, flushed⟩ := returns.complete ⟨inRange, small⟩
  rw [createConnectionDataMessage, flushed]
  change (writeMessage mp (wrapped writer.buffer)).mapError Failure.protocol >>= _ = _
  rw [returns.sound writer flushed, wrote]
  rfl

theorem Sent.created (sent : Sent mp pool tryGetClientConnection) :
    tryGetClientConnection sent.connectionId = some sent.serviceConnection ∧
      createConnectionDataMessage mp pool sent.memory sent.connectionId sent.serialize =
        .ok sent.message := by
  have isSent := sent.sent
  rw [send] at isSent
  cases found : tryGetClientConnection sent.connectionId with
  | none =>
      rw [found] at isSent
      cases isSent
  | some serviceConnection =>
      rw [found] at isSent
      change createConnectionDataMessage .. >>= _ = _ at isSent
      cases created : createConnectionDataMessage mp pool sent.memory sent.connectionId
          sent.serialize with
      | error failure =>
          rw [created] at isSent
          cases isSent
      | ok message =>
          rw [created] at isSent
          obtain ⟨rfl, rfl⟩ := Prod.mk.inj (Except.ok.inj isSent)
          exact ⟨rfl, rfl⟩

variable (toUpperInvariant : Char → Char)

theorem Sent.unwrap (lawful : mp.Lawful) (serves : pool.Serves)
    (sent : Sent mp pool tryGetClientConnection) :
    TransportSend.unwrap mp toUpperInvariant (some (some (.connectionData sent.message))) =
      some (sent.connectionId, contents sent.serialize) := by
  obtain ⟨sameClient, wrote⟩ := createConnectionDataMessage_ok serves sent.created.2
  rw [TransportSend.unwrap, messages_written lawful sent.innerSize wrote, sameClient]

/-- However many values are sent, each through the service connection of its client, the other
end of the bytes reads the clients and the UTF-8 of the texts in order, in front of a message
that has been begun. -/
theorem sent_values_unwrapped (lawful : mp.Lawful) (serves : pool.Serves)
    (values : List (Sent mp pool tryGetClientConnection)) {part : Bytes}
    (unfinished : BinaryMessage.tryParseMessage part = .ok none) :
    (∀ value ∈ values,
      tryGetClientConnection value.connectionId = some value.serviceConnection) ∧
    (messages mp toUpperInvariant (values.flatMap Sent.bytes ++ part)).map
        (TransportSend.unwrap mp toUpperInvariant) =
      values.map fun value => some (value.connectionId, contents value.serialize) := by
  refine ⟨fun value _ => value.created.1, ?_⟩
  have frames := fun value : Sent mp pool tryGetClientConnection =>
    carries_of_writeMessage lawful
      (writable_connectionData value.outerSize : Writable mp toUpperInvariant _) value.written
  choose frame isBytes carries using frames
  have read := read_frames carries values unfinished
  rw [show (fun value => (frame value).bytes) = Sent.bytes from funext isBytes] at read
  rw [messages, read, List.map_map]
  exact List.map_congr_left fun value _ => value.unwrap toUpperInvariant lawful serves

end Sends

/-- The empty object for the client `c`. -/
def emptyObject : Sent messagePackFormat MemoryPoolTextWriter.plainPool fun _ => some 0 where
  memory := ()
  connectionId := "c"
  serialize := [.char 0x7B, .string [0x7D]]
  serviceConnection := 0
  message := { connectionId := "c", payload := [8, 148, 6, 160, 196, 2, 0x7B, 0x7D, 128] }
  bytes := [16, 148, 6, 161, 99, 196, 9, 8, 148, 6, 160, 196, 2, 0x7B, 0x7D, 128, 128]
  sent := by
    rw [send, createConnectionDataMessage_eq MemoryPoolTextWriter.plainPool_serves () "c"
      (by decide) (by decide) rfl]
    rfl
  written := rfl
  innerSize := by decide +kernel
  outerSize := by decide +kernel

theorem sent_values_unwrapped_emptyObject :
    (∀ value ∈ [emptyObject, emptyObject], some 0 = some value.serviceConnection) ∧
    (messages messagePackFormat Char.toUpper
        ([emptyObject, emptyObject].flatMap Sent.bytes ++ [5, 148])).map
        (unwrap messagePackFormat Char.toUpper) =
      [some ("c", [0x7B, 0x7D]), some ("c", [0x7B, 0x7D])] :=
  sent_values_unwrapped Char.toUpper messagePackFormat_lawful
    MemoryPoolTextWriter.plainPool_serves [emptyObject, emptyObject] rfl

end AzureSignalR.AspNet.TransportSend
