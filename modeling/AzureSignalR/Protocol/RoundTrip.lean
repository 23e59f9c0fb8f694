import AzureSignalR.Protocol.MessagePackFormat
import AzureSignalR.Protocol.ServiceProtocol

/-!
Contract: what is written is read back.

Owns: the normalisation a message goes through on the wire, one reading lemma
per message type, and the round trip of the framed protocol.

Each reading lemma follows its reader: one step per field, in the order the
writer emits them.
-/

set_option autoImplicit false

namespace AzureSignalR.Protocol

open Library ServiceProtocolConstants

/-! ## Normalisation -/

/-- A null collection comes back empty. -/
def orEmpty {α : Type} (collection : Option (List α)) : Option (List α) :=
  some (collection.getD [])

/-- A null string comes back empty where the constructor replaces it. -/
def orEmptyString (value : Option String) : Option String := some (value.getD "")

/-- The message the other side sees. The types not listed are unchanged. -/
def ServiceMessage.normalize : ServiceMessage → ServiceMessage
  | .handshakeRequest message => .handshakeRequest
      { message with
        target := some (if message.connectionType = 0 then "" else message.target.getD "") }
  | .openConnection message => .openConnection
      { message with
        claims := orEmpty message.claims
        headers := orEmpty message.headers }
  | .closeConnection message => .closeConnection
      { message with
        errorMessage := orEmptyString message.errorMessage
        headers := orEmpty message.headers }
  | .closeConnectionsWithAck message => .closeConnectionsWithAck
      { message with excludedList := orEmpty message.excludedList }
  | .closeUserConnectionsWithAck message => .closeUserConnectionsWithAck
      { message with excludedList := orEmpty message.excludedList }
  | .closeGroupConnectionsWithAck message => .closeGroupConnectionsWithAck
      { message with excludedList := orEmpty message.excludedList }
  | .multiConnectionData message => .multiConnectionData
      { message with
        connectionList := orEmpty message.connectionList
        payloads := orEmpty message.payloads }
  | .userData message => .userData { message with payloads := orEmpty message.payloads }
  | .multiUserData message => .multiUserData
      { message with
        userList := orEmpty message.userList
        payloads := orEmpty message.payloads }
  | .broadcastData message => .broadcastData
      { message with
        excludedList := orEmpty message.excludedList
        payloads := orEmpty message.payloads }
  | .groupBroadcastData message => .groupBroadcastData
      { message with
        excludedList := orEmpty message.excludedList
        payloads := orEmpty message.payloads
        excludedUserList := orEmpty message.excludedUserList }
  | .multiGroupBroadcastData message => .multiGroupBroadcastData
      { message with
        groupList := orEmpty message.groupList
        payloads := orEmpty message.payloads }
  | .serviceError message => .serviceError
      { message with errorMessage := orEmptyString message.errorMessage }
  | .serviceEvent message => .serviceEvent
      { message with message := orEmptyString message.message }
  | .ack message => .ack { message with message := orEmptyString message.message }
  | .clientInvocation message => .clientInvocation
      { message with payloads := orEmpty message.payloads }
  | .errorCompletion message => .errorCompletion
      { message with error := orEmptyString message.error }
  | message => message

/-- The headers of a message, for the messages that have some. -/
def ServiceMessage.headers : ServiceMessage → Headers
  | .openConnection message => message.headers.getD []
  | .closeConnection message => message.headers.getD []
  | _ => []

/-! ## Reading each message -/

section Readers

variable {mp : MessagePack} (lawful : mp.Lawful)
include lawful

theorem reads_noExtension :
    mp.Reads (ExtensionMembers.read mp .plain {}) writeNoExtension {} :=
  ExtensionMembers.reads_read lawful _ {} (by simp [ExtensionMembers.entries]) (.inl rfl)

theorem reads_tracing (tracingId : Option UInt64) :
    mp.Reads (ExtensionMembers.read mp .traced {}) (writeTracing tracingId)
      { tracingId := tracingId } := by
  refine ExtensionMembers.reads_read lawful _ _ ?_ (.inl rfl)
  cases tracingId <;>
    simp [ExtensionMembers.entries, ExtensionEntry.SupportedBy, ExtensionSupport.traced]

theorem reads_multicast (tracingId : Option UInt64) (filter : Option String) :
    mp.Reads (ExtensionMembers.read mp .multicast {}) (writeMulticast tracingId filter)
      { tracingId := tracingId, filter := filter } := by
  refine ExtensionMembers.reads_read lawful _ _ ?_ (.inl rfl)
  cases tracingId <;> cases filter <;>
    simp [ExtensionMembers.entries, ExtensionEntry.SupportedBy, ExtensionSupport.multicast]

theorem reads_tracedTtl (tracingId : Option UInt64) (ttl : Option Int32) :
    mp.Reads (ExtensionMembers.read mp .tracedTtl {})
      (ExtensionMembers.write { tracingId := tracingId, ttl := ttl })
      { tracingId := tracingId, ttl := ttl } := by
  refine ExtensionMembers.reads_read lawful _ _ ?_ (.inl rfl)
  cases tracingId <;> cases ttl <;>
    simp [ExtensionMembers.entries, ExtensionEntry.SupportedBy, ExtensionSupport.tracedTtl]

/-- The protocol may have been read as a field before. -/
theorem reads_tracedProtocol (tracingId : Option UInt64) (protocol : Option String)
    {field : Option String} (agrees : field = none ∨ field = protocol) :
    mp.Reads (ExtensionMembers.read mp .tracedProtocol { protocol := field })
      (ExtensionMembers.write { tracingId := tracingId, protocol := protocol })
      { tracingId := tracingId, protocol := protocol } := by
  refine ExtensionMembers.reads_read lawful _ _ ?_ agrees
  cases tracingId <;> cases protocol <;>
    simp [ExtensionMembers.entries, ExtensionEntry.SupportedBy,
      ExtensionSupport.tracedProtocol]

theorem reads_connectionDataMembers (members : ExtensionMembers)
    (only : members.ttl = none ∧ members.protocol = none ∧ members.filter = none) :
    mp.Reads (ExtensionMembers.read mp .connectionData {}) members.write members := by
  refine ExtensionMembers.reads_read lawful _ _ ?_ (.inl rfl)
  obtain ⟨noTtl, noProtocol, noFilter⟩ := only
  intro entry member
  simp only [ExtensionMembers.entries, noTtl, noProtocol, noFilter, Option.map_none,
    Option.toList_none, List.append_nil, List.mem_append] at member
  rcases member with (traced | typed) | partialFlag
  · cases tracing : members.tracingId with
    | none => simp [tracing] at traced
    | some value =>
        simp only [tracing, Option.map_some, Option.toList_some, List.mem_singleton] at traced
        rw [traced]
        rfl
  · split_ifs at typed with unknown
    · rw [List.mem_singleton] at typed
      rw [typed]
      rfl
    · simp at typed
  · split_ifs at partialFlag with set
    · rw [List.mem_singleton] at partialFlag
      rw [partialFlag]
      rfl
    · simp at partialFlag

theorem reads_createHandshakeRequestMessage (message : HandshakeRequestMessage) :
    mp.Reads (createHandshakeRequestMessage mp 7)
      ((writeHandshakeRequestMessage message).drop 2)
      { message with
        target := some (if message.connectionType = 0 then "" else message.target.getD "") } := by
  refine (reads_readInt32 lawful _ _).cons ?_
  refine ((reads_readInt32 lawful _ _).guarded rfl _).cons ?_
  refine ((reads_readString lawful _ _).guarded rfl _).cons ?_
  refine ((reads_readInt32 lawful _ _).guarded rfl _).cons ?_
  refine ((reads_noExtension lawful).guarded rfl _).bind ?_
  exact ((reads_readBoolean lawful _ _).guarded rfl _).last

theorem reads_createHandshakeResponseMessage (message : HandshakeResponseMessage) :
    mp.Reads (createHandshakeResponseMessage mp 4)
      ((writeHandshakeResponseMessage message).drop 2)
      message := by
  refine (reads_readString lawful _ _).cons ?_
  refine ((reads_noExtension lawful).guarded rfl _).bind ?_
  exact ((reads_readString lawful _ _).guarded rfl _).last

theorem reads_createAccessKeyRequestMessage (message : AccessKeyRequestMessage) :
    mp.Reads (createAccessKeyRequestMessage mp 4)
      ((writeAccessKeyRequestMessage message).drop 2)
      message := by
  refine (reads_readString lawful _ _).cons ?_
  refine (reads_readString lawful _ _).cons ?_
  exact (reads_noExtension lawful).last

theorem reads_createAccessKeyResponseMessage (message : AccessKeyResponseMessage) :
    mp.Reads (createAccessKeyResponseMessage mp 6)
      ((writeAccessKeyResponseMessage message).drop 2)
      message := by
  refine (reads_readString lawful _ _).cons ?_
  refine (reads_readString lawful _ _).cons ?_
  refine (reads_readString lawful _ _).cons ?_
  refine (reads_readString lawful _ _).cons ?_
  exact (reads_noExtension lawful).last

theorem reads_createPingMessage (message : PingMessage) :
    mp.Reads (createPingMessage mp (message.messages.length + 1))
      ((writePingMessage message).drop 2) message := by
  have items := MessagePack.Reads.repeatFrom message.messages
    (fun index value _ => reads_readString lawful (elementField "messages" index) value) 0
  rw [List.map_id', ← List.map_eq_flatMap] at items
  exact items.last

theorem reads_createOpenConnectionMessage (toUpperInvariant : Char → Char)
    (message : OpenConnectionMessage)
    (distinct : DistinctKeys (ordinalIgnoreCase toUpperInvariant)
      (message.headers.getD [])) :
    mp.Reads (createOpenConnectionMessage mp toUpperInvariant 6)
      ((writeOpenConnectionMessage message).drop 2)
      { message with
        claims := orEmpty message.claims
        headers := orEmpty message.headers } := by
  refine (reads_readStringNotNull lawful _ _).cons ?_
  refine (reads_readClaims lawful _).bind ?_
  refine (reads_readHeaders lawful toUpperInvariant _ distinct).bind ?_
  refine (reads_readString lawful _ _).cons ?_
  exact ((reads_tracedProtocol lawful _ _ (.inl rfl)).guarded rfl _).last

theorem reads_createCloseConnectionMessage (toUpperInvariant : Char → Char)
    (message : CloseConnectionMessage)
    (distinct : DistinctKeys (ordinalIgnoreCase toUpperInvariant)
      (message.headers.getD [])) :
    mp.Reads (createCloseConnectionMessage mp toUpperInvariant 5)
      ((writeCloseConnectionMessage message).drop 2)
      { message with
        errorMessage := orEmptyString message.errorMessage
        headers := orEmpty message.headers } := by
  refine (reads_readStringNotNull lawful _ _).cons ?_
  refine (reads_readString lawful _ _).cons ?_
  refine ((reads_readHeaders lawful toUpperInvariant _ distinct).guarded rfl _).bind ?_
  exact ((reads_tracing lawful _).guarded rfl _).last

theorem reads_createCloseConnectionWithAckMessage (message : CloseConnectionWithAckMessage) :
    mp.Reads (createCloseConnectionWithAckMessage mp 5)
      ((writeCloseConnectionWithAckMessage message).drop 2)
      message := by
  refine (reads_readStringNotNull lawful _ _).cons ?_
  refine (reads_readString lawful _ _).cons ?_
  refine (reads_readInt32 lawful _ _).cons ?_
  exact ((reads_tracing lawful _).guarded rfl _).last

theorem reads_createCloseConnectionsWithAckMessage (message : CloseConnectionsWithAckMessage) :
    mp.Reads (createCloseConnectionsWithAckMessage mp 5)
      ((writeCloseConnectionsWithAckMessage message).drop 2)
      { message with excludedList := orEmpty message.excludedList } := by
  refine (reads_readString lawful _ _).cons ?_
  refine (reads_readInt32 lawful _ _).cons ?_
  refine (reads_readStringArray lawful _ _).bind ?_
  exact ((reads_tracing lawful _).guarded rfl _).last

theorem reads_createCloseUserConnectionsWithAckMessage
    (message : CloseUserConnectionsWithAckMessage) :
    mp.Reads (createCloseUserConnectionsWithAckMessage mp 6)
      ((writeCloseUserConnectionsWithAckMessage message).drop 2)
      { message with excludedList := orEmpty message.excludedList } := by
  refine (reads_readStringNotNull lawful _ _).cons ?_
  refine (reads_readString lawful _ _).cons ?_
  refine (reads_readInt32 lawful _ _).cons ?_
  refine (reads_readStringArray lawful _ _).bind ?_
  exact ((reads_tracing lawful _).guarded rfl _).last

theorem reads_createCloseGroupConnectionsWithAckMessage
    (message : CloseGroupConnectionsWithAckMessage) :
    mp.Reads (createCloseGroupConnectionsWithAckMessage mp 6)
      ((writeCloseGroupConnectionsWithAckMessage message).drop 2)
      { message with excludedList := orEmpty message.excludedList } := by
  refine (reads_readStringNotNull lawful _ _).cons ?_
  refine (reads_readString lawful _ _).cons ?_
  refine (reads_readInt32 lawful _ _).cons ?_
  refine (reads_readStringArray lawful _ _).bind ?_
  exact ((reads_tracing lawful _).guarded rfl _).last

theorem reads_createConnectionDataMessage (message : ConnectionDataMessage) :
    mp.Reads (createConnectionDataMessage mp 4) ((writeConnectionDataMessage message).drop 2)
      message := by
  refine (reads_readStringNotNull lawful _ _).cons ?_
  refine (reads_readBytes lawful _ _).cons ?_
  exact ((reads_connectionDataMembers lawful _ ⟨rfl, rfl, rfl⟩).guarded rfl _).last

theorem reads_createConnectionReconnectMessage (message : ConnectionReconnectMessage) :
    mp.Reads (createConnectionReconnectMessage mp 3)
      ((writeConnectionReconnectMessage message).drop 2)
      message := by
  refine (reads_readStringNotNull lawful _ _).cons ?_
  exact (reads_noExtension lawful).last

theorem reads_createMultiConnectionDataMessage (toUpperInvariant : Char → Char)
    (message : MultiConnectionDataMessage) :
    mp.Reads (createMultiConnectionDataMessage mp toUpperInvariant 4)
      ((writeMultiConnectionDataMessage message).drop 2)
      { message with
        connectionList := orEmpty message.connectionList
        payloads := orEmpty message.payloads } := by
  refine (reads_readStringArray lawful _ _).bind ?_
  refine (reads_readPayloads lawful toUpperInvariant _).bind ?_
  exact ((reads_multicast lawful _ _).guarded rfl _).last

theorem reads_createUserDataMessage (toUpperInvariant : Char → Char)
    (message : UserDataMessage) :
    mp.Reads (createUserDataMessage mp toUpperInvariant 4)
      ((writeUserDataMessage message).drop 2)
      { message with payloads := orEmpty message.payloads } := by
  refine (reads_readStringNotNull lawful _ _).cons ?_
  refine (reads_readPayloads lawful toUpperInvariant _).bind ?_
  exact ((reads_multicast lawful _ _).guarded rfl _).last

theorem reads_createMultiUserDataMessage (toUpperInvariant : Char → Char)
    (message : MultiUserDataMessage) :
    mp.Reads (createMultiUserDataMessage mp toUpperInvariant 4)
      ((writeMultiUserDataMessage message).drop 2)
      { message with
        userList := orEmpty message.userList
        payloads := orEmpty message.payloads } := by
  refine (reads_readStringArray lawful _ _).bind ?_
  refine (reads_readPayloads lawful toUpperInvariant _).bind ?_
  exact ((reads_multicast lawful _ _).guarded rfl _).last

theorem reads_createBroadcastDataMessage (toUpperInvariant : Char → Char)
    (message : BroadcastDataMessage) :
    mp.Reads (createBroadcastDataMessage mp toUpperInvariant 4)
      ((writeBroadcastDataMessage message).drop 2)
      { message with
        excludedList := orEmpty message.excludedList
        payloads := orEmpty message.payloads } := by
  refine (reads_readStringArray lawful _ _).bind ?_
  refine (reads_readPayloads lawful toUpperInvariant _).bind ?_
  exact ((reads_multicast lawful _ _).guarded rfl _).last

theorem reads_createJoinGroupMessage (message : JoinGroupMessage) :
    mp.Reads (createJoinGroupMessage mp 4) ((writeJoinGroupMessage message).drop 2)
      message := by
  refine (reads_readStringNotNull lawful _ _).cons ?_
  refine (reads_readStringNotNull lawful _ _).cons ?_
  exact ((reads_tracing lawful _).guarded rfl _).last

theorem reads_createLeaveGroupMessage (message : LeaveGroupMessage) :
    mp.Reads (createLeaveGroupMessage mp 4) ((writeLeaveGroupMessage message).drop 2)
      message := by
  refine (reads_readStringNotNull lawful _ _).cons ?_
  refine (reads_readString lawful _ _).cons ?_
  exact ((reads_tracing lawful _).guarded rfl _).last

theorem reads_createUserJoinGroupMessage (message : UserJoinGroupMessage) :
    mp.Reads (createUserJoinGroupMessage mp 4) ((writeUserJoinGroupMessage message).drop 2)
      message := by
  refine (reads_readStringNotNull lawful _ _).cons ?_
  refine (reads_readStringNotNull lawful _ _).cons ?_
  exact ((reads_tracedTtl lawful _ _).guarded rfl _).last

theorem reads_createUserLeaveGroupMessage (message : UserLeaveGroupMessage) :
    mp.Reads (createUserLeaveGroupMessage mp 4) ((writeUserLeaveGroupMessage message).drop 2)
      message := by
  refine (reads_readStringNotNull lawful _ _).cons ?_
  refine (reads_readString lawful _ _).cons ?_
  exact ((reads_tracing lawful _).guarded rfl _).last

theorem reads_createUserJoinGroupWithAckMessage (message : UserJoinGroupWithAckMessage) :
    mp.Reads (createUserJoinGroupWithAckMessage mp 5)
      ((writeUserJoinGroupWithAckMessage message).drop 2)
      message := by
  refine (reads_readStringNotNull lawful _ _).cons ?_
  refine (reads_readStringNotNull lawful _ _).cons ?_
  refine (reads_readInt32 lawful _ _).cons ?_
  exact (reads_tracedTtl lawful _ _).last

theorem reads_createUserLeaveGroupWithAckMessage (message : UserLeaveGroupWithAckMessage) :
    mp.Reads (createUserLeaveGroupWithAckMessage mp 5)
      ((writeUserLeaveGroupWithAckMessage message).drop 2)
      message := by
  refine (reads_readStringNotNull lawful _ _).cons ?_
  refine (reads_readString lawful _ _).cons ?_
  refine (reads_readInt32 lawful _ _).cons ?_
  exact (reads_tracing lawful _).last

theorem reads_createGroupBroadcastDataMessage (toUpperInvariant : Char → Char)
    (message : GroupBroadcastDataMessage) :
    mp.Reads (createGroupBroadcastDataMessage mp toUpperInvariant 7)
      ((writeGroupBroadcastDataMessage message).drop 2)
      { message with
        excludedList := orEmpty message.excludedList
        payloads := orEmpty message.payloads
        excludedUserList := orEmpty message.excludedUserList } := by
  refine (reads_readStringNotNull lawful _ _).cons ?_
  refine (reads_readStringArray lawful _ _).bind ?_
  refine (reads_readPayloads lawful toUpperInvariant _).bind ?_
  refine ((reads_multicast lawful _ _).guarded rfl _).bind ?_
  refine ((reads_readStringArray lawful _ _).guarded rfl _).bind ?_
  exact ((reads_readString lawful _ _).guarded rfl _).last

theorem reads_createMultiGroupBroadcastDataMessage (toUpperInvariant : Char → Char)
    (message : MultiGroupBroadcastDataMessage) :
    mp.Reads (createMultiGroupBroadcastDataMessage mp toUpperInvariant 4)
      ((writeMultiGroupBroadcastDataMessage message).drop 2)
      { message with
        groupList := orEmpty message.groupList
        payloads := orEmpty message.payloads } := by
  refine (reads_readStringArray lawful _ _).bind ?_
  refine (reads_readPayloads lawful toUpperInvariant _).bind ?_
  exact ((reads_multicast lawful _ _).guarded rfl _).last

theorem reads_createServiceErrorMessage (message : ServiceErrorMessage) :
    mp.Reads (createServiceErrorMessage mp) ((writeServiceErrorMessage message).drop 2)
      { message with errorMessage := orEmptyString message.errorMessage } := by
  exact (reads_readString lawful _ _).last

theorem reads_createServiceEventMessage (message : ServiceEventMessage) :
    mp.Reads (createServiceEventMessage mp) ((writeServiceEventMessage message).drop 2)
      { message with message := orEmptyString message.message } := by
  refine (reads_readInt32 lawful _ _).cons ?_
  refine (reads_readString lawful _ _).cons ?_
  refine (reads_readInt32 lawful _ _).cons ?_
  refine (reads_readString lawful _ _).cons ?_
  exact (reads_noExtension lawful).last

theorem reads_createJoinGroupWithAckMessage (message : JoinGroupWithAckMessage) :
    mp.Reads (createJoinGroupWithAckMessage mp 5)
      ((writeJoinGroupWithAckMessage message).drop 2)
      message := by
  refine (reads_readStringNotNull lawful _ _).cons ?_
  refine (reads_readStringNotNull lawful _ _).cons ?_
  refine (reads_readInt32 lawful _ _).cons ?_
  exact ((reads_tracing lawful _).guarded rfl _).last

theorem reads_createLeaveGroupWithAckMessage (message : LeaveGroupWithAckMessage) :
    mp.Reads (createLeaveGroupWithAckMessage mp 5)
      ((writeLeaveGroupWithAckMessage message).drop 2)
      message := by
  refine (reads_readStringNotNull lawful _ _).cons ?_
  refine (reads_readString lawful _ _).cons ?_
  refine (reads_readInt32 lawful _ _).cons ?_
  exact ((reads_tracing lawful _).guarded rfl _).last

theorem reads_createCheckUserInGroupWithAckMessage (message : CheckUserInGroupWithAckMessage) :
    mp.Reads (createCheckUserInGroupWithAckMessage mp 5)
      ((writeCheckUserInGroupWithAckMessage message).drop 2)
      message := by
  refine (reads_readStringNotNull lawful _ _).cons ?_
  refine (reads_readStringNotNull lawful _ _).cons ?_
  refine (reads_readInt32 lawful _ _).cons ?_
  exact ((reads_tracing lawful _).guarded rfl _).last

theorem reads_createGroupExistenceWithAckMessage (message : CheckGroupExistenceWithAckMessage) :
    mp.Reads (createGroupExistenceWithAckMessage mp 4)
      ((writeCheckGroupExistenceWithAckMessage message).drop 2)
      message := by
  refine (reads_readStringNotNull lawful _ _).cons ?_
  refine (reads_readInt32 lawful _ _).cons ?_
  exact (reads_tracing lawful _).last

theorem reads_createCheckConnectionExistenceWithAckMessage
    (message : CheckConnectionExistenceWithAckMessage) :
    mp.Reads (createCheckConnectionExistenceWithAckMessage mp 4)
      ((writeCheckConnectionExistenceWithAckMessage message).drop 2)
      message := by
  refine (reads_readStringNotNull lawful _ _).cons ?_
  refine (reads_readInt32 lawful _ _).cons ?_
  exact (reads_tracing lawful _).last

theorem reads_createCheckUserExistenceWithAckMessage (message : CheckUserExistenceWithAckMessage) :
    mp.Reads (createCheckUserExistenceWithAckMessage mp 4)
      ((writeCheckUserExistenceWithAckMessage message).drop 2)
      message := by
  refine (reads_readStringNotNull lawful _ _).cons ?_
  refine (reads_readInt32 lawful _ _).cons ?_
  exact (reads_tracing lawful _).last

theorem reads_createAckMessage (message : AckMessage) :
    mp.Reads (createAckMessage mp 6) ((writeAckMessage message).drop 2)
      { message with message := orEmptyString message.message } := by
  have payload : mp.Reads (readByteSequence mp "payload")
      [writeNullable .binary message.payload] message.payload := by
    cases message.payload with
    | none => exact reads_readByteSequence_nil lawful _
    | some payload => exact reads_readByteSequence lawful _ payload
  refine (reads_readInt32 lawful _ _).cons ?_
  refine (reads_readInt32 lawful _ _).cons ?_
  refine (reads_readString lawful _ _).cons ?_
  refine ((reads_noExtension lawful).guarded rfl _).bind ?_
  exact (payload.guarded rfl _).last

theorem reads_createClientInvocationMessage (toUpperInvariant : Char → Char)
    (message : ClientInvocationMessage) :
    mp.Reads (createClientInvocationMessage mp toUpperInvariant 6)
      ((writeClientInvocationMessage message).drop 2)
      { message with payloads := orEmpty message.payloads } := by
  refine (reads_readStringNotNull lawful _ _).cons ?_
  refine (reads_readStringNotNull lawful _ _).cons ?_
  refine (reads_readStringNotNull lawful _ _).cons ?_
  refine (reads_readPayloads lawful toUpperInvariant _).bind ?_
  exact (reads_tracing lawful _).last

theorem reads_createClientCompletionMessage (message : ClientCompletionMessage) :
    mp.Reads (createClientCompletionMessage mp 7)
      ((writeClientCompletionMessage message).drop 2)
      message := by
  refine (reads_readStringNotNull lawful _ _).cons ?_
  refine (reads_readStringNotNull lawful _ _).cons ?_
  refine (reads_readStringNotNull lawful _ _).cons ?_
  refine (reads_readString lawful _ _).cons ?_
  refine (reads_readBytes lawful _ _).cons ?_
  exact (reads_tracedProtocol lawful _ _ (.inr rfl)).last

theorem reads_createErrorCompletionMessage (message : ErrorCompletionMessage) :
    mp.Reads (createErrorCompletionMessage mp 6)
      ((writeErrorCompletionMessage message).drop 2)
      { message with error := orEmptyString message.error } := by
  refine (reads_readStringNotNull lawful _ _).cons ?_
  refine (reads_readStringNotNull lawful _ _).cons ?_
  refine (reads_readStringNotNull lawful _ _).cons ?_
  refine (reads_readString lawful _ _).cons ?_
  exact (reads_tracing lawful _).last

theorem reads_createServiceMappingMessage (message : ServiceMappingMessage) :
    mp.Reads (createServiceMappingMessage mp 5) ((writeServiceMappingMessage message).drop 2)
      message := by
  refine (reads_readStringNotNull lawful _ _).cons ?_
  refine (reads_readStringNotNull lawful _ _).cons ?_
  refine (reads_readStringNotNull lawful _ _).cons ?_
  exact (reads_noExtension lawful).last

/-- The reader stops before the extension map. -/
theorem reads_createConnectionFlowControlMessage (message : ConnectionFlowControlMessage) :
    mp.Reads (createConnectionFlowControlMessage mp 5)
      [.string (some message.connectionId), .int32 message.connectionType.toInt32,
        .int32 message.operation.toInt32]
      message := by
  refine (reads_readStringNotNull lawful _ _).cons ?_
  refine (reads_readInt32_fixed lawful _ _).cons ?_
  refine (reads_readInt32_fixed lawful _ _).cons ?_
  rw [ConnectionType.ofInt32?_toInt32, ConnectionFlowControlOperation.ofInt32?_toInt32]
  exact .pure_nil message

theorem reads_readTop (top : Option Int32) :
    mp.Reads (readTop mp) [writeNullable .int top] top := by
  cases top with
  | none =>
      have isNil : mp.Reads mp.tryReadNil [.nil] true :=
        .single fun _ => lawful.tryReadNil_nil
      exact isNil.cons (.pure_nil none)
  | some top =>
      intro fits rest
      have value := (reads_readInt32 lawful "Top" top).map some fits rest
      have peeked := lawful.tryReadNil_int top rest
      rw [MessagePack.encode_cons, MessagePack.encode_nil, List.append_nil] at value
      change (mp.tryReadNil >>= fun isNil =>
        if isNil then pure none else some <$> readInt32 mp "Top").run
          (mp.write (.int top) ++ [] ++ rest) = _
      rw [List.append_nil, StateT.run_bind, peeked]
      exact value

theorem reads_createGroupMemberQueryMessage (message : GroupMemberQueryMessage) :
    mp.Reads (createGroupMemberQueryMessage mp 6)
      ((writeGroupMemberQueryMessage message).drop 2) message := by
  refine (reads_tracing lawful _).bind ?_
  refine (reads_readStringNotNull lawful _ _).cons ?_
  refine (reads_readInt32 lawful _ _).cons ?_
  refine (reads_readTop lawful _).cons ?_
  exact (reads_readString lawful _ _).last

end Readers

/-! ## Reading any message -/

/-- The writes start with an array header that announces no more items than
there are writes behind it. -/
def AnnouncesItems : List Token → Prop
  | .arrayHeader count :: tokens => count ≤ tokens.length
  | _ => False

theorem announcesItems_writeMessageCore (message : ServiceMessage) :
    AnnouncesItems (writeMessageCore message) := by
  cases message
  all_goals
    rename_i message
    change _ ≤ List.length _
    simp only [writeNoExtension, writeTracing, writeMulticast, ExtensionMembers.write_eq,
      writeStringArray_eq, writeClaims_eq, writePayloads_eq, writeHeaders_eq,
      List.length_cons, List.length_append, List.length_map, List.length_nil]
    omega

section Messages

variable {mp : MessagePack} (lawful : mp.Lawful) (toUpperInvariant : Char → Char)
include lawful

/-- `ParseMessage` on a message whose reader takes the fields it knows and
leaves `unread`. -/
theorem run_parseMessage {message : ServiceMessage} {count : Nat} {messageType : Int32}
    {fields unread : List Token} {result : Option ServiceMessage}
    (tokens : writeMessageCore message =
      .arrayHeader count :: .int messageType :: (fields ++ unread))
    (fits : mp.Fits (writeMessageCore message))
    (body : mp.Reads (createMessage mp toUpperInvariant count messageType) fields result) :
    (parseMessage mp toUpperInvariant).run (mp.encode (writeMessageCore message)) =
      .ok (result, mp.encode unread) := by
  have announced := announcesItems_writeMessageCore message
  rw [tokens] at announced fits ⊢
  have behind : mp.Fits (.int messageType :: (fields ++ unread)) := fits.tail
  have enough := lawful.length_le_encode (.int messageType :: (fields ++ unread))
  have header := lawful.readArrayHeader_write count
    (mp.encode (.int messageType :: (fields ++ unread)))
    (by change count ≤ _ at announced; rw [MessagePack.Fits] at behind; omega)
    (by change count ≤ _ at announced; omega)
  have type := lawful.readInt32_int messageType (mp.encode (fields ++ unread))
  have content := body behind.tail.left (mp.encode unread)
  rw [← MessagePack.encode_append] at content
  change (mp.readArrayHeader >>= fun arrayLength => mp.readInt32 >>= fun messageType =>
    createMessage mp toUpperInvariant arrayLength messageType).run _ = _
  rw [MessagePack.encode_cons, StateT.run_bind, header]
  change (mp.readInt32 >>= fun messageType =>
    createMessage mp toUpperInvariant count messageType).run _ = _
  rw [MessagePack.encode_cons, StateT.run_bind, type]
  exact content

/-- `ParseMessage` on a message whose reader takes all its fields. -/
theorem run_parseMessage_whole {message : ServiceMessage} {count : Nat}
    {messageType : Int32} {fields : List Token} {result : Option ServiceMessage}
    (tokens : writeMessageCore message = .arrayHeader count :: .int messageType :: fields)
    (fits : mp.Fits (writeMessageCore message))
    (body : mp.Reads (createMessage mp toUpperInvariant count messageType) fields result) :
    ∃ unread, (parseMessage mp toUpperInvariant).run (mp.encode (writeMessageCore message)) =
      .ok (result, unread) := by
  refine ⟨mp.encode [], run_parseMessage lawful toUpperInvariant ?_ fits body⟩
  rw [tokens, List.append_nil]

theorem run_parseMessage_writeMessageCore (message : ServiceMessage)
    (distinct : DistinctKeys (ordinalIgnoreCase toUpperInvariant) message.headers)
    (fits : mp.Fits (writeMessageCore message)) :
    ∃ unread, (parseMessage mp toUpperInvariant).run (mp.encode (writeMessageCore message)) =
      .ok (some message.normalize, unread) := by
  cases message with
  | handshakeRequest message =>
      exact run_parseMessage_whole lawful toUpperInvariant rfl fits
        ((reads_createHandshakeRequestMessage lawful message).map _)
  | handshakeResponse message =>
      exact run_parseMessage_whole lawful toUpperInvariant rfl fits
        ((reads_createHandshakeResponseMessage lawful message).map _)
  | accessKeyRequest message =>
      exact run_parseMessage_whole lawful toUpperInvariant rfl fits
        ((reads_createAccessKeyRequestMessage lawful message).map _)
  | accessKeyResponse message =>
      exact run_parseMessage_whole lawful toUpperInvariant rfl fits
        ((reads_createAccessKeyResponseMessage lawful message).map _)
  | ping message =>
      exact run_parseMessage_whole lawful toUpperInvariant rfl fits
        ((reads_createPingMessage lawful message).map _)
  | openConnection message =>
      exact run_parseMessage_whole lawful toUpperInvariant rfl fits
        ((reads_createOpenConnectionMessage lawful toUpperInvariant message distinct).map _)
  | closeConnection message =>
      exact run_parseMessage_whole lawful toUpperInvariant rfl fits
        ((reads_createCloseConnectionMessage lawful toUpperInvariant message distinct).map _)
  | closeConnectionWithAck message =>
      exact run_parseMessage_whole lawful toUpperInvariant rfl fits
        ((reads_createCloseConnectionWithAckMessage lawful message).map _)
  | closeConnectionsWithAck message =>
      exact run_parseMessage_whole lawful toUpperInvariant rfl fits
        ((reads_createCloseConnectionsWithAckMessage lawful message).map _)
  | closeUserConnectionsWithAck message =>
      exact run_parseMessage_whole lawful toUpperInvariant rfl fits
        ((reads_createCloseUserConnectionsWithAckMessage lawful message).map _)
  | closeGroupConnectionsWithAck message =>
      exact run_parseMessage_whole lawful toUpperInvariant rfl fits
        ((reads_createCloseGroupConnectionsWithAckMessage lawful message).map _)
  | connectionData message =>
      exact run_parseMessage_whole lawful toUpperInvariant rfl fits
        ((reads_createConnectionDataMessage lawful message).map _)
  | connectionReconnect message =>
      exact run_parseMessage_whole lawful toUpperInvariant rfl fits
        ((reads_createConnectionReconnectMessage lawful message).map _)
  | multiConnectionData message =>
      exact run_parseMessage_whole lawful toUpperInvariant rfl fits
        ((reads_createMultiConnectionDataMessage lawful toUpperInvariant message).map _)
  | userData message =>
      exact run_parseMessage_whole lawful toUpperInvariant rfl fits
        ((reads_createUserDataMessage lawful toUpperInvariant message).map _)
  | multiUserData message =>
      exact run_parseMessage_whole lawful toUpperInvariant rfl fits
        ((reads_createMultiUserDataMessage lawful toUpperInvariant message).map _)
  | broadcastData message =>
      exact run_parseMessage_whole lawful toUpperInvariant rfl fits
        ((reads_createBroadcastDataMessage lawful toUpperInvariant message).map _)
  | joinGroup message =>
      exact run_parseMessage_whole lawful toUpperInvariant rfl fits
        ((reads_createJoinGroupMessage lawful message).map _)
  | leaveGroup message =>
      exact run_parseMessage_whole lawful toUpperInvariant rfl fits
        ((reads_createLeaveGroupMessage lawful message).map _)
  | userJoinGroup message =>
      exact run_parseMessage_whole lawful toUpperInvariant rfl fits
        ((reads_createUserJoinGroupMessage lawful message).map _)
  | userLeaveGroup message =>
      exact run_parseMessage_whole lawful toUpperInvariant rfl fits
        ((reads_createUserLeaveGroupMessage lawful message).map _)
  | userJoinGroupWithAck message =>
      exact run_parseMessage_whole lawful toUpperInvariant rfl fits
        ((reads_createUserJoinGroupWithAckMessage lawful message).map _)
  | userLeaveGroupWithAck message =>
      exact run_parseMessage_whole lawful toUpperInvariant rfl fits
        ((reads_createUserLeaveGroupWithAckMessage lawful message).map _)
  | groupBroadcastData message =>
      exact run_parseMessage_whole lawful toUpperInvariant rfl fits
        ((reads_createGroupBroadcastDataMessage lawful toUpperInvariant message).map _)
  | multiGroupBroadcastData message =>
      exact run_parseMessage_whole lawful toUpperInvariant rfl fits
        ((reads_createMultiGroupBroadcastDataMessage lawful toUpperInvariant message).map _)
  | serviceError message =>
      exact run_parseMessage_whole lawful toUpperInvariant rfl fits
        ((reads_createServiceErrorMessage lawful message).map _)
  | serviceEvent message =>
      exact run_parseMessage_whole lawful toUpperInvariant rfl fits
        ((reads_createServiceEventMessage lawful message).map _)
  | joinGroupWithAck message =>
      exact run_parseMessage_whole lawful toUpperInvariant rfl fits
        ((reads_createJoinGroupWithAckMessage lawful message).map _)
  | leaveGroupWithAck message =>
      exact run_parseMessage_whole lawful toUpperInvariant rfl fits
        ((reads_createLeaveGroupWithAckMessage lawful message).map _)
  | checkUserInGroupWithAck message =>
      exact run_parseMessage_whole lawful toUpperInvariant rfl fits
        ((reads_createCheckUserInGroupWithAckMessage lawful message).map _)
  | checkGroupExistenceWithAck message =>
      exact run_parseMessage_whole lawful toUpperInvariant rfl fits
        ((reads_createGroupExistenceWithAckMessage lawful message).map _)
  | checkConnectionExistenceWithAck message =>
      exact run_parseMessage_whole lawful toUpperInvariant rfl fits
        ((reads_createCheckConnectionExistenceWithAckMessage lawful message).map _)
  | checkUserExistenceWithAck message =>
      exact run_parseMessage_whole lawful toUpperInvariant rfl fits
        ((reads_createCheckUserExistenceWithAckMessage lawful message).map _)
  | ack message =>
      exact run_parseMessage_whole lawful toUpperInvariant rfl fits
        ((reads_createAckMessage lawful message).map _)
  | clientInvocation message =>
      exact run_parseMessage_whole lawful toUpperInvariant rfl fits
        ((reads_createClientInvocationMessage lawful toUpperInvariant message).map _)
  | clientCompletion message =>
      exact run_parseMessage_whole lawful toUpperInvariant rfl fits
        ((reads_createClientCompletionMessage lawful message).map _)
  | errorCompletion message =>
      exact run_parseMessage_whole lawful toUpperInvariant rfl fits
        ((reads_createErrorCompletionMessage lawful message).map _)
  | serviceMapping message =>
      exact run_parseMessage_whole lawful toUpperInvariant rfl fits
        ((reads_createServiceMappingMessage lawful message).map _)
  | connectionFlowControl message =>
      have tokens : writeMessageCore (.connectionFlowControl message) =
          .arrayHeader 5 :: .int connectionFlowControlMessageType ::
            ([.string (some message.connectionId), .int32 message.connectionType.toInt32,
              .int32 message.operation.toInt32] ++ writeNoExtension) := rfl
      exact ⟨_, run_parseMessage lawful toUpperInvariant tokens fits
        ((reads_createConnectionFlowControlMessage lawful message).map _)⟩
  | groupMemberQuery message =>
      exact run_parseMessage_whole lawful toUpperInvariant rfl fits
        ((reads_createGroupMemberQueryMessage lawful message).map _)

/-- The round trip: whatever follows the bytes of `WriteMessage`, parsing
them gives the normalised message back and stops right behind them. -/
theorem tryParseMessage_writeMessage (message : ServiceMessage) (trailing : Bytes)
    (distinct : DistinctKeys (ordinalIgnoreCase toUpperInvariant) message.headers)
    (size : (mp.encode (writeMessageCore message)).length < 2 ^ 31 - 5) :
    ∃ written, writeMessage mp message = .ok written ∧
      tryParseMessage mp toUpperInvariant (written ++ trailing) =
        .ok (some (some message.normalize, trailing)) := by
  have fits : mp.Fits (writeMessageCore message) := by
    unfold MessagePack.Fits
    omega
  obtain ⟨frame, body, prefixed⟩ :=
    BinaryMessage.writeLengthPrefix_frame (mp.encode (writeMessageCore message)) fits
  obtain ⟨unread, parsed⟩ :=
    run_parseMessage_writeMessageCore lawful toUpperInvariant message distinct fits
  have addressable : frame.Addressable := by
    have prefixSize := frame.lengthPrefix.size
    have prefixLength := frame.lengthPrefix.length_bytes
    unfold BinaryMessage.Frame.Addressable BinaryMessage.Frame.bytes
    rw [List.length_append, body]
    omega
  refine ⟨frame.bytes, ?_, ?_⟩
  · unfold writeMessage
    simp only [prefixed]
    rw [BinaryMessage.Frame.bytes, body]
    rfl
  · unfold tryParseMessage
    rw [BinaryMessage.tryParseMessage_frame, if_pos addressable, body]
    simp only [parsed]

end Messages

/-- An opened connection with a claim, two headers and an extension member,
followed by the first byte of the next frame. -/
theorem tryParseMessage_writeMessage_openConnection :
    ∃ written, writeMessage messagePackFormat
        (.openConnection
          { connectionId := "c"
            claims := some [⟨"sub", "u"⟩]
            headers := some [("Host", ["a", "b"]), ("x-id", [])]
            queryString := none
            protocol := some "json" }) = .ok written ∧
      tryParseMessage messagePackFormat Char.toUpper (written ++ [0x05]) =
        .ok (some (some
          (.openConnection
            { connectionId := "c"
              claims := some [⟨"sub", "u"⟩]
              headers := some [("Host", ["a", "b"]), ("x-id", [])]
              queryString := none
              protocol := some "json" }), [0x05])) :=
  tryParseMessage_writeMessage messagePackFormat_lawful Char.toUpper
    (.openConnection
      { connectionId := "c"
        claims := some [⟨"sub", "u"⟩]
        headers := some [("Host", ["a", "b"]), ("x-id", [])]
        queryString := none
        protocol := some "json" })
    [0x05] (by decide) (by decide +kernel)

end AzureSignalR.Protocol
