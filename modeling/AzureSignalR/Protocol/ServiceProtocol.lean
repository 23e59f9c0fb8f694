import AzureSignalR.Protocol.ExtensionMembers

/-!
Contract: `ServiceProtocol`, the encoding of every service message.

Owns: `WriteMessageCore` with one writer per message type, `ParseMessage` with
one reader per message type, and the framed `WriteMessage` and
`TryParseMessage`.

A writer is the sequence of calls it makes on `MessagePackWriter`. The buffer
the calls go through before they are framed is the list of their bytes.
-/

set_option autoImplicit false

namespace AzureSignalR.Protocol

open Library

/-! ## Message types -/

namespace ServiceProtocolConstants

@[match_pattern] abbrev handshakeRequestType : Int32 := 1
@[match_pattern] abbrev handshakeResponseType : Int32 := 2
@[match_pattern] abbrev pingMessageType : Int32 := 3
@[match_pattern] abbrev openConnectionMessageType : Int32 := 4
@[match_pattern] abbrev closeConnectionMessageType : Int32 := 5
@[match_pattern] abbrev connectionDataMessageType : Int32 := 6
@[match_pattern] abbrev multiConnectionDataMessageType : Int32 := 7
@[match_pattern] abbrev userDataMessageType : Int32 := 8
@[match_pattern] abbrev multiUserDataMessageType : Int32 := 9
@[match_pattern] abbrev broadcastDataMessageType : Int32 := 10
@[match_pattern] abbrev joinGroupMessageType : Int32 := 11
@[match_pattern] abbrev leaveGroupMessageType : Int32 := 12
@[match_pattern] abbrev groupBroadcastDataMessageType : Int32 := 13
@[match_pattern] abbrev multiGroupBroadcastDataMessageType : Int32 := 14
@[match_pattern] abbrev serviceErrorMessageType : Int32 := 15
@[match_pattern] abbrev userJoinGroupMessageType : Int32 := 16
@[match_pattern] abbrev userLeaveGroupMessageType : Int32 := 17
@[match_pattern] abbrev joinGroupWithAckMessageType : Int32 := 18
@[match_pattern] abbrev leaveGroupWithAckMessageType : Int32 := 19
@[match_pattern] abbrev ackMessageType : Int32 := 20
@[match_pattern] abbrev checkUserInGroupWithAckMessageType : Int32 := 21
@[match_pattern] abbrev serviceEventMessageType : Int32 := 22
@[match_pattern] abbrev checkGroupExistenceWithAckMessageType : Int32 := 23
@[match_pattern] abbrev checkConnectionExistenceWithAckMessageType : Int32 := 24
@[match_pattern] abbrev checkUserExistenceWithAckMessageType : Int32 := 25
@[match_pattern] abbrev userJoinGroupWithAckMessageType : Int32 := 26
@[match_pattern] abbrev userLeaveGroupWithAckMessageType : Int32 := 27
@[match_pattern] abbrev accessKeyRequestType : Int32 := 28
@[match_pattern] abbrev accessKeyResponseType : Int32 := 29
@[match_pattern] abbrev closeConnectionWithAckMessageType : Int32 := 30
@[match_pattern] abbrev closeConnectionsWithAckMessageType : Int32 := 31
@[match_pattern] abbrev closeUserConnectionsWithAckMessageType : Int32 := 32
@[match_pattern] abbrev closeGroupConnectionsWithAckMessageType : Int32 := 33
@[match_pattern] abbrev clientInvocationMessageType : Int32 := 34
@[match_pattern] abbrev clientCompletionMessageType : Int32 := 35
@[match_pattern] abbrev errorCompletionMessageType : Int32 := 36
@[match_pattern] abbrev serviceMappingMessageType : Int32 := 37
@[match_pattern] abbrev connectionReconnectMessageType : Int32 := 38
@[match_pattern] abbrev connectionFlowControlMessageType : Int32 := 39
@[match_pattern] abbrev groupMemberQueryMessageType : Int32 := 40

end ServiceProtocolConstants

open ServiceProtocolConstants

/-! ## Extension members of the message classes -/

namespace ExtensionSupport

/-- A class without an extension interface. -/
def plain : ExtensionSupport := {}

/-- `IMessageWithTracingId` only. -/
def traced : ExtensionSupport := { tracingId := true }

/-- `IMessageWithTracingId` and `IHasProtocol`. -/
def tracedProtocol : ExtensionSupport := { tracingId := true, protocol := true }

/-- `IMessageWithTracingId` and `IHasTtl`. -/
def tracedTtl : ExtensionSupport := { tracingId := true, ttl := true }

/-- `MulticastDataMessage`: `IMessageWithTracingId` and `IHasSubscriberFilter`. -/
def multicast : ExtensionSupport := { tracingId := true, filter := true }

/-- `ConnectionDataMessage`: `IMessageWithTracingId`, `IHasDataMessageType` and
`IPartializable`. -/
def connectionData : ExtensionSupport :=
  { tracingId := true, dataMessageType := true, isPartial := true }

end ExtensionSupport

/-- The extension map of a class without extension members. -/
def writeNoExtension : List Token := ExtensionMembers.write {}

def writeTracing (tracingId : Option UInt64) : List Token :=
  ExtensionMembers.write { tracingId := tracingId }

def writeMulticast (tracingId : Option UInt64) (filter : Option String) : List Token :=
  ExtensionMembers.write { tracingId := tracingId, filter := filter }

/-! ## Writers -/

/-- A nullable value: its own write, or `WriteNil`. -/
def writeNullable {α : Type} (write : α → Token) (value : Option α) : Token :=
  (value.map write).getD .nil

def writeHandshakeRequestMessage (message : HandshakeRequestMessage) : List Token :=
  .arrayHeader 7 ::
  .int handshakeRequestType ::
  .int message.version ::
  .int message.connectionType ::
  .string (some (if message.connectionType = 0 then "" else message.target.getD "")) ::
  .int message.migrationLevel ::
  (writeNoExtension ++
  [Token.boolean message.allowStatefulReconnects])

def writeHandshakeResponseMessage (message : HandshakeResponseMessage) : List Token :=
  .arrayHeader 4 ::
  .int handshakeResponseType ::
  .string message.errorMessage ::
  (writeNoExtension ++
  [Token.string message.connectionId])

def writeAccessKeyRequestMessage (message : AccessKeyRequestMessage) : List Token :=
  .arrayHeader 4 ::
  .int accessKeyRequestType ::
  .string message.token ::
  .string message.kid ::
  writeNoExtension

def writeAccessKeyResponseMessage (message : AccessKeyResponseMessage) : List Token :=
  .arrayHeader 6 ::
  .int accessKeyResponseType ::
  .string message.kid ::
  .string message.accessKey ::
  .string message.errorType ::
  .string message.errorMessage ::
  writeNoExtension

def writePingMessage (message : PingMessage) : List Token :=
  .arrayHeader (message.messages.length + 1) ::
  .int pingMessageType ::
  message.messages.map .string

def writeOpenConnectionMessage (message : OpenConnectionMessage) : List Token :=
  .arrayHeader 6 ::
  .int openConnectionMessageType ::
  .string (some message.connectionId) ::
  (writeClaims message.claims ++
  (writeHeaders message.headers ++
  .string message.queryString ::
  ExtensionMembers.write
    { tracingId := message.tracingId
      protocol := message.protocol }))

def writeCloseConnectionMessage (message : CloseConnectionMessage) : List Token :=
  .arrayHeader 5 ::
  .int closeConnectionMessageType ::
  .string (some message.connectionId) ::
  .string message.errorMessage ::
  (writeHeaders message.headers ++
  writeTracing message.tracingId)

def writeCloseConnectionWithAckMessage (message : CloseConnectionWithAckMessage) : List Token :=
  .arrayHeader 5 ::
  .int closeConnectionWithAckMessageType ::
  .string (some message.connectionId) ::
  .string message.reason ::
  .int message.ackId ::
  writeTracing message.tracingId

def writeCloseConnectionsWithAckMessage
    (message : CloseConnectionsWithAckMessage) : List Token :=
  .arrayHeader 5 ::
  .int closeConnectionsWithAckMessageType ::
  .string message.reason ::
  .int message.ackId ::
  (writeStringArray message.excludedList ++
  writeTracing message.tracingId)

def writeCloseUserConnectionsWithAckMessage
    (message : CloseUserConnectionsWithAckMessage) : List Token :=
  .arrayHeader 6 ::
  .int closeUserConnectionsWithAckMessageType ::
  .string (some message.userId) ::
  .string message.reason ::
  .int message.ackId ::
  (writeStringArray message.excludedList ++
  writeTracing message.tracingId)

def writeCloseGroupConnectionsWithAckMessage
    (message : CloseGroupConnectionsWithAckMessage) : List Token :=
  .arrayHeader 6 ::
  .int closeGroupConnectionsWithAckMessageType ::
  .string (some message.groupName) ::
  .string message.reason ::
  .int message.ackId ::
  (writeStringArray message.excludedList ++
  writeTracing message.tracingId)

def writeConnectionDataMessage (message : ConnectionDataMessage) : List Token :=
  .arrayHeader 4 ::
  .int connectionDataMessageType ::
  .string (some message.connectionId) ::
  .binary message.payload ::
  ExtensionMembers.write
    { tracingId := message.tracingId
      dataMessageType := message.type
      isPartial := message.isPartial }

def writeConnectionReconnectMessage (message : ConnectionReconnectMessage) : List Token :=
  .arrayHeader 3 ::
  .int connectionReconnectMessageType ::
  .string (some message.connectionId) ::
  writeNoExtension

def writeMultiConnectionDataMessage (message : MultiConnectionDataMessage) : List Token :=
  .arrayHeader 4 ::
  .int multiConnectionDataMessageType ::
  (writeStringArray message.connectionList ++
  (writePayloads message.payloads ++
  writeMulticast message.tracingId message.filter))

def writeUserDataMessage (message : UserDataMessage) : List Token :=
  .arrayHeader 4 ::
  .int userDataMessageType ::
  .string (some message.userId) ::
  (writePayloads message.payloads ++
  writeMulticast message.tracingId message.filter)

def writeMultiUserDataMessage (message : MultiUserDataMessage) : List Token :=
  .arrayHeader 4 ::
  .int multiUserDataMessageType ::
  (writeStringArray message.userList ++
  (writePayloads message.payloads ++
  writeMulticast message.tracingId message.filter))

def writeBroadcastDataMessage (message : BroadcastDataMessage) : List Token :=
  .arrayHeader 4 ::
  .int broadcastDataMessageType ::
  (writeStringArray message.excludedList ++
  (writePayloads message.payloads ++
  writeMulticast message.tracingId message.filter))

def writeJoinGroupMessage (message : JoinGroupMessage) : List Token :=
  .arrayHeader 4 ::
  .int joinGroupMessageType ::
  .string (some message.connectionId) ::
  .string (some message.groupName) ::
  writeTracing message.tracingId

def writeLeaveGroupMessage (message : LeaveGroupMessage) : List Token :=
  .arrayHeader 4 ::
  .int leaveGroupMessageType ::
  .string (some message.connectionId) ::
  .string message.groupName ::
  writeTracing message.tracingId

def writeUserJoinGroupMessage (message : UserJoinGroupMessage) : List Token :=
  .arrayHeader 4 ::
  .int userJoinGroupMessageType ::
  .string (some message.userId) ::
  .string (some message.groupName) ::
  ExtensionMembers.write
    { tracingId := message.tracingId
      ttl := message.ttl }

def writeUserLeaveGroupMessage (message : UserLeaveGroupMessage) : List Token :=
  .arrayHeader 4 ::
  .int userLeaveGroupMessageType ::
  .string (some message.userId) ::
  .string message.groupName ::
  writeTracing message.tracingId

def writeUserJoinGroupWithAckMessage (message : UserJoinGroupWithAckMessage) : List Token :=
  .arrayHeader 5 ::
  .int userJoinGroupWithAckMessageType ::
  .string (some message.userId) ::
  .string (some message.groupName) ::
  .int message.ackId ::
  ExtensionMembers.write
    { tracingId := message.tracingId
      ttl := message.ttl }

def writeUserLeaveGroupWithAckMessage (message : UserLeaveGroupWithAckMessage) : List Token :=
  .arrayHeader 5 ::
  .int userLeaveGroupWithAckMessageType ::
  .string (some message.userId) ::
  .string message.groupName ::
  .int message.ackId ::
  writeTracing message.tracingId

def writeGroupBroadcastDataMessage (message : GroupBroadcastDataMessage) : List Token :=
  .arrayHeader 7 ::
  .int groupBroadcastDataMessageType ::
  .string (some message.groupName) ::
  (writeStringArray message.excludedList ++
  (writePayloads message.payloads ++
  (writeMulticast message.tracingId message.filter ++
  (writeStringArray message.excludedUserList ++
  [Token.string message.callerUserId]))))

def writeMultiGroupBroadcastDataMessage
    (message : MultiGroupBroadcastDataMessage) : List Token :=
  .arrayHeader 4 ::
  .int multiGroupBroadcastDataMessageType ::
  (writeStringArray message.groupList ++
  (writePayloads message.payloads ++
  writeMulticast message.tracingId message.filter))

def writeServiceErrorMessage (message : ServiceErrorMessage) : List Token :=
  .arrayHeader 2 ::
  .int serviceErrorMessageType ::
  [.string message.errorMessage]

def writeServiceEventMessage (message : ServiceEventMessage) : List Token :=
  .arrayHeader 6 ::
  .int serviceEventMessageType ::
  .int message.type.value ::
  .string message.id ::
  .int message.kind.value ::
  .string message.message ::
  writeNoExtension

def writeJoinGroupWithAckMessage (message : JoinGroupWithAckMessage) : List Token :=
  .arrayHeader 5 ::
  .int joinGroupWithAckMessageType ::
  .string (some message.connectionId) ::
  .string (some message.groupName) ::
  .int message.ackId ::
  writeTracing message.tracingId

def writeLeaveGroupWithAckMessage (message : LeaveGroupWithAckMessage) : List Token :=
  .arrayHeader 5 ::
  .int leaveGroupWithAckMessageType ::
  .string (some message.connectionId) ::
  .string message.groupName ::
  .int message.ackId ::
  writeTracing message.tracingId

def writeCheckUserInGroupWithAckMessage
    (message : CheckUserInGroupWithAckMessage) : List Token :=
  .arrayHeader 5 ::
  .int checkUserInGroupWithAckMessageType ::
  .string (some message.userId) ::
  .string (some message.groupName) ::
  .int message.ackId ::
  writeTracing message.tracingId

def writeCheckGroupExistenceWithAckMessage
    (message : CheckGroupExistenceWithAckMessage) : List Token :=
  .arrayHeader 4 ::
  .int checkGroupExistenceWithAckMessageType ::
  .string (some message.groupName) ::
  .int message.ackId ::
  writeTracing message.tracingId

def writeCheckConnectionExistenceWithAckMessage
    (message : CheckConnectionExistenceWithAckMessage) : List Token :=
  .arrayHeader 4 ::
  .int checkConnectionExistenceWithAckMessageType ::
  .string (some message.connectionId) ::
  .int message.ackId ::
  writeTracing message.tracingId

def writeCheckUserExistenceWithAckMessage
    (message : CheckUserExistenceWithAckMessage) : List Token :=
  .arrayHeader 4 ::
  .int checkUserExistenceWithAckMessageType ::
  .string (some message.userId) ::
  .int message.ackId ::
  writeTracing message.tracingId

def writeAckMessage (message : AckMessage) : List Token :=
  .arrayHeader 6 ::
  .int ackMessageType ::
  .int message.ackId ::
  .int message.status ::
  .string message.message ::
  (writeNoExtension ++
  [writeNullable .binary message.payload])

def writeClientInvocationMessage (message : ClientInvocationMessage) : List Token :=
  .arrayHeader 6 ::
  .int clientInvocationMessageType ::
  .string (some message.invocationId) ::
  .string (some message.connectionId) ::
  .string (some message.callerServerId) ::
  (writePayloads message.payloads ++
  writeTracing message.tracingId)

def writeClientCompletionMessage (message : ClientCompletionMessage) : List Token :=
  .arrayHeader 7 ::
  .int clientCompletionMessageType ::
  .string (some message.invocationId) ::
  .string (some message.connectionId) ::
  .string (some message.callerServerId) ::
  .string message.protocol ::
  .binary message.payload ::
  ExtensionMembers.write
    { tracingId := message.tracingId
      protocol := message.protocol }

def writeErrorCompletionMessage (message : ErrorCompletionMessage) : List Token :=
  .arrayHeader 6 ::
  .int errorCompletionMessageType ::
  .string (some message.invocationId) ::
  .string (some message.connectionId) ::
  .string (some message.callerServerId) ::
  .string message.error ::
  writeTracing message.tracingId

def writeServiceMappingMessage (message : ServiceMappingMessage) : List Token :=
  .arrayHeader 5 ::
  .int serviceMappingMessageType ::
  .string (some message.invocationId) ::
  .string (some message.connectionId) ::
  .string (some message.instanceId) ::
  writeNoExtension

def writeConnectionFlowControlMessage (message : ConnectionFlowControlMessage) : List Token :=
  .arrayHeader 5 ::
  .int connectionFlowControlMessageType ::
  .string (some message.connectionId) ::
  .int32 message.connectionType.toInt32 ::
  .int32 message.operation.toInt32 ::
  writeNoExtension

def writeGroupMemberQueryMessage (message : GroupMemberQueryMessage) : List Token :=
  .arrayHeader 6 ::
  .int groupMemberQueryMessageType ::
  (writeTracing message.tracingId ++
  .string (some message.groupName) ::
  .int message.ackId ::
  writeNullable .int message.top ::
  [.string message.continuationToken])

def writeMessageCore : ServiceMessage → List Token
  | .handshakeRequest message => writeHandshakeRequestMessage message
  | .handshakeResponse message => writeHandshakeResponseMessage message
  | .accessKeyRequest message => writeAccessKeyRequestMessage message
  | .accessKeyResponse message => writeAccessKeyResponseMessage message
  | .ping message => writePingMessage message
  | .openConnection message => writeOpenConnectionMessage message
  | .closeConnection message => writeCloseConnectionMessage message
  | .closeConnectionWithAck message => writeCloseConnectionWithAckMessage message
  | .closeConnectionsWithAck message => writeCloseConnectionsWithAckMessage message
  | .closeUserConnectionsWithAck message => writeCloseUserConnectionsWithAckMessage message
  | .closeGroupConnectionsWithAck message => writeCloseGroupConnectionsWithAckMessage message
  | .connectionData message => writeConnectionDataMessage message
  | .connectionReconnect message => writeConnectionReconnectMessage message
  | .multiConnectionData message => writeMultiConnectionDataMessage message
  | .userData message => writeUserDataMessage message
  | .multiUserData message => writeMultiUserDataMessage message
  | .broadcastData message => writeBroadcastDataMessage message
  | .joinGroup message => writeJoinGroupMessage message
  | .leaveGroup message => writeLeaveGroupMessage message
  | .userJoinGroup message => writeUserJoinGroupMessage message
  | .userLeaveGroup message => writeUserLeaveGroupMessage message
  | .userJoinGroupWithAck message => writeUserJoinGroupWithAckMessage message
  | .userLeaveGroupWithAck message => writeUserLeaveGroupWithAckMessage message
  | .groupBroadcastData message => writeGroupBroadcastDataMessage message
  | .multiGroupBroadcastData message => writeMultiGroupBroadcastDataMessage message
  | .serviceError message => writeServiceErrorMessage message
  | .serviceEvent message => writeServiceEventMessage message
  | .joinGroupWithAck message => writeJoinGroupWithAckMessage message
  | .leaveGroupWithAck message => writeLeaveGroupWithAckMessage message
  | .checkUserInGroupWithAck message => writeCheckUserInGroupWithAckMessage message
  | .checkGroupExistenceWithAck message => writeCheckGroupExistenceWithAckMessage message
  | .checkConnectionExistenceWithAck message =>
      writeCheckConnectionExistenceWithAckMessage message
  | .checkUserExistenceWithAck message => writeCheckUserExistenceWithAckMessage message
  | .ack message => writeAckMessage message
  | .clientInvocation message => writeClientInvocationMessage message
  | .clientCompletion message => writeClientCompletionMessage message
  | .errorCompletion message => writeErrorCompletionMessage message
  | .serviceMapping message => writeServiceMappingMessage message
  | .connectionFlowControl message => writeConnectionFlowControlMessage message
  | .groupMemberQuery message => writeGroupMemberQueryMessage message

/-! ## Readers

`arrayLength` is the item count of the array header; a reader tests it before
members that older writers leave out. -/

section Readers

variable (mp : MessagePack) (toUpperInvariant : Char → Char)

def createHandshakeRequestMessage (arrayLength : Nat) : Reader HandshakeRequestMessage := do
  let version ← readInt32 mp "version"
  let connectionType ← Decoder.guarded (4 ≤ arrayLength) (readInt32 mp "connectionType") 0
  let target ← Decoder.guarded (4 ≤ arrayLength) (readString mp "target") none
  let migrationLevel ← Decoder.guarded (5 ≤ arrayLength) (readInt32 mp "migratableStatus") 0
  let _ ← Decoder.guarded (6 ≤ arrayLength)
    (ExtensionMembers.read mp .plain {}) {}
  let allowStatefulReconnects ← Decoder.guarded (7 ≤ arrayLength)
    (readBoolean mp "enableStatefulReconnects") false
  pure
    { version := version
      connectionType := connectionType
      target := target
      migrationLevel := migrationLevel
      allowStatefulReconnects := allowStatefulReconnects }

def createHandshakeResponseMessage (arrayLength : Nat) : Reader HandshakeResponseMessage := do
  let errorMessage ← readString mp "errorMessage"
  let _ ← Decoder.guarded (3 ≤ arrayLength)
    (ExtensionMembers.read mp .plain {}) {}
  let connectionId ← Decoder.guarded (4 ≤ arrayLength) (readString mp "connectionId") none
  pure { errorMessage := errorMessage, connectionId := connectionId }

def createAccessKeyRequestMessage (_arrayLength : Nat) : Reader AccessKeyRequestMessage := do
  let token ← readString mp "token"
  let kid ← readString mp "kid"
  let _ ← ExtensionMembers.read mp .plain {}
  pure { token := token, kid := kid }

def createAccessKeyResponseMessage (_arrayLength : Nat) :
    Reader AccessKeyResponseMessage := do
  let kid ← readString mp "kid"
  let accessKey ← readString mp "accessKey"
  let errorType ← readString mp "errorType"
  let errorMessage ← readString mp "errorMessage"
  let _ ← ExtensionMembers.read mp .plain {}
  pure
    { kid := kid
      accessKey := accessKey
      errorType := errorType
      errorMessage := errorMessage }

def createPingMessage (arrayLength : Nat) : Reader PingMessage := do
  let messages ← Decoder.repeatFrom
    (fun index => readString mp (elementField "messages" index)) 0 (arrayLength - 1)
  pure { messages := messages }

def createOpenConnectionMessage (arrayLength : Nat) : Reader OpenConnectionMessage := do
  let connectionId ← readStringNotNull mp "connectionId"
  let claims ← readClaims mp
  if 5 ≤ arrayLength then do
    let headers ← readHeaders mp toUpperInvariant
    let queryString ← readString mp "queryString"
    let members ← Decoder.guarded (6 ≤ arrayLength)
      (ExtensionMembers.read mp .tracedProtocol {}) {}
    pure
      { connectionId := connectionId
        claims := some claims
        headers := some headers
        queryString := queryString
        protocol := members.protocol
        tracingId := members.tracingId }
  else
    -- Backward compatible with old versions
    pure
      { connectionId := connectionId
        claims := some claims
        headers := some []
        queryString := some "" }

def createCloseConnectionMessage (arrayLength : Nat) : Reader CloseConnectionMessage := do
  let connectionId ← readStringNotNull mp "connectionId"
  let errorMessage ← readString mp "errorMessage"
  let headers ← Decoder.guarded (4 ≤ arrayLength) (readHeaders mp toUpperInvariant) []
  let members ← Decoder.guarded (5 ≤ arrayLength)
    (ExtensionMembers.read mp .traced {}) {}
  pure
    { connectionId := connectionId
      errorMessage := some (errorMessage.getD "")
      headers := some headers
      tracingId := members.tracingId }

def createCloseConnectionWithAckMessage (arrayLength : Nat) :
    Reader CloseConnectionWithAckMessage := do
  let connectionId ← readStringNotNull mp "connectionId"
  let reason ← readString mp "reason"
  let ackId ← readInt32 mp "ackId"
  let members ← Decoder.guarded (5 ≤ arrayLength)
    (ExtensionMembers.read mp .traced {}) {}
  pure
    { connectionId := connectionId
      reason := reason
      ackId := ackId
      tracingId := members.tracingId }

def createCloseConnectionsWithAckMessage (arrayLength : Nat) :
    Reader CloseConnectionsWithAckMessage := do
  let reason ← readString mp "reason"
  let ackId ← readInt32 mp "ackId"
  let excluded ← readStringArray mp "excluded"
  let members ← Decoder.guarded (5 ≤ arrayLength)
    (ExtensionMembers.read mp .traced {}) {}
  pure
    { reason := reason
      ackId := ackId
      excludedList := some excluded
      tracingId := members.tracingId }

def createCloseUserConnectionsWithAckMessage (arrayLength : Nat) :
    Reader CloseUserConnectionsWithAckMessage := do
  let userId ← readStringNotNull mp "userId"
  let reason ← readString mp "reason"
  let ackId ← readInt32 mp "ackId"
  let excluded ← readStringArray mp "excluded"
  let members ← Decoder.guarded (6 ≤ arrayLength)
    (ExtensionMembers.read mp .traced {}) {}
  pure
    { userId := userId
      reason := reason
      ackId := ackId
      excludedList := some excluded
      tracingId := members.tracingId }

def createCloseGroupConnectionsWithAckMessage (arrayLength : Nat) :
    Reader CloseGroupConnectionsWithAckMessage := do
  let group ← readStringNotNull mp "group"
  let reason ← readString mp "reason"
  let ackId ← readInt32 mp "ackId"
  let excluded ← readStringArray mp "excluded"
  let members ← Decoder.guarded (6 ≤ arrayLength)
    (ExtensionMembers.read mp .traced {}) {}
  pure
    { groupName := group
      reason := reason
      ackId := ackId
      excludedList := some excluded
      tracingId := members.tracingId }

def createConnectionDataMessage (arrayLength : Nat) : Reader ConnectionDataMessage := do
  let connectionId ← readStringNotNull mp "connectionId"
  let payload ← readBytes mp "payload"
  let members ← Decoder.guarded (4 ≤ arrayLength)
    (ExtensionMembers.read mp .connectionData {}) {}
  pure
    { connectionId := connectionId
      payload := payload
      tracingId := members.tracingId
      type := members.dataMessageType
      isPartial := members.isPartial }

def createConnectionReconnectMessage (_arrayLength : Nat) :
    Reader ConnectionReconnectMessage := do
  let connectionId ← readStringNotNull mp "connectionId"
  let _ ← ExtensionMembers.read mp .plain {}
  pure { connectionId := connectionId }

def createMultiConnectionDataMessage (arrayLength : Nat) :
    Reader MultiConnectionDataMessage := do
  let connectionList ← readStringArray mp "connectionList"
  let payloads ← readPayloads mp toUpperInvariant
  let members ← Decoder.guarded (4 ≤ arrayLength)
    (ExtensionMembers.read mp .multicast {}) {}
  pure
    { connectionList := some connectionList
      payloads := some payloads
      tracingId := members.tracingId
      filter := members.filter }

def createUserDataMessage (arrayLength : Nat) : Reader UserDataMessage := do
  let userId ← readStringNotNull mp "userId"
  let payloads ← readPayloads mp toUpperInvariant
  let members ← Decoder.guarded (4 ≤ arrayLength)
    (ExtensionMembers.read mp .multicast {}) {}
  pure
    { userId := userId
      payloads := some payloads
      tracingId := members.tracingId
      filter := members.filter }

def createMultiUserDataMessage (arrayLength : Nat) : Reader MultiUserDataMessage := do
  let userList ← readStringArray mp "userList"
  let payloads ← readPayloads mp toUpperInvariant
  let members ← Decoder.guarded (4 ≤ arrayLength)
    (ExtensionMembers.read mp .multicast {}) {}
  pure
    { userList := some userList
      payloads := some payloads
      tracingId := members.tracingId
      filter := members.filter }

def createBroadcastDataMessage (arrayLength : Nat) : Reader BroadcastDataMessage := do
  let excludedList ← readStringArray mp "excludedList"
  let payloads ← readPayloads mp toUpperInvariant
  let members ← Decoder.guarded (4 ≤ arrayLength)
    (ExtensionMembers.read mp .multicast {}) {}
  pure
    { excludedList := some excludedList
      payloads := some payloads
      tracingId := members.tracingId
      filter := members.filter }

def createJoinGroupMessage (arrayLength : Nat) : Reader JoinGroupMessage := do
  let connectionId ← readStringNotNull mp "connectionId"
  let groupName ← readStringNotNull mp "groupName"
  let members ← Decoder.guarded (4 ≤ arrayLength)
    (ExtensionMembers.read mp .traced {}) {}
  pure
    { connectionId := connectionId
      groupName := groupName
      tracingId := members.tracingId }

def createLeaveGroupMessage (arrayLength : Nat) : Reader LeaveGroupMessage := do
  let connectionId ← readStringNotNull mp "connectionId"
  let groupName ← readString mp "groupName"
  let members ← Decoder.guarded (4 ≤ arrayLength)
    (ExtensionMembers.read mp .traced {}) {}
  pure
    { connectionId := connectionId
      groupName := groupName
      tracingId := members.tracingId }

def createUserJoinGroupMessage (arrayLength : Nat) : Reader UserJoinGroupMessage := do
  let userId ← readStringNotNull mp "userId"
  let groupName ← readStringNotNull mp "groupName"
  let members ← Decoder.guarded (4 ≤ arrayLength)
    (ExtensionMembers.read mp .tracedTtl {}) {}
  pure
    { userId := userId
      groupName := groupName
      tracingId := members.tracingId
      ttl := members.ttl }

def createUserLeaveGroupMessage (arrayLength : Nat) : Reader UserLeaveGroupMessage := do
  let userId ← readStringNotNull mp "userId"
  let groupName ← readString mp "groupName"
  let members ← Decoder.guarded (4 ≤ arrayLength)
    (ExtensionMembers.read mp .traced {}) {}
  pure
    { userId := userId
      groupName := groupName
      tracingId := members.tracingId }

def createUserJoinGroupWithAckMessage (_arrayLength : Nat) :
    Reader UserJoinGroupWithAckMessage := do
  let userId ← readStringNotNull mp "userId"
  let groupName ← readStringNotNull mp "groupName"
  let ackId ← readInt32 mp "ackId"
  let members ← ExtensionMembers.read mp .tracedTtl {}
  pure
    { userId := userId
      groupName := groupName
      ackId := ackId
      tracingId := members.tracingId
      ttl := members.ttl }

def createUserLeaveGroupWithAckMessage (_arrayLength : Nat) :
    Reader UserLeaveGroupWithAckMessage := do
  let userId ← readStringNotNull mp "userId"
  let groupName ← readString mp "groupName"
  let ackId ← readInt32 mp "ackId"
  let members ← ExtensionMembers.read mp .traced {}
  pure
    { userId := userId
      groupName := groupName
      ackId := ackId
      tracingId := members.tracingId }

def createGroupBroadcastDataMessage (arrayLength : Nat) :
    Reader GroupBroadcastDataMessage := do
  let groupName ← readStringNotNull mp "groupName"
  let excludedList ← readStringArray mp "excludedList"
  let payloads ← readPayloads mp toUpperInvariant
  let members ← Decoder.guarded (5 ≤ arrayLength)
    (ExtensionMembers.read mp .multicast {}) {}
  let excludedUserList ← Decoder.guarded (7 ≤ arrayLength)
    (readStringArray mp "excludedUserList") []
  let callerUserId ← Decoder.guarded (7 ≤ arrayLength) (readString mp "callerUserId") none
  pure
    { groupName := groupName
      excludedList := some excludedList
      payloads := some payloads
      excludedUserList := some excludedUserList
      callerUserId := callerUserId
      tracingId := members.tracingId
      filter := members.filter }

def createMultiGroupBroadcastDataMessage (arrayLength : Nat) :
    Reader MultiGroupBroadcastDataMessage := do
  let groupList ← readStringArray mp "groupList"
  let payloads ← readPayloads mp toUpperInvariant
  let members ← Decoder.guarded (4 ≤ arrayLength)
    (ExtensionMembers.read mp .multicast {}) {}
  pure
    { groupList := some groupList
      payloads := some payloads
      tracingId := members.tracingId
      filter := members.filter }

def createServiceErrorMessage : Reader ServiceErrorMessage := do
  let errorMessage ← readString mp "errorMessage"
  pure { errorMessage := some (errorMessage.getD "") }

def createServiceEventMessage : Reader ServiceEventMessage := do
  let type ← readInt32 mp "type"
  let id ← readString mp "id"
  let kind ← readInt32 mp "kind"
  let message ← readString mp "message"
  let _ ← ExtensionMembers.read mp .plain {}
  pure
    { type := ⟨type⟩
      id := id
      kind := ⟨kind⟩
      message := some (message.getD "") }

def createJoinGroupWithAckMessage (arrayLength : Nat) : Reader JoinGroupWithAckMessage := do
  let connectionId ← readStringNotNull mp "connectionId"
  let groupName ← readStringNotNull mp "groupName"
  let ackId ← readInt32 mp "ackId"
  let members ← Decoder.guarded (5 ≤ arrayLength)
    (ExtensionMembers.read mp .traced {}) {}
  pure
    { connectionId := connectionId
      groupName := groupName
      ackId := ackId
      tracingId := members.tracingId }

def createLeaveGroupWithAckMessage (arrayLength : Nat) : Reader LeaveGroupWithAckMessage := do
  let connectionId ← readStringNotNull mp "connectionId"
  let groupName ← readString mp "groupName"
  let ackId ← readInt32 mp "ackId"
  let members ← Decoder.guarded (5 ≤ arrayLength)
    (ExtensionMembers.read mp .traced {}) {}
  pure
    { connectionId := connectionId
      groupName := groupName
      ackId := ackId
      tracingId := members.tracingId }

def createCheckUserInGroupWithAckMessage (arrayLength : Nat) :
    Reader CheckUserInGroupWithAckMessage := do
  let userId ← readStringNotNull mp "userId"
  let groupName ← readStringNotNull mp "groupName"
  let ackId ← readInt32 mp "ackId"
  let members ← Decoder.guarded (5 ≤ arrayLength)
    (ExtensionMembers.read mp .traced {}) {}
  pure
    { userId := userId
      groupName := groupName
      ackId := ackId
      tracingId := members.tracingId }

def createGroupExistenceWithAckMessage (_arrayLength : Nat) :
    Reader CheckGroupExistenceWithAckMessage := do
  let groupName ← readStringNotNull mp "groupName"
  let ackId ← readInt32 mp "ackId"
  let members ← ExtensionMembers.read mp .traced {}
  pure
    { groupName := groupName
      ackId := ackId
      tracingId := members.tracingId }

def createCheckConnectionExistenceWithAckMessage (_arrayLength : Nat) :
    Reader CheckConnectionExistenceWithAckMessage := do
  let connectionId ← readStringNotNull mp "connectionId"
  let ackId ← readInt32 mp "ackId"
  let members ← ExtensionMembers.read mp .traced {}
  pure
    { connectionId := connectionId
      ackId := ackId
      tracingId := members.tracingId }

def createCheckUserExistenceWithAckMessage (_arrayLength : Nat) :
    Reader CheckUserExistenceWithAckMessage := do
  let userId ← readStringNotNull mp "userId"
  let ackId ← readInt32 mp "ackId"
  let members ← ExtensionMembers.read mp .traced {}
  pure
    { userId := userId
      ackId := ackId
      tracingId := members.tracingId }

def createAckMessage (arrayLength : Nat) : Reader AckMessage := do
  let ackId ← readInt32 mp "ackId"
  let status ← readInt32 mp "status"
  let message ← readString mp "message"
  let _ ← Decoder.guarded (5 ≤ arrayLength)
    (ExtensionMembers.read mp .plain {}) {}
  let payload ← Decoder.guarded (6 ≤ arrayLength) (readByteSequence mp "payload") none
  pure
    { ackId := ackId
      status := status
      message := some (message.getD "")
      payload := payload }

def createClientInvocationMessage (_arrayLength : Nat) : Reader ClientInvocationMessage := do
  let invocationId ← readStringNotNull mp "invocationId"
  let connectionId ← readStringNotNull mp "connectionId"
  let callerServerId ← readStringNotNull mp "callerServerId"
  let payloads ← readPayloads mp toUpperInvariant
  let members ← ExtensionMembers.read mp .traced {}
  pure
    { invocationId := invocationId
      connectionId := connectionId
      callerServerId := callerServerId
      payloads := some payloads
      tracingId := members.tracingId }

/-- The extension map may set the protocol again. -/
def createClientCompletionMessage (_arrayLength : Nat) : Reader ClientCompletionMessage := do
  let invocationId ← readStringNotNull mp "invocationId"
  let connectionId ← readStringNotNull mp "connectionId"
  let callerServerId ← readStringNotNull mp "callerServerId"
  let protocol ← readString mp "protocol"
  let payload ← readBytes mp "payload"
  let members ← ExtensionMembers.read mp .tracedProtocol { protocol := protocol }
  pure
    { invocationId := invocationId
      connectionId := connectionId
      callerServerId := callerServerId
      protocol := members.protocol
      payload := payload
      tracingId := members.tracingId }

def createErrorCompletionMessage (_arrayLength : Nat) : Reader ErrorCompletionMessage := do
  let invocationId ← readStringNotNull mp "invocationId"
  let connectionId ← readStringNotNull mp "connectionId"
  let callerServerId ← readStringNotNull mp "callerServerId"
  let error ← readString mp "error"
  let members ← ExtensionMembers.read mp .traced {}
  pure
    { invocationId := invocationId
      connectionId := connectionId
      callerServerId := callerServerId
      error := some (error.getD "")
      tracingId := members.tracingId }

def createServiceMappingMessage (_arrayLength : Nat) : Reader ServiceMappingMessage := do
  let invocationId ← readStringNotNull mp "invocationId"
  let connectionId ← readStringNotNull mp "connectionId"
  let instanceId ← readStringNotNull mp "instanceId"
  let _ ← ExtensionMembers.read mp .plain {}
  pure
    { invocationId := invocationId
      connectionId := connectionId
      instanceId := instanceId }

/-- The extension map the writer appends is not read: the class has no
extension members, and the frame already ends the message. -/
def createConnectionFlowControlMessage (_arrayLength : Nat) :
    Reader ConnectionFlowControlMessage := do
  let connectionId ← readStringNotNull mp "connectionId"
  let connectionType ← readInt32 mp "connectionType"
  let operation ← readInt32 mp "operation"
  match ConnectionType.ofInt32? connectionType,
      ConnectionFlowControlOperation.ofInt32? operation with
  | none, _ =>
      Decoder.fail
        (.invalidData ("Unsupported connection type: " ++ toString connectionType))
  | _, none =>
      Decoder.fail (.invalidData ("Unsupported operation: " ++ toString operation))
  | some connectionType, some operation =>
      pure
        { connectionId := connectionId
          operation := operation
          connectionType := connectionType }

/-- `reader.TryReadNil() ? null : ReadInt32(ref reader, "Top")`. -/
def readTop : Reader (Option Int32) := do
  let isNil ← mp.tryReadNil
  if isNil then pure none else some <$> readInt32 mp "Top"

def createGroupMemberQueryMessage (_arrayLength : Nat) : Reader GroupMemberQueryMessage := do
  let members ← ExtensionMembers.read mp .traced {}
  let groupName ← readStringNotNull mp "GroupName"
  let ackId ← readInt32 mp "AckId"
  let top ← readTop mp
  let continuationToken ← readString mp "ContinuationToken"
  pure
    { ackId := ackId
      groupName := groupName
      top := top
      continuationToken := continuationToken
      tracingId := members.tracingId }

/-- The `switch` of `ParseMessage`; null for a type it does not know. -/
def createMessage (arrayLength : Nat) (messageType : Int32) :
    Reader (Option ServiceMessage) :=
  match messageType with
  | handshakeRequestType =>
      (some <| .handshakeRequest ·) <$> createHandshakeRequestMessage mp arrayLength
  | handshakeResponseType =>
      (some <| .handshakeResponse ·) <$> createHandshakeResponseMessage mp arrayLength
  | accessKeyRequestType =>
      (some <| .accessKeyRequest ·) <$> createAccessKeyRequestMessage mp arrayLength
  | accessKeyResponseType =>
      (some <| .accessKeyResponse ·) <$> createAccessKeyResponseMessage mp arrayLength
  | pingMessageType =>
      (some <| .ping ·) <$> createPingMessage mp arrayLength
  | openConnectionMessageType =>
      (some <| .openConnection ·) <$> createOpenConnectionMessage mp toUpperInvariant arrayLength
  | closeConnectionMessageType =>
      (some <| .closeConnection ·) <$> createCloseConnectionMessage mp toUpperInvariant arrayLength
  | connectionDataMessageType =>
      (some <| .connectionData ·) <$> createConnectionDataMessage mp arrayLength
  | connectionReconnectMessageType =>
      (some <| .connectionReconnect ·) <$> createConnectionReconnectMessage mp arrayLength
  | multiConnectionDataMessageType =>
      (some <| .multiConnectionData ·) <$>
        createMultiConnectionDataMessage mp toUpperInvariant arrayLength
  | userDataMessageType =>
      (some <| .userData ·) <$> createUserDataMessage mp toUpperInvariant arrayLength
  | multiUserDataMessageType =>
      (some <| .multiUserData ·) <$> createMultiUserDataMessage mp toUpperInvariant arrayLength
  | broadcastDataMessageType =>
      (some <| .broadcastData ·) <$> createBroadcastDataMessage mp toUpperInvariant arrayLength
  | joinGroupMessageType =>
      (some <| .joinGroup ·) <$> createJoinGroupMessage mp arrayLength
  | leaveGroupMessageType =>
      (some <| .leaveGroup ·) <$> createLeaveGroupMessage mp arrayLength
  | userJoinGroupMessageType =>
      (some <| .userJoinGroup ·) <$> createUserJoinGroupMessage mp arrayLength
  | userLeaveGroupMessageType =>
      (some <| .userLeaveGroup ·) <$> createUserLeaveGroupMessage mp arrayLength
  | userJoinGroupWithAckMessageType =>
      (some <| .userJoinGroupWithAck ·) <$> createUserJoinGroupWithAckMessage mp arrayLength
  | userLeaveGroupWithAckMessageType =>
      (some <| .userLeaveGroupWithAck ·) <$> createUserLeaveGroupWithAckMessage mp arrayLength
  | groupBroadcastDataMessageType =>
      (some <| .groupBroadcastData ·) <$>
        createGroupBroadcastDataMessage mp toUpperInvariant arrayLength
  | multiGroupBroadcastDataMessageType =>
      (some <| .multiGroupBroadcastData ·) <$>
        createMultiGroupBroadcastDataMessage mp toUpperInvariant arrayLength
  | serviceErrorMessageType =>
      (some <| .serviceError ·) <$> createServiceErrorMessage mp
  | serviceEventMessageType =>
      (some <| .serviceEvent ·) <$> createServiceEventMessage mp
  | joinGroupWithAckMessageType =>
      (some <| .joinGroupWithAck ·) <$> createJoinGroupWithAckMessage mp arrayLength
  | leaveGroupWithAckMessageType =>
      (some <| .leaveGroupWithAck ·) <$> createLeaveGroupWithAckMessage mp arrayLength
  | checkUserInGroupWithAckMessageType =>
      (some <| .checkUserInGroupWithAck ·) <$> createCheckUserInGroupWithAckMessage mp arrayLength
  | checkGroupExistenceWithAckMessageType =>
      (some <| .checkGroupExistenceWithAck ·) <$> createGroupExistenceWithAckMessage mp arrayLength
  | checkConnectionExistenceWithAckMessageType =>
      (some <| .checkConnectionExistenceWithAck ·) <$>
        createCheckConnectionExistenceWithAckMessage mp arrayLength
  | checkUserExistenceWithAckMessageType =>
      (some <| .checkUserExistenceWithAck ·) <$>
        createCheckUserExistenceWithAckMessage mp arrayLength
  | closeConnectionsWithAckMessageType =>
      (some <| .closeConnectionsWithAck ·) <$> createCloseConnectionsWithAckMessage mp arrayLength
  | closeConnectionWithAckMessageType =>
      (some <| .closeConnectionWithAck ·) <$> createCloseConnectionWithAckMessage mp arrayLength
  | closeUserConnectionsWithAckMessageType =>
      (some <| .closeUserConnectionsWithAck ·) <$>
        createCloseUserConnectionsWithAckMessage mp arrayLength
  | closeGroupConnectionsWithAckMessageType =>
      (some <| .closeGroupConnectionsWithAck ·) <$>
        createCloseGroupConnectionsWithAckMessage mp arrayLength
  | ackMessageType =>
      (some <| .ack ·) <$> createAckMessage mp arrayLength
  | clientInvocationMessageType =>
      (some <| .clientInvocation ·) <$>
        createClientInvocationMessage mp toUpperInvariant arrayLength
  | clientCompletionMessageType =>
      (some <| .clientCompletion ·) <$> createClientCompletionMessage mp arrayLength
  | errorCompletionMessageType =>
      (some <| .errorCompletion ·) <$> createErrorCompletionMessage mp arrayLength
  | serviceMappingMessageType =>
      (some <| .serviceMapping ·) <$> createServiceMappingMessage mp arrayLength
  | connectionFlowControlMessageType =>
      (some <| .connectionFlowControl ·) <$> createConnectionFlowControlMessage mp arrayLength
  | groupMemberQueryMessageType =>
      (some <| .groupMemberQuery ·) <$> createGroupMemberQueryMessage mp arrayLength
  | _ => pure none

def parseMessage : Reader (Option ServiceMessage) := do
  let arrayLength ← mp.readArrayHeader
  let messageType ← mp.readInt32
  createMessage mp toUpperInvariant arrayLength messageType

/-- `TryParseMessage(ref input, out message)`: `none` when it returns false,
otherwise the message (null for an unknown type) and the advanced input. The
first component of an exception is the input as the caller then sees it: the
frame is taken off before its body is parsed. -/
def tryParseMessage (input : Bytes) :
    Except (Bytes × Exn) (Option (Option ServiceMessage × Bytes)) :=
  match BinaryMessage.tryParseMessage input with
  | .error error => .error (input, error)
  | .ok none => .ok none
  | .ok (some (payload, rest)) =>
      match (parseMessage mp toUpperInvariant).run payload with
      | .error error => .error (rest, error)
      | .ok (message, _) => .ok (some (message, rest))

/-- `WriteMessage`: the length of the encoded message, then the message. -/
def writeMessage (message : ServiceMessage) : Except Exn Bytes := do
  let body := mp.encode (writeMessageCore message)
  let lengthPrefix ←
    BinaryMessage.writeLengthPrefix body.length BinaryMessage.maxLengthPrefixSize
  pure (lengthPrefix ++ body)

end Readers

end AzureSignalR.Protocol
