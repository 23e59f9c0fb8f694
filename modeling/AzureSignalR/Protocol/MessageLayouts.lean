import AzureSignalR.Library.Layout
import AzureSignalR.Protocol.ServiceProtocol

/-!
Contract: the message encodings of the protocol specification.

Owns: the members of each message in the order they are written, which of them
are optional (the ones the specification marks with a question mark) and the
values of the optional ones when they are cut off.

Does not own: the readers. A ping has no layout: the number of its messages is
the length of its array.
-/

set_option autoImplicit false

namespace AzureSignalR.Protocol

open Library ServiceProtocolConstants

section Layouts

variable (mp : MessagePack) (toUpperInvariant : Char → Char)

def handshakeRequestLayout : Layout UInt8 Exn HandshakeRequestMessage :=
  .required (readInt32 mp "version") fun version =>
  .required (readInt32 mp "connectionType") fun connectionType =>
  .required (readString mp "target") fun target =>
  .optional (readInt32 mp "migratableStatus") 0 fun migrationLevel =>
  .optional (ExtensionMembers.read mp .plain {}) {} fun _ =>
  .optional (readBoolean mp "enableStatefulReconnects") false fun allowStatefulReconnects =>
  .done (.ok
    { version := version
      connectionType := connectionType
      target := target
      migrationLevel := migrationLevel
      allowStatefulReconnects := allowStatefulReconnects })

def handshakeResponseLayout : Layout UInt8 Exn HandshakeResponseMessage :=
  .required (readString mp "errorMessage") fun errorMessage =>
  .optional (ExtensionMembers.read mp .plain {}) {} fun _ =>
  .optional (readString mp "connectionId") none fun connectionId =>
  .done (.ok { errorMessage := errorMessage, connectionId := connectionId })

def accessKeyRequestLayout : Layout UInt8 Exn AccessKeyRequestMessage :=
  .required (readString mp "token") fun token =>
  .required (readString mp "kid") fun kid =>
  .required (ExtensionMembers.read mp .plain {}) fun _ =>
  .done (.ok { token := token, kid := kid })

def accessKeyResponseLayout : Layout UInt8 Exn AccessKeyResponseMessage :=
  .required (readString mp "kid") fun kid =>
  .required (readString mp "accessKey") fun accessKey =>
  .required (readString mp "errorType") fun errorType =>
  .required (readString mp "errorMessage") fun errorMessage =>
  .required (ExtensionMembers.read mp .plain {}) fun _ =>
  .done (.ok
    { kid := kid
      accessKey := accessKey
      errorType := errorType
      errorMessage := errorMessage })

/-- The query string stands between the headers and the extension members. -/
def openConnectionLayout : Layout UInt8 Exn OpenConnectionMessage :=
  .required (readStringNotNull mp "connectionId") fun connectionId =>
  .required (readClaims mp) fun claims =>
  .optional (readHeaders mp toUpperInvariant) [] fun headers =>
  .optional (readString mp "queryString") (some "") fun queryString =>
  .optional (ExtensionMembers.read mp .tracedProtocol {}) {} fun members =>
  .done (.ok
    { connectionId := connectionId
      claims := some claims
      headers := some headers
      queryString := queryString
      protocol := members.protocol
      tracingId := members.tracingId })

def closeConnectionLayout : Layout UInt8 Exn CloseConnectionMessage :=
  .required (readStringNotNull mp "connectionId") fun connectionId =>
  .required (readString mp "errorMessage") fun errorMessage =>
  .optional (readHeaders mp toUpperInvariant) [] fun headers =>
  .optional (ExtensionMembers.read mp .traced {}) {} fun members =>
  .done (.ok
    { connectionId := connectionId
      errorMessage := some (errorMessage.getD "")
      headers := some headers
      tracingId := members.tracingId })

def closeConnectionWithAckLayout : Layout UInt8 Exn CloseConnectionWithAckMessage :=
  .required (readStringNotNull mp "connectionId") fun connectionId =>
  .required (readString mp "reason") fun reason =>
  .required (readInt32 mp "ackId") fun ackId =>
  .optional (ExtensionMembers.read mp .traced {}) {} fun members =>
  .done (.ok
    { connectionId := connectionId
      reason := reason
      ackId := ackId
      tracingId := members.tracingId })

def closeConnectionsWithAckLayout : Layout UInt8 Exn CloseConnectionsWithAckMessage :=
  .required (readString mp "reason") fun reason =>
  .required (readInt32 mp "ackId") fun ackId =>
  .required (readStringArray mp "excluded") fun excluded =>
  .optional (ExtensionMembers.read mp .traced {}) {} fun members =>
  .done (.ok
    { reason := reason
      ackId := ackId
      excludedList := some excluded
      tracingId := members.tracingId })

def closeUserConnectionsWithAckLayout : Layout UInt8 Exn CloseUserConnectionsWithAckMessage :=
  .required (readStringNotNull mp "userId") fun userId =>
  .required (readString mp "reason") fun reason =>
  .required (readInt32 mp "ackId") fun ackId =>
  .required (readStringArray mp "excluded") fun excluded =>
  .optional (ExtensionMembers.read mp .traced {}) {} fun members =>
  .done (.ok
    { userId := userId
      reason := reason
      ackId := ackId
      excludedList := some excluded
      tracingId := members.tracingId })

def closeGroupConnectionsWithAckLayout : Layout UInt8 Exn CloseGroupConnectionsWithAckMessage :=
  .required (readStringNotNull mp "group") fun group =>
  .required (readString mp "reason") fun reason =>
  .required (readInt32 mp "ackId") fun ackId =>
  .required (readStringArray mp "excluded") fun excluded =>
  .optional (ExtensionMembers.read mp .traced {}) {} fun members =>
  .done (.ok
    { groupName := group
      reason := reason
      ackId := ackId
      excludedList := some excluded
      tracingId := members.tracingId })

def connectionDataLayout : Layout UInt8 Exn ConnectionDataMessage :=
  .required (readStringNotNull mp "connectionId") fun connectionId =>
  .required (readBytes mp "payload") fun payload =>
  .optional (ExtensionMembers.read mp .connectionData {}) {} fun members =>
  .done (.ok
    { connectionId := connectionId
      payload := payload
      tracingId := members.tracingId
      type := members.dataMessageType
      isPartial := members.isPartial })

def connectionReconnectLayout : Layout UInt8 Exn ConnectionReconnectMessage :=
  .required (readStringNotNull mp "connectionId") fun connectionId =>
  .required (ExtensionMembers.read mp .plain {}) fun _ =>
  .done (.ok { connectionId := connectionId })

def multiConnectionDataLayout : Layout UInt8 Exn MultiConnectionDataMessage :=
  .required (readStringArray mp "connectionList") fun connectionList =>
  .required (readPayloads mp toUpperInvariant) fun payloads =>
  .optional (ExtensionMembers.read mp .multicast {}) {} fun members =>
  .done (.ok
    { connectionList := some connectionList
      payloads := some payloads
      tracingId := members.tracingId
      filter := members.filter })

def userDataLayout : Layout UInt8 Exn UserDataMessage :=
  .required (readStringNotNull mp "userId") fun userId =>
  .required (readPayloads mp toUpperInvariant) fun payloads =>
  .optional (ExtensionMembers.read mp .multicast {}) {} fun members =>
  .done (.ok
    { userId := userId
      payloads := some payloads
      tracingId := members.tracingId
      filter := members.filter })

def multiUserDataLayout : Layout UInt8 Exn MultiUserDataMessage :=
  .required (readStringArray mp "userList") fun userList =>
  .required (readPayloads mp toUpperInvariant) fun payloads =>
  .optional (ExtensionMembers.read mp .multicast {}) {} fun members =>
  .done (.ok
    { userList := some userList
      payloads := some payloads
      tracingId := members.tracingId
      filter := members.filter })

def broadcastDataLayout : Layout UInt8 Exn BroadcastDataMessage :=
  .required (readStringArray mp "excludedList") fun excludedList =>
  .required (readPayloads mp toUpperInvariant) fun payloads =>
  .optional (ExtensionMembers.read mp .multicast {}) {} fun members =>
  .done (.ok
    { excludedList := some excludedList
      payloads := some payloads
      tracingId := members.tracingId
      filter := members.filter })

def joinGroupLayout : Layout UInt8 Exn JoinGroupMessage :=
  .required (readStringNotNull mp "connectionId") fun connectionId =>
  .required (readStringNotNull mp "groupName") fun groupName =>
  .optional (ExtensionMembers.read mp .traced {}) {} fun members =>
  .done (.ok
    { connectionId := connectionId
      groupName := groupName
      tracingId := members.tracingId })

def leaveGroupLayout : Layout UInt8 Exn LeaveGroupMessage :=
  .required (readStringNotNull mp "connectionId") fun connectionId =>
  .required (readString mp "groupName") fun groupName =>
  .optional (ExtensionMembers.read mp .traced {}) {} fun members =>
  .done (.ok
    { connectionId := connectionId
      groupName := groupName
      tracingId := members.tracingId })

def userJoinGroupLayout : Layout UInt8 Exn UserJoinGroupMessage :=
  .required (readStringNotNull mp "userId") fun userId =>
  .required (readStringNotNull mp "groupName") fun groupName =>
  .optional (ExtensionMembers.read mp .tracedTtl {}) {} fun members =>
  .done (.ok
    { userId := userId
      groupName := groupName
      tracingId := members.tracingId
      ttl := members.ttl })

def userLeaveGroupLayout : Layout UInt8 Exn UserLeaveGroupMessage :=
  .required (readStringNotNull mp "userId") fun userId =>
  .required (readString mp "groupName") fun groupName =>
  .optional (ExtensionMembers.read mp .traced {}) {} fun members =>
  .done (.ok
    { userId := userId
      groupName := groupName
      tracingId := members.tracingId })

def userJoinGroupWithAckLayout : Layout UInt8 Exn UserJoinGroupWithAckMessage :=
  .required (readStringNotNull mp "userId") fun userId =>
  .required (readStringNotNull mp "groupName") fun groupName =>
  .required (readInt32 mp "ackId") fun ackId =>
  .required (ExtensionMembers.read mp .tracedTtl {}) fun members =>
  .done (.ok
    { userId := userId
      groupName := groupName
      ackId := ackId
      tracingId := members.tracingId
      ttl := members.ttl })

def userLeaveGroupWithAckLayout : Layout UInt8 Exn UserLeaveGroupWithAckMessage :=
  .required (readStringNotNull mp "userId") fun userId =>
  .required (readString mp "groupName") fun groupName =>
  .required (readInt32 mp "ackId") fun ackId =>
  .required (ExtensionMembers.read mp .traced {}) fun members =>
  .done (.ok
    { userId := userId
      groupName := groupName
      ackId := ackId
      tracingId := members.tracingId })

def groupBroadcastDataLayout : Layout UInt8 Exn GroupBroadcastDataMessage :=
  .required (readStringNotNull mp "groupName") fun groupName =>
  .required (readStringArray mp "excludedList") fun excludedList =>
  .required (readPayloads mp toUpperInvariant) fun payloads =>
  .optional (ExtensionMembers.read mp .multicast {}) {} fun members =>
  .optional (readStringArray mp "excludedUserList") [] fun excludedUserList =>
  .optional (readString mp "callerUserId") none fun callerUserId =>
  .done (.ok
    { groupName := groupName
      excludedList := some excludedList
      payloads := some payloads
      excludedUserList := some excludedUserList
      callerUserId := callerUserId
      tracingId := members.tracingId
      filter := members.filter })

def multiGroupBroadcastDataLayout : Layout UInt8 Exn MultiGroupBroadcastDataMessage :=
  .required (readStringArray mp "groupList") fun groupList =>
  .required (readPayloads mp toUpperInvariant) fun payloads =>
  .optional (ExtensionMembers.read mp .multicast {}) {} fun members =>
  .done (.ok
    { groupList := some groupList
      payloads := some payloads
      tracingId := members.tracingId
      filter := members.filter })

def serviceErrorLayout : Layout UInt8 Exn ServiceErrorMessage :=
  .required (readString mp "errorMessage") fun errorMessage =>
  .done (.ok { errorMessage := some (errorMessage.getD "") })

def serviceEventLayout : Layout UInt8 Exn ServiceEventMessage :=
  .required (readInt32 mp "type") fun type =>
  .required (readString mp "id") fun id =>
  .required (readInt32 mp "kind") fun kind =>
  .required (readString mp "message") fun message =>
  .optional (ExtensionMembers.read mp .plain {}) {} fun _ =>
  .done (.ok
    { type := ⟨type⟩
      id := id
      kind := ⟨kind⟩
      message := some (message.getD "") })

def joinGroupWithAckLayout : Layout UInt8 Exn JoinGroupWithAckMessage :=
  .required (readStringNotNull mp "connectionId") fun connectionId =>
  .required (readStringNotNull mp "groupName") fun groupName =>
  .required (readInt32 mp "ackId") fun ackId =>
  .optional (ExtensionMembers.read mp .traced {}) {} fun members =>
  .done (.ok
    { connectionId := connectionId
      groupName := groupName
      ackId := ackId
      tracingId := members.tracingId })

def leaveGroupWithAckLayout : Layout UInt8 Exn LeaveGroupWithAckMessage :=
  .required (readStringNotNull mp "connectionId") fun connectionId =>
  .required (readString mp "groupName") fun groupName =>
  .required (readInt32 mp "ackId") fun ackId =>
  .optional (ExtensionMembers.read mp .traced {}) {} fun members =>
  .done (.ok
    { connectionId := connectionId
      groupName := groupName
      ackId := ackId
      tracingId := members.tracingId })

def checkUserInGroupWithAckLayout : Layout UInt8 Exn CheckUserInGroupWithAckMessage :=
  .required (readStringNotNull mp "userId") fun userId =>
  .required (readStringNotNull mp "groupName") fun groupName =>
  .required (readInt32 mp "ackId") fun ackId =>
  .optional (ExtensionMembers.read mp .traced {}) {} fun members =>
  .done (.ok
    { userId := userId
      groupName := groupName
      ackId := ackId
      tracingId := members.tracingId })

def checkGroupExistenceWithAckLayout : Layout UInt8 Exn CheckGroupExistenceWithAckMessage :=
  .required (readStringNotNull mp "groupName") fun groupName =>
  .required (readInt32 mp "ackId") fun ackId =>
  .required (ExtensionMembers.read mp .traced {}) fun members =>
  .done (.ok
    { groupName := groupName
      ackId := ackId
      tracingId := members.tracingId })

def checkConnectionExistenceWithAckLayout :
    Layout UInt8 Exn CheckConnectionExistenceWithAckMessage :=
  .required (readStringNotNull mp "connectionId") fun connectionId =>
  .required (readInt32 mp "ackId") fun ackId =>
  .required (ExtensionMembers.read mp .traced {}) fun members =>
  .done (.ok
    { connectionId := connectionId
      ackId := ackId
      tracingId := members.tracingId })

def checkUserExistenceWithAckLayout : Layout UInt8 Exn CheckUserExistenceWithAckMessage :=
  .required (readStringNotNull mp "userId") fun userId =>
  .required (readInt32 mp "ackId") fun ackId =>
  .required (ExtensionMembers.read mp .traced {}) fun members =>
  .done (.ok
    { userId := userId
      ackId := ackId
      tracingId := members.tracingId })

def ackLayout : Layout UInt8 Exn AckMessage :=
  .required (readInt32 mp "ackId") fun ackId =>
  .required (readInt32 mp "status") fun status =>
  .required (readString mp "message") fun message =>
  .optional (ExtensionMembers.read mp .plain {}) {} fun _ =>
  .optional (readByteSequence mp "payload") none fun payload =>
  .done (.ok
    { ackId := ackId
      status := status
      message := some (message.getD "")
      payload := payload })

def clientInvocationLayout : Layout UInt8 Exn ClientInvocationMessage :=
  .required (readStringNotNull mp "invocationId") fun invocationId =>
  .required (readStringNotNull mp "connectionId") fun connectionId =>
  .required (readStringNotNull mp "callerServerId") fun callerServerId =>
  .required (readPayloads mp toUpperInvariant) fun payloads =>
  .required (ExtensionMembers.read mp .traced {}) fun members =>
  .done (.ok
    { invocationId := invocationId
      connectionId := connectionId
      callerServerId := callerServerId
      payloads := some payloads
      tracingId := members.tracingId })

def clientCompletionLayout : Layout UInt8 Exn ClientCompletionMessage :=
  .required (readStringNotNull mp "invocationId") fun invocationId =>
  .required (readStringNotNull mp "connectionId") fun connectionId =>
  .required (readStringNotNull mp "callerServerId") fun callerServerId =>
  .required (readString mp "protocol") fun protocol =>
  .required (readBytes mp "payload") fun payload =>
  .required (ExtensionMembers.read mp .tracedProtocol { protocol := protocol }) fun members =>
  .done (.ok
    { invocationId := invocationId
      connectionId := connectionId
      callerServerId := callerServerId
      protocol := members.protocol
      payload := payload
      tracingId := members.tracingId })

def errorCompletionLayout : Layout UInt8 Exn ErrorCompletionMessage :=
  .required (readStringNotNull mp "invocationId") fun invocationId =>
  .required (readStringNotNull mp "connectionId") fun connectionId =>
  .required (readStringNotNull mp "callerServerId") fun callerServerId =>
  .required (readString mp "error") fun error =>
  .required (ExtensionMembers.read mp .traced {}) fun members =>
  .done (.ok
    { invocationId := invocationId
      connectionId := connectionId
      callerServerId := callerServerId
      error := some (error.getD "")
      tracingId := members.tracingId })

def serviceMappingLayout : Layout UInt8 Exn ServiceMappingMessage :=
  .required (readStringNotNull mp "invocationId") fun invocationId =>
  .required (readStringNotNull mp "connectionId") fun connectionId =>
  .required (readStringNotNull mp "instanceId") fun instanceId =>
  .required (ExtensionMembers.read mp .plain {}) fun _ =>
  .done (.ok
    { invocationId := invocationId
      connectionId := connectionId
      instanceId := instanceId })

/-- The types and operations are enumerations; another number is no encoding. -/
def connectionFlowControlLayout : Layout UInt8 Exn ConnectionFlowControlMessage :=
  .required (readStringNotNull mp "connectionId") fun connectionId =>
  .required (readInt32 mp "connectionType") fun connectionType =>
  .required (readInt32 mp "operation") fun operation =>
  .done
    (match ConnectionType.ofInt32? connectionType,
        ConnectionFlowControlOperation.ofInt32? operation with
      | none, _ =>
          .error (.invalidData ("Unsupported connection type: " ++ toString connectionType))
      | _, none => .error (.invalidData ("Unsupported operation: " ++ toString operation))
      | some connectionType, some operation =>
          .ok
            { connectionId := connectionId
              operation := operation
              connectionType := connectionType })

def groupMemberQueryLayout : Layout UInt8 Exn GroupMemberQueryMessage :=
  .required (ExtensionMembers.read mp .traced {}) fun members =>
  .required (readStringNotNull mp "GroupName") fun groupName =>
  .required (readInt32 mp "AckId") fun ackId =>
  .required (readTop mp) fun top =>
  .required (readString mp "ContinuationToken") fun continuationToken =>
  .done (.ok
    { ackId := ackId
      groupName := groupName
      top := top
      continuationToken := continuationToken
      tracingId := members.tracingId })

/-- The layout of each message type but the ping. -/
def messageLayout : Int32 → Option (Layout UInt8 Exn ServiceMessage)
  | handshakeRequestType => some ((handshakeRequestLayout mp).map .handshakeRequest)
  | handshakeResponseType => some ((handshakeResponseLayout mp).map .handshakeResponse)
  | accessKeyRequestType => some ((accessKeyRequestLayout mp).map .accessKeyRequest)
  | accessKeyResponseType => some ((accessKeyResponseLayout mp).map .accessKeyResponse)
  | openConnectionMessageType =>
      some ((openConnectionLayout mp toUpperInvariant).map .openConnection)
  | closeConnectionMessageType =>
      some ((closeConnectionLayout mp toUpperInvariant).map .closeConnection)
  | connectionDataMessageType => some ((connectionDataLayout mp).map .connectionData)
  | connectionReconnectMessageType => some ((connectionReconnectLayout mp).map .connectionReconnect)
  | multiConnectionDataMessageType =>
      some ((multiConnectionDataLayout mp toUpperInvariant).map .multiConnectionData)
  | userDataMessageType => some ((userDataLayout mp toUpperInvariant).map .userData)
  | multiUserDataMessageType => some ((multiUserDataLayout mp toUpperInvariant).map .multiUserData)
  | broadcastDataMessageType => some ((broadcastDataLayout mp toUpperInvariant).map .broadcastData)
  | joinGroupMessageType => some ((joinGroupLayout mp).map .joinGroup)
  | leaveGroupMessageType => some ((leaveGroupLayout mp).map .leaveGroup)
  | userJoinGroupMessageType => some ((userJoinGroupLayout mp).map .userJoinGroup)
  | userLeaveGroupMessageType => some ((userLeaveGroupLayout mp).map .userLeaveGroup)
  | userJoinGroupWithAckMessageType =>
      some ((userJoinGroupWithAckLayout mp).map .userJoinGroupWithAck)
  | userLeaveGroupWithAckMessageType =>
      some ((userLeaveGroupWithAckLayout mp).map .userLeaveGroupWithAck)
  | groupBroadcastDataMessageType =>
      some ((groupBroadcastDataLayout mp toUpperInvariant).map .groupBroadcastData)
  | multiGroupBroadcastDataMessageType =>
      some ((multiGroupBroadcastDataLayout mp toUpperInvariant).map .multiGroupBroadcastData)
  | serviceErrorMessageType => some ((serviceErrorLayout mp).map .serviceError)
  | serviceEventMessageType => some ((serviceEventLayout mp).map .serviceEvent)
  | joinGroupWithAckMessageType => some ((joinGroupWithAckLayout mp).map .joinGroupWithAck)
  | leaveGroupWithAckMessageType => some ((leaveGroupWithAckLayout mp).map .leaveGroupWithAck)
  | checkUserInGroupWithAckMessageType =>
      some ((checkUserInGroupWithAckLayout mp).map .checkUserInGroupWithAck)
  | checkGroupExistenceWithAckMessageType =>
      some ((checkGroupExistenceWithAckLayout mp).map .checkGroupExistenceWithAck)
  | checkConnectionExistenceWithAckMessageType =>
      some ((checkConnectionExistenceWithAckLayout mp).map .checkConnectionExistenceWithAck)
  | checkUserExistenceWithAckMessageType =>
      some ((checkUserExistenceWithAckLayout mp).map .checkUserExistenceWithAck)
  | closeConnectionsWithAckMessageType =>
      some ((closeConnectionsWithAckLayout mp).map .closeConnectionsWithAck)
  | closeConnectionWithAckMessageType =>
      some ((closeConnectionWithAckLayout mp).map .closeConnectionWithAck)
  | closeUserConnectionsWithAckMessageType =>
      some ((closeUserConnectionsWithAckLayout mp).map .closeUserConnectionsWithAck)
  | closeGroupConnectionsWithAckMessageType =>
      some ((closeGroupConnectionsWithAckLayout mp).map .closeGroupConnectionsWithAck)
  | ackMessageType => some ((ackLayout mp).map .ack)
  | clientInvocationMessageType =>
      some ((clientInvocationLayout mp toUpperInvariant).map .clientInvocation)
  | clientCompletionMessageType => some ((clientCompletionLayout mp).map .clientCompletion)
  | errorCompletionMessageType => some ((errorCompletionLayout mp).map .errorCompletion)
  | serviceMappingMessageType => some ((serviceMappingLayout mp).map .serviceMapping)
  | connectionFlowControlMessageType =>
      some ((connectionFlowControlLayout mp).map .connectionFlowControl)
  | groupMemberQueryMessageType => some ((groupMemberQueryLayout mp).map .groupMemberQuery)
  | _ => none

end Layouts

end AzureSignalR.Protocol
