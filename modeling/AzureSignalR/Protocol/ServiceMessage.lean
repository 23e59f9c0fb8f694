import AzureSignalR.Common.BinaryMessage

/-!
Contract: the messages exchanged with the service.

Owns: one record per message class of the protocol, the extension members a
class can carry, and the sum of all message types.

A reference the C# type annotations allow to be null, or that the writers
test for null, is an `Option`. Strings and list elements the readers require
are plain values. A dictionary is the list of its entries in enumeration
order. The partition key of a message is not part of its encoding and is left
out.
-/

set_option autoImplicit false

namespace AzureSignalR.Protocol

/-! ## Enumerations

An enumeration the readers cast from an `int` without a check is the `int`
with names for some values. The two flow-control enumerations are checked by
their reader and are closed. -/

structure DataMessageType where
  value : Int32
deriving DecidableEq, Repr

namespace DataMessageType

def unknown : DataMessageType := ⟨0⟩
def handshake : DataMessageType := ⟨1⟩
def invocation : DataMessageType := ⟨2⟩
def other : DataMessageType := ⟨3⟩
def close : DataMessageType := ⟨4⟩

end DataMessageType

structure ServiceEventObjectType where
  value : Int32
deriving DecidableEq, Repr

structure ServiceEventKind where
  value : Int32
deriving DecidableEq, Repr

inductive ConnectionFlowControlOperation where
  | pause
  | pauseAck
  | resume
  | offline
deriving DecidableEq, Repr

namespace ConnectionFlowControlOperation

def toInt32 : ConnectionFlowControlOperation → Int32
  | pause => 1
  | pauseAck => 2
  | resume => 3
  | offline => 4

/-- The `switch` over the defined values. -/
def ofInt32? (value : Int32) : Option ConnectionFlowControlOperation :=
  if value = 1 then some pause
  else if value = 2 then some pauseAck
  else if value = 3 then some resume
  else if value = 4 then some offline
  else none

theorem ofInt32?_toInt32 (operation : ConnectionFlowControlOperation) :
    ofInt32? operation.toInt32 = some operation := by
  cases operation <;> rfl

end ConnectionFlowControlOperation

inductive ConnectionType where
  | client
  | server
deriving DecidableEq, Repr

namespace ConnectionType

def toInt32 : ConnectionType → Int32
  | client => 1
  | server => 2

def ofInt32? (value : Int32) : Option ConnectionType :=
  if value = 1 then some client
  else if value = 2 then some server
  else none

theorem ofInt32?_toInt32 (connectionType : ConnectionType) :
    ofInt32? connectionType.toInt32 = some connectionType := by
  cases connectionType <;> rfl

end ConnectionType

/-! ## Field types -/

/-- The two parts of a `Claim` the protocol carries. -/
structure Claim where
  type : String
  value : String
deriving DecidableEq, Repr

abbrev StringValues := List (Option String)

abbrev Headers := List (String × StringValues)

abbrev Payloads := List (String × Bytes)

/-- The members of the extension map. A message class supports some of them;
the others keep their default. -/
@[ext]
structure ExtensionMembers where
  tracingId : Option UInt64 := none
  ttl : Option Int32 := none
  protocol : Option String := none
  filter : Option String := none
  dataMessageType : DataMessageType := .unknown
  isPartial : Bool := false
deriving DecidableEq, Repr

/-- Which of the extension interfaces a message class implements. -/
structure ExtensionSupport where
  tracingId : Bool := false
  ttl : Bool := false
  protocol : Bool := false
  filter : Bool := false
  dataMessageType : Bool := false
  isPartial : Bool := false
deriving DecidableEq, Repr

/-! ## Messages -/

structure HandshakeRequestMessage where
  version : Int32
  connectionType : Int32 := 0
  target : Option String := none
  migrationLevel : Int32 := 0
  allowStatefulReconnects : Bool := false
deriving DecidableEq, Repr

structure HandshakeResponseMessage where
  errorMessage : Option String
  connectionId : Option String := none
deriving DecidableEq, Repr

structure AccessKeyRequestMessage where
  token : Option String
  kid : Option String
deriving DecidableEq, Repr

structure AccessKeyResponseMessage where
  kid : Option String
  accessKey : Option String
  errorType : Option String
  errorMessage : Option String
deriving DecidableEq, Repr

structure PingMessage where
  messages : List (Option String)
deriving DecidableEq, Repr

structure OpenConnectionMessage where
  connectionId : String
  claims : Option (List Claim)
  headers : Option Headers
  queryString : Option String
  protocol : Option String := none
  tracingId : Option UInt64 := none
deriving DecidableEq, Repr

structure CloseConnectionMessage where
  connectionId : String
  errorMessage : Option String
  headers : Option Headers
  tracingId : Option UInt64 := none
deriving DecidableEq, Repr

structure CloseConnectionWithAckMessage where
  connectionId : String
  reason : Option String
  ackId : Int32
  tracingId : Option UInt64 := none
deriving DecidableEq, Repr

structure CloseConnectionsWithAckMessage where
  reason : Option String
  ackId : Int32
  excludedList : Option (List String)
  tracingId : Option UInt64 := none
deriving DecidableEq, Repr

structure CloseUserConnectionsWithAckMessage where
  userId : String
  reason : Option String
  ackId : Int32
  excludedList : Option (List String)
  tracingId : Option UInt64 := none
deriving DecidableEq, Repr

structure CloseGroupConnectionsWithAckMessage where
  groupName : String
  reason : Option String
  ackId : Int32
  excludedList : Option (List String)
  tracingId : Option UInt64 := none
deriving DecidableEq, Repr

structure ConnectionDataMessage where
  connectionId : String
  payload : Bytes
  tracingId : Option UInt64 := none
  type : DataMessageType := .unknown
  isPartial : Bool := false
deriving DecidableEq, Repr

structure ConnectionReconnectMessage where
  connectionId : String
deriving DecidableEq, Repr

structure MultiConnectionDataMessage where
  connectionList : Option (List String)
  payloads : Option Payloads
  tracingId : Option UInt64 := none
  filter : Option String := none
deriving DecidableEq, Repr

structure UserDataMessage where
  userId : String
  payloads : Option Payloads
  tracingId : Option UInt64 := none
  filter : Option String := none
deriving DecidableEq, Repr

structure MultiUserDataMessage where
  userList : Option (List String)
  payloads : Option Payloads
  tracingId : Option UInt64 := none
  filter : Option String := none
deriving DecidableEq, Repr

structure BroadcastDataMessage where
  excludedList : Option (List String)
  payloads : Option Payloads
  tracingId : Option UInt64 := none
  filter : Option String := none
deriving DecidableEq, Repr

structure JoinGroupMessage where
  connectionId : String
  groupName : String
  tracingId : Option UInt64 := none
deriving DecidableEq, Repr

structure LeaveGroupMessage where
  connectionId : String
  groupName : Option String
  tracingId : Option UInt64 := none
deriving DecidableEq, Repr

structure UserJoinGroupMessage where
  userId : String
  groupName : String
  tracingId : Option UInt64 := none
  ttl : Option Int32 := none
deriving DecidableEq, Repr

structure UserLeaveGroupMessage where
  userId : String
  groupName : Option String
  tracingId : Option UInt64 := none
deriving DecidableEq, Repr

structure UserJoinGroupWithAckMessage where
  userId : String
  groupName : String
  ackId : Int32
  tracingId : Option UInt64 := none
  ttl : Option Int32 := none
deriving DecidableEq, Repr

structure UserLeaveGroupWithAckMessage where
  userId : String
  groupName : Option String
  ackId : Int32
  tracingId : Option UInt64 := none
deriving DecidableEq, Repr

structure GroupBroadcastDataMessage where
  groupName : String
  excludedList : Option (List String)
  payloads : Option Payloads
  excludedUserList : Option (List String) := some []
  callerUserId : Option String := none
  tracingId : Option UInt64 := none
  filter : Option String := none
deriving DecidableEq, Repr

structure MultiGroupBroadcastDataMessage where
  groupList : Option (List String)
  payloads : Option Payloads
  tracingId : Option UInt64 := none
  filter : Option String := none
deriving DecidableEq, Repr

structure ServiceErrorMessage where
  errorMessage : Option String
deriving DecidableEq, Repr

structure ServiceEventMessage where
  type : ServiceEventObjectType
  id : Option String
  kind : ServiceEventKind
  message : Option String
deriving DecidableEq, Repr

structure JoinGroupWithAckMessage where
  connectionId : String
  groupName : String
  ackId : Int32
  tracingId : Option UInt64 := none
deriving DecidableEq, Repr

structure LeaveGroupWithAckMessage where
  connectionId : String
  groupName : Option String
  ackId : Int32
  tracingId : Option UInt64 := none
deriving DecidableEq, Repr

structure CheckUserInGroupWithAckMessage where
  userId : String
  groupName : String
  ackId : Int32
  tracingId : Option UInt64 := none
deriving DecidableEq, Repr

structure CheckGroupExistenceWithAckMessage where
  groupName : String
  ackId : Int32
  tracingId : Option UInt64 := none
deriving DecidableEq, Repr

structure CheckConnectionExistenceWithAckMessage where
  connectionId : String
  ackId : Int32
  tracingId : Option UInt64 := none
deriving DecidableEq, Repr

structure CheckUserExistenceWithAckMessage where
  userId : String
  ackId : Int32
  tracingId : Option UInt64 := none
deriving DecidableEq, Repr

structure AckMessage where
  ackId : Int32
  status : Int32
  message : Option String
  payload : Option Bytes := none
deriving DecidableEq, Repr

structure ClientInvocationMessage where
  invocationId : String
  connectionId : String
  callerServerId : String
  payloads : Option Payloads
  tracingId : Option UInt64 := none
deriving DecidableEq, Repr

structure ClientCompletionMessage where
  invocationId : String
  connectionId : String
  callerServerId : String
  protocol : Option String
  payload : Bytes
  tracingId : Option UInt64 := none
deriving DecidableEq, Repr

structure ErrorCompletionMessage where
  invocationId : String
  connectionId : String
  callerServerId : String
  error : Option String
  tracingId : Option UInt64 := none
deriving DecidableEq, Repr

structure ServiceMappingMessage where
  invocationId : String
  connectionId : String
  instanceId : String
deriving DecidableEq, Repr

structure ConnectionFlowControlMessage where
  connectionId : String
  operation : ConnectionFlowControlOperation
  connectionType : ConnectionType := .client
deriving DecidableEq, Repr

structure GroupMemberQueryMessage where
  ackId : Int32
  groupName : String
  top : Option Int32
  continuationToken : Option String
  tracingId : Option UInt64 := none
deriving DecidableEq, Repr

/-- The message classes `WriteMessageCore` handles. -/
inductive ServiceMessage where
  | handshakeRequest (message : HandshakeRequestMessage)
  | handshakeResponse (message : HandshakeResponseMessage)
  | accessKeyRequest (message : AccessKeyRequestMessage)
  | accessKeyResponse (message : AccessKeyResponseMessage)
  | ping (message : PingMessage)
  | openConnection (message : OpenConnectionMessage)
  | closeConnection (message : CloseConnectionMessage)
  | closeConnectionWithAck (message : CloseConnectionWithAckMessage)
  | closeConnectionsWithAck (message : CloseConnectionsWithAckMessage)
  | closeUserConnectionsWithAck (message : CloseUserConnectionsWithAckMessage)
  | closeGroupConnectionsWithAck (message : CloseGroupConnectionsWithAckMessage)
  | connectionData (message : ConnectionDataMessage)
  | connectionReconnect (message : ConnectionReconnectMessage)
  | multiConnectionData (message : MultiConnectionDataMessage)
  | userData (message : UserDataMessage)
  | multiUserData (message : MultiUserDataMessage)
  | broadcastData (message : BroadcastDataMessage)
  | joinGroup (message : JoinGroupMessage)
  | leaveGroup (message : LeaveGroupMessage)
  | userJoinGroup (message : UserJoinGroupMessage)
  | userLeaveGroup (message : UserLeaveGroupMessage)
  | userJoinGroupWithAck (message : UserJoinGroupWithAckMessage)
  | userLeaveGroupWithAck (message : UserLeaveGroupWithAckMessage)
  | groupBroadcastData (message : GroupBroadcastDataMessage)
  | multiGroupBroadcastData (message : MultiGroupBroadcastDataMessage)
  | serviceError (message : ServiceErrorMessage)
  | serviceEvent (message : ServiceEventMessage)
  | joinGroupWithAck (message : JoinGroupWithAckMessage)
  | leaveGroupWithAck (message : LeaveGroupWithAckMessage)
  | checkUserInGroupWithAck (message : CheckUserInGroupWithAckMessage)
  | checkGroupExistenceWithAck (message : CheckGroupExistenceWithAckMessage)
  | checkConnectionExistenceWithAck (message : CheckConnectionExistenceWithAckMessage)
  | checkUserExistenceWithAck (message : CheckUserExistenceWithAckMessage)
  | ack (message : AckMessage)
  | clientInvocation (message : ClientInvocationMessage)
  | clientCompletion (message : ClientCompletionMessage)
  | errorCompletion (message : ErrorCompletionMessage)
  | serviceMapping (message : ServiceMappingMessage)
  | connectionFlowControl (message : ConnectionFlowControlMessage)
  | groupMemberQuery (message : GroupMemberQueryMessage)
deriving DecidableEq, Repr

/-- `GetType().Name`. -/
def ServiceMessage.typeName : ServiceMessage → String
  | .handshakeRequest _ => "HandshakeRequestMessage"
  | .handshakeResponse _ => "HandshakeResponseMessage"
  | .accessKeyRequest _ => "AccessKeyRequestMessage"
  | .accessKeyResponse _ => "AccessKeyResponseMessage"
  | .ping _ => "PingMessage"
  | .openConnection _ => "OpenConnectionMessage"
  | .closeConnection _ => "CloseConnectionMessage"
  | .closeConnectionWithAck _ => "CloseConnectionWithAckMessage"
  | .closeConnectionsWithAck _ => "CloseConnectionsWithAckMessage"
  | .closeUserConnectionsWithAck _ => "CloseUserConnectionsWithAckMessage"
  | .closeGroupConnectionsWithAck _ => "CloseGroupConnectionsWithAckMessage"
  | .connectionData _ => "ConnectionDataMessage"
  | .connectionReconnect _ => "ConnectionReconnectMessage"
  | .multiConnectionData _ => "MultiConnectionDataMessage"
  | .userData _ => "UserDataMessage"
  | .multiUserData _ => "MultiUserDataMessage"
  | .broadcastData _ => "BroadcastDataMessage"
  | .joinGroup _ => "JoinGroupMessage"
  | .leaveGroup _ => "LeaveGroupMessage"
  | .userJoinGroup _ => "UserJoinGroupMessage"
  | .userLeaveGroup _ => "UserLeaveGroupMessage"
  | .userJoinGroupWithAck _ => "UserJoinGroupWithAckMessage"
  | .userLeaveGroupWithAck _ => "UserLeaveGroupWithAckMessage"
  | .groupBroadcastData _ => "GroupBroadcastDataMessage"
  | .multiGroupBroadcastData _ => "MultiGroupBroadcastDataMessage"
  | .serviceError _ => "ServiceErrorMessage"
  | .serviceEvent _ => "ServiceEventMessage"
  | .joinGroupWithAck _ => "JoinGroupWithAckMessage"
  | .leaveGroupWithAck _ => "LeaveGroupWithAckMessage"
  | .checkUserInGroupWithAck _ => "CheckUserInGroupWithAckMessage"
  | .checkGroupExistenceWithAck _ => "CheckGroupExistenceWithAckMessage"
  | .checkConnectionExistenceWithAck _ => "CheckConnectionExistenceWithAckMessage"
  | .checkUserExistenceWithAck _ => "CheckUserExistenceWithAckMessage"
  | .ack _ => "AckMessage"
  | .clientInvocation _ => "ClientInvocationMessage"
  | .clientCompletion _ => "ClientCompletionMessage"
  | .errorCompletion _ => "ErrorCompletionMessage"
  | .serviceMapping _ => "ServiceMappingMessage"
  | .connectionFlowControl _ => "ConnectionFlowControlMessage"
  | .groupMemberQuery _ => "GroupMemberQueryMessage"

end AzureSignalR.Protocol
