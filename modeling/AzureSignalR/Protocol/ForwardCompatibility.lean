import AzureSignalR.Protocol.ExtensionMap
import AzureSignalR.Protocol.ServiceProtocol

/-!
Contract: messages whose extension map another version has written.

Owns: where each reader of the protocol reads the extension map, that the message
then carries the members of the map, and which maps leave the message as it is
without the entries that are to be ignored.

Does not own: the array header and the message type in front of the members.
-/

set_option autoImplicit false

namespace AzureSignalR.Protocol

open Library ServiceProtocolConstants MessagePackFormat

/-! ## Readers of extension maps -/

/-- A reader that reads some fields, the extension map and then the rest. -/
structure MapReader (mp : MessagePack) (support : ExtensionSupport) {α : Type}
    (reader : Reader α) where
  Fields : Type
  /-- What stands in front of the map. -/
  fields : Reader Fields
  /-- The members the message has before the map is read. -/
  initial : Fields → ExtensionMembers
  /-- What stands behind the map. -/
  finish : Fields → ExtensionMembers → Reader α
  splits : reader = fields >>= fun read =>
    ExtensionMembers.read mp support (initial read) >>= finish read

namespace MapReader

variable {mp : MessagePack} {support : ExtensionSupport} {α β : Type}

/-- The map comes next. -/
def here (members : ExtensionMembers) (finish : ExtensionMembers → Reader α) :
    MapReader mp support (ExtensionMembers.read mp support members >>= finish) where
  Fields := Unit
  fields := pure ()
  initial _ := members
  finish _ := finish
  splits := (pure_bind _ _).symm

/-- The map comes next, when the array is long enough. -/
def guarded {present : Bool} (there : present = true) (members absent : ExtensionMembers)
    (finish : ExtensionMembers → Reader α) :
    MapReader mp support
      (Decoder.guarded present (ExtensionMembers.read mp support members) absent >>=
        finish) where
  Fields := Unit
  fields := pure ()
  initial _ := members
  finish _ := finish
  splits := by
    rw [Decoder.guarded, if_pos there]
    exact (pure_bind _ _).symm

/-- A field in front of the map. -/
def field (reader : Reader α) {next : α → Reader β}
    (rest : ∀ value, MapReader mp support (next value)) :
    MapReader mp support (reader >>= next) where
  Fields := Σ value, (rest value).Fields
  fields := reader >>= fun value => Sigma.mk value <$> (rest value).fields
  initial read := (rest read.1).initial read.2
  finish read := (rest read.1).finish read.2
  splits := by
    rw [bind_assoc]
    congr 1
    funext value
    rw [bind_map_left]
    exact (rest value).splits

/-- The map is in the branch that is taken. -/
def branch {condition : Prop} [Decidable condition] (holds : condition) {reader : Reader α}
    (whole : MapReader mp support reader) (other : Reader α) :
    MapReader mp support (if condition then reader else other) where
  Fields := whole.Fields
  fields := whole.fields
  initial := whole.initial
  finish := whole.finish
  splits := by
    rw [if_pos holds]
    exact whole.splits

def map (function : α → β) {reader : Reader α} (whole : MapReader mp support reader) :
    MapReader mp support (function <$> reader) where
  Fields := whole.Fields
  fields := whole.fields
  initial := whole.initial
  finish read members := function <$> whole.finish read members
  splits := by
    conv_lhs => rw [whole.splits]
    simp only [map_bind]

end MapReader

/-! ## Members of a message -/

namespace ServiceMessage

/-- The extension members of a message; a class that does not implement an interface
has the default there. -/
def extensionMembers : ServiceMessage → ExtensionMembers
  | handshakeRequest _ | handshakeResponse _ | accessKeyRequest _ | accessKeyResponse _
  | ping _ | connectionReconnect _ | serviceError _ | serviceEvent _ | ack _
  | serviceMapping _ | connectionFlowControl _ => {}
  | openConnection message => { tracingId := message.tracingId, protocol := message.protocol }
  | closeConnection message => { tracingId := message.tracingId }
  | closeConnectionWithAck message => { tracingId := message.tracingId }
  | closeConnectionsWithAck message => { tracingId := message.tracingId }
  | closeUserConnectionsWithAck message => { tracingId := message.tracingId }
  | closeGroupConnectionsWithAck message => { tracingId := message.tracingId }
  | connectionData message =>
      { tracingId := message.tracingId
        dataMessageType := message.type
        isPartial := message.isPartial }
  | multiConnectionData message => { tracingId := message.tracingId, filter := message.filter }
  | userData message => { tracingId := message.tracingId, filter := message.filter }
  | multiUserData message => { tracingId := message.tracingId, filter := message.filter }
  | broadcastData message => { tracingId := message.tracingId, filter := message.filter }
  | joinGroup message => { tracingId := message.tracingId }
  | leaveGroup message => { tracingId := message.tracingId }
  | userJoinGroup message => { tracingId := message.tracingId, ttl := message.ttl }
  | userLeaveGroup message => { tracingId := message.tracingId }
  | userJoinGroupWithAck message => { tracingId := message.tracingId, ttl := message.ttl }
  | userLeaveGroupWithAck message => { tracingId := message.tracingId }
  | groupBroadcastData message => { tracingId := message.tracingId, filter := message.filter }
  | multiGroupBroadcastData message =>
      { tracingId := message.tracingId, filter := message.filter }
  | joinGroupWithAck message => { tracingId := message.tracingId }
  | leaveGroupWithAck message => { tracingId := message.tracingId }
  | checkUserInGroupWithAck message => { tracingId := message.tracingId }
  | checkGroupExistenceWithAck message => { tracingId := message.tracingId }
  | checkConnectionExistenceWithAck message => { tracingId := message.tracingId }
  | checkUserExistenceWithAck message => { tracingId := message.tracingId }
  | clientInvocation message => { tracingId := message.tracingId }
  | clientCompletion message => { tracingId := message.tracingId, protocol := message.protocol }
  | errorCompletion message => { tracingId := message.tracingId }
  | groupMemberQuery message => { tracingId := message.tracingId }

/-- The message with other extension members, as far as its class implements their
interfaces. -/
def withExtensionMembers (members : ExtensionMembers) : ServiceMessage → ServiceMessage
  | handshakeRequest message => handshakeRequest message
  | handshakeResponse message => handshakeResponse message
  | accessKeyRequest message => accessKeyRequest message
  | accessKeyResponse message => accessKeyResponse message
  | ping message => ping message
  | openConnection message =>
      openConnection { message with tracingId := members.tracingId, protocol := members.protocol }
  | closeConnection message => closeConnection { message with tracingId := members.tracingId }
  | closeConnectionWithAck message =>
      closeConnectionWithAck { message with tracingId := members.tracingId }
  | closeConnectionsWithAck message =>
      closeConnectionsWithAck { message with tracingId := members.tracingId }
  | closeUserConnectionsWithAck message =>
      closeUserConnectionsWithAck { message with tracingId := members.tracingId }
  | closeGroupConnectionsWithAck message =>
      closeGroupConnectionsWithAck { message with tracingId := members.tracingId }
  | connectionData message =>
      connectionData
        { message with
          tracingId := members.tracingId
          type := members.dataMessageType
          isPartial := members.isPartial }
  | connectionReconnect message => connectionReconnect message
  | multiConnectionData message =>
      multiConnectionData
        { message with tracingId := members.tracingId, filter := members.filter }
  | userData message =>
      userData { message with tracingId := members.tracingId, filter := members.filter }
  | multiUserData message =>
      multiUserData { message with tracingId := members.tracingId, filter := members.filter }
  | broadcastData message =>
      broadcastData { message with tracingId := members.tracingId, filter := members.filter }
  | joinGroup message => joinGroup { message with tracingId := members.tracingId }
  | leaveGroup message => leaveGroup { message with tracingId := members.tracingId }
  | userJoinGroup message =>
      userJoinGroup { message with tracingId := members.tracingId, ttl := members.ttl }
  | userLeaveGroup message => userLeaveGroup { message with tracingId := members.tracingId }
  | userJoinGroupWithAck message =>
      userJoinGroupWithAck { message with tracingId := members.tracingId, ttl := members.ttl }
  | userLeaveGroupWithAck message =>
      userLeaveGroupWithAck { message with tracingId := members.tracingId }
  | groupBroadcastData message =>
      groupBroadcastData
        { message with tracingId := members.tracingId, filter := members.filter }
  | multiGroupBroadcastData message =>
      multiGroupBroadcastData
        { message with tracingId := members.tracingId, filter := members.filter }
  | serviceError message => serviceError message
  | serviceEvent message => serviceEvent message
  | joinGroupWithAck message => joinGroupWithAck { message with tracingId := members.tracingId }
  | leaveGroupWithAck message =>
      leaveGroupWithAck { message with tracingId := members.tracingId }
  | checkUserInGroupWithAck message =>
      checkUserInGroupWithAck { message with tracingId := members.tracingId }
  | checkGroupExistenceWithAck message =>
      checkGroupExistenceWithAck { message with tracingId := members.tracingId }
  | checkConnectionExistenceWithAck message =>
      checkConnectionExistenceWithAck { message with tracingId := members.tracingId }
  | checkUserExistenceWithAck message =>
      checkUserExistenceWithAck { message with tracingId := members.tracingId }
  | ack message => ack message
  | clientInvocation message => clientInvocation { message with tracingId := members.tracingId }
  | clientCompletion message =>
      clientCompletion
        { message with tracingId := members.tracingId, protocol := members.protocol }
  | errorCompletion message => errorCompletion { message with tracingId := members.tracingId }
  | serviceMapping message => serviceMapping message
  | connectionFlowControl message => connectionFlowControl message
  | groupMemberQuery message => groupMemberQuery { message with tracingId := members.tracingId }

end ServiceMessage

/-- Where the reader of a message type reads the extension map, and that the members
it reads are those of the message and change nothing else of it. -/
structure MessageMap (mp : MessagePack) (toUpperInvariant : Char → Char) (arrayLength : Nat)
    (messageType : Int32) where
  support : ExtensionSupport
  reader : MapReader mp support (createMessage mp toUpperInvariant arrayLength messageType)
  restricts : ∀ read, (reader.initial read).restrict support = reader.initial read := by
    exact fun _ => rfl
  sets : ∀ read members, reader.finish read members =
      Option.map (ServiceMessage.withExtensionMembers members) <$>
        reader.finish read (reader.initial read) := by
    exact fun _ _ => rfl
  carries : ∀ read members,
      Option.map ServiceMessage.extensionMembers <$> reader.finish read members =
        Option.map (fun _ => members.restrict support) <$> reader.finish read members := by
    exact fun _ _ => rfl

/-- Two functions that agree on a message class agree behind its reader. -/
theorem map_wrap_congr {α β : Type} {first second : ServiceMessage → β}
    {wrap : α → ServiceMessage} (same : ∀ message, first (wrap message) = second (wrap message))
    (reader : Reader α) :
    Option.map first <$> (some <| wrap ·) <$> reader =
      Option.map second <$> (some <| wrap ·) <$> reader := by
  have composed : (Option.map first ∘ fun message => some (wrap message)) =
      Option.map second ∘ fun message => some (wrap message) :=
    funext fun message => congrArg some (same message)
  rw [Functor.map_map, Functor.map_map]
  exact congrArg (· <$> reader) composed

/-- A message class without extension members is the same for all of them. -/
theorem map_wrap_self {α : Type} {change : ServiceMessage → ServiceMessage}
    {wrap : α → ServiceMessage} (same : ∀ message, change (wrap message) = wrap message)
    (reader : Reader α) :
    (some <| wrap ·) <$> reader = Option.map change <$> (some <| wrap ·) <$> reader := by
  have unchanged : Option.map change <$> (some <| wrap ·) <$> reader =
      Option.map id <$> (some <| wrap ·) <$> reader := map_wrap_congr same reader
  rw [unchanged, Option.map_id_fun, id_map]

section Readers

variable (mp : MessagePack) (toUpperInvariant : Char → Char) (arrayLength : Nat)

/-- The map comes first. -/
def groupMemberQueryMap :
    MessageMap mp toUpperInvariant arrayLength groupMemberQueryMessageType where
  support := .traced
  reader := .map _ (.here _ _)
  sets _ _ := by
    simp only [MapReader.map, MapReader.here, map_bind, map_pure]
    rfl
  carries _ _ := by
    simp only [MapReader.map, MapReader.here, map_bind, map_pure]
    rfl

/-- Where the reader of a message type reads the extension map, for the types
whose reader reads one in an array of this length. -/
def messageMap? : (messageType : Int32) →
    Option (MessageMap mp toUpperInvariant arrayLength messageType)
  | handshakeRequestType =>
      if enough : 6 ≤ arrayLength then
        some
          { support := .plain
            reader := .map _
              (.field _ fun _ => .field _ fun _ => .field _ fun _ => .field _ fun _ =>
                .guarded (decide_eq_true enough) _ _ _)
            sets _ _ := map_wrap_self (by exact fun _ => rfl) _
            carries _ _ := map_wrap_congr (by exact fun _ => rfl) _ }
      else none
  | handshakeResponseType =>
      if enough : 3 ≤ arrayLength then
        some
          { support := .plain
            reader := .map _ (.field _ fun _ => .guarded (decide_eq_true enough) _ _ _)
            sets _ _ := map_wrap_self (by exact fun _ => rfl) _
            carries _ _ := map_wrap_congr (by exact fun _ => rfl) _ }
      else none
  | accessKeyRequestType =>
      some { support := .plain, reader := .map _ (.field _ fun _ => .field _ fun _ => .here _ _) }
  | accessKeyResponseType =>
      some
        { support := .plain
          reader := .map _
            (.field _ fun _ => .field _ fun _ => .field _ fun _ => .field _ fun _ => .here _ _) }
  | openConnectionMessageType =>
      if enough : 6 ≤ arrayLength then
        some
          { support := .tracedProtocol
            reader := .map _
              (.field _ fun _ => .field _ fun _ =>
                -- Without its headers the message has no map.
                .branch (Nat.le_of_succ_le enough)
                  (.field _ fun _ => .field _ fun _ =>
                    .guarded (decide_eq_true enough) _ _ _) _) }
      else none
  | closeConnectionMessageType =>
      if enough : 5 ≤ arrayLength then
        some
          { support := .traced
            reader := .map _
              (.field _ fun _ => .field _ fun _ => .field _ fun _ =>
                .guarded (decide_eq_true enough) _ _ _) }
      else none
  | connectionDataMessageType =>
      if enough : 4 ≤ arrayLength then
        some
          { support := .connectionData
            reader := .map _
              (.field _ fun _ => .field _ fun _ => .guarded (decide_eq_true enough) _ _ _) }
      else none
  | connectionReconnectMessageType =>
      some { support := .plain, reader := .map _ (.field _ fun _ => .here _ _) }
  | multiConnectionDataMessageType =>
      if enough : 4 ≤ arrayLength then
        some
          { support := .multicast
            reader := .map _
              (.field _ fun _ => .field _ fun _ => .guarded (decide_eq_true enough) _ _ _) }
      else none
  | userDataMessageType =>
      if enough : 4 ≤ arrayLength then
        some
          { support := .multicast
            reader := .map _
              (.field _ fun _ => .field _ fun _ => .guarded (decide_eq_true enough) _ _ _) }
      else none
  | multiUserDataMessageType =>
      if enough : 4 ≤ arrayLength then
        some
          { support := .multicast
            reader := .map _
              (.field _ fun _ => .field _ fun _ => .guarded (decide_eq_true enough) _ _ _) }
      else none
  | broadcastDataMessageType =>
      if enough : 4 ≤ arrayLength then
        some
          { support := .multicast
            reader := .map _
              (.field _ fun _ => .field _ fun _ => .guarded (decide_eq_true enough) _ _ _) }
      else none
  | joinGroupMessageType =>
      if enough : 4 ≤ arrayLength then
        some
          { support := .traced
            reader := .map _
              (.field _ fun _ => .field _ fun _ => .guarded (decide_eq_true enough) _ _ _) }
      else none
  | leaveGroupMessageType =>
      if enough : 4 ≤ arrayLength then
        some
          { support := .traced
            reader := .map _
              (.field _ fun _ => .field _ fun _ => .guarded (decide_eq_true enough) _ _ _) }
      else none
  | userJoinGroupMessageType =>
      if enough : 4 ≤ arrayLength then
        some
          { support := .tracedTtl
            reader := .map _
              (.field _ fun _ => .field _ fun _ => .guarded (decide_eq_true enough) _ _ _) }
      else none
  | userLeaveGroupMessageType =>
      if enough : 4 ≤ arrayLength then
        some
          { support := .traced
            reader := .map _
              (.field _ fun _ => .field _ fun _ => .guarded (decide_eq_true enough) _ _ _) }
      else none
  | userJoinGroupWithAckMessageType =>
      some
        { support := .tracedTtl
          reader := .map _ (.field _ fun _ => .field _ fun _ => .field _ fun _ => .here _ _) }
  | userLeaveGroupWithAckMessageType =>
      some
        { support := .traced
          reader := .map _ (.field _ fun _ => .field _ fun _ => .field _ fun _ => .here _ _) }
  | groupBroadcastDataMessageType =>
      if enough : 5 ≤ arrayLength then
        some
          { support := .multicast
            reader := .map _
              (.field _ fun _ => .field _ fun _ => .field _ fun _ =>
                .guarded (decide_eq_true enough) _ _ _)
            sets _ _ := by
              simp only [MapReader.map, MapReader.field, MapReader.guarded, map_bind, map_pure]
              rfl
            carries _ _ := by
              simp only [MapReader.map, MapReader.field, MapReader.guarded, map_bind, map_pure]
              rfl }
      else none
  | multiGroupBroadcastDataMessageType =>
      if enough : 4 ≤ arrayLength then
        some
          { support := .multicast
            reader := .map _
              (.field _ fun _ => .field _ fun _ => .guarded (decide_eq_true enough) _ _ _) }
      else none
  | serviceEventMessageType =>
      some
        { support := .plain
          reader := .map _
            (.field _ fun _ => .field _ fun _ => .field _ fun _ => .field _ fun _ => .here _ _) }
  | joinGroupWithAckMessageType =>
      if enough : 5 ≤ arrayLength then
        some
          { support := .traced
            reader := .map _
              (.field _ fun _ => .field _ fun _ => .field _ fun _ =>
                .guarded (decide_eq_true enough) _ _ _) }
      else none
  | leaveGroupWithAckMessageType =>
      if enough : 5 ≤ arrayLength then
        some
          { support := .traced
            reader := .map _
              (.field _ fun _ => .field _ fun _ => .field _ fun _ =>
                .guarded (decide_eq_true enough) _ _ _) }
      else none
  | checkUserInGroupWithAckMessageType =>
      if enough : 5 ≤ arrayLength then
        some
          { support := .traced
            reader := .map _
              (.field _ fun _ => .field _ fun _ => .field _ fun _ =>
                .guarded (decide_eq_true enough) _ _ _) }
      else none
  | checkGroupExistenceWithAckMessageType =>
      some { support := .traced, reader := .map _ (.field _ fun _ => .field _ fun _ => .here _ _) }
  | checkConnectionExistenceWithAckMessageType =>
      some { support := .traced, reader := .map _ (.field _ fun _ => .field _ fun _ => .here _ _) }
  | checkUserExistenceWithAckMessageType =>
      some { support := .traced, reader := .map _ (.field _ fun _ => .field _ fun _ => .here _ _) }
  | closeConnectionsWithAckMessageType =>
      if enough : 5 ≤ arrayLength then
        some
          { support := .traced
            reader := .map _
              (.field _ fun _ => .field _ fun _ => .field _ fun _ =>
                .guarded (decide_eq_true enough) _ _ _) }
      else none
  | closeConnectionWithAckMessageType =>
      if enough : 5 ≤ arrayLength then
        some
          { support := .traced
            reader := .map _
              (.field _ fun _ => .field _ fun _ => .field _ fun _ =>
                .guarded (decide_eq_true enough) _ _ _) }
      else none
  | closeUserConnectionsWithAckMessageType =>
      if enough : 6 ≤ arrayLength then
        some
          { support := .traced
            reader := .map _
              (.field _ fun _ => .field _ fun _ => .field _ fun _ => .field _ fun _ =>
                .guarded (decide_eq_true enough) _ _ _) }
      else none
  | closeGroupConnectionsWithAckMessageType =>
      if enough : 6 ≤ arrayLength then
        some
          { support := .traced
            reader := .map _
              (.field _ fun _ => .field _ fun _ => .field _ fun _ => .field _ fun _ =>
                .guarded (decide_eq_true enough) _ _ _) }
      else none
  | ackMessageType =>
      if enough : 5 ≤ arrayLength then
        some
          { support := .plain
            reader := .map _
              (.field _ fun _ => .field _ fun _ => .field _ fun _ =>
                .guarded (decide_eq_true enough) _ _ _)
            sets _ _ := map_wrap_self (by exact fun _ => rfl) _
            carries _ _ := map_wrap_congr (by exact fun _ => rfl) _ }
      else none
  | clientInvocationMessageType =>
      some
        { support := .traced
          reader := .map _
            (.field _ fun _ => .field _ fun _ => .field _ fun _ => .field _ fun _ => .here _ _) }
  | clientCompletionMessageType =>
      some
        { support := .tracedProtocol
          reader := .map _
            (.field _ fun _ => .field _ fun _ => .field _ fun _ => .field _ fun _ =>
              .field _ fun _ =>
              .here _ _) }
  | errorCompletionMessageType =>
      some
        { support := .traced
          reader := .map _
            (.field _ fun _ => .field _ fun _ => .field _ fun _ => .field _ fun _ => .here _ _) }
  | serviceMappingMessageType =>
      some
        { support := .plain
          reader := .map _ (.field _ fun _ => .field _ fun _ => .field _ fun _ => .here _ _) }
  | groupMemberQueryMessageType =>
      some (groupMemberQueryMap mp toUpperInvariant arrayLength)
  | _ => none

end Readers

/-! ## Messages with a map of another version -/

/-- The bytes of a message: the header, the message type and the members. -/
def messageBytes (mp : MessagePack) (arrayLength : Nat) (messageType : Int32) (members : Bytes) :
    Bytes :=
  mp.write (.arrayHeader arrayLength) ++ (mp.write (.int messageType) ++ members)

/-- What `ParseMessage` returns for a message with these bytes in the place of its map. -/
def parseWith (mp : MessagePack) (toUpperInvariant : Char → Char) (arrayLength : Nat)
    (messageType : Int32) (before map after : Bytes) :
    Except Exn (Option ServiceMessage × Bytes) :=
  (parseMessage mp toUpperInvariant).run
    (messageBytes mp arrayLength messageType (before ++ (map ++ after)))

/-- The array has no more items than its bytes can hold: the message type, the map and
at most one for each byte before and behind the map. -/
def Announced (arrayLength : Nat) (before after : Bytes) : Prop :=
  arrayLength < 2 ^ 31 ∧ arrayLength ≤ before.length + after.length + 2

/-- A map is read as another version means it. -/
structure ReadsMap {mp : MessagePack} {toUpperInvariant : Char → Char} {arrayLength : Nat}
    {messageType : Int32} (place : MessageMap mp toUpperInvariant arrayLength messageType)
    (before : Bytes) (initial : ExtensionMembers) (map : ExtensionMap mp place.support) :
    Prop where
  /-- `ReadExtensionMembers` takes exactly the map and sets its members. -/
  consumes : (ExtensionMembers.read mp place.support initial).Consumes map.bytes
    (map.members initial)
  /-- The message is the one without the entries that are to be ignored. -/
  ignores : ∀ after, Announced arrayLength before after →
    parseWith mp toUpperInvariant arrayLength messageType before map.bytes after =
      parseWith mp toUpperInvariant arrayLength messageType before map.supported.bytes after
  /-- The members change nothing else of the message. -/
  sets : ∀ after, Announced arrayLength before after →
    parseWith mp toUpperInvariant arrayLength messageType before map.bytes after =
      (fun parsed => (parsed.1.map (ServiceMessage.withExtensionMembers (map.members initial)),
          parsed.2)) <$>
        parseWith mp toUpperInvariant arrayLength messageType before
          (ExtensionMap.empty mp place.support).bytes after
  /-- The message carries what the entries of its class encode. -/
  carries : ∀ after message rest, Announced arrayLength before after →
    parseWith mp toUpperInvariant arrayLength messageType before map.bytes after =
        .ok (some message, rest) →
      message.extensionMembers = map.members initial

section Maps

variable {mp : MessagePack} (lawful : mp.Lawful) (skips : mp.Skips) (forms : mp.ReadsForms)
  {toUpperInvariant : Char → Char} {arrayLength : Nat} {messageType : Int32}

include lawful in
theorem run_parseMessage_messageBytes {members : Bytes} (announced : arrayLength < 2 ^ 31)
    (enough : arrayLength ≤ members.length + 1) :
    (parseMessage mp toUpperInvariant).run (messageBytes mp arrayLength messageType members) =
      (createMessage mp toUpperInvariant arrayLength messageType).run members := by
  have written : 0 < (mp.write (.int messageType)).length :=
    List.length_pos_iff.mpr (lawful.write_ne_nil _)
  have header := lawful.readArrayHeader_write arrayLength
    (mp.write (.int messageType) ++ members) announced (by rw [List.length_append]; omega)
  have type := lawful.readInt32_int messageType members
  rw [parseMessage, messageBytes, StateT.run_bind, header]
  change (mp.readInt32 >>= fun messageType =>
    createMessage mp toUpperInvariant arrayLength messageType).run _ = _
  rw [StateT.run_bind, type]
  rfl

theorem ExtensionMap.length_bytes_pos {support : ExtensionSupport}
    (map : ExtensionMap mp support) : 0 < map.bytes.length := by
  have header := map.isHeader.length_pos
  rw [ExtensionMap.bytes, List.length_append]
  omega

include skips forms

/-- Reading goes on behind the map with the members the map has set. -/
theorem MapReader.run_map {α : Type} {support : ExtensionSupport} {whole : Reader α}
    (reader : MapReader mp support whole) {before : Bytes} {read : reader.Fields}
    (fields : reader.fields.Consumes before read) {map : ExtensionMap mp support}
    (readable : map.Readable) (after : Bytes) :
    whole.run (before ++ (map.bytes ++ after)) =
      (reader.finish read (map.members (reader.initial read))).run after := by
  have members := map.consumes_read skips forms readable (reader.initial read) after
  conv_lhs => rw [reader.splits]
  rw [StateT.run_bind, fields]
  change (ExtensionMembers.read mp support (reader.initial read) >>= reader.finish read).run
    (map.bytes ++ after) = _
  rw [StateT.run_bind, members]
  rfl

include lawful

theorem parseWith_map {place : MessageMap mp toUpperInvariant arrayLength messageType}
    {before : Bytes} {read : place.reader.Fields}
    (fields : place.reader.fields.Consumes before read) {map : ExtensionMap mp place.support}
    (readable : map.Readable) {after : Bytes} (announced : Announced arrayLength before after) :
    parseWith mp toUpperInvariant arrayLength messageType before map.bytes after =
      (place.reader.finish read (map.members (place.reader.initial read))).run after := by
  have taken := map.length_bytes_pos
  have enough : arrayLength ≤ (before ++ (map.bytes ++ after)).length + 1 := by
    have items := announced.2
    rw [List.length_append, List.length_append]
    omega
  rw [parseWith, run_parseMessage_messageBytes lawful announced.1 enough]
  exact place.reader.run_map skips forms fields readable after

/-- A map is read as another version means it if and only if each of its keys is an
`int`, and one that the class supports if the protocol knows it. -/
theorem parseMessage_extensionMap_iff
    {place : MessageMap mp toUpperInvariant arrayLength messageType}
    (_found : messageMap? mp toUpperInvariant arrayLength messageType = some place)
    {before : Bytes} {read : place.reader.Fields}
    (fields : place.reader.fields.Consumes before read) (map : ExtensionMap mp place.support) :
    ReadsMap place before (place.reader.initial read) map ↔ map.Readable := by
  constructor
  · intro reads
    exact map.readable_of_consumes skips forms reads.consumes
  · intro readable
    refine ⟨map.consumes_read skips forms readable _, ?_, ?_, ?_⟩
    · intro after announced
      rw [parseWith_map lawful skips forms fields readable announced,
        parseWith_map lawful skips forms fields map.readable_supported announced,
        map.members_supported]
    · intro after announced
      rw [parseWith_map lawful skips forms fields readable announced,
        parseWith_map lawful skips forms fields ExtensionMap.readable_empty announced,
        place.sets, StateT.run_map]
      rfl
    · intro after message rest announced parsed
      rw [parseWith_map lawful skips forms fields readable announced] at parsed
      have carried := congrArg (StateT.run · after)
        (place.carries read (map.members (place.reader.initial read)))
      simp only [StateT.run_map, parsed] at carried
      have same := Option.some.inj (congrArg Prod.fst (Except.ok.inj carried))
      rw [map.restrict_members (place.restricts read)] at same
      exact same

end Maps

theorem ne_traced {key : Int} (other : key ≠ 1) :
    ∀ supported ∈ ExtensionSupport.traced.keys, key ≠ supported.toInt := by
  intro supported member
  have isTracingId : supported = ExtensionMembers.tracingIdKey := List.mem_singleton.mp member
  have isOne : ExtensionMembers.tracingIdKey.toInt = 1 := rfl
  rw [isTracingId, isOne]
  exact other

/-- The map of a later version in front of the members of a query: a map header of
three bytes, a key of five bytes with an array as its value, the tracing id under a key
and in a form that this version does not write, and a negative key with nil. -/
def laterMap : ExtensionMap messagePackFormat .traced where
  header := [0xde, 0, 3]
  entries :=
    [⟨[0xd2, 0, 1, 0, 0], [0x92, 0xc3, 5], .ignored 65536⟩,
      ⟨[0xcc, 1], [0xcd, 0, 7], .tracingId 7⟩, ⟨[0xff], [0xc0], .ignored (-1)⟩]
  isHeader := .medium (by decide)
  valid entry member := by
    simp only [List.mem_cons, List.not_mem_nil, or_false] at member
    rcases member with rfl | rfl | rfl
    · refine ⟨.signed 0xd2 4 65536 (by decide) (by decide) (by decide), ne_traced (by decide), ?_⟩
      exact .cons (.fixarray 0x92 (by decide) (by decide))
        (.cons (.constant 0xc3 (by decide)) (.cons (.fixint 5 (by decide)) .nil))
    · refine ⟨.unsigned 0xcc 1 1 (by decide) (by decide), rfl, ?_⟩
      exact consumes_readRange (fun value => UInt64.ofNat value.toNat)
        (consumes_integer (.unsigned 0xcd 2 7 (by decide) (by decide))) (by decide) (by decide)
    · exact ⟨.negative (-1) (by decide) (by decide), ne_traced (by decide),
        .cons (.constant 0xc0 (by decide)) .nil⟩
  short := by decide

/-- The query carries the tracing id of the map. -/
theorem parseMessage_extensionMap_iff_groupMemberQuery :
    ReadsMap (groupMemberQueryMap messagePackFormat Char.toUpper 6) [] {} laterMap ∧
      parseWith messagePackFormat Char.toUpper 6 groupMemberQueryMessageType [] laterMap.bytes
          [0xa1, 0x67, 5, 0xc0, 0xc0] =
        .ok (some (.groupMemberQuery
          { ackId := 5
            groupName := "g"
            top := none
            continuationToken := none
            tracingId := some 7 }), []) := by
  have found : messageMap? messagePackFormat Char.toUpper 6 groupMemberQueryMessageType =
      some (groupMemberQueryMap messagePackFormat Char.toUpper 6) := rfl
  have readable : ∀ entry ∈ laterMap.entries, entry.member.Readable := by decide
  exact ⟨(parseMessage_extensionMap_iff messagePackFormat_lawful messagePackFormat_skips
    messagePackFormat_readsForms found (.pure_nil ()) laterMap).mpr readable, by decide +kernel⟩

/-- A map with a time to live in front of the tracing id. -/
def ttlMap : ExtensionMap messagePackFormat .traced where
  header := [0x82]
  entries := [⟨[2], [30], .ignored 2⟩, ⟨[1], [7], .tracingId 7⟩]
  isHeader := .fixed (by decide)
  valid entry member := by
    simp only [List.mem_cons, List.not_mem_nil, or_false] at member
    rcases member with rfl | rfl
    · exact ⟨.positive 2 (by decide), ne_traced (by decide), .cons (.fixint 30 (by decide)) .nil⟩
    · refine ⟨.positive 1 (by decide), rfl, ?_⟩
      exact consumes_readRange (fun value => UInt64.ofNat value.toNat)
        (consumes_integer (.positive 7 (by decide))) (by decide) (by decide)
  short := by decide

/-- A time to live is known to the protocol, but a query for group members does not
support it: its value is read as the next key, and the group name as what is left of
the map. -/
theorem parseMessage_groupMemberQuery_ttl :
    parseWith messagePackFormat Char.toUpper 6 groupMemberQueryMessageType [] ttlMap.bytes
        [0xa1, 0x67, 5, 0xc0, 0xc0] =
      .error (.invalidData "Reading 'GroupName' as String failed.") ∧
    parseWith messagePackFormat Char.toUpper 6 groupMemberQueryMessageType []
        ttlMap.supported.bytes [0xa1, 0x67, 5, 0xc0, 0xc0] =
      .ok (some (.groupMemberQuery
        { ackId := 5
          groupName := "g"
          top := none
          continuationToken := none
          tracingId := some 7 }), []) :=
  ⟨by decide +kernel, by decide +kernel⟩

end AzureSignalR.Protocol
