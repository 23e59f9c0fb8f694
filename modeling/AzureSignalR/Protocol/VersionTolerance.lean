import AzureSignalR.Protocol.ForwardCompatibility
import AzureSignalR.Protocol.MessageLayouts
import AzureSignalR.Protocol.RoundTrip

/-!
Contract: arrays with fewer or more items than this version writes.

Owns: which readers look at the array length where the layout of the message
says, and for which arrays `ParseMessage` returns the message that the items
stand for.

Does not own: the layouts. An item may be any encoding that its reader accepts.
-/

set_option autoImplicit false

namespace AzureSignalR.Protocol

open Library ServiceProtocolConstants

/-! ## Readers and layouts -/

section Readers

variable {mp : MessagePack} {toUpperInvariant : Char → Char}

/-- The array lengths at which the reader of a message type follows its layout. -/
def FollowsLayout (arrayLength : Nat) : Int32 → Prop
  | handshakeRequestType => 4 ≤ arrayLength
  | openConnectionMessageType => arrayLength ≠ 4
  | groupBroadcastDataMessageType => arrayLength ≠ 6
  | serviceEventMessageType => 6 ≤ arrayLength
  | _ => True

theorem createHandshakeRequestMessage_eq {arrayLength : Nat} (enough : 4 ≤ arrayLength) :
    createHandshakeRequestMessage mp arrayLength =
      (handshakeRequestLayout mp).decoder arrayLength 1 := by
  unfold createHandshakeRequestMessage
  simp only [Decoder.guarded, decide_eq_true enough]
  rfl

theorem createOpenConnectionMessage_eq {arrayLength : Nat} (notCut : arrayLength ≠ 4) :
    createOpenConnectionMessage mp toUpperInvariant arrayLength =
      (openConnectionLayout mp toUpperInvariant).decoder arrayLength 1 := by
  unfold createOpenConnectionMessage
  simp only [openConnectionLayout, Layout.required, Layout.optional, Layout.decoder,
    Decoder.guarded]
  by_cases enough : 5 ≤ arrayLength
  · have headers : 4 ≤ arrayLength := by omega
    simp [enough, headers]
  · have noHeaders : ¬ 4 ≤ arrayLength := by omega
    have noMembers : ¬ 6 ≤ arrayLength := by omega
    simp [enough, noHeaders, noMembers]

theorem createGroupBroadcastDataMessage_eq {arrayLength : Nat} (notCut : arrayLength ≠ 6) :
    createGroupBroadcastDataMessage mp toUpperInvariant arrayLength =
      (groupBroadcastDataLayout mp toUpperInvariant).decoder arrayLength 1 := by
  unfold createGroupBroadcastDataMessage
  simp only [groupBroadcastDataLayout, Layout.required, Layout.optional, Layout.decoder,
    Decoder.guarded]
  by_cases enough : 7 ≤ arrayLength
  · have users : 6 ≤ arrayLength := by omega
    simp [enough, users]
  · have noUsers : ¬ 6 ≤ arrayLength := by omega
    simp [enough, noUsers]

theorem createServiceEventMessage_eq {arrayLength : Nat} (enough : 6 ≤ arrayLength) :
    createServiceEventMessage mp = (serviceEventLayout mp).decoder arrayLength 1 := by
  unfold createServiceEventMessage
  simp only [serviceEventLayout, Layout.required, Layout.optional, Layout.decoder,
    Decoder.guarded]
  simp [enough]

theorem createConnectionFlowControlMessage_eq (arrayLength : Nat) :
    createConnectionFlowControlMessage mp arrayLength =
      (connectionFlowControlLayout mp).decoder arrayLength 1 := by
  unfold createConnectionFlowControlMessage
  simp only [connectionFlowControlLayout, Layout.required, Layout.decoder]
  congr 1
  funext connectionId
  congr 1
  funext connectionType
  congr 1
  funext operation
  cases ConnectionType.ofInt32? connectionType with
  | none => rfl
  | some connectionType =>
      cases ConnectionFlowControlOperation.ofInt32? operation with
      | none => rfl
      | some operation => rfl

theorem map_some_of_eq {α : Type} {reader : Reader α} {layout : Layout UInt8 Exn α}
    {arrayLength : Nat} (wrap : α → ServiceMessage)
    (follows : reader = layout.decoder arrayLength 1) :
    (some <| wrap ·) <$> reader = some <$> (layout.map wrap).decoder arrayLength 1 := by
  rw [follows, Layout.decoder_map, Functor.map_map]

theorem createMessage_eq_decoder {messageType : Int32} {layout : Layout UInt8 Exn ServiceMessage}
    (found : messageLayout mp toUpperInvariant messageType = some layout) {arrayLength : Nat}
    (follows : FollowsLayout arrayLength messageType) :
    createMessage mp toUpperInvariant arrayLength messageType =
      some <$> layout.decoder arrayLength 1 := by
  unfold messageLayout at found
  split at found
  all_goals cases found
  case h_1 => exact map_some_of_eq _ (createHandshakeRequestMessage_eq follows)
  case h_5 => exact map_some_of_eq _ (createOpenConnectionMessage_eq follows)
  case h_19 => exact map_some_of_eq _ (createGroupBroadcastDataMessage_eq follows)
  case h_22 => exact map_some_of_eq _ (createServiceEventMessage_eq follows)
  case h_38 => exact map_some_of_eq _ (createConnectionFlowControlMessage_eq arrayLength)
  all_goals exact map_some_of_eq _ rfl

end Readers

/-! ## Arrays -/

theorem WellFormed.length_pos {item : Bytes} (wellFormed : WellFormed item) :
    0 < item.length := by
  cases wellFormed with
  | cons head _ =>
      rw [List.length_append]
      cases head <;> simp only [List.length_cons, List.length_nil] <;> omega

theorem length_le_flatten {items : List Bytes} (wellFormed : ∀ item ∈ items, WellFormed item) :
    items.length ≤ items.flatten.length := by
  induction items with
  | nil => exact Nat.le_refl 0
  | cons item items inductionHypothesis =>
      have here := (wellFormed item List.mem_cons_self).length_pos
      have later := inductionHypothesis fun other member =>
        wellFormed other (List.mem_cons_of_mem _ member)
      rw [List.flatten_cons, List.length_append, List.length_cons]
      omega

/-- `ParseMessage` returns the message for an array of the message type and the items. -/
def Parses (mp : MessagePack) (toUpperInvariant : Char → Char) (messageType : Int32)
    (items : List Bytes) (message : ServiceMessage) : Prop :=
  ∃ unread, (parseMessage mp toUpperInvariant).run
      (messageBytes mp (items.length + 1) messageType items.flatten) =
    .ok (some message, unread)

/-- A member that is there is not read, or one is read that is not there: the
headers of an array that ends behind them, the excluded users of an array that
ends behind them, and the extension members of an event without any. -/
def Misreads (mp : MessagePack) (toUpperInvariant : Char → Char) : Int32 → List Bytes → Prop
  | openConnectionMessageType, items =>
      ∃ connectionId claims item headers, items = [connectionId, claims, item] ∧
        (readHeaders mp toUpperInvariant).Consumes item headers ∧ headers ≠ []
  | groupBroadcastDataMessageType, items =>
      ∃ groupName excludedList payloads members item users,
        items = [groupName, excludedList, payloads, members, item] ∧
          (readStringArray mp "excludedUserList").Consumes item users ∧ users ≠ []
  | serviceEventMessageType, items => items.length = 4
  | _, _ => False

section Arrays

variable {mp : MessagePack} (lawful : mp.Lawful) {toUpperInvariant : Char → Char}
  {messageType : Int32} {items : List Bytes} {message : ServiceMessage}
include lawful

theorem parses_iff_createMessage (wellFormed : ∀ item ∈ items, WellFormed item)
    (few : items.length + 1 < 2 ^ 31) :
    Parses mp toUpperInvariant messageType items message ↔
      ∃ unread, (createMessage mp toUpperInvariant (items.length + 1) messageType).run
        items.flatten = .ok (some message, unread) := by
  unfold Parses
  rw [run_parseMessage_messageBytes lawful few
    (Nat.succ_le_succ (length_le_flatten wellFormed))]

theorem parses_of_follows {layout : Layout UInt8 Exn ServiceMessage}
    (found : messageLayout mp toUpperInvariant messageType = some layout)
    (encodes : layout.Encodes items message) (wellFormed : ∀ item ∈ items, WellFormed item)
    (few : items.length + 1 < 2 ^ 31) (follows : FollowsLayout (items.length + 1) messageType) :
    Parses mp toUpperInvariant messageType items message := by
  rw [parses_iff_createMessage lawful wellFormed few, createMessage_eq_decoder found follows]
  obtain ⟨unread, ran⟩ := encodes.run_decoder (by omega : items.length = items.length + 1 - 1)
  refine ⟨unread, ?_⟩
  rw [StateT.run_map, ran]
  rfl

theorem parses_iff_of_run {result : ServiceMessage} {unread : Bytes}
    (wellFormed : ∀ item ∈ items, WellFormed item) (few : items.length + 1 < 2 ^ 31)
    (ran : (createMessage mp toUpperInvariant (items.length + 1) messageType).run
      items.flatten = .ok (some result, unread)) :
    Parses mp toUpperInvariant messageType items message ↔ result = message := by
  rw [parses_iff_createMessage lawful wellFormed few, ran]
  constructor
  · rintro ⟨_, same⟩
    cases same
    rfl
  · rintro rfl
    exact ⟨unread, rfl⟩

/-- An array of four items drops the headers. -/
theorem parses_openConnection_iff (cut : items.length = 3)
    (encodes : ((openConnectionLayout mp toUpperInvariant).map .openConnection).Encodes items
      message)
    (wellFormed : ∀ item ∈ items, WellFormed item) (few : items.length + 1 < 2 ^ 31) :
    Parses mp toUpperInvariant openConnectionMessageType items message ↔
      ¬ Misreads mp toUpperInvariant openConnectionMessageType items := by
  obtain ⟨connectionIdItem, claimsItem, headersItem, rfl⟩ := List.length_eq_three.mp cut
  obtain ⟨connectionId, connectionIdRead, encodes⟩ := encodes.of_cons
  obtain ⟨claims, claimsRead, encodes⟩ := encodes.of_cons
  obtain ⟨headers, headersRead, encodes⟩ := encodes.of_cons
  have isMessage := encodes.of_nil.of_nil.of_done
  have body : (createMessage mp toUpperInvariant 4 openConnectionMessageType).Consumes
      (connectionIdItem ++ (claimsItem ++ []))
      (some (.openConnection
        { connectionId := connectionId
          claims := some claims
          headers := some []
          queryString := some "" })) := by
    refine (connectionIdRead.bind (claimsRead.bind ?_)).map _
    exact .pure_nil _
  have ran := body (headersItem ++ [])
  rw [List.append_nil, List.append_assoc] at ran
  rw [parses_iff_of_run lawful wellFormed few ran, isMessage]
  constructor
  · rintro same ⟨_, _, item, others, isItems, othersRead, nonempty⟩
    cases isItems
    rw [ServiceMessage.openConnection.injEq, OpenConnectionMessage.mk.injEq] at same
    have none : [] = headers := Option.some.inj same.2.2.1
    exact nonempty ((othersRead.unique headersRead).trans none.symm)
  · intro read
    have none : headers = [] := by
      by_contra nonempty
      exact read ⟨_, _, _, headers, rfl, headersRead, nonempty⟩
    rw [none]

/-- An array of six items drops the excluded users. -/
theorem parses_groupBroadcastData_iff (cut : items.length = 5)
    (encodes : ((groupBroadcastDataLayout mp toUpperInvariant).map
      .groupBroadcastData).Encodes items message)
    (wellFormed : ∀ item ∈ items, WellFormed item) (few : items.length + 1 < 2 ^ 31) :
    Parses mp toUpperInvariant groupBroadcastDataMessageType items message ↔
      ¬ Misreads mp toUpperInvariant groupBroadcastDataMessageType items := by
  match items, cut with
  | [groupNameItem, excludedItem, payloadsItem, membersItem, usersItem], _ =>
      obtain ⟨groupName, groupNameRead, encodes⟩ := encodes.of_cons
      obtain ⟨excludedList, excludedRead, encodes⟩ := encodes.of_cons
      obtain ⟨payloads, payloadsRead, encodes⟩ := encodes.of_cons
      obtain ⟨members, membersRead, encodes⟩ := encodes.of_cons
      obtain ⟨users, usersRead, encodes⟩ := encodes.of_cons
      have isMessage := encodes.of_nil.of_done
      have body : (createMessage mp toUpperInvariant 6 groupBroadcastDataMessageType).Consumes
          (groupNameItem ++ (excludedItem ++ (payloadsItem ++ (membersItem ++ []))))
          (some (.groupBroadcastData
            { groupName := groupName
              excludedList := some excludedList
              payloads := some payloads
              excludedUserList := some []
              callerUserId := none
              tracingId := members.tracingId
              filter := members.filter })) := by
        refine (groupNameRead.bind (excludedRead.bind (payloadsRead.bind ?_))).map _
        exact membersRead.bind fun _ => rfl
      have ran := body (usersItem ++ [])
      simp only [List.append_assoc, List.nil_append] at ran
      rw [parses_iff_of_run lawful wellFormed few ran, isMessage]
      constructor
      · rintro same ⟨_, _, _, _, item, others, isItems, othersRead, nonempty⟩
        cases isItems
        rw [ServiceMessage.groupBroadcastData.injEq, GroupBroadcastDataMessage.mk.injEq] at same
        have none : [] = users := Option.some.inj same.2.2.2.1
        exact nonempty ((othersRead.unique usersRead).trans none.symm)
      · intro read
        have none : users = [] := by
          by_contra nonempty
          exact read ⟨_, _, _, _, _, users, rfl, usersRead, nonempty⟩
        rw [none]

/-- An array of five items has no extension members to read. -/
theorem not_parses_serviceEvent (noHeader : ∃ error, mp.readMapHeader.run [] = .error error)
    (cut : items.length = 4)
    (encodes : ((serviceEventLayout mp).map .serviceEvent).Encodes items message)
    (wellFormed : ∀ item ∈ items, WellFormed item) (few : items.length + 1 < 2 ^ 31) :
    ¬ Parses mp toUpperInvariant serviceEventMessageType items message := by
  match items, cut with
  | [typeItem, idItem, kindItem, messageItem], _ =>
      obtain ⟨type, typeRead, encodes⟩ := encodes.of_cons
      obtain ⟨id, idRead, encodes⟩ := encodes.of_cons
      obtain ⟨kind, kindRead, encodes⟩ := encodes.of_cons
      obtain ⟨text, textRead, encodes⟩ := encodes.of_cons
      obtain ⟨error, fails⟩ := noHeader
      rw [parses_iff_createMessage lawful wellFormed few]
      rintro ⟨unread, ran⟩
      obtain ⟨event, ran⟩ := MessagePackFormat.run_of_run_map ran
      obtain ⟨_, _, first, ran⟩ := MessagePackFormat.run_of_run_bind ran
      cases (typeRead _).symm.trans first
      obtain ⟨_, _, second, ran⟩ := MessagePackFormat.run_of_run_bind ran
      cases (idRead _).symm.trans second
      obtain ⟨_, _, third, ran⟩ := MessagePackFormat.run_of_run_bind ran
      cases (kindRead _).symm.trans third
      obtain ⟨_, _, fourth, ran⟩ := MessagePackFormat.run_of_run_bind ran
      cases (textRead _).symm.trans fourth
      obtain ⟨_, _, fifth, -⟩ := MessagePackFormat.run_of_run_bind ran
      obtain ⟨_, _, header, -⟩ := MessagePackFormat.run_of_run_bind fifth
      cases fails.symm.trans header

omit lawful in
theorem not_misreads_of_follows (follows : FollowsLayout (items.length + 1) messageType) :
    ¬ Misreads mp toUpperInvariant messageType items := by
  intro misreads
  unfold Misreads at misreads
  split at misreads
  · obtain ⟨_, _, _, _, rfl, -⟩ := misreads
    exact follows rfl
  · obtain ⟨_, _, _, _, _, _, rfl, -⟩ := misreads
    exact follows rfl
  · have enough : 6 ≤ items.length + 1 := follows
    omega
  · exact misreads

omit lawful in
/-- A complete array is long enough, and so is a longer one. -/
theorem follows_of_encodesWhole {layout : Layout UInt8 Exn ServiceMessage}
    (found : messageLayout mp toUpperInvariant messageType = some layout)
    (whole : layout.EncodesWhole items message) (extra : List Bytes) :
    FollowsLayout ((items ++ extra).length + 1) messageType := by
  rw [List.length_append]
  unfold FollowsLayout
  split
  · cases found
    have members := Layout.hasMembers_succ (fun _ => Layout.hasMembers_succ fun _ =>
      Layout.hasMembers_succ fun _ => Layout.hasMembers_zero _) _ _ whole
    omega
  · cases found
    have members := Layout.hasMembers_succ (fun _ => Layout.hasMembers_succ fun _ =>
      Layout.hasMembers_succ fun _ => Layout.hasMembers_succ fun _ =>
        Layout.hasMembers_zero _) _ _ whole
    omega
  · cases found
    have members := Layout.hasMembers_succ (fun _ => Layout.hasMembers_succ fun _ =>
      Layout.hasMembers_succ fun _ => Layout.hasMembers_succ fun _ =>
        Layout.hasMembers_succ fun _ => Layout.hasMembers_succ fun _ =>
          Layout.hasMembers_zero _) _ _ whole
    omega
  · cases found
    have members := Layout.hasMembers_succ (fun _ => Layout.hasMembers_succ fun _ =>
      Layout.hasMembers_succ fun _ => Layout.hasMembers_succ fun _ =>
        Layout.hasMembers_succ fun _ => Layout.hasMembers_zero _) _ _ whole
    omega
  · trivial

/-- One array: it is read as what its items stand for, unless it is one of the three
kinds that are misread. -/
theorem parses_iff {layout : Layout UInt8 Exn ServiceMessage}
    (noHeader : ∃ error, mp.readMapHeader.run [] = .error error)
    (found : messageLayout mp toUpperInvariant messageType = some layout)
    (encodes : layout.Encodes items message) (wellFormed : ∀ item ∈ items, WellFormed item)
    (few : items.length + 1 < 2 ^ 31) :
    Parses mp toUpperInvariant messageType items message ↔
      ¬ Misreads mp toUpperInvariant messageType items := by
  by_cases follows : FollowsLayout (items.length + 1) messageType
  · have parses := parses_of_follows lawful found encodes wellFormed few follows
    exact ⟨fun _ => not_misreads_of_follows follows, fun _ => parses⟩
  · unfold FollowsLayout at follows
    split at follows
    · -- Four members of a handshake request are required.
      cases found
      have members := Layout.requires_succ (fun _ => Layout.requires_succ fun _ =>
        Layout.requires_succ fun _ => Layout.requires_zero _) _ _ encodes
      exact absurd (by omega) follows
    · cases found
      exact parses_openConnection_iff lawful (by omega) encodes wellFormed few
    · cases found
      exact parses_groupBroadcastData_iff lawful (by omega) encodes wellFormed few
    · cases found
      have members := Layout.requires_succ (fun _ => Layout.requires_succ fun _ =>
        Layout.requires_succ fun _ => Layout.requires_succ fun _ =>
          Layout.requires_zero _) _ _ encodes
      have cut : items.length = 4 := by omega
      refine ⟨fun parses => absurd parses ?_, fun read => absurd cut read⟩
      exact not_parses_serviceEvent lawful noHeader cut encodes wellFormed few
    · exact absurd trivial follows

/-- An array that is cut inside its optional members gives every member that is left
and the defaults of the others, and a complete array gives the same with any further
items, if and only if it is not misread. -/
theorem parseMessage_versions_iff {layout : Layout UInt8 Exn ServiceMessage}
    (noHeader : ∃ error, mp.readMapHeader.run [] = .error error)
    (found : messageLayout mp toUpperInvariant messageType = some layout)
    (encodes : layout.Encodes items message) (wellFormed : ∀ item ∈ items, WellFormed item)
    (few : items.length + 1 < 2 ^ 31) :
    (Parses mp toUpperInvariant messageType items message ∧
      (layout.EncodesWhole items message → ∀ extra : List Bytes,
        (∀ item ∈ extra, WellFormed item) → (items ++ extra).length + 1 < 2 ^ 31 →
          Parses mp toUpperInvariant messageType (items ++ extra) message)) ↔
      ¬ Misreads mp toUpperInvariant messageType items := by
  rw [parses_iff lawful noHeader found encodes wellFormed few]
  refine ⟨fun both => both.1, fun read => ⟨read, ?_⟩⟩
  intro whole extra extraWellFormed stillFew
  refine parses_of_follows lawful found (whole.append extra) ?_ stillFew
    (follows_of_encodesWhole found whole extra)
  intro item member
  rcases List.mem_append.mp member with mine | added
  · exact wellFormed item mine
  · exact extraWellFormed item added

end Arrays

/-! ## Arrays of other versions -/

theorem consumes_of_encode {α : Type} {reader : Reader α} {tokens : List Token} {value : α}
    {bytes : Bytes} (reads : messagePackFormat.Reads reader tokens value)
    (written : messagePackFormat.encode tokens = bytes) (short : bytes.length < 2 ^ 31) :
    reader.Consumes bytes value := by
  have fits : messagePackFormat.Fits tokens := by
    unfold MessagePack.Fits
    rw [written]
    exact short
  rw [← written]
  exact reads fits

/-- A handshake response without its optional members, and a complete one with a
further item. -/
theorem parseMessage_versions_iff_handshakeResponse :
    Parses messagePackFormat Char.toUpper handshakeResponseType [[0xc0]]
      (.handshakeResponse { errorMessage := none, connectionId := none }) ∧
    Parses messagePackFormat Char.toUpper handshakeResponseType
      [[0xc0], [0x80], [0xa1, 0x63], [0xc3]]
      (.handshakeResponse { errorMessage := none, connectionId := some "c" }) := by
  have noHeader : ∃ error, messagePackFormat.readMapHeader.run [] = .error error := ⟨_, rfl⟩
  have errorMessage : (readString messagePackFormat "errorMessage").Consumes [0xc0] none :=
    consumes_of_encode (reads_readString messagePackFormat_lawful _ none) (by decide) (by decide)
  have members : (ExtensionMembers.read messagePackFormat .plain {}).Consumes [0x80] {} :=
    consumes_of_encode (reads_noExtension messagePackFormat_lawful) (by decide) (by decide)
  have connectionId : (readString messagePackFormat "connectionId").Consumes [0xa1, 0x63]
      (some "c") :=
    consumes_of_encode (reads_readString messagePackFormat_lawful _ (some "c"))
      (by decide +kernel) (by decide)
  have nilWellFormed : WellFormed [0xc0] := .cons (.constant 0xc0 (by decide)) .nil
  have mapWellFormed : WellFormed [0x80] := .cons (.fixmap 0x80 (by decide) (by decide)) .nil
  have stringWellFormed : WellFormed [0xa1, 0x63] :=
    .cons (.fixstr 0xa1 [0x63] (by decide) (by decide) (by decide)) .nil
  have trueWellFormed : WellFormed [0xc3] := .cons (.constant 0xc3 (by decide)) .nil
  have cut := (parseMessage_versions_iff messagePackFormat_lawful noHeader
    (rfl : messageLayout messagePackFormat Char.toUpper handshakeResponseType = _)
    (.member errorMessage (.cut (.cut (.done _ [])))) (by simpa using nilWellFormed)
    (by decide)).mpr fun misreads => misreads
  have whole : ((handshakeResponseLayout messagePackFormat).map
      ServiceMessage.handshakeResponse).EncodesWhole [[0xc0], [0x80], [0xa1, 0x63]]
      (.handshakeResponse { errorMessage := none, connectionId := some "c" }) :=
    .member errorMessage (.member members (.member connectionId (.done _)))
  have wellFormed : ∀ item ∈ [[0xc0], [0x80], [0xa1, 0x63]], WellFormed item := by
    simpa using ⟨nilWellFormed, mapWellFormed, stringWellFormed⟩
  have extended := (parseMessage_versions_iff messagePackFormat_lawful noHeader
    (rfl : messageLayout messagePackFormat Char.toUpper handshakeResponseType = _)
    (whole.append []) wellFormed (by decide)).mpr fun misreads => misreads
  exact ⟨cut.1, extended.2 whole [[0xc3]] (by simpa using trueWellFormed) (by decide)⟩

/-- A broadcast to a group that ends behind its excluded users: the user `u` is not
excluded. -/
theorem parseMessage_groupBroadcastData_users :
    ((groupBroadcastDataLayout messagePackFormat Char.toUpper).map
        ServiceMessage.groupBroadcastData).Encodes
      [[0xa1, 0x67], [0x90], [0x80], [0x80], [0x91, 0xa1, 0x75]]
      (.groupBroadcastData
        { groupName := "g"
          excludedList := some []
          payloads := some []
          excludedUserList := some ["u"]
          callerUserId := none }) ∧
    Parses messagePackFormat Char.toUpper groupBroadcastDataMessageType
      [[0xa1, 0x67], [0x90], [0x80], [0x80], [0x91, 0xa1, 0x75]]
      (.groupBroadcastData
        { groupName := "g"
          excludedList := some []
          payloads := some []
          excludedUserList := some []
          callerUserId := none }) := by
  have groupName : (readStringNotNull messagePackFormat "groupName").Consumes [0xa1, 0x67] "g" :=
    consumes_of_encode (reads_readStringNotNull messagePackFormat_lawful _ "g")
      (by decide +kernel) (by decide)
  have excludedList : (readStringArray messagePackFormat "excludedList").Consumes [0x90] [] :=
    consumes_of_encode (reads_readStringArray messagePackFormat_lawful _ none)
      (by decide) (by decide)
  have payloads : (readPayloads messagePackFormat Char.toUpper).Consumes [0x80] [] :=
    consumes_of_encode (reads_readPayloads messagePackFormat_lawful Char.toUpper none)
      (by decide) (by decide)
  have members : (ExtensionMembers.read messagePackFormat .multicast {}).Consumes [0x80] {} :=
    consumes_of_encode (reads_multicast messagePackFormat_lawful none none)
      (by decide) (by decide)
  have users : (readStringArray messagePackFormat "excludedUserList").Consumes
      [0x91, 0xa1, 0x75] ["u"] :=
    consumes_of_encode (reads_readStringArray messagePackFormat_lawful _ (some ["u"]))
      (by decide +kernel) (by decide)
  refine ⟨?_, [0x91, 0xa1, 0x75], by decide +kernel⟩
  exact .member groupName (.member excludedList (.member payloads (.member members
    (.member users (.cut (.done _ []))))))

end AzureSignalR.Protocol
