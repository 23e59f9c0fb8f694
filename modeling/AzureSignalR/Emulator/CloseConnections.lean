import AzureSignalR.Emulator.GroupManager

/-!
Contract: the requests of the emulator that close connections.

Owns: a hub with its connections and groups, `CloseConnections`, `CloseGroupConnections` and
`CloseUserConnections`, and when they honour the exclusion list.

Does not own: validation of the parameters, which is a flag, and the lookup of the hub by its name.
-/

set_option autoImplicit false

namespace AzureSignalR.Emulator

open Library.KeyedSets ManyToManyMap

/-- What `DynamicHubContext` has of a hub. No connection id is in the store twice. -/
structure Hub where
  connections : List HubConnectionContext
  groups : GroupManager
  distinct : (connections.map HubConnectionContext.connectionId).Nodup
  sound : groups.Sound

namespace Hub

def empty : Hub := ⟨[], {}, List.nodup_nil, GroupManager.sound_empty⟩

/-- The indexer of `HubConnectionStore`. -/
def getConnection (hub : Hub) (connectionId : String) : Option HubConnectionContext :=
  hub.connections.find? fun connection => connection.connectionId = connectionId

/-- `CachedHubLifetimeManager.OnConnectedAsync`; the store keeps a connection it has. -/
def onConnectedAsync (hub : Hub) (connection : HubConnectionContext) : Hub where
  connections :=
    if connection.connectionId ∈ hub.connections.map HubConnectionContext.connectionId then
      hub.connections
    else hub.connections ++ [connection]
  groups := hub.groups.onConnectionOpenning connection
  distinct := by
    split_ifs with present
    · exact hub.distinct
    · rw [List.map_append, List.map_singleton]
      apply List.nodup_append.mpr ⟨hub.distinct, List.nodup_singleton _, ?_⟩
      intro old isOld new isNew
      rw [List.mem_singleton.mp isNew]
      exact fun same => present (same ▸ isOld)
  sound := hub.sound.perform (.onConnectionOpenning connection)

end Hub

/-- `CloseMessage`, as sent to a connection. -/
structure Close where
  connection : HubConnectionContext
  error : Option String
  allowReconnect : Bool
deriving DecidableEq, Repr

inductive ActionResult where
  | badRequest
  | noContent
deriving DecidableEq, Repr

def sendCloseAsync (reason : Option String) (connection : HubConnectionContext) : Close :=
  ⟨connection, reason, true⟩

/-- The handler of the three requests: what it answers and sends. -/
def close (isValid : Bool) (context : Option Hub) (select : Hub → List HubConnectionContext)
    (reason : Option String) : ActionResult × List Close :=
  if isValid then
    match context with
    | some hub => (.noContent, (select hub).map (sendCloseAsync reason))
    | none => (.noContent, [])
  else (.badRequest, [])

/-- The exclusion list is a parameter that is not read. -/
def closeConnections (isValid : Bool) (context : Option Hub) (_excluded : Option (List String))
    (reason : Option String) : ActionResult × List Close :=
  close isValid context Hub.connections reason

/-- The connections of a group, which are in the store. -/
def connectionsForGroup (group : String) (hub : Hub) : List HubConnectionContext :=
  (hub.groups.connectionGroupMap.queryByRight group).filterMap hub.getConnection

def closeGroupConnections (isValid : Bool) (context : Option Hub) (group : String)
    (_excluded : Option (List String)) (reason : Option String) : ActionResult × List Close :=
  close isValid context (connectionsForGroup group) reason

/-- `GetConnectionsForUser`. -/
def connectionsForUser (user : String) (hub : Hub) : List HubConnectionContext :=
  hub.groups.connectionsOf user

def closeUserConnections (isValid : Bool) (context : Option Hub) (user : String)
    (_excluded : Option (List String)) (reason : Option String) : ActionResult × List Close :=
  close isValid context (connectionsForUser user) reason

namespace CloseConnections

/-- A close is sent to exactly the connections with the property whose id is not excluded, once to
each. -/
def Honours (excluded : Option (List String)) (property : HubConnectionContext → Prop)
    (closes : List Close) : Prop :=
  Lists (closes.map Close.connection) fun connection =>
    property connection ∧ connection.connectionId ∉ excluded.getD []

variable {hub : Hub}

theorem of_getConnection {connectionId : String} {connection : HubConnectionContext}
    (found : hub.getConnection connectionId = some connection) :
    connection ∈ hub.connections ∧ connection.connectionId = connectionId := by
  rw [Hub.getConnection] at found
  exact ⟨List.mem_of_find?_eq_some found, by simpa using List.find?_some found⟩

theorem getConnection_eq_some_iff {connectionId : String} {connection : HubConnectionContext} :
    hub.getConnection connectionId = some connection ↔
      connection ∈ hub.connections ∧ connection.connectionId = connectionId := by
  constructor
  · exact of_getConnection
  · rintro ⟨member, rfl⟩
    cases found : hub.getConnection connection.connectionId with
    | none =>
        have differs := List.find?_eq_none.mp found connection member
        simp at differs
    | some other =>
        obtain ⟨isOther, sameId⟩ := of_getConnection found
        rw [List.inj_on_of_nodup_map hub.distinct isOther member sameId]

theorem lists_connections (hub : Hub) : Lists hub.connections (· ∈ hub.connections) :=
  ⟨hub.distinct.of_map _, fun _ => Iff.rfl⟩

theorem lists_connectionsForGroup (hub : Hub) (group : String) :
    Lists (connectionsForGroup group hub) fun connection => connection ∈ hub.connections ∧
      group ∈ hub.groups.connectionGroupMap.queryByLeft connection.connectionId := by
  obtain ⟨pairs, represents⟩ := hub.sound.connectionGroups
  obtain ⟨distinct, members⟩ := represents.queryByRight group
  constructor
  · apply distinct.filterMap
    intro first second connection isFirst isSecond
    exact (getConnection_eq_some_iff.1 isFirst).2.symm.trans
      (getConnection_eq_some_iff.1 isSecond).2
  · intro connection
    show connection ∈ connectionsForGroup group hub ↔ connection ∈ hub.connections ∧
      group ∈ hub.groups.connectionGroupMap.queryByLeft connection.connectionId
    rw [connectionsForGroup, List.mem_filterMap, (represents.queryByLeft _).2]
    constructor
    · rintro ⟨connectionId, isMember, found⟩
      obtain ⟨member, rfl⟩ := getConnection_eq_some_iff.1 found
      exact ⟨member, (members _).mp isMember⟩
    · rintro ⟨member, isPair⟩
      exact ⟨connection.connectionId, (members _).mpr isPair,
        getConnection_eq_some_iff.2 ⟨member, rfl⟩⟩

theorem lists_connectionsForUser (hub : Hub) (user : String) :
    Lists (connectionsForUser user hub) (· ∈ hub.groups.connectionsOf user) :=
  ⟨(hub.sound.distinct user).of_map _, fun _ => Iff.rfl⟩

/-- As nothing is left out, the exclusion list is honoured when it excludes nothing. -/
theorem honours_close_iff {select : Hub → List HubConnectionContext}
    {property : HubConnectionContext → Prop} (lists : Lists (select hub) property)
    (excluded : Option (List String)) (reason : Option String) :
    Honours excluded property (close true (some hub) select reason).2 ↔
      ∀ connection, property connection → connection.connectionId ∉ excluded.getD [] := by
  have sent : (close true (some hub) select reason).2.map Close.connection = select hub := by
    show ((select hub).map (sendCloseAsync reason)).map Close.connection = _
    rw [List.map_map]
    exact List.map_id _
  rw [Honours, sent]
  constructor
  · intro honours connection has
    exact ((honours.2 connection).mp ((lists.2 connection).mpr has)).2
  · intro none
    exact lists.congr fun connection => (and_iff_left_of_imp (none connection)).symm

/-- A request honours the exclusion list if and only if the list excludes no connection of the hub,
of the group or of the user. -/
theorem closing_honours_iff (hub : Hub) (group user : String) (excluded : Option (List String))
    (reason : Option String) :
    (Honours excluded (· ∈ hub.connections) (closeConnections true (some hub) excluded reason).2 ↔
      ∀ connection, connection ∈ hub.connections →
        connection.connectionId ∉ excluded.getD []) ∧
    (Honours excluded (fun connection => connection ∈ hub.connections ∧
          group ∈ hub.groups.connectionGroupMap.queryByLeft connection.connectionId)
        (closeGroupConnections true (some hub) group excluded reason).2 ↔
      ∀ connection, (connection ∈ hub.connections ∧
          group ∈ hub.groups.connectionGroupMap.queryByLeft connection.connectionId) →
        connection.connectionId ∉ excluded.getD []) ∧
    (Honours excluded (· ∈ hub.groups.connectionsOf user)
        (closeUserConnections true (some hub) user excluded reason).2 ↔
      ∀ connection, connection ∈ hub.groups.connectionsOf user →
        connection.connectionId ∉ excluded.getD []) :=
  ⟨honours_close_iff (lists_connections hub) excluded reason,
    honours_close_iff (lists_connectionsForGroup hub group) excluded reason,
    honours_close_iff (lists_connectionsForUser hub user) excluded reason⟩

/-- Two connections, one of them excluded. -/
theorem closing_ignores_exclusion :
    let kept : HubConnectionContext := ⟨"a", none⟩
    let hub := (Hub.empty.onConnectedAsync kept).onConnectedAsync ⟨"b", some "u"⟩
    ¬Honours (some ["a"]) (· ∈ hub.connections)
      (closeConnections true (some hub) (some ["a"]) none).2 := by
  intro kept hub honours
  have closed : kept ∈ ((closeConnections true (some hub) (some ["a"]) none).2.map
    Close.connection) := by decide
  exact ((honours.2 kept).mp closed).2 (by decide)

end CloseConnections

end AzureSignalR.Emulator
