import AzureSignalR.Emulator.ManyToManyMap
import AzureSignalR.Library.Machine

/-!
Contract: the groups of the emulator, and how a connection or a user leaves all of them.

Owns: `GroupManager` with its four tables, every operation on them, what an operation that throws
leaves behind, and when leaving all groups returns.

Does not own: calls that overlap, and the clock. An expiry runs at any time; a connection is told
apart by its id and its user.
-/

set_option autoImplicit false

namespace AzureSignalR.Emulator

open Library Library.KeyedSets

structure HubConnectionContext where
  connectionId : String
  userIdentifier : Option String
deriving DecidableEq, Repr

/-- A number of ticks. -/
abbrev DateTimeOffset := Int

structure GroupManager where
  connectionGroupMap : ManyToManyMap String String := {}
  userGroupMap : ManyToManyMap String String := {}
  userConnections : List (String × List HubConnectionContext) := []
  expires : List ((String × String) × DateTimeOffset) := []
deriving DecidableEq, Repr

namespace GroupManager

/-- The open connections of a user. -/
def connectionsOf (manager : GroupManager) (user : String) : List HubConnectionContext :=
  (tryGetValue manager.userConnections user).getD []

def addConnectionIntoGroup (manager : GroupManager) (connectionId group : String) : GroupManager :=
  { manager with connectionGroupMap := manager.connectionGroupMap.add connectionId group }

def removeConnectionFromGroup (manager : GroupManager) (connectionId group : String) :
    GroupManager × Bool :=
  let (connectionGroupMap, found) := manager.connectionGroupMap.remove connectionId group
  ({ manager with connectionGroupMap }, found)

/-- What an operation leaves behind, and what it throws. -/
abbrev Result := GroupManager × Option Exn

def removeConnectionFromAllGroups (manager : GroupManager) (connectionId : String) : Result :=
  match manager.connectionGroupMap.removeLeft connectionId with
  | .ok connectionGroupMap => ({ manager with connectionGroupMap }, none)
  | .error error => (manager, some error)

/-- `_expires[key] = value`. -/
def setExpiry (expires : List ((String × String) × DateTimeOffset)) (key : String × String)
    (expireAt : DateTimeOffset) : List ((String × String) × DateTimeOffset) :=
  expires.filter (fun entry => entry.1 ≠ key) ++ [(key, expireAt)]

def removeExpiry (expires : List ((String × String) × DateTimeOffset)) (key : String × String) :
    List ((String × String) × DateTimeOffset) :=
  expires.filter fun entry => entry.1 ≠ key

/-- A user gets an empty set of connections when there is none. -/
def getOrAdd (userConnections : List (String × List HubConnectionContext)) (user : String) :
    List (String × List HubConnectionContext) :=
  match tryGetValue userConnections user with
  | some _ => userConnections
  | none => userConnections ++ [(user, [])]

def addUserToGroup (manager : GroupManager) (user group : String) (expireAt : DateTimeOffset) :
    GroupManager :=
  { connectionGroupMap := (manager.connectionsOf user).foldl
      (fun map connection => map.add connection.connectionId group) manager.connectionGroupMap
    userGroupMap := manager.userGroupMap.add user group
    userConnections := getOrAdd manager.userConnections user
    expires := setExpiry manager.expires (user, group) expireAt }

def removeUserFromGroup (manager : GroupManager) (user group : String) : GroupManager :=
  { manager with
    connectionGroupMap := (manager.connectionsOf user).foldl
      (fun map connection => (map.remove connection.connectionId group).1)
      manager.connectionGroupMap
    userGroupMap := (manager.userGroupMap.remove user group).1
    expires := removeExpiry manager.expires (user, group) }

/-- The loop of `RemoveUserFromAllGroups`, up to the first connection that throws. -/
def removeLefts (map : ManyToManyMap String String) :
    List HubConnectionContext → ManyToManyMap String String × Option Exn
  | [] => (map, none)
  | connection :: connections =>
      match map.removeLeft connection.connectionId with
      | .ok map => removeLefts map connections
      | .error error => (map, some error)

def removeUserFromAllGroups (manager : GroupManager) (user : String) : Result :=
  match manager.userGroupMap.removeLeft user with
  | .error error => (manager, some error)
  | .ok userGroupMap =>
      let expires := manager.expires.filter fun entry => entry.1.1 ≠ user
      let (connectionGroupMap, thrown) :=
        removeLefts manager.connectionGroupMap (manager.connectionsOf user)
      ({ manager with connectionGroupMap, userGroupMap, expires }, thrown)

def onConnectionClosing (manager : GroupManager) (connection : HubConnectionContext) :
    GroupManager :=
  { manager with
    connectionGroupMap := (manager.connectionGroupMap.queryByLeft connection.connectionId).foldl
      (fun map group => (map.remove connection.connectionId group).1) manager.connectionGroupMap
    userConnections :=
      match connection.userIdentifier with
      | none => manager.userConnections
      | some user => (discard setEquals manager.userConnections user connection).1 }

def onConnectionOpenning (manager : GroupManager) (connection : HubConnectionContext) :
    GroupManager :=
  match connection.userIdentifier with
  | none => manager
  | some user =>
      { manager with
        connectionGroupMap := (manager.userGroupMap.queryByLeft user).foldl
          (fun map group => map.add connection.connectionId group) manager.connectionGroupMap
        userConnections := addOrUpdate user connection manager.userConnections }

/-- One turn of the loop of `CleanExpiresCoreAsync`. -/
def cleanExpires (manager : GroupManager) (now : DateTimeOffset) : GroupManager :=
  let items := (manager.expires.filter fun entry => entry.2 < now).map Prod.fst
  { manager with
    userGroupMap := items.foldl (fun map item => (map.remove item.1 item.2).1) manager.userGroupMap
    expires := items.foldl removeExpiry manager.expires }

/-! ## Operations -/

inductive Operation where
  | addConnectionIntoGroup (connectionId group : String)
  | removeConnectionFromGroup (connectionId group : String)
  | removeConnectionFromAllGroups (connectionId : String)
  | addUserToGroup (user group : String) (expireAt : DateTimeOffset)
  | removeUserFromGroup (user group : String)
  | removeUserFromAllGroups (user : String)
  | onConnectionClosing (connection : HubConnectionContext)
  | onConnectionOpenning (connection : HubConnectionContext)
  | cleanExpires (now : DateTimeOffset)
deriving Repr

def perform (manager : GroupManager) : Operation → Result
  | .addConnectionIntoGroup connectionId group =>
      (manager.addConnectionIntoGroup connectionId group, none)
  | .removeConnectionFromGroup connectionId group =>
      ((manager.removeConnectionFromGroup connectionId group).1, none)
  | .removeConnectionFromAllGroups connectionId =>
      manager.removeConnectionFromAllGroups connectionId
  | .addUserToGroup user group expireAt => (manager.addUserToGroup user group expireAt, none)
  | .removeUserFromGroup user group => (manager.removeUserFromGroup user group, none)
  | .removeUserFromAllGroups user => manager.removeUserFromAllGroups user
  | .onConnectionClosing connection => (manager.onConnectionClosing connection, none)
  | .onConnectionOpenning connection => (manager.onConnectionOpenning connection, none)
  | .cleanExpires now => (manager.cleanExpires now, none)

/-- The tables go on as an operation leaves them, also when it throws. -/
def step (manager : GroupManager) (operation : Operation) : Option GroupManager :=
  some (manager.perform operation).1

/-! ## What holds of the tables -/

/-- The map stands for a set of pairs. -/
def Consistent (map : ManyToManyMap String String) : Prop := ∃ pairs, map.Represents pairs

structure Sound (manager : GroupManager) : Prop where
  connectionGroups : Consistent manager.connectionGroupMap
  userGroups : Consistent manager.userGroupMap
  /-- The connections of a user are different ones of this user. -/
  connections : ∀ entry ∈ manager.userConnections, entry.2.Nodup ∧
    ∀ connection ∈ entry.2, connection.userIdentifier = some entry.1

section Consistent

variable {map : ManyToManyMap String String}

theorem Consistent.add (consistent : Consistent map) (left right : String) :
    Consistent (map.add left right) :=
  consistent.elim fun _ represents => ⟨_, represents.add left right⟩

theorem Consistent.remove (consistent : Consistent map) (left right : String) :
    Consistent (map.remove left right).1 :=
  consistent.elim fun _ represents => ⟨_, represents.removeBoth left right⟩

theorem Consistent.removeLeft (consistent : Consistent map) {left : String}
    {next : ManyToManyMap String String} (isOk : map.removeLeft left = .ok next) :
    Consistent next := by
  obtain ⟨pairs, represents⟩ := consistent
  by_cases present : ∃ right, (left, right) ∈ pairs
  · obtain ⟨other, also, represented⟩ := represents.removeLeft_ok present
    rw [isOk] at also
    exact ⟨_, Except.ok.inj also ▸ represented⟩
  · rw [represents.removeLeft_error fun right member => present ⟨right, member⟩] at isOk
    exact nomatch isOk

/-- A loop of changes that keep the map consistent. -/
theorem Consistent.foldl {α : Type}
    {change : ManyToManyMap String String → α → ManyToManyMap String String}
    (keeps : ∀ {map} item, Consistent map → Consistent (change map item))
    (items : List α) (consistent : Consistent map) : Consistent (items.foldl change map) := by
  induction items generalizing map with
  | nil => exact consistent
  | cons item items inductionHypothesis => exact inductionHypothesis (keeps item consistent)

theorem Consistent.removeLefts (consistent : Consistent map)
    (connections : List HubConnectionContext) : Consistent (removeLefts map connections).1 := by
  induction connections generalizing map with
  | nil => exact consistent
  | cons connection connections inductionHypothesis =>
      rw [GroupManager.removeLefts]
      cases isOk : map.removeLeft connection.connectionId with
      | ok next => exact inductionHypothesis (consistent.removeLeft isOk)
      | error error => exact consistent

end Consistent

variable {manager : GroupManager}

theorem sound_empty : Sound {} where
  connectionGroups := ⟨∅, ManyToManyMap.represents_empty⟩
  userGroups := ⟨∅, ManyToManyMap.represents_empty⟩
  connections := nofun

theorem Sound.perform (sound : Sound manager) (operation : Operation) :
    Sound (manager.perform operation).1 := by
  cases operation with
  | addConnectionIntoGroup connectionId group =>
      exact ⟨sound.connectionGroups.add connectionId group, sound.userGroups, sound.connections⟩
  | removeConnectionFromGroup connectionId group =>
      exact ⟨sound.connectionGroups.remove connectionId group, sound.userGroups, sound.connections⟩
  | removeConnectionFromAllGroups connectionId =>
      show Sound (manager.removeConnectionFromAllGroups connectionId).1
      rw [removeConnectionFromAllGroups]
      cases isOk : manager.connectionGroupMap.removeLeft connectionId with
      | ok next =>
          exact ⟨sound.connectionGroups.removeLeft isOk, sound.userGroups, sound.connections⟩
      | error error => exact sound
  | addUserToGroup user group expireAt =>
      refine ⟨sound.connectionGroups.foldl (fun _ kept => kept.add _ _) _,
        sound.userGroups.add user group, ?_⟩
      show ∀ entry ∈ getOrAdd manager.userConnections user, _
      rw [getOrAdd]
      cases tryGetValue manager.userConnections user with
      | some connections => exact sound.connections
      | none =>
          intro entry member
          rcases List.mem_append.mp member with old | new
          · exact sound.connections entry old
          · rw [List.mem_singleton.mp new]
            exact ⟨List.nodup_nil, nofun⟩
  | removeUserFromGroup user group =>
      exact ⟨sound.connectionGroups.foldl (fun _ kept => kept.remove _ _) _,
        sound.userGroups.remove user group, sound.connections⟩
  | removeUserFromAllGroups user =>
      show Sound (manager.removeUserFromAllGroups user).1
      rw [removeUserFromAllGroups]
      cases isOk : manager.userGroupMap.removeLeft user with
      | ok next =>
          exact ⟨sound.connectionGroups.removeLefts _, sound.userGroups.removeLeft isOk,
            sound.connections⟩
      | error error => exact sound
  | onConnectionClosing connection =>
      refine ⟨sound.connectionGroups.foldl (fun _ kept => kept.remove _ _) _, sound.userGroups, ?_⟩
      show ∀ entry ∈ (match connection.userIdentifier with
        | none => manager.userConnections
        | some user => (discard setEquals manager.userConnections user connection).1), _
      cases connection.userIdentifier with
      | none => exact sound.connections
      | some user =>
          intro entry member
          rcases of_mem_discard member with old | ⟨items, found, rfl, -⟩
          · exact sound.connections entry old
          · obtain ⟨distinct, own⟩ := sound.connections _ (mem_of_tryGetValue found)
            exact ⟨distinct.erase connection, fun other isOther =>
              own other (List.mem_of_mem_erase isOther)⟩
  | onConnectionOpenning connection =>
      show Sound (manager.onConnectionOpenning connection)
      rw [onConnectionOpenning]
      cases isUser : connection.userIdentifier with
      | none => exact sound
      | some user =>
          refine ⟨sound.connectionGroups.foldl (fun _ kept => kept.add _ _) _, sound.userGroups, ?_⟩
          intro entry member
          rcases of_mem_addOrUpdate member with old | rfl | ⟨items, isOld, rfl⟩
          · exact sound.connections entry old
          · exact ⟨List.nodup_singleton connection, fun other isOther => by
              rw [List.mem_singleton.mp isOther, isUser]⟩
          · obtain ⟨distinct, own⟩ := sound.connections _ isOld
            refine ⟨nodup_addItem distinct connection, fun other isOther => ?_⟩
            rcases mem_addItem.1 isOther with rfl | old
            · exact isUser
            · exact own other old
  | cleanExpires now =>
      exact ⟨sound.connectionGroups, sound.userGroups.foldl (fun _ kept => kept.remove _ _) _,
        sound.connections⟩

theorem sound_of_run {operations : List Operation} {final : GroupManager}
    (ran : Machine.run step {} operations = some final) : Sound final :=
  Machine.run_invariant (fun sound stepped => Option.some.inj stepped ▸ sound.perform _)
    sound_empty ran

/-! ## Leaving all groups -/

/-- It is in no group, in neither index. -/
def Outside (map : ManyToManyMap String String) (left : String) : Prop :=
  ∀ group, group ∉ map.queryByLeft left ∧ left ∉ map.queryByRight group

/-- The members that do not leave are in the groups they were in. -/
def SameBut (before after : ManyToManyMap String String) (leaving : String → Prop) : Prop :=
  ∀ left, ¬leaving left → ∀ group,
    (group ∈ after.queryByLeft left ↔ group ∈ before.queryByLeft left) ∧
      (left ∈ after.queryByRight group ↔ left ∈ before.queryByRight group)

/-- The connection has left all groups, and nothing else has changed. -/
structure ConnectionLeft (before : GroupManager) (connectionId : String) (result : Result) :
    Prop where
  returns : result.2 = none
  outside : Outside result.1.connectionGroupMap connectionId
  others : SameBut before.connectionGroupMap result.1.connectionGroupMap (· = connectionId)
  users : result.1.userGroupMap = before.userGroupMap ∧ result.1.expires = before.expires ∧
    result.1.userConnections = before.userConnections

/-- The user and its open connections have left all groups, and nothing else has changed. -/
structure UserLeft (before : GroupManager) (user : String) (result : Result) : Prop where
  returns : result.2 = none
  outside : Outside result.1.userGroupMap user
  noExpiry : ∀ entry ∈ result.1.expires, entry.1.1 ≠ user
  connectionsOutside : ∀ connection ∈ before.connectionsOf user,
    Outside result.1.connectionGroupMap connection.connectionId
  otherUsers : SameBut before.userGroupMap result.1.userGroupMap (· = user)
  otherExpiries : ∀ entry, entry.1.1 ≠ user → (entry ∈ result.1.expires ↔ entry ∈ before.expires)
  otherConnections : SameBut before.connectionGroupMap result.1.connectionGroupMap fun left =>
    ∃ connection ∈ before.connectionsOf user, connection.connectionId = left
  connections : result.1.userConnections = before.userConnections

section Leaving

variable {map next : ManyToManyMap String String} {pairs : Set (String × String)}

theorem outside_of_represents (represents : map.Represents pairs) {left : String}
    (absent : ∀ right, (left, right) ∉ pairs) : Outside map left := by
  intro group
  rw [(represents.queryByLeft left).2, (represents.queryByRight group).2]
  exact ⟨absent group, absent group⟩

theorem sameBut_of_represents {leaving : String → Prop} (before : map.Represents pairs)
    (after : next.Represents {pair ∈ pairs | ¬leaving pair.1}) : SameBut map next leaving := by
  intro left stays group
  rw [(before.queryByLeft left).2, (before.queryByRight group).2, (after.queryByLeft left).2,
    (after.queryByRight group).2]
  have kept : (left, group) ∈ {pair ∈ pairs | ¬leaving pair.1} ↔ (left, group) ∈ pairs :=
    and_iff_left stays
  exact ⟨kept, kept⟩

theorem queryByLeft_ne_nil_iff (represents : map.Represents pairs) (left : String) :
    map.queryByLeft left ≠ [] ↔ ∃ right, (left, right) ∈ pairs := by
  have members := (represents.queryByLeft left).2
  constructor
  · intro some
    obtain ⟨right, member⟩ := List.exists_mem_of_ne_nil _ some
    exact ⟨right, (members right).mp member⟩
  · rintro ⟨right, member⟩
    exact List.ne_nil_of_mem ((members right).mpr member)

/-- Different connections that are all in a group leave one after the other. -/
theorem removeLefts_ok {connections : List HubConnectionContext}
    (represents : map.Represents pairs)
    (distinct : (connections.map HubConnectionContext.connectionId).Nodup)
    (present : ∀ connection ∈ connections, ∃ group, (connection.connectionId, group) ∈ pairs) :
    ∃ final, removeLefts map connections = (final, none) ∧ final.Represents
      {pair ∈ pairs | ¬∃ connection ∈ connections, connection.connectionId = pair.1} := by
  induction connections generalizing map pairs with
  | nil =>
      exact ⟨map, rfl, represents.congr fun left right => by simp⟩
  | cons connection connections inductionHypothesis =>
      obtain ⟨notLater, distinctLater⟩ := List.nodup_cons.mp distinct
      obtain ⟨middle, isOk, represented⟩ :=
        represents.removeLeft_ok (present connection List.mem_cons_self)
      obtain ⟨final, ends, last⟩ := inductionHypothesis represented distinctLater (by
        intro other member
        obtain ⟨group, isPair⟩ := present other (List.mem_cons_of_mem _ member)
        refine ⟨group, isPair, fun same => notLater ?_⟩
        exact List.mem_map.mpr ⟨other, member, same⟩)
      refine ⟨final, ?_, ?_⟩
      · rw [removeLefts, isOk]
        exact ends
      · refine last.congr fun left right => ?_
        show ((left, right) ∈ pairs ∧ left ≠ connection.connectionId) ∧
          (¬∃ other ∈ connections, other.connectionId = left) ↔
            (left, right) ∈ pairs ∧
              ¬∃ other ∈ connection :: connections, other.connectionId = left
        rw [List.exists_mem_cons_iff, not_or, and_assoc, ne_comm]

/-- A loop that returns has found every connection in a group. -/
theorem present_of_removeLefts {connections : List HubConnectionContext}
    (represents : map.Represents pairs) (returns : (removeLefts map connections).2 = none) :
    ∀ connection ∈ connections, ∃ group, (connection.connectionId, group) ∈ pairs := by
  induction connections generalizing map pairs with
  | nil => nofun
  | cons connection connections inductionHypothesis =>
      by_cases present : ∃ group, (connection.connectionId, group) ∈ pairs
      · obtain ⟨middle, isOk, represented⟩ := represents.removeLeft_ok present
        rw [removeLefts, isOk] at returns
        intro other member
        rcases List.mem_cons.mp member with rfl | later
        · exact present
        · obtain ⟨group, isPair⟩ := inductionHypothesis represented returns other later
          exact ⟨group, isPair.1⟩
      · rw [removeLefts, represents.removeLeft_error fun group member =>
          present ⟨group, member⟩] at returns
        exact nomatch returns

/-- The connections of a user have different ids. -/
theorem Sound.distinct (sound : Sound manager) (user : String) :
    ((manager.connectionsOf user).map HubConnectionContext.connectionId).Nodup := by
  rw [connectionsOf]
  cases found : tryGetValue manager.userConnections user with
  | none => exact List.nodup_nil
  | some connections =>
      obtain ⟨distinct, own⟩ := sound.connections _ (mem_of_tryGetValue found)
      apply distinct.map_on
      intro first isFirst second isSecond sameId
      obtain ⟨firstId, firstUser⟩ := first
      obtain ⟨secondId, secondUser⟩ := second
      rw [HubConnectionContext.mk.injEq]
      exact ⟨sameId, (own _ isFirst).trans (own _ isSecond).symm⟩

theorem connectionLeft_iff (sound : Sound manager) (connectionId : String) :
    ConnectionLeft manager connectionId (manager.removeConnectionFromAllGroups connectionId) ↔
      manager.connectionGroupMap.queryByLeft connectionId ≠ [] := by
  obtain ⟨pairs, represents⟩ := sound.connectionGroups
  rw [queryByLeft_ne_nil_iff represents, removeConnectionFromAllGroups]
  by_cases present : ∃ group, (connectionId, group) ∈ pairs
  · obtain ⟨next, isOk, represented⟩ := represents.removeLeft_ok present
    rw [isOk]
    apply iff_of_true _ present
    refine ⟨rfl, ?_, sameBut_of_represents represents represented, rfl, rfl, rfl⟩
    exact outside_of_represents represented fun group member => member.2 rfl
  · rw [represents.removeLeft_error fun group member => present ⟨group, member⟩]
    exact iff_of_false (fun left => nomatch left.returns) present

theorem userLeft_iff (sound : Sound manager) (user : String) :
    UserLeft manager user (manager.removeUserFromAllGroups user) ↔
      manager.userGroupMap.queryByLeft user ≠ [] ∧
        ∀ connection ∈ manager.connectionsOf user,
          manager.connectionGroupMap.queryByLeft connection.connectionId ≠ [] := by
  obtain ⟨connectionPairs, connectionGroups⟩ := sound.connectionGroups
  obtain ⟨userPairs, userGroups⟩ := sound.userGroups
  simp only [queryByLeft_ne_nil_iff connectionGroups, queryByLeft_ne_nil_iff userGroups]
  rw [removeUserFromAllGroups]
  by_cases isMember : ∃ group, (user, group) ∈ userPairs
  · obtain ⟨userNext, isOk, userAfter⟩ := userGroups.removeLeft_ok isMember
    rw [isOk, and_iff_right isMember]
    constructor
    · intro left
      exact present_of_removeLefts connectionGroups left.returns
    · intro present
      obtain ⟨connectionNext, ends, connectionAfter⟩ :=
        removeLefts_ok connectionGroups (sound.distinct user) present
      simp only [ends]
      constructor
      · rfl
      · exact outside_of_represents userAfter fun group member => member.2 rfl
      · intro entry member
        exact of_decide_eq_true (List.mem_filter.mp member).2
      · intro connection member
        exact outside_of_represents connectionAfter fun group isPair =>
          isPair.2 ⟨connection, member, rfl⟩
      · exact sameBut_of_represents userGroups userAfter
      · intro entry differs
        rw [List.mem_filter, decide_eq_true_iff]
        exact and_iff_left differs
      · exact sameBut_of_represents connectionGroups connectionAfter
      · rfl
  · rw [userGroups.removeLeft_error fun group member => isMember ⟨group, member⟩]
    exact iff_of_false (fun left => nomatch left.returns) fun both => isMember both.1

end Leaving

/-- In every reachable state a connection leaves all groups if and only if it is in one, and a user
if and only if it is in one and so is each of its open connections. -/
theorem leaving_all_groups_iff {operations : List Operation} {manager : GroupManager}
    (ran : Machine.run step {} operations = some manager) (name : String) :
    (ConnectionLeft manager name (manager.removeConnectionFromAllGroups name) ↔
      manager.connectionGroupMap.queryByLeft name ≠ []) ∧
    (UserLeft manager name (manager.removeUserFromAllGroups name) ↔
      manager.userGroupMap.queryByLeft name ≠ [] ∧
        ∀ connection ∈ manager.connectionsOf name,
          manager.connectionGroupMap.queryByLeft connection.connectionId ≠ []) :=
  ⟨connectionLeft_iff (sound_of_run ran) name, userLeft_iff (sound_of_run ran) name⟩

theorem leaving_all_groups_joined :
    let manager : GroupManager :=
      ⟨⟨[("c", ["g"])], [("g", ["c"])]⟩, ⟨[("u", ["g"])], [("g", ["u"])]⟩,
        [("u", [⟨"c", some "u"⟩])], [(("u", "g"), 7)]⟩
    UserLeft manager "u" (manager.removeUserFromAllGroups "u") := by
  intro manager
  have ran : Machine.run step {} [.onConnectionOpenning ⟨"c", some "u"⟩,
      .addUserToGroup "u" "g" 7] = some manager := by
    decide
  exact (leaving_all_groups_iff ran "u").2.mpr (by decide)

/-- The connection of the user has left the group by itself. -/
theorem leaving_all_groups_throws :
    ∃ manager, Machine.run step {} [.onConnectionOpenning ⟨"c", some "u"⟩,
        .addUserToGroup "u" "g" 7, .removeConnectionFromGroup "c" "g"] = some manager ∧
      (manager.removeConnectionFromAllGroups "c").2 = some .nullReference ∧
      (manager.removeUserFromAllGroups "u").2 = some .nullReference :=
  ⟨_, rfl, by decide, by decide⟩

end GroupManager

end AzureSignalR.Emulator
