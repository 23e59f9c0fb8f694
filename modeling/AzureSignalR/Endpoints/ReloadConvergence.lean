import AzureSignalR.Endpoints.ReloadAlgebra
import AzureSignalR.Endpoints.ServiceEndpointManager
import AzureSignalR.Library.Threads

/-!
Contract: when reloads that overlap leave every hub with the endpoints of the manager.

Owns: which steps keep the changes of a hub in the order of the reloads, the invariant of
runs of such steps, and the convergence behind them.

Does not own: reloads that run one after the other, which are such runs; and a reload
whose steps are out of order, which the code lets happen.
-/

set_option autoImplicit false

namespace AzureSignalR.Endpoints.ServiceEndpointManager

open Library Library.Changes

variable {η ι υ : Type}

/-! ## Steps in order -/

/-- The remove has not gone over the hubs yet. -/
def RemoveStage.isRemoving : RemoveStage η → Bool
  | .adding | .removing _ _ | .updating _ _ _ _ => true
  | .waiting | .returned => false

/-- The reload still comes to a hub that is added now. -/
def Reload.Ahead (reload : Reload η υ) : Prop :=
  (reload.added = [] ∨ reload.add.isCreated = false) ∧
    (reload.removed = [] ∨ reload.remove.isRemoving = true)

/-- An add creates an endpoint for every hub whose list was made without it, and stores it in a
list that nobody else changes, that does not have it, and in which no later reload has added or
removed it. -/
def AddInOrder (state : State η ι υ) (number : Nat) (reload : Reload η υ) : AddStage η → Prop
  | .creating _ visited =>
      ∀ hub ∈ state.hubs, (state.lists hub).since ≤ number → hub ∈ visited
  | .updating _ _ _ hub oldEndpoints =>
      (state.lists hub).reference = oldEndpoints ∧
        ∀ identity ∈ reload.added, identity ∉ (state.lists hub).items ∧
          (state.lists hub).version identity ≤ number
  | .updated | .waiting _ | .storing _ _ _ | .done => True

/-- A remove comes to every hub whose list was made with its endpoints, and removes none that a
later reload has added from a list that nobody else changes. -/
def RemoveInOrder (state : State η ι υ) (number : Nat) (reload : Reload η υ) :
    RemoveStage η → Prop
  | .removing _ visited =>
      ∀ hub ∈ state.hubs, (state.lists hub).since ≤ number → hub ∈ visited
  | .updating _ _ hub oldEndpoints =>
      (state.lists hub).reference = oldEndpoints ∧
        ∀ identity ∈ reload.removed, identity ∈ (state.lists hub).items →
          (state.lists hub).version identity ≤ number
  | .adding | .waiting | .returned => True

/-- The step keeps the changes of every hub in the order of the reloads. -/
def InOrder [DecidableEq η] (state : State η ι υ) : Action η ι υ → Prop
  | .tryAdd call =>
      match state.calls call with
      | .returned => True
      -- The reloads that the new list does not have must still come to the hub.
      | .made hub since _ =>
          hub ∈ state.hubs ∨ ∀ reload ∈ state.reloads.drop since, reload.Ahead
  | .add number none =>
      ∀ reload, state.reloads[number]? = some reload → AddInOrder state number reload reload.add
  | .remove number none =>
      ∀ reload, state.reloads[number]? = some reload →
        RemoveInOrder state number reload reload.remove
  | .getEndpoints _ _ | .reload _ | .add _ (some _) | .remove _ (some _) => True

/-! ## The invariant -/

/-- The add still comes to the hub. -/
def AddStage.Owes (hub : η) : AddStage η → Prop
  | .updated | .creating _ _ => True
  | .waiting created => hub ∈ created
  | .storing created due visited => hub ∈ created ∧ hub ∈ due ∧ hub ∉ visited
  | .updating created due visited current _ =>
      hub ∈ created ∧ hub ∈ due ∧ (hub = current ∨ hub ∉ visited)
  | .done => False

/-- The remove still comes to the hub. -/
def RemoveStage.Owes (hub : η) : RemoveStage η → Prop
  | .adding => True
  | .removing _ visited => hub ∉ visited
  | .updating _ visited current _ => hub = current ∨ hub ∉ visited
  | .waiting | .returned => False

/-- The remove has come to the hub. -/
def RemoveStage.Visited (hub : η) : RemoveStage η → Prop
  | .removing _ visited | .updating _ visited _ _ => hub ∈ visited
  | .adding | .waiting | .returned => False

/-- What the reload does to the list of the hub has been done, or is still to come. -/
structure Serves (number : Nat) (reload : Reload η υ) (hub : η) (list : HubList υ) : Prop where
  adds : ∀ identity ∈ reload.added, reload.add.Owes hub ∨ number < list.version identity
  removes : ∀ identity ∈ reload.removed, reload.remove.Owes hub ∨ number < list.version identity

/-- A list of a hub behind some of the changes. -/
structure Follows (configured : EndpointIdentity υ → Prop)
    (changes : List (Change (EndpointIdentity υ))) (list : HubList υ) : Prop where
  reflects : Replica.Reflects configured changes list.toReplica
  since_le : ∀ identity, list.since ≤ list.version identity

structure Sound (configured : EndpointIdentity υ → Prop) (state : State η ι υ) : Prop where
  endpoints : ∃ map : EndpointMap υ, state.endpoints = map.entries
  current : ∀ identity, identity ∈ identities state.endpoints ↔
    HasAt configured state.changes state.changes.length identity
  proper : ∀ reload ∈ state.reloads, reload.toChange.Proper
  visited : ∀ reload ∈ state.reloads, ∀ hub, reload.remove.Visited hub → hub ∈ state.hubs
  follows : ∀ hub ∈ state.hubs, Follows configured state.changes (state.lists hub)
  serves : ∀ number reload, state.reloads[number]? = some reload → ∀ hub ∈ state.hubs,
    (state.lists hub).since ≤ number → Serves number reload hub (state.lists hub)
  made : ∀ call hub since endpoints, state.calls call = .made hub since endpoints →
    endpoints.Nodup ∧ since ≤ state.changes.length ∧
      ∀ identity, identity ∈ endpoints ↔ HasAt configured state.changes since identity

section Invariant

variable {configured : EndpointIdentity υ → Prop} {state next : State η ι υ} {number : Nat}
  {reload : Reload η υ} {hub : η} {oldEndpoints : Nat}

theorem mem_reloads (present : state.reloads[number]? = some reload) : reload ∈ state.reloads :=
  List.mem_iff_getElem?.mpr ⟨number, present⟩

theorem getElem?_changes (present : state.reloads[number]? = some reload) :
    state.changes[number]? = some reload.toChange := by
  rw [State.changes, List.getElem?_map, present]
  rfl

/-- One reload goes on, and lists change as far as changes are made to them. -/
theorem Sound.advance (sound : Sound configured state)
    (present : state.reloads[number]? = some reload) (changed : Reload η υ)
    (same : changed.toChange = reload.toChange) {lists : η → HubList υ}
    (visited : ∀ hub, changed.remove.Visited hub → hub ∈ state.hubs)
    (follows : ∀ hub ∈ state.hubs, (lists hub).since = (state.lists hub).since ∧
      Replica.Reflects configured state.changes (lists hub).toReplica ∧
      ∀ identity, (state.lists hub).version identity ≤ (lists hub).version identity)
    (serves : ∀ hub ∈ state.hubs, Serves number reload hub (state.lists hub) →
      (state.lists hub).since ≤ number → Serves number changed hub (lists hub)) :
    Sound configured { state with
      lists := lists
      reloads := state.reloads.set number changed } := by
  have unchanged : (state.setReload number changed).changes = state.changes :=
    Threads.map_set_of_eq present same
  have member : ∀ other ∈ state.reloads.set number changed,
      other = changed ∨ other ∈ state.reloads :=
    fun other isMember => (List.mem_or_eq_of_mem_set isMember).symm
  refine ⟨sound.endpoints, ?_, ?_, ?_, ?_, ?_, ?_⟩
  · show ∀ identity, _ ↔ HasAt configured (state.setReload number changed).changes
      (state.setReload number changed).changes.length identity
    rw [unchanged]
    exact sound.current
  · intro other isMember
    rcases member other isMember with rfl | old
    · rw [same]
      exact sound.proper reload (mem_reloads present)
    · exact sound.proper other old
  · intro other isMember
    rcases member other isMember with rfl | old
    · exact visited
    · exact sound.visited other old
  · intro hub isHub
    obtain ⟨sameSince, reflects, grows⟩ := follows hub isHub
    refine ⟨?_, fun identity => ?_⟩
    · show Replica.Reflects configured (state.setReload number changed).changes _
      rw [unchanged]
      exact reflects
    · show (lists hub).since ≤ _
      rw [sameSince]
      exact ((sound.follows hub isHub).since_le identity).trans (grows identity)
  · intro position other found hub isHub old
    obtain ⟨sameSince, -, grows⟩ := follows hub isHub
    replace old : (state.lists hub).since ≤ position := sameSince ▸ old
    rcases Threads.getElem?_set_cases found with ⟨rfl, rfl⟩ | ⟨-, isOther⟩
    · exact serves hub isHub (sound.serves position reload present hub isHub old) old
    · have served := sound.serves position other isOther hub isHub old
      refine ⟨fun identity isAdded => ?_, fun identity isRemoved => ?_⟩
      · exact (served.adds identity isAdded).imp_right fun later =>
          later.trans_le (grows identity)
      · exact (served.removes identity isRemoved).imp_right fun later =>
          later.trans_le (grows identity)
  · show ∀ call hub since endpoints, state.calls call = .made hub since endpoints →
      endpoints.Nodup ∧ since ≤ (state.setReload number changed).changes.length ∧
        ∀ identity, identity ∈ endpoints ↔
          HasAt configured (state.setReload number changed).changes since identity
    rw [unchanged]
    exact sound.made

/-- An add goes on without a change to a list. -/
theorem Sound.moveAdd (sound : Sound configured state)
    (present : state.reloads[number]? = some reload) (stage : AddStage η)
    (owes : ∀ hub ∈ state.hubs, (state.lists hub).since ≤ number →
      reload.add.Owes hub → stage.Owes hub) :
    Sound configured (state.setReload number { reload with add := stage }) := by
  refine sound.advance present { reload with add := stage } rfl
    (sound.visited reload (mem_reloads present)) ?_ ?_
  · intro hub isHub
    exact ⟨rfl, (sound.follows hub isHub).reflects, fun _ => Nat.le_refl _⟩
  · intro hub isHub serves old
    refine ⟨fun identity isAdded => ?_, serves.removes⟩
    exact (serves.adds identity isAdded).imp_left (owes hub isHub old)

/-- A remove goes on without a change to a list. -/
theorem Sound.moveRemove (sound : Sound configured state)
    (present : state.reloads[number]? = some reload) (stage : RemoveStage η)
    (visited : ∀ hub, stage.Visited hub → hub ∈ state.hubs)
    (owes : ∀ hub ∈ state.hubs, (state.lists hub).since ≤ number → reload.removed ≠ [] →
      reload.remove.Owes hub → stage.Owes hub) :
    Sound configured (state.setReload number { reload with remove := stage }) := by
  refine sound.advance present { reload with remove := stage } rfl visited ?_ ?_
  · intro hub isHub
    exact ⟨rfl, (sound.follows hub isHub).reflects, fun _ => Nat.le_refl _⟩
  · intro hub isHub serves old
    refine ⟨serves.adds, fun identity isRemoved => ?_⟩
    exact (serves.removes identity isRemoved).imp_left
      (owes hub isHub old (List.ne_nil_of_mem isRemoved))

variable [DecidableEq η] [DecidableEq υ]

omit [DecidableEq υ] in
/-- A change is made to the list of one hub. -/
theorem Sound.follows_update (sound : Sound configured state)
    {replica : Replica (EndpointIdentity υ)}
    (reflects : hub ∈ state.hubs → Replica.Reflects configured state.changes replica)
    (grows : ∀ identity, (state.lists hub).version identity ≤ replica.version identity)
    (other : η) (isHub : other ∈ state.hubs) :
    let lists := Function.update state.lists hub ((state.lists hub).next replica)
    (lists other).since = (state.lists other).since ∧
      Replica.Reflects configured state.changes (lists other).toReplica ∧
      ∀ identity, (state.lists other).version identity ≤ (lists other).version identity := by
  intro lists
  by_cases isHere : other = hub
  · subst isHere
    rw [show lists other = (state.lists other).next replica from Function.update_self ..]
    exact ⟨rfl, reflects isHub, grows⟩
  · rw [show lists other = state.lists other from Function.update_of_ne isHere ..]
    exact ⟨rfl, (sound.follows other isHub).reflects, fun _ => Nat.le_refl _⟩

/-- `TryUpdate` of an add. -/
theorem Sound.updateAdd (sound : Sound configured state)
    (present : state.reloads[number]? = some reload) {created due visited : List η}
    (isUpdating : reload.add = .updating created due visited hub oldEndpoints)
    (inOrder : AddInOrder state number reload reload.add) :
    Sound configured ((state.tryUpdate hub oldEndpoints fun endpoints =>
        endpoints.add number reload.added).setReload number
      { reload with add := .storing created due visited }) := by
  rw [isUpdating] at inOrder
  obtain ⟨same, fits⟩ := inOrder
  rw [State.tryUpdate, if_pos same]
  refine sound.advance present { reload with add := .storing created due visited } rfl
    (sound.visited reload (mem_reloads present)) (sound.follows_update ?_ ?_) ?_
  · intro isHub
    exact (sound.follows hub isHub).reflects.add (getElem?_changes present)
      (sound.proper reload (mem_reloads present)) fits
  · exact Replica.version_le_add reload.added
  · intro other isHub serves old
    show Serves _ _ other (Function.update state.lists hub _ other)
    by_cases isHere : other = hub
    · subst isHere
      rw [Function.update_self]
      refine ⟨fun identity isAdded => .inr (Replica.lt_version_add isAdded), ?_⟩
      intro identity isRemoved
      exact (serves.removes identity isRemoved).imp_right fun later =>
        later.trans_le (Replica.version_le_add reload.added identity)
    · rw [Function.update_of_ne isHere]
      refine ⟨fun identity isAdded => (serves.adds identity isAdded).imp_left ?_, serves.removes⟩
      rw [isUpdating]
      rintro ⟨isCreated, isDue, isHub | notVisited⟩
      · exact absurd isHub isHere
      · exact ⟨isCreated, isDue, notVisited⟩

/-- `TryUpdate` of a remove. -/
theorem Sound.updateRemove (sound : Sound configured state)
    (present : state.reloads[number]? = some reload) {due visited : List η}
    (isUpdating : reload.remove = .updating due visited hub oldEndpoints)
    (inOrder : RemoveInOrder state number reload reload.remove) :
    Sound configured ((state.tryUpdate hub oldEndpoints fun endpoints =>
        endpoints.remove number reload.removed).setReload number
      { reload with remove := .removing due visited }) := by
  have known := sound.visited reload (mem_reloads present)
  rw [isUpdating] at inOrder known
  obtain ⟨same, fits⟩ := inOrder
  rw [State.tryUpdate, if_pos same]
  refine sound.advance present { reload with remove := .removing due visited } rfl known
    (sound.follows_update ?_ ?_) ?_
  · intro isHub
    exact (sound.follows hub isHub).reflects.remove (getElem?_changes present)
      (sound.proper reload (mem_reloads present)) fits
  · exact Replica.version_le_remove reload.removed
  · intro other isHub serves old
    show Serves _ _ other (Function.update state.lists hub _ other)
    by_cases isHere : other = hub
    · subst isHere
      rw [Function.update_self]
      refine ⟨?_, fun identity isRemoved => .inr (Replica.lt_version_remove isRemoved)⟩
      intro identity isAdded
      exact (serves.adds identity isAdded).imp_right fun later =>
        later.trans_le (Replica.version_le_remove reload.removed identity)
    · rw [Function.update_of_ne isHere]
      refine ⟨serves.adds, fun identity isRemoved =>
        (serves.removes identity isRemoved).imp_left ?_⟩
      rw [isUpdating]
      rintro (isHub | notVisited)
      · exact absurd isHub isHere
      · exact notVisited

/-! ## Steps -/

theorem sound_resumeAdd (sound : Sound configured state)
    (present : state.reloads[number]? = some reload) {visit : Option η}
    (inOrder : visit = none → AddInOrder state number reload reload.add)
    (resumed : resumeAdd state number reload visit = some next) : Sound configured next := by
  unfold resumeAdd at resumed
  split at resumed
  next stage =>
    cases resumed
    exact sound.moveAdd present _ fun _ _ _ _ => trivial
  next due visited hub stage =>
    split_ifs at resumed
    cases resumed
    exact sound.moveAdd present _ fun _ _ _ _ => trivial
  next due visited stage =>
    split_ifs at resumed
    cases resumed
    have complete := inOrder rfl
    rw [stage] at complete
    exact sound.moveAdd present _ fun hub isHub old _ => complete hub isHub old
  next created stage =>
    cases resumed
    refine sound.moveAdd present _ fun hub isHub _ owed => ?_
    rw [stage] at owed
    exact ⟨owed, isHub, List.not_mem_nil⟩
  next created due visited hub stage =>
    split_ifs at resumed with isNew isCreated
    · cases resumed
      refine sound.moveAdd present _ fun other _ _ owed => ?_
      rw [stage] at owed
      obtain ⟨isCreatedToo, isDue, notVisited⟩ := owed
      refine ⟨isCreatedToo, isDue, ?_⟩
      by_cases isHere : other = hub
      · exact .inl isHere
      · exact .inr (List.not_mem_cons_of_ne_of_not_mem isHere notVisited)
    · cases resumed
      refine sound.moveAdd present _ fun other _ _ owed => ?_
      rw [stage] at owed
      obtain ⟨isCreatedToo, isDue, notVisited⟩ := owed
      refine ⟨isCreatedToo, isDue, List.not_mem_cons_of_ne_of_not_mem ?_ notVisited⟩
      rintro rfl
      exact isCreated isCreatedToo
  next created due visited hub oldEndpoints stage =>
    cases resumed
    exact sound.updateAdd present stage (inOrder rfl)
  next created due visited stage =>
    split_ifs at resumed with complete
    cases resumed
    refine sound.moveAdd present _ fun hub _ _ owed => ?_
    rw [stage] at owed
    exact owed.2.2 (complete hub owed.2.1)
  next => cases resumed

theorem sound_resumeRemove (sound : Sound configured state)
    (present : state.reloads[number]? = some reload) {visit : Option η}
    (inOrder : visit = none → RemoveInOrder state number reload reload.remove)
    (resumed : resumeRemove state number reload visit = some next) : Sound configured next := by
  have known := sound.visited reload (mem_reloads present)
  unfold resumeRemove at resumed
  split at resumed
  next stage =>
    split_ifs at resumed with isCreated nothing
    · cases resumed
      exact sound.moveRemove present _ (by nofun) fun _ _ _ some _ => absurd nothing some
    · cases resumed
      exact sound.moveRemove present _ (by nofun) fun _ _ _ _ _ => List.not_mem_nil
  next due visited hub stage =>
    split_ifs at resumed with isNew
    cases resumed
    rw [stage] at known
    refine sound.moveRemove present _ ?_ fun other _ _ _ owed => ?_
    · intro other isVisited
      rcases List.mem_cons.mp isVisited with rfl | before
      · exact isNew.1
      · exact known other before
    · rw [stage] at owed
      by_cases isHere : other = hub
      · exact .inl isHere
      · exact .inr (List.not_mem_cons_of_ne_of_not_mem isHere owed)
  next due visited hub oldEndpoints stage =>
    cases resumed
    exact sound.updateRemove present stage (inOrder rfl)
  next due visited stage =>
    split_ifs at resumed
    cases resumed
    have complete := inOrder rfl
    rw [stage] at complete
    refine sound.moveRemove present _ (by nofun) fun hub isHub old _ owed => ?_
    rw [stage] at owed
    exact owed (complete hub isHub old)
  next stage =>
    cases resumed
    refine sound.moveRemove present _ (by nofun) fun hub _ _ _ owed => ?_
    rw [stage] at owed
    exact owed
  next => cases resumed

omit [DecidableEq υ] in
/-- A new list is made, and the reloads it does not have still come to the hub. -/
theorem Sound.insert (sound : Sound configured state) {since : Nat}
    {endpoints : List (EndpointIdentity υ)} (isNew : hub ∉ state.hubs)
    (nodup : endpoints.Nodup) (old : since ≤ state.changes.length)
    (isVersion : ∀ identity, identity ∈ endpoints ↔
      HasAt configured state.changes since identity)
    (ahead : ∀ reload ∈ state.reloads.drop since, reload.Ahead) :
    Sound configured { state with
      hubs := state.hubs ++ [hub]
      lists := Function.update state.lists hub
        { items := endpoints, version := fun _ => since, since := since } } := by
  refine ⟨sound.endpoints, sound.current, sound.proper, ?_, ?_, ?_, sound.made⟩
  · intro reload isReload other isVisited
    exact List.mem_append_left _ (sound.visited reload isReload other isVisited)
  · intro other isHub
    show Follows _ _ (Function.update state.lists hub _ other)
    by_cases isHere : other = hub
    · subst isHere
      rw [Function.update_self]
      exact ⟨Replica.reflects_copy nodup old isVersion, fun _ => Nat.le_refl _⟩
    · rw [Function.update_of_ne isHere]
      refine sound.follows other ((List.mem_append.mp isHub).resolve_right ?_)
      exact fun isLast => isHere (List.mem_singleton.mp isLast)
  · intro number reload present other isHub
    show (Function.update state.lists hub _ other).since ≤ number → Serves number reload other
      (Function.update state.lists hub _ other)
    by_cases isHere : other = hub
    · subst isHere
      rw [Function.update_self]
      intro behind
      have isDropped : reload ∈ state.reloads.drop since := by
        refine List.mem_iff_getElem?.mpr ⟨number - since, ?_⟩
        rw [List.getElem?_drop, Nat.add_sub_cancel' behind]
        exact present
      obtain ⟨adds, removes⟩ := ahead reload isDropped
      refine ⟨fun identity isAdded => .inl ?_, fun identity isRemoved => .inl ?_⟩
      · replace adds := adds.resolve_left (List.ne_nil_of_mem isAdded)
        cases stage : reload.add with
        | updated => trivial
        | creating due visited => trivial
        | _ =>
            rw [stage] at adds
            cases adds
      · replace removes := removes.resolve_left (List.ne_nil_of_mem isRemoved)
        -- The hub has not been there for the remove to come to it.
        have unvisited : ¬ reload.remove.Visited other := fun isVisited =>
          isNew (sound.visited reload (mem_reloads present) other isVisited)
        cases stage : reload.remove with
        | adding => trivial
        | removing due visited =>
            rw [stage] at unvisited
            exact unvisited
        | updating due visited current oldEndpoints =>
            rw [stage] at unvisited
            exact .inr unvisited
        | waiting =>
            rw [stage] at removes
            cases removes
        | returned =>
            rw [stage] at removes
            cases removes
    · rw [Function.update_of_ne isHere]
      refine sound.serves number reload present other
        ((List.mem_append.mp isHub).resolve_right ?_)
      exact fun isLast => isHere (List.mem_singleton.mp isLast)

omit [DecidableEq η] [DecidableEq υ] in
/-- A reload changes `Endpoints`, and has all of its adds and removes to come. -/
theorem Sound.append (sound : Sound configured state) (map : EndpointMap υ)
    (pendingReload : List Nat) (proper : reload.toChange.Proper)
    (exchanges : ∀ identity, identity ∈ identities map.entries ↔
      identity ∈ identities state.endpoints ∧ identity ∉ reload.removed ∨
        identity ∈ reload.added)
    (owesAdd : reload.added ≠ [] → reload.add = .updated) (owesRemove : reload.remove = .adding) :
    Sound configured { state with
      endpoints := map.entries
      pendingReload := pendingReload
      reloads := state.reloads ++ [reload] } := by
  have appended : ({ state with
      endpoints := map.entries
      pendingReload := pendingReload
      reloads := state.reloads ++ [reload] } : State η ι υ).changes =
        state.changes ++ [reload.toChange] :=
    List.map_append
  have isLast : (state.changes ++ [reload.toChange])[state.changes.length]? =
      some reload.toChange := by
    rw [List.getElem?_append_right (Nat.le_refl _), Nat.sub_self]
    rfl
  have member : ∀ other ∈ state.reloads ++ [reload], other ∈ state.reloads ∨ other = reload :=
    fun other isMember => (List.mem_append.mp isMember).imp_right List.mem_singleton.mp
  refine ⟨⟨map, rfl⟩, ?_, ?_, ?_, ?_, ?_, ?_⟩
  · intro identity
    rw [appended, List.length_append, List.length_singleton, hasAt_succ isLast,
      hasAt_append _ (Nat.le_refl _), ← sound.current]
    exact exchanges identity
  · intro other isMember
    rcases member other isMember with old | rfl
    · exact sound.proper other old
    · exact proper
  · intro other isMember
    rcases member other isMember with old | rfl
    · exact sound.visited other old
    · rw [owesRemove]
      nofun
  · intro hub isHub
    have follows := sound.follows hub isHub
    rw [appended]
    exact ⟨follows.reflects.append _, follows.since_le⟩
  · intro number other found hub isHub old
    rcases Nat.lt_or_ge number state.reloads.length with isOld | isNew
    · rw [List.getElem?_append_left isOld] at found
      exact sound.serves number other found hub isHub old
    · rw [List.getElem?_append_right isNew] at found
      have isReload : other = reload := List.mem_singleton.mp (List.mem_of_getElem? found)
      rw [isReload]
      refine ⟨fun identity isAdded => .inl ?_, fun identity _ => .inl ?_⟩
      · rw [owesAdd (List.ne_nil_of_mem isAdded)]
        trivial
      · rw [owesRemove]
        trivial
  · intro call hub since endpoints isMade
    obtain ⟨nodup, old, isVersion⟩ := sound.made call hub since endpoints isMade
    rw [appended]
    refine ⟨nodup, ?_, fun identity => ?_⟩
    · rw [List.length_append]
      exact Nat.le_add_right_of_le old
    · rw [hasAt_append _ old]
      exact isVersion identity

omit [DecidableEq η] in
theorem sound_startReload (sound : Sound configured state)
    (serviceEndpoints : List (ServiceEndpoint υ)) :
    Sound configured (startReload state serviceEndpoints) := by
  obtain ⟨current, isCurrent⟩ := sound.endpoints
  have cases := reloadEndpoints_cases current state.pendingReload serviceEndpoints
  rw [startReload, isCurrent]
  rcases cases with ⟨error, threw⟩ | updated
  · rw [threw]
    exact sound
  · rw [updated]
    refine sound.append _ _ ⟨nodup_added _, ?_⟩ ?_ ?_ rfl
    · intro identity isAdded isRemoved
      obtain ⟨new, added, rfl⟩ := List.mem_map.mp isAdded
      obtain ⟨old, removed, same⟩ := List.mem_map.mp isRemoved
      refine ((mem_added _).mp added).2 ?_
      exact List.mem_map.mpr ⟨old, ((mem_removed _).mp removed).1, same⟩
    · intro identity
      rw [isCurrent]
      exact mem_identities_update state.pendingReload identity
    · intro some
      exact if_neg fun none => some (List.map_eq_nil_iff.mpr none)

theorem sound_step [DecidableEq ι] {action : Action η ι υ} (sound : Sound configured state)
    (inOrder : InOrder state action) (stepped : step state action = some next) :
    Sound configured next := by
  cases action with
  | getEndpoints call hub =>
      rw [step] at stepped
      split at stepped
      · cases stepped
      split_ifs at stepped with isHub
      · cases stepped
        exact sound
      · cases stepped
        refine { sound with made := ?_ }
        intro other otherHub since endpoints isMade
        rcases eq_or_ne other call with rfl | differs
        · replace isMade : Function.update state.calls other _ other = _ := isMade
          rw [Function.update_self] at isMade
          obtain ⟨map, isMap⟩ := sound.endpoints
          have all : state.changes.length = state.reloads.length := List.length_map _
          cases isMade
          refine ⟨?_, Nat.le_of_eq all.symm, fun identity => ?_⟩
          · rw [isMap]
            exact nodup_identity map.unique
          · rw [sound.current identity, all]
            exact Iff.rfl
        · replace isMade : Function.update state.calls call _ other = _ := isMade
          rw [Function.update_of_ne differs] at isMade
          exact sound.made other otherHub since endpoints isMade
  | tryAdd call =>
      rw [step] at stepped
      rw [InOrder] at inOrder
      split at stepped
      · cases stepped
      next hub since endpoints isMade =>
        have returned : Sound configured
            { state with calls := Function.update state.calls call .returned } := by
          refine { sound with made := ?_ }
          intro other otherHub otherSince otherEndpoints otherMade
          rcases eq_or_ne other call with rfl | differs
          · replace otherMade : Function.update state.calls other _ other = _ := otherMade
            rw [Function.update_self] at otherMade
            cases otherMade
          · replace otherMade : Function.update state.calls call _ other = _ := otherMade
            rw [Function.update_of_ne differs] at otherMade
            exact sound.made other otherHub otherSince otherEndpoints otherMade
        split_ifs at stepped with isHub
        · cases stepped
          exact returned
        · cases stepped
          rw [isMade] at inOrder
          obtain ⟨nodup, old, isVersion⟩ := sound.made call hub since endpoints isMade
          exact returned.insert isHub nodup old isVersion (inOrder.resolve_left isHub)
  | reload serviceEndpoints =>
      rw [step, Option.some.injEq] at stepped
      rw [← stepped]
      exact sound_startReload sound serviceEndpoints
  | add number visit =>
      rw [step] at stepped
      split at stepped
      · cases stepped
      next reload present =>
        refine sound_resumeAdd sound present ?_ stepped
        rintro rfl
        exact inOrder reload present
  | remove number visit =>
      rw [step] at stepped
      split at stepped
      · cases stepped
      next reload present =>
        refine sound_resumeRemove sound present ?_ stepped
        rintro rfl
        exact inOrder reload present

omit [DecidableEq η] [DecidableEq υ] in
theorem sound_initial (map : EndpointMap υ) :
    Sound (fun identity => identity ∈ identities map.entries)
      (initial map.entries : State η ι υ) where
  endpoints := ⟨map, rfl⟩
  current _ := Iff.rfl
  proper := by nofun
  visited := by nofun
  follows := by nofun
  serves := by nofun
  made := by nofun

omit [DecidableEq υ] in
/-- Behind the last add and the last remove every change has been made to every list. -/
theorem Sound.converged (sound : Sound configured state)
    (finished : ∀ reload ∈ state.reloads, reload.Finished) : Converged state := by
  intro hub
  rw [State.getEndpoints]
  split_ifs with isHub
  · have follows := sound.follows hub isHub
    refine ⟨follows.reflects.nodup, fun identity => ?_⟩
    rw [sound.current, follows.reflects.mem_iff_last ?_]
    intro number change present item concerns
    rw [State.changes, List.getElem?_map, Option.map_eq_some_iff] at present
    obtain ⟨reload, isReload, rfl⟩ := present
    obtain ⟨isDone, isReturned⟩ := finished reload (mem_reloads isReload)
    by_contra notLater
    have old : (state.lists hub).since ≤ number :=
      (follows.since_le item).trans (Nat.le_of_not_lt notLater)
    have serves := sound.serves number reload isReload hub isHub old
    rcases concerns with isAdded | isRemoved
    · rcases serves.adds item isAdded with owed | later
      · rw [isDone] at owed
        exact owed
      · exact notLater later
    · rcases serves.removes item isRemoved with owed | later
      · rw [isReturned] at owed
        exact owed
      · exact notLater later
  · obtain ⟨map, isMap⟩ := sound.endpoints
    refine ⟨?_, fun _ => Iff.rfl⟩
    rw [isMap]
    exact nodup_identity map.unique

end Invariant

/-- Reloads that overlap in any way converge when every step keeps the changes of every hub in the
order of the reloads. -/
theorem reloads_converge [DecidableEq η] [DecidableEq ι] [DecidableEq υ]
    (configuration : List (ServiceEndpoint υ)) {endpoints : Entries υ}
    (valuable : getValuableEndpoints configuration = .ok endpoints)
    (actions : List (Action η ι υ)) {state : State η ι υ}
    (ran : Machine.run step (initial endpoints) actions = some state)
    (inOrder : Machine.Along step InOrder (initial endpoints) actions)
    (finished : ∀ reload ∈ state.reloads, reload.Finished) : Converged state := by
  have isSelection : endpoints = (selection configuration).entries := by
    rw [getValuableEndpoints_eq] at valuable
    split_ifs at valuable
    exact (Except.ok.inj valuable).symm
  subst isSelection
  exact (Machine.run_along sound_step (sound_initial _) inOrder ran).converged finished

section Decidability

variable [DecidableEq η] [DecidableEq υ]

instance (reload : Reload η υ) : Decidable reload.Ahead :=
  inferInstanceAs (Decidable ((_ ∨ _) ∧ (_ ∨ _)))

instance (state : State η ι υ) (number : Nat) (reload : Reload η υ) : (stage : AddStage η) →
    Decidable (AddInOrder state number reload stage)
  | .creating _ visited =>
      inferInstanceAs (Decidable (∀ hub ∈ state.hubs,
        (state.lists hub).since ≤ number → hub ∈ visited))
  | .updating _ _ _ hub oldEndpoints =>
      inferInstanceAs (Decidable ((state.lists hub).reference = oldEndpoints ∧
        ∀ identity ∈ reload.added, identity ∉ (state.lists hub).items ∧
          (state.lists hub).version identity ≤ number))
  | .updated | .waiting _ | .storing _ _ _ | .done => isTrue trivial

instance (state : State η ι υ) (number : Nat) (reload : Reload η υ) : (stage : RemoveStage η) →
    Decidable (RemoveInOrder state number reload stage)
  | .removing _ visited =>
      inferInstanceAs (Decidable (∀ hub ∈ state.hubs,
        (state.lists hub).since ≤ number → hub ∈ visited))
  | .updating _ _ hub oldEndpoints =>
      inferInstanceAs (Decidable ((state.lists hub).reference = oldEndpoints ∧
        ∀ identity ∈ reload.removed, identity ∈ (state.lists hub).items →
          (state.lists hub).version identity ≤ number))
  | .adding | .waiting | .returned => isTrue trivial

instance (state : State η ι υ) : (action : Action η ι υ) → Decidable (InOrder state action)
  | .tryAdd call =>
      match isCall : state.calls call with
      | .returned => isTrue (by rw [InOrder, isCall]; trivial)
      | .made hub since _ =>
          decidable_of_iff (hub ∈ state.hubs ∨ ∀ reload ∈ state.reloads.drop since, reload.Ahead)
            (by rw [InOrder, isCall])
  | .add number none =>
      inferInstanceAs (Decidable (∀ reload, state.reloads[number]? = some reload →
        AddInOrder state number reload reload.add))
  | .remove number none =>
      inferInstanceAs (Decidable (∀ reload, state.reloads[number]? = some reload →
        RemoveInOrder state number reload reload.remove))
  | .getEndpoints _ _ | .reload _ | .add _ (some _) | .remove _ (some _) => isTrue trivial

end Decidability

/-- An endpoint of a configuration. -/
def configuredEndpoint (endpoint : String) (reference : Nat) : ServiceEndpoint Unit where
  name := ""
  endpoint := endpoint
  endpointType := .primary
  clientEndpoint := ()
  serverEndpoint := ()
  reference := reference

/-- The one endpoint that is configured first. -/
def oneEndpoint : List (ServiceEndpoint Unit) := [configuredEndpoint "a" 0]

/-- A hub is used, an endpoint is configured, and its add waits for it. -/
def addsSecond : List (Action Unit Unit Unit) :=
  [.getEndpoints () (), .tryAdd (), .reload [configuredEndpoint "a" 1, configuredEndpoint "b" 2],
    .add 0 none, .add 0 (some ()), .add 0 none]

/-- The add goes on to its end. -/
def storesSecond : List (Action Unit Unit Unit) :=
  [.add 0 none, .add 0 (some ()), .add 0 none, .add 0 none, .remove 0 none]

/-- The second reload removes the endpoint again. -/
def removesSecond : List (Action Unit Unit Unit) :=
  [.remove 1 none, .remove 1 (some ()), .remove 1 none, .remove 1 none, .remove 1 none]

/-- The second reload begins while the add waits, and its remove comes behind the add. -/
def overlapping : List (Action Unit Unit Unit) :=
  addsSecond ++ Action.reload [configuredEndpoint "a" 3] :: storesSecond ++ removesSecond

theorem reloads_converge_overlapping :
    ∃ state : State Unit Unit Unit,
      Machine.run step (initial (selection oneEndpoint).entries) overlapping = some state ∧
      (state.lists ()).items = [(configuredEndpoint "a" 0).identity] ∧ Converged state :=
  ⟨_, rfl, rfl, reloads_converge oneEndpoint rfl overlapping rfl (by decide) (by decide)⟩

/-- The remove of the second reload overtakes the add of the first. -/
def overtaking : List (Action Unit Unit Unit) :=
  addsSecond ++ Action.reload [configuredEndpoint "a" 3] :: removesSecond ++ storesSecond

theorem removed_endpoint_returns :
    ∃ state : State Unit Unit Unit,
      Machine.run step (initial (selection oneEndpoint).entries) overtaking = some state ∧
      (∀ reload ∈ state.reloads, reload.Finished) ∧
      identities state.endpoints = [(configuredEndpoint "a" 0).identity] ∧
      state.getEndpoints () =
        [(configuredEndpoint "a" 0).identity, (configuredEndpoint "b" 2).identity] ∧
      ¬ Converged state := by
  refine ⟨_, rfl, by decide, rfl, rfl, ?_⟩
  intro converged
  have isThere := ((converged ()).2 (configuredEndpoint "b" 2).identity).mp (by decide)
  exact absurd isThere (by decide)

end AzureSignalR.Endpoints.ServiceEndpointManager
