import AzureSignalR.Endpoints.HubRouting
import Mathlib.Data.List.Perm.Subperm

/-!
Contract: when a reload that only renames endpoints keeps every connection container.

Owns: what an add and a remove make of a hub, the invariant of hubs and routers over all
histories, and the exact condition under which a rename drops nothing.

Does not own: reloads that overlap.
-/

set_option autoImplicit false

namespace AzureSignalR.Endpoints.HubRouting

open Library ServiceEndpoint

variable {υ : Type}

/-! ## What an add makes of a hub -/

section Add

variable {hub : Hub υ} {created router : List (HubServiceEndpoint υ)}
  {endpoint : HubServiceEndpoint υ}

@[simp] theorem identityOf_completeScale (endpoint : HubServiceEndpoint υ) :
    identityOf endpoint.completeScale = identityOf endpoint := rfl

/-- A created endpoint behind the generator, at its index. -/
def Hub.generated (hub : Hub υ) (index : Nat) (endpoint : HubServiceEndpoint υ) :
    HubServiceEndpoint υ :=
  if endpoint.isScaleCompleted then endpoint
  else { endpoint with connectionContainer := some (hub.nextContainer + index) }

theorem endpoint_generated (index : Nat) :
    (hub.generated index endpoint).endpoint = endpoint.endpoint := by
  unfold Hub.generated
  split_ifs
  · rfl
  · rfl

theorem mem_generate : endpoint ∈ hub.generate created ↔
    ∃ index source, created[index]? = some source ∧ hub.generated index source = endpoint := by
  rw [List.mem_iff_getElem?]
  refine exists_congr fun index => ?_
  rw [Hub.generate, List.getElem?_mapIdx, Option.map_eq_some_iff]
  exact Iff.rfl

theorem endpoints_generate (hub : Hub υ) (created : List (HubServiceEndpoint υ)) :
    (hub.generate created).map HubServiceEndpoint.endpoint =
      created.map HubServiceEndpoint.endpoint := by
  refine List.ext_getElem? fun index => ?_
  rw [List.getElem?_map, Hub.generate, List.getElem?_mapIdx, List.getElem?_map, Option.map_map]
  exact Option.map_congr fun endpoint _ => endpoint_generated index

theorem identities_generate (hub : Hub υ) (created : List (HubServiceEndpoint υ)) :
    (hub.generate created).map identityOf = created.map identityOf := by
  have same := congrArg (List.map ServiceEndpoint.identity) (endpoints_generate hub created)
  rwa [List.map_map, List.map_map] at same

/-- Where nothing is staged, the generator is not called. -/
theorem generate_of_instant (instant : ∀ endpoint ∈ created, endpoint.isScaleCompleted = true) :
    hub.generate created = created := by
  refine List.ext_getElem? fun index => ?_
  rw [Hub.generate, List.getElem?_mapIdx]
  cases found : created[index]? with
  | none => rfl
  | some endpoint =>
      have isInstant := instant endpoint (List.mem_of_getElem? found)
      show some (if endpoint.isScaleCompleted then endpoint else _) = some endpoint
      rw [if_pos isInstant]

end Add

/-! ## What a remove makes of a hub -/

section Remove

variable [DecidableEq υ] {hub : Hub υ} {router : List (HubServiceEndpoint υ)}

/-- What a drain looks for in the router. -/
def Drained (endpoint other : HubServiceEndpoint υ) : Prop :=
  other.endpoint.endpoint = endpoint.endpoint.endpoint ∧
    other.endpoint.endpointType = endpoint.endpoint.endpointType

theorem removeHubServiceEndpoint_eq (isRouter : hub.routerEndpoints = some router)
    (generated : ∀ other ∈ router, other.connectionContainer ≠ none)
    (endpoint : HubServiceEndpoint υ) :
    ∃ calls,
      hub.removeHubServiceEndpoint endpoint =
        { hub with
          routerEndpoints :=
            some (router.filter fun other => identityOf other ≠ identityOf endpoint)
          calls := hub.calls ++ calls } ∧
      (calls = [] ↔
        endpoint.isScaleCompleted = true ∨ ∀ other ∈ router, ¬ Drained endpoint other) := by
  by_cases instant : endpoint.isScaleCompleted = true
  · refine ⟨[], ?_, iff_of_true rfl (.inl instant)⟩
    simp only [Hub.removeHubServiceEndpoint, isRouter, if_pos instant, List.append_nil]
  cases found : router.find? fun other => other.endpoint.endpoint = endpoint.endpoint.endpoint ∧
      other.endpoint.endpointType = endpoint.endpoint.endpointType with
  | none =>
      have strange : ∀ other ∈ router, ¬ Drained endpoint other := by
        intro other member drained
        have impossible := List.find?_eq_none.mp found other member
        exact impossible (decide_eq_true drained)
      refine ⟨[], ?_, iff_of_true rfl (.inr strange)⟩
      have all : router.filter (fun other => identityOf other ≠ identityOf endpoint) = router := by
        refine List.filter_eq_self.mpr fun other member => decide_eq_true fun same => ?_
        refine strange other member ⟨endpoint_of_identity same, ?_⟩
        exact congrArg (fun identity => identity.endpointType) same
      have unchanged : hub.removeHubServiceEndpoint endpoint = hub := by
        simp only [Hub.removeHubServiceEndpoint, isRouter, if_neg instant, found,
          Option.bind_none]
      rw [unchanged, all, List.append_nil, ← isRouter]
  | some other =>
      have member := List.mem_of_find?_eq_some found
      have drained : other.endpoint.endpoint = endpoint.endpoint.endpoint ∧
          other.endpoint.endpointType = endpoint.endpoint.endpointType := by
        have isDrained := List.find?_some found
        exact of_decide_eq_true isDrained
      obtain ⟨container, isContainer⟩ := Option.ne_none_iff_exists'.mp (generated other member)
      refine ⟨[.offline container, .stop container, .dispose container], ?_,
        iff_of_false (List.cons_ne_nil _ _) ?_⟩
      · simp only [Hub.removeHubServiceEndpoint, isRouter, if_neg instant, found,
          Option.bind_some, isContainer]
      · rintro (complete | none)
        · exact instant complete
        · exact none other member drained

/-- A remove of several endpoints. -/
theorem foldl_removeHubServiceEndpoint (isRouter : hub.routerEndpoints = some router)
    (generated : ∀ other ∈ router, other.connectionContainer ≠ none)
    (removed : List (HubServiceEndpoint υ)) :
    ∃ calls,
      removed.foldl Hub.removeHubServiceEndpoint hub =
        { hub with
          routerEndpoints := some
            (router.filter fun other => identityOf other ∉ removed.map identityOf)
          calls := hub.calls ++ calls } ∧
      ((∀ endpoint ∈ removed, endpoint.isScaleCompleted = true) → calls = []) ∧
      ∀ endpoint ∈ removed, endpoint.isScaleCompleted = false →
        ∀ other ∈ router, Drained endpoint other → identityOf other ∉ removed.map identityOf →
          calls ≠ [] := by
  induction removed generalizing hub router with
  | nil =>
      refine ⟨[], ?_, fun _ => rfl, fun endpoint member => absurd member List.not_mem_nil⟩
      have all : router.filter (fun other => identityOf other ∉ [].map identityOf) = router :=
        List.filter_eq_self.mpr fun other _ => decide_eq_true List.not_mem_nil
      rw [all, List.append_nil, ← isRouter]
      rfl
  | cons first removed inductionHypothesis =>
      obtain ⟨now, removedFirst, quiet⟩ := removeHubServiceEndpoint_eq isRouter generated first
      have remaining : ∀ other ∈ router.filter fun other => identityOf other ≠ identityOf first,
          other.connectionContainer ≠ none :=
        fun other member => generated other (List.mem_filter.mp member).1
      obtain ⟨later, removedOthers, quietLater, calledLater⟩ := inductionHypothesis
        (show (hub.removeHubServiceEndpoint first).routerEndpoints = some _ by rw [removedFirst])
        remaining
      refine ⟨now ++ later, ?_, ?_, ?_⟩
      · rw [List.foldl_cons, removedOthers, removedFirst, List.filter_filter, ← List.append_assoc]
        congr 2
        refine List.filter_congr fun other _ => ?_
        rw [← Bool.decide_and, decide_eq_decide, List.map_cons, List.mem_cons, not_or]
        exact and_comm
      · intro complete
        rw [quiet.mpr (.inl (complete first List.mem_cons_self)),
          quietLater fun endpoint member => complete endpoint (List.mem_cons_of_mem _ member)]
        rfl
      · intro endpoint member staged other isRouted drained stays
        rw [List.map_cons, List.mem_cons, not_or] at stays
        rcases List.mem_cons.mp member with rfl | isLater
        · intro none
          rcases quiet.mp (List.append_eq_nil_iff.mp none).1 with complete | strange
          · rw [staged] at complete
            cases complete
          · exact strange other isRouted drained
        · intro none
          have isRemaining : other ∈ router.filter fun other =>
              identityOf other ≠ identityOf first :=
            List.mem_filter.mpr ⟨isRouted, decide_eq_true stays.1⟩
          exact calledLater endpoint isLater staged other isRemaining drained stays.2
            (List.append_eq_nil_iff.mp none).2

end Remove

/-! ## Hubs that follow the manager -/

/-- A router has endpoints of the list, none of them twice, and each of the list has a
container. -/
structure Hub.Routes (hub : Hub υ) (router : List (HubServiceEndpoint υ)) : Prop where
  unique : (router.map identityOf).Nodup
  shared : ∀ routed ∈ router, ∃ endpoint ∈ hub.endpoints,
    identityOf endpoint = identityOf routed ∧
      endpoint.connectionContainer = routed.connectionContainer
  numbered : ∀ endpoint ∈ hub.endpoints, ∃ container < hub.nextContainer,
    endpoint.connectionContainer = some container

/-- The list of a hub has the endpoints of the manager. -/
structure Hub.Sound (current : List (ServiceEndpoint υ)) (hub : Hub υ) : Prop where
  unique : (hub.endpoints.map identityOf).Nodup
  listed : ∀ identity, identity ∈ hub.endpoints.map identityOf ↔
    identity ∈ current.map ServiceEndpoint.identity
  routes : ∀ router, hub.routerEndpoints = some router → hub.Routes router

theorem Hub.Routes.container {hub : Hub υ} {router : List (HubServiceEndpoint υ)}
    (routes : hub.Routes router) {routed : HubServiceEndpoint υ} (member : routed ∈ router) :
    ∃ container < hub.nextContainer, routed.connectionContainer = some container := by
  obtain ⟨endpoint, isListed, -, same⟩ := routes.shared routed member
  rw [← same]
  exact routes.numbered endpoint isListed

/-- The objects are what they are configured as. -/
def Identified (objects : Nat → EndpointIdentity υ) (items : List (ServiceEndpoint υ)) : Prop :=
  ∀ item ∈ items, objects item.reference = item.identity

section Reload

variable [DecidableEq υ] {objects : Nat → EndpointIdentity υ} {current updated : EndpointMap υ}
  {pendingReload : List Nat} {hub : Hub υ} {router : List (HubServiceEndpoint υ)}

/-- A staged endpoint is marked, since none that is replaced is the same object. -/
theorem marked_of_staged (identified : Identified objects current.keys)
    (updatedIdentified : Identified objects updated.keys) {new : ServiceEndpoint υ}
    (staged : new ∈ stagedAdded current updated) :
    new.reference ∈ (update current updated pendingReload).pendingReload := by
  refine List.mem_filter.mpr
    ⟨List.mem_append_right _ (List.mem_map_of_mem staged), decide_eq_true fun replaced => ?_⟩
  obtain ⟨instant, isInstant, same⟩ := List.mem_map.mp replaced
  obtain ⟨-, isCurrent, -⟩ := existing_spec isInstant
  obtain ⟨isUpdated, strange⟩ := mem_stagedAdded.1 staged
  refine strange (List.mem_map.mpr ⟨existing current instant, isCurrent, ?_⟩)
  apply weakIdentity_of_identity
  rw [← identified _ isCurrent, same, updatedIdentified new isUpdated]

/-- A rename stages nothing. -/
theorem staged_of_renames (renames : Renames current.entries updated.entries) :
    stagedAdded current updated = [] ∧ stagedRemoved current updated = [] := by
  constructor
  · refine List.eq_nil_iff_forall_not_mem.mpr fun new staged => ?_
    obtain ⟨isUpdated, strange⟩ := mem_stagedAdded.1 staged
    exact strange ((renames _).mp (List.mem_map_of_mem isUpdated))
  · refine List.eq_nil_iff_forall_not_mem.mpr fun old staged => ?_
    obtain ⟨isCurrent, strange⟩ := mem_stagedRemoved.1 staged
    exact strange ((renames _).mpr (List.mem_map_of_mem isCurrent))

/-- An endpoint that replaces another is marked only by an earlier reload. -/
theorem marked_of_instant (identified : Identified objects current.keys)
    (updatedIdentified : Identified objects updated.keys)
    (renames : Renames current.entries updated.entries) {new : ServiceEndpoint υ}
    (isInstant : new ∈ instantAdded current updated) :
    new.reference ∈ (update current updated pendingReload).pendingReload ↔
      new.reference ∈ pendingReload := by
  obtain ⟨noneAdded, noneRemoved⟩ := staged_of_renames renames
  rw [update, noneAdded, noneRemoved, List.map_nil, List.append_nil, List.append_nil,
    List.mem_filter]
  refine and_iff_left (decide_eq_true fun replaced => ?_)
  obtain ⟨instant, isOther, same⟩ := List.mem_map.mp replaced
  obtain ⟨-, isCurrent, -⟩ := existing_spec isOther
  obtain ⟨⟨isUpdated, -⟩, differs⟩ := mem_instantAdded.1 isInstant
  refine differs (List.mem_map.mpr ⟨existing current instant, isCurrent, ?_⟩)
  rw [← identified _ isCurrent, same, updatedIdentified new isUpdated]

theorem not_removed_of_added {new : ServiceEndpoint υ}
    (added : new ∈ (update current updated pendingReload).added) :
    new.identity ∉ (update current updated pendingReload).removed.map identity := by
  intro isRemoved
  obtain ⟨old, removed, same⟩ := List.mem_map.mp isRemoved
  refine ((mem_added pendingReload).mp added).2 ?_
  rw [← same]
  exact List.mem_map_of_mem ((mem_removed pendingReload).mp removed).1

/-- An endpoint that stays in the list and in the router. -/
def Stays (removed : List (ServiceEndpoint υ)) (endpoint : HubServiceEndpoint υ) : Bool :=
  decide (identityOf endpoint ∉ removed.map ServiceEndpoint.identity)

theorem isNone_isRemoved (removed : List (ServiceEndpoint υ)) (endpoint : HubServiceEndpoint υ) :
    (isRemoved removed endpoint).isNone = Stays removed endpoint := by
  rw [Bool.eq_iff_iff, Option.isNone_iff_eq_none, isRemoved, List.find?_eq_none, Stays,
    decide_eq_true_iff, List.mem_map]
  push Not
  refine forall₂_congr fun other _ => ?_
  rw [ne_eq, decide_eq_true_iff]
  exact Iff.rfl

/-- The list of a hub behind a reload, whatever has been generated for the endpoints it adds. -/
theorem Hub.Sound.list (sound : hub.Sound current.keys) (pendingReload : List Nat)
    {added : List (HubServiceEndpoint υ)}
    (isAdded : added.map identityOf =
      (update current updated pendingReload).added.map ServiceEndpoint.identity) :
    (((hub.endpoints ++ added).filter
        (Stays (update current updated pendingReload).removed)).map identityOf).Nodup ∧
      ∀ identity, identity ∈ ((hub.endpoints ++ added).filter
          (Stays (update current updated pendingReload).removed)).map identityOf ↔
        identity ∈ (updatedMap current updated pendingReload).keys.map
          ServiceEndpoint.identity := by
  constructor
  · refine List.Nodup.sublist (List.filter_sublist.map _) ?_
    rw [List.map_append, isAdded]
    refine List.Nodup.append sound.unique (nodup_added pendingReload) ?_
    intro identity isListed isNew
    obtain ⟨new, added, rfl⟩ := List.mem_map.mp isNew
    exact ((mem_added pendingReload).mp added).2 ((sound.listed _).mp isListed)
  · intro identity
    rw [mem_identities_update, ← sound.listed]
    constructor
    · intro member
      obtain ⟨endpoint, isKept, rfl⟩ := List.mem_map.mp member
      obtain ⟨isThere, stays⟩ := List.mem_filter.mp isKept
      rcases List.mem_append.mp isThere with isListed | isNew
      · exact .inl ⟨List.mem_map_of_mem isListed, of_decide_eq_true stays⟩
      · rw [← isAdded]
        exact .inr (List.mem_map_of_mem isNew)
    · rintro (⟨isListed, stays⟩ | isNew)
      · obtain ⟨endpoint, isThere, rfl⟩ := List.mem_map.mp isListed
        exact List.mem_map_of_mem
          (List.mem_filter.mpr ⟨List.mem_append_left _ isThere, decide_eq_true stays⟩)
      · obtain ⟨new, added, rfl⟩ := List.mem_map.mp isNew
        have stays := not_removed_of_added added
        rw [← isAdded] at isNew
        obtain ⟨endpoint, isThere, same⟩ := List.mem_map.mp isNew
        rw [← same] at stays ⊢
        exact List.mem_map_of_mem
          (List.mem_filter.mpr ⟨List.mem_append_right _ isThere, decide_eq_true stays⟩)

/-! ### The endpoints that a reload adds to a hub -/

theorem identities_created (hub : Hub υ) (update : EndpointUpdate υ) :
    (hub.createHubServiceEndpoints update).map identityOf =
      update.added.map ServiceEndpoint.identity := by
  rw [Hub.createHubServiceEndpoints, List.map_map]
  rfl

theorem isScaleCompleted_created (pendingReload : List Nat)
    (endpoints : List (HubServiceEndpoint υ)) (new : ServiceEndpoint υ) :
    (createHubServiceEndpoint pendingReload endpoints new).isScaleCompleted = true ↔
      new.reference ∉ pendingReload := by
  unfold createHubServiceEndpoint HubServiceEndpoint.isScaleCompleted
  by_cases marked : new.reference ∈ pendingReload
  · simp [marked]
  · simp [marked]

omit [DecidableEq υ] in
/-- The list of a hub has one endpoint for what a rename keeps. -/
theorem Hub.Sound.eq_of_weakIdentity (sound : hub.Sound current.keys)
    {one other : HubServiceEndpoint υ} (isListed : one ∈ hub.endpoints)
    (isListedToo : other ∈ hub.endpoints)
    (same : one.endpoint.weakIdentity = other.endpoint.weakIdentity) : one = other := by
  have key {endpoint : HubServiceEndpoint υ} (member : endpoint ∈ hub.endpoints) :
      ∃ key ∈ current.keys, key.identity = identityOf endpoint :=
    List.mem_map.mp ((sound.listed _).mp (List.mem_map_of_mem member))
  obtain ⟨first, isFirst, firstSame⟩ := key isListed
  obtain ⟨second, isSecond, secondSame⟩ := key isListedToo
  have isSame : first = second := by
    refine eq_of_endpoint current.unique isFirst isSecond ?_
    rw [endpoint_of_identity firstSame, endpoint_of_identity secondSame]
    exact endpoint_of_weakIdentity same
  refine Enumerable.eq_of_nodup sound.unique isListed isListedToo ?_
  rw [← firstSame, ← secondSame, isSame]

/-- The hub has what is replaced, and the new endpoint is created with its container. -/
theorem Hub.Sound.replaced (sound : hub.Sound current.keys) {new : ServiceEndpoint υ}
    (isInstant : new ∈ instantAdded current updated) :
    ∃ old ∈ hub.endpoints, identityOf old = (existing current new).identity ∧
      old.endpoint.weakIdentity = new.weakIdentity ∧
      ∀ pendingReload,
        (createHubServiceEndpoint pendingReload hub.endpoints new).connectionContainer =
        old.connectionContainer := by
  obtain ⟨-, isCurrent, weak⟩ := existing_spec isInstant
  obtain ⟨old, isListed, isOld⟩ :=
    List.mem_map.mp ((sound.listed _).mpr (List.mem_map_of_mem isCurrent))
  have sameWeak : old.endpoint.weakIdentity = new.weakIdentity :=
    (weakIdentity_of_identity isOld).trans weak
  refine ⟨old, isListed, isOld, sameWeak, fun pendingReload => ?_⟩
  show (hub.endpoints.find? fun other =>
    other.endpoint.weakIdentity = new.weakIdentity).bind HubServiceEndpoint.connectionContainer = _
  cases found : hub.endpoints.find? fun other =>
      other.endpoint.weakIdentity = new.weakIdentity with
  | none =>
      have impossible := List.find?_eq_none.mp found old isListed
      exact absurd (decide_eq_true sameWeak) impossible
  | some other =>
      have isOther : other.endpoint.weakIdentity = new.weakIdentity := by
        have isFound := List.find?_some found
        exact of_decide_eq_true isFound
      rw [sound.eq_of_weakIdentity (List.mem_of_find?_eq_some found) isListed
        (isOther.trans sameWeak.symm)]
      rfl

/-- Behind an add every new endpoint has a container. -/
theorem container_generated (sound : hub.Sound current.keys) (routes : hub.Routes router)
    (identified : Identified objects current.keys)
    (updatedIdentified : Identified objects updated.keys) {endpoint : HubServiceEndpoint υ}
    (member : endpoint ∈ hub.generate
      (hub.createHubServiceEndpoints (update current updated pendingReload))) :
    ∃ container < hub.nextContainer + (update current updated pendingReload).added.length,
      endpoint.connectionContainer = some container := by
  obtain ⟨index, source, isSource, rfl⟩ := mem_generate.1 member
  have inside := (List.getElem?_eq_some_iff.mp isSource).1
  rw [Hub.createHubServiceEndpoints, List.length_map] at inside
  obtain ⟨new, added, rfl⟩ := List.mem_map.mp (List.mem_of_getElem? isSource)
  unfold Hub.generated
  split_ifs with instant
  · rcases List.mem_append.mp added with staged | isInstant
    · exact absurd (marked_of_staged identified updatedIdentified staged)
        ((isScaleCompleted_created _ _ _).mp instant)
    · obtain ⟨old, isListed, -, -, same⟩ := sound.replaced isInstant
      obtain ⟨container, below, isContainer⟩ := routes.numbered old isListed
      exact ⟨container, by omega, (same _).trans isContainer⟩
  · exact ⟨hub.nextContainer + index, by omega, rfl⟩

/-! ### The hub behind a reload -/

theorem mem_removedEndpoints {removed : List (ServiceEndpoint υ)}
    {endpoint : HubServiceEndpoint υ} :
    endpoint ∈ hub.removedEndpoints pendingReload removed ↔
      ∃ source ∈ hub.endpoints, ∃ remove, isRemoved removed source = some remove ∧
        (if remove.reference ∈ pendingReload then source.resetScale else source) = endpoint := by
  rw [Hub.removedEndpoints, List.mem_filterMap]
  refine exists_congr fun source => and_congr_right fun _ => ?_
  exact Option.map_eq_some_iff

theorem isRemoved_eq_some {removed : List (ServiceEndpoint υ)} {remove : ServiceEndpoint υ}
    {source : HubServiceEndpoint υ} (found : isRemoved removed source = some remove) :
    remove ∈ removed ∧ remove.identity = identityOf source := by
  have isSame := List.find?_some found
  exact ⟨List.mem_of_find?_eq_some found, of_decide_eq_true isSame⟩

theorem exists_isRemoved {removed : List (ServiceEndpoint υ)} {source : HubServiceEndpoint υ}
    (member : identityOf source ∈ removed.map ServiceEndpoint.identity) :
    ∃ remove, isRemoved removed source = some remove := by
  rw [← Option.ne_none_iff_exists', ne_eq, ← Option.isNone_iff_eq_none, isNone_isRemoved, Stays,
    decide_eq_true_iff, not_not]
  exact member

theorem mem_identities_removed {removed : List (ServiceEndpoint υ)}
    {identity : EndpointIdentity υ} :
    identity ∈ (hub.removedEndpoints pendingReload removed).map identityOf ↔
      identity ∈ hub.endpoints.map identityOf ∧
        identity ∈ removed.map ServiceEndpoint.identity := by
  constructor
  · intro member
    obtain ⟨endpoint, isRemoved, rfl⟩ := List.mem_map.mp member
    obtain ⟨source, isListed, remove, found, rfl⟩ := mem_removedEndpoints.1 isRemoved
    obtain ⟨isThere, same⟩ := isRemoved_eq_some found
    have isSource : identityOf (if remove.reference ∈ pendingReload then source.resetScale
        else source) = identityOf source := by
      split_ifs
      · rfl
      · rfl
    rw [isSource]
    exact ⟨List.mem_map_of_mem isListed, List.mem_map.mpr ⟨remove, isThere, same⟩⟩
  · rintro ⟨isListed, isThere⟩
    obtain ⟨source, isSource, rfl⟩ := List.mem_map.mp isListed
    obtain ⟨remove, found⟩ := exists_isRemoved isThere
    refine List.mem_map.mpr
      ⟨_, mem_removedEndpoints.2 ⟨source, isSource, remove, found, rfl⟩, ?_⟩
    split_ifs
    · rfl
    · rfl

/-- A reload of a hub that routes. `calls` is empty where everything that is removed is removed
at once, and it is not where something is drained that the router has another endpoint for. -/
theorem Hub.reload_eq (sound : hub.Sound current.keys)
    (isRouter : hub.routerEndpoints = some router)
    (identified : Identified objects current.keys)
    (updatedIdentified : Identified objects updated.keys) (pendingReload : List Nat)
    (outcome : Outcome υ) :
    ∃ generated calls,
      generated = hub.generate
        (hub.createHubServiceEndpoints (update current updated pendingReload)) ∧
      hub.reload (update current updated pendingReload) outcome =
        { endpoints := (hub.endpoints ++ generated.map HubServiceEndpoint.completeScale).filter
            (Stays (update current updated pendingReload).removed)
          routerEndpoints := some ((router ++ joining outcome generated).filter
            (Stays (update current updated pendingReload).removed))
          nextContainer :=
            hub.nextContainer + (update current updated pendingReload).added.length
          calls := hub.calls ++ calls } ∧
      ((∀ source ∈ hub.endpoints, ∀ remove ∈ (update current updated pendingReload).removed,
        remove.identity = identityOf source → source.isScaleCompleted = true ∧
          remove.reference ∉ (update current updated pendingReload).pendingReload) → calls = []) ∧
      ∀ source ∈ hub.endpoints,
        identityOf source ∈ (update current updated pendingReload).removed.map
          ServiceEndpoint.identity →
        source.isScaleCompleted = false → ∀ other ∈ router ++ joining outcome generated,
          Drained source other →
          Stays (update current updated pendingReload).removed other = true → calls ≠ [] := by
  have routes := sound.routes router isRouter
  let changes := update current updated pendingReload
  let generated := hub.generate (hub.createHubServiceEndpoints changes)
  let added : Hub υ :=
    { hub with
      endpoints := hub.endpoints ++ generated.map HubServiceEndpoint.completeScale
      routerEndpoints := some (router ++ joining outcome generated)
      nextContainer := hub.nextContainer + changes.added.length }
  have isAdded : hub.addEndpoints outcome (hub.createHubServiceEndpoints changes) = added := by
    unfold Hub.addEndpoints
    rw [isRouter]
    show Hub.mk _ _ _ _ = added
    rw [Hub.createHubServiceEndpoints, List.length_map]
    rfl
  have joined {endpoint : HubServiceEndpoint υ} (member : endpoint ∈ joining outcome generated) :
      endpoint ∈ generated :=
    (List.mem_filter.mp ((outcome.perm _).mem_iff.mp member)).1
  have containers : ∀ other ∈ router ++ joining outcome generated,
      other.connectionContainer ≠ none := by
    intro other member
    rcases List.mem_append.mp member with isRouted | isJoined
    · obtain ⟨container, -, isContainer⟩ := routes.container isRouted
      rw [isContainer]
      nofun
    · obtain ⟨container, -, isContainer⟩ :=
        container_generated sound routes identified updatedIdentified (joined isJoined)
      rw [isContainer]
      nofun
  have listed {other : HubServiceEndpoint υ}
      (member : other ∈ router ++ joining outcome generated) :
      identityOf other ∈ added.endpoints.map identityOf := by
    show identityOf other ∈ (hub.endpoints ++ _).map identityOf
    rcases List.mem_append.mp member with isRouted | isJoined
    · obtain ⟨endpoint, isListed, same, -⟩ := routes.shared other isRouted
      rw [← same]
      exact List.mem_map_of_mem (List.mem_append_left _ isListed)
    · rw [← identityOf_completeScale]
      exact List.mem_map_of_mem
        (List.mem_append_right _ (List.mem_map_of_mem (joined isJoined)))
  have stays {other : HubServiceEndpoint υ}
      (member : other ∈ router ++ joining outcome generated) :
      identityOf other ∉
          (added.removedEndpoints changes.pendingReload changes.removed).map identityOf ↔
        Stays changes.removed other = true := by
    rw [mem_identities_removed, Stays, decide_eq_true_iff]
    exact not_congr (and_iff_right (listed member))
  obtain ⟨calls, removedAll, quiet, called⟩ := foldl_removeHubServiceEndpoint
    (show ({ added with
      endpoints := added.endpoints.filter fun endpoint =>
        (isRemoved changes.removed endpoint).isNone } : Hub υ).routerEndpoints =
      some (router ++ joining outcome generated) from rfl)
    containers (added.removedEndpoints changes.pendingReload changes.removed)
  refine ⟨generated, calls, rfl, ?_, ?_, ?_⟩
  · show (hub.addEndpoints outcome (hub.createHubServiceEndpoints changes)).removeEndpoints
      changes.pendingReload changes.removed = _
    rw [isAdded, Hub.removeEndpoints, removedAll]
    congr 1
    · exact List.filter_congr fun endpoint _ => isNone_isRemoved _ endpoint
    · congr 1
      refine List.filter_congr fun other member => ?_
      rw [Bool.eq_iff_iff, decide_eq_true_iff]
      exact stays member
  · intro instant
    refine quiet fun endpoint member => ?_
    obtain ⟨source, isListed, remove, found, rfl⟩ := mem_removedEndpoints.1 member
    obtain ⟨isThere, same⟩ := isRemoved_eq_some found
    rcases List.mem_append.mp isListed with isOld | isNew
    · obtain ⟨complete, unmarked⟩ := instant source isOld remove isThere same
      rw [if_neg unmarked]
      exact complete
    · have isIdentity : identityOf source ∈ changes.added.map ServiceEndpoint.identity := by
        rw [← identities_created hub, ← identities_generate hub]
        obtain ⟨new, isGenerated, isSource⟩ := List.mem_map.mp isNew
        rw [← isSource, identityOf_completeScale]
        exact List.mem_map_of_mem isGenerated
      obtain ⟨new, isAdded, isSame⟩ := List.mem_map.mp isIdentity
      refine absurd (List.mem_map.mpr ⟨remove, isThere, ?_⟩) (not_removed_of_added isAdded)
      rw [same, ← isSame]
  · intro source isListed isRemoved staged other member drained remains
    obtain ⟨remove, found⟩ := exists_isRemoved isRemoved
    refine called _ (mem_removedEndpoints.2
      ⟨source, List.mem_append_left _ isListed, remove, found, rfl⟩) ?_ other member ?_
      ((stays member).mpr remains)
    · split_ifs
      · rfl
      · exact staged
    · split_ifs
      · exact drained
      · exact drained

/-- Without a router a reload changes the list. -/
theorem Hub.reload_of_unrouted (noRouter : hub.routerEndpoints = none) (outcome : Outcome υ)
    (update : EndpointUpdate υ) :
    hub.reload update outcome =
      { hub with
        endpoints := (hub.endpoints ++
          (hub.createHubServiceEndpoints update).map HubServiceEndpoint.completeScale).filter
            (Stays update.removed) } := by
  have skipped (removed : List (HubServiceEndpoint υ)) {next : Hub υ}
      (none : next.routerEndpoints = none) :
      removed.foldl Hub.removeHubServiceEndpoint next = next := by
    induction removed with
    | nil => rfl
    | cons endpoint removed inductionHypothesis =>
        have skip : next.removeHubServiceEndpoint endpoint = next := by
          unfold Hub.removeHubServiceEndpoint
          rw [none]
        rw [List.foldl_cons, skip, inductionHypothesis]
  have added : hub.addEndpoints outcome (hub.createHubServiceEndpoints update) =
      { hub with
        endpoints := hub.endpoints ++
          (hub.createHubServiceEndpoints update).map HubServiceEndpoint.completeScale } := by
    unfold Hub.addEndpoints
    rw [noRouter]
  rw [Hub.reload, added, Hub.removeEndpoints, skipped]
  · congr 1
    exact List.filter_congr fun endpoint _ => isNone_isRemoved _ endpoint
  · exact noRouter

/-- A reload keeps the lists and the routers together. -/
theorem Hub.Sound.reload (sound : hub.Sound current.keys)
    (identified : Identified objects current.keys)
    (updatedIdentified : Identified objects updated.keys) (pendingReload : List Nat)
    (outcome : Outcome υ) :
    (hub.reload (update current updated pendingReload) outcome).Sound
      (updatedMap current updated pendingReload).keys := by
  have completed (endpoints : List (HubServiceEndpoint υ)) :
      (endpoints.map HubServiceEndpoint.completeScale).map identityOf =
        endpoints.map identityOf := by
    rw [List.map_map]
    rfl
  cases isRouter : hub.routerEndpoints with
  | none =>
      rw [Hub.reload_of_unrouted isRouter]
      obtain ⟨unique, listed⟩ := sound.list pendingReload
        ((completed _).trans (identities_created hub (update current updated pendingReload)))
      refine ⟨unique, listed, fun router isSome => ?_⟩
      rw [show hub.routerEndpoints = some router from isSome] at isRouter
      cases isRouter
  | some router =>
      have routes := sound.routes router isRouter
      obtain ⟨generated, calls, isGenerated, reloaded, -, -⟩ :=
        Hub.reload_eq sound isRouter identified updatedIdentified pendingReload outcome
      have identities : generated.map identityOf =
          (update current updated pendingReload).added.map ServiceEndpoint.identity := by
        rw [isGenerated, identities_generate, identities_created]
      obtain ⟨unique, listed⟩ := sound.list pendingReload ((completed _).trans identities)
      have joined {endpoint : HubServiceEndpoint υ}
          (member : endpoint ∈ joining outcome generated) :
          endpoint ∈ generated :=
        (List.mem_filter.mp ((outcome.perm _).mem_iff.mp member)).1
      rw [reloaded]
      refine ⟨unique, listed, ?_⟩
      rintro _ ⟨⟩
      constructor
      · refine List.Nodup.sublist (List.filter_sublist.map _) ?_
        rw [List.map_append]
        refine List.Nodup.append routes.unique ?_ ?_
        · refine ((outcome.perm _).map identityOf).nodup_iff.mpr ?_
          refine List.Nodup.sublist (List.filter_sublist.map _) ?_
          rw [identities]
          exact nodup_added pendingReload
        · intro identity isRouted isJoined
          obtain ⟨routed, isThere, rfl⟩ := List.mem_map.mp isRouted
          obtain ⟨endpoint, isListed, same, -⟩ := routes.shared routed isThere
          have isCurrent := (sound.listed _).mp (List.mem_map_of_mem isListed)
          obtain ⟨other, isJoining, sameToo⟩ := List.mem_map.mp isJoined
          have isNew : identityOf other ∈ generated.map identityOf :=
            List.mem_map.mpr ⟨other, joined isJoining, rfl⟩
          rw [identities, sameToo, ← same] at isNew
          obtain ⟨new, added, isSame⟩ := List.mem_map.mp isNew
          refine ((mem_added pendingReload).mp added).2 ?_
          rw [isSame]
          exact isCurrent
      · intro routed member
        obtain ⟨isThere, stays⟩ := List.mem_filter.mp member
        rcases List.mem_append.mp isThere with isRouted | isJoined
        · obtain ⟨endpoint, isListed, same, container⟩ := routes.shared routed isRouted
          refine ⟨endpoint, List.mem_filter.mpr ⟨List.mem_append_left _ isListed, ?_⟩, same,
            container⟩
          rw [Stays, same]
          exact stays
        · exact ⟨routed.completeScale, List.mem_filter.mpr
            ⟨List.mem_append_right _ (List.mem_map_of_mem (joined isJoined)), stays⟩, rfl, rfl⟩
      · intro endpoint member
        rcases List.mem_append.mp (List.mem_filter.mp member).1 with isListed | isNew
        · obtain ⟨container, below, isContainer⟩ := routes.numbered endpoint isListed
          exact ⟨container, Nat.lt_add_right _ below, isContainer⟩
        · obtain ⟨source, isSource, rfl⟩ := List.mem_map.mp isNew
          rw [isGenerated] at isSource
          have isContainer : ∃ container, _ ∧ source.connectionContainer = some container :=
            container_generated sound routes identified updatedIdentified isSource
          exact isContainer

/-! ## A rename -/

theorem added_of_renames (renames : Renames current.entries updated.entries) :
    (update current updated pendingReload).added = instantAdded current updated := by
  show stagedAdded current updated ++ _ = _
  rw [(staged_of_renames renames).1, List.nil_append]

theorem removed_of_renames (renames : Renames current.entries updated.entries) :
    (update current updated pendingReload).removed =
      (instantAdded current updated).map (existing current) := by
  show stagedRemoved current updated ++ _ = _
  rw [(staged_of_renames renames).2, List.nil_append]

/-- What leaves the routers in a rename. -/
def replacedIdentities (current updated : EndpointMap υ) : List (EndpointIdentity υ) :=
  (instantAdded current updated).map fun new => (existing current new).identity

theorem stays_iff (renames : Renames current.entries updated.entries)
    (endpoint : HubServiceEndpoint υ) :
    Stays (update current updated pendingReload).removed endpoint = true ↔
      identityOf endpoint ∉ replacedIdentities current updated := by
  rw [Stays, decide_eq_true_iff, removed_of_renames renames, List.map_map]
  exact Iff.rfl

theorem nodup_replacedIdentities : (replacedIdentities current updated).Nodup := by
  refine List.Nodup.of_map (fun identity : EndpointIdentity υ =>
    (identity.endpoint, identity.endpointType, identity.serverEndpoint)) ?_
  have weak : (replacedIdentities current updated).map (fun identity : EndpointIdentity υ =>
      (identity.endpoint, identity.endpointType, identity.serverEndpoint)) =
        (instantAdded current updated).map ServiceEndpoint.weakIdentity := by
    rw [replacedIdentities, List.map_map]
    exact List.map_congr_left fun new isInstant => (existing_spec isInstant).2.2
  rw [weak]
  exact (nodup_weakIdentity updated.unique).sublist (instantAdded_sublist.map _)

/-- The container that a list has for an endpoint. -/
def containerOf (endpoints : List (HubServiceEndpoint υ)) (identity : EndpointIdentity υ) :
    Option Nat :=
  (endpoints.find? fun endpoint => identityOf endpoint = identity).bind
    HubServiceEndpoint.connectionContainer

theorem Hub.Sound.containerOf_eq (sound : hub.Sound current.keys) {endpoint : HubServiceEndpoint υ}
    (isListed : endpoint ∈ hub.endpoints) :
    containerOf hub.endpoints (identityOf endpoint) = endpoint.connectionContainer := by
  unfold containerOf
  cases found : hub.endpoints.find? fun other => identityOf other = identityOf endpoint with
  | none =>
      have impossible := List.find?_eq_none.mp found endpoint isListed
      exact absurd (decide_eq_true rfl) impossible
  | some other =>
      have same : identityOf other = identityOf endpoint := by
        have isFound := List.find?_some found
        exact of_decide_eq_true isFound
      rw [Enumerable.eq_of_nodup sound.unique (List.mem_of_find?_eq_some found) isListed same]
      rfl

/-- The new endpoints have the containers of those that they replace. -/
theorem containers_created (sound : hub.Sound current.keys)
    (renames : Renames current.entries updated.entries) :
    (hub.createHubServiceEndpoints (update current updated pendingReload)).map
        HubServiceEndpoint.connectionContainer =
      (replacedIdentities current updated).map (containerOf hub.endpoints) := by
  rw [Hub.createHubServiceEndpoints, added_of_renames renames, replacedIdentities, List.map_map,
    List.map_map]
  refine List.map_congr_left fun new isInstant => ?_
  obtain ⟨old, isListed, isOld, -, same⟩ := sound.replaced isInstant
  show (createHubServiceEndpoint _ hub.endpoints new).connectionContainer =
    containerOf _ (existing current new).identity
  rw [same, ← isOld, sound.containerOf_eq isListed]

/-- The endpoints that leave a router are some of those that are replaced. -/
theorem Hub.Routes.leaving (routes : hub.Routes router)
    (renames : Renames current.entries updated.entries) (pendingReload : List Nat) :
    ((router.filter fun endpoint =>
        !Stays (update current updated pendingReload).removed endpoint).map identityOf).Nodup ∧
      ∀ identity, identity ∈ (router.filter fun endpoint =>
          !Stays (update current updated pendingReload).removed endpoint).map identityOf ↔
        identity ∈ router.map identityOf ∧ identity ∈ replacedIdentities current updated := by
  constructor
  · exact routes.unique.sublist (List.filter_sublist.map _)
  · intro identity
    have leaves (endpoint : HubServiceEndpoint υ) :
        (!Stays (update current updated pendingReload).removed endpoint) = true ↔
          identityOf endpoint ∈ replacedIdentities current updated := by
      rw [Bool.not_eq_true', ← Bool.not_eq_true, stays_iff renames, not_not]
    constructor
    · intro member
      obtain ⟨endpoint, isLeaving, rfl⟩ := List.mem_map.mp member
      obtain ⟨isRouted, isGone⟩ := List.mem_filter.mp isLeaving
      exact ⟨List.mem_map_of_mem isRouted, (leaves endpoint).mp isGone⟩
    · rintro ⟨isRouted, isGone⟩
      obtain ⟨endpoint, isThere, rfl⟩ := List.mem_map.mp isRouted
      exact List.mem_map_of_mem (List.mem_filter.mpr ⟨isThere, (leaves endpoint).mpr isGone⟩)

/-- Where everything can be exchanged, the endpoints that leave a router take with them the
containers of those that come. -/
theorem Hub.Sound.exchanged (sound : hub.Sound current.keys) (routes : hub.Routes router)
    (renames : Renames current.entries updated.entries)
    (exchangeable : ∀ new ∈ instantAdded current updated,
      Exchangeable pendingReload hub router new) :
    ((hub.createHubServiceEndpoints (update current updated pendingReload)).map
        HubServiceEndpoint.connectionContainer).Perm
      ((router.filter fun endpoint =>
        !Stays (update current updated pendingReload).removed endpoint).map
          HubServiceEndpoint.connectionContainer) := by
  obtain ⟨once, leaving⟩ := routes.leaving renames pendingReload
  have identities : ((router.filter fun endpoint =>
      !Stays (update current updated pendingReload).removed endpoint).map identityOf).Perm
        (replacedIdentities current updated) := by
    refine (List.perm_ext_iff_of_nodup once nodup_replacedIdentities).mpr fun identity => ?_
    rw [leaving]
    refine and_iff_right_of_imp fun isReplaced => ?_
    obtain ⟨new, isInstant, rfl⟩ := List.mem_map.mp isReplaced
    obtain ⟨old, isOld, weak, -, isRouted⟩ := (exchangeable new isInstant).existing
    obtain ⟨other, isOther, isSame, weakToo, -⟩ := sound.replaced isInstant
    rw [← isSame, ← sound.eq_of_weakIdentity isOld isOther (weak.trans weakToo.symm)]
    exact isRouted
  have shared : (router.filter fun endpoint =>
      !Stays (update current updated pendingReload).removed endpoint).map
        HubServiceEndpoint.connectionContainer =
      ((router.filter fun endpoint =>
        !Stays (update current updated pendingReload).removed endpoint).map identityOf).map
          (containerOf hub.endpoints) := by
    rw [List.map_map]
    refine List.map_congr_left fun routed member => ?_
    obtain ⟨endpoint, isListed, same, container⟩ :=
      routes.shared routed (List.mem_filter.mp member).1
    show routed.connectionContainer = containerOf _ (identityOf routed)
    rw [← container, ← same, sound.containerOf_eq isListed]
  rw [containers_created sound renames, shared]
  exact (identities.symm).map _

/-- Where everything can be exchanged, what a rename removes is removed at once. -/
theorem Hub.Sound.removed_at_once (sound : hub.Sound current.keys)
    (renames : Renames current.entries updated.entries)
    (exchangeable : ∀ new ∈ instantAdded current updated,
      Exchangeable pendingReload hub router new)
    {source : HubServiceEndpoint υ} (isListed : source ∈ hub.endpoints)
    {remove : ServiceEndpoint υ}
    (isRemoved : remove ∈ (update current updated pendingReload).removed)
    (same : remove.identity = identityOf source) :
    source.isScaleCompleted = true ∧
      remove.reference ∉ (update current updated pendingReload).pendingReload := by
  rw [removed_of_renames renames] at isRemoved
  obtain ⟨new, isInstant, rfl⟩ := List.mem_map.mp isRemoved
  obtain ⟨old, isOld, weak, complete, -⟩ := (exchangeable new isInstant).existing
  have isSource : old = source := by
    refine sound.eq_of_weakIdentity isOld isListed (weak.trans ?_)
    rw [← (existing_spec isInstant).2.2]
    exact weakIdentity_of_identity same
  rw [← isSource]
  refine ⟨complete, fun marked => ?_⟩
  have unmarked := of_decide_eq_true (List.mem_filter.mp marked).2
  exact unmarked (List.mem_map.mpr ⟨new, isInstant, rfl⟩)

/-- Where everything can be exchanged, a rename calls no container and routes to the same ones. -/
theorem Hub.Sound.rename_of_exchangeable (sound : hub.Sound current.keys)
    (isRouter : hub.routerEndpoints = some router)
    (identified : Identified objects current.keys)
    (updatedIdentified : Identified objects updated.keys)
    (renames : Renames current.entries updated.entries)
    (exchangeable : ∀ new ∈ instantAdded current updated,
      Exchangeable pendingReload hub router new) (outcome : Outcome υ) :
    (hub.reload (update current updated pendingReload) outcome).calls = hub.calls ∧
      (hub.reload (update current updated pendingReload) outcome).routed.Perm hub.routed := by
  obtain ⟨generated, calls, isGenerated, reloaded, quiet, -⟩ :=
    Hub.reload_eq sound isRouter identified updatedIdentified pendingReload outcome
  have instant : ∀ endpoint ∈ hub.createHubServiceEndpoints (update current updated pendingReload),
      endpoint.isScaleCompleted = true := by
    intro endpoint member
    obtain ⟨new, added, rfl⟩ := List.mem_map.mp member
    rw [added_of_renames renames] at added
    rw [isScaleCompleted_created, marked_of_instant identified updatedIdentified renames added]
    exact (exchangeable new added).unmarked
  rw [generate_of_instant instant] at isGenerated
  rw [reloaded]
  constructor
  · have none : calls = [] := quiet fun _ isListed _ isRemoved same =>
      sound.removed_at_once renames exchangeable isListed isRemoved same
    show hub.calls ++ calls = hub.calls
    rw [none, List.append_nil]
  · have joined : (joining outcome generated).Perm generated := by
      refine (outcome.perm _).trans (.of_eq (List.filter_eq_self.mpr fun endpoint member => ?_))
      rw [isGenerated] at member
      rw [instant endpoint member, Bool.true_or]
    have staying : (joining outcome generated).filter
        (Stays (update current updated pendingReload).removed) = joining outcome generated := by
      refine List.filter_eq_self.mpr fun endpoint member => decide_eq_true ?_
      have isCreated := joined.mem_iff.mp member
      rw [isGenerated] at isCreated
      obtain ⟨new, added, rfl⟩ := List.mem_map.mp isCreated
      exact not_removed_of_added added
    have before : hub.routed = router.map HubServiceEndpoint.connectionContainer := by
      rw [Hub.routed, isRouter]
      rfl
    show (((router ++ joining outcome generated).filter
      (Stays (update current updated pendingReload).removed)).map
        HubServiceEndpoint.connectionContainer).Perm hub.routed
    rw [before, List.filter_append, staying, List.map_append]
    have exchanged := sound.exchanged (sound.routes router isRouter) renames exchangeable
    rw [← isGenerated] at exchanged
    refine (((joined.map _).trans exchanged).append_left _).trans ?_
    rw [← List.map_append]
    exact (List.filter_append_perm _ router).map _

/-- Where something cannot be exchanged, a rename whose containers all start calls a container or
routes to others. -/
theorem Hub.Sound.exchangeable_of_rename (sound : hub.Sound current.keys)
    (isRouter : hub.routerEndpoints = some router)
    (identified : Identified objects current.keys)
    (updatedIdentified : Identified objects updated.keys)
    (renames : Renames current.entries updated.entries)
    (quiet : (hub.reload (update current updated pendingReload) .all).calls = hub.calls)
    (same : (hub.reload (update current updated pendingReload) .all).routed.Perm hub.routed)
    {new : ServiceEndpoint υ} (isInstant : new ∈ instantAdded current updated) :
    Exchangeable pendingReload hub router new := by
  have routes := sound.routes router isRouter
  obtain ⟨generated, calls, isGenerated, reloaded, -, called⟩ :=
    Hub.reload_eq sound isRouter identified updatedIdentified pendingReload .all
  have joined : joining .all generated = generated :=
    List.filter_eq_self.mpr fun endpoint _ => Bool.or_true _
  have none : calls = [] := by
    rw [reloaded] at quiet
    exact List.append_right_eq_self.mp quiet
  have before : hub.routed = router.map HubServiceEndpoint.connectionContainer := by
    rw [Hub.routed, isRouter]
    rfl
  have staying : ∀ endpoint ∈ generated,
      Stays (update current updated pendingReload).removed endpoint = true := by
    intro endpoint member
    have isIdentity : identityOf endpoint ∈ generated.map identityOf :=
      List.mem_map_of_mem member
    rw [isGenerated, identities_generate, identities_created] at isIdentity
    obtain ⟨other, added, isSame⟩ := List.mem_map.mp isIdentity
    refine decide_eq_true ?_
    rw [← isSame]
    exact not_removed_of_added added
  have after : (hub.reload (update current updated pendingReload) .all).routed =
      (router.filter (Stays (update current updated pendingReload).removed)).map
        HubServiceEndpoint.connectionContainer ++
          generated.map HubServiceEndpoint.connectionContainer := by
    rw [reloaded, joined]
    show ((router ++ generated).filter _).map _ = _
    rw [List.filter_append, List.filter_eq_self.mpr staying, List.map_append]
  rw [before, after] at same
  have added : new ∈ (update current updated pendingReload).added := by
    rw [added_of_renames renames]
    exact isInstant
  obtain ⟨old, isListed, isOld, weak, -⟩ := sound.replaced isInstant
  have isReplaced : (existing current new).identity ∈ replacedIdentities current updated :=
    List.mem_map_of_mem isInstant
  obtain ⟨index, found⟩ := List.mem_iff_getElem?.mp added
  obtain ⟨source, isSource⟩ : ∃ source, source = createHubServiceEndpoint
      (update current updated pendingReload).pendingReload hub.endpoints new := ⟨_, rfl⟩
  have isThere : hub.generated index source ∈ generated := by
    rw [isGenerated]
    refine mem_generate.2 ⟨index, source, ?_, rfl⟩
    rw [Hub.createHubServiceEndpoints, List.getElem?_map, found, isSource]
    rfl
  have isNew : (hub.generated index source).endpoint = new := by
    rw [endpoint_generated, isSource]
    rfl
  constructor
  · intro marked
    have isStaged : ¬ source.isScaleCompleted = true := by
      rw [isSource, isScaleCompleted_created, not_not]
      exact (marked_of_instant identified updatedIdentified renames isInstant).mpr marked
    have container : (hub.generated index source).connectionContainer =
        some (hub.nextContainer + index) := by
      unfold Hub.generated
      rw [if_neg isStaged]
    have isRouted : some (hub.nextContainer + index) ∈
        router.map HubServiceEndpoint.connectionContainer := by
      rw [← same.mem_iff, ← container]
      exact List.mem_append_right _ (List.mem_map_of_mem isThere)
    obtain ⟨routed, member, isContainer⟩ := List.mem_map.mp isRouted
    obtain ⟨number, below, isNumber⟩ := routes.container member
    rw [isNumber, Option.some.injEq] at isContainer
    omega
  · refine ⟨old, isListed, weak, ?_, ?_⟩
    · by_contra isStaged
      have isRemoved : identityOf old ∈ (update current updated pendingReload).removed.map
          ServiceEndpoint.identity := by
        rw [removed_of_renames renames, isOld, List.map_map]
        exact isReplaced
      refine called old isListed isRemoved (Bool.eq_false_of_not_eq_true isStaged)
        (hub.generated index source) ?_ ?_ (staying _ isThere) none
      · rw [joined]
        exact List.mem_append_right _ isThere
      · rw [Drained, isNew]
        exact ⟨(endpoint_of_weakIdentity weak).symm, (congrArg (fun weak => weak.2.1) weak).symm⟩
    · obtain ⟨once, leaving⟩ := routes.leaving renames pendingReload
      have sizes := same.length_eq
      have all := (List.filter_append_perm
        (Stays (update current updated pendingReload).removed) router).length_eq
      have created : generated.length = (replacedIdentities current updated).length := by
        rw [isGenerated, Hub.generate, List.length_mapIdx, Hub.createHubServiceEndpoints,
          List.length_map, added_of_renames renames, replacedIdentities, List.length_map]
      rw [List.length_append] at all
      rw [List.length_append, List.length_map, List.length_map, List.length_map] at sizes
      have everyone := (List.Nodup.subperm once fun identity member =>
        ((leaving identity).mp member).2).perm_of_length_le (by rw [List.length_map]; omega)
      rw [isOld]
      exact ((leaving _).mp (everyone.mem_iff.mpr isReplaced)).1

end Reload

/-! ## All histories -/

section Histories

variable {η : Type} [DecidableEq υ] {objects : Nat → EndpointIdentity υ}

/-- The lists and the routers of all hubs follow the endpoints of the manager. -/
structure Follows (objects : Nat → EndpointIdentity υ) (map : EndpointMap υ) (state : State η υ) :
    Prop where
  endpoints : state.endpoints = map.entries
  identified : Identified objects map.keys
  hubs : ∀ name hub, state.hubs name = some hub → hub.Sound map.keys

variable {map : EndpointMap υ} {state next : State η υ}

theorem identified_selection (references : List Nat) :
    Identified objects (selection (configured objects references)).keys := by
  intro item member
  rw [keys_selection] at member
  obtain ⟨reference, -, rfl⟩ := List.mem_map.mp (mem_configuration_of_selected member)
  rfl

theorem Identified.updatedMap {current updated : EndpointMap υ}
    (identified : Identified objects current.keys)
    (updatedIdentified : Identified objects updated.keys) (pendingReload : List Nat) :
    Identified objects (updatedMap current updated pendingReload).keys := by
  intro item member
  rcases (mem_keys_update pendingReload).mp member with ⟨isCurrent, -⟩ | added
  · exact identified item isCurrent
  · exact updatedIdentified item ((mem_added pendingReload).mp added).1

/-- The list that a hub gets of `Endpoints`. -/
theorem Follows.getEndpoints (follows : Follows objects map state) (name : η) :
    (state.getEndpoints name).Sound map.keys := by
  unfold State.getEndpoints
  cases found : state.hubs name with
  | some hub => exact follows.hubs name hub found
  | none =>
      have identities : (state.endpoints.keys.map
          (createHubServiceEndpoint state.pendingReload [])).map identityOf =
            map.keys.map ServiceEndpoint.identity := by
        rw [List.map_map, follows.endpoints]
        rfl
      constructor
      · show List.Nodup (List.map identityOf (List.map _ _))
        rw [identities]
        exact nodup_identity map.unique
      · intro identity
        show identity ∈ List.map identityOf (List.map _ _) ↔ _
        rw [identities]
      · nofun

omit [DecidableEq υ] in
/-- A new router has the whole list. -/
theorem Hub.Sound.construct {current : List (ServiceEndpoint υ)} {hub : Hub υ}
    (sound : hub.Sound current) : hub.construct.Sound current := by
  have identities : hub.construct.endpoints.map identityOf = hub.endpoints.map identityOf := by
    refine List.ext_getElem? fun index => ?_
    show ((hub.endpoints.mapIdx _).map identityOf)[index]? = _
    rw [List.getElem?_map, List.getElem?_mapIdx, List.getElem?_map, Option.map_map]
    rfl
  constructor
  · rw [identities]
    exact sound.unique
  · intro identity
    rw [identities]
    exact sound.listed identity
  · rintro _ ⟨⟩
    constructor
    · show (hub.construct.endpoints.map identityOf).Nodup
      rw [identities]
      exact sound.unique
    · intro routed member
      exact ⟨routed, member, rfl, rfl⟩
    · intro endpoint member
      obtain ⟨index, inside, rfl⟩ := List.mem_mapIdx.mp member
      exact ⟨hub.nextContainer + index, Nat.add_lt_add_left inside _, rfl⟩

omit [DecidableEq υ] in
/-- Hubs that follow still do when one of them is another that follows. -/
theorem Follows.set [DecidableEq η] (follows : Follows objects map state) {name : η} {hub : Hub υ}
    (sound : hub.Sound map.keys) :
    Follows objects map { state with hubs := Function.update state.hubs name (some hub) } := by
  refine ⟨follows.endpoints, follows.identified, fun other found isFound => ?_⟩
  by_cases same : other = name
  · rw [same] at isFound
    change Function.update state.hubs name (some hub) name = some found at isFound
    rw [Function.update_self, Option.some.injEq] at isFound
    rw [← isFound]
    exact sound
  · change Function.update state.hubs name (some hub) other = some found at isFound
    rw [Function.update_of_ne same] at isFound
    exact follows.hubs other found isFound

/-- A reload that does not throw. -/
theorem reload_of_update (follows : Follows objects map state)
    {configuration : List (ServiceEndpoint υ)} (outcome : η → Outcome υ)
    (updated : reloadEndpoints map.entries state.pendingReload configuration =
      ((updatedMap map (selection configuration) state.pendingReload).entries,
        .ok (update map (selection configuration) state.pendingReload))) :
    state.reload configuration outcome =
      { endpoints := (updatedMap map (selection configuration) state.pendingReload).entries
        pendingReload :=
          (update map (selection configuration) state.pendingReload).pendingReload
        hubs := fun name => (state.hubs name).map (Hub.reload
          (update map (selection configuration) state.pendingReload) (outcome name)) } := by
  unfold State.reload
  rw [follows.endpoints, updated]

theorem Follows.reload (follows : Follows objects map state) (references : List Nat)
    (outcome : η → Outcome υ) :
    ∃ map, Follows objects map (state.reload (configured objects references) outcome) := by
  rcases reloadEndpoints_cases map state.pendingReload (configured objects references) with
    ⟨error, thrown⟩ | updated
  · refine ⟨map, ?_⟩
    have unchanged : state.reload (configured objects references) outcome = state := by
      unfold State.reload
      rw [follows.endpoints, thrown]
    rw [unchanged]
    exact follows
  · refine ⟨updatedMap map (selection (configured objects references)) state.pendingReload, ?_⟩
    rw [reload_of_update follows outcome updated]
    refine ⟨rfl, follows.identified.updatedMap (identified_selection references) _, ?_⟩
    intro name reloaded found
    obtain ⟨hub, isHub, rfl⟩ := Option.map_eq_some_iff.mp found
    exact (follows.hubs name hub isHub).reload follows.identified
      (identified_selection references) _ _

theorem follows_step [DecidableEq η] {action : Action η υ}
    (follows : ∃ map, Follows objects map state)
    (stepped : step objects state action = some next) : ∃ map, Follows objects map next := by
  obtain ⟨map, follows⟩ := follows
  cases action with
  | getEndpoints hub =>
      cases stepped
      exact ⟨map, follows.set (follows.getEndpoints hub)⟩
  | register hub =>
      rw [step] at stepped
      cases isRouter : (state.getEndpoints hub).routerEndpoints with
      | some router =>
          rw [isRouter] at stepped
          cases stepped
      | none =>
          rw [isRouter] at stepped
          cases stepped
          exact ⟨map, follows.set (follows.getEndpoints hub).construct⟩
  | reload serviceEndpoints outcome =>
      cases stepped
      exact follows.reload serviceEndpoints outcome

theorem follows_initial (references : List Nat) :
    ∃ map, Follows objects map (initial objects references : State η υ) :=
  ⟨selection (configured objects references), rfl, identified_selection references, nofun⟩

/-- A configuration that is accepted is the selected one, and the reload updates to it. -/
theorem reload_of_valuable (map : EndpointMap υ) {configuration : List (ServiceEndpoint υ)}
    {updated : Entries υ}
    (valuable : getValuableEndpoints configuration = .ok updated) (pendingReload : List Nat) :
    updated = (selection configuration).entries ∧
      reloadEndpoints map.entries pendingReload configuration =
        ((updatedMap map (selection configuration) pendingReload).entries,
          .ok (update map (selection configuration) pendingReload)) := by
  have isSelection : updated = (selection configuration).entries := by
    have accepted := getValuableEndpoints_eq configuration
    rw [valuable] at accepted
    split_ifs at accepted
    exact Except.ok.inj accepted
  rw [isSelection] at valuable
  exact ⟨isSelection, reloadEndpoints_of_valuable map pendingReload valuable⟩

/-- What is new in a rename are the endpoints that replace others. -/
theorem mem_instantAdded_of_renames {current updated : EndpointMap υ}
    (renames : Renames current.entries updated.entries) {new : ServiceEndpoint υ} :
    new ∈ instantAdded current updated ↔
      new ∈ updated.keys ∧ new.identity ∉ current.keys.map ServiceEndpoint.identity := by
  rw [mem_instantAdded]
  refine and_congr_left' (and_iff_left_of_imp fun isUpdated => ?_)
  exact (renames _).mp (List.mem_map_of_mem isUpdated)

omit [DecidableEq υ] in
/-- What is seen of a hub of a state. -/
theorem views_of_hub {name : η} {hub : Hub υ} (found : state.hubs name = some hub) :
    state.calls name = hub.calls ∧ state.routed name = hub.routed := by
  unfold State.calls State.routed
  rw [found]
  exact ⟨rfl, rfl⟩

omit [DecidableEq υ] in
theorem views_of_none {name : η} (absent : state.hubs name = none) :
    state.calls name = [] ∧ state.routed name = [] := by
  unfold State.calls State.routed
  rw [absent]
  exact ⟨rfl, rfl⟩

/-- After every history, a rename calls no container and leaves every hub with the containers it
routes to, however the containers of the reload start, exactly if every hub can take every
endpoint that is renamed. -/
theorem rename_keeps_containers [DecidableEq η] (objects : Nat → EndpointIdentity υ)
    (serviceEndpoints : List Nat) (actions : List (Action η υ))
    (ran : Machine.run (step objects) (initial objects serviceEndpoints) actions = some state)
    (renamed : List Nat) {updated : Entries υ}
    (valuable : getValuableEndpoints (configured objects renamed) = .ok updated)
    (renames : Renames state.endpoints updated) :
    NeverDrops objects state renamed ↔ CanRename state updated := by
  obtain ⟨map, follows⟩ : ∃ map, Follows objects map state :=
    Machine.run_invariant follows_step (follows_initial serviceEndpoints) ran
  obtain ⟨isSelection, accepted⟩ := reload_of_valuable map valuable state.pendingReload
  rw [isSelection, follows.endpoints] at renames
  have identified : Identified objects (selection (configured objects renamed)).keys :=
    identified_selection renamed
  have hubs (outcome : η → Outcome υ) (name : η) :
      (state.reload (configured objects renamed) outcome).hubs name =
        (state.hubs name).map (Hub.reload
          (update map (selection (configured objects renamed)) state.pendingReload)
          (outcome name)) := by
    rw [reload_of_update follows outcome accepted]
  constructor
  · intro never name hub router found isRouter new isUpdated differs
    rw [isSelection] at isUpdated
    rw [follows.endpoints] at differs
    obtain ⟨quiet, same⟩ := never (fun _ => .all) _ rfl name
    have after := hubs (fun _ => .all) name
    rw [found] at after
    rw [(views_of_hub after).1, (views_of_hub found).1] at quiet
    rw [(views_of_hub after).2, (views_of_hub found).2] at same
    exact (follows.hubs name hub found).exchangeable_of_rename isRouter follows.identified
      identified renames quiet same
      ((mem_instantAdded_of_renames renames).mpr ⟨isUpdated, differs⟩)
  · intro can outcome next stepped name
    cases stepped
    have after := hubs outcome name
    cases found : state.hubs name with
    | none =>
        rw [found] at after
        rw [(views_of_none after).1, (views_of_none after).2, (views_of_none found).1,
          (views_of_none found).2]
        exact ⟨rfl, .refl _⟩
    | some hub =>
        rw [found] at after
        rw [(views_of_hub after).1, (views_of_hub after).2, (views_of_hub found).1,
          (views_of_hub found).2]
        cases isRouter : hub.routerEndpoints with
        | none =>
            rw [Hub.reload_of_unrouted isRouter]
            exact ⟨rfl, .refl _⟩
        | some router =>
            refine (follows.hubs name hub found).rename_of_exchangeable isRouter follows.identified
              identified renames (fun new isInstant => ?_) (outcome name)
            obtain ⟨isUpdated, differs⟩ := (mem_instantAdded_of_renames renames).mp isInstant
            refine can name hub router found isRouter new ?_ ?_
            · rw [isSelection]
              exact isUpdated
            · rw [follows.endpoints]
              exact differs

end Histories

/-! ### An endpoint is added and renamed -/

/-- Endpoint `a` is object 0. Endpoint `b` is object 1, and object 2 when it has a name. -/
def sampleObjects (reference : Nat) : EndpointIdentity Unit where
  name := if reference = 2 then "name" else ""
  endpoint := if reference = 0 then "a" else "b"
  endpointType := .primary
  clientEndpoint := ()
  serverEndpoint := ()

theorem renames_of_eq {current updated : Entries Unit}
    (same : updated.keys.map ServiceEndpoint.weakIdentity =
      current.keys.map ServiceEndpoint.weakIdentity) : Renames current updated := by
  intro weakIdentity
  rw [same]

/-- The hub is registered, and then `b` is added. -/
def addedBehind : List (Action Unit Unit) := [.register (), .reload [0, 1] fun _ => .all]

theorem rename_keeps_containers_added :
    ∃ state updated, Machine.run (step sampleObjects) (initial sampleObjects [0]) addedBehind =
        some state ∧
      getValuableEndpoints (configured sampleObjects [0, 2]) = .ok updated ∧
      state.routed () = [some 0, some 1] ∧ NeverDrops sampleObjects state [0, 2] := by
  refine ⟨_, _, rfl, rfl, rfl, ?_⟩
  refine (rename_keeps_containers sampleObjects [0] addedBehind rfl [0, 2] rfl
    (renames_of_eq (by decide +kernel))).mpr ?_
  intro name hub router found isRouter new isUpdated differs
  cases name
  cases found
  cases isRouter
  rcases List.mem_cons.mp isUpdated with rfl | isOther
  · exact absurd List.mem_cons_self differs
  · rw [List.mem_singleton.mp isOther]
    exact ⟨by decide, _, List.mem_cons_of_mem _ List.mem_cons_self, rfl, rfl, by decide⟩

/-- The hub is registered when `b` has been added. -/
def addedBefore : List (Action Unit Unit) := [.reload [0, 1] fun _ => .all, .register ()]

theorem rename_stops_container :
    ∃ state updated next,
      Machine.run (step sampleObjects) (initial sampleObjects [0]) addedBefore = some state ∧
      getValuableEndpoints (configured sampleObjects [0, 2]) = .ok updated ∧
      Renames state.endpoints updated ∧
      step sampleObjects state (.reload [0, 2] fun _ => .all) = some next ∧
      state.calls () = [] ∧ next.calls () = [.offline 1, .stop 1, .dispose 1] ∧
      ¬ NeverDrops sampleObjects state [0, 2] := by
  refine ⟨_, _, _, rfl, rfl, renames_of_eq (by decide +kernel), rfl, rfl, rfl, ?_⟩
  intro never
  have quiet := (never (fun _ => .all) _ rfl ()).1
  exact absurd quiet (by decide)

end AzureSignalR.Endpoints.HubRouting
