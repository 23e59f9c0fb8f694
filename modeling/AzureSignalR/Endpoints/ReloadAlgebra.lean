import AzureSignalR.Endpoints.ServiceEndpoint

/-!
Contract: what a reload does to the endpoints of the manager, as sets.

Owns: which endpoints of a configuration are selected, that no dictionary of a reload
is given a key twice, and which endpoints a reload adds, removes and keeps.

Does not own: hubs. The three equalities of the source agree here because a map has
one endpoint for an address; `EndpointMap` carries that.
-/

set_option autoImplicit false

namespace AzureSignalR.Endpoints

open Library.Enumerable ServiceEndpoint

variable {υ : Type}

/-! ## Endpoints with different addresses -/

/-- The endpoints of a manager. `selection` is what its constructor leaves and `updatedMap` what
a reload leaves. -/
structure EndpointMap (υ : Type) where
  entries : Entries υ
  same : ∀ entry ∈ entries, entry.2 = entry.1
  unique : (entries.keys.map fun key => key.endpoint).Nodup

namespace EndpointMap

def keys (map : EndpointMap υ) : List (ServiceEndpoint υ) := map.entries.keys

end EndpointMap

/-- Each endpoint as its own value. -/
def selfEntries (items : List (ServiceEndpoint υ)) : Entries υ :=
  items.map fun item => (item, item)

@[simp] theorem keys_selfEntries (items : List (ServiceEndpoint υ)) :
    (selfEntries items).keys = items := by
  simp [selfEntries, Entries.keys, Function.comp_def]

@[simp] theorem keys_append (first second : Entries υ) :
    Entries.keys (first ++ second) = first.keys ++ second.keys :=
  List.map_append

variable {items : List (ServiceEndpoint υ)}

theorem nodup_identity (unique : (items.map fun item => item.endpoint).Nodup) :
    (items.map identity).Nodup := by
  refine List.Nodup.of_map (fun identity => identity.endpoint) ?_
  rw [List.map_map]
  exact unique

theorem nodup_weakIdentity (unique : (items.map fun item => item.endpoint).Nodup) :
    (items.map weakIdentity).Nodup := by
  refine List.Nodup.of_map (fun identity => identity.1) ?_
  rw [List.map_map]
  exact unique

theorem nodup_identity_of_weak (unique : (items.map weakIdentity).Nodup) :
    (items.map identity).Nodup := by
  refine List.Nodup.of_map
    (fun identity => (identity.endpoint, identity.endpointType, identity.serverEndpoint)) ?_
  rw [List.map_map]
  exact unique

/-- Endpoints with one address are one endpoint. -/
theorem eq_of_endpoint (unique : (items.map fun item => item.endpoint).Nodup)
    {one other : ServiceEndpoint υ} (member : one ∈ items) (also : other ∈ items)
    (same : one.endpoint = other.endpoint) : one = other :=
  eq_of_nodup unique member also same

theorem endpoint_of_identity {one other : ServiceEndpoint υ}
    (same : one.identity = other.identity) : one.endpoint = other.endpoint :=
  congrArg (fun identity => identity.endpoint) same

theorem endpoint_of_weakIdentity {one other : ServiceEndpoint υ}
    (same : one.weakIdentity = other.weakIdentity) : one.endpoint = other.endpoint :=
  congrArg Prod.fst same

theorem weakIdentity_of_identity {one other : ServiceEndpoint υ}
    (same : one.identity = other.identity) : one.weakIdentity = other.weakIdentity :=
  congrArg (fun identity => (identity.endpoint, identity.endpointType, identity.serverEndpoint))
    same

variable [DecidableEq υ]

/-! ## The selected configuration -/

section Selection

variable {configuration : List (ServiceEndpoint υ)} {selected item : ServiceEndpoint υ}

omit [DecidableEq υ] in
theorem mostValuable_mem (items : Grouping (ServiceEndpoint υ)) : mostValuable items ∈ items.1 := by
  unfold mostValuable
  split_ifs
  · exact List.head_mem items.2
  · cases found : items.1.find? fun item => item.endpointType = .primary with
    | none => exact List.head_mem items.2
    | some primary => exact List.mem_of_find?_eq_some found

omit [DecidableEq υ] in
theorem mostValuable_primary (items : Grouping (ServiceEndpoint υ)) (member : item ∈ items.1)
    (primary : item.endpointType = .primary) :
    (mostValuable items).endpointType = .primary := by
  unfold mostValuable
  split_ifs with single
  · obtain ⟨only, isOnly⟩ := List.length_eq_one_iff.mp single
    have all : ∀ other ∈ items.1, other = only := by
      rw [isOnly]
      exact fun other isMember => List.mem_singleton.mp isMember
    rw [all _ (List.head_mem items.2), ← all item member]
    exact primary
  · cases found : items.1.find? fun item => item.endpointType = .primary with
    | none =>
        have impossible := List.find?_eq_none.mp found item member
        exact absurd (decide_eq_true primary) impossible
    | some first =>
        have isPrimary := List.find?_some found
        exact of_decide_eq_true isPrimary

theorem selectEndpoints_unique :
    ((selectEndpoints configuration).map fun item => item.endpoint).Nodup := by
  rw [selectEndpoints, map_groupBy mostValuable mostValuable_mem]
  exact nodup_exceptKeys

theorem mem_configuration_of_selected (member : selected ∈ selectEndpoints configuration) :
    selected ∈ configuration := by
  obtain ⟨group, isGroup, rfl⟩ := List.mem_map.mp member
  obtain ⟨first, -, items⟩ := mem_groupBy isGroup
  have inGroup := mostValuable_mem group
  rw [items] at inGroup
  exact (mem_exceptKeys (List.mem_filter.mp inGroup).1).1

/-- Every address of the configuration is selected, with a primary endpoint if it has one. -/
theorem exists_selected (member : item ∈ configuration) :
    ∃ selected ∈ selectEndpoints configuration, selected.endpoint = item.endpoint ∧
      (item.endpointType = .primary → selected.endpointType = .primary) := by
  obtain ⟨distinct, isDistinct, same⟩ : ∃ distinct ∈ distinctBy identity configuration,
      distinct.identity = item.identity :=
    exists_exceptKeys member List.not_mem_nil
  obtain ⟨group, isGroup, items⟩ :
      ∃ group ∈ groupBy (fun item => item.endpoint) (distinctBy identity configuration),
        group.1 = (distinctBy identity configuration).filter
          fun other => other.endpoint = distinct.endpoint :=
    exists_groupBy isDistinct
  have inGroup : distinct ∈ group.1 := by
    rw [items]
    exact List.mem_filter.mpr ⟨isDistinct, decide_eq_true rfl⟩
  refine ⟨mostValuable group, List.mem_map_of_mem isGroup, ?_, ?_⟩
  · have chosen := mostValuable_mem group
    rw [items] at chosen
    exact (of_decide_eq_true (List.mem_filter.mp chosen).2).trans (endpoint_of_identity same)
  · intro primary
    refine mostValuable_primary group inGroup ?_
    rw [← primary]
    exact congrArg (fun identity => identity.endpointType) same

end Selection

/-- The selected configuration as a map. -/
def selection (configuration : List (ServiceEndpoint υ)) : EndpointMap υ where
  entries := selfEntries (selectEndpoints configuration)
  same := by
    intro entry member
    obtain ⟨item, -, rfl⟩ := List.mem_map.mp member
    rfl
  unique := by
    rw [keys_selfEntries]
    exact selectEndpoints_unique

@[simp] theorem keys_selection (configuration : List (ServiceEndpoint υ)) :
    (selection configuration).keys = selectEndpoints configuration :=
  keys_selfEntries _

/-- No address is refused, so only the two checks can fail. -/
theorem getValuableEndpoints_eq (configuration : List (ServiceEndpoint υ)) :
    getValuableEndpoints configuration =
      if selectEndpoints configuration = [] then .error .noEndpoint
      else if ∀ item ∈ selectEndpoints configuration, item.endpointType ≠ .primary then
        .error .noPrimaryEndpoint
      else .ok (selection configuration).entries := by
  have unique : ((selfEntries (selectEndpoints configuration)).map
      fun entry => entry.1.weakIdentity).Nodup := by
    have weak : ((selectEndpoints configuration).map weakIdentity).Nodup :=
      nodup_weakIdentity selectEndpoints_unique
    rwa [← keys_selfEntries (selectEndpoints configuration), Entries.keys, List.map_map] at weak
  have entries : toDictionary weakIdentity
      ((selectEndpoints configuration).map fun item => (item, item)) =
        some (selfEntries (selectEndpoints configuration)) :=
    toDictionary_of_nodup unique
  unfold getValuableEndpoints
  rw [entries]
  simp [selection, selfEntries]

/-! ## An update -/

section Update

variable (current updated : EndpointMap υ)

/-- The endpoints that stay as they are. -/
def unchangedEndpoints : Entries υ := intersectBy pairIdentity current.entries updated.entries

/-- The endpoints that are removed and added in stages. -/
def stagedRemoved : List (ServiceEndpoint υ) := exceptBy weakIdentity current.keys updated.keys

def stagedAdded : List (ServiceEndpoint υ) := exceptBy weakIdentity updated.keys current.keys

/-- The endpoints that are changed at once. -/
def instantAdded : List (ServiceEndpoint υ) := commonEndpoints current.entries updated.entries

/-- The endpoint that `First` finds for an address. -/
def existing (endpoint : ServiceEndpoint υ) : ServiceEndpoint υ :=
  (current.keys.find? fun key => key.endpoint = endpoint.endpoint).getD endpoint

variable {current updated} {item : ServiceEndpoint υ}

omit [DecidableEq υ] in
theorem pairs_unique : (current.entries.map pairIdentity).Nodup := by
  refine List.Nodup.of_map (fun pair => pair.1.endpoint) ?_
  have unique := current.unique
  rw [Entries.keys, List.map_map] at unique
  rw [List.map_map]
  exact unique

theorem mem_keys_unchanged : item ∈ (unchangedEndpoints current updated).keys ↔
    item ∈ current.keys ∧ item.identity ∈ updated.keys.map identity := by
  constructor
  · intro member
    obtain ⟨entry, isEntry, rfl⟩ := List.mem_map.mp member
    obtain ⟨isCurrent, isUpdated⟩ := (mem_intersectBy_iff pairs_unique).mp isEntry
    refine ⟨List.mem_map_of_mem isCurrent, ?_⟩
    obtain ⟨other, isOther, same⟩ := List.mem_map.mp isUpdated
    exact List.mem_map.mpr ⟨other.1, List.mem_map_of_mem isOther, congrArg Prod.fst same⟩
  · rintro ⟨isCurrent, isUpdated⟩
    obtain ⟨entry, isEntry, rfl⟩ := List.mem_map.mp isCurrent
    obtain ⟨key, isKey, same⟩ := List.mem_map.mp isUpdated
    obtain ⟨other, isOther, rfl⟩ := List.mem_map.mp isKey
    refine List.mem_map_of_mem ((mem_intersectBy_iff pairs_unique).mpr ⟨isEntry, ?_⟩)
    refine List.mem_map.mpr ⟨other, isOther, ?_⟩
    rw [pairIdentity, pairIdentity, current.same entry isEntry, updated.same other isOther, same]

theorem mem_stagedRemoved : item ∈ stagedRemoved current updated ↔
    item ∈ current.keys ∧ item.weakIdentity ∉ updated.keys.map weakIdentity :=
  mem_exceptBy_iff (nodup_weakIdentity current.unique)

theorem mem_stagedAdded : item ∈ stagedAdded current updated ↔
    item ∈ updated.keys ∧ item.weakIdentity ∉ current.keys.map weakIdentity :=
  mem_exceptBy_iff (nodup_weakIdentity updated.unique)

theorem mem_instantAdded : item ∈ instantAdded current updated ↔
    (item ∈ updated.keys ∧ item.weakIdentity ∈ current.keys.map weakIdentity) ∧
      item.identity ∉ current.keys.map identity := by
  have weak : ∀ {other : ServiceEndpoint υ},
      other ∈ intersectBy weakIdentity updated.keys current.keys ↔
        other ∈ updated.keys ∧ other.weakIdentity ∈ current.keys.map weakIdentity :=
    mem_intersectBy_iff (nodup_weakIdentity updated.unique)
  have unique : ((intersectBy weakIdentity updated.keys current.keys).map identity).Nodup :=
    nodup_identity_of_weak nodup_intersectBy
  exact (mem_exceptBy_iff unique).trans (and_congr_left' weak)

/-! ### The endpoints behind an update -/

/-- An endpoint of the new configuration is equal to the one that stays for its address. -/
theorem not_unchanged (isUpdated : item ∈ updated.keys)
    (differs : item.identity ∉ current.keys.map identity) {other : ServiceEndpoint υ}
    (unchanged : other ∈ (unchangedEndpoints current updated).keys) :
    other.endpoint ≠ item.endpoint := by
  intro same
  obtain ⟨isCurrent, isKept⟩ := mem_keys_unchanged.1 unchanged
  obtain ⟨kept, isKeptToo, sameIdentity⟩ := List.mem_map.mp isKept
  have isItem : kept = item :=
    eq_of_endpoint updated.unique isKeptToo isUpdated
      ((endpoint_of_identity sameIdentity).trans same)
  refine differs (List.mem_map.mpr ⟨other, isCurrent, ?_⟩)
  rw [← sameIdentity, isItem]

/-- An added endpoint is a new one. -/
theorem differs_of_staged (added : item ∈ stagedAdded current updated) :
    item.identity ∉ current.keys.map identity := by
  intro same
  obtain ⟨other, isOther, sameIdentity⟩ := List.mem_map.mp same
  refine (mem_stagedAdded.1 added).2 (List.mem_map.mpr ⟨other, isOther, ?_⟩)
  exact weakIdentity_of_identity sameIdentity

theorem unchanged_sublist :
    (unchangedEndpoints current updated).keys.Sublist current.keys :=
  intersectKeys_sublist.map Prod.fst

theorem stagedAdded_sublist : (stagedAdded current updated).Sublist updated.keys :=
  exceptKeys_sublist

theorem instantAdded_sublist : (instantAdded current updated).Sublist updated.keys :=
  exceptKeys_sublist.trans intersectKeys_sublist

/-- The addresses behind an update are different. -/
theorem unique_updated :
    (((unchangedEndpoints current updated).keys ++ stagedAdded current updated ++
      instantAdded current updated).map fun item => item.endpoint).Nodup := by
  rw [List.map_append, List.map_append]
  refine List.Nodup.append (List.Nodup.append ?_ ?_ ?_) ?_ ?_
  · exact current.unique.sublist (unchanged_sublist.map _)
  · exact updated.unique.sublist (stagedAdded_sublist.map _)
  · intro address isUnchanged isAdded
    obtain ⟨other, unchanged, rfl⟩ := List.mem_map.mp isUnchanged
    obtain ⟨item, added, same⟩ := List.mem_map.mp isAdded
    exact not_unchanged (mem_stagedAdded.1 added).1 (differs_of_staged added) unchanged same.symm
  · exact updated.unique.sublist (instantAdded_sublist.map _)
  · intro address isBefore isInstant
    obtain ⟨item, instant, rfl⟩ := List.mem_map.mp isInstant
    obtain ⟨⟨isUpdated, weak⟩, differs⟩ := mem_instantAdded.1 instant
    rcases List.mem_append.mp isBefore with isUnchanged | isAdded
    · obtain ⟨other, unchanged, same⟩ := List.mem_map.mp isUnchanged
      exact not_unchanged isUpdated differs unchanged same
    · obtain ⟨other, added, same⟩ := List.mem_map.mp isAdded
      obtain ⟨otherUpdated, strange⟩ := mem_stagedAdded.1 added
      rw [eq_of_endpoint updated.unique otherUpdated isUpdated same] at strange
      exact strange weak

/-- The endpoint that is replaced has the address, the type and the server endpoint of the
one that replaces it. -/
theorem existing_spec (instant : item ∈ instantAdded current updated) :
    current.keys.find? (fun key => key.endpoint = item.endpoint) =
        some (existing current item) ∧
      existing current item ∈ current.keys ∧
      (existing current item).weakIdentity = item.weakIdentity := by
  obtain ⟨⟨-, weak⟩, -⟩ := mem_instantAdded.1 instant
  obtain ⟨other, isOther, same⟩ := List.mem_map.mp weak
  cases found : current.keys.find? fun key => key.endpoint = item.endpoint with
  | none =>
      have impossible := List.find?_eq_none.mp found other isOther
      exact absurd (decide_eq_true (endpoint_of_weakIdentity same)) impossible
  | some exist =>
      have isExisting : existing current item = exist := by
        rw [existing, found, Option.getD_some]
      have sameAddress : exist.endpoint = item.endpoint := by
        have isSame := List.find?_some found
        exact of_decide_eq_true isSame
      have isCurrent := List.mem_of_find?_eq_some found
      rw [isExisting]
      refine ⟨rfl, isCurrent, ?_⟩
      rw [eq_of_endpoint current.unique isCurrent isOther
        (sameAddress.trans (endpoint_of_weakIdentity same).symm)]
      exact same

/-- The loop over the endpoints that are changed at once. -/
theorem replaceEndpoints_eq {endpoints : List (ServiceEndpoint υ)}
    (instant : ∀ item ∈ endpoints, item ∈ instantAdded current updated)
    (update : EndpointUpdate υ)
    (unique : ((update.endpoints ++ selfEntries endpoints).map
      fun entry => entry.1.identity).Nodup) :
    replaceEndpoints current.entries update endpoints = .ok
      { endpoints := update.endpoints ++ selfEntries endpoints
        added := update.added ++ endpoints
        removed := update.removed ++ endpoints.map (existing current)
        pendingReload := update.pendingReload.filter fun other =>
          other ∉ endpoints.map fun item => (existing current item).reference } := by
  induction endpoints generalizing update with
  | nil => simp [replaceEndpoints, selfEntries]
  | cons item endpoints inductionHypothesis =>
      obtain ⟨found, -, -⟩ := existing_spec (instant item List.mem_cons_self)
      have absent : ¬ item.identity ∈ update.endpoints.map fun entry => entry.1.identity := by
        intro isThere
        rw [selfEntries, List.map_cons, List.map_append, List.map_cons] at unique
        exact List.disjoint_of_nodup_append unique isThere List.mem_cons_self
      have next : replaceEndpoint current.entries update item = .ok
          { endpoints := update.endpoints ++ [(item, item)]
            added := update.added ++ [item]
            removed := update.removed ++ [existing current item]
            pendingReload := update.pendingReload.filter
              fun other => other ≠ (existing current item).reference } := by
        unfold replaceEndpoint addEntry
        change current.entries.keys.find? (fun key => key.endpoint = item.endpoint) =
          some (existing current item) at found
        rw [found]
        simp only [if_neg absent]
      rw [replaceEndpoints, next]
      have rest := inductionHypothesis
        (fun other member => instant other (List.mem_cons_of_mem _ member))
        { endpoints := update.endpoints ++ [(item, item)]
          added := update.added ++ [item]
          removed := update.removed ++ [existing current item]
          pendingReload := update.pendingReload.filter
            fun other => other ≠ (existing current item).reference }
        (by simpa [selfEntries] using unique)
      have flags : (update.pendingReload.filter
            fun other => other ≠ (existing current item).reference).filter
          (fun other => other ∉ endpoints.map fun item => (existing current item).reference) =
          update.pendingReload.filter fun other =>
            other ∉ (item :: endpoints).map fun item => (existing current item).reference := by
        rw [List.filter_filter]
        refine List.filter_congr fun other _ => ?_
        rw [← Bool.decide_and, decide_eq_decide, List.map_cons, List.mem_cons, not_or]
        exact and_comm
      change replaceEndpoints current.entries _ endpoints = _
      rw [rest, Except.ok.injEq, EndpointUpdate.mk.injEq]
      exact ⟨by simp [selfEntries], by simp, by simp, flags⟩

variable (current updated) in
/-- What an update comes to. -/
def update (pendingReload : List Nat) : EndpointUpdate υ where
  endpoints := unchangedEndpoints current updated ++
    selfEntries (stagedAdded current updated ++ instantAdded current updated)
  added := stagedAdded current updated ++ instantAdded current updated
  removed := stagedRemoved current updated ++
    (instantAdded current updated).map (existing current)
  pendingReload :=
    (pendingReload ++ (stagedRemoved current updated).map reference ++
      (stagedAdded current updated).map reference).filter fun other =>
        other ∉ (instantAdded current updated).map fun item => (existing current item).reference

/-- No dictionary of an update is given a key twice, and `First` finds an endpoint. -/
theorem updateEndpoints_eq (pendingReload : List Nat) :
    updateEndpoints current.entries updated.entries pendingReload =
      .ok (update current updated pendingReload) := by
  have unique : ((unchangedEndpoints current updated ++ selfEntries (stagedAdded current updated) ++
      selfEntries (instantAdded current updated)).map fun entry => entry.1.identity).Nodup := by
    have identities : (((unchangedEndpoints current updated).keys ++ stagedAdded current updated ++
        instantAdded current updated).map identity).Nodup :=
      nodup_identity unique_updated
    rwa [← keys_selfEntries (stagedAdded current updated),
      ← keys_selfEntries (instantAdded current updated), ← keys_append, ← keys_append,
      Entries.keys, List.map_map] at identities
  have staged : ((unchangedEndpoints current updated ++
      selfEntries (stagedAdded current updated)).map fun entry => entry.1.identity).Nodup := by
    rw [List.map_append] at unique
    exact unique.of_append_left
  have kept : ((unchangedEndpoints current updated).map fun entry => entry.1.identity).Nodup := by
    rw [List.map_append] at staged
    exact staged.of_append_left
  have first : toDictionary identity (intersectBy pairIdentity current.entries updated.entries) =
      some (unchangedEndpoints current updated) :=
    toDictionary_of_nodup kept
  have second : addEntries identity (unchangedEndpoints current updated)
      ((exceptBy weakIdentity updated.entries.keys current.entries.keys).map
        fun item => (item, item)) =
      some (unchangedEndpoints current updated ++ selfEntries (stagedAdded current updated)) :=
    addEntries_of_nodup staged
  simp only [updateEndpoints, first, second]
  have instant : ∀ item ∈ instantAdded current updated, item ∈ instantAdded current updated :=
    fun _ member => member
  have loop := replaceEndpoints_eq instant
    { endpoints := unchangedEndpoints current updated ++
        selfEntries (stagedAdded current updated)
      added := stagedAdded current updated
      removed := stagedRemoved current updated
      pendingReload := pendingReload ++ (stagedRemoved current updated).map reference ++
        (stagedAdded current updated).map reference }
    unique
  refine loop.trans ?_
  simp [update, selfEntries]

/-! ### Which endpoints are added, removed and kept -/

/-- A reload removes what the new configuration does not have. -/
theorem mem_removed (pendingReload : List Nat) :
    item ∈ (update current updated pendingReload).removed ↔
      item ∈ current.keys ∧ item.identity ∉ updated.keys.map identity := by
  constructor
  · intro member
    rcases List.mem_append.mp member with staged | instant
    · obtain ⟨isCurrent, strange⟩ := mem_stagedRemoved.1 staged
      refine ⟨isCurrent, fun same => strange ?_⟩
      obtain ⟨other, isOther, sameIdentity⟩ := List.mem_map.mp same
      exact List.mem_map.mpr ⟨other, isOther, weakIdentity_of_identity sameIdentity⟩
    · obtain ⟨new, isNew, rfl⟩ := List.mem_map.mp instant
      obtain ⟨-, isCurrent, weak⟩ := existing_spec isNew
      obtain ⟨⟨isUpdated, -⟩, differs⟩ := mem_instantAdded.1 isNew
      refine ⟨isCurrent, fun same => differs ?_⟩
      obtain ⟨other, isOther, sameIdentity⟩ := List.mem_map.mp same
      have isNewToo : other = new :=
        eq_of_endpoint updated.unique isOther isUpdated
          ((endpoint_of_identity sameIdentity).trans (endpoint_of_weakIdentity weak))
      exact List.mem_map.mpr ⟨existing current new, isCurrent, by rw [← sameIdentity, isNewToo]⟩
  · rintro ⟨isCurrent, gone⟩
    by_cases weak : item.weakIdentity ∈ updated.keys.map weakIdentity
    · obtain ⟨new, isUpdated, same⟩ := List.mem_map.mp weak
      have differs : new.identity ∉ current.keys.map identity := by
        intro isThere
        obtain ⟨other, isOther, sameIdentity⟩ := List.mem_map.mp isThere
        have isItem : other = item :=
          eq_of_endpoint current.unique isOther isCurrent
            ((endpoint_of_identity sameIdentity).trans (endpoint_of_weakIdentity same))
        exact gone (List.mem_map.mpr ⟨new, isUpdated, by rw [← sameIdentity, isItem]⟩)
      have instant : new ∈ instantAdded current updated :=
        mem_instantAdded.2 ⟨⟨isUpdated, List.mem_map.mpr ⟨item, isCurrent, same.symm⟩⟩, differs⟩
      obtain ⟨-, isExisting, sameWeak⟩ := existing_spec instant
      refine List.mem_append_right _ (List.mem_map.mpr ⟨new, instant, ?_⟩)
      exact eq_of_endpoint current.unique isExisting isCurrent
        (endpoint_of_weakIdentity (sameWeak.trans same))
    · exact List.mem_append_left _ (mem_stagedRemoved.2 ⟨isCurrent, weak⟩)

/-- A reload adds what the manager does not have. -/
theorem mem_added (pendingReload : List Nat) :
    item ∈ (update current updated pendingReload).added ↔
      item ∈ updated.keys ∧ item.identity ∉ current.keys.map identity := by
  constructor
  · intro member
    rcases List.mem_append.mp member with staged | instant
    · exact ⟨(mem_stagedAdded.1 staged).1, differs_of_staged staged⟩
    · obtain ⟨⟨isUpdated, -⟩, differs⟩ := mem_instantAdded.1 instant
      exact ⟨isUpdated, differs⟩
  · rintro ⟨isUpdated, differs⟩
    by_cases weak : item.weakIdentity ∈ current.keys.map weakIdentity
    · exact List.mem_append_right _ (mem_instantAdded.2 ⟨⟨isUpdated, weak⟩, differs⟩)
    · exact List.mem_append_left _ (mem_stagedAdded.2 ⟨isUpdated, weak⟩)

/-- The endpoints behind an update: those that are kept, and those that are added. -/
theorem mem_keys_update (pendingReload : List Nat) :
    item ∈ (update current updated pendingReload).endpoints.keys ↔
      item ∈ current.keys ∧ item.identity ∈ updated.keys.map identity ∨
        item ∈ (update current updated pendingReload).added := by
  change item ∈ Entries.keys (_ ++ _) ↔ _
  rw [keys_append, keys_selfEntries, List.mem_append, mem_keys_unchanged]
  exact Iff.rfl

variable (current updated) in
/-- The endpoints behind an update as a map. -/
def updatedMap (pendingReload : List Nat) : EndpointMap υ where
  entries := (update current updated pendingReload).endpoints
  same := by
    intro entry member
    rcases List.mem_append.mp member with unchanged | new
    · exact current.same entry (intersectKeys_sublist.subset unchanged)
    · obtain ⟨item, -, rfl⟩ := List.mem_map.mp new
      rfl
  unique := by
    have unique : (((unchangedEndpoints current updated).keys ++ stagedAdded current updated ++
        instantAdded current updated).map fun item => item.endpoint).Nodup :=
      unique_updated
    rw [List.append_assoc] at unique
    change (Entries.keys (_ ++ _)).map _ |>.Nodup
    rwa [keys_append, keys_selfEntries]

/-- No endpoint is added twice. -/
theorem nodup_added (pendingReload : List Nat) :
    ((update current updated pendingReload).added.map ServiceEndpoint.identity).Nodup := by
  have unique : (((updatedMap current updated pendingReload).keys).map
      ServiceEndpoint.identity).Nodup :=
    nodup_identity (updatedMap current updated pendingReload).unique
  have keys : (updatedMap current updated pendingReload).keys =
      (unchangedEndpoints current updated).keys ++
        (update current updated pendingReload).added := by
    show Entries.keys (_ ++ _) = _
    rw [keys_append, keys_selfEntries]
    rfl
  rw [keys, List.map_append] at unique
  exact unique.of_append_right

/-- The endpoints behind an update are those of the new configuration. -/
theorem identities_update (pendingReload : List Nat) (identity : EndpointIdentity υ) :
    identity ∈ (updatedMap current updated pendingReload).keys.map ServiceEndpoint.identity ↔
      identity ∈ updated.keys.map ServiceEndpoint.identity := by
  constructor
  · intro member
    obtain ⟨item, isItem, rfl⟩ := List.mem_map.mp member
    rcases (mem_keys_update pendingReload).mp isItem with ⟨-, isUpdated⟩ | added
    · exact isUpdated
    · exact List.mem_map_of_mem ((mem_added pendingReload).mp added).1
  · intro member
    obtain ⟨item, isUpdated, rfl⟩ := List.mem_map.mp member
    by_cases isCurrent : item.identity ∈ current.keys.map ServiceEndpoint.identity
    · obtain ⟨other, isOther, same⟩ := List.mem_map.mp isCurrent
      refine List.mem_map.mpr
        ⟨other, (mem_keys_update pendingReload).mpr (.inl ⟨isOther, ?_⟩), same⟩
      rw [same]
      exact member
    · exact List.mem_map_of_mem ((mem_keys_update pendingReload).mpr
        (.inr ((mem_added pendingReload).mpr ⟨isUpdated, isCurrent⟩)))

/-- An endpoint that is kept is neither added nor removed, and the other way round. -/
theorem kept_iff (pendingReload : List Nat) (identity : EndpointIdentity υ) :
    identity ∈ current.keys.map ServiceEndpoint.identity ∧
        identity ∉ (update current updated pendingReload).removed.map ServiceEndpoint.identity ↔
      identity ∈ (updatedMap current updated pendingReload).keys.map ServiceEndpoint.identity ∧
        identity ∉ (update current updated pendingReload).added.map ServiceEndpoint.identity := by
  rw [identities_update]
  constructor
  · rintro ⟨isCurrent, notRemoved⟩
    obtain ⟨item, isItem, rfl⟩ := List.mem_map.mp isCurrent
    constructor
    · by_contra gone
      exact notRemoved (List.mem_map_of_mem ((mem_removed pendingReload).mpr ⟨isItem, gone⟩))
    · intro isAdded
      obtain ⟨new, added, same⟩ := List.mem_map.mp isAdded
      refine ((mem_added pendingReload).mp added).2 ?_
      rw [same]
      exact isCurrent
  · rintro ⟨isUpdated, notAdded⟩
    obtain ⟨item, isItem, rfl⟩ := List.mem_map.mp isUpdated
    constructor
    · by_contra differs
      exact notAdded (List.mem_map_of_mem ((mem_added pendingReload).mpr ⟨isItem, differs⟩))
    · intro isRemoved
      obtain ⟨old, removed, same⟩ := List.mem_map.mp isRemoved
      refine ((mem_removed pendingReload).mp removed).2 ?_
      rw [same]
      exact isUpdated

/-- The endpoints behind an update: those that are not removed, and those that are added. -/
theorem mem_identities_update (pendingReload : List Nat) (identity : EndpointIdentity υ) :
    identity ∈ (updatedMap current updated pendingReload).keys.map ServiceEndpoint.identity ↔
      identity ∈ current.keys.map ServiceEndpoint.identity ∧
          identity ∉ (update current updated pendingReload).removed.map ServiceEndpoint.identity ∨
        identity ∈ (update current updated pendingReload).added.map ServiceEndpoint.identity := by
  rw [kept_iff]
  constructor
  · intro isNext
    exact (Decidable.em _).symm.imp_left fun notAdded => ⟨isNext, notAdded⟩
  · rintro (⟨isNext, -⟩ | isAdded)
    · exact isNext
    · obtain ⟨new, added, rfl⟩ := List.mem_map.mp isAdded
      exact List.mem_map_of_mem ((mem_keys_update pendingReload).mpr (.inr added))

end Update

/-! ## A reload -/

/-- The endpoints that a configuration stands for. -/
structure Selects (configuration selected : List (ServiceEndpoint υ)) : Prop where
  configured : ∀ item ∈ selected, item ∈ configuration
  unique : (selected.map fun item => item.endpoint).Nodup
  complete : ∀ item ∈ configuration, ∃ chosen ∈ selected, chosen.endpoint = item.endpoint ∧
    (item.endpointType = .primary → chosen.endpointType = .primary)
  primary : ∃ item ∈ selected, item.endpointType = .primary

/-- The endpoints of the manager before and behind an update, and the lists it puts out,
all under `ServiceEndpoint.Equals`. -/
structure Exchanges (current next : EndpointMap υ) (update : EndpointUpdate υ) : Prop where
  removed : ∀ item ∈ update.removed, item ∈ current.keys
  added : ∀ item ∈ update.added, item ∈ next.keys
  kept : ∀ identity : EndpointIdentity υ,
    identity ∈ current.keys.map ServiceEndpoint.identity ∧
        identity ∉ update.removed.map ServiceEndpoint.identity ↔
      identity ∈ next.keys.map ServiceEndpoint.identity ∧
        identity ∉ update.added.map ServiceEndpoint.identity
  unchanged : ∀ identity : EndpointIdentity υ,
    identity ∈ current.keys.map ServiceEndpoint.identity →
    identity ∈ next.keys.map ServiceEndpoint.identity →
      identity ∉ update.removed.map ServiceEndpoint.identity ∧
        identity ∉ update.added.map ServiceEndpoint.identity

theorem selects_selectEndpoints {configuration : List (ServiceEndpoint υ)}
    (primary : ∃ item ∈ selectEndpoints configuration, item.endpointType = .primary) :
    Selects configuration (selectEndpoints configuration) where
  configured _ member := mem_configuration_of_selected member
  unique := selectEndpoints_unique
  complete _ member := exists_selected member
  primary := primary

theorem exchanges_update (current updated : EndpointMap υ) (pendingReload : List Nat) :
    Exchanges current (updatedMap current updated pendingReload)
      (update current updated pendingReload) where
  removed _ member := ((mem_removed pendingReload).mp member).1
  added _ member := (mem_keys_update pendingReload).mpr (.inr member)
  kept := kept_iff pendingReload
  unchanged := by
    intro identity isCurrent isNext
    rw [identities_update] at isNext
    constructor
    · intro isRemoved
      obtain ⟨item, removed, rfl⟩ := List.mem_map.mp isRemoved
      exact ((mem_removed pendingReload).mp removed).2 isNext
    · intro isAdded
      obtain ⟨item, added, rfl⟩ := List.mem_map.mp isAdded
      exact ((mem_added pendingReload).mp added).2 isCurrent

/-- An accepted configuration is updated to. -/
theorem reloadEndpoints_of_valuable (current : EndpointMap υ) (pendingReload : List Nat)
    {configuration : List (ServiceEndpoint υ)}
    (valuable : getValuableEndpoints configuration = .ok (selection configuration).entries) :
    reloadEndpoints current.entries pendingReload configuration =
      ((updatedMap current (selection configuration) pendingReload).entries,
        .ok (update current (selection configuration) pendingReload)) := by
  simp only [reloadEndpoints, valuable, updateEndpoints_eq]
  rfl

/-- A reload throws and leaves the endpoints as they are, or it updates them. -/
theorem reloadEndpoints_cases (current : EndpointMap υ) (pendingReload : List Nat)
    (configuration : List (ServiceEndpoint υ)) :
    (∃ error, reloadEndpoints current.entries pendingReload configuration =
        (current.entries, .error error)) ∨
      reloadEndpoints current.entries pendingReload configuration =
        ((updatedMap current (selection configuration) pendingReload).entries,
          .ok (update current (selection configuration) pendingReload)) := by
  have valuable := getValuableEndpoints_eq configuration
  split_ifs at valuable with empty secondary
  · exact .inl ⟨.noEndpoint, by rw [reloadEndpoints, valuable]⟩
  · exact .inl ⟨.noPrimaryEndpoint, by rw [reloadEndpoints, valuable]⟩
  · exact .inr (reloadEndpoints_of_valuable current pendingReload valuable)

/-- A configuration without endpoints selects none. -/
theorem selectEndpoints_eq_nil {configuration : List (ServiceEndpoint υ)} :
    selectEndpoints configuration = [] ↔ configuration = [] := by
  constructor
  · intro none
    refine List.eq_nil_iff_forall_not_mem.mpr fun item member => ?_
    obtain ⟨selected, isSelected, -⟩ := exists_selected member
    rw [none] at isSelected
    exact List.not_mem_nil isSelected
  · rintro rfl
    rfl

/-- A reload throws and leaves the endpoints of the manager as they are, because nothing or
no primary endpoint is configured, or it exchanges them for the selected configuration. -/
theorem reload_algebra (current : EndpointMap υ) (pendingReload : List Nat)
    (configuration : List (ServiceEndpoint υ)) :
    (configuration = [] ∧
        reloadEndpoints current.entries pendingReload configuration =
          (current.entries, .error .noEndpoint)) ∨
      (configuration ≠ [] ∧ (∀ item ∈ configuration, item.endpointType ≠ .primary) ∧
        reloadEndpoints current.entries pendingReload configuration =
          (current.entries, .error .noPrimaryEndpoint)) ∨
      ∃ (next : EndpointMap υ) (update : EndpointUpdate υ),
        reloadEndpoints current.entries pendingReload configuration =
          (next.entries, .ok update) ∧
        Selects configuration (selectEndpoints configuration) ∧
        (∀ identity : EndpointIdentity υ,
          identity ∈ next.keys.map ServiceEndpoint.identity ↔
            identity ∈ (selectEndpoints configuration).map ServiceEndpoint.identity) ∧
        Exchanges current next update := by
  have valuable := getValuableEndpoints_eq configuration
  by_cases empty : selectEndpoints configuration = []
  · rw [if_pos empty] at valuable
    refine .inl ⟨selectEndpoints_eq_nil.1 empty, ?_⟩
    rw [reloadEndpoints, valuable]
  rw [if_neg empty] at valuable
  by_cases secondary : ∀ item ∈ selectEndpoints configuration, item.endpointType ≠ .primary
  · rw [if_pos secondary] at valuable
    refine .inr (.inl ⟨fun none => empty (selectEndpoints_eq_nil.2 none), ?_, ?_⟩)
    · intro item member isPrimary
      obtain ⟨selected, isSelected, -, primary⟩ := exists_selected member
      exact secondary selected isSelected (primary isPrimary)
    · rw [reloadEndpoints, valuable]
  rw [if_neg secondary] at valuable
  push Not at secondary
  refine .inr (.inr ⟨updatedMap current (selection configuration) pendingReload,
    update current (selection configuration) pendingReload,
    reloadEndpoints_of_valuable current pendingReload valuable,
    selects_selectEndpoints secondary, ?_, exchanges_update _ _ _⟩)
  intro identity
  rw [identities_update, keys_selection]

end AzureSignalR.Endpoints
