import Mathlib.Data.List.Nodup

/-!
Contract: dictionaries from keys to sets of items, which drop a set that becomes empty.

Owns: the dictionary as the list of its entries, adding an item under a key, taking one out,
dropping a key, and which items are under which key behind each of them.

Does not own: the order of an enumeration, and what keys and items are.
-/

set_option autoImplicit false

namespace AzureSignalR.Library.KeyedSets

variable {κ β : Type} [DecidableEq κ]

def tryGetValue (entries : List (κ × List β)) (key : κ) : Option (List β) :=
  (entries.find? fun entry => entry.1 = key).map Prod.snd

def keys (entries : List (κ × List β)) : List κ := entries.map Prod.fst

/-- The set of the key is changed in place. -/
def replace (entries : List (κ × List β)) (key : κ) (items : List β) : List (κ × List β) :=
  entries.map fun entry => if entry.1 = key then (entry.1, items) else entry

/-- The entries without the one whose key is the key and whose set is equal to the items. -/
def removePair (equal : List β → List β → Bool) (entries : List (κ × List β)) (key : κ)
    (items : List β) : List (κ × List β) :=
  entries.filter fun entry => !(entry.1 = key && equal entry.2 items)

def removeKey (entries : List (κ × List β)) (key : κ) : List (κ × List β) :=
  entries.filter fun entry => entry.1 ≠ key

/-- The item is under the key. -/
def Has (entries : List (κ × List β)) (key : κ) (item : β) : Prop :=
  ∃ items, tryGetValue entries key = some items ∧ item ∈ items

/-- No key occurs twice, and no set is empty or has an item twice. -/
structure Valid (entries : List (κ × List β)) : Prop where
  distinct : (keys entries).Nodup
  proper : ∀ entry ∈ entries, entry.2 ≠ [] ∧ entry.2.Nodup

section Sets

variable [DecidableEq β]

def addItem (items : List β) (item : β) : List β :=
  if item ∈ items then items else items ++ [item]

/-- A new set for a new key, or one more item in the set of the key. -/
def addOrUpdate (key : κ) (item : β) : List (κ × List β) → List (κ × List β)
  | [] => [(key, [item])]
  | entry :: entries =>
      if entry.1 = key then (entry.1, addItem entry.2 item) :: entries
      else entry :: addOrUpdate key item entries

/-- An item is taken out of the set of the key, which goes when it is empty. -/
def discard (equal : List β → List β → Bool) (entries : List (κ × List β)) (key : κ) (item : β) :
    List (κ × List β) × Bool :=
  match tryGetValue entries key with
  | none => (entries, false)
  | some items =>
      let left := items.erase item
      let entries := replace entries key left
      (if left.length = 0 then removePair equal entries key left else entries, item ∈ items)

end Sets

section Lookup

variable {entries : List (κ × List β)} {key : κ}

theorem tryGetValue_cons (entry : κ × List β) (entries : List (κ × List β)) (key : κ) :
    tryGetValue (entry :: entries) key =
      if entry.1 = key then some entry.2 else tryGetValue entries key := by
  rw [tryGetValue, List.find?_cons]
  by_cases same : entry.1 = key
  · rw [if_pos same, decide_eq_true same]
    rfl
  · rw [if_neg same, decide_eq_false same]
    rfl

theorem tryGetValue_eq_none_iff : tryGetValue entries key = none ↔ key ∉ keys entries := by
  induction entries with
  | nil => simp [tryGetValue, keys]
  | cons entry entries inductionHypothesis =>
      rw [tryGetValue_cons, keys, List.map_cons, List.mem_cons, not_or]
      split_ifs with same
      · simp [same]
      · rw [inductionHypothesis]
        exact ⟨fun absent => ⟨fun also => same also.symm, absent⟩, And.right⟩

/-- The entry that is found. -/
theorem mem_of_tryGetValue {items : List β} (found : tryGetValue entries key = some items) :
    (key, items) ∈ entries := by
  induction entries with
  | nil => exact nomatch found
  | cons entry entries inductionHypothesis =>
      rw [tryGetValue_cons] at found
      split_ifs at found with same
      · rw [← same, ← Option.some.inj found]
        exact List.mem_cons_self
      · exact List.mem_cons_of_mem _ (inductionHypothesis found)

theorem tryGetValue_addOrUpdate [DecidableEq β] (entries : List (κ × List β))
    (key other : κ) (item : β) :
    tryGetValue (addOrUpdate key item entries) other =
      if key = other then some (addItem ((tryGetValue entries key).getD []) item)
      else tryGetValue entries other := by
  induction entries with
  | nil =>
      rw [addOrUpdate, tryGetValue_cons]
      rfl
  | cons entry entries inductionHypothesis =>
      rw [addOrUpdate, tryGetValue_cons, tryGetValue_cons]
      by_cases here : entry.1 = key
      · rw [if_pos here, if_pos here, tryGetValue_cons, here]
        split_ifs
        · rfl
        · rfl
      · rw [if_neg here, if_neg here, tryGetValue_cons, inductionHypothesis]
        by_cases same : key = other
        · rw [if_pos same, if_pos same, if_neg fun also => here (also.trans same.symm)]
        · rw [if_neg same, if_neg same]

theorem keys_replace (entries : List (κ × List β)) (key : κ) (items : List β) :
    keys (replace entries key items) = keys entries := by
  rw [keys, replace, List.map_map]
  apply List.map_congr_left
  intro entry _
  show (if entry.1 = key then (entry.1, items) else entry).1 = entry.1
  split_ifs
  · rfl
  · rfl

theorem tryGetValue_replace (entries : List (κ × List β)) (key other : κ) (items : List β) :
    tryGetValue (replace entries key items) other =
      if key = other then (tryGetValue entries key).map fun _ => items
      else tryGetValue entries other := by
  induction entries with
  | nil =>
      show none = if _ then none else none
      rw [ite_self]
  | cons entry entries inductionHypothesis =>
      rw [replace, List.map_cons, tryGetValue_cons, tryGetValue_cons, tryGetValue_cons]
      rw [replace] at inductionHypothesis
      rw [inductionHypothesis]
      by_cases here : entry.1 = key
      · by_cases same : key = other
        · simp [here, same]
        · simp [here, same]
      · by_cases same : key = other
        · have differs : ¬entry.1 = other := fun also => here (also.trans same.symm)
          simp [same, differs]
        · simp [here, same]

/-- Entries that are filtered out are no longer found. -/
theorem tryGetValue_filter (keep : κ × List β → Bool) (distinct : (keys entries).Nodup) :
    tryGetValue (entries.filter keep) key =
      (tryGetValue entries key).filter fun items => keep (key, items) := by
  induction entries with
  | nil => rfl
  | cons entry entries inductionHypothesis =>
      rw [keys, List.map_cons, List.nodup_cons] at distinct
      rw [List.filter_cons, tryGetValue_cons]
      by_cases here : entry.1 = key
      · have absent : tryGetValue (entries.filter keep) key = none := by
          rw [tryGetValue_eq_none_iff, ← here]
          intro member
          exact distinct.1 ((List.filter_sublist.map _).subset member)
        have isEntry : (key, entry.2) = entry := by rw [← here]
        rw [if_pos here, Option.filter_some, isEntry]
        cases keep entry with
        | true => rw [if_pos rfl, tryGetValue_cons, if_pos here, if_pos rfl]
        | false => rw [if_neg nofun, absent, if_neg nofun]
      · rw [if_neg here, ← inductionHypothesis distinct.2]
        split_ifs
        · rw [tryGetValue_cons, if_neg here]
        · rfl

end Lookup

section Has

variable {entries : List (κ × List β)} {key : κ}

theorem has_of_tryGetValue {items : List β} (found : tryGetValue entries key = some items)
    (item : β) : Has entries key item ↔ item ∈ items := by
  constructor
  · rintro ⟨others, also, member⟩
    rw [found] at also
    exact Option.some.inj also ▸ member
  · intro member
    exact ⟨items, found, member⟩

theorem not_has_of_none (none : tryGetValue entries key = none) (item : β) :
    ¬Has entries key item := by
  rintro ⟨items, found, -⟩
  rw [none] at found
  exact nomatch found

theorem Valid.of_tryGetValue (valid : Valid entries) {items : List β}
    (found : tryGetValue entries key = some items) : items ≠ [] ∧ items.Nodup :=
  valid.proper _ (mem_of_tryGetValue found)

/-- The keys are those that have an item. -/
theorem Valid.mem_keys_iff (valid : Valid entries) :
    key ∈ keys entries ↔ ∃ item, Has entries key item := by
  cases found : tryGetValue entries key with
  | none =>
      apply iff_of_false (tryGetValue_eq_none_iff.1 found)
      rintro ⟨item, has⟩
      exact not_has_of_none found item has
  | some items =>
      obtain ⟨item, member⟩ := List.exists_mem_of_ne_nil items (valid.of_tryGetValue found).1
      apply iff_of_true
      · by_contra absent
        rw [tryGetValue_eq_none_iff.2 absent] at found
        exact nomatch found
      · exact ⟨item, items, found, member⟩

omit [DecidableEq κ] in
theorem Valid.filter (valid : Valid entries) (keep : κ × List β → Bool) :
    Valid (entries.filter keep) where
  distinct := valid.distinct.sublist (List.filter_sublist.map _)
  proper entry member := valid.proper entry (List.mem_of_mem_filter member)

theorem Valid.removeKey (valid : Valid entries) (key : κ) : Valid (removeKey entries key) :=
  valid.filter _

theorem tryGetValue_removeKey (valid : Valid entries) (key other : κ) :
    tryGetValue (removeKey entries key) other =
      if key = other then none else tryGetValue entries other := by
  rw [KeyedSets.removeKey, tryGetValue_filter _ valid.distinct]
  by_cases same : key = other
  · rw [if_pos same]
    cases tryGetValue entries other with
    | none => rfl
    | some items => simp [same]
  · rw [if_neg same]
    cases tryGetValue entries other with
    | none => rfl
    | some items => simp [Ne.symm same]

theorem has_removeKey (valid : Valid entries) (key other : κ) (item : β) :
    Has (removeKey entries key) other item ↔ Has entries other item ∧ key ≠ other := by
  rw [Has, tryGetValue_removeKey valid]
  by_cases same : key = other
  · simp [same]
  · rw [if_neg same]
    exact ⟨fun has => ⟨has, same⟩, And.left⟩

end Has

section Changes

variable [DecidableEq β] {entries : List (κ × List β)}

theorem mem_addItem {items : List β} {item other : β} :
    other ∈ addItem items item ↔ other = item ∨ other ∈ items := by
  rw [addItem]
  split_ifs with member
  · constructor
    · exact .inr
    · rintro (rfl | also)
      · exact member
      · exact also
  · rw [List.mem_append, List.mem_singleton, or_comm]

theorem nodup_addItem {items : List β} (distinct : items.Nodup) (item : β) :
    (addItem items item).Nodup := by
  rw [addItem]
  split_ifs with member
  · exact distinct
  · exact List.nodup_append.mpr ⟨distinct, List.nodup_singleton item, fun other isOld _ isNew => by
      rw [List.mem_singleton.mp isNew]
      exact fun same => member (same ▸ isOld)⟩

theorem has_addOrUpdate (entries : List (κ × List β)) (key other : κ) (item otherItem : β) :
    Has (addOrUpdate key item entries) other otherItem ↔
      (key = other ∧ otherItem = item) ∨ Has entries other otherItem := by
  rw [Has, tryGetValue_addOrUpdate]
  by_cases same : key = other
  · rw [if_pos same]
    cases found : tryGetValue entries key with
    | none =>
        have absent := not_has_of_none found otherItem
        rw [same] at absent
        simp [mem_addItem, same, absent]
    | some items =>
        rw [same] at found
        simp [mem_addItem, same, has_of_tryGetValue found]
  · simp [same, Has]

theorem keys_addOrUpdate (entries : List (κ × List β)) (key : κ) (item : β) :
    keys (addOrUpdate key item entries) =
      if key ∈ keys entries then keys entries else keys entries ++ [key] := by
  induction entries with
  | nil => rfl
  | cons entry entries inductionHypothesis =>
      rw [addOrUpdate]
      by_cases here : entry.1 = key
      · rw [if_pos here, if_pos]
        · rfl
        · rw [keys, List.map_cons, here]
          exact List.mem_cons_self
      · rw [if_neg here]
        show entry.1 :: keys (addOrUpdate key item entries) = _
        rw [inductionHypothesis]
        have member : key ∈ keys (entry :: entries) ↔ key ∈ keys entries := by
          rw [keys, List.map_cons, List.mem_cons]
          exact or_iff_right fun same => here same.symm
        simp only [member]
        split_ifs
        · rfl
        · rfl

/-- The entries are old ones, but for that of the key. -/
theorem of_mem_addOrUpdate {key : κ} {item : β} {entry : κ × List β}
    (member : entry ∈ addOrUpdate key item entries) :
    entry ∈ entries ∨ entry = (key, [item]) ∨
      ∃ items, (key, items) ∈ entries ∧ entry = (key, addItem items item) := by
  induction entries with
  | nil => exact .inr (.inl (List.mem_singleton.mp member))
  | cons first entries inductionHypothesis =>
      rw [addOrUpdate] at member
      split_ifs at member with here
      · subst here
        rcases List.mem_cons.mp member with rfl | later
        · exact .inr (.inr ⟨first.2, List.mem_cons_self, rfl⟩)
        · exact .inl (List.mem_cons_of_mem _ later)
      · rcases List.mem_cons.mp member with rfl | later
        · exact .inl List.mem_cons_self
        · rcases inductionHypothesis later with old | new | ⟨items, isOld, changed⟩
          · exact .inl (List.mem_cons_of_mem _ old)
          · exact .inr (.inl new)
          · exact .inr (.inr ⟨items, List.mem_cons_of_mem _ isOld, changed⟩)

theorem Valid.addOrUpdate (valid : Valid entries) (key : κ) (item : β) :
    Valid (addOrUpdate key item entries) where
  distinct := by
    rw [keys_addOrUpdate]
    split_ifs with member
    · exact valid.distinct
    · apply List.nodup_append.mpr ⟨valid.distinct, List.nodup_singleton key, ?_⟩
      intro old isOld new isNew
      rw [List.mem_singleton.mp isNew]
      exact fun same => member (same ▸ isOld)
  proper := by
    intro entry member
    rcases of_mem_addOrUpdate member with old | rfl | ⟨items, isOld, rfl⟩
    · exact valid.proper entry old
    · exact ⟨List.cons_ne_nil _ _, List.nodup_singleton item⟩
    · exact ⟨List.ne_nil_of_mem (mem_addItem.2 (.inl rfl)),
        nodup_addItem (valid.proper _ isOld).2 item⟩

/-- Where the set of the key is found to be equal to itself, it goes when it is empty. -/
theorem tryGetValue_discard {equal : List β → List β → Bool}
    (reflexive : ∀ items, equal items items)
    (valid : Valid entries) (key other : κ) (item : β) :
    tryGetValue (discard equal entries key item).1 other =
      if key = other then
        ((tryGetValue entries key).map fun items => items.erase item).filter (· ≠ [])
      else tryGetValue entries other := by
  have distinct : ∀ items, (keys (replace entries key items)).Nodup := by
    intro items
    rw [keys_replace]
    exact valid.distinct
  rw [discard]
  cases found : tryGetValue entries key with
  | none =>
      show tryGetValue entries other = _
      split_ifs with same
      · rw [← same, found]
        rfl
      · rfl
  | some items =>
      show tryGetValue (if (items.erase item).length = 0 then _ else _) other = _
      by_cases empty : items.erase item = []
      · rw [if_pos (List.length_eq_zero_iff.mpr empty), removePair,
          tryGetValue_filter _ (distinct _), tryGetValue_replace]
        by_cases same : key = other
        · subst same
          simp [found, empty, reflexive, Option.filter_some]
        · rw [if_neg same, if_neg same]
          cases tryGetValue entries other with
          | none => rfl
          | some others => simp [Ne.symm same]
      · rw [if_neg fun zero => empty (List.length_eq_zero_iff.mp zero), tryGetValue_replace]
        by_cases same : key = other
        · subst same
          simp [found, empty, Option.filter_some]
        · rw [if_neg same, if_neg same]

theorem has_discard {equal : List β → List β → Bool} (reflexive : ∀ items, equal items items)
    (valid : Valid entries) (key other : κ) (item otherItem : β) :
    Has (discard equal entries key item).1 other otherItem ↔
      Has entries other otherItem ∧ ¬(key = other ∧ otherItem = item) := by
  rw [Has, tryGetValue_discard reflexive valid]
  by_cases same : key = other
  · subst same
    rw [if_pos rfl]
    cases found : tryGetValue entries key with
    | none =>
        have absent := not_has_of_none found otherItem
        simp [absent]
    | some items =>
        have distinct := (valid.of_tryGetValue found).2
        rw [has_of_tryGetValue found]
        have erased : otherItem ∈ items.erase item ↔ otherItem ≠ item ∧ otherItem ∈ items :=
          distinct.mem_erase_iff
        constructor
        · rintro ⟨left, isLeft, member⟩
          rw [Option.map_some, Option.filter_eq_some_iff] at isLeft
          obtain ⟨rfl, -⟩ := isLeft.1
          exact ⟨(erased.mp member).2, fun both => (erased.mp member).1 both.2⟩
        · intro both
          have member := erased.mpr ⟨fun also => both.2 ⟨rfl, also⟩, both.1⟩
          refine ⟨_, ?_, member⟩
          rw [Option.map_some, Option.filter_eq_some_iff]
          exact ⟨rfl, decide_eq_true (List.ne_nil_of_mem member)⟩
  · rw [if_neg same]
    exact ⟨fun has => ⟨has, fun both => same both.1⟩, And.left⟩

/-- Whether the item was under the key. -/
theorem discard_snd (equal : List β → List β → Bool) (entries : List (κ × List β)) (key : κ)
    (item : β) : (discard equal entries key item).2 = true ↔ Has entries key item := by
  rw [discard]
  cases found : tryGetValue entries key with
  | none => exact iff_of_false nofun (not_has_of_none found item)
  | some items => rw [has_of_tryGetValue found, decide_eq_true_iff]

/-- The entries are old ones, but for that of the key, which is not found equal to what is
dropped. -/
theorem of_mem_discard {equal : List β → List β → Bool} {key : κ} {item : β} {entry : κ × List β}
    (member : entry ∈ (discard equal entries key item).1) :
    entry ∈ entries ∨ ∃ items, tryGetValue entries key = some items ∧
      entry = (key, items.erase item) ∧
        (items.erase item = [] → equal (items.erase item) (items.erase item) = false) := by
  rw [discard] at member
  cases found : tryGetValue entries key with
  | none =>
      rw [found] at member
      exact .inl member
  | some items =>
      rw [found] at member
      have inReplaced : ∀ other ∈ replace entries key (items.erase item),
          other ∈ entries ∨ other = (key, items.erase item) := by
        intro other isOther
        obtain ⟨old, isOld, rfl⟩ := List.mem_map.mp isOther
        split_ifs with same
        · exact .inr (by rw [same])
        · exact .inl isOld
      replace member : entry ∈ if (items.erase item).length = 0 then
        removePair equal (replace entries key (items.erase item)) key (items.erase item)
        else replace entries key (items.erase item) := member
      split_ifs at member with empty
      · obtain ⟨isEntry, keeps⟩ := List.mem_filter.mp member
        rcases inReplaced entry isEntry with old | rfl
        · exact .inl old
        · exact .inr ⟨items, rfl, rfl, fun _ => by simpa using keeps⟩
      · rcases inReplaced entry member with old | changed
        · exact .inl old
        · exact .inr
            ⟨items, rfl, changed, fun none => absurd (List.length_eq_zero_iff.mpr none) empty⟩

theorem keys_discard_sublist (equal : List β → List β → Bool) (entries : List (κ × List β))
    (key : κ) (item : β) : (keys (discard equal entries key item).1).Sublist (keys entries) := by
  rw [discard]
  cases tryGetValue entries key with
  | none => exact List.Sublist.refl _
  | some items =>
      show (keys (if (items.erase item).length = 0 then _ else _)).Sublist _
      rw [← keys_replace entries key (items.erase item)]
      split_ifs
      · exact List.filter_sublist.map _
      · exact List.Sublist.refl _

theorem Valid.discard {equal : List β → List β → Bool} (reflexive : ∀ items, equal items items)
    (valid : Valid entries) (key : κ) (item : β) :
    Valid (discard equal entries key item).1 where
  distinct := valid.distinct.sublist (keys_discard_sublist equal entries key item)
  proper := by
    intro entry member
    rcases of_mem_discard member with old | ⟨items, found, rfl, kept⟩
    · exact valid.proper entry old
    · refine ⟨fun none => ?_, (valid.of_tryGetValue found).2.erase item⟩
      have differs := kept none
      rw [reflexive] at differs
      exact nomatch differs

end Changes

end AzureSignalR.Library.KeyedSets
