import Mathlib.Data.List.Nodup

/-!
Contract: finite sequences under an equality that a key gives.

Owns: distinct elements, differences, intersections and groups of sequences, with
the elements and the order that enumerating them gives; and dictionaries that refuse
a key they have.

Does not own: hashing. Elements are equal when their keys are.
-/

set_option autoImplicit false

namespace AzureSignalR.Library.Enumerable

variable {α β κ : Type} [DecidableEq κ] (key : α → κ)

/-- The elements whose keys have not been seen, each key once. -/
def exceptKeys (seen : List κ) : List α → List α
  | [] => []
  | item :: items =>
      if key item ∈ seen then exceptKeys seen items
      else item :: exceptKeys (key item :: seen) items

def distinctBy (items : List α) : List α := exceptKeys key [] items

def exceptBy (first second : List α) : List α := exceptKeys key (second.map key) first

/-- The elements whose keys are wanted, each key once. -/
def intersectKeys (wanted : List κ) : List α → List α
  | [] => []
  | item :: items =>
      if key item ∈ wanted then
        item :: intersectKeys (wanted.filter fun other => other ≠ key item) items
      else intersectKeys wanted items

def intersectBy (first second : List α) : List α := intersectKeys key (second.map key) first

/-- `Dictionary.Add`, which throws when the key is there. -/
def addEntry (entries : List (α × β)) (entry : α × β) : Option (List (α × β)) :=
  if key entry.1 ∈ entries.map fun other => key other.1 then none else some (entries ++ [entry])

def addEntries (entries : List (α × β)) : List (α × β) → Option (List (α × β))
  | [] => some entries
  | entry :: added =>
      match addEntry key entries entry with
      | none => none
      | some next => addEntries next added

def toDictionary (entries : List (α × β)) : Option (List (α × β)) := addEntries key [] entries

variable {key} {items first second : List α} {seen wanted : List κ} {item : α}

/-! ## Counting -/

theorem countP_le_one_iff {wanted : α → Bool} :
    items.countP wanted ≤ 1 ↔ items.Pairwise fun first second =>
      wanted first = true → wanted second = false := by
  induction items with
  | nil => simp
  | cons item items inductionHypothesis =>
      rw [List.countP_cons, List.pairwise_cons, ← inductionHypothesis]
      cases isWanted : wanted item with
      | false => simp
      | true =>
          have absent : items.countP wanted = 0 ↔ ∀ other ∈ items, wanted other = false := by
            simp [List.countP_eq_zero]
          simp only [if_true, forall_const, ← absent]
          omega

/-! ## Differences -/

theorem mem_exceptKeys (member : item ∈ exceptKeys key seen items) :
    item ∈ items ∧ key item ∉ seen := by
  induction items generalizing seen with
  | nil => cases member
  | cons head tail inductionHypothesis =>
      rw [exceptKeys] at member
      split_ifs at member with known
      · have behind := inductionHypothesis member
        exact ⟨List.mem_cons_of_mem _ behind.1, behind.2⟩
      · rcases List.mem_cons.mp member with rfl | later
        · exact ⟨List.mem_cons_self, known⟩
        · have behind := inductionHypothesis later
          exact ⟨List.mem_cons_of_mem _ behind.1, fun isSeen =>
            behind.2 (List.mem_cons_of_mem _ isSeen)⟩

/-- Every key that has not been seen has its first element. -/
theorem exists_exceptKeys (member : item ∈ items) (unseen : key item ∉ seen) :
    ∃ other ∈ exceptKeys key seen items, key other = key item := by
  induction items generalizing seen with
  | nil => cases member
  | cons head tail inductionHypothesis =>
      rw [exceptKeys]
      rcases List.mem_cons.mp member with rfl | later
      · rw [if_neg unseen]
        exact ⟨item, List.mem_cons_self, rfl⟩
      · split_ifs with known
        · exact inductionHypothesis later unseen
        · by_cases same : key item = key head
          · exact ⟨head, List.mem_cons_self, same.symm⟩
          · have still : key item ∉ key head :: seen := by
              intro isSeen
              rcases List.mem_cons.mp isSeen with isHead | before
              · exact same isHead
              · exact unseen before
            obtain ⟨other, isOther, sameKey⟩ := inductionHypothesis later still
            exact ⟨other, List.mem_cons_of_mem _ isOther, sameKey⟩

theorem nodup_exceptKeys : ((exceptKeys key seen items).map key).Nodup := by
  induction items generalizing seen with
  | nil => exact List.nodup_nil
  | cons head tail inductionHypothesis =>
      rw [exceptKeys]
      split_ifs with known
      · exact inductionHypothesis
      · rw [List.map_cons, List.nodup_cons]
        refine ⟨?_, inductionHypothesis⟩
        intro repeated
        obtain ⟨other, member, same⟩ := List.mem_map.mp repeated
        exact (mem_exceptKeys member).2 (same ▸ List.mem_cons_self)

omit [DecidableEq κ] in
/-- Elements with different keys. -/
theorem eq_of_nodup (unique : (items.map key).Nodup) {other : α} (member : item ∈ items)
    (also : other ∈ items) (same : key item = key other) : item = other :=
  List.inj_on_of_nodup_map unique member also same

theorem mem_exceptKeys_iff (unique : (items.map key).Nodup) :
    item ∈ exceptKeys key seen items ↔ item ∈ items ∧ key item ∉ seen := by
  constructor
  · exact mem_exceptKeys
  · rintro ⟨member, unseen⟩
    obtain ⟨other, isOther, same⟩ := exists_exceptKeys member unseen
    rwa [eq_of_nodup unique (mem_exceptKeys isOther).1 member same] at isOther

theorem mem_exceptBy_iff (unique : (first.map key).Nodup) :
    item ∈ exceptBy key first second ↔ item ∈ first ∧ key item ∉ second.map key :=
  mem_exceptKeys_iff unique

theorem exceptKeys_sublist : (exceptKeys key seen items).Sublist items := by
  induction items generalizing seen with
  | nil => exact List.Sublist.refl _
  | cons head tail inductionHypothesis =>
      rw [exceptKeys]
      split_ifs
      · exact inductionHypothesis.cons head
      · exact inductionHypothesis.cons_cons head

/-! ## Groups -/

/-- Some elements, at least one. -/
def Grouping (α : Type) : Type := { items : List α // items ≠ [] }

/-- The elements with the key of one of them. -/
def groupOf (key : α → κ) (items : List α) (first : { item // item ∈ distinctBy key items }) :
    Grouping α :=
  ⟨items.filter fun item => key item = key first.1,
    List.ne_nil_of_mem (List.mem_filter.mpr ⟨(mem_exceptKeys first.2).1, decide_eq_true rfl⟩)⟩

/-- The groups of elements with one key, in the order of their first elements. -/
def groupBy (key : α → κ) (items : List α) : List (Grouping α) :=
  (distinctBy key items).attach.map (groupOf key items)

/-- A choice from every group has every key once. -/
theorem map_groupBy (choose : Grouping α → α) (chooses : ∀ group, choose group ∈ group.1) :
    ((groupBy key items).map choose).map key = (distinctBy key items).map key := by
  rw [groupBy, List.map_map, List.map_map]
  conv_rhs => rw [← List.attach_map_subtype_val (distinctBy key items), List.map_map]
  refine List.map_congr_left fun first _ => ?_
  have member := chooses (groupOf key items first)
  exact of_decide_eq_true (List.mem_filter.mp member).2

theorem mem_groupBy {group : Grouping α} (member : group ∈ groupBy key items) :
    ∃ first ∈ items, group.1 = items.filter fun item => key item = key first := by
  obtain ⟨first, -, rfl⟩ := List.mem_map.mp member
  exact ⟨first.1, (mem_exceptKeys first.2).1, rfl⟩

/-- Every element is in the group of its key. -/
theorem exists_groupBy (member : item ∈ items) :
    ∃ group ∈ groupBy key items,
      group.1 = items.filter fun other => key other = key item := by
  obtain ⟨first, isFirst, same⟩ := exists_exceptKeys member (List.not_mem_nil (a := key item))
  refine ⟨groupOf key items ⟨first, isFirst⟩, List.mem_map_of_mem (List.mem_attach _ _), ?_⟩
  change items.filter (fun other => key other = key first) = _
  rw [same]

/-! ## Intersections -/

theorem mem_intersectKeys (member : item ∈ intersectKeys key wanted items) :
    item ∈ items ∧ key item ∈ wanted := by
  induction items generalizing wanted with
  | nil => cases member
  | cons head tail inductionHypothesis =>
      rw [intersectKeys] at member
      split_ifs at member with isWanted
      · rcases List.mem_cons.mp member with rfl | later
        · exact ⟨List.mem_cons_self, isWanted⟩
        · have behind := inductionHypothesis later
          exact ⟨List.mem_cons_of_mem _ behind.1, (List.mem_filter.mp behind.2).1⟩
      · have behind := inductionHypothesis member
        exact ⟨List.mem_cons_of_mem _ behind.1, behind.2⟩

theorem nodup_intersectKeys : ((intersectKeys key wanted items).map key).Nodup := by
  induction items generalizing wanted with
  | nil => exact List.nodup_nil
  | cons head tail inductionHypothesis =>
      rw [intersectKeys]
      split_ifs with isWanted
      · rw [List.map_cons, List.nodup_cons]
        refine ⟨?_, inductionHypothesis⟩
        intro repeated
        obtain ⟨other, member, same⟩ := List.mem_map.mp repeated
        have differs := (List.mem_filter.mp (mem_intersectKeys member).2).2
        exact of_decide_eq_true differs same
      · exact inductionHypothesis

theorem mem_intersectKeys_iff (unique : (items.map key).Nodup) :
    item ∈ intersectKeys key wanted items ↔ item ∈ items ∧ key item ∈ wanted := by
  constructor
  · exact mem_intersectKeys
  · rintro ⟨member, isWanted⟩
    induction items generalizing wanted with
    | nil => cases member
    | cons head tail inductionHypothesis =>
        rw [List.map_cons, List.nodup_cons] at unique
        rw [intersectKeys]
        rcases List.mem_cons.mp member with rfl | later
        · rw [if_pos isWanted]
          exact List.mem_cons_self
        · split_ifs with headWanted
          · refine List.mem_cons_of_mem _ (inductionHypothesis unique.2 later ?_)
            refine List.mem_filter.mpr ⟨isWanted, decide_eq_true ?_⟩
            intro same
            exact unique.1 (same ▸ List.mem_map_of_mem later)
          · exact inductionHypothesis unique.2 later isWanted

theorem intersectKeys_sublist : (intersectKeys key wanted items).Sublist items := by
  induction items generalizing wanted with
  | nil => exact List.Sublist.refl _
  | cons head tail inductionHypothesis =>
      rw [intersectKeys]
      split_ifs
      · exact inductionHypothesis.cons_cons head
      · exact inductionHypothesis.cons head

theorem mem_intersectBy_iff (unique : (first.map key).Nodup) :
    item ∈ intersectBy key first second ↔ item ∈ first ∧ key item ∈ second.map key :=
  mem_intersectKeys_iff unique

theorem nodup_intersectBy : ((intersectBy key first second).map key).Nodup :=
  nodup_intersectKeys

/-! ## Dictionaries -/

/-- No key is refused when all are different. -/
theorem addEntries_of_nodup {entries added : List (α × β)}
    (unique : ((entries ++ added).map fun entry => key entry.1).Nodup) :
    addEntries key entries added = some (entries ++ added) := by
  induction added generalizing entries with
  | nil => rw [addEntries, List.append_nil]
  | cons entry added inductionHypothesis =>
      have absent : ¬ key entry.1 ∈ entries.map fun other => key other.1 := by
        intro isThere
        rw [List.map_append, List.map_cons] at unique
        exact List.disjoint_of_nodup_append unique isThere List.mem_cons_self
      rw [List.append_cons] at unique
      rw [addEntries, addEntry, if_neg absent, List.append_cons entries entry added]
      exact inductionHypothesis unique

theorem toDictionary_of_nodup {entries : List (α × β)}
    (unique : (entries.map fun entry => key entry.1).Nodup) :
    toDictionary key entries = some entries :=
  addEntries_of_nodup unique

end AzureSignalR.Library.Enumerable
