import Mathlib.Data.List.Nodup
import Mathlib.Data.Nat.Init

/-!
Contract: a set that changes one change after the other, and lists that follow it.

Owns: the versions of the set, in which version an item is, and lists to which the changes
are made in any order, with the version each item of such a list is at.

Does not own: who makes the changes. Items are any type with a decidable equality.
-/

set_option autoImplicit false

namespace AzureSignalR.Library.Changes

variable {α : Type}

/-- What one change does. -/
structure Change (α : Type) where
  added : List α
  removed : List α
deriving DecidableEq, Repr

namespace Change

/-- A change that adds no item twice and none that it removes. -/
structure Proper (change : Change α) : Prop where
  nodup : change.added.Nodup
  disjoint : ∀ item ∈ change.added, item ∉ change.removed

def Concerns (change : Change α) (item : α) : Prop :=
  item ∈ change.added ∨ item ∈ change.removed

end Change

/-! ## Versions -/

/-- The set has the item behind the first changes. -/
def HasAt (initial : α → Prop) (changes : List (Change α)) : Nat → α → Prop
  | 0, item => initial item
  | version + 1, item =>
      match changes[version]? with
      | none => HasAt initial changes version item
      | some change =>
          HasAt initial changes version item ∧ item ∉ change.removed ∨ item ∈ change.added

section Versions

variable {initial : α → Prop} {changes : List (Change α)} {change : Change α} {item : α}
  {version : Nat}

theorem hasAt_succ (present : changes[version]? = some change) :
    HasAt initial changes (version + 1) item ↔
      HasAt initial changes version item ∧ item ∉ change.removed ∨ item ∈ change.added := by
  rw [HasAt, present]

theorem hasAt_of_added (present : changes[version]? = some change)
    (isAdded : item ∈ change.added) : HasAt initial changes (version + 1) item :=
  (hasAt_succ present).mpr (.inr isAdded)

theorem not_hasAt_of_removed (present : changes[version]? = some change)
    (proper : change.Proper) (isRemoved : item ∈ change.removed) :
    ¬ HasAt initial changes (version + 1) item := by
  rw [hasAt_succ present]
  rintro (⟨-, isKept⟩ | isAdded)
  · exact isKept isRemoved
  · exact proper.disjoint item isAdded isRemoved

/-- A later change leaves the versions before it as they are. -/
theorem hasAt_append (later : List (Change α)) (old : version ≤ changes.length) :
    HasAt initial (changes ++ later) version item ↔ HasAt initial changes version item := by
  induction version with
  | zero => exact Iff.rfl
  | succ version inductionHypothesis =>
      rw [HasAt, HasAt, List.getElem?_append_left (Nat.lt_of_succ_le old)]
      split
      · exact inductionHypothesis (Nat.le_of_succ_le old)
      · rw [inductionHypothesis (Nat.le_of_succ_le old)]

/-- Between two versions without a change to the item, it stays as it is. -/
theorem hasAt_of_unconcerned {first last : Nat} (ordered : first ≤ last)
    (unconcerned : ∀ between change, first ≤ between → changes[between]? = some change →
      ¬ change.Concerns item) :
    HasAt initial changes last item ↔ HasAt initial changes first item := by
  induction last, ordered using Nat.le_induction with
  | base => exact Iff.rfl
  | succ last ordered inductionHypothesis =>
      rw [← inductionHypothesis, HasAt]
      split
      · exact Iff.rfl
      next change present =>
        have strange := unconcerned last change ordered present
        constructor
        · rintro (⟨isThere, -⟩ | isAdded)
          · exact isThere
          · exact absurd (.inl isAdded) strange
        · intro isThere
          exact .inl ⟨isThere, fun isRemoved => strange (.inr isRemoved)⟩

end Versions

/-! ## Lists -/

/-- A list that follows the set, with the version at which it has each item or has it not. -/
structure Replica (α : Type) where
  items : List α
  version : α → Nat

namespace Replica

/-- Every item of the list is as in the version it is at. -/
structure Reflects (initial : α → Prop) (changes : List (Change α)) (replica : Replica α) :
    Prop where
  nodup : replica.items.Nodup
  versions : ∀ item, replica.version item ≤ changes.length
  mem_iff : ∀ item, item ∈ replica.items ↔ HasAt initial changes (replica.version item) item

variable [DecidableEq α]

/-- The list behind the added items of a change. -/
def add (replica : Replica α) (number : Nat) (added : List α) : Replica α where
  items := replica.items ++ added
  version item :=
    if item ∈ added then max (number + 1) (replica.version item) else replica.version item

/-- The list without the removed items of a change. -/
def remove (replica : Replica α) (number : Nat) (removed : List α) : Replica α where
  items := replica.items.filter fun item => item ∉ removed
  version item :=
    if item ∈ removed then max (number + 1) (replica.version item) else replica.version item

variable {initial : α → Prop} {changes : List (Change α)} {change : Change α}
  {replica : Replica α} {number : Nat} {item : α}

omit [DecidableEq α] in
/-- A list that is a version of the set. -/
theorem reflects_copy {items : List α} (nodup : items.Nodup) (old : number ≤ changes.length)
    (isVersion : ∀ item, item ∈ items ↔ HasAt initial changes number item) :
    Reflects initial changes ⟨items, fun _ => number⟩ :=
  ⟨nodup, fun _ => old, isVersion⟩

theorem version_le_add (added : List α) (item : α) :
    replica.version item ≤ (replica.add number added).version item := by
  show _ ≤ if item ∈ added then max (number + 1) (replica.version item) else replica.version item
  split <;> omega

theorem lt_version_add {added : List α} (isAdded : item ∈ added) :
    number < (replica.add number added).version item := by
  show number < if item ∈ added then max (number + 1) (replica.version item) else _
  rw [if_pos isAdded]
  omega

theorem version_le_remove (removed : List α) (item : α) :
    replica.version item ≤ (replica.remove number removed).version item := by
  show _ ≤ if item ∈ removed then max (number + 1) (replica.version item) else replica.version item
  split <;> omega

theorem lt_version_remove {removed : List α} (isRemoved : item ∈ removed) :
    number < (replica.remove number removed).version item := by
  show number < if item ∈ removed then max (number + 1) (replica.version item) else _
  rw [if_pos isRemoved]
  omega

namespace Reflects

omit [DecidableEq α] in
theorem append (reflects : Reflects initial changes replica) (later : List (Change α)) :
    Reflects initial (changes ++ later) replica where
  nodup := reflects.nodup
  versions item := by
    rw [List.length_append]
    exact Nat.le_add_right_of_le (reflects.versions item)
  mem_iff item := by
    rw [hasAt_append later (reflects.versions item)]
    exact reflects.mem_iff item

/-- The items of a change are added when the list has none of them and no later change has been
made to them. -/
theorem add (reflects : Reflects initial changes replica)
    (present : changes[number]? = some change) (proper : change.Proper)
    (inOrder : ∀ item ∈ change.added, item ∉ replica.items ∧ replica.version item ≤ number) :
    Reflects initial changes (replica.add number change.added) where
  nodup := by
    refine reflects.nodup.append proper.nodup ?_
    intro item isThere isAdded
    exact (inOrder item isAdded).1 isThere
  versions item := by
    have old := reflects.versions item
    have inside := (List.getElem?_eq_some_iff.mp present).1
    show (if item ∈ change.added then _ else _) ≤ changes.length
    split <;> omega
  mem_iff item := by
    show item ∈ replica.items ++ change.added ↔
      HasAt initial changes (if item ∈ change.added then _ else _) item
    by_cases isAdded : item ∈ change.added
    · rw [if_pos isAdded, Nat.max_eq_left (Nat.le_succ_of_le (inOrder item isAdded).2)]
      exact iff_of_true (List.mem_append_right _ isAdded) (hasAt_of_added present isAdded)
    · rw [if_neg isAdded, List.mem_append, or_iff_left isAdded]
      exact reflects.mem_iff item

/-- The items of a change are removed when no later change has added them. -/
theorem remove (reflects : Reflects initial changes replica)
    (present : changes[number]? = some change) (proper : change.Proper)
    (inOrder : ∀ item ∈ change.removed, item ∈ replica.items → replica.version item ≤ number) :
    Reflects initial changes (replica.remove number change.removed) where
  nodup := reflects.nodup.filter _
  versions item := by
    have old := reflects.versions item
    have inside := (List.getElem?_eq_some_iff.mp present).1
    show (if item ∈ change.removed then _ else _) ≤ changes.length
    split <;> omega
  mem_iff item := by
    show item ∈ replica.items.filter _ ↔
      HasAt initial changes (if item ∈ change.removed then _ else _) item
    by_cases isRemoved : item ∈ change.removed
    · rw [if_pos isRemoved]
      refine iff_of_false (fun isThere => ?_) ?_
      · exact of_decide_eq_true (List.mem_filter.mp isThere).2 isRemoved
      · rcases Nat.lt_or_ge number (replica.version item) with later | old
        · -- A later change has removed it before.
          rw [Nat.max_eq_right later, ← reflects.mem_iff]
          intro isThere
          exact absurd (inOrder item isRemoved isThere) (Nat.not_le_of_lt later)
        · rw [Nat.max_eq_left (Nat.le_succ_of_le old)]
          exact not_hasAt_of_removed present proper isRemoved
    · rw [if_neg isRemoved, List.mem_filter, ← reflects.mem_iff item]
      exact and_iff_left (decide_eq_true isRemoved)

omit [DecidableEq α] in
/-- A list to which every change has been made is the last version. -/
theorem mem_iff_last (reflects : Reflects initial changes replica)
    (made : ∀ number change, changes[number]? = some change → ∀ item, change.Concerns item →
      number < replica.version item) (item : α) :
    item ∈ replica.items ↔ HasAt initial changes changes.length item := by
  rw [reflects.mem_iff]
  refine (hasAt_of_unconcerned (reflects.versions item) ?_).symm
  intro between change behind present concerns
  exact absurd (made between change present item concerns) (Nat.not_lt_of_le behind)

end Reflects

end Replica

end AzureSignalR.Library.Changes
