import AzureSignalR.Library.KeyedSets
import Mathlib.Data.Set.Insert

/-!
Contract: the membership map of the emulator is a set of pairs.

Owns: `ManyToManyMap` with its two indexes, every operation on them, and that the indexes stand for
one set of pairs behind any operations.

Does not own: calls that overlap. Each operation runs alone here.
-/

set_option autoImplicit false

namespace AzureSignalR.Emulator

open Library.KeyedSets

/-- What the emulator's tables may throw. -/
inductive Exn where
  | nullReference
deriving DecidableEq, Repr

structure ManyToManyMap (L R : Type) where
  ltr : List (L × List R) := []
  rtl : List (R × List L) := []
deriving DecidableEq, Repr

/-- `Set<T>.Equals` compares the sizes. -/
def setEquals {α : Type} (first second : List α) : Bool := first.length = second.length

theorem setEquals_self {α : Type} (items : List α) : setEquals items items = true :=
  decide_eq_true rfl

namespace ManyToManyMap

variable {L R : Type} [DecidableEq L] [DecidableEq R]

def lefts (map : ManyToManyMap L R) : List L := keys map.ltr

def rights (map : ManyToManyMap L R) : List R := keys map.rtl

/-- The first half of `Add`. -/
def addRightToLeft (map : ManyToManyMap L R) (left : L) (right : R) : ManyToManyMap L R :=
  { map with ltr := addOrUpdate left right map.ltr }

/-- The second half of `Add`. -/
def addLeftToRight (map : ManyToManyMap L R) (left : L) (right : R) : ManyToManyMap L R :=
  { map with rtl := addOrUpdate right left map.rtl }

def add (map : ManyToManyMap L R) (left : L) (right : R) : ManyToManyMap L R :=
  (map.addRightToLeft left right).addLeftToRight left right

def removeRightFromLeft (map : ManyToManyMap L R) (left : L) (right : R) : ManyToManyMap L R :=
  { map with ltr := (discard setEquals map.ltr left right).1 }

def removeLeftFromRight (map : ManyToManyMap L R) (left : L) (right : R) :
    ManyToManyMap L R × Bool :=
  ({ map with rtl := (discard setEquals map.rtl right left).1 },
    (discard setEquals map.rtl right left).2)

def remove (map : ManyToManyMap L R) (left : L) (right : R) : ManyToManyMap L R × Bool :=
  let (map, found) := map.removeLeftFromRight left right
  (map.removeRightFromLeft left right, found)

/-- Without the value there is no set to go through. -/
def removeLeft (map : ManyToManyMap L R) (left : L) : Except Exn (ManyToManyMap L R) :=
  match tryGetValue map.ltr left with
  | none => .error .nullReference
  | some rights =>
      .ok (rights.foldl (fun map right => (map.removeLeftFromRight left right).1)
        { map with ltr := removeKey map.ltr left })

/-- The set of a key, as an array that is leased. -/
def query {κ β : Type} [DecidableEq κ] (entries : List (κ × List β)) (key : κ) : List β :=
  match tryGetValue entries key with
  | some items => if items.length = 0 then [] else items
  | none => []

def queryByLeft (map : ManyToManyMap L R) (left : L) : List R := query map.ltr left

def queryByRight (map : ManyToManyMap L R) (right : R) : List L := query map.rtl right

def rightExists (map : ManyToManyMap L R) (right : R) : Bool :=
  match tryGetValue map.rtl right with
  | some items => items.length ≠ 0
  | none => false

/-- `Exists`. -/
def existsPair (map : ManyToManyMap L R) (right : R) (left : L) : Bool :=
  match tryGetValue map.rtl right with
  | some items => left ∈ items
  | none => false

/-! ## The set of pairs -/

/-- Both indexes stand for the pairs, and hold no empty entry. -/
structure Represents (map : ManyToManyMap L R) (pairs : Set (L × R)) : Prop where
  leftValid : Valid map.ltr
  rightValid : Valid map.rtl
  left : ∀ left right, Has map.ltr left right ↔ (left, right) ∈ pairs
  right : ∀ left right, Has map.rtl right left ↔ (left, right) ∈ pairs

theorem represents_empty : Represents ({} : ManyToManyMap L R) ∅ where
  leftValid := ⟨List.nodup_nil, nofun⟩
  rightValid := ⟨List.nodup_nil, nofun⟩
  left _ _ := iff_of_false (not_has_of_none rfl _) id
  right _ _ := iff_of_false (not_has_of_none rfl _) id

variable {map : ManyToManyMap L R} {pairs : Set (L × R)}

theorem Represents.congr {others : Set (L × R)} (represents : Represents map pairs)
    (same : ∀ left right, (left, right) ∈ pairs ↔ (left, right) ∈ others) :
    Represents map others where
  leftValid := represents.leftValid
  rightValid := represents.rightValid
  left left right := (represents.left left right).trans (same left right)
  right left right := (represents.right left right).trans (same left right)

theorem Represents.add (represents : Represents map pairs) (left : L) (right : R) :
    Represents (map.add left right) (insert (left, right) pairs) where
  leftValid := represents.leftValid.addOrUpdate left right
  rightValid := represents.rightValid.addOrUpdate right left
  left otherLeft otherRight := by
    show Has (addOrUpdate left right map.ltr) otherLeft otherRight ↔ _
    rw [has_addOrUpdate, represents.left, Set.mem_insert_iff, Prod.mk.injEq, eq_comm (a := left)]
  right otherLeft otherRight := by
    show Has (addOrUpdate right left map.rtl) otherRight otherLeft ↔ _
    rw [has_addOrUpdate, represents.right, Set.mem_insert_iff, Prod.mk.injEq, eq_comm (a := right),
      and_comm (a := otherRight = right)]

/-- Both halves of a removal, in either order. -/
theorem Represents.removeBoth (represents : Represents map pairs) (left : L) (right : R) :
    Represents
      ⟨(discard setEquals map.ltr left right).1, (discard setEquals map.rtl right left).1⟩
      (pairs \ {(left, right)}) where
  leftValid := represents.leftValid.discard setEquals_self left right
  rightValid := represents.rightValid.discard setEquals_self right left
  left otherLeft otherRight := by
    rw [has_discard setEquals_self represents.leftValid, represents.left, Set.mem_sdiff,
      Set.mem_singleton_iff, Prod.mk.injEq, eq_comm (a := left)]
  right otherLeft otherRight := by
    rw [has_discard setEquals_self represents.rightValid, represents.right, Set.mem_sdiff,
      Set.mem_singleton_iff, Prod.mk.injEq, eq_comm (a := right),
      and_comm (a := otherRight = right)]

/-- The pairs of the left value leave the other index one by one. -/
theorem removeLeftFromRights (rtlOnly : ManyToManyMap L R) (valid : Valid rtlOnly.rtl) (left : L)
    (rights : List R) :
    let final := rights.foldl (fun map right => (map.removeLeftFromRight left right).1) rtlOnly
    final.ltr = rtlOnly.ltr ∧ Valid final.rtl ∧
      ∀ otherLeft otherRight, Has final.rtl otherRight otherLeft ↔
        Has rtlOnly.rtl otherRight otherLeft ∧ ¬(otherLeft = left ∧ otherRight ∈ rights) := by
  induction rights generalizing rtlOnly with
  | nil => exact ⟨rfl, valid, fun otherLeft otherRight => by simp⟩
  | cons right rights inductionHypothesis =>
      have next := valid.discard setEquals_self right left
      obtain ⟨kept, ends, has⟩ :=
        inductionHypothesis (rtlOnly.removeLeftFromRight left right).1 next
      refine ⟨kept, ends, fun otherLeft otherRight => ?_⟩
      rw [List.foldl_cons, has, show Has (rtlOnly.removeLeftFromRight left right).1.rtl _ _ ↔ _
        from has_discard setEquals_self valid right otherRight left otherLeft, List.mem_cons]
      constructor
      · rintro ⟨⟨before, differs⟩, later⟩
        refine ⟨before, ?_⟩
        rintro ⟨rfl, rfl | member⟩
        · exact differs ⟨rfl, rfl⟩
        · exact later ⟨rfl, member⟩
      · rintro ⟨before, absent⟩
        refine ⟨⟨before, fun both => absent ⟨both.2, .inl both.1.symm⟩⟩, ?_⟩
        exact fun both => absent ⟨both.1, .inr both.2⟩

/-- Without a pair of the left value there is an exception. -/
theorem Represents.removeLeft_error (represents : Represents map pairs) {left : L}
    (absent : ∀ right, (left, right) ∉ pairs) : map.removeLeft left = .error .nullReference := by
  cases found : tryGetValue map.ltr left with
  | none =>
      unfold ManyToManyMap.removeLeft
      rw [found]
  | some rights =>
      obtain ⟨right, isRight⟩ :=
        List.exists_mem_of_ne_nil rights (represents.leftValid.of_tryGetValue found).1
      rw [← has_of_tryGetValue found, represents.left] at isRight
      exact absurd isRight (absent right)

/-- A left value with a pair leaves all its pairs. -/
theorem Represents.removeLeft_ok (represents : Represents map pairs) {left : L}
    (present : ∃ right, (left, right) ∈ pairs) :
    ∃ next, map.removeLeft left = .ok next ∧ Represents next {pair ∈ pairs | pair.1 ≠ left} := by
  cases found : tryGetValue map.ltr left with
  | none =>
      obtain ⟨right, member⟩ := present
      exact absurd ((represents.left left right).mpr member) (not_has_of_none found right)
  | some rights =>
      have isPair : ∀ right, right ∈ rights ↔ (left, right) ∈ pairs := fun right => by
        rw [← represents.left, has_of_tryGetValue found]
      obtain ⟨kept, ends, has⟩ := removeLeftFromRights
        { map with ltr := removeKey map.ltr left } represents.rightValid left rights
      unfold ManyToManyMap.removeLeft
      rw [found]
      refine ⟨_, rfl, ?_, ends, ?_, ?_⟩
      · rw [kept]
        exact represents.leftValid.removeKey left
      · intro otherLeft otherRight
        rw [kept]
        show Has (removeKey map.ltr left) otherLeft otherRight ↔ _
        rw [has_removeKey represents.leftValid, represents.left, Set.mem_sep_iff, ne_comm]
      · intro otherLeft otherRight
        rw [has]
        show Has map.rtl otherRight otherLeft ∧ _ ↔ _
        rw [represents.right, isPair, Set.mem_sep_iff]
        constructor
        · rintro ⟨member, absent⟩
          exact ⟨member, fun same => absent ⟨same, same ▸ member⟩⟩
        · rintro ⟨member, differs⟩
          exact ⟨member, fun both => differs both.1⟩

/-! ## Queries -/

/-- The items are those with the property, each once. -/
def Lists {α : Type} (items : List α) (property : α → Prop) : Prop :=
  items.Nodup ∧ ∀ item, item ∈ items ↔ property item

theorem lists_query {κ β : Type} [DecidableEq κ] {entries : List (κ × List β)}
    (valid : Valid entries) (key : κ) : Lists (query entries key) (Has entries key) := by
  rw [query]
  cases found : tryGetValue entries key with
  | none =>
      exact ⟨List.nodup_nil, fun item => iff_of_false List.not_mem_nil (not_has_of_none found item)⟩
  | some items =>
      have proper := valid.of_tryGetValue found
      simp only [List.length_eq_zero_iff, proper.1, if_false]
      exact ⟨proper.2, fun item => (has_of_tryGetValue found item).symm⟩

theorem Lists.congr {α : Type} {items : List α} {property other : α → Prop}
    (lists : Lists items property) (same : ∀ item, property item ↔ other item) :
    Lists items other :=
  ⟨lists.1, fun item => (lists.2 item).trans (same item)⟩

theorem Represents.queryByLeft (represents : Represents map pairs) (left : L) :
    Lists (map.queryByLeft left) fun right => (left, right) ∈ pairs :=
  (lists_query represents.leftValid left).congr fun right => represents.left left right

theorem Represents.queryByRight (represents : Represents map pairs) (right : R) :
    Lists (map.queryByRight right) fun left => (left, right) ∈ pairs :=
  (lists_query represents.rightValid right).congr fun left => represents.right left right

theorem Represents.lefts (represents : Represents map pairs) :
    Lists map.lefts fun left => ∃ right, (left, right) ∈ pairs := by
  refine ⟨represents.leftValid.distinct, fun left => ?_⟩
  rw [ManyToManyMap.lefts, represents.leftValid.mem_keys_iff]
  exact exists_congr fun right => represents.left left right

theorem Represents.rights (represents : Represents map pairs) :
    Lists map.rights fun right => ∃ left, (left, right) ∈ pairs := by
  refine ⟨represents.rightValid.distinct, fun right => ?_⟩
  rw [ManyToManyMap.rights, represents.rightValid.mem_keys_iff]
  exact exists_congr fun left => represents.right left right

theorem Represents.existsPair (represents : Represents map pairs) (right : R) (left : L) :
    map.existsPair right left = true ↔ (left, right) ∈ pairs := by
  rw [← represents.right, ManyToManyMap.existsPair]
  cases found : tryGetValue map.rtl right with
  | none => exact iff_of_false nofun (not_has_of_none found left)
  | some items => rw [has_of_tryGetValue found, decide_eq_true_iff]

theorem Represents.rightExists (represents : Represents map pairs) (right : R) :
    map.rightExists right = true ↔ ∃ left, (left, right) ∈ pairs := by
  rw [← exists_congr fun left => represents.right left right, ManyToManyMap.rightExists]
  cases found : tryGetValue map.rtl right with
  | none => exact iff_of_false nofun fun ⟨left, has⟩ => not_has_of_none found left has
  | some items =>
      have proper := represents.rightValid.of_tryGetValue found
      apply iff_of_true
      · exact decide_eq_true fun zero => proper.1 (List.length_eq_zero_iff.mp zero)
      · obtain ⟨left, member⟩ := List.exists_mem_of_ne_nil items proper.1
        exact ⟨left, (has_of_tryGetValue found left).mpr member⟩

theorem Represents.removeLeftFromRight_snd (represents : Represents map pairs) (left : L)
    (right : R) : (map.removeLeftFromRight left right).2 = true ↔ (left, right) ∈ pairs := by
  rw [← represents.right]
  exact discard_snd setEquals map.rtl right left

/-! ## Operations -/

inductive Operation (L R : Type) where
  | add (left : L) (right : R)
  | remove (left : L) (right : R)
  | removeLeft (left : L)
  /-- `RemoveLeftFromRight` and `RemoveRightFromLeft`, this one first or second. -/
  | removeHalves (rightFirst : Bool) (left : L) (right : R)
  | queryByLeft (left : L)
  | queryByRight (right : R)
  | existsPair (right : R) (left : L)
  | rightExists (right : R)
  | lefts
  | rights
deriving Repr

inductive Answer (L R : Type) where
  | done
  | bool (answer : Bool)
  | lefts (answer : List L)
  | rights (answer : List R)
deriving Repr

def perform (map : ManyToManyMap L R) :
    Operation L R → Except Exn (ManyToManyMap L R × Answer L R)
  | .add left right => .ok (map.add left right, .done)
  | .remove left right =>
      let (map, found) := map.remove left right
      .ok (map, .bool found)
  | .removeLeft left => do
      let map ← map.removeLeft left
      pure (map, .done)
  | .removeHalves rightFirst left right =>
      if rightFirst then
        let (map, found) := (map.removeRightFromLeft left right).removeLeftFromRight left right
        .ok (map, .bool found)
      else
        let (map, found) := map.removeLeftFromRight left right
        .ok (map.removeRightFromLeft left right, .bool found)
  | .queryByLeft left => .ok (map, .rights (map.queryByLeft left))
  | .queryByRight right => .ok (map, .lefts (map.queryByRight right))
  | .existsPair right left => .ok (map, .bool (map.existsPair right left))
  | .rightExists right => .ok (map, .bool (map.rightExists right))
  | .lefts => .ok (map, .lefts map.lefts)
  | .rights => .ok (map, .rights map.rights)

/-- What an operation does to the set of pairs. -/
def after (pairs : Set (L × R)) : Operation L R → Set (L × R)
  | .add left right => insert (left, right) pairs
  | .remove left right | .removeHalves _ left right => pairs \ {(left, right)}
  | .removeLeft left => {pair ∈ pairs | pair.1 ≠ left}
  | .queryByLeft _ | .queryByRight _ | .existsPair _ _ | .rightExists _ | .lefts | .rights => pairs

/-- The answer is the one of the set of pairs. -/
def Correct (pairs : Set (L × R)) : Operation L R → Answer L R → Prop
  | .add _ _, answer | .removeLeft _, answer => answer = .done
  | .remove left right, answer | .removeHalves _ left right, answer
  | .existsPair right left, answer =>
      ∃ found, answer = .bool found ∧ (found = true ↔ (left, right) ∈ pairs)
  | .queryByLeft left, answer =>
      ∃ items, answer = .rights items ∧ Lists items fun right => (left, right) ∈ pairs
  | .queryByRight right, answer =>
      ∃ items, answer = .lefts items ∧ Lists items fun left => (left, right) ∈ pairs
  | .rightExists right, answer =>
      ∃ found, answer = .bool found ∧ (found = true ↔ ∃ left, (left, right) ∈ pairs)
  | .lefts, answer =>
      ∃ items, answer = .lefts items ∧ Lists items fun left => ∃ right, (left, right) ∈ pairs
  | .rights, answer =>
      ∃ items, answer = .rights items ∧ Lists items fun right => ∃ left, (left, right) ∈ pairs

/-- `RemoveLeft` is called for a value that is present. -/
def Permitted (pairs : Set (L × R)) : Operation L R → Prop
  | .removeLeft left => ∃ right, (left, right) ∈ pairs
  | _ => True

/-- The map and the set of pairs go along with each other. -/
def Refines : ManyToManyMap L R → Set (L × R) → List (Operation L R) → Prop
  | map, pairs, [] => Represents map pairs
  | map, pairs, operation :: operations =>
      Represents map pairs ∧
        (Permitted pairs operation →
          ∃ next answer, map.perform operation = .ok (next, answer) ∧
            Correct pairs operation answer ∧ Refines next (after pairs operation) operations)

theorem Represents.perform (represents : Represents map pairs) {operation : Operation L R}
    (permitted : Permitted pairs operation) :
    ∃ next answer, map.perform operation = .ok (next, answer) ∧
      Correct pairs operation answer ∧ Represents next (after pairs operation) := by
  cases operation with
  | add left right => exact ⟨_, _, rfl, rfl, represents.add left right⟩
  | remove left right =>
      exact ⟨_, _, rfl, ⟨_, rfl, represents.removeLeftFromRight_snd left right⟩,
        represents.removeBoth left right⟩
  | removeLeft left =>
      obtain ⟨next, isOk, represented⟩ := represents.removeLeft_ok permitted
      refine ⟨next, .done, ?_, rfl, represented⟩
      rw [ManyToManyMap.perform, isOk]
      rfl
  | removeHalves rightFirst left right =>
      cases rightFirst with
      | true =>
          exact ⟨_, _, rfl, ⟨_, rfl, represents.removeLeftFromRight_snd left right⟩,
            represents.removeBoth left right⟩
      | false =>
          exact ⟨_, _, rfl, ⟨_, rfl, represents.removeLeftFromRight_snd left right⟩,
            represents.removeBoth left right⟩
  | queryByLeft left => exact ⟨_, _, rfl, ⟨_, rfl, represents.queryByLeft left⟩, represents⟩
  | queryByRight right => exact ⟨_, _, rfl, ⟨_, rfl, represents.queryByRight right⟩, represents⟩
  | existsPair right left =>
      exact ⟨_, _, rfl, ⟨_, rfl, represents.existsPair right left⟩, represents⟩
  | rightExists right => exact ⟨_, _, rfl, ⟨_, rfl, represents.rightExists right⟩, represents⟩
  | lefts => exact ⟨_, _, rfl, ⟨_, rfl, represents.lefts⟩, represents⟩
  | rights => exact ⟨_, _, rfl, ⟨_, rfl, represents.rights⟩, represents⟩

theorem refines_of_represents (represents : Represents map pairs)
    (operations : List (Operation L R)) : Refines map pairs operations := by
  induction operations generalizing map pairs with
  | nil => exact represents
  | cons operation operations inductionHypothesis =>
      refine ⟨represents, fun permitted => ?_⟩
      obtain ⟨next, answer, isOk, correct, represented⟩ := represents.perform permitted
      exact ⟨next, answer, isOk, correct, inductionHypothesis represented⟩

/-- Behind any operations the map is the set of pairs, and every answer is that of the set. -/
theorem map_refines_pairs (operations : List (Operation L R)) :
    Refines ({} : ManyToManyMap L R) ∅ operations :=
  refines_of_represents represents_empty operations

end ManyToManyMap

end AzureSignalR.Emulator
