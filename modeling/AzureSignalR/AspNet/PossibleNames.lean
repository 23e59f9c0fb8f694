import AzureSignalR.Library.Framing
import Mathlib.Data.List.Induction
import Mathlib.Data.List.Nodup

/-!
Contract: the hubs and names that a qualified name can stand for.

Owns: the hub sets of `SignalRMessageParser` and `GetPossibleNames`.

Does not own: the messages that the names are used in. Strings are compared ordinally.
-/

set_option autoImplicit false

namespace AzureSignalR.AspNet.PossibleNames

open Library (splitAtSeparator splitAtSeparator_append splitAtSeparator_eq_none
  splitAtSeparator_eq_some)

abbrev Text := List Char

def dotChar : Char := '.'

inductive Failure where
  | invalidData (message : String)
deriving DecidableEq, Repr

/-- `HashSet.Add`; nothing is removed, so the set is gone over in the order of its additions. -/
def hashSetAdd (set : List Text) (item : Text) : List Text :=
  if item ∈ set then set else set ++ [item]

/-- The hub sets, in which no hub occurs twice. -/
structure Hubs where
  hubNameWithDots : List Text := []
  hubs : List Text := []
deriving DecidableEq, Repr

/-- The loop of the constructor. -/
def Hubs.add (sets : Hubs) (hub : Text) : Hubs where
  hubNameWithDots :=
    if dotChar ∈ hub then hashSetAdd sets.hubNameWithDots hub else sets.hubNameWithDots
  hubs := hashSetAdd sets.hubs hub

def hubSets (hubs : List Text) : Hubs := hubs.foldl Hubs.add {}

/-- The rest of the name behind a hub with dots and a dot, if it is not empty. -/
def nameBehind (fullName hub : Text) : Option (Text × Text) :=
  if hub.length + 1 < fullName.length ∧ fullName[hub.length]? = some dotChar ∧
      hub = fullName.take hub.length then
    some (hub, fullName.drop (hub.length + 1))
  else none

def getPossibleNames (sets : Hubs) (fullName : Text) : Except Failure (List (Text × Text)) :=
  match splitAtSeparator dotChar fullName with
  | none =>
      .error (.invalidData ("Name " ++ String.ofList fullName ++
        " does not contain the required separator " ++ String.singleton dotChar))
  | some (hubName, name) =>
      .ok (sets.hubNameWithDots.filterMap (nameBehind fullName) ++
        if hubName ∈ sets.hubs then [(hubName, name)] else [])

/-! ## The hub sets -/

theorem mem_hashSetAdd {set : List Text} {item other : Text} :
    other ∈ hashSetAdd set item ↔ other ∈ set ∨ other = item := by
  rw [hashSetAdd]
  split_ifs with known
  · exact ⟨.inl, fun found => found.elim id fun same => same ▸ known⟩
  · rw [List.mem_append, List.mem_singleton]

theorem nodup_hashSetAdd {set : List Text} (nodup : set.Nodup) (item : Text) :
    (hashSetAdd set item).Nodup := by
  rw [hashSetAdd]
  split_ifs with known
  · exact nodup
  · exact List.nodup_append.mpr ⟨nodup, List.nodup_singleton item, fun other member last isLast =>
      fun same => known (List.mem_singleton.mp isLast ▸ same ▸ member)⟩

/-- The sets have the hubs, and those with a dot, each once. -/
structure Hubs.Holds (sets : Hubs) (hubs : List Text) : Prop where
  nodup : sets.hubNameWithDots.Nodup
  dotted : ∀ hub, hub ∈ sets.hubNameWithDots ↔ hub ∈ hubs ∧ dotChar ∈ hub
  all : ∀ hub, hub ∈ sets.hubs ↔ hub ∈ hubs

theorem Hubs.Holds.add {sets : Hubs} {hubs : List Text} (holds : sets.Holds hubs) (hub : Text) :
    (sets.add hub).Holds (hubs ++ [hub]) := by
  have either : ∀ other, other ∈ hubs ++ [hub] ↔ other ∈ hubs ∨ other = hub := fun other => by
    rw [List.mem_append, List.mem_singleton]
  constructor
  · show (if dotChar ∈ hub then _ else _ : List Text).Nodup
    split_ifs
    · exact nodup_hashSetAdd holds.nodup hub
    · exact holds.nodup
  · intro other
    show other ∈ (if dotChar ∈ hub then _ else _ : List Text) ↔ _
    rw [either]
    split_ifs with dotted
    · rw [mem_hashSetAdd, holds.dotted, or_and_right]
      exact or_congr_right ⟨fun same => ⟨same, same ▸ dotted⟩, And.left⟩
    · rw [holds.dotted, or_and_right]
      exact ⟨.inl, fun found => found.elim id fun new => absurd (new.1 ▸ new.2) dotted⟩
  · intro other
    rw [either, ← holds.all]
    exact mem_hashSetAdd

theorem holds_hubSets (hubs : List Text) : (hubSets hubs).Holds hubs := by
  induction hubs using List.reverseRecOn with
  | nil => exact ⟨List.nodup_nil, fun hub => iff_of_false nofun nofun, fun hub => Iff.rfl⟩
  | append_singleton hubs hub inductionHypothesis =>
      rw [hubSets, List.foldl_concat]
      exact inductionHypothesis.add hub

/-! ## The names -/

section Names

variable {hubs : List Text} {fullName hub user : Text}

/-- A hub with dots is cut off where it and a dot stand in front of something. -/
theorem nameBehind_eq_some {pair : Text × Text} : nameBehind fullName hub = some pair ↔
    pair.1 = hub ∧ pair.2 ≠ [] ∧ hub ++ dotChar :: pair.2 = fullName := by
  rw [nameBehind]
  constructor
  · intro cut
    split_ifs at cut with fits
    cases cut
    obtain ⟨longer, isDot, isHub⟩ := fits
    refine ⟨rfl, ?_, ?_⟩
    · intro empty
      rw [List.drop_eq_nil_iff] at empty
      omega
    · have inside : hub.length < fullName.length := by omega
      have atDot := List.drop_eq_getElem_cons inside
      rw [List.getElem?_eq_getElem inside, Option.some.injEq] at isDot
      rw [isDot] at atDot
      show hub ++ dotChar :: fullName.drop (hub.length + 1) = fullName
      rw [← atDot]
      exact (congrArg (· ++ fullName.drop hub.length) isHub).trans (List.take_append_drop _ _)
  · obtain ⟨first, second⟩ := pair
    rintro ⟨rfl, nonempty, rfl⟩
    have positive : 0 < second.length := List.length_pos_iff.mpr nonempty
    have longer : first.length + 1 < (first ++ dotChar :: second).length := by
      rw [List.length_append, List.length_cons]
      omega
    have isDot : (first ++ dotChar :: second)[first.length]? = some dotChar := by
      rw [List.getElem?_append_right (Nat.le_refl _), Nat.sub_self]
      rfl
    have behind : (first ++ dotChar :: second).drop (first.length + 1) = second := by
      rw [List.drop_append, List.drop_eq_nil_of_le (Nat.le_succ _), Nat.add_sub_cancel_left]
      rfl
    rw [if_pos ⟨longer, isDot, (List.take_left' rfl).symm⟩, behind]

theorem getPossibleNames_eq {hubName name : Text} (sets : Hubs) (separates : dotChar ∉ hubName) :
    getPossibleNames sets (hubName ++ dotChar :: name) =
      .ok (sets.hubNameWithDots.filterMap (nameBehind (hubName ++ dotChar :: name)) ++
        if hubName ∈ sets.hubs then [(hubName, name)] else []) := by
  rw [getPossibleNames, splitAtSeparator_append separates]

/-- The names behind the hubs with dots. -/
theorem mem_dotted {sets : Hubs} (holds : sets.Holds hubs) :
    (hub, user) ∈ sets.hubNameWithDots.filterMap (nameBehind fullName) ↔
      (hub ∈ hubs ∧ dotChar ∈ hub) ∧ user ≠ [] ∧ hub ++ dotChar :: user = fullName := by
  rw [List.mem_filterMap]
  constructor
  · rintro ⟨other, member, cut⟩
    obtain ⟨rfl, rest⟩ := nameBehind_eq_some.1 cut
    exact ⟨(holds.dotted _).mp member, rest⟩
  · rintro ⟨known, rest⟩
    exact ⟨hub, (holds.dotted hub).mpr known, nameBehind_eq_some.2 ⟨rfl, rest⟩⟩

theorem nodup_dotted {sets : Hubs} (holds : sets.Holds hubs) (fullName : Text) :
    (sets.hubNameWithDots.filterMap (nameBehind fullName)).Nodup := by
  refine holds.nodup.filterMap fun first second pair isFirst isSecond => ?_
  have one := (nameBehind_eq_some.1 isFirst).1
  have two := (nameBehind_eq_some.1 isSecond).1
  exact one.symm.trans two

end Names

/-- A name with a dot has, each once, the registered hubs it can be cut behind, and no other
pairs. -/
theorem possible_names (hubs : List Text) {fullName : Text} (separated : dotChar ∈ fullName) :
    ∃ names, getPossibleNames (hubSets hubs) fullName = .ok names ∧ names.Nodup ∧
      (∀ hub user, hub ∈ hubs → user ≠ [] → hub ++ dotChar :: user = fullName →
        (hub, user) ∈ names) ∧
      ∀ hub user, (hub, user) ∈ names → hub ∈ hubs ∧ hub ++ dotChar :: user = fullName := by
  have holds := holds_hubSets hubs
  obtain ⟨hubName, name, rfl, separates⟩ := List.eq_append_cons_of_mem separated
  refine ⟨_, getPossibleNames_eq _ separates, ?_, ?_, ?_⟩
  · refine List.nodup_append.mpr ⟨nodup_dotted holds _, ?_, ?_⟩
    · split_ifs
      · exact List.nodup_singleton _
      · exact List.nodup_nil
    · rintro ⟨hub, user⟩ dotted other plain rfl
      split_ifs at plain
      · cases List.mem_singleton.mp plain
        exact separates ((mem_dotted holds).mp dotted).1.2
      · cases plain
  · intro hub user known nonempty isName
    by_cases dotted : dotChar ∈ hub
    · exact List.mem_append_left _ ((mem_dotted holds).mpr ⟨⟨known, dotted⟩, nonempty, isName⟩)
    · -- The first dot of the name stands behind the hub.
      have isSplit := splitAtSeparator_append dotted user
      rw [isName, splitAtSeparator_append separates] at isSplit
      cases isSplit
      refine List.mem_append_right _ ?_
      rw [if_pos ((holds.all _).mpr known)]
      exact List.mem_singleton_self _
  · intro hub user member
    rcases List.mem_append.mp member with dotted | plain
    · obtain ⟨known, -, isName⟩ := (mem_dotted holds).mp dotted
      exact ⟨known.1, isName⟩
    · split_ifs at plain with known
      · cases List.mem_singleton.mp plain
        exact ⟨(holds.all hubName).mp known, rfl⟩
      · cases plain

theorem possible_names_dotted :
    ∃ names, getPossibleNames (hubSets ["chat".toList, "chat.room".toList]) "chat.room.a".toList =
      .ok names ∧ ("chat".toList, "room.a".toList) ∈ names ∧
        ("chat.room".toList, "a".toList) ∈ names := by
  obtain ⟨names, isNames, -, complete, -⟩ :=
    possible_names ["chat".toList, "chat.room".toList]
      (show dotChar ∈ "chat.room.a".toList by decide)
  exact ⟨names, isNames, complete _ _ (by decide) (by decide) (by decide),
    complete _ _ (by decide) (by decide) (by decide)⟩

end AzureSignalR.AspNet.PossibleNames
