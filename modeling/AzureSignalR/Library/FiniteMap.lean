import Mathlib.Data.Setoid.Basic

/-!
Contract: finite maps under an equality of keys, and lists of entries that stand for them.

Owns: writing into a map, looking a key up in a list of entries, and lists in which no key occurs
twice.

Does not own: how entries are stored. Keys are equal as their setoid says.
-/

set_option autoImplicit false

namespace AzureSignalR.Library.FiniteMap

variable {κ ν : Type} [Setoid κ] [DecidableRel (α := κ) (· ≈ ·)]

/-- The map with a value for a key. -/
def write (map : κ → Option ν) (key : κ) (value : ν) : κ → Option ν :=
  fun other => if key ≈ other then some value else map other

/-- The value of the first entry with an equal key. -/
def lookup (entries : List (κ × ν)) (key : κ) : Option ν :=
  (entries.find? fun entry => key ≈ entry.1).map Prod.snd

omit [DecidableRel (α := κ) (· ≈ ·)] in
/-- No key occurs twice. -/
def Distinct (entries : List (κ × ν)) : Prop :=
  entries.Pairwise fun first second => ¬ first.1 ≈ second.1

instance : DecidablePred (Distinct (κ := κ) (ν := ν)) := fun entries =>
  inferInstanceAs (Decidable (entries.Pairwise fun first second => ¬ first.1 ≈ second.1))

theorem lookup_cons (entry : κ × ν) (entries : List (κ × ν)) (key : κ) :
    lookup (entry :: entries) key =
      if key ≈ entry.1 then some entry.2 else lookup entries key := by
  rw [lookup, List.find?_cons]
  by_cases same : key ≈ entry.1
  · rw [if_pos same, decide_eq_true same]
    rfl
  · rw [if_neg same, decide_eq_false same]
    rfl

theorem lookup_append (first second : List (κ × ν)) (key : κ) :
    lookup (first ++ second) key = (lookup first key).or (lookup second key) := by
  induction first with
  | nil => rfl
  | cons entry first inductionHypothesis =>
      rw [List.cons_append, lookup_cons, lookup_cons, inductionHypothesis]
      split_ifs
      · rfl
      · rfl

theorem lookup_eq_none_iff {entries : List (κ × ν)} {key : κ} :
    lookup entries key = none ↔ ∀ entry ∈ entries, ¬ key ≈ entry.1 := by
  rw [lookup, Option.map_eq_none_iff, List.find?_eq_none]
  exact forall₂_congr fun entry _ => not_congr decide_eq_true_iff

/-- Without repeated keys, every entry is found. -/
theorem lookup_eq_some_iff {entries : List (κ × ν)} (distinct : Distinct entries) {key : κ}
    {value : ν} : lookup entries key = some value ↔
      ∃ entry ∈ entries, key ≈ entry.1 ∧ entry.2 = value := by
  induction entries with
  | nil => exact iff_of_false nofun fun ⟨_, member, _⟩ => nomatch member
  | cons entry entries inductionHypothesis =>
      obtain ⟨differs, others⟩ := List.pairwise_cons.mp distinct
      rw [lookup_cons]
      split_ifs with same
      · constructor
        · intro isValue
          exact ⟨entry, List.mem_cons_self, same, Option.some.inj isValue⟩
        · rintro ⟨other, member, also, rfl⟩
          rcases List.mem_cons.mp member with rfl | later
          · rfl
          · exact absurd (Setoid.trans (Setoid.symm same) also) (differs other later)
      · rw [inductionHypothesis others]
        constructor
        · rintro ⟨other, member, also⟩
          exact ⟨other, List.mem_cons_of_mem _ member, also⟩
        · rintro ⟨other, member, also, isValue⟩
          rcases List.mem_cons.mp member with rfl | later
          · exact absurd also same
          · exact ⟨other, later, also, isValue⟩

/-- Equal keys have the same value. -/
theorem lookup_congr (entries : List (κ × ν)) {key other : κ} (same : key ≈ other) :
    lookup entries key = lookup entries other := by
  induction entries with
  | nil => rfl
  | cons entry entries inductionHypothesis =>
      rw [lookup_cons, lookup_cons, inductionHypothesis]
      by_cases found : key ≈ entry.1
      · rw [if_pos found, if_pos (Setoid.trans (Setoid.symm same) found)]
      · rw [if_neg found, if_neg fun also => found (Setoid.trans same also)]

/-- An entry with a new key at the end. -/
theorem lookup_append_singleton {entries : List (κ × ν)} {key : κ} (value : ν)
    (absent : lookup entries key = none) :
    lookup (entries ++ [(key, value)]) = write (lookup entries) key value := by
  funext other
  rw [lookup_append, lookup_cons, write]
  by_cases same : key ≈ other
  · rw [if_pos same, if_pos (Setoid.symm same), ← lookup_congr entries same, absent]
    rfl
  · rw [if_neg same, if_neg fun also => same (Setoid.symm also)]
    exact Option.or_none

/-- Another value in the first entry with an equal key. -/
theorem lookup_replace {before : List (κ × ν)} {key stored : κ} (value old : ν)
    (after : List (κ × ν)) (absent : lookup before key = none) (same : key ≈ stored) :
    lookup (before ++ (stored, value) :: after) =
      write (lookup (before ++ (stored, old) :: after)) key value := by
  funext other
  rw [lookup_append, lookup_cons, write, lookup_append, lookup_cons]
  by_cases isKey : key ≈ other
  · rw [if_pos isKey, if_pos (Setoid.trans (Setoid.symm isKey) same), ← lookup_congr before isKey,
      absent]
    rfl
  · have differs : ¬ other ≈ stored := fun also =>
      isKey (Setoid.trans same (Setoid.symm also))
    rw [if_neg isKey, if_neg differs, if_neg differs]

theorem Distinct.append_singleton {entries : List (κ × ν)} (distinct : Distinct entries)
    {key : κ} (value : ν) (absent : lookup entries key = none) :
    Distinct (entries ++ [(key, value)]) := by
  refine List.pairwise_append.mpr ⟨distinct, List.pairwise_singleton _ _, ?_⟩
  intro entry member other isLast same
  rw [List.mem_singleton.mp isLast] at same
  exact lookup_eq_none_iff.1 absent entry member (Setoid.symm same)

omit [DecidableRel (α := κ) (· ≈ ·)] in
/-- It is a matter of the keys alone. -/
theorem distinct_iff {entries : List (κ × ν)} :
    Distinct entries ↔ (entries.map Prod.fst).Pairwise fun first second => ¬ first ≈ second := by
  rw [List.pairwise_map]
  rfl

end AzureSignalR.Library.FiniteMap
