import Mathlib.Data.Finset.Card
import Mathlib.Data.Nat.ModEq

/-!
Contract: walks around a cycle of positions with a stride.

Owns: where a walk stands after some steps, and that a walk whose stride is coprime to the number
of positions comes to each of them once.

Does not own: what stands at a position.
-/

set_option autoImplicit false

namespace AzureSignalR.Library.CyclicWalk

variable {count stride start : Nat}

def place (count stride start step : Nat) : Nat := (start + step * stride) % count

theorem place_lt (positive : 0 < count) (stride start step : Nat) :
    place count stride start step < count :=
  Nat.mod_lt _ positive

theorem place_zero (inside : start < count) : place count stride start 0 = start := by
  rw [place, Nat.zero_mul, Nat.add_zero, Nat.mod_eq_of_lt inside]

theorem place_succ (count stride start step : Nat) :
    place count stride start (step + 1) = (place count stride start step + stride) % count := by
  rw [place, place, Nat.mod_add_mod, Nat.succ_mul, Nat.add_assoc]

/-- Within one round no position comes twice. -/
theorem place_inj (coprime : count.Coprime stride) {step other : Nat} (inside : step < count)
    (otherInside : other < count)
    (same : place count stride start step = place count stride start other) : step = other := by
  have sums : start + step * stride ≡ start + other * stride [MOD count] := same
  have products : step * stride ≡ other * stride [MOD count] :=
    Nat.ModEq.add_left_cancel' start sums
  exact (Nat.ModEq.cancel_right_of_coprime coprime products).eq_of_lt_of_lt inside otherInside

/-- Within one round every position comes. -/
theorem exists_place (start : Nat) (coprime : count.Coprime stride) {target : Nat}
    (inside : target < count) : ∃ step < count, place count stride start step = target := by
  have positive : 0 < count := by omega
  have onto := Finset.surjOn_of_injOn_of_card_le (s := Finset.range count)
    (t := Finset.range count) (place count stride start)
    (fun step _ => Finset.mem_coe.2 (Finset.mem_range.2 (place_lt positive _ _ step)))
    (fun step member other otherMember same =>
      place_inj coprime (Finset.mem_range.1 (Finset.mem_coe.1 member))
        (Finset.mem_range.1 (Finset.mem_coe.1 otherMember)) same)
    (le_refl _)
  obtain ⟨step, member, isTarget⟩ := onto (Finset.mem_coe.2 (Finset.mem_range.2 inside))
  exact ⟨step, Finset.mem_range.1 (Finset.mem_coe.1 member), isTarget⟩

/-- One step back is a stride like one step forward. -/
theorem coprime_back (positive : 0 < count) : count.Coprime (count - 1) := by
  obtain ⟨before, rfl⟩ : ∃ before, count = before + 1 := ⟨count - 1, by omega⟩
  rw [Nat.add_sub_cancel, Nat.coprime_self_add_left]
  exact Nat.coprime_one_left before

/-! ## The positions in order -/

/-- The positions of some steps, the first of which has the given number. -/
def places (count stride start first steps : Nat) : List Nat :=
  (List.range' first steps).map (place count stride start)

theorem places_succ (count stride start first steps : Nat) :
    places count stride start first (steps + 1) =
      place count stride start first :: places count stride start (first + 1) steps := rfl

theorem lt_of_mem_places (positive : 0 < count) {first steps position : Nat}
    (member : position ∈ places count stride start first steps) : position < count := by
  obtain ⟨step, -, rfl⟩ := List.mem_map.1 member
  exact place_lt positive _ _ step

theorem places_nodup (coprime : count.Coprime stride) :
    (places count stride start 0 count).Nodup := by
  apply List.Nodup.map_on _ List.nodup_range'
  intro step member other otherMember same
  simp only [List.mem_range'_1] at member otherMember
  exact place_inj coprime (by omega) (by omega) same

theorem mem_places (coprime : count.Coprime stride) {target : Nat} (inside : target < count) :
    target ∈ places count stride start 0 count := by
  obtain ⟨step, within, isTarget⟩ := exists_place start coprime inside
  apply List.mem_map.2
  refine ⟨step, ?_, isTarget⟩
  rw [List.mem_range'_1]
  omega

end AzureSignalR.Library.CyclicWalk
