import Mathlib.Algebra.GroupWithZero.Nat
import Mathlib.Data.List.Basic

/-!
Contract: a choice among weights by running totals, and how often each weight is chosen.

Owns: running totals, the search for the last item with a property, and the count of the draws
that choose a position.

Does not own: what the weights are of, and how wide the numbers are that count them.
-/

set_option autoImplicit false

namespace AzureSignalR.Library.WeightedChoice

/-- The totals behind each weight. -/
def totals (start : Nat) : List Nat → List Nat
  | [] => []
  | weight :: weights => (start + weight) :: totals (start + weight) weights

/-- The position of the last item with the property, or -1. -/
def findLastIndex {α : Type} (property : α → Bool) : List α → Int
  | [] => -1
  | item :: items =>
      if 0 ≤ findLastIndex property items then findLastIndex property items + 1
      else if property item then 0
      else -1

/-- The position behind the last total that is not above the draw. -/
def chosen (start : Nat) (weights : List Nat) (draw : Nat) : Nat :=
  (findLastIndex (fun total => total ≤ draw) (totals start weights) + 1).toNat

theorem findLastIndex_ge {α : Type} (property : α → Bool) (items : List α) :
    -1 ≤ findLastIndex property items := by
  induction items with
  | nil => exact Int.le_refl _
  | cons item items inductionHypothesis =>
      rw [findLastIndex]
      split_ifs
      · omega
      · omega
      · omega

theorem findLastIndex_of_none {α : Type} {property : α → Bool} {items : List α}
    (none : ∀ item ∈ items, property item = false) : findLastIndex property items = -1 := by
  induction items with
  | nil => rfl
  | cons item items inductionHypothesis =>
      have others := inductionHypothesis fun other member =>
        none other (List.mem_cons_of_mem _ member)
      rw [findLastIndex, others, none item List.mem_cons_self]
      rfl

theorem le_of_mem_totals {start total : Nat} {weights : List Nat}
    (member : total ∈ totals start weights) : start ≤ total := by
  induction weights generalizing start with
  | nil => exact absurd member List.not_mem_nil
  | cons weight weights inductionHypothesis =>
      rcases List.mem_cons.mp member with rfl | later
      · exact Nat.le_add_right _ _
      · exact Nat.le_trans (Nat.le_add_right _ _) (inductionHypothesis later)

/-- A draw below the first total chooses the first position; any other is left to the rest. -/
theorem chosen_cons (start weight : Nat) (weights : List Nat) (draw : Nat) :
    chosen start (weight :: weights) draw =
      if start + weight ≤ draw then chosen (start + weight) weights draw + 1 else 0 := by
  rw [chosen, chosen, totals, findLastIndex]
  have atLeast := findLastIndex_ge (fun total => decide (total ≤ draw))
    (totals (start + weight) weights)
  by_cases above : start + weight ≤ draw
  · simp only [above, decide_true, if_true]
    split_ifs
    · omega
    · omega
  · have none : findLastIndex (fun total => decide (total ≤ draw))
        (totals (start + weight) weights) = -1 := by
      apply findLastIndex_of_none
      intro total member
      have atLeastStart := le_of_mem_totals member
      exact decide_eq_false (by omega)
    rw [none]
    simp [above]

theorem chosen_lt {start draw : Nat} {weights : List Nat} (fromStart : start ≤ draw)
    (below : draw < start + weights.sum) : chosen start weights draw < weights.length := by
  induction weights generalizing start with
  | nil =>
      rw [List.sum_nil] at below
      omega
  | cons weight weights inductionHypothesis =>
      rw [chosen_cons, List.length_cons]
      rw [List.sum_cons] at below
      split_ifs with above
      · have inside := inductionHypothesis above (by omega)
        omega
      · omega

/-- Among the draws up to the total, a position is chosen as often as its weight says. -/
theorem countP_chosen (start : Nat) (weights : List Nat) (position : Nat)
    (inside : position < weights.length) :
    (List.range' start weights.sum).countP (fun draw => chosen start weights draw = position) =
      weights[position] := by
  induction weights generalizing start position with
  | nil => exact absurd inside (Nat.not_lt_zero _)
  | cons weight weights inductionHypothesis =>
      have parts : List.range' start (weight :: weights).sum =
          List.range' start weight ++ List.range' (start + weight) weights.sum := by
        rw [List.sum_cons, ← List.range'_append_1]
      have first : ∀ draw ∈ List.range' start weight,
          chosen start (weight :: weights) draw = 0 := by
        intro draw member
        rw [chosen_cons, if_neg]
        have bounds := List.mem_range'_1.mp member
        omega
      have second : ∀ draw ∈ List.range' (start + weight) weights.sum,
          chosen start (weight :: weights) draw = chosen (start + weight) weights draw + 1 := by
        intro draw member
        rw [chosen_cons, if_pos]
        exact (List.mem_range'_1.mp member).1
      rw [parts, List.countP_append]
      cases position with
      | zero =>
          have all : (List.range' start weight).countP
              (fun draw => chosen start (weight :: weights) draw = 0) = weight := by
            rw [List.countP_eq_length.mpr, List.length_range']
            exact fun draw member => decide_eq_true (first draw member)
          have none : (List.range' (start + weight) weights.sum).countP
              (fun draw => chosen start (weight :: weights) draw = 0) = 0 := by
            rw [List.countP_eq_zero]
            intro draw member
            simp [second draw member]
          rw [all, none]
          rfl
      | succ position =>
          have within : position < weights.length := Nat.lt_of_succ_lt_succ inside
          have none : (List.range' start weight).countP
              (fun draw => chosen start (weight :: weights) draw = position + 1) = 0 := by
            rw [List.countP_eq_zero]
            intro draw member
            simp [first draw member]
          have rest : (List.range' (start + weight) weights.sum).countP
              (fun draw => chosen start (weight :: weights) draw = position + 1) =
                weights[position] := by
            rw [← inductionHypothesis (start + weight) position within]
            apply List.countP_congr
            intro draw member
            simp [second draw member]
          rw [none, rest, Nat.zero_add]
          rfl

end AzureSignalR.Library.WeightedChoice
