import Mathlib.Data.List.TakeDrop

/-!
Contract: asynchronous iterators that are enumerated to their end.

Owns: an iterator as the effects and the items that one `MoveNextAsync` after the other
brings about, the loop that passes on the items of another iterator up to a limit, and
what such a loop yields, throws and causes.

Does not own: what the effects are. Nothing happens before it is asked for, so what comes
behind a `yield break` does not happen.
-/

set_option autoImplicit false

namespace AzureSignalR.Library

/-- What an iterator does until it ends or throws. -/
inductive AsyncIterator (ω α ε : Type) where
  | done
  | throws (error : ε)
  | cause (effect : ω) (rest : AsyncIterator ω α ε)
  | yield (item : α) (rest : AsyncIterator ω α ε)

namespace AsyncIterator

variable {ω α ε : Type}

def yields : AsyncIterator ω α ε → List α
  | .done | .throws _ => []
  | .cause _ rest => rest.yields
  | .yield item rest => item :: rest.yields

def error? : AsyncIterator ω α ε → Option ε
  | .done => none
  | .throws error => some error
  | .cause _ rest | .yield _ rest => rest.error?

/-- The effects, each with the number of items that are yielded before it. -/
def effectsFrom (behind : Nat) : AsyncIterator ω α ε → List (Nat × ω)
  | .done | .throws _ => []
  | .cause effect rest => (behind, effect) :: rest.effectsFrom behind
  | .yield _ rest => rest.effectsFrom (behind + 1)

/-- `foreach` over a list, with `yield return` for every item. -/
def yieldAll (rest : AsyncIterator ω α ε) : List α → AsyncIterator ω α ε
  | [] => rest
  | item :: items => .yield item (yieldAll rest items)

section YieldAll

variable (rest : AsyncIterator ω α ε) (items : List α)

@[simp] theorem yields_yieldAll : (yieldAll rest items).yields = items ++ rest.yields := by
  induction items with
  | nil => rfl
  | cons item items inductionHypothesis =>
      rw [yieldAll, yields, inductionHypothesis, List.cons_append]

@[simp] theorem error?_yieldAll : (yieldAll rest items).error? = rest.error? := by
  induction items with
  | nil => rfl
  | cons item items inductionHypothesis =>
      rw [yieldAll, error?, inductionHypothesis]

@[simp] theorem effectsFrom_yieldAll (behind : Nat) :
    (yieldAll rest items).effectsFrom behind = rest.effectsFrom (behind + items.length) := by
  induction items generalizing behind with
  | nil => rfl
  | cons item items inductionHypothesis =>
      rw [yieldAll, effectsFrom, inductionHypothesis, List.length_cons]
      congr 1
      omega

end YieldAll

/-! ## Up to a limit -/

/-- The items that are left to a limit when some are yielded. -/
def remaining (limit : Option Nat) (count : Nat) : Option Nat := limit.map (· - count)

/-- As many items as a limit permits. -/
def upTo (limit : Option Nat) (items : List α) : List α :=
  match limit with
  | none => items
  | some count => items.take count

/-- More items than these are permitted. -/
def Below (count : Nat) : Option Nat → Prop
  | none => True
  | some limit => count < limit

instance (count : Nat) : (limit : Option Nat) → Decidable (Below count limit)
  | none => isTrue trivial
  | some limit => inferInstanceAs (Decidable (count < limit))

/-- Every item of an iterator is passed on, and the loop breaks with the last that the limit
permits; otherwise it goes on behind the iterator. -/
def passOn (next : Option Nat → AsyncIterator ω α ε) :
    AsyncIterator ω α ε → Option Nat → AsyncIterator ω α ε
  | .done, limit => next limit
  | .throws error, _ => .throws error
  | .cause effect rest, limit => .cause effect (passOn next rest limit)
  | .yield item rest, limit =>
      .yield item (if limit = some 1 then .done else passOn next rest (remaining limit 1))

section PassOn

variable {next : Option Nat → AsyncIterator ω α ε} {iterator : AsyncIterator ω α ε}
  {limit : Option Nat}

theorem remaining_zero : remaining limit 0 = limit := by
  cases limit <;> rfl

theorem remaining_remaining (first second : Nat) :
    remaining (remaining limit first) second = remaining limit (first + second) := by
  cases limit with
  | none => rfl
  | some count => exact congrArg some (Nat.sub_sub count first second)

theorem below_remaining (first second : Nat) :
    Below second (remaining limit first) ↔ Below (first + second) limit := by
  cases limit with
  | none => exact Iff.rfl
  | some count => exact Nat.lt_sub_iff_add_lt'

theorem upTo_append (first second : List α) :
    upTo limit (first ++ second) =
      upTo limit first ++ upTo (remaining limit first.length) second := by
  cases limit with
  | none => rfl
  | some count => exact List.take_append

theorem upTo_of_below {items : List α} (below : Below items.length limit) :
    upTo limit items = items := by
  cases limit with
  | none => rfl
  | some count => exact List.take_of_length_le (Nat.le_of_lt below)

theorem below_succ (count : Nat) : Below (count + 1) limit ↔ Below count (remaining limit 1) := by
  rw [below_remaining, Nat.add_comm]

theorem upTo_cons (positive : Below 0 limit) (item : α) (items : List α) :
    upTo limit (item :: items) = item :: upTo (remaining limit 1) items := by
  rw [← List.singleton_append, upTo_append, List.length_singleton]
  cases limit with
  | none => rfl
  | some count =>
      show [item].take count ++ _ = _
      rw [List.take_of_length_le positive]
      rfl

/-- A limit that is not reached with the next item. -/
theorem below_zero_remaining (positive : Below 0 limit) (more : limit ≠ some 1) :
    Below 0 (remaining limit 1) := by
  rw [below_remaining]
  cases limit with
  | none => trivial
  | some count =>
      have differs : count ≠ 1 := fun isOne => more (congrArg some isOne)
      show 1 < count
      exact Nat.lt_of_le_of_ne positive differs.symm

/-- An iterator that ends leaves the rest to what comes behind it, or reaches the limit. -/
theorem yields_passOn (ends : iterator.error? = none) (positive : Below 0 limit) :
    (passOn next iterator limit).yields =
      if Below iterator.yields.length limit then
        iterator.yields ++ (next (remaining limit iterator.yields.length)).yields
      else upTo limit iterator.yields := by
  induction iterator generalizing limit with
  | done =>
      rw [passOn, yields, List.length_nil, if_pos positive, remaining_zero, List.nil_append]
  | throws error => cases ends
  | cause effect rest inductionHypothesis => exact inductionHypothesis ends positive
  | yield item rest inductionHypothesis =>
      rw [passOn, yields, yields, List.length_cons, upTo_cons positive]
      by_cases isLast : limit = some 1
      · subst isLast
        rw [if_pos rfl, if_neg (by simp [Below])]
        rfl
      · rw [if_neg isLast, inductionHypothesis ends (below_zero_remaining positive isLast),
          remaining_remaining, Nat.add_comm 1]
        simp only [below_succ]
        split <;> rfl

theorem error?_passOn (ends : iterator.error? = none) (positive : Below 0 limit) :
    (passOn next iterator limit).error? =
      if Below iterator.yields.length limit then
        (next (remaining limit iterator.yields.length)).error?
      else none := by
  induction iterator generalizing limit with
  | done => rw [passOn, yields, List.length_nil, if_pos positive, remaining_zero]
  | throws error => cases ends
  | cause effect rest inductionHypothesis => exact inductionHypothesis ends positive
  | yield item rest inductionHypothesis =>
      rw [passOn, error?, yields, List.length_cons]
      by_cases isLast : limit = some 1
      · subst isLast
        rw [if_pos rfl, if_neg (by simp [Below])]
        rfl
      · rw [if_neg isLast, inductionHypothesis ends (below_zero_remaining positive isLast),
          remaining_remaining, Nat.add_comm 1]
        simp only [below_succ]

/-- An iterator that throws ends the loop, unless the limit is reached before. -/
theorem passOn_throws {error : ε} (throws : iterator.error? = some error)
    (positive : Below 0 limit) :
    (passOn next iterator limit).yields = upTo limit iterator.yields ∧
      (passOn next iterator limit).error? =
        if Below iterator.yields.length limit then some error else none := by
  induction iterator generalizing limit with
  | done => cases throws
  | throws other =>
      rw [passOn, yields, List.length_nil, if_pos positive, ← throws]
      refine ⟨?_, rfl⟩
      cases limit with
      | none => rfl
      | some count => exact List.take_nil.symm
  | cause effect rest inductionHypothesis => exact inductionHypothesis throws positive
  | yield item rest inductionHypothesis =>
      rw [passOn, yields, error?, yields, List.length_cons, upTo_cons positive]
      by_cases isLast : limit = some 1
      · subst isLast
        rw [if_pos rfl, if_neg (by simp [Below])]
        exact ⟨rfl, rfl⟩
      · obtain ⟨items, ends⟩ :=
          inductionHypothesis throws (below_zero_remaining positive isLast)
        rw [if_neg isLast, items, ends]
        refine ⟨rfl, ?_⟩
        simp only [below_succ]

/-- Nothing is caused behind the last item that the limit permits. -/
theorem exists_effects_passOn (ends : iterator.error? = none) (positive : Below 0 limit)
    (behind : Nat) :
    ∃ caused, caused <+: iterator.effectsFrom behind ∧
      (∀ entry ∈ caused, behind ≤ entry.1 ∧ Below (entry.1 - behind) limit) ∧
      (passOn next iterator limit).effectsFrom behind =
        caused ++ if Below iterator.yields.length limit then
          (next (remaining limit iterator.yields.length)).effectsFrom
            (behind + iterator.yields.length)
        else [] := by
  induction iterator generalizing limit behind with
  | done =>
      refine ⟨[], List.prefix_refl _, by nofun, ?_⟩
      rw [passOn, yields, List.length_nil, if_pos positive, remaining_zero]
      rfl
  | throws error => cases ends
  | cause effect rest inductionHypothesis =>
      obtain ⟨caused, isPrefix, below, caught⟩ := inductionHypothesis ends positive behind
      refine ⟨(behind, effect) :: caused, (List.prefix_cons_inj _).mpr isPrefix, ?_, ?_⟩
      · intro entry member
        rcases List.mem_cons.mp member with rfl | later
        · exact ⟨Nat.le_refl _, (Nat.sub_self behind).symm ▸ positive⟩
        · exact below entry later
      · rw [passOn, effectsFrom, caught]
        rfl
  | yield item rest inductionHypothesis =>
      rw [passOn, effectsFrom, effectsFrom, yields, List.length_cons]
      by_cases isLast : limit = some 1
      · subst isLast
        rw [if_pos rfl, if_neg (by simp [Below])]
        exact ⟨[], List.nil_prefix, by nofun, rfl⟩
      · obtain ⟨caused, isPrefix, below, caught⟩ :=
          inductionHypothesis ends (below_zero_remaining positive isLast) (behind + 1)
        refine ⟨caused, isPrefix, ?_, ?_⟩
        · intro entry member
          obtain ⟨old, isBelow⟩ := below entry member
          refine ⟨Nat.le_of_succ_le old, ?_⟩
          rw [below_remaining] at isBelow
          rwa [show entry.1 - behind = 1 + (entry.1 - (behind + 1)) by omega]
        · rw [if_neg isLast, caught, remaining_remaining, Nat.add_comm 1, Nat.add_assoc behind 1,
            Nat.add_comm 1]
          simp only [below_succ]

end PassOn

end AsyncIterator

end AzureSignalR.Library
