import Mathlib.Algebra.GroupWithZero.Nat
import Mathlib.Data.List.Basic

/-!
Contract: a sequence of items that lies in several segments.

Owns: the items of a sequence, its length, its first segment and its slices, and that a slice has
the items of the same slice of the one list.

Does not own: what the items are.
-/

set_option autoImplicit false

namespace AzureSignalR.Library

/-- A sequence, in the segments that it lies in; any of them may be empty. -/
structure Segments (β : Type) where
  segments : List (List β)
deriving DecidableEq, Repr

namespace Segments

variable {β : Type}

def toList (sequence : Segments β) : List β := sequence.segments.flatten

def length (sequence : Segments β) : Nat := (sequence.segments.map List.length).sum

def isSingle (sequence : Segments β) : Bool := sequence.segments.length ≤ 1

def first (sequence : Segments β) : List β := sequence.segments.headD []

/-- The segments that stand in one list. -/
def of (items : List β) : Segments β := ⟨[items]⟩

/-- Segments that are passed over are gone. -/
def dropFrom : Nat → List (List β) → List (List β)
  | _, [] => []
  | count, segment :: segments =>
      if count < segment.length then segment.drop count :: segments
      else dropFrom (count - segment.length) segments

def takeFrom : Nat → List (List β) → List (List β)
  | _, [] => []
  | count, segment :: segments =>
      if count ≤ segment.length then [segment.take count]
      else segment :: takeFrom (count - segment.length) segments

def drop (sequence : Segments β) (count : Nat) : Segments β :=
  ⟨dropFrom count sequence.segments⟩

def take (sequence : Segments β) (count : Nat) : Segments β :=
  ⟨takeFrom count sequence.segments⟩

@[simp] theorem toList_of (items : List β) : (of items).toList = items := by
  show [items].flatten = items
  rw [List.flatten_singleton]

@[simp] theorem length_toList (sequence : Segments β) :
    sequence.toList.length = sequence.length :=
  List.length_flatten

theorem flatten_dropFrom (count : Nat) (segments : List (List β)) :
    (dropFrom count segments).flatten = segments.flatten.drop count := by
  induction segments generalizing count with
  | nil =>
      rw [dropFrom, List.flatten_nil, List.drop_nil]
  | cons segment segments inductionHypothesis =>
      rw [dropFrom]
      split_ifs with inside
      · rw [List.flatten_cons, List.flatten_cons, List.drop_append_of_le_length (by omega)]
      · have past : segment.length ≤ count := by omega
        rw [inductionHypothesis, List.flatten_cons, List.drop_append,
          List.drop_of_length_le past, List.nil_append]

theorem flatten_takeFrom (count : Nat) (segments : List (List β)) :
    (takeFrom count segments).flatten = segments.flatten.take count := by
  induction segments generalizing count with
  | nil =>
      rw [takeFrom, List.flatten_nil, List.take_nil]
  | cons segment segments inductionHypothesis =>
      rw [takeFrom]
      split_ifs with inside
      · rw [List.flatten_singleton, List.flatten_cons, List.take_append_of_le_length inside]
      · have past : segment.length ≤ count := by omega
        rw [List.flatten_cons, inductionHypothesis, List.flatten_cons, List.take_append,
          List.take_of_length_le past]

@[simp] theorem toList_drop (sequence : Segments β) (count : Nat) :
    (sequence.drop count).toList = sequence.toList.drop count :=
  flatten_dropFrom count sequence.segments

@[simp] theorem toList_take (sequence : Segments β) (count : Nat) :
    (sequence.take count).toList = sequence.toList.take count :=
  flatten_takeFrom count sequence.segments

theorem toList_eq_first {sequence : Segments β} (single : sequence.isSingle = true) :
    sequence.toList = sequence.first := by
  obtain ⟨segments⟩ := sequence
  cases segments with
  | nil => rfl
  | cons segment others =>
      have none : others = [] := by
        have atMost : (segment :: others).length ≤ 1 := of_decide_eq_true single
        apply List.eq_nil_of_length_eq_zero
        rw [List.length_cons] at atMost
        omega
      rw [none]
      exact List.flatten_singleton

/-- The first segment is the front of the sequence. -/
theorem first_prefix (sequence : Segments β) : sequence.first <+: sequence.toList := by
  obtain ⟨segments⟩ := sequence
  cases segments with
  | nil => exact List.prefix_refl _
  | cons segment others => exact List.prefix_append _ _

end Segments

end AzureSignalR.Library
