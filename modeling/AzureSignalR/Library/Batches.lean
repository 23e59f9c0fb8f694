import Mathlib.Algebra.BigOperators.Group.List.Basic
import Mathlib.Algebra.GroupWithZero.Nat
import Mathlib.Data.List.Infix

/-!
Contract: items of some size that lie behind one another, in a stream that is handed over in
pieces which respect no border of an item.

Owns: the items that are complete in a first part of the stream, the batch that one piece
completes, and when a batch has nothing behind a flagged item.

Does not own: what the items and the pieces are made of.
-/

set_option autoImplicit false

namespace AzureSignalR.Library.Batches

section Within

variable {α : Type} (size : α → Nat)

def extent (items : List α) : Nat := (items.map size).sum

@[simp]
theorem extent_nil : extent size [] = 0 := rfl

@[simp]
theorem extent_cons (item : α) (items : List α) :
    extent size (item :: items) = size item + extent size items := by
  simp [extent]

@[simp]
theorem extent_append (items others : List α) :
    extent size (items ++ others) = extent size items + extent size others := by
  simp [extent]

theorem extent_le {items others : List α} (isPrefix : items <+: others) :
    extent size items ≤ extent size others := by
  obtain ⟨rest, rfl⟩ := isPrefix
  rw [extent_append]
  exact Nat.le_add_right _ _

/-- The items that end within the first `limit` units. -/
def within (limit : Nat) : List α → List α
  | [] => []
  | item :: items =>
      if size item ≤ limit then item :: within (limit - size item) items else []

theorem within_append {items : List α} {limit : Nat} (fits : extent size items ≤ limit)
    (others : List α) :
    within size limit (items ++ others) =
      items ++ within size (limit - extent size items) others := by
  induction items generalizing limit with
  | nil => rfl
  | cons item items inductionHypothesis =>
      rw [extent_cons] at fits
      rw [List.cons_append, within, if_pos (by omega), inductionHypothesis (by omega), extent_cons,
        List.cons_append, Nat.sub_sub]

theorem within_isPrefix (limit : Nat) (items : List α) : within size limit items <+: items := by
  induction items generalizing limit with
  | nil => exact List.prefix_rfl
  | cons item items inductionHypothesis =>
      rw [within]
      split_ifs
      · exact (List.prefix_cons_inj item).mpr (inductionHypothesis _)
      · exact List.nil_prefix

theorem extent_within (limit : Nat) (items : List α) :
    extent size (within size limit items) ≤ limit := by
  induction items generalizing limit with
  | nil => exact Nat.zero_le limit
  | cons item items inductionHypothesis =>
      rw [within]
      split_ifs with fits
      · have rest := inductionHypothesis (limit - size item)
        rw [extent_cons]
        omega
      · exact Nat.zero_le limit

/-- The complete items are those whose end is within the limit. -/
theorem isPrefix_within_iff {items front : List α} (isPrefix : front <+: items) (limit : Nat) :
    front <+: within size limit items ↔ extent size front ≤ limit := by
  constructor
  · intro inside
    exact Nat.le_trans (extent_le size inside) (extent_within size limit items)
  · intro fits
    obtain ⟨rest, rfl⟩ := isPrefix
    rw [within_append size fits]
    exact List.prefix_append front _

theorem within_all {items : List α} {limit : Nat} (fits : extent size items ≤ limit) :
    within size limit items = items := by
  have whole := within_append size fits []
  rw [List.append_nil] at whole
  exact whole.trans (List.append_nil items)

/-- The item behind the complete ones is not complete. -/
theorem lt_of_within {items rest : List α} {limit : Nat} {next : α}
    (split : items = within size limit items ++ next :: rest) :
    limit < extent size (within size limit items) + size next := by
  by_contra complete
  have front : within size limit items ++ [next] <+: items := by
    refine ⟨rest, ?_⟩
    rw [List.append_assoc]
    exact split.symm
  have inside := (isPrefix_within_iff size front limit).mpr (by simp; omega)
  have shorter := inside.length_le
  simp only [List.length_append, List.length_singleton] at shorter
  omega

/-- What a piece completes that ends at `limit` when `reached` units were there before it. -/
def batch (reached limit : Nat) (items : List α) : List α :=
  (within size limit items).drop (within size reached items).length

theorem within_eq_batch {reached limit : Nat} (later : reached ≤ limit) (items : List α) :
    within size limit items = within size reached items ++ batch size reached limit items := by
  have isPrefix : within size reached items <+: within size limit items :=
    (isPrefix_within_iff size (within_isPrefix size reached items) limit).mpr
      (Nat.le_trans (extent_within size reached items) later)
  obtain ⟨rest, split⟩ := isPrefix
  rw [batch, ← split, List.drop_left]

end Within

/-! ## Nothing behind a flagged item -/

section Flagged

variable {α : Type} (flagged : α → Prop)

/-- A flagged item can only be the last one. -/
def NothingBehind (items : List α) : Prop :=
  ∀ front item behind, items = front ++ item :: behind → flagged item → behind = []

variable {flagged}

theorem nothingBehind_cons {item : α} {items : List α} :
    NothingBehind flagged (item :: items) ↔
      (flagged item → items = []) ∧ NothingBehind flagged items := by
  constructor
  · intro nothing
    refine ⟨fun isFlagged => nothing [] item items rfl isFlagged, ?_⟩
    rintro front other behind rfl isFlagged
    exact nothing (item :: front) other behind rfl isFlagged
  · rintro ⟨first, rest⟩ front other behind split isFlagged
    cases front with
    | nil =>
        cases split
        exact first isFlagged
    | cons head front =>
        cases split
        exact rest front other behind rfl isFlagged

end Flagged

/-! ## Pieces -/

section Pieces

variable {α γ : Type} (size : α → Nat) (width : γ → Nat)

/-- Some piece reaches a place that the pieces together reach. -/
theorem exists_crossing {pieces : List γ} {place : Nat} (positive : 0 < place)
    (reached : place ≤ extent width pieces) :
    ∃ front piece, front ++ [piece] <+: pieces ∧ extent width front < place ∧
      place ≤ extent width (front ++ [piece]) := by
  induction pieces using List.reverseRecOn with
  | nil =>
      rw [extent_nil] at reached
      omega
  | append_singleton front piece inductionHypothesis =>
      by_cases before : place ≤ extent width front
      · obtain ⟨shorter, crossing, isPrefix, rest⟩ := inductionHypothesis before
        exact ⟨shorter, crossing, isPrefix.trans (List.prefix_append front [piece]), rest⟩
      · exact ⟨front, piece, List.prefix_rfl, by omega, reached⟩

/-- Between a flagged item and the item behind it a piece ends. -/
def Separated (flagged : α → Prop) (items : List α) (pieces : List γ) : Prop :=
  ∀ before item next behind, items = before ++ item :: next :: behind → flagged item →
    ∃ front, front <+: pieces ∧ extent size (before ++ [item]) ≤ extent width front ∧
      extent width front < extent size (before ++ [item, next])

/-- Of two first parts of the pieces, one is a part of the other. -/
theorem prefix_or_concat {pieces front other : List γ} {piece : γ}
    (isPrefix : front ++ [piece] <+: pieces) (also : other <+: pieces) :
    other <+: front ∨ front ++ [piece] <+: other := by
  rcases List.prefix_or_prefix_of_prefix isPrefix also with longer | shorter
  · exact .inr longer
  · rcases List.prefix_concat_iff.mp shorter with same | inside
    · exact .inr (same ▸ List.prefix_rfl)
    · exact .inl inside

/-- No batch has an item behind a flagged one exactly when the pieces separate each flagged item
from the next. -/
theorem separated_iff {flagged : α → Prop} (positive : ∀ item, 0 < size item)
    {items : List α} {pieces : List γ} (whole : extent width pieces = extent size items) :
    (∀ front piece, front ++ [piece] <+: pieces → NothingBehind flagged
        (batch size (extent width front) (extent width (front ++ [piece])) items)) ↔
      Separated size width flagged items pieces := by
  constructor
  · intro nothing before item next behind split isFlagged
    have isPrefix : before ++ [item] <+: items := by
      rw [split]
      exact ⟨next :: behind, by simp⟩
    have nextPrefix : before ++ [item, next] <+: items := by
      rw [split]
      exact ⟨behind, by simp⟩
    have fits := extent_le size isPrefix
    have first := positive item
    have place : 0 < extent size (before ++ [item]) := by
      rw [extent_append, extent_cons]
      omega
    obtain ⟨front, piece, isFront, reached, crossed⟩ :=
      exists_crossing width place (fits.trans (Nat.le_of_eq whole.symm))
    refine ⟨front ++ [piece], isFront, crossed, ?_⟩
    by_contra complete
    -- The items up to `next` are complete, those before `item` at most are in earlier batches.
    obtain ⟨more, isMore⟩ := (isPrefix_within_iff size nextPrefix _).mpr (Nat.le_of_not_lt complete)
    have earlier : within size (extent width front) items <+: before := by
      rcases List.prefix_or_prefix_of_prefix (within_isPrefix size (extent width front) items)
        isPrefix with shorter | longer
      · rcases List.prefix_concat_iff.mp shorter with same | inside
        · have reachedToo := extent_within size (extent width front) items
          rw [same] at reachedToo
          omega
        · exact inside
      · have reachedToo := (isPrefix_within_iff size isPrefix _).mp longer
        omega
    obtain ⟨between, isBetween⟩ := earlier
    have split : batch size (extent width front) (extent width (front ++ [piece])) items =
        between ++ item :: (next :: more) := by
      rw [batch, ← isMore, ← isBetween]
      simp
    have none := nothing front piece isFront between item (next :: more) split isFlagged
    cases none
  · intro separated front piece isFront before item behind split isFlagged
    cases behind with
    | nil => rfl
    | cons next behind =>
        exfalso
        obtain ⟨done, isDone⟩ : ∃ done, within size (extent width front) items = done := ⟨_, rfl⟩
        have later : extent width front ≤ extent width (front ++ [piece]) :=
          extent_le width (List.prefix_append front [piece])
        have isBatch := within_eq_batch size later items
        rw [split, isDone] at isBatch
        obtain ⟨rest, isRest⟩ := within_isPrefix size (extent width (front ++ [piece])) items
        rw [isBatch] at isRest
        have isItem : (done ++ before) ++ [item] <+: items := by
          rw [← isRest]
          exact ⟨next :: behind ++ rest, by simp⟩
        -- `item` is not complete before the piece, `next` is complete behind it.
        have isOpen : extent width front < extent size ((done ++ before) ++ [item]) := by
          by_contra complete
          have inside := (isPrefix_within_iff size isItem _).mpr (Nat.le_of_not_lt complete)
          rw [isDone] at inside
          have shorter := inside.length_le
          simp only [List.length_append, List.length_singleton] at shorter
          omega
        have isClosed : extent size ((done ++ before) ++ [item, next]) ≤
            extent width (front ++ [piece]) := by
          have inside : (done ++ before) ++ [item, next] <+:
              within size (extent width (front ++ [piece])) items := by
            rw [isBatch]
            exact ⟨behind, by simp⟩
          exact (extent_le size inside).trans (extent_within size _ items)
        obtain ⟨other, isOther, reached, crossed⟩ :=
          separated (done ++ before) item next (behind ++ rest)
            (by rw [← isRest]; simp) isFlagged
        rcases prefix_or_concat isFront isOther with shorter | longer
        · have least := extent_le width shorter
          omega
        · have most := extent_le width longer
          omega

end Pieces

end AzureSignalR.Library.Batches
