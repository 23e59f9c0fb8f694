import Mathlib.Data.List.Basic

/-!
Contract: cursors into a list of segments, and windows between two of them.

Owns: where a cursor stands in the one list of all items, how a cursor moves forward from segment to
segment, the items of a window, and that the slices of a window are those of its items.

Does not own: what the items are. Several cursors stand at one place where segments meet.
-/

set_option autoImplicit false

namespace AzureSignalR.Library

/-- An index in one of the segments. -/
structure Cursor where
  segment : Nat
  index : Nat
deriving DecidableEq, Repr

variable {β : Type}

def segmentAt (segments : List (List β)) (number : Nat) : List β := segments.getD number []

/-- The number of items before a segment. -/
def runningIndex (segments : List (List β)) (number : Nat) : Nat :=
  (segments.take number).flatten.length

theorem runningIndex_append (front behind : List (List β)) :
    runningIndex (front ++ behind) front.length = front.flatten.length := by
  rw [runningIndex, List.take_left]

theorem runningIndex_mono (segments : List (List β)) {number other : Nat}
    (before : number ≤ other) :
    runningIndex segments number ≤ runningIndex segments other := by
  have isPrefix : segments.take number <+: segments.take other :=
    List.take_prefix_take_left before
  obtain ⟨more, isMore⟩ := isPrefix
  rw [runningIndex, runningIndex, ← isMore, List.flatten_append, List.length_append]
  exact Nat.le_add_right _ _

theorem segmentAt_eq {segments : List (List β)} {number : Nat} (inside : number < segments.length) :
    segmentAt segments number = segments[number] := by
  rw [segmentAt, List.getD_eq_getElem?_getD, List.getElem?_eq_getElem inside, Option.getD_some]

theorem split_at {segments : List (List β)} {number : Nat} (inside : number < segments.length) :
    segments.take number ++ segmentAt segments number :: segments.drop (number + 1) = segments := by
  rw [segmentAt_eq inside, ← List.drop_eq_getElem_cons inside, List.take_append_drop]

theorem segmentAt_append (front behind : List (List β)) (segment : List β) :
    segmentAt (front ++ segment :: behind) front.length = segment := by
  rw [segmentAt, List.getD_eq_getElem?_getD, List.getElem?_append_right (Nat.le_refl _),
    Nat.sub_self, List.getElem?_cons_zero, Option.getD_some]

namespace Cursor

variable (segments : List (List β))

/-- Where it stands in the list of all items. -/
def place (cursor : Cursor) : Nat := runningIndex segments cursor.segment + cursor.index

structure Valid (cursor : Cursor) : Prop where
  segment : cursor.segment < segments.length
  index : cursor.index ≤ (segmentAt segments cursor.segment).length

instance (cursor : Cursor) : Decidable (cursor.Valid segments) :=
  decidable_of_iff (cursor.segment < segments.length ∧
      cursor.index ≤ (segmentAt segments cursor.segment).length)
    ⟨fun both => ⟨both.1, both.2⟩, fun valid => ⟨valid.segment, valid.index⟩⟩

/-- In the order of the segments. -/
def Before (cursor other : Cursor) : Prop :=
  cursor.segment < other.segment ∨ cursor.segment = other.segment ∧ cursor.index ≤ other.index

instance (cursor other : Cursor) : Decidable (cursor.Before other) :=
  inferInstanceAs (Decidable (_ ∨ _))

theorem Before.refl (cursor : Cursor) : cursor.Before cursor := .inr ⟨rfl, Nat.le_refl _⟩

theorem Before.trans {cursor other last : Cursor} (first : cursor.Before other)
    (second : other.Before last) : cursor.Before last := by
  rw [Before] at *
  omega

variable {segments}

/-- A valid cursor splits the items at its place. -/
theorem take_place {cursor : Cursor} (valid : cursor.Valid segments) :
    segments.flatten.take (cursor.place segments) =
      (segments.take cursor.segment).flatten ++
        (segmentAt segments cursor.segment).take cursor.index := by
  have items := congrArg List.flatten (split_at valid.segment).symm
  rw [List.flatten_append, List.flatten_cons] at items
  rw [items, place, runningIndex, List.take_length_add_append,
    List.take_append_of_le_length valid.index]

theorem place_le_length {cursor : Cursor} (valid : cursor.Valid segments) :
    cursor.place segments ≤ segments.flatten.length := by
  have isLength := congrArg List.length (take_place valid)
  rw [List.length_take, List.length_append, List.length_take] at isLength
  have index := valid.index
  have isPlace : cursor.place segments =
    (segments.take cursor.segment).flatten.length + cursor.index := rfl
  omega

/-- What a segment ends with is before the segments behind it. -/
theorem place_le_runningIndex {cursor : Cursor} (valid : cursor.Valid segments) {number : Nat}
    (behind : cursor.segment < number) : cursor.place segments ≤ runningIndex segments number := by
  have next : runningIndex segments (cursor.segment + 1) =
      runningIndex segments cursor.segment + (segmentAt segments cursor.segment).length := by
    rw [runningIndex, runningIndex, segmentAt_eq valid.segment, List.take_add_one,
      List.getElem?_eq_getElem valid.segment, Option.toList_some, List.flatten_append,
      List.length_append, List.flatten_singleton]
  have later := runningIndex_mono segments (Nat.succ_le_of_lt behind)
  rw [Nat.succ_eq_add_one] at later
  have index := valid.index
  rw [place]
  omega

theorem Before.place_le {cursor other : Cursor} (before : cursor.Before other)
    (valid : cursor.Valid segments) : cursor.place segments ≤ other.place segments := by
  rcases before with earlier | ⟨same, index⟩
  · have first := place_le_runningIndex valid earlier
    exact Nat.le_trans first (Nat.le_add_right _ _)
  · rw [place, place, same]
    exact Nat.add_le_add_left index _

/-! ## Moving forward -/

/-- From a segment on, the place that is some items behind its front. Where segments meet, it is the
front of the segment behind, but never beyond the last segment. -/
def seekFrom (stop : Cursor) : (behind : List (List β)) → (number offset : Nat) → Option Cursor
  | [], _, _ => none
  | segment :: behind, number, offset =>
      if number = stop.segment then if stop.index < offset then none else some ⟨number, offset⟩
      else if offset < segment.length then some ⟨number, offset⟩
      else seekFrom stop behind (number + 1) (offset - segment.length)

/-- What is found from a segment on. -/
structure Found (segments : List (List β)) (stop : Cursor) (number offset : Nat) (cursor : Cursor) :
    Prop where
  valid : cursor.Valid segments
  before : cursor.Before stop
  onward : (Cursor.mk number offset).Before cursor
  place : cursor.place segments = runningIndex segments number + offset

/-- Inside the segment that is looked at. -/
theorem Found.here {front behind : List (List β)} {segment : List β} {stop : Cursor} {offset : Nat}
    (index : offset ≤ segment.length) (before : (Cursor.mk front.length offset).Before stop) :
    Found (front ++ segment :: behind) stop front.length offset ⟨front.length, offset⟩ where
  valid := by
    constructor
    · rw [List.length_append, List.length_cons]
      show front.length < _
      omega
    · rw [segmentAt_append]
      exact index
  before := before
  onward := .refl _
  place := rfl

/-- The segments are looked at one after another. -/
theorem seekFrom_spec (front behind : List (List β)) {stop : Cursor}
    (valid : stop.Valid (front ++ behind)) (offset : Nat) (reach : front.length ≤ stop.segment) :
    (∃ cursor, seekFrom stop behind front.length offset = some cursor ∧
      Found (front ++ behind) stop front.length offset cursor) ∨
    seekFrom stop behind front.length offset = none ∧
      stop.place (front ++ behind) < runningIndex (front ++ behind) front.length + offset := by
  induction behind generalizing front offset with
  | nil =>
      have inside := valid.segment
      rw [List.append_nil] at inside
      omega
  | cons segment behind inductionHypothesis =>
      rw [seekFrom]
      split_ifs with last beyond within
      · right
        refine ⟨rfl, ?_⟩
        rw [place, ← last]
        omega
      · left
        refine ⟨_, rfl, Found.here ?_ (.inr ⟨last, Nat.not_lt.1 beyond⟩)⟩
        have index := valid.index
        rw [← last, segmentAt_append] at index
        omega
      · left
        exact ⟨_, rfl, Found.here (by omega) (.inl (show front.length < _ by omega))⟩
      · have isNext : (front ++ [segment]).length = front.length + 1 := by
          rw [List.length_append, List.length_singleton]
        have isRunning : runningIndex (front ++ segment :: behind) (front.length + 1) =
            runningIndex (front ++ segment :: behind) front.length + segment.length := by
          rw [List.append_cons, ← isNext, runningIndex_append, List.append_assoc,
            List.singleton_append, runningIndex_append, List.flatten_append, List.length_append,
            List.flatten_singleton]
        have next := inductionHypothesis (front ++ [segment]) (by
          rw [List.append_assoc, List.singleton_append]
          exact valid) (offset - segment.length) (by omega)
        rw [isNext, List.append_assoc, List.singleton_append, isRunning] at next
        rcases next with ⟨cursor, isFound, found⟩ | ⟨isNone, past⟩
        · left
          refine ⟨cursor, isFound, found.valid, found.before, ?_, ?_⟩
          · have onward := found.onward
            simp only [Before] at onward ⊢
            omega
          · have isPlace := found.place
            omega
        · right
          exact ⟨isNone, by omega⟩

end Cursor

/-! ## Windows -/

/-- The items between two cursors. -/
structure Window (β : Type) where
  segments : List (List β)
  start : Cursor
  stop : Cursor
deriving DecidableEq, Repr

namespace Window

structure Valid (window : Window β) : Prop where
  start : window.start.Valid window.segments
  stop : window.stop.Valid window.segments
  ordered : window.start.Before window.stop

/-- All items of the segments. -/
def of (segments : List (List β)) : Window β where
  segments := segments
  start := ⟨0, 0⟩
  stop := ⟨segments.length - 1, (segmentAt segments (segments.length - 1)).length⟩

theorem valid_of {segments : List (List β)} (nonempty : 0 < segments.length) :
    (of segments).Valid where
  start := ⟨nonempty, Nat.zero_le _⟩
  stop := ⟨Nat.sub_lt nonempty Nat.one_pos, Nat.le_refl _⟩
  ordered := by
    show 0 < segments.length - 1 ∨ 0 = segments.length - 1 ∧ 0 ≤ _
    omega

variable (window : Window β)

/-- The items, segment by segment. -/
def toList : List β :=
  if window.start.segment = window.stop.segment then
    ((segmentAt window.segments window.start.segment).take window.stop.index).drop
      window.start.index
  else
    (segmentAt window.segments window.start.segment).drop window.start.index ++
      (((window.segments.take window.stop.segment).drop (window.start.segment + 1)).flatten ++
        (segmentAt window.segments window.stop.segment).take window.stop.index)

/-- How far a cursor is behind the start. -/
def distance (cursor : Cursor) : Nat :=
  cursor.place window.segments - window.start.place window.segments

def length : Nat := window.distance window.stop

structure Contains (cursor : Cursor) : Prop where
  valid : cursor.Valid window.segments
  onward : window.start.Before cursor
  before : cursor.Before window.stop

instance (cursor : Cursor) : Decidable (window.Contains cursor) :=
  decidable_of_iff (cursor.Valid window.segments ∧ window.start.Before cursor ∧
      cursor.Before window.stop)
    ⟨fun all => ⟨all.1, all.2.1, all.2.2⟩, fun inside =>
      ⟨inside.valid, inside.onward, inside.before⟩⟩

def seek (origin : Cursor) (offset : Nat) : Option Cursor :=
  Cursor.seekFrom window.stop (window.segments.drop origin.segment) origin.segment
    (origin.index + offset)

variable {window}

theorem Valid.contains_start (valid : window.Valid) : window.Contains window.start :=
  ⟨valid.start, .refl _, valid.ordered⟩

theorem Valid.contains_stop (valid : window.Valid) : window.Contains window.stop :=
  ⟨valid.stop, valid.ordered, .refl _⟩

/-- The items are those between the places of the two cursors. -/
theorem Valid.toList_eq (valid : window.Valid) :
    window.toList = (window.segments.flatten.take (window.stop.place window.segments)).drop
      (window.start.place window.segments) := by
  rw [Cursor.take_place valid.stop, toList]
  split_ifs with same
  · rw [Cursor.place, ← same, runningIndex, List.drop_length_add_append]
  · have earlier : window.start.segment < window.stop.segment := by
      have ordered := valid.ordered
      rw [Cursor.Before] at ordered
      omega
    have inside : window.start.segment < (window.segments.take window.stop.segment).length := by
      rw [List.length_take]
      have inSegments := valid.start.segment
      omega
    have first : segmentAt (window.segments.take window.stop.segment) window.start.segment =
        segmentAt window.segments window.start.segment := by
      rw [segmentAt_eq inside, segmentAt_eq valid.start.segment, List.getElem_take]
    have items := congrArg List.flatten (split_at inside).symm
    rw [List.flatten_append, List.flatten_cons, first, List.take_take,
      Nat.min_eq_left (Nat.le_of_lt earlier)] at items
    rw [items, Cursor.place, runningIndex, List.append_assoc, List.drop_length_add_append,
      List.append_assoc, List.drop_append_of_le_length valid.start.index]

/-! ## Slices -/

theorem Valid.place_le (valid : window.Valid) :
    window.start.place window.segments ≤ window.stop.place window.segments ∧
      window.stop.place window.segments ≤ window.segments.flatten.length :=
  ⟨valid.ordered.place_le valid.start, Cursor.place_le_length valid.stop⟩

theorem Valid.length_toList (valid : window.Valid) : window.toList.length = window.length := by
  have stopPlace := valid.place_le.2
  rw [valid.toList_eq, List.length_drop, List.length_take, length, distance]
  omega

theorem Contains.place_le {cursor : Cursor} (inside : window.Contains cursor)
    (valid : window.Valid) :
    window.start.place window.segments ≤ cursor.place window.segments ∧
      cursor.place window.segments ≤ window.stop.place window.segments :=
  ⟨inside.onward.place_le valid.start, inside.before.place_le inside.valid⟩

theorem Contains.distance_le {cursor : Cursor} (inside : window.Contains cursor)
    (valid : window.Valid) : window.distance cursor ≤ window.length := by
  have places := inside.place_le valid
  rw [length, distance, distance]
  omega

/-- The window between two of its cursors. -/
theorem Contains.valid_between {cursor other : Cursor} (inside : window.Contains cursor)
    (otherInside : window.Contains other) (ordered : cursor.Before other) :
    Valid { window with start := cursor, stop := other } :=
  ⟨inside.valid, otherInside.valid, ordered⟩

theorem Contains.toList_between {cursor other : Cursor} (inside : window.Contains cursor)
    (otherInside : window.Contains other) (ordered : cursor.Before other) (valid : window.Valid) :
    toList { window with start := cursor, stop := other } =
      (window.toList.take (window.distance other)).drop (window.distance cursor) := by
  have places := inside.place_le valid
  have otherPlaces := otherInside.place_le valid
  rw [(inside.valid_between otherInside ordered).toList_eq, valid.toList_eq, List.take_drop,
    List.drop_drop, List.take_take]
  show (window.segments.flatten.take (other.place window.segments)).drop
    (cursor.place window.segments) = _
  congr 1
  · rw [distance]
    omega
  · rw [distance]
    congr 1
    omega

theorem Contains.length_between {cursor other : Cursor} (inside : window.Contains cursor)
    (otherInside : window.Contains other) (valid : window.Valid) :
    length { window with start := cursor, stop := other } =
      window.distance other - window.distance cursor := by
  have places := inside.place_le valid
  have otherPlaces := otherInside.place_le valid
  show other.place window.segments - cursor.place window.segments = _
  rw [distance, distance]
  omega

/-- What is left of the window from one of its cursors on. -/
theorem Contains.valid_from {cursor : Cursor} (inside : window.Contains cursor)
    (valid : window.Valid) : Valid { window with start := cursor } :=
  inside.valid_between valid.contains_stop inside.before

theorem Contains.toList_from {cursor : Cursor} (inside : window.Contains cursor)
    (valid : window.Valid) :
    toList { window with start := cursor } = window.toList.drop (window.distance cursor) := by
  have between := inside.toList_between valid.contains_stop inside.before valid
  rw [List.take_of_length_le (by rw [valid.length_toList]; exact Nat.le_refl _)] at between
  exact between

theorem Contains.length_from {cursor : Cursor} (inside : window.Contains cursor)
    (valid : window.Valid) :
    length { window with start := cursor } = window.length - window.distance cursor :=
  inside.length_between valid.contains_stop valid

theorem Contains.of_from {cursor other : Cursor} (inside : window.Contains cursor)
    (behind : Contains { window with start := cursor } other) : window.Contains other :=
  ⟨behind.valid, inside.onward.trans behind.onward, behind.before⟩

theorem Contains.distance_from {cursor other : Cursor} (inside : window.Contains cursor)
    (behind : Contains { window with start := cursor } other) (valid : window.Valid) :
    window.distance other =
      window.distance cursor + distance { window with start := cursor } other := by
  have places := inside.place_le valid
  have later : cursor.place window.segments ≤ other.place window.segments :=
    behind.onward.place_le inside.valid
  show _ = _ + (other.place window.segments - cursor.place window.segments)
  rw [distance, distance]
  omega

/-- A cursor moves forward inside of the window, and not beyond its stop. -/
theorem seek_spec (valid : window.Valid) {origin : Cursor} (inside : window.Contains origin)
    (offset : Nat) :
    if window.distance origin + offset ≤ window.length then
      ∃ cursor, window.seek origin offset = some cursor ∧ window.Contains cursor ∧
        origin.Before cursor ∧ window.distance cursor = window.distance origin + offset
    else window.seek origin offset = none := by
  have isFront : (window.segments.take origin.segment).length = origin.segment := by
    rw [List.length_take]
    have inSegments := inside.valid.segment
    omega
  have reach : origin.segment ≤ window.stop.segment := by
    have before := inside.before
    rw [Cursor.Before] at before
    omega
  have places := inside.place_le valid
  have whole : window.stop.Valid
      (window.segments.take origin.segment ++ window.segments.drop origin.segment) := by
    rw [List.take_append_drop]
    exact valid.stop
  have sought := Cursor.seekFrom_spec _ _ whole (origin.index + offset)
    (by rw [isFront]; exact reach)
  rw [isFront, List.take_append_drop] at sought
  have isPlace : origin.place window.segments =
    runningIndex window.segments origin.segment + origin.index := rfl
  rcases sought with ⟨cursor, isFound, found⟩ | ⟨isNone, past⟩
  · have onward : origin.Before cursor := by
      have onward := found.onward
      simp only [Cursor.Before] at onward ⊢
      omega
    have contains : window.Contains cursor :=
      ⟨found.valid, inside.onward.trans onward, found.before⟩
    have cursorPlaces := contains.place_le valid
    have reached := found.place
    have isDistance : window.distance cursor = window.distance origin + offset := by
      rw [distance, distance]
      omega
    rw [if_pos (isDistance ▸ contains.distance_le valid)]
    exact ⟨cursor, isFound, contains, onward, isDistance⟩
  · rw [if_neg]
    · exact isNone
    · rw [length, distance, distance]
      omega

end Window

end AzureSignalR.Library
