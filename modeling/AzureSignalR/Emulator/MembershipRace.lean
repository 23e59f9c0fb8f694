import AzureSignalR.Emulator.ManyToManyMap
import AzureSignalR.Library.Machine
import Mathlib.Logic.Function.Basic

/-!
Contract: `Add` and `Remove` of the membership map when calls overlap.

Owns: the two index updates of a call as steps of their own, runs of any number of callers, and
that the indexes agree behind runs in which no call starts updating a pair inside an opposite call
on the same pair.

Does not own: an index update, which is one step under the lock of its set.
-/

set_option autoImplicit false

namespace AzureSignalR.Emulator.MembershipRace

open Library Library.KeyedSets

variable {ι L R : Type}

inductive Call (L R : Type) where
  | add (left : L) (right : R)
  | remove (left : L) (right : R)
deriving DecidableEq, Repr

inductive Stage (L R : Type) where
  | idle
  | called (call : Call L R)
  /-- One index is updated. -/
  | halfway (call : Call L R)
deriving DecidableEq, Repr

structure State (ι L R : Type) where
  map : ManyToManyMap L R := {}
  callers : ι → Stage L R := fun _ => .idle

inductive Action (ι L R : Type) where
  | call (caller : ι) (call : Call L R)
  | update (caller : ι)
deriving Repr

variable [DecidableEq ι] [DecidableEq L] [DecidableEq R]

/-- `Add` updates the index of its left value first, `Remove` that of its right value. -/
def firstHalf (map : ManyToManyMap L R) : Call L R → ManyToManyMap L R
  | .add left right => map.addRightToLeft left right
  | .remove left right => (map.removeLeftFromRight left right).1

def secondHalf (map : ManyToManyMap L R) : Call L R → ManyToManyMap L R
  | .add left right => map.addLeftToRight left right
  | .remove left right => map.removeRightFromLeft left right

def step (state : State ι L R) : Action ι L R → Option (State ι L R)
  | .call caller call =>
      match state.callers caller with
      | .idle => some { state with callers := Function.update state.callers caller (.called call) }
      | .called _ | .halfway _ => none
  | .update caller =>
      match state.callers caller with
      | .idle => none
      | .called call =>
          some ⟨firstHalf state.map call, Function.update state.callers caller (.halfway call)⟩
      | .halfway call =>
          some ⟨secondHalf state.map call, Function.update state.callers caller .idle⟩

/-- The call that undoes it. -/
def Call.opposite : Call L R → Call L R
  | .add left right => .remove left right
  | .remove left right => .add left right

/-- A caller is between the two updates of the call. -/
def Halfway (state : State ι L R) (call : Call L R) : Prop :=
  ∃ caller, state.callers caller = .halfway call

/-- No call updates its first index while the opposite call is between its updates. -/
def Apart (state : State ι L R) : Action ι L R → Prop
  | .call _ _ => True
  | .update caller => ∀ call, state.callers caller = .called call → ¬Halfway state call.opposite

/-- What holds of a pair while calls are under way. -/
structure Settled (state : State ι L R) (left : L) (right : R) : Prop where
  adding : Halfway state (.add left right) →
    Has state.map.ltr left right ∧ ¬Halfway state (.remove left right)
  removing : Halfway state (.remove left right) → ¬Has state.map.rtl right left
  agree : ¬Halfway state (.add left right) → ¬Halfway state (.remove left right) →
    (Has state.map.ltr left right ↔ Has state.map.rtl right left)

structure Sound (state : State ι L R) : Prop where
  leftValid : Valid state.map.ltr
  rightValid : Valid state.map.rtl
  settled : ∀ left right, Settled state left right

/-! ## What an update changes -/

variable {state : State ι L R} {caller : ι}

omit [DecidableEq L] [DecidableEq R] in
/-- A caller that is nowhere inside the call, before and behind the step. -/
theorem halfway_update_of_ne {map : ManyToManyMap L R} {stage : Stage L R} {call : Call L R}
    (before : state.callers caller ≠ .halfway call) (behind : stage ≠ .halfway call) :
    Halfway ⟨map, Function.update state.callers caller stage⟩ call ↔ Halfway state call := by
  apply exists_congr
  intro other
  by_cases same : other = caller
  · rw [same]
    show Function.update state.callers caller stage caller = _ ↔ _
    rw [Function.update_self]
    exact iff_of_false behind before
  · show Function.update state.callers caller stage other = _ ↔ _
    rw [Function.update_of_ne same]

omit [DecidableEq L] [DecidableEq R] in
/-- Behind the first update the caller is inside its call. -/
theorem halfway_first {map : ManyToManyMap L R} {call other : Call L R}
    (isCalled : state.callers caller = .called call) :
    Halfway ⟨map, Function.update state.callers caller (.halfway call)⟩ other ↔
      call = other ∨ Halfway state other := by
  by_cases same : call = other
  · subst same
    exact iff_of_true ⟨caller, Function.update_self caller _ _⟩ (.inl rfl)
  · rw [or_iff_right same]
    apply halfway_update_of_ne
    · rw [isCalled]
      nofun
    · rw [Ne, Stage.halfway.injEq]
      exact same

omit [DecidableEq L] [DecidableEq R] in
/-- Behind the second update it is inside none; another may be inside the same. -/
theorem halfway_second {map : ManyToManyMap L R} {call other : Call L R}
    (isHalfway : state.callers caller = .halfway call) :
    (Halfway ⟨map, Function.update state.callers caller .idle⟩ other → Halfway state other) ∧
      (call ≠ other → Halfway state other →
        Halfway ⟨map, Function.update state.callers caller .idle⟩ other) := by
  constructor
  · rintro ⟨inside, isInside⟩
    refine ⟨inside, ?_⟩
    by_cases same : inside = caller
    · subst same
      exact nomatch (Function.update_self inside _ state.callers).symm.trans isInside
    · exact (Function.update_of_ne same _ _).symm.trans isInside
  · intro differs
    refine (halfway_update_of_ne ?_ ?_).mpr
    · rw [isHalfway, Ne, Stage.halfway.injEq]
      exact differs
    · nofun

omit [DecidableEq ι] in
/-- What an update does to the pair it is about. -/
theorem has_firstHalf (sound : Sound state) (call : Call L R) (left : L) (right : R) :
    (Has (firstHalf state.map call).ltr left right ↔
      call = .add left right ∨ Has state.map.ltr left right) ∧
    (Has (firstHalf state.map call).rtl right left ↔
      Has state.map.rtl right left ∧ call ≠ .remove left right) := by
  cases call with
  | add otherLeft otherRight =>
      constructor
      · show Has (addOrUpdate otherLeft otherRight state.map.ltr) left right ↔ _
        rw [has_addOrUpdate, Call.add.injEq, eq_comm (a := right)]
      · show Has state.map.rtl right left ↔ _
        simp
  | remove otherLeft otherRight =>
      constructor
      · show Has state.map.ltr left right ↔ _
        simp
      · show Has (discard setEquals state.map.rtl otherRight otherLeft).1 right left ↔ _
        rw [has_discard setEquals_self sound.rightValid, Ne, Call.remove.injEq, eq_comm (a := left),
          and_comm (a := otherRight = right)]

omit [DecidableEq ι] in
theorem has_secondHalf (sound : Sound state) (call : Call L R) (left : L) (right : R) :
    (Has (secondHalf state.map call).ltr left right ↔
      Has state.map.ltr left right ∧ call ≠ .remove left right) ∧
    (Has (secondHalf state.map call).rtl right left ↔
      call = .add left right ∨ Has state.map.rtl right left) := by
  cases call with
  | add otherLeft otherRight =>
      constructor
      · show Has state.map.ltr left right ↔ _
        simp
      · show Has (addOrUpdate otherRight otherLeft state.map.rtl) right left ↔ _
        rw [has_addOrUpdate, Call.add.injEq, eq_comm (a := left),
          and_comm (a := otherRight = right)]
  | remove otherLeft otherRight =>
      constructor
      · show Has (discard setEquals state.map.ltr otherLeft otherRight).1 left right ↔ _
        rw [has_discard setEquals_self sound.leftValid, Ne, Call.remove.injEq, eq_comm (a := right)]
      · show Has state.map.rtl right left ↔ _
        simp

/-! ## Steps and runs -/

theorem Settled.first (sound : Sound state) {call : Call L R}
    (isCalled : state.callers caller = .called call) (apart : ¬Halfway state call.opposite)
    (left : L) (right : R) :
    Settled ⟨firstHalf state.map call, Function.update state.callers caller (.halfway call)⟩ left
      right := by
  have old := sound.settled left right
  obtain ⟨ltr, rtl⟩ := has_firstHalf sound call left right
  constructor
  · intro adding
    rw [halfway_first isCalled] at adding ⊢
    rw [ltr]
    rcases adding with rfl | adding
    · exact ⟨.inl rfl, fun removing => removing.elim nofun apart⟩
    · refine ⟨.inr (old.adding adding).1, ?_⟩
      rintro (rfl | removing)
      · exact apart adding
      · exact (old.adding adding).2 removing
  · intro removing
    rw [halfway_first isCalled] at removing
    rw [rtl]
    rcases removing with rfl | removing
    · exact fun both => both.2 rfl
    · exact fun both => old.removing removing both.1
  · intro notAdding notRemoving
    rw [halfway_first isCalled, not_or] at notAdding notRemoving
    rw [ltr, rtl, or_iff_right notAdding.1, and_iff_left notRemoving.1]
    exact old.agree notAdding.2 notRemoving.2

theorem Settled.second (sound : Sound state) {call : Call L R}
    (isHalfway : state.callers caller = .halfway call) (left : L) (right : R) :
    Settled ⟨secondHalf state.map call, Function.update state.callers caller .idle⟩ left
      right := by
  have old := sound.settled left right
  obtain ⟨ltr, rtl⟩ := has_secondHalf sound call left right
  have inside : Halfway state call := ⟨caller, isHalfway⟩
  constructor
  · intro adding
    obtain ⟨has, notRemoving⟩ := old.adding ((halfway_second isHalfway).1 adding)
    refine ⟨ltr.mpr ⟨has, ?_⟩, fun removing => notRemoving ((halfway_second isHalfway).1 removing)⟩
    rintro rfl
    exact notRemoving inside
  · intro removing
    have before := (halfway_second isHalfway).1 removing
    rw [rtl]
    rintro (rfl | has)
    · exact (old.adding inside).2 before
    · exact old.removing before has
  · intro notAdding notRemoving
    rw [ltr, rtl]
    by_cases isAdd : call = .add left right
    · subst isAdd
      exact iff_of_true ⟨(old.adding inside).1, nofun⟩ (.inl rfl)
    · by_cases isRemove : call = .remove left right
      · subst isRemove
        exact iff_of_false (fun both => both.2 rfl) fun either =>
          either.elim nofun (old.removing inside)
      · rw [and_iff_left isRemove, or_iff_right isAdd]
        exact old.agree (fun adding => notAdding ((halfway_second isHalfway).2 isAdd adding))
          fun removing => notRemoving ((halfway_second isHalfway).2 isRemove removing)

/-- A call that only begins changes nothing. -/
theorem Settled.call (sound : Sound state) {call : Call L R}
    (isIdle : state.callers caller = .idle) (left : L) (right : R) :
    Settled ⟨state.map, Function.update state.callers caller (.called call)⟩ left right := by
  have same : ∀ other, Halfway
      ⟨state.map, Function.update state.callers caller (.called call)⟩ other ↔
        Halfway state other := fun other => by
    apply halfway_update_of_ne
    · rw [isIdle]
      nofun
    · nofun
  have old := sound.settled left right
  constructor
  · intro adding
    rw [same] at adding ⊢
    exact old.adding adding
  · intro removing
    rw [same] at removing
    exact old.removing removing
  · intro notAdding notRemoving
    rw [same] at notAdding notRemoving
    exact old.agree notAdding notRemoving

omit [DecidableEq ι] in
theorem valid_firstHalf (sound : Sound state) (call : Call L R) :
    Valid (firstHalf state.map call).ltr ∧ Valid (firstHalf state.map call).rtl := by
  cases call with
  | add left right => exact ⟨sound.leftValid.addOrUpdate left right, sound.rightValid⟩
  | remove left right =>
      exact ⟨sound.leftValid, sound.rightValid.discard setEquals_self right left⟩

omit [DecidableEq ι] in
theorem valid_secondHalf (sound : Sound state) (call : Call L R) :
    Valid (secondHalf state.map call).ltr ∧ Valid (secondHalf state.map call).rtl := by
  cases call with
  | add left right => exact ⟨sound.leftValid, sound.rightValid.addOrUpdate right left⟩
  | remove left right =>
      exact ⟨sound.leftValid.discard setEquals_self left right, sound.rightValid⟩

theorem Sound.step {next : State ι L R} {action : Action ι L R} (sound : Sound state)
    (apart : Apart state action) (stepped : step state action = some next) : Sound next := by
  cases action with
  | call caller call =>
      rw [MembershipRace.step] at stepped
      cases isStage : state.callers caller with
      | idle =>
          rw [isStage] at stepped
          obtain rfl := Option.some.inj stepped
          exact ⟨sound.leftValid, sound.rightValid, Settled.call sound isStage⟩
      | called other => simp [isStage] at stepped
      | halfway other => simp [isStage] at stepped
  | update caller =>
      rw [MembershipRace.step] at stepped
      cases isStage : state.callers caller with
      | idle => simp [isStage] at stepped
      | called call =>
          rw [isStage] at stepped
          obtain rfl := Option.some.inj stepped
          obtain ⟨left, right⟩ := valid_firstHalf sound call
          exact ⟨left, right, Settled.first sound isStage (apart call isStage)⟩
      | halfway call =>
          rw [isStage] at stepped
          obtain rfl := Option.some.inj stepped
          obtain ⟨left, right⟩ := valid_secondHalf sound call
          exact ⟨left, right, Settled.second sound isStage⟩

omit [DecidableEq ι] in
theorem sound_initial : Sound ({} : State ι L R) where
  leftValid := ⟨List.nodup_nil, nofun⟩
  rightValid := ⟨List.nodup_nil, nofun⟩
  settled left right := by
    constructor
    · rintro ⟨caller, inside⟩
      exact nomatch inside
    · rintro ⟨caller, inside⟩
      exact nomatch inside
    · intro _ _
      exact iff_of_false (not_has_of_none rfl right) (not_has_of_none rfl left)

/-- When no call begins its updates inside an opposite one on the same pair, the indexes agree in
every state in which all calls have returned. -/
theorem indexes_agree {actions : List (Action ι L R)} {final : State ι L R}
    (apart : Machine.Along step Apart {} actions)
    (ran : Machine.run step {} actions = some final)
    (returned : ∀ caller, final.callers caller = .idle) (left : L) (right : R) :
    Has final.map.ltr left right ↔ Has final.map.rtl right left := by
  have sound : Sound final := Machine.run_along
    (fun sound apart stepped => sound.step apart stepped) sound_initial apart ran
  apply (sound.settled left right).agree
  · rintro ⟨caller, inside⟩
    rw [returned caller] at inside
    exact nomatch inside
  · rintro ⟨caller, inside⟩
    rw [returned caller] at inside
    exact nomatch inside

/-- Two calls on different pairs, one inside the other. -/
theorem indexes_agree_apart :
    let state : State Bool Nat Nat :=
      ⟨⟨[(1, [2])], [(2, [1])]⟩, fun _ => .idle⟩
    Has state.map.ltr 1 2 ↔ Has state.map.rtl 2 1 := by
  let actions : List (Action Bool Nat Nat) := [.call true (.add 1 2), .call false (.remove 1 3),
    .update true, .update false, .update false, .update true]
  have along : Machine.Along step Apart ({} : State Bool Nat Nat) actions := by
    refine Machine.along_cons trivial rfl (Machine.along_cons trivial rfl ?_)
    refine Machine.along_cons ?_ rfl (Machine.along_cons ?_ rfl (Machine.along_cons ?_ rfl
      (Machine.along_cons ?_ rfl trivial)))
    · rintro call isCalled ⟨caller, inside⟩
      cases caller with
      | false => exact nomatch inside
      | true => exact nomatch inside
    · rintro call isCalled ⟨caller, inside⟩
      obtain rfl : Call.remove 1 3 = call := Stage.called.inj isCalled
      cases caller with
      | false => exact nomatch inside
      | true => exact absurd (Stage.halfway.inj inside) (by decide)
    · intro call isCalled
      exact nomatch isCalled
    · intro call isCalled
      exact nomatch isCalled
  have agree := indexes_agree along rfl
    (by intro caller; cases caller with | false => rfl | true => rfl) 1 2
  exact agree

/-- A removal inside an addition leaves the pair in one index. -/
theorem removal_inside_addition :
    ∃ final : State Bool Nat Nat,
      Machine.run step {} [.call true (.add 1 2), .update true, .call false (.remove 1 2),
        .update false, .update false, .update true] = some final ∧
      (∀ caller, final.callers caller = .idle) ∧
      ¬(Has final.map.ltr 1 2 ↔ Has final.map.rtl 2 1) := by
  refine ⟨_, rfl, by decide, fun agree => ?_⟩
  exact not_has_of_none rfl 2 (agree.mpr ⟨[1], rfl, List.mem_cons_self⟩)

end AzureSignalR.Emulator.MembershipRace
