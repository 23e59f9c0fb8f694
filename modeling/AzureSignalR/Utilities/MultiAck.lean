import AzureSignalR.Library.Machine
import Mathlib.Algebra.Group.Nat.Defs

/-!
Contract: the life of one multi ack.

Owns: the counts of a multi ack, whether it is stored and completed, and the
threads that are about to do something to it, as a machine of its own; and
when it completes.

Does not own: the handler that stores it, which takes these steps among those
for other acks.
-/

set_option autoImplicit false

namespace AzureSignalR.Utilities

open Library Library.Machine

/-- A multi ack, with the number of threads at each place that concerns it. -/
structure MultiAck where
  ackCount : Int32 := 0
  expectedCount : Option Int32 := none
  completed : Bool := false
  /-- `_acks` has its entry. -/
  stored : Bool := true
  /-- The acks that have reached it. -/
  applied : Nat := 0
  /-- A sweep has found it out of time. -/
  expired : Bool := false
  /-- Behind the lock of `Ack` or `SetExpectedCount`, before `TrySetResult`. -/
  completing : Nat := 0
  /-- Before `TryRemove`, behind an `Ack` or a `SetExpectedCount`. -/
  removing : Nat := 0
  /-- In a sweep, before `TryRemove`. -/
  expiring : Nat := 0
  /-- In a sweep, before the lock of `ForceAck`. -/
  timingOut : Nat := 0
  /-- In a sweep, before `TrySetResult`. -/
  forcing : Nat := 0
deriving DecidableEq, Repr

inductive MultiAckAction where
  | ack
  | setExpectedCount (expectedCount : Int32)
  | complete
  | remove
  /-- A sweep finds it out of time. -/
  | expire
  | tryRemove
  | timeOut
  | force
deriving DecidableEq, Repr

def multiAckStep (ack : MultiAck) : MultiAckAction → Option MultiAck
  | .ack =>
      let counted :=
        { ack with
          ackCount := ack.ackCount + 1
          applied := ack.applied + 1 }
      match ack.expectedCount with
      | some expected =>
          if expected ≤ ack.ackCount + 1 then
            some { counted with completing := ack.completing + 1 }
          else some counted
      | none => some counted
  | .setExpectedCount expectedCount =>
      if 0 ≤ expectedCount ∧ ack.expectedCount = none then
        if expectedCount ≤ ack.ackCount then
          some { ack with
            expectedCount := some expectedCount
            completing := ack.completing + 1 }
        else some { ack with expectedCount := some expectedCount }
      else some ack
  | .complete =>
      if 0 < ack.completing then
        some { ack with
          completing := ack.completing - 1
          completed := true
          removing := ack.removing + 1 }
      else none
  | .remove =>
      if 0 < ack.removing then some { ack with removing := ack.removing - 1, stored := false }
      else none
  | .expire =>
      if ack.stored then some { ack with expired := true, expiring := ack.expiring + 1 }
      else none
  | .tryRemove =>
      if 0 < ack.expiring then
        if ack.stored then
          some { ack with
            expiring := ack.expiring - 1
            stored := false
            timingOut := ack.timingOut + 1 }
        else some { ack with expiring := ack.expiring - 1 }
      else none
  | .timeOut =>
      if 0 < ack.timingOut then
        some { ack with
          timingOut := ack.timingOut - 1
          ackCount := ack.expectedCount.getD 0
          forcing := ack.forcing + 1 }
      else none
  | .force =>
      if 0 < ack.forcing then some { ack with forcing := ack.forcing - 1, completed := true }
      else none

namespace MultiAck

variable {ack next : MultiAck}

/-- The expected count is set, and as many acks have been applied. -/
def Reached (ack : MultiAck) : Prop :=
  ∃ expected, ack.expectedCount = some expected ∧ expected.toInt ≤ ack.applied

instance : Decidable ack.Reached :=
  match equation : ack.expectedCount with
  | none => .isFalse (by simp [Reached, equation])
  | some expected =>
      decidable_of_iff (expected.toInt ≤ ack.applied) (by simp [Reached, equation])

/-- No thread is about to do something to it. -/
def Quiet (ack : MultiAck) : Prop :=
  ack.completing = 0 ∧ ack.removing = 0 ∧ ack.expiring = 0 ∧ ack.timingOut = 0 ∧
    ack.forcing = 0

/-- When the expected count is set, the `int` that counts the acks has not
overflowed. -/
def Countable (ack : MultiAck) : MultiAckAction → Prop
  | .setExpectedCount _ => ack.applied < 2 ^ 31
  | .ack | .complete | .remove | .expire | .tryRemove | .timeOut | .force => True

structure Counted (ack : MultiAck) : Prop where
  tally : ack.completed = false → ack.forcing = 0 → ack.ackCount = Int32.ofNat ack.applied
  completing : 0 < ack.completing → ack.Reached ∨ ack.expired = true
  completed : ack.completed = true → ack.Reached ∨ ack.expired = true
  reached : ack.Reached → ack.completed = true ∨ 0 < ack.completing ∨ 0 < ack.timingOut ∨
    0 < ack.forcing
  expired : ack.expired = true → ack.completed = true ∨ 0 < ack.expiring ∨ 0 < ack.timingOut ∨
    0 < ack.forcing
  expiring : 0 < ack.expiring → ack.expired = true
  released : ack.stored = false → ack.completed = true ∨ 0 < ack.timingOut ∨ 0 < ack.forcing
  removing : 0 < ack.removing → ack.completed = true
  emptied : ack.completed = true → ack.stored = false ∨ 0 < ack.removing
  timing : 0 < ack.timingOut ∨ 0 < ack.forcing → ack.stored = false ∧ ack.expired = true

/-! ## Counts -/

theorem toInt_ofNat {number : Nat} (small : number < 2 ^ 31) :
    (Int32.ofNat number).toInt = number := by
  rw [Int32.toInt_ofNat_of_lt small]

/-- An ack that does not overflow the count. -/
theorem toInt_ofNat_succ {expected : Int32} {applied : Nat}
    (pending : (applied : Int) < expected.toInt) :
    (Int32.ofNat applied + 1).toInt = applied + 1 := by
  have bound := expected.toInt_lt
  have small : applied + 1 < 2 ^ 31 := by omega
  have sum : Int32.ofNat applied + 1 = Int32.ofNat (applied + 1) := by
    rw [Int32.ofNat_add]
    rfl
  rw [sum, toInt_ofNat small]
  rfl

namespace Counted

theorem initial : Counted {} where
  tally _ _ := rfl
  completing impossible := absurd impossible (Nat.lt_irrefl 0)
  completed impossible := absurd impossible Bool.false_ne_true
  reached := by
    rintro ⟨expected, impossible, -⟩
    cases impossible
  expired impossible := absurd impossible Bool.false_ne_true
  expiring impossible := absurd impossible (Nat.lt_irrefl 0)
  released impossible := absurd impossible.symm Bool.false_ne_true
  removing impossible := absurd impossible (Nat.lt_irrefl 0)
  emptied impossible := absurd impossible Bool.false_ne_true
  timing := by
    rintro (impossible | impossible)
    · exact absurd impossible (Nat.lt_irrefl 0)
    · exact absurd impossible (Nat.lt_irrefl 0)

/-- The counter tells whether the expected count is reached, unless the task is
to be completed anyway. -/
theorem ack_reached (counted : Counted ack) {expected : Int32}
    (isExpected : ack.expectedCount = some expected) (pendingTask : ack.completed = false)
    (unforced : ack.forcing = 0) (pending : ¬ ack.Reached) :
    expected ≤ ack.ackCount + 1 ↔ expected.toInt ≤ ((ack.applied + 1 : Nat) : Int) := by
  have below : (ack.applied : Int) < expected.toInt := by
    rw [← Int.not_le]
    exact fun reached => pending ⟨expected, isExpected, reached⟩
  rw [Int32.le_iff_toInt_le, counted.tally pendingTask unforced, toInt_ofNat_succ below]
  exact Iff.rfl

/-- An ack leaves in place whatever was to complete the task. When it is the one
that reaches the expected count, its thread goes on to complete it. -/
theorem step_ack (counted : Counted ack) (stepped : multiAckStep ack .ack = some next) :
    Counted next := by
  rw [multiAckStep] at stepped
  cases isExpected : ack.expectedCount with
  | none =>
      simp only [isExpected, Option.some.injEq] at stepped
      subst stepped
      obtain ⟨tally, completing, completed, reached, expired, expiring, released, removing,
        emptied, timing⟩ := counted
      constructor <;> grind -ring -linarith [Reached, Int32.ofNat_add]
  | some expected =>
      have decides := counted.ack_reached isExpected
      simp only [isExpected] at stepped
      obtain ⟨tally, completing, completed, reached, expired, expiring, released, removing,
        emptied, timing⟩ := counted
      split_ifs at stepped with enough
      · rw [Option.some.injEq] at stepped
        subst stepped
        constructor <;> grind -ring -linarith [Reached, Int32.ofNat_add]
      · rw [Option.some.injEq] at stepped
        subst stepped
        constructor <;> grind -ring -linarith [Reached, Int32.ofNat_add]

/-- The acks that came before the expected count are in the counter. -/
theorem step_setExpectedCount (counted : Counted ack) {expectedCount : Int32}
    (few : ack.applied < 2 ^ 31)
    (stepped : multiAckStep ack (.setExpectedCount expectedCount) = some next) :
    Counted next := by
  have decides : ack.completed = false → ack.forcing = 0 →
      (expectedCount ≤ ack.ackCount ↔ expectedCount.toInt ≤ ack.applied) := by
    intro pending unforced
    rw [Int32.le_iff_toInt_le, counted.tally pending unforced, toInt_ofNat few]
  obtain ⟨tally, completing, completed, reached, expired, expiring, released, removing, emptied,
    timing⟩ := counted
  rw [multiAckStep] at stepped
  split_ifs at stepped with first enough
  · rw [Option.some.injEq] at stepped
    subst stepped
    constructor <;> grind -ring -linarith [Reached]
  · rw [Option.some.injEq] at stepped
    subst stepped
    constructor <;> grind -ring -linarith [Reached]
  · rw [Option.some.injEq] at stepped
    rw [← stepped]
    exact ⟨tally, completing, completed, reached, expired, expiring, released, removing,
      emptied, timing⟩

/-- The threads that have found the task complete finish their work. -/
theorem step_finish (counted : Counted ack) {action : MultiAckAction}
    (finishes : action = .complete ∨ action = .remove)
    (stepped : multiAckStep ack action = some next) : Counted next := by
  obtain ⟨tally, completing, completed, reached, expired, expiring, released, removing, emptied,
    timing⟩ := counted
  rcases finishes with rfl | rfl
  all_goals
    rw [multiAckStep] at stepped
    split_ifs at stepped with enabled
    rw [Option.some.injEq] at stepped
    subst stepped
    constructor <;> grind -ring -linarith [Reached]

/-- A sweep passes the stages of `ForceAck`. -/
theorem step_force (counted : Counted ack) {action : MultiAckAction}
    (forces : action = .expire ∨ action = .timeOut ∨ action = .force)
    (stepped : multiAckStep ack action = some next) : Counted next := by
  obtain ⟨tally, completing, completed, reached, expired, expiring, released, removing, emptied,
    timing⟩ := counted
  rcases forces with rfl | rfl | rfl
  all_goals
    rw [multiAckStep] at stepped
    split_ifs at stepped with enabled
    rw [Option.some.injEq] at stepped
    subst stepped
    constructor <;> grind -ring -linarith [Reached]

/-- Only the sweep that removes the entry goes on; another has been here before. -/
theorem step_tryRemove (counted : Counted ack)
    (stepped : multiAckStep ack .tryRemove = some next) : Counted next := by
  rw [multiAckStep] at stepped
  obtain ⟨tally, completing, completed, reached, expired, expiring, released, removing, emptied,
    timing⟩ := counted
  split_ifs at stepped with enabled isStored
  · rw [Option.some.injEq] at stepped
    subst stepped
    constructor <;> grind -ring -linarith [Reached]
  · rw [Option.some.injEq] at stepped
    subst stepped
    constructor <;> grind -ring -linarith [Reached]

theorem step (counted : Counted ack) {action : MultiAckAction}
    (countable : ack.Countable action) (stepped : multiAckStep ack action = some next) :
    Counted next := by
  cases action with
  | ack => exact counted.step_ack stepped
  | setExpectedCount expectedCount => exact counted.step_setExpectedCount countable stepped
  | complete => exact counted.step_finish (.inl rfl) stepped
  | remove => exact counted.step_finish (.inr rfl) stepped
  | expire => exact counted.step_force (.inl rfl) stepped
  | tryRemove => exact counted.step_tryRemove stepped
  | timeOut => exact counted.step_force (.inr (.inl rfl)) stepped
  | force => exact counted.step_force (.inr (.inr rfl)) stepped

/-! ## Results -/

/-- The expected count is set by `SetExpectedCount` alone. -/
theorem expectedCount_of_step {action : MultiAckAction} {expected : Int32}
    (stepped : multiAckStep ack action = some next)
    (isExpected : next.expectedCount = some expected) :
    ack.expectedCount = some expected ∨ action = .setExpectedCount expected := by
  cases action with
  | ack =>
      rw [multiAckStep] at stepped
      left
      split at stepped
      next present =>
        split_ifs at stepped
        · cases stepped
          exact isExpected
        · cases stepped
          exact isExpected
      next absent =>
        cases stepped
        exact isExpected
  | setExpectedCount expectedCount =>
      rw [multiAckStep] at stepped
      split_ifs at stepped
      · cases stepped
        rw [← Option.some.inj isExpected]
        exact .inr rfl
      · cases stepped
        rw [← Option.some.inj isExpected]
        exact .inr rfl
      · cases stepped
        exact .inl isExpected
  | complete | remove | expire | timeOut | force =>
      rw [multiAckStep] at stepped
      split_ifs at stepped
      cases stepped
      exact .inl isExpected
  | tryRemove =>
      rw [multiAckStep] at stepped
      split_ifs at stepped
      · cases stepped
        exact .inl isExpected
      · cases stepped
        exact .inl isExpected

end Counted

/-- Acks are only added, and the expected count stays. -/
structure Growth (ack : MultiAck) (action : MultiAckAction) (next : MultiAck) : Prop where
  applied : next.applied = if action = .ack then ack.applied + 1 else ack.applied
  expectedCount : ∀ expected, ack.expectedCount = some expected →
    next.expectedCount = some expected
  expired : next.expired = true → ack.expired = true ∨ action = .expire

theorem growth_of_step {action : MultiAckAction} (stepped : multiAckStep ack action = some next) :
    Growth ack action next := by
  cases action with
  | ack =>
      rw [multiAckStep] at stepped
      split at stepped
      next =>
        split_ifs at stepped
        · cases stepped
          exact ⟨rfl, fun _ => id, .inl⟩
        · cases stepped
          exact ⟨rfl, fun _ => id, .inl⟩
      next =>
        cases stepped
        exact ⟨rfl, fun _ => id, .inl⟩
  | setExpectedCount expectedCount =>
      rw [multiAckStep] at stepped
      split_ifs at stepped with first
      · cases stepped
        refine ⟨rfl, fun expected isExpected => ?_, .inl⟩
        rw [first.2] at isExpected
        cases isExpected
      · cases stepped
        refine ⟨rfl, fun expected isExpected => ?_, .inl⟩
        rw [first.2] at isExpected
        cases isExpected
      · cases stepped
        exact ⟨rfl, fun _ => id, .inl⟩
  | expire =>
      rw [multiAckStep] at stepped
      split_ifs at stepped
      cases stepped
      exact ⟨rfl, fun _ => id, fun _ => .inr rfl⟩
  | complete | remove | timeOut | force =>
      rw [multiAckStep] at stepped
      split_ifs at stepped
      cases stepped
      exact ⟨rfl, fun _ => id, .inl⟩
  | tryRemove =>
      rw [multiAckStep] at stepped
      split_ifs at stepped
      · cases stepped
        exact ⟨rfl, fun _ => id, .inl⟩
      · cases stepped
        exact ⟨rfl, fun _ => id, .inl⟩

theorem Growth.reached {action : MultiAckAction} (growth : Growth ack action next)
    (reached : ack.Reached) : next.Reached := by
  obtain ⟨expected, isExpected, enough⟩ := reached
  refine ⟨expected, growth.expectedCount expected isExpected, Int.le_trans enough ?_⟩
  rw [growth.applied]
  split_ifs
  · exact Int.ofNat_le.mpr (Nat.le_succ _)
  · exact Int.le_refl _

namespace Counted

/-- When every thread has finished, the task is completed exactly when the
expected count is reached or a sweep has found the ack out of time. -/
theorem completed_iff (counted : Counted ack) (quiet : ack.Quiet) :
    ack.completed = true ↔ ack.Reached ∨ ack.expired = true := by
  obtain ⟨noCompleting, -, noExpiring, noTimingOut, noForcing⟩ := quiet
  constructor
  · exact counted.completed
  · rintro (isReached | isExpired)
    · have pending := counted.reached isReached
      rw [noCompleting, noTimingOut, noForcing] at pending
      simpa using pending
    · have pending := counted.expired isExpired
      rw [noExpiring, noTimingOut, noForcing] at pending
      simpa using pending

theorem not_stored (counted : Counted ack) (isCompleted : ack.completed = true)
    (removed : ack.removing = 0) : ack.stored = false := by
  rcases counted.emptied isCompleted with gone | pending
  · exact gone
  · omega

end Counted

end MultiAck

end AzureSignalR.Utilities
