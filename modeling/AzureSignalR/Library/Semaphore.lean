import Mathlib.Data.List.Basic

/-!
Contract: a counting semaphore with a queue of asynchronous waiters.

`wait` takes a permit or joins the queue. `release` hands the permit to the
first waiter, without making it visible to anybody else, and adds it to the
count when nobody waits; it fails when the count is at its maximum.

`ω` names the waiters; a waiter that gives up leaves the queue.
-/

set_option autoImplicit false

namespace AzureSignalR.Library

structure Semaphore (ω : Type) where
  count : Nat
  waiters : List ω := []
deriving DecidableEq, Repr

namespace Semaphore

variable {ω : Type} (semaphore : Semaphore ω)

/-- Whether a permit was taken, and the semaphore afterwards. -/
def wait (waiter : ω) : Bool × Semaphore ω :=
  if 0 < semaphore.count then
    (true, { semaphore with count := semaphore.count - 1 })
  else (false, { semaphore with waiters := semaphore.waiters ++ [waiter] })

/-- The waiter that is given the permit, and the semaphore afterwards. -/
def release (maxCount : Nat) : Option (Option ω × Semaphore ω) :=
  if maxCount ≤ semaphore.count then none
  else
    match semaphore.waiters with
    | [] => some (none, { semaphore with count := semaphore.count + 1 })
    | waiter :: others => some (some waiter, { semaphore with waiters := others })

def giveUp [BEq ω] (waiter : ω) : Semaphore ω :=
  { semaphore with waiters := semaphore.waiters.erase waiter }

variable {semaphore} {after : Semaphore ω} {waiter : ω} {maxCount : Nat}

theorem wait_acquired (waited : semaphore.wait waiter = (true, after)) :
    0 < semaphore.count ∧ after = { semaphore with count := semaphore.count - 1 } := by
  rw [wait] at waited
  split_ifs at waited with free
  · exact ⟨free, (congrArg Prod.snd waited).symm⟩
  · exact nomatch congrArg Prod.fst waited

theorem wait_queued (waited : semaphore.wait waiter = (false, after)) :
    semaphore.count = 0 ∧
      after = { semaphore with waiters := semaphore.waiters ++ [waiter] } := by
  rw [wait] at waited
  split_ifs at waited with free
  · exact nomatch congrArg Prod.fst waited
  · exact ⟨by omega, (congrArg Prod.snd waited).symm⟩

theorem release_full (released : semaphore.release maxCount = none) :
    maxCount ≤ semaphore.count := by
  rw [release] at released
  split_ifs at released with full
  · exact full
  · split at released <;> exact nomatch released

theorem release_idle (released : semaphore.release maxCount = some (none, after)) :
    semaphore.count < maxCount ∧ semaphore.waiters = [] ∧
      after = { semaphore with count := semaphore.count + 1 } := by
  rw [release] at released
  split_ifs at released with full
  split at released
  next empty =>
    simp only [Option.some.injEq, Prod.mk.injEq, true_and] at released
    exact ⟨by omega, empty, released.symm⟩
  next => simp at released

theorem release_handed (released : semaphore.release maxCount = some (some waiter, after)) :
    semaphore.count < maxCount ∧ semaphore.waiters = waiter :: after.waiters ∧
      after.count = semaphore.count := by
  rw [release] at released
  split_ifs at released with full
  split at released
  next => simp at released
  next first others queue =>
    simp only [Option.some.injEq, Prod.mk.injEq] at released
    obtain ⟨rfl, rfl⟩ := released
    exact ⟨by omega, queue, rfl⟩

end Semaphore

end AzureSignalR.Library
