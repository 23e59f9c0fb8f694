import Mathlib.Algebra.GroupWithZero.Nat
import Mathlib.Data.List.Basic

/-!
Contract: the threads of a process as a list, of which one goes on or ends at a time.

Owns: which threads are left when one is replaced or ends, sums over the
threads of a weight for the place each is at, and counters that callers add to.

Does not own: what the threads are. Threads may be equal; one is found by its
position.
-/

set_option autoImplicit false

namespace AzureSignalR.Library.Threads

variable {τ : Type}

variable {threads : List τ} {index : Nat} {thread changed other : τ}

/-! ## Which threads are left -/

theorem mem_set_self (present : threads[index]? = some thread) :
    changed ∈ threads.set index changed := by
  have inside := (List.getElem?_eq_some_iff.mp present).1
  exact List.mem_iff_getElem?.mpr ⟨index, by rw [List.getElem?_set_self inside]⟩

/-- The others stay when one goes on. -/
theorem mem_set_of_ne (present : threads[index]? = some thread) (member : other ∈ threads)
    (differs : other ≠ thread) : other ∈ threads.set index changed := by
  obtain ⟨position, found⟩ := List.mem_iff_getElem?.mp member
  refine List.mem_iff_getElem?.mpr ⟨position, ?_⟩
  rw [List.getElem?_set_ne]
  · exact found
  · rintro rfl
    rw [present, Option.some.injEq] at found
    exact differs found.symm

/-- The others stay when one ends. -/
theorem mem_eraseIdx_of_ne (present : threads[index]? = some thread) (member : other ∈ threads)
    (differs : other ≠ thread) : other ∈ threads.eraseIdx index := by
  rw [List.mem_eraseIdx_iff_getElem?]
  obtain ⟨position, found⟩ := List.mem_iff_getElem?.mp member
  refine ⟨position, ?_, found⟩
  rintro rfl
  rw [present, Option.some.injEq] at found
  exact differs found.symm

/-- A thread that goes on and stays what it is to the others. -/
theorem map_set_of_eq {β : Type} {view : τ → β} (present : threads[index]? = some thread)
    (same : view changed = view thread) :
    (threads.set index changed).map view = threads.map view := by
  obtain ⟨inside, isThread⟩ := List.getElem?_eq_some_iff.mp present
  have viewed : view changed = (threads.map view).get ⟨index, by simpa using inside⟩ := by
    rw [List.get_eq_getElem, List.getElem_map, isThread, same]
  rw [List.map_set, viewed, List.get_eq_getElem, List.set_getElem_self]

/-- When one goes on, another is found where it was. -/
theorem getElem?_set_cases {position : Nat}
    (found : (threads.set index changed)[position]? = some other) :
    position = index ∧ other = changed ∨ position ≠ index ∧ threads[position]? = some other := by
  rw [List.getElem?_set] at found
  split_ifs at found with isHere inside
  · exact .inl ⟨isHere.symm, (Option.some.inj found).symm⟩
  · exact .inr ⟨fun same => isHere same.symm, found⟩

section Modify

variable {position : Nat} {change : τ → τ}

/-- The same, for a thread that goes on as it is. -/
theorem getElem?_modify_cases (found : (threads.modify index change)[position]? = some thread) :
    ∃ before, threads[position]? = some before ∧
      (position = index ∧ thread = change before ∨ position ≠ index ∧ thread = before) := by
  rw [List.getElem?_modify] at found
  obtain ⟨before, present, same⟩ := Option.map_eq_some_iff.mp found
  refine ⟨before, present, ?_⟩
  split_ifs at same with isHere
  · exact .inl ⟨isHere.symm, same.symm⟩
  · exact .inr ⟨fun same => isHere same.symm, same.symm⟩

theorem mem_modify_cases (member : thread ∈ threads.modify index change) :
    thread ∈ threads ∨ ∃ before, threads[index]? = some before ∧ thread = change before := by
  obtain ⟨position, found⟩ := List.mem_iff_getElem?.mp member
  obtain ⟨before, present, ⟨rfl, changed⟩ | ⟨-, rfl⟩⟩ := getElem?_modify_cases found
  · exact .inr ⟨before, present, changed⟩
  · exact .inl (List.mem_of_getElem? present)

end Modify

/-! ## The first thread of a kind -/

section First

variable {kind : τ → Bool} {first : τ}

theorem find?_of_take (present : threads[index]? = some thread)
    (before : ∀ other ∈ threads.take index, kind other = false) (isKind : kind thread = true) :
    threads.find? kind = some thread := by
  induction threads generalizing index with
  | nil => cases present
  | cons head tail inductionHypothesis =>
      cases index with
      | zero =>
          cases present
          exact List.find?_cons_of_pos isKind
      | succ index =>
          rw [List.take_succ_cons] at before
          rw [List.find?_cons_of_neg (Bool.eq_false_iff.mp (before head List.mem_cons_self))]
          exact inductionHypothesis present fun other member =>
            before other (List.mem_cons_of_mem _ member)

/-- A thread that goes on stays of its kind, and what comes first stays first. -/
theorem find?_set (present : threads[index]? = some thread) (same : kind changed = kind thread) :
    (threads.set index changed).find? kind = threads.find? kind ∨
      threads.find? kind = some thread ∧
        (threads.set index changed).find? kind = some changed := by
  induction threads generalizing index with
  | nil => cases present
  | cons head tail inductionHypothesis =>
      cases index with
      | zero =>
          cases present
          rw [List.set_cons_zero]
          cases isKind : kind thread with
          | true =>
              exact .inr ⟨List.find?_cons_of_pos isKind,
                List.find?_cons_of_pos (same.trans isKind)⟩
          | false =>
              left
              rw [List.find?_cons_of_neg (Bool.eq_false_iff.mp isKind),
                List.find?_cons_of_neg (Bool.eq_false_iff.mp (same.trans isKind))]
      | succ index =>
          rw [List.set_cons_succ]
          cases isKind : kind head with
          | true =>
              left
              rw [List.find?_cons_of_pos isKind, List.find?_cons_of_pos isKind]
          | false =>
              rw [List.find?_cons_of_neg (Bool.eq_false_iff.mp isKind),
                List.find?_cons_of_neg (Bool.eq_false_iff.mp isKind)]
              exact inductionHypothesis present

/-- What comes first stays first when another thread ends. -/
theorem find?_eraseIdx (present : threads[index]? = some thread)
    (found : threads.find? kind = some first) (differs : thread ≠ first) :
    (threads.eraseIdx index).find? kind = some first := by
  induction threads generalizing index with
  | nil => cases present
  | cons head tail inductionHypothesis =>
      cases isKind : kind head with
      | true =>
          rw [List.find?_cons_of_pos isKind, Option.some.injEq] at found
          subst found
          cases index with
          | zero =>
              cases present
              exact absurd rfl differs
          | succ index =>
              rw [List.eraseIdx_cons_succ]
              exact List.find?_cons_of_pos isKind
      | false =>
          rw [List.find?_cons_of_neg (Bool.eq_false_iff.mp isKind)] at found
          cases index with
          | zero => exact found
          | succ index =>
              rw [List.eraseIdx_cons_succ,
                List.find?_cons_of_neg (Bool.eq_false_iff.mp isKind)]
              exact inductionHypothesis present found

end First

/-! ## Weights -/

/-- The sum of the weights of the threads. -/
def total (weight : τ → Nat) (threads : List τ) : Nat := (threads.map weight).sum

variable (weight : τ → Nat)

@[simp] theorem total_nil : total weight [] = 0 := rfl

@[simp] theorem total_cons :
    total weight (thread :: threads) = weight thread + total weight threads :=
  rfl

@[simp] theorem total_append (added : List τ) :
    total weight (threads ++ added) = total weight threads + total weight added := by
  simp [total]

theorem total_set (changed : τ) (present : threads[index]? = some thread) :
    total weight (threads.set index changed) + weight thread =
      total weight threads + weight changed := by
  induction threads generalizing index with
  | nil => cases present
  | cons head tail inductionHypothesis =>
      cases index with
      | zero =>
          cases present
          rw [List.set_cons_zero, total_cons, total_cons]
          omega
      | succ index =>
          have later := inductionHypothesis present
          rw [List.set_cons_succ, total_cons, total_cons]
          omega

theorem total_eraseIdx (present : threads[index]? = some thread) :
    total weight (threads.eraseIdx index) + weight thread = total weight threads := by
  induction threads generalizing index with
  | nil => cases present
  | cons head tail inductionHypothesis =>
      cases index with
      | zero =>
          cases present
          rw [List.eraseIdx_cons_zero, total_cons]
          omega
      | succ index =>
          have later := inductionHypothesis present
          rw [List.eraseIdx_cons_succ, total_cons, total_cons]
          omega

theorem weight_le_total (member : thread ∈ threads) : weight thread ≤ total weight threads := by
  obtain ⟨position, present⟩ := List.mem_iff_getElem?.mp member
  have erased := total_eraseIdx weight present
  omega

/-- Two different threads. -/
theorem add_weight_le_total (present : threads[index]? = some thread) (member : other ∈ threads)
    (differs : other ≠ thread) : weight thread + weight other ≤ total weight threads := by
  have erased := total_eraseIdx weight present
  have remains := mem_eraseIdx_of_ne present member differs
  have below := weight_le_total weight remains
  omega

theorem total_eq_zero (none : ∀ thread ∈ threads, weight thread = 0) :
    total weight threads = 0 := by
  induction threads with
  | nil => rfl
  | cons head tail inductionHypothesis =>
      rw [total_cons, none head List.mem_cons_self, Nat.zero_add]
      exact inductionHypothesis fun other member => none other (List.mem_cons_of_mem _ member)

/-- A weight that no thread has more of. -/
theorem total_mono {heavier : τ → Nat}
    (less : ∀ thread ∈ threads, weight thread ≤ heavier thread) :
    total weight threads ≤ total heavier threads := by
  induction threads with
  | nil => exact Nat.le_refl 0
  | cons head tail inductionHypothesis =>
      have here := less head List.mem_cons_self
      have later := inductionHypothesis fun other member =>
        less other (List.mem_cons_of_mem _ member)
      rw [total_cons, total_cons]
      omega

/-! ## Counters -/

section Counters

variable {ι : Type} [DecidableEq ι] {counter : Nat} {shares : ι → Nat} {one other : ι}

/-- A counter that is the sum of what finitely many of the callers have added. -/
def Tallies (counter : Nat) (shares : ι → Nat) : Prop :=
  ∃ holders : List ι, holders.length = counter ∧ ∀ holder, holders.count holder = shares holder

theorem tallies_zero : Tallies 0 (fun _ : ι => 0) := ⟨[], rfl, fun _ => rfl⟩

namespace Tallies

theorem increment (tallies : Tallies counter shares) (caller : ι) :
    Tallies (counter + 1) (Function.update shares caller (shares caller + 1)) := by
  obtain ⟨holders, rfl, counts⟩ := tallies
  refine ⟨caller :: holders, rfl, ?_⟩
  intro holder
  rw [List.count_cons, counts]
  by_cases isCaller : holder = caller
  · rw [isCaller, Function.update_self, if_pos (beq_self_eq_true caller)]
  · rw [Function.update_of_ne isCaller, if_neg (by simpa using Ne.symm isCaller), Nat.add_zero]

theorem decrement (tallies : Tallies counter shares) (caller : ι) (holds : 0 < shares caller) :
    Tallies (counter - 1) (Function.update shares caller (shares caller - 1)) := by
  obtain ⟨holders, rfl, counts⟩ := tallies
  have member : caller ∈ holders := List.count_pos_iff.mp (by rw [counts]; exact holds)
  refine ⟨holders.erase caller, List.length_erase_of_mem member, ?_⟩
  intro holder
  rw [List.count_erase, counts]
  by_cases isCaller : holder = caller
  · rw [isCaller, Function.update_self, if_pos (beq_self_eq_true caller)]
  · rw [Function.update_of_ne isCaller, if_neg (by simpa using Ne.symm isCaller), Nat.sub_zero]

theorem share_le (tallies : Tallies counter shares) (caller : ι) : shares caller ≤ counter := by
  obtain ⟨holders, rfl, counts⟩ := tallies
  rw [← counts]
  exact List.count_le_length

/-- Two different callers hold it. -/
theorem two_le (tallies : Tallies counter shares) (differs : one ≠ other)
    (holds : 0 < shares one) (alsoHolds : 0 < shares other) : 2 ≤ counter := by
  have remaining := (tallies.decrement one holds).share_le other
  rw [Function.update_of_ne differs.symm] at remaining
  omega

theorem counter_eq_zero (tallies : Tallies counter shares) (none : ∀ caller, shares caller = 0) :
    counter = 0 := by
  obtain ⟨holders, rfl, counts⟩ := tallies
  rw [List.length_eq_zero_iff, List.eq_nil_iff_forall_not_mem]
  intro holder member
  have counted := List.count_pos_iff.mpr member
  rw [counts, none] at counted
  exact Nat.lt_irrefl 0 counted

end Tallies

end Counters
end AzureSignalR.Library.Threads
