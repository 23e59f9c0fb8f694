import Mathlib.Data.List.Basic

/-!
Contract: what may not happen between two events of a trace.

Owns: "an event has happened and none that ends it has happened since", traces
in which certain events never occur in such an interval, and how both grow
with the trace.

Does not own: any particular events; `start`, `stop` and `forbidden` are
arbitrary predicates.
-/

set_option autoImplicit false

namespace AzureSignalR.Library.Trace

variable {ε : Type} (start stop forbidden : ε → Prop)

/-- Some `start` event has not been followed by a `stop` event. -/
def Pending (trace : List ε) : Prop :=
  ∃ before event after, trace = before ++ event :: after ∧ start event ∧
    ∀ later ∈ after, ¬ stop later

/-- No `forbidden` event happens while a `start` event is pending. -/
def Separated (trace : List ε) : Prop :=
  ∀ before event after, trace = before ++ event :: after → forbidden event →
    ¬ Pending start stop before

variable {start stop forbidden} {trace : List ε} {event : ε}

theorem not_pending_nil : ¬ Pending start stop [] := by
  rintro ⟨before, event, after, split, -⟩
  simp at split

theorem separated_nil : Separated start stop forbidden [] := by
  intro before event after split
  simp at split

/-- The last event of a trace is the given one, or the split is further left. -/
theorem split_snoc {before after : List ε} {first : ε}
    (split : trace ++ [event] = before ++ first :: after) :
    (before = trace ∧ first = event ∧ after = []) ∨
      ∃ rest, after = rest ++ [event] ∧ trace = before ++ first :: rest := by
  rcases List.eq_nil_or_concat after with empty | ⟨rest, last, concat⟩
  · rw [empty] at split
    obtain ⟨same, last⟩ := List.append_inj' split rfl
    left
    exact ⟨same.symm, (List.singleton_inj.mp last).symm, empty⟩
  · right
    rw [List.concat_eq_append] at concat
    rw [concat, ← List.cons_append, ← List.append_assoc] at split
    obtain ⟨same, final⟩ := List.append_inj' split rfl
    refine ⟨rest, ?_, same⟩
    rw [concat, List.singleton_inj.mp final]

theorem pending_snoc :
    Pending start stop (trace ++ [event]) ↔
      start event ∨ (Pending start stop trace ∧ ¬ stop event) := by
  constructor
  · rintro ⟨before, first, after, split, starts, open_⟩
    rcases split_snoc split with ⟨-, same, -⟩ | ⟨rest, tail, earlier⟩
    · left
      exact same ▸ starts
    · right
      rw [tail] at open_
      refine ⟨⟨before, first, rest, earlier, starts, ?_⟩, ?_⟩
      · intro later member
        exact open_ later (List.mem_append_left _ member)
      · exact open_ event (by simp)
  · rintro (starts | ⟨⟨before, first, after, split, starts, open_⟩, goesOn⟩)
    · exact ⟨trace, event, [], rfl, starts, by simp⟩
    · refine ⟨before, first, after ++ [event], ?_, starts, ?_⟩
      · rw [split, List.append_assoc]
        rfl
      · intro later member
        rcases List.mem_append.mp member with earlier | itself
        · exact open_ later earlier
        · rw [List.mem_singleton.mp itself]
          exact goesOn

theorem separated_snoc :
    Separated start stop forbidden (trace ++ [event]) ↔
      Separated start stop forbidden trace ∧
        (forbidden event → ¬ Pending start stop trace) := by
  constructor
  · intro separated
    refine ⟨?_, fun bad => separated trace event [] rfl bad⟩
    intro before first after split
    apply separated before first (after ++ [event])
    rw [split, List.append_assoc]
    rfl
  · rintro ⟨separated, last⟩ before first after split bad
    rcases split_snoc split with ⟨same, itself, -⟩ | ⟨rest, -, earlier⟩
    · rw [same]
      exact last (itself ▸ bad)
    · exact separated before first rest earlier bad

end AzureSignalR.Library.Trace
