import Mathlib.Data.List.Basic

/-!
Contract: clients of a buffer writer, which ask for space, fill a part of it and advance.

Owns: a client as the tree of what it does for each space it is given, what a client commits,
and that a writer which appends what is committed has it in the end.

Does not own: any writer. A client may do something else for every space, and may throw in
between.
-/

set_option autoImplicit false

namespace AzureSignalR.Library.BufferWriter

/-- A client: `GetSpan(sizeHint)`, as many items in front of the span as `fill` gives for its
length, and `Advance` by their number. -/
inductive Client (α ε : Type) where
  | done
  | throws (error : ε)
  | write (sizeHint : Nat) (fill : Nat → List α) (rest : Nat → Client α ε)

/-- What a writer does on its side. -/
structure Writer (σ α : Type) where
  getSpan : σ → Nat → σ × Nat
  advance : σ → List α → σ

variable {α ε σ : Type}

/-- The client commits the items, or throws, whatever space it is given; it fills no more than
that. -/
def Commits : Client α ε → Except ε (List α) → Prop
  | .done, result => result = .ok []
  | .throws error, result => result = .error error
  | .write sizeHint fill rest, result =>
      ∀ space, sizeHint ≤ space → 0 < space → (fill space).length ≤ space ∧
        match result with
        | .error error => Commits (rest space) (.error error)
        | .ok items => ∃ behind, items = fill space ++ behind ∧ Commits (rest space) (.ok behind)

/-- The state behind a client, and what it throws. -/
def run (writer : Writer σ α) : Client α ε → σ → σ × Except ε Unit
  | .done, state => (state, .ok ())
  | .throws error, state => (state, .error error)
  | .write sizeHint fill rest, state =>
      let (given, space) := writer.getSpan state sizeHint
      run writer (rest space) (writer.advance given (fill space))

/-- A writer that gives at least the space it is asked for, and appends what is committed. -/
structure Appends (writer : Writer σ α) (valid : σ → Prop) (contents : σ → List α) : Prop where
  getSpan : ∀ {state}, valid state → ∀ sizeHint,
    sizeHint ≤ (writer.getSpan state sizeHint).2 ∧ 0 < (writer.getSpan state sizeHint).2
  advance : ∀ {state}, valid state → ∀ sizeHint items,
    items.length ≤ (writer.getSpan state sizeHint).2 →
      valid (writer.advance (writer.getSpan state sizeHint).1 items) ∧
        contents (writer.advance (writer.getSpan state sizeHint).1 items) =
          contents state ++ items

variable {writer : Writer σ α} {valid : σ → Prop} {contents : σ → List α}

/-- Behind a client that commits, the writer has what is committed. -/
theorem Appends.run_ok (appends : Appends writer valid contents) {client : Client α ε}
    {items : List α} (commits : Commits client (.ok items)) {state : σ} (start : valid state) :
    (run writer client state).2 = .ok () ∧ valid (run writer client state).1 ∧
      contents (run writer client state).1 = contents state ++ items := by
  induction client generalizing state items with
  | done =>
      cases commits
      exact ⟨rfl, start, (List.append_nil _).symm⟩
  | throws error => cases commits
  | write sizeHint fill rest inductionHypothesis =>
      obtain ⟨enough, positive⟩ := appends.getSpan start sizeHint
      obtain ⟨fits, behind, rfl, commitsBehind⟩ := commits _ enough positive
      obtain ⟨kept, appended⟩ := appends.advance start sizeHint _ fits
      obtain ⟨ends, last, all⟩ := inductionHypothesis _ commitsBehind kept
      refine ⟨ends, last, ?_⟩
      rw [run, all, appended, List.append_assoc]

/-- A client that throws, throws whatever the writer gives it. -/
theorem Appends.run_error (appends : Appends writer valid contents) {client : Client α ε}
    {error : ε} (commits : Commits client (.error error)) {state : σ} (start : valid state) :
    (run writer client state).2 = .error error ∧ valid (run writer client state).1 := by
  induction client generalizing state with
  | done => cases commits
  | throws other =>
      cases commits
      exact ⟨rfl, start⟩
  | write sizeHint fill rest inductionHypothesis =>
      obtain ⟨enough, positive⟩ := appends.getSpan start sizeHint
      obtain ⟨fits, commitsBehind⟩ := commits _ enough positive
      exact inductionHypothesis _ commitsBehind (appends.advance start sizeHint _ fits).1

/-! ## Copying items into a writer -/

/-- The client that fills each space with what is left of the items. Every space takes an item,
so one more than their number bounds the recursion. -/
def copyFrom : (bound : Nat) → (items : List α) → Client α ε
  | 0, _ => .done
  | bound + 1, items =>
      .write 0 (fun space => items.take space) fun space =>
        if items.length ≤ space then .done else copyFrom bound (items.drop space)

/-- It asks for space at least once, also for no items. -/
def copy (items : List α) : Client α ε := copyFrom (items.length + 1) items

theorem copyFrom_commits {bound : Nat} {items : List α} (enough : items.length < bound) :
    Commits (copyFrom bound items : Client α ε) (.ok items) := by
  induction bound generalizing items with
  | zero => omega
  | succ bound inductionHypothesis =>
      intro space _ positive
      refine ⟨List.length_take_le space items, items.drop space,
        (List.take_append_drop space items).symm, ?_⟩
      show Commits (if items.length ≤ space then .done else copyFrom bound (items.drop space)) _
      split_ifs with fits
      · show Except.ok (items.drop space) = .ok []
        rw [List.drop_of_length_le fits]
      · apply inductionHypothesis
        rw [List.length_drop]
        omega

theorem copy_commits (items : List α) : Commits (copy items : Client α ε) (.ok items) :=
  copyFrom_commits (Nat.lt_succ_self _)

/-- `BuffersExtensions.Write`. -/
def write (writer : Writer σ α) (state : σ) (items : List α) : σ :=
  (run writer (copy items : Client α Empty) state).1

theorem Appends.write (appends : Appends writer valid contents) {state : σ} (start : valid state)
    (items : List α) : valid (BufferWriter.write writer state items) ∧
      contents (BufferWriter.write writer state items) = contents state ++ items := by
  obtain ⟨-, kept, appended⟩ := appends.run_ok (copy_commits (ε := Empty) items) start
  exact ⟨kept, appended⟩

end AzureSignalR.Library.BufferWriter
