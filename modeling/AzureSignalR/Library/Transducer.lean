import Mathlib.Data.List.Basic

/-!
Contract: encoders that keep a state between the pieces of an input.

Owns: transducers, what they put out for a piece and for a whole input, and that an input cut
into pieces puts out what the whole does.

Does not own: any encoding. The states, items and outputs are arbitrary.
-/

set_option autoImplicit false

namespace AzureSignalR.Library

/-- Each item puts something out at once; the state that is left puts out the rest in the end. -/
structure Transducer (σ α β : Type) where
  start : σ
  step : σ → α → σ × List β
  finish : σ → List β

namespace Transducer

variable {σ α β γ : Type} (transducer : Transducer σ α β)

def run (state : σ) : List α → σ × List β
  | [] => (state, [])
  | item :: rest =>
      let (next, output) := transducer.step state item
      let (last, more) := run next rest
      (last, output ++ more)

/-- With `flush`, the piece is the last of its input, and the next piece starts another one. -/
def feed (state : σ) (items : List α) (flush : Bool) : σ × List β :=
  let (last, output) := transducer.run state items
  if flush then (transducer.start, output ++ transducer.finish last) else (last, output)

/-- What an input puts out in the end. -/
def transduce (items : List α) : List β :=
  (transducer.feed transducer.start items true).2

/-- What an input has put out before its end. -/
def early (items : List α) : List β := (transducer.run transducer.start items).2

/-- Put out `write item` for each item of the output. -/
def mapOutput (write : β → List γ) : Transducer σ α γ where
  start := transducer.start
  step state item := ((transducer.step state item).1, (transducer.step state item).2.flatMap write)
  finish state := (transducer.finish state).flatMap write

theorem run_cons (state : σ) (item : α) (rest : List α) :
    transducer.run state (item :: rest) =
      ((transducer.run (transducer.step state item).1 rest).1,
        (transducer.step state item).2 ++
          (transducer.run (transducer.step state item).1 rest).2) :=
  rfl

theorem run_append (state : σ) (first second : List α) :
    transducer.run state (first ++ second) =
      ((transducer.run (transducer.run state first).1 second).1,
        (transducer.run state first).2 ++
          (transducer.run (transducer.run state first).1 second).2) := by
  induction first generalizing state with
  | nil => rfl
  | cons item first inductionHypothesis =>
      rw [List.cons_append, run_cons, inductionHypothesis, run_cons, List.append_assoc]

theorem early_append (first second : List α) :
    transducer.early first <+: transducer.early (first ++ second) := by
  rw [early, early, run_append]
  exact List.prefix_append _ _

theorem early_transduce (items : List α) :
    transducer.early items <+: transducer.transduce items :=
  List.prefix_append _ _

/-- What is put out for a piece is behind what came out of the input in front of it. -/
theorem early_feed (front piece : List α) :
    transducer.early front ++
        (transducer.feed (transducer.run transducer.start front).1 piece false).2 =
      transducer.early (front ++ piece) := by
  rw [early, early, run_append]
  rfl

theorem state_feed (front piece : List α) :
    (transducer.feed (transducer.run transducer.start front).1 piece false).1 =
      (transducer.run transducer.start (front ++ piece)).1 := by
  rw [run_append]
  rfl

/-- The last piece completes the input. -/
theorem transduce_feed (front piece : List α) :
    transducer.early front ++
        (transducer.feed (transducer.run transducer.start front).1 piece true).2 =
      transducer.transduce (front ++ piece) := by
  show _ = (transducer.run transducer.start (front ++ piece)).2 ++
    transducer.finish (transducer.run transducer.start (front ++ piece)).1
  rw [run_append, List.append_assoc]
  rfl

theorem run_mapOutput (write : β → List γ) (state : σ) (items : List α) :
    (transducer.mapOutput write).run state items =
      ((transducer.run state items).1, (transducer.run state items).2.flatMap write) := by
  induction items generalizing state with
  | nil => rfl
  | cons item items inductionHypothesis =>
      rw [run_cons, inductionHypothesis, run_cons, List.flatMap_append]
      rfl

theorem transduce_mapOutput (write : β → List γ) (items : List α) :
    (transducer.mapOutput write).transduce items = (transducer.transduce items).flatMap write := by
  show ((transducer.mapOutput write).run _ items).2 ++ _ = _
  rw [run_mapOutput]
  exact (List.flatMap_append ..).symm

end Transducer

end AzureSignalR.Library
