import Mathlib.Data.List.Basic

/-!
Contract: decoders over a symbol stream and the relation "this input is
exactly one value".

Owns: the decoder monad, the consumption relation, its composition rules and
the counted repetition that length-prefixed collections use.

Does not own: any wire format. The symbol, error and value types are
arbitrary.
-/

set_option autoImplicit false

namespace AzureSignalR.Library

/-- A decoder takes a value off the front of a stream of symbols or fails. -/
abbrev Decoder (σ ε : Type) := StateT (List σ) (Except ε)

namespace Decoder

variable {σ ε α β : Type}

/-- Fail without looking at the stream. -/
def fail (error : ε) : Decoder σ ε α := fun _ => .error error

/-- Replace whatever error `decoder` raises. -/
def orElseError (decoder : Decoder σ ε α) (error : ε) : Decoder σ ε α :=
  fun stream =>
    match decoder.run stream with
    | .ok result => .ok result
    | .error _ => .error error

theorem run_orElseError {decoder : Decoder σ ε α} (error : ε) {stream rest : List σ}
    {value : α} (reads : decoder.run stream = .ok (value, rest)) :
    (decoder.orElseError error).run stream = .ok (value, rest) := by
  change (match decoder.run stream with
    | .ok result => Except.ok result
    | .error _ => Except.error error) = _
  rw [reads]

theorem run_bind_of_run {decoder : Decoder σ ε α} {next : α → Decoder σ ε β} {stream rest : List σ}
    {value : α} (ran : decoder.run stream = .ok (value, rest)) :
    (decoder >>= next).run stream = (next value).run rest := by
  rw [StateT.run_bind, ran]
  rfl

/-- Read a value that is only there when `present`. -/
def guarded (present : Bool) (decoder : Decoder σ ε α) (default : α) :
    Decoder σ ε α :=
  if present then decoder else pure default

/-- The next symbol. -/
def symbol (endOfStream : ε) : Decoder σ ε σ
  | [] => .error endOfStream
  | head :: rest => .ok (head, rest)

/-- The next `count` symbols. -/
def exactly (endOfStream : ε) (count : Nat) : Decoder σ ε (List σ) :=
  fun stream =>
    if count ≤ stream.length then .ok (stream.take count, stream.drop count)
    else .error endOfStream

/-- Run `decode` for the indices `start, ..., start + count - 1`, in order. -/
def repeatFrom (decode : Nat → Decoder σ ε α) (start : Nat) :
    Nat → Decoder σ ε (List α)
  | 0 => pure []
  | count + 1 => do
      let head ← decode start
      let tail ← repeatFrom decode (start + 1) count
      pure (head :: tail)

/-- `decoder` takes exactly `input` off the front of every stream that starts
with it, and returns `value`. -/
def Consumes (decoder : Decoder σ ε α) (input : List σ) (value : α) : Prop :=
  ∀ rest, decoder.run (input ++ rest) = .ok (value, rest)

namespace Consumes

variable {decoder : Decoder σ ε α} {next : α → Decoder σ ε β}
  {input first second : List σ} {value : α} {result : β}

theorem pure_nil (value : α) :
    Consumes (pure value : Decoder σ ε α) [] value :=
  fun _ => rfl

theorem unique {other : α} (reads : Consumes decoder input value)
    (readsOther : Consumes decoder input other) : value = other := by
  have same := (reads []).symm.trans (readsOther [])
  cases same
  rfl

theorem bind (head : Consumes decoder first value)
    (tail : Consumes (next value) second result) :
    Consumes (decoder >>= next) (first ++ second) result := by
  intro rest
  rw [StateT.run_bind, List.append_assoc, head (second ++ rest)]
  exact tail rest

theorem symbol (endOfStream : ε) (head : σ) :
    Consumes (Decoder.symbol endOfStream) [head] head :=
  fun _ => rfl

theorem exactly (endOfStream : ε) (input : List σ) :
    Consumes (Decoder.exactly endOfStream input.length) input input := by
  intro rest
  change (if input.length ≤ (input ++ rest).length then
    Except.ok ((input ++ rest).take input.length, (input ++ rest).drop input.length)
    else Except.error endOfStream) = _
  rw [if_pos (by simp), List.take_left, List.drop_left]

/-- The last part, followed by code that reads nothing. -/
theorem map (function : α → β) (reads : Consumes decoder input value) :
    Consumes (function <$> decoder) input (function value) := by
  intro rest
  rw [StateT.run_map, reads rest]
  rfl

theorem orElseError (reads : Consumes decoder input value) (error : ε) :
    Consumes (decoder.orElseError error) input value :=
  fun rest => run_orElseError error (reads rest)

/-- Replacing the error of a first part that does not fail. -/
theorem orElseError_bind (reads : Consumes (decoder >>= next) input result)
    (error : ε) :
    Consumes (decoder.orElseError error >>= next) input result := by
  intro rest
  have ran := reads rest
  rw [StateT.run_bind] at ran ⊢
  cases outcome : decoder.run (input ++ rest) with
  | error failure =>
      rw [outcome] at ran
      exact nomatch ran
  | ok read =>
      rw [outcome] at ran
      rw [run_orElseError error outcome]
      exact ran

/-- A counted repetition reads a concatenation of encodings. -/
theorem repeatFrom {source : Type} {decode : Nat → Decoder σ ε α}
    {encode : source → List σ} {read : source → α} (items : List source)
    (each : ∀ index, ∀ item ∈ items,
      Consumes (decode index) (encode item) (read item)) (start : Nat) :
    Consumes (repeatFrom decode start items.length)
      (items.flatMap encode) (items.map read) := by
  induction items generalizing start with
  | nil => exact pure_nil []
  | cons head tail inductionHypothesis =>
      have tailReads := inductionHypothesis
        (fun index item member => each index item (List.mem_cons_of_mem _ member))
        (start + 1)
      have consReads : Consumes
          (Decoder.repeatFrom decode (start + 1) tail.length >>= fun values =>
            pure (read head :: values))
          (tail.flatMap encode ++ []) (read head :: tail.map read) :=
        tailReads.bind (pure_nil _)
      rw [List.append_nil] at consReads
      change Consumes
        (decode start >>= fun value =>
          Decoder.repeatFrom decode (start + 1) tail.length >>= fun values =>
            pure (value :: values))
        (encode head ++ tail.flatMap encode) (read head :: tail.map read)
      exact (each start head (by simp)).bind consReads

end Consumes

end Decoder

end AzureSignalR.Library
