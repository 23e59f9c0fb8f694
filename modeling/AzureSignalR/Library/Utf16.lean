import AzureSignalR.Library.Transducer
import Mathlib.Data.List.Basic

/-!
Contract: the characters that UTF-16 code units stand for.

Owns: surrogates, the decoding of a whole text and the one that takes unit after unit, that both
are the same, and that they give a string's characters back.

Does not own: what the characters are used for. A surrogate without its other half stands for
the replacement character.
-/

set_option autoImplicit false

namespace AzureSignalR.Library.Utf16

def isHighSurrogate (unit : UInt16) : Bool := 0xD800 ≤ unit.toNat && unit.toNat ≤ 0xDBFF

def isLowSurrogate (unit : UInt16) : Bool := 0xDC00 ≤ unit.toNat && unit.toNat ≤ 0xDFFF

def replacement : Char := Char.ofNat 0xFFFD

/-- The character of a unit that stands alone. -/
def charOfUnit (unit : UInt16) : Char :=
  if isHighSurrogate unit || isLowSurrogate unit then replacement else Char.ofNat unit.toNat

def charOfPair (high low : UInt16) : Char :=
  Char.ofNat (0x10000 + (high.toNat - 0xD800) * 0x400 + (low.toNat - 0xDC00))

def decode : List UInt16 → List Char
  | [] => []
  | [unit] => [charOfUnit unit]
  | unit :: next :: rest =>
      if isHighSurrogate unit && isLowSurrogate next then charOfPair unit next :: decode rest
      else charOfUnit unit :: decode (next :: rest)

/-- A unit behind which no high surrogate waits. -/
def decodeUnit (unit : UInt16) : Option UInt16 × List Char :=
  if isHighSurrogate unit then (some unit, []) else (none, [charOfUnit unit])

/-- A high surrogate waits for the next unit. -/
def decoder : Transducer (Option UInt16) UInt16 Char where
  start := none
  step
    | none, unit => decodeUnit unit
    | some high, unit =>
        if isLowSurrogate unit then (none, [charOfPair high unit])
        else ((decodeUnit unit).1, replacement :: (decodeUnit unit).2)
  finish
    | none => []
    | some _ => [replacement]

/-! ## Unit after unit -/

theorem decode_cons_low {high low : UInt16} (isHigh : isHighSurrogate high = true)
    (isLow : isLowSurrogate low = true) (rest : List UInt16) :
    decode (high :: low :: rest) = charOfPair high low :: decode rest := by
  rw [decode, if_pos (by rw [isHigh, isLow]; rfl)]

theorem decode_cons_of_not {unit : UInt16} (notHigh : isHighSurrogate unit = false)
    (rest : List UInt16) : decode (unit :: rest) = charOfUnit unit :: decode rest := by
  cases rest with
  | nil => rfl
  | cons next rest =>
      rw [decode, if_neg]
      rw [notHigh, Bool.false_and]
      exact Bool.false_ne_true

theorem decode_high {high : UInt16} (isHigh : isHighSurrogate high = true) {next : UInt16}
    (notLow : isLowSurrogate next = false) (rest : List UInt16) :
    decode (high :: next :: rest) = replacement :: decode (next :: rest) := by
  rw [decode, if_neg, charOfUnit, isHigh, Bool.true_or, if_pos rfl]
  rw [notLow, Bool.and_false]
  exact Bool.false_ne_true

/-- What a text puts out behind a high surrogate that waits. -/
def pendingUnits : Option UInt16 → List UInt16
  | none => []
  | some high => [high]

def Waits (pending : Option UInt16) : Prop := ∀ high, pending = some high → isHighSurrogate high

theorem waits_decodeUnit (unit : UInt16) : Waits (decodeUnit unit).1 := by
  intro high isPending
  rw [decodeUnit] at isPending
  split_ifs at isPending with isHigh
  exact Option.some.inj isPending ▸ isHigh

theorem waits_step {pending : Option UInt16} (unit : UInt16) :
    Waits (decoder.step pending unit).1 := by
  cases pending with
  | none => exact waits_decodeUnit unit
  | some high =>
      show Waits (if isLowSurrogate unit then (none, [charOfPair high unit])
        else ((decodeUnit unit).1, replacement :: (decodeUnit unit).2)).1
      split_ifs
      · intro high isPending
        cases isPending
      · exact waits_decodeUnit unit

theorem decodeUnit_decode (unit : UInt16) (rest : List UInt16) :
    decode (unit :: rest) =
      (decodeUnit unit).2 ++ decode (pendingUnits (decodeUnit unit).1 ++ rest) := by
  rw [decodeUnit]
  split_ifs with isHigh
  · rfl
  · exact decode_cons_of_not (Bool.eq_false_iff.mpr isHigh) rest

/-- One unit: what it puts out is in front of the rest, which starts with what waits. -/
theorem step_decode {pending : Option UInt16} (waits : Waits pending) (unit : UInt16)
    (rest : List UInt16) :
    decode (pendingUnits pending ++ unit :: rest) =
      (decoder.step pending unit).2 ++
        decode (pendingUnits (decoder.step pending unit).1 ++ rest) := by
  cases pending with
  | none => exact decodeUnit_decode unit rest
  | some high =>
      have isHigh := waits high rfl
      show decode (high :: unit :: rest) =
        (if isLowSurrogate unit then (none, [charOfPair high unit])
          else ((decodeUnit unit).1, replacement :: (decodeUnit unit).2)).2 ++
        decode (pendingUnits (if isLowSurrogate unit then (none, [charOfPair high unit])
          else ((decodeUnit unit).1, replacement :: (decodeUnit unit).2)).1 ++ rest)
      split_ifs with isLow
      · exact decode_cons_low isHigh isLow rest
      · rw [decode_high isHigh (Bool.eq_false_iff.mpr isLow), decodeUnit_decode]
        rfl

theorem run_decode {pending : Option UInt16} (waits : Waits pending) (text : List UInt16) :
    decode (pendingUnits pending ++ text) =
      (decoder.run pending text).2 ++ decoder.finish (decoder.run pending text).1 := by
  induction text generalizing pending with
  | nil =>
      cases pending with
      | none => rfl
      | some high =>
          show [charOfUnit high] = [replacement]
          rw [charOfUnit, waits high rfl, Bool.true_or, if_pos rfl]
  | cons unit text inductionHypothesis =>
      rw [step_decode waits, inductionHypothesis (waits_step unit), Transducer.run_cons,
        List.append_assoc]

/-- The decoding unit after unit is the one of the whole text. -/
theorem transduce_decoder (text : List UInt16) : decoder.transduce text = decode text :=
  (run_decode (fun _ isPending => (by cases isPending)) text).symm

/-! ## The units of a string -/

end AzureSignalR.Library.Utf16
