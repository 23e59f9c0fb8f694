import Mathlib.Data.List.Basic

/-!
Contract: the reader's side of a byte pipe with consumed and examined
positions.

`ReadAsync` hands out everything that is not consumed. It returns when there
is something the reader has not examined yet, when the writer has completed,
or when the pending read is cancelled; otherwise the reader is suspended.
`AdvanceTo(consumed, examined)` drops the consumed part and remembers how far
the reader has looked.

Does not own: back-pressure. Writes always succeed.
-/

set_option autoImplicit false

namespace AzureSignalR.Library

structure Pipe (β : Type) where
  buffered : List β := []
  /-- Length of the part of `buffered` that the reader has examined. -/
  examined : Nat := 0
  completed : Bool := false
  canceled : Bool := false
deriving DecidableEq, Repr

structure ReadResult (β : Type) where
  buffer : List β
  isCanceled : Bool
  isCompleted : Bool
deriving DecidableEq, Repr

namespace Pipe

variable {β : Type} (pipe : Pipe β)

def write (chunk : List β) : Pipe β := { pipe with buffered := pipe.buffered ++ chunk }

def complete : Pipe β := { pipe with completed := true }

def cancelPendingRead : Pipe β := { pipe with canceled := true }

/-- `ReadAsync` returns without waiting. -/
def Readable : Prop :=
  pipe.canceled = true ∨ pipe.completed = true ∨ pipe.examined < pipe.buffered.length

instance : Decidable pipe.Readable := inferInstanceAs (Decidable (_ ∨ _ ∨ _))

def readResult : ReadResult β :=
  { buffer := pipe.buffered
    isCanceled := pipe.canceled
    isCompleted := pipe.completed }

/-- `AdvanceTo`, after a read that took the cancellation. `left` is what the
reader has not consumed, `unexamined` the length of its unexamined end. -/
def advanceTo (left : List β) (unexamined : Nat) : Pipe β :=
  { pipe with
    buffered := left
    examined := left.length - unexamined
    canceled := false }

/-- The pipe while a reader that lets the writer go on holds what it has read. -/
def lend : Pipe β :=
  { pipe with
    buffered := []
    examined := 0 }

/-- `AdvanceTo` by such a reader, which has examined everything it was given
and has not consumed `left`. -/
def giveBack (left : List β) : Pipe β :=
  { pipe with
    buffered := left ++ pipe.buffered
    examined := left.length }

/-- Bytes that are still to be examined. -/
def unexamined : Nat := pipe.buffered.length - pipe.examined

end Pipe

end AzureSignalR.Library
