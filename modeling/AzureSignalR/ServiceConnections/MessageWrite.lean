import AzureSignalR.Library.Enumerable
import AzureSignalR.Protocol.MessagePackFormat
import AzureSignalR.Protocol.ServiceProtocol
import AzureSignalR.ServiceConnections.ConnectionSelection
import Mathlib.Data.List.TakeDrop

/-!
Contract: one call of `WriteMessageAsync` of a container, from its first attempt to its last.

Owns: the retries, `SelectConnection` and `SafeWriteAsync` as one call goes through them, and
what the call puts into the outputs of the connections.

Does not own: the connections, their statuses and their transports. What the call finds of them
in each round is an input, and every round may find something else.
-/

set_option autoImplicit false

namespace AzureSignalR.ServiceConnections.MessageWrite

open Library Protocol
open ConnectionSelection (startIndex startDirection)

def messageWriteMaxRetry : Nat := 3

inductive Failure where
  | serviceConnectionNotActive
  | divideByZero
deriving DecidableEq, Repr

/-- Where `SelectConnection` looks first: each target with what `IsActiveConnection` says of it.
A partition is looked up again inside the lock. -/
inductive Lookup (κ : Type) where
  | scope (target : Option (κ × Bool))
  | partition (target again : Option (κ × Bool))
  | random
deriving DecidableEq, Repr

/-- What `SafeWriteAsync` finds of the connection. -/
structure Transport where
  /-- Whether `_errorMessage` is set. -/
  errorMessage : Bool := false
  connected : Bool := true
  /-- Whether it is still connected inside the write lock. -/
  connectedInLock : Bool := true
  /-- How many bytes the output takes before `WriteMessage` throws, if it throws. -/
  throwsBehind : Option Nat := none
  flushes : Bool := true
deriving DecidableEq, Repr

/-- What one round of the loop finds. -/
structure Round (κ : Type) where
  lookup : Lookup κ
  /-- `ServiceConnections`, with what `IsActiveConnection` says of each. -/
  serviceConnections : List (κ × Bool)
  /-- What `StaticRandom.Next` gives. -/
  initial : Int
  transport : Transport
deriving DecidableEq, Repr

/-- A call of `WriteAsync`, with the bytes it has put into the output. -/
structure Attempt (κ : Type) where
  connection : κ
  put : Bytes
deriving DecidableEq, Repr

structure Outcome (κ : Type) where
  attempts : List (Attempt κ)
  result : Except Failure Unit

variable {κ : Type}

/-! ## Selecting a connection -/

/-- The loop of `GetRandomActiveConnection`, with the retries that are left. -/
def scan (currentConnections : List (κ × Bool)) (direction : Nat) :
    (left index : Nat) → Option κ
  | 0, _ => none
  | left + 1, index =>
      match currentConnections[index]? with
      | some (connection, true) => some connection
      | _ =>
          scan currentConnections direction left
            ((index + direction) % currentConnections.length)

def getRandomActiveConnection (currentConnections : List (κ × Bool)) (initial : Int) :
    Except Failure (Option κ) :=
  let count := currentConnections.length
  -- `% count` throws.
  if count = 0 then .error .divideByZero
  else
    .ok (scan currentConnections (startDirection initial count) count (startIndex initial count))

def activeTarget : Option (κ × Bool) → Option κ
  | some (connection, true) => some connection
  | _ => none

def Lookup.connection : Lookup κ → Option κ
  | .scope target => activeTarget target
  | .partition target again => (activeTarget target).or (activeTarget again)
  | .random => none

def selectConnection (round : Round κ) : Except Failure κ := do
  match round.lookup.connection with
  | some connection => pure connection
  | none =>
      match ← getRandomActiveConnection round.serviceConnections round.initial with
      | some connection => pure connection
      | none => throw .serviceConnectionNotActive

theorem scan_of_inactive {currentConnections : List (κ × Bool)}
    (inactive : ∀ connection ∈ currentConnections, connection.2 = false)
    (direction left index : Nat) : scan currentConnections direction left index = none := by
  induction left generalizing index with
  | zero => rfl
  | succ left inductionHypothesis =>
      rw [scan]
      split
      next connection found => exact nomatch inactive _ (List.mem_of_getElem? found)
      next => exact inductionHypothesis _

/-- Without an active connection `SelectConnection` throws. -/
theorem selectConnection_of_inactive {round : Round κ} (unknown : round.lookup.connection = none)
    (inactive : ∀ connection ∈ round.serviceConnections, connection.2 = false) :
    ∃ failure, selectConnection round = .error failure := by
  rw [selectConnection, unknown, getRandomActiveConnection]
  by_cases empty : round.serviceConnections.length = 0
  · rw [if_pos empty]
    exact ⟨_, rfl⟩
  · rw [if_neg empty, scan_of_inactive inactive]
    exact ⟨_, rfl⟩

/-! ## Writing -/

variable (mp : MessagePack)

/-- The bytes that reach the output, and the result. -/
def safeWriteAsync (message : ServiceMessage) (transport : Transport) : Bytes × Bool :=
  if transport.errorMessage ∨ ¬ transport.connected then ([], false)
  else if ¬ transport.connectedInLock then ([], false)
  else
    match writeMessage mp message, transport.throwsBehind with
    | .error _, _ => ([], false)
    | .ok frame, some accepted => (frame.take accepted, false)
    | .ok frame, none => (frame, transport.flushes)

/-- The loop of `WriteMessageAsync` from `SelectConnection` on; `left` is how often `retry` can
still grow without being `maxRetry`. -/
def tryWrite (message : ServiceMessage) : (left : Nat) → (rounds : Nat → Round κ) → Outcome κ
  | left, rounds =>
      match selectConnection (rounds 0) with
      | .error failure => ⟨[], .error failure⟩
      | .ok connection =>
          let (put, written) := safeWriteAsync mp message (rounds 0).transport
          if written then ⟨[⟨connection, put⟩], .ok ()⟩
          else
            match left with
            | 0 => ⟨[⟨connection, put⟩], .error .serviceConnectionNotActive⟩
            | left + 1 =>
                let outcome := tryWrite message left fun round => rounds (round + 1)
                ⟨⟨connection, put⟩ :: outcome.attempts, outcome.result⟩

def writeMessageAsync (message : ServiceMessage) (rounds : Nat → Round κ) : Outcome κ :=
  tryWrite mp message (messageWriteMaxRetry - 1) rounds

/-! ## Which attempts are made -/

section Attempts

variable {mp} {message : ServiceMessage} {rounds : Nat → Round κ} {transport : Transport}
  {frame : Bytes}

/-- The connection is not in error and connected, outside and inside the lock. -/
def Transport.IsOpen (transport : Transport) : Prop :=
  transport.errorMessage = false ∧ transport.connected ∧ transport.connectedInLock

/-- The output takes all of the frame. -/
def Transport.AcceptsFrame (transport : Transport) (frame : Bytes) : Prop :=
  transport.IsOpen ∧ ∀ accepted ∈ transport.throwsBehind, frame.length ≤ accepted

/-- Neither the write nor the flush throws. -/
def Transport.Succeeds (transport : Transport) : Prop :=
  transport.IsOpen ∧ transport.throwsBehind = none ∧ transport.flushes

theorem written_iff (encoded : writeMessage mp message = .ok frame) :
    (safeWriteAsync mp message transport).2 = true ↔ transport.Succeeds := by
  unfold safeWriteAsync Transport.Succeeds Transport.IsOpen
  rw [encoded]
  cases transport.errorMessage <;> cases transport.connected <;>
    cases transport.connectedInLock <;> cases transport.throwsBehind <;> simp

theorem put_iff (encoded : writeMessage mp message = .ok frame) (notEmpty : frame ≠ []) :
    (safeWriteAsync mp message transport).1 = frame ↔ transport.AcceptsFrame frame := by
  unfold safeWriteAsync Transport.AcceptsFrame Transport.IsOpen
  rw [encoded]
  cases transport.errorMessage <;> cases transport.connected <;>
    cases transport.connectedInLock <;> cases transport.throwsBehind <;>
    simp [notEmpty.symm]

/-- A frame has its length prefix. -/
theorem frame_ne_nil (encoded : writeMessage mp message = .ok frame) : frame ≠ [] := by
  simp only [writeMessage] at encoded
  cases prefixed : BinaryMessage.writeLengthPrefix (mp.encode (writeMessageCore message)).length
      BinaryMessage.maxLengthPrefixSize with
  | error failure =>
      rw [prefixed] at encoded
      cases encoded
  | ok lengthPrefix =>
      rw [prefixed] at encoded
      cases encoded
      exact List.append_ne_nil_of_left_ne_nil (BinaryMessage.writeLengthPrefix_ne_nil prefixed) _

variable (mp message rounds) in
/-- The attempt is made in the round: a connection is selected in each round up to it, and no
attempt before it is written. -/
def Makes (left index : Nat) (attempt : Attempt κ) : Prop :=
  index ≤ left ∧
    (∀ earlier < index, ∃ connection, selectConnection (rounds earlier) = .ok connection ∧
      (safeWriteAsync mp message (rounds earlier).transport).2 = false) ∧
    ∃ connection, selectConnection (rounds index) = .ok connection ∧
      attempt = ⟨connection, (safeWriteAsync mp message (rounds index).transport).1⟩

variable {left index : Nat} {attempt : Attempt κ}

theorem makes_zero_iff : Makes mp message rounds left 0 attempt ↔
    ∃ connection, selectConnection (rounds 0) = .ok connection ∧
      attempt = ⟨connection, (safeWriteAsync mp message (rounds 0).transport).1⟩ := by
  simp [Makes]

theorem makes_succ_iff : Makes mp message rounds (left + 1) (index + 1) attempt ↔
    (∃ connection, selectConnection (rounds 0) = .ok connection ∧
      (safeWriteAsync mp message (rounds 0).transport).2 = false) ∧
      Makes mp message (fun round => rounds (round + 1)) left index attempt := by
  unfold Makes
  constructor
  · rintro ⟨bound, earlier, made⟩
    refine ⟨earlier 0 (Nat.succ_pos index), Nat.le_of_succ_le_succ bound, ?_, made⟩
    intro round isEarlier
    exact earlier (round + 1) (Nat.succ_lt_succ isEarlier)
  · rintro ⟨first, bound, earlier, made⟩
    refine ⟨Nat.succ_le_succ bound, ?_, made⟩
    intro round isEarlier
    cases round with
    | zero => exact first
    | succ round => exact earlier round (Nat.lt_of_succ_lt_succ isEarlier)

theorem attempts_of_error {failure : Failure}
    (selected : selectConnection (rounds 0) = .error failure) :
    (tryWrite mp message left rounds).attempts = [] := by
  cases left <;> simp [tryWrite, selected]

theorem attempts_of_written {connection : κ}
    (selected : selectConnection (rounds 0) = .ok connection)
    (written : (safeWriteAsync mp message (rounds 0).transport).2 = true) :
    (tryWrite mp message left rounds).attempts =
      [⟨connection, (safeWriteAsync mp message (rounds 0).transport).1⟩] := by
  cases left <;> simp [tryWrite, selected, written]

theorem attempts_of_failed {connection : κ}
    (selected : selectConnection (rounds 0) = .ok connection)
    (failed : (safeWriteAsync mp message (rounds 0).transport).2 = false) :
    (tryWrite mp message (left + 1) rounds).attempts =
      ⟨connection, (safeWriteAsync mp message (rounds 0).transport).1⟩ ::
        (tryWrite mp message left fun round => rounds (round + 1)).attempts := by
  conv_lhs => unfold tryWrite
  rw [selected]
  dsimp only
  rw [failed]
  rfl

theorem attempts_of_last {connection : κ}
    (selected : selectConnection (rounds 0) = .ok connection) :
    (tryWrite mp message 0 rounds).attempts =
      [⟨connection, (safeWriteAsync mp message (rounds 0).transport).1⟩] := by
  unfold tryWrite
  rw [selected]
  dsimp only
  split <;> rfl

theorem length_attempts_tryWrite :
    (tryWrite mp message left rounds).attempts.length ≤ left + 1 := by
  induction left generalizing rounds with
  | zero =>
      cases selected : selectConnection (rounds 0) with
      | error failure => simp [attempts_of_error selected]
      | ok connection => simp [attempts_of_last selected]
  | succ left inductionHypothesis =>
      cases selected : selectConnection (rounds 0) with
      | error failure => simp [attempts_of_error selected]
      | ok connection =>
          cases written : (safeWriteAsync mp message (rounds 0).transport).2 with
          | true => simp [attempts_of_written selected written]
          | false =>
              rw [attempts_of_failed selected written, List.length_cons]
              exact Nat.succ_le_succ inductionHypothesis

theorem getElem?_attempts_tryWrite :
    (tryWrite mp message left rounds).attempts[index]? = some attempt ↔
      Makes mp message rounds left index attempt := by
  induction left generalizing rounds index with
  | zero =>
      cases selected : selectConnection (rounds 0) with
      | error failure =>
          rw [attempts_of_error selected]
          cases index with
          | zero => simp [makes_zero_iff, selected]
          | succ index => simp [Makes]
      | ok connection =>
          rw [attempts_of_last selected]
          cases index with
          | zero => simp [makes_zero_iff, selected, eq_comm]
          | succ index => simp [Makes]
  | succ left inductionHypothesis =>
      cases selected : selectConnection (rounds 0) with
      | error failure =>
          rw [attempts_of_error selected]
          cases index with
          | zero => simp [makes_zero_iff, selected]
          | succ index => simp [makes_succ_iff, selected]
      | ok connection =>
          cases written : (safeWriteAsync mp message (rounds 0).transport).2 with
          | true =>
              rw [attempts_of_written selected written]
              cases index with
              | zero => simp [makes_zero_iff, selected, eq_comm]
              | succ index => simp [makes_succ_iff, written]
          | false =>
              rw [attempts_of_failed selected written]
              cases index with
              | zero => simp [makes_zero_iff, selected, eq_comm]
              | succ index =>
                  rw [List.getElem?_cons_succ, inductionHypothesis, makes_succ_iff]
                  simp [selected, written]

end Attempts

/-! ## At most once -/

/-- At most three attempts, and at most one of them puts the frame into an output. -/
def SentAtMostOnce (message : ServiceMessage) (rounds : Nat → Round κ) : Prop :=
  (writeMessageAsync mp message rounds).attempts.length ≤ 3 ∧
    ∀ frame, writeMessage mp message = .ok frame →
      (writeMessageAsync mp message rounds).attempts.countP (·.put = frame) ≤ 1

/-- When an attempt fails with the frame in the output, no attempt that is made after it finds
a connection whose output takes the frame. -/
def NotTakenAgain (message : ServiceMessage) (rounds : Nat → Round κ) : Prop :=
  ∀ frame, writeMessage mp message = .ok frame →
    ∀ first second, first < second → second < messageWriteMaxRetry →
      (∀ round ≤ second, ∃ connection, selectConnection (rounds round) = .ok connection) →
      (∀ round < second, ¬ (rounds round).transport.Succeeds) →
      (rounds first).transport.AcceptsFrame frame → ¬ (rounds second).transport.AcceptsFrame frame

variable {mp} in
theorem sent_iff_notTakenAgain {message : ServiceMessage} {rounds : Nat → Round κ} {frame : Bytes}
    (encoded : writeMessage mp message = .ok frame) :
    (writeMessageAsync mp message rounds).attempts.countP (·.put = frame) ≤ 1 ↔
      ∀ first second, first < second → second < messageWriteMaxRetry →
        (∀ round ≤ second, ∃ connection, selectConnection (rounds round) = .ok connection) →
        (∀ round < second, ¬ (rounds round).transport.Succeeds) →
        (rounds first).transport.AcceptsFrame frame →
          ¬ (rounds second).transport.AcceptsFrame frame := by
  have notEmpty : frame ≠ [] := frame_ne_nil encoded
  rw [Enumerable.countP_le_one_iff, List.pairwise_iff_getElem]
  simp only [decide_eq_true_eq, decide_eq_false_iff_not]
  constructor
  · intro atMostOnce first second precedes bound selected failed accepted again
    have made : ∀ index ≤ second, ∃ connection,
        Makes mp message rounds (messageWriteMaxRetry - 1) index
          ⟨connection, (safeWriteAsync mp message (rounds index).transport).1⟩ := by
      intro index within
      obtain ⟨connection, isSelected⟩ := selected index within
      refine ⟨connection, by omega, ?_, connection, isSelected, rfl⟩
      intro earlier isEarlier
      obtain ⟨other, isSelectedToo⟩ := selected earlier (by omega)
      refine ⟨other, isSelectedToo, ?_⟩
      rw [← Bool.not_eq_true, written_iff encoded]
      exact failed earlier (by omega)
    obtain ⟨connection, madeFirst⟩ := made first precedes.le
    obtain ⟨other, madeSecond⟩ := made second le_rfl
    obtain ⟨firstBound, isFirst⟩ :=
      List.getElem?_eq_some_iff.mp (getElem?_attempts_tryWrite.mpr madeFirst)
    obtain ⟨secondBound, isSecond⟩ :=
      List.getElem?_eq_some_iff.mp (getElem?_attempts_tryWrite.mpr madeSecond)
    refine atMostOnce first second firstBound secondBound precedes ?_ ?_
    · change (tryWrite mp message _ rounds).attempts[first].put = frame
      rw [isFirst]
      exact (put_iff encoded notEmpty).mpr accepted
    · change (tryWrite mp message _ rounds).attempts[second].put = frame
      rw [isSecond]
      exact (put_iff encoded notEmpty).mpr again
  · intro notTaken first second firstBound secondBound precedes putFirst putSecond
    obtain ⟨-, -, connection, selectedFirst, isFirst⟩ :=
      getElem?_attempts_tryWrite.mp (List.getElem?_eq_getElem firstBound)
    obtain ⟨bound, earlier, other, selectedSecond, isSecond⟩ :=
      getElem?_attempts_tryWrite.mp (List.getElem?_eq_getElem secondBound)
    rw [isFirst, put_iff encoded notEmpty] at putFirst
    rw [isSecond, put_iff encoded notEmpty] at putSecond
    refine notTaken first second precedes (Nat.lt_of_le_pred (by decide) bound) ?_ ?_ putFirst
      putSecond
    · intro round within
      rcases within.lt_or_eq with isEarlier | rfl
      · obtain ⟨selected, isSelected, -⟩ := earlier round isEarlier
        exact ⟨selected, isSelected⟩
      · exact ⟨other, selectedSecond⟩
    · intro round isEarlier
      obtain ⟨-, -, failed⟩ := earlier round isEarlier
      rw [← written_iff encoded, failed]
      exact Bool.false_ne_true

theorem message_sent_at_most_once (message : ServiceMessage) (rounds : Nat → Round κ) :
    SentAtMostOnce mp message rounds ↔ NotTakenAgain mp message rounds := by
  constructor
  · rintro ⟨-, atMostOnce⟩ frame encoded
    exact (sent_iff_notTakenAgain encoded).mp (atMostOnce frame encoded)
  · intro notTaken
    refine ⟨length_attempts_tryWrite, ?_⟩
    intro frame encoded
    exact (sent_iff_notTakenAgain encoded).mpr (notTaken frame encoded)

/-- Both connections are found active and accept the frame; the first flush throws. -/
def flushThrows : Nat → Round Nat
  | 0 => ⟨.random, [(7, true), (8, true)], 0, { flushes := false }⟩
  | _ => ⟨.random, [(7, false), (8, true)], 0, {}⟩

theorem message_sent_twice :
    ¬ SentAtMostOnce messagePackFormat (.joinGroup ⟨"c", "g", none⟩) flushThrows := by
  rintro ⟨-, atMostOnce⟩
  have twice := atMostOnce _ rfl
  revert twice
  decide

end AzureSignalR.ServiceConnections.MessageWrite
