import AzureSignalR.ServiceConnections.ContainerStatus

/-!
Contract: who writes to `Transport.Output` of a service connection, and when.

Owns: `SafeWriteAsync`, `TrySendPingAsync` and the part of `StartAsync` from the handshake to
the end, the bytes they put out and the write lock between them.

Does not own: the lock itself, which gives mutual exclusion in any order of its waiters, or
what the frames say. A write or a flush may be suspended, and may throw behind any byte.
-/

set_option autoImplicit false

namespace AzureSignalR.ServiceConnections.WriteLock

open Library
open ContainerStatus (ServiceConnectionStatus)

/-- Which frame a byte belongs to. -/
inductive Frame (ι : Type) where
  | handshake
  /-- The message of a call of `SafeWriteAsync`. -/
  | message (writer : ι)
  | ping (number : Nat)
deriving DecidableEq, Repr

/-- Who is inside the write lock. -/
inductive Holder (ι : Type) where
  | start
  | writer (writer : ι)
deriving DecidableEq, Repr

/-- How far a call of `SafeWriteAsync` has got. -/
inductive Writer where
  | idle
  /-- In front of the first check. -/
  | entered
  /-- At `_writeLock.WaitAsync`. -/
  | waiting
  /-- In front of the second check. -/
  | acquired
  | writing (remaining : List UInt8)
  | flushing
  | releasing (written : Bool)
  | returned (written : Bool)
deriving DecidableEq, Repr

/-- How far `StartAsync` has got; the pings are sent by its receive loop. -/
inductive Start where
  | handshaking (remaining : List UInt8)
  /-- The handshake has succeeded. -/
  | established
  | reading
  /-- In `TrySendPingAsync`, inside the lock. -/
  | checkingPing
  | pinging (remaining : List UInt8)
  | flushingPing
  | releasingPing
  /-- `ProcessIncomingAsync` has ended. -/
  | stopping
  /-- In `CleanupClientConnections`, behind `Status = Disconnected`. -/
  | cleaning
  /-- At `_writeLock.WaitAsync`. -/
  | locking
  /-- `DisposeConnection` has started. -/
  | disposing
  | ended
deriving DecidableEq, Repr

structure State (ι : Type) where
  status : ServiceConnectionStatus := .connecting
  /-- Whether `_errorMessage` is set. -/
  errorMessage : Bool := false
  writeLock : Option (Holder ι) := none
  /-- `Transport.Output`, with the frame of each byte. -/
  output : List (Frame ι × UInt8) := []
  start : Start
  writers : ι → Writer := fun _ => .idle
  /-- How many pings have been begun. -/
  pings : Nat := 0

inductive Action (ι : Type) where
  | call (writer : ι)
  | resume (writer : ι)
  /-- The write or the flush of a writer throws. -/
  | throws (writer : ι)
  /-- The next step of `StartAsync`. -/
  | proceed
  | handshakeFails
  /-- `TrySendPingAsync`. -/
  | trySendPing
  /-- The last send is recent. -/
  | skipPing
  | pingThrows
  /-- `ProcessIncomingAsync` ends. -/
  | stop
  /-- `OnServiceErrorAsync` sets the message. -/
  | serviceError
  /-- `OnServiceErrorAsync` or `OfflineAsync` sets the status. -/
  | offline
deriving DecidableEq, Repr

/-- The bytes of the frames. -/
structure Content (ι : Type) where
  handshakeRequest : List UInt8
  messages : ι → List UInt8
  cachedPingBytes : List UInt8

variable {ι : Type} [DecidableEq ι]

def initial (content : Content ι) : State ι :=
  { start := .handshaking content.handshakeRequest }

namespace State

def goTo (state : State ι) (index : ι) (writer : Writer) : State ι :=
  { state with writers := Function.update state.writers index writer }

def put (state : State ι) (frame : Frame ι) (byte : UInt8) : State ι :=
  { state with output := state.output ++ [(frame, byte)] }

end State

/-- The next step of a writer. -/
def resume (content : Content ι) (state : State ι) (index : ι) : Option (State ι) :=
  match state.writers index with
  | .idle | .returned _ => none
  | .entered =>
      if state.errorMessage ∨ state.status ≠ .connected then
        some (state.goTo index (.returned false))
      else some (state.goTo index .waiting)
  | .waiting =>
      if state.writeLock = none then
        some { state.goTo index .acquired with writeLock := some (.writer index) }
      else none
  | .acquired =>
      if state.status ≠ .connected then some (state.goTo index (.releasing false))
      else some (state.goTo index (.writing (content.messages index)))
  | .writing [] => some (state.goTo index .flushing)
  | .writing (byte :: remaining) =>
      some ((state.put (.message index) byte).goTo index (.writing remaining))
  | .flushing => some (state.goTo index (.releasing true))
  | .releasing written =>
      some { state.goTo index (.returned written) with writeLock := none }

/-- The next step of `StartAsync`, if it has only one. -/
def proceed (content : Content ι) (state : State ι) : Option (State ι) :=
  match state.start with
  | .handshaking [] => some { state with start := .established }
  | .handshaking (byte :: remaining) =>
      some { state.put .handshake byte with start := .handshaking remaining }
  | .established => some { state with status := .connected, start := .reading }
  | .checkingPing =>
      some { state with
        start := .pinging content.cachedPingBytes
        pings := state.pings + 1 }
  | .pinging [] => some { state with start := .flushingPing }
  | .pinging (byte :: remaining) =>
      some { state.put (.ping (state.pings - 1)) byte with start := .pinging remaining }
  | .flushingPing => some { state with start := .releasingPing }
  | .releasingPing => some { state with writeLock := none, start := .reading }
  | .stopping => some { state with status := .disconnected, start := .cleaning }
  | .cleaning => some { state with start := .locking }
  | .locking =>
      if state.writeLock = none then
        some { state with writeLock := some .start, start := .disposing }
      else none
  | .disposing => some { state with writeLock := none, start := .ended }
  | .reading | .ended => none

def step (content : Content ι) (state : State ι) : Action ι → Option (State ι)
  | .call index =>
      if state.writers index = .idle then some (state.goTo index .entered) else none
  | .resume index => resume content state index
  | .throws index =>
      match state.writers index with
      | .writing _ | .flushing => some (state.goTo index (.releasing false))
      | _ => none
  | .proceed => proceed content state
  | .handshakeFails =>
      match state.start with
      | .handshaking _ => some { state with status := .disconnected, start := .ended }
      | _ => none
  | .trySendPing =>
      if state.start = .reading then
        if state.writeLock = none then
          some { state with writeLock := some .start, start := .checkingPing }
        else some state
      else none
  | .skipPing =>
      if state.start = .checkingPing then some { state with start := .releasingPing } else none
  | .pingThrows =>
      match state.start with
      | .pinging _ | .flushingPing => some { state with start := .releasingPing }
      | _ => none
  | .stop =>
      if state.start = .reading then some { state with start := .stopping } else none
  | .serviceError => some { state with errorMessage := true }
  | .offline =>
      match state.start with
      | .handshaking _ | .established => none
      | _ => some { state with status := .disconnected }

/-! ## What a step does -/

/-- What a step of a writer does to the connection, and to the writer. -/
inductive Resumes (content : Content ι) (state : State ι) (index : ι) :
    State ι → Writer → Prop where
  | call (writer : state.writers index = .idle) : Resumes content state index state .entered
  | refuse (writer : state.writers index = .entered) :
      Resumes content state index state (.returned false)
  | wait (writer : state.writers index = .entered) : Resumes content state index state .waiting
  | acquire (writer : state.writers index = .waiting) (free : state.writeLock = none) :
      Resumes content state index { state with writeLock := some (.writer index) } .acquired
  | reject (writer : state.writers index = .acquired) :
      Resumes content state index state (.releasing false)
  | begin (writer : state.writers index = .acquired) (connected : state.status = .connected) :
      Resumes content state index state (.writing (content.messages index))
  | put (byte : UInt8) (remaining : List UInt8)
      (writer : state.writers index = .writing (byte :: remaining)) :
      Resumes content state index (state.put (.message index) byte) (.writing remaining)
  | finish (writer : state.writers index = .writing []) :
      Resumes content state index state .flushing
  | flush (writer : state.writers index = .flushing) :
      Resumes content state index state (.releasing true)
  | throw (writer : (∃ remaining, state.writers index = .writing remaining) ∨
        state.writers index = .flushing) :
      Resumes content state index state (.releasing false)
  | release (written : Bool) (writer : state.writers index = .releasing written) :
      Resumes content state index { state with writeLock := none } (.returned written)

/-- What the steps of `StartAsync` do. -/
inductive Proceeds (content : Content ι) (state : State ι) : State ι → Prop where
  | handshake (byte : UInt8) (remaining : List UInt8)
      (start : state.start = .handshaking (byte :: remaining)) :
      Proceeds content state
        { state.put .handshake byte with start := .handshaking remaining }
  | establish (start : state.start = .handshaking []) :
      Proceeds content state { state with start := .established }
  | fail (remaining : List UInt8) (start : state.start = .handshaking remaining) :
      Proceeds content state { state with status := .disconnected, start := .ended }
  | connect (start : state.start = .established) :
      Proceeds content state { state with status := .connected, start := .reading }
  | lockPing (start : state.start = .reading) (free : state.writeLock = none) :
      Proceeds content state { state with writeLock := some .start, start := .checkingPing }
  | beginPing (start : state.start = .checkingPing) :
      Proceeds content state
        { state with start := .pinging content.cachedPingBytes, pings := state.pings + 1 }
  | ping (byte : UInt8) (remaining : List UInt8)
      (start : state.start = .pinging (byte :: remaining)) :
      Proceeds content state
        { state.put (.ping (state.pings - 1)) byte with start := .pinging remaining }
  | flushPing (start : state.start = .pinging []) :
      Proceeds content state { state with start := .flushingPing }
  | finishPing (start : state.start = .checkingPing ∨ (∃ remaining, state.start =
        .pinging remaining) ∨ state.start = .flushingPing) :
      Proceeds content state { state with start := .releasingPing }
  | releasePing (start : state.start = .releasingPing) :
      Proceeds content state { state with writeLock := none, start := .reading }
  | stop (start : state.start = .reading) :
      Proceeds content state { state with start := .stopping }
  | disconnect (start : state.start = .stopping) :
      Proceeds content state { state with status := .disconnected, start := .cleaning }
  | clean (start : state.start = .cleaning) :
      Proceeds content state { state with start := .locking }
  | dispose (start : state.start = .locking) (free : state.writeLock = none) :
      Proceeds content state { state with writeLock := some .start, start := .disposing }
  | finish (start : state.start = .disposing) :
      Proceeds content state { state with writeLock := none, start := .ended }
  | serviceError : Proceeds content state { state with errorMessage := true }
  | offline : Proceeds content state { state with status := .disconnected }
  | nothing : Proceeds content state state

/-- A step is one of a writer or one of `StartAsync`. -/
inductive Steps (content : Content ι) (state : State ι) : State ι → Prop where
  | writer (index : ι) (next : State ι) (writer : Writer)
      (resumes : Resumes content state index next writer) :
      Steps content state (next.goTo index writer)
  | start (next : State ι) (proceeds : Proceeds content state next) : Steps content state next

variable {content : Content ι}

theorem steps_of_resume {state next : State ι} {index : ι}
    (resumed : resume content state index = some next) : Steps content state next := by
  unfold resume at resumed
  split at resumed
  next => cases resumed
  next => cases resumed
  next writer =>
    split_ifs at resumed
    · cases resumed
      exact .writer index _ _ (.refuse writer)
    · cases resumed
      exact .writer index _ _ (.wait writer)
  next writer =>
    split_ifs at resumed with free
    cases resumed
    exact .writer index _ _ (.acquire writer free)
  next writer =>
    split_ifs at resumed with status
    · cases resumed
      exact .writer index _ _ (.reject writer)
    · cases resumed
      exact .writer index _ _ (.begin writer (not_not.mp status))
  next writer =>
    cases resumed
    exact .writer index _ _ (.finish writer)
  next byte remaining writer =>
    cases resumed
    exact .writer index _ _ (.put byte remaining writer)
  next writer =>
    cases resumed
    exact .writer index _ _ (.flush writer)
  next written writer =>
    cases resumed
    exact .writer index _ _ (.release written writer)

theorem steps_of_proceed {state next : State ι}
    (proceeded : proceed content state = some next) : Steps content state next := by
  unfold proceed at proceeded
  split at proceeded
  next start =>
    cases proceeded
    exact .start _ (.establish start)
  next byte remaining start =>
    cases proceeded
    exact .start _ (.handshake byte remaining start)
  next start =>
    cases proceeded
    exact .start _ (.connect start)
  next start =>
    cases proceeded
    exact .start _ (.beginPing start)
  next start =>
    cases proceeded
    exact .start _ (.flushPing start)
  next byte remaining start =>
    cases proceeded
    exact .start _ (.ping byte remaining start)
  next start =>
    cases proceeded
    exact .start _ (.finishPing (.inr (.inr start)))
  next start =>
    cases proceeded
    exact .start _ (.releasePing start)
  next start =>
    cases proceeded
    exact .start _ (.disconnect start)
  next start =>
    cases proceeded
    exact .start _ (.clean start)
  next start =>
    split_ifs at proceeded with free
    cases proceeded
    exact .start _ (.dispose start free)
  next start =>
    cases proceeded
    exact .start _ (.finish start)
  next => cases proceeded
  next => cases proceeded

theorem steps_of_step {state next : State ι} {action : Action ι}
    (stepped : step content state action = some next) : Steps content state next := by
  cases action with
  | call index =>
      simp only [step] at stepped
      split_ifs at stepped with writer
      cases stepped
      exact .writer index _ _ (.call writer)
  | resume index => exact steps_of_resume stepped
  | throws index =>
      simp only [step] at stepped
      split at stepped
      next remaining writer =>
        cases stepped
        exact .writer index _ _ (.throw (.inl ⟨remaining, writer⟩))
      next writer =>
        cases stepped
        exact .writer index _ _ (.throw (.inr writer))
      next => cases stepped
  | proceed => exact steps_of_proceed stepped
  | handshakeFails =>
      simp only [step] at stepped
      split at stepped
      next remaining start =>
        cases stepped
        exact .start _ (.fail remaining start)
      next => cases stepped
  | trySendPing =>
      simp only [step] at stepped
      split_ifs at stepped with start free
      · cases stepped
        exact .start _ (.lockPing start free)
      · cases stepped
        exact .start _ .nothing
  | skipPing =>
      simp only [step] at stepped
      split_ifs at stepped with start
      cases stepped
      exact .start _ (.finishPing (.inl start))
  | pingThrows =>
      simp only [step] at stepped
      split at stepped
      next remaining start =>
        cases stepped
        exact .start _ (.finishPing (.inr (.inl ⟨remaining, start⟩)))
      next start =>
        cases stepped
        exact .start _ (.finishPing (.inr (.inr start)))
      next => cases stepped
  | stop =>
      simp only [step] at stepped
      split_ifs at stepped with start
      cases stepped
      exact .start _ (.stop start)
  | serviceError =>
      cases stepped
      exact .start _ .serviceError
  | offline =>
      simp only [step] at stepped
      split at stepped
      next => cases stepped
      next => cases stepped
      next =>
        cases stepped
        exact .start _ .offline

/-! ## Unbroken frames -/

/-- Nothing stands between two entries that are equal but their equals. -/
def Unbroken {α : Type} (entries : List α) : Prop :=
  ∀ first middle last : Nat, first < middle → middle < last → last < entries.length →
    entries[first]? = entries[last]? → entries[middle]? = entries[first]?

/-- The entry is the last one, if it is there at all. -/
def LastOrAbsent {α : Type} (entries : List α) (entry : α) : Prop :=
  entry ∈ entries → entries.getLast? = some entry

theorem unbroken_append {α : Type} {entries : List α} {entry : α} (unbroken : Unbroken entries)
    (last : LastOrAbsent entries entry) : Unbroken (entries ++ [entry]) := by
  intro first middle position before behind inside same
  rw [List.length_append, List.length_singleton] at inside
  rw [List.getElem?_append_left (by omega)] at same
  rw [List.getElem?_append_left (by omega), List.getElem?_append_left (by omega)]
  by_cases isLast : position = entries.length
  · rw [isLast, List.getElem?_append_right (Nat.le_refl _), Nat.sub_self] at same
    change entries[first]? = some entry at same
    have atEnd := last (List.mem_iff_getElem?.mpr ⟨first, same⟩)
    rw [List.getLast?_eq_getElem?] at atEnd
    by_cases isMiddle : middle = entries.length - 1
    · rw [isMiddle, atEnd, same]
    · exact unbroken first middle (entries.length - 1) before (by omega) (by omega)
        (same.trans atEnd.symm)
  · rw [List.getElem?_append_left (by omega)] at same
    exact unbroken first middle position before behind (by omega) same

theorem lastOrAbsent_append {α : Type} (entries : List α) (entry : α) :
    LastOrAbsent (entries ++ [entry]) entry := fun _ => List.getLast?_concat

/-! ## Who may write -/

/-- The writer is inside the lock. -/
@[simp] def Writer.Holding : Writer → Prop
  | .acquired | .writing _ | .flushing | .releasing _ => True
  | _ => False

/-- No byte of the writer has been put out. -/
@[simp] def Writer.Unwritten : Writer → Prop
  | .idle | .entered | .waiting | .acquired => True
  | _ => False

/-- `StartAsync` is inside the lock. -/
@[simp] def Start.Holding : Start → Prop
  | .checkingPing | .pinging _ | .flushingPing | .releasingPing | .disposing => True
  | _ => False

/-- The status may be `Connected`. -/
@[simp] def Start.Open : Start → Prop
  | .reading | .checkingPing | .pinging _ | .flushingPing | .releasingPing | .stopping => True
  | _ => False

/-- A writer may be writing. -/
@[simp] def Start.Undisposed : Start → Prop
  | .cleaning | .locking => True
  | start => start.Open

/-- `DisposeConnection` has started. -/
@[simp] def Start.Disposed : Start → Prop
  | .disposing | .ended => True
  | _ => False

structure Guarded (state : State ι) : Prop where
  writers : ∀ index, (state.writers index).Holding ↔ state.writeLock = some (.writer index)
  start : state.start.Holding ↔ state.writeLock = some .start
  isOpen : state.status = .connected → state.start.Open
  writing : ∀ index remaining, state.writers index = .writing remaining → state.start.Undisposed

/-- The frames that the bytes of the output belong to. -/
def State.frames (state : State ι) : List (Frame ι) := state.output.map Prod.fst

/-- Who may go on with a frame has put out the last byte, or none of the frame. -/
structure Framed (state : State ι) : Prop where
  unbroken : Unbroken state.frames
  unwritten : ∀ index, (state.writers index).Unwritten → .message index ∉ state.frames
  writing : ∀ index remaining, state.writers index = .writing remaining →
    LastOrAbsent state.frames (.message index)
  pings : ∀ number, state.pings ≤ number → .ping number ∉ state.frames
  pinging : ∀ remaining, state.start = .pinging remaining →
    0 < state.pings ∧ LastOrAbsent state.frames (.ping (state.pings - 1))
  handshaking : ∀ remaining, state.start = .handshaking remaining →
    ∀ frame ∈ state.frames, frame = .handshake

section Invariant

variable {state next : State ι} {index : ι} {writer : Writer}

@[simp] theorem goTo_writers (state : State ι) (index other : ι) (writer : Writer) :
    (state.goTo index writer).writers other =
      if other = index then writer else state.writers other :=
  Function.update_apply ..

omit [DecidableEq ι] in
theorem undisposed_of_open {start : Start} (isOpen : start.Open) : start.Undisposed := by
  cases start <;> trivial

omit [DecidableEq ι] in
/-- What a writer leaves to others. -/
theorem Resumes.unchanged (resumes : Resumes content state index next writer) :
    next.start = state.start ∧ next.status = state.status ∧ next.writers = state.writers ∧
      next.pings = state.pings := by
  cases resumes <;> exact ⟨rfl, rfl, rfl, rfl⟩

omit [DecidableEq ι] in
/-- Only its holder gives the lock up, and only a free lock is taken. -/
theorem Resumes.lock (resumes : Resumes content state index next writer)
    (held : (state.writers index).Holding ↔ state.writeLock = some (.writer index)) :
    (writer.Holding ↔ next.writeLock = some (.writer index)) ∧
      ∀ holder, holder ≠ .writer index →
        (next.writeLock = some holder ↔ state.writeLock = some holder) := by
  cases resumes with
  | acquire isWaiting free => simp [free, eq_comm]
  | release written isReleasing =>
      have isHeld : state.writeLock = some (.writer index) := held.mp (by simp [isReleasing])
      simp [isHeld, eq_comm]
  | throw isInside =>
      have holding : (state.writers index).Holding := by
        rcases isInside with ⟨remaining, isWriting⟩ | isFlushing
        · rw [isWriting]
          trivial
        · rw [isFlushing]
          trivial
      exact ⟨iff_of_true trivial (held.mp holding), fun _ _ => Iff.rfl⟩
  | call was | refuse was | wait was | reject was | begin was | put _ _ was | finish was
  | flush was =>
      -- The stage behind the step is on the same side of the lock.
      rw [was] at held
      exact ⟨held, fun _ _ => Iff.rfl⟩

omit [DecidableEq ι] in
/-- A writer that has begun to write was inside the lock, and found the connection open. -/
theorem Resumes.writing (resumes : Resumes content state index next writer)
    {remaining : List UInt8} (isWriting : writer = .writing remaining) :
    state.status = .connected ∨ ∃ before, state.writers index = .writing before := by
  cases resumes with
  | begin isAcquired connected => exact .inl connected
  | put byte rest wasWriting => exact .inr ⟨_, wasWriting⟩
  | _ => cases isWriting

theorem Guarded.resume (guarded : Guarded state)
    (resumes : Resumes content state index next writer) : Guarded (next.goTo index writer) := by
  obtain ⟨start, status, writers, -⟩ := resumes.unchanged
  obtain ⟨here, elsewhere⟩ := resumes.lock (guarded.writers index)
  refine ⟨?_, ?_, ?_, ?_⟩
  · intro other
    rw [goTo_writers]
    change _ ↔ next.writeLock = some (.writer other)
    split_ifs with same
    · rw [same]
      exact here
    · rw [writers, elsewhere _ fun isSame => same (Holder.writer.inj isSame)]
      exact guarded.writers other
  · change next.start.Holding ↔ next.writeLock = some .start
    rw [start, elsewhere .start nofun]
    exact guarded.start
  · change next.status = .connected → next.start.Open
    rw [status, start]
    exact guarded.isOpen
  · intro other remaining isWriting
    change next.start.Undisposed
    rw [start]
    rw [goTo_writers] at isWriting
    split_ifs at isWriting
    · rcases resumes.writing isWriting with connected | ⟨before, wasWriting⟩
      · exact undisposed_of_open (guarded.isOpen connected)
      · exact guarded.writing index before wasWriting
    · rw [writers] at isWriting
      exact guarded.writing other remaining isWriting

omit [DecidableEq ι] in
theorem Proceeds.lock (proceeds : Proceeds content state next)
    (held : state.start.Holding ↔ state.writeLock = some .start) :
    (next.start.Holding ↔ next.writeLock = some .start) ∧
      ∀ index, next.writeLock = some (.writer index) ↔
        state.writeLock = some (.writer index) := by
  cases proceeds with
  | lockPing isReading free => simp [free]
  | dispose isLocking free => simp [free]
  | releasePing isReleasing =>
      have isHeld : state.writeLock = some .start := held.mp (by simp [isReleasing])
      simp [isHeld]
  | finish isDisposing =>
      have isHeld : state.writeLock = some .start := held.mp (by simp [isDisposing])
      simp [isHeld]
  | finishPing isInside =>
      have holding : state.start.Holding := by
        rcases isInside with was | ⟨remaining, was⟩ | was <;> rw [was] <;> trivial
      exact ⟨iff_of_true trivial (held.mp holding), fun _ => Iff.rfl⟩
  | handshake _ _ was | establish was | fail _ was | connect was | beginPing was | ping _ _ was
  | flushPing was | stop was | disconnect was | clean was =>
      rw [was] at held
      exact ⟨held, fun _ => Iff.rfl⟩
  | serviceError => exact ⟨held, fun _ => Iff.rfl⟩
  | offline => exact ⟨held, fun _ => Iff.rfl⟩
  | nothing => exact ⟨held, fun _ => Iff.rfl⟩

omit [DecidableEq ι] in
/-- `StartAsync` leaves the open connection by `Status = Disconnected`. -/
theorem Proceeds.isOpen (proceeds : Proceeds content state next)
    (wasOpen : state.status = .connected → state.start.Open)
    (connected : next.status = .connected) : next.start.Open := by
  cases proceeds with
  | fail => cases connected
  | disconnect => cases connected
  | offline => cases connected
  | handshake _ _ was | establish was | clean was | dispose was | finish was =>
      have closed := wasOpen connected
      rw [was] at closed
      exact closed.elim
  | serviceError => exact wasOpen connected
  | nothing => exact wasOpen connected
  | connect | lockPing | beginPing | ping | flushPing | finishPing | releasePing | stop => trivial

omit [DecidableEq ι] in
theorem Proceeds.writers (proceeds : Proceeds content state next) :
    next.writers = state.writers := by
  cases proceeds <;> rfl

omit [DecidableEq ι] in
/-- `DisposeConnection` starts when nobody is inside the lock. -/
theorem Proceeds.undisposed (proceeds : Proceeds content state next)
    (before : state.start.Undisposed) (locked : ∃ index, state.writeLock = some (.writer index)) :
    next.start.Undisposed := by
  obtain ⟨index, held⟩ := locked
  cases proceeds with
  | handshake _ _ was | establish was | fail _ was | finish was =>
      rw [was] at before
      exact before.elim
  | dispose isLocking free =>
      rw [free] at held
      cases held
  | serviceError => exact before
  | offline => exact before
  | nothing => exact before
  | _ => trivial

omit [DecidableEq ι] in
theorem Guarded.proceed (guarded : Guarded state) (proceeds : Proceeds content state next) :
    Guarded next := by
  obtain ⟨here, elsewhere⟩ := proceeds.lock guarded.start
  refine ⟨?_, here, proceeds.isOpen guarded.isOpen, ?_⟩
  · intro index
    rw [proceeds.writers, elsewhere]
    exact guarded.writers index
  · intro index remaining isWriting
    rw [proceeds.writers] at isWriting
    exact proceeds.undisposed (guarded.writing index remaining isWriting)
      ⟨index, (guarded.writers index).mp (by simp [isWriting])⟩

omit [DecidableEq ι] in
theorem guarded_initial : Guarded (initial content) := by
  constructor <;> simp [initial]

theorem guarded_step {action : Action ι} (guarded : Guarded state)
    (stepped : step content state action = some next) : Guarded next := by
  cases steps_of_step stepped with
  | writer index next writer resumes => exact guarded.resume resumes
  | start next proceeds => exact guarded.proceed proceeds

/-! ## What is written -/

omit [DecidableEq ι] in
/-- A writer that writes excludes the others, the pings and the handshake. -/
theorem Guarded.exclusive (guarded : Guarded state) {remaining : List UInt8}
    (isWriting : state.writers index = .writing remaining) :
    (∀ other, (state.writers other).Holding → other = index) ∧ ¬ state.start.Holding ∧
      state.start.Undisposed := by
  have held := (guarded.writers index).mp (by simp [isWriting])
  refine ⟨?_, ?_, guarded.writing index remaining isWriting⟩
  · intro other isHolding
    have also := (guarded.writers other).mp isHolding
    rw [held, Option.some.injEq, Holder.writer.injEq] at also
    exact also.symm
  · intro isHolding
    have also := guarded.start.mp isHolding
    rw [held] at also
    cases also

omit [DecidableEq ι] in
@[simp] theorem frames_put (state : State ι) (frame : Frame ι) (byte : UInt8) :
    (state.put frame byte).frames = state.frames ++ [frame] := by
  simp [State.frames, State.put]

/-- A writer puts out a byte of its message. -/
theorem Framed.put (framed : Framed state) (guarded : Guarded state) {byte : UInt8}
    {remaining : List UInt8} (isWriting : state.writers index = .writing (byte :: remaining)) :
    Framed ((state.put (.message index) byte).goTo index (.writing remaining)) := by
  obtain ⟨alone, unlocked, undisposed⟩ := guarded.exclusive isWriting
  have frames : ((state.put (.message index) byte).goTo index (.writing remaining)).frames =
      state.frames ++ [.message index] := frames_put ..
  refine ⟨?_, ?_, ?_, ?_, ?_, ?_⟩
  · rw [frames]
    exact unbroken_append framed.unbroken (framed.writing index _ isWriting)
  · intro other isUnwritten
    rw [goTo_writers] at isUnwritten
    split_ifs at isUnwritten with same
    · exact isUnwritten.elim
    · rw [frames, List.mem_append, List.mem_singleton, Frame.message.injEq, not_or]
      exact ⟨framed.unwritten other isUnwritten, same⟩
  · intro other rest alsoWriting
    rw [goTo_writers] at alsoWriting
    split_ifs at alsoWriting with same
    · rw [frames, same]
      exact lastOrAbsent_append _ _
    · change state.writers other = .writing rest at alsoWriting
      exact absurd (alone other (by simp [alsoWriting])) same
  · intro number new
    rw [frames, List.mem_append, List.mem_singleton, not_or]
    exact ⟨framed.pings number new, nofun⟩
  · intro rest isPinging
    change state.start = .pinging rest at isPinging
    exact absurd (by simp [isPinging]) unlocked
  · intro rest isHandshaking
    change state.start = .handshaking rest at isHandshaking
    rw [isHandshaking] at undisposed
    exact undisposed.elim

/-- A writer that puts nothing out. -/
theorem Framed.goTo (framed : Framed state)
    (unwritten : writer.Unwritten → (state.writers index).Unwritten)
    (writing : ∀ remaining, writer = .writing remaining →
      LastOrAbsent state.frames (.message index)) :
    Framed (state.goTo index writer) where
  unbroken := framed.unbroken
  unwritten := by
    intro other isUnwritten
    rw [goTo_writers] at isUnwritten
    split_ifs at isUnwritten with same
    · rw [same]
      exact framed.unwritten index (unwritten isUnwritten)
    · exact framed.unwritten other isUnwritten
  writing := by
    intro other remaining isWriting
    rw [goTo_writers] at isWriting
    split_ifs at isWriting with same
    · rw [same]
      exact writing remaining isWriting
    · exact framed.writing other remaining isWriting
  pings := framed.pings
  pinging := framed.pinging
  handshaking := framed.handshaking

omit [DecidableEq ι] in
theorem Framed.lock (framed : Framed state) (lock : Option (Holder ι)) :
    Framed { state with writeLock := lock } :=
  ⟨framed.unbroken, framed.unwritten, framed.writing, framed.pings, framed.pinging,
    framed.handshaking⟩

theorem Framed.resume (framed : Framed state) (guarded : Guarded state)
    (resumes : Resumes content state index next writer) : Framed (next.goTo index writer) := by
  cases resumes with
  | put byte remaining isWriting => exact framed.put guarded isWriting
  | acquire isWaiting free =>
      exact (framed.lock _).goTo (fun _ => by simp [isWaiting]) (by simp)
  | release written isReleasing => exact (framed.lock _).goTo (by simp) (by simp)
  | begin isAcquired connected =>
      refine framed.goTo (by simp) fun remaining _ isThere => ?_
      exact absurd isThere (framed.unwritten index (by simp [isAcquired]))
  | call isIdle => exact framed.goTo (fun _ => by simp [isIdle]) (by simp)
  | refuse isEntered => exact framed.goTo (by simp) (by simp)
  | wait isEntered => exact framed.goTo (fun _ => by simp [isEntered]) (by simp)
  | reject isAcquired => exact framed.goTo (by simp) (by simp)
  | finish isWriting => exact framed.goTo (by simp) (by simp)
  | flush isFlushing => exact framed.goTo (by simp) (by simp)
  | throw isWriting => exact framed.goTo (by simp) (by simp)

omit [DecidableEq ι] in
/-- `StartAsync` puts nothing out and does not begin a ping. -/
theorem Framed.move (framed : Framed state) (output : next.output = state.output)
    (writers : next.writers = state.writers) (pings : next.pings = state.pings)
    (start : next.start = state.start ∨
      (∀ remaining, next.start ≠ .pinging remaining) ∧
        ∀ remaining, next.start ≠ .handshaking remaining) :
    Framed next := by
  have frames : next.frames = state.frames := congrArg (List.map Prod.fst) output
  refine ⟨?_, ?_, ?_, ?_, ?_, ?_⟩
  · rw [frames]
    exact framed.unbroken
  · rw [frames, writers]
    exact framed.unwritten
  · rw [frames, writers]
    exact framed.writing
  · rw [frames, pings]
    exact framed.pings
  · intro remaining isPinging
    rw [frames, pings]
    rcases start with same | ⟨notPinging, -⟩
    · exact framed.pinging remaining (same ▸ isPinging)
    · exact absurd isPinging (notPinging remaining)
  · intro remaining isHandshaking
    rw [frames]
    rcases start with same | ⟨-, notHandshaking⟩
    · exact framed.handshaking remaining (same ▸ isHandshaking)
    · exact absurd isHandshaking (notHandshaking remaining)

omit [DecidableEq ι] in
/-- `StartAsync` puts out a byte of a frame that only it writes. -/
theorem Framed.putStart (framed : Framed state) {frame : Frame ι} {byte : UInt8} {start : Start}
    (isLast : LastOrAbsent state.frames frame)
    (notMessage : ∀ index, frame ≠ .message index)
    (alone : ∀ index remaining, state.writers index ≠ .writing remaining)
    (begun : ∀ number, state.pings ≤ number → .ping number ≠ frame)
    (pinging : ∀ remaining, start = .pinging remaining →
      0 < state.pings ∧ frame = .ping (state.pings - 1))
    (handshaking : ∀ remaining, start = .handshaking remaining →
      frame = .handshake ∧ ∀ other ∈ state.frames, other = .handshake) :
    Framed { state.put frame byte with start := start } := by
  have frames : ({ state.put frame byte with start := start } : State ι).frames =
      state.frames ++ [frame] := frames_put ..
  refine ⟨?_, ?_, ?_, ?_, ?_, ?_⟩
  · rw [frames]
    exact unbroken_append framed.unbroken isLast
  · intro index isUnwritten
    rw [frames, List.mem_append, List.mem_singleton, not_or]
    exact ⟨framed.unwritten index isUnwritten, (notMessage index).symm⟩
  · intro index remaining isWriting
    exact absurd isWriting (alone index remaining)
  · intro number new
    rw [frames, List.mem_append, List.mem_singleton, not_or]
    exact ⟨framed.pings number new, begun number new⟩
  · intro remaining isPinging
    obtain ⟨positive, isPing⟩ := pinging remaining isPinging
    refine ⟨positive, ?_⟩
    rw [frames, isPing]
    exact lastOrAbsent_append _ _
  · intro remaining isHandshaking other member
    obtain ⟨isHandshake, before⟩ := handshaking remaining isHandshaking
    rw [frames, List.mem_append, List.mem_singleton] at member
    exact member.elim (before other) fun same => same.trans isHandshake

omit [DecidableEq ι] in
theorem Framed.proceed (framed : Framed state) (guarded : Guarded state)
    (proceeds : Proceeds content state next) : Framed next := by
  cases proceeds with
  | handshake byte remaining isHandshaking =>
      have before := framed.handshaking _ isHandshaking
      refine framed.putStart ?_ nofun ?_ nofun nofun fun _ _ => ⟨rfl, before⟩
      · intro member
        have nonempty : state.frames ≠ [] := List.ne_nil_of_mem member
        rw [List.getLast?_eq_some_getLast nonempty, before _ (List.getLast_mem nonempty)]
      · intro index rest isWriting
        have undisposed := guarded.writing index rest isWriting
        rw [isHandshaking] at undisposed
        exact undisposed
  | ping byte remaining isPinging =>
      obtain ⟨positive, isLast⟩ := framed.pinging _ isPinging
      refine framed.putStart isLast nofun ?_ ?_ (fun _ _ => ⟨positive, rfl⟩) nofun
      · intro index rest isWriting
        exact (guarded.exclusive isWriting).2.1 (by simp [isPinging])
      · intro number new same
        rw [Frame.ping.injEq] at same
        omega
  | beginPing isChecking =>
      refine ⟨framed.unbroken, framed.unwritten, framed.writing, ?_, ?_, nofun⟩
      · intro number new
        change state.pings + 1 ≤ number at new
        exact framed.pings number (by omega)
      · intro remaining isPinging
        refine ⟨Nat.succ_pos _, fun isThere => ?_⟩
        exact absurd isThere (framed.pings state.pings (Nat.le_refl _))
  | serviceError => exact framed.move rfl rfl rfl (.inl rfl)
  | offline => exact framed.move rfl rfl rfl (.inl rfl)
  | nothing => exact framed
  | _ => exact framed.move rfl rfl rfl (.inr ⟨nofun, nofun⟩)

omit [DecidableEq ι] in
theorem framed_initial : Framed (initial content) := by
  constructor <;> simp [initial, State.frames, Unbroken]

theorem framed_step {action : Action ι} (framed : Framed state) (guarded : Guarded state)
    (stepped : step content state action = some next) : Framed next := by
  cases steps_of_step stepped with
  | writer index next writer resumes => exact framed.resume guarded resumes
  | start next proceeds => exact framed.proceed guarded proceeds

/-! ## Behind the disposal -/

theorem not_undisposed {start : Start} (disposed : start.Disposed) : ¬ start.Undisposed := by
  cases start with
  | disposing => exact id
  | ended => exact id
  | _ => cases disposed

/-- Nothing is put out once `DisposeConnection` has started. -/
theorem disposed_step {action : Action ι} (guarded : Guarded state)
    (disposed : state.start.Disposed) (stepped : step content state action = some next) :
    next.start.Disposed ∧ next.output = state.output := by
  cases steps_of_step stepped with
  | writer index next writer resumes =>
      refine ⟨resumes.unchanged.1 ▸ disposed, ?_⟩
      cases resumes with
      | put byte remaining isWriting =>
          exact absurd (guarded.exclusive isWriting).2.2 (not_undisposed disposed)
      | _ => rfl
  | start next proceeds =>
      cases proceeds with
      | finishPing isInside =>
          rcases isInside with was | ⟨remaining, was⟩ | was <;>
            rw [was] at disposed <;> cases disposed
      | finish isDisposing => exact ⟨trivial, rfl⟩
      | fail remaining start => exact ⟨trivial, rfl⟩
      | serviceError => exact ⟨disposed, rfl⟩
      | offline => exact ⟨disposed, rfl⟩
      | nothing => exact ⟨disposed, rfl⟩
      | handshake _ _ was | establish was | connect was | lockPing was | beginPing was
      | ping _ _ was | flushPing was | releasePing was | stop was | disconnect was | clean was
      | dispose was =>
          rw [was] at disposed
          cases disposed

/-- What every step keeps. -/
def Disciplined (state : State ι) : Prop := Guarded state ∧ Framed state

theorem disciplined_step {action : Action ι} (disciplined : Disciplined state)
    (stepped : step content state action = some next) : Disciplined next :=
  ⟨guarded_step disciplined.1 stepped, framed_step disciplined.2 disciplined.1 stepped⟩

/-- What every step keeps behind the disposal. -/
def Frozen (output : List (Frame ι × UInt8)) (state : State ι) : Prop :=
  Guarded state ∧ state.start.Disposed ∧ state.output = output

theorem frozen_step {output : List (Frame ι × UInt8)} {action : Action ι}
    (frozen : Frozen output state) (stepped : step content state action = some next) :
    Frozen output next := by
  obtain ⟨disposed, same⟩ := disposed_step frozen.1 frozen.2.1 stepped
  exact ⟨guarded_step frozen.1 stepped, disposed, same.trans frozen.2.2⟩

end Invariant

/-! ## The discipline -/

/-- The frames in the output are unbroken in every state, and nothing is put out behind a
state in which `DisposeConnection` has started. -/
theorem write_lock_discipline (content : Content ι) (actions : List (Action ι)) {state : State ι}
    (ran : Machine.run (step content) (initial content) actions = some state) :
    Unbroken state.frames ∧
      (state.start.Disposed → ∀ more final, Machine.run (step content) state more = some final →
        final.output = state.output) := by
  have disciplined : Disciplined state :=
    Machine.run_invariant disciplined_step ⟨guarded_initial, framed_initial⟩ ran
  refine ⟨disciplined.2.unbroken, fun disposed more final later => ?_⟩
  have frozen : Frozen state.output final :=
    Machine.run_invariant frozen_step ⟨disciplined.1, disposed, rfl⟩ later
  exact frozen.2.2

/-- A message is written, a ping after it, and a second writer is still waiting for the lock
when the connection is disposed. -/
def waitingWriter : List (Action Bool) :=
  [.proceed, .proceed, .proceed, .call false, .resume false, .resume false, .resume false,
    .resume false, .resume false, .resume false, .resume false, .trySendPing, .proceed, .proceed,
    .proceed, .proceed, .proceed, .trySendPing, .call true, .resume true, .skipPing,
    .proceed, .stop,
    .proceed, .proceed, .proceed]

def smallContent : Content Bool :=
  { handshakeRequest := [1], messages := fun _ => [2], cachedPingBytes := [3] }

theorem write_lock_discipline_waitingWriter :
    ∃ state, Machine.run (step smallContent) (initial smallContent) waitingWriter = some state ∧
      state.frames = [.handshake, .message false, .ping 0] ∧ Unbroken state.frames ∧
      state.start = .disposing ∧ state.writers true = .waiting := by
  refine ⟨_, rfl, rfl, ?_, rfl, rfl⟩
  have discipline := write_lock_discipline smallContent waitingWriter rfl
  exact discipline.1

end AzureSignalR.ServiceConnections.WriteLock
