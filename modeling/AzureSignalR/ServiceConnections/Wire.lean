import Mathlib.Data.List.Forall2
import AzureSignalR.Protocol.RoundTrip
import AzureSignalR.ServiceConnections.ReceiveDelivery
import AzureSignalR.ServiceConnections.WriteLock

/-!
Contract: what the other end of a service connection reads off the bytes that are put out.

Owns: the frame that `WriteMessage` makes of a message, the frames in the output of any number
of calls of `SafeWriteAsync` beside the handshake and the pings, and the stream of written
messages as the receive loop dispatches it.

Does not own: a write that throws behind some of its bytes. Nothing marks the frame it leaves
unfinished, so nothing is said of what is put out behind it.
-/

set_option autoImplicit false

namespace AzureSignalR.ServiceConnections.Wire

open Library Protocol WriteLock
open BinaryMessage (frameParser)

/-! ## The frame of a message -/

section Frames

variable (mp : MessagePack) (toUpperInvariant : Char → Char)

/-- The other end reads the message back, if the frame is short enough for its parser. -/
structure Writable (message : ServiceMessage) : Prop where
  distinct : DistinctKeys (ordinalIgnoreCase toUpperInvariant) message.headers
  size : (mp.encode (writeMessageCore message)).length < 2 ^ 31 - 5

/-- The frame carries the message, as the other end sees it. -/
structure Carries (message : ServiceMessage) (frame : BinaryMessage.Frame) : Prop where
  addressable : frame.Addressable
  parsed : frameMessage mp toUpperInvariant frame.body = some (some message.normalize)

variable {mp toUpperInvariant}

theorem carries_of_writeMessage (lawful : mp.Lawful) {message : ServiceMessage} {written : Bytes}
    (writable : Writable mp toUpperInvariant message)
    (isWritten : writeMessage mp message = .ok written) :
    ∃ frame : BinaryMessage.Frame, frame.bytes = written ∧
      Carries mp toUpperInvariant message frame := by
  have size := writable.size
  have fits : mp.Fits (writeMessageCore message) := by
    unfold MessagePack.Fits
    omega
  obtain ⟨frame, body, prefixed⟩ :=
    BinaryMessage.writeLengthPrefix_frame (mp.encode (writeMessageCore message)) fits
  obtain ⟨unread, parsed⟩ := run_parseMessage_writeMessageCore lawful toUpperInvariant message
    writable.distinct fits
  refine ⟨frame, ?_, ?_, ?_⟩
  · unfold writeMessage at isWritten
    simp only [prefixed] at isWritten
    cases isWritten
    rw [BinaryMessage.Frame.bytes, body]
  · have prefixSize := frame.lengthPrefix.size
    have prefixLength := frame.lengthPrefix.length_bytes
    unfold BinaryMessage.Frame.Addressable BinaryMessage.Frame.bytes
    rw [List.length_append, body]
    omega
  · unfold frameMessage
    rw [body, parsed]

theorem tryParseMessage_nil : BinaryMessage.tryParseMessage [] = .ok none := rfl

/-- What the other end reads off whole frames and a part of one more. -/
theorem read_frames {α : Type} {message : α → ServiceMessage} {frame : α → BinaryMessage.Frame}
    (carries : ∀ index, Carries mp toUpperInvariant (message index) (frame index))
    (done : List α) {part : Bytes} (unfinished : BinaryMessage.tryParseMessage part = .ok none) :
    (frameParser.frames (done.flatMap (fun index => (frame index).bytes) ++ part)).map
        (frameMessage mp toUpperInvariant) =
      done.map fun index => some (some (message index).normalize) := by
  have taken := BinaryMessage.takes_frames (done.map frame) part fun other member => by
    obtain ⟨index, -, rfl⟩ := List.mem_map.mp member
    exact (carries index).addressable
  rw [List.flatMap_map, List.map_map] at taken
  rw [Library.FrameParser.frames_eq taken (frameParser.halts_of_none unfinished), List.map_map]
  exact List.map_congr_left fun index _ => (carries index).parsed

end Frames

/-! ## Who is inside a frame -/

variable {ι : Type}

/-- The bytes that a writer has still to put out. -/
def remaining : Writer → Option Bytes
  | .writing remaining => some remaining
  | _ => none

/-- The frame that has been begun, and the bytes of it that are still to be put out. -/
def inside (state : State ι) : Option (Frame ι × Bytes) :=
  match state.start with
  | .handshaking remaining => some (.handshake, remaining)
  | .pinging remaining => some (.ping (state.pings - 1), remaining)
  | _ =>
      match state.writeLock with
      | some (.writer index) => (remaining (state.writers index)).map fun left =>
          (.message index, left)
      | _ => none

/-- `HandshakeAsync` is writing its request. -/
def Handshaking : Start → Prop
  | .handshaking _ => True
  | _ => False

/-- `StartAsync` has not begun a frame. -/
def Quiet : Start → Prop
  | .handshaking _ | .pinging _ => False
  | _ => True

theorem Quiet.not_handshaking {start : Start} (quiet : Quiet start) : ¬ Handshaking start := by
  cases start with
  | handshaking left => exact quiet.elim
  | _ => exact id

/-- All bytes of the message have been put out and the call goes on to return true. -/
def Written : Writer → Prop
  | .flushing => True
  | .releasing written => written = true
  | .returned written => written = true
  | _ => False

/-- A write throws, or the handshake does. -/
def Fails : Action ι → Prop
  | .throws _ | .pingThrows | .handshakeFails => True
  | _ => False

def frameBytes (content : Content ι) : Frame ι → Bytes
  | .handshake => content.handshakeRequest
  | .message index => content.messages index
  | .ping _ => content.cachedPingBytes

/-- The bytes of whole frames, each with its frame. -/
def whole (content : Content ι) (done : List (Frame ι)) : List (Frame ι × UInt8) :=
  done.flatMap fun frame => (frameBytes content frame).map (Prod.mk frame)

variable [DecidableEq ι] {content : Content ι} {state next : State ι} {action : Action ι}
  {index : ι} {writer : Writer}

/-- No frame is given up. -/
structure Intact (state next : State ι) : Prop where
  writer : ∀ index, next.writers index = .releasing false →
    state.writers index = .acquired ∨ state.writers index = .releasing false
  ping : ∀ left, state.start = .pinging left → next.start ≠ .releasingPing
  handshake : ∀ left, state.start = .handshaking left → next.start ≠ .ended

omit [DecidableEq ι] in
theorem not_releasingPing (start : next.start = state.start) {left : Bytes}
    (isPinging : state.start = .pinging left) : next.start ≠ .releasingPing := by
  rw [start, isPinging]
  exact Start.noConfusion

omit [DecidableEq ι] in
theorem not_ended (start : next.start = state.start) {left : Bytes}
    (isHandshaking : state.start = .handshaking left) : next.start ≠ .ended := by
  rw [start, isHandshaking]
  exact Start.noConfusion

theorem intact_goTo (next : State ι) (writers : next.writers = state.writers)
    (start : next.start = state.start)
    (released : writer = .releasing false → state.writers index = .acquired) :
    Intact state (next.goTo index writer) where
  writer := by
    intro other isReleasing
    rw [goTo_writers, writers] at isReleasing
    split_ifs at isReleasing with same
    · rw [same]
      exact .inl (released isReleasing)
    · exact .inr isReleasing
  ping _ isPinging := not_releasingPing start isPinging
  handshake _ isHandshaking := not_ended start isHandshaking

theorem intact_resume (resumed : resume content state index = some next) :
    Intact state next := by
  unfold resume at resumed
  split at resumed
  next => cases resumed
  next => cases resumed
  next =>
    split_ifs at resumed
    · cases resumed
      exact intact_goTo _ rfl rfl Writer.noConfusion
    · cases resumed
      exact intact_goTo _ rfl rfl Writer.noConfusion
  next =>
    split_ifs at resumed
    cases resumed
    exact intact_goTo { state with writeLock := _ } rfl rfl Writer.noConfusion
  next isAcquired =>
    split_ifs at resumed
    · cases resumed
      exact intact_goTo _ rfl rfl fun _ => isAcquired
    · cases resumed
      exact intact_goTo _ rfl rfl Writer.noConfusion
  next =>
    cases resumed
    exact intact_goTo _ rfl rfl Writer.noConfusion
  next =>
    cases resumed
    exact intact_goTo _ rfl rfl Writer.noConfusion
  next =>
    cases resumed
    exact intact_goTo _ rfl rfl (by simp)
  next =>
    cases resumed
    exact intact_goTo { state with writeLock := _ } rfl rfl Writer.noConfusion

omit [DecidableEq ι] in
theorem intact_move (writers : next.writers = state.writers)
    (ping : ∀ left, state.start = .pinging left → next.start ≠ .releasingPing)
    (handshake : ∀ left, state.start = .handshaking left → next.start ≠ .ended) :
    Intact state next :=
  ⟨fun index isReleasing => .inr (by rw [← writers]; exact isReleasing), ping, handshake⟩

omit [DecidableEq ι] in
/-- A step that does not start inside a frame of `StartAsync` gives none up. -/
theorem intact_of_quiet (writers : next.writers = state.writers) (quiet : Quiet state.start) :
    Intact state next := by
  refine intact_move writers ?_ ?_
  · intro left isPinging
    rw [isPinging] at quiet
    exact quiet.elim
  · intro left isHandshaking
    rw [isHandshaking] at quiet
    exact quiet.elim

theorem intact_step (unfailing : ¬ Fails action)
    (stepped : step content state action = some next) : Intact state next := by
  cases action with
  | resume index => exact intact_resume stepped
  | throws index => exact absurd trivial unfailing
  | pingThrows => exact absurd trivial unfailing
  | handshakeFails => exact absurd trivial unfailing
  | call index =>
      simp only [step] at stepped
      split_ifs at stepped
      cases stepped
      exact intact_goTo _ rfl rfl Writer.noConfusion
  | proceed =>
      simp only [step, proceed] at stepped
      split at stepped
      all_goals try split_ifs at stepped
      all_goals cases stepped
      all_goals
        -- A ping is left by its flush, and the handshake by its success.
        first
        | exact intact_move rfl (fun _ _ => Start.noConfusion) (fun _ _ => Start.noConfusion)
        | rename_i start
          exact intact_of_quiet rfl (by rw [start]; trivial)
  | trySendPing =>
      simp only [step] at stepped
      split_ifs at stepped with isReading
      all_goals
        cases stepped
        exact intact_of_quiet rfl (by rw [isReading]; trivial)
  | skipPing =>
      simp only [step] at stepped
      split_ifs at stepped with isChecking
      cases stepped
      exact intact_of_quiet rfl (by rw [isChecking]; trivial)
  | stop =>
      simp only [step] at stepped
      split_ifs at stepped with isReading
      cases stepped
      exact intact_of_quiet rfl (by rw [isReading]; trivial)
  | serviceError =>
      cases stepped
      exact intact_move rfl (fun _ => not_releasingPing rfl) (fun _ => not_ended rfl)
  | offline =>
      simp only [step] at stepped
      split at stepped
      next => cases stepped
      next => cases stepped
      next =>
        cases stepped
        exact intact_move rfl (fun _ => not_releasingPing rfl) (fun _ => not_ended rfl)

/-! ## What a step puts out -/

/-- What a step does to the output, with the frame that it completes. -/
inductive Puts (content : Content ι) (state next : State ι) : Option (Frame ι) → Prop where
  | nothing (same : inside next = inside state) (output : next.output = state.output) :
      Puts content state next none
  | byte (frame : Frame ι) (byte : UInt8) (left : Bytes)
      (before : inside state = some (frame, byte :: left))
      (behind : inside next = some (frame, left))
      (output : next.output = state.output ++ [(frame, byte)]) : Puts content state next none
  | begin (frame : Frame ι) (before : inside state = none)
      (behind : inside next = some (frame, frameBytes content frame))
      (output : next.output = state.output)
      (new : (∃ index, frame = .message index ∧ state.writers index = .acquired) ∨
        frame = .ping state.pings ∧ next.pings = state.pings + 1) :
      Puts content state next none
  | finish (frame : Frame ι) (before : inside state = some (frame, []))
      (behind : inside next = none) (output : next.output = state.output) :
      Puts content state next (some frame)

omit [DecidableEq ι] in
/-- Beside the frames of `StartAsync`, it is the one of the writer in the lock. -/
theorem inside_eq (quiet : Quiet state.start) :
    inside state =
      match state.writeLock with
      | some (.writer index) => (remaining (state.writers index)).map fun left =>
          (.message index, left)
      | _ => none := by
  unfold inside
  cases start : state.start with
  | handshaking left =>
      rw [start] at quiet
      exact quiet.elim
  | pinging left =>
      rw [start] at quiet
      exact quiet.elim
  | _ => rfl

theorem quiet_of_undisposed {start : Start} (undisposed : start.Undisposed)
    (unlocked : ¬ start.Holding) : Quiet start := by
  cases start with
  | handshaking left => exact undisposed.elim
  | pinging left => exact absurd trivial unlocked
  | _ => trivial

omit [DecidableEq ι] in
theorem inside_of_writing {left : Bytes} (guarded : Guarded state)
    (isWriting : state.writers index = .writing left) :
    inside state = some (.message index, left) := by
  have held := (guarded.writers index).mp (by simp [isWriting])
  have undisposed := guarded.writing index left isWriting
  have unlocked : ¬ state.start.Holding := by
    rw [guarded.start, held]
    simp
  rw [inside_eq (quiet_of_undisposed undisposed unlocked), held]
  show (remaining (state.writers index)).map _ = _
  rw [isWriting]
  rfl

omit [DecidableEq ι] in
/-- Outside the handshake and a ping, a frame is that of the writer in the lock. -/
theorem inside_of_quiet (handshake : ∀ left, state.start ≠ .handshaking left)
    (ping : ∀ left, state.start ≠ .pinging left)
    (writers : ∀ index, state.writeLock = some (.writer index) →
      remaining (state.writers index) = none) : inside state = none := by
  unfold inside
  split
  next left isHandshaking => exact absurd isHandshaking (handshake left)
  next left isPinging => exact absurd isPinging (ping left)
  next =>
    split
    next index isHeld => rw [writers index isHeld]; rfl
    next => rfl

theorem inside_goTo (same : remaining writer = remaining (state.writers index)) :
    inside (state.goTo index writer) = inside state := by
  have others : ∀ other, remaining ((state.goTo index writer).writers other) =
      remaining (state.writers other) := by
    intro other
    rw [goTo_writers]
    split_ifs with isIndex
    · rw [isIndex, same]
    · rfl
  unfold inside
  simp only [others]
  rfl

/-- What a step adds to the whole frames, and what it leaves as it is. -/
structure Accounts (state next : State ι) (finished : Option (Frame ι)) : Prop where
  written : ∀ index, Written (next.writers index) ↔
    Written (state.writers index) ∨ finished = some (.message index)
  handshaking : Handshaking next.start ↔ Handshaking state.start ∧ finished ≠ some .handshake
  pings : state.pings ≤ next.pings

theorem accounts_goTo {finished : Option (Frame ι)}
    (unchanged : next.start = state.start ∧ next.status = state.status ∧
      next.writers = state.writers ∧ next.pings = state.pings)
    (written : Written writer ↔ Written (state.writers index) ∨ finished = some (.message index))
    (others : ∀ other, other ≠ index → finished ≠ some (.message other))
    (handshake : finished ≠ some .handshake) :
    Accounts state (next.goTo index writer) finished := by
  obtain ⟨start, -, writers, pings⟩ := unchanged
  refine ⟨?_, ?_, ?_⟩
  · intro other
    rw [goTo_writers]
    split_ifs with same
    · rw [same]
      exact written
    · rw [writers]
      exact ⟨.inl, fun isWritten => isWritten.resolve_right (others other same)⟩
  · change Handshaking next.start ↔ _
    rw [start]
    exact ⟨fun isHandshaking => ⟨isHandshaking, handshake⟩, And.left⟩
  · change state.pings ≤ next.pings
    rw [pings]

theorem puts_resume (guarded : Guarded state) (intact : Intact state (next.goTo index writer))
    (resumes : Resumes content state index next writer) :
    ∃ finished, Puts content state (next.goTo index writer) finished ∧
      Accounts state (next.goTo index writer) finished := by
  have after := guarded.resume resumes
  have unchanged := resumes.unchanged
  have here : (next.goTo index writer).writers index = writer := by
    rw [goTo_writers, if_pos rfl]
  cases resumes with
  | call isIdle =>
      exact ⟨none, .nothing (inside_goTo (by simp [isIdle, remaining])) rfl,
        accounts_goTo unchanged (by simp [isIdle, Written]) (by simp) (by simp)⟩
  | refuse isEntered =>
      exact ⟨none, .nothing (inside_goTo (by simp [isEntered, remaining])) rfl,
        accounts_goTo unchanged (by simp [isEntered, Written]) (by simp) (by simp)⟩
  | wait isEntered =>
      exact ⟨none, .nothing (inside_goTo (by simp [isEntered, remaining])) rfl,
        accounts_goTo unchanged (by simp [isEntered, Written]) (by simp) (by simp)⟩
  | acquire isWaiting free =>
      refine ⟨none, .nothing ?_ rfl,
        accounts_goTo unchanged (by simp [isWaiting, Written]) (by simp) (by simp)⟩
      rw [inside_goTo (by simp [isWaiting, remaining])]
      unfold inside
      simp only [free, isWaiting, remaining]
      rfl
  | reject isAcquired =>
      exact ⟨none, .nothing (inside_goTo (by simp [isAcquired, remaining])) rfl,
        accounts_goTo unchanged (by simp [isAcquired, Written]) (by simp) (by simp)⟩
  | begin isAcquired connected =>
      refine ⟨none, .begin (.message index) ?_ (inside_of_writing after here) rfl
          (.inl ⟨index, rfl, isAcquired⟩),
        accounts_goTo unchanged (by simp [isAcquired, Written]) (by simp)
          (by simp)⟩
      have isOpen := guarded.isOpen connected
      have held := (guarded.writers index).mp (by simp [isAcquired])
      apply inside_of_quiet
      · intro left isHandshaking
        rw [isHandshaking] at isOpen
        exact isOpen
      · intro left isPinging
        have locked := guarded.start.mp (by simp [isPinging])
        rw [held] at locked
        cases locked
      · intro other alsoHeld
        rw [held] at alsoHeld
        cases alsoHeld
        rw [isAcquired]
        rfl
  | put byte left isWriting =>
      exact ⟨none, .byte (.message index) byte left (inside_of_writing guarded isWriting)
          (inside_of_writing after here) rfl,
        accounts_goTo unchanged (by simp [isWriting, Written]) (by simp) (by simp)⟩
  | finish isWriting =>
      refine ⟨some (.message index), .finish (.message index)
          (inside_of_writing guarded isWriting) ?_ rfl,
        accounts_goTo unchanged (by simp [Written]) ?_ (by simp)⟩
      · have held := (guarded.writers index).mp (by simp [isWriting])
        obtain ⟨-, unlocked, undisposed⟩ := guarded.exclusive isWriting
        apply inside_of_quiet
        · intro left isHandshaking
          change state.start = _ at isHandshaking
          rw [isHandshaking] at undisposed
          exact undisposed
        · intro left isPinging
          change state.start = _ at isPinging
          rw [isPinging] at unlocked
          exact unlocked trivial
        · intro other alsoHeld
          change state.writeLock = _ at alsoHeld
          rw [held] at alsoHeld
          cases alsoHeld
          rw [here]
          rfl
      · intro other different same
        cases same
        exact different rfl
  | flush isFlushing =>
      exact ⟨none, .nothing (inside_goTo (by simp [isFlushing, remaining])) rfl,
        accounts_goTo unchanged (by simp [isFlushing, Written]) (by simp) (by simp)⟩
  | throw isWriting =>
      have released := intact.writer index here
      rcases isWriting with ⟨left, isWriting⟩ | isFlushing
      · simp [isWriting] at released
      · simp [isFlushing] at released
  | release written isReleasing =>
      have held := (guarded.writers index).mp (by simp [isReleasing])
      refine ⟨none, .nothing ?_ rfl,
        accounts_goTo unchanged (by simp [isReleasing, Written]) (by simp)
          (by simp)⟩
      rw [inside_goTo (by simp [isReleasing, remaining])]
      unfold inside
      simp only [held, isReleasing, remaining]
      rfl

omit [DecidableEq ι] in
/-- Beside the frames of `StartAsync`, what is begun depends on the writer in the lock only. -/
theorem inside_move (quiet : Quiet state.start) (quietNext : Quiet next.start)
    (writers : next.writers = state.writers)
    (lock : ∀ index, next.writeLock = some (.writer index) ↔
      state.writeLock = some (.writer index)) : inside next = inside state := by
  rw [inside_eq quietNext, inside_eq quiet, writers]
  cases held : state.writeLock with
  | none => cases heldNext : next.writeLock with
    | none => rfl
    | some holder => cases holder with
      | start => rfl
      | writer index => simp [held, heldNext] at lock
  | some holder => cases holder with
    | start => cases heldNext : next.writeLock with
      | none => rfl
      | some holder => cases holder with
        | start => rfl
        | writer index => simp [held, heldNext] at lock
    | writer index => rw [(lock index).mpr held]

omit [DecidableEq ι] in
theorem accounts_move {finished : Option (Frame ι)} (writers : next.writers = state.writers)
    (handshaking : Handshaking next.start ↔ Handshaking state.start ∧ finished ≠ some .handshake)
    (pings : state.pings ≤ next.pings)
    (notMessage : ∀ index, finished ≠ some (.message index)) : Accounts state next finished := by
  refine ⟨fun index => ?_, handshaking, pings⟩
  rw [writers]
  exact ⟨.inl, fun isWritten => isWritten.resolve_right (notMessage index)⟩

omit [DecidableEq ι] in
theorem puts_proceed (guarded : Guarded state) (intact : Intact state next)
    (proceeds : Proceeds content state next) :
    ∃ finished, Puts content state next finished ∧ Accounts state next finished := by
  have lock := (proceeds.lock guarded.start).2
  have writers := proceeds.writers
  have moves (quiet : Quiet state.start) (quietNext : Quiet next.start)
      (output : next.output = state.output) (pings : next.pings = state.pings) :
      ∃ finished, Puts content state next finished ∧ Accounts state next finished :=
    ⟨none, .nothing (inside_move quiet quietNext writers lock) output,
      accounts_move writers (by simp [quiet.not_handshaking, quietNext.not_handshaking])
        (Nat.le_of_eq pings.symm) (by simp)⟩
  cases proceeds with
  | handshake byte left isHandshaking =>
      refine ⟨none, .byte .handshake byte left ?_ rfl rfl,
        accounts_move writers ?_ (Nat.le_refl _) (by simp)⟩
      · simp [inside, isHandshaking]
      · simp [isHandshaking, Handshaking]
  | establish isHandshaking =>
      refine ⟨some .handshake, .finish .handshake ?_ ?_ rfl,
        accounts_move writers ?_ (Nat.le_refl _) (by simp)⟩
      · simp [inside, isHandshaking]
      · refine inside_of_quiet (by simp) (by simp) fun index _ => ?_
        change remaining (state.writers index) = none
        cases isWriter : state.writers index with
        | writing left =>
            have undisposed := guarded.writing index left isWriter
            rw [isHandshaking] at undisposed
            exact undisposed.elim
        | _ => rfl
      · simp [Handshaking]
  | fail left isHandshaking => exact absurd rfl (intact.handshake left isHandshaking)
  | beginPing isChecking =>
      have held := guarded.start.mp (by simp [isChecking])
      refine ⟨none, .begin (.ping state.pings) ?_ ?_ rfl (.inr ⟨rfl, rfl⟩),
        accounts_move writers ?_ (Nat.le_succ _) (by simp)⟩
      · refine inside_of_quiet (by simp [isChecking]) (by simp [isChecking]) fun index isHeld => ?_
        rw [held] at isHeld
        cases isHeld
      · simp [inside, frameBytes]
      · simp [isChecking, Handshaking]
  | ping byte left isPinging =>
      refine ⟨none, .byte (.ping (state.pings - 1)) byte left ?_ rfl rfl,
        accounts_move writers ?_ (Nat.le_refl _) (by simp)⟩
      · simp [inside, isPinging]
      · simp [isPinging, Handshaking]
  | flushPing isPinging =>
      have held := guarded.start.mp (by simp [isPinging])
      refine ⟨some (.ping (state.pings - 1)), .finish (.ping (state.pings - 1)) ?_ ?_ rfl,
        accounts_move writers ?_ (Nat.le_refl _) (by simp)⟩
      · simp [inside, isPinging]
      · refine inside_of_quiet (by simp) (by simp) fun index isHeld => ?_
        change state.writeLock = _ at isHeld
        rw [held] at isHeld
        cases isHeld
      · simp [isPinging, Handshaking]
  | finishPing before =>
      rcases before with isChecking | ⟨left, isPinging⟩ | isFlushing
      · exact moves (by simp [isChecking, Quiet]) trivial rfl rfl
      · exact absurd rfl (intact.ping left isPinging)
      · exact moves (by simp [isFlushing, Quiet]) trivial rfl rfl
  | serviceError =>
      exact ⟨none, .nothing rfl rfl, accounts_move rfl (by simp) (Nat.le_refl _) (by simp)⟩
  | offline =>
      exact ⟨none, .nothing rfl rfl, accounts_move rfl (by simp) (Nat.le_refl _) (by simp)⟩
  | nothing =>
      exact ⟨none, .nothing rfl rfl, accounts_move rfl (by simp) (Nat.le_refl _) (by simp)⟩
  | connect start => exact moves (by simp [start, Quiet]) trivial rfl rfl
  | lockPing start => exact moves (by simp [start, Quiet]) trivial rfl rfl
  | releasePing start => exact moves (by simp [start, Quiet]) trivial rfl rfl
  | stop start => exact moves (by simp [start, Quiet]) trivial rfl rfl
  | disconnect start => exact moves (by simp [start, Quiet]) trivial rfl rfl
  | clean start => exact moves (by simp [start, Quiet]) trivial rfl rfl
  | dispose start => exact moves (by simp [start, Quiet]) trivial rfl rfl
  | finish start => exact moves (by simp [start, Quiet]) trivial rfl rfl

theorem puts_step (guarded : Guarded state) (unfailing : ¬ Fails action)
    (stepped : step content state action = some next) :
    ∃ finished, Puts content state next finished ∧ Accounts state next finished := by
  have intact := intact_step unfailing stepped
  cases steps_of_step stepped with
  | writer index next writer resumes => exact puts_resume guarded intact resumes
  | start next proceeds => exact puts_proceed guarded intact proceeds

/-! ## The frames of the output -/

/-- The output is `done`, frame for frame, and the part of one more that has been put out. -/
inductive Output (content : Content ι) (done : List (Frame ι)) (state : State ι) : Prop where
  | whole (outside : inside state = none) (output : state.output = whole content done)
  | part (frame : Frame ι) (sent left : Bytes) (isInside : inside state = some (frame, left))
      (split : sent ++ left = frameBytes content frame)
      (output : state.output = whole content done ++ sent.map (Prod.mk frame))

/-- What every step that does not fail keeps. -/
structure Framewise (content : Content ι) (done : List (Frame ι)) (state : State ι) : Prop where
  once : done.Nodup
  messages : ∀ index, .message index ∈ done ↔ Written (state.writers index)
  handshaking : Handshaking state.start → done = []
  first : ¬ Handshaking state.start → done.head? = some .handshake
  pings : ∀ number, .ping number ∈ done → number < state.pings
  fresh : ∀ frame left, inside state = some (frame, left) →
    frame ∉ done ∧ ∀ number, frame = .ping number → number < state.pings
  output : Output content done state

omit [DecidableEq ι] in
theorem inside_of_handshaking (handshaking : Handshaking state.start) :
    ∃ left, inside state = some (.handshake, left) := by
  cases start : state.start with
  | handshaking left => exact ⟨left, by simp [inside, start]⟩
  | _ =>
      rw [start] at handshaking
      exact handshaking.elim

omit [DecidableEq ι] in
theorem Framewise.keep {done : List (Frame ι)} (framewise : Framewise content done state)
    (accounts : Accounts state next none)
    (fresh : ∀ frame left, inside next = some (frame, left) →
      frame ∉ done ∧ ∀ number, frame = .ping number → number < next.pings)
    (output : Output content done next) : Framewise content done next where
  once := framewise.once
  messages index := by
    rw [framewise.messages, accounts.written]
    simp
  handshaking isHandshaking := framewise.handshaking (accounts.handshaking.mp isHandshaking).1
  first notHandshaking := framewise.first fun isHandshaking =>
    notHandshaking (accounts.handshaking.mpr ⟨isHandshaking, by simp⟩)
  pings number member := Nat.lt_of_lt_of_le (framewise.pings number member) accounts.pings
  fresh := fresh
  output := output

omit [DecidableEq ι] in
theorem Framewise.finish {done : List (Frame ι)} {frame : Frame ι}
    (framewise : Framewise content done state) (accounts : Accounts state next (some frame))
    (before : inside state = some (frame, [])) (behind : inside next = none)
    (output : next.output = state.output) : Framewise content (done ++ [frame]) next := by
  obtain ⟨new, counted⟩ := framewise.fresh frame [] before
  refine ⟨?_, ?_, ?_, ?_, ?_, ?_, .whole behind ?_⟩
  · rw [List.nodup_append]
    refine ⟨framewise.once, by simp, fun other isDone last isLast => ?_⟩
    rw [List.mem_singleton] at isLast
    rw [isLast]
    exact fun same => new (same ▸ isDone)
  · intro index
    rw [accounts.written, ← framewise.messages, List.mem_append, List.mem_singleton,
      Option.some.injEq, eq_comm (a := frame)]
  · intro isHandshaking
    obtain ⟨wasHandshaking, other⟩ := accounts.handshaking.mp isHandshaking
    obtain ⟨left, isInside⟩ := inside_of_handshaking wasHandshaking
    rw [before] at isInside
    cases isInside
    exact absurd rfl other
  · intro _
    by_cases wasHandshaking : Handshaking state.start
    · obtain ⟨left, isInside⟩ := inside_of_handshaking wasHandshaking
      rw [before] at isInside
      cases isInside
      rw [framewise.handshaking wasHandshaking]
      rfl
    · rw [List.head?_append, framewise.first wasHandshaking]
      rfl
  · intro number member
    have bounded : number < state.pings := by
      rcases List.mem_append.mp member with isDone | isLast
      · exact framewise.pings number isDone
      · exact counted number (List.mem_singleton.mp isLast).symm
    exact Nat.lt_of_lt_of_le bounded accounts.pings
  · intro other left isInside
    rw [behind] at isInside
    cases isInside
  · cases framewise.output with
    | whole outside _ =>
        rw [before] at outside
        cases outside
    | part other sent left isInside split isOutput =>
        rw [before] at isInside
        cases isInside
        rw [List.append_nil] at split
        rw [output, isOutput, split, whole, whole, List.flatMap_append, List.flatMap_singleton]

omit [DecidableEq ι] in
theorem Framewise.step {done : List (Frame ι)} {finished : Option (Frame ι)}
    (framewise : Framewise content done state) (puts : Puts content state next finished)
    (accounts : Accounts state next finished) :
    Framewise content (done ++ finished.toList) next := by
  cases puts with
  | finish frame before behind output => exact framewise.finish accounts before behind output
  | nothing same output =>
      rw [Option.toList_none, List.append_nil]
      refine framewise.keep accounts ?_ ?_
      · intro frame left isInside
        rw [same] at isInside
        obtain ⟨new, counted⟩ := framewise.fresh frame left isInside
        exact ⟨new, fun number isPing =>
          Nat.lt_of_lt_of_le (counted number isPing) accounts.pings⟩
      · cases framewise.output with
        | whole outside isOutput => exact .whole (same.trans outside) (output.trans isOutput)
        | part frame sent left isInside split isOutput =>
            exact .part frame sent left (same.trans isInside) split (output.trans isOutput)
  | byte frame byte left before behind output =>
      rw [Option.toList_none, List.append_nil]
      obtain ⟨new, counted⟩ := framewise.fresh frame _ before
      refine framewise.keep accounts ?_ ?_
      · intro other rest isInside
        rw [behind] at isInside
        cases isInside
        exact ⟨new, fun number isPing =>
          Nat.lt_of_lt_of_le (counted number isPing) accounts.pings⟩
      · cases framewise.output with
        | whole outside _ =>
            rw [before] at outside
            cases outside
        | part other sent rest isInside split isOutput =>
            rw [before] at isInside
            cases isInside
            refine .part frame (sent ++ [byte]) left behind ?_ ?_
            · rw [List.append_assoc, List.singleton_append, split]
            · rw [output, isOutput, List.map_append, List.append_assoc]
              rfl
  | begin frame before behind output new =>
      rw [Option.toList_none, List.append_nil]
      refine framewise.keep accounts ?_ ?_
      · intro other rest isInside
        rw [behind] at isInside
        cases isInside
        rcases new with ⟨index, rfl, isAcquired⟩ | ⟨rfl, count⟩
        · refine ⟨?_, by simp⟩
          rw [framewise.messages, isAcquired]
          exact id
        · refine ⟨fun member => Nat.lt_irrefl _ (framewise.pings _ member), ?_⟩
          intro number isPing
          cases isPing
          omega
      · cases framewise.output with
        | whole outside isOutput =>
            refine .part frame [] (frameBytes content frame) behind rfl ?_
            rw [output, isOutput, List.map_nil, List.append_nil]
        | part other sent left isInside _ _ =>
            rw [before] at isInside
            cases isInside

omit [DecidableEq ι] in
theorem framewise_initial : Framewise content [] (initial content) where
  once := List.nodup_nil
  messages index := by simp [initial, Written]
  handshaking _ := rfl
  first notHandshaking := absurd trivial notHandshaking
  pings number member := by cases member
  fresh frame left isInside := by
    cases isInside
    exact ⟨List.not_mem_nil, by simp⟩
  output := .part .handshake [] content.handshakeRequest rfl rfl rfl

theorem framewise_run {actions : List (Action ι)} (unfailing : ∀ action ∈ actions, ¬ Fails action)
    (ran : Machine.run (step content) (initial content) actions = some state) :
    Guarded state ∧ ∃ done, Framewise content done state := by
  have preserved : ∀ {state : State ι} {action : Action ι} {next : State ι},
      (Guarded state ∧ ∃ done, Framewise content done state) → ¬ Fails action →
      step content state action = some next →
      Guarded next ∧ ∃ done, Framewise content done next := by
    rintro state action next ⟨guarded, done, framewise⟩ unfailing stepped
    obtain ⟨finished, puts, accounts⟩ := puts_step guarded unfailing stepped
    exact ⟨guarded_step guarded stepped, done ++ finished.toList, framewise.step puts accounts⟩
  exact Machine.run_along preserved ⟨guarded_initial, [], framewise_initial⟩
    (Machine.along_of_forall unfailing (initial content)) ran

/-! ## What is read back -/

/-- The message that a frame is written from. -/
def sent (handshakeRequest : HandshakeRequestMessage) (messages : ι → ServiceMessage) :
    Frame ι → ServiceMessage
  | .handshake => .handshakeRequest handshakeRequest
  | .message index => messages index
  | .ping _ => .ping ⟨[]⟩

/-- What the parser makes of the output, and what the callers have been told. -/
structure ReadsBack (mp : MessagePack) (toUpperInvariant : Char → Char)
    (message : Frame ι → ServiceMessage) (state : State ι) (done : List (Frame ι)) : Prop where
  once : done.Nodup
  first : ∀ frame ∈ done.head?, frame = .handshake
  parsed : (frameParser.frames (state.output.map Prod.snd)).map (frameMessage mp toUpperInvariant) =
    done.map fun frame => some (some (message frame).normalize)
  written : ∀ index, .message index ∈ done ↔
    Written (state.writers index) ∨ state.writers index = .writing []
  refused : ∀ index, state.writers index = .returned false → .message index ∉ state.frames

omit [DecidableEq ι] in
theorem writing_of_inside {left : Bytes} (isInside : inside state = some (.message index, left)) :
    state.writers index = .writing left := by
  unfold inside at isInside
  split at isInside
  next => cases isInside
  next => cases isInside
  next =>
    split at isInside
    next other isHeld =>
      cases writer : state.writers other with
      | writing rest =>
          rw [writer] at isInside
          cases isInside
          exact writer
      | _ =>
          rw [writer] at isInside
          cases isInside
    next => cases isInside

omit [DecidableEq ι] in
theorem mem_frames_whole {done : List (Frame ι)} {frame : Frame ι}
    (member : frame ∈ (whole content done).map Prod.fst) : frame ∈ done := by
  simp only [whole, List.map_flatMap, List.map_map, List.mem_flatMap, List.mem_map,
    Function.comp_apply, exists_and_right] at member
  obtain ⟨other, isDone, -, rfl⟩ := member
  exact isDone

omit [DecidableEq ι] in
theorem bytes_whole (done : List (Frame ι)) :
    (whole content done).map Prod.snd = done.flatMap (frameBytes content) := by
  simp only [whole, List.map_flatMap, List.map_map]
  congr 1
  funext frame
  exact List.map_id _

section ReadBack

variable {mp : MessagePack} {toUpperInvariant : Char → Char} {message : Frame ι → ServiceMessage}

omit [DecidableEq ι] in
/-- A call that has returned false has put nothing out. -/
theorem Framewise.refused {done : List (Frame ι)} (framewise : Framewise content done state)
    (isReturned : state.writers index = .returned false) : .message index ∉ state.frames := by
  have undone : .message index ∉ done := by
    rw [framewise.messages, isReturned]
    exact Bool.noConfusion
  intro member
  cases framewise.output with
  | whole outside output =>
      rw [State.frames, output] at member
      exact undone (mem_frames_whole member)
  | part frame begun left isInside split output =>
      rw [State.frames, output, List.map_append, List.mem_append] at member
      rcases member with isDone | isBegun
      · exact undone (mem_frames_whole isDone)
      · simp only [List.map_map, List.mem_map, Function.comp_apply] at isBegun
        obtain ⟨-, -, rfl⟩ := isBegun
        have isWriting := writing_of_inside isInside
        rw [isReturned] at isWriting
        cases isWriting

omit [DecidableEq ι] in
theorem Framewise.head {done : List (Frame ι)} (framewise : Framewise content done state)
    {frame : Frame ι} (isFirst : frame ∈ done.head?) : frame = .handshake := by
  by_cases handshaking : Handshaking state.start
  · rw [framewise.handshaking handshaking] at isFirst
    cases isFirst
  · rw [framewise.first handshaking] at isFirst
    cases isFirst
    rfl

omit [DecidableEq ι] in
/-- While a byte of the frame that has been begun is missing, the parser does not see it. -/
theorem Framewise.readsBack {done : List (Frame ι)} (framewise : Framewise content done state)
    (guarded : Guarded state) (frame : Frame ι → BinaryMessage.Frame)
    (isBytes : ∀ index, (frame index).bytes = frameBytes content index)
    (carries : ∀ index, Carries mp toUpperInvariant (message index) (frame index))
    {part : Bytes} (unfinished : BinaryMessage.tryParseMessage part = .ok none)
    (output : state.output.map Prod.snd = done.flatMap (frameBytes content) ++ part)
    (missing : ∀ frame, inside state ≠ some (frame, [])) :
    ReadsBack mp toUpperInvariant message state done where
  once := framewise.once
  first _ isFirst := framewise.head isFirst
  parsed := by
    have read := read_frames carries done unfinished
    simp only [isBytes] at read
    rw [output]
    exact read
  written index := by
    rw [framewise.messages]
    refine ⟨.inl, fun isWritten => isWritten.resolve_right fun isWriting => ?_⟩
    exact missing _ (inside_of_writing guarded isWriting)
  refused index := framewise.refused

omit [DecidableEq ι] in
/-- The frame that has been begun is read as soon as its last byte has been put out. -/
theorem Framewise.readsBack_last {done : List (Frame ι)} {last : Frame ι}
    (framewise : Framewise content done state) (guarded : Guarded state)
    (frame : Frame ι → BinaryMessage.Frame)
    (isBytes : ∀ index, (frame index).bytes = frameBytes content index)
    (carries : ∀ index, Carries mp toUpperInvariant (message index) (frame index))
    (isInside : inside state = some (last, []))
    (output : state.output.map Prod.snd = (done ++ [last]).flatMap (frameBytes content)) :
    ReadsBack mp toUpperInvariant message state (done ++ [last]) where
  once := by
    rw [List.nodup_append]
    refine ⟨framewise.once, by simp, fun other isDone also isLast => ?_⟩
    rw [List.mem_singleton] at isLast
    rw [isLast]
    exact fun same => (framewise.fresh last [] isInside).1 (same ▸ isDone)
  first other isFirst := by
    by_cases handshaking : Handshaking state.start
    · obtain ⟨left, isHandshake⟩ := inside_of_handshaking handshaking
      rw [isInside] at isHandshake
      cases isHandshake
      rw [framewise.handshaking handshaking] at isFirst
      cases isFirst
      rfl
    · rw [List.head?_append, framewise.first handshaking] at isFirst
      cases isFirst
      rfl
  parsed := by
    have read := read_frames carries (done ++ [last])
      tryParseMessage_nil
    simp only [isBytes, List.append_nil] at read
    rw [output]
    exact read
  written index := by
    rw [List.mem_append, List.mem_singleton, framewise.messages]
    refine or_congr Iff.rfl ⟨fun isLast => ?_, fun isWriting => ?_⟩
    · rw [← isLast] at isInside
      exact writing_of_inside isInside
    · have also := inside_of_writing guarded isWriting
      rw [isInside] at also
      cases also
      rfl
  refused index := framewise.refused

end ReadBack

/-- However the calls of `SafeWriteAsync`, the handshake and the pings interleave, as long as no
write throws: the parser reads whole messages off the output, the handshake request first and
each message at most once, those of the calls that have got through and no others. -/
theorem concurrent_writes_read_back {mp : MessagePack} (lawful : mp.Lawful)
    (toUpperInvariant : Char → Char) (handshakeRequest : HandshakeRequestMessage)
    (messages : ι → ServiceMessage) (content : Content ι)
    (writable : ∀ frame, Writable mp toUpperInvariant (sent handshakeRequest messages frame))
    (written : ∀ frame, writeMessage mp (sent handshakeRequest messages frame) =
      .ok (frameBytes content frame))
    (actions : List (Action ι)) (unfailing : ∀ action ∈ actions, ¬ Fails action) {state : State ι}
    (ran : Machine.run (step content) (initial content) actions = some state) :
    ∃ done, ReadsBack mp toUpperInvariant (sent handshakeRequest messages) state done := by
  have frames := fun frame => carries_of_writeMessage lawful (writable frame) (written frame)
  choose frame isBytes carries using frames
  obtain ⟨guarded, done, framewise⟩ := framewise_run unfailing ran
  cases framewise.output with
  | whole outside output =>
      refine ⟨done, framewise.readsBack guarded frame isBytes carries
        tryParseMessage_nil ?_ ?_⟩
      · rw [output, bytes_whole, List.append_nil]
      · simp [outside]
  | part last begun left isInside split output =>
      have bytes : state.output.map Prod.snd = done.flatMap (frameBytes content) ++ begun := by
        rw [output, List.map_append, bytes_whole, List.map_map]
        congr 1
        exact List.map_id _
      by_cases missing : left = []
      · rw [missing, List.append_nil] at split
        rw [missing] at isInside
        refine ⟨done ++ [last],
          framewise.readsBack_last guarded frame isBytes carries isInside ?_⟩
        rw [bytes, split, List.flatMap_append, List.flatMap_singleton]
      · refine ⟨done, framewise.readsBack guarded frame isBytes carries ?_ bytes ?_⟩
        · exact BinaryMessage.tryParseMessage_incomplete (frame last)
            ((isBytes last).trans split.symm) missing
        · intro other same
          rw [isInside] at same
          cases same
          exact missing rfl

/-- A message is written and a second writer is in the middle of the same message. -/
def secondWriter : List (Action Bool) :=
  List.replicate 11 Action.proceed ++ [Action.call false, .call true] ++
    List.replicate 3 (Action.resume false) ++ [Action.resume true, .trySendPing] ++
    List.replicate 12 (Action.resume false) ++ List.replicate 5 (Action.resume true)

def wireContent : Content Bool :=
  { handshakeRequest := [8, 151, 1, 1, 0, 160, 0, 128, 194]
    messages := fun _ => [8, 148, 6, 161, 99, 196, 1, 1, 128]
    cachedPingBytes := [2, 145, 3] }

def connectionData : ServiceMessage :=
  .connectionData { connectionId := "c", payload := [1] }

theorem writable_connectionData : Writable messagePackFormat Char.toUpper connectionData :=
  ⟨by decide, by decide +kernel⟩

theorem writable_ping : Writable messagePackFormat Char.toUpper (.ping ⟨[]⟩) :=
  ⟨by decide, by decide +kernel⟩

theorem concurrent_writes_read_back_secondWriter :
    ∃ state, Machine.run (step wireContent) (initial wireContent) secondWriter = some state ∧
      state.writers false = .returned true ∧
      state.writers true = .writing [161, 99, 196, 1, 1, 128] ∧
      ∃ done, ReadsBack messagePackFormat Char.toUpper
        (sent { version := 1 } fun _ => connectionData)
        state done := by
  refine ⟨_, rfl, rfl, rfl, ?_⟩
  refine concurrent_writes_read_back messagePackFormat_lawful Char.toUpper { version := 1 }
    (fun _ => connectionData) wireContent ?_ ?_ secondWriter ?_ rfl
  · intro frame
    cases frame with
    | handshake => exact ⟨by decide, by decide +kernel⟩
    | message index => exact writable_connectionData
    | ping number => exact writable_ping
  · have message : writeMessage messagePackFormat connectionData =
        .ok [8, 148, 6, 161, 99, 196, 1, 1, 128] := rfl
    have ping : writeMessage messagePackFormat (.ping ⟨[]⟩) = .ok [2, 145, 3] := rfl
    intro frame
    cases frame with
    | handshake => rfl
    | message index => exact message
    | ping number => exact ping
  · intro action member
    have unfailing : ∀ action ∈ secondWriter, action = .proceed ∨ action = .trySendPing ∨
        (∃ index, action = .call index) ∨ ∃ index, action = .resume index := by
      simp [secondWriter]
    rcases unfailing action member with rfl | rfl | ⟨index, rfl⟩ | ⟨index, rfl⟩ <;> exact id

/-! ## The other way round -/

section Stream

variable {mp : MessagePack} {toUpperInvariant : Char → Char}

theorem carries_of_written (lawful : mp.Lawful) {messages : List ServiceMessage}
    {streams : List Bytes}
    (writable : ∀ message ∈ messages, Writable mp toUpperInvariant message)
    (written : messages.mapM (writeMessage mp) = .ok streams) :
    ∃ frames : List BinaryMessage.Frame,
      streams.flatten = frames.flatMap BinaryMessage.Frame.bytes ∧
      List.Forall₂ (Carries mp toUpperInvariant) messages frames := by
  induction messages generalizing streams with
  | nil =>
      cases written
      exact ⟨[], rfl, .nil⟩
  | cons message messages inductionHypothesis =>
      rw [List.mapM_cons] at written
      cases first : writeMessage mp message with
      | error error =>
          rw [first] at written
          cases written
      | ok stream =>
          rw [first] at written
          cases others : messages.mapM (writeMessage mp) with
          | error error =>
              rw [others] at written
              cases written
          | ok rest =>
              rw [others] at written
              cases written
              obtain ⟨frame, isBytes, carries⟩ :=
                carries_of_writeMessage lawful (writable message List.mem_cons_self) first
              obtain ⟨frames, split, all⟩ := inductionHypothesis
                (fun other member => writable other (List.mem_cons_of_mem _ member)) others
              refine ⟨frame :: frames, ?_, .cons carries all⟩
              rw [List.flatten_cons, List.flatMap_cons, isBytes, split]

theorem filterMap_carried {messages : List ServiceMessage} {frames : List BinaryMessage.Frame}
    (carries : List.Forall₂ (Carries mp toUpperInvariant) messages frames) :
    (frames.map BinaryMessage.Frame.body).filterMap (frameMessage mp toUpperInvariant) =
      messages.map fun message => some message.normalize := by
  induction carries with
  | nil => rfl
  | cons carries _ inductionHypothesis =>
      rw [List.map_cons, List.filterMap_cons, carries.parsed, inductionHypothesis]
      rfl

/-- Messages that are written behind an accepted handshake response are dispatched, each once and
in this order, as the other end sees them, however the transport cuts the stream. -/
theorem written_messages_delivered (lawful : mp.Lawful) (dispatchError : DispatchError)
    (response : HandshakeResponseMessage) (accepted : response.errorMessage.getD "" = "")
    (messages : List ServiceMessage) {streams : List Bytes}
    (writable : ∀ message ∈ .handshakeResponse response :: messages,
      Writable mp toUpperInvariant message)
    (written : (ServiceMessage.handshakeResponse response :: messages).mapM (writeMessage mp) =
      .ok streams) :
    Delivers mp toUpperInvariant dispatchError (.start streams.flatten)
      (messages.map fun message => some message.normalize) := by
  obtain ⟨frames, split, carries⟩ := carries_of_written lawful writable written
  have addressable : ∀ frame ∈ frames, frame.Addressable := by
    intro frame member
    obtain ⟨index, inside, rfl⟩ := List.getElem_of_mem member
    have same := carries.length_eq
    exact (List.forall₂_iff_get.mp carries).2 index (by omega) inside |>.addressable
  cases carries with
  | cons handshake others =>
      rename_i first frames
      have accepts : acceptsHandshake mp toUpperInvariant first.body = true := by
        unfold acceptsHandshake
        rw [handshake.parsed]
        simp [ServiceMessage.normalize, handshakeOutcome, accepted]
      have delivers := (receive_delivers_iff mp toUpperInvariant dispatchError
        (first :: frames)).mpr ?_
      · rw [List.map_cons, expectedDispatch, if_pos accepts, filterMap_carried others,
          ← split] at delivers
        exact delivers
      · intro front middle frame back whole _ _ other member
        apply addressable
        rw [whole]
        rcases List.mem_cons.mp member with rfl | inner
        · exact List.mem_cons_self
        · rw [List.mem_append, List.mem_singleton] at inner
          rcases inner with isMiddle | rfl
          · exact List.mem_cons_of_mem _ (List.mem_append_left _ isMiddle)
          · simp

end Stream

/-- A ping and a message, behind the response. -/
theorem written_messages_delivered_two :
    Delivers messagePackFormat Char.toUpper (fun _ => none)
      (.start [5, 148, 2, 192, 128, 192, 2, 145, 3, 8, 148, 6, 161, 99, 196, 1, 1, 128])
      [some (.ping ⟨[]⟩), some connectionData] := by
  have written : [.handshakeResponse { errorMessage := none }, .ping ⟨[]⟩, connectionData].mapM
      (writeMessage messagePackFormat) = .ok [[5, 148, 2, 192, 128, 192], [2, 145, 3],
        [8, 148, 6, 161, 99, 196, 1, 1, 128]] := rfl
  refine written_messages_delivered messagePackFormat_lawful (fun _ => none)
    { errorMessage := none } (by decide) [.ping ⟨[]⟩, connectionData] ?_ written
  simp only [List.forall_mem_cons, List.not_mem_nil, false_implies, implies_true, and_true]
  exact ⟨⟨by decide, by decide +kernel⟩, writable_ping, writable_connectionData⟩

end AzureSignalR.ServiceConnections.Wire
