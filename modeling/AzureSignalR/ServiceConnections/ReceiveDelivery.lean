import AzureSignalR.Common.BinaryMessageParser
import AzureSignalR.Protocol.MessagePackFormat
import AzureSignalR.ServiceConnections.Receive

/-!
Contract: what the receive loop dispatches does not depend on how the
transport cuts the stream.

Owns: the messages a stream of frames has to dispatch, the invariant that
relates them to the bytes still pending, and the frames for which the loop
does dispatch them all.

Each frame is dispatched from its own bytes, so the invariant is about the
frames that can be taken off the pending bytes; arrivals leave it alone.
-/

set_option autoImplicit false

namespace AzureSignalR.ServiceConnections

open Library Library.Machine Protocol
open BinaryMessage (frameParser Frame)

section Delivery

variable (mp : MessagePack) (toUpperInvariant : Char → Char) (dispatchError : DispatchError)

/-- The first frame makes the handshake reader return true. -/
def acceptsHandshake (payload : Bytes) : Bool :=
  match frameMessage mp toUpperInvariant payload with
  | some message => handshakeOutcome message = .accepted
  | none => false

/-- The messages to dispatch when these frames arrive: behind an accepted
handshake response, every frame that parses. -/
def expectedDispatch : List Bytes → List (Option ServiceMessage)
  | [] => []
  | first :: others =>
      if acceptsHandshake mp toUpperInvariant first then
        others.filterMap (frameMessage mp toUpperInvariant)
      else []

/-- Without cancellation, the dispatched messages are always an initial part
of `expected`, and all of it once everything has arrived, the transport has
completed and the loop has gone round often enough. -/
def Delivers (start : ReceiveState) (expected : List (Option ServiceMessage)) : Prop :=
  ∀ actions state, .cancel ∉ actions →
    run (receiveStep mp toUpperInvariant dispatchError) start actions = some state →
    state.dispatched <+: expected ∧
      (state.incoming = [] → state.input.completed = true →
        ∃ count final,
          run (receiveStep mp toUpperInvariant dispatchError) state
            (List.replicate count .read) = some final ∧
          final.dispatched = expected)

/-- The frames still to be dispatched, by phase. -/
def Remaining (payloads : List Bytes) (residue : Bytes) (state : ReceiveState) : Prop :=
  match state.phase with
  | .handshake => state.dispatched = [] ∧ frameParser.Takes state.pending payloads residue
  | .processing => ∃ others, frameParser.Takes state.pending others residue ∧
      state.dispatched ++ others.filterMap (frameMessage mp toUpperInvariant) =
        expectedDispatch mp toUpperInvariant payloads
  | .disconnected => state.dispatched = [] ∧ expectedDispatch mp toUpperInvariant payloads = []
  | .returned => state.dispatched = expectedDispatch mp toUpperInvariant payloads

structure Delivery (payloads : List Bytes) (residue : Bytes) (state : ReceiveState) : Prop where
  reading : state.input.canceled = false
  sent : state.input.completed = true → state.incoming = []
  remaining : Remaining mp toUpperInvariant payloads residue state

variable {mp toUpperInvariant dispatchError} {payloads : List Bytes} {residue : Bytes}
  {state next : ReceiveState}

theorem remaining_handshake (phase : state.phase = .handshake) :
    Remaining mp toUpperInvariant payloads residue state ↔
      state.dispatched = [] ∧ frameParser.Takes state.pending payloads residue := by
  unfold Remaining
  rw [phase]

theorem remaining_processing (phase : state.phase = .processing) :
    Remaining mp toUpperInvariant payloads residue state ↔
      ∃ others, frameParser.Takes state.pending others residue ∧
        state.dispatched ++ others.filterMap (frameMessage mp toUpperInvariant) =
          expectedDispatch mp toUpperInvariant payloads := by
  unfold Remaining
  rw [phase]

/-- The frames left when the parser can take none. -/
theorem payloads_eq_nil_of_halts {input : Bytes} (halts : frameParser.Halts input)
    (takes : frameParser.Takes input payloads residue) : payloads = [] := by
  cases takes with
  | nil => rfl
  | cons parsed others => exact absurd parsed (halts _ _)

/-- Taking the first frame off the buffer takes it off the pending bytes. -/
theorem takes_of_parse {payload rest : Bytes}
    (takes : frameParser.Takes state.pending payloads residue)
    (halts : frameParser.Halts residue)
    (parsed : frameParser.parse state.input.buffered = .ok (some (payload, rest))) :
    ∃ others, payloads = payload :: others ∧
      frameParser.Takes (rest ++ state.incoming) others residue := by
  have first : frameParser.Takes state.pending [payload] (rest ++ state.incoming) :=
    (FrameParser.Takes.cons parsed (.nil rest)).append state.incoming
  exact takes.unique halts first

theorem Delivery.of_handshake (delivery : Delivery mp toUpperInvariant payloads residue state)
    (halts : frameParser.Halts residue) (phase : state.phase = .handshake)
    (reads : HandshakeReads mp toUpperInvariant state next) :
    Delivery mp toUpperInvariant payloads residue next := by
  obtain ⟨nothing, takes⟩ := (remaining_handshake phase).mp delivery.remaining
  cases reads with
  | waits parsed unfinished =>
      exact ⟨rfl, delivery.sent, (remaining_handshake phase).mpr ⟨nothing, takes⟩⟩
  | accepts parsed body accepted =>
      obtain ⟨others, split, after⟩ := takes_of_parse takes halts parsed
      refine ⟨rfl, delivery.sent, (remaining_processing rfl).mpr ⟨others, after, ?_⟩⟩
      rw [split, expectedDispatch, if_pos (by simp [acceptsHandshake, body, accepted])]
      change state.dispatched ++ _ = _
      rw [nothing, List.nil_append]
  | rejects parsed body rejected =>
      obtain ⟨others, split, -⟩ := takes_of_parse takes halts parsed
      refine ⟨rfl, delivery.sent, nothing, ?_⟩
      rw [split, expectedDispatch, if_neg (by simp [acceptsHandshake, body, rejected])]
  | malformed parsed body =>
      obtain ⟨others, split, -⟩ := takes_of_parse takes halts parsed
      refine ⟨rfl, delivery.sent, nothing, ?_⟩
      rw [split, expectedDispatch, if_neg (by simp [acceptsHandshake, body])]
  | fails parsed =>
      -- No frame will ever be taken off the stream.
      have stops : frameParser.Halts state.pending := by
        rcases parsed with ⟨error, failed⟩ | ⟨waiting, completed⟩
        · exact frameParser.halts_of_error (frameParser.parse_error failed state.incoming)
        · unfold ReceiveState.pending
          rw [delivery.sent completed, List.append_nil]
          exact frameParser.halts_of_none waiting
      refine ⟨rfl, delivery.sent, nothing, ?_⟩
      rw [payloads_eq_nil_of_halts stops takes]
      rfl

theorem Delivery.of_processing (delivery : Delivery mp toUpperInvariant payloads residue state)
    (halts : frameParser.Halts residue) (phase : state.phase = .processing) :
    Delivery mp toUpperInvariant payloads residue
      (processingRead mp toUpperInvariant dispatchError state) := by
  obtain ⟨others, takes, total⟩ := (remaining_processing phase).mp delivery.remaining
  obtain ⟨taken, ended, dispatches, -, result⟩ :=
    processingRead_eq mp toUpperInvariant dispatchError state delivery.reading
  obtain ⟨more, split, after⟩ := takes.unique halts (dispatches.takes.append state.incoming)
  have progress : ended.2.1 ++ more.filterMap (frameMessage mp toUpperInvariant) =
      expectedDispatch mp toUpperInvariant payloads := by
    rw [dispatches.messages, ← total, split, List.filterMap_append, List.append_assoc]
  rw [result]
  by_cases finished : ended.2.2 = none ∧ state.input.completed = true
  · -- Everything has arrived and the parser wants more: nothing is left.
    have nothing : more = [] := by
      rw [delivery.sent finished.2, List.append_nil] at after
      exact payloads_eq_nil_of_halts
        (frameParser.halts_of_none (dispatches.exhausted finished.1)) after
    refine ⟨rfl, delivery.sent, ?_⟩
    rw [nothing, List.filterMap_nil, List.append_nil] at progress
    simp only [if_pos finished]
    exact progress
  · refine ⟨rfl, delivery.sent, ?_⟩
    simp only [if_neg finished]
    exact ⟨more, after, progress⟩

theorem Delivery.step (delivery : Delivery mp toUpperInvariant payloads residue state)
    (halts : frameParser.Halts residue) {action : ReceiveAction} (allowed : action ≠ .cancel)
    (stepped : receiveStep mp toUpperInvariant dispatchError state action = some next) :
    Delivery mp toUpperInvariant payloads residue next := by
  cases receiveSteps_of_receiveStep mp toUpperInvariant dispatchError stepped with
  | @arrive count positive available =>
      have same : state.input.buffered ++ state.incoming.take count ++
          state.incoming.drop count = state.pending := by
        rw [List.append_assoc, List.take_append_drop]
        rfl
      have remaining := delivery.remaining
      refine ⟨delivery.reading, ?_, ?_⟩
      · intro completed
        have sent := delivery.sent completed
        simp [sent] at available
        omega
      · unfold Remaining ReceiveState.pending Pipe.write at *
        simp only [same]
        exact remaining
  | complete sent unfinished => exact ⟨delivery.reading, fun _ => sent, delivery.remaining⟩
  | cancel reading => exact absurd rfl allowed
  | handshake readable phase =>
      exact delivery.of_handshake halts phase
        (handshakeReads_handshakeRead mp toUpperInvariant state phase delivery.reading)
  | processing readable phase => exact delivery.of_processing halts phase

theorem Delivery.run (delivery : Delivery mp toUpperInvariant payloads residue state)
    (halts : frameParser.Halts residue) {actions : List ReceiveAction}
    (allowed : .cancel ∉ actions)
    (ran : run (receiveStep mp toUpperInvariant dispatchError) state actions = some next) :
    Delivery mp toUpperInvariant payloads residue next := by
  have along : Along (receiveStep mp toUpperInvariant dispatchError)
      (fun _ action => action ≠ .cancel) state actions := by
    apply along_of_forall
    intro action member same
    exact allowed (same ▸ member)
  exact run_along (fun delivery allowed stepped => delivery.step halts allowed stepped)
    delivery along ran

theorem Delivery.isPrefix (delivery : Delivery mp toUpperInvariant payloads residue state) :
    state.dispatched <+: expectedDispatch mp toUpperInvariant payloads := by
  have remaining := delivery.remaining
  unfold Remaining at remaining
  split at remaining
  · rw [remaining.1]
    exact List.nil_prefix
  · obtain ⟨others, -, total⟩ := remaining
    exact ⟨_, total⟩
  · rw [remaining.1]
    exact List.nil_prefix
  · exact remaining ▸ List.prefix_refl _

/-- Everything has arrived and the transport has completed. -/
def Closed (state : ReceiveState) : Prop :=
  state.incoming = [] ∧ state.input.completed = true

theorem Closed.readable (closed : Closed state) : state.input.Readable :=
  .inr (.inl closed.2)

/-- A number of further reads dispatches everything. -/
def Drains (mp : MessagePack) (toUpperInvariant : Char → Char)
    (dispatchError : DispatchError) (state : ReceiveState)
    (expected : List (Option ServiceMessage)) : Prop :=
  ∃ count final,
    run (receiveStep mp toUpperInvariant dispatchError) state
      (List.replicate count .read) = some final ∧ final.dispatched = expected

theorem Drains.now {expected : List (Option ServiceMessage)}
    (done : state.dispatched = expected) :
    Drains mp toUpperInvariant dispatchError state expected :=
  ⟨0, state, rfl, done⟩

theorem Drains.later {expected : List (Option ServiceMessage)}
    (stepped : receiveStep mp toUpperInvariant dispatchError state .read = some next)
    (drains : Drains mp toUpperInvariant dispatchError next expected) :
    Drains mp toUpperInvariant dispatchError state expected := by
  obtain ⟨count, final, ran, done⟩ := drains
  exact ⟨count + 1, final, run_cons.2 ⟨next, stepped, ran⟩, done⟩

theorem receiveStep_read_processing (phase : state.phase = .processing)
    (readable : state.input.Readable) :
    receiveStep mp toUpperInvariant dispatchError state .read =
      some (processingRead mp toUpperInvariant dispatchError state) := by
  unfold receiveStep
  simp only [if_pos readable, phase]

theorem receiveStep_read_handshake (phase : state.phase = .handshake)
    (readable : state.input.Readable) :
    receiveStep mp toUpperInvariant dispatchError state .read =
      some (handshakeRead mp toUpperInvariant state) := by
  unfold receiveStep
  simp only [if_pos readable, phase]

theorem Closed.processingRead (closed : Closed state)
    (reading : state.input.canceled = false) :
    Closed (processingRead mp toUpperInvariant dispatchError state) := by
  obtain ⟨taken, ended, -, -, result⟩ :=
    processingRead_eq mp toUpperInvariant dispatchError state reading
  rw [result]
  exact closed

/-- Nothing is left to dispatch where the parser can take no frame. -/
theorem Delivery.done_of_halts (delivery : Delivery mp toUpperInvariant payloads residue state)
    (closed : Closed state) (phase : state.phase = .processing)
    (stops : frameParser.Halts state.input.buffered) :
    state.dispatched = expectedDispatch mp toUpperInvariant payloads := by
  obtain ⟨others, takes, total⟩ := (remaining_processing phase).mp delivery.remaining
  unfold ReceiveState.pending at takes
  rw [closed.1, List.append_nil] at takes
  rw [payloads_eq_nil_of_halts stops takes, List.filterMap_nil, List.append_nil] at total
  exact total

/-- The induction is on the bytes buffered: a read that does not return has
thrown, at a frame it has taken off or at a prefix that nothing can follow. -/
theorem Delivery.drains_processing (size : Nat)
    (delivery : Delivery mp toUpperInvariant payloads residue state)
    (halts : frameParser.Halts residue) (closed : Closed state)
    (phase : state.phase = .processing) (bound : state.input.buffered.length ≤ size) :
    Drains mp toUpperInvariant dispatchError state
      (expectedDispatch mp toUpperInvariant payloads) := by
  induction size generalizing state with
  | zero =>
      have empty : state.input.buffered = [] := List.eq_nil_of_length_eq_zero (by omega)
      refine .now (delivery.done_of_halts closed phase ?_)
      rw [empty]
      exact frameParser.halts_of_none frameParser.parse_nil
  | succ size inductionHypothesis =>
      have after : Delivery mp toUpperInvariant payloads residue
          (processingRead mp toUpperInvariant dispatchError state) :=
        delivery.of_processing halts phase
      have afterClosed : Closed (processingRead mp toUpperInvariant dispatchError state) :=
        closed.processingRead delivery.reading
      obtain ⟨taken, ended, dispatches, -, result⟩ :=
        processingRead_eq mp toUpperInvariant dispatchError state delivery.reading
      cases outcome : ended.2.2 with
      | none =>
          refine .later (receiveStep_read_processing phase closed.readable) (.now ?_)
          have returned :
              (processingRead mp toUpperInvariant dispatchError state).phase = .returned := by
            rw [result]
            exact if_pos ⟨outcome, closed.2⟩
          have remaining := after.remaining
          unfold Remaining at remaining
          rw [returned] at remaining
          exact remaining
      | some error =>
          by_cases nothing : taken = []
          · refine .now (delivery.done_of_halts closed phase ?_)
            have failed := dispatches.failed error outcome nothing
            have takes := dispatches.takes
            rw [nothing] at takes
            rw [takes.eq_of_nil] at failed
            exact frameParser.halts_of_error failed
          · refine .later (receiveStep_read_processing phase closed.readable)
              (inductionHypothesis after afterClosed ?_ ?_)
            · rw [result]
              exact if_neg (by simp [outcome])
            · have shorter := dispatches.takes.length_le
              have some := List.length_pos_iff.mpr nothing
              rw [result]
              change ended.1.length ≤ size
              omega

theorem Delivery.drains (delivery : Delivery mp toUpperInvariant payloads residue state)
    (halts : frameParser.Halts residue) (closed : Closed state) :
    Drains mp toUpperInvariant dispatchError state
      (expectedDispatch mp toUpperInvariant payloads) := by
  have remaining := delivery.remaining
  cases phase : state.phase with
  | handshake =>
      have reads := handshakeReads_handshakeRead mp toUpperInvariant state phase delivery.reading
      have after := delivery.of_handshake halts phase reads
      have stepped : receiveStep mp toUpperInvariant dispatchError state .read =
          some (handshakeRead mp toUpperInvariant state) :=
        receiveStep_read_handshake phase closed.readable
      have remaining := after.remaining
      refine .later stepped ?_
      generalize handshakeRead mp toUpperInvariant state = next at reads after remaining
      cases reads with
      | waits parsed unfinished => exact absurd closed.2 (by simp [unfinished])
      | accepts parsed body accepted =>
          exact after.drains_processing _ halts closed rfl (le_refl _)
      | rejects parsed body rejected => exact .now (remaining.1.trans remaining.2.symm)
      | malformed parsed body => exact .now (remaining.1.trans remaining.2.symm)
      | fails parsed => exact .now (remaining.1.trans remaining.2.symm)
  | processing => exact delivery.drains_processing _ halts closed phase (le_refl _)
  | disconnected =>
      unfold Remaining at remaining
      rw [phase] at remaining
      exact .now (remaining.1.trans remaining.2.symm)
  | returned =>
      unfold Remaining at remaining
      rw [phase] at remaining
      exact .now remaining

/-- Whatever the bytes are: what is delivered are the frames that can be taken
off the whole stream. -/
theorem delivers_of_takes {stream : Bytes} (takes : frameParser.Takes stream payloads residue)
    (halts : frameParser.Halts residue) :
    Delivers mp toUpperInvariant dispatchError (.start stream)
      (expectedDispatch mp toUpperInvariant payloads) := by
  have start : Delivery mp toUpperInvariant payloads residue (.start stream) :=
    { reading := rfl
      sent := fun completed => nomatch completed
      remaining := ⟨rfl, takes⟩ }
  intro actions state allowed ran
  have delivery := start.run halts allowed ran
  exact ⟨delivery.isPrefix, fun sent completed => delivery.drains halts ⟨sent, completed⟩⟩

variable (mp toUpperInvariant dispatchError) in
/-- Some run reaches a closed state: one chunk, then completion. -/
theorem exists_run_closed (stream : Bytes) :
    ∃ actions state, .cancel ∉ actions ∧
      run (receiveStep mp toUpperInvariant dispatchError) (.start stream) actions =
        some state ∧ Closed state := by
  by_cases empty : stream = []
  · refine ⟨[.complete],
      { ReceiveState.start stream with input := { completed := true } },
      by simp, ?_, empty, rfl⟩
    rw [empty]
    rfl
  · have positive := List.length_pos_iff.mpr empty
    refine ⟨[.arrive stream.length, .complete],
      { ReceiveState.start stream with
        incoming := []
        input := { buffered := stream, completed := true } }, by simp, ?_, rfl, rfl⟩
    refine run_cons.2 ⟨{ ReceiveState.start stream with
      incoming := []
      input := { buffered := stream } }, ?_, rfl⟩
    simp [receiveStep, ReceiveState.start, Pipe.write, positive]

/-- At most one sequence of messages is delivered. -/
theorem Delivers.unique {stream : Bytes} {first second : List (Option ServiceMessage)}
    (delivers : Delivers mp toUpperInvariant dispatchError (.start stream) first)
    (also : Delivers mp toUpperInvariant dispatchError (.start stream) second) :
    first = second := by
  obtain ⟨actions, state, allowed, ran, sent, completed⟩ :=
    exists_run_closed mp toUpperInvariant dispatchError stream
  have part {one other : List (Option ServiceMessage)}
      (delivers : Delivers mp toUpperInvariant dispatchError (.start stream) one)
      (also : Delivers mp toUpperInvariant dispatchError (.start stream) other) :
      one <+: other := by
    obtain ⟨count, final, reads, all⟩ := (delivers actions state allowed ran).2 sent completed
    have whole := run_append.2 ⟨state, ran, reads⟩
    have noCancel : ReceiveAction.cancel ∉ actions ++ List.replicate count .read := by
      simp [allowed, List.mem_replicate]
    rw [← all]
    exact (also _ _ noCancel whole).1
  exact (part delivers also).eq_of_length_le (part also delivers).length_le

/-! ## Streams of frames -/

/-- Keeping the items before the first bad one loses nothing exactly when
nothing is read from a bad item or behind one. -/
theorem filterMap_takeWhile_iff {α β : Type} (keep : α → Prop) [DecidablePred keep]
    (read : α → Option β) (items : List α) :
    (items.takeWhile (keep ·)).filterMap read = items.filterMap read ↔
      ∀ front item back, items = front ++ item :: back → read item ≠ none →
        ∀ other ∈ front ++ [item], keep other := by
  induction items with
  | nil => simp
  | cons head items inductionHypothesis =>
      by_cases kept : keep head
      · rw [List.takeWhile_cons_of_pos (by simpa using kept)]
        have same : (head :: items.takeWhile (keep ·)).filterMap read =
              (head :: items).filterMap read ↔
            (items.takeWhile (keep ·)).filterMap read = items.filterMap read := by
          cases found : read head <;> simp [found]
        rw [same, inductionHypothesis]
        constructor
        · intro holds front item back split present other member
          cases front with
          | nil =>
              cases split
              cases List.mem_singleton.mp member
              exact kept
          | cons first front =>
              cases split
              rcases List.mem_cons.mp member with rfl | inside
              · exact kept
              · exact holds front item back rfl present other inside
        · intro holds front item back split present other member
          exact holds (head :: front) item back (by rw [split]; rfl) present other
            (List.mem_cons_of_mem _ member)
      · rw [List.takeWhile_cons_of_neg (by simpa using kept)]
        constructor
        · intro nothing front item back split present
          have read_none : ∀ other ∈ head :: items, read other = none := by
            simpa using (List.filterMap_eq_nil_iff.mp nothing.symm)
          exact absurd (read_none item (by rw [split]; simp)) present
        · intro holds
          symm
          rw [List.filterMap_nil, List.filterMap_eq_nil_iff]
          intro item member
          by_contra present
          obtain ⟨front, back, split⟩ := List.append_of_mem member
          have first : head ∈ front ++ [item] := by
            cases front with
            | nil =>
                cases split
                exact List.mem_singleton_self head
            | cons first front =>
                cases split
                exact List.mem_cons_self
          exact kept (holds front item back split present head first)

variable (mp toUpperInvariant) in
/-- Every frame from which a message is to be dispatched, and every frame
before it, is shorter than `2 ^ 31` bytes. -/
def MessagesAddressable (frames : List Frame) : Prop :=
  ∀ handshake front frame back, frames = handshake :: (front ++ frame :: back) →
    acceptsHandshake mp toUpperInvariant handshake.body = true →
    frameMessage mp toUpperInvariant frame.body ≠ none →
    ∀ other ∈ handshake :: (front ++ [frame]), other.Addressable

/-- The parser stops at the first frame it cannot address. -/
theorem takes_addressable (frames : List Frame) :
    ∃ rest, frameParser.Halts rest ∧
      frameParser.Takes (frames.flatMap Frame.bytes)
        ((frames.takeWhile (Frame.Addressable ·)).map Frame.body) rest := by
  refine ⟨(frames.dropWhile (Frame.Addressable ·)).flatMap Frame.bytes, ?_, ?_⟩
  · cases dropped : frames.dropWhile (Frame.Addressable ·) with
    | nil => exact frameParser.halts_of_none frameParser.parse_nil
    | cons frame others =>
        have tooLong : ¬ frame.Addressable := by
          have head := List.head?_dropWhile_not (fun frame : Frame => decide frame.Addressable)
            frames
          rw [dropped] at head
          simpa using head
        have failed : frameParser.parse (frame.bytes ++ others.flatMap Frame.bytes) =
            .error (.argumentOutOfRange "start") := by
          change BinaryMessage.tryParseMessage _ = _
          rw [BinaryMessage.tryParseMessage_frame, if_neg tooLong]
        exact frameParser.halts_of_error failed
  · have taken := BinaryMessage.takes_frames (frames.takeWhile (Frame.Addressable ·))
      ((frames.dropWhile (Frame.Addressable ·)).flatMap Frame.bytes)
      (fun frame member => by simpa using List.mem_takeWhile_imp member)
    rw [← List.flatMap_append, List.takeWhile_append_dropWhile] at taken
    exact taken

/-- Behind an accepted handshake response the condition is about the frames
that follow, and about the response itself if there is anything to dispatch. -/
theorem messagesAddressable_cons {handshake : Frame} (frames : List Frame)
    (accepted : acceptsHandshake mp toUpperInvariant handshake.body = true) :
    MessagesAddressable mp toUpperInvariant (handshake :: frames) ↔
      ∀ front frame back, frames = front ++ frame :: back →
        frameMessage mp toUpperInvariant frame.body ≠ none →
        handshake.Addressable ∧ ∀ other ∈ front ++ [frame], other.Addressable := by
  constructor
  · intro holds front frame back split present
    have all := holds handshake front frame back (by rw [split]) accepted present
    exact ⟨all handshake List.mem_cons_self,
      fun other member => all other (List.mem_cons_of_mem _ member)⟩
  · intro holds first front frame back split _ present other member
    cases split
    obtain ⟨here, all⟩ := holds front frame back rfl present
    rcases List.mem_cons.mp member with rfl | inside
    · exact here
    · exact all other inside

theorem expectedDispatch_takeWhile_iff (frames : List Frame) :
    expectedDispatch mp toUpperInvariant
        ((frames.takeWhile (Frame.Addressable ·)).map Frame.body) =
      expectedDispatch mp toUpperInvariant (frames.map Frame.body) ↔
      MessagesAddressable mp toUpperInvariant frames := by
  cases frames with
  | nil =>
      refine ⟨fun _ handshake front frame back split => ?_, fun _ => rfl⟩
      exact nomatch split
  | cons handshake frames =>
      by_cases accepted : acceptsHandshake mp toUpperInvariant handshake.body = true
      · rw [messagesAddressable_cons frames accepted, List.map_cons]
        by_cases addressable : handshake.Addressable
        · rw [List.takeWhile_cons_of_pos (by simpa using addressable), List.map_cons]
          simp only [expectedDispatch, if_pos accepted, List.filterMap_map]
          rw [filterMap_takeWhile_iff Frame.Addressable]
          simp only [addressable, true_and]
          rfl
        · rw [List.takeWhile_cons_of_neg (by simpa using addressable)]
          simp only [List.map_nil, expectedDispatch, if_pos accepted, List.filterMap_map]
          rw [eq_comm, List.filterMap_eq_nil_iff]
          constructor
          · intro nothing front frame back split present
            exact absurd (nothing frame (by rw [split]; simp)) present
          · intro holds frame member
            by_contra present
            obtain ⟨front, back, split⟩ := List.append_of_mem member
            exact addressable (holds front frame back split present).1
      · have refused : acceptsHandshake mp toUpperInvariant handshake.body = false := by
          simpa using accepted
        constructor
        · intro _ first front frame back split accepts
          cases split
          exact absurd accepts accepted
        · intro _
          by_cases addressable : handshake.Addressable
          · rw [List.takeWhile_cons_of_pos (by simpa using addressable)]
            simp [expectedDispatch, refused]
          · rw [List.takeWhile_cons_of_neg (by simpa using addressable)]
            simp [expectedDispatch, refused]

/-- What the loop delivers from a stream of frames. -/
theorem delivers_frames (frames : List Frame) :
    Delivers mp toUpperInvariant dispatchError (.start (frames.flatMap Frame.bytes))
      (expectedDispatch mp toUpperInvariant
        ((frames.takeWhile (Frame.Addressable ·)).map Frame.body)) := by
  obtain ⟨rest, halts, takes⟩ := takes_addressable frames
  exact delivers_of_takes takes halts

theorem messagesAddressable_of_delivers {frames : List Frame}
    (delivers : Delivers mp toUpperInvariant dispatchError
      (.start (frames.flatMap Frame.bytes))
      (expectedDispatch mp toUpperInvariant (frames.map Frame.body))) :
    MessagesAddressable mp toUpperInvariant frames :=
  (expectedDispatch_takeWhile_iff frames).mp ((delivers_frames frames).unique delivers)

variable (mp toUpperInvariant dispatchError) in
/-- Every frame behind the handshake response that parses is dispatched once
and in order, whatever the chunking, exactly when each of them and all that
precede it are shorter than `2 ^ 31` bytes. -/
theorem receive_delivers_iff (frames : List Frame) :
    Delivers mp toUpperInvariant dispatchError (.start (frames.flatMap Frame.bytes))
        (expectedDispatch mp toUpperInvariant (frames.map Frame.body)) ↔
      MessagesAddressable mp toUpperInvariant frames := by
  constructor
  · exact messagesAddressable_of_delivers
  · intro addressable
    rw [← (expectedDispatch_takeWhile_iff frames).mpr addressable]
    exact delivers_frames frames

end Delivery

/-! ## A frame the parser cannot step over -/

/-- A ping followed by bytes its reader ignores, as long as a length prefix
can announce. -/
def largestFrame : Frame where
  lengthPrefix :=
    { more := [0xff, 0xff, 0xff, 0xff]
      last := 7
      continues := BinaryMessageParser.largestPrefix.continues
      ends := BinaryMessageParser.largestPrefix.ends
      size := BinaryMessageParser.largestPrefix.size
      limit := BinaryMessageParser.largestPrefix.limit }
  body := 0x91 :: 0x03 :: List.replicate (2 ^ 31 - 3) 0
  announced := by
    rw [List.length_cons, List.length_cons, List.length_replicate]
    rfl

theorem frameMessage_ping (ignored : Bytes) :
    frameMessage messagePackFormat Char.toUpper (0x91 :: 0x03 :: ignored) =
      some (some (.ping ⟨[]⟩)) :=
  rfl

theorem largestFrame_not_addressable : ¬ largestFrame.Addressable := by
  unfold Frame.Addressable Frame.bytes
  rw [List.length_append, largestFrame.announced]
  decide

/-- Behind the handshake response, the ping in the largest frame is never
dispatched. -/
theorem not_delivers_largestFrame :
    ¬ Delivers messagePackFormat Char.toUpper (fun _ => none)
      (.start ([handshakeResponseFrame, largestFrame].flatMap Frame.bytes))
      (expectedDispatch messagePackFormat Char.toUpper
        ([handshakeResponseFrame, largestFrame].map Frame.body)) := by
  intro delivers
  have addressable := messagesAddressable_of_delivers delivers handshakeResponseFrame []
    largestFrame [] rfl (by decide) (by
      rw [largestFrame, frameMessage_ping]
      exact nofun)
  exact largestFrame_not_addressable (addressable largestFrame (by simp))

end AzureSignalR.ServiceConnections
