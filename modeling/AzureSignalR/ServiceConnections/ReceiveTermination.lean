import AzureSignalR.Protocol.MessagePackFormat
import AzureSignalR.ServiceConnections.Receive

/-!
Contract: when `ProcessIncomingAsync` comes to an end.

Owns: the measure that bounds the iterations, and the byte sequences on which
the loop goes round for ever.

Frames with malformed bodies and throwing dispatches are taken off the buffer,
so they only cost an iteration each. A bad length prefix is not taken off, and
the exception it raises skips the test for completion.
-/

set_option autoImplicit false

namespace AzureSignalR.ServiceConnections

open Library Library.Machine Protocol
open BinaryMessage (frameParser)

section Termination

variable (mp : MessagePack) (toUpperInvariant : Char → Char) (dispatchError : DispatchError)

/-- The transport has nothing left to do and the loop cannot take a step. -/
def Settled (state : ReceiveState) : Prop :=
  ∀ action, action ≠ .cancel → receiveStep mp toUpperInvariant dispatchError state action = none

/-- No run goes on for ever, and one that cannot go on has returned. -/
def AlwaysReturns (start : ReceiveState) : Prop :=
  ¬ Diverges (receiveStep mp toUpperInvariant dispatchError) start ∧
    ∀ actions state,
      run (receiveStep mp toUpperInvariant dispatchError) start actions = some state →
      Settled mp toUpperInvariant dispatchError state → state.phase = .returned

/-- Taking off one complete frame after the other, the parser never meets an
invalid length prefix, nor a frame of `2 ^ 31` bytes or more. -/
def WellPrefixed (bytes : Bytes) : Prop :=
  ∃ payloads rest, frameParser.Takes bytes payloads rest ∧ frameParser.parse rest = .ok none

variable {mp toUpperInvariant dispatchError} {state next : ReceiveState} {bytes : Bytes}

theorem WellPrefixed.not_error (wellPrefixed : WellPrefixed bytes) {payloads : List Bytes}
    {rest : Bytes} (takes : frameParser.Takes bytes payloads rest) (error : Exn) :
    frameParser.parse rest ≠ .error error := by
  intro failed
  obtain ⟨others, final, all, waiting⟩ := wellPrefixed
  obtain ⟨more, -, after⟩ := all.unique (frameParser.halts_of_none waiting) takes
  cases after with
  | nil =>
      rw [failed] at waiting
      exact nomatch waiting
  | cons parsed tail =>
      rw [failed] at parsed
      exact nomatch parsed

theorem WellPrefixed.takes (wellPrefixed : WellPrefixed bytes) {payloads : List Bytes}
    {rest : Bytes} (takes : frameParser.Takes bytes payloads rest) : WellPrefixed rest := by
  obtain ⟨others, final, all, waiting⟩ := wellPrefixed
  obtain ⟨more, -, after⟩ := all.unique (frameParser.halts_of_none waiting) takes
  exact ⟨more, final, after, waiting⟩

/-- Otherwise the parser meets a prefix it throws on. -/
theorem error_of_not_wellPrefixed (bad : ¬ WellPrefixed bytes) :
    ∃ payloads rest error, frameParser.Takes bytes payloads rest ∧
      frameParser.parse rest = .error error := by
  obtain ⟨payloads, rest, takes, halts⟩ := frameParser.exists_takes bytes
  cases parsed : frameParser.parse rest with
  | error error => exact ⟨payloads, rest, error, takes, parsed⟩
  | ok found =>
      cases found with
      | none => exact absurd ⟨payloads, rest, takes, parsed⟩ bad
      | some frame => exact absurd parsed (halts frame.1 frame.2)

/-! ## The loop ends on well-prefixed bytes -/

structure Progressing (state : ReceiveState) : Prop where
  phase : state.phase = .processing ∨ state.phase = .returned
  sent : state.input.completed = true → state.incoming = []
  wellPrefixed : WellPrefixed state.pending

def Phase.rank : Phase → Nat
  | .processing => 2
  | _ => 0

/-- Every step decreases it. An arriving byte is still to be examined and to
be consumed, so it counts three times while it is under way. -/
def remainingSteps (state : ReceiveState) : Nat :=
  3 * state.incoming.length + state.input.buffered.length + state.input.unexamined +
    (!state.input.completed).toNat + (!state.input.canceled).toNat + state.phase.rank

theorem progressing_of_canceled (progressing : Progressing state)
    (canceled : state.input.canceled = true) :
    Progressing (processingRead mp toUpperInvariant dispatchError state) := by
  rw [processingRead_canceled mp toUpperInvariant dispatchError state canceled]
  exact ⟨.inr rfl, progressing.sent, progressing.wellPrefixed⟩

theorem progressing_of_read (progressing : Progressing state)
    (reading : state.input.canceled = false) :
    Progressing (processingRead mp toUpperInvariant dispatchError state) := by
  obtain ⟨taken, ended, dispatches, -, result⟩ :=
    processingRead_eq mp toUpperInvariant dispatchError state reading
  rw [result]
  refine ⟨?_, progressing.sent, ?_⟩
  · by_cases finished : ended.2.2 = none ∧ state.input.completed = true
    · exact .inr (if_pos finished)
    · exact .inl (if_neg finished)
  · exact progressing.wellPrefixed.takes (dispatches.takes.append state.incoming)

theorem Progressing.step (progressing : Progressing state) {action : ReceiveAction}
    (stepped : receiveStep mp toUpperInvariant dispatchError state action = some next) :
    Progressing next := by
  cases receiveSteps_of_receiveStep mp toUpperInvariant dispatchError stepped with
  | @arrive count positive available =>
      refine ⟨progressing.phase, ?_, ?_⟩
      · intro completed
        have sent := progressing.sent completed
        simp [sent] at available
        omega
      · have same : state.input.buffered ++ state.incoming.take count ++
            state.incoming.drop count = state.pending := by
          rw [List.append_assoc, List.take_append_drop]
          rfl
        unfold ReceiveState.pending Pipe.write
        rw [same]
        exact progressing.wellPrefixed
  | complete sent unfinished =>
      exact ⟨progressing.phase, fun _ => sent, progressing.wellPrefixed⟩
  | cancel reading => exact ⟨progressing.phase, progressing.sent, progressing.wellPrefixed⟩
  | handshake readable phase =>
      rcases progressing.phase with other | other
      · exact nomatch phase.symm.trans other
      · exact nomatch phase.symm.trans other
  | processing readable phase =>
      cases reading : state.input.canceled with
      | true => exact progressing_of_canceled progressing reading
      | false => exact progressing_of_read progressing reading

theorem remainingSteps_of_canceled (phase : state.phase = .processing)
    (canceled : state.input.canceled = true) :
    remainingSteps (processingRead mp toUpperInvariant dispatchError state) <
      remainingSteps state := by
  rw [processingRead_canceled mp toUpperInvariant dispatchError state canceled]
  simp only [remainingSteps, Pipe.advanceTo, Pipe.unexamined, Phase.rank, phase, canceled,
    Bool.not_true, Bool.not_false, Bool.toNat_true, Bool.toNat_false]
  omega

theorem remainingSteps_of_read (progressing : Progressing state)
    (phase : state.phase = .processing) (reading : state.input.canceled = false)
    (readable : state.input.Readable) :
    remainingSteps (processingRead mp toUpperInvariant dispatchError state) <
      remainingSteps state := by
  obtain ⟨taken, ended, dispatches, -, result⟩ :=
    processingRead_eq mp toUpperInvariant dispatchError state reading
  have consumed := dispatches.takes.length_le
  rw [result]
  by_cases completed : state.input.completed = true
  · by_cases finished : ended.2.2 = none
    · simp only [remainingSteps, Pipe.advanceTo, Pipe.unexamined, phase, reading, completed,
        finished, and_self, if_true, Phase.rank, Bool.not_true, Bool.not_false,
        Bool.toNat_true, Bool.toNat_false]
      omega
    · -- The exception is that of a frame taken off the buffer.
      obtain ⟨error, threw⟩ := Option.ne_none_iff_exists'.mp finished
      have some : taken ≠ [] := by
        intro nothing
        have failed := dispatches.failed error threw nothing
        have takes := dispatches.takes.append state.incoming
        have whole : ended.1 ++ state.incoming = ended.1 := by
          rw [progressing.sent completed, List.append_nil]
        rw [whole] at takes
        exact progressing.wellPrefixed.not_error takes error failed
      have positive := List.length_pos_iff.mpr some
      simp only [remainingSteps, Pipe.advanceTo, Pipe.unexamined, phase, reading, completed,
        finished, false_and, if_false, Phase.rank, Bool.not_true, Bool.not_false,
        Bool.toNat_true, Bool.toNat_false]
      omega
  · have unread : state.input.examined < state.input.buffered.length := by
      rcases readable with canceled | done | unread
      · rw [reading] at canceled
        exact nomatch canceled
      · exact absurd done completed
      · exact unread
    simp only [remainingSteps, Pipe.advanceTo, Pipe.unexamined, phase, reading, completed,
      Bool.false_eq_true, and_false, if_false, Phase.rank]
    omega

theorem remainingSteps_lt (progressing : Progressing state) {action : ReceiveAction}
    (stepped : receiveStep mp toUpperInvariant dispatchError state action = some next) :
    remainingSteps next < remainingSteps state := by
  cases receiveSteps_of_receiveStep mp toUpperInvariant dispatchError stepped with
  | @arrive count positive available =>
      have left : state.incoming.length - count + count = state.incoming.length :=
        Nat.sub_add_cancel available
      have unread : state.input.buffered.length + count - state.input.examined ≤
          state.input.buffered.length - state.input.examined + count := by omega
      simp only [remainingSteps, Pipe.write, Pipe.unexamined, List.length_append,
        List.length_take, List.length_drop, min_eq_left available]
      omega
  | complete sent unfinished =>
      simp only [remainingSteps, Pipe.complete, Pipe.unexamined, unfinished, Bool.not_true,
        Bool.not_false, Bool.toNat_true, Bool.toNat_false]
      omega
  | cancel reading =>
      simp only [remainingSteps, Pipe.cancelPendingRead, Pipe.unexamined, reading,
        Bool.not_true, Bool.not_false, Bool.toNat_true, Bool.toNat_false]
      omega
  | handshake readable phase =>
      rcases progressing.phase with other | other
      · exact nomatch phase.symm.trans other
      · exact nomatch phase.symm.trans other
  | processing readable phase =>
      cases reading : state.input.canceled with
      | true => exact remainingSteps_of_canceled phase reading
      | false => exact remainingSteps_of_read progressing phase reading readable

theorem Progressing.returned_of_settled (progressing : Progressing state)
    (settled : Settled mp toUpperInvariant dispatchError state) : state.phase = .returned := by
  rcases progressing.phase with processing | returned
  · exfalso
    have sent : state.incoming = [] := by
      have blocked := settled (.arrive 1) fun dispatch => by cases dispatch
      simpa [receiveStep] using blocked
    have completed : state.input.completed = true := by
      have blocked := settled .complete fun dispatch => by cases dispatch
      simpa [receiveStep, sent] using blocked
    have blocked := settled .read fun dispatch => by cases dispatch
    have readable : state.input.Readable := .inr (.inl completed)
    simp [receiveStep, readable, processing] at blocked
  · exact returned

theorem alwaysReturns_of_wellPrefixed {buffered stream : Bytes}
    (wellPrefixed : WellPrefixed (buffered ++ stream)) :
    AlwaysReturns mp toUpperInvariant dispatchError (.processing buffered stream) := by
  have start : Progressing (.processing buffered stream) :=
    { phase := .inl rfl
      sent := fun completed => nomatch completed
      wellPrefixed := wellPrefixed }
  constructor
  · exact not_diverges remainingSteps (fun progressing stepped => progressing.step stepped)
      (fun progressing stepped => remainingSteps_lt progressing stepped) start
  · intro actions state ran settled
    have progressing : Progressing state :=
      run_invariant (fun progressing stepped => progressing.step stepped) start ran
    exact progressing.returned_of_settled settled

/-! ## The loop does not end otherwise -/

/-- Everything has arrived, the transport has completed, and the buffer leads
to the bytes `bad`. -/
structure Circling (bad : Bytes) (state : ReceiveState) : Prop where
  phase : state.phase = .processing
  reading : state.input.canceled = false
  sent : state.incoming = []
  completed : state.input.completed = true
  leads : ∃ payloads, frameParser.Takes state.input.buffered payloads bad

theorem Circling.read {bad : Bytes} {error : Exn} (circling : Circling bad state)
    (failed : frameParser.parse bad = .error error) :
    Circling bad (processingRead mp toUpperInvariant dispatchError state) := by
  obtain ⟨payloads, leads⟩ := circling.leads
  obtain ⟨taken, ended, dispatches, -, result⟩ :=
    processingRead_eq mp toUpperInvariant dispatchError state circling.reading
  obtain ⟨more, -, after⟩ :=
    leads.unique (frameParser.halts_of_error failed) dispatches.takes
  have threw : ended.2.2 ≠ none := by
    intro none
    have waiting := dispatches.exhausted none
    cases after with
    | nil =>
        rw [failed] at waiting
        exact nomatch waiting
    | cons parsed tail =>
        rw [parsed] at waiting
        exact nomatch waiting
  rw [result]
  exact
    { phase := if_neg fun finished => threw finished.1
      reading := rfl
      sent := circling.sent
      completed := circling.completed
      leads := ⟨more, after⟩ }

theorem Circling.diverges {bad : Bytes} {error : Exn} (circling : Circling bad state)
    (failed : frameParser.parse bad = .error error) :
    Diverges (receiveStep mp toUpperInvariant dispatchError) state := by
  refine Machine.diverges (fun {state} circling => ?_) circling
  have readable : state.input.Readable := .inr (.inl circling.completed)
  refine ⟨.read, processingRead mp toUpperInvariant dispatchError state, ?_,
    circling.read failed⟩
  unfold receiveStep
  simp only [if_pos readable, circling.phase]

/-- The rest arrives in one chunk and the transport completes. -/
theorem exists_run_received (buffered stream : Bytes) :
    ∃ actions, run (receiveStep mp toUpperInvariant dispatchError)
      (.processing buffered stream) actions =
        some { ReceiveState.processing buffered stream with
          incoming := []
          input := { buffered := buffered ++ stream, completed := true } } := by
  by_cases empty : stream = []
  · refine ⟨[.complete], ?_⟩
    rw [empty, List.append_nil]
    rfl
  · have positive := List.length_pos_iff.mpr empty
    refine ⟨[.arrive stream.length, .complete], run_cons.2
      ⟨{ ReceiveState.processing buffered stream with
          incoming := []
          input := { buffered := buffered ++ stream } }, ?_, rfl⟩⟩
    simp [receiveStep, ReceiveState.processing, Pipe.write, positive]

theorem diverges_of_not_wellPrefixed {buffered stream : Bytes}
    (bad : ¬ WellPrefixed (buffered ++ stream)) :
    Diverges (receiveStep mp toUpperInvariant dispatchError)
      (.processing buffered stream) := by
  obtain ⟨payloads, rest, error, takes, failed⟩ := error_of_not_wellPrefixed bad
  obtain ⟨actions, ran⟩ := exists_run_received buffered stream
  have circling : Circling rest
      { ReceiveState.processing buffered stream with
        incoming := []
        input := { buffered := buffered ++ stream, completed := true } } :=
    { phase := rfl
      reading := rfl
      sent := rfl
      completed := rfl
      leads := ⟨payloads, takes⟩ }
  exact (circling.diverges failed).of_run ran

variable (mp toUpperInvariant dispatchError) in
/-- `ProcessIncomingAsync` ends, whatever the chunking, exactly when the bytes
it is given are well prefixed. -/
theorem processIncoming_returns_iff (buffered stream : Bytes) :
    AlwaysReturns mp toUpperInvariant dispatchError (.processing buffered stream) ↔
      WellPrefixed (buffered ++ stream) := by
  constructor
  · intro returns
    by_contra bad
    exact returns.1 (diverges_of_not_wellPrefixed bad)
  · exact alwaysReturns_of_wellPrefixed

end Termination

/-- Five bytes that no length prefix starts with. -/
theorem not_alwaysReturns_invalidPrefix :
    ¬ AlwaysReturns messagePackFormat Char.toUpper (fun _ => none)
      (.processing [] [0x80, 0x80, 0x80, 0x80, 0x80]) := by
  intro returns
  refine returns.1 (diverges_of_not_wellPrefixed ?_)
  intro wellPrefixed
  have failed : frameParser.parse [0x80, 0x80, 0x80, 0x80, 0x80] =
      .error (.format "Messages over 2GB in size are not supported.") := by decide
  exact wellPrefixed.not_error (.nil _) _ failed

end AzureSignalR.ServiceConnections
