import AzureSignalR.ClientConnections.OutgoingOrder
import AzureSignalR.Library.Trace

/-!
Contract: what a `PauseAck` promises to the service.

Owns: the promise, as a property of the trace of written messages, the
invariant of the pause semaphore that carries it, and the runs in which it is
kept.
-/

set_option autoImplicit false

namespace AzureSignalR.ClientConnections

open Library Library.Machine

/-! ## The promise -/

namespace Event

def IsData : Event → Prop
  | .data _ _ => True
  | _ => False

def IsAck (event : Event) : Prop := event = .pauseAck

def IsPaused (event : Event) : Prop := event = .paused

def IsResuming (event : Event) : Prop := event = .resuming

def IsResumed (event : Event) : Prop := event = .resumed

end Event

open Event

structure PauseSafe (log : List Event) : Prop where
  /-- No data is written between an ack and the end of the `Resume`. -/
  silent : Trace.Separated IsAck IsResumed IsData log
  /-- At most one ack is written for each effective `Pause`. -/
  single : Trace.Separated IsAck IsPaused IsAck log
  /-- No ack is written once the `Resume` has begun. -/
  ended : Trace.Separated IsResuming IsPaused IsAck log

theorem PauseSafe.snoc {log : List Event} {event : Event} (safe : PauseSafe log)
    (data : event.IsData → ¬ Trace.Pending IsAck IsResumed log)
    (ack : event.IsAck → ¬ Trace.Pending IsAck IsPaused log ∧
      ¬ Trace.Pending IsResuming IsPaused log) : PauseSafe (log ++ [event]) where
  silent := Trace.separated_snoc.2 ⟨safe.silent, data⟩
  single := Trace.separated_snoc.2 ⟨safe.single, fun isAck => (ack isAck).1⟩
  ended := Trace.separated_snoc.2 ⟨safe.ended, fun isAck => (ack isAck).2⟩

/-! ## Phases of a pause -/

/-- What the pause protocol depends on: the flags, who has the permit of the
semaphore, who waits for it, and how far the pauses and resumes are. -/
@[ext] structure Phase where
  paused : Bool
  pauseAcked : Bool
  free : Nat
  loopHolds : Nat
  pauseQueued : Nat
  resetting : Nat
  entering : Nat
  replying : Nat
  resuming : Nat

namespace Phase

variable (phase : Phase)

/-- Effective pauses that do not have the permit yet. -/
def pausing : Nat := phase.resetting + phase.entering + phase.pauseQueued

/-- The last effective `Pause` has the permit, and its ack is out. -/
def Acknowledged : Prop :=
  phase.pausing = 0 ∧ phase.pauseAcked = true ∧ phase.replying = 0

instance : Decidable phase.Acknowledged := inferInstanceAs (Decidable (_ ∧ _ ∧ _))

/-- Permits that are free, or held by the loop or by a pause that a `Resume` is
about to end. -/
def permits : Nat := phase.free + phase.loopHolds + phase.resuming

/-- Who has the only permit. -/
inductive Valid : Prop where
  | unpaused (paused : phase.paused = false) (pausing : phase.pausing = 0)
      (acked : phase.pauseAcked = true) (replying : phase.replying = 0)
      (permits : phase.permits = 1)
  /-- A `Pause` waits for the permit. -/
  | requested (paused : phase.paused = true) (pausing : phase.pausing = 1)
      (acked : phase.resetting = 0 → phase.pauseAcked = false) (replying : phase.replying = 0)
      (permits : phase.permits = 1)
  /-- A `Pause` has the permit. -/
  | held (paused : phase.paused = true) (pausing : phase.pausing = 0)
      (acked : phase.pauseAcked = false → phase.replying = 0) (replying : phase.replying ≤ 1)
      (permits : phase.permits = 0)

/-- What the log says about the phase. -/
structure Traced (log : List Event) : Prop where
  acknowledged : Trace.Pending IsAck IsResumed log →
    (phase.paused = true ∧ phase.Acknowledged) ∨ 0 < phase.resuming
  answered : Trace.Pending IsAck IsPaused log → phase.paused = false ∨ phase.Acknowledged
  resumed : Trace.Pending IsResuming IsPaused log → phase.paused = false
  safe : PauseSafe log

variable {phase} {other : Phase} {log : List Event}

namespace Valid

theorem permits_le (valid : phase.Valid) : phase.permits ≤ 1 := by
  cases valid with
  | unpaused _ _ _ _ permits => exact Nat.le_of_eq permits
  | requested _ _ _ _ permits => exact Nat.le_of_eq permits
  | held _ _ _ _ permits => omega

/-- The permit moves, but no `Pause` gives or takes it. -/
theorem of_permits (valid : phase.Valid) (paused : other.paused = phase.paused)
    (acked : other.pauseAcked = phase.pauseAcked)
    (resetting : other.resetting = phase.resetting) (pausing : other.pausing = phase.pausing)
    (replying : other.replying = phase.replying) (permits : other.permits = phase.permits) :
    other.Valid := by
  cases valid with
  | unpaused isPaused none isAcked noReply one =>
      exact .unpaused (paused.trans isPaused) (pausing.trans none) (acked.trans isAcked)
        (replying.trans noReply) (permits.trans one)
  | requested isPaused some isAcked noReply one =>
      refine .requested (paused.trans isPaused) (pausing.trans some) ?_
        (replying.trans noReply) (permits.trans one)
      rw [resetting, acked]
      exact isAcked
  | held isPaused none isAcked reply zero =>
      refine .held (paused.trans isPaused) (pausing.trans none) ?_ ?_ (permits.trans zero)
      · rw [acked, replying]
        exact isAcked
      · rw [replying]
        exact reply

/-- A `Pause` gets the permit. -/
theorem grant (valid : phase.Valid) (paused : other.paused = phase.paused)
    (replying : other.replying = phase.replying)
    (pausing : other.pausing + 1 = phase.pausing) (permits : other.permits + 1 = phase.permits) :
    other.Valid := by
  cases valid with
  | unpaused _ none => omega
  | requested isPaused some isAcked noReply one =>
      refine .held (paused.trans isPaused) (by omega) ?_ (by omega) (by omega)
      intro _
      rw [replying, noReply]
  | held _ none => omega

theorem pause (valid : phase.Valid) (unpaused : phase.paused = false) :
    Valid { phase with paused := true, resetting := phase.resetting + 1 } := by
  cases valid with
  | unpaused _ none isAcked noReply one =>
      refine .requested rfl ?_ ?_ noReply one
      · simp only [pausing] at none ⊢
        omega
      · exact fun impossible => nomatch impossible
  | requested isPaused => exact absurd unpaused (by simp [isPaused])
  | held isPaused => exact absurd unpaused (by simp [isPaused])

theorem resetPauseAcked (valid : phase.Valid) (present : 0 < phase.resetting) :
    Valid
      { phase with
        pauseAcked := false
        resetting := phase.resetting - 1
        entering := phase.entering + 1 } := by
  have pausing : 0 < phase.pausing := by
    rw [Phase.pausing]
    omega
  cases valid with
  | unpaused _ none => omega
  | requested isPaused some isAcked noReply one =>
      refine .requested isPaused ?_ (fun _ => rfl) noReply one
      simp only [Phase.pausing] at some ⊢
      omega
  | held _ none => omega

theorem checkAck (valid : phase.Valid) (unacked : phase.pauseAcked = false)
    (granted : phase.pausing = 0) :
    Valid { phase with pauseAcked := true, replying := phase.replying + 1 } := by
  cases valid with
  | unpaused _ _ isAcked => exact absurd unacked (by simp [isAcked])
  | requested _ some => omega
  | held isPaused none isAcked reply zero =>
      have noReply := isAcked unacked
      refine .held isPaused none ?_ ?_ zero
      · exact fun impossible => nomatch impossible
      · simp only
        omega

/-- An ack is written only while the `Pause` has the permit, and once. -/
theorem replyAck (valid : phase.Valid) (present : 0 < phase.replying) :
    (phase.paused = true ∧ phase.pausing = 0 ∧ phase.pauseAcked = true ∧
      phase.replying = 1) ∧ Valid { phase with replying := phase.replying - 1 } := by
  cases valid with
  | unpaused _ _ _ noReply => omega
  | requested _ _ _ noReply => omega
  | held isPaused none isAcked reply zero =>
      refine ⟨⟨isPaused, none, ?_, by omega⟩, .held isPaused none ?_ ?_ zero⟩
      · cases acked : phase.pauseAcked with
        | true => rfl
        | false =>
            have noReply := isAcked acked
            omega
      · intro unacked
        have noReply := isAcked unacked
        omega
      · simp only
        omega

theorem resume (valid : phase.Valid) (paused : phase.paused = true)
    (acknowledged : phase.Acknowledged) :
    Valid { phase with paused := false, resuming := phase.resuming + 1 } := by
  obtain ⟨granted, isAcked, noReply⟩ := acknowledged
  cases valid with
  | unpaused isPaused => exact absurd paused (by simp [isPaused])
  | requested _ some => omega
  | held _ _ _ _ zero =>
      refine .unpaused rfl granted isAcked noReply ?_
      simp only [permits] at zero ⊢
      omega

/-- The loop can only write while no `Pause` has the permit. -/
theorem not_acknowledged (valid : phase.Valid) (holds : 0 < phase.loopHolds)
    (traced : phase.Traced log) : ¬ Trace.Pending IsAck IsResumed log := by
  intro pending
  have one := valid.permits_le
  rw [permits] at one
  rcases traced.acknowledged pending with ⟨paused, granted, -, -⟩ | resuming
  · cases valid with
    | unpaused isPaused => exact absurd paused (by simp [isPaused])
    | requested _ some => omega
    | held _ _ _ _ zero =>
        rw [permits] at zero
        omega
  · omega

end Valid

namespace Traced

/-- Nothing is written, and an ack stays out. -/
theorem of_acknowledged (traced : phase.Traced log) (paused : other.paused = phase.paused)
    (resuming : other.resuming = phase.resuming)
    (kept : phase.Acknowledged → other.Acknowledged) : other.Traced log where
  acknowledged pending := by
    rw [paused, resuming]
    rcases traced.acknowledged pending with ⟨isPaused, acknowledged⟩ | some
    · exact .inl ⟨isPaused, kept acknowledged⟩
    · exact .inr some
  answered pending := by
    rw [paused]
    rcases traced.answered pending with unpaused | acknowledged
    · exact .inl unpaused
    · exact .inr (kept acknowledged)
  resumed pending := by
    rw [paused]
    exact traced.resumed pending
  safe := traced.safe

theorem data (traced : phase.Traced log) {event : Event} (isData : event.IsData)
    (silent : ¬ Trace.Pending IsAck IsResumed log) : phase.Traced (log ++ [event]) := by
  have notAck : ¬ event.IsAck := by
    rintro rfl
    exact isData
  have notResuming : ¬ event.IsResuming := by
    rintro rfl
    exact isData
  constructor
  · intro pending
    rcases Trace.pending_snoc.1 pending with starts | ⟨before, -⟩
    · exact absurd starts notAck
    · exact absurd before silent
  · intro pending
    rcases Trace.pending_snoc.1 pending with starts | ⟨before, -⟩
    · exact absurd starts notAck
    · exact traced.answered before
  · intro pending
    rcases Trace.pending_snoc.1 pending with starts | ⟨before, -⟩
    · exact absurd starts notResuming
    · exact traced.resumed before
  · exact traced.safe.snoc (fun _ => silent) (fun ack => absurd ack notAck)

theorem pause (traced : phase.Traced log) (unpaused : phase.paused = false) :
    Traced { phase with paused := true, resetting := phase.resetting + 1 }
      (log ++ [.paused]) := by
  constructor
  · intro pending
    rcases Trace.pending_snoc.1 pending with starts | ⟨before, -⟩
    · exact nomatch starts
    rcases traced.acknowledged before with ⟨paused, -⟩ | resuming
    · exact absurd paused (by simp [unpaused])
    · exact .inr resuming
  · intro pending
    rcases Trace.pending_snoc.1 pending with starts | ⟨-, goesOn⟩
    · exact nomatch starts
    · exact absurd rfl goesOn
  · intro pending
    rcases Trace.pending_snoc.1 pending with starts | ⟨-, goesOn⟩
    · exact nomatch starts
    · exact absurd rfl goesOn
  · exact traced.safe.snoc (fun isData => isData.elim) (fun ack => nomatch ack)

theorem replyAck (traced : phase.Traced log) (paused : phase.paused = true)
    (granted : phase.pausing = 0) (acked : phase.pauseAcked = true)
    (present : phase.replying = 1) :
    Traced { phase with replying := phase.replying - 1 } (log ++ [.pauseAck]) := by
  have acknowledged : Acknowledged { phase with replying := phase.replying - 1 } := by
    refine ⟨granted, acked, ?_⟩
    simp only
    omega
  have notResumed : ¬ Trace.Pending IsResuming IsPaused log := by
    intro pending
    exact absurd (traced.resumed pending) (by simp [paused])
  constructor
  · exact fun _ => .inl ⟨paused, acknowledged⟩
  · exact fun _ => .inr acknowledged
  · intro pending
    rcases Trace.pending_snoc.1 pending with starts | ⟨before, -⟩
    · exact nomatch starts
    · exact absurd before notResumed
  · refine traced.safe.snoc (fun isData => isData.elim) (fun _ => ⟨?_, notResumed⟩)
    intro pending
    rcases traced.answered pending with unpaused | ⟨-, -, noReply⟩
    · exact absurd unpaused (by simp [paused])
    · omega

theorem resume (traced : phase.Traced log) :
    Traced { phase with paused := false, resuming := phase.resuming + 1 }
      (log ++ [.resuming]) where
  acknowledged _ := .inr (Nat.succ_pos _)
  answered _ := .inl rfl
  resumed _ := rfl
  safe := traced.safe.snoc (fun isData => isData.elim) (fun ack => nomatch ack)

theorem releasePause (traced : phase.Traced log) :
    Traced { phase with resuming := phase.resuming - 1 } (log ++ [.resumed]) := by
  constructor
  · intro pending
    rcases Trace.pending_snoc.1 pending with starts | ⟨-, goesOn⟩
    · exact nomatch starts
    · exact absurd rfl goesOn
  · intro pending
    rcases Trace.pending_snoc.1 pending with starts | ⟨before, -⟩
    · exact nomatch starts
    · exact traced.answered before
  · intro pending
    rcases Trace.pending_snoc.1 pending with starts | ⟨before, -⟩
    · exact nomatch starts
    · exact traced.resumed before
  · exact traced.safe.snoc (fun isData => isData.elim) (fun ack => nomatch ack)

end Traced

end Phase

/-! ## The phase of a connection -/

namespace OutgoingLoop

/-- Permits that the loop holds. -/
def holds : OutgoingLoop → Nat
  | .forwarding _ _ _ _ => 1
  | .releasing _ _ _ => 1
  | _ => 0

/-- Places that the loop has in the queue. -/
def waits : OutgoingLoop → Nat
  | .waiting _ _ _ _ => 1
  | _ => 0

def isHandshaking : OutgoingLoop → Bool
  | .handshaking _ _ _ => true
  | _ => false

end OutgoingLoop

namespace OutgoingState

variable (state : OutgoingState)

def waiters : List Waiter := state.pauseHandler.pauseSemaphore.waiters

def phase : Phase where
  paused := state.pauseHandler.paused
  pauseAcked := state.pauseHandler.pauseAcked
  free := state.pauseHandler.pauseSemaphore.count
  loopHolds := state.loop.holds
  pauseQueued := state.waiters.count .pause
  resetting := state.resetting
  entering := state.entering
  replying := state.replying
  resuming := state.resuming

end OutgoingState

structure PauseInvariant (state : OutgoingState) : Prop where
  queued : state.waiters.count .outgoing = state.loop.waits
  valid : state.phase.Valid
  traced : state.phase.Traced state.log

/-- The steps in which the promise cannot be broken: no ack is replied while an
effective `Pause` still waits for the permit, no `Resume` overtakes the ack of
its `Pause`, and no handshake response is forwarded behind an ack. -/
def PausesInOrder (state : OutgoingState) : OutgoingAction → Prop
  | .checkAck => state.phase.pauseAcked = false → state.phase.pausing = 0
  | .resume => state.phase.paused = true → state.phase.Acknowledged
  | .forward _ => state.loop.isHandshaking = true →
      ¬ (state.phase.paused = true ∧ state.phase.Acknowledged) ∧ state.phase.resuming = 0
  | _ => True

variable {context : OutgoingContext} {state next : OutgoingState}

/-- The step does not take part in the pause protocol. -/
structure SamePause (state next : OutgoingState) : Prop where
  pauseHandler : next.pauseHandler = state.pauseHandler
  resetting : next.resetting = state.resetting
  entering : next.entering = state.entering
  replying : next.replying = state.replying
  resuming : next.resuming = state.resuming

theorem SamePause.phase (same : SamePause state next)
    (holds : next.loop.holds = state.loop.holds) : next.phase = state.phase := by
  simp only [OutgoingState.phase, OutgoingState.waiters, same.pauseHandler, same.resetting,
    same.entering, same.replying, same.resuming, holds]

theorem PauseInvariant.of_same (invariant : PauseInvariant state) (same : SamePause state next)
    (log : next.log = state.log) (holds : next.loop.holds = state.loop.holds)
    (waits : next.loop.waits = state.loop.waits) : PauseInvariant next where
  queued := by
    rw [OutgoingState.waiters, same.pauseHandler, waits]
    exact invariant.queued
  valid := by
    rw [same.phase holds]
    exact invariant.valid
  traced := by
    rw [same.phase holds, log]
    exact invariant.traced

/-! ## The outgoing loop -/

/-- The loop reads on or returns, without a permit and without waiting. -/
theorem PauseInvariant.endRead {buffer : Bytes} {completed abandoned : Bool}
    (invariant : PauseInvariant state) (holds : state.loop.holds = 0)
    (waits : state.loop.waits = 0) :
    PauseInvariant (state.endRead buffer completed abandoned) := by
  rw [OutgoingState.endRead]
  split_ifs
  · exact invariant.of_same ⟨rfl, rfl, rfl, rfl, rfl⟩ rfl holds.symm waits.symm
  · exact invariant.of_same ⟨rfl, rfl, rfl, rfl, rfl⟩ rfl holds.symm waits.symm
  · exact invariant.of_same ⟨rfl, rfl, rfl, rfl, rfl⟩ rfl holds.symm waits.symm

theorem PauseInvariant.read {abandoned : Bool} (invariant : PauseInvariant state)
    (reading : state.loop = .reading abandoned) (outcome : ReadOutcome context state next) :
    PauseInvariant next := by
  have holds : state.loop.holds = 0 := by rw [reading]; rfl
  have waits : state.loop.waits = 0 := by rw [reading]; rfl
  have lent : PauseInvariant { state with input := state.input.lend } :=
    invariant.of_same ⟨rfl, rfl, rfl, rfl, rfl⟩ rfl rfl rfl
  cases outcome with
  | empty => exact lent.endRead holds waits
  | unanswered => exact lent.endRead holds waits
  | canceled | hub | malformed | skipped | response =>
      exact invariant.of_same ⟨rfl, rfl, rfl, rfl, rfl⟩ rfl holds.symm waits.symm

/-- The loop leaves the queue. -/
theorem PauseInvariant.giveUp {buffer rest : Bytes} {kind : HubMessageKind} {completed : Bool}
    (invariant : PauseInvariant state)
    (waiting : state.loop = .waiting buffer rest kind completed) :
    PauseInvariant
      { state with
        pauseHandler := state.pauseHandler.giveUp .outgoing
        loop := .returned } := by
  have queued := invariant.queued
  rw [waiting] at queued
  have pauseQueued : (state.waiters.erase .outgoing).count .pause =
      state.waiters.count .pause := by
    rw [List.count_erase_of_ne]
    decide
  have phase : OutgoingState.phase
      { state with
        pauseHandler := state.pauseHandler.giveUp .outgoing
        loop := .returned } = state.phase := by
    refine Phase.ext rfl rfl rfl ?_ pauseQueued rfl rfl rfl rfl
    simp only [OutgoingState.phase, waiting]
    rfl
  constructor
  · show (state.waiters.erase .outgoing).count .outgoing = 0
    rw [List.count_erase_self, queued]
    rfl
  · rw [phase]
    exact invariant.valid
  · rw [phase]
    exact invariant.traced

theorem PauseInvariant.acquire {buffer rest : Bytes} {kind : HubMessageKind}
    {completed : Bool} {handler : PauseHandler} (invariant : PauseInvariant state)
    (holds : state.loop.holds = 0) (waits : state.loop.waits = 0)
    (waited : state.pauseHandler.wait .outgoing = (true, handler)) :
    PauseInvariant
      { state with
        pauseHandler := handler
        loop := .forwarding buffer rest kind completed } := by
  obtain ⟨semaphore, taken, rfl⟩ := PauseHandler.wait_eq waited
  obtain ⟨free, rfl⟩ := Semaphore.wait_acquired taken
  constructor
  · exact invariant.queued.trans waits
  · refine invariant.valid.of_permits rfl rfl rfl rfl rfl ?_
    simp only [Phase.permits, OutgoingState.phase, holds]
    simp only [OutgoingLoop.holds]
    omega
  · exact invariant.traced.of_acknowledged rfl rfl id

theorem PauseInvariant.enqueue {buffer rest : Bytes} {kind : HubMessageKind}
    {completed : Bool} {handler : PauseHandler} (invariant : PauseInvariant state)
    (holds : state.loop.holds = 0) (waits : state.loop.waits = 0)
    (waited : state.pauseHandler.wait .outgoing = (false, handler)) :
    PauseInvariant
      { state with
        pauseHandler := handler
        loop := .waiting buffer rest kind completed } := by
  obtain ⟨semaphore, joined, rfl⟩ := PauseHandler.wait_eq waited
  obtain ⟨-, rfl⟩ := Semaphore.wait_queued joined
  have phase : OutgoingState.phase
      { state with
        pauseHandler :=
          { state.pauseHandler with
            pauseSemaphore :=
              { state.pauseHandler.pauseSemaphore with
                waiters := state.pauseHandler.pauseSemaphore.waiters ++ [.outgoing] } }
        loop := .waiting buffer rest kind completed } = state.phase := by
    refine Phase.ext rfl rfl rfl holds.symm ?_ rfl rfl rfl rfl
    simp [OutgoingState.phase, OutgoingState.waiters]
  have queued := invariant.queued
  rw [waits] at queued
  constructor
  · simp only [OutgoingState.waiters] at queued ⊢
    rw [List.count_append, queued]
    rfl
  · rw [phase]
    exact invariant.valid
  · rw [phase]
    exact invariant.traced

theorem PauseInvariant.parse {buffer : Bytes} {completed : Bool}
    (invariant : PauseInvariant state) (parsing : state.loop = .parsing buffer completed)
    (outcome : ParseOutcome context state buffer completed next) : PauseInvariant next := by
  have holds : state.loop.holds = 0 := by rw [parsing]; rfl
  have waits : state.loop.waits = 0 := by rw [parsing]; rfl
  cases outcome with
  | drained => exact invariant.endRead holds waits
  | malformed | aborted =>
      exact invariant.of_same ⟨rfl, rfl, rfl, rfl, rfl⟩ rfl holds.symm waits.symm
  | acquired _ waited => exact invariant.acquire holds waits waited
  | queued _ waited => exact invariant.enqueue holds waits waited

/-- A data message is written. -/
theorem PauseInvariant.data {event : Event} (invariant : PauseInvariant state)
    (same : SamePause state next) (log : next.log = state.log ++ [event])
    (isData : event.IsData) (silent : ¬ Trace.Pending IsAck IsResumed state.log)
    (holds : next.loop.holds = state.loop.holds) (waits : next.loop.waits = state.loop.waits) :
    PauseInvariant next where
  queued := by
    rw [OutgoingState.waiters, same.pauseHandler, waits]
    exact invariant.queued
  valid := by
    rw [same.phase holds]
    exact invariant.valid
  traced := by
    rw [same.phase holds, log]
    exact invariant.traced.data isData silent

theorem PauseInvariant.forwardHandshake {buffer rest : Bytes} {completed : Bool}
    {result : ForwardMessageResult} (invariant : PauseInvariant state)
    (handshaking : state.loop = .handshaking buffer rest completed)
    (silent : ¬ (state.phase.paused = true ∧ state.phase.Acknowledged) ∧
      state.phase.resuming = 0) :
    PauseInvariant (state.forwardHandshake context buffer rest completed result) := by
  have unacknowledged : ¬ Trace.Pending IsAck IsResumed state.log := by
    intro pending
    rcases invariant.traced.acknowledged pending with acknowledged | resuming
    · exact silent.1 acknowledged
    · omega
  have holds : state.loop.holds = 0 := by rw [handshaking]; rfl
  have waits : state.loop.waits = 0 := by rw [handshaking]; rfl
  simp only [OutgoingState.forwardHandshake]
  split_ifs
  · exact invariant.data ⟨rfl, rfl, rfl, rfl, rfl⟩ rfl trivial unacknowledged holds.symm
      waits.symm
  · exact invariant.data ⟨rfl, rfl, rfl, rfl, rfl⟩ rfl trivial unacknowledged holds.symm
      waits.symm

theorem PauseInvariant.forwardFrame {buffer rest : Bytes} {kind : HubMessageKind}
    {completed : Bool} {result : ForwardMessageResult} (invariant : PauseInvariant state)
    (forwarding : state.loop = .forwarding buffer rest kind completed) :
    PauseInvariant (state.forwardFrame context buffer rest kind completed result) := by
  have holds : state.loop.holds = 1 := by rw [forwarding]; rfl
  have waits : state.loop.waits = 0 := by rw [forwarding]; rfl
  have unacknowledged : ¬ Trace.Pending IsAck IsResumed state.log := by
    apply invariant.valid.not_acknowledged _ invariant.traced
    exact Nat.lt_of_lt_of_eq Nat.zero_lt_one holds.symm
  simp only [OutgoingState.forwardFrame]
  split_ifs
  · exact invariant.data ⟨rfl, rfl, rfl, rfl, rfl⟩ rfl trivial unacknowledged holds.symm
      waits.symm
  · exact invariant.data ⟨rfl, rfl, rfl, rfl, rfl⟩ rfl trivial unacknowledged holds.symm
      waits.symm

/-! ## The permit is released -/

theorem OutgoingLoop.granted_of_waits {loop : OutgoingLoop} (waits : 0 < loop.waits) :
    loop.waits = 1 ∧ loop.holds = 0 ∧ loop.granted.waits = 0 ∧ loop.granted.holds = 1 := by
  cases loop with
  | waiting => exact ⟨rfl, rfl, rfl, rfl⟩
  | reading | handshaking | parsing | forwarding | releasing | returned =>
      exact absurd waits (Nat.lt_irrefl 0)

/-- Whoever releases the permit has given it up in `state` already: the phase is
valid once the permit is free. The release hands it to the first waiter. -/
theorem PauseInvariant.wake (state : OutgoingState) {woken : Option Waiter}
    {handler : PauseHandler}
    (queued : state.waiters.count .outgoing = state.loop.waits)
    (valid : Phase.Valid { state.phase with free := state.phase.free + 1 })
    (traced : state.phase.Traced state.log)
    (released : state.pauseHandler.release = some (woken, handler)) :
    PauseInvariant ({ state with pauseHandler := handler }.wake woken) := by
  obtain ⟨semaphore, given, rfl⟩ := PauseHandler.release_some released
  cases woken with
  | none =>
      obtain ⟨-, empty, rfl⟩ := Semaphore.release_idle given
      exact ⟨queued, valid, traced.of_acknowledged rfl rfl id⟩
  | some waiter =>
      obtain ⟨-, queue, count⟩ := Semaphore.release_handed given
      have waiters : state.waiters = waiter :: semaphore.waiters := queue
      cases waiter with
      | outgoing =>
          rw [waiters, List.count_cons_self] at queued
          have waits : 0 < state.loop.waits := by omega
          obtain ⟨one, none, granted, holds⟩ := OutgoingLoop.granted_of_waits waits
          have pauseQueued : semaphore.waiters.count .pause = state.waiters.count .pause := by
            rw [waiters, List.count_cons_of_ne (by decide)]
          have pausing : ∀ other : Phase, other.resetting = state.resetting →
              other.entering = state.entering →
              other.pauseQueued = semaphore.waiters.count .pause →
              other.pausing = state.phase.pausing := by
            intro other resetting entering queue
            rw [Phase.pausing, resetting, entering, queue, pauseQueued]
            rfl
          constructor
          · show semaphore.waiters.count .outgoing = state.loop.granted.waits
            omega
          · refine valid.of_permits rfl rfl rfl (pausing _ rfl rfl rfl) rfl ?_
            simp only [Phase.permits, OutgoingState.phase, OutgoingState.wake, count, holds, none]
          · refine traced.of_acknowledged rfl rfl ?_
            rintro ⟨zero, acked, noReply⟩
            exact ⟨(pausing _ rfl rfl rfl).trans zero, acked, noReply⟩
      | pause =>
          rw [waiters, List.count_cons_of_ne (by decide)] at queued
          have pauseQueued : state.waiters.count .pause =
              semaphore.waiters.count .pause + 1 := by
            rw [waiters, List.count_cons_self]
          have pausing : state.phase.pausing =
              state.resetting + state.entering + (semaphore.waiters.count .pause + 1) := by
            rw [← pauseQueued]
            rfl
          constructor
          · exact queued
          · apply valid.grant
            · rfl
            · rfl
            · exact pausing.symm
            · simp only [Phase.permits, OutgoingState.phase, OutgoingState.wake, count]
              omega
          · refine traced.of_acknowledged rfl rfl ?_
            rintro ⟨zero, -, -⟩
            omega

theorem PauseInvariant.releaseFrame {buffer : Bytes} {completed fatal : Bool}
    (invariant : PauseInvariant state)
    (releasing : state.loop = .releasing buffer completed fatal) :
    PauseInvariant (state.releaseFrame buffer completed fatal) := by
  have holds : state.loop.holds = 1 := by rw [releasing]; rfl
  have waits : state.loop.waits = 0 := by rw [releasing]; rfl
  have one := invariant.valid.permits_le
  simp only [Phase.permits, OutgoingState.phase, holds] at one
  -- The loop without its permit, wherever it goes on.
  have left : ∀ loop : OutgoingLoop, loop.holds = 0 → loop.waits = 0 →
      ∀ {woken handler}, state.pauseHandler.release = some (woken, handler) →
      PauseInvariant ({ state with loop := loop, pauseHandler := handler }.wake woken) := by
    intro loop none nowhere woken handler released
    apply PauseInvariant.wake { state with loop := loop }
    · exact invariant.queued.trans (waits.trans nowhere.symm)
    · refine invariant.valid.of_permits rfl rfl rfl rfl rfl ?_
      simp only [Phase.permits, OutgoingState.phase, holds, none]
    · exact invariant.traced.of_acknowledged rfl rfl id
    · exact released
  rw [OutgoingState.releaseFrame]
  split
  next full =>
    have full := Semaphore.release_full (PauseHandler.release_none full)
    omega
  next woken handler released =>
    have notLoop : woken ≠ some .outgoing := by
      rintro rfl
      obtain ⟨semaphore, given, -⟩ := PauseHandler.release_some released
      obtain ⟨-, queue, -⟩ := Semaphore.release_handed given
      have queued := invariant.queued
      rw [OutgoingState.waiters, queue, List.count_cons_self, waits] at queued
      omega
    have goesOn := left (if fatal then .returned else .parsing buffer completed)
      (by split_ifs <;> rfl) (by split_ifs <;> rfl) released
    rcases woken with _ | _ | _
    · exact goesOn
    · exact absurd rfl notLoop
    · exact goesOn

theorem PauseInvariant.releasePause (invariant : PauseInvariant state)
    (present : 0 < state.resuming) : PauseInvariant state.releasePause := by
  have one := invariant.valid.permits_le
  simp only [Phase.permits, OutgoingState.phase] at one
  simp only [OutgoingState.releasePause]
  split
  next full =>
    have full := Semaphore.release_full (PauseHandler.release_none full)
    omega
  next woken handler released =>
    refine PauseInvariant.wake ({ state with resuming := state.resuming - 1 }.record .resumed)
      invariant.queued ?_ invariant.traced.releasePause released
    refine invariant.valid.of_permits rfl rfl rfl rfl rfl ?_
    simp only [Phase.permits, OutgoingState.phase, OutgoingState.record]
    omega

/-! ## Pauses and resumes -/

theorem PauseInvariant.pause (invariant : PauseInvariant state) :
    PauseInvariant state.pause := by
  rw [OutgoingState.pause]
  split_ifs with paused
  · exact invariant.of_same ⟨rfl, rfl, rfl, rfl, rfl⟩ rfl rfl rfl
  · rw [Bool.not_eq_true] at paused
    exact ⟨invariant.queued, invariant.valid.pause paused, invariant.traced.pause paused⟩

theorem PauseInvariant.resetPauseAcked (invariant : PauseInvariant state)
    (present : 0 < state.resetting) : PauseInvariant state.resetPauseAcked := by
  refine ⟨invariant.queued, invariant.valid.resetPauseAcked present, ?_⟩
  refine invariant.traced.of_acknowledged rfl rfl ?_
  rintro ⟨zero, -, -⟩
  simp only [Phase.pausing, OutgoingState.phase] at zero
  omega

theorem PauseInvariant.enterPause (invariant : PauseInvariant state)
    (present : 0 < state.entering) : PauseInvariant state.enterPause := by
  have unacknowledged : ¬ state.phase.Acknowledged := by
    rintro ⟨zero, -, -⟩
    simp only [Phase.pausing, OutgoingState.phase] at zero
    omega
  rw [OutgoingState.enterPause]
  split
  next acquired handler waited =>
    obtain ⟨semaphore, outcome, rfl⟩ := PauseHandler.wait_eq waited
    cases acquired with
    | true =>
        obtain ⟨free, rfl⟩ := Semaphore.wait_acquired outcome
        constructor
        · exact invariant.queued
        · apply invariant.valid.grant
          · rfl
          · rfl
          · simp only [Phase.pausing, OutgoingState.phase, OutgoingState.waiters]
            omega
          · simp only [Phase.permits, OutgoingState.phase]
            omega
        · exact invariant.traced.of_acknowledged rfl rfl
            fun acknowledged => absurd acknowledged unacknowledged
    | false =>
        obtain ⟨-, rfl⟩ := Semaphore.wait_queued outcome
        have queued := invariant.queued
        simp only [OutgoingState.waiters] at queued
        constructor
        · simp only [OutgoingState.waiters, List.count_append]
          rw [queued]
          rfl
        · refine invariant.valid.of_permits rfl rfl rfl ?_ rfl rfl
          simp only [Phase.pausing, OutgoingState.phase, OutgoingState.waiters,
            List.count_append, List.count_singleton_self]
          omega
        · exact invariant.traced.of_acknowledged rfl rfl
            fun acknowledged => absurd acknowledged unacknowledged

theorem PauseInvariant.checkAck (invariant : PauseInvariant state)
    (granted : state.phase.pauseAcked = false → state.phase.pausing = 0) :
    PauseInvariant state.checkAck := by
  cases acked : state.pauseHandler.pauseAcked with
  | true =>
      have phase : state.checkAck.phase = state.phase := by
        refine Phase.ext rfl acked.symm rfl rfl rfl rfl rfl ?_ rfl
        simp [OutgoingState.phase, OutgoingState.checkAck, PauseHandler.shouldReplyAck, acked]
      exact ⟨invariant.queued, phase ▸ invariant.valid, phase ▸ invariant.traced⟩
  | false =>
      have phase : state.checkAck.phase =
          { state.phase with pauseAcked := true, replying := state.phase.replying + 1 } := by
        refine Phase.ext rfl rfl rfl rfl rfl rfl rfl ?_ rfl
        simp [OutgoingState.phase, OutgoingState.checkAck, PauseHandler.shouldReplyAck, acked]
      constructor
      · exact invariant.queued
      · rw [phase]
        exact invariant.valid.checkAck acked (granted acked)
      · rw [phase]
        refine invariant.traced.of_acknowledged rfl rfl ?_
        rintro ⟨-, isAcked, -⟩
        exact absurd isAcked (by simp [OutgoingState.phase, acked])

theorem PauseInvariant.replyAck {written : Bool} (invariant : PauseInvariant state)
    (present : 0 < state.replying) : PauseInvariant (state.replyAck written) := by
  obtain ⟨⟨paused, granted, acked, one⟩, valid⟩ := invariant.valid.replyAck present
  rw [OutgoingState.replyAck]
  split_ifs
  · exact ⟨invariant.queued, valid, invariant.traced.replyAck paused granted acked one⟩
  · refine ⟨invariant.queued, valid, invariant.traced.of_acknowledged rfl rfl ?_⟩
    rintro ⟨-, -, noReply⟩
    omega

theorem PauseInvariant.resume (invariant : PauseInvariant state)
    (acknowledged : state.phase.paused = true → state.phase.Acknowledged) :
    PauseInvariant state.resume := by
  rw [OutgoingState.resume]
  split_ifs with paused
  · exact ⟨invariant.queued, invariant.valid.resume paused (acknowledged paused),
      invariant.traced.resume⟩
  · exact invariant

theorem PauseInvariant.step {action : OutgoingAction} (invariant : PauseInvariant state)
    (inOrder : PausesInOrder state action)
    (stepped : outgoingStep context state action = some next) : PauseInvariant next := by
  cases step_outcome stepped with
  | write | complete | cancelPendingRead | cancelOutgoing =>
      exact invariant.of_same ⟨rfl, rfl, rfl, rfl, rfl⟩ rfl rfl rfl
  | read loop readable outcome => exact invariant.read loop outcome
  | parse loop outcome => exact invariant.parse loop outcome
  | forwardHandshake loop =>
      apply invariant.forwardHandshake loop
      apply inOrder
      rw [loop]
      rfl
  | forwardFrame loop => exact invariant.forwardFrame loop
  | release loop => exact invariant.releaseFrame loop
  | timeout loop => exact (invariant.giveUp loop).endRead rfl rfl
  | abortRead aborted loop =>
      refine invariant.of_same ⟨rfl, rfl, rfl, rfl, rfl⟩ rfl ?_ ?_
      · rw [loop]
        rfl
      · rw [loop]
        rfl
  | abortWait aborted loop => exact invariant.giveUp loop
  | pause => exact invariant.pause
  | resetPauseAcked present => exact invariant.resetPauseAcked present
  | enterPause present => exact invariant.enterPause present
  | checkAck => exact invariant.checkAck inOrder
  | replyAck present => exact invariant.replyAck present
  | resume => exact invariant.resume inOrder
  | releasePause present => exact invariant.releasePause present

theorem pauseInvariant_start : PauseInvariant {} where
  queued := rfl
  valid := .unpaused rfl rfl rfl rfl rfl
  traced :=
    { acknowledged := fun pending => absurd pending Trace.not_pending_nil
      answered := fun pending => absurd pending Trace.not_pending_nil
      resumed := fun pending => absurd pending Trace.not_pending_nil
      safe := ⟨Trace.separated_nil, Trace.separated_nil, Trace.separated_nil⟩ }

/-- A `PauseAck` keeps its promise in every run of the connection. -/
theorem pause_protocol_safe {actions : List OutgoingAction}
    (inOrder : Along (outgoingStep context) PausesInOrder {} actions)
    (ran : run (outgoingStep context) {} actions = some state) : PauseSafe state.log :=
  (run_along PauseInvariant.step pauseInvariant_start inOrder ran).traced.safe

instance (state : OutgoingState) : DecidablePred (PausesInOrder state)
  | .checkAck =>
      inferInstanceAs (Decidable (state.phase.pauseAcked = false → state.phase.pausing = 0))
  | .resume =>
      inferInstanceAs (Decidable (state.phase.paused = true → state.phase.Acknowledged))
  | .forward _ =>
      inferInstanceAs (Decidable (state.loop.isHandshaking = true →
        ¬ (state.phase.paused = true ∧ state.phase.Acknowledged) ∧ state.phase.resuming = 0))
  | .write _ | .complete | .cancelPendingRead | .cancelOutgoing | .read | .parse | .release
  | .timeout | .observeAbort | .pause | .resetPauseAcked | .enterPause | .replyAck _
  | .releasePause => instDecidableTrue

/-- The loop has the permit when the `Pause` comes, and the `Pause` comes again
after its ack. -/
theorem pause_protocol_safe_twice :
    ∃ state, run (outgoingStep pingContext) {}
        [.write (handshakeResponse ++ pingFrame ++ pingFrame), .read, .forward .success,
          .parse, .pause, .resetPauseAcked, .enterPause, .forward .success, .release,
          .checkAck, .replyAck true, .pause, .checkAck, .parse, .resume, .releasePause,
          .forward .success] = some state ∧ PauseSafe state.log := by
  have ran : run (outgoingStep pingContext) {}
      [.write (handshakeResponse ++ pingFrame ++ pingFrame), .read, .forward .success,
        .parse, .pause, .resetPauseAcked, .enterPause, .forward .success, .release,
        .checkAck, .replyAck true, .pause, .checkAck, .parse, .resume, .releasePause,
        .forward .success] =
      some
        { output := handshakeResponse ++ pingFrame ++ pingFrame
          handshakeComplete := true
          loop := .releasing [] false false
          pauseHandler := { pauseSemaphore := { count := 0 } }
          log := [forwardedHandshake, .paused, forwardedPing .success, .pauseAck, .resuming,
            .resumed, forwardedPing .success] } := by decide
  exact ⟨_, ran, pause_protocol_safe (by decide) ran⟩

/-- A second `Pause` is acknowledged while the first one still waits for the
loop, which then writes the frame it holds. -/
theorem not_pause_protocol_safe_duplicate :
    ¬ ∀ actions state, run (outgoingStep pingContext) {} actions = some state →
      PauseSafe state.log := by
  intro safe
  have ran : run (outgoingStep pingContext) {}
      [.write (handshakeResponse ++ pingFrame), .read, .forward .success, .parse, .pause,
        .resetPauseAcked, .enterPause, .pause, .checkAck, .replyAck true,
        .forward .success] =
      some
        { output := handshakeResponse ++ pingFrame
          handshakeComplete := true
          loop := .releasing [] false false
          pauseHandler :=
            { pauseSemaphore := { count := 0, waiters := [.pause] }
              paused := true }
          log := [forwardedHandshake, .paused, .pauseAck, forwardedPing .success] } := by
    decide
  have silent := (safe _ _ ran).silent
  apply silent [forwardedHandshake, .paused, .pauseAck] (forwardedPing .success) [] rfl trivial
  exact ⟨[forwardedHandshake, .paused], .pauseAck, [], rfl, rfl,
    fun _ member => absurd member List.not_mem_nil⟩

end AzureSignalR.ClientConnections
