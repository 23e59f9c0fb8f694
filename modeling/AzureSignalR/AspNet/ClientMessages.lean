import AzureSignalR.AspNet.ClientSteps

/-!
Contract: the messages of one client of an ASP.NET service connection, from its channel to its
transport.

Owns: which of the messages that have arrived are handled, what the transport has been told of
them, and that each change of the client keeps the two in step.

Does not own: which changes the service connection makes.
-/

set_option autoImplicit false

namespace AzureSignalR.AspNet

variable {γ : Type}

/-! ## Handled messages -/

/-- What a transport is passed of a message. -/
def Message.event? : Message γ → Option Event
  | .connectionData _ payload => some (eventOf payload)
  | .openConnection _ | .closeConnection _ => none

def eventsOf (messages : List (Message γ)) : List Event := messages.filterMap Message.event?

/-- The messages that are handled, of those that an application task has taken. -/
def Handled (handled taken : List (Message γ)) : ApplicationTask γ → Prop
  | .checking message => taken = handled ++ [message]
  | .creating opened => taken = handled ++ [.openConnection opened]
  | .passing payload =>
      ∃ connectionId, taken = handled ++ [.connectionData connectionId payload]
  | .disconnecting _ true => ∃ connectionId, taken = handled ++ [.closeConnection connectionId]
  | .ended => handled <+: taken
  | .notStarted | .waiting | .reading | .disconnecting _ false => taken = handled

namespace Client

variable (context : Client γ)

/-- The end of what its transport has been told. -/
def farewell : List Event := if context.left then [.disconnected] else []

/-- It passes nothing any more. -/
def isQuiet : Bool :=
  match context.task with
  | .ended => true
  | .disconnecting _ closes => closes
  | .passing _ => false
  | .notStarted | .waiting | .reading | .checking _ | .creating _ => context.cancelled

end Client

/-- A client has passed on what it has handled, and its `OnDisconnected` comes last. -/
structure Sound (context : Client γ) : Prop where
  channel : context.arrived = context.taken ++ context.channel
  first : ∀ opened, Message.openConnection opened ∉ context.arrived.tail
  passed : ∃ handled, Handled handled context.taken context.task ∧
    (∀ events ∈ context.transports, events = eventsOf handled ++ context.farewell) ∧
      (context.transports ≠ [] → handled ≠ [])
  created : context.transports.length ≤ 1
  failed : ∀ disconnect, context.task = .disconnecting disconnect false → context.transports = []
  quiet : context.left = true → context.transports = [] ∨ context.isQuiet = true
  behind : context.waiter = .disconnecting → context.task = .ended ∨ context.cancelled = true

theorem eventsOf_append (first second : List (Message γ)) :
    eventsOf (first ++ second) = eventsOf first ++ eventsOf second :=
  List.filterMap_append

theorem mem_tell {event : Event} {transports : List (List Event)} (one : transports.length ≤ 1)
    {events : List Event} (member : events ∈ tell event transports) :
    ∃ before ∈ transports, events = before ++ [event] := by
  cases transports with
  | nil => cases member
  | cons before others =>
      have alone : others = [] := by
        apply List.eq_nil_of_length_eq_zero
        rw [List.length_cons] at one
        omega
      rw [tell, alone, List.mem_singleton] at member
      exact ⟨before, List.mem_cons_self, member⟩

@[simp] theorem length_tell (event : Event) (transports : List (List Event)) :
    (tell event transports).length = transports.length := by
  cases transports with
  | nil => rfl
  | cons events others => rfl

theorem tell_eq_nil {event : Event} {transports : List (List Event)} :
    tell event transports = [] ↔ transports = [] := by
  rw [← List.length_eq_zero_iff, length_tell, List.length_eq_zero_iff]

namespace Sound

variable {context : Client γ}

theorem fresh : Sound ({} : Client γ) where
  channel := rfl
  first := nofun
  passed := ⟨[], rfl, nofun, fun created => absurd rfl created⟩
  created := Nat.zero_le 1
  failed := nofun
  quiet := nofun
  behind := nofun

theorem cancelled_of_behind (sound : Sound context) (waiter : context.waiter = .disconnecting)
    (goesOn : context.task ≠ .ended) : context.cancelled = true :=
  (sound.behind waiter).resolve_left goesOn

/-! ## The receive loop -/

theorem start (sound : Sound context) (notStarted : context.task = .notStarted) :
    Sound { context with task := .waiting } := by
  obtain ⟨handled, isHandled, events, created⟩ := sound.passed
  rw [notStarted] at isHandled
  refine { sound with
    passed := ⟨handled, isHandled, events, created⟩, failed := nofun, quiet := ?_, behind := ?_ }
  · intro left
    have quiet := sound.quiet left
    rw [Client.isQuiet, notStarted] at quiet
    exact quiet
  · exact fun waiter => .inr (sound.cancelled_of_behind waiter (by rw [notStarted]; nofun))

/-- Only the first message of a client is an open message. -/
theorem write (sound : Sound context) {message : Message γ}
    (opens : ∀ opened, message = .openConnection opened → context.arrived = []) :
    Sound (context.write message) := by
  refine { sound with channel := ?_, first := ?_ }
  · show context.arrived ++ [message] = context.taken ++ (context.channel ++ [message])
    rw [sound.channel, List.append_assoc]
  · intro opened member
    have isTail : Message.openConnection opened ∈ (context.arrived ++ [message]).tail := member
    by_cases empty : context.arrived = []
    · rw [empty] at isTail
      cases isTail
    · rw [List.tail_append_of_ne_nil empty, List.mem_append] at isTail
      rcases isTail with before | new
      · exact sound.first opened before
      · exact empty (opens opened (List.mem_singleton.mp new).symm)

theorem complete (sound : Sound context) : Sound { context with completed := true } :=
  { sound with }

theorem isQuiet_cancelPendingRead (quiet : context.isQuiet = true) :
    context.cancelPendingRead.isQuiet = true := by
  rw [Client.isQuiet] at quiet ⊢
  show (match context.task with
    | .ended => true
    | .disconnecting _ closes => closes
    | .passing _ => false
    | .notStarted | .waiting | .reading | .checking _ | .creating _ => true) = true
  cases isTask : context.task with
  | passing | disconnecting =>
      rw [isTask] at quiet
      exact quiet
  | notStarted | waiting | reading | checking | creating | ended => rfl

theorem cancelPendingRead (sound : Sound context) : Sound context.cancelPendingRead :=
  { sound with
    quiet := fun left => (sound.quiet left).imp id isQuiet_cancelPendingRead
    behind := fun _ => .inr rfl }

/-- A wait goes on to anything but its end. -/
theorem wait (sound : Sound context) (waiter : Waiter) (early : waiter ≠ .disconnecting) :
    Sound { context with waiter := waiter } :=
  { sound with behind := fun late => absurd late early }

theorem await (sound : Sound context) {waiter : Waiter}
    (ended : context.task = .ended ∨ context.cancelled = true) :
    Sound { context with waiter := waiter } :=
  { sound with behind := fun _ => ended }

/-- Behind a wait nothing is passed any more, but for a message that has been checked before it. -/
theorem quiet_of_behind (sound : Sound context) (waiter : context.waiter = .disconnecting)
    (notPassing : context.isPassing = false) :
    context.transports = [] ∨ context.isQuiet = true := by
  have behind := sound.behind waiter
  rw [Client.isPassing] at notPassing
  rw [Client.isQuiet]
  cases isTask : context.task with
  | passing payload =>
      rw [isTask] at notPassing
      cases notPassing
  | ended => exact .inr rfl
  | disconnecting disconnect closes =>
      cases closes with
      | true => exact .inr rfl
      | false => exact .inl (sound.failed disconnect isTask)
  | notStarted | waiting | reading | checking | creating =>
      rw [isTask] at behind
      exact .inr (behind.resolve_left nofun)

/-- `OnDisconnected`, the only time. -/
theorem onDisconnected (sound : Sound context) (present : context.left = false)
    (quiet : context.transports = [] ∨ context.isQuiet = true) : Sound context.onDisconnected := by
  obtain ⟨handled, isHandled, events, created⟩ := sound.passed
  refine { sound with
    passed := ⟨handled, isHandled, ?_, ?_⟩
    created := ?_
    failed := ?_
    quiet := ?_ }
  · intro told member
    obtain ⟨before, isBefore, isTold⟩ := mem_tell sound.created member
    have same := events before isBefore
    rw [Client.farewell, present] at same
    rw [isTold, same, if_neg Bool.false_ne_true, List.append_nil]
    rfl
  · intro isCreated
    exact created fun none => isCreated (tell_eq_nil.2 none)
  · show (tell _ context.transports).length ≤ 1
    rw [length_tell]
    exact sound.created
  · intro disconnect disconnecting
    exact tell_eq_nil.2 (sound.failed disconnect disconnecting)
  · exact fun _ => quiet.imp tell_eq_nil.2 id

/-! ## The application task -/

theorem read (sound : Sound context) {message : Message γ} {channel : List (Message γ)}
    (reading : context.task = .reading) (isNext : context.channel = message :: channel) :
    Sound { context with
      channel := channel, taken := context.taken ++ [message], task := .checking message } := by
  obtain ⟨handled, isHandled, events, created⟩ := sound.passed
  rw [reading] at isHandled
  refine { sound with
    channel := ?_
    passed := ⟨handled, ?_, events, created⟩
    failed := nofun
    quiet := ?_
    behind := ?_ }
  · show context.arrived = context.taken ++ [message] ++ channel
    rw [sound.channel, isNext, List.append_assoc]
    rfl
  · show context.taken ++ [message] = handled ++ [message]
    rw [show context.taken = handled from isHandled]
  · intro left
    have quiet := sound.quiet left
    rw [Client.isQuiet, reading] at quiet
    exact quiet
  · exact fun waiter => .inr (sound.cancelled_of_behind waiter (by rw [reading]; nofun))

/-- An open message is the first that a client handles. -/
theorem creating_first (sound : Sound context) {opened : γ}
    (creating : context.task = .creating opened) :
    context.taken = [.openConnection opened] ∧ context.transports = [] := by
  obtain ⟨handled, isHandled, -, created⟩ := sound.passed
  rw [creating] at isHandled
  have isTaken : context.taken = handled ++ [.openConnection opened] := isHandled
  cases handled with
  | nil => exact ⟨isTaken, of_not_not fun isCreated => created isCreated rfl⟩
  | cons message others =>
      refine absurd ?_ (sound.first opened)
      rw [sound.channel, isTaken]
      show _ ∈ others ++ [.openConnection opened] ++ context.channel
      exact List.mem_append_left _ (List.mem_append_right _ List.mem_cons_self)

theorem create (sound : Sound context) {opened : γ}
    (creating : context.task = .creating opened) (present : context.left = false) :
    Sound { context with transports := [] :: context.transports, task := .reading } := by
  obtain ⟨isTaken, none⟩ := sound.creating_first creating
  refine { sound with
    passed := ⟨context.taken, rfl, ?_, ?_⟩
    created := ?_
    failed := nofun
    quiet := ?_
    behind := ?_ }
  · intro events member
    have isEmpty : events ∈ [] :: context.transports := member
    rw [none, List.mem_singleton] at isEmpty
    show events = eventsOf context.taken ++ context.farewell
    rw [isEmpty, isTaken, Client.farewell, present]
    rfl
  · rw [isTaken]
    nofun
  · show ([] :: context.transports).length ≤ 1
    rw [none]
    exact Nat.le_refl 1
  · intro left
    have alsoLeft : context.left = true := left
    rw [present] at alsoLeft
    cases alsoLeft
  · exact fun waiter => .inr (sound.cancelled_of_behind waiter (by rw [creating]; nofun))

theorem pass (sound : Sound context) {payload : String}
    (passing : context.task = .passing payload) :
    Sound { context with
      transports := tell (eventOf payload) context.transports, task := .reading } := by
  obtain ⟨handled, isHandled, events, -⟩ := sound.passed
  rw [passing] at isHandled
  obtain ⟨connectionId, isTaken⟩ := isHandled
  have quiet (left : context.left = true) : context.transports = [] := by
    refine (sound.quiet left).resolve_right ?_
    rw [Client.isQuiet, passing]
    nofun
  refine { sound with
    passed := ⟨context.taken, rfl, ?_, ?_⟩
    created := ?_
    failed := nofun
    quiet := ?_
    behind := ?_ }
  · intro told member
    obtain ⟨before, isBefore, isTold⟩ := mem_tell sound.created member
    have present : context.left = false := by
      refine Bool.eq_false_of_not_eq_true fun left => ?_
      rw [quiet left] at isBefore
      cases isBefore
    have same := events before isBefore
    rw [Client.farewell, present, if_neg Bool.false_ne_true, List.append_nil] at same
    show told = eventsOf context.taken ++ context.farewell
    rw [isTold, same, isTaken, eventsOf_append, Client.farewell, present,
      if_neg Bool.false_ne_true, List.append_nil]
    rfl
  · rw [isTaken]
    exact fun _ => List.append_ne_nil_of_right_ne_nil _ nofun
  · show (tell _ context.transports).length ≤ 1
    rw [length_tell]
    exact sound.created
  · exact fun left => .inl (tell_eq_nil.2 (quiet left))
  · exact fun waiter => .inr (sound.cancelled_of_behind waiter (by rw [passing]; nofun))

theorem turn (sound : Sound context) {ids : γ → String} {task : ApplicationTask γ}
    (turn : Turn ids context context.task task) : Sound { context with task := task } := by
  obtain ⟨handled, isHandled, events, created⟩ := sound.passed
  have isTask : ∃ before, context.task = before := ⟨_, rfl⟩
  obtain ⟨before, isTask⟩ := isTask
  rw [isTask] at turn isHandled
  have goesOn : before ≠ .ended := by
    rintro rfl
    cases turn
  have quiet := sound.quiet
  rw [Client.isQuiet, isTask] at quiet
  have moves (isHandled : Handled handled context.taken task)
      (failed : ∀ disconnect, task = .disconnecting disconnect false → context.transports = [])
      (quiet : context.left = true →
        context.transports = [] ∨ ({ context with task := task } : Client γ).isQuiet = true) :
      Sound { context with task := task } :=
    { sound with
      passed := ⟨handled, isHandled, events, created⟩
      failed := failed
      quiet := quiet
      behind := fun waiter =>
        .inr (sound.cancelled_of_behind waiter (by rw [isTask]; exact goesOn)) }
  cases turn with
  | wake => exact moves isHandled nofun quiet
  | stop =>
      have isTaken : context.taken = handled := isHandled
      exact moves (isTaken ▸ List.prefix_refl _) nofun fun _ => .inr rfl
  | rest => exact moves isHandled nofun quiet
  | throws message =>
      have isTaken : context.taken = handled ++ [message] := isHandled
      exact moves (isTaken ▸ List.prefix_append _ _) nofun fun _ => .inr rfl
  | opens opened running =>
      refine moves isHandled nofun fun left => .inl ((quiet left).resolve_right ?_)
      rw [running]
      nofun
  | closes connectionId => exact moves ⟨connectionId, isHandled⟩ nofun fun _ => .inr rfl
  | data connectionId payload running =>
      refine moves ⟨connectionId, isHandled⟩ nofun fun left => .inl ((quiet left).resolve_right ?_)
      rw [running]
      nofun
  | fails opened =>
      -- the open message has been handled, and it is all that has been taken
      obtain ⟨isTaken, none⟩ := sound.creating_first isTask
      refine { sound with
        passed := ⟨context.taken, rfl, ?_, fun isCreated => absurd none isCreated⟩
        failed := fun _ _ => none
        quiet := fun _ => .inl none
        behind := ?_ }
      · rw [none]
        nofun
      · exact fun waiter =>
          .inr (sound.cancelled_of_behind waiter (by rw [isTask]; nofun))

/-- A step of its `PerformDisconnectCore`. -/
theorem disconnect (sound : Sound context) {disconnect : Disconnect γ} {closes : Bool}
    (disconnecting : context.task = .disconnecting disconnect closes)
    (behind : Option (Disconnect γ)) :
    Sound { context with task := .behind closes behind } := by
  obtain ⟨handled, isHandled, events, created⟩ := sound.passed
  rw [disconnecting] at isHandled
  have cancelled (waiter : context.waiter = .disconnecting) : context.cancelled = true :=
    sound.cancelled_of_behind waiter (by rw [disconnecting]; nofun)
  cases closes with
  | true =>
      have quiet : ({ context with task := .behind true behind } : Client γ).isQuiet = true := by
        cases behind with
        | none => rfl
        | some disconnect => rfl
      refine { sound with
        passed := ⟨handled, ?_, events, created⟩
        failed := ?_
        quiet := fun _ => .inr quiet
        behind := fun waiter => .inr (cancelled waiter) }
      · obtain ⟨connectionId, isTaken⟩ := isHandled
        cases behind with
        | none => exact isTaken ▸ List.prefix_append _ _
        | some disconnect => exact ⟨connectionId, isTaken⟩
      · intro disconnect isBehind
        cases behind with
        | none => cases isBehind
        | some disconnect => cases isBehind
  | false =>
      have none := sound.failed disconnect disconnecting
      refine { sound with
        passed := ⟨handled, ?_, events, created⟩
        failed := fun _ _ => none
        quiet := fun _ => .inl none
        behind := fun waiter => .inr (cancelled waiter) }
      cases behind with
      | none => exact isHandled
      | some disconnect => exact isHandled

/-- A client whose task performs the disconnect may be told at once. -/
theorem quiet_of_disconnecting (sound : Sound context) {disconnect : Disconnect γ} {closes : Bool}
    (disconnecting : context.task = .disconnecting disconnect closes) :
    context.transports = [] ∨ context.isQuiet = true := by
  cases closes with
  | true =>
      right
      rw [Client.isQuiet, disconnecting]
  | false => exact .inl (sound.failed disconnect disconnecting)

end Sound

end AzureSignalR.AspNet
