import AzureSignalR.Library.Framing
import AzureSignalR.ServiceConnections.ServiceStatus

/-!
Contract: what a ping does to the container that handles it.

Owns: the readers of `RuntimeServicePingMessage`, `HandlePingAsync` of the base container, and
the servers tag over runs of pings and resets.

Does not own: what the derived containers add, or the logs. Pings are handled one after another;
numbers are read in a culture whose signs are `-` and `+`, and `IndexOf(":")` is taken to be
ordinal.
-/

set_option autoImplicit false

namespace AzureSignalR.ServiceConnections.PingHandling

open Library (splitAtSeparator splitAtSeparator_append splitAtSeparator_eq_none
  splitAtSeparator_eq_some)
open ServiceStatus

/-- The `Messages` of a ping. -/
abbrev Messages := List (Option String)

def statusKey : String := "status"

def serversKey : String := "servers"

def clientCountKey : String := "clientcount"

def serverCountKey : String := "servercount"

def capacityKey : String := "capacity"

def diagnosticLogsMessagingTypeKey : String := "d-m"

def messagingLogEnableValue : String := "1"

def statusActiveValue : String := "1"

inductive Failure where
  | argumentOutOfRange
deriving DecidableEq, Repr

/-! ## Numbers -/

def isWhite (character : Char) : Bool :=
  character = ' ' || ('\t' ≤ character && character ≤ '\r')

/-- Digits, and behind them white space and null characters only. -/
def parseDigits (text : List Char) : Option Nat :=
  let digits := text.takeWhile Char.isDigit
  let trailing := (text.dropWhile Char.isDigit).dropWhile isWhite
  if digits = [] ∨ trailing.any (fun character => character ≠ '\x00') then none
  else some (digits.foldl (fun number digit => 10 * number + (digit.toNat - '0'.toNat)) 0)

/-- `TryParse` of an integer type with this many bits. -/
def tryParse (bits : Nat) (text : List Char) : Option Int :=
  let number : Option Int :=
    match text.dropWhile isWhite with
    | '-' :: digits => (parseDigits digits).map (fun number => -(number : Int))
    | '+' :: digits => (parseDigits digits).map (fun number => (number : Int))
    | digits => (parseDigits digits).map (fun number => (number : Int))
  number.filter (fun number => -(2 ^ (bits - 1)) ≤ number ∧ number < 2 ^ (bits - 1))

/-- `int.TryParse`. -/
def intTryParse (value : Option String) : Option Int :=
  value.bind (fun text => tryParse 32 text.toList)

/-! ## The readers -/

/-- The value behind the first occurrence of the key; the value itself can be null. -/
def tryGetValue : Messages → String → Option (Option String)
  | item :: value :: rest, key => if item = some key then some value else tryGetValue rest key
  | _, _ => none

def tryGetCount (messages : Messages) (key : String) : Option Int :=
  (tryGetValue messages key).bind intTryParse

def tryGetClientCount (messages : Messages) : Option Int := tryGetCount messages clientCountKey

def tryGetServerCount (messages : Messages) : Option Int := tryGetCount messages serverCountKey

def tryGetConnectionCapacity (messages : Messages) : Option Int := tryGetCount messages capacityKey

def tryGetStatus (messages : Messages) : Option Bool :=
  (tryGetValue messages statusKey).map (fun value => value = some statusActiveValue)

def tryGetMessageLogEnableFlag (messages : Messages) : Option Bool :=
  (tryGetValue messages diagnosticLogsMessagingTypeKey).map
    (fun value => value = some messagingLogEnableValue)

/-- A servers tag with its time, from a value that is not empty. -/
def splitServersTag (value : List Char) : Except Failure (Option (String × Int)) :=
  match splitAtSeparator ':' value with
  -- `IndexOf` gives -1, and `AsSpan` does not take it.
  | none => .error .argumentOutOfRange
  | some (front, serversTag) =>
      .ok ((tryParse 64 front).map (fun updatedTime => (String.ofList serversTag, updatedTime)))

def tryGetServersTag (messages : Messages) : Except Failure (Option (String × Int)) :=
  match tryGetValue messages serversKey with
  | some (some value) => if value = "" then .ok none else splitServersTag value.toList
  | _ => .ok none

/-! ## The container -/

def defaultServersTagContext : String × Int := ("", 0)

def checkWindow : Int := 5

/-- Ten minutes in ticks. -/
def checkTimeSpan : Int := 10 * 60 * 10000000

/-- The container with its endpoint. -/
structure Container where
  clientConnectionCount : Int := 0
  serverConnectionCount : Int := 0
  connectionCapacity : Int := 0
  hasClients : Bool := false
  isActive : Bool := true
  inactiveInfo : InactiveInfo := {}
  serversTagContext : String × Int := defaultServersTagContext
  enableMessageLog : Bool := false
deriving DecidableEq, Repr

namespace Container

def setMetrics (container : Container) (messages : Messages) : Container :=
  { container with
    clientConnectionCount := (tryGetClientCount messages).getD container.clientConnectionCount
    serverConnectionCount := (tryGetServerCount messages).getD container.serverConnectionCount
    connectionCapacity := (tryGetConnectionCapacity messages).getD container.connectionCapacity }

def setStatus (container : Container) (ping : StatusPing) : Container :=
  let (isActive, inactiveInfo) :=
    getServiceStatus container.inactiveInfo ping checkWindow checkTimeSpan
  { container with
    hasClients := ping.active, isActive := isActive, inactiveInfo := inactiveInfo }

def setServersTag (container : Container) (offered : String × Int) : Container :=
  if container.serversTagContext.2 < offered.2 then
    { container with serversTagContext := offered }
  else container

end Container

/-- `HandlePingAsync`: what it throws, and the container behind it. `now` and `later` are what
the clock gives for a status. -/
def handlePing (container : Container) (messages : Messages) (now later : Int) :
    Option Failure × Container :=
  let container := container.setMetrics messages
  match tryGetStatus messages with
  | some status => (none, container.setStatus ⟨status, now, later⟩)
  | none =>
      match tryGetServersTag messages with
      | .error failure => (some failure, container)
      | .ok (some offered) => (none, container.setServersTag offered)
      | .ok none =>
          match tryGetMessageLogEnableFlag messages with
          | some enableMessageLog =>
              (none, { container with enableMessageLog := enableMessageLog })
          | none => (none, container)

inductive Event where
  | ping (messages : Messages) (now later : Int)
  /-- `StartGetServersPing` starts the timer, or the tag has expired. -/
  | reset
deriving DecidableEq, Repr

def step (container : Container) : Event → Container
  | .ping messages now later => (handlePing container messages now later).2
  | .reset => { container with serversTagContext := defaultServersTagContext }

def run (container : Container) (events : List Event) : Container := events.foldl step container

/-! ## What a ping says -/

/-- The value stands behind the first occurrence of the key at an even position. -/
def Follows (messages : Messages) (key : String) (value : Option String) : Prop :=
  ∃ position, messages[2 * position]? = some (some key) ∧
    messages[2 * position + 1]? = some value ∧
      ∀ earlier < position, messages[2 * earlier]? ≠ some (some key)

/-- A state takes the value of a key, if that has the form, and is left alone otherwise. -/
def Takes {α : Type} (messages : Messages) (key : String) (form : Option String → Option α)
    (before after : α) : Prop :=
  (∀ value read, Follows messages key value → form value = some read → after = read) ∧
    ((∀ value read, Follows messages key value → form value ≠ some read) → after = before)

/-- A value of the form `1234567890:server1;server2`. -/
def IsServersTag (value : Option String) (serversTag : String) (updatedTime : Int) : Prop :=
  ∃ front, ':' ∉ front ∧ value.map String.toList = some (front ++ ':' :: serversTag.toList) ∧
    tryParse 64 front = some updatedTime

def HasStatus (messages : Messages) : Prop := ∃ value, Follows messages statusKey value

/-- The ping has no status, but a servers tag. -/
def Offers (messages : Messages) (serversTag : String) (updatedTime : Int) : Prop :=
  ¬ HasStatus messages ∧ ∃ value, Follows messages serversKey value ∧
    IsServersTag value serversTag updatedTime

/-- The ping has no status, and a value without a colon where the servers tag is. -/
def Unseparated (messages : Messages) : Prop :=
  ¬ HasStatus messages ∧ ∃ value, Follows messages serversKey (some value) ∧
    value ≠ "" ∧ ':' ∉ value.toList

/-- The servers tag stays, or is replaced by a newer one. -/
def newer (stored offered : String × Int) : String × Int :=
  if stored.2 < offered.2 then offered else stored

/-- What a ping does to a container. -/
structure Handled (messages : Messages) (now later : Int) (before after : Container) : Prop where
  clientCount : Takes messages clientCountKey intTryParse before.clientConnectionCount
    after.clientConnectionCount
  serverCount : Takes messages serverCountKey intTryParse before.serverConnectionCount
    after.serverConnectionCount
  capacity : Takes messages capacityKey intTryParse before.connectionCapacity
    after.connectionCapacity
  status : Takes messages statusKey (fun value => some (decide (value = some statusActiveValue)))
    before.hasClients after.hasClients
  active : ∀ value, Follows messages statusKey value →
    (after.isActive, after.inactiveInfo) =
      getServiceStatus before.inactiveInfo ⟨value = some statusActiveValue, now, later⟩ checkWindow
        checkTimeSpan
  unasked : ¬ HasStatus messages →
    after.isActive = before.isActive ∧ after.inactiveInfo = before.inactiveInfo
  servers : ∀ serversTag updatedTime, Offers messages serversTag updatedTime →
    after.serversTagContext = newer before.serversTagContext (serversTag, updatedTime)
  noServers : (∀ serversTag updatedTime, ¬ Offers messages serversTag updatedTime) →
    after.serversTagContext = before.serversTagContext
  log : ¬ HasStatus messages →
    (∀ serversTag updatedTime, ¬ Offers messages serversTag updatedTime) →
    Takes messages diagnosticLogsMessagingTypeKey
      (fun value => some (decide (value = some messagingLogEnableValue)))
      before.enableMessageLog after.enableMessageLog
  noLog : (HasStatus messages ∨ ∃ serversTag updatedTime, Offers messages serversTag updatedTime) →
    after.enableMessageLog = before.enableMessageLog

/-! ## The readers find what the ping says -/

theorem follows_cons {item value : Option String} {rest : Messages} {key : String}
    {other : Option String} :
    Follows (item :: value :: rest) key other ↔
      item = some key ∧ value = other ∨ item ≠ some key ∧ Follows rest key other := by
  constructor
  · rintro ⟨position, atKey, atValue, isFirst⟩
    cases position with
    | zero => exact .inl ⟨Option.some.inj atKey, Option.some.inj atValue⟩
    | succ position =>
        refine .inr ⟨fun isKey => isFirst 0 (Nat.succ_pos position) (congrArg some isKey), position,
          atKey, atValue, fun earlier before => ?_⟩
        exact isFirst (earlier + 1) (Nat.succ_lt_succ before)
  · rintro (⟨rfl, rfl⟩ | ⟨different, position, atKey, atValue, isFirst⟩)
    · exact ⟨0, rfl, rfl, nofun⟩
    · refine ⟨position + 1, atKey, atValue, fun earlier before => ?_⟩
      cases earlier with
      | zero => exact fun isKey => different (Option.some.inj isKey)
      | succ earlier => exact isFirst earlier (Nat.lt_of_succ_lt_succ before)

theorem not_follows_of_short {messages : Messages} {key : String} {value : Option String}
    (short : messages.length < 2) : ¬ Follows messages key value := by
  rintro ⟨position, -, atValue, -⟩
  have inside := (List.getElem?_eq_some_iff.mp atValue).1
  omega

theorem tryGetValue_eq_some {messages : Messages} {key : String} {value : Option String} :
    tryGetValue messages key = some value ↔ Follows messages key value := by
  induction messages, key using tryGetValue.induct with
  | case1 other rest key =>
      rw [tryGetValue, if_pos rfl, follows_cons, Option.some.injEq]
      exact ⟨fun same => .inl ⟨rfl, same⟩, fun found => found.elim (·.2) (absurd rfl ·.1)⟩
  | case2 item other rest key different inductionHypothesis =>
      rw [tryGetValue, if_neg different, follows_cons, inductionHypothesis]
      exact ⟨fun later => .inr ⟨different, later⟩,
        fun found => found.elim (fun here => absurd here.1 different) (·.2)⟩
  | case3 messages key short =>
      have isShort : messages.length < 2 := by
        match messages with
        | [] => exact Nat.zero_lt_two
        | [item] => exact Nat.one_lt_two
        | item :: other :: rest => exact (short item other rest rfl).elim
      rw [tryGetValue]
      · exact iff_of_false nofun (not_follows_of_short isShort)
      · exact short

theorem tryGetValue_eq_none {messages : Messages} {key : String} :
    tryGetValue messages key = none ↔ ∀ value, ¬ Follows messages key value := by
  rw [Option.eq_none_iff_forall_ne_some]
  exact forall_congr' fun value => not_congr tryGetValue_eq_some

/-- A reader that goes by one key, and what it is used for. -/
theorem takes_getD {α : Type} (messages : Messages) (key : String) (form : Option String → Option α)
    (before : α) : Takes messages key form before
      (((tryGetValue messages key).bind form).getD before) := by
  cases found : tryGetValue messages key with
  | none =>
      have nothing := tryGetValue_eq_none.1 found
      exact ⟨fun value _ follows => absurd follows (nothing value), fun _ => rfl⟩
  | some value =>
      have follows := tryGetValue_eq_some.1 found
      constructor
      · intro other read isOther isRead
        have same := tryGetValue_eq_some.2 isOther
        rw [found] at same
        cases same
        show (form value).getD before = read
        rw [isRead]
        rfl
      · intro unread
        show (form value).getD before = before
        cases isRead : form value with
        | none => rfl
        | some read => exact absurd isRead (unread value read follows)

theorem tryGetStatus_eq_none {messages : Messages} :
    tryGetStatus messages = none ↔ ¬ HasStatus messages := by
  rw [tryGetStatus, Option.map_eq_none_iff, tryGetValue_eq_none, HasStatus, not_exists]

/-- Of a value with a colon, the reader gives the tag it has the form of. -/
theorem splitServersTag_eq_ok {value serversTag : String} {updatedTime : Int} :
    splitServersTag value.toList = .ok (some (serversTag, updatedTime)) ↔
      IsServersTag (some value) serversTag updatedTime := by
  rw [splitServersTag]
  constructor
  · intro read
    cases split : splitAtSeparator ':' value.toList with
    | none =>
        rw [split] at read
        cases read
    | some parts =>
        obtain ⟨front, tag⟩ := parts
        obtain ⟨separates, whole⟩ := splitAtSeparator_eq_some.1 split
        rw [split] at read
        obtain ⟨time, parsed, same⟩ := Option.map_eq_some_iff.mp (Except.ok.inj read)
        cases same
        refine ⟨front, separates, ?_, parsed⟩
        show some value.toList = _
        rw [whole, String.toList_ofList]
  · rintro ⟨front, separates, whole, parsed⟩
    rw [Option.some.inj whole, splitAtSeparator_append separates]
    show Except.ok ((tryParse 64 front).map _) = _
    rw [parsed]
    show Except.ok (some (String.ofList serversTag.toList, updatedTime)) = _
    rw [String.ofList_toList]

/-- An empty or a null value is no tag. -/
theorem not_isServersTag_empty {serversTag : String} {updatedTime : Int} :
    ¬ IsServersTag (some "") serversTag updatedTime := by
  rintro ⟨front, -, whole, -⟩
  exact List.append_ne_nil_of_right_ne_nil front (List.cons_ne_nil _ _) (Option.some.inj whole).symm

theorem not_isServersTag_none {serversTag : String} {updatedTime : Int} :
    ¬ IsServersTag none serversTag updatedTime := by
  rintro ⟨front, -, whole, -⟩
  cases whole

theorem tryGetServersTag_eq_ok {messages : Messages} {serversTag : String} {updatedTime : Int} :
    tryGetServersTag messages = .ok (some (serversTag, updatedTime)) ↔
      ∃ value, Follows messages serversKey value ∧ IsServersTag value serversTag updatedTime := by
  rw [tryGetServersTag]
  constructor
  · intro read
    split at read
    next value found =>
      split_ifs at read with empty
      · cases read
      · exact ⟨some value, tryGetValue_eq_some.1 found, splitServersTag_eq_ok.1 read⟩
    next => cases read
  · rintro ⟨value, follows, isTag⟩
    rw [tryGetValue_eq_some.2 follows]
    cases value with
    | none => exact absurd isTag not_isServersTag_none
    | some value =>
        show (if value = "" then _ else _) = _
        rw [if_neg, splitServersTag_eq_ok.2 isTag]
        rintro rfl
        exact not_isServersTag_empty isTag

/-- The reader throws for a value without a colon, and for no other. -/
theorem tryGetServersTag_error {messages : Messages} {failure : Failure}
    (failed : tryGetServersTag messages = .error failure) :
    ∃ value, Follows messages serversKey (some value) ∧ value ≠ "" ∧ ':' ∉ value.toList := by
  rw [tryGetServersTag] at failed
  split at failed
  next value found =>
    split_ifs at failed with empty
    refine ⟨value, tryGetValue_eq_some.1 found, empty, ?_⟩
    rw [splitServersTag] at failed
    split at failed
    next unsplit => exact splitAtSeparator_eq_none.1 unsplit
    next => cases failed
  next => cases failed

/-! ## What handling a ping comes to -/

theorem Container.setServersTag_eq (container : Container) (offered : String × Int) :
    container.setServersTag offered =
      { container with serversTagContext := newer container.serversTagContext offered } := by
  rw [setServersTag, newer]
  split
  · rfl
  · rfl

section Handling

variable {container : Container} {messages : Messages} {now later : Int}

theorem handlePing_status {status : Bool} (isStatus : tryGetStatus messages = some status) :
    handlePing container messages now later =
      (none, (container.setMetrics messages).setStatus ⟨status, now, later⟩) := by
  rw [handlePing, isStatus]

theorem handlePing_servers {offered : String × Int} (noStatus : tryGetStatus messages = none)
    (isTag : tryGetServersTag messages = .ok (some offered)) :
    handlePing container messages now later =
      (none, (container.setMetrics messages).setServersTag offered) := by
  rw [handlePing, noStatus, isTag]

theorem handlePing_log (noStatus : tryGetStatus messages = none)
    (noTag : tryGetServersTag messages = .ok none) :
    handlePing container messages now later =
      (none, { container.setMetrics messages with
        enableMessageLog :=
          (tryGetMessageLogEnableFlag messages).getD container.enableMessageLog }) := by
  rw [handlePing, noStatus, noTag]
  cases tryGetMessageLogEnableFlag messages with
  | none => rfl
  | some enableMessageLog => rfl

theorem handled_of_status (hasStatus : HasStatus messages) :
    (handlePing container messages now later).1 = none ∧
      Handled messages now later container (handlePing container messages now later).2 := by
  obtain ⟨value, follows⟩ := hasStatus
  have found := tryGetValue_eq_some.2 follows
  have isStatus : tryGetStatus messages = some (decide (value = some statusActiveValue)) := by
    rw [tryGetStatus, found]
    rfl
  rw [handlePing_status isStatus]
  have unoffered : ∀ serversTag updatedTime, ¬ Offers messages serversTag updatedTime :=
    fun _ _ offers => offers.1 ⟨value, follows⟩
  constructor
  · rfl
  constructor
  · exact takes_getD messages clientCountKey intTryParse container.clientConnectionCount
  · exact takes_getD messages serverCountKey intTryParse container.serverConnectionCount
  · exact takes_getD messages capacityKey intTryParse container.connectionCapacity
  · have takes := takes_getD messages statusKey
      (fun value => some (decide (value = some statusActiveValue))) container.hasClients
    rw [found] at takes
    exact takes
  · intro other isOther
    have same := tryGetValue_eq_some.2 isOther
    rw [found] at same
    cases same
    rfl
  · exact fun unasked => absurd ⟨value, follows⟩ unasked
  · exact fun serversTag updatedTime offers => absurd offers (unoffered serversTag updatedTime)
  · exact fun _ => rfl
  · exact fun unasked => absurd ⟨value, follows⟩ unasked
  · exact fun _ => rfl

/-- Without a status, the state that goes by it is left alone. -/
theorem takes_unasked (unasked : ¬ HasStatus messages) :
    Takes messages statusKey (fun value => some (decide (value = some statusActiveValue)))
      container.hasClients container.hasClients :=
  ⟨fun value _ follows => absurd ⟨value, follows⟩ unasked, fun _ => rfl⟩

theorem handled_of_offers (serversTag : String) (updatedTime : Int)
    (offers : Offers messages serversTag updatedTime) :
    (handlePing container messages now later).1 = none ∧
      Handled messages now later container (handlePing container messages now later).2 := by
  have isTag := tryGetServersTag_eq_ok.2 offers.2
  rw [handlePing_servers (tryGetStatus_eq_none.2 offers.1) isTag, Container.setServersTag_eq]
  constructor
  · rfl
  constructor
  · exact takes_getD messages clientCountKey intTryParse container.clientConnectionCount
  · exact takes_getD messages serverCountKey intTryParse container.serverConnectionCount
  · exact takes_getD messages capacityKey intTryParse container.connectionCapacity
  · exact takes_unasked offers.1
  · exact fun value follows => absurd ⟨value, follows⟩ offers.1
  · exact fun _ => ⟨rfl, rfl⟩
  · intro otherTag otherTime otherOffers
    have same := tryGetServersTag_eq_ok.2 otherOffers.2
    rw [isTag] at same
    cases same
    rfl
  · exact fun unoffered => absurd offers (unoffered serversTag updatedTime)
  · exact fun _ unoffered => absurd offers (unoffered serversTag updatedTime)
  · exact fun _ => rfl

theorem handled_of_neither (unasked : ¬ HasStatus messages) (separated : ¬ Unseparated messages)
    (unoffered : ∀ serversTag updatedTime, ¬ Offers messages serversTag updatedTime) :
    (handlePing container messages now later).1 = none ∧
      Handled messages now later container (handlePing container messages now later).2 := by
  have noTag : tryGetServersTag messages = .ok none := by
    cases read : tryGetServersTag messages with
    | error failure => exact absurd ⟨unasked, tryGetServersTag_error read⟩ separated
    | ok offered =>
        cases offered with
        | none => rfl
        | some offered =>
            exact absurd ⟨unasked, tryGetServersTag_eq_ok.1 read⟩
              (unoffered offered.1 offered.2)
  rw [handlePing_log (tryGetStatus_eq_none.2 unasked) noTag]
  constructor
  · rfl
  constructor
  · exact takes_getD messages clientCountKey intTryParse container.clientConnectionCount
  · exact takes_getD messages serverCountKey intTryParse container.serverConnectionCount
  · exact takes_getD messages capacityKey intTryParse container.connectionCapacity
  · exact takes_unasked unasked
  · exact fun value follows => absurd ⟨value, follows⟩ unasked
  · exact fun _ => ⟨rfl, rfl⟩
  · exact fun serversTag updatedTime offers => absurd offers (unoffered serversTag updatedTime)
  · exact fun _ => rfl
  · intro _ _
    have takes := takes_getD messages diagnosticLogsMessagingTypeKey
      (fun value => some (decide (value = some messagingLogEnableValue)))
      container.enableMessageLog
    show Takes _ _ _ _ ((tryGetMessageLogEnableFlag messages).getD container.enableMessageLog)
    rw [tryGetMessageLogEnableFlag, Option.map_eq_bind]
    exact takes
  · rintro (hasStatus | ⟨serversTag, updatedTime, offers⟩)
    · exact absurd hasStatus unasked
    · exact absurd offers (unoffered serversTag updatedTime)

end Handling

theorem handled (container : Container) {messages : Messages} (now later : Int)
    (separated : ¬ Unseparated messages) :
    (handlePing container messages now later).1 = none ∧
      Handled messages now later container (handlePing container messages now later).2 := by
  by_cases hasStatus : HasStatus messages
  · exact handled_of_status hasStatus
  by_cases offers : ∃ serversTag updatedTime, Offers messages serversTag updatedTime
  · obtain ⟨serversTag, updatedTime, isOffer⟩ := offers
    exact handled_of_offers serversTag updatedTime isOffer
  · rw [not_exists] at offers
    exact handled_of_neither hasStatus separated fun serversTag => not_exists.mp (offers serversTag)

/-! ## The servers tag over a run -/

def Event.isPing : Event → Bool
  | .ping _ _ _ => true
  | .reset => false

/-- The pings since the last reset. -/
def sinceReset (events : List Event) : List Event := events.rtakeWhile Event.isPing

/-- Some ping of these offers the tag. -/
def Offered (events : List Event) (offered : String × Int) : Prop :=
  ∃ messages now later, Event.ping messages now later ∈ events ∧
    Offers messages offered.1 offered.2

/-- The tag has the largest time of those since the last reset; only a positive time replaces what
a reset stores. -/
structure Latest (events : List Event) (stored : String × Int) : Prop where
  largest : ∀ offered, Offered (sinceReset events) offered → offered.2 ≤ stored.2
  offered : stored = defaultServersTagContext ∨ 0 < stored.2 ∧ Offered (sinceReset events) stored

theorem left_le_newer (stored offered : String × Int) : stored.2 ≤ (newer stored offered).2 := by
  rw [newer]
  split_ifs <;> omega

theorem right_le_newer (stored offered : String × Int) : offered.2 ≤ (newer stored offered).2 := by
  rw [newer]
  split_ifs <;> omega

namespace Latest

variable {events : List Event} {stored : String × Int}

theorem nonneg (latest : Latest events stored) : 0 ≤ stored.2 := by
  rcases latest.offered with isDefault | ⟨positive, -⟩
  · rw [isDefault]
    exact Int.le_refl 0
  · omega

theorem reset (events : List Event) : Latest (events ++ [.reset]) defaultServersTagContext := by
  have nothing : sinceReset (events ++ [.reset]) = [] := List.rtakeWhile_concat_neg _ _ _ nofun
  constructor
  · rintro offered ⟨messages, now, later, member, -⟩
    rw [nothing] at member
    cases member
  · exact .inl rfl

/-- A ping with a tag, and a ping without. -/
theorem ping (latest : Latest events stored) {messages : Messages} (now later : Int)
    {next : String × Int}
    (isNewer : ∀ serversTag updatedTime, Offers messages serversTag updatedTime →
      next = newer stored (serversTag, updatedTime))
    (isSame : (∀ serversTag updatedTime, ¬ Offers messages serversTag updatedTime) →
      next = stored) :
    Latest (events ++ [.ping messages now later]) next := by
  have more : sinceReset (events ++ [.ping messages now later]) =
      sinceReset events ++ [.ping messages now later] := List.rtakeWhile_concat_pos _ _ _ rfl
  have earlier : ∀ offered, Offered (sinceReset events) offered →
      Offered (sinceReset (events ++ [.ping messages now later])) offered := by
    rintro offered ⟨other, otherNow, otherLater, member, offers⟩
    rw [more]
    exact ⟨other, otherNow, otherLater, List.mem_append_left _ member, offers⟩
  have either : ∀ offered, Offered (sinceReset (events ++ [.ping messages now later])) offered →
      Offered (sinceReset events) offered ∨ Offers messages offered.1 offered.2 := by
    rintro offered ⟨other, otherNow, otherLater, member, offers⟩
    rw [more, List.mem_append, List.mem_singleton] at member
    rcases member with before | isLast
    · exact .inl ⟨other, otherNow, otherLater, before, offers⟩
    · cases isLast
      exact .inr offers
  have stays : ∀ {other : String × Int}, stored.2 ≤ other.2 →
      (∀ offered : String × Int, Offers messages offered.1 offered.2 → offered.2 ≤ other.2) →
      ∀ offered, Offered (sinceReset (events ++ [.ping messages now later])) offered →
        offered.2 ≤ other.2 := by
    intro other grows last offered isOffered
    rcases either offered isOffered with before | isLast
    · exact Int.le_trans (latest.largest offered before) grows
    · exact last offered isLast
  by_cases offers : ∃ serversTag updatedTime, Offers messages serversTag updatedTime
  · obtain ⟨serversTag, updatedTime, isOffer⟩ := offers
    constructor
    · apply stays
      · rw [isNewer serversTag updatedTime isOffer]
        exact left_le_newer stored _
      · intro offered isLast
        rw [isNewer offered.1 offered.2 isLast]
        exact right_le_newer stored offered
    · rw [isNewer serversTag updatedTime isOffer, newer]
      split_ifs with replaced
      · refine .inr ⟨Int.lt_of_le_of_lt latest.nonneg replaced, messages, now, later, ?_, isOffer⟩
        rw [more]
        exact List.mem_append_right _ List.mem_cons_self
      · exact latest.offered.imp_right fun found => ⟨found.1, earlier stored found.2⟩
  · have unoffered : ∀ serversTag updatedTime, ¬ Offers messages serversTag updatedTime :=
      fun serversTag updatedTime isOffer => offers ⟨serversTag, updatedTime, isOffer⟩
    rw [isSame unoffered]
    constructor
    · exact stays (Int.le_refl _) fun offered isLast => absurd isLast (unoffered _ _)
    · exact latest.offered.imp_right fun found => ⟨found.1, earlier stored found.2⟩

end Latest

/-- After any run, the tag is the latest that was offered. -/
theorem run_latest (container : Container) (events : List Event)
    (fresh : container.serversTagContext = defaultServersTagContext)
    (separated : ∀ messages now later, Event.ping messages now later ∈ events →
      ¬ Unseparated messages) : Latest events (run container events).serversTagContext := by
  induction events using List.reverseRecOn with
  | nil =>
      refine ⟨?_, .inl fresh⟩
      rintro offered ⟨messages, now, later, member, -⟩
      cases member
  | append_singleton events event inductionHypothesis =>
      have latest := inductionHypothesis fun messages now later member =>
        separated messages now later (List.mem_append_left _ member)
      rw [run, List.foldl_append]
      cases event with
      | reset => exact Latest.reset events
      | ping messages now later =>
          obtain ⟨-, isHandled⟩ := handled (run container events) now later
            (separated messages now later (List.mem_append_right _ List.mem_cons_self))
          exact latest.ping now later isHandled.servers isHandled.noServers

/-- A ping whose servers value is separated is handled without an exception, and does what it says
and no more; over a run, the servers tag is the latest since the last reset. -/
theorem ping_handling :
    (∀ (container : Container) (messages : Messages) (now later : Int), ¬ Unseparated messages →
      (handlePing container messages now later).1 = none ∧
        Handled messages now later container (handlePing container messages now later).2) ∧
    ∀ (container : Container) (events : List Event),
      container.serversTagContext = defaultServersTagContext →
      (∀ messages now later, Event.ping messages now later ∈ events → ¬ Unseparated messages) →
        Latest events (run container events).serversTagContext :=
  ⟨fun container _ now later => handled container now later, run_latest⟩

theorem separated_of_value {messages : Messages} {value : String}
    (found : tryGetValue messages serversKey = some (some value)) (colon : ':' ∈ value.toList) :
    ¬ Unseparated messages := by
  rintro ⟨-, other, follows, -, separates⟩
  rw [tryGetValue_eq_some.2 follows] at found
  cases found
  exact separates colon

/-- The ping of a service that has twelve clients and knows the servers `b`. -/
def countAndTag : Messages := [some clientCountKey, some "12", some serversKey, some "7:b"]

/-- Behind a reset, an older tag comes after a newer one, and then another of the same time. -/
def reordered : List Event :=
  [.ping [some serversKey, some "9:z"] 0 0, .reset, .ping countAndTag 1 1,
    .ping [some serversKey, some "5:a"] 2 2, .ping [some serversKey, some "7:c"] 3 3]

theorem ping_handling_reordered :
    ((handlePing {} countAndTag 1 1).1 = none ∧
      Handled countAndTag 1 1 {} (handlePing {} countAndTag 1 1).2) ∧
    Latest reordered (run {} reordered).serversTagContext ∧
      (run {} reordered).serversTagContext = ("b", 7) := by
  refine ⟨ping_handling.1 {} _ 1 1 (separated_of_value rfl (by decide)), ?_, by decide +kernel⟩
  refine ping_handling.2 {} _ rfl fun messages now later member => ?_
  simp only [reordered, List.mem_cons, List.not_mem_nil, or_false] at member
  rcases member with same | same | same | same | same
  · cases same
    exact separated_of_value rfl (by decide)
  · cases same
  · cases same
    exact separated_of_value rfl (by decide)
  · cases same
    exact separated_of_value rfl (by decide)
  · cases same
    exact separated_of_value rfl (by decide)

/-- A status hides the servers tag of its ping, a value other than `1` is taken for inactive, and a
tag whose time is not positive is not stored. -/
theorem hidden_servers_tag :
    (¬ ∀ (container : Container) (messages : Messages) (now later : Int) (value : Option String)
      (serversTag : String) (updatedTime : Int), Follows messages serversKey value →
        IsServersTag value serversTag updatedTime →
          updatedTime ≤ (handlePing container messages now later).2.serversTagContext.2) ∧
    (handlePing { hasClients := true } [some statusKey, some "?"] 0 0).2.hasClients = false ∧
    (handlePing {} [some serversKey, some "-5:a"] 0 0).2.serversTagContext = ("", 0) := by
  refine ⟨fun claimed => ?_, by decide +kernel, by decide +kernel⟩
  have stored := claimed {} [some statusKey, some "1", some serversKey, some "5:a"] 0 0 (some "5:a")
    "a" 5 ⟨1, rfl, rfl, by decide +kernel⟩ ⟨['5'], by decide +kernel, rfl, by decide +kernel⟩
  exact absurd stored (by decide +kernel)

end AzureSignalR.ServiceConnections.PingHandling
