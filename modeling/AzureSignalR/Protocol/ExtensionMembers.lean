import AzureSignalR.Protocol.MessagePackUtils

/-!
Contract: the extension map of `ExtensibleServiceMessage`.

Owns: `WriteExtensionMembers` and `ReadExtensionMembers` for a message class
given by the interfaces it implements, and what reading back a written map
does to the members a message already has.
-/

set_option autoImplicit false

namespace AzureSignalR.Protocol

open Library

namespace ExtensionMembers

def tracingIdKey : Int32 := 1
def ttlKey : Int32 := 2
def protocolKey : Int32 := 3
def filterKey : Int32 := 4
def dataMessageTypeKey : Int32 := 5
def isPartialKey : Int32 := 6

/-- The values of the members that are set, under the keys they are written
with and in the order of `WriteExtensionMembers`. A class that does not
implement an interface has the default there, which is not written. -/
def written (members : ExtensionMembers) : List (Int32 × Option Token) :=
  [(tracingIdKey, members.tracingId.map .uint64),
    (ttlKey, members.ttl.map .int),
    (protocolKey, members.protocol.map fun protocol => .string (some protocol)),
    (filterKey, members.filter.map fun filter => .string (some filter)),
    (dataMessageTypeKey,
      if members.dataMessageType ≠ .unknown then
        some (.int members.dataMessageType.value)
      else none),
    (isPartialKey,
      if members.isPartial then some (.boolean members.isPartial) else none)]

def writeMember (member : Int32 × Option Token) : List Token :=
  match member.2 with
  | some value => [.int member.1, value]
  | none => []

/-- `WriteExtensionMembers`: the number of members that are set, then each. -/
def write (members : ExtensionMembers) : List Token :=
  .mapHeader (members.written.countP fun member => member.2.isSome) ::
    members.written.flatMap writeMember

section Readers

variable (mp : MessagePack) (support : ExtensionSupport)

/-- The `switch` of `ReadExtensionMembers` over the key just read. A key whose
interface the class does not implement leaves its value unread. -/
def readMember (members : ExtensionMembers) (key : Int32) : Reader ExtensionMembers :=
  if key = tracingIdKey then
    if support.tracingId then do
      let tracingId ← mp.readUInt64
      pure { members with tracingId := some tracingId }
    else pure members
  else if key = ttlKey then
    if support.ttl then do
      let ttl ← mp.readInt32
      pure { members with ttl := some ttl }
    else pure members
  else if key = protocolKey then
    if support.protocol then do
      let protocol ← mp.readString
      pure { members with protocol := protocol }
    else pure members
  else if key = filterKey then
    if support.filter then do
      let filter ← mp.readString
      pure { members with filter := filter }
    else pure members
  else if key = dataMessageTypeKey then
    if support.dataMessageType then do
      let type ← mp.readInt32
      pure { members with dataMessageType := ⟨type⟩ }
    else pure members
  else if key = isPartialKey then
    if support.isPartial then do
      let isPartial ← mp.readBoolean
      pure { members with isPartial := isPartial }
    else pure members
  else do
    -- bypass unknown member.
    mp.skip
    pure members

def readEntries : Nat → ExtensionMembers → Reader ExtensionMembers
  | 0, members => pure members
  | count + 1, members => do
      let key ← mp.readInt32
      let members ← readMember mp support members key
      readEntries count members

/-- `ReadExtensionMembers`, on a message that has `members` already. -/
def read (members : ExtensionMembers) : Reader ExtensionMembers := do
  let count ← mp.readMapHeader
  readEntries mp support count members

end Readers

end ExtensionMembers

/-! ## Entries -/

/-- One entry of a written extension map. -/
inductive ExtensionEntry where
  | tracingId (value : UInt64)
  | ttl (value : Int32)
  | protocol (value : String)
  | filter (value : String)
  | dataMessageType (value : DataMessageType)
  | isPartial (value : Bool)
deriving DecidableEq, Repr

namespace ExtensionEntry

def write : ExtensionEntry → List Token
  | tracingId value => [.int ExtensionMembers.tracingIdKey, .uint64 value]
  | ttl value => [.int ExtensionMembers.ttlKey, .int value]
  | protocol value => [.int ExtensionMembers.protocolKey, .string (some value)]
  | filter value => [.int ExtensionMembers.filterKey, .string (some value)]
  | dataMessageType value => [.int ExtensionMembers.dataMessageTypeKey, .int value.value]
  | isPartial value => [.int ExtensionMembers.isPartialKey, .boolean value]

/-- The member the entry sets. -/
def apply (members : ExtensionMembers) : ExtensionEntry → ExtensionMembers
  | tracingId value => { members with tracingId := some value }
  | ttl value => { members with ttl := some value }
  | protocol value => { members with protocol := some value }
  | filter value => { members with filter := some value }
  | dataMessageType value => { members with dataMessageType := value }
  | isPartial value => { members with isPartial := value }

def SupportedBy (support : ExtensionSupport) : ExtensionEntry → Prop
  | tracingId _ => support.tracingId = true
  | ttl _ => support.ttl = true
  | protocol _ => support.protocol = true
  | filter _ => support.filter = true
  | dataMessageType _ => support.dataMessageType = true
  | isPartial _ => support.isPartial = true

theorem length_write (entry : ExtensionEntry) : entry.write.length = 2 := by
  cases entry <;> rfl

/-- One iteration of the loop on an entry the class supports. -/
theorem reads_readMember {mp : MessagePack} (lawful : mp.Lawful)
    {support : ExtensionSupport} (entry : ExtensionEntry)
    (supported : entry.SupportedBy support) (members : ExtensionMembers) :
    mp.Reads
      (mp.readInt32 >>= fun key => ExtensionMembers.readMember mp support members key)
      entry.write (entry.apply members) := by
  have readsKey (key : Int32) : mp.Reads mp.readInt32 [.int key] key :=
    .single fun _ => lawful.readInt32_int key
  cases entry with
  | tracingId value =>
      have readsValue : mp.Reads mp.readUInt64 [.uint64 value] value :=
        .single fun _ => lawful.readUInt64_write value
      refine (readsKey ExtensionMembers.tracingIdKey).cons ?_
      rw [ExtensionMembers.readMember, if_pos rfl,
        if_pos (show support.tracingId = true from supported)]
      exact readsValue.last
  | ttl value =>
      refine (readsKey ExtensionMembers.ttlKey).cons ?_
      rw [ExtensionMembers.readMember, if_neg (by decide), if_pos rfl,
        if_pos (show support.ttl = true from supported)]
      exact (readsKey value).last
  | protocol value =>
      have readsValue : mp.Reads mp.readString [.string (some value)] (some value) :=
        .single (lawful.readString_write (some value))
      refine (readsKey ExtensionMembers.protocolKey).cons ?_
      rw [ExtensionMembers.readMember, if_neg (by decide), if_neg (by decide), if_pos rfl,
        if_pos (show support.protocol = true from supported)]
      exact readsValue.last
  | filter value =>
      have readsValue : mp.Reads mp.readString [.string (some value)] (some value) :=
        .single (lawful.readString_write (some value))
      refine (readsKey ExtensionMembers.filterKey).cons ?_
      rw [ExtensionMembers.readMember, if_neg (by decide), if_neg (by decide),
        if_neg (by decide), if_pos rfl, if_pos (show support.filter = true from supported)]
      exact readsValue.last
  | dataMessageType value =>
      refine (readsKey ExtensionMembers.dataMessageTypeKey).cons ?_
      rw [ExtensionMembers.readMember, if_neg (by decide), if_neg (by decide),
        if_neg (by decide), if_neg (by decide), if_pos rfl,
        if_pos (show support.dataMessageType = true from supported)]
      exact (readsKey value.value).last
  | isPartial value =>
      have readsValue : mp.Reads mp.readBoolean [.boolean value] value :=
        .single fun _ => lawful.readBoolean_write value
      refine (readsKey ExtensionMembers.isPartialKey).cons ?_
      rw [ExtensionMembers.readMember, if_neg (by decide), if_neg (by decide),
        if_neg (by decide), if_neg (by decide), if_neg (by decide), if_pos rfl,
        if_pos (show support.isPartial = true from supported)]
      exact readsValue.last

/-- The loop sets the members of its entries in order. -/
theorem reads_readEntries {mp : MessagePack} (lawful : mp.Lawful)
    {support : ExtensionSupport} (entries : List ExtensionEntry)
    (supported : ∀ entry ∈ entries, entry.SupportedBy support)
    (members : ExtensionMembers) :
    mp.Reads (ExtensionMembers.readEntries mp support entries.length members)
      (entries.flatMap write) (entries.foldl apply members) := by
  induction entries generalizing members with
  | nil => exact .pure_nil members
  | cons entry entries inductionHypothesis =>
      have head := reads_readMember lawful entry (supported entry (by simp)) members
      have tail := inductionHypothesis
        (fun other member => supported other (List.mem_cons_of_mem _ member))
        (entry.apply members)
      have whole := head.bind tail
      rw [bind_assoc] at whole
      exact whole

theorem length_flatMap_write (entries : List ExtensionEntry) :
    (entries.flatMap write).length = 2 * entries.length := by
  simp [List.length_flatMap, length_write, Nat.mul_comm]

end ExtensionEntry

namespace ExtensionMembers

/-- The entries `WriteExtensionMembers` writes, in its order. -/
def entries (members : ExtensionMembers) : List ExtensionEntry :=
  (members.tracingId.map ExtensionEntry.tracingId).toList ++
  (members.ttl.map ExtensionEntry.ttl).toList ++
  (members.protocol.map ExtensionEntry.protocol).toList ++
  (members.filter.map ExtensionEntry.filter).toList ++
  (if members.dataMessageType ≠ .unknown then
    [ExtensionEntry.dataMessageType members.dataMessageType]
  else []) ++
  (if members.isPartial then [ExtensionEntry.isPartial members.isPartial] else [])

theorem write_eq (members : ExtensionMembers) :
    members.write =
      .mapHeader members.entries.length ::
        members.entries.flatMap ExtensionEntry.write := by
  obtain ⟨tracingId, ttl, protocol, filter, dataMessageType, isPartial⟩ := members
  by_cases typed : dataMessageType = .unknown
  · cases tracingId <;> cases ttl <;> cases protocol <;> cases filter <;>
      cases isPartial <;>
      simp [write, written, writeMember, entries, typed, ExtensionEntry.write]
  · cases tracingId <;> cases ttl <;> cases protocol <;> cases filter <;>
      cases isPartial <;>
      simp [write, written, writeMember, entries, typed, ExtensionEntry.write]

/-- Setting the written members restores them. The protocol may be set before:
a completion message carries it as a field too. -/
theorem foldl_entries (members : ExtensionMembers) {protocol : Option String}
    (agrees : protocol = none ∨ protocol = members.protocol) :
    members.entries.foldl ExtensionEntry.apply { protocol := protocol } = members := by
  obtain ⟨tracingId, ttl, own, filter, dataMessageType, isPartial⟩ := members
  simp only [entries, List.foldl_append]
  cases tracingId <;> cases ttl <;> cases filter <;> cases isPartial <;>
    by_cases typed : dataMessageType = .unknown <;>
    cases own <;> rcases agrees with rfl | rfl <;>
    simp [typed, ExtensionEntry.apply]

/-- A map written by a class is read back by it. -/
theorem reads_read {mp : MessagePack} (lawful : mp.Lawful)
    (support : ExtensionSupport) (members : ExtensionMembers)
    (supported : ∀ entry ∈ members.entries, entry.SupportedBy support)
    {protocol : Option String}
    (agrees : protocol = none ∨ protocol = members.protocol) :
    mp.Reads (read mp support { protocol := protocol }) members.write members := by
  have loop := ExtensionEntry.reads_readEntries lawful members.entries supported
    { protocol := protocol }
  rw [members.foldl_entries agrees] at loop
  rw [write_eq]
  exact lawful.reads_mapHeader _ (by rw [ExtensionEntry.length_flatMap_write]) loop

end ExtensionMembers

end AzureSignalR.Protocol
