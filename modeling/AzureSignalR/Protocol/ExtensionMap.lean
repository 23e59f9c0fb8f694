import AzureSignalR.Protocol.ExtensionMembers
import AzureSignalR.Protocol.MessagePackValues

/-!
Contract: extension maps that another version has written.

Owns: maps with entries a class does not support, how much of such a map
`ReadExtensionMembers` takes off the stream, and for which maps it takes exactly
the map.

Does not own: where in a message the map stands. The header, a key and a value are
given by their bytes, so that each may come in any of its encodings, and a key may
be an integer that is no `int`.
-/

set_option autoImplicit false

namespace AzureSignalR.Protocol

open Library ExtensionMembers MessagePackFormat

/-! ## Entries -/

namespace ExtensionMembers

/-- The keys of the protocol. -/
def knownKeys : List Int32 :=
  [tracingIdKey, ttlKey, protocolKey, filterKey, dataMessageTypeKey, isPartialKey]

end ExtensionMembers

/-- The keys of the interfaces a class implements. -/
def ExtensionSupport.keys (support : ExtensionSupport) : List Int32 :=
  (if support.tracingId then [tracingIdKey] else []) ++
  (if support.ttl then [ttlKey] else []) ++
  (if support.protocol then [protocolKey] else []) ++
  (if support.filter then [filterKey] else []) ++
  (if support.dataMessageType then [dataMessageTypeKey] else []) ++
  (if support.isPartial then [isPartialKey] else [])

/-- The members of the interfaces a class implements; the others are as they are in a
message without extension members. -/
def ExtensionMembers.restrict (support : ExtensionSupport) (members : ExtensionMembers) :
    ExtensionMembers where
  tracingId := bif support.tracingId then members.tracingId else none
  ttl := bif support.ttl then members.ttl else none
  protocol := bif support.protocol then members.protocol else none
  filter := bif support.filter then members.filter else none
  dataMessageType := bif support.dataMessageType then members.dataMessageType else .unknown
  isPartial := bif support.isPartial then members.isPartial else false

/-- What an entry of an extension map stands for: a supported member with its value, or
a key the class does not support. -/
inductive MapMember where
  | tracingId (value : UInt64)
  | ttl (value : Int32)
  | protocol (value : Option String)
  | filter (value : Option String)
  | dataMessageType (value : DataMessageType)
  | isPartial (value : Bool)
  | ignored (key : Int)
deriving DecidableEq, Repr

namespace MapMember

def key : MapMember → Int
  | tracingId _ => tracingIdKey.toInt
  | ttl _ => ttlKey.toInt
  | protocol _ => protocolKey.toInt
  | filter _ => filterKey.toInt
  | dataMessageType _ => dataMessageTypeKey.toInt
  | isPartial _ => isPartialKey.toInt
  | ignored key => key

def isIgnored : MapMember → Bool
  | ignored _ => true
  | tracingId _ | ttl _ | protocol _ | filter _ | dataMessageType _ | isPartial _ => false

/-- What the entry is to set. -/
def apply (members : ExtensionMembers) : MapMember → ExtensionMembers
  | tracingId value => { members with tracingId := some value }
  | ttl value => { members with ttl := some value }
  | protocol value => { members with protocol := value }
  | filter value => { members with filter := value }
  | dataMessageType value => { members with dataMessageType := value }
  | isPartial value => { members with isPartial := value }
  | ignored _ => members

/-- The bytes are an encoding of the value, and the class supports the member; a
key that it does not support may have any value. -/
def Encodes (mp : MessagePack) (support : ExtensionSupport) (encoded : Bytes) :
    MapMember → Prop
  | tracingId value => support.tracingId = true ∧ mp.readUInt64.Consumes encoded value
  | ttl value => support.ttl = true ∧ mp.readInt32.Consumes encoded value
  | protocol value => support.protocol = true ∧ mp.readString.Consumes encoded value
  | filter value => support.filter = true ∧ mp.readString.Consumes encoded value
  | dataMessageType value =>
      support.dataMessageType = true ∧ mp.readInt32.Consumes encoded value.value
  | isPartial value => support.isPartial = true ∧ mp.readBoolean.Consumes encoded value
  | ignored key => (∀ supported ∈ support.keys, key ≠ supported.toInt) ∧ WellFormed encoded

/-- A key of the protocol that the class does not support. -/
def Unread (member : MapMember) : Prop :=
  member.isIgnored = true ∧ ∃ known ∈ knownKeys, member.key = known.toInt

instance (member : MapMember) : Decidable member.Unread :=
  inferInstanceAs (Decidable (_ ∧ _))

/-- The key is an `int`, and none that is left unread. -/
def Readable (member : MapMember) : Prop := FitsInt32 member.key ∧ ¬ member.Unread

instance (member : MapMember) : Decidable member.Readable :=
  inferInstanceAs (Decidable (_ ∧ _))

theorem readable_of_not_ignored {member : MapMember} (supported : member.isIgnored = false) :
    member.Readable := by
  have notUnread : ¬ member.Unread := by
    intro unread
    rw [unread.1] at supported
    cases supported
  cases member with
  | tracingId | ttl | protocol | filter | dataMessageType | isPartial =>
      exact ⟨⟨Int32.le_toInt _, Int32.toInt_lt _⟩, notUnread⟩
  | ignored => cases supported

/-- An entry sets no member of another interface. -/
theorem restrict_apply {mp : MessagePack} {support : ExtensionSupport} {encoded : Bytes}
    {member : MapMember} (encodes : member.Encodes mp support encoded)
    {members : ExtensionMembers} (kept : members.restrict support = members) :
    (member.apply members).restrict support = member.apply members := by
  rw [ExtensionMembers.ext_iff] at kept ⊢
  obtain ⟨tracingId, ttl, protocol, filter, dataMessageType, isPartial⟩ := kept
  cases member with
  | tracingId value =>
      have supported : support.tracingId = true := encodes.1
      exact ⟨congrArg (cond · _ _) supported, ttl, protocol, filter, dataMessageType, isPartial⟩
  | ttl value =>
      have supported : support.ttl = true := encodes.1
      exact ⟨tracingId, congrArg (cond · _ _) supported, protocol, filter, dataMessageType,
        isPartial⟩
  | protocol value =>
      have supported : support.protocol = true := encodes.1
      exact ⟨tracingId, ttl, congrArg (cond · _ _) supported, filter, dataMessageType, isPartial⟩
  | filter value =>
      have supported : support.filter = true := encodes.1
      exact ⟨tracingId, ttl, protocol, congrArg (cond · _ _) supported, dataMessageType,
        isPartial⟩
  | dataMessageType value =>
      have supported : support.dataMessageType = true := encodes.1
      exact ⟨tracingId, ttl, protocol, filter, congrArg (cond · _ _) supported, isPartial⟩
  | isPartial value =>
      have supported : support.isPartial = true := encodes.1
      exact ⟨tracingId, ttl, protocol, filter, dataMessageType, congrArg (cond · _ _) supported⟩
  | ignored key => exact ⟨tracingId, ttl, protocol, filter, dataMessageType, isPartial⟩

end MapMember

/-- The bytes of a key and of a value, and what they stand for. -/
structure MapEntry where
  keyBytes : Bytes
  encoded : Bytes
  member : MapMember
deriving DecidableEq, Repr

namespace MapEntry

def bytes (entry : MapEntry) : Bytes := entry.keyBytes ++ entry.encoded

/-- The key is written as an integer, in any of its forms. -/
def Valid (mp : MessagePack) (support : ExtensionSupport) (entry : MapEntry) : Prop :=
  IntegerBytes entry.member.key entry.keyBytes ∧ entry.member.Encodes mp support entry.encoded

end MapEntry

/-- An extension map in its encoding, as a class with this support may find it. -/
structure ExtensionMap (mp : MessagePack) (support : ExtensionSupport) where
  header : Bytes
  entries : List MapEntry
  isHeader : SizeBytes mapCodes entries.length header
  valid : ∀ entry ∈ entries, entry.Valid mp support
  short : (entries.flatMap MapEntry.bytes).length < 2 ^ 31

namespace ExtensionMap

variable {mp : MessagePack} {support : ExtensionSupport}

def bytes (map : ExtensionMap mp support) : Bytes :=
  map.header ++ map.entries.flatMap MapEntry.bytes

/-- The members behind the map: its entries set theirs in order. -/
def members (map : ExtensionMap mp support) (initial : ExtensionMembers) : ExtensionMembers :=
  map.entries.foldl (fun members entry => entry.member.apply members) initial

def Readable (map : ExtensionMap mp support) : Prop :=
  ∀ entry ∈ map.entries, entry.member.Readable

/-! ### Maps without the ignored entries -/

theorem length_entries_le {entries : List MapEntry}
    (valid : ∀ entry ∈ entries, entry.Valid mp support) :
    entries.length ≤ (entries.flatMap MapEntry.bytes).length := by
  induction entries with
  | nil => exact Nat.le_refl 0
  | cons entry entries inductionHypothesis =>
      have key := (valid entry List.mem_cons_self).1.length_pos
      have tail := inductionHypothesis fun other member =>
        valid other (List.mem_cons_of_mem _ member)
      rw [List.flatMap_cons, MapEntry.bytes, List.length_append, List.length_append,
        List.length_cons]
      omega

/-- A map of some entries of a map, with the header that the library writes. -/
def filter (map : ExtensionMap mp support) (keep : MapEntry → Bool) :
    ExtensionMap mp support where
  header := mapCodes.write (map.entries.filter keep).length
  entries := map.entries.filter keep
  isHeader := by
    have few := length_entries_le map.valid
    have fewer := (map.entries.filter_sublist (p := keep)).length_le
    have short := map.short
    exact sizeBytes_write mapCodes (by omega)
  valid entry member := map.valid entry (List.mem_of_mem_filter member)
  short := Nat.lt_of_le_of_lt (List.filter_sublist.flatMap _).length_le map.short

/-- The map without the entries that are to be ignored. -/
def supported (map : ExtensionMap mp support) : ExtensionMap mp support :=
  map.filter fun entry => !entry.member.isIgnored

/-- The map without entries. -/
def empty (mp : MessagePack) (support : ExtensionSupport) : ExtensionMap mp support where
  header := mapCodes.write 0
  entries := []
  isHeader := sizeBytes_write mapCodes (by decide)
  valid _ member := by cases member
  short := by decide

theorem members_supported (map : ExtensionMap mp support) (initial : ExtensionMembers) :
    map.supported.members initial = map.members initial := by
  have folds : ∀ (entries : List MapEntry) (members : ExtensionMembers),
      (entries.filter fun entry => !entry.member.isIgnored).foldl
          (fun members entry => entry.member.apply members) members =
        entries.foldl (fun members entry => entry.member.apply members) members := by
    intro entries
    induction entries with
    | nil => exact fun _ => rfl
    | cons entry entries inductionHypothesis =>
        intro members
        obtain ⟨keyBytes, encoded, member⟩ := entry
        cases member with
        | ignored key => exact inductionHypothesis members
        | tracingId | ttl | protocol | filter | dataMessageType | isPartial =>
            exact inductionHypothesis _
  exact folds map.entries initial

theorem readable_supported (map : ExtensionMap mp support) : map.supported.Readable := by
  intro entry member
  have kept := (List.mem_filter.mp member).2
  rw [Bool.not_eq_true'] at kept
  exact MapMember.readable_of_not_ignored kept

/-- A map sets members of the interfaces of its class only. -/
theorem restrict_members (map : ExtensionMap mp support) {initial : ExtensionMembers}
    (kept : initial.restrict support = initial) :
    (map.members initial).restrict support = map.members initial := by
  have folds : ∀ (entries : List MapEntry) (members : ExtensionMembers),
      (∀ entry ∈ entries, entry.Valid mp support) → members.restrict support = members →
        (entries.foldl (fun members entry => entry.member.apply members) members).restrict
            support =
          entries.foldl (fun members entry => entry.member.apply members) members := by
    intro entries
    induction entries with
    | nil => exact fun _ _ same => same
    | cons entry entries inductionHypothesis =>
        intro members valid same
        refine inductionHypothesis _ (fun other member => valid other ?_) ?_
        · exact List.mem_cons_of_mem _ member
        · exact MapMember.restrict_apply (valid entry List.mem_cons_self).2 same
  exact folds map.entries initial map.valid kept

theorem readable_empty : (empty mp support).Readable := fun _ member => by cases member

end ExtensionMap

/-! ## Values in a map -/

section Skipping

variable {mp : MessagePack} (skips : mp.Skips)

/-- Pass over so many values. -/
def skipMany (mp : MessagePack) : Nat → Reader Unit
  | 0 => pure ()
  | count + 1 => mp.skip >>= fun _ => skipMany mp count

theorem run_skipMany_succ {count : Nat} {stream middle : Bytes}
    (skipped : mp.skip.run stream = .ok ((), middle)) :
    (skipMany mp (count + 1)).run stream = (skipMany mp count).run middle := by
  rw [skipMany, StateT.run_bind, skipped]
  rfl

theorem run_skipMany_add {first second : Nat} {stream middle : Bytes}
    (skipped : (skipMany mp first).run stream = .ok ((), middle)) :
    (skipMany mp (first + second)).run stream = (skipMany mp second).run middle := by
  induction first generalizing stream with
  | zero =>
      cases skipped
      rw [Nat.zero_add]
  | succ first inductionHypothesis =>
      rw [skipMany, StateT.run_bind] at skipped
      cases once : mp.skip.run stream with
      | error error =>
          rw [once] at skipped
          cases skipped
      | ok pair =>
          rw [once] at skipped
          rw [Nat.succ_add, run_skipMany_succ once]
          exact inductionHypothesis skipped

theorem consumes_skip_of_consumes {α : Type} {reader : Reader α} {encoded : Bytes} {value : α}
    (law : ∀ {stream value rest}, reader.run stream = .ok (value, rest) →
      mp.skip.run stream = .ok ((), rest))
    (reads : reader.Consumes encoded value) : mp.skip.Consumes encoded () :=
  fun rest => law (reads rest)

include skips

/-- Nothing is left behind a stream: a value takes some of it. -/
theorem ne_nil_of_consumes_skip {encoded : Bytes} (skipped : mp.skip.Consumes encoded ()) :
    encoded ≠ [] := by
  rintro rfl
  obtain ⟨error, fails⟩ := skips.skip_nil
  have ran := skipped []
  rw [List.append_nil, fails] at ran
  cases ran

/-- The value of an entry is one value. -/
theorem MapMember.Encodes.consumes_skip {support : ExtensionSupport} {member : MapMember}
    {encoded : Bytes} (encodes : member.Encodes mp support encoded)
    (short : encoded.length < 2 ^ 31) : mp.skip.Consumes encoded () := by
  cases member with
  | tracingId value => exact consumes_skip_of_consumes skips.skip_readUInt64 encodes.2
  | ttl value => exact consumes_skip_of_consumes skips.skip_readInt32 encodes.2
  | protocol value => exact consumes_skip_of_consumes skips.skip_readString encodes.2
  | filter value => exact consumes_skip_of_consumes skips.skip_readString encodes.2
  | dataMessageType value => exact consumes_skip_of_consumes skips.skip_readInt32 encodes.2
  | isPartial value => exact consumes_skip_of_consumes skips.skip_readBoolean encodes.2
  | ignored key => exact skips.skip_value encoded encodes.2 short

/-- And so is its key. -/
theorem MapEntry.Valid.consumes_skip_key {support : ExtensionSupport} {entry : MapEntry}
    (valid : entry.Valid mp support) : mp.skip.Consumes entry.keyBytes () := by
  have few := valid.1.length_le
  exact skips.skip_value entry.keyBytes valid.1.wellFormed (by omega)

/-! ## One entry -/

/-- The `switch` takes one value at most. -/
theorem run_readMember {support : ExtensionSupport} {members result : ExtensionMembers}
    {key : Int32} {stream rest : Bytes}
    (ran : (readMember mp support members key).run stream = .ok (result, rest)) :
    ∃ count ≤ 1, (skipMany mp count).run stream = .ok ((), rest) := by
  have none : ∀ {result : ExtensionMembers},
      (pure members : Reader ExtensionMembers).run stream = .ok (result, rest) →
        ∃ count ≤ 1, (skipMany mp count).run stream = .ok ((), rest) := by
    intro result unread
    cases unread
    exact ⟨0, Nat.zero_le 1, rfl⟩
  have one : ∀ {α : Type} {reader : Reader α} {finish : α → ExtensionMembers},
      (∀ {stream value rest}, reader.run stream = .ok (value, rest) →
        mp.skip.run stream = .ok ((), rest)) →
      (reader >>= fun value => pure (finish value)).run stream = .ok (result, rest) →
        ∃ count ≤ 1, (skipMany mp count).run stream = .ok ((), rest) := by
    intro α reader finish law read
    obtain ⟨value, middle, taken, finished⟩ := MessagePackFormat.run_of_run_bind read
    cases finished
    refine ⟨1, Nat.le_refl 1, ?_⟩
    rw [run_skipMany_succ (law taken)]
    rfl
  unfold readMember at ran
  split_ifs at ran
  · exact one skips.skip_readUInt64 ran
  · exact none ran
  · exact one skips.skip_readInt32 ran
  · exact none ran
  · exact one skips.skip_readString ran
  · exact none ran
  · exact one skips.skip_readString ran
  · exact none ran
  · exact one skips.skip_readInt32 ran
  · exact none ran
  · exact one skips.skip_readBoolean ran
  · exact none ran
  · exact one (fun skipped => skipped) ran

omit skips in
/-- The value of a key that the class does not support is left unread when the
protocol knows the key. -/
theorem readMember_unread {support : ExtensionSupport} {key : Int32} (known : key ∈ knownKeys)
    (unsupported : key ∉ support.keys) (members : ExtensionMembers) :
    readMember mp support members key = pure members := by
  simp only [knownKeys, List.mem_cons, List.not_mem_nil, or_false] at known
  unfold readMember
  rcases known with rfl | rfl | rfl | rfl | rfl | rfl
  · rw [if_pos rfl, if_neg]
    exact fun supported => unsupported (by simp [ExtensionSupport.keys, supported])
  · rw [if_neg (by decide), if_pos rfl, if_neg]
    exact fun supported => unsupported (by simp [ExtensionSupport.keys, supported])
  · rw [if_neg (by decide), if_neg (by decide), if_pos rfl, if_neg]
    exact fun supported => unsupported (by simp [ExtensionSupport.keys, supported])
  · rw [if_neg (by decide), if_neg (by decide), if_neg (by decide), if_pos rfl, if_neg]
    exact fun supported => unsupported (by simp [ExtensionSupport.keys, supported])
  · rw [if_neg (by decide), if_neg (by decide), if_neg (by decide), if_neg (by decide),
      if_pos rfl, if_neg]
    exact fun supported => unsupported (by simp [ExtensionSupport.keys, supported])
  · rw [if_neg (by decide), if_neg (by decide), if_neg (by decide), if_neg (by decide),
      if_neg (by decide), if_pos rfl, if_neg]
    exact fun supported => unsupported (by simp [ExtensionSupport.keys, supported])

omit skips in
theorem readMember_unknown {key : Int32} (unknown : key ∉ knownKeys)
    (support : ExtensionSupport) (members : ExtensionMembers) :
    readMember mp support members key = mp.skip >>= fun _ => pure members := by
  simp only [knownKeys, List.mem_cons, List.not_mem_nil, or_false, not_or] at unknown
  obtain ⟨notTracingId, notTtl, notProtocol, notFilter, notType, notPartial⟩ := unknown
  unfold readMember
  rw [if_neg notTracingId, if_neg notTtl, if_neg notProtocol, if_neg notFilter, if_neg notType,
    if_neg notPartial]

omit skips in
/-- A key that is left unread is one of the keys in the `switch`. -/
theorem MapMember.Unread.key_eq {member : MapMember} (unread : member.Unread) :
    Int32.ofInt member.key ∈ knownKeys := by
  obtain ⟨-, known, isKnown, same⟩ := unread
  rw [same, Int32.ofInt_toInt]
  exact isKnown

omit skips in
theorem MapMember.Unread.unsupported {support : ExtensionSupport} {member : MapMember}
    {encoded : Bytes} (unread : member.Unread) (encodes : member.Encodes mp support encoded) :
    Int32.ofInt member.key ∉ support.keys := by
  obtain ⟨isIgnored, known, isKnown, same⟩ := unread
  cases member with
  | ignored key =>
      rw [same, Int32.ofInt_toInt]
      exact fun supported => encodes.1 known supported same
  | tracingId | ttl | protocol | filter | dataMessageType | isPartial => cases isIgnored

omit skips in
/-- An `int` that is no key of the protocol is none in the `switch`. -/
theorem not_mem_knownKeys {key : Int} (readable : (MapMember.ignored key).Readable) :
    Int32.ofInt key ∉ knownKeys := by
  intro known
  refine readable.2 ⟨rfl, Int32.ofInt key, known, ?_⟩
  exact (Int32.toInt_ofInt_of_le readable.1.1 readable.1.2).symm

omit skips in
theorem consumes_pure {α β : Type} {reader : Reader α} {finish : α → β} {encoded : Bytes}
    {value : α} (reads : reader.Consumes encoded value) :
    (reader >>= fun read => pure (finish read)).Consumes encoded (finish value) := by
  rw [← map_eq_pure_bind]
  exact reads.map finish

/-- One entry is read as it should be, unless it is one that is left unread. -/
theorem consumes_readMember {support : ExtensionSupport} {member : MapMember} {encoded : Bytes}
    (encodes : member.Encodes mp support encoded) (short : encoded.length < 2 ^ 31)
    (readable : member.Readable) (members : ExtensionMembers) :
    (readMember mp support members (Int32.ofInt member.key)).Consumes encoded
      (member.apply members) := by
  cases member with
  | tracingId value =>
      obtain ⟨supported, reads⟩ := encodes
      rw [readMember, MapMember.key, Int32.ofInt_toInt, if_pos rfl, if_pos supported]
      exact consumes_pure reads
  | ttl value =>
      obtain ⟨supported, reads⟩ := encodes
      rw [readMember, MapMember.key, Int32.ofInt_toInt, if_neg (by decide), if_pos rfl,
        if_pos supported]
      exact consumes_pure reads
  | protocol value =>
      obtain ⟨supported, reads⟩ := encodes
      rw [readMember, MapMember.key, Int32.ofInt_toInt, if_neg (by decide), if_neg (by decide),
        if_pos rfl, if_pos supported]
      exact consumes_pure reads
  | filter value =>
      obtain ⟨supported, reads⟩ := encodes
      rw [readMember, MapMember.key, Int32.ofInt_toInt, if_neg (by decide), if_neg (by decide),
        if_neg (by decide), if_pos rfl, if_pos supported]
      exact consumes_pure reads
  | dataMessageType value =>
      obtain ⟨supported, reads⟩ := encodes
      rw [readMember, MapMember.key, Int32.ofInt_toInt, if_neg (by decide), if_neg (by decide),
        if_neg (by decide), if_neg (by decide), if_pos rfl, if_pos supported]
      exact consumes_pure reads
  | isPartial value =>
      obtain ⟨supported, reads⟩ := encodes
      rw [readMember, MapMember.key, Int32.ofInt_toInt, if_neg (by decide), if_neg (by decide),
        if_neg (by decide), if_neg (by decide), if_neg (by decide), if_pos rfl, if_pos supported]
      exact consumes_pure reads
  | ignored key =>
      rw [MapMember.key, readMember_unknown (not_mem_knownKeys readable)]
      exact consumes_pure (encodes.consumes_skip skips short)

/-! ## The loop -/

/-- The loop takes two values for each entry at most. -/
theorem run_readEntries {support : ExtensionSupport} {count : Nat}
    {members result : ExtensionMembers} {stream rest : Bytes}
    (ran : (readEntries mp support count members).run stream = .ok (result, rest)) :
    ∃ taken ≤ 2 * count, (skipMany mp taken).run stream = .ok ((), rest) := by
  induction count generalizing members stream with
  | zero =>
      cases ran
      exact ⟨0, Nat.le_refl 0, rfl⟩
  | succ count inductionHypothesis =>
      obtain ⟨key, behindKey, keyRead, ran⟩ := MessagePackFormat.run_of_run_bind ran
      obtain ⟨changed, behindValue, valueRead, ran⟩ := MessagePackFormat.run_of_run_bind ran
      obtain ⟨one, atMostOne, skippedValue⟩ := run_readMember skips valueRead
      obtain ⟨taken, enough, skippedRest⟩ := inductionHypothesis ran
      refine ⟨one + taken + 1, by omega, ?_⟩
      rw [run_skipMany_succ (skips.skip_readInt32 keyRead), run_skipMany_add skippedValue]
      exact skippedRest

/-- The entries are two values each. -/
theorem run_skipMany_entries {support : ExtensionSupport} {entries : List MapEntry}
    (valid : ∀ entry ∈ entries, entry.Valid mp support)
    (short : ∀ entry ∈ entries, entry.encoded.length < 2 ^ 31) (rest : Bytes) :
    (skipMany mp (2 * entries.length)).run (entries.flatMap MapEntry.bytes ++ rest) =
      .ok ((), rest) := by
  induction entries with
  | nil => rfl
  | cons entry entries inductionHypothesis =>
      have isValid := valid entry List.mem_cons_self
      have skippedKey := isValid.consumes_skip_key skips
        (entry.encoded ++ (entries.flatMap MapEntry.bytes ++ rest))
      have skippedValue := isValid.2.consumes_skip skips (short entry List.mem_cons_self)
        (entries.flatMap MapEntry.bytes ++ rest)
      have skippedRest := inductionHypothesis
        (fun other member => valid other (List.mem_cons_of_mem _ member))
        (fun other member => short other (List.mem_cons_of_mem _ member))
      rw [List.flatMap_cons, MapEntry.bytes, List.append_assoc, List.append_assoc,
        List.length_cons, Nat.mul_succ, run_skipMany_succ skippedKey,
        run_skipMany_succ skippedValue]
      exact skippedRest

variable (forms : mp.ReadsForms)
include forms

/-- When a value is left unread, the loop ends with fewer values taken than the
map has; at a key that is no `int` it does not end. -/
theorem run_readEntries_unreadable {support : ExtensionSupport} {entries : List MapEntry}
    (valid : ∀ entry ∈ entries, entry.Valid mp support)
    (short : ∀ entry ∈ entries, entry.encoded.length < 2 ^ 31)
    (unreadable : ∃ entry ∈ entries, ¬ entry.member.Readable) {members result : ExtensionMembers}
    {rest final : Bytes}
    (ran : (readEntries mp support entries.length members).run
      (entries.flatMap MapEntry.bytes ++ rest) = .ok (result, final)) :
    ∃ taken < 2 * entries.length,
      (skipMany mp taken).run (entries.flatMap MapEntry.bytes ++ rest) = .ok ((), final) := by
  induction entries generalizing members with
  | nil =>
      obtain ⟨entry, member, -⟩ := unreadable
      cases member
  | cons entry entries inductionHypothesis =>
      obtain ⟨isKey, encodes⟩ := valid entry List.mem_cons_self
      have isShort := short entry List.mem_cons_self
      rw [List.flatMap_cons, MapEntry.bytes, List.append_assoc, List.append_assoc] at ran ⊢
      rw [List.length_cons, readEntries, StateT.run_bind] at ran
      by_cases fits : FitsInt32 entry.member.key
      swap
      · obtain ⟨error, fails⟩ := forms.readInt32_overflow isKey fits
          (entry.encoded ++ (entries.flatMap MapEntry.bytes ++ rest))
        rw [fails] at ran
        cases ran
      have keyRead := forms.readInt32_integer isKey fits
        (entry.encoded ++ (entries.flatMap MapEntry.bytes ++ rest))
      rw [keyRead] at ran
      by_cases here : entry.member.Unread
      · -- From here on the loop is one value behind.
        change StateT.run (readMember mp support members _ >>= _) _ = _ at ran
        rw [readMember_unread here.key_eq (here.unsupported encodes), pure_bind] at ran
        obtain ⟨taken, atMost, skipped⟩ := run_readEntries skips ran
        refine ⟨taken + 1, by rw [List.length_cons]; omega, ?_⟩
        rw [run_skipMany_succ (skips.skip_readInt32 keyRead)]
        exact skipped
      · have readable : entry.member.Readable := ⟨fits, here⟩
        have later : ∃ entry ∈ entries, ¬ entry.member.Readable := by
          obtain ⟨other, member, isUnreadable⟩ := unreadable
          rcases List.mem_cons.mp member with rfl | behind
          · exact absurd readable isUnreadable
          · exact ⟨other, behind, isUnreadable⟩
        have valueRead := consumes_readMember skips encodes isShort readable members
          (entries.flatMap MapEntry.bytes ++ rest)
        change StateT.run (readMember mp support members _ >>= _) _ = _ at ran
        rw [StateT.run_bind, valueRead] at ran
        obtain ⟨taken, fewer, skipped⟩ := inductionHypothesis
          (fun other member => valid other (List.mem_cons_of_mem _ member))
          (fun other member => short other (List.mem_cons_of_mem _ member)) later ran
        have skippedValue := encodes.consumes_skip skips isShort
          (entries.flatMap MapEntry.bytes ++ rest)
        refine ⟨taken + 1 + 1, by rw [List.length_cons]; omega, ?_⟩
        rw [run_skipMany_succ (skips.skip_readInt32 keyRead), run_skipMany_succ skippedValue]
        exact skipped

theorem consumes_readEntries {support : ExtensionSupport} {entries : List MapEntry}
    (valid : ∀ entry ∈ entries, entry.Valid mp support)
    (short : ∀ entry ∈ entries, entry.encoded.length < 2 ^ 31)
    (readable : ∀ entry ∈ entries, entry.member.Readable) (members : ExtensionMembers) :
    (readEntries mp support entries.length members).Consumes (entries.flatMap MapEntry.bytes)
      (entries.foldl (fun members entry => entry.member.apply members) members) := by
  induction entries generalizing members with
  | nil => exact .pure_nil members
  | cons entry entries inductionHypothesis =>
      obtain ⟨isKey, encodes⟩ := valid entry List.mem_cons_self
      have isReadable := readable entry List.mem_cons_self
      have key := forms.readInt32_integer isKey isReadable.1
      have value := consumes_readMember skips encodes (short entry List.mem_cons_self) isReadable
        members
      have tail := inductionHypothesis
        (fun other member => valid other (List.mem_cons_of_mem _ member))
        (fun other member => short other (List.mem_cons_of_mem _ member))
        (fun other member => readable other (List.mem_cons_of_mem _ member))
        (entry.member.apply members)
      rw [List.flatMap_cons, MapEntry.bytes, List.append_assoc]
      exact key.bind (value.bind tail)

/-! ## The map -/

omit forms in
theorem length_entries {support : ExtensionSupport} {entries : List MapEntry}
    (valid : ∀ entry ∈ entries, entry.Valid mp support)
    (short : ∀ entry ∈ entries, entry.encoded.length < 2 ^ 31) :
    2 * entries.length ≤ (entries.flatMap MapEntry.bytes).length := by
  induction entries with
  | nil => exact Nat.le_refl 0
  | cons entry entries inductionHypothesis =>
      have tail := inductionHypothesis
        (fun other member => valid other (List.mem_cons_of_mem _ member))
        (fun other member => short other (List.mem_cons_of_mem _ member))
      obtain ⟨isKey, encodes⟩ := valid entry List.mem_cons_self
      have key := isKey.length_pos
      have value : 0 < entry.encoded.length :=
        List.length_pos_iff.mpr (ne_nil_of_consumes_skip skips
          (encodes.consumes_skip skips (short entry List.mem_cons_self)))
      rw [List.flatMap_cons, MapEntry.bytes, List.length_append, List.length_append,
        List.length_cons]
      omega

namespace ExtensionMap

variable {support : ExtensionSupport} (map : ExtensionMap mp support)

omit skips forms in
theorem short_entry : ∀ entry ∈ map.entries, entry.encoded.length < 2 ^ 31 := by
  intro entry member
  have short := map.short
  obtain ⟨before, after, split⟩ := List.append_of_mem member
  rw [split, List.flatMap_append, List.flatMap_cons, MapEntry.bytes] at short
  simp only [List.length_append] at short
  omega

/-- The header, then the loop. -/
theorem run_read (members : ExtensionMembers) (rest : Bytes) :
    (ExtensionMembers.read mp support members).run (map.bytes ++ rest) =
      (readEntries mp support map.entries.length members).run
        (map.entries.flatMap MapEntry.bytes ++ rest) := by
  have enough := length_entries skips map.valid map.short_entry
  have header := forms.readMapHeader_header map.isHeader
    (map.entries.flatMap MapEntry.bytes ++ rest) (by rw [List.length_append]; omega)
  rw [ExtensionMembers.read, bytes, List.append_assoc, StateT.run_bind, header]
  rfl

theorem consumes_read (readable : map.Readable) (initial : ExtensionMembers) :
    (ExtensionMembers.read mp support initial).Consumes map.bytes (map.members initial) := by
  intro rest
  rw [map.run_read skips forms]
  exact consumes_readEntries skips forms map.valid map.short_entry readable initial rest

/-- A map that is not readable is not taken off exactly, whatever is read. -/
theorem readable_of_consumes {initial result : ExtensionMembers}
    (reads : (ExtensionMembers.read mp support initial).Consumes map.bytes result) :
    map.Readable := by
  intro entry member
  by_contra unreadable
  have ran := reads []
  rw [map.run_read skips forms] at ran
  obtain ⟨taken, fewer, skipped⟩ := run_readEntries_unreadable skips forms map.valid
    map.short_entry ⟨entry, member, unreadable⟩ ran
  have all := run_skipMany_entries skips map.valid map.short_entry []
  -- The values that were not taken would have to come from the empty stream.
  obtain ⟨more, isMore⟩ := Nat.exists_eq_add_of_lt fewer
  rw [isMore, Nat.add_assoc, run_skipMany_add skipped, skipMany, StateT.run_bind] at all
  obtain ⟨error, fails⟩ := skips.skip_nil
  rw [fails] at all
  cases all

end ExtensionMap

end Skipping

end AzureSignalR.Protocol
