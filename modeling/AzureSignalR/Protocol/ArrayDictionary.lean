import AzureSignalR.Library.FiniteMap
import AzureSignalR.Protocol.MessagePackUtils
import Mathlib.Data.List.Induction
import Mathlib.Data.List.Perm.Basic
import Mathlib.Order.CompletePartialOrder

/-!
Contract: `ArrayDictionary` as a finite map under its comparer.

Owns: its operations and views over two arrays and a counter, for which sequences of `Add` and
indexer-set operations all views describe one map, and that the entries and free slots of the
payload reader are those of the arrays.

Does not own: `Clear` and `Remove`, which throw. The comparers are equivalences.
-/

set_option autoImplicit false

namespace AzureSignalR.Protocol.Dictionaries

open Library.FiniteMap

inductive DictionaryFailure where
  /-- The dictionary is at capacity. -/
  | invalidOperation
  | keyNotFound
deriving DecidableEq, Repr

structure ArrayDictionary (κ ν : Type) (capacity : Nat) where
  keys : List κ
  values : List ν
  count : Nat
  keys_length : keys.length = capacity
  values_length : values.length = capacity
  count_le : count ≤ capacity

namespace ArrayDictionary

section Operations

variable {κ ν : Type} {capacity : Nat}

/-- The arrays are filled with the defaults of their types. -/
def new [Inhabited κ] [Inhabited ν] (capacity : Nat) : ArrayDictionary κ ν capacity where
  keys := List.replicate capacity default
  values := List.replicate capacity default
  count := 0
  keys_length := List.length_replicate
  values_length := List.length_replicate
  count_le := Nat.zero_le capacity

variable (dictionary : ArrayDictionary κ ν capacity)

/-- The pairs below the count, in the order in which the loops go over them. -/
def entries : List (κ × ν) :=
  (dictionary.keys.take dictionary.count).zip (dictionary.values.take dictionary.count)

/-- `Keys`, which is the whole array. -/
def getKeys : List κ := dictionary.keys

/-- `Values`, which is the whole array. -/
def getValues : List ν := dictionary.values

def add (key : κ) (value : ν) : Option DictionaryFailure × ArrayDictionary κ ν capacity :=
  if isFree : dictionary.count < capacity then
    (none,
      { keys := dictionary.keys.set dictionary.count key
        values := dictionary.values.set dictionary.count value
        count := dictionary.count + 1
        keys_length := List.length_set.trans dictionary.keys_length
        values_length := List.length_set.trans dictionary.values_length
        count_le := isFree })
  else (some .invalidOperation, dictionary)

/-- `MoveNext` and `Current` until the end, from the position behind `_position`; `left` bounds the
moves. -/
def enumerateFrom : (left : Nat) → (position : Nat) → List (κ × ν)
  | 0, _ => []
  | left + 1, position =>
      if position < dictionary.count then
        match dictionary.keys[position]?, dictionary.values[position]? with
        | some key, some value => (key, value) :: enumerateFrom left (position + 1)
        | _, _ => []
      else []

/-- What `foreach` goes over. -/
def enumerate : List (κ × ν) := enumerateFrom dictionary (dictionary.count + 1) 0

/-- The loop of `CopyTo`, which throws outside the array. -/
def copyEntries : List (κ × ν) → List (κ × ν) → Nat → Option (List (κ × ν))
  | [], array, _ => some array
  | entry :: entries, array, index =>
      if index < array.length then copyEntries entries (array.set index entry) (index + 1)
      else none

def copyTo (array : List (κ × ν)) (arrayIndex : Nat) : Option (List (κ × ν)) :=
  copyEntries dictionary.entries array arrayIndex

variable [Setoid κ] [DecidableRel (α := κ) (· ≈ ·)] [Setoid ν] [DecidableRel (α := ν) (· ≈ ·)]

def contains (key : κ) (value : ν) : Bool :=
  dictionary.entries.any fun entry => key ≈ entry.1 ∧ value ≈ entry.2

omit [Setoid ν] [DecidableRel (α := ν) (· ≈ ·)]

def containsKey (key : κ) : Bool := dictionary.entries.any fun entry => key ≈ entry.1

def tryGetValue (key : κ) : Option ν :=
  (dictionary.entries.find? fun entry => key ≈ entry.1).map Prod.snd

/-- The indexer, read. -/
def getItem (key : κ) : Except DictionaryFailure ν :=
  match dictionary.tryGetValue key with
  | some value => .ok value
  | none => .error .keyNotFound

/-- The indexer, set. -/
def setItem (key : κ) (value : ν) : Option DictionaryFailure × ArrayDictionary κ ν capacity :=
  match (dictionary.keys.take dictionary.count).findIdx? fun stored => key ≈ stored with
  | some index =>
      (none,
        { dictionary with
          values := dictionary.values.set index value
          values_length := List.length_set.trans dictionary.values_length })
  | none => dictionary.add key value

end Operations

inductive Operation (κ ν : Type) where
  | add (key : κ) (value : ν)
  | set (key : κ) (value : ν)
deriving DecidableEq, Repr

section Runs

variable {κ ν : Type} {capacity : Nat}

def Operation.key : Operation κ ν → κ
  | .add key _ => key
  | .set key _ => key

variable [Setoid κ] [DecidableRel (α := κ) (· ≈ ·)]

def apply (dictionary : ArrayDictionary κ ν capacity) :
    Operation κ ν → Option DictionaryFailure × ArrayDictionary κ ν capacity
  | .add key value => dictionary.add key value
  | .set key value => dictionary.setItem key value

/-- The dictionary after some operations, the exceptions of which are caught. -/
def run [Inhabited κ] [Inhabited ν] (capacity : Nat) (operations : List (Operation κ ν)) :
    ArrayDictionary κ ν capacity :=
  operations.foldl (fun dictionary operation => (dictionary.apply operation).2) (new capacity)

/-! ## The map -/

/-- What an operation does to a finite map. -/
def follow (map : κ → Option ν) : Operation κ ν → κ → Option ν
  | .add key value => if (map key).isSome then map else write map key value
  | .set key value => write map key value

/-- The map after some operations. -/
def mapAfter (operations : List (Operation κ ν)) : κ → Option ν :=
  operations.foldl follow fun _ => none

/-- The keys of the operations, each once. -/
def distinctKeys (operations : List (Operation κ ν)) : List κ :=
  operations.foldl (fun keys operation =>
    if ∃ key ∈ keys, operation.key ≈ key then keys else keys ++ [operation.key]) []

/-- An `Add` of a key that the map has. -/
def Refused (map : κ → Option ν) (operation : Operation κ ν) : Prop :=
  ∃ key value, operation = .add key value ∧ (map key).isSome

variable [Setoid ν] [DecidableRel (α := ν) (· ≈ ·)]

/-- All views describe the map. -/
structure Describes (dictionary : ArrayDictionary κ ν capacity) (map : κ → Option ν) : Prop where
  once : Distinct dictionary.enumerate
  enumerator : ∀ key value, (∃ entry ∈ dictionary.enumerate, key ≈ entry.1 ∧ entry.2 = value) ↔
    map key = some value
  count : dictionary.count = dictionary.enumerate.length
  keys : dictionary.getKeys.Perm (dictionary.enumerate.map Prod.fst)
  values : dictionary.getValues.Perm (dictionary.enumerate.map Prod.snd)
  copyTo : ∀ array arrayIndex, arrayIndex + dictionary.count ≤ array.length →
    dictionary.copyTo array arrayIndex =
      some (array.take arrayIndex ++ dictionary.enumerate ++
        array.drop (arrayIndex + dictionary.count))
  containsKey : ∀ key, dictionary.containsKey key = (map key).isSome
  contains : ∀ key value, dictionary.contains key value = true ↔
    ∃ stored, map key = some stored ∧ value ≈ stored
  tryGetValue : ∀ key, dictionary.tryGetValue key = map key
  getItem : ∀ key, dictionary.getItem key =
    match map key with
    | some value => .ok value
    | none => .error .keyNotFound

/-- In the run, every operation does what the map does, and at its end all views describe the
map. -/
structure IsMap [Inhabited κ] [Inhabited ν] (capacity : Nat) (operations : List (Operation κ ν)) :
    Prop where
  refuses : ∀ earlier operation later, operations = earlier ++ operation :: later →
    Refused (mapAfter earlier) operation →
      ((run capacity earlier).apply operation).1 ≠ none ∧
        ((run capacity earlier).apply operation).2 = run capacity earlier
  accepts : ∀ earlier operation later, operations = earlier ++ operation :: later →
    ¬ Refused (mapAfter earlier) operation → ((run capacity earlier).apply operation).1 = none
  describes : Describes (run capacity operations) (mapAfter operations)

/-- No key is added twice, but for the adds that find the dictionary full. -/
def AddsOnce (capacity : Nat) (operations : List (Operation κ ν)) : Prop :=
  ∀ earlier key value later, operations = earlier ++ .add key value :: later →
    (∃ operation ∈ earlier, key ≈ operation.key) → (distinctKeys earlier).length = capacity

end Runs

/-! ## The arrays below the count -/

section Entries

variable {κ ν : Type} {capacity : Nat} (dictionary : ArrayDictionary κ ν capacity)

theorem length_take_keys : (dictionary.keys.take dictionary.count).length = dictionary.count := by
  rw [List.length_take, dictionary.keys_length]
  exact Nat.min_eq_left dictionary.count_le

theorem length_take_values : (dictionary.values.take dictionary.count).length =
    dictionary.count := by
  rw [List.length_take, dictionary.values_length]
  exact Nat.min_eq_left dictionary.count_le

@[simp] theorem length_entries : dictionary.entries.length = dictionary.count := by
  rw [entries, List.length_zip, length_take_keys, length_take_values]
  exact Nat.min_self _

theorem entries_fst : dictionary.entries.map Prod.fst = dictionary.keys.take dictionary.count := by
  rw [entries, List.map_fst_zip]
  rw [length_take_keys, length_take_values]

theorem entries_snd : dictionary.entries.map Prod.snd =
    dictionary.values.take dictionary.count := by
  rw [entries, List.map_snd_zip]
  rw [length_take_keys, length_take_values]

/-- An `Add` below the capacity. -/
theorem entries_add (key : κ) (value : ν) (isFree : dictionary.count < capacity) :
    (dictionary.add key value).1 = none ∧
      (dictionary.add key value).2.entries = dictionary.entries ++ [(key, value)] := by
  rw [add, dif_pos isFree]
  refine ⟨rfl, ?_⟩
  show ((dictionary.keys.set dictionary.count key).take (dictionary.count + 1)).zip
    ((dictionary.values.set dictionary.count value).take (dictionary.count + 1)) = _
  have keysAt : (dictionary.keys.set dictionary.count key)[dictionary.count]? = some key :=
    List.getElem?_set_self (by rw [dictionary.keys_length]; exact isFree)
  have valuesAt : (dictionary.values.set dictionary.count value)[dictionary.count]? = some value :=
    List.getElem?_set_self (by rw [dictionary.values_length]; exact isFree)
  rw [List.take_add_one, List.take_add_one, keysAt, valuesAt, List.take_set_of_le (Nat.le_refl _),
    List.take_set_of_le (Nat.le_refl _), List.zip_append, entries]
  · rfl
  · rw [length_take_keys, length_take_values]

/-- An `Add` at the capacity. -/
theorem add_full (key : κ) (value : ν) (isFull : dictionary.count = capacity) :
    dictionary.add key value = (some .invalidOperation, dictionary) := by
  rw [add, dif_neg (by omega)]

/-- What the payload reader has of a dictionary. -/
def toReader (comparer : κ → κ → Bool) : Protocol.ArrayDictionary κ ν where
  comparer := comparer
  entries := dictionary.entries
  free := capacity - dictionary.count

/-- `Add` of the reader's dictionary is the one of the arrays. -/
theorem add_toReader (comparer : κ → κ → Bool) (key : κ) (value : ν) :
    (dictionary.toReader comparer).add key value =
      if (dictionary.add key value).1 = none then
        .ok ((dictionary.add key value).2.toReader comparer)
      else .error (.invalidOperation
        ("ArrayDictionary is at capacity " ++ toString capacity)) := by
  by_cases isFree : dictionary.count < capacity
  · obtain ⟨added, entries⟩ := dictionary.entries_add key value isFree
    obtain ⟨free, isRest⟩ := Nat.exists_eq_add_of_lt isFree
    have slots : (dictionary.toReader comparer).free = free + 1 := by
      show capacity - dictionary.count = free + 1
      omega
    have count : (dictionary.add key value).2.count = dictionary.count + 1 := by
      rw [add, dif_pos isFree]
    have left : capacity - (dictionary.add key value).2.count = free := by
      rw [count]
      omega
    rw [if_pos added, Protocol.ArrayDictionary.add, slots, toReader, toReader, entries, left]
  · have isFull : dictionary.count = capacity := Nat.le_antisymm dictionary.count_le (by omega)
    have slots : (dictionary.toReader comparer).free = 0 := by
      show capacity - dictionary.count = 0
      omega
    have size : (dictionary.toReader comparer).capacity = capacity := by
      rw [Protocol.ArrayDictionary.capacity, slots]
      show dictionary.entries.length + 0 = capacity
      rw [length_entries, isFull, Nat.add_zero]
    rw [dictionary.add_full key value isFull, Protocol.ArrayDictionary.add, slots, size]
    rfl

/-- `foreach` goes over the pairs below the count. -/
theorem enumerateFrom_eq (left position : Nat) (enough : dictionary.count < left + position) :
    dictionary.enumerateFrom left position = dictionary.entries.drop position := by
  induction left generalizing position with
  | zero =>
      rw [enumerateFrom, List.drop_eq_nil_of_le]
      rw [length_entries]
      omega
  | succ left inductionHypothesis =>
      rw [enumerateFrom]
      split_ifs with inside
      · have keysBound : position < dictionary.keys.length := by
          rw [dictionary.keys_length]
          exact inside.trans_le dictionary.count_le
        have valuesBound : position < dictionary.values.length := by
          rw [dictionary.values_length]
          exact inside.trans_le dictionary.count_le
        have inEntries : position < dictionary.entries.length := by
          rw [length_entries]
          exact inside
        have isEntry : dictionary.entries[position] =
            (dictionary.keys[position], dictionary.values[position]) := by
          simp only [entries, List.getElem_zip, List.getElem_take]
        rw [List.getElem?_eq_getElem keysBound, List.getElem?_eq_getElem valuesBound,
          List.drop_eq_getElem_cons inEntries, isEntry]
        show _ :: _ = _
        rw [inductionHypothesis (position + 1) (by omega)]
      · rw [List.drop_eq_nil_of_le]
        rw [length_entries]
        omega

theorem enumerate_eq : dictionary.enumerate = dictionary.entries := by
  rw [enumerate, enumerateFrom_eq dictionary _ 0 (by omega)]
  rfl

/-- Copying into an array with enough room. -/
theorem copyEntries_eq (entries array : List (κ × ν)) (index : Nat)
    (room : index + entries.length ≤ array.length) :
    copyEntries entries array index =
      some (array.take index ++ entries ++ array.drop (index + entries.length)) := by
  induction entries generalizing array index with
  | nil =>
      rw [copyEntries, List.append_nil, List.length_nil, Nat.add_zero, List.take_append_drop]
  | cons entry entries inductionHypothesis =>
      rw [List.length_cons] at room
      rw [copyEntries, if_pos (by omega),
        inductionHypothesis _ _ (by rw [List.length_set]; omega)]
      have atIndex : (array.set index entry)[index]? = some entry :=
        List.getElem?_set_self (by omega)
      rw [List.take_add_one, atIndex, List.take_set_of_le (Nat.le_refl _),
        List.drop_set_of_lt (by omega), List.length_cons]
      show some (array.take index ++ [entry] ++ entries ++ _) = _
      rw [List.append_assoc (array.take index), List.singleton_append, Nat.add_right_comm,
        Nat.add_assoc]

end Entries

/-! ## Setting an item -/

/-- Another value at some place. -/
theorem zip_set {κ ν : Type} {first : List κ} {second : List ν} {index : Nat}
    (inside : index < (first.zip second).length) (value : ν) :
    first.zip (second.set index value) =
      (first.zip second).take index ++
        ((first.zip second)[index].1, value) :: (first.zip second).drop (index + 1) := by
  induction first generalizing second index with
  | nil => exact absurd inside (Nat.not_lt_zero index)
  | cons key first inductionHypothesis =>
      cases second with
      | nil => exact absurd inside (Nat.not_lt_zero index)
      | cons old second =>
          cases index with
          | zero => rfl
          | succ index =>
              exact congrArg ((key, old) :: ·) (inductionHypothesis (Nat.lt_of_succ_lt_succ inside))

section Items

variable {κ ν : Type} {capacity : Nat} [Setoid κ] [DecidableRel (α := κ) (· ≈ ·)]
  (dictionary : ArrayDictionary κ ν capacity)

/-- The scan over the keys finds nothing if the entries have no equal key. -/
theorem findIdx?_eq_none_iff (key : κ) :
    (dictionary.keys.take dictionary.count).findIdx? (fun stored => key ≈ stored) = none ↔
      lookup dictionary.entries key = none := by
  rw [List.findIdx?_eq_none_iff, lookup_eq_none_iff, ← entries_fst, List.forall_mem_map]
  exact forall₂_congr fun entry _ => decide_eq_false_iff_not

/-- A key that is there keeps its place, and its pair gets the value. -/
theorem setItem_present {key : κ} (value : ν) (present : lookup dictionary.entries key ≠ none) :
    ∃ before stored old after,
      dictionary.entries = before ++ (stored, old) :: after ∧
      (dictionary.setItem key value).1 = none ∧
      (dictionary.setItem key value).2.entries = before ++ (stored, value) :: after ∧
      lookup before key = none ∧ key ≈ stored := by
  cases found : (dictionary.keys.take dictionary.count).findIdx? (fun stored => key ≈ stored) with
  | none => exact absurd ((findIdx?_eq_none_iff dictionary key).mp found) present
  | some index =>
      have isFound := found
      rw [← entries_fst, List.findIdx?_map] at isFound
      obtain ⟨inside, isEqual, isFirst⟩ := List.findIdx?_eq_some_iff_getElem.mp isFound
      refine ⟨dictionary.entries.take index, dictionary.entries[index].1,
        dictionary.entries[index].2, dictionary.entries.drop (index + 1), ?_, ?_, ?_, ?_, ?_⟩
      · show _ = _ ++ dictionary.entries[index] :: _
        rw [← List.drop_eq_getElem_cons inside, List.take_append_drop]
      · rw [setItem, found]
      · rw [setItem, found]
        show (dictionary.keys.take dictionary.count).zip
          ((dictionary.values.set index value).take dictionary.count) = _
        rw [List.take_set]
        exact zip_set inside value
      · rw [lookup_eq_none_iff]
        intro entry member same
        obtain ⟨position, below, rfl⟩ := List.mem_take_iff_getElem.mp member
        exact isFirst position (by omega) (decide_eq_true same)
      · exact of_decide_eq_true isEqual

theorem setItem_absent {key : κ} (value : ν) (absent : lookup dictionary.entries key = none) :
    dictionary.setItem key value = dictionary.add key value := by
  rw [setItem, (findIdx?_eq_none_iff dictionary key).mpr absent]

end Items

/-! ## The keys of a run -/

section Keys

variable {κ ν : Type} [Setoid κ] [DecidableRel (α := κ) (· ≈ ·)]
  (operations : List (Operation κ ν)) (operation : Operation κ ν)

theorem mapAfter_concat : mapAfter (operations ++ [operation]) =
    follow (mapAfter operations) operation :=
  List.foldl_concat _ _ _ _

theorem distinctKeys_concat : distinctKeys (operations ++ [operation]) =
    if ∃ key ∈ distinctKeys operations, operation.key ≈ key then distinctKeys operations
    else distinctKeys operations ++ [operation.key] :=
  List.foldl_concat _ _ _ _

theorem length_distinctKeys_concat :
    (distinctKeys operations).length ≤ (distinctKeys (operations ++ [operation])).length := by
  rw [distinctKeys_concat]
  split_ifs
  · exact Nat.le_refl _
  · rw [List.length_append]
    exact Nat.le_add_right _ _

/-- A key is among the distinct ones exactly if some operation has it. -/
theorem exists_distinctKeys_iff (key : κ) :
    (∃ other ∈ distinctKeys operations, key ≈ other) ↔
      ∃ operation ∈ operations, key ≈ operation.key := by
  induction operations using List.reverseRecOn with
  | nil => exact iff_of_false (fun ⟨_, member, _⟩ => nomatch member) fun ⟨_, member, _⟩ =>
      nomatch member
  | append_singleton operations operation inductionHypothesis =>
      have either : (∃ other ∈ operations ++ [operation], key ≈ other.key) ↔
          (∃ other ∈ operations, key ≈ other.key) ∨ key ≈ operation.key := by
        simp only [List.mem_append, List.mem_singleton, or_and_right, exists_or, exists_eq_left]
      rw [either, ← inductionHypothesis, distinctKeys_concat]
      split_ifs with known
      · refine ⟨.inl, fun found => found.elim id fun same => ?_⟩
        obtain ⟨other, member, also⟩ := known
        exact ⟨other, member, Setoid.trans same also⟩
      · simp only [List.mem_append, List.mem_singleton, or_and_right, exists_or, exists_eq_left]

theorem length_distinctKeys_le (earlier later : List (Operation κ ν)) :
    (distinctKeys earlier).length ≤ (distinctKeys (earlier ++ later)).length := by
  induction later using List.reverseRecOn with
  | nil => rw [List.append_nil]
  | append_singleton later operation inductionHypothesis =>
      rw [← List.append_assoc]
      exact inductionHypothesis.trans (length_distinctKeys_concat _ _)

end Keys

/-! ## Runs -/

section Sound

variable {κ ν : Type} {capacity : Nat} [Setoid κ] [DecidableRel (α := κ) (· ≈ ·)]

/-- The entries stand for the map, under the distinct keys. -/
structure Sound (dictionary : ArrayDictionary κ ν capacity) (operations : List (Operation κ ν)) :
    Prop where
  distinct : Distinct dictionary.entries
  isLookup : lookup dictionary.entries = mapAfter operations
  keys : dictionary.entries.map Prod.fst = distinctKeys operations

namespace Sound

variable {dictionary : ArrayDictionary κ ν capacity} {operations : List (Operation κ ν)}

theorem count_eq (sound : Sound dictionary operations) :
    dictionary.count = (distinctKeys operations).length := by
  rw [← sound.keys, List.length_map, length_entries]

theorem present_iff (sound : Sound dictionary operations) (key : κ) :
    (mapAfter operations key).isSome ↔ ∃ other ∈ distinctKeys operations, key ≈ other := by
  rw [← sound.isLookup, ← sound.keys, ← Option.ne_none_iff_isSome, ne_eq, lookup_eq_none_iff,
    not_forall₂]
  simp only [List.mem_map, not_not]
  constructor
  · rintro ⟨entry, member, same⟩
    exact ⟨entry.1, ⟨entry, member, rfl⟩, same⟩
  · rintro ⟨_, ⟨entry, member, rfl⟩, same⟩
    exact ⟨entry, member, same⟩

/-- An `Add` of a new key. -/
theorem add (sound : Sound dictionary operations) (operation : Operation κ ν) {value : ν}
    (follows : follow (mapAfter operations) operation =
      write (mapAfter operations) operation.key value)
    (absent : mapAfter operations operation.key = none)
    (room : (distinctKeys (operations ++ [operation])).length ≤ capacity) :
    (dictionary.add operation.key value).1 = none ∧
      Sound (dictionary.add operation.key value).2 (operations ++ [operation]) := by
  have isNew : ¬ ∃ other ∈ distinctKeys operations, operation.key ≈ other := by
    rw [← sound.present_iff, absent]
    nofun
  have keys := distinctKeys_concat operations operation
  rw [if_neg isNew] at keys
  rw [keys, List.length_append, List.length_singleton, ← sound.count_eq] at room
  obtain ⟨succeeded, added⟩ := dictionary.entries_add operation.key value room
  have absentEntry : lookup dictionary.entries operation.key = none := by
    rw [sound.isLookup, absent]
  refine ⟨succeeded, ?_, ?_, ?_⟩
  · rw [added]
    exact sound.distinct.append_singleton value absentEntry
  · rw [added, lookup_append_singleton value absentEntry, sound.isLookup, mapAfter_concat, follows]
  · rw [added, List.map_append, sound.keys, keys]
    rfl

/-- A value for a key that is there. -/
theorem set (sound : Sound dictionary operations) {key : κ} (value : ν)
    (present : mapAfter operations key ≠ none) :
    (dictionary.setItem key value).1 = none ∧
      Sound (dictionary.setItem key value).2 (operations ++ [.set key value]) := by
  rw [← sound.isLookup] at present
  obtain ⟨before, stored, old, after, isEntries, succeeded, isNext, absent, same⟩ :=
    setItem_present dictionary value present
  have sameKeys : (dictionary.setItem key value).2.entries.map Prod.fst =
      dictionary.entries.map Prod.fst := by
    rw [isNext, isEntries, List.map_append, List.map_append]
    rfl
  have known : ∃ other ∈ distinctKeys operations,
      (Operation.set key value : Operation κ ν).key ≈ other := by
    refine ⟨stored, ?_, same⟩
    rw [← sound.keys, isEntries, List.map_append]
    exact List.mem_append_right _ List.mem_cons_self
  refine ⟨succeeded, ?_, ?_, ?_⟩
  · rw [distinct_iff, sameKeys, ← distinct_iff]
    exact sound.distinct
  · rw [isNext, lookup_replace value old after absent same, ← isEntries, sound.isLookup,
      mapAfter_concat]
    rfl
  · rw [sameKeys, sound.keys, distinctKeys_concat, if_pos known]

/-- An `Add` of a key that is there, on a full dictionary. -/
theorem refuse (sound : Sound dictionary operations) {key : κ} (value : ν)
    (present : (mapAfter operations key).isSome) (isFull : dictionary.count = capacity) :
    dictionary.add key value = (some .invalidOperation, dictionary) ∧
      Sound dictionary (operations ++ [.add key value]) := by
  refine ⟨dictionary.add_full key value isFull, sound.distinct, ?_, ?_⟩
  · rw [mapAfter_concat, sound.isLookup]
    exact (if_pos present).symm
  · have known : ∃ other ∈ distinctKeys operations,
        (Operation.add key value : Operation κ ν).key ≈ other := (sound.present_iff key).mp present
    rw [distinctKeys_concat, if_pos known, sound.keys]

end Sound

/-- What one operation does; an `Add` of a known key finds the dictionary full. -/
theorem Sound.apply {dictionary : ArrayDictionary κ ν capacity}
    {operations : List (Operation κ ν)} (sound : Sound dictionary operations)
    (operation : Operation κ ν)
    (room : (distinctKeys (operations ++ [operation])).length ≤ capacity)
    (once : Refused (mapAfter operations) operation → dictionary.count = capacity) :
    Sound (dictionary.apply operation).2 (operations ++ [operation]) ∧
      (Refused (mapAfter operations) operation →
        (dictionary.apply operation).1 ≠ none ∧ (dictionary.apply operation).2 = dictionary) ∧
      (¬ Refused (mapAfter operations) operation → (dictionary.apply operation).1 = none) := by
  cases operation with
  | add key value =>
      by_cases present : (mapAfter operations key).isSome
      · have refused : Refused (mapAfter operations) (.add key value) := ⟨key, value, rfl, present⟩
        obtain ⟨full, next⟩ := sound.refuse value present (once refused)
        show Sound (dictionary.add key value).2 _ ∧ (_ → (dictionary.add key value).1 ≠ none ∧
          (dictionary.add key value).2 = _) ∧ _
        rw [full]
        exact ⟨next, fun _ => ⟨nofun, rfl⟩, fun accepted => absurd refused accepted⟩
      · have absent := Option.not_isSome_iff_eq_none.mp present
        have follows : follow (mapAfter operations) (.add key value) =
            write (mapAfter operations) key value := if_neg present
        obtain ⟨succeeded, next⟩ := sound.add (.add key value) follows absent room
        refine ⟨next, ?_, fun _ => succeeded⟩
        rintro ⟨other, otherValue, same, isThere⟩
        cases same
        exact absurd isThere present
  | set key value =>
      have accepted : ¬ Refused (mapAfter operations) (.set key value) := by
        rintro ⟨other, otherValue, same, -⟩
        cases same
      by_cases absent : mapAfter operations key = none
      · obtain ⟨succeeded, next⟩ := sound.add (.set key value) rfl absent room
        have isAdd := dictionary.setItem_absent value
          ((congrFun sound.isLookup key).trans absent)
        show Sound (dictionary.setItem key value).2 _ ∧ _ ∧
          (_ → (dictionary.setItem key value).1 = _)
        rw [isAdd]
        exact ⟨next, fun refused => absurd refused accepted, fun _ => succeeded⟩
      · obtain ⟨succeeded, next⟩ := sound.set value absent
        exact ⟨next, fun refused => absurd refused accepted, fun _ => succeeded⟩

theorem refused_iff_of_sound {dictionary : ArrayDictionary κ ν capacity}
    {operations : List (Operation κ ν)}
    (sound : Sound dictionary operations) (operation : Operation κ ν) :
    Refused (mapAfter operations) operation ↔ ∃ key value, operation = .add key value ∧
      ∃ other ∈ operations, key ≈ other.key := by
  refine exists₂_congr fun key value => and_congr_right fun _ => ?_
  rw [sound.present_iff, exists_distinctKeys_iff]

end Sound

section Map

variable {κ ν : Type} {capacity : Nat} [Inhabited κ] [Inhabited ν] [Setoid κ]
  [DecidableRel (α := κ) (· ≈ ·)] {operations : List (Operation κ ν)}

theorem run_concat (operations : List (Operation κ ν)) (operation : Operation κ ν) :
    run capacity (operations ++ [operation]) =
      ((run capacity operations).apply operation).2 :=
  List.foldl_concat _ _ _ _

theorem sound_new : Sound (new capacity : ArrayDictionary κ ν capacity) [] :=
  ⟨List.Pairwise.nil, rfl, rfl⟩

/-- A run in which every `Add` of a known key finds the dictionary full. -/
theorem sound_run (within : (distinctKeys operations).length ≤ capacity)
    (once : ∀ earlier operation later, operations = earlier ++ operation :: later →
      Refused (mapAfter earlier) operation → Sound (run capacity earlier) earlier →
        (run capacity earlier).count = capacity) :
    Sound (run capacity operations) operations := by
  induction operations using List.reverseRecOn with
  | nil => exact sound_new
  | append_singleton operations operation inductionHypothesis =>
      have sound := inductionHypothesis
        ((length_distinctKeys_concat operations operation).trans within)
        fun earlier other later isSplit => once earlier other (later ++ [operation]) (by
          rw [isSplit, List.append_assoc, List.cons_append])
      rw [run_concat]
      exact (sound.apply operation within fun refused =>
        once operations operation [] rfl refused sound).1

theorem sound_earlier (within : (distinctKeys operations).length ≤ capacity)
    (once : ∀ earlier operation later, operations = earlier ++ operation :: later →
      Refused (mapAfter earlier) operation → Sound (run capacity earlier) earlier →
        (run capacity earlier).count = capacity)
    {earlier later : List (Operation κ ν)} (isSplit : operations = earlier ++ later) :
    Sound (run capacity earlier) earlier := by
  rw [isSplit] at within
  refine sound_run ((length_distinctKeys_le earlier later).trans within) ?_
  intro first operation second isEarlier
  exact once first operation (second ++ later) (by
    rw [isSplit, isEarlier, List.append_assoc, List.cons_append])

/-- The adds of known keys are those that find the dictionary full. -/
theorem once_of_addsOnce (addsOnce : AddsOnce capacity operations)
    (earlier : List (Operation κ ν)) (operation : Operation κ ν) (later : List (Operation κ ν))
    (isSplit : operations = earlier ++ operation :: later)
    (refused : Refused (mapAfter earlier) operation)
    (sound : Sound (run capacity earlier) earlier) : (run capacity earlier).count = capacity := by
  obtain ⟨key, value, rfl, known⟩ := (refused_iff_of_sound sound operation).mp refused
  rw [sound.count_eq]
  exact addsOnce earlier key value later isSplit known

variable [Setoid ν] [DecidableRel (α := ν) (· ≈ ·)]

omit [Inhabited κ] [Inhabited ν] in
/-- A full dictionary whose entries stand for the map. -/
theorem Sound.describes {dictionary : ArrayDictionary κ ν capacity}
    (sound : Sound dictionary operations) (isFull : dictionary.count = capacity) :
    Describes dictionary (mapAfter operations) := by
  have found : ∀ key value, lookup dictionary.entries key = some value ↔
      ∃ entry ∈ dictionary.entries, key ≈ entry.1 ∧ entry.2 = value :=
    fun key value => lookup_eq_some_iff sound.distinct
  rw [← sound.isLookup]
  constructor
  · rw [enumerate_eq]
    exact sound.distinct
  · intro key value
    rw [enumerate_eq, found]
  · rw [enumerate_eq, length_entries]
  · rw [enumerate_eq, entries_fst, List.take_of_length_le (by
      rw [dictionary.keys_length, isFull])]
    exact List.Perm.refl _
  · rw [enumerate_eq, entries_snd, List.take_of_length_le (by
      rw [dictionary.values_length, isFull])]
    exact List.Perm.refl _
  · intro array arrayIndex room
    rw [copyTo, copyEntries_eq _ _ _ (by rw [length_entries]; exact room), enumerate_eq,
      length_entries]
  · intro key
    rw [containsKey, Bool.eq_iff_iff, List.any_eq_true, Option.isSome_iff_exists]
    constructor
    · rintro ⟨entry, member, same⟩
      exact ⟨entry.2, (found key entry.2).mpr ⟨entry, member, of_decide_eq_true same, rfl⟩⟩
    · rintro ⟨value, isValue⟩
      obtain ⟨entry, member, same, -⟩ := (found key value).mp isValue
      exact ⟨entry, member, decide_eq_true same⟩
  · intro key value
    rw [contains, List.any_eq_true]
    constructor
    · rintro ⟨entry, member, same⟩
      obtain ⟨sameKey, sameValue⟩ := of_decide_eq_true same
      exact ⟨entry.2, (found key entry.2).mpr ⟨entry, member, sameKey, rfl⟩, sameValue⟩
    · rintro ⟨stored, isStored, sameValue⟩
      obtain ⟨entry, member, sameKey, rfl⟩ := (found key stored).mp isStored
      exact ⟨entry, member, decide_eq_true ⟨sameKey, sameValue⟩⟩
  · exact fun key => rfl
  · exact fun key => rfl

/-- Within its capacity, a dictionary is a finite map if and only if no key is added again while
there is room, and the operations fill it. -/
theorem array_dictionary_is_map (within : (distinctKeys operations).length ≤ capacity) :
    IsMap capacity operations ↔
      AddsOnce capacity operations ∧ (distinctKeys operations).length = capacity := by
  constructor
  · intro isMap
    have once : ∀ earlier operation later, operations = earlier ++ operation :: later →
        Refused (mapAfter earlier) operation → Sound (run capacity earlier) earlier →
          (run capacity earlier).count = capacity := by
      intro earlier operation later isSplit refused _
      have failed := (isMap.refuses earlier operation later isSplit refused).1
      obtain ⟨key, value, rfl, -⟩ := refused
      by_contra notFull
      have isFree : (run capacity earlier).count < capacity :=
        lt_of_le_of_ne (run capacity earlier).count_le notFull
      exact failed ((run capacity earlier).entries_add key value isFree).1
    have sound := sound_run within once
    constructor
    · intro earlier key value later isSplit known
      have earlierSound := sound_earlier within once isSplit
      have refused := (refused_iff_of_sound earlierSound (.add key value)).mpr
        ⟨key, value, rfl, known⟩
      rw [← earlierSound.count_eq]
      exact once earlier (.add key value) later isSplit refused earlierSound
    · have sameLength := isMap.describes.keys.length_eq
      rw [List.length_map, ← isMap.describes.count, sound.count_eq] at sameLength
      rw [← sameLength]
      exact (run capacity operations).keys_length
  · rintro ⟨addsOnce, isFull⟩
    have once := once_of_addsOnce addsOnce
    have sound := sound_run within once
    have applies : ∀ earlier operation later, operations = earlier ++ operation :: later →
        (Refused (mapAfter earlier) operation →
          ((run capacity earlier).apply operation).1 ≠ none ∧
            ((run capacity earlier).apply operation).2 = run capacity earlier) ∧
        (¬ Refused (mapAfter earlier) operation →
          ((run capacity earlier).apply operation).1 = none) := by
      intro earlier operation later isSplit
      have earlierSound := sound_earlier within once isSplit
      have room : (distinctKeys (earlier ++ [operation])).length ≤ capacity := by
        rw [isSplit, ← List.singleton_append, ← List.append_assoc] at within
        exact (length_distinctKeys_le _ later).trans within
      exact (earlierSound.apply operation room fun refused =>
        once earlier operation later isSplit refused earlierSound).2
    constructor
    · exact fun earlier operation later isSplit => (applies earlier operation later isSplit).1
    · exact fun earlier operation later isSplit => (applies earlier operation later isSplit).2
    · exact sound.describes (sound.count_eq.trans isFull)

end Map

section Numbers

local instance natSetoid : Setoid Nat := ⊥

local instance natDecidable : DecidableRel (α := Nat) (· ≈ ·) := inferInstanceAs (DecidableEq Nat)

/-- Two keys fill the dictionary, one by `Add` and one by the indexer; then the value of the
first is set, and an `Add` of its key is refused. -/
def filled : List (Operation Nat Nat) := [.add 1 2, .set 2 5, .set 1 3, .add 1 9]

theorem array_dictionary_is_map_filled :
    IsMap 2 filled ∧ (run 2 filled).enumerate = [(1, 3), (2, 5)] := by
  refine ⟨(array_dictionary_is_map (by decide)).mpr ⟨?_, by decide⟩, by decide⟩
  intro earlier key value later isSplit known
  rcases earlier with _ | ⟨first, _ | ⟨second, _ | ⟨third, _ | ⟨fourth, earlier⟩⟩⟩⟩
  · obtain ⟨operation, member, -⟩ := known
    cases member
  · cases isSplit
  · cases isSplit
  · cases isSplit
    decide
  · cases earlier with
    | nil => cases isSplit
    | cons fifth earlier => cases isSplit

/-- A key is added again, and `Keys` of a dictionary with room has the defaults of the array. -/
theorem key_added_twice :
    ¬ IsMap 2 [Operation.add (κ := Nat) (ν := Nat) 1 2, .add 1 3] ∧
      (run 2 [Operation.add (κ := Nat) (ν := Nat) 1 2, .add 1 3]).entries = [(1, 2), (1, 3)] ∧
      ¬ IsMap 2 [Operation.add (κ := Nat) (ν := Nat) 1 2] ∧
      (run 2 [Operation.add (κ := Nat) (ν := Nat) 1 2]).getKeys = [1, 0] := by
  refine ⟨fun isMap => ?_, by decide, fun isMap => ?_, by decide⟩
  · have refused : Refused (mapAfter [Operation.add (κ := Nat) (ν := Nat) 1 2]) (.add 1 3) :=
      ⟨1, 3, rfl, by decide⟩
    exact (isMap.refuses [.add 1 2] (.add 1 3) [] rfl refused).1 (by decide)
  · have sameLength := isMap.describes.keys.length_eq
    exact absurd sameLength (by decide)

end Numbers

end ArrayDictionary

end AzureSignalR.Protocol.Dictionaries
