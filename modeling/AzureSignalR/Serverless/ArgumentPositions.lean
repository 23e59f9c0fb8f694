import AzureSignalR.Serverless.MessagePackReaderExtensions

/-!
Contract: the arguments of an invocation message are decoded each from its own bytes.

Owns: what a value is decoded to, the values whose reading takes all their bytes, and where the
reader is left by the others.

Does not own: the primitive reads.
-/

set_option autoImplicit false

namespace AzureSignalR.Serverless

open Library Protocol MessagePackFormat MessagePackReaderExtensions

variable {δ : Type}

/-! ## What a value is decoded to -/

namespace Value

section Decode

variable (reader : MessagePackReader δ)

mutual

/-- The object of a value, and null for a value that there is no object for. -/
def decode : Value → Obj δ
  | .nil => .null
  | .boolean value => .boolean value
  | .integer value => if value < 2 ^ 63 then .int64 (Int64.ofInt value) else .null
  | .float payload => .double (reader.toDouble payload)
  | .string payload => .string (reader.getString payload)
  | .binary payload => .bytes payload
  | .array elements => .array (decodeAll elements)
  | .map entries => .map (decodeEntries entries [])
  | .extension _ _ => .null

def decodeAll : List Value → List (Obj δ)
  | [] => []
  | value :: values => value.decode :: decodeAll values

def decodeEntries : List (Bytes × Value) → List (String × Obj δ) → List (String × Obj δ)
  | [], read => read
  | (key, value) :: entries, read =>
      decodeEntries entries (setItem read (reader.getString key) value.decode)

end

theorem decodeAll_eq_map (values : List Value) :
    decodeAll reader values = values.map (decode reader) := by
  induction values with
  | nil => rfl
  | cons value values inductionHypothesis =>
      rw [decodeAll, inductionHypothesis]
      rfl

end Decode

mutual

/-- There is no extension in it and no integer from `2 ^ 63` on. -/
def isSupported : Value → Bool
  | .integer value => value < 2 ^ 63
  | .array elements => allSupported elements
  | .map entries => entriesSupported entries
  | .extension _ _ => false
  | _ => true

def allSupported : List Value → Bool
  | [] => true
  | value :: values => value.isSupported && allSupported values

def entriesSupported : List (Bytes × Value) → Bool
  | [] => true
  | (_, value) :: entries => value.isSupported && entriesSupported entries

end

theorem allSupported_eq_all (values : List Value) :
    allSupported values = values.all isSupported := by
  induction values with
  | nil => rfl
  | cons value values inductionHypothesis =>
      rw [allSupported, inductionHypothesis]
      rfl

theorem entriesSupported_eq_all (entries : List (Bytes × Value)) :
    entriesSupported entries = entries.all fun entry => entry.2.isSupported := by
  induction entries with
  | nil => rfl
  | cons entry entries inductionHypothesis =>
      rw [entriesSupported, inductionHypothesis]
      rfl

end Value

/-! ## Supported values -/

theorem mul_length_le_flatMap {τ : Type} {width : Nat} {bytes : τ → Bytes} {items : List τ}
    (each : ∀ item ∈ items, width ≤ (bytes item).length) :
    width * items.length ≤ (items.flatMap bytes).length := by
  induction items with
  | nil => exact Nat.zero_le _
  | cons item items inductionHypothesis =>
      have here := each item List.mem_cons_self
      have behind := inductionHypothesis fun other member =>
        each other (List.mem_cons_of_mem _ member)
      rw [List.flatMap_cons, List.length_append, List.length_cons, Nat.mul_succ]
      omega

theorem length_le_flatMap_of_mem {τ : Type} (bytes : τ → Bytes) {items : List τ} {item : τ}
    (member : item ∈ items) : (bytes item).length ≤ (items.flatMap bytes).length := by
  obtain ⟨before, after, rfl⟩ := List.append_of_mem member
  rw [List.flatMap_append, List.flatMap_cons, List.length_append, List.length_append]
  omega

theorem length_le_elements {elements : List (Value × Bytes)}
    (all : ∀ element ∈ elements, Encodes element.1 element.2) (rest : Bytes) :
    elements.length ≤ (elements.flatMap Prod.snd ++ rest).length := by
  have enough := mul_length_le_flatMap fun element member =>
    Nat.succ_le_of_lt (all element member).length_pos
  rw [List.length_append]
  omega

theorem length_le_entries {entries : List Entry}
    (keys : ∀ entry ∈ entries, Encodes (.string entry.key) entry.keyBytes)
    (values : ∀ entry ∈ entries, Encodes entry.value entry.valueBytes) (rest : Bytes) :
    2 * entries.length ≤
      (entries.flatMap (fun entry => entry.keyBytes ++ entry.valueBytes) ++ rest).length := by
  have enough : 2 * entries.length ≤
      (entries.flatMap fun entry => entry.keyBytes ++ entry.valueBytes).length := by
    refine mul_length_le_flatMap fun entry member => ?_
    have key := (keys entry member).length_pos
    have value := (values entry member).length_pos
    rw [List.length_append]
    omega
  rw [List.length_append]
  omega

section Reads

variable {reader : MessagePackReader δ} (lawful : reader.Lawful)
include lawful

/-- The count of an array, provided its elements are behind it. -/
theorem run_readArrayLength {count : Nat} {size : Bytes} (isSize : SizeBytes arrayCodes count size)
    (field : String) (rest : Bytes) (enough : count ≤ rest.length) :
    (readArrayLength reader field).run (size ++ rest) = .ok (count, rest) :=
  Decoder.run_orElseError _ (lawful.readArrayHeader isSize rest enough)

/-- The elements of an array are read one after the other. -/
theorem consumes_readArrayOf {readObject : String → Reader (Obj δ)}
    {elements : List (Value × Bytes)} {size : Bytes}
    (isSize : SizeBytes arrayCodes elements.length size)
    (all : ∀ element ∈ elements, Encodes element.1 element.2)
    (each : ∀ field, ∀ element ∈ elements,
      (readObject field).Consumes element.2 (element.1.decode reader)) (field : String) :
    (readArrayOf reader readObject field).Consumes (size ++ elements.flatMap Prod.snd)
      (Value.decodeAll reader (elements.map Prod.fst)) := by
  intro rest
  rw [readArrayOf, StateT.run_bind, List.append_assoc,
    run_readArrayLength lawful isSize field _ (length_le_elements all rest)]
  rw [Value.decodeAll_eq_map, List.map_map]
  exact Decoder.Consumes.repeatFrom elements (fun index element member => each _ element member) 0
    rest

/-- So are the entries of a map. -/
theorem consumes_readEntries {readObject : Reader (Obj δ)} {entries : List Entry}
    (keys : ∀ entry ∈ entries, Encodes (.string entry.key) entry.keyBytes)
    (each : ∀ entry ∈ entries, readObject.Consumes entry.valueBytes (entry.value.decode reader))
    (read : List (String × Obj δ)) :
    (readEntries reader readObject entries.length read).Consumes
      (entries.flatMap fun entry => entry.keyBytes ++ entry.valueBytes)
      (Value.decodeEntries reader (entries.map fun entry => (entry.key, entry.value)) read) := by
  induction entries generalizing read with
  | nil => exact .pure_nil read
  | cons entry entries inductionHypothesis =>
      have key : (reader.readString >>= throwWhenNull).Consumes (entry.keyBytes ++ [])
          (reader.getString entry.key) :=
        (lawful.readString (keys entry List.mem_cons_self)).bind (.pure_nil _)
      rw [List.append_nil] at key
      rw [List.flatMap_cons, List.append_assoc]
      refine key.bind ((each entry List.mem_cons_self).bind ?_)
      exact inductionHypothesis (fun other member => keys other (List.mem_cons_of_mem _ member))
        (fun other member => each other (List.mem_cons_of_mem _ member)) _

theorem run_readObject {value : Value} {bytes : Bytes} (encodes : Encodes value bytes) (bound : Nat)
    (field : String) (rest : Bytes) :
    (readObject reader (bound + 1) field).run (bytes ++ rest) =
      (readOfType reader (readObject reader bound) field value.type).run (bytes ++ rest) := by
  rw [readObject, StateT.run_bind, lawful.nextMessagePackType encodes rest]
  rfl

theorem consumes_of_readOfType {value : Value} {bytes : Bytes} {object : Obj δ}
    (encodes : Encodes value bytes)
    (reads : ∀ bound, bytes.length ≤ bound + 1 → ∀ field,
      (readOfType reader (readObject reader bound) field value.type).Consumes bytes object) :
    ∀ bound, bytes.length ≤ bound → ∀ field,
      (readObject reader bound field).Consumes bytes object := by
  intro bound within field rest
  have positive := encodes.length_pos
  cases bound with
  | zero => omega
  | succ bound =>
      rw [run_readObject lawful encodes]
      exact reads bound within field rest

/-- A supported value is read to its end, and decoded. -/
theorem consumes_readObject {value : Value} {bytes : Bytes} (encodes : Encodes value bytes)
    (supported : value.isSupported = true) :
    ∀ bound, bytes.length ≤ bound → ∀ field,
      (readObject reader bound field).Consumes bytes (value.decode reader) := by
  induction encodes with
  | nil =>
      refine consumes_of_readOfType lawful .nil fun bound within field => ?_
      exact lawful.readNil.bind (.pure_nil _)
  | boolean value =>
      refine consumes_of_readOfType lawful (.boolean value) fun bound within field => ?_
      exact (lawful.readBoolean value).map Obj.boolean
  | @integer value bytes isInteger =>
      have small : value < 2 ^ 63 := of_decide_eq_true supported
      refine consumes_of_readOfType lawful (.integer isInteger) fun bound within field => ?_
      rw [Value.decode, if_pos small]
      exact (lawful.readInt64 isInteger small).map Obj.int64
  | float listed =>
      refine consumes_of_readOfType lawful (.float listed) fun bound within field => ?_
      exact (lawful.readDouble (.float listed)).map Obj.double
  | string isSize =>
      refine consumes_of_readOfType lawful (.string isSize) fun bound within field => ?_
      exact (lawful.readString (.string isSize)).map _
  | binary isSize =>
      refine consumes_of_readOfType lawful (.binary isSize) fun bound within field => ?_
      exact (lawful.readBytes (.binary isSize)).map _
  | @array elements size isSize all inductionHypothesis =>
      refine consumes_of_readOfType lawful (.array isSize all) fun bound within field => ?_
      rw [Value.isSupported, Value.allSupported_eq_all, List.all_map, List.all_eq_true] at supported
      rw [List.length_append] at within
      have sizePositive := isSize.length_pos
      refine (consumes_readArrayOf lawful isSize all (fun field element member => ?_) field).map
        Obj.array
      have inside : element.2.length ≤ _ := length_le_flatMap_of_mem Prod.snd member
      exact inductionHypothesis element member (supported element member) bound (by omega) field
  | @map entries size isSize keys values keysHypothesis inductionHypothesis =>
      refine consumes_of_readOfType lawful (.map isSize keys values) fun bound within field => ?_
      rw [Value.isSupported, Value.entriesSupported_eq_all, List.all_map, List.all_eq_true]
        at supported
      rw [List.length_append] at within
      have sizePositive := isSize.length_pos
      intro rest
      show (reader.readMapHeader >>= _).run _ = _
      rw [StateT.run_bind, List.append_assoc,
        lawful.readMapHeader isSize _ (length_le_entries keys values rest)]
      refine (consumes_readEntries lawful keys (fun entry member => ?_) []).map Obj.map rest
      have inside : (entry.keyBytes ++ entry.valueBytes).length ≤ _ :=
        length_le_flatMap_of_mem (fun entry : Entry => entry.keyBytes ++ entry.valueBytes) member
      rw [List.length_append] at inside
      exact inductionHypothesis entry member (supported entry member) bound (by omega) field
  | fixedExtension listed => cases supported
  | extension isSize => cases supported

end Reads

/-! ## Values that are not read to their end -/

/-- An extension comes next. -/
def Stuck (stream : Bytes) : Prop :=
  ∃ type payload bytes more, Encodes (.extension type payload) bytes ∧ stream = bytes ++ more

/-- The read has failed, or has left an extension and more bytes than it should. -/
def Derails {α : Type} (rest : Bytes) (outcome : Except Exn (α × Bytes)) : Prop :=
  ∀ read behind, outcome = .ok (read, behind) → Stuck behind ∧ rest.length < behind.length

namespace Derails

variable {α β : Type} {rest stream : Bytes}

theorem error (failure : Exn) : Derails rest (.error failure : Except Exn (α × Bytes)) := nofun

theorem ok (value : α) (stuck : Stuck stream) (longer : rest.length < stream.length) :
    Derails rest (.ok (value, stream)) := by
  intro read behind same
  cases same
  exact ⟨stuck, longer⟩

theorem bind {first : Reader α} {next : α → Reader β} (derails : Derails rest (first.run stream))
    (stays : ∀ value behind, Stuck behind → rest.length < behind.length →
      Derails rest ((next value).run behind)) :
    Derails rest ((first >>= next).run stream) := by
  rw [StateT.run_bind]
  cases ran : first.run stream with
  | error failure => exact error failure
  | ok read =>
      obtain ⟨stuck, longer⟩ := derails read.1 read.2 ran
      exact stays read.1 read.2 stuck longer

/-- Behind what has been read to its end. -/
theorem behind {first : Reader α} {next : α → Reader β} {bytes : Bytes} {value : α}
    (consumes : first.Consumes bytes value) (derails : Derails rest ((next value).run stream)) :
    Derails rest ((first >>= next).run (bytes ++ stream)) := by
  rw [Decoder.run_bind_of_run (consumes stream)]
  exact derails

theorem map {first : Reader α} (function : α → β) (derails : Derails rest (first.run stream)) :
    Derails rest ((function <$> first).run stream) := by
  rw [map_eq_pure_bind]
  exact derails.bind fun _ _ stuck longer => ok _ stuck longer

theorem of_append {more : Bytes} {outcome : Except Exn (α × Bytes)}
    (derails : Derails (more ++ rest) outcome) : Derails rest outcome := by
  intro read behind same
  obtain ⟨stuck, longer⟩ := derails read behind same
  rw [List.length_append] at longer
  exact ⟨stuck, by omega⟩

end Derails

section Derail

variable {reader : MessagePackReader δ} (lawful : reader.Lawful) {rest stream : Bytes}
include lawful

/-- An extension is read as null and stays where it is. -/
theorem derails_readObject (stuck : Stuck stream) (longer : rest.length < stream.length)
    (bound : Nat) (field : String) : Derails rest ((readObject reader bound field).run stream) := by
  cases bound with
  | zero => exact .error _
  | succ bound =>
      obtain ⟨type, payload, bytes, more, encodes, rfl⟩ := stuck
      rw [run_readObject lawful encodes]
      exact .ok Obj.null ⟨type, payload, bytes, more, encodes, rfl⟩ longer

theorem derails_repeatFrom (bound : Nat) (field : Nat → String) (start count : Nat)
    (stuck : Stuck stream) (longer : rest.length < stream.length) :
    Derails rest ((Decoder.repeatFrom (fun index => readObject reader bound (field index)) start
      count).run stream) := by
  induction count generalizing start stream with
  | zero => exact .ok [] stuck longer
  | succ count inductionHypothesis =>
      refine (derails_readObject lawful stuck longer bound (field start)).bind
        fun head behind stuck longer => ?_
      exact (inductionHypothesis (start + 1) stuck longer).bind
        fun _ _ stuck longer => .ok _ stuck longer

/-- An extension is no key. -/
theorem derails_readEntries (readObject : Reader (Obj δ)) (count : Nat)
    (read : List (String × Obj δ)) (stuck : Stuck stream) (longer : rest.length < stream.length) :
    Derails rest ((readEntries reader readObject count read).run stream) := by
  cases count with
  | zero => exact .ok read stuck longer
  | succ count =>
      obtain ⟨type, payload, bytes, more, encodes, rfl⟩ := stuck
      obtain ⟨failure, refused⟩ := lawful.readString_extension encodes more
      rw [readEntries, StateT.run_bind, StateT.run_bind, refused]
      exact .error failure

/-- Elements that are read to their end, and others. -/
theorem derails_elements {bound : Nat} {elements : List (Value × Bytes)}
    (reads : ∀ element ∈ elements, element.1.isSupported = true → ∀ field,
      (readObject reader bound field).Consumes element.2 (element.1.decode reader))
    (derails : ∀ element ∈ elements, element.1.isSupported = false → ∀ field rest,
      Derails rest ((readObject reader bound field).run (element.2 ++ rest)))
    (some : ∃ element ∈ elements, element.1.isSupported = false) (field : Nat → String)
    (start : Nat) :
    Derails rest ((Decoder.repeatFrom (fun index => readObject reader bound (field index)) start
      elements.length).run (elements.flatMap Prod.snd ++ rest)) := by
  induction elements generalizing start with
  | nil =>
      obtain ⟨element, member, -⟩ := some
      cases member
  | cons element elements inductionHypothesis =>
      rw [List.flatMap_cons, List.append_assoc, List.length_cons, Decoder.repeatFrom]
      cases supported : element.1.isSupported with
      | false =>
          refine (derails element List.mem_cons_self supported (field start) _).of_append.bind
            fun head behind stuck longer => ?_
          exact (derails_repeatFrom lawful bound field _ _ stuck longer).bind
            fun _ _ stuck longer => .ok _ stuck longer
      | true =>
          have behind : ∃ element ∈ elements, element.1.isSupported = false := by
            obtain ⟨other, member, unsupported⟩ := some
            rcases List.mem_cons.mp member with rfl | member
            · rw [supported] at unsupported
              cases unsupported
            · exact ⟨other, member, unsupported⟩
          have derailed := inductionHypothesis
            (fun other member => reads other (List.mem_cons_of_mem _ member))
            (fun other member => derails other (List.mem_cons_of_mem _ member)) behind (start + 1)
          exact .behind (reads element List.mem_cons_self supported (field start))
            (derailed.bind fun _ _ stuck longer => .ok _ stuck longer)

theorem derails_entries {readObject : Reader (Obj δ)} {entries : List Entry}
    (keys : ∀ entry ∈ entries, Encodes (.string entry.key) entry.keyBytes)
    (reads : ∀ entry ∈ entries, entry.value.isSupported = true →
      readObject.Consumes entry.valueBytes (entry.value.decode reader))
    (derails : ∀ entry ∈ entries, entry.value.isSupported = false → ∀ rest,
      Derails rest (readObject.run (entry.valueBytes ++ rest)))
    (some : ∃ entry ∈ entries, entry.value.isSupported = false) (read : List (String × Obj δ)) :
    Derails rest ((readEntries reader readObject entries.length read).run
      (entries.flatMap (fun entry => entry.keyBytes ++ entry.valueBytes) ++ rest)) := by
  induction entries generalizing read with
  | nil =>
      obtain ⟨entry, member, -⟩ := some
      cases member
  | cons entry entries inductionHypothesis =>
      have key : (reader.readString >>= throwWhenNull).Consumes (entry.keyBytes ++ [])
          (reader.getString entry.key) :=
        (lawful.readString (keys entry List.mem_cons_self)).bind (.pure_nil _)
      rw [List.append_nil] at key
      rw [List.flatMap_cons, List.append_assoc, List.append_assoc, List.length_cons, readEntries]
      refine .behind key ?_
      cases supported : entry.value.isSupported with
      | false =>
          refine (derails entry List.mem_cons_self supported _).of_append.bind
            fun value behind stuck longer => ?_
          exact derails_readEntries lawful readObject _ _ stuck longer
      | true =>
          have behind : ∃ entry ∈ entries, entry.value.isSupported = false := by
            obtain ⟨other, member, unsupported⟩ := some
            rcases List.mem_cons.mp member with rfl | member
            · rw [supported] at unsupported
              cases unsupported
            · exact ⟨other, member, unsupported⟩
          refine .behind (reads entry List.mem_cons_self supported) ?_
          exact inductionHypothesis
            (fun other member => keys other (List.mem_cons_of_mem _ member))
            (fun other member => reads other (List.mem_cons_of_mem _ member))
            (fun other member => derails other (List.mem_cons_of_mem _ member)) behind _

theorem derails_of_readOfType {value : Value} {bytes : Bytes} (encodes : Encodes value bytes)
    (derails : ∀ bound, bytes.length ≤ bound + 1 → ∀ field rest,
      Derails rest ((readOfType reader (readObject reader bound) field value.type).run
        (bytes ++ rest))) :
    ∀ bound, bytes.length ≤ bound → ∀ field rest,
      Derails rest ((readObject reader bound field).run (bytes ++ rest)) := by
  intro bound within field rest
  cases bound with
  | zero => exact .error _
  | succ bound =>
      rw [run_readObject lawful encodes]
      exact derails bound within field rest

theorem derails_extension {type : UInt8} {payload bytes : Bytes}
    (encodes : Encodes (.extension type payload) bytes) :
    ∀ bound, bytes.length ≤ bound → ∀ field rest,
      Derails rest ((readObject reader bound field).run (bytes ++ rest)) := by
  intro bound _ field rest
  have positive := encodes.length_pos
  refine derails_readObject lawful ⟨type, payload, bytes, rest, encodes, rfl⟩ ?_ bound field
  rw [List.length_append]
  omega

/-- A value that is not supported is not read to its end. -/
theorem derails_of_not_supported {value : Value} {bytes : Bytes} (encodes : Encodes value bytes)
    (unsupported : value.isSupported = false) :
    ∀ bound, bytes.length ≤ bound → ∀ field rest,
      Derails rest ((readObject reader bound field).run (bytes ++ rest)) := by
  induction encodes with
  | nil | boolean | float | string | binary => cases unsupported
  | @integer value bytes isInteger =>
      have large : ¬ value < 2 ^ 63 := of_decide_eq_false unsupported
      refine derails_of_readOfType lawful (.integer isInteger) fun bound within field rest => ?_
      obtain ⟨failure, refused⟩ := lawful.readInt64_overflow isInteger (Int.not_lt.mp large) rest
      refine Derails.map Obj.int64 ?_
      rw [refused]
      exact .error failure
  | @array elements size isSize all inductionHypothesis =>
      refine derails_of_readOfType lawful (.array isSize all) fun bound within field rest => ?_
      rw [Value.isSupported, Value.allSupported_eq_all, List.all_map, List.all_eq_false]
        at unsupported
      rw [List.length_append] at within
      have sizePositive := isSize.length_pos
      have inside (element : Value × Bytes) (member : element ∈ elements) :
          element.2.length ≤ bound := by
        have part : element.2.length ≤ _ := length_le_flatMap_of_mem Prod.snd member
        omega
      refine Derails.map Obj.array ?_
      rw [readArrayOf, List.append_assoc, StateT.run_bind,
        run_readArrayLength lawful isSize field _ (length_le_elements all rest)]
      refine derails_elements lawful
        (fun element member supported =>
          consumes_readObject lawful (all element member) supported bound (inside element member))
        (fun element member unsupported =>
          inductionHypothesis element member unsupported bound (inside element member)) ?_ _ 0
      simpa using unsupported
  | @map entries size isSize keys values keysHypothesis inductionHypothesis =>
      refine derails_of_readOfType lawful (.map isSize keys values)
        fun bound within field rest => ?_
      rw [Value.isSupported, Value.entriesSupported_eq_all, List.all_map, List.all_eq_false]
        at unsupported
      rw [List.length_append] at within
      have sizePositive := isSize.length_pos
      have inside (entry : Entry) (member : entry ∈ entries) : entry.valueBytes.length ≤ bound := by
        have part : (entry.keyBytes ++ entry.valueBytes).length ≤ _ :=
          length_le_flatMap_of_mem (fun entry : Entry => entry.keyBytes ++ entry.valueBytes) member
        rw [List.length_append] at part
        omega
      show Derails rest ((reader.readMapHeader >>= _).run _)
      rw [StateT.run_bind, List.append_assoc,
        lawful.readMapHeader isSize _ (length_le_entries keys values rest)]
      refine Derails.map Obj.map (derails_entries lawful keys
        (fun entry member supported => consumes_readObject lawful (values entry member) supported
          bound (inside entry member) field)
        (fun entry member unsupported =>
          inductionHypothesis entry member unsupported bound (inside entry member) field) ?_ [])
      simpa using unsupported
  | fixedExtension listed => exact derails_extension lawful (.fixedExtension listed)
  | extension isSize => exact derails_extension lawful (.extension isSize)

end Derail

end AzureSignalR.Serverless
