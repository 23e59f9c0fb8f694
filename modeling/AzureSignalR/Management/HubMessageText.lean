import AzureSignalR.Management.JsonObjectSerializerHubProtocol

/-!
Contract: which hub messages are written as well-formed JSON.

Owns: the document of a hub message, the text that the two writers of it make together, and
when the two are the same.

Does not own: the grammar.
-/

set_option autoImplicit false

namespace AzureSignalR.Management

open Library.Json

/-! ## What the writer appends -/

def comma (due : Bool) : Bytes := if due then [0x2c] else []

/-- Items with a comma in front of each but the first, and of that where one is due. -/
def separated (due : Bool) : List Bytes → Bytes
  | [] => []
  | item :: items => comma due ++ item ++ separated true items

theorem separated_true (items : List Bytes) :
    separated true items = items.flatMap (0x2c :: ·) := by
  induction items with
  | nil => rfl
  | cons item items inductionHypothesis =>
      rw [separated, inductionHypothesis]
      rfl

theorem separated_false (items : List Bytes) : separated false items = joined items := by
  cases items with
  | nil => rfl
  | cons item items =>
      rw [separated, separated_true]
      rfl

theorem separated_append (due : Bool) (items more : List Bytes) :
    separated due (items ++ more) =
      separated due items ++ separated (due || !items.isEmpty) more := by
  induction items generalizing due with
  | nil => cases due <;> rfl
  | cons item items inductionHypothesis =>
      rw [List.cons_append, separated, separated, inductionHypothesis, Bool.true_or,
        List.append_assoc (comma due ++ item)]
      cases due <;> rfl

namespace Utf8JsonWriter

/-- All that is written, and flushed or not. -/
def text (writer : Utf8JsonWriter) : Bytes := writer.output ++ writer.pending

variable (writer : Utf8JsonWriter)

theorem text_write (bytes : Bytes) (needsSeparator : Bool) :
    (writer.write bytes needsSeparator).text =
      writer.text ++ (comma writer.needsSeparator ++ bytes) := by
  rw [text, write, text, comma]
  simp only [List.append_assoc]

theorem text_writeEnd (closing : UInt8) :
    (writer.writeEnd closing).text = writer.text ++ [closing] := by
  rw [text, writeEnd, text, List.append_assoc]

theorem text_flush : writer.flush.text = writer.text := List.append_nil _

theorem text_bypass (bytes : Bytes) (flushed : writer.pending = []) :
    (writer.bypass bytes).text = writer.text ++ bytes := by
  rw [text, bypass, text, flushed, List.append_nil, List.append_nil]

/-- The writer has appended the items, with commas between them. -/
structure Continues (writer : Utf8JsonWriter) (items : List Bytes) (next : Utf8JsonWriter) :
    Prop where
  text : next.text = writer.text ++ separated writer.needsSeparator items
  needsSeparator : next.needsSeparator = (writer.needsSeparator || !items.isEmpty)

namespace Continues

variable {writer} {next last : Utf8JsonWriter} {items more : List Bytes}

theorem refl (writer : Utf8JsonWriter) : Continues writer [] writer where
  text := (List.append_nil _).symm
  needsSeparator := (Bool.or_false _).symm

theorem trans (first : Continues writer items next) (second : Continues next more last) :
    Continues writer (items ++ more) last where
  text := by
    rw [second.text, first.text, first.needsSeparator, separated_append, List.append_assoc]
  needsSeparator := by
    rw [second.needsSeparator, first.needsSeparator, Bool.or_assoc]
    cases items <;> rfl

theorem write (writer : Utf8JsonWriter) (bytes : Bytes) :
    Continues writer [bytes] (writer.write bytes true) where
  text := by
    rw [text_write, separated, separated, List.append_nil]
  needsSeparator := (Bool.or_true _).symm

theorem foldl {τ : Type} (bytes : τ → Bytes) (values : List τ) (writer : Utf8JsonWriter) :
    Continues writer (values.map bytes)
      (values.foldl (fun writer value => writer.write (bytes value) true) writer) := by
  induction values generalizing writer with
  | nil => exact refl writer
  | cons value values inductionHypothesis =>
      exact (write writer (bytes value)).trans (inductionHypothesis _)

/-- A property between brackets, whatever its contents are written by. -/
theorem bracketed (name contents : Bytes) (opening closing : UInt8)
    (inner : next.text = (writer.writeStart name opening).text ++ contents) :
    Continues writer [quoted name ++ 0x3a :: opening :: (contents ++ [closing])]
      (next.writeEnd closing) where
  text := by
    rw [text_writeEnd, inner, writeStart, text_write, separated, separated]
    simp only [List.append_assoc, List.cons_append, List.nil_append, List.append_nil]
  needsSeparator := (Bool.or_true _).symm

/-- The contents are items. -/
theorem bracketed_items (name : Bytes) (opening closing : UInt8)
    (inner : Continues (writer.writeStart name opening) items next) :
    Continues writer [quoted name ++ 0x3a :: opening :: (joined items ++ [closing])]
      (next.writeEnd closing) := by
  refine bracketed name (joined items) opening closing ?_
  rw [inner.text, ← separated_false]
  rfl

end Continues

end Utf8JsonWriter

/-! ## Documents -/

variable {α : Type}

def HubMessage.isSupported : HubMessage α → Bool
  | .unsupported _ => false
  | _ => true

/-- The arguments of a message that has any. -/
def HubMessage.arguments : HubMessage α → List (Option α)
  | .invocation _ _ arguments _ | .streamInvocation _ _ arguments _ => arguments.getD []
  | _ => []

namespace JsonObjectSerializerHubProtocol

open Utf8JsonWriter

section Members

variable (serialize : α → Bytes) (escape : String → Bytes)

/-- The element of an argument. -/
def argumentText : Option α → Bytes
  | none => nullText
  | some value => serialize value

/-- The elements of the arguments, as they are written. -/
def elementsText (due : Bool) : List (Option α) → Bytes
  | [] => []
  | none :: arguments => comma due ++ nullText ++ elementsText true arguments
  | some argument :: arguments =>
      serialize argument ++ (if arguments = [] then [] else [0x2c]) ++ elementsText due arguments

def headerMembers (invocation : Invocation) : List (Bytes × Bytes) :=
  match invocation.headers with
  | none | some [] => []
  | some headers =>
      [(utf8 "headers", objectText (headers.map fun header =>
        (escape header.1, stringText escape header.2)))]

def invocationIdMembers (invocation : Invocation) : List (Bytes × Bytes) :=
  if invocation.invocationId.getD "" = "" then []
  else [(utf8 "invocationId", quoted (escape (invocation.invocationId.getD "")))]

def streamIdMembers : Option (List (Option String)) → List (Bytes × Bytes)
  | none => []
  | some streamIds => [(utf8 "streamIds", arrayText (streamIds.map (stringText escape)))]

def argumentMembers (elements : List (Option α) → Bytes) :
    Option (List (Option α)) → List (Bytes × Bytes)
  | none => []
  | some arguments => [(utf8 "arguments", 0x5b :: (elements arguments ++ [0x5d]))]

def invocationMembers (type : String) (invocation : Invocation) : List (Bytes × Bytes) :=
  [(utf8 "type", utf8 type)] ++ headerMembers escape invocation ++
    invocationIdMembers escape invocation

/-- The members of a message with the elements of its arguments written in some way. -/
def membersWith (elements : List (Option α) → Bytes) : HubMessage α → List (Bytes × Bytes)
  | .invocation header target arguments streamIds =>
      invocationMembers escape "1" header ++ [(utf8 "target", quoted (escape target))] ++
        argumentMembers elements arguments ++ streamIdMembers escape streamIds
  | .streamInvocation header target arguments streamIds =>
      invocationMembers escape "4" header ++ [(utf8 "target", quoted (escape target))] ++
        argumentMembers elements arguments ++ streamIdMembers escape streamIds
  | .streamItem header item =>
      invocationMembers escape "2" header ++ [(utf8 "item", argumentText serialize item)]
  | .completion header error hasResult result =>
      invocationMembers escape "3" header ++
        (if error.getD "" ≠ "" then [(utf8 "error", quoted (escape (error.getD "")))]
        else if hasResult then [(utf8 "result", argumentText serialize result)]
        else [])
  | .cancelInvocation header => invocationMembers escape "5" header
  | .ping => [(utf8 "type", utf8 "6")]
  | .unsupported _ => []

/-- The members of the document of a message: its arguments are an array with an element for
each. -/
def members (message : HubMessage α) : List (Bytes × Bytes) :=
  membersWith serialize escape
    (fun arguments => joined (arguments.map (argumentText serialize))) message

/-- One JSON object, which is the document of the message. -/
structure IsDocument (message : HubMessage α) (bytes : Bytes) : Prop where
  wellFormed : WellFormed bytes
  document : bytes = objectText (members serialize escape message)

end Members

section Written

variable (serialize : α → Bytes) (escape : String → Bytes)

def memberText (member : Bytes × Bytes) : Bytes := quoted member.1 ++ 0x3a :: member.2

/-- The writer has appended the members. -/
abbrev WritesMembers (writer : Utf8JsonWriter) (members : List (Bytes × Bytes))
    (next : Utf8JsonWriter) : Prop :=
  Continues writer (members.map memberText) next

theorem writesMembers_append {writer next last : Utf8JsonWriter}
    {members more : List (Bytes × Bytes)}
    (first : WritesMembers writer members next) (second : WritesMembers next more last) :
    WritesMembers writer (members ++ more) last := by
  rw [WritesMembers, List.map_append]
  exact first.trans second

theorem writes_member (writer : Utf8JsonWriter) (name value : Bytes) :
    WritesMembers writer [(name, value)] (writer.writeMember name value) :=
  Continues.write writer _

theorem writes_headers (writer : Utf8JsonWriter) (invocation : Invocation) :
    WritesMembers writer (headerMembers escape invocation)
      (writeHeaders escape writer invocation) := by
  rw [writeHeaders, headerMembers]
  cases invocation.headers with
  | none => exact Continues.refl writer
  | some headers =>
      cases headers with
      | nil => exact Continues.refl writer
      | cons header headers =>
          refine Continues.bracketed_items (utf8 "headers") 0x7b 0x7d ?_
          rw [List.map_map]
          exact Continues.foldl _ (header :: headers) _

theorem writes_invocationId (writer : Utf8JsonWriter) (invocation : Invocation) :
    WritesMembers writer (invocationIdMembers escape invocation)
      (writeInvocationId escape writer invocation) := by
  rw [writeInvocationId, invocationIdMembers]
  split_ifs
  · exact Continues.refl writer
  · exact writes_member writer _ _

theorem writes_streamIds (writer : Utf8JsonWriter) (streamIds : Option (List (Option String))) :
    WritesMembers writer (streamIdMembers escape streamIds)
      (writeStreamIds escape writer streamIds) := by
  cases streamIds with
  | none => exact Continues.refl writer
  | some streamIds =>
      exact Continues.bracketed_items (utf8 "streamIds") 0x5b 0x5d
        (Continues.foldl (stringText escape) streamIds _)

/-- What the serializer writes is behind all that has been written before. -/
theorem text_writeWithObjectSerializer (writer : Utf8JsonWriter) (value : α) :
    (writeWithObjectSerializer serialize writer value).text = writer.text ++ serialize value := by
  rw [writeWithObjectSerializer, text_bypass _ _ rfl, text_flush]

theorem text_writeElements (writer : Utf8JsonWriter) (arguments : List (Option α)) :
    (writeElements serialize writer arguments).text =
      writer.text ++ elementsText serialize writer.needsSeparator arguments := by
  induction arguments generalizing writer with
  | nil => exact (List.append_nil _).symm
  | cons argument arguments inductionHypothesis =>
      cases argument with
      | none =>
          rw [writeElements, inductionHypothesis, writeValue, text_write, elementsText]
          simp only [List.append_assoc]
          rfl
      | some value =>
          rw [writeElements, elementsText, inductionHypothesis]
          split_ifs with isLast
          · rw [text_writeWithObjectSerializer]
            simp only [List.append_assoc, List.nil_append]
            rfl
          · rw [text_bypass _ _ rfl, text_writeWithObjectSerializer]
            simp only [List.append_assoc]
            rfl

theorem writes_arguments (writer : Utf8JsonWriter) (arguments : Option (List (Option α))) :
    WritesMembers writer (argumentMembers (elementsText serialize false) arguments)
      (writeArguments serialize writer arguments) := by
  cases arguments with
  | none => exact Continues.refl writer
  | some arguments =>
      exact Continues.bracketed (utf8 "arguments")
        (elementsText serialize false arguments) 0x5b 0x5d
        (text_writeElements serialize _ arguments)

/-- An object or null is written as the last member. -/
theorem text_writeObject (writer : Utf8JsonWriter) (name : Bytes) (value : Option α) :
    (writeObject serialize writer name value).text = writer.text ++
      separated writer.needsSeparator [memberText (name, argumentText serialize value)] := by
  rw [separated, separated, memberText]
  cases value with
  | none =>
      rw [writeObject, writeValue, text_write, writePropertyName, text_write]
      simp only [List.append_assoc, List.append_nil]
      rfl
  | some value =>
      rw [writeObject, text_writeWithObjectSerializer, writePropertyName, text_write]
      simp only [List.append_assoc, List.append_nil]
      rfl

theorem writes_invocation (writer : Utf8JsonWriter) (type : String) (invocation : Invocation) :
    WritesMembers writer (invocationMembers escape type invocation)
      (writeInvocationId escape (writeHeaders escape (writeMessageType writer type) invocation)
        invocation) :=
  writesMembers_append
    (writesMembers_append (writes_member writer _ _) (writes_headers escape _ invocation))
    (writes_invocationId escape _ invocation)

/-- The text behind the last member. -/
theorem output_of_text {output : Bytes} {writer : Utf8JsonWriter} {members : List (Bytes × Bytes)}
    (written : writer.text = (writeStartObject { output }).text ++
      separated false (members.map memberText)) :
    (writer.writeEnd 0x7d).flush.output = output ++ objectText members := by
  show (writer.writeEnd 0x7d).text = _
  rw [text_writeEnd, written, separated_false]
  show output ++ [0x7b] ++ _ ++ _ = _
  simp only [List.append_assoc]
  rfl

theorem output_of_writes {output : Bytes} {writer : Utf8JsonWriter}
    {members : List (Bytes × Bytes)}
    (writes : WritesMembers (writeStartObject { output }) members writer) :
    (writer.writeEnd 0x7d).flush.output = output ++ objectText members :=
  output_of_text writes.text

/-- Members, and an object behind them. -/
theorem output_of_object {output : Bytes} {writer : Utf8JsonWriter}
    {members : List (Bytes × Bytes)}
    (writes : WritesMembers (writeStartObject { output }) members writer) (name : Bytes)
    (value : Option α) :
    ((writeObject serialize writer name value).writeEnd 0x7d).flush.output =
      output ++ objectText (members ++ [(name, argumentText serialize value)]) := by
  refine output_of_text ?_
  rw [text_writeObject, writes.text, writes.needsSeparator, List.map_append, separated_append,
    List.append_assoc]
  rfl

theorem writes_invocationMessage (writer : Utf8JsonWriter) (type : String) (header : Invocation)
    (target : String) (arguments : Option (List (Option α)))
    (streamIds : Option (List (Option String))) :
    WritesMembers writer
      (invocationMembers escape type header ++ [(utf8 "target", quoted (escape target))] ++
        argumentMembers (elementsText serialize false) arguments ++
        streamIdMembers escape streamIds)
      (writeInvocationMessage serialize escape
        (writeHeaders escape (writeMessageType writer type) header) header target arguments
        streamIds) :=
  writesMembers_append
    (writesMembers_append
      (writesMembers_append (writes_invocation escape writer type header)
        (writes_member _ _ _))
      (writes_arguments serialize _ arguments))
    (writes_streamIds escape _ streamIds)

/-- What is written of a message. -/
theorem writeMessage_eq {message : HubMessage α} (supported : message.isSupported = true)
    (output : Bytes) :
    writeMessage serialize escape message output = .ok (output ++
      objectText (membersWith serialize escape (elementsText serialize false) message) ++
        [recordSeparator]) := by
  have separator (bytes : Bytes)
      (core : writeMessageCore serialize escape message output = .ok (output ++ bytes)) :
      writeMessage serialize escape message output =
        .ok (output ++ bytes ++ [recordSeparator]) := by
    rw [writeMessage, core]
    rfl
  refine separator _ ?_
  cases message with
  | invocation header target arguments streamIds =>
      exact congrArg Except.ok (output_of_writes
        (writes_invocationMessage serialize escape _ "1" header target arguments streamIds))
  | streamInvocation header target arguments streamIds =>
      exact congrArg Except.ok (output_of_writes
        (writes_invocationMessage serialize escape _ "4" header target arguments streamIds))
  | streamItem header item =>
      exact congrArg Except.ok (output_of_object serialize
        (writes_invocation escape _ "2" header) (utf8 "item") item)
  | completion header error hasResult result =>
      have writes := writes_invocation escape (writeStartObject { output }) "3" header
      refine congrArg Except.ok ?_
      rw [membersWith, writeCompletionMessage]
      split_ifs
      · exact output_of_writes (writesMembers_append writes (writes_member _ _ _))
      · exact output_of_object serialize writes (utf8 "result") result
      · rw [List.append_nil]
        exact output_of_writes writes
  | cancelInvocation header =>
      exact congrArg Except.ok (output_of_writes (writes_invocation escape _ "5" header))
  | ping => exact congrArg Except.ok (output_of_writes (writes_member _ _ _))
  | unsupported fullName => cases supported

end Written

/-! ## Which documents are written -/

/-- No null argument comes before one that is not null. -/
def NullsLast (arguments : List (Option α)) : Prop :=
  arguments.Pairwise fun one next => one = none → next = none

section Elements

variable {serialize : α → Bytes}

theorem elementsText_of_none {arguments : List (Option α)}
    (none : ∀ value ∈ arguments, value = none) :
    elementsText serialize true arguments =
      separated true (arguments.map (argumentText serialize)) := by
  induction arguments with
  | nil => rfl
  | cons argument arguments inductionHypothesis =>
      obtain rfl := none argument List.mem_cons_self
      rw [elementsText, inductionHypothesis fun value member =>
        none value (List.mem_cons_of_mem _ member)]
      rfl

theorem elementsText_of_nullsLast {arguments : List (Option α)} (last : NullsLast arguments) :
    elementsText serialize false arguments =
      joined (arguments.map (argumentText serialize)) := by
  rw [← separated_false]
  induction arguments with
  | nil => rfl
  | cons argument arguments inductionHypothesis =>
      obtain ⟨here, behind⟩ := List.pairwise_cons.mp last
      cases argument with
      | none =>
          rw [elementsText, elementsText_of_none fun value member => here value member rfl]
          rfl
      | some value =>
          rw [elementsText, inductionHypothesis behind, List.map_cons, separated]
          cases arguments with
          | nil => simp [separated, comma, argumentText]
          | cons next arguments =>
              rw [if_neg (List.cons_ne_nil _ _), List.map_cons, separated, separated]
              simp only [List.append_assoc]
              rfl

theorem scan_nullText : scan .ready nullText = some .behind := by decide

/-- Behind a null, an argument that is not null is refused. -/
theorem scan_elements_behind (serializes : ∀ value, Text (serialize value))
    {arguments : List (Option α)} (some : ∃ value ∈ arguments, value ≠ none) (more : Bytes) :
    scan .behind (elementsText serialize true arguments ++ more) = none := by
  induction arguments with
  | nil =>
      obtain ⟨value, member, -⟩ := some
      cases member
  | cons argument arguments inductionHypothesis =>
      cases argument with
      | none =>
          have behind : ∃ value ∈ arguments, value ≠ none := by
            obtain ⟨value, member, notNull⟩ := some
            rcases List.mem_cons.mp member with rfl | behind
            · exact absurd rfl notNull
            · exact ⟨value, behind, notNull⟩
          show scan .ready (nullText ++ elementsText serialize true arguments ++ more) = none
          rw [List.append_assoc, scan_append, scan_nullText]
          exact inductionHypothesis behind
      | some value =>
          rw [elementsText, List.append_assoc, List.append_assoc]
          exact scan_behind_text (serializes value) _

/-- The elements are refused unless nulls come last. -/
theorem scan_elements (serializes : ∀ value, Text (serialize value))
    {arguments : List (Option α)} (notLast : ¬ NullsLast arguments) (more : Bytes) :
    scan .ready (elementsText serialize false arguments ++ more) = none := by
  induction arguments with
  | nil => exact absurd List.Pairwise.nil notLast
  | cons argument arguments inductionHypothesis =>
      rw [NullsLast, List.pairwise_cons] at notLast
      cases argument with
      | none =>
          have behind : ∃ value ∈ arguments, value ≠ none := by
            by_contra none
            push Not at none
            refine notLast ⟨fun value member _ => none value member, ?_⟩
            exact List.pairwise_of_forall_mem_list fun _ _ other member _ => none other member
          show scan .ready (nullText ++ elementsText serialize true arguments ++ more) = none
          rw [List.append_assoc, scan_append, scan_nullText]
          exact scan_elements_behind serializes behind more
      | some value =>
          have rest : ¬ NullsLast arguments := fun last => notLast ⟨nofun, last⟩
          have nonempty : arguments ≠ [] := by
            rintro rfl
            exact rest List.Pairwise.nil
          obtain ⟨mode, scanned, settled⟩ := settles_of_derives (serializes value)
          rw [elementsText, if_neg nonempty, List.append_assoc, List.append_assoc, scan_append,
            scanned]
          show (step mode 0x2c).bind _ = none
          rw [settled.comma]
          exact inductionHypothesis rest

end Elements

/-! ## Messages -/

section Messages

variable {serialize : α → Bytes} {escape : String → Bytes}

theorem text_string {body : Bytes} (isBody : StringBody body) : Text (quoted body) :=
  text_of_wellFormed (.string isBody)

theorem text_null : Text nullText := text_of_wellFormed (.literal (by decide))

theorem text_stringText (escapes : ∀ text, StringBody (escape text)) (text : Option String) :
    Text (stringText escape text) := by
  cases text with
  | none => exact text_null
  | some text => exact text_string (escapes text)

theorem text_argumentText (serializes : ∀ value, Text (serialize value)) (argument : Option α) :
    Text (argumentText serialize argument) := by
  cases argument with
  | none => exact text_null
  | some value => exact serializes value

/-- A name of a property, all of whose characters are plain. -/
def IsMember (member : Bytes × Bytes) : Prop := StringBody member.1 ∧ Text member.2

theorem isMember_of_plain {name value : Bytes} (plain : ∀ byte ∈ name, isPlain byte = true)
    (isText : Text value) : IsMember (name, value) :=
  ⟨stringBody_of_plain plain, isText⟩

theorem invocationMembers_all (escapes : ∀ text, StringBody (escape text)) {type : String}
    (isType : Text (utf8 type)) (invocation : Invocation) :
    ∀ member ∈ invocationMembers escape type invocation, IsMember member := by
  intro member isMember
  rw [invocationMembers] at isMember
  rcases List.mem_append.mp isMember with front | isInvocationId
  · rcases List.mem_append.mp front with isType' | isHeader
    · rw [List.mem_singleton.mp isType']
      exact isMember_of_plain (by decide +kernel) isType
    · rw [headerMembers] at isHeader
      split at isHeader
      · cases isHeader
      · cases isHeader
      · rw [List.mem_singleton.mp isHeader]
        refine isMember_of_plain (by decide +kernel) (text_of_wellFormed (wellFormed_objectText ?_))
        intro pair inHeaders
        obtain ⟨header, -, rfl⟩ := List.mem_map.mp inHeaders
        exact ⟨escapes header.1, text_stringText escapes header.2⟩
  · rw [invocationIdMembers] at isInvocationId
    split_ifs at isInvocationId
    · cases isInvocationId
    · rw [List.mem_singleton.mp isInvocationId]
      exact isMember_of_plain (by decide +kernel) (text_string (escapes _))

theorem streamIdMembers_all (escapes : ∀ text, StringBody (escape text))
    (streamIds : Option (List (Option String))) :
    ∀ member ∈ streamIdMembers escape streamIds, IsMember member := by
  intro member isMember
  cases streamIds with
  | none => cases isMember
  | some streamIds =>
      rw [List.mem_singleton.mp isMember]
      refine isMember_of_plain (by decide +kernel) (text_of_wellFormed (wellFormed_arrayText ?_))
      intro element inArray
      obtain ⟨streamId, -, rfl⟩ := List.mem_map.mp inArray
      exact text_stringText escapes streamId

theorem target_isMember (escapes : ∀ text, StringBody (escape text)) (target : String) :
    ∀ member ∈ [(utf8 "target", quoted (escape target))], IsMember member := by
  intro member isMember
  rw [List.mem_singleton.mp isMember]
  exact isMember_of_plain (by decide +kernel) (text_string (escapes target))

theorem argumentMembers_all (serializes : ∀ value, Text (serialize value))
    (arguments : Option (List (Option α))) :
    ∀ member ∈ argumentMembers
      (fun arguments => joined (arguments.map (argumentText serialize))) arguments,
      IsMember member := by
  intro member isMember
  cases arguments with
  | none => cases isMember
  | some arguments =>
      rw [List.mem_singleton.mp isMember]
      refine isMember_of_plain (by decide +kernel) (text_of_wellFormed (wellFormed_arrayText ?_))
      intro element inArray
      obtain ⟨argument, -, rfl⟩ := List.mem_map.mp inArray
      exact text_argumentText serializes argument

theorem forall_append {members more : List (Bytes × Bytes)}
    (front : ∀ member ∈ members, IsMember member) (back : ∀ member ∈ more, IsMember member) :
    ∀ member ∈ members ++ more, IsMember member := by
  intro member inBoth
  rcases List.mem_append.mp inBoth with inFront | inBack
  · exact front member inFront
  · exact back member inBack

/-- A message type is a digit. -/
theorem text_digit {digit : UInt8} (nonzero : 0x31 ≤ digit ∧ digit ≤ 0x39) : Text [digit] := by
  refine text_of_wellFormed (.number ⟨[], [digit], [], [], rfl, .inl rfl, ?_, .inl rfl, .inl rfl⟩)
  exact .digits nonzero nofun

/-- What stands in front of the arguments. -/
def frontMembers (escape : String → Bytes) (type : String) (header : Invocation)
    (target : String) : List (Bytes × Bytes) :=
  invocationMembers escape type header ++ [(utf8 "target", quoted (escape target))]

theorem frontMembers_all (escapes : ∀ text, StringBody (escape text)) {type : String}
    (isType : Text (utf8 type)) (header : Invocation) (target : String) :
    ∀ member ∈ frontMembers escape type header target, IsMember member :=
  forall_append (invocationMembers_all escapes isType header) (target_isMember escapes target)

theorem members_all (serializes : ∀ value, Text (serialize value))
    (escapes : ∀ text, StringBody (escape text)) (message : HubMessage α) :
    ∀ member ∈ members serialize escape message, IsMember member := by
  cases message with
  | invocation header target arguments streamIds =>
      have isType : Text (utf8 "1") := text_digit (by decide)
      have front := frontMembers_all escapes isType header target
      exact forall_append (forall_append front (argumentMembers_all serializes arguments))
        (streamIdMembers_all escapes streamIds)
  | streamInvocation header target arguments streamIds =>
      have isType : Text (utf8 "4") := text_digit (by decide)
      have front := frontMembers_all escapes isType header target
      exact forall_append (forall_append front (argumentMembers_all serializes arguments))
        (streamIdMembers_all escapes streamIds)
  | streamItem header item =>
      have isType : Text (utf8 "2") := text_digit (by decide)
      refine forall_append (invocationMembers_all escapes isType header) ?_
      intro member isItem
      rw [List.mem_singleton.mp isItem]
      exact isMember_of_plain (by decide +kernel) (text_argumentText serializes item)
  | completion header error hasResult result =>
      have isType : Text (utf8 "3") := text_digit (by decide)
      refine forall_append (invocationMembers_all escapes isType header) ?_
      intro member isLast
      split_ifs at isLast
      · rw [List.mem_singleton.mp isLast]
        exact isMember_of_plain (by decide +kernel) (text_string (escapes _))
      · rw [List.mem_singleton.mp isLast]
        exact isMember_of_plain (by decide +kernel) (text_argumentText serializes result)
      · cases isLast
  | cancelInvocation header =>
      have isType : Text (utf8 "5") := text_digit (by decide)
      exact invocationMembers_all escapes isType header
  | ping =>
      intro member isType
      rw [List.mem_singleton.mp isType]
      exact isMember_of_plain (by decide +kernel) (text_digit (by decide))
  | unsupported fullName => nofun

/-- The document of a message is well-formed. -/
theorem wellFormed_members (serializes : ∀ value, Text (serialize value))
    (escapes : ∀ text, StringBody (escape text)) (message : HubMessage α) :
    WellFormed (objectText (members serialize escape message)) :=
  wellFormed_objectText (members_all serializes escapes message)

theorem argumentMembers_of_nullsLast {arguments : Option (List (Option α))}
    (last : NullsLast (arguments.getD [])) :
    argumentMembers (elementsText serialize false) arguments =
      argumentMembers (fun arguments => joined (arguments.map (argumentText serialize)))
        arguments := by
  cases arguments with
  | none => rfl
  | some arguments =>
      have same : elementsText serialize false arguments = _ := elementsText_of_nullsLast last
      rw [argumentMembers, argumentMembers, same]

/-- Nulls last, the two writers make the document. -/
theorem membersWith_of_nullsLast {message : HubMessage α} (last : NullsLast message.arguments) :
    membersWith serialize escape (elementsText serialize false) message =
      members serialize escape message := by
  cases message with
  | invocation header target arguments streamIds =>
      rw [members, membersWith, membersWith, argumentMembers_of_nullsLast last]
  | streamInvocation header target arguments streamIds =>
      rw [members, membersWith, membersWith, argumentMembers_of_nullsLast last]
  | _ => rfl

/-- The members of a message with arguments: some, the arguments, and what is behind them. -/
theorem membersWith_of_not_nullsLast (serialize : α → List UInt8)
    (escapes : ∀ text, StringBody (escape text)) {message : HubMessage α}
    (notLast : ¬ NullsLast message.arguments) :
    ∃ front back, (∀ member ∈ front, IsMember member) ∧ front ≠ [] ∧
      membersWith serialize escape (elementsText serialize false) message =
        front ++ (utf8 "arguments",
          0x5b :: (elementsText serialize false message.arguments ++ [0x5d])) :: back := by
  have nonempty (type : String) (header : Invocation) (target : String) :
      frontMembers escape type header target ≠ [] :=
    List.append_ne_nil_of_right_ne_nil _ (List.cons_ne_nil _ _)
  cases message with
  | invocation header target arguments streamIds =>
      cases arguments with
      | none => exact absurd List.Pairwise.nil notLast
      | some arguments =>
          have isType : Text (utf8 "1") := text_digit (by decide)
          refine ⟨frontMembers escape "1" header target, streamIdMembers escape streamIds,
            frontMembers_all escapes isType header target, nonempty _ _ _, ?_⟩
          rw [membersWith, List.append_assoc]
          rfl
  | streamInvocation header target arguments streamIds =>
      cases arguments with
      | none => exact absurd List.Pairwise.nil notLast
      | some arguments =>
          have isType : Text (utf8 "4") := text_digit (by decide)
          refine ⟨frontMembers escape "4" header target, streamIdMembers escape streamIds,
            frontMembers_all escapes isType header target, nonempty _ _ _, ?_⟩
          rw [membersWith, List.append_assoc]
          rfl
  | _ => exact absurd List.Pairwise.nil notLast

/-- Otherwise what they make is no JSON. -/
theorem not_wellFormed_of_not_nullsLast (serializes : ∀ value, Text (serialize value))
    (escapes : ∀ text, StringBody (escape text)) {message : HubMessage α}
    (notLast : ¬ NullsLast message.arguments) :
    ¬ WellFormed
      (objectText (membersWith serialize escape (elementsText serialize false) message)) := by
  obtain ⟨front, back, all, nonempty, written⟩ :=
    membersWith_of_not_nullsLast serialize escapes notLast
  rw [written]
  refine not_wellFormed_of_scan
    (scan_objectText_of_member nonempty all
      (stringBody_of_plain (by decide +kernel)) fun more => ?_)
  show scan .ready (elementsText serialize false message.arguments ++ [0x5d] ++ more) = none
  rw [List.append_assoc]
  exact scan_elements serializes notLast _

/-- What is written of a message is its document exactly if no null argument comes before one that
is not null; otherwise it is no JSON at all. -/
theorem hub_message_json (serializes : ∀ value, Text (serialize value))
    (escapes : ∀ text, StringBody (escape text)) (message : HubMessage α)
    (supported : message.isSupported = true) (output : Bytes) :
    ∃ bytes, writeMessage serialize escape message output =
        .ok (output ++ bytes ++ [recordSeparator]) ∧
      (IsDocument serialize escape message bytes ↔ NullsLast message.arguments) ∧
      (WellFormed bytes ↔ NullsLast message.arguments) := by
  refine ⟨_, writeMessage_eq serialize escape supported output, ?_⟩
  have document (last : NullsLast message.arguments) : IsDocument serialize escape message
      (objectText (membersWith serialize escape (elementsText serialize false) message)) := by
    rw [membersWith_of_nullsLast last]
    exact ⟨wellFormed_members serializes escapes message, rfl⟩
  have last (wellFormed : WellFormed
      (objectText (membersWith serialize escape (elementsText serialize false) message))) :
      NullsLast message.arguments := by
    by_contra notLast
    exact not_wellFormed_of_not_nullsLast serializes escapes notLast wellFormed
  constructor
  · exact ⟨fun isDocument => last isDocument.wellFormed, document⟩
  · exact ⟨last, fun isLast => (document isLast).wellFormed⟩

end Messages

/-! ### A serializer of truth values -/

def booleanText (value : Bool) : Bytes := utf8 (if value then "true" else "false")

/-- An escape that keeps the plain characters. -/
def plainText (text : String) : Bytes := (utf8 text).filter isPlain

theorem text_booleanText (value : Bool) : Text (booleanText value) := by
  cases value with
  | false => exact text_of_wellFormed (.literal (by decide))
  | true => exact text_of_wellFormed (.literal (by decide))

theorem stringBody_plainText (text : String) : StringBody (plainText text) :=
  stringBody_of_plain fun _ member => (List.mem_filter.mp member).2

/-- The client's method and its arguments. -/
def invocationOf (arguments : List (Option Bool)) : HubMessage Bool :=
  .invocation {} "Receive" (some arguments) none

theorem hub_message_json_two : ∃ bytes,
    writeMessage booleanText plainText (invocationOf [some true, none]) [] =
        .ok ([] ++ bytes ++ [recordSeparator]) ∧
      (IsDocument booleanText plainText (invocationOf [some true, none]) bytes ↔
        NullsLast (invocationOf [some true, none]).arguments) ∧
      (WellFormed bytes ↔ NullsLast (invocationOf [some true, none]).arguments) :=
  hub_message_json text_booleanText stringBody_plainText (invocationOf [some true, none]) rfl []

/-- A null in front of a value: `[nulltrue]`. -/
theorem null_before_value_not_json :
    writeMessage booleanText plainText (invocationOf [none, some true]) [] =
        .ok (utf8 "\x7b\"type\":1,\"target\":\"Receive\",\"arguments\":[nulltrue]\x7d" ++
          [recordSeparator]) ∧
      ¬ WellFormed (utf8 "\x7b\"type\":1,\"target\":\"Receive\",\"arguments\":[nulltrue]\x7d") :=
  ⟨by decide, not_wellFormed_of_scan (by decide)⟩

end JsonObjectSerializerHubProtocol

end AzureSignalR.Management
