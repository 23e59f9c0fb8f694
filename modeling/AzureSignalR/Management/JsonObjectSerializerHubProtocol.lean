import AzureSignalR.Common.BinaryMessage
import AzureSignalR.Library.Json

/-!
Contract: hub messages as JSON texts, of which the serializer writes the arguments.

Owns: `JsonObjectSerializerHubProtocol.WriteMessage` with the JSON writer it shares the output
with, and the messages whose text is well-formed.

Does not own: the serializer of objects and the escaping of strings, which are parameters. An
object is any value that is not null.
-/

set_option autoImplicit false

namespace AzureSignalR.Management

open Library.Json

/-! ## The JSON writer -/

/-- `Utf8JsonWriter` without validation. What it has written stays pending until `Flush`, and it
writes a comma in front of a value when the token before it, of its own, was one. -/
structure Utf8JsonWriter where
  output : Bytes
  pending : Bytes := []
  needsSeparator : Bool := false
deriving DecidableEq, Repr

def utf8 (text : String) : Bytes := text.toByteArray.data.toList

namespace Utf8JsonWriter

/-- The bytes of a token, behind a comma where one is due. -/
def write (writer : Utf8JsonWriter) (bytes : Bytes) (needsSeparator : Bool) : Utf8JsonWriter :=
  { writer with
    pending := writer.pending ++ (if writer.needsSeparator then [0x2c] else []) ++ bytes
    needsSeparator := needsSeparator }

def writeStartObject (writer : Utf8JsonWriter) : Utf8JsonWriter := writer.write [0x7b] false

def writePropertyName (writer : Utf8JsonWriter) (name : Bytes) : Utf8JsonWriter :=
  writer.write (quoted name ++ [0x3a]) false

/-- `WriteStartObject` or `WriteStartArray` of a property. -/
def writeStart (writer : Utf8JsonWriter) (name : Bytes) (opening : UInt8) : Utf8JsonWriter :=
  writer.write (quoted name ++ [0x3a, opening]) false

/-- `WriteEndObject` or `WriteEndArray`. -/
def writeEnd (writer : Utf8JsonWriter) (closing : UInt8) : Utf8JsonWriter :=
  { writer with pending := writer.pending ++ [closing], needsSeparator := true }

def writeValue (writer : Utf8JsonWriter) (value : Bytes) : Utf8JsonWriter := writer.write value true

def writeMember (writer : Utf8JsonWriter) (name value : Bytes) : Utf8JsonWriter :=
  writer.write (quoted name ++ 0x3a :: value) true

def flush (writer : Utf8JsonWriter) : Utf8JsonWriter :=
  { writer with output := writer.output ++ writer.pending, pending := [] }

/-- Somebody else writes to the output. -/
def bypass (writer : Utf8JsonWriter) (bytes : Bytes) : Utf8JsonWriter :=
  { writer with output := writer.output ++ bytes }

end Utf8JsonWriter

/-! ## Messages -/

variable {α : Type}

/-- `HubInvocationMessage`: the headers are those of its dictionary. -/
structure Invocation where
  invocationId : Option String := none
  headers : Option (List (String × Option String)) := none
deriving DecidableEq, Repr

/-- A hub message; `none` stands for null. -/
inductive HubMessage (α : Type) where
  | invocation (invocation : Invocation) (target : String) (arguments : Option (List (Option α)))
      (streamIds : Option (List (Option String)))
  | streamInvocation (invocation : Invocation) (target : String)
      (arguments : Option (List (Option α))) (streamIds : Option (List (Option String)))
  | streamItem (invocation : Invocation) (item : Option α)
  | completion (invocation : Invocation) (error : Option String) (hasResult : Bool)
      (result : Option α)
  | cancelInvocation (invocation : Invocation)
  | ping
  /-- Another class. -/
  | unsupported (fullName : String)
deriving DecidableEq, Repr

namespace JsonObjectSerializerHubProtocol

def nullText : Bytes := utf8 "null"

variable (serialize : α → Bytes) (escape : String → Bytes)

/-- A string or null. -/
def stringText : Option String → Bytes
  | none => nullText
  | some text => quoted (escape text)

section Write

open Utf8JsonWriter

variable (writer : Utf8JsonWriter)

def writeMessageType (type : String) : Utf8JsonWriter :=
  writer.writeMember (utf8 "type") (utf8 type)

def writeHeaders (invocation : Invocation) : Utf8JsonWriter :=
  match invocation.headers with
  | none | some [] => writer
  | some headers =>
      (headers.foldl
        (fun writer header => writer.writeMember (escape header.1) (stringText escape header.2))
        (writer.writeStart (utf8 "headers") 0x7b)).writeEnd 0x7d

def writeInvocationId (invocation : Invocation) : Utf8JsonWriter :=
  if invocation.invocationId.getD "" = "" then writer
  else writer.writeMember (utf8 "invocationId") (quoted (escape (invocation.invocationId.getD "")))

def writeStreamIds (streamIds : Option (List (Option String))) : Utf8JsonWriter :=
  match streamIds with
  | none => writer
  | some streamIds =>
      (streamIds.foldl (fun writer streamId => writer.writeValue (stringText escape streamId))
        (writer.writeStart (utf8 "streamIds") 0x5b)).writeEnd 0x5d

def writeWithObjectSerializer (value : α) : Utf8JsonWriter := writer.flush.bypass (serialize value)

/-- The loop over the arguments: a comma that is not the writer's follows each that is not null,
save the last. -/
def writeElements (writer : Utf8JsonWriter) : List (Option α) → Utf8JsonWriter
  | [] => writer
  | none :: arguments => writeElements (writer.writeValue nullText) arguments
  | some argument :: arguments =>
      let written := writeWithObjectSerializer serialize writer argument
      writeElements (if arguments = [] then written else written.bypass [0x2c]) arguments

def writeArguments (arguments : Option (List (Option α))) : Utf8JsonWriter :=
  match arguments with
  | none => writer
  | some arguments =>
      (writeElements serialize (writer.writeStart (utf8 "arguments") 0x5b) arguments).writeEnd 0x5d

/-- `WriteNullValue`, or the serializer. -/
def writeObject (name : Bytes) (value : Option α) : Utf8JsonWriter :=
  match value with
  | none => (writer.writePropertyName name).writeValue nullText
  | some value => writeWithObjectSerializer serialize (writer.writePropertyName name) value

def writeInvocationMessage (invocation : Invocation) (target : String)
    (arguments : Option (List (Option α))) (streamIds : Option (List (Option String))) :
    Utf8JsonWriter :=
  let writer := writeInvocationId escape writer invocation
  let writer := writer.writeMember (utf8 "target") (quoted (escape target))
  let writer := writeArguments serialize writer arguments
  writeStreamIds escape writer streamIds

def writeStreamItemMessage (invocation : Invocation) (item : Option α) : Utf8JsonWriter :=
  writeObject serialize (writeInvocationId escape writer invocation) (utf8 "item") item

def writeCompletionMessage (invocation : Invocation) (error : Option String) (hasResult : Bool)
    (result : Option α) : Utf8JsonWriter :=
  let writer := writeInvocationId escape writer invocation
  if error.getD "" ≠ "" then writer.writeMember (utf8 "error") (quoted (escape (error.getD "")))
  else if hasResult then writeObject serialize writer (utf8 "result") result
  else writer

end Write

/-- `WriteMessageCore` on the writer it has got for the output. -/
def writeMessageCore (message : HubMessage α) (output : Bytes) : Except Exn Bytes :=
  let writer := Utf8JsonWriter.writeStartObject { output }
  let invocation (type : String) (invocation : Invocation) :=
    writeHeaders escape (writeMessageType writer type) invocation
  let finish (writer : Utf8JsonWriter) := Except.ok (writer.writeEnd 0x7d).flush.output
  match message with
  | .invocation header target arguments streamIds =>
      finish (writeInvocationMessage serialize escape (invocation "1" header) header target
        arguments streamIds)
  | .streamInvocation header target arguments streamIds =>
      finish (writeInvocationMessage serialize escape (invocation "4" header) header target
        arguments streamIds)
  | .streamItem header item =>
      finish (writeStreamItemMessage serialize escape (invocation "2" header) header item)
  | .completion header error hasResult result =>
      finish (writeCompletionMessage serialize escape (invocation "3" header) header error hasResult
        result)
  | .cancelInvocation header => finish (writeInvocationId escape (invocation "5" header) header)
  | .ping => finish (writeMessageType writer "6")
  | .unsupported fullName => .error (.invalidOperation s!"Unsupported message type: {fullName}")

def recordSeparator : UInt8 := 0x1e

def writeMessage (message : HubMessage α) (output : Bytes) : Except Exn Bytes := do
  let written ← writeMessageCore serialize escape message output
  pure (written ++ [recordSeparator])

end JsonObjectSerializerHubProtocol

end AzureSignalR.Management
