import Faultline.Call.Record
import Faultline.Json.Reader
import Faultline.Number.Numeral
import Faultline.Text.Utf8

/-! # Decoders

A decoder makes messages of payloads and tells what a message is in a line. It comes from outside:
it may refuse a payload, and it may throw. The decoders here read two plain notations.
-/

namespace Faultline.Call

structure Decoder where
  /-- The message of a payload, or why it is none. -/
  decode : ByteArray → Except Thrown (Except String Message)
  /-- A line about a message. -/
  format : Message → Except Thrown String

namespace Decoder

def isLetter (c : Char) : Bool := ('a' ≤ c && c ≤ 'z') || ('A' ≤ c && c ≤ 'Z')

/-- Reads a method of letters, a colon and a sequence number. -/
def readPlain? (text : List Char) : Option Message :=
  let method := text.takeWhile isLetter
  match text.dropWhile isLetter with
  | ':' :: digits =>
    if method.isEmpty || digits.isEmpty || !digits.all (fun c => '0' ≤ c && c ≤ '9') then none
    else (Number.ofNumeral? (String.ofList digits)).map fun n =>
      ⟨String.ofList method, "CALL", n, .empty, []⟩
  | _ => none

/-- A decoder of calls written as `Method:1`. -/
def plain : Decoder where
  decode payload := .ok <|
    match readPlain? (Text.Utf8.decode payload).toList with
    | some m => .ok m
    | none => .error "not a thrift message"
  format m := .ok (m.method ++ "#" ++ m.sequenceId.text)

/-- The names of the members that make up a message. -/
def messageKeys : List String := ["method", "messageType", "sequenceId", "fields"]

def ofDocument (v : Json) : Message where
  method := ((v.get? "method").bind Json.string?).getD ""
  messageType := ((v.get? "messageType").bind Json.string?).getD ""
  sequenceId := ((v.get? "sequenceId").bind Json.number?).getD (.ofNat 0)
  fields := (v.get? "fields").getD .empty
  extras := (v.members?.getD []).filter fun m => !messageKeys.contains m.1

def document : Decoder where
  decode payload := .ok <|
    match Json.read? (Text.Utf8.decode payload).toList with
    | some v => .ok (ofDocument v)
    | none => .error "payload is not JSON"
  format m := .ok (m.messageType ++ " " ++ m.method)

def throwing (t : Thrown) : Decoder where
  decode _ := .error t
  format _ := .error t

/-- A decoder that decodes and then throws instead of telling what it has decoded. -/
def speechless (d : Decoder) (t : Thrown) : Decoder := { d with format := fun _ => .error t }

end Decoder

/-- The message as a document, as its decoder gave it. -/
def Message.document (m : Message) : Json :=
  .object ([("method", .string m.method), ("messageType", .string m.messageType),
    ("sequenceId", .number m.sequenceId), ("fields", m.fields)] ++ m.extras)

end Faultline.Call
