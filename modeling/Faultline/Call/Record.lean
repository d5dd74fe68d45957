import Faultline.Failure.Basic

/-! # Call records

What is remembered of a request: a Thrift call with its decoded message, or a download.
-/

namespace Faultline.Call

/-- A decoded Thrift message. A decoder may add members of its own (`extras`), which are shown and
    not recorded. -/
structure Message where
  method : String
  messageType : String
  sequenceId : Number
  fields : Json
  extras : Members
  deriving DecidableEq

/-- One remembered request. -/
inductive Record where
  | thrift (time : Instant) (method messageType : String) (sequenceId : Number) (fields : Json)
  | download (time : Instant) (url : String)
  deriving DecidableEq

namespace Record

def ofMessage (time : Instant) (m : Message) : Record :=
  .thrift time m.method m.messageType m.sequenceId m.fields

def time : Record → Instant
  | thrift time .. | download time _ => time

/-- The method of a Thrift call; a download has none. -/
def method? : Record → Option String
  | thrift _ method .. => some method
  | download .. => none

def document (r : Record) : Except Failure Json :=
  r.time.text.map fun stamp =>
    match r with
    | thrift _ method messageType sequenceId fields =>
      .object [("timestamp", .string stamp), ("type", .string "thrift"),
        ("method", .string method), ("message_type", .string messageType),
        ("sequence_id", .number sequenceId), ("fields", fields)]
    | download _ url =>
      .object [("timestamp", .string stamp), ("type", .string "cloud_download"),
        ("url", .string url)]

end Record

/-- The methods of the Thrift calls among the records, in order. -/
def methods (records : List Record) : List String := records.filterMap Record.method?

end Faultline.Call
