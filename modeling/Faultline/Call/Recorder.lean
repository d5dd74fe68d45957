import Faultline.Call.Decoder
import Faultline.State

/-! # Recording calls

Downloads are recorded as they are. A Thrift payload is recorded if its decoder makes a message of
it and can tell what it is; what goes wrong on the way is logged and kept from the caller.
-/

namespace Faultline.Call.Recorder

def component : String := "call-recorder"

/-- Which way a payload goes. -/
inductive Direction where
  | request
  | response
  deriving DecidableEq, Repr

def Direction.name : Direction → String
  | request => "request"
  | response => "response"

def payloadContext (direction : Direction) (payload : ByteArray) : Members :=
  [("direction", .string direction.name), ("bytes", .ofNat payload.size)]

/-- What is done about a decoder that throws. Only a thrown value without a text gets through. -/
def caught (direction : Direction) (payload : ByteArray) (t : Thrown) :
    Except Failure (Option Message) × List Notice :=
  match t.wrap with
  | .error f => (.error f, [])
  | .ok f =>
    (.ok none,
      [.failureLine component "Thrift decoder raised" f (payloadContext direction payload)])

/-- The message of a payload, if there is one. -/
def decode (decoder : Option Decoder) (direction : Direction) (payload : ByteArray) :
    Except Failure (Option Message) × List Notice :=
  if payload.isEmpty then (.ok none, [])
  else match decoder with
    | none =>
      (.ok none, [.line component .debug "No Thrift decoder configured, skipping payload"
        (payloadContext direction payload)])
    | some d =>
      let given := Notice.decoding payload.size
      match d.decode payload with
      | .error t =>
        let (result, notices) := caught direction payload t
        (result, given :: notices)
      | .ok (.error message) =>
        (.ok none, [given, .line component .warn "Failed to decode Thrift payload"
          (payloadContext direction payload ++ [("error", .string message)])])
      | .ok (.ok message) =>
        match d.format message with
        | .error t =>
          let (result, notices) := caught direction payload t
          (result, given :: notices)
        | .ok text =>
          (.ok (some message),
            [given, .line component .debug ("Thrift " ++ direction.name ++ ": " ++ text) []])

def recordDownload (s : State) (now : Instant) (url : String) : Done State Record :=
  let r := Record.download now url
  ⟨r, s.append r, [.line component .debug "Recorded CloudFetch download" [("url", .string url)]]⟩

/-- Records the call in a payload, if there is one. -/
def recordThrift (s : State) (decoder : Option Decoder) (now : Instant) (payload : ByteArray) :
    Done State (Except Failure (Option Record)) :=
  let (decoded, notices) := decode decoder .request payload
  match decoded with
  | .error f => ⟨.error f, s, notices⟩
  | .ok none => ⟨.ok none, s, notices⟩
  | .ok (some message) =>
    let r := Record.ofMessage now message
    let evicted := s.history.overflow
    { result := .ok (some r)
      now := s.append r
      notices := notices ++
        [.line component .info "Recorded Thrift call"
          ([("method", .string message.method), ("sequenceId", .number message.sequenceId)] ++
            if 0 < evicted then [("evicted", .ofNat evicted)] else [])] }

end Faultline.Call.Recorder
