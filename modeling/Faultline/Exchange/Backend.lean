import Faultline.Call.Recorder
import Faultline.Exchange.Flow
import Faultline.Exchange.Route

/-! # The server behind the proxy

What the server does with a request that is sent on to it, what of that the proxy captures, and what
the client is told.
-/

namespace Faultline.Exchange

def component : String := "data-plane"

/-- What is done about the client. -/
inductive Client where
  /-- This is handed over to be sent. A status that allows no body is sent without it. -/
  | written (status : Number) (contentType : Option String) (body : ByteArray)
  /-- The connection was cut. -/
  | destroyed

/-- When sending on fails. -/
inductive Stage where
  /-- Nothing has been written to the client. -/
  | before
  /-- Status and type have been written, and a first part of the answer. -/
  | partway (status : Number) (contentType : Option String) (part : ByteArray)
  /-- What fails is a bare connection and not the answer to the client, about whom this is done. -/
  | beside (client : Client)

/-- What the server does. -/
inductive Backend where
  /-- It answers in chunks. The answer is captured only if it belongs to a request that the proxy
      knows. -/
  | responds (status : Option Number) (contentType : Option String) (chunks : List ByteArray)
    (known : Bool)
  | fails (error : Failure) (stage : Stage)

/-- A request as it is sent on. -/
structure Forwarded where
  target : String
  method : String
  path : String
  body : ByteArray
  /-- For a bare connection, whether it was cut. -/
  socketDestroyed : Option Bool

/-- How an exchange ends. -/
structure Ending where
  client : Client
  forwarded : Option Forwarded

def plainType : String := "text/plain"
def binaryType : String := "application/octet-stream"

/-- An answer of bytes of no particular type. -/
def Backend.answers (status : Option Number) (chunks : List ByteArray) (known : Bool) : Backend :=
  .responds status (some binaryType) chunks known

/-- Sending on fails behind the first word of a successful answer. -/
def Stage.during : Stage := .partway (.ofNat 200) (some plainType) "partial ".toUTF8

/-- A bare connection fails while the client gets a mere sign. -/
def Stage.unframed : Stage := .beside (.written (.ofNat 200) none "-".toUTF8)

def badGatewayText : String := "Bad Gateway"
def noTargetText : String := "No upstream target configured"

def plainAnswer (status : Nat) (text : String) : Client :=
  .written (.ofNat status) (some plainType) text.toUTF8

def badGateway : Client := plainAnswer 502 badGatewayText

/-! ## Capture -/

/-- The greatest number of bytes that are captured of an answer. -/
def captureLimit : Nat := 4 * 1024 * 1024

/-- The bytes that were captured, unless there were too many. -/
abbrev Capture := Option ByteArray

def Capture.feed (c : Capture) (chunk : ByteArray) : Capture :=
  c.bind fun bytes => if captureLimit < bytes.size + chunk.size then none else some (bytes ++ chunk)

def capture (chunks : List ByteArray) : Capture := chunks.foldl Capture.feed (some .empty)

def whole (chunks : List ByteArray) : ByteArray := chunks.foldl (· ++ ·) .empty

/-! ## The response hook -/

/-- Looks at the answer of a Thrift call; it is decoded and not recorded. -/
def inspect (decoder : Option Call.Decoder) (body : Except Thrown ByteArray) :
    Except Thrown (Option Call.Message) × List Notice :=
  match body with
  | .error t => (.error t, [])
  | .ok payload =>
    match Call.Recorder.decode decoder .response payload with
    | (.ok message, notices) => (.ok message, notices)
    | (.error f, notices) => (.error (.failure f), notices)

/-- What is told of a hook that failed. What was thrown may have no text; then the hook fails once
    more, and nobody is left to be told. -/
def hookFailed (message : String) (t : Thrown) (context : Members) : List Notice :=
  match t.wrap with
  | .ok f => [.failureLine "fault-addon" message f context]
  | .error _ => []

def responseHook (decoder : Option Call.Decoder) (flow : Flow) : List Notice :=
  match flow.response, flow.request.operation? with
  | some response, some .thriftCall =>
    match inspect decoder response.body with
    | (.ok _, notices) => notices
    | (.error t, notices) =>
      notices ++ hookFailed "Response hook failed" t [("url", .string flow.request.url)]
  | _, _ => []

/-! ## Sending on -/

/-- The status that the client is told of an answer. -/
def clientStatus (status : Option Number) : Number :=
  (status.filter (· ≠ .ofNat 0)).getD (.ofNat 200)

/-- Sends a request on and brings back what the server says. -/
def contact (decoder : Option Call.Decoder) (flow : Flow) (target path : String) (b : Backend) :
    Done Flow Ending :=
  let forwarded : Forwarded :=
    ⟨target, flow.request.method, path, flow.request.body, none⟩
  match b with
  | .responds status contentType chunks known =>
    let client := Client.written (clientStatus status) contentType (whole chunks)
    match known, capture chunks with
    | true, some body =>
      let answered := { flow with response := some ⟨status.getD (.ofNat 0), .ok body⟩ }
      ⟨⟨client, some forwarded⟩, answered, responseHook decoder answered⟩
    | _, _ => .nothing flow ⟨client, some forwarded⟩
  | .fails error stage =>
    let failed := [Notice.failureLine component "Upstream error" error []]
    match stage with
    | .before => ⟨⟨badGateway, some forwarded⟩, flow, failed⟩
    | .partway status contentType part =>
      let client := Client.written status contentType (part ++ badGatewayText.toUTF8)
      ⟨⟨client, some forwarded⟩, flow, failed⟩
    | .beside client =>
      ⟨⟨client, some { forwarded with socketDestroyed := some true }⟩, flow, failed⟩

end Faultline.Exchange
