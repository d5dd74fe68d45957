import Faultline.Failure.Basic
import Faultline.Traffic

/-! # Flows

A flow is one request on its way through the proxy, with what has been decided about it: an answer
in place of the server's, or the end of the connection. What can be done to a flow may be refused,
and then nothing has been done.
-/

namespace Faultline.Exchange

structure Request where
  method : String
  host : String
  path : String
  url : String
  body : ByteArray

def Request.operation? (r : Request) : Option Operation := Traffic.classify r.method r.host r.path

/-- The server's answer. Its body may turn out to be unreadable. -/
structure Response where
  status : Number
  body : Except Thrown ByteArray

/-- An answer in place of the server's. -/
structure Synthetic where
  status : Number
  body : String
  headers : List (String × String)
  deriving DecidableEq

def Synthetic.text (status : Number) (body : String) : Synthetic :=
  ⟨status, body, [("Content-Type", "text/plain")]⟩

/-- What a flow throws when something is done to it. -/
structure Refusals where
  respond : Option Thrown
  kill : Option Thrown
  revert : Option Thrown

def Refusals.none : Refusals := ⟨.none, .none, .none⟩

structure Flow where
  request : Request
  response : Option Response
  synthetic : Option Synthetic
  killed : Bool
  refusals : Refusals

namespace Flow

def ofRequest (request : Request) (refusals : Refusals) : Flow :=
  ⟨request, none, none, false, refusals⟩

def respond (f : Flow) (s : Synthetic) : Except Thrown Flow :=
  match f.refusals.respond with
  | some t => .error t
  | none => .ok { f with synthetic := some s }

def kill (f : Flow) : Except Thrown Flow :=
  match f.refusals.kill with
  | some t => .error t
  | none => .ok { f with killed := true }

def revert (f : Flow) : Except Thrown Flow :=
  match f.refusals.revert with
  | some t => .error t
  | none => .ok { f with synthetic := none, killed := false }

end Flow

end Faultline.Exchange
