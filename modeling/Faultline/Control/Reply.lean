import Faultline.Failure.Basic

/-! # Control replies

What the control interface answers: a status and a document. A failure is told by its message alone.
-/

namespace Faultline.Control

structure Reply where
  status : Number
  body : Json
  deriving DecidableEq

namespace Reply

def problem (message : String) : Json := .object [("error", .string message)]

def ok (body : Json) : Reply := ⟨.ofNat 200, body⟩

def refusal (f : Failure) : Reply := ⟨.ofNat f.status, problem f.message⟩

/-- The reply when something was thrown while a request was answered. -/
def ofThrown (t : Thrown) : Except Failure Reply := t.wrap.map refusal

def malformedMessage : String := "Malformed request body"

/-- The reply to a request whose body cannot be read. -/
def malformed (status : Number) : Reply := ⟨status, problem malformedMessage⟩

/-- The status that something thrown brings with it, if that blames the client. -/
def clientStatus? (t : Thrown) : Option Number :=
  let members := match t with
    | .failure (.raised _ _ properties) => properties
    | .value (some (.object ms)) => ms
    | _ => []
  ((members.lookup "status").bind Json.number?).filter (·.within 400 500)

def messageOf : Thrown → Except Failure String
  | .failure f => .ok f.message
  | .value v => textOf v

def ofUncaught (t : Thrown) : Except Failure Reply :=
  match clientStatus? t with
  | some status => .ok (malformed status)
  | none => (messageOf t).map fun message => ⟨.ofNat 500, problem message⟩

end Reply

end Faultline.Control
