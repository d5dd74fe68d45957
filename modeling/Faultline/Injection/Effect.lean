import Faultline.Exchange.Flow
import Faultline.Scenario.Basic

/-! # What faults do to flows

Three of the faults answer in place of the server, one of them cuts the connection as well, and one
does nothing but take its time.
-/

namespace Faultline.Injection

open Exchange Scenario

def expiredLinkBody : String :=
  "AuthorizationQueryParametersError: Query Parameters are not supported for this operation"

def connectionResetBody : String := "Connection reset by peer"

/-- The answer that a fault gives in place of the server's. -/
def answer? : Fault → Option Synthetic
  | .expireLink => some (.text (.ofNat 403) expiredLinkBody)
  | .returnError status message =>
    some (.text (status.getD Fault.defaultStatus) (message.getD Fault.defaultMessage))
  | .closeConnection => some (.text (.ofNat 500) connectionResetBody)
  | .delay _ => none

def cuts : Fault → Bool
  | .closeConnection => true
  | .expireLink | .returnError .. | .delay _ => false

def delaySeconds? : Fault → Option Number
  | .delay seconds => some (seconds.getD Fault.defaultSeconds)
  | .expireLink | .returnError .. | .closeConnection => none

/-- A flow to which something was done, up to the first step that it refused. -/
structure Attempt where
  flow : Flow
  error : Option Thrown

/-- Cuts the connection of a flow if `wanted`. -/
def cutIf (wanted : Bool) (flow : Flow) : Attempt :=
  if wanted then
    match flow.kill with
    | .ok flow => ⟨flow, none⟩
    | .error t => ⟨flow, some t⟩
  else ⟨flow, none⟩

/-- Does to a flow what a fault does, apart from waiting. -/
def attempt (fault : Fault) (flow : Flow) : Attempt :=
  match answer? fault with
  | none => cutIf (cuts fault) flow
  | some s =>
    match flow.respond s with
    | .ok flow => cutIf (cuts fault) flow
    | .error t => ⟨flow, some t⟩

end Faultline.Injection
