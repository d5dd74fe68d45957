import Faultline.Failure.Basic
import Faultline.Supplied
import Faultline.Traffic

/-! # Scenarios

A scenario is a fault that waits for a kind of traffic. Templates name the scenarios and may leave
out parameters of their faults; enabling one makes a configuration in which every parameter of the
fault is given (`Config.complete`).
-/

namespace Faultline.Scenario

/-- The kinds of faults. -/
inductive Action where
  | expireLink
  | returnError
  | delay
  | closeConnection
  deriving DecidableEq, Repr

namespace Action

def name : Action → String
  | expireLink => "expire_cloud_link"
  | returnError => "return_error"
  | delay => "delay"
  | closeConnection => "close_connection"

def all : List Action := [expireLink, returnError, delay, closeConnection]

def ofName? (s : String) : Option Action := all.find? (·.name == s)

end Action

/-- A fault with its parameters. -/
inductive Fault where
  /-- Answers as storage does once a link is too old. -/
  | expireLink
  /-- Answers with an HTTP error. -/
  | returnError (status : Supplied Number) (message : Supplied String)
  /-- Holds a request back for some seconds and then lets it pass. -/
  | delay (seconds : Supplied Number)
  /-- Cuts the connection. -/
  | closeConnection
  deriving DecidableEq

namespace Fault

def action : Fault → Action
  | expireLink => .expireLink
  | returnError .. => .returnError
  | delay _ => .delay
  | closeConnection => .closeConnection

def defaultStatus : Number := .ofNat 500
def defaultMessage : String := "Internal Server Error"
def defaultSeconds : Number := .ofNat 5

end Fault

/-- What a scenario does, and to what. -/
structure Config where
  description : String
  operation : Operation
  fault : Fault
  deriving DecidableEq

/-- A named scenario as it is registered. -/
structure Template where
  name : String
  config : Config
  deriving DecidableEq

/-- What a caller may change about a scenario on enabling it. -/
structure Overrides where
  seconds : Supplied Number
  deriving DecidableEq

namespace Overrides

def none : Overrides := ⟨.absent⟩

/-- The fields that overrides can have. -/
inductive Field where
  | seconds
  deriving DecidableEq, Repr

def Field.key : Field → String
  | seconds => "duration_seconds"

def Field.name : Field → String
  | seconds => "durationSeconds"

def acceptedBy : Action → List Field
  | .delay => [.seconds]
  | .expireLink | .returnError | .closeConnection => []

/-- Why overrides do not suit an action: they have a field that the action does not take. -/
def refusedBy? (overrides : Overrides) (action : Action) : Option Rejection :=
  if overrides.seconds.isPresent && !(acceptedBy action).contains .seconds then
    some (.unknownField Field.seconds.key ((acceptedBy action).map Field.key))
  else .none

/-- Reads overrides from the members of a document; the first member out of place decides. -/
def ofMembers? : Overrides → Members → Except Rejection Overrides
  | acc, [] => .ok acc
  | acc, (key, v) :: rest =>
    if key = Field.seconds.key then
      match v with
      | .number n =>
        if n.isPositiveInteger then ofMembers? { acc with seconds := .given n } rest
        else .error (.format Field.seconds.key "a positive integer" (some v))
      | _ => .error (.format Field.seconds.key "a positive integer" (some v))
    else .error (.unknownField key [Field.seconds.key])

/-- Reads overrides from the body of a request. No body, or `null`, changes nothing. -/
def ofBody? : Option Json → Except Rejection Overrides
  | .none => .ok none
  | some .null => .ok none
  | some (.object ms) => ofMembers? none (Members.inOrder ms)
  | some body => .error (.format "body" "a JSON object" (some body))

end Overrides

namespace Config

/-- The configuration with every parameter of its fault given: by the overrides, by the
    configuration itself, or by default. -/
def complete (c : Config) (overrides : Overrides) : Config :=
  { c with
    fault := match c.fault with
      | .delay seconds =>
        .delay (.given ((overrides.seconds.or seconds).getD Fault.defaultSeconds))
      | .returnError status message =>
        .returnError (.given (status.getD Fault.defaultStatus))
          (.given (message.getD Fault.defaultMessage))
      | .expireLink => .expireLink
      | .closeConnection => .closeConnection }

def commonMembers (c : Config) : Members :=
  [("description", .string c.description), ("operation", .string c.operation.name),
    ("action", .string c.fault.action.name)]

/-- The parameters of the fault, under the given names. -/
def parameters (c : Config) (statusKey messageKey secondsKey : String) : Members :=
  match c.fault with
  | .returnError status message =>
    Members.ofFields [(statusKey, status.toJson? .number), (messageKey, message.toJson? .string)]
  | .delay seconds => Members.ofFields [(secondsKey, seconds.toJson? .number)]
  | .expireLink | .closeConnection => []

def document (c : Config) : Json :=
  .object (c.commonMembers ++
    c.parameters "error_code" "error_message" Overrides.Field.seconds.key)

def record (c : Config) : Json :=
  .object (c.commonMembers ++ c.parameters "statusCode" "message" Overrides.Field.seconds.name)

end Config

/-- A scenario's name with the configuration it was enabled with. -/
structure Enabled where
  name : String
  config : Config
  deriving DecidableEq

end Faultline.Scenario
