import Faultline.Failure.Rejection
import Faultline.Instant

/-! # Failures

All that can go wrong, as causes. A failure is the program's own if it carries a code; the others
come from the surroundings and are given one when they are wrapped (`Thrown.wrap`).
-/

namespace Faultline

/-- Why something did not succeed. -/
inductive Failure where
  /-- A failure of the program itself, with the message of what caused it. -/
  | general (message : String) (code : Code) (context : Members) (cause : Option String)
  /-- Input that is refused. -/
  | rejected (reason : Rejection)
  /-- Something that does not exist. -/
  | notFound (kind id : String)
  /-- A payload of `length` bytes that is not a message. -/
  | undecodable (message : String) (length : Number) (cause : Option String)
  /-- A history that cannot have the capacity it is asked to have. -/
  | capacity (asked : Number)
  /-- Two scenarios of one name. -/
  | duplicateScenario (name : String)
  /-- A value that is asked for its text and has none. -/
  | noText
  /-- An instant too far from 1970 to be written. -/
  | instantOutOfRange
  /-- A text that is no URL. -/
  | badUrl
  /-- A critical section whose body is not done when it returns. -/
  | asynchronous
  /-- A response status that cannot be sent. -/
  | statusOutOfRange (status : Number)
  /-- What a collaborator raised, with whatever else it hung on it. -/
  | raised (name message : String) (properties : Members)
  deriving DecidableEq

namespace Failure

def name : Failure → String
  | general .. => "FaultProxyError"
  | rejected _ => "ValidationError"
  | notFound .. => "NotFoundError"
  | undecodable .. => "DecodeError"
  | capacity _ | instantOutOfRange | statusOutOfRange _ => "RangeError"
  | duplicateScenario _ | asynchronous => "Error"
  | noText | badUrl => "TypeError"
  | raised name _ _ => name

def message : Failure → String
  | general message .. => message
  | rejected reason => reason.message
  | notFound kind id => kind ++ " not found: " ++ id
  | undecodable message .. => message
  | capacity asked => "History capacity must be a positive integer, got " ++ asked.text
  | duplicateScenario name => "Duplicate scenario name: " ++ name
  | noText => "Cannot convert object to primitive value"
  | instantOutOfRange => "Invalid time value"
  | badUrl => "Invalid URL"
  | asynchronous => "CriticalSection bodies must be synchronous"
  | statusOutOfRange status => "Invalid status code: " ++ status.text
  | raised _ message _ => message

def code? : Failure → Option Code
  | general _ code .. => some code
  | rejected reason => some reason.code
  | notFound .. => some .notFound
  | undecodable .. => some .undecodable
  | _ => none

def context : Failure → Members
  | general _ _ context _ => context
  | rejected reason => reason.context
  | notFound kind id => [("resourceType", .string kind), ("resourceId", .string id)]
  | undecodable _ length _ => [("payloadLength", .number length)]
  | _ => []

def cause? : Failure → Option String
  | general _ _ _ cause | undecodable _ _ cause => cause
  | _ => none

def isOwn (f : Failure) : Bool := f.code?.isSome

/-- The HTTP status by which a client learns of the failure. -/
def status (f : Failure) : Nat := (f.code?.getD .inner).status

def isServerFault (f : Failure) : Bool := 500 ≤ f.status

def ofMessage (message : String) : Failure := .raised "Error" message []

def noScenario (name : String) : Failure := .notFound "Scenario" name

/-- The document that tells of one of the program's own failures, raised at `when`. -/
def document (f : Failure) (when : String) : Json :=
  .object <|
    [("error", .string f.message), ("code", .number (f.code?.getD .inner)),
      ("meta", .object f.context), ("timestamp", .string when)] ++
    match f with
    | rejected reason => [("details", .array (reason.details.map Detail.toJson))]
    | _ => []

end Failure

/-- The text of a value that may be missing altogether. -/
def textOf (v : Option Json) : Except Failure String :=
  match v with
  | none => .ok "undefined"
  | some v => match v.text? with
    | some s => .ok s
    | none => .error .noText

def Instant.text (t : Instant) : Except Failure String :=
  match t.text? with
  | some s => .ok s
  | none => .error .instantOutOfRange

/-- The rejection of a value that is none of the accepted ones. It needs the value's text. -/
def Rejection.ofValue (field : String) (received : Option Json) (accepted : List String) :
    Except Failure Rejection :=
  (textOf received).map fun shown => .value field received shown accepted

/-- What a collaborator throws: a failure, or any value instead of one, or nothing. -/
inductive Thrown where
  | failure (f : Failure)
  | value (v : Option Json)
  deriving DecidableEq

namespace Thrown

/-- One of the program's own failures for whatever was thrown. Its own failures stay as they are;
    others become the cause of a new one; of a bare value only the text remains, and a value
    without a text makes the wrapping itself fail. -/
def wrap (t : Thrown) (code : Code := .inner) : Except Failure Failure :=
  match t with
  | .failure f => .ok (if f.isOwn then f else .general f.message code [] (some f.message))
  | .value v => (textOf v).map fun message => .general message code [] none

end Thrown

end Faultline
