import Faultline.Json.Text

/-! # Rejected input

Why a document or a setting is refused. Each cause has one sentence, one code, and a list of
findings about single fields; the cause is what the program reasons about, the rest is derived.
-/

namespace Faultline

/-- Codes group failures by thousands; the group decides how a client is told. -/
abbrev Code := Number

namespace Code

def unknown : Code := .ofNat 1000
def inner : Code := .ofNat 1001
def rejected : Code := .ofNat 2000
def badValue : Code := .ofNat 2001
def missingField : Code := .ofNat 2002
def badFormat : Code := .ofNat 2003
def unknownField : Code := .ofNat 2005
def notFound : Code := .ofNat 5000
def undecodable : Code := .ofNat 6000

/-- The HTTP status for a code: the two-thousands are the client's fault, so are the
    five-thousands, of which the first says that something does not exist; the six-thousands are
    payloads that make no sense; all else is the server's fault. -/
def status (c : Code) : Nat :=
  if c.within 2000 3000 then 400
  else if c = notFound then 404
  else if c.within 5000 6000 then 400
  else if c.within 6000 7000 then 422
  else 500

end Code

/-- A finding about one field. -/
structure Detail where
  field : String
  message : String
  rule : Option String
  expected : Option String
  received : Option Json
  deriving DecidableEq

namespace Detail

def toJson (d : Detail) : Json :=
  .object <|
    [("field", .string d.field), ("message", .string d.message)] ++
    (d.rule.map fun r => ("rule", Json.string r)).toList ++
    (d.expected.map fun e => ("expected", Json.string e)).toList ++
    (d.received.map fun v => ("received", v)).toList

end Detail

/-- Why input is rejected. -/
inductive Rejection where
  /-- A field that has to be there is not. -/
  | missing (field : String)
  /-- A field does not have the expected form. -/
  | format (field expected : String) (received : Option Json)
  /-- A field that means nothing here. -/
  | unknownField (field : String) (accepted : List String)
  /-- A value that is none of the accepted ones; `shown` is its text. -/
  | value (field : String) (received : Option Json) (shown : String) (accepted : List String)
  /-- Several findings at once. -/
  | several (details : List Detail)
  /-- A rejection in words of its own. -/
  | other (message : String) (details : List Detail) (context : Members) (code : Code)
  deriving DecidableEq

namespace Rejection

/-- How a list of accepted names is put into a sentence. -/
def namesOrNone (accepted : List String) : String :=
  if accepted.isEmpty then "no fields" else ", ".intercalate accepted

def message : Rejection → String
  | missing field => "Missing required field: " ++ field
  | format field expected _ =>
    "Invalid format for field: " ++ field ++ " (expected " ++ expected ++ ")"
  | unknownField field _ => "Unrecognized field: " ++ field
  | value field _ shown _ => "Unknown " ++ field ++ ": " ++ shown
  | several details =>
    "Validation failed for fields: " ++ ", ".intercalate (details.map (·.field))
  | other message _ _ _ => message

def details : Rejection → List Detail
  | missing field => [⟨field, "This field is required", some "required", none, none⟩]
  | format field expected received =>
    [⟨field, "Expected " ++ expected, some "format", some expected, received⟩]
  | unknownField field accepted =>
    let names := namesOrNone accepted
    [⟨field, "Accepted fields: " ++ names, some "known-field", some names, none⟩]
  | value field received _ accepted =>
    [⟨field, "Must be one of: " ++ ", ".intercalate accepted, some "enum", none, received⟩]
  | several details => details
  | other _ details _ _ => details

def code : Rejection → Code
  | missing _ => .missingField
  | format .. => .badFormat
  | unknownField .. => .unknownField
  | value .. => .badValue
  | several _ => .rejected
  | other _ _ _ code => code

def context : Rejection → Members
  | missing field | format field .. | unknownField field _ | value field .. =>
    [("field", .string field)]
  | several _ => []
  | other _ _ context _ => context

/-- Whether a finding is about `field`. -/
def hasFieldError (r : Rejection) (field : String) : Bool :=
  r.details.any (·.field == field)

end Rejection

end Faultline
