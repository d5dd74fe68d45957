import Faultline.Failure.Basic
import Faultline.Json.Printer
import Faultline.Log.Level
import Faultline.Text.Case

/-! # Log entries

What one line of the log says, and its two written forms: a document on one line, or coloured text
for people.
-/

namespace Faultline.Log

/-- What is told of an error. -/
structure Fault where
  name : String
  message : String
  stack : Option String
  code : Option Json
  deriving DecidableEq

namespace Fault

/-- A code is told if it is a text or a number. -/
def tellable? : Json → Option Json
  | .string s => some (.string s)
  | .number n => some (.number n)
  | _ => none

def ofFailure : Failure → Fault
  | .raised name message properties =>
    ⟨name, message, (properties.lookup "stack").bind Json.string?,
      (properties.lookup "code").bind tellable?⟩
  | f => ⟨f.name, f.message, none, f.code?.map Json.number⟩

def document (f : Fault) : Json :=
  .object (Members.ofFields [("name", some (.string f.name)), ("message", some (.string f.message)),
    ("stack", f.stack.map .string), ("code", f.code)])

end Fault

/-- One line of the log. -/
structure Entry where
  timestamp : String
  level : Level
  message : String
  context : Members
  /-- Members that are not listed and stand in for those that are missing; there are none if nothing
      is listed. -/
  fallback : Members
  error : Option Fault
  deriving DecidableEq

namespace Entry

/-- The entry as a document; what is empty is left out. -/
def document (e : Entry) : Json :=
  .object (Members.ofFields [("timestamp", some (.string e.timestamp)),
    ("level", some (.string e.level.name)), ("message", some (.string e.message)),
    ("meta", if e.context.isEmpty then none else some (.object e.context)),
    ("error", e.error.map Fault.document)])

/-- The escape that switches to colour number `n`. -/
def colour (n : String) : String := "\x1b[" ++ n ++ "m"

def levelColour : Level → String
  | .debug => colour "90"
  | .info => colour "36"
  | .warn => colour "33"
  | .error => colour "31"
  | .fatal => colour "35"

def reset : String := colour "0"

/-- The name of a level in capitals, five wide. -/
def levelLabel (l : Level) : String :=
  let name := Text.upper l.name.toList
  String.ofList (name ++ List.replicate (5 - name.length) ' ')

/-- A member shown between two marks, if it says anything. It needs a text. -/
def shown (e : Entry) (key before behind : String) : Except Failure String :=
  match (e.context.lookup key).or (e.fallback.lookup key) with
  | none => .ok ""
  | some v =>
    if v.isEmptyLike then .ok ""
    else (textOf (some v)).map fun s =>
      " " ++ levelColour e.level ++ before ++ s ++ behind ++ reset

def faultText (f : Fault) : String :=
  "\n  Error: " ++ f.name ++ ": " ++ f.message ++
    match f.stack with
    | some stack => if stack.isEmpty then "" else "\n" ++ stack
    | none => ""

def pretty (e : Entry) : Except Failure String := do
  let correlation ← e.shown "correlationId" "[" "]"
  let component ← e.shown "component" "(" ")"
  .ok (e.timestamp ++ " " ++ levelColour e.level ++ levelLabel e.level ++ reset ++ " " ++
    e.message ++ correlation ++ component ++ (e.error.map faultText).getD "")

end Entry

end Faultline.Log
