import Faultline.Failure.Basic

/-! # Verification requests

A client asks whether the recorded calls are as it expects. A request is read from a document, and
the first requirement that the document misses is what it is told.
-/

namespace Faultline.Verification

/-- How an expected sequence of methods has to occur. -/
inductive SequenceMode where
  /-- It is the whole sequence. -/
  | exact
  /-- It occurs in order, with anything in between. -/
  | contained
  deriving DecidableEq, Repr

/-- What is asked about the recorded methods. -/
inductive Request where
  | sequence (mode : SequenceMode) (methods : List String)
  | count (method : String) (count : Number)
  | occurs (method : String)
  deriving DecidableEq

def SequenceMode.name : SequenceMode → String
  | exact => "exact_sequence"
  | contained => "contains_sequence"

def countName : String := "method_count"
def occursName : String := "method_exists"

def kindNames : List String :=
  [SequenceMode.exact.name, SequenceMode.contained.name, countName, occursName]

namespace Request

def kindName : Request → String
  | sequence mode _ => mode.name
  | count .. => countName
  | occurs _ => occursName

/-- A member that has to be there; `null` does not count. -/
def require (ms : Members) (key : String) : Except Rejection Json :=
  match ms.lookup key with
  | none | some .null => .error (.missing key)
  | some v => .ok v

def readMethods (ms : Members) : Except Rejection (List String) := do
  let v ← require ms "methods"
  match v.strings? with
  | some names => .ok names
  | none => .error (.format "methods" "an array of strings" (some v))

/-- The method that is asked about, which has a name. -/
def readMethod (ms : Members) : Except Rejection String := do
  let v ← require ms "method"
  match v with
  | .string s => if s.isEmpty then .error (.missing "method") else .ok s
  | _ => .error (.format "method" "a string" (some v))

def readCount (ms : Members) : Except Rejection Number := do
  let v ← require ms "count"
  match v with
  | .number n =>
    if n.isCount then .ok n else .error (.format "count" "a non-negative integer" (some v))
  | _ => .error (.format "count" "a non-negative integer" (some v))

/-- Reads what belongs to a request of the kind `name`; there are no more kinds than these four. -/
def ofKind? (ms : Members) (name : String) : Option (Except Rejection Request) :=
  if name = SequenceMode.exact.name then some ((readMethods ms).map (.sequence .exact))
  else if name = SequenceMode.contained.name then
    some ((readMethods ms).map (.sequence .contained))
  else if name = countName then
    some (do
      let method ← readMethod ms
      let count ← readCount ms
      .ok (.count method count))
  else if name = occursName then some ((readMethod ms).map .occurs)
  else none

/-- A kind that does not exist. The rejection quotes it, so it has to have a text. -/
def unknownKind (kind : Json) : Except Failure (Except Rejection Request) :=
  (Rejection.ofValue "verification type" (some kind) kindNames).map .error

def ofBody? (body : Option Json) : Except Failure (Except Rejection Request) :=
  match body with
  | some (.object ms) =>
    match ms.lookup "type" with
    | none | some .null | some (.string "") => .ok (.error (.missing "type"))
    | some (.string name) =>
      match ofKind? ms name with
      | some read => .ok read
      | none => unknownKind (.string name)
    | some kind => unknownKind kind
  | _ => .ok (.error (.missing "body"))

def document : Request → Json
  | sequence mode methods =>
    .object [("type", .string mode.name), ("methods", .ofStrings methods)]
  | count method n =>
    .object [("type", .string countName), ("method", .string method), ("count", .number n)]
  | occurs method => .object [("type", .string occursName), ("method", .string method)]

end Request

end Faultline.Verification
