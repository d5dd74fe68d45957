import Faultline.Call.History
import Faultline.Supplied
import Faultline.Verification.Request

/-! # Verdicts

The answer to a verification request: whether the recorded calls are as expected, beside what was
expected and what there is.
-/

namespace Faultline.Verification

/-- Which question about a single method was answered. -/
inductive MethodMode where
  | count
  | occurs
  deriving DecidableEq, Repr

def MethodMode.name : MethodMode → String
  | count => countName
  | occurs => occursName

/-- An answer. -/
inductive Verdict where
  | sequence (mode : SequenceMode) (verified : Bool) (expected actual : List String)
  | method (mode : MethodMode) (verified : Bool) (name : String) (expectedCount : Supplied Number)
      (actualCount : Number) (actual : List String)
  deriving DecidableEq

namespace Verdict

def verified : Verdict → Bool
  | sequence _ verified .. | method _ verified .. => verified

def kindName : Verdict → String
  | sequence mode .. => mode.name
  | method mode .. => mode.name

def actual : Verdict → List String
  | sequence _ _ _ actual | method _ _ _ _ _ actual => actual

/-- Whether `expected` occurs in `actual` in order, with anything in between. -/
def containsSequence (actual expected : List String) : Bool := expected.isSublist actual

def occurrences (actual : List String) (method : String) : Nat := actual.count method

def ofMethods (actual : List String) : Request → Verdict
  | .sequence .exact expected => .sequence .exact (actual == expected) expected actual
  | .sequence .contained expected =>
    .sequence .contained (containsSequence actual expected) expected actual
  | .count name expected =>
    let n := Number.ofNat (occurrences actual name)
    .method .count (n = expected) name (.given expected) n actual
  | .occurs name =>
    let n := occurrences actual name
    .method .occurs (0 < n) name .absent (.ofNat n) actual

def ofRecords (records : List Call.Record) (request : Request) : Verdict :=
  ofMethods (Call.methods records) request

/-- The verdict as a document, with the given names for the two counts. -/
def documentWith (expectedKey actualKey : String) : Verdict → Json
  | sequence mode verified expected actual =>
    .object [("type", .string mode.name), ("verified", .bool verified),
      ("expected", .ofStrings expected), ("actual", .ofStrings actual)]
  | method mode verified name expectedCount actualCount actual =>
    .object (Members.ofFields [("type", some (.string mode.name)),
      ("verified", some (.bool verified)), ("method", some (.string name)),
      (expectedKey, expectedCount.toJson? .number), (actualKey, some (.number actualCount)),
      ("actual", some (.ofStrings actual))])

def document : Verdict → Json := documentWith "expected_count" "actual_count"

def internalDocument : Verdict → Json := documentWith "expectedCount" "actualCount"

end Verdict

end Faultline.Verification
