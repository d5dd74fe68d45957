import Faultline.Scenario.Basic

/-! # Injection events

Each injected fault is told once: which scenario it was, when it was claimed, and whether the fault
came to bear or the request went through because something failed.
-/

namespace Faultline.Injection

/-- A scenario that a request has claimed, and when. -/
structure Claim where
  scenario : Scenario.Enabled
  time : Instant
  url : String
  deriving DecidableEq

/-- What became of a claim. -/
structure Event where
  claim : Claim
  /-- Why the fault did not come to bear, if it did not. -/
  error : Option String
  deriving DecidableEq

namespace Event

/-- What came of the claim, in a word. -/
def outcome (e : Event) : String := if e.error.isSome then "failed_open" else "applied"

/-- The event's members, apart from its time. -/
def facts (e : Event) : Members :=
  [("scenario", .string e.claim.scenario.name),
    ("action", .string e.claim.scenario.config.fault.action.name), ("url", .string e.claim.url),
    ("outcome", .string e.outcome)] ++ (e.error.map fun m => ("error", Json.string m)).toList

def document (e : Event) : Except Failure Json :=
  e.claim.time.text.map fun stamp => .object (("timestamp", .string stamp) :: e.facts)

end Event

end Faultline.Injection
