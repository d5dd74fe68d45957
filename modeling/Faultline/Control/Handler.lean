import Faultline.Control.Reply
import Faultline.State
import Faultline.Verification.Verdict

/-! # Control calls

What clients can ask of the control interface, once it is known which call is meant, and what is
answered. Nothing is changed before a call has been checked in full.
-/

namespace Faultline.Control

/-- A call, with the body that came with it. -/
inductive Call where
  | list
  | enable (name : String) (body : Option Json)
  | disable (name : String)
  | status (name : String)
  | disableAll
  | calls
  | reset
  | verify (body : Option Json)
  | health
  deriving DecidableEq

/-- What is known while a call is answered. -/
structure Setting where
  now : Instant
  /-- When the program was started. -/
  started : Instant
  /-- A fresh identifier for the call. -/
  correlation : String
  /-- What the verifier throws, if it is out of order. -/
  verifierFault : Option Failure

/-- The outcome of a call: a reply, or a failure that is not the call's own business. -/
abbrev Answered := Done State (Except Failure Reply)

def scenariosComponent : String := "api-scenarios"
def callsComponent : String := "api-thrift-calls"

def refusalNotice (component : String) (f : Failure) : Notice :=
  if f.isServerFault then .failureLine component "Control request failed" f []
  else .line component .warn "Control request rejected"
    [("error", .string f.message), ("code", .number (f.code?.getD .inner))]

def refuse (s : State) (notice : Failure → Notice) (f : Failure) : Answered :=
  ⟨.ok (.refusal f), s, [notice f]⟩

def summaryDocument (summary : Scenario.Summary) : Json :=
  .object [("name", .string summary.name), ("description", .string summary.description),
    ("enabled", .bool summary.enabled)]

def statusDocument (status : Scenario.Status) : Json :=
  .object [("name", .string status.name), ("description", .string status.description),
    ("enabled", .bool status.config.isSome),
    ("config", (status.config.map Scenario.Config.document).getD .null)]

def listScenarios (s : State) : Answered :=
  .nothing s (.ok (.ok (.object [("scenarios", .array (s.registry.list.map summaryDocument))])))

/-- Enables a scenario. That it does not exist is told before the body is looked at. -/
def enableScenario (g : Setting) (s : State) (name : String) (body : Option Json) : Answered :=
  let refused := refuse s fun f => (refusalNotice scenariosComponent f).inCourseOf g.correlation
  if s.registry.has name then
    match Scenario.Overrides.ofBody? body with
    | .error reason => refused (.rejected reason)
    | .ok overrides =>
      let enabled := s.enable name overrides
      match enabled.result with
      | .error f => refused f
      | .ok config =>
        { result := .ok (.ok (.object [("scenario", .string name), ("enabled", .bool true),
            ("config", config.document)]))
          now := enabled.now
          notices := enabled.notices ++
            [(Notice.line scenariosComponent .info "Scenario enabled via API"
              [("scenario", .string name)]).inCourseOf g.correlation] }
  else refused (.noScenario name)

def disableScenario (s : State) (name : String) : Answered :=
  let disabled := s.disable name
  match disabled.result with
  | .error f => refuse s (refusalNotice scenariosComponent) f
  | .ok () =>
    { disabled with
      result := .ok (.ok (.object [("scenario", .string name), ("enabled", .bool false)])) }

def scenarioStatus (s : State) (name : String) : Answered :=
  match s.registry.status? name with
  | .error f => refuse s (refusalNotice scenariosComponent) f
  | .ok status => .nothing s (.ok (.ok (statusDocument status)))

def disableAllScenarios (s : State) : Answered :=
  { s.disableAll with
    result := .ok (.ok (.object [("message", .string "All scenarios disabled")])) }

/-- Lists the history. A record whose time cannot be written makes it impossible. -/
def listCalls (s : State) : Answered :=
  .nothing s <| (s.history.records.mapM Call.Record.document).map fun calls =>
    .ok (.object [("calls", .array calls), ("count", .ofNat calls.length),
      ("max_history", .number (.ofNat s.history.capacity))])

def resetCalls (s : State) : Answered where
  result := .ok (.ok (.object [("message", .string "Call history reset"), ("count", .ofNat 0)]))
  now := s.clearHistory
  notices := [.line callsComponent .info "Call history reset" [("removed", .ofNat s.history.size)]]

def verifyCalls (g : Setting) (s : State) (body : Option Json) : Answered :=
  let refused := refuse s fun f => (refusalNotice callsComponent f).inCourseOf g.correlation
  match Verification.Request.ofBody? body with
  | .error f => .nothing s (.error f)
  | .ok (.error reason) => refused (.rejected reason)
  | .ok (.ok request) =>
    match g.verifierFault with
    | some f => refused (.general f.message .inner [] (some f.message))
    | none =>
      let verdict := Verification.Verdict.ofRecords s.history.records request
      { result := .ok (.ok verdict.document)
        now := s
        notices :=
          [(Notice.line callsComponent .info "Verification evaluated"
            [("type", .string verdict.kindName), ("verified", .bool verdict.verified)]).inCourseOf
              g.correlation] }

def secondsBetween (start now : Instant) : Int := Int.fdiv (now.ms - start.ms) 1000

def checkHealth (g : Setting) (s : State) : Answered :=
  .nothing s <| g.now.text.map fun stamp =>
    .ok (.object [("status", .string "healthy"), ("timestamp", .string stamp),
      ("uptime", .number (.ofInt (secondsBetween g.started g.now))),
      ("scenariosEnabled", .ofNat s.registry.enabledNames.length),
      ("historySize", .ofNat s.history.size)])

def answer (g : Setting) (s : State) : Call → Answered
  | .list => listScenarios s
  | .enable name body => enableScenario g s name body
  | .disable name => disableScenario s name
  | .status name => scenarioStatus s name
  | .disableAll => disableAllScenarios s
  | .calls => listCalls s
  | .reset => resetCalls s
  | .verify body => verifyCalls g s body
  | .health => checkHealth g s

end Faultline.Control
