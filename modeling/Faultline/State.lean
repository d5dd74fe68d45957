import Faultline.Call.History
import Faultline.Notice
import Faultline.Scenario.Catalog
import Faultline.Scenario.Registry

/-! # The shared state

Scenarios and call history, which control requests change and exchanges use. Enabling a scenario
that aims at downloads starts a new test run, so it empties the history.
-/

namespace Faultline

structure State where
  registry : Scenario.Registry
  history : Call.History
  deriving DecidableEq

namespace State

def fresh? (templates : List Scenario.Template) (capacity : Number) : Except Failure State := do
  let history ← Call.History.ofCapacity? capacity
  let registry ← Scenario.Registry.ofTemplates? templates
  .ok ⟨registry, history⟩

def registryLine (message : String) (context : Members) : Notice :=
  .line "scenario-registry" .info message context

def enable (s : State) (name : String) (overrides : Scenario.Overrides) :
    Done State (Except Failure Scenario.Config) :=
  match s.registry.enable? name overrides with
  | .error f => .nothing s (.error f)
  | .ok (registry, config) =>
    let clears := config.operation == .download
    { result := .ok config
      now := ⟨registry, if clears then s.history.clear else s.history⟩
      notices :=
        [registryLine "Enabled scenario"
          [("scenario", .string name), ("config", config.record),
            ("historyCleared", .ofNat (if clears then s.history.size else 0))]] }

/-- Disables a scenario, whether or not it is enabled. -/
def disable (s : State) (name : String) : Done State (Except Failure Unit) :=
  match s.registry.disable? name with
  | .error f => .nothing s (.error f)
  | .ok registry =>
    { result := .ok ()
      now := { s with registry }
      notices := [registryLine "Disabled scenario" [("scenario", .string name)]] }

def disableAll (s : State) : Done State Unit where
  result := ()
  now := { s with registry := s.registry.disableAll }
  notices :=
    [registryLine "Disabled all scenarios"
      [("previouslyEnabled", .ofNat s.registry.enabledNames.length)]]

/-- Takes the first enabled scenario that aims at an operation. -/
def claim (s : State) (op : Operation) : Done State (Option Scenario.Enabled) :=
  match s.registry.claimFirst? op with
  | none => .nothing s none
  | some (enabled, registry) =>
    { result := some enabled
      now := { s with registry }
      notices := [registryLine "Auto-disabled scenario" [("scenario", .string enabled.name)]] }

def append (s : State) (r : Call.Record) : State := { s with history := s.history.append r }

def clearHistory (s : State) : State := { s with history := s.history.clear }

end State

end Faultline
