import Faultline.Scenario.Basic

/-! # The registry

Scenarios in the order of their registration, each either waiting with a configuration or not. The
order in which they were enabled leaves no trace: a claim takes the first waiting one in order of
registration.
-/

namespace Faultline.Scenario

/-- A registered scenario and, while it is enabled, the configuration it was enabled with. -/
structure Slot where
  template : Template
  active : Option Config
  deriving DecidableEq

abbrev Registry := List Slot

/-- What is told of a scenario in a list. -/
structure Summary where
  name : String
  description : String
  enabled : Bool
  deriving DecidableEq, Repr

/-- What is told of a single scenario. -/
structure Status where
  name : String
  description : String
  config : Option Config
  deriving DecidableEq

namespace Registry

def names (r : Registry) : List String := r.map (·.template.name)

def firstRepeated? : List String → List String → Option String
  | _, [] => none
  | seen, name :: rest =>
    if seen.contains name then some name else firstRepeated? (name :: seen) rest

/-- A registry with nothing enabled. Names must differ. -/
def ofTemplates? (templates : List Template) : Except Failure Registry :=
  match firstRepeated? [] (templates.map (·.name)) with
  | some name => .error (.duplicateScenario name)
  | none => .ok (templates.map fun t => ⟨t, none⟩)

def slot? (r : Registry) (name : String) : Option Slot := r.find? (·.template.name == name)

def has (r : Registry) (name : String) : Bool := (r.slot? name).isSome

def active? (r : Registry) (name : String) : Option Config := (r.slot? name).bind (·.active)

/-- The registry with `active` in the slot named `name`. -/
def put (r : Registry) (name : String) (active : Option Config) : Registry :=
  r.map fun s => if s.template.name = name then { s with active } else s

def list (r : Registry) : List Summary :=
  r.map fun s => ⟨s.template.name, s.template.config.description, s.active.isSome⟩

def enabledNames (r : Registry) : List String :=
  (r.filter (·.active.isSome)).map (·.template.name)

def status? (r : Registry) (name : String) : Except Failure Status :=
  match r.slot? name with
  | some s => .ok ⟨name, s.template.config.description, s.active⟩
  | none => .error (.noScenario name)

def configFor? (r : Registry) (name : String) (overrides : Overrides) : Except Failure Config :=
  match r.slot? name with
  | none => .error (.noScenario name)
  | some s =>
    let c := s.template.config
    match overrides.refusedBy? c.fault.action with
    | some reason => .error (.rejected reason)
    | none => .ok (c.complete overrides)

/-- Enables a scenario, replacing the configuration it may have had. -/
def enable? (r : Registry) (name : String) (overrides : Overrides) :
    Except Failure (Registry × Config) :=
  (r.configFor? name overrides).map fun c => (r.put name (some c), c)

def disable? (r : Registry) (name : String) : Except Failure Registry :=
  if r.has name then .ok (r.put name none) else .error (.noScenario name)

def disableAll (r : Registry) : Registry := r.map fun s => { s with active := none }

def findFirst? (r : Registry) (op : Operation) : Option Enabled :=
  match r with
  | [] => none
  | s :: rest =>
    match s.active with
    | some c => if c.operation = op then some ⟨s.template.name, c⟩ else findFirst? rest op
    | none => findFirst? rest op

/-- Takes the first enabled scenario that aims at an operation; it is spent from then on. -/
def claimFirst? (r : Registry) (op : Operation) : Option (Enabled × Registry) :=
  (r.findFirst? op).map fun e => (e, r.put e.name none)

end Registry

end Faultline.Scenario
