import Faultline.Proofs.Run

/-! # Traces

A run leaves a trace of marks: what the commands did, what was recorded, and which claims were
made. The scenarios can be told from the trace alone, without looking into the registry: a board
that is moved by one mark after the other shows at every moment which scenario is enabled, and
with which configuration (`after_moves`).
-/

namespace Faultline

open Exchange Injection

/-- What a run leaves behind. -/
inductive Mark where
  /-- A scenario was enabled, with this configuration in effect. -/
  | enabled (name : String) (config : Scenario.Config)
  | disabled (name : String)
  | disabledAll
  | reset
  | recorded (r : Call.Record)
  /-- A fault was injected: a flow claimed a scenario. -/
  | injected (claim : Claim)

/-- The record that is due for a request: for every download; for a Thrift call if its payload is
    not empty and can be decoded; for nothing else. -/
def Exchange.Request.record? (r : Request) (decoder : Option Call.Decoder) (now : Instant) :
    Option Call.Record :=
  match r.operation?, decoder with
  | some .download, _ => some (.download now r.url)
  | some .thriftCall, some d =>
    if r.body.isEmpty then none
    else match d.decode r.body with
      | .ok (.ok m) => some (.thrift now m.method m.messageType m.sequenceId m.fields)
      | .ok (.error _) | .error _ => none
  | some .thriftCall, none | none, _ => none

/-- Whether the request hook is run for a flow; an injection by itself goes past it. -/
def Purpose.isHooked : Purpose → Bool
  | .injection => false
  | .hook | .exchange _ => true

/-! ## The trace of a run -/

/-- What a command leaves behind; nothing if it is refused. -/
def Command.marks (s : State) : Command → List Mark
  | .enable name overrides =>
    match (s.enable name overrides).result with
    | .ok config => [.enabled name config]
    | .error _ => []
  | .disable name =>
    match (s.disable name).result with
    | .ok () => [.disabled name]
    | .error _ => []
  | .disableAll => [.disabledAll]
  | .reset => [.reset]

namespace Proxy

def enterMarks (p : Proxy) (flow : Flow) (purpose : Purpose) : List Mark :=
  ((if purpose.isHooked then flow.request.record? p.decoder p.clock else none).map
    Mark.recorded).toList ++
  ((p.enter flow purpose).result.2.claim?.map Mark.injected).toList

def openMarks (p : Proxy) : List (Flow × Purpose) → List Mark
  | [] => []
  | (flow, purpose) :: rest =>
    p.enterMarks flow purpose ++ (p.enter flow purpose).now.openMarks rest

end Proxy

def Act.marks (p : Proxy) (a : Act) : List Mark :=
  p.openMarks a.flows ++ (a.command?.map (·.marks p.state)).getD []

def Proxy.trace (p : Proxy) : List Act → List Mark
  | [] => []
  | a :: rest => a.marks p ++ (a.perform p).now.trace rest

/-! ## The board -/

/-- Which scenarios are enabled, and with which configurations. -/
abbrev Board := String → Option Scenario.Config

namespace Mark

def move (b : Board) : Mark → Board
  | enabled name config => Function.update b name (some config)
  | disabled name => Function.update b name none
  | disabledAll => fun _ => none
  | injected claim => Function.update b claim.scenario.name none
  | reset | recorded _ => b

/-- An injection is possible only where the board shows the scenario with the claimed
    configuration. -/
def Fits (b : Board) : Mark → Prop
  | injected claim => b claim.scenario.name = some claim.scenario.config
  | enabled .. | disabled _ | disabledAll | reset | recorded _ => True

/-- Whether a mark says anything about a scenario. -/
def Concerns (name : String) : Mark → Prop
  | enabled other _ | disabled other => other = name
  | disabledAll => True
  | injected claim => claim.scenario.name = name
  | reset | recorded _ => False

def enables (name : String) : Mark → Bool
  | enabled other _ => other == name
  | disabled _ | disabledAll | injected _ | reset | recorded _ => false

def injects (name : String) : Mark → Bool
  | injected claim => claim.scenario.name == name
  | enabled .. | disabled _ | disabledAll | reset | recorded _ => false

theorem move_unconcerned {m : Mark} {name : String} (h : ¬ m.Concerns name) (b : Board) :
    m.move b name = b name := by
  cases m with
  | enabled other config => exact Function.update_of_ne (fun same => h same.symm) ..
  | disabled other => exact Function.update_of_ne (fun same => h same.symm) ..
  | disabledAll => exact absurd trivial h
  | injected claim => exact Function.update_of_ne (fun same => h same.symm) ..
  | reset => rfl
  | recorded r => rfl

/-- Only being enabled puts a configuration on the board. -/
theorem move_concerned {m : Mark} {name : String} (h : m.Concerns name) {b : Board}
    {c : Scenario.Config} (shown : m.move b name = some c) : m = .enabled name c := by
  cases m with
  | enabled other config =>
      obtain rfl : other = name := h
      rw [move, Function.update_self] at shown
      rw [Option.some.inj shown]
  | disabled other =>
      obtain rfl : other = name := h
      rw [move, Function.update_self] at shown
      cases shown
  | disabledAll => cases shown
  | injected claim =>
      obtain rfl : claim.scenario.name = name := h
      rw [move, Function.update_self] at shown
      cases shown
  | reset => exact absurd h id
  | recorded r => exact absurd h id

end Mark

/-- The marks lead from one board to another, each fitting the board that it finds. -/
inductive Moves : Board → List Mark → Board → Prop where
  | nil {b : Board} : Moves b [] b
  | cons {b c : Board} {m : Mark} {rest : List Mark} :
      m.Fits b → Moves (m.move b) rest c → Moves b (m :: rest) c

namespace Moves

theorem single {b : Board} {m : Mark} (h : m.Fits b) : Moves b [m] (m.move b) := .cons h .nil

theorem append {a b c : Board} {first second : List Mark} (h : Moves a first b)
    (k : Moves b second c) : Moves a (first ++ second) c := by
  induction h with
  | nil => exact k
  | cons fits _ ih => exact .cons fits (ih k)

theorem split {a c : Board} {first second : List Mark} (h : Moves a (first ++ second) c) :
    ∃ b, Moves a first b ∧ Moves b second c := by
  induction first generalizing a with
  | nil => exact ⟨a, .nil, h⟩
  | cons m rest ih =>
      cases h with
      | cons fits onward =>
          obtain ⟨b, before, later⟩ := ih onward
          exact ⟨b, .cons fits before, later⟩

end Moves

/-! ## Runs move the board -/

theorem Command.moves (s : State) (c : Command) :
    Moves s.registry.active? (c.marks s) (c.run s).now.registry.active? := by
  cases c with
  | enable name overrides =>
      rcases s.enable_cases name overrides with ⟨f, _, refused, same⟩ | ⟨config, for_, done, now⟩
      · simp only [marks, refused, run, Done.map_now, same]
        exact .nil
      · simp only [marks, done, run, Done.map_now, now]
        rw [Scenario.Registry.active?_put (Scenario.Registry.has_of_configFor? for_)]
        exact .single trivial
  | disable name =>
      rcases s.disable_cases name with ⟨_, refused, same⟩ | ⟨known, done, now⟩
      · simp only [marks, refused, run, same]
        exact .nil
      · simp only [marks, done, run, now]
        rw [Scenario.Registry.active?_put known]
        exact .single trivial
  | disableAll =>
      have empty : s.registry.disableAll.active? = fun _ => none :=
        funext (Scenario.Registry.active?_disableAll s.registry)
      show Moves _ [.disabledAll] s.registry.disableAll.active?
      rw [empty]
      exact .single trivial
  | reset => exact .single trivial

namespace Proxy

theorem claim?_active {p : Proxy} (distinct : p.state.registry.names.Nodup) {flow : Flow}
    {purpose : Purpose} {claim : Claim} (h : p.claim? flow purpose = some claim) :
    p.state.registry.active? claim.scenario.name = some claim.scenario.config := by
  unfold claim? at h
  split at h
  · obtain ⟨e, first, rfl⟩ := Option.map_eq_some_iff.mp h
    exact Scenario.Registry.active?_findFirst? distinct first
  · cases h

theorem enter_moves {p : Proxy} (distinct : p.state.registry.names.Nodup) (flow : Flow)
    (purpose : Purpose) :
    Moves p.state.registry.active? (p.enterMarks flow purpose)
      (p.enter flow purpose).now.state.registry.active? := by
  have recording : ∀ record : Option Call.Record,
      Moves p.state.registry.active? (record.map Mark.recorded).toList
        p.state.registry.active? := by
    intro record
    cases record with
    | none => exact .nil
    | some r => exact .single trivial
  refine (recording _).append ?_
  rw [enter_claim?, enter_registry]
  cases claimed : p.claim? flow purpose with
  | none => exact .nil
  | some claim =>
      have active := claim?_active distinct claimed
      show Moves _ [.injected claim] (p.state.registry.put claim.scenario.name none).active?
      rw [Scenario.Registry.active?_put (Scenario.Registry.has_of_active? active)]
      exact .single active

variable {templates : List Scenario.Template} {p : Proxy}

theorem openAll_moves (h : p.Serves templates) (flows : List (Flow × Purpose)) :
    Moves p.state.registry.active? (p.openMarks flows)
      (p.openAll flows).now.state.registry.active? := by
  induction flows generalizing p with
  | nil => exact .nil
  | cons x rest ih =>
      have entered : (p.enter x.1 x.2).now.Serves templates := h.openAll [x]
      exact (enter_moves h.names x.1 x.2).append (ih entered)

theorem perform_moves (h : p.Serves templates) (a : Act) :
    Moves p.state.registry.active? (a.marks p) (a.perform p).now.state.registry.active? := by
  rw [a.perform_state p]
  refine (openAll_moves h a.flows).append ?_
  cases given : a.command? with
  | none => exact .nil
  | some c =>
      -- The command finds the state of before the act, since no flow has come in with it.
      rw [Act.flows_of_command? given]
      exact c.moves p.state

/-- A run moves the board from what the registry showed before it to what it shows after it. -/
theorem after_moves (h : p.Serves templates) (acts : List Act) :
    Moves p.state.registry.active? (p.trace acts) (p.after acts).state.registry.active? := by
  induction acts generalizing p with
  | nil => exact .nil
  | cons a rest ih => exact (perform_moves h a).append (ih (h.perform a))

end Proxy

end Faultline
