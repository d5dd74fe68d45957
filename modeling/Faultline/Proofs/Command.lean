import Faultline.Control.Server
import Faultline.Proofs.Registry

/-! # Commands

Four commands change the shared state from outside. A control request comes down to at most one of
them (`serve_now`), whatever else it asks for or gets wrong; a command that is refused changes
nothing.
-/

namespace Faultline

/-- What can be asked of the shared state. -/
inductive Command where
  | enable (name : String) (overrides : Scenario.Overrides)
  | disable (name : String)
  | disableAll
  | reset
  deriving DecidableEq

/-- Carries out a command. -/
def Command.run (s : State) : Command → Done State (Except Failure Unit)
  | .enable name overrides => (s.enable name overrides).map fun r => r.map fun _ => ()
  | .disable name => s.disable name
  | .disableAll => s.disableAll.map .ok
  | .reset => .nothing s.clearHistory (.ok ())

/-- The state after a command, if there is one. -/
def State.commanded (s : State) : Option Command → State
  | none => s
  | some c => (c.run s).now

/-! ## Commands on the registry -/

namespace State

/-- Enabling is refused and changes nothing, or it writes the slot of the name and, for a scenario
    that aims at downloads, empties the history. -/
theorem enable_cases (s : State) (name : String) (overrides : Scenario.Overrides) :
    (∃ f, s.registry.configFor? name overrides = .error f ∧
      (s.enable name overrides).result = .error f ∧ (s.enable name overrides).now = s) ∨
    (∃ c, s.registry.configFor? name overrides = .ok c ∧
      (s.enable name overrides).result = .ok c ∧
      (s.enable name overrides).now =
        ⟨s.registry.put name (some c),
          if c.operation = .download then s.history.clear else s.history⟩) := by
  cases config : s.registry.configFor? name overrides with
  | error f =>
      left
      refine ⟨f, rfl, ?_⟩
      simp [enable, Scenario.Registry.enable?, config, Except.map]
  | ok c =>
      right
      refine ⟨c, rfl, ?_⟩
      simp [enable, Scenario.Registry.enable?, config, Except.map]

theorem disable_cases (s : State) (name : String) :
    (s.registry.has name = false ∧ (s.disable name).result = .error (.noScenario name) ∧
      (s.disable name).now = s) ∨
    (s.registry.has name = true ∧ (s.disable name).result = .ok () ∧
      (s.disable name).now = { s with registry := s.registry.put name none }) := by
  cases known : s.registry.has name with
  | false => left; simp [disable, Scenario.Registry.disable?, known]
  | true => right; simp [disable, Scenario.Registry.disable?, known]

end State

namespace Command

@[simp] theorem run_templates (s : State) (c : Command) :
    (c.run s).now.registry.templates = s.registry.templates := by
  cases c with
  | enable name overrides =>
      rcases s.enable_cases name overrides with ⟨_, _, _, same⟩ | ⟨_, _, _, written⟩
      · simp only [run, Done.map_now, same]
      · simp only [run, Done.map_now, written, Scenario.Registry.templates_put]
  | disable name =>
      rcases s.disable_cases name with ⟨_, _, same⟩ | ⟨_, _, written⟩
      · simp only [run, same]
      · simp only [run, written, Scenario.Registry.templates_put]
  | disableAll => exact Scenario.Registry.templates_disableAll s.registry
  | reset => rfl

theorem run_completed {s : State} (distinct : s.registry.names.Nodup)
    (h : s.registry.Completed) (c : Command) : (c.run s).now.registry.Completed := by
  cases c with
  | enable name overrides =>
      rcases s.enable_cases name overrides with ⟨_, _, _, same⟩ | ⟨_, config, _, written⟩
      · simpa only [run, Done.map_now, same] using h
      · simpa only [run, Done.map_now, written] using h.enable distinct config
  | disable name =>
      rcases s.disable_cases name with ⟨_, _, same⟩ | ⟨_, _, written⟩
      · simpa only [run, same] using h
      · simpa only [run, written] using h.put_none name
  | disableAll => exact Scenario.Registry.Completed.disableAll s.registry
  | reset => exact h

@[simp] theorem run_events (s : State) (c : Command) : (c.run s).events = [] := by
  cases c with
  | enable name overrides =>
      simp only [run, Done.events_map, State.enable]
      split <;> rfl
  | disable name =>
      simp only [run, State.disable]
      split <;> rfl
  | disableAll => rfl
  | reset => rfl

end Command

/-! ## Requests that come down to commands -/

namespace Control

/-- The command that a call gives. -/
def Call.command? : Call → Option Command
  | .enable name body => (Scenario.Overrides.ofBody? body).toOption.map (.enable name)
  | .disable name => some (.disable name)
  | .disableAll => some .disableAll
  | .reset => some .reset
  | .list | .status _ | .calls | .verify _ | .health => none

/-- A request leads to a place and brings a document along. -/
structure HttpRequest.Arrives (i : Interface) (r : HttpRequest) (place : Place) (body : Json) :
    Prop where
  located : i.place r.method r.target = .ok place
  read : i.read r.headers r.body = .ok body

/-- The command that a request gives: none if it is turned away before it finds its route. -/
def HttpRequest.command? (i : Interface) (r : HttpRequest) : Option Command :=
  if i.origins.any (Origin.allows · (r.headers.lookup "origin")) && r.method = "OPTIONS" then none
  else match i.place r.method r.target, i.read r.headers r.body with
    | .ok place, .ok body =>
      match plan r.method place (some body) with
      | .call c _ => c.command?
      | .options .. | .broken | .unknown => none
    | _, _ => none

theorem enableScenario_now (g : Setting) (s : State) (name : String) (body : Option Json) :
    (enableScenario g s name body).now = s.commanded (Call.enable name body).command? := by
  simp only [enableScenario, Call.command?]
  cases read : Scenario.Overrides.ofBody? body with
  | error reason => split <;> rfl
  | ok overrides =>
      simp only [Except.toOption, Option.map_some, State.commanded, Command.run, Done.map_now]
      rcases s.enable_cases name overrides with ⟨f, _, refused, same⟩ | ⟨c, config, done, _⟩
      · simp only [refused, same]
        split <;> rfl
      · have known : s.registry.has name = true := Scenario.Registry.has_of_configFor? config
        simp only [known, if_true, done]

/-- A call does to the state what its command does, and otherwise nothing. -/
theorem answer_now (g : Setting) (s : State) (c : Call) :
    (answer g s c).now = s.commanded c.command? := by
  cases c with
  | enable name body => exact enableScenario_now g s name body
  | disable name =>
      rcases s.disable_cases name with ⟨_, refused, same⟩ | ⟨_, done, _⟩
      · simp [answer, disableScenario, refused, refuse, Call.command?, State.commanded, Command.run,
          same]
      · simp [answer, disableScenario, done, Call.command?, State.commanded, Command.run]
  | status name =>
      simp only [answer, scenarioStatus]
      split <;> rfl
  | verify body =>
      simp only [answer, verifyCalls]
      split <;> try rfl
      split <;> rfl
  | list | disableAll | calls | reset | health => rfl

namespace Interface
variable (i : Interface) (g : Setting) (fresh : String) (s : State)

theorem draft_now (headers : List (String × String)) (r : HttpRequest) (place : Place) :
    (i.draft g s headers r place).now =
      match i.read r.headers r.body with
      | .error _ => s
      | .ok body =>
        match plan r.method place (some body) with
        | .call c _ => s.commanded c.command?
        | .options .. | .broken | .unknown => s := by
  unfold draft
  cases i.read r.headers r.body with
  | error refusal => rfl
  | ok body =>
      dsimp only
      cases plan r.method place (some body) with
      | call c inner =>
          simp only [← answer_now g s c, answerCall]
          split <;> rfl
      | options allowed inner => rfl
      | broken => rfl
      | unknown => rfl

theorem serve_now (r : HttpRequest) : (i.serve g fresh s r).now = s.commanded (r.command? i) := by
  unfold serve HttpRequest.command?
  cases i.place r.method r.target with
  | error page =>
      dsimp only
      split <;> rfl
  | ok place =>
      simp only [serveAt]
      split
      · rfl
      · dsimp only
        rw [draft_now]
        cases i.read r.headers r.body with
        | error refusal => rfl
        | ok body =>
            dsimp only
            split <;> rfl

end Interface

/-! ## Requests inject nothing -/

theorem refuse_events (s : State) {notice : Failure → Notice} (f : Failure)
    (quiet : (notice f).event? = none) : (refuse s notice f).events = [] := by
  simp only [refuse, Done.events, List.filterMap_cons, quiet, List.filterMap_nil]

theorem refusalNotice_event? (component : String) (f : Failure) :
    (refusalNotice component f).event? = none := by
  unfold refusalNotice
  split <;> rfl

theorem inCourseOf_event? (n : Notice) (correlation : String) :
    (n.inCourseOf correlation).event? = n.event? := by
  cases n <;> rfl

theorem enableScenario_events (g : Setting) (s : State) (name : String) (body : Option Json) :
    (enableScenario g s name body).events = [] := by
  have refused : ∀ f, (refuse s
      (fun f => (refusalNotice scenariosComponent f).inCourseOf g.correlation) f).events = [] :=
    fun f => refuse_events s f (by rw [inCourseOf_event?, refusalNotice_event?])
  unfold enableScenario
  dsimp only
  split
  · split
    · exact refused _
    · rename_i overrides _
      have quiet : (s.enable name overrides).notices.filterMap Notice.event? = [] :=
        Command.run_events s (.enable name overrides)
      split
      · exact refused _
      · rw [Done.events, List.filterMap_append, quiet]
        rfl
  · exact refused _

theorem answer_events (g : Setting) (s : State) (c : Call) : (answer g s c).events = [] := by
  cases c with
  | enable name body => exact enableScenario_events g s name body
  | disable name =>
      simp only [answer, disableScenario]
      split
      · exact refuse_events s _ (refusalNotice_event? ..)
      · exact Command.run_events s (.disable name)
  | status name =>
      simp only [answer, scenarioStatus]
      split
      · exact refuse_events s _ (refusalNotice_event? ..)
      · rfl
  | verify body =>
      simp only [answer, verifyCalls]
      split
      · rfl
      · exact refuse_events s _ (by rw [inCourseOf_event?, refusalNotice_event?])
      · split
        · exact refuse_events s _ (by rw [inCourseOf_event?, refusalNotice_event?])
        · rfl
  | list | disableAll | calls | reset | health => rfl

theorem answerCall_events (g : Setting) (s : State) (headers : List (String × String))
    (method : String) (path inner : List Char) (c : Call) :
    (answerCall g s headers method path inner c).events = [] := by
  have quiet : (answer g s c).notices.filterMap Notice.event? = [] := answer_events g s c
  unfold answerCall
  dsimp only
  split
  · exact quiet
  · rw [Done.events, List.filterMap_append, quiet]
    rfl

namespace Interface
variable (i : Interface) (g : Setting) (fresh : String) (s : State)

theorem draft_events (headers : List (String × String)) (r : HttpRequest) (place : Place) :
    (i.draft g s headers r place).events = [] := by
  unfold draft
  dsimp only
  split
  · rfl
  · split
    · exact answerCall_events ..
    · rfl
    · rfl
    · rfl

theorem serveAt_events (r : HttpRequest) (place : Place) :
    (i.serveAt g fresh s r place).events = [] := by
  have quiet : ∀ headers, (i.draft g s headers r place).notices.filterMap Notice.event? = [] :=
    fun headers => i.draft_events g s headers r place
  unfold serveAt
  dsimp only
  split
  · rfl
  · rw [Done.events, List.filterMap_append, quiet]
    split <;> rfl

theorem serve_events (r : HttpRequest) : (i.serve g fresh s r).events = [] := by
  unfold serve
  split
  · rfl
  · exact i.serveAt_events g fresh s r _

end Interface

end Control

end Faultline
