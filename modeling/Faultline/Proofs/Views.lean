import Mathlib.Data.List.Find
import Faultline.Proofs.Run

/-! # All views of the scenarios agree

The list of the scenarios, the status of each, the health report and the search for the first one
that waits are computed apart from one another. Whatever has been done to the shared state, they
show the same scenarios as enabled (`Coherent`).
-/

namespace Faultline

/-! ## What is done to the shared state -/

/-- What is done to the shared state: it is given a command, or a scenario is claimed. -/
inductive Deed where
  | command (c : Command)
  | claim (op : Operation)
  deriving DecidableEq

namespace Deed

/-- What a deed comes to: whether a command is accepted, or which scenario is claimed. -/
abbrev Result := Except Failure Unit ⊕ Option Scenario.Enabled

def run (s : State) : Deed → Done State Result
  | .command c => (c.run s).map .inl
  | .claim op => (s.claim op).map .inr

end Deed

namespace State

def after (s : State) : List Deed → State
  | [] => s
  | d :: rest => (d.run s).now.after rest

/-- What deeds come to that are done one after the other. -/
def results (s : State) : List Deed → List Deed.Result
  | [] => []
  | d :: rest => (d.run s).result :: (d.run s).now.results rest

/-- What holds at first and survives every deed holds after any number of them. -/
theorem after_induction {motive : State → Prop} {s : State} (start : motive s)
    (step : ∀ (t : State) (d : Deed), motive t → motive (d.run t).now) (deeds : List Deed) :
    motive (s.after deeds) := by
  induction deeds generalizing s with
  | nil => exact start
  | cons d rest ih => exact ih (step s d start)

/-- A claim takes what is found first, and nothing else is changed. -/
theorem claim_cases (s : State) (op : Operation) :
    (s.registry.findFirst? op = none ∧ (s.claim op).result = none ∧ (s.claim op).now = s) ∨
    (∃ e, s.registry.findFirst? op = some e ∧ (s.claim op).result = some e ∧
      (s.claim op).now = { s with registry := s.registry.put e.name none }) := by
  cases found : s.registry.findFirst? op with
  | none => left; simp [claim, Scenario.Registry.claimFirst?, found]
  | some e => right; simp [claim, Scenario.Registry.claimFirst?, found]

/-- What the registry of a state is that was made of these templates. -/
structure Sound (templates : List Scenario.Template) (s : State) : Prop where
  distinct : (templates.map (·.name)).Nodup
  templates : s.registry.templates = templates
  completed : s.registry.Completed

namespace Sound

variable {templates : List Scenario.Template} {s : State}

theorem names (h : s.Sound templates) : s.registry.names.Nodup := by
  rw [Scenario.Registry.names_templates, h.templates]
  exact h.distinct

theorem run (h : s.Sound templates) (d : Deed) : (d.run s).now.Sound templates := by
  cases d with
  | command c =>
      exact ⟨h.distinct, (c.run_templates s).trans h.templates, c.run_completed h.names h.completed⟩
  | claim op =>
      rcases s.claim_cases op with ⟨_, _, same⟩ | ⟨e, _, _, taken⟩
      · simpa only [Deed.run, Done.map_now, same] using h
      · simp only [Deed.run, Done.map_now, taken]
        exact ⟨h.distinct, (Scenario.Registry.templates_put ..).trans h.templates,
          h.completed.put_none e.name⟩

theorem after (h : s.Sound templates) (deeds : List Deed) : (s.after deeds).Sound templates :=
  after_induction h (fun _ d t => t.run d) deeds

end Sound

end State

/-! ## Configurations in effect -/

namespace Scenario

/-- Every parameter of the fault is given. -/
def Fault.IsGiven : Fault → Prop
  | .delay seconds => ∃ n, seconds = .given n
  | .returnError status message => (∃ n, status = .given n) ∧ ∃ text, message = .given text
  | .expireLink | .closeConnection => True

/-- A configuration with which a template's scenario can be in effect. -/
structure Config.Suits (c : Config) (t : Template) : Prop where
  description : c.description = t.config.description
  operation : c.operation = t.config.operation
  action : c.fault.action = t.config.fault.action
  given : c.fault.IsGiven

theorem Template.suits_complete (t : Template) (overrides : Overrides) :
    (t.config.complete overrides).Suits t := by
  refine ⟨rfl, rfl, ?_, ?_⟩
  · unfold Config.complete
    cases t.config.fault <;> rfl
  · unfold Config.complete
    cases t.config.fault with
    | delay seconds => exact ⟨_, rfl⟩
    | returnError status message => exact ⟨⟨_, rfl⟩, _, rfl⟩
    | expireLink | closeConnection => trivial

namespace Registry

theorem Completed.suits {r : Registry} (h : r.Completed) {s : Slot} (member : s ∈ r) {c : Config}
    (active : s.active = some c) : c.Suits s.template := by
  obtain ⟨overrides, rfl⟩ := h s member c active
  exact s.template.suits_complete overrides

/-! ## Single views -/

/-- Whether a list marks a scenario as enabled. -/
def marks (r : Registry) (name : String) : Bool := r.list.any fun m => m.name == name && m.enabled

theorem marks_of_mem {r : Registry} (distinct : r.names.Nodup) {s : Slot} (h : s ∈ r) :
    r.marks s.template.name = s.active.isSome := by
  rw [Bool.eq_iff_iff, marks, List.any_eq_true]
  constructor
  · rintro ⟨m, listed, named⟩
    obtain ⟨other, member, rfl⟩ := List.mem_map.mp listed
    obtain ⟨same, enabled⟩ := Bool.and_eq_true_iff.mp named
    have same : other.template.name = s.template.name := eq_of_beq same
    have found := slot?_of_mem distinct member
    rw [same, slot?_of_mem distinct h] at found
    obtain rfl := Option.some.inj found
    exact enabled
  · intro enabled
    exact ⟨_, List.mem_map.mpr ⟨s, h, rfl⟩, by simpa using enabled⟩

theorem findFirst?_name (r : Registry) (op : Operation) :
    (r.findFirst? op).map (·.name) =
      (r.find? fun s => s.active.any (·.operation = op)).map (·.template.name) := by
  induction r with
  | nil => rfl
  | cons s rest ih =>
      cases active : s.active with
      | none =>
          rw [List.find?_cons_of_neg (by simp [active]), findFirst?, active]
          exact ih
      | some c =>
          by_cases aims : c.operation = op
          · rw [List.find?_cons_of_pos (by simp [active, aims]), findFirst?, active]
            simp [aims]
          · rw [List.find?_cons_of_neg (by simp [active, aims]), findFirst?, active]
            simpa [aims] using ih

/-- What is found first is the scenario of the earliest template that aims at the traffic and is
    marked as enabled. -/
theorem findFirst?_earliest {r : Registry} (distinct : r.names.Nodup) (completed : r.Completed)
    (op : Operation) :
    (r.findFirst? op).map (·.name) =
      (r.templates.find? fun t => t.config.operation = op && r.marks t.name).map (·.name) := by
  have same : ∀ s ∈ r, s.active.any (·.operation = op) =
      (s.template.config.operation = op && r.marks s.template.name) := by
    intro s member
    rw [marks_of_mem distinct member]
    cases active : s.active with
    | none => simp
    | some c => simp [(completed.suits member active).operation]
  rw [findFirst?_name, templates, List.find?_map, Option.map_map, List.find?_congr same]
  rfl

theorem enabledNames_eq (r : Registry) :
    r.enabledNames = (r.list.filter (·.enabled)).map (·.name) := by
  rw [enabledNames, list, List.filter_map, List.map_map]
  rfl

theorem enabledNames_suited {r : Registry} (distinct : r.names.Nodup) (completed : r.Completed)
    {name : String} (h : name ∈ r.enabledNames) :
    ∃ t ∈ r.templates, t.name = name ∧ ∃ c, r.active? name = some c ∧ c.Suits t := by
  obtain ⟨s, enabled, rfl⟩ := List.mem_map.mp h
  obtain ⟨member, active⟩ := List.mem_filter.mp enabled
  obtain ⟨c, active⟩ := Option.isSome_iff_exists.mp active
  refine ⟨s.template, List.mem_map.mpr ⟨s, member, rfl⟩, rfl, c, ?_, completed.suits member active⟩
  simp [active?, slot?_of_mem distinct member, active]

theorem status?_of_listed {r : Registry} (distinct : r.names.Nodup) {m : Summary}
    (h : m ∈ r.list) : ∃ status, r.status? m.name = .ok status ∧ status.name = m.name ∧
      status.description = m.description ∧ status.config = r.active? m.name ∧
      status.config.isSome = m.enabled := by
  obtain ⟨s, member, rfl⟩ := List.mem_map.mp h
  have found := slot?_of_mem distinct member
  have active : r.active? s.template.name = s.active := by
    simp [active?, found]
  exact ⟨_, status?_of_template distinct (List.mem_map.mpr ⟨s, member, rfl⟩), rfl, rfl, rfl,
    congrArg Option.isSome active⟩

theorem status?_unknown {r : Registry} {name : String}
    (h : name ∉ r.templates.map (·.name)) : r.status? name = .error (.noScenario name) := by
  cases found : r.slot? name with
  | none => simp [status?, found]
  | some s =>
      have member : s ∈ r := List.mem_of_find?_eq_some found
      refine absurd ?_ h
      exact List.mem_map.mpr ⟨s.template, List.mem_map.mpr ⟨s, member, rfl⟩, slot?_name found⟩

end Registry

end Scenario

/-! ## All views -/

/-- What is shown of the scenarios fits together, and fits the templates. -/
structure State.Coherent (templates : List Scenario.Template) (s : State) : Prop where
  /-- The list has every template once, in order of registration. -/
  listed : s.registry.list.map (fun m => (m.name, m.description)) =
    templates.map fun t => (t.name, t.config.description)
  marked : s.registry.enabledNames = (s.registry.list.filter (·.enabled)).map (·.name)
  /-- Whoever is enabled has a template, and a configuration that suits it. -/
  enabled : ∀ name ∈ s.registry.enabledNames, ∃ t ∈ templates, t.name = name ∧
    ∃ c, s.registry.active? name = some c ∧ c.Suits t
  /-- Each scenario has a status, which shows the configuration it is enabled with. -/
  status : ∀ m ∈ s.registry.list, ∃ status, s.registry.status? m.name = .ok status ∧
    status.name = m.name ∧ status.description = m.description ∧
    status.config = s.registry.active? m.name ∧ status.config.isSome = m.enabled ∧
    (Control.statusDocument status).get? "enabled" = some (.bool m.enabled) ∧
    ((Control.statusDocument status).get? "config" = some .null ↔ m.enabled = false)
  unknown : ∀ name, name ∉ templates.map (·.name) →
    s.registry.status? name = .error (.noScenario name)
  /-- As long as the time can be told, the health report has the number of the marked scenarios. -/
  health : ∀ g, g.now.inRange = true → ∃ report,
    (Control.answer g s .health).result = .ok (.ok report) ∧
    report.get? "scenariosEnabled" = some (.ofNat (s.registry.list.countP (·.enabled)))
  /-- What is found first is the scenario of the earliest template that aims at the traffic and is
      marked as enabled. -/
  first : ∀ op, (s.registry.findFirst? op).map (·.name) =
    (templates.find? fun t => t.config.operation = op && s.registry.marks t.name).map (·.name)
  found : ∀ op e, s.registry.findFirst? op = some e → s.registry.active? e.name = some e.config

theorem Control.statusDocument_enabled (status : Scenario.Status) :
    (statusDocument status).get? "enabled" = some (.bool status.config.isSome) := rfl

theorem Control.statusDocument_config (status : Scenario.Status) :
    (statusDocument status).get? "config" = some .null ↔ status.config.isSome = false := by
  obtain ⟨name, description, config⟩ := status
  cases config with
  | none => exact iff_of_true rfl rfl
  | some c =>
      refine iff_of_false ?_ Bool.noConfusion
      intro null
      cases Option.some.inj null

theorem Control.health_told {g : Setting} (s : State) (inRange : g.now.inRange = true) :
    ∃ report, (answer g s .health).result = .ok (.ok report) ∧
      report.get? "scenariosEnabled" = some (.ofNat s.registry.enabledNames.length) := by
  obtain ⟨stamp, told⟩ : ∃ stamp, g.now.text = .ok stamp := by
    simp [Instant.text, Instant.text?, inRange]
  simp only [answer, checkHealth, Done.nothing_result, told, Except.map]
  exact ⟨_, rfl, rfl⟩

theorem State.Sound.coherent {templates : List Scenario.Template} {s : State}
    (h : s.Sound templates) : s.Coherent templates where
  listed := by
    rw [← h.templates, Scenario.Registry.templates, Scenario.Registry.list, List.map_map,
      List.map_map]
    rfl
  marked := s.registry.enabledNames_eq
  enabled := by
    intro name member
    rw [← h.templates]
    exact Scenario.Registry.enabledNames_suited h.names h.completed member
  status := by
    intro m listed
    obtain ⟨status, shown, name, description, config, enabled⟩ :=
      Scenario.Registry.status?_of_listed h.names listed
    refine ⟨status, shown, name, description, config, enabled, ?_, ?_⟩
    · rw [Control.statusDocument_enabled, enabled]
    · rw [Control.statusDocument_config, enabled]
  unknown := by
    intro name absent
    rw [← h.templates] at absent
    exact Scenario.Registry.status?_unknown absent
  health := by
    intro g inRange
    have number : s.registry.enabledNames.length = s.registry.list.countP (·.enabled) := by
      rw [Scenario.Registry.enabledNames_eq, List.length_map, List.countP_eq_length_filter]
    rw [← number]
    exact Control.health_told s inRange
  first := by
    intro op
    rw [← h.templates]
    exact Scenario.Registry.findFirst?_earliest h.names h.completed op
  found := fun _ _ found => Scenario.Registry.active?_findFirst? h.names found

/-- In a running proxy the views agree as well, whatever comes in and however long it takes. -/
theorem Reachable.coherent {templates : List Scenario.Template} {capacity : Number} {p : Proxy}
    (h : Reachable templates capacity p) : p.state.Coherent templates :=
  State.Sound.coherent ⟨h.serves.distinct, h.serves.templates, h.serves.completed⟩

/-- A registry is made of exactly the lists of templates in which no name occurs twice; otherwise
    the first repeated name is told. Whatever is done to it, all views of it agree. -/
theorem views_agree (templates : List Scenario.Template) :
    ((∃ r, Scenario.Registry.ofTemplates? templates = .ok r) ↔
      (templates.map (·.name)).Nodup) ∧
    (∀ f, Scenario.Registry.ofTemplates? templates = .error f ↔
      ∃ earlier name later, templates.map (·.name) = earlier ++ name :: later ∧
        earlier.Nodup ∧ name ∈ earlier ∧ f = .duplicateScenario name) ∧
    ∀ r, Scenario.Registry.ofTemplates? templates = .ok r → ∀ history deeds,
      (State.after ⟨r, history⟩ deeds).Coherent templates := by
  refine ⟨?_, fun _ => Scenario.Registry.ofTemplates?_error, ?_⟩
  · simp [Scenario.Registry.ofTemplates?_ok]
  · intro r made history deeds
    obtain ⟨distinct, rfl⟩ := Scenario.Registry.ofTemplates?_ok.mp made
    have start : State.Sound templates ⟨templates.map fun t => ⟨t, none⟩, history⟩ :=
      ⟨distinct, Scenario.Registry.templates_new templates,
        Scenario.Registry.completed_new templates⟩
    exact (start.after deeds).coherent

/-- Both scenarios are enabled, and the one that was registered first is claimed, although it was
    enabled last; two other commands are refused. -/
def sampleDeeds : List Deed :=
  [.command (.enable "cut" .none), .command (.enable "slow" ⟨.given (.ofNat 3)⟩),
    .command (.enable "cut" ⟨.given (.ofNat 3)⟩), .command (.disable "lost"), .claim .download]

theorem views_agree_after_claim :
    ∃ r, Scenario.Registry.ofTemplates? sampleTemplates = .ok r ∧
      let s := State.after ⟨r, ⟨4, [], 0⟩⟩ sampleDeeds
      s.Coherent sampleTemplates ∧ s.registry.enabledNames = ["cut"] ∧
        (s.registry.findFirst? .download).map (·.name) = some "cut" ∧
        s.registry.findFirst? .thriftCall = none := by
  obtain ⟨made, _, agree⟩ := views_agree sampleTemplates
  obtain ⟨r, new⟩ := made.mpr (by decide)
  refine ⟨r, new, agree r new ⟨4, [], 0⟩ sampleDeeds, ?_⟩
  obtain ⟨_, rfl⟩ := Scenario.Registry.ofTemplates?_ok.mp new
  decide +kernel

end Faultline
