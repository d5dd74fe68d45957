import Faultline.Proofs.Comparing

/-! # Durations left out

Two registries that are the same once the durations of delays are left out list the same scenarios,
have the same ones enabled, and let the same one be claimed (`findFirst?_timeless`). Commands keep
them so (`commanded`), and calls get the same replies but for the values of durations
(`answer_alike`).
-/

namespace Faultline

/-- Two options that `f` makes the same are both empty, or `f` makes the same of what they hold. -/
theorem map_same_cases {α β : Type} {f : α → β} {x y : Option α} (same : y.map f = x.map f) :
    (x = none ∧ y = none) ∨ ∃ a b, x = some a ∧ y = some b ∧ f b = f a := by
  cases x with
  | none => exact .inl ⟨rfl, Option.map_eq_none_iff.mp same⟩
  | some a =>
      obtain ⟨b, there, alike⟩ := Option.map_eq_some_iff.mp same
      exact .inr ⟨a, b, rfl, there, alike⟩

/-! ## Scenarios without durations -/

namespace Scenario

def Fault.timeless : Fault → Fault
  | .delay _ => .delay .absent
  | .expireLink => .expireLink
  | .returnError status message => .returnError status message
  | .closeConnection => .closeConnection

def Config.timeless (c : Config) : Config := { c with fault := c.fault.timeless }

def Template.timeless (t : Template) : Template := { t with config := t.config.timeless }

def Slot.timeless (s : Slot) : Slot := ⟨s.template.timeless, s.active.map Config.timeless⟩

def Enabled.timeless (e : Enabled) : Enabled := { e with config := e.config.timeless }

@[simp] theorem Fault.action_timeless (f : Fault) : f.timeless.action = f.action := by
  cases f <;> rfl

/-- Only the durations of delays are left out. -/
theorem Fault.eq_of_timeless {f g : Fault} (same : g.timeless = f.timeless)
    (other : f.action ≠ .delay) : g = f := by
  cases f with
  | delay => exact absurd rfl other
  | expireLink | returnError | closeConnection => cases g <;> first | exact same | cases same

theorem Config.parts_of_timeless {c d : Config} (same : d.timeless = c.timeless) :
    d.description = c.description ∧ d.operation = c.operation ∧
      d.fault.timeless = c.fault.timeless := by
  simpa only [timeless, Config.mk.injEq] using same

theorem Config.action_of_timeless {c d : Config} (same : d.timeless = c.timeless) :
    d.fault.action = c.fault.action := by
  rw [← Fault.action_timeless d.fault, (parts_of_timeless same).2.2, Fault.action_timeless]

theorem Config.eq_of_timeless {c d : Config} (same : d.timeless = c.timeless)
    (other : c.fault.action ≠ .delay) : d = c := by
  obtain ⟨description, operation, faults⟩ := parts_of_timeless same
  have fault := Fault.eq_of_timeless faults other
  cases c
  cases d
  simp_all

/-- Overrides bear on nothing but durations. -/
theorem Config.complete_timeless (c : Config) (overrides : Overrides) :
    (c.complete overrides).timeless = (c.timeless.complete .none).timeless := by
  obtain ⟨description, operation, fault⟩ := c
  cases fault <;> rfl

theorem Slot.parts_of_timeless {s t : Slot} (same : t.timeless = s.timeless) :
    t.template.config.timeless = s.template.config.timeless ∧
      t.active.map Config.timeless = s.active.map Config.timeless := by
  obtain ⟨templates, actives⟩ := Slot.mk.inj same
  exact ⟨congrArg (fun x : Template => x.config) templates, actives⟩

namespace Registry

def timeless (r : Registry) : Registry := r.map Slot.timeless

@[simp] theorem list_timeless (r : Registry) : r.timeless.list = r.list := by
  simp only [list, timeless, List.map_map]
  refine List.map_congr_left fun s _ => ?_
  simp only [Function.comp_apply, Slot.timeless, Option.isSome_map]
  rfl

@[simp] theorem enabledNames_timeless (r : Registry) :
    r.timeless.enabledNames = r.enabledNames := by
  simp only [enabledNames, timeless, List.filter_map, List.map_map]
  have same : (fun s : Slot => s.active.isSome) ∘ Slot.timeless = fun s => s.active.isSome := by
    funext s
    simp only [Function.comp_apply, Slot.timeless, Option.isSome_map]
  rw [same]
  rfl

theorem timeless_new (templates : List Template) :
    timeless (templates.map fun t => ⟨t, none⟩) =
      (templates.map Template.timeless).map fun t => ⟨t, none⟩ := by
  simp only [timeless, List.map_map]
  rfl

theorem put_timeless (r : Registry) (name : String) (active : Option Config) :
    (r.put name active).timeless = r.timeless.put name (active.map Config.timeless) := by
  simp only [put, timeless, List.map_map]
  refine List.map_congr_left fun s _ => ?_
  simp only [Function.comp_apply]
  by_cases here : s.template.name = name
  · rw [if_pos here]
    exact (if_pos here).symm
  · rw [if_neg here]
    exact (if_neg here).symm

theorem disableAll_timeless (r : Registry) : r.disableAll.timeless = r.timeless.disableAll := by
  simp only [disableAll, timeless, List.map_map]
  rfl

theorem slot?_timeless (r : Registry) (name : String) :
    r.timeless.slot? name = (r.slot? name).map Slot.timeless := by
  simp only [slot?, timeless, List.find?_map]
  rfl

theorem has_timeless (r : Registry) (name : String) : r.timeless.has name = r.has name := by
  rw [has, slot?_timeless, Option.isSome_map, has]

/-- The same scenario is next, whatever the durations. -/
theorem findFirst?_timeless (r : Registry) (op : Operation) :
    r.timeless.findFirst? op = (r.findFirst? op).map Enabled.timeless := by
  induction r with
  | nil => rfl
  | cons s rest ih =>
      obtain ⟨template, active⟩ := s
      cases active with
      | none => exact ih
      | some c =>
          simp only [timeless, List.map_cons, findFirst?] at ih ⊢
          show (if c.operation = op then _ else _) =
            Option.map _ (if c.operation = op then _ else _)
          split
          · rfl
          · exact ih

end Registry

end Scenario

/-! ## States -/

/-- Two states are the same once durations are left out. -/
structure State.Alike (s t : State) : Prop where
  registry : t.registry.timeless = s.registry.timeless
  history : t.history = s.history

namespace Scenario.Registry

variable {r q : Registry} (h : q.timeless = r.timeless)
include h

theorem list_alike : q.list = r.list := by
  rw [← list_timeless q, h, list_timeless]

theorem enabledNames_alike : q.enabledNames = r.enabledNames := by
  rw [← enabledNames_timeless q, h, enabledNames_timeless]

theorem has_alike (name : String) : q.has name = r.has name := by
  rw [← has_timeless q, h, has_timeless]

theorem put_alike (name : String) {active other : Option Config}
    (same : other.map Config.timeless = active.map Config.timeless) :
    (q.put name other).timeless = (r.put name active).timeless := by
  rw [put_timeless, put_timeless, h, same]

theorem findFirst?_alike (op : Operation) :
    (q.findFirst? op).map Enabled.timeless = (r.findFirst? op).map Enabled.timeless := by
  rw [← findFirst?_timeless, h, findFirst?_timeless]

theorem slot?_alike (name : String) :
    (q.slot? name).map Slot.timeless = (r.slot? name).map Slot.timeless := by
  rw [← slot?_timeless, h, slot?_timeless]

/-- Enabling with overrides comes to the same once durations are left out, and is refused for the
    same reason; overrides that a delay is given make no difference at all. -/
theorem configFor?_alike {name : String} {overrides other : Overrides}
    (same : other = overrides ∨
      ∀ s, r.slot? name = some s → s.template.config.fault.action = .delay) :
    (q.configFor? name other).map Config.timeless =
      (r.configFor? name overrides).map Config.timeless := by
  unfold configFor?
  rcases map_same_cases (slot?_alike h name) with ⟨missing, missing'⟩ | ⟨s, t, found, found', alike⟩
  · rw [missing, missing']
  · have configs := (Slot.parts_of_timeless alike).1
    have action := Config.action_of_timeless configs
    have completed : (t.template.config.complete other).timeless =
        (s.template.config.complete overrides).timeless := by
      rw [Config.complete_timeless, configs, ← Config.complete_timeless]
    simp only [found, found', action]
    rcases same with rfl | delay
    · cases other.refusedBy? s.template.config.fault.action with
      | none => exact congrArg Except.ok completed
      | some reason => rfl
    · rw [delay s found]
      have accepted : ∀ o : Overrides, o.refusedBy? .delay = none := by
        intro o
        unfold Overrides.refusedBy?
        cases o.seconds.isPresent <;> rfl
      rw [accepted, accepted]
      exact congrArg Except.ok completed

end Scenario.Registry

/-! ## Commands -/

/-- Two commands are the same, or they enable the same delay for different durations. -/
inductive Command.Alike (templates : List Scenario.Template) : Command → Command → Prop where
  | refl (c : Command) : Alike templates c c
  | enable {t : Scenario.Template} (known : t ∈ templates)
      (delays : t.config.fault.action = .delay) (overrides other : Scenario.Overrides) :
      Alike templates (.enable t.name overrides) (.enable t.name other)

theorem Command.Alike.rel_refl {templates : List Scenario.Template} (c : Option Command) :
    Option.Rel (Command.Alike templates) c c := by
  cases c with
  | none => exact .none
  | some c => exact .some (.refl c)

theorem Scenario.Registry.slot?_delays {r : Registry} (distinct : r.names.Nodup) {t : Template}
    (known : t ∈ r.templates) (delays : t.config.fault.action = .delay) :
    ∀ s, r.slot? t.name = some s → s.template.config.fault.action = .delay := by
  intro s found
  obtain ⟨own, member, rfl⟩ := List.mem_map.mp known
  obtain rfl := Option.some.inj ((slot?_of_mem distinct member).symm.trans found)
  exact delays

namespace State.Alike

variable {s t : State} (h : s.Alike t)
include h

theorem enable {name : String} {overrides other : Scenario.Overrides}
    (same : other = overrides ∨
      ∀ slot, s.registry.slot? name = some slot → slot.template.config.fault.action = .delay) :
    (s.enable name overrides).now.Alike (t.enable name other).now := by
  have configs := Scenario.Registry.configFor?_alike h.registry same
  rcases s.enable_cases name overrides with ⟨f, refused, _, now⟩ | ⟨c, config, _, now⟩
  · rcases t.enable_cases name other with ⟨_, _, _, now'⟩ | ⟨_, config', _, _⟩
    · rwa [now, now']
    · rw [refused, config'] at configs
      cases configs
  · rcases t.enable_cases name other with ⟨_, refused', _, _⟩ | ⟨d, config', _, now'⟩
    · rw [config, refused'] at configs
      cases configs
    · rw [config, config'] at configs
      have alike : d.timeless = c.timeless := Except.ok.inj configs
      rw [now, now']
      refine ⟨Scenario.Registry.put_alike h.registry name (congrArg some alike), ?_⟩
      simp only [(Scenario.Config.parts_of_timeless alike).2.1, h.history]

theorem commanded {templates : List Scenario.Template} (distinct : s.registry.names.Nodup)
    (registered : s.registry.templates = templates) {c d : Command}
    (same : c.Alike templates d) : (c.run s).now.Alike (d.run t).now := by
  cases same with
  | enable known delays overrides other =>
      rw [← registered] at known
      exact h.enable (.inr (Scenario.Registry.slot?_delays distinct known delays))
  | refl =>
      cases c with
      | enable name overrides => exact h.enable (.inl rfl)
      | disable name =>
          have known := Scenario.Registry.has_alike h.registry name
          rcases s.disable_cases name with ⟨absent, _, now⟩ | ⟨present, _, now⟩
          · rcases t.disable_cases name with ⟨_, _, now'⟩ | ⟨present', _, _⟩
            · simp only [Command.run, now, now']
              exact h
            · rw [absent, present'] at known
              cases known
          · rcases t.disable_cases name with ⟨absent', _, _⟩ | ⟨_, _, now'⟩
            · rw [present, absent'] at known
              cases known
            · simp only [Command.run, now, now']
              exact ⟨Scenario.Registry.put_alike h.registry name rfl, h.history⟩
      | disableAll =>
          refine ⟨?_, h.history⟩
          show t.registry.disableAll.timeless = s.registry.disableAll.timeless
          rw [Scenario.Registry.disableAll_timeless, h.registry,
            Scenario.Registry.disableAll_timeless]
      | reset => exact ⟨h.registry, congrArg Call.History.clear h.history⟩

theorem commanded? {templates : List Scenario.Template} (distinct : s.registry.names.Nodup)
    (registered : s.registry.templates = templates) {c d : Option Command}
    (same : Option.Rel (Command.Alike templates) c d) : (s.commanded c).Alike (t.commanded d) := by
  cases same with
  | none => exact h
  | some same => exact h.commanded distinct registered same

end State.Alike

/-! ## Documents without durations -/

namespace Json

mutual

/-- The value with `null` for the members named `key`, however deep they are. -/
def blank (key : String) : Json → Json
  | .null => .null
  | .bool b => .bool b
  | .number n => .number n
  | .string s => .string s
  | .array items => .array (blankItems key items)
  | .object ms => .object (blankMembers key ms)

def blankItems (key : String) : List Json → List Json
  | [] => []
  | v :: rest => blank key v :: blankItems key rest

def blankMembers (key : String) : Members → Members
  | [] => []
  | (k, v) :: rest => (k, if k = key then .null else blank key v) :: blankMembers key rest

end

/-- The value with its durations left out. -/
def timeless : Json → Json := blank Scenario.Overrides.Field.seconds.key

end Json

namespace Scenario

/-- A delay has a duration. -/
def Config.IsComplete (c : Config) : Prop := ∀ s, c.fault = .delay s → ∃ n, s = .given n

theorem Config.complete_isComplete (c : Config) (overrides : Overrides) :
    (c.complete overrides).IsComplete := by
  intro s same
  obtain ⟨description, operation, fault⟩ := c
  cases fault with
  | delay seconds =>
      obtain rfl := Fault.delay.inj same
      exact ⟨_, rfl⟩
  | expireLink | returnError | closeConnection => cases same

theorem Registry.Completed.isComplete {r : Registry} (h : r.Completed) {s : Slot} (member : s ∈ r)
    {c : Config} (active : s.active = some c) : c.IsComplete := by
  obtain ⟨overrides, rfl⟩ := h s member c active
  exact Config.complete_isComplete _ _

theorem Registry.configFor?_isComplete {r : Registry} {name : String} {overrides : Overrides}
    {c : Config} (h : r.configFor? name overrides = .ok c) : c.IsComplete := by
  obtain ⟨s, _, rfl⟩ := Registry.configFor?_ok h
  exact Config.complete_isComplete _ _

theorem Config.document_delay (description : String) (operation : Operation) (n : Number) :
    (Config.mk description operation (.delay (.given n))).document.timeless =
      .object [("description", .string description), ("operation", .string operation.name),
        ("action", .string Action.delay.name), (Overrides.Field.seconds.key, .null)] := rfl

theorem Config.document_alike {c d : Config} (same : d.timeless = c.timeless)
    (complete : c.IsComplete) (complete' : d.IsComplete) :
    d.document.timeless = c.document.timeless := by
  by_cases delays : c.fault.action = .delay
  · have delays' := (action_of_timeless same).trans delays
    obtain ⟨description, operation, fault⟩ := c
    obtain ⟨description', operation', fault'⟩ := d
    cases fault with
    | delay seconds =>
        cases fault' with
        | delay seconds' =>
            obtain ⟨n, rfl⟩ := complete seconds rfl
            obtain ⟨m, rfl⟩ := complete' seconds' rfl
            obtain ⟨same, operations, _⟩ := parts_of_timeless same
            dsimp only at same operations
            rw [document_delay, document_delay, same, operations]
        | expireLink | returnError | closeConnection => cases delays'
    | expireLink | returnError | closeConnection => cases delays
  · rw [eq_of_timeless same delays]

end Scenario

/-! ## Answers without durations -/

namespace Control

def Reply.timeless : Reply → Reply := Reply.mapBody Json.timeless

/-- The reply to a request that enables a scenario, once its overrides are read. -/
def enabledReply (name : String) : Except Failure Scenario.Config → Reply
  | .ok c => .ok (enabledDocument name c)
  | .error f => .refusal f

theorem enableScenario_result (g : Setting) (s : State) (name : String) (body : Option Json) :
    (enableScenario g s name body).result =
      .ok (match Scenario.Overrides.ofBody? body with
        | .ok overrides => enabledReply name (s.registry.configFor? name overrides)
        | .error reason =>
          .refusal (if s.registry.has name then .rejected reason else .noScenario name)) := by
  unfold enableScenario
  dsimp only
  split
  · cases Scenario.Overrides.ofBody? body with
    | error reason => rfl
    | ok overrides =>
        dsimp only
        rcases s.enable_cases name overrides with ⟨f, config, refused, _⟩ | ⟨c, config, done, _⟩
        · simp only [refused, config]
          rfl
        · simp only [done, config]
          rfl
  · rename_i unknown
    have missing : s.registry.slot? name = none := by
      simpa [Scenario.Registry.has] using unknown
    cases Scenario.Overrides.ofBody? body with
    | error reason => rfl
    | ok overrides =>
        simp only [Scenario.Registry.configFor?, missing]
        rfl

theorem enabledDocument_timeless (name : String) (c : Scenario.Config) :
    (enabledDocument name c).timeless =
      .object [("scenario", .string name), ("enabled", .bool true),
        ("config", c.document.timeless)] := rfl

theorem statusDocument_timeless (status : Scenario.Status) :
    (statusDocument status).timeless =
      .object [("name", .string status.name), ("description", .string status.description),
        ("enabled", .bool status.config.isSome),
        ("config", ((status.config.map Scenario.Config.document).getD .null).timeless)] := rfl

theorem enabledReply_alike (name : String) {x y : Except Failure Scenario.Config}
    (same : y.map Scenario.Config.timeless = x.map Scenario.Config.timeless)
    (complete : ∀ c, x = .ok c → c.IsComplete) (complete' : ∀ c, y = .ok c → c.IsComplete) :
    (enabledReply name y).timeless = (enabledReply name x).timeless := by
  cases x with
  | error f =>
      cases y with
      | error f' => rw [Except.error.inj same]
      | ok d => cases same
  | ok c =>
      cases y with
      | error f => cases same
      | ok d =>
          have documents := Scenario.Config.document_alike (Except.ok.inj same) (complete c rfl)
            (complete' d rfl)
          have bodies : (enabledDocument name d).timeless = (enabledDocument name c).timeless := by
            rw [enabledDocument_timeless, enabledDocument_timeless, documents]
          exact congrArg (Reply.mk (.ofNat 200)) bodies

section
variable {s t : State} (h : s.Alike t) (g : Setting)
include h

theorem enableScenario_alike (name : String) {body other : Option Json}
    (same : other = body ∨ ∃ overrides overrides', Scenario.Overrides.ofBody? body = .ok overrides ∧
      Scenario.Overrides.ofBody? other = .ok overrides' ∧
      ∀ slot, s.registry.slot? name = some slot → slot.template.config.fault.action = .delay) :
    (enableScenario g t name other).result.map Reply.timeless =
      (enableScenario g s name body).result.map Reply.timeless := by
  rw [enableScenario_result, enableScenario_result]
  have replies : ∀ overrides overrides', (overrides' = overrides ∨
      ∀ slot, s.registry.slot? name = some slot →
        slot.template.config.fault.action = .delay) →
      (enabledReply name (t.registry.configFor? name overrides')).timeless =
        (enabledReply name (s.registry.configFor? name overrides)).timeless :=
    fun overrides overrides' same => enabledReply_alike name
      (Scenario.Registry.configFor?_alike h.registry same)
      (fun _ config => Scenario.Registry.configFor?_isComplete config)
      (fun _ config => Scenario.Registry.configFor?_isComplete config)
  rcases same with rfl | ⟨overrides, overrides', read, read', delays⟩
  · rw [Scenario.Registry.has_alike h.registry]
    cases Scenario.Overrides.ofBody? other with
    | error reason => rfl
    | ok overrides => exact congrArg Except.ok (replies overrides overrides (.inl rfl))
  · rw [read, read']
    exact congrArg Except.ok (replies overrides overrides' (.inr delays))

theorem scenarioStatus_alike (complete : s.registry.Completed) (complete' : t.registry.Completed)
    (name : String) :
    (scenarioStatus t name).result.map Reply.timeless =
      (scenarioStatus s name).result.map Reply.timeless := by
  simp only [scenarioStatus, Scenario.Registry.status?]
  rcases map_same_cases (Scenario.Registry.slot?_alike h.registry name) with
    ⟨missing, missing'⟩ | ⟨slot, slot', found, found', same⟩
  · rw [missing, missing']
    rfl
  · rw [found, found']
    obtain ⟨configs, active⟩ := Scenario.Slot.parts_of_timeless same
    have description := (Scenario.Config.parts_of_timeless configs).1
    have enabled : slot'.active.isSome = slot.active.isSome := by
      simpa using congrArg Option.isSome active
    have config : ((slot'.active.map Scenario.Config.document).getD .null).timeless =
        ((slot.active.map Scenario.Config.document).getD .null).timeless := by
      rcases map_same_cases active with ⟨idle, idle'⟩ | ⟨c, d, waiting, waiting', alike⟩
      · rw [idle, idle']
      · have member := List.mem_of_find?_eq_some found
        have member' := List.mem_of_find?_eq_some found'
        rw [waiting, waiting']
        exact Scenario.Config.document_alike alike (complete.isComplete member waiting)
          (complete'.isComplete member' waiting')
    have documents : (statusDocument
          ⟨name, slot'.template.config.description, slot'.active⟩).timeless =
        (statusDocument ⟨name, slot.template.config.description, slot.active⟩).timeless := by
      rw [statusDocument_timeless, statusDocument_timeless]
      simp only [description, enabled, config]
    exact congrArg (fun v => Except.ok (Reply.mk (.ofNat 200) v)) documents

/-- Every call gets the same reply once durations are left out. -/
theorem answer_alike (complete : s.registry.Completed) (complete' : t.registry.Completed)
    (c : Call) :
    (answer g t c).result.map Reply.timeless = (answer g s c).result.map Reply.timeless := by
  have names := Scenario.Registry.enabledNames_alike h.registry
  cases c with
  | enable name body => exact enableScenario_alike h g name (.inl rfl)
  | status name => exact scenarioStatus_alike h complete complete' name
  | list => simp only [answer, listScenarios, Scenario.Registry.list_alike h.registry]; rfl
  | disable name =>
      have known := Scenario.Registry.has_alike h.registry name
      simp only [answer, disableScenario, State.disable, Scenario.Registry.disable?, known]
      cases s.registry.has name <;> rfl
  | calls => simp only [answer, listCalls, h.history]; rfl
  | verify body =>
      simp only [answer, verifyCalls, h.history]
      split
      · rfl
      · rfl
      · split <;> rfl
  | health => simp only [answer, checkHealth, h.history, names]; rfl
  | disableAll | reset => rfl

end

end Control

end Faultline
