import Faultline.Proofs.Answering

/-! # Control requests are atomic

A control request carries out one call in full, or it leaves the shared state as it was; its status
tells which. What a call does is said here through two views of the state: the configuration under
each name, and the records of the history.
-/

namespace Faultline

/-- No failure is told with the status of success. -/
theorem Failure.status_ne (f : Failure) : f.status ≠ 200 := by
  unfold Failure.status Code.status
  split
  · decide
  · split
    · decide
    · split
      · decide
      · split <;> decide

/-- A state becomes one in which these configurations are enabled and these records remembered;
    the templates, the capacity and the count of evicted records stay. -/
def State.Becomes (s t : State) (enabled : String → Option Scenario.Config)
    (records : List Call.Record) : Prop :=
  t.registry.templates = s.registry.templates ∧ t.registry.active? = enabled ∧
    t.history = { s.history with records }

namespace Control

/-- What a call does when it is carried out. -/
def Call.Effect (s t : State) : Call → Prop
  | .enable name body => ∃ template ∈ s.registry.templates, template.name = name ∧
      ∃ overrides, Scenario.Overrides.ofBody? body = .ok overrides ∧
        s.Becomes t
          (Function.update s.registry.active? name (some (template.config.complete overrides)))
          (if template.config.operation = .download then [] else s.history.records)
  | .disable name => s.registry.has name = true ∧
      s.Becomes t (Function.update s.registry.active? name none) s.history.records
  | .disableAll => s.Becomes t (fun _ => none) s.history.records
  | .reset => s.Becomes t s.registry.active? []
  | .verify _ | .list | .status _ | .calls | .health => t = s

theorem Call.command?_of_reads {c : Call} (h : c.reads = true) : c.command? = none := by
  cases c with
  | list | status | calls | health => rfl
  | enable | disable | disableAll | reset | verify => cases h

/-! ## Answers -/

def enabledDocument (name : String) (config : Scenario.Config) : Json :=
  .object [("scenario", .string name), ("enabled", .bool true), ("config", config.document)]

theorem enableScenario_cases (g : Setting) (s : State) (name : String) (body : Option Json) :
    (∃ f, (enableScenario g s name body).result = .ok (.refusal f) ∧
      (enableScenario g s name body).now = s) ∨
    (∃ overrides c, Scenario.Overrides.ofBody? body = .ok overrides ∧
      s.registry.configFor? name overrides = .ok c ∧
      (enableScenario g s name body).result = .ok (.ok (enabledDocument name c)) ∧
      (enableScenario g s name body).now =
        ⟨s.registry.put name (some c),
          if c.operation = .download then s.history.clear else s.history⟩) := by
  unfold enableScenario
  dsimp only
  split
  · cases read : Scenario.Overrides.ofBody? body with
    | error reason => exact .inl ⟨_, rfl, rfl⟩
    | ok overrides =>
        dsimp only
        rcases s.enable_cases name overrides with ⟨f, _, refused, _⟩ | ⟨c, config, done, now⟩
        · simp only [refused]
          exact .inl ⟨_, rfl, rfl⟩
        · simp only [done]
          exact .inr ⟨overrides, c, rfl, config, rfl, now⟩
  · exact .inl ⟨_, rfl, rfl⟩

theorem enable_effect {s : State} {name : String} {overrides : Scenario.Overrides}
    {c : Scenario.Config} (config : s.registry.configFor? name overrides = .ok c) :
    ∃ template ∈ s.registry.templates, template.name = name ∧
      c = template.config.complete overrides ∧
      s.Becomes
        ⟨s.registry.put name (some c),
          if c.operation = .download then s.history.clear else s.history⟩
        (Function.update s.registry.active? name (some c))
        (if template.config.operation = .download then [] else s.history.records) := by
  obtain ⟨slot, found, rfl⟩ := Scenario.Registry.configFor?_ok config
  refine ⟨slot.template, List.mem_map.mpr ⟨slot, List.mem_of_find?_eq_some found, rfl⟩,
    Scenario.Registry.slot?_name found, rfl, Scenario.Registry.templates_put .., ?_, ?_⟩
  · exact Scenario.Registry.active?_put (Scenario.Registry.has_of_configFor? config) _
  · show (if slot.template.config.operation = .download then _ else _) = _
    split <;> rfl

theorem refusal_status (f : Failure) : (Reply.refusal f).status ≠ .ofNat 200 :=
  Number.ofNat_ne f.status_ne

/-- A call that is answered with success has been carried out. -/
theorem answer_effect {g : Setting} {s : State} {c : Call} {reply : Reply}
    (h : (answer g s c).result = .ok reply) (success : reply.status = .ofNat 200) :
    c.Effect s (answer g s c).now := by
  cases c with
  | enable name body =>
      rcases enableScenario_cases g s name body with
        ⟨f, refused, _⟩ | ⟨overrides, config, read, effective, _, now⟩
      · obtain rfl := Except.ok.inj (h.symm.trans refused)
        exact absurd success (refusal_status f)
      · obtain ⟨template, member, named, rfl, becomes⟩ := enable_effect effective
        rw [answer, now]
        exact ⟨template, member, named, overrides, read, becomes⟩
  | disable name =>
      rcases s.disable_cases name with ⟨_, refused, _⟩ | ⟨known, done, now⟩
      · simp only [answer, disableScenario, refused, refuse] at h
        obtain rfl := Except.ok.inj h
        exact absurd success (refusal_status _)
      · simp only [answer, disableScenario, done, now]
        exact ⟨known, Scenario.Registry.templates_put ..,
          Scenario.Registry.active?_put known _, rfl⟩
  | disableAll =>
      exact ⟨Scenario.Registry.templates_disableAll _,
        funext (Scenario.Registry.active?_disableAll _), rfl⟩
  | reset => exact ⟨rfl, rfl, rfl⟩
  | verify body => exact answer_now g s (.verify body)
  | status name => exact answer_now g s (.status name)
  | list | calls | health => rfl

/-- A call that is not answered with success has changed nothing. -/
theorem answer_refused {g : Setting} {s : State} {c : Call}
    (h : ∀ reply, (answer g s c).result = .ok reply → reply.status ≠ .ofNat 200) :
    (answer g s c).now = s := by
  cases c with
  | enable name body =>
      rcases enableScenario_cases g s name body with ⟨_, _, same⟩ | ⟨_, _, _, _, done, _⟩
      · exact same
      · exact absurd rfl (h _ done)
  | disable name =>
      rcases s.disable_cases name with ⟨_, refused, _⟩ | ⟨_, done, _⟩
      · simp only [answer, disableScenario, refused]
        rfl
      · let reply : Json := .object [("scenario", .string name), ("enabled", .bool false)]
        refine absurd rfl (h (.ok reply) ?_)
        simp only [answer, disableScenario, done, reply]
  | disableAll => exact absurd rfl (h _ rfl)
  | reset => exact absurd rfl (h _ rfl)
  | verify body => exact answer_now g s (.verify body)
  | status name => exact answer_now g s (.status name)
  | list | calls | health => rfl

theorem HttpRequest.command?_none (i : Interface) {r : HttpRequest} (other : r.method ≠ "POST") :
    r.command? i = none := by
  unfold command?
  split
  · rfl
  · split
    · split
      · rename_i planned
        exact Call.command?_of_reads (plan_reads planned other)
      · rfl
      · rfl
      · rfl
    · rfl

/-! ## Atomicity -/

/-- A request has either left the state as it was or carried out one call in full. -/
structure Atomic (i : Interface) (s t : State) (r : HttpRequest) (status : Number) : Prop where
  /-- Without success, and by any method but POST, nothing changes. -/
  framed : status ≠ .ofNat 200 ∨ r.method ≠ "POST" → t = s
  /-- A POST that succeeds carries out the one call for which the path is written that its target
      leads to. -/
  carried : r.method = "POST" → status = .ofNat 200 →
    ∃ place body c, r.Arrives i place body ∧ PostPath (some body) place.path c ∧
      (∀ d, PostPath (some body) place.path d → d = c) ∧ c.Effect s t

/-- Every control request is atomic, whatever is wrong with it, and however targets are taken apart
    and bodies are read. -/
theorem control_request_atomic (i : Interface) (g : Setting) (fresh : String) (s : State)
    (r : HttpRequest) :
    Atomic i s (i.serve g fresh s r).now r (i.serve g fresh s r).result.status := by
  by_cases posted : r.method = "POST"
  · have regular : r.method ≠ "OPTIONS" := by
      rw [posted]
      decide
    rcases i.serve_cases g fresh s regular with
      ⟨same, failure⟩ | ⟨place, body, c, inner, arrives, planned⟩
    · exact ⟨fun _ => same, fun _ success => absurd success failure⟩
    · have written : PostPath (some body) place.path c := post_path (posted ▸ planned)
      obtain ⟨now, sent⟩ := i.serve_posted g fresh s arrives posted written
      rw [now, sent, HttpResponse.ofReply]
      cases answered : (answer g s c).result with
      | ok reply =>
          refine ⟨?_, ?_⟩
          · rintro (refused | other)
            · refine answer_refused fun told same => ?_
              obtain rfl := Except.ok.inj (answered.symm.trans same)
              exact refused
            · exact absurd posted other
          · exact fun _ success => ⟨place, body, c, arrives, written,
              fun d other => other.unique written, answer_effect answered success⟩
      | error f =>
          refine ⟨fun _ => answer_refused fun told same => ?_, fun _ success => ?_⟩
          · rw [answered] at same
            cases same
          · exact absurd success (Number.ofNat_ne (by decide))
  · refine ⟨fun _ => ?_, fun other => absurd other posted⟩
    rw [i.serve_now, HttpRequest.command?_none i posted]
    rfl

end Control

end Faultline
