import Faultline.Proofs.Atomicity
import Faultline.Proofs.Documents
import Faultline.Proofs.OneShot

/-! # What was enabled is what is shown

The answer to a request that enables a scenario has the configuration that is in effect from then
on. The scenario's status shows the same configuration, whatever else is done, until the scenario is
disabled or spent; then it shows none, until the scenario is enabled again.
-/

namespace Faultline

open Exchange Injection

/-! ## Documents -/

namespace Scenario

/-- The document of a template's configuration in effect; `duration` is what was asked for on
    enabling. -/
def Template.effective (t : Template) (duration : Option Number) : Json :=
  .object
    ([("description", .string t.config.description),
      ("operation", .string t.config.operation.name),
      ("action", .string t.config.fault.action.name)] ++
    match t.config.fault with
    | .delay seconds => [("duration_seconds", .number (duration.getD (seconds.getD (.ofNat 5))))]
    | .returnError status message =>
      [("error_code", .number (status.getD (.ofNat 500))),
        ("error_message", .string (message.getD "Internal Server Error"))]
    | .expireLink | .closeConnection => [])

theorem Template.complete_document (t : Template) (overrides : Overrides) :
    (t.config.complete overrides).document = t.effective overrides.seconds.get? := by
  unfold Config.document Config.commonMembers Config.parameters Config.complete effective
  cases t.config.fault with
  | delay seconds => cases overrides.seconds <;> rfl
  | returnError | expireLink | closeConnection => rfl

/-- The document of the status of a template's scenario; `config` is the document of its
    configuration while it is enabled. -/
def Template.status (t : Template) (config : Option Json) : Json :=
  .object [("name", .string t.name), ("description", .string t.config.description),
    ("enabled", .bool config.isSome), ("config", config.getD .null)]

end Scenario

/-! ## Requests -/

/-- Whoever asks for the status of a scenario is shown `config`. -/
structure State.Shows (s : State) (t : Scenario.Template) (config : Option Json) : Prop where
  replied : ∀ g, Control.answer g s (.status t.name) = .nothing s (.ok (.ok (t.status config)))
  /-- However a request for the status is sent, its response brings it. -/
  brought : ∀ (i : Control.Interface) (g : Control.Setting) (fresh : String)
    (r : Control.HttpRequest) (place : Control.Place) (body : Json), r.method = "GET" →
    r.Arrives i place body → Control.NamePath t.name "status" place.path →
    (i.serve g fresh s r).result.Brings i r (t.status config)

theorem State.shows_active {s : State} (distinct : s.registry.names.Nodup) {t : Scenario.Template}
    (known : t ∈ s.registry.templates) :
    s.Shows t ((s.registry.active? t.name).map Scenario.Config.document) := by
  have replied : ∀ g, Control.answer g s (.status t.name) =
      .nothing s (.ok (.ok (t.status ((s.registry.active? t.name).map
        Scenario.Config.document)))) := by
    intro g
    simp only [Control.answer, Control.scenarioStatus,
      Scenario.Registry.status?_of_template distinct known, Control.statusDocument,
      Scenario.Template.status, Option.isSome_map]
  refine ⟨replied, fun i g fresh r place body asked arrives written => ?_⟩
  obtain ⟨inner, planned⟩ := Control.plan_status written (some body)
  rw [← asked] at planned
  exact i.serve_brings g fresh s arrives planned asked (by rw [replied]; rfl)

/-- Puts a request to a control interface of a proxy. -/
def Proxy.asked (p : Proxy) (i : Control.Interface) (correlation : String)
    (r : Control.HttpRequest) : Done Proxy Control.HttpResponse :=
  p.withState fun s => i.serve ⟨p.clock, p.started, correlation, none⟩ correlation s r

/-- A POST that enables a scenario and succeeds has put a configuration into effect, and tells
    it. -/
theorem Control.serve_enabled {i : Interface} {g : Setting} {fresh : String} {s : State}
    {r : HttpRequest} {name : String} {place : Place} {body : Json} (posted : r.method = "POST")
    (arrives : r.Arrives i place body) (written : NamePath name "enable" place.path)
    (accepted : (i.serve g fresh s r).result.status = .ofNat 200) :
    ∃ overrides c, Scenario.Overrides.ofBody? (some body) = .ok overrides ∧
      s.registry.configFor? name overrides = .ok c ∧
      (i.serve g fresh s r).result.content = .json (enabledDocument name c) ∧
      (i.serve g fresh s r).now.registry = s.registry.put name (some c) := by
  obtain ⟨now, sent⟩ :=
    i.serve_posted g fresh s (c := .enable name (some body)) arrives posted ⟨written, rfl⟩
  rw [answer] at now sent
  rcases enableScenario_cases g s name (some body) with
    ⟨f, refused, _⟩ | ⟨overrides, c, given, effective, done, after⟩
  · rw [sent, refused] at accepted
    exact absurd accepted (refusal_status f)
  · rw [done] at sent
    rw [after] at now
    exact ⟨overrides, c, given, effective, congrArg HttpResponse.content sent,
      congrArg State.registry now⟩

/-! ## Marks that end what was enabled -/

namespace Mark

instance (name : String) : (m : Mark) → Decidable (m.Concerns name)
  | enabled other _ | disabled other => inferInstanceAs (Decidable (other = name))
  | disabledAll => .isTrue trivial
  | injected claim => inferInstanceAs (Decidable (claim.scenario.name = name))
  | reset | recorded _ => .isFalse id

/-- Whether a scenario is disabled or spent with a mark. -/
def ends (name : String) : Mark → Bool
  | disabled other => other == name
  | disabledAll => true
  | injected claim => claim.scenario.name == name
  | enabled .. | reset | recorded _ => false

theorem move_ends {m : Mark} {name : String} (h : m.ends name = true) (b : Board) :
    m.move b name = none := by
  cases m with
  | disabled other =>
      obtain rfl := eq_of_beq h
      exact Function.update_self ..
  | disabledAll => rfl
  | injected claim =>
      obtain rfl := eq_of_beq h
      exact Function.update_self ..
  | enabled | reset | recorded => cases h

end Mark

namespace Moves

variable {a b : Board} {name : String}

theorem unconcerned {marks : List Mark} (h : Moves a marks b)
    (silent : ∀ m ∈ marks, ¬ m.Concerns name) : b name = a name := by
  induction h with
  | nil => rfl
  | cons fits _ ih =>
      obtain ⟨first, rest⟩ := List.forall_mem_cons.mp silent
      rw [ih rest, Mark.move_unconcerned first]

/-- What has been taken off the board stays off until it is enabled. -/
theorem ended {before behind : List Mark} {m : Mark} (h : Moves a (before ++ m :: behind) b)
    (last : m.ends name = true) (still : ∀ n ∈ behind, n.enables name = false) : b name = none := by
  obtain ⟨c, _, second⟩ := h.split
  cases second with
  | cons fits later =>
      rw [Option.eq_none_iff_forall_ne_some]
      intro config standing
      rcases later.shown (e := ⟨name, config⟩) standing with
        ⟨there, _⟩ | ⟨earlier, between, split, _⟩
      · rw [Mark.move_ends last] at there
        cases there
      · have member : Mark.enabled name config ∈ behind := by
          rw [split]
          exact List.mem_append_right _ List.mem_cons_self
        have silent := still _ member
        simp [Mark.enables] at silent

end Moves

/-! ## Round trips -/

/-- The status of a scenario shows a configuration until the scenario is disabled or spent. -/
structure RoundTrip (p : Proxy) (t : Scenario.Template) (config : Json) : Prop where
  /-- Nothing else changes what is shown. -/
  stays : ∀ acts, (∀ m ∈ p.trace acts, ¬ m.Concerns t.name) →
    (p.after acts).state.Shows t (some config)
  /-- Once the scenario is disabled or spent, nothing is shown until it is enabled again. -/
  ended : ∀ acts before m behind, p.trace acts = before ++ m :: behind → m.ends t.name = true →
    (∀ n ∈ behind, n.enables t.name = false) → (p.after acts).state.Shows t none

theorem round_trip {templates : List Scenario.Template} {p : Proxy} (serves : p.Serves templates)
    {t : Scenario.Template} (known : t ∈ templates) {c : Scenario.Config}
    (enabled : p.state.registry.active? t.name = some c) : RoundTrip p t c.document := by
  have shown : ∀ acts, (p.after acts).state.Shows t
      (((p.after acts).state.registry.active? t.name).map Scenario.Config.document) := by
    intro acts
    have later := serves.after acts
    apply State.shows_active later.names
    rw [later.templates]
    exact known
  refine ⟨?_, ?_⟩
  · intro acts silent
    have kept := (Proxy.after_moves serves acts).unconcerned silent
    have told := shown acts
    rwa [kept, enabled] at told
  · intro acts before m behind split last still
    have moves := Proxy.after_moves serves acts
    rw [split] at moves
    have told := shown acts
    rwa [moves.ended last still] at told

/-- A scenario that a request has enabled has the configuration that the answer tells: the
    template's own, with the duration that was asked for; and its status shows the same. -/
theorem enabled_round_trip {templates : List Scenario.Template} {capacity : Number} {p : Proxy}
    (reachable : Reachable templates capacity p) {i : Control.Interface} {correlation : String}
    {r : Control.HttpRequest} {place : Control.Place} {body : Json} {name : String}
    (posted : r.method = "POST") (arrives : r.Arrives i place body) (distinct : body.Distinct)
    (written : Control.NamePath name "enable" place.path)
    (accepted : (p.asked i correlation r).result.status = .ofNat 200) :
    ∃ t ∈ templates, t.name = name ∧
      let config := t.effective ((body.get? "duration_seconds").bind Json.number?)
      (p.asked i correlation r).result.content =
        .json (.object [("scenario", .string name), ("enabled", .bool true),
          ("config", config)]) ∧
      RoundTrip (p.asked i correlation r).now t config := by
  obtain ⟨overrides, c, given, effective, content, registry⟩ :=
    Control.serve_enabled posted arrives written accepted
  obtain ⟨slot, found, completed⟩ := Scenario.Registry.configFor?_ok effective
  have named := Scenario.Registry.slot?_name found
  have known : slot.template ∈ templates := by
    rw [← reachable.serves.templates]
    exact List.mem_map.mpr ⟨slot, List.mem_of_find?_eq_some found, rfl⟩
  have document : c.document =
      slot.template.effective ((body.get? "duration_seconds").bind Json.number?) := by
    rw [completed, Scenario.Template.complete_document,
      Scenario.Overrides.ofBody?_given distinct given]
    rfl
  have serves : (p.asked i correlation r).now.Serves templates :=
    reachable.serves.perform (.request i correlation r)
  have enabled : (p.asked i correlation r).now.state.registry.active? slot.template.name =
      some c := by
    rw [named]
    refine (congrArg (·.active? name) registry).trans ?_
    exact Scenario.Registry.active?_put_self (Scenario.Registry.has_of_configFor? effective) _
  refine ⟨slot.template, known, named, ?_, ?_⟩
  · refine content.trans ?_
    rw [Control.enabledDocument, document]
  · rw [← document]
    exact round_trip serves known enabled

/-- Asks for a delay of three seconds, with a whole URL as its target; the letters of the path are
    of either case. -/
def sampleEnabling : Control.HttpRequest :=
  ⟨"POST", "http://control.example:8080/Scenarios/slow/ENABLE/?now",
    [("content-type", "application/json"), ("content-length", "22")],
    "\x7b\"duration_seconds\":3\x7d".toUTF8⟩

/-- Where the request leads. -/
def samplePlace : Control.Place := ⟨"/Scenarios/slow/ENABLE/".toList, true⟩

theorem samplePlace_written : Control.NamePath "slow" "enable" samplePlace.path :=
  ⟨"slow".toList, "ENABLE".toList, by decide, by decide, by decide +kernel, by decide,
    "/Scenarios".toList, ['/'], ['/'], by decide +kernel, by decide, .inl rfl, .inr rfl⟩

/-- Things that leave the scenario alone: it is not enabled with a duration of zero, another
    scenario is enabled, a call is recorded, and the history is reset. -/
def besideSlow : List Act :=
  [.request sampleInterface "again"
      { sampleEnabling with body := "\x7b\"duration_seconds\":0\x7d".toUTF8 },
    .command (.enable "cut" .none), .pass [(sampleCall, .hook)], .command .reset, .advance 1000]

theorem enabled_round_trip_beside :
    ∃ p body, Reachable sampleTemplates (.ofNat 4) p ∧ sampleEnabling.method = "POST" ∧
      sampleEnabling.Arrives sampleInterface samplePlace body ∧ body.Distinct ∧
      Control.NamePath "slow" "enable" samplePlace.path ∧
      (p.asked sampleInterface "first" sampleEnabling).result.status = .ofNat 200 ∧
      ∃ t config, RoundTrip (p.asked sampleInterface "first" sampleEnabling).now t config ∧
        config.get? "duration_seconds" = some (.ofNat 3) ∧
        (((p.asked sampleInterface "first" sampleEnabling).now).after besideSlow).state.Shows t
          (some config) := by
  let p := Proxy.serving sampleTemplates 4 none
  have reachable : Reachable sampleTemplates (.ofNat 4) p := .serving (by decide) (by decide) _ []
  have read : Control.Body.read sampleEnabling.headers sampleEnabling.body =
      .ok (.object [("duration_seconds", .ofNat 3)]) := by
    decide +kernel
  have arrives : sampleEnabling.Arrives sampleInterface samplePlace _ :=
    ⟨by decide +kernel, read⟩
  have distinct := Control.Body.read_distinct read
  have accepted : (p.asked sampleInterface "first" sampleEnabling).result.status = .ofNat 200 := by
    decide +kernel
  obtain ⟨t, known, named, content, trip⟩ :=
    enabled_round_trip reachable rfl arrives distinct samplePlace_written accepted
  have slow : t = ⟨"slow", ⟨"Holds downloads back", .download, .delay .absent⟩⟩ := by
    rcases List.mem_cons.mp known with first | later
    · exact first
    · rw [List.mem_singleton.mp later] at named
      exact absurd named (by decide)
  subst slow
  have silent : ∀ m ∈ (p.asked sampleInterface "first" sampleEnabling).now.trace besideSlow,
      ¬ m.Concerns "slow" := by
    decide +kernel
  exact ⟨p, _, reachable, rfl, arrives, distinct, samplePlace_written, accepted, _, _, trip, rfl,
    trip.stays besideSlow silent⟩

end Faultline
