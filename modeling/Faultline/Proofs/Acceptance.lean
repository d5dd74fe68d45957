import Faultline.Proofs.Blame
import Faultline.Proofs.PropertyOrder
import Faultline.Proofs.Timeless

/-! # Which bodies enable a scenario

A scenario is enabled by a body that says nothing, and by one that says how long to hold back if
that is what the scenario does (`Asks`). Every other body is objected to on one ground
(`Objection`), which for an object is the first of its members that does not belong. The two leave
no body out (`asks_or_objection`), and the answer follows each of them (`enabling_decided`).
-/

namespace Faultline

namespace Scenario

/-! ## Members -/

namespace Overrides

/-- A member that says how long to hold back, in whole seconds. -/
inductive Fitting : String × Json → Prop
  | duration {n : Nat} (positive : 0 < n) : Fitting ("duration_seconds", .number (.ofNat n))

theorem Fitting.named {m : String × Json} (fits : Fitting m) : m.1 = "duration_seconds" := by
  cases fits with
  | duration => rfl

/-- Of the members that do not fit, the one that precedes the others. -/
structure FirstUnfit (ms : Members) (m : String × Json) : Prop where
  member : m ∈ ms
  unfit : ¬ Fitting m
  first : ∀ other ∈ ms, ¬ Fitting other → other ≠ m → Members.Precedes ms m other

theorem FirstUnfit.unique {ms : Members} (distinct : Members.Distinct ms) {m n : String × Json}
    (one : FirstUnfit ms m) (other : FirstUnfit ms n) : m = n := by
  by_contra different
  have before := one.first n other.member other.unfit (Ne.symm different)
  have behind := other.first m one.member one.unfit different
  exact before.asymm distinct behind

theorem fitting_or_split (ms : Members) :
    (∀ m ∈ ms, Fitting m) ∨
      ∃ fine m rest, ms = fine ++ m :: rest ∧ (∀ x ∈ fine, Fitting x) ∧ ¬ Fitting m := by
  induction ms with
  | nil => exact .inl nofun
  | cons m rest ih =>
      by_cases fits : Fitting m
      · rcases ih with all | ⟨fine, other, later, rfl, before, unfit⟩
        · exact .inl (List.forall_mem_cons.mpr ⟨fits, all⟩)
        · exact .inr ⟨m :: fine, other, later, rfl, List.forall_mem_cons.mpr ⟨fits, before⟩, unfit⟩
      · exact .inr ⟨[], m, rest, rfl, nofun, fits⟩

/-- The first member of the listing that does not fit precedes all others that do not. -/
theorem firstUnfit_of_split {ms fine rest : Members} {m : String × Json}
    (distinct : Members.Distinct ms) (split : Members.inOrder ms = fine ++ m :: rest)
    (fits : ∀ x ∈ fine, Fitting x) (unfit : ¬ Fitting m) : FirstUnfit ms m := by
  have listed := Members.inOrder_perm ms
  have ascending := Members.inOrder_ascending distinct
  rw [split] at listed ascending
  refine ⟨listed.subset (by simp), unfit, ?_⟩
  intro other member alien different
  rcases List.mem_append.mp (listed.symm.subset member) with before | behind
  · exact absurd (fits other before) alien
  · rcases List.mem_cons.mp behind with same | later
    · exact absurd same different
    · exact (List.pairwise_cons.mp (List.pairwise_append.mp ascending).2.1).1 other later

/-- There is only one name that a fitting member can have. -/
theorem eq_of_fitting {ms : Members} (distinct : Members.Distinct ms)
    (fits : ∀ m ∈ ms, Fitting m) :
    ms = [] ∨ ∃ n : Nat, 0 < n ∧ ms = [("duration_seconds", .number (.ofNat n))] := by
  cases ms with
  | nil => exact .inl rfl
  | cons m rest =>
      obtain ⟨fit, others⟩ := List.forall_mem_cons.mp fits
      obtain ⟨absent, _⟩ := List.nodup_cons.mp distinct
      cases fit with
      | @duration n positive =>
          cases rest with
          | nil => exact .inr ⟨n, positive, rfl⟩
          | cons other later =>
              cases others other List.mem_cons_self with
              | duration => exact absurd List.mem_cons_self absent

theorem ofMembers?_fitting {fine : Members} (fits : ∀ m ∈ fine, Fitting m) (acc : Overrides)
    (rest : Members) : ∃ next, ofMembers? acc (fine ++ rest) = ofMembers? next rest := by
  induction fine generalizing acc with
  | nil => exact ⟨acc, rfl⟩
  | cons m others ih =>
      obtain ⟨fit, later⟩ := List.forall_mem_cons.mp fits
      cases fit with
      | @duration n positive =>
          have whole := Number.isPositiveInteger_iff.mpr ⟨n, positive, rfl⟩
          obtain ⟨next, read⟩ := ih later { acc with seconds := .given (.ofNat n) }
          refine ⟨next, ?_⟩
          simp [ofMembers?, Field.key, whole, read]

/-- What is told about a member that does not fit. -/
def told (m : String × Json) : String :=
  if m.1 = "duration_seconds" then
    "Invalid format for field: duration_seconds (expected a positive integer)"
  else "Unrecognized field: " ++ m.1

theorem format_message {field expected sentence : String} (received : Option Json)
    (spelled : "Invalid format for field: " ++ field ++ " (expected " ++ expected ++ ")" =
      sentence) : (Rejection.format field expected received).message = sentence := spelled

theorem ofMembers?_unfit {m : String × Json} (unfit : ¬ Fitting m) (acc : Overrides)
    (rest : Members) :
    ∃ reason, ofMembers? acc (m :: rest) = .error reason ∧ reason.message = told m := by
  obtain ⟨key, v⟩ := m
  by_cases own : key = "duration_seconds"
  · subst own
    rw [told, if_pos rfl]
    refine ⟨.format "duration_seconds" "a positive integer" (some v), ?_,
      format_message _ (by decide +kernel)⟩
    cases v with
    | number n =>
        have fraction : n.isPositiveInteger = false := by
          refine Bool.eq_false_iff.mpr fun whole => ?_
          obtain ⟨k, positive, rfl⟩ := Number.isPositiveInteger_iff.mp whole
          exact unfit (.duration positive)
        simp [ofMembers?, Field.key, fraction]
    | null | bool | string | array | object => simp [ofMembers?, Field.key]
  · refine ⟨.unknownField key ["duration_seconds"], ?_, ?_⟩
    · exact if_neg own
    · rw [told, if_neg own]
      rfl

end Overrides

/-! ## Bodies -/

/-- What a body that suits an action asks for: a duration, or nothing in particular. `null` counts
    as no body. -/
inductive Asks (action : Action) : Option Json → Option Number → Prop
  | bodiless : Asks action none none
  | null : Asks action (some .null) none
  | empty : Asks action (some (.object [])) none
  | duration {n : Nat} (positive : 0 < n) (delays : action = .delay) :
      Asks action (some (.object [("duration_seconds", .number (.ofNat n))])) (some (.ofNat n))

/-- What is told about a body that does not suit an action. -/
inductive Objection (action : Action) : Option Json → String → Prop
  | shape {v : Json} (other : v ≠ .null ∧ ∀ ms, v ≠ .object ms) :
      Objection action (some v) "Invalid format for field: body (expected a JSON object)"
  | member {ms : Members} {m : String × Json} (first : Overrides.FirstUnfit ms m) :
      Objection action (some (.object ms)) (Overrides.told m)
  | duration {n : Nat} (positive : 0 < n) (other : action ≠ .delay) :
      Objection action (some (.object [("duration_seconds", .number (.ofNat n))]))
        "Unrecognized field: duration_seconds"

/-- No body is left out. -/
theorem asks_or_objection (action : Action) {body : Option Json}
    (distinct : ∀ ms, body = some (.object ms) → Members.Distinct ms) :
    (∃ given, Asks action body given) ∨ ∃ text, Objection action body text := by
  cases body with
  | none => exact .inl ⟨_, .bodiless⟩
  | some v =>
      cases v with
      | null => exact .inl ⟨_, .null⟩
      | object ms =>
          have single := distinct ms rfl
          rcases Overrides.fitting_or_split (Members.inOrder ms) with
            all | ⟨fine, m, rest, split, fits, unfit⟩
          · have fits : ∀ m ∈ ms, Overrides.Fitting m := fun m member =>
              all m ((Members.inOrder_perm ms).symm.subset member)
            rcases Overrides.eq_of_fitting single fits with rfl | ⟨n, positive, rfl⟩
            · exact .inl ⟨_, .empty⟩
            · by_cases delays : action = .delay
              · exact .inl ⟨_, .duration positive delays⟩
              · exact .inr ⟨_, .duration positive delays⟩
          · exact .inr ⟨_, .member (Overrides.firstUnfit_of_split single split fits unfit)⟩
      | bool | number | string | array => exact .inr ⟨_, .shape (by simp)⟩

/-! ## Reading -/

def Overrides.ofGiven (given : Option Number) : Overrides := ⟨given.elim .absent .given⟩

theorem Overrides.ofBody?_duration {n : Nat} (positive : 0 < n) :
    ofBody? (some (.object [("duration_seconds", .number (.ofNat n))])) =
      .ok (ofGiven (some (.ofNat n))) := by
  have whole := Number.isPositiveInteger_iff.mpr ⟨n, positive, rfl⟩
  simp only [ofBody?, List.perm_singleton.mp (Members.inOrder_perm [_])]
  simp [ofMembers?, Field.key, whole, ofGiven]

theorem Asks.read {action : Action} {body : Option Json} {given : Option Number}
    (asks : Asks action body given) :
    Overrides.ofBody? body = .ok (.ofGiven given) ∧
      (Overrides.ofGiven given).refusedBy? action = none := by
  cases asks with
  | bodiless | null | empty => exact ⟨rfl, rfl⟩
  | duration positive delays =>
      refine ⟨Overrides.ofBody?_duration positive, ?_⟩
      rw [delays]
      rfl

/-- What is objected to is refused on reading, or then by the action. -/
theorem Objection.refused {action : Action} {body : Option Json} {text : String}
    (distinct : ∀ ms, body = some (.object ms) → Members.Distinct ms)
    (objection : Objection action body text) :
    ∃ reason : Rejection, reason.message = text ∧ reason.IsPlain ∧
      (Overrides.ofBody? body = .error reason ∨ ∃ overrides,
        Overrides.ofBody? body = .ok overrides ∧ overrides.refusedBy? action = some reason) := by
  cases objection with
  | @shape v other =>
      refine ⟨.format "body" "a JSON object" (some v),
        Overrides.format_message _ (by decide +kernel), trivial, .inl ?_⟩
      cases v with
      | null => exact absurd rfl other.1
      | object ms => exact absurd rfl (other.2 ms)
      | bool | number | string | array => rfl
  | @member ms m first =>
      rcases Overrides.fitting_or_split (Members.inOrder ms) with
        all | ⟨fine, m', rest, split, fits, unfit⟩
      · have inside := (Members.inOrder_perm ms).symm.subset first.member
        exact absurd (all m inside) first.unfit
      · have single := distinct ms rfl
        obtain rfl := first.unique single (Overrides.firstUnfit_of_split single split fits unfit)
        obtain ⟨next, read⟩ := Overrides.ofMembers?_fitting fits .none (m :: rest)
        obtain ⟨reason, refused, message⟩ := Overrides.ofMembers?_unfit unfit next rest
        have unread : Overrides.ofBody? (some (.object ms)) = .error reason := by
          rw [← refused, ← read, ← split]
          rfl
        exact ⟨reason, message, Overrides.ofBody?_plainly _ reason unread, .inl unread⟩
  | duration positive other =>
      refine ⟨.unknownField "duration_seconds" [], by decide +kernel, trivial,
        .inr ⟨_, Overrides.ofBody?_duration positive, ?_⟩⟩
      cases action with
      | delay => exact absurd rfl other
      | expireLink | returnError | closeConnection => rfl

end Scenario

/-! ## Answers -/

namespace Control

variable {g : Setting} {s : State} {name : String} {body : Option Json}

theorem enableScenario_unknown (absent : s.registry.has name = false) :
    (enableScenario g s name body).result =
      .ok ⟨.ofNat 404, Reply.problem ("Scenario not found: " ++ name)⟩ := by
  simp only [enableScenario, absent, Bool.false_eq_true, if_false]
  rfl

theorem enableScenario_objected {slot : Scenario.Slot} (found : s.registry.slot? name = some slot)
    {text : String} (distinct : ∀ ms, body = some (.object ms) → Members.Distinct ms)
    (objection : Scenario.Objection slot.template.config.fault.action body text) :
    (enableScenario g s name body).result = .ok ⟨.ofNat 400, Reply.problem text⟩ := by
  obtain ⟨reason, rfl, plain, reading⟩ := objection.refused distinct
  have reply : Reply.refusal (.rejected reason) = ⟨.ofNat 400, Reply.problem reason.message⟩ := by
    rw [Reply.refusal, plain.status]
    rfl
  rw [enableScenario_result, ← reply]
  rcases reading with unread | ⟨overrides, read, refused⟩
  · simp [unread, Scenario.Registry.has, found]
  · simp [read, Scenario.Registry.configFor?, found, refused, enabledReply]

theorem enableScenario_asked {slot : Scenario.Slot} (found : s.registry.slot? name = some slot)
    {given : Option Number}
    (asks : Scenario.Asks slot.template.config.fault.action body given) :
    let c := slot.template.config.complete (.ofGiven given)
    (enableScenario g s name body).result = .ok ⟨.ofNat 200, enabledDocument name c⟩ ∧
      (enableScenario g s name body).now.registry.active? name = some c := by
  intro c
  obtain ⟨read, suits⟩ := asks.read
  have config : s.registry.configFor? name (.ofGiven given) = .ok c := by
    simp [Scenario.Registry.configFor?, found, suits, c]
  have done : (enableScenario g s name body).result = .ok ⟨.ofNat 200, enabledDocument name c⟩ := by
    rw [enableScenario_result, read]
    simp only [config]
    rfl
  refine ⟨done, ?_⟩
  rcases enableScenario_cases g s name body with ⟨f, refused, _⟩ | ⟨_, d, also, same, _, now⟩
  · rw [done] at refused
    exact absurd (congrArg Reply.status (Except.ok.inj refused)).symm (refusal_status f)
  · obtain rfl := Except.ok.inj (read.symm.trans also)
    obtain rfl := Except.ok.inj (config.symm.trans same)
    rw [now]
    exact Scenario.Registry.active?_put_self (Scenario.Registry.has_of_configFor? config) _

/-- Neither the time nor the identifier of a call bears on what it comes to. -/
theorem enableScenario_setting (g h : Setting) (s : State) (name : String) (body : Option Json) :
    (enableScenario g s name body).result = (enableScenario h s name body).result ∧
      (enableScenario g s name body).now = (enableScenario h s name body).now := by
  rw [enableScenario_result, enableScenario_result, enableScenario_now, enableScenario_now]
  exact ⟨rfl, rfl⟩

end Control

/-- What comes of the wish to enable a scenario: the reply to it, and the state after it. -/
structure Decided (templates : List Scenario.Template) (name : String) (body : Option Json)
    (reply : Control.Reply) (after : State) : Prop where
  unknown : reply.status = .ofNat 404 ↔ ∀ t ∈ templates, t.name ≠ name
  missing : reply.status = .ofNat 404 →
    reply.body = Control.Reply.problem ("Scenario not found: " ++ name)
  accepted : ∀ t ∈ templates, t.name = name →
    (reply.status = .ofNat 200 ↔ ∃ given, Scenario.Asks t.config.fault.action body given)
  refused : ∀ t ∈ templates, t.name = name → ∀ text,
    (reply = ⟨.ofNat 400, Control.Reply.problem text⟩ ↔
      Scenario.Objection t.config.fault.action body text)
  otherwise : reply.status = .ofNat 200 ∨ reply.status = .ofNat 404 ∨
    ∃ text, reply = ⟨.ofNat 400, Control.Reply.problem text⟩
  /-- A delay lasts as long as was asked for, or else as the template says, or else five seconds. -/
  stored : ∀ t ∈ templates, t.name = name → ∀ given,
    Scenario.Asks t.config.fault.action body given →
    ∃ c, after.registry.active? name = some c ∧ reply.body = Control.enabledDocument name c ∧
      ∀ seconds, t.config.fault = .delay seconds →
        c.fault = .delay (.given (given.getD (seconds.getD (.ofNat 5))))

theorem Scenario.Config.complete_delay {c : Config} {seconds : Supplied Number}
    (delays : c.fault = .delay seconds) (given : Option Number) :
    (c.complete (.ofGiven given)).fault =
      .delay (.given (given.getD (seconds.getD (.ofNat 5)))) := by
  unfold complete
  rw [delays]
  cases given with
  | none | some n => rfl

section
variable {templates : List Scenario.Template} {name : String} {body : Option Json}
  {reply : Control.Reply} {after : State}

theorem decided_unknown (unknown : ∀ t ∈ templates, t.name ≠ name) :
    Decided templates name body
      ⟨.ofNat 404, Control.Reply.problem ("Scenario not found: " ++ name)⟩ after where
  unknown := iff_of_true rfl unknown
  missing _ := rfl
  accepted t member named := absurd named (unknown t member)
  refused t member named := absurd named (unknown t member)
  otherwise := .inr (.inl rfl)
  stored t member named := absurd named (unknown t member)

variable {g : Control.Setting} {s : State} {slot : Scenario.Slot}

theorem decided_known (found : s.registry.slot? name = some slot)
    (known : slot.template ∈ templates)
    (alone : ∀ t ∈ templates, t.name = name → t = slot.template)
    (distinct : ∀ ms, body = some (.object ms) → Members.Distinct ms)
    (replied : (Control.enableScenario g s name body).result = .ok reply) :
    Decided templates name body reply (Control.enableScenario g s name body).now := by
  have asked : ∀ given, Scenario.Asks slot.template.config.fault.action body given → reply =
      ⟨.ofNat 200, Control.enabledDocument name
        (slot.template.config.complete (.ofGiven given))⟩ := by
    intro given asks
    exact Except.ok.inj (replied.symm.trans (Control.enableScenario_asked found asks).1)
  have objected : ∀ text, Scenario.Objection slot.template.config.fault.action body text →
      reply = ⟨.ofNat 400, Control.Reply.problem text⟩ := by
    intro text objection
    exact Except.ok.inj
      (replied.symm.trans (Control.enableScenario_objected found distinct objection))
  -- One of the two gives the reply, which then tells everything that is asked about it.
  have either := Scenario.asks_or_objection slot.template.config.fault.action distinct
  have present : reply.status ≠ .ofNat 404 := by
    rcases either with ⟨given, asks⟩ | ⟨text, objection⟩
    · simp [asked given asks]
    · simp [objected text objection]
  constructor
  case unknown =>
    refine iff_of_false present fun unknown => ?_
    exact unknown _ known (Scenario.Registry.slot?_name found)
  case missing => exact fun missing => absurd missing present
  case accepted =>
    intro t member named
    rw [alone t member named]
    refine ⟨fun success => ?_, ?_⟩
    · rcases either with asks | ⟨text, objection⟩
      · exact asks
      · simp [objected text objection] at success
    · rintro ⟨given, asks⟩
      rw [asked given asks]
  case refused =>
    intro t member named text
    rw [alone t member named]
    refine ⟨fun same => ?_, objected text⟩
    rcases either with ⟨given, asks⟩ | ⟨other, objection⟩
    · simp [asked given asks] at same
    · rw [objected other objection] at same
      simp only [Control.Reply.problem, Control.Reply.mk.injEq, Json.object.injEq,
        List.cons.injEq, Prod.mk.injEq, Json.string.injEq, true_and, and_true] at same
      rwa [← same]
  case otherwise =>
    rcases either with ⟨given, asks⟩ | ⟨text, objection⟩
    · simp [asked given asks]
    · exact .inr (.inr ⟨text, objected text objection⟩)
  case stored =>
    intro t member named given asks
    rw [alone t member named] at asks ⊢
    refine ⟨_, (Control.enableScenario_asked found asks).2, ?_, ?_⟩
    · rw [asked given asks]
    · intro seconds delays
      exact Scenario.Config.complete_delay delays given

/-- The answer to a POST is the reply to the wish it expresses. -/
theorem enabling_asked {p : Proxy} (g : Control.Setting) (i : Control.Interface)
    (correlation : String) {r : Control.HttpRequest} {place : Control.Place} {body : Json}
    (posted : r.method = "POST") (arrives : r.Arrives i place body)
    (written : Control.NamePath name "enable" place.path)
    (replied : (Control.answer g p.state (.enable name (some body))).result = .ok reply) :
    (p.asked i correlation r).result.status = reply.status ∧
      (p.asked i correlation r).result.content = .json reply.body ∧
      (p.asked i correlation r).now.state =
        (Control.answer g p.state (.enable name (some body))).now := by
  let own : Control.Setting := ⟨p.clock, p.started, correlation, none⟩
  obtain ⟨now, sent⟩ := i.serve_posted own correlation p.state
    (c := .enable name (some body)) arrives posted ⟨written, rfl⟩
  obtain ⟨same, after⟩ := Control.enableScenario_setting own g p.state name (some body)
  have result : (Control.answer own p.state (.enable name (some body))).result = .ok reply :=
    same.trans replied
  rw [result] at sent
  exact ⟨congrArg Control.HttpResponse.status sent, congrArg Control.HttpResponse.content sent,
    now.trans after⟩

end

/-! ## Templates -/

namespace Proxy.Serves

variable {templates : List Scenario.Template} {p : Proxy}

theorem alone (serves : p.Serves templates) {t : Scenario.Template} (known : t ∈ templates) :
    ∀ u ∈ templates, u.name = t.name → u = t :=
  fun _ member same => List.inj_on_of_nodup_map serves.distinct member known same

theorem slot?_known (serves : p.Serves templates) {t : Scenario.Template} (known : t ∈ templates) :
    ∃ slot, p.state.registry.slot? t.name = some slot ∧ slot.template = t := by
  rw [← serves.templates] at known
  obtain ⟨slot, member, rfl⟩ := List.mem_map.mp known
  exact ⟨slot, Scenario.Registry.slot?_of_mem serves.names member, rfl⟩

theorem has_unknown (serves : p.Serves templates) {name : String}
    (unknown : ∀ t ∈ templates, t.name ≠ name) : p.state.registry.has name = false := by
  rw [Bool.eq_false_iff, Scenario.Registry.has, ne_eq, Option.isSome_iff_exists]
  rintro ⟨slot, found⟩
  refine unknown slot.template ?_ (Scenario.Registry.slot?_name found)
  rw [← serves.templates]
  exact List.mem_map.mpr ⟨slot, List.mem_of_find?_eq_some found, rfl⟩

theorem decided (serves : p.Serves templates) (g : Control.Setting) (name : String)
    {body : Option Json} (distinct : ∀ ms, body = some (.object ms) → Members.Distinct ms) :
    ∃ reply, (Control.enableScenario g p.state name body).result = .ok reply ∧
      Decided templates name body reply (Control.enableScenario g p.state name body).now := by
  by_cases known : ∃ t ∈ templates, t.name = name
  · obtain ⟨t, member, rfl⟩ := known
    obtain ⟨slot, found, rfl⟩ := serves.slot?_known member
    rcases Scenario.asks_or_objection slot.template.config.fault.action distinct with
      ⟨given, asks⟩ | ⟨text, objection⟩
    · have replied := (Control.enableScenario_asked (g := g) found asks).1
      exact ⟨_, replied, decided_known found member (serves.alone member) distinct replied⟩
    · have replied := Control.enableScenario_objected (g := g) found distinct objection
      exact ⟨_, replied, decided_known found member (serves.alone member) distinct replied⟩
  · have unknown : ∀ t ∈ templates, t.name ≠ name := fun t member named => known ⟨t, member, named⟩
    exact ⟨_, Control.enableScenario_unknown (serves.has_unknown unknown), decided_unknown unknown⟩

end Proxy.Serves

/-- Whether a scenario is enabled is decided by its name, then by its body; and a POST is answered
    accordingly. -/
theorem enabling_decided {templates : List Scenario.Template} {capacity : Number} {p : Proxy}
    (reachable : Reachable templates capacity p) (g : Control.Setting) (name : String)
    {body : Option Json} (distinct : ∀ ms, body = some (.object ms) → Members.Distinct ms) :
    ∃ reply, (Control.answer g p.state (.enable name body)).result = .ok reply ∧
      Decided templates name body reply (Control.answer g p.state (.enable name body)).now ∧
      ∀ (i : Control.Interface) (correlation : String) (r : Control.HttpRequest)
        (place : Control.Place) (b : Json), r.method = "POST" → r.Arrives i place b →
        Control.NamePath name "enable" place.path → body = some b →
        (p.asked i correlation r).result.status = reply.status ∧
          (p.asked i correlation r).result.content = .json reply.body ∧
          (p.asked i correlation r).now.state =
            (Control.answer g p.state (.enable name body)).now := by
  obtain ⟨reply, replied, decided⟩ := reachable.serves.decided g name distinct
  refine ⟨reply, replied, decided, ?_⟩
  rintro i correlation r place b posted arrives written rfl
  exact enabling_asked g i correlation posted arrives written replied

/-- Asks for a delay, beside two things that no scenario takes. The one that is written last is an
    array index, so it comes first. -/
def strayEnabling : Control.HttpRequest :=
  { sampleEnabling with
    headers := [("content-type", "application/json"), ("content-length", "34")]
    body := "\x7b\"duration_seconds\":3,\"b\":1,\"7\":0\x7d".toUTF8 }

theorem enabling_decided_stray :
    ∃ p ms, Reachable sampleTemplates (.ofNat 4) p ∧ Members.Distinct ms ∧
      strayEnabling.Arrives sampleInterface samplePlace (.object ms) ∧
      (p.asked sampleInterface "first" strayEnabling).result.status = .ofNat 400 ∧
      (p.asked sampleInterface "first" strayEnabling).result.content =
        .json (Control.Reply.problem "Unrecognized field: 7") := by
  let p := Proxy.serving sampleTemplates 4 none
  have reachable : Reachable sampleTemplates (.ofNat 4) p := .serving (by decide) (by decide) _ []
  let ms : Members := [("duration_seconds", .ofNat 3), ("b", .ofNat 1), ("7", .ofNat 0)]
  have arrives : strayEnabling.Arrives sampleInterface samplePlace (.object ms) :=
    ⟨by decide +kernel, by decide +kernel⟩
  have distinct : Members.Distinct ms := by simp [Members.Distinct, ms]
  have first : Scenario.Overrides.FirstUnfit ms ("7", .ofNat 0) := by
    refine ⟨by simp [ms], fun fits => absurd fits.named (by simp), ?_⟩
    intro other member _ different
    have second : Members.index? other.1 = none := by
      simp only [ms, List.mem_cons, List.not_mem_nil, or_false] at member
      rcases member with rfl | rfl | rfl
      · decide +kernel
      · decide +kernel
      · exact absurd rfl different
    have first : Members.index? "7" = some 7 := by decide +kernel
    exact .index (Members.index?_eq_some.mp first) (Members.index?_eq_none.mp second)
  have only : ∀ m, some (Json.object ms) = some (.object m) → Members.Distinct m := by
    intro m same
    obtain rfl := Json.object.inj (Option.some.inj same)
    exact distinct
  let g : Control.Setting := ⟨⟨0⟩, ⟨0⟩, "first", none⟩
  obtain ⟨reply, _, decided, told⟩ := enabling_decided reachable g "slow" only
  have refused : reply = ⟨.ofNat 400, Control.Reply.problem "Unrecognized field: 7"⟩ := by
    have slow : ⟨"slow", ⟨"Holds downloads back", .download, .delay .absent⟩⟩ ∈ sampleTemplates :=
      List.mem_cons_self
    exact (decided.refused _ slow rfl _).mpr (.member first)
  obtain ⟨status, content, _⟩ :=
    told sampleInterface "first" strayEnabling _ _ rfl arrives samplePlace_written rfl
  rw [refused] at status content
  exact ⟨p, ms, reachable, distinct, arrives, status, content⟩

end Faultline
