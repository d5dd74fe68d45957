import Faultline.Proofs.Timeless

/-! # Durations disturb nobody

Two runs that differ in nothing but the durations of delays go the same way for everybody who is not
held back: the same scenarios are enabled and claimed, the same calls are recorded, and flows and
requests come to the same end at the same time (`durations_disturb_nobody`). What ties the two runs
together is a set of places, those of the flows that are held back in either run.
-/

namespace Faultline

open Exchange Injection

def Injection.Claim.timeless (c : Claim) : Claim := { c with scenario := c.scenario.timeless }

theorem Injection.delaySeconds?_none {fault : Scenario.Fault} :
    delaySeconds? fault = none ↔ fault.action ≠ .delay := by
  cases fault <;> simp [delaySeconds?, Scenario.Fault.action]

theorem Injection.Claim.parts_of_timeless {c d : Claim} (same : d.timeless = c.timeless) :
    d.scenario.name = c.scenario.name ∧
      d.scenario.config.timeless = c.scenario.config.timeless ∧ d.time = c.time ∧
      d.url = c.url := by
  simpa only [timeless, Scenario.Enabled.timeless, Claim.mk.injEq, Scenario.Enabled.mk.injEq,
    and_assoc] using same

theorem Injection.Claim.eq_of_timeless {c d : Claim} (same : d.timeless = c.timeless)
    (other : c.scenario.config.fault.action ≠ .delay) : d = c := by
  obtain ⟨names, configs, times, urls⟩ := parts_of_timeless same
  have config := Scenario.Config.eq_of_timeless configs other
  obtain ⟨⟨name, _⟩, time, url⟩ := c
  obtain ⟨⟨_, _⟩, _, _⟩ := d
  dsimp only at names config times urls
  rw [names, config, times, urls]

/-! ## Requests and acts that differ in durations -/

namespace Control

/-- Two calls are the same, or they enable the same delay for different durations. -/
inductive Call.Alike (templates : List Scenario.Template) : Call → Call → Prop where
  | refl (c : Call) : Alike templates c c
  | enable {t : Scenario.Template} (known : t ∈ templates)
      (delays : t.config.fault.action = .delay) {body other : Option Json}
      {overrides others : Scenario.Overrides}
      (accepted : Scenario.Overrides.ofBody? body = .ok overrides)
      (accepted' : Scenario.Overrides.ofBody? other = .ok others) :
      Alike templates (.enable t.name body) (.enable t.name other)

/-- Two requests are the same, or they are posted to the same place for calls that are alike. The
    second one may declare another length of its body. -/
inductive HttpRequest.Alike (i : Interface) (templates : List Scenario.Template) :
    HttpRequest → HttpRequest → Prop where
  | refl (r : HttpRequest) : Alike i templates r r
  | posted {r r' : HttpRequest} {place : Place} {v w : Json} {c d : Call}
      (posted : r.method = "POST" ∧ r'.method = "POST") (arrives : r.Arrives i place v)
      (arrives' : r'.Arrives i place w) (written : PostPath (some v) place.path c)
      (written' : PostPath (some w) place.path d) (calls : c.Alike templates d)
      (origin : r'.headers.lookup "origin" = r.headers.lookup "origin")
      (correlation : r'.headers.lookup "x-correlation-id" = r.headers.lookup "x-correlation-id") :
      Alike i templates r r'

end Control

/-- Two acts are the same but for the durations of delays. -/
inductive Act.Alike (templates : List Scenario.Template) : Act → Act → Prop where
  | refl (a : Act) : Alike templates a a
  | command {c d : Command} : c.Alike templates d → Alike templates (.command c) (.command d)
  | request (i : Control.Interface) (correlation : String) {r r' : Control.HttpRequest} :
      r.Alike i templates r' →
      Alike templates (.request i correlation r) (.request i correlation r')

namespace Control

theorem Call.Alike.command? {templates : List Scenario.Template} {c d : Call}
    (h : c.Alike templates d) : Option.Rel (Command.Alike templates) c.command? d.command? := by
  cases h with
  | refl => exact Command.Alike.rel_refl _
  | enable known delays accepted accepted' =>
      simp only [Call.command?, accepted, accepted', Except.toOption, Option.map_some]
      exact .some (.enable known delays ..)

/-- A POST gives the command of the call for which its path is written. -/
theorem HttpRequest.command?_posted {i : Interface} {r : HttpRequest} {place : Place} {v : Json}
    {c : Call} (posted : r.method = "POST") (arrives : r.Arrives i place v)
    (written : PostPath (some v) place.path c) : r.command? i = c.command? := by
  obtain ⟨inner, planned⟩ := plan_post written
  rw [← posted] at planned
  have regular : r.method ≠ "OPTIONS" := by
    rw [posted]
    decide
  simp [HttpRequest.command?, regular, arrives.located, arrives.read, planned]

theorem HttpRequest.Alike.command? {i : Interface} {templates : List Scenario.Template}
    {r r' : HttpRequest} (h : r.Alike i templates r') :
    Option.Rel (Command.Alike templates) (r.command? i) (r'.command? i) := by
  cases h with
  | refl => exact Command.Alike.rel_refl _
  | posted posted arrives arrives' written written' calls =>
      rw [command?_posted posted.1 arrives written, command?_posted posted.2 arrives' written']
      exact calls.command?

section
variable {templates : List Scenario.Template} {s t : State} (h : s.Alike t)
  (distinct : s.registry.names.Nodup) (registered : s.registry.templates = templates)
  (complete : s.registry.Completed) (complete' : t.registry.Completed)
include h distinct registered complete complete'

/-- Calls that are alike get the same reply once durations are left out. -/
theorem Call.Alike.replies {c d : Call} (same : c.Alike templates d) (g : Setting) :
    (answer g t d).result.map Reply.timeless = (answer g s c).result.map Reply.timeless := by
  cases same with
  | refl => exact answer_alike h g complete complete' c
  | enable known delays accepted accepted' =>
      rw [← registered] at known
      exact enableScenario_alike h g _ (.inr ⟨_, _, accepted, accepted',
        Scenario.Registry.slot?_delays distinct known delays⟩)

/-- Requests that are alike and have no conditions are answered alike but for the values of
    durations. -/
theorem HttpRequest.Alike.answers {i : Interface} {r r' : HttpRequest}
    (same : r.Alike i templates r') (unconditional : r.isConditional = false) (g : Setting)
    (fresh : String) :
    (i.serve g fresh t r').result.mapJson Json.timeless =
      (i.serve g fresh s r).result.mapJson Json.timeless := by
  cases same with
  | refl => exact i.serve_alike (answer_alike h g complete complete') fresh unconditional
  | posted posted arrives arrives' written written' calls origin correlation =>
      have replies := calls.replies h distinct registered complete complete' g
      have headed : i.responseHeaders fresh r' = i.responseHeaders fresh r := by
        simp only [Interface.responseHeaders, origin, correlation]
      obtain ⟨_, sent⟩ := i.serve_posted g fresh s arrives posted.1 written
      obtain ⟨_, sent'⟩ := i.serve_posted g fresh t arrives' posted.2 written'
      rw [sent, sent', headed]
      exact congrArg (HttpResponse.ofReply _) (replyOf_mapBody replies)

end

end Control

namespace Act.Alike

variable {templates : List Scenario.Template} {a b : Act} (h : a.Alike templates b)
include h

theorem flows : b.flows = a.flows := by
  cases h <;> rfl

theorem elapsed : b.elapsed = a.elapsed := by
  cases h <;> rfl

theorem command? : Option.Rel (Command.Alike templates) a.command? b.command? := by
  cases h with
  | refl => exact Command.Alike.rel_refl _
  | command same => exact .some same
  | request i correlation same => exact same.command?

end Act.Alike

/-! ## Two proxies side by side -/

theorem exists_partner {α β : Type} {R : α → β → Prop} {items : List α} {others : List β}
    (h : List.Forall₂ R items others) {a : α} (member : a ∈ items) : ∃ b ∈ others, R a b := by
  induction h with
  | nil => cases member
  | cons first _ ih =>
      rcases List.mem_cons.mp member with rfl | later
      · exact ⟨_, List.mem_cons_self, first⟩
      · obtain ⟨b, among, related⟩ := ih later
        exact ⟨b, List.mem_cons_of_mem _ among, related⟩

/-- Two flows come in at the same place, and claim the same scenario if its duration is left out;
    if it is no delay, they are opened alike. -/
structure Arrival.Alike (e f : Arrival) : Prop where
  place : f.place = e.place
  flow : f.flow = e.flow
  purpose : f.purpose = e.purpose
  claim : f.claim?.map Claim.timeless = e.claim?.map Claim.timeless
  held : f.suspension?.isSome = e.suspension?.isSome
  entered : e.suspension? = none → f.entered = e.entered

/-- Who claims a delay is held back, and nobody else. -/
theorem Arrival.suspension?_isSome {e : Arrival} :
    e.suspension?.isSome = true ↔
      ∃ claim, e.claim? = some claim ∧ claim.scenario.config.fault.action = .delay := by
  unfold suspension?
  cases e.claim? with
  | none => simp
  | some claim =>
      cases delay : delaySeconds? claim.scenario.config.fault with
      | none => simp [delay, delaySeconds?_none.mp delay]
      | some seconds =>
          have held : claim.scenario.config.fault.action = .delay := by
            by_contra other
            rw [delaySeconds?_none.mpr other] at delay
            cases delay
          simp [delay, held]

namespace Proxy

/-- Two proxies are the same but for durations, and for the flows in the places `held`. -/
structure Alike (held : Nat → Prop) (templates others : List Scenario.Template) (p q : Proxy) :
    Prop where
  state : p.state.Alike q.state
  serves : p.Serves templates ∧ q.Serves others
  clock : q.clock = p.clock
  started : q.started = p.started
  decoder : q.decoder = p.decoder
  audience : q.audience = p.audience
  size : q.passages.length = p.passages.length
  lines : p.InLine ∧ q.InLine
  waiting : ∀ s, s ∈ p.suspended ∨ s ∈ q.suspended → held s.passage
  passages : ∀ id, ¬ held id → q.passages[id]? = p.passages[id]?

namespace Alike

variable {held : Nat → Prop} {templates others : List Scenario.Template} {p q : Proxy}
  (h : Alike held templates others p q)
include h

theorem claim (flow : Flow) (purpose : Purpose) :
    (q.claim? flow purpose).map Claim.timeless = (p.claim? flow purpose).map Claim.timeless := by
  unfold Proxy.claim?
  split
  · rcases map_same_cases (Scenario.Registry.findFirst?_alike h.state.registry .download) with
      ⟨here, there⟩ | ⟨e, e', here, there, same⟩
    · rw [here, there]
      rfl
    · rw [here, there, h.clock]
      exact congrArg (fun e => some (Claim.mk e p.clock flow.request.url)) same
  · rfl

/-- A flow finds two alike proxies alike. -/
theorem arrival (flow : Flow) (purpose : Purpose) :
    Arrival.Alike ⟨p, flow, purpose⟩ ⟨q, flow, purpose⟩ := by
  refine ⟨h.size, rfl, rfl, h.claim flow purpose, ?_, ?_⟩
  · rw [Bool.eq_iff_iff, Arrival.suspension?_isSome, Arrival.suspension?_isSome, Arrival.claim?,
      Arrival.claim?]
    rcases map_same_cases (h.claim flow purpose) with ⟨here, there⟩ | ⟨c, d, here, there, same⟩
    · simp [here, there]
    · have actions := Scenario.Config.action_of_timeless (Claim.parts_of_timeless same).2.1
      simp [here, there, actions]
  · intro free
    rw [Arrival.entered, Arrival.entered, enter_opened, enter_opened, h.size, h.decoder]
    rcases map_same_cases (h.claim flow purpose) with ⟨here, there⟩ | ⟨c, d, here, there, same⟩
    · rw [here, there]
    · have other : c.scenario.config.fault.action ≠ .delay := by
        intro delays
        have held : (Arrival.suspension? ⟨p, flow, purpose⟩).isSome = true :=
          Arrival.suspension?_isSome.mpr ⟨c, here, delays⟩
        rw [free] at held
        cases held
      rw [here, there, Claim.eq_of_timeless same other]

theorem enter {flow : Flow} {purpose : Purpose}
    (allowed : (Arrival.suspension? ⟨p, flow, purpose⟩).isSome → held p.passages.length) :
    Alike held templates others (p.enter flow purpose).now (q.enter flow purpose).now := by
  have arrived := h.arrival flow purpose
  refine ⟨⟨?_, ?_⟩, ⟨h.serves.1.openAll [(flow, purpose)], h.serves.2.openAll [(flow, purpose)]⟩,
    ?_, ?_, ?_, ?_, ?_, ⟨h.lines.1.enter flow purpose, h.lines.2.enter flow purpose⟩, ?_, ?_⟩
  · rw [enter_registry, enter_registry]
    rcases map_same_cases (h.claim flow purpose) with ⟨here, there⟩ | ⟨c, d, here, there, same⟩
    · rw [here, there]
      exact h.state.registry
    · rw [here, there]
      dsimp only
      rw [(Claim.parts_of_timeless same).1]
      exact Scenario.Registry.put_alike h.state.registry _ rfl
  · rw [q.enter_history_kept (flow, purpose), p.enter_history_kept (flow, purpose),
      kept?_congr h.clock h.decoder, h.state.history]
  · rw [enter_clock, enter_clock, h.clock]
  · rw [enter_started, enter_started, h.started]
  · rw [enter_decoder, enter_decoder, h.decoder]
  · rw [enter_audience, enter_audience, h.audience]
  · rw [enter_passages, enter_passages, List.length_append, List.length_append, h.size]
  · rintro s (waits | waits)
    · rcases p.mem_enter_suspended flow purpose waits with earlier | ⟨place, delayed⟩
      · exact h.waiting s (.inl earlier)
      · rw [place]
        exact allowed delayed
    · rcases q.mem_enter_suspended flow purpose waits with earlier | ⟨place, delayed⟩
      · exact h.waiting s (.inr earlier)
      · rw [place, h.size]
        exact allowed (arrived.held ▸ delayed)
  · intro id free
    rw [enter_passages, enter_passages]
    by_cases inside : id < p.passages.length
    · rw [List.getElem?_append_left inside, List.getElem?_append_left (h.size ▸ inside)]
      exact h.passages id free
    · rw [List.getElem?_append_right (Nat.not_lt.mp inside),
        List.getElem?_append_right (h.size ▸ Nat.not_lt.mp inside), h.size]

/-- Flows that come in together find two alike proxies alike. -/
theorem openAll {flows : List (Flow × Purpose)}
    (allowed : ∀ e ∈ p.openArrivals flows, e.suspension?.isSome → held e.place) :
    Alike held templates others (p.openAll flows).now (q.openAll flows).now ∧
      List.Forall₂ Arrival.Alike (p.openArrivals flows) (q.openArrivals flows) := by
  induction flows generalizing p q with
  | nil => exact ⟨h, .nil⟩
  | cons x rest ih =>
      obtain ⟨first, later⟩ := List.forall_mem_cons.mp allowed
      obtain ⟨alike, arrivals⟩ := ih (h.enter first) later
      exact ⟨alike, .cons (h.arrival x.1 x.2) arrivals⟩

/-- An act finds the same in a place that is not held. -/
theorem perform_passages {a b : Act} (same : a.Alike templates b) {id : Nat}
    (inside : id < p.passages.length) (free : ¬ held id) :
    (b.perform q).now.passages[id]? = (a.perform p).now.passages[id]? := by
  have before := h.passages id free
  have inside' : id < q.passages.length := h.size ▸ inside
  cases same with
  | command | request => exact before
  | refl =>
      cases a with
      | command | request => exact before
      | pass flows =>
          exact (q.pass_earlier flows inside').trans
            (before.trans (p.pass_earlier flows inside).symm)
      | exchange target r =>
          simp only [Act.perform, Done.map_now, exchange_now]
          exact (q.pass_earlier _ inside').trans (before.trans (p.pass_earlier _ inside).symm)
      | receive other response =>
          by_cases here : other = id
          · obtain rfl := here
            have found := List.getElem?_eq_getElem inside
            exact (q.receive_self other response (before.trans found)).trans
              (p.receive_self other response found).symm
          · have apart : id ∉ [other] := by simpa using Ne.symm here
            exact (q.receive_others other response id apart).trans
              (before.trans (p.receive_others other response id apart).symm)
      | advance ms =>
          -- Only flows in held places go on.
          have untouched : ∀ r : Proxy, (∀ s ∈ r.suspended, held s.passage) →
              (r.advance ms).now.passages[id]? = r.passages[id]? := by
            intro r waiting
            apply resumeAll_others (r.called (r.clock.after ms)) (r.dueBy (r.clock.after ms)) id
            intro due
            obtain ⟨s, among, rfl⟩ := List.mem_map.mp due
            exact free (waiting s ((List.takeWhile_sublist _).subset among))
          exact (untouched q fun s waits => h.waiting s (.inr waits)).trans
            (before.trans (untouched p fun s waits => h.waiting s (.inl waits)).symm)

/-- Flows that come in with an act come to the same in a place that is not held. -/
theorem perform_letIn {a b : Act}
    (arrivals : List.Forall₂ Arrival.Alike (p.openArrivals a.flows) (q.openArrivals b.flows))
    {e : Arrival} (member : e ∈ p.openArrivals a.flows) (free : e.suspension? = none) :
    (b.perform q).now.passages[e.place]? = (a.perform p).now.passages[e.place]? := by
  obtain ⟨f, member', alike⟩ := exists_partner arrivals member
  have passage' := (Arrival.letIn h.lines.2 member').passage
  rw [alike.place, alike.flow, alike.purpose, alike.entered free,
    through_congr h.decoder h.audience] at passage'
  exact passage'.trans (Arrival.letIn h.lines.1 member).passage.symm

theorem passages_after {a b : Act} (same : a.Alike templates b)
    (arrivals : List.Forall₂ Arrival.Alike (p.openArrivals a.flows) (q.openArrivals b.flows))
    (allowed : ∀ e ∈ p.openArrivals a.flows, e.suspension?.isSome → held e.place) {id : Nat}
    (free : ¬ held id) :
    (b.perform q).now.passages[id]? = (a.perform p).now.passages[id]? := by
  by_cases inside : id < p.passages.length
  · exact h.perform_passages same inside free
  · by_cases entering : id < p.passages.length + a.flows.length
    · have place : id ∈ (p.openArrivals a.flows).map Arrival.place := by
        rw [openArrivals_places, List.mem_range'_1]
        omega
      obtain ⟨e, member, rfl⟩ := List.mem_map.mp place
      refine h.perform_letIn arrivals member ?_
      rw [← Option.not_isSome_iff_eq_none]
      exact fun delayed => free (allowed e member delayed)
    · have size := a.perform_length p
      have size' := b.perform_length q
      rw [h.size, same.flows] at size'
      rw [List.getElem?_eq_none (by omega), List.getElem?_eq_none (by omega)]

/-- Two alike proxies stay alike, and find what comes in alike. -/
theorem perform {a b : Act} (same : a.Alike templates b)
    (allowed : ∀ e ∈ p.openArrivals a.flows, e.suspension?.isSome → held e.place) :
    Alike held templates others (a.perform p).now (b.perform q).now ∧
      List.Forall₂ Arrival.Alike (p.openArrivals a.flows) (q.openArrivals b.flows) := by
  obtain ⟨opened, found⟩ := h.openAll allowed
  have arrivals : List.Forall₂ Arrival.Alike (p.openArrivals a.flows) (q.openArrivals b.flows) := by
    rwa [same.flows]
  refine ⟨⟨?_, ⟨h.serves.1.perform a, h.serves.2.perform b⟩, ?_, ?_, ?_, ?_, ?_,
    ⟨a.perform_inLine h.lines.1, b.perform_inLine h.lines.2⟩, ?_,
    fun id => h.passages_after same arrivals allowed⟩, arrivals⟩
  · rw [a.perform_state p, b.perform_state q, same.flows]
    exact opened.state.commanded? opened.serves.1.names opened.serves.1.templates same.command?
  · rw [a.perform_clock p, b.perform_clock q, h.clock, same.elapsed]
  · rw [a.perform_started p, b.perform_started q, h.started]
  · rw [a.perform_decoder, b.perform_decoder, h.decoder]
  · rw [a.perform_audience, b.perform_audience, h.audience]
  · rw [a.perform_length p, b.perform_length q, h.size, same.flows]
  · intro s waits
    apply opened.waiting s
    rw [← same.flows, b.perform_suspended q, same.flows, a.perform_suspended p]
    exact waits.imp (List.mem_append_right _) (List.mem_append_right _)

theorem after {acts more : List Act} (same : List.Forall₂ (Act.Alike templates) acts more)
    (allowed : ∀ e ∈ p.arrivals acts, e.suspension?.isSome → held e.place) :
    Alike held templates others (p.after acts) (q.after more) ∧
      List.Forall₂ Arrival.Alike (p.arrivals acts) (q.arrivals more) := by
  induction same generalizing p q with
  | nil => exact ⟨h, .nil⟩
  | cons first _ ih =>
      obtain ⟨now, later⟩ := List.forall_mem_append.mp allowed
      obtain ⟨alike, arrivals⟩ := h.perform first now
      obtain ⟨still, arrivalsLater⟩ := ih alike later
      exact ⟨still, List.rel_append arrivals arrivalsLater⟩

end Alike

end Proxy

/-! ## Two runs -/

/-- What two runs have in common for all who are not held back. -/
structure Undisturbed (templates : List Scenario.Template) (p q : Proxy) (acts more : List Act) :
    Prop where
  enabled : (q.after more).state.registry.enabledNames = (p.after acts).state.registry.enabledNames
  history : (q.after more).state.history = (p.after acts).state.history
  clock : (q.after more).clock = (p.after acts).clock
  started : (q.after more).started = (p.after acts).started
  /-- Every flow that comes in claims the same scenario, but for its duration. -/
  claims : (q.arrivals more).map (fun e => e.claim?.map Claim.timeless) =
    (p.arrivals acts).map fun e => e.claim?.map Claim.timeless
  /-- A flow that claims no delay has come to the same, and the same is heard of it. -/
  outcomes : ∀ e ∈ p.arrivals acts,
    (∀ c, e.claim? = some c → c.scenario.config.fault.action ≠ .delay) →
    (q.after more).passages[e.place]? = (p.after acts).passages[e.place]? ∧
      about e.place (q.told more) = about e.place (p.told acts)
  /-- Every call gets the same reply, at whatever time, but for the values of durations. -/
  replies : ∀ g c d, Control.Call.Alike templates c d →
    (Control.answer g (q.after more).state d).result.map Control.Reply.timeless =
      (Control.answer g (p.after acts).state c).result.map Control.Reply.timeless
  /-- Every request is answered with such a reply, unless it asks for nothing but what is new to its
      client. -/
  answers : ∀ (i : Control.Interface) g fresh r r', Control.HttpRequest.Alike i templates r r' →
    r.isConditional = false →
    (i.serve g fresh (q.after more).state r').result.mapJson Json.timeless =
      (i.serve g fresh (p.after acts).state r).result.mapJson Json.timeless

namespace Proxy

/-- The places of the flows that are held back when they come in during a run. -/
def Holds (p : Proxy) (acts : List Act) (id : Nat) : Prop :=
  ∃ e ∈ p.arrivals acts, e.place = id ∧ e.suspension?.isSome

theorem not_holds_place {p : Proxy} {acts : List Act} {e : Arrival} (member : e ∈ p.arrivals acts)
    (free : e.suspension? = none) : ¬ p.Holds acts e.place := by
  rintro ⟨f, among, place, held⟩
  obtain rfl := arrival_unique among member place
  rw [free] at held
  cases held

variable {templates others : List Scenario.Template} {p q : Proxy}

/-- Two new proxies for catalogs that are the same but for durations. -/
theorem Alike.fresh
    (same : others.map Scenario.Template.timeless = templates.map Scenario.Template.timeless)
    (distinct : (templates.map (·.name)).Nodup) (distinct' : (others.map (·.name)).Nodup)
    (history : Call.History) (decoder : Option Call.Decoder) (now : Instant) (logged : Bool)
    (held : Nat → Prop) :
    Alike held templates others
      (.fresh ⟨templates.map fun t => ⟨t, none⟩, history⟩ decoder now logged)
      (.fresh ⟨others.map fun t => ⟨t, none⟩, history⟩ decoder now logged) := by
  have registry : Scenario.Registry.timeless (others.map fun t => ⟨t, none⟩) =
      Scenario.Registry.timeless (templates.map fun t => ⟨t, none⟩) := by
    rw [Scenario.Registry.timeless_new, same, Scenario.Registry.timeless_new]
  have serves : ∀ {ts : List Scenario.Template}, (ts.map (·.name)).Nodup →
      (Proxy.fresh ⟨ts.map fun t => ⟨t, none⟩, history⟩ decoder now logged).Serves ts :=
    fun {ts} distinct => ⟨distinct, Scenario.Registry.templates_new ts,
      Scenario.Registry.completed_new ts⟩
  have inLine : ∀ s, (Proxy.fresh s decoder now logged).InLine :=
    fun _ => ⟨.nil, .nil, fun _ absurd => by cases absurd⟩
  refine ⟨⟨registry, rfl⟩, ⟨serves distinct, serves distinct'⟩, rfl, rfl, rfl, rfl, rfl,
    ⟨inLine _, inLine _⟩, ?_, fun _ _ => rfl⟩
  rintro s (absurd | absurd) <;> cases absurd

theorem Alike.undisturbed {acts more : List Act}
    (h : Alike (p.Holds acts) templates others p q)
    (same : List.Forall₂ (Act.Alike templates) acts more) :
    Undisturbed templates p q acts more := by
  obtain ⟨later, arrivals⟩ := h.after same fun e member held => ⟨e, member, rfl, held⟩
  refine ⟨Scenario.Registry.enabledNames_alike later.state.registry, later.state.history,
    later.clock, later.started, ?_, ?_, ?_, ?_⟩
  · have claims : ∀ {first second : List Arrival}, List.Forall₂ Arrival.Alike first second →
        second.map (fun e => e.claim?.map Claim.timeless) =
          first.map fun e => e.claim?.map Claim.timeless := by
      intro first second alike
      induction alike with
      | nil => rfl
      | cons one _ ih => rw [List.map_cons, List.map_cons, one.claim, ih]
    exact claims arrivals
  · intro e member other
    have free : e.suspension? = none := by
      rw [← Option.not_isSome_iff_eq_none, Arrival.suspension?_isSome]
      rintro ⟨claim, claimed, delays⟩
      exact other claim claimed delays
    obtain ⟨f, member', alike⟩ := exists_partner arrivals member
    have free' : f.suspension? = none := by
      rw [← Option.not_isSome_iff_eq_none, alike.held, free]
      exact Bool.false_ne_true
    have told := (after_arrival h.lines.1 member free).1
    have told' := (after_arrival h.lines.2 member' free').1
    rw [alike.place, alike.entered free, h.audience] at told'
    exact ⟨later.passages e.place (not_holds_place member free), told'.trans told.symm⟩
  · intro g c d alike
    exact alike.replies later.state later.serves.1.names later.serves.1.templates
      later.serves.1.completed later.serves.2.completed g
  · intro i g fresh r r' alike unconditional
    exact alike.answers later.state later.serves.1.names later.serves.1.templates
      later.serves.1.completed later.serves.2.completed unconditional g fresh

end Proxy

/-- Two catalogs that are the same but for durations are registered alike, and from then on two runs
    that are the same but for durations go the same way for all who are not held back, after every
    act. -/
theorem durations_disturb_nobody {templates others : List Scenario.Template} {room : Number}
    {s : State} (same : others.map Scenario.Template.timeless =
      templates.map Scenario.Template.timeless)
    (made : State.fresh? templates room = .ok s) :
    ∃ t, State.fresh? others room = .ok t ∧
      ∀ decoder now logged, ∀ {acts more : List Act}, List.Forall₂ (Act.Alike templates) acts more →
        ∀ n, Undisturbed templates (.fresh s decoder now logged) (.fresh t decoder now logged)
          (acts.take n) (more.take n) := by
  obtain ⟨positive, distinct, rfl⟩ := State.fresh?_ok.mp made
  have names : others.map (·.name) = templates.map (·.name) := by
    have named := congrArg (List.map fun t : Scenario.Template => t.name) same
    rwa [List.map_map, List.map_map] at named
  have distinct' : (others.map (·.name)).Nodup := names ▸ distinct
  refine ⟨_, State.fresh?_ok.mpr ⟨positive, distinct', rfl⟩, ?_⟩
  intro decoder now logged acts more alike n
  have start := Proxy.Alike.fresh same distinct distinct' ⟨room.toNat?.getD 0, [], 0⟩ decoder now
    logged
  exact (start _).undisturbed (List.forall₂_take n alike)

/-- The same catalog but for the duration of the delay, which is two seconds. -/
def quickTemplates : List Scenario.Template :=
  [⟨"slow", ⟨"Holds downloads back", .download, .delay (.given (.ofNat 2))⟩⟩,
    ⟨"cut", ⟨"Cuts downloads off", .download, .closeConnection⟩⟩]

/-- Asks for the delay by a document. -/
def slowing (document : String) : Control.HttpRequest :=
  ⟨"POST", "/scenarios/slow/enable",
    [("content-type", "application/json"), ("content-length", document.toUTF8.size.repr)],
    document.toUTF8⟩

/-- Two downloads are held back, the first for as long as the catalog says; after two seconds a
    third one is cut off. -/
def slowed (document : String) : List Act :=
  [.command (.enable "slow" .none), .pass [(sampleDownload, .hook)],
    .request sampleInterface "first" (slowing document), .pass [(sampleDownload, .hook)],
    .advance 2000, .command (.enable "cut" .none),
    .pass [(sampleDownload, .hook), (sampleCall, .hook)]]

theorem durations_disturb_nobody_slowed :
    quickTemplates.map Scenario.Template.timeless = sampleTemplates.map Scenario.Template.timeless ∧
      ∃ s t, State.fresh? sampleTemplates (.ofNat 4) = .ok s ∧
        State.fresh? quickTemplates (.ofNat 4) = .ok t ∧
        let p := Proxy.fresh s (some .plain) ⟨0⟩ false
        let q := Proxy.fresh t (some .plain) ⟨0⟩ false
        let acts := slowed "\x7b\"duration_seconds\":1\x7d"
        let more := slowed "\x7b\"duration_seconds\":12\x7d"
        List.Forall₂ (Act.Alike sampleTemplates) acts more ∧
          (∀ n, Undisturbed sampleTemplates p q (acts.take n) (more.take n)) ∧
          (p.after acts).suspended.map (·.passage) = [0] ∧
          (q.after more).suspended.map (·.passage) = [1] ∧
          (p.arrivals acts).map (fun e => e.claim?.map (·.scenario.name)) =
            [some "slow", some "slow", some "cut", none] := by
  have same : quickTemplates.map Scenario.Template.timeless =
      sampleTemplates.map Scenario.Template.timeless := by
    decide
  have fresh : State.fresh? sampleTemplates (.ofNat 4) = .ok _ :=
    State.fresh?_ok.mpr ⟨by decide, by decide, rfl⟩
  obtain ⟨t, fresh', undisturbed⟩ := durations_disturb_nobody same fresh
  let place : Control.Place := ⟨"/scenarios/slow/enable".toList, true⟩
  have written : Control.NamePath "slow" "enable" place.path := by
    refine ⟨"slow".toList, "enable".toList, by decide, by decide, by decide +kernel, by decide,
      "/scenarios".toList, ['/'], [], by decide +kernel, by decide, .inl rfl, .inl rfl⟩
  have short : (slowing "\x7b\"duration_seconds\":1\x7d").Arrives sampleInterface place
      (.object [("duration_seconds", .ofNat 1)]) := ⟨by decide +kernel, by decide +kernel⟩
  have long : (slowing "\x7b\"duration_seconds\":12\x7d").Arrives sampleInterface place
      (.object [("duration_seconds", .ofNat 12)]) := ⟨by decide +kernel, by decide +kernel⟩
  have asked : (slowing "\x7b\"duration_seconds\":1\x7d").Alike sampleInterface sampleTemplates
      (slowing "\x7b\"duration_seconds\":12\x7d") := by
    refine .posted (c := .enable "slow" _) (d := .enable "slow" _) ⟨rfl, rfl⟩ short long
      ⟨written, rfl⟩ ⟨written, rfl⟩ ?_ rfl rfl
    exact .enable (t := ⟨"slow", ⟨"Holds downloads back", .download, .delay .absent⟩⟩)
      List.mem_cons_self rfl rfl rfl
  have alike : List.Forall₂ (Act.Alike sampleTemplates) (slowed "\x7b\"duration_seconds\":1\x7d")
      (slowed "\x7b\"duration_seconds\":12\x7d") :=
    .cons (.refl _) (.cons (.refl _) (.cons (.request _ _ asked) (.cons (.refl _) (.cons (.refl _)
      (.cons (.refl _) (.cons (.refl _) .nil))))))
  refine ⟨same, _, t, fresh, fresh', alike, undisturbed (some .plain) ⟨0⟩ false alike, ?_⟩
  obtain ⟨_, _, rfl⟩ := State.fresh?_ok.mp fresh'
  decide +kernel

end Faultline
