import Faultline.Proofs.Arrivals
import Faultline.Proofs.OneShot
import Faultline.Proofs.Outcome

/-! # Scenarios drain in order of registration

The scenarios that wait for downloads form a queue, in the order in which they were registered,
whatever the order in which they were enabled. As long as nobody gives commands, each download takes
the first one of the queue, and nothing else touches it (`Drains`).
-/

namespace Faultline

open Exchange Injection

/-! ## The queue -/

/-- A template's scenario, if the board shows it enabled for an operation. -/
def waiting? (b : Board) (op : Operation) (t : Scenario.Template) : Option Scenario.Enabled :=
  (b t.name).bind fun c => if c.operation = op then some ⟨t.name, c⟩ else none

/-- The scenarios on a board that aim at an operation, in the order of their templates. -/
def queueOf (templates : List Scenario.Template) (b : Board) (op : Operation) :
    List Scenario.Enabled := templates.filterMap (waiting? b op)

theorem waiting?_name {b : Board} {op : Operation} {t : Scenario.Template} {e : Scenario.Enabled}
    (h : waiting? b op t = some e) : e.name = t.name := by
  obtain ⟨c, _, aims⟩ := Option.bind_eq_some_iff.mp h
  split at aims
  · rw [← Option.some.inj aims]
  · cases aims

/-- What is found first is the head of the queue. -/
theorem Scenario.Registry.findFirst?_queue {r : Registry} (distinct : r.names.Nodup)
    (op : Operation) : r.findFirst? op = (queueOf r.templates r.active? op).head? := by
  induction r with
  | nil => rfl
  | cons s rest ih =>
      obtain ⟨absent, distinctRest⟩ := List.nodup_cons.mp distinct
      have own : active? (s :: rest) s.template.name = s.active := by
        simp [active?, slot?]
      have others : queueOf (templates rest) (active? (s :: rest)) op =
          queueOf (templates rest) (active? rest) op := by
        apply List.filterMap_congr
        intro t member
        obtain ⟨other, among, rfl⟩ := List.mem_map.mp member
        have different : s.template.name ≠ other.template.name := by
          intro same
          exact absent (List.mem_map.mpr ⟨other, among, same.symm⟩)
        simp [waiting?, active?, slot?, different]
      have split : queueOf (templates (s :: rest)) (active? (s :: rest)) op =
          (waiting? (active? (s :: rest)) op s.template).toList ++
            queueOf (templates rest) (active? rest) op := by
        rw [← others, queueOf, templates, List.map_cons, List.filterMap_cons]
        cases waiting? (active? (s :: rest)) op s.template <;> rfl
      rw [split, waiting?, own]
      cases active : s.active with
      | none => simpa [findFirst?, active] using ih distinctRest
      | some c =>
          by_cases aims : c.operation = op
          · simp [findFirst?, active, aims]
          · simpa [findFirst?, active, aims] using ih distinctRest

theorem queueOf_names (templates : List Scenario.Template) (b : Board) (op : Operation) :
    ((queueOf templates b op).map (·.name)).Sublist (templates.map (·.name)) := by
  induction templates with
  | nil => exact .slnil
  | cons t rest ih =>
      unfold queueOf at ih ⊢
      rw [List.filterMap_cons]
      cases shown : waiting? b op t with
      | none => exact ih.cons t.name
      | some e =>
          rw [List.map_cons, List.map_cons, waiting?_name shown]
          exact ih.cons_cons t.name

/-- Whoever is taken off the board leaves the queue, and nobody else. -/
theorem queueOf_update (templates : List Scenario.Template) (b : Board) (op : Operation)
    (name : String) :
    queueOf templates (Function.update b name none) op =
      (queueOf templates b op).filter (·.name != name) := by
  rw [queueOf, queueOf, List.filter_filterMap]
  apply List.filterMap_congr
  intro t _
  by_cases same : t.name = name
  · have gone : waiting? (Function.update b name none) op t = none := by
      simp [waiting?, same]
    rw [gone]
    cases shown : waiting? b op t with
    | none => rfl
    | some e => simp [Option.filter, waiting?_name shown, same]
  · have stays : waiting? (Function.update b name none) op t = waiting? b op t := by
      simp [waiting?, same]
    rw [stays]
    cases shown : waiting? b op t with
    | none => rfl
    | some e => simp [Option.filter, waiting?_name shown, same]

theorem queueOf_taken {templates : List Scenario.Template}
    (distinct : (templates.map (·.name)).Nodup) {b : Board} {op : Operation}
    {e : Scenario.Enabled} (first : (queueOf templates b op).head? = some e) :
    queueOf templates (Function.update b e.name none) op = (queueOf templates b op).tail := by
  have names := distinct.sublist (queueOf_names templates b op)
  rw [queueOf_update]
  cases queue : queueOf templates b op with
  | nil =>
      rw [queue] at first
      cases first
  | cons head rest =>
      rw [queue] at first names
      obtain rfl := Option.some.inj first
      obtain ⟨absent, _⟩ := List.nodup_cons.mp names
      rw [List.filter_cons_of_neg (by simp), List.tail_cons, List.filter_eq_self]
      intro other member
      rw [bne_iff_ne]
      exact fun same => absent (List.mem_map.mpr ⟨other, member, same⟩)

/-! ## Flows take from the queue -/

namespace Proxy

/-- The scenarios that wait for downloads, in order of registration. -/
def queue (p : Proxy) (templates : List Scenario.Template) : List Scenario.Enabled :=
  queueOf templates p.state.registry.active? .download

variable {templates : List Scenario.Template} {p : Proxy}

theorem Serves.first (h : p.Serves templates) :
    p.state.registry.findFirst? .download = (p.queue templates).head? := by
  rw [Scenario.Registry.findFirst?_queue h.names, h.templates]
  rfl

theorem claim?_aims {flow : Flow} {purpose : Purpose} {claim : Claim}
    (h : p.claim? flow purpose = some claim) : claim.scenario.config.operation = .download := by
  unfold claim? at h
  split at h
  · obtain ⟨e, first, rfl⟩ := Option.map_eq_some_iff.mp h
    obtain ⟨_, _, _, _, aims⟩ := Scenario.Registry.findFirst?_mem first
    exact aims
  · cases h

/-- A flow that meets faults takes the first scenario of the queue. -/
theorem Serves.enter_queue (h : p.Serves templates) (flow : Flow) {purpose : Purpose}
    (meets : purpose.meetsFaults flow.request = true) :
    (p.enter flow purpose).now.queue templates = (p.queue templates).tail := by
  have claimed : p.claim? flow purpose =
      (p.queue templates).head?.map fun e => ⟨e, p.clock, flow.request.url⟩ := by
    rw [claim?, if_pos meets, h.first]
  rw [queue, enter_registry, claimed]
  cases first : (p.queue templates).head? with
  | none => rw [List.head?_eq_none_iff.mp first]; exact List.head?_eq_none_iff.mp first
  | some e =>
      have waiting : p.claim? flow purpose = some ⟨e, p.clock, flow.request.url⟩ := by
        rw [claimed, first, Option.map_some]
      have known := Scenario.Registry.has_of_active? (claim?_active h.names waiting)
      dsimp only [Option.map_some]
      rw [Scenario.Registry.active?_put known]
      exact queueOf_taken h.distinct first

theorem enter_foreign (p : Proxy) (flow : Flow) {purpose : Purpose}
    (foreign : purpose.meetsFaults flow.request = false) :
    (p.enter flow purpose).now.state.registry = p.state.registry := by
  have unclaimed : p.claim? flow purpose = none := by
    simp [claim?, foreign]
  rw [enter_registry, unclaimed]

end Proxy

/-- The flows lead from one queue to another: those that meet faults take the first scenario each,
    and the others leave the queue as it is. -/
inductive Drains (templates : List Scenario.Template) :
    List Scenario.Enabled → List Arrival → List Scenario.Enabled → Prop where
  | nil {queue : List Scenario.Enabled} : Drains templates queue [] queue
  | take {queue last : List Scenario.Enabled} {e : Arrival} {rest : List Arrival} :
      e.found.queue templates = queue → e.meetsFaults = true →
      Drains templates queue.tail rest last → Drains templates queue (e :: rest) last
  | leave {queue last : List Scenario.Enabled} {e : Arrival} {rest : List Arrival} :
      e.meetsFaults = false →
      Drains templates queue rest last → Drains templates queue (e :: rest) last

namespace Drains

variable {templates : List Scenario.Template} {first middle last : List Scenario.Enabled}
  {arrivals more : List Arrival}

theorem append (h : Drains templates first arrivals middle)
    (k : Drains templates middle more last) : Drains templates first (arrivals ++ more) last := by
  induction h with
  | nil => exact k
  | take finds meets _ ih => exact .take finds meets (ih k)
  | leave foreign _ ih => exact .leave foreign (ih k)

/-- As many flows as met faults before, as many scenarios are gone from the queue. -/
theorem nth (h : Drains templates first arrivals last) {i : Nat} {e : Arrival}
    (met : (arrivals.filter Arrival.meetsFaults)[i]? = some e) :
    e.found.queue templates = first.drop i := by
  induction h generalizing i with
  | nil => cases met
  | take finds meets _ ih =>
      rw [List.filter_cons_of_pos meets] at met
      cases i with
      | zero =>
          obtain rfl := Option.some.inj met
          exact finds
      | succ i =>
          rw [List.getElem?_cons_succ] at met
          rw [ih met, List.drop_tail]
  | leave foreign _ ih =>
      rw [List.filter_cons_of_neg (by simp [foreign])] at met
      exact ih met

theorem rest (h : Drains templates first arrivals last) :
    last = first.drop (arrivals.countP Arrival.meetsFaults) := by
  induction h with
  | nil => rfl
  | take _ meets _ ih => rw [List.countP_cons_of_pos meets, ih, List.drop_tail]
  | leave foreign _ ih => rw [List.countP_cons_of_neg (by simp [foreign]), ih]

end Drains

namespace Proxy

variable {templates : List Scenario.Template} {p : Proxy}

theorem openAll_drains (h : p.Serves templates) (flows : List (Flow × Purpose)) :
    Drains templates (p.queue templates) (p.openArrivals flows)
      ((p.openAll flows).now.queue templates) := by
  induction flows generalizing p with
  | nil => exact .nil
  | cons x rest ih =>
      have onward := ih (h.openAll [x])
      cases meets : x.2.meetsFaults x.1.request with
      | true =>
          refine .take rfl meets ?_
          rw [← h.enter_queue x.1 meets]
          exact onward
      | false =>
          refine .leave meets ?_
          have same : (p.enter x.1 x.2).now.queue templates = p.queue templates := by
            rw [queue, p.enter_foreign x.1 meets, queue]
          rw [← same]
          exact onward

theorem perform_drains (h : p.Serves templates) {a : Act} (calm : a.command? = none) :
    Drains templates (p.queue templates) (p.openArrivals a.flows)
      ((a.perform p).now.queue templates) := by
  have opened := openAll_drains h a.flows
  have same : (a.perform p).now.queue templates = (p.openAll a.flows).now.queue templates := by
    rw [queue, a.perform_state p, calm]
    rfl
  rwa [same]

theorem after_drains (h : p.Serves templates) {acts : List Act}
    (calm : ∀ a ∈ acts, a.command? = none) :
    Drains templates (p.queue templates) (p.arrivals acts)
      ((p.after acts).queue templates) := by
  induction acts generalizing p with
  | nil => exact .nil
  | cons a rest ih =>
      obtain ⟨now, later⟩ := List.forall_mem_cons.mp calm
      exact (perform_drains h now).append (ih (h.perform a) later)

theorem Serves.arrival (h : p.Serves templates) {acts : List Act} {e : Arrival}
    (member : e ∈ p.arrivals acts) : e.found.Serves templates := by
  obtain ⟨before, a, behind, _, inside⟩ := mem_arrivals member
  obtain ⟨ahead, more, _, found⟩ := mem_openArrivals inside
  rw [found]
  exact (h.after before).openAll ahead

/-! ## Other scenarios -/

/-- A scenario that does not aim at downloads is left alone by all flows. -/
theorem openAll_keeps_aimed (h : p.Serves templates) (flows : List (Flow × Purpose))
    {name : String} {c : Scenario.Config} (active : p.state.registry.active? name = some c)
    (other : c.operation ≠ .download) :
    (p.openAll flows).now.state.registry.active? name = some c := by
  induction flows generalizing p with
  | nil => exact active
  | cons x rest ih =>
      apply ih (h.openAll [x])
      show (p.enter x.1 x.2).now.state.registry.active? name = some c
      rw [enter_registry]
      cases claimed : p.claim? x.1 x.2 with
      | none => exact active
      | some claim =>
          have different : name ≠ claim.scenario.name := by
            rintro rfl
            have standing := claim?_active h.names claimed
            rw [active] at standing
            obtain rfl := Option.some.inj standing
            exact other (claim?_aims claimed)
          rw [Scenario.Registry.active?_put_other _ different]
          exact active

theorem after_keeps_aimed (h : p.Serves templates) {acts : List Act}
    (calm : ∀ a ∈ acts, a.command? = none) {name : String} {c : Scenario.Config}
    (active : p.state.registry.active? name = some c) (other : c.operation ≠ .download) :
    (p.after acts).state.registry.active? name = some c := by
  induction acts generalizing p with
  | nil => exact active
  | cons a rest ih =>
      obtain ⟨now, later⟩ := List.forall_mem_cons.mp calm
      apply ih (h.perform a) later
      rw [a.perform_state p, now]
      exact openAll_keeps_aimed h a.flows active other

end Proxy

/-! ## Flows that claim nothing -/

/-- A flow has gone through a run with nothing injected into it, and nothing is told of it. All that
    it has got is a response; an exchange has ended as the flow by itself has it. -/
structure Arrival.Unmodified (e : Arrival) (p : Proxy) (acts : List Act) : Prop where
  unclaimed : e.entered.2.claim? = none
  unheard : about e.place (p.told acts) = []
  unheld : ∀ s ∈ (p.after acts).suspended, s.passage ≠ e.place
  passage : ∃ q, (p.after acts).passages[e.place]? = some q ∧ q.finished = true ∧
    q.scenario = none ∧ (∃ response, q.flow = { e.flow with response }) ∧
    ∀ errand, e.purpose = .exchange errand →
      q.ending = some (Proxy.conclude p.decoder e.flow errand).result

theorem Arrival.unmodified {p : Proxy} (h : p.InLine) {acts : List Act} {e : Arrival}
    (member : e ∈ p.arrivals acts) (unclaimed : e.claim? = none) : e.Unmodified p acts := by
  have free : e.suspension? = none := by
    rw [suspension?, unclaimed, Option.bind_none]
  obtain ⟨told, line, q, last, same⟩ := Proxy.after_arrival h member free
  obtain ⟨result, entered⟩ : ∃ result, e.entered = (e.place, .settled result) := by
    rcases e.found.enter_cases e.flow e.purpose with
      ⟨_, ⟨result, settled⟩, _⟩ | ⟨_, claimed, _⟩ | ⟨_, _, claimed, _⟩
    · exact ⟨result, settled⟩
    · rw [claim?, claimed] at unclaimed
      cases unclaimed
    · rw [claim?, claimed] at unclaimed
      cases unclaimed
  rw [entered] at told same
  let closing := Proxy.closePassage p.decoder (Proxy.opening (e.flow, e.purpose))
    ⟨e.place, none, result⟩
  obtain ⟨finished, scenario, response, flow⟩ : closing.now.finished = true ∧
      closing.now.scenario = none ∧ ∃ response, closing.now.flow = { e.flow with response } :=
    Proxy.closePassage_closed ..
  have closed : closing.now.UpToResponse q := same
  refine ⟨?_, told, line, q, last, ?_⟩
  · rw [entered]
    rfl
  · have ending := closed.ending
    obtain ⟨later, rfl⟩ := closed
    refine ⟨finished, scenario, ⟨later, by rw [flow]⟩, ?_⟩
    intro errand purpose
    exact closePassage_ending p.decoder purpose _

/-! ## Draining -/

/-- A run in which nobody gives commands drains the queue of those who wait for downloads. -/
structure DrainsInOrder (templates : List Scenario.Template) (p : Proxy) (acts : List Act) :
    Prop where
  /-- The flows that meet faults find and claim the scenarios of the queue, one after the other, and
      each takes effect as configured. -/
  taken : ∀ (i : Nat) (e : Arrival),
    ((p.arrivals acts).filter Arrival.meetsFaults)[i]? = some e →
    e.found.state.registry.findFirst? .download = (p.queue templates)[i]? ∧
    e.entered.2.claim? =
      ((p.queue templates)[i]?).map (⟨·, e.found.clock, e.flow.request.url⟩) ∧
    ∀ claim, e.entered.2.claim? = some claim → AppliedOnEntering e.found e.flow e.purpose claim
  /-- Those that come after the last scenario go through. -/
  beyond : ∀ (i : Nat) (e : Arrival),
    ((p.arrivals acts).filter Arrival.meetsFaults)[i]? = some e →
    (p.queue templates).length ≤ i → e.Unmodified p acts
  /-- Other traffic goes through as well, and leaves the scenarios as they are. -/
  foreign : ∀ e ∈ p.arrivals acts, e.meetsFaults = false → e.Unmodified p acts ∧
    (e.found.enter e.flow e.purpose).now.state.registry = e.found.state.registry
  /-- What is left of the queue are the scenarios that nobody has taken. -/
  left : (p.after acts).queue templates =
    (p.queue templates).drop ((p.arrivals acts).countP Arrival.meetsFaults)
  /-- Scenarios that aim at something else stay enabled. -/
  kept : ∀ name c, p.state.registry.active? name = some c → c.operation ≠ .download →
    (p.after acts).state.registry.active? name = some c
  /-- Every event that is emitted is told of one flow. -/
  emitted : p.emitted acts = (p.told acts).map (·.2)

/-- Without commands, scenarios are claimed in the order of their registration. -/
theorem scenarios_drain_in_order {templates : List Scenario.Template} {capacity : Number}
    {p : Proxy} (reachable : Reachable templates capacity p) {acts : List Act}
    (calm : ∀ a ∈ acts, a.command? = none) : DrainsInOrder templates p acts := by
  have serves := reachable.serves
  have drains := Proxy.after_drains serves calm
  have finds : ∀ (i : Nat) (e : Arrival),
      ((p.arrivals acts).filter Arrival.meetsFaults)[i]? = some e →
      e ∈ p.arrivals acts ∧ e.meetsFaults = true ∧
        e.found.state.registry.findFirst? .download = (p.queue templates)[i]? := by
    intro i e nth
    obtain ⟨member, meets⟩ := List.mem_filter.mp (List.mem_of_getElem? nth)
    refine ⟨member, meets, ?_⟩
    rw [(serves.arrival member).first, drains.nth nth, List.head?_drop]
  have claims : ∀ e : Arrival, e.meetsFaults = true → e.claim? =
      (e.found.state.registry.findFirst? .download).map
        (⟨·, e.found.clock, e.flow.request.url⟩) := by
    intro e meets
    exact if_pos meets
  refine ⟨?_, ?_, ?_, drains.rest, fun _ _ => Proxy.after_keeps_aimed serves calm,
    p.emitted_told reachable.inLine acts⟩
  · intro i e nth
    obtain ⟨_, meets, first⟩ := finds i e nth
    refine ⟨first, ?_, ?_⟩
    · rw [e.entered_claim?, claims e meets, first]
    · intro claim claimed
      rw [e.entered_claim?] at claimed
      exact applied_on_entering claimed
  · intro i e nth beyond
    obtain ⟨member, meets, first⟩ := finds i e nth
    apply Arrival.unmodified reachable.inLine member
    rw [claims e meets, first, List.getElem?_eq_none beyond]
    rfl
  · intro e member foreign
    refine ⟨Arrival.unmodified reachable.inLine member ?_, e.found.enter_foreign e.flow foreign⟩
    exact if_neg (ne_true_of_eq_false foreign)

/-- Two scenarios for downloads, and between them one for Thrift calls. -/
def mixedTemplates : List Scenario.Template :=
  [⟨"slow", ⟨"Holds downloads back", .download, .delay .absent⟩⟩,
    ⟨"mute", ⟨"Cuts Thrift calls off", .thriftCall, .closeConnection⟩⟩,
    ⟨"cut", ⟨"Cuts downloads off", .download, .closeConnection⟩⟩]

/-- A Thrift call and three downloads, of which the first is held back until after the others. -/
def mixedTraffic : List Act :=
  [.pass [(sampleCall, .hook)], .exchange none sampleExchange, .advance 1000, .receive 0 none,
    .pass [(sampleDownload, .hook), (sampleDownload, .injection)], .advance 9000]

/-- The scenarios are taken in the order of their registration, not in that of their enabling. -/
theorem scenarios_drain_in_order_mixed :
    ∃ p, Reachable mixedTemplates (.ofNat 4) p ∧ (∀ a ∈ mixedTraffic, a.command? = none) ∧
      DrainsInOrder mixedTemplates p mixedTraffic ∧
      (p.queue mixedTemplates).map (·.name) = ["slow", "cut"] ∧
      ((p.arrivals mixedTraffic).map fun e => e.claim?.map (·.scenario.name)) =
        [none, some "slow", some "cut", none] := by
  let p := (Proxy.serving mixedTemplates 4 none).after
    [.command (.enable "cut" .none), .command (.enable "mute" .none),
      .command (.enable "slow" .none)]
  have reachable : Reachable mixedTemplates (.ofNat 4) p := .serving (by decide) (by decide) _ _
  have calm : ∀ a ∈ mixedTraffic, a.command? = none := by decide
  refine ⟨p, reachable, calm, scenarios_drain_in_order reachable calm, ?_, ?_⟩
  · decide +kernel
  · decide +kernel

end Faultline
