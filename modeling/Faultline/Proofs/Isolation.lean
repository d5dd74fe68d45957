import Faultline.Proofs.Comparing

/-! # Test runs do not see each other

Once the history has been cleared, what was recorded before has no influence any more: two proxies
that have the same scenarios enabled answer and inject alike from then on, whatever calls they had
recorded, and whatever flows from before are still waiting (`test_runs_isolated`). A proxy keeps
apart what is old by the places of the flows: only places that are assigned from then on count.
-/

namespace Faultline

open Exchange Injection

/-! ## States that nobody can tell apart -/

/-- Two states differ at most in how many records they have evicted, and no answer tells that. -/
structure State.Agrees (s t : State) : Prop where
  registry : t.registry = s.registry
  capacity : t.history.capacity = s.history.capacity
  records : t.history.records = s.history.records

/-- What a command does to the scenarios, and whether it is refused, is decided by the scenarios. -/
theorem Command.registry_decides {s t : State} (same : t.registry = s.registry) (c : Command) :
    (c.run t).now.registry = (c.run s).now.registry ∧ c.marks t = c.marks s := by
  obtain ⟨r, h⟩ := s
  obtain ⟨r', h'⟩ := t
  obtain rfl : r' = r := same
  cases c with
  | enable name overrides =>
      simp only [run, marks, State.enable, Done.map_now]
      cases r'.enable? name overrides <;> exact ⟨rfl, rfl⟩
  | disable name =>
      simp only [run, marks, State.disable]
      cases r'.disable? name <;> exact ⟨rfl, rfl⟩
  | disableAll => exact ⟨rfl, rfl⟩
  | reset => exact ⟨rfl, rfl⟩

namespace State.Agrees

variable {s t : State}

theorem commanded (h : s.Agrees t) (c : Option Command) :
    (s.commanded c).Agrees (t.commanded c) := by
  cases c with
  | none => exact h
  | some c =>
      obtain ⟨registry, marks⟩ := c.registry_decides h.registry
      have history : ∀ u : State, (u.commanded (some c)).history =
          if (c.marks u).any Mark.clears then u.history.clear else u.history :=
        fun u => c.run_cleared u
      refine ⟨registry, ?_, ?_⟩
      · rw [history, history, marks]
        split
        · exact h.capacity
        · exact h.capacity
      · rw [history, history, marks]
        split
        · rfl
        · exact h.records

/-- The reply to a call does not tell how many records were evicted. -/
theorem answer (h : s.Agrees t) (g : Control.Setting) (c : Control.Call) :
    (Control.answer g t c).result = (Control.answer g s c).result := by
  obtain ⟨r, capacity, records, evicted⟩ := s
  obtain ⟨r', capacity', records', evicted'⟩ := t
  obtain ⟨rfl, rfl, rfl⟩ := h
  cases c with
  | enable name body =>
      simp only [Control.answer, Control.enableScenario, State.enable]
      split
      · split
        · rfl
        · cases Scenario.Registry.enable? _ name _ <;> rfl
      · rfl
  | disable name =>
      simp only [Control.answer, Control.disableScenario, State.disable]
      cases Scenario.Registry.disable? _ name <;> rfl
  | status name =>
      simp only [Control.answer, Control.scenarioStatus]
      split <;> rfl
  | verify body =>
      simp only [Control.answer, Control.verifyCalls]
      split
      · rfl
      · rfl
      · split <;> rfl
  | list | disableAll | calls | reset | health => rfl

theorem serve (h : s.Agrees t) (i : Control.Interface) (g : Control.Setting) (fresh : String)
    (r : Control.HttpRequest) : (i.serve g fresh t r).result = (i.serve g fresh s r).result :=
  i.serve_same (h.answer g) fresh r

end State.Agrees

theorem Call.History.appendAll_agrees {h k : History} (capacity : k.capacity = h.capacity)
    (records : k.records = h.records) (more : List Record) :
    (more.foldl History.append k).records = (more.foldl History.append h).records := by
  induction more generalizing h k with
  | nil => exact records
  | cons r rest ih =>
      refine ih capacity ?_
      simp only [History.append, overflow, capacity, records]

/-! ## Lines of waiting flows -/

/-- The suspension with its place counted from `n`. -/
def Suspension.countedFrom (n : Nat) (s : Suspension) : Suspension :=
  { s with passage := s.passage - n }

namespace Proxy

/-- The suspensions of the places from `n` on, which are counted from there. -/
def newcomers (n : Nat) (line : List Suspension) : List Suspension :=
  (line.filter fun s => n ≤ s.passage).map (Suspension.countedFrom n)

/-- What is heard of the places from `n` on, which are counted from there. -/
def news (n : Nat) (told : List (Nat × Event)) : List (Nat × Event) :=
  (told.filter fun x => n ≤ x.1).map fun x => (x.1 - n, x.2)

theorem news_append (n : Nat) (first second : List (Nat × Event)) :
    news n (first ++ second) = news n first ++ news n second := by
  simp only [news, List.filter_append, List.map_append]

theorem news_map_new {m n : Nat} (new : n ≤ m) (events : List Event) :
    news n (events.map (m, ·)) = events.map (m - n, ·) := by
  have all : (events.map (m, ·)).filter (fun x => n ≤ x.1) = events.map (m, ·) := by
    refine List.filter_eq_self.mpr fun x member => ?_
    obtain ⟨e, _, rfl⟩ := List.mem_map.mp member
    exact decide_eq_true new
  rw [news, all, List.map_map]
  rfl

theorem news_map_old {m n : Nat} (old : ¬ n ≤ m) (events : List Event) :
    news n (events.map (m, ·)) = [] := by
  have none : (events.map (m, ·)).filter (fun x => n ≤ x.1) = [] := by
    refine List.filter_eq_nil_iff.mpr fun x member => ?_
    obtain ⟨e, _, rfl⟩ := List.mem_map.mp member
    simpa using old
  rw [news, none, List.map_nil]

theorem news_opened {n : Nat} (audience : Audience) {opened : List (Nat × Opened)}
    (new : ∀ o ∈ opened, n ≤ o.1) :
    news n (opened.flatMap (openedHeard audience)) =
      (opened.map fun o => (o.1 - n, o.2)).flatMap (openedHeard audience) := by
  induction opened with
  | nil => rfl
  | cons o rest ih =>
      obtain ⟨first, later⟩ := List.forall_mem_cons.mp new
      obtain ⟨id, state⟩ := o
      rw [List.flatMap_cons, news_append, ih later, List.map_cons, List.flatMap_cons]
      cases state with
      | ready claim attempt => rw [openedHeard, news_map_new first, openedHeard]
      | settled | waiting => rfl

theorem newcomers_cons (n : Nat) (s : Suspension) (rest : List Suspension) :
    newcomers n (s :: rest) =
      if n ≤ s.passage then s.countedFrom n :: newcomers n rest else newcomers n rest := by
  by_cases new : n ≤ s.passage
  · rw [newcomers, List.filter_cons_of_pos (by simpa using new), if_pos new]
    rfl
  · rw [newcomers, List.filter_cons_of_neg (by simpa using new), if_neg new]
    rfl

theorem news_resumed (n : Nat) (audience : Audience) (due : List Suspension) :
    news n (due.flatMap (resumedHeard audience)) =
      (newcomers n due).flatMap (resumedHeard audience) := by
  induction due with
  | nil => rfl
  | cons s rest ih =>
      rw [List.flatMap_cons, news_append, ih, resumedHeard, newcomers_cons]
      by_cases new : n ≤ s.passage
      · rw [news_map_new new, if_pos new, List.flatMap_cons]
        rfl
      · rw [news_map_old new, if_neg new, List.nil_append]

theorem filter_enqueue {line : List Suspension}
    (ordered : line.Pairwise fun s t => s.due.ms ≤ t.due.ms) {keep : Suspension → Bool}
    {s : Suspension} (kept : keep s = true) :
    (enqueue s line).filter keep = enqueue s (line.filter keep) := by
  induction line with
  | nil => simp [enqueue, kept]
  | cons t rest ih =>
      obtain ⟨first, orderedRest⟩ := List.pairwise_cons.mp ordered
      by_cases sooner : s.due.ms < t.due.ms
      · rw [enqueue, if_pos sooner, List.filter_cons_of_pos kept]
        -- Whoever is kept of those behind `t` is due no sooner than `t`, so `s` goes before them.
        cases behind : (t :: rest).filter keep with
        | nil => rfl
        | cons u more =>
            have member : u ∈ t :: rest := (List.mem_filter.mp (behind ▸ List.mem_cons_self)).1
            have later : s.due.ms < u.due.ms := by
              rcases List.mem_cons.mp member with rfl | inRest
              · exact sooner
              · exact Int.lt_of_lt_of_le sooner (first u inRest)
            rw [enqueue, if_pos later]
      · rw [enqueue, if_neg sooner]
        cases here : keep t with
        | true =>
            rw [List.filter_cons_of_pos here, List.filter_cons_of_pos here, enqueue, if_neg sooner,
              ih orderedRest]
        | false =>
            rw [List.filter_cons_of_neg (by simp [here]), List.filter_cons_of_neg (by simp [here]),
              ih orderedRest]

theorem map_enqueue {f : Suspension → Suspension} (same : ∀ s, (f s).due = s.due) (s : Suspension)
    (line : List Suspension) : (enqueue s line).map f = enqueue (f s) (line.map f) := by
  induction line with
  | nil => rfl
  | cons t rest ih =>
      simp only [enqueue, List.map_cons, same]
      split
      · rfl
      · rw [List.map_cons, ih]

theorem newcomers_enqueue {n : Nat} {s : Suspension} {line : List Suspension}
    (ordered : line.Pairwise fun s t => s.due.ms ≤ t.due.ms) (new : n ≤ s.passage) :
    newcomers n (enqueue s line) = enqueue (s.countedFrom n) (newcomers n line) := by
  rw [newcomers, filter_enqueue ordered (decide_eq_true new)]
  exact map_enqueue (f := Suspension.countedFrom n) (fun _ => rfl) s _

/-- Who is new and who is due are two questions. -/
theorem newcomers_filter (n : Nat) (due : Instant → Bool) (line : List Suspension) :
    newcomers n (line.filter fun s => due s.due) =
      (newcomers n line).filter fun s => due s.due := by
  rw [newcomers, newcomers, List.filter_map, List.filter_filter, List.filter_filter]
  exact congrArg _ (List.filter_congr fun s _ => Bool.and_comm ..)

theorem newcomers_none {p : Proxy} (h : p.InLine) :
    newcomers p.passages.length p.suspended = [] := by
  have nobody : p.suspended.filter (fun s => p.passages.length ≤ s.passage) = [] := by
    refine List.filter_eq_nil_iff.mpr fun s member => ?_
    simpa using h.placed s member
  rw [newcomers, nobody, List.map_nil]

end Proxy

namespace Act

/-- Two acts are the same but for responses, which come to flows by their places. -/
inductive Same : Act → Act → Prop where
  | refl (a : Act) : Same a a
  | receive (id other : Nat) (first second : Option Response) :
      Same (.receive id first) (.receive other second)

namespace Same

variable {a b : Act} (h : a.Same b)
include h

theorem flows : b.flows = a.flows := by
  cases h <;> rfl

theorem command? : b.command? = a.command? := by
  cases h <;> rfl

theorem elapsed : b.elapsed = a.elapsed := by
  cases h <;> rfl

theorem reaches {p q : Proxy} (clock : q.clock = p.clock) (due : Instant) :
    b.reaches q due = a.reaches p due := by
  cases h with
  | refl a =>
      cases a with
      | advance ms => simp only [Act.reaches, clock]
      | command | request | pass | exchange | receive => rfl
  | receive => rfl

end Same

end Act

/-! ## Two proxies side by side -/

namespace Proxy

/-- Two proxies that nobody can tell apart who looks at the answers and at the flows of the places
    from `m` on in the one and from `n` on in the other. -/
structure Level (m n : Nat) (p q : Proxy) : Prop where
  state : p.state.Agrees q.state
  clock : q.clock = p.clock
  decoder : q.decoder = p.decoder
  size : ∃ k, p.passages.length = m + k ∧ q.passages.length = n + k
  lines : p.InLine ∧ q.InLine
  waiting : newcomers m p.suspended = newcomers n q.suspended

theorem claim?_congr {p q : Proxy} (registry : q.state.registry = p.state.registry)
    (clock : q.clock = p.clock) : q.claim? = p.claim? := by
  funext flow purpose
  rw [claim?, registry, clock, claim?]

namespace Level

variable {m n : Nat} {p q : Proxy} (h : Level m n p q)
include h

theorem claim? : q.claim? = p.claim? := claim?_congr h.state.registry h.clock

/-- Flows are opened alike. -/
theorem opened (flow : Flow) (purpose : Purpose) :
    ((q.enter flow purpose).result.1 - n, (q.enter flow purpose).result.2) =
      ((p.enter flow purpose).result.1 - m, (p.enter flow purpose).result.2) := by
  obtain ⟨k, first, second⟩ := h.size
  simp only [enter_opened, h.claim?, h.decoder, first, second, Nat.add_sub_cancel_left]

theorem enter (flow : Flow) (purpose : Purpose) :
    Level m n (p.enter flow purpose).now (q.enter flow purpose).now := by
  obtain ⟨k, first, second⟩ := h.size
  have kept := kept?_congr h.clock h.decoder
  refine ⟨⟨?_, ?_, ?_⟩, ?_, ?_, ⟨k + 1, ?_, ?_⟩, ⟨h.lines.1.enter flow purpose,
    h.lines.2.enter flow purpose⟩, ?_⟩
  · rw [enter_registry, enter_registry, h.claim?, h.state.registry]
  · rw [q.enter_history_kept (flow, purpose), p.enter_history_kept (flow, purpose),
      Call.History.capacity_appendAll, Call.History.capacity_appendAll, h.state.capacity]
  · rw [q.enter_history_kept (flow, purpose), p.enter_history_kept (flow, purpose), kept]
    exact Call.History.appendAll_agrees h.state.capacity h.state.records _
  · rw [enter_clock, enter_clock, h.clock]
  · rw [enter_decoder, enter_decoder, h.decoder]
  · rw [enter_passages, List.length_append, first]
    rfl
  · rw [enter_passages, List.length_append, second]
    rfl
  · rw [enter_suspended, enter_suspended, Arrival.suspension?, Arrival.suspension?, Arrival.claim?,
      Arrival.claim?, h.claim?]
    cases p.claim? flow purpose with
    | none => exact h.waiting
    | some claim =>
        rw [Option.bind_some, Option.bind_some]
        cases delaySeconds? claim.scenario.config.fault with
        | none => exact h.waiting
        | some seconds =>
            have placed : m ≤ p.passages.length ∧ n ≤ q.passages.length := by omega
            have joined := newcomers_enqueue (s := p.suspension claim seconds) h.lines.1.ordered
              placed.1
            have joined' := newcomers_enqueue (s := q.suspension claim seconds) h.lines.2.ordered
              placed.2
            refine joined.trans (Eq.trans ?_ joined'.symm)
            simp only [Suspension.countedFrom, suspension, h.clock, h.waiting, first, second,
              Nat.add_sub_cancel_left]

/-- Flows that come in together find two level proxies level. -/
theorem openAll (flows : List (Flow × Purpose)) :
    Level m n (p.openAll flows).now (q.openAll flows).now ∧
      (q.openAll flows).result.map (fun o => (o.1 - n, o.2)) =
        (p.openAll flows).result.map (fun o => (o.1 - m, o.2)) ∧
      (q.openArrivals flows).map Arrival.claim? = (p.openArrivals flows).map Arrival.claim? := by
  induction flows generalizing p q with
  | nil => exact ⟨h, rfl, rfl⟩
  | cons x rest ih =>
      obtain ⟨level, results, claims⟩ := ih (h.enter x.1 x.2)
      have claimed : Arrival.claim? ⟨q, x.1, x.2⟩ = Arrival.claim? ⟨p, x.1, x.2⟩ := by
        rw [Arrival.claim?, h.claim?, Arrival.claim?]
      exact ⟨level, congrArg₂ List.cons (h.opened x.1 x.2) results,
        congrArg₂ List.cons claimed claims⟩

theorem perform {a b : Act} (same : a.Same b) :
    Level m n (a.perform p).now (b.perform q).now ∧
      (q.openArrivals b.flows).map Arrival.claim? = (p.openArrivals a.flows).map Arrival.claim? ∧
      (q.audience = p.audience → news n (b.told q) = news m (a.told p)) := by
  obtain ⟨k, first, second⟩ := h.size
  obtain ⟨level, results, claims⟩ := h.openAll a.flows
  have reaches := same.reaches h.clock
  rw [same.flows]
  refine ⟨⟨?_, ?_, ?_, ⟨k + a.flows.length, ?_, ?_⟩, ⟨a.perform_inLine h.lines.1,
    b.perform_inLine h.lines.2⟩, ?_⟩, claims, ?_⟩
  · rw [a.perform_state p, b.perform_state q, same.flows, same.command?]
    exact level.state.commanded _
  · rw [a.perform_clock p, b.perform_clock q, same.elapsed, h.clock]
  · rw [a.perform_decoder p, b.perform_decoder q, h.decoder]
  · rw [a.perform_length p, first, Nat.add_assoc]
  · rw [b.perform_length q, second, same.flows, Nat.add_assoc]
  · rw [a.perform_suspended_filter h.lines.1, b.perform_suspended_filter h.lines.2, same.flows,
      newcomers_filter m (fun due => !a.reaches p due),
      newcomers_filter n (fun due => !b.reaches q due), level.waiting]
    simp only [reaches]
  · intro audience
    have new : ∀ o ∈ (p.openAll a.flows).result, m ≤ o.1 := by
      intro o member
      have place : o.1 ∈ List.range' p.passages.length a.flows.length := by
        rw [← p.openAll_ids a.flows]
        exact List.mem_map.mpr ⟨o, member, rfl⟩
      rw [List.mem_range'_1] at place
      omega
    have new' : ∀ o ∈ (q.openAll a.flows).result, n ≤ o.1 := by
      intro o member
      have place : o.1 ∈ List.range' q.passages.length a.flows.length := by
        rw [← q.openAll_ids a.flows]
        exact List.mem_map.mpr ⟨o, member, rfl⟩
      rw [List.mem_range'_1] at place
      omega
    have going : newcomers n (b.resumes q) = newcomers m (a.resumes p) := by
      rw [a.resumes_filter h.lines.1, b.resumes_filter h.lines.2,
        newcomers_filter m (a.reaches p), newcomers_filter n (b.reaches q), h.waiting]
      simp only [reaches]
    rw [Act.told, Act.told, same.flows, news_append, news_append, news_opened _ new,
      news_opened _ new', results, news_resumed, news_resumed, going, audience]

/-- Two level proxies stay level, and what comes in is treated alike. -/
theorem after {acts more : List Act} (same : List.Forall₂ Act.Same acts more) :
    Level m n (p.after acts) (q.after more) ∧
      (q.arrivals more).map Arrival.claim? = (p.arrivals acts).map Arrival.claim? ∧
      (q.audience = p.audience → news n (q.told more) = news m (p.told acts)) := by
  induction same generalizing p q with
  | nil => exact ⟨h, rfl, fun _ => rfl⟩
  | @cons a b rest later first _ ih =>
      obtain ⟨level, claims, told⟩ := h.perform first
      obtain ⟨still, claimsLater, toldLater⟩ := ih level
      refine ⟨still, ?_, ?_⟩
      · rw [arrivals, arrivals, List.map_append, List.map_append, claims, claimsLater]
      · intro audience
        have attended : (b.perform q).now.audience = (a.perform p).now.audience := by
          rw [a.perform_audience, b.perform_audience, audience]
        rw [Proxy.told, Proxy.told, news_append, news_append, told audience, toldLater attended]

end Level

end Proxy

/-! ## Clearing -/

namespace Scenario.Registry

/-- A registry is made of its templates and of what is enabled under their names. -/
theorem eq_map_templates {r : Registry} (distinct : r.names.Nodup) :
    r = r.templates.map fun t => ⟨t, r.active? t.name⟩ := by
  rw [templates, List.map_map]
  refine (List.map_id r).symm.trans (List.map_congr_left fun s member => ?_)
  have found := slot?_of_mem distinct member
  simp [active?, found]

end Scenario.Registry

/-- What a second run, in which nothing is known of the first one, has in common with it. -/
structure Isolated (p q : Proxy) (acts more : List Act) : Prop where
  /-- Every request gets the same answer, at whatever time, whenever the program was started, and
      however requests are sent. -/
  answers : ∀ (i : Control.Interface) g fresh r,
    (i.serve g fresh (q.after more).state r).result =
      (i.serve g fresh (p.after acts).state r).result
  clock : (q.after more).clock = (p.after acts).clock
  /-- Every flow that comes in claims the same scenario. -/
  claims : (q.arrivals more).map Arrival.claim? = (p.arrivals acts).map Arrival.claim?
  /-- The same is heard of them, in the same order. -/
  told : q.audience = p.audience →
    Proxy.news q.passages.length (q.told more) = Proxy.news p.passages.length (p.told acts)

theorem Reachable.capacity {templates : List Scenario.Template} {room : Number} {p : Proxy}
    (h : Reachable templates room p) : p.state.history.capacity = room.toNat?.getD 0 := by
  obtain ⟨state, decoder, now, logged, acts, fresh, rfl⟩ := h
  obtain ⟨_, _, rfl⟩ := State.fresh?_ok.mp fresh
  exact Proxy.after_capacity _ acts

section
variable {templates : List Scenario.Template} {room : Number} {p q : Proxy}

/-- Clearing the history makes two proxies level that have the same scenarios enabled. -/
theorem Reachable.cleared_level (first : Reachable templates room p)
    (second : Reachable templates room q) (decoder : q.decoder = p.decoder)
    (clock : q.clock = p.clock)
    (enabled : ∀ name, q.state.registry.active? name = p.state.registry.active? name)
    {a : Act} (clears : a.clears p = true) :
    Proxy.Level (a.perform p).now.passages.length (a.perform q).now.passages.length
      (a.perform p).now (a.perform q).now := by
  have registry : q.state.registry = p.state.registry := by
    rw [Scenario.Registry.eq_map_templates first.serves.names,
      Scenario.Registry.eq_map_templates second.serves.names, first.serves.templates,
      second.serves.templates]
    simp only [enabled]
  obtain ⟨c, given⟩ : ∃ c, a.command? = some c := by
    cases given : a.command? with
    | none =>
        rw [Act.clears, given] at clears
        cases clears
    | some c => exact ⟨c, rfl⟩
  have alone := Act.flows_of_command? given
  obtain ⟨written, marks⟩ := c.registry_decides registry
  have history : ∀ r : Proxy, c.marks r.state = c.marks p.state →
      (a.perform r).now.state.history = r.state.history.clear := by
    intro r same
    have clearsToo : a.clears r = true := by
      rw [Act.clears, given, Option.map_some, Option.getD_some] at clears ⊢
      rwa [same]
    rw [Proxy.perform_history_kept, if_pos clearsToo]
  have state : ∀ r : Proxy, (a.perform r).now.state = (c.run r.state).now := by
    intro r
    rw [a.perform_state r, alone, given]
    rfl
  have lines : (a.perform p).now.InLine ∧ (a.perform q).now.InLine :=
    ⟨a.perform_inLine first.inLine, a.perform_inLine second.inLine⟩
  refine ⟨⟨?_, ?_, ?_⟩, ?_, ?_, ⟨0, rfl, rfl⟩, lines, ?_⟩
  · rw [state, state, written]
  · rw [history p rfl, history q marks]
    exact second.capacity.trans first.capacity.symm
  · rw [history p rfl, history q marks]
    rfl
  · rw [a.perform_clock p, a.perform_clock q, clock]
  · rw [a.perform_decoder, a.perform_decoder, decoder]
  · rw [Proxy.newcomers_none lines.1, Proxy.newcomers_none lines.2]

/-- Once the history is cleared in two proxies that have the same scenarios enabled, both answer and
    inject alike, whatever had been recorded and whoever was still waiting. -/
theorem test_runs_isolated (first : Reachable templates room p)
    (second : Reachable templates room q) (decoder : q.decoder = p.decoder)
    (clock : q.clock = p.clock)
    (enabled : ∀ name, q.state.registry.active? name = p.state.registry.active? name)
    {a : Act} (clears : a.clears p = true) {acts more : List Act}
    (same : List.Forall₂ Act.Same acts more) :
    Isolated (a.perform p).now (a.perform q).now acts more := by
  have level := first.cleared_level second decoder clock enabled clears
  obtain ⟨later, claims, told⟩ := level.after same
  exact ⟨later.state.serve, later.clock, claims, told⟩

end

/-- A call is recorded and a download is held back. -/
def busy : List Act :=
  [.command (.enable "slow" .none), .pass [(sampleCall, .hook), (sampleDownload, .hook)]]

/-- In a new run a download is cut off after a while, when the one from before has gone on. -/
def newRun : List Act :=
  [.pass [(sampleCall, .hook)], .advance 6000, .pass [(sampleDownload, .hook)]]

theorem test_runs_isolated_from_waiting :
    ∃ p q, Reachable sampleTemplates (.ofNat 4) p ∧ Reachable sampleTemplates (.ofNat 4) q ∧
      q.decoder = p.decoder ∧ q.clock = p.clock ∧
      (∀ name, q.state.registry.active? name = p.state.registry.active? name) ∧
      (Act.command (.enable "cut" .none)).clears p = true ∧
      List.Forall₂ Act.Same (newRun ++ [.receive 0 none]) (newRun ++ [.receive 1 none]) ∧
      p.state.history.size = 2 ∧ p.suspended.length = 1 ∧
      q.state.history.size = 0 ∧ q.suspended.length = 0 ∧
      Isolated ((Act.command (.enable "cut" .none)).perform p).now
        ((Act.command (.enable "cut" .none)).perform q).now (newRun ++ [.receive 0 none])
        (newRun ++ [.receive 1 none]) := by
  let start := Proxy.serving sampleTemplates 4 (some .plain)
  have reachable : ∀ acts, Reachable sampleTemplates (.ofNat 4) (start.after acts) :=
    fun acts => .serving (by decide) (by decide) _ acts
  have first := reachable busy
  have second := reachable []
  have registry : (start.after []).state.registry = (start.after busy).state.registry := by
    decide +kernel
  have enabled : ∀ name, (start.after []).state.registry.active? name =
      (start.after busy).state.registry.active? name := by
    intro name
    rw [registry]
  have clock : (start.after []).clock = (start.after busy).clock := by decide +kernel
  have clears : (Act.command (.enable "cut" .none)).clears (start.after busy) = true := by
    decide +kernel
  have same : List.Forall₂ Act.Same (newRun ++ [.receive 0 none]) (newRun ++ [.receive 1 none]) :=
    .cons (.refl _) (.cons (.refl _) (.cons (.refl _) (.cons (.receive ..) .nil)))
  exact ⟨_, _, first, second, (Proxy.after_decoder start busy).symm, clock, enabled, clears, same,
    by decide +kernel, by decide +kernel, by decide +kernel, by decide +kernel,
    test_runs_isolated first second (Proxy.after_decoder start busy).symm clock enabled clears same⟩

end Faultline
