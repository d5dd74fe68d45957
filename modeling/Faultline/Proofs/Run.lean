import Faultline.Proofs.Command
import Faultline.Proofs.Waiting

/-! # Runs

What happens to a proxy from outside is a list of acts: commands and control requests, flows and
exchanges that come in, responses, and the passage of time, in any order. Of each act it is enough
to know the command that it gives and the flows that it lets in (`perform_state`).
-/

namespace Faultline

open Exchange Injection

/-- What can happen to a proxy from outside. -/
inductive Act where
  /-- The shared state is given a command directly. -/
  | command (c : Command)
  /-- A request comes to a control interface. -/
  | request (i : Control.Interface) (correlation : String) (r : Control.HttpRequest)
  /-- Flows come in together. -/
  | pass (flows : List (Flow × Purpose))
  /-- A request comes to the data plane; `target` is the configured server. -/
  | exchange (target : Option String) (r : Proxy.Incoming)
  /-- A flow gets its response, and the response hook is run. -/
  | receive (id : Nat) (response : Option Response)
  /-- Time passes. -/
  | advance (ms : Nat)

/-- The flow that a request to the data plane becomes, if its way can be told and its body is
    there. -/
def Proxy.Incoming.flow? (r : Proxy.Incoming) (target : Option String) : Option (Flow × Purpose) :=
  match Route.resolve? r.rawTarget r.hostHeader target, r.body with
  | .ok route, .ok body =>
    some (.ofRequest ⟨r.method, route.host, route.path, route.url, body⟩ .none,
      .exchange ⟨r.rawTarget, route, r.backend⟩)
  | _, _ => none

namespace Act

def perform (p : Proxy) : Act → Done Proxy Unit
  | .command c => (p.withState c.run).map fun _ => ()
  | .request i correlation r =>
    (p.withState fun s =>
      i.serve ⟨p.clock, p.started, correlation, none⟩ correlation s r).map fun _ => ()
  | .pass flows => (p.pass flows).map fun _ => ()
  | .exchange target r => (p.exchange target r).map fun _ => ()
  | .receive id response => p.receive id response
  | .advance ms => (p.advance ms).map fun _ => ()

def command? : Act → Option Command
  | .command c => some c
  | .request i _ r => r.command? i
  | .pass _ | .exchange .. | .receive .. | .advance _ => none

/-- The flows that an act lets in. -/
def flows : Act → List (Flow × Purpose)
  | .pass flows => flows
  | .exchange target r => (r.flow? target).toList
  | .command _ | .request .. | .receive .. | .advance _ => []

def elapsed : Act → Nat
  | .advance ms => ms
  | .command _ | .request .. | .pass _ | .exchange .. | .receive .. => 0

end Act

namespace Proxy

def after (p : Proxy) : List Act → Proxy
  | [] => p
  | a :: rest => (a.perform p).now.after rest

theorem after_append (p : Proxy) (acts more : List Act) :
    p.after (acts ++ more) = (p.after acts).after more := by
  induction acts generalizing p with
  | nil => rfl
  | cons a rest ih => exact ih _

/-- What holds at first and survives every act holds after every run. -/
theorem after_induction {motive : Proxy → Prop} {p : Proxy} (start : motive p)
    (step : ∀ (q : Proxy) (a : Act), motive q → motive (a.perform q).now) (acts : List Act) :
    motive (p.after acts) := by
  induction acts generalizing p with
  | nil => exact start
  | cons a rest ih => exact ih (step p a start)

/-! ## Exchanges -/

section
variable (p : Proxy) (target : Option String) (r : Incoming)

theorem exchange_none (h : r.flow? target = none) :
    (p.exchange target r).now = p ∧ (p.exchange target r).result = .inl ⟨badGateway, none⟩ ∧
      (p.exchange target r).events = [] := by
  unfold Incoming.flow? at h
  unfold exchange
  dsimp only
  split at h
  · cases h
  · rename_i missing
    split
    · exact ⟨rfl, rfl, exchangeFailed_events (.failure _) r.rawTarget⟩
    · exact ⟨rfl, rfl, exchangeFailed_events _ r.rawTarget⟩
    · rename_i way body
      exact absurd body (missing _ _ way)

theorem exchange_some {x : Flow × Purpose} (h : r.flow? target = some x) :
    p.exchange target r = (p.pass [x]).map fun _ => .inr p.passages.length := by
  unfold Incoming.flow? at h
  split at h
  · rename_i way body
    obtain rfl := Option.some.inj h
    simp only [exchange, way, body]
  · cases h

theorem exchange_now : (p.exchange target r).now = (p.pass (r.flow? target).toList).now := by
  cases way : r.flow? target with
  | none => exact (p.exchange_none target r way).1
  | some x => rw [p.exchange_some target r way]; rfl

end

/-! ## Responses -/

section
variable (p : Proxy) (id : Nat) (response : Option Response)

theorem receive_only : OnlyPassages p (p.receive id response).now := by
  unfold receive
  split
  · exact .refl p
  · exact modify_only p id _

theorem receive_others : KeepsOthers [id] p (p.receive id response).now := by
  unfold receive
  split
  · exact fun _ _ => rfl
  · exact modify_others p id _

theorem receive_self {q : Passage} (found : p.passages[id]? = some q) :
    (p.receive id response).now.passages[id]? =
      some { q with flow := { q.flow with response } } := by
  simp only [receive, found, modify_self, Option.map_some]

end

end Proxy

/-! ## Single acts -/

namespace Act

variable (p : Proxy) (a : Act)

/-- An act that gives a command lets no flow in. -/
theorem flows_of_command? {a : Act} {c : Command} (h : a.command? = some c) : a.flows = [] := by
  cases a with
  | command | request => rfl
  | pass | exchange | receive | advance => cases h

/-- The shared state after an act is that after its flows have entered and its command has been
    carried out. -/
theorem perform_state :
    (a.perform p).now.state = (p.openAll a.flows).now.state.commanded a.command? := by
  cases a with
  | command c => rfl
  | request i correlation r => exact i.serve_now _ correlation p.state r
  | pass flows => exact p.pass_state flows
  | exchange target r =>
      simp only [perform, Done.map_now, Proxy.exchange_now]
      exact p.pass_state _
  | receive id response => exact (p.receive_only id response).state
  | advance ms => exact p.advance_state ms

theorem perform_clock : (a.perform p).now.clock = p.clock.after a.elapsed := by
  have still : p.clock.after (0 : Nat) = p.clock := by simp [Instant.after]
  cases a with
  | command c => exact still.symm
  | request o correlation r => exact still.symm
  | pass flows => exact (p.pass_clock flows).trans still.symm
  | exchange target r =>
      simp only [perform, Done.map_now, Proxy.exchange_now]
      exact (p.pass_clock _).trans still.symm
  | receive id response => exact (p.receive_only id response).clock.trans still.symm
  | advance ms => rfl

@[simp] theorem perform_decoder : (a.perform p).now.decoder = p.decoder := by
  cases a with
  | command c => rfl
  | request o correlation r => rfl
  | pass flows => exact p.pass_decoder flows
  | exchange target r =>
      simp only [perform, Done.map_now, Proxy.exchange_now]
      exact p.pass_decoder _
  | receive id response => exact (p.receive_only id response).decoder
  | advance ms => exact p.advance_decoder ms

@[simp] theorem perform_audience : (a.perform p).now.audience = p.audience := by
  cases a with
  | command c => rfl
  | request o correlation r => rfl
  | pass flows => exact p.pass_audience flows
  | exchange target r =>
      simp only [perform, Done.map_now, Proxy.exchange_now]
      exact p.pass_audience _
  | receive id response => exact (p.receive_only id response).audience
  | advance ms => exact p.advance_audience ms

theorem perform_length :
    (a.perform p).now.passages.length = p.passages.length + a.flows.length := by
  have passed : ∀ flows, (p.pass flows).now.passages.length =
      p.passages.length + flows.length := by
    intro flows
    rw [(p.pass_only flows).length, Proxy.openAll_passages, List.length_append, List.length_map]
  cases a with
  | command c => rfl
  | request o correlation r => rfl
  | pass flows => exact passed flows
  | exchange target r =>
      simp only [perform, Done.map_now, Proxy.exchange_now]
      exact passed _
  | receive id response => exact (p.receive_only id response).length
  | advance ms => exact p.advance_length ms

theorem perform_inLine {p : Proxy} (h : p.InLine) : (a.perform p).now.InLine := by
  cases a with
  | command c => exact ⟨h.ordered, h.distinct, h.placed⟩
  | request o correlation r => exact ⟨h.ordered, h.distinct, h.placed⟩
  | pass flows => exact h.pass flows
  | exchange target r =>
      simp only [perform, Done.map_now, Proxy.exchange_now]
      exact h.pass _
  | receive id response => exact h.of_kept (p.receive_only id response).toKeepsShared
  | advance ms => exact h.advance ms

end Act

/-! ## Whole runs -/

namespace Proxy

variable (p : Proxy) (acts : List Act)

@[simp] theorem after_decoder : (p.after acts).decoder = p.decoder :=
  after_induction (motive := fun q => q.decoder = p.decoder) rfl
    (fun q a h => (a.perform_decoder q).trans h) acts

@[simp] theorem after_audience : (p.after acts).audience = p.audience :=
  after_induction (motive := fun q => q.audience = p.audience) rfl
    (fun q a h => (a.perform_audience q).trans h) acts

theorem after_inLine {p : Proxy} (h : p.InLine) : (p.after acts).InLine :=
  after_induction h (fun _ a => a.perform_inLine) acts

theorem after_clock : p.clock.ms ≤ (p.after acts).clock.ms := by
  refine after_induction (motive := fun q => p.clock.ms ≤ q.clock.ms) (Int.le_refl _) ?_ acts
  intro q a h
  rw [a.perform_clock q]
  simp only [Instant.after]
  omega

theorem after_length : p.passages.length ≤ (p.after acts).passages.length := by
  refine after_induction (motive := fun q => p.passages.length ≤ q.passages.length)
    (Nat.le_refl _) ?_ acts
  intro q a h
  rw [a.perform_length q]
  exact Nat.le_trans h (Nat.le_add_right ..)

/-! ## The registry during runs -/

@[simp] theorem openAll_templates (flows : List (Flow × Purpose)) :
    (p.openAll flows).now.state.registry.templates = p.state.registry.templates := by
  induction flows generalizing p with
  | nil => rfl
  | cons x rest ih =>
      simp only [openAll, Done.andThen_now, Done.map_now, ih, enter_registry]
      cases p.claim? x.1 x.2 with
      | none => rfl
      | some c => exact Scenario.Registry.templates_put ..

theorem openAll_completed {p : Proxy} (h : p.state.registry.Completed)
    (flows : List (Flow × Purpose)) : (p.openAll flows).now.state.registry.Completed := by
  induction flows generalizing p with
  | nil => exact h
  | cons x rest ih =>
      refine ih ?_
      rw [enter_registry]
      cases p.claim? x.1 x.2 with
      | none => exact h
      | some c => exact h.put_none c.scenario.name

/-- What a registry is during every run from a new one for these templates. -/
structure Serves (templates : List Scenario.Template) (p : Proxy) : Prop where
  distinct : (templates.map (·.name)).Nodup
  templates : p.state.registry.templates = templates
  completed : p.state.registry.Completed

theorem Serves.names {templates : List Scenario.Template} {p : Proxy} (h : Serves templates p) :
    p.state.registry.names.Nodup := by
  rw [Scenario.Registry.names_templates, h.templates]
  exact h.distinct

theorem Serves.openAll {templates : List Scenario.Template} {p : Proxy} (h : Serves templates p)
    (flows : List (Flow × Purpose)) : Serves templates (p.openAll flows).now :=
  ⟨h.distinct, (p.openAll_templates flows).trans h.templates, openAll_completed h.completed flows⟩

theorem Serves.perform {templates : List Scenario.Template} {p : Proxy} (h : Serves templates p)
    (a : Act) : Serves templates (a.perform p).now := by
  have entered := h.openAll a.flows
  refine ⟨h.distinct, ?_, ?_⟩
  · rw [a.perform_state p]
    cases a.command? with
    | none => exact entered.templates
    | some c => exact (c.run_templates _).trans entered.templates
  · rw [a.perform_state p]
    cases a.command? with
    | none => exact entered.completed
    | some c => exact c.run_completed entered.names entered.completed

theorem Serves.after {templates : List Scenario.Template} {p : Proxy} (h : Serves templates p)
    (acts : List Act) : Serves templates (p.after acts) :=
  after_induction h (fun _ a q => q.perform a) acts

end Proxy

/-! ## Reachable proxies -/

/-- A state for which nothing has happened yet. -/
theorem State.fresh?_ok {templates : List Scenario.Template} {capacity : Number} {s : State} :
    State.fresh? templates capacity = .ok s ↔
      capacity.isPositiveInteger = true ∧ (templates.map (·.name)).Nodup ∧
        s = ⟨templates.map fun t => ⟨t, none⟩, ⟨capacity.toNat?.getD 0, [], 0⟩⟩ := by
  unfold fresh? Call.History.ofCapacity?
  cases positive : capacity.isPositiveInteger with
  | false => simp [bind, Except.bind]
  | true =>
      cases registered : Scenario.Registry.ofTemplates? templates with
      | error f =>
          have double : ¬ (templates.map (·.name)).Nodup := by
            intro distinct
            have made := Scenario.Registry.ofTemplates?_ok.mpr ⟨distinct, rfl⟩
            rw [registered] at made
            cases made
          simp [bind, Except.bind, double]
      | ok r =>
          obtain ⟨distinct, rfl⟩ := Scenario.Registry.ofTemplates?_ok.mp registered
          simp [bind, Except.bind, distinct, eq_comm]

/-- A proxy that some run from a fresh one leads to. -/
def Reachable (templates : List Scenario.Template) (capacity : Number) (p : Proxy) : Prop :=
  ∃ state decoder now logged acts, State.fresh? templates capacity = .ok state ∧
    p = (Proxy.fresh state decoder now logged).after acts

namespace Reachable

variable {templates : List Scenario.Template} {capacity : Number} {p : Proxy}

theorem serves (h : Reachable templates capacity p) : p.Serves templates := by
  obtain ⟨state, decoder, now, logged, acts, fresh, rfl⟩ := h
  obtain ⟨_, distinct, rfl⟩ := State.fresh?_ok.mp fresh
  exact Proxy.Serves.after ⟨distinct, Scenario.Registry.templates_new templates,
    Scenario.Registry.completed_new templates⟩ acts

theorem inLine (h : Reachable templates capacity p) : p.InLine := by
  obtain ⟨state, decoder, now, logged, acts, _, rfl⟩ := h
  exact Proxy.after_inLine acts
    ⟨List.Pairwise.nil, List.nodup_nil, fun _ absurd => by cases absurd⟩

end Reachable

/-- A fresh proxy that serves a catalog, with room for so many records. -/
def Proxy.serving (templates : List Scenario.Template) (room : Nat)
    (decoder : Option Call.Decoder) : Proxy :=
  .fresh ⟨templates.map fun t => ⟨t, none⟩, ⟨room, [], 0⟩⟩ decoder ⟨0⟩ false

theorem Reachable.serving {templates : List Scenario.Template}
    (distinct : (templates.map (·.name)).Nodup) {room : Nat} (positive : 0 < room)
    (decoder : Option Call.Decoder) (acts : List Act) :
    Reachable templates (.ofNat room) ((Proxy.serving templates room decoder).after acts) := by
  have natural : (Number.ofNat room).toNat? = some room := Number.toNat?_eq_some.mpr rfl
  refine ⟨_, decoder, ⟨0⟩, false, acts, State.fresh?_ok.mpr ⟨?_, distinct, rfl⟩, ?_⟩
  · exact Number.isPositiveInteger_iff.mpr ⟨room, positive, rfl⟩
  · rw [natural]
    rfl

/-! ## A small catalog, and flows for it -/

/-- Two scenarios for downloads: one that holds back, and one that cuts the connection. -/
def sampleTemplates : List Scenario.Template :=
  [⟨"slow", ⟨"Holds downloads back", .download, .delay .absent⟩⟩,
    ⟨"cut", ⟨"Cuts downloads off", .download, .closeConnection⟩⟩]

def sampleInterface : Control.Interface := .plain ⟨none, false⟩

/-- A download to which everything can be done. -/
def sampleDownload : Flow :=
  .ofRequest ⟨"GET", "bucket.s3.amazonaws.com", "/part", "http://bucket.s3.amazonaws.com/part",
    .empty⟩ .none

/-- A Thrift call that every flow may make. -/
def sampleCall : Flow :=
  .ofRequest ⟨"POST", "dbc.cloud.databricks.com", "/sql/1.0/warehouses/w", "",
    "OpenSession:1".toUTF8⟩ .none

end Faultline
