import Faultline.Proofs.Arrivals
import Faultline.Proofs.Outcome

/-! # Requests that are sent on

The flow of an exchange carries the request that it was made for, whatever is done to it, and its
passage is closed at most once. What that passage is after a run is therefore known: it still waits,
or it was closed with that request and that errand (`after_exchange_passage`). Responses that are
handed in from outside are the only other thing that reaches it.
-/

namespace Faultline

open Exchange Injection

/-- No response is handed to a flow in a run. -/
def Unreceived (id : Nat) (acts : List Act) : Prop := ∀ response, Act.receive id response ∉ acts

theorem Unreceived.tail {id : Nat} {a : Act} {acts : List Act} (h : Unreceived id (a :: acts)) :
    Unreceived id acts := fun response member => h response (List.mem_cons_of_mem _ member)

/-! ## Passages that nothing reaches -/

/-- Apart from the flows that go on, an act reaches only the flow that it hands a response to. -/
theorem Act.perform_untouched {p : Proxy} (a : Act) {id : Nat} {q : Passage}
    (found : p.passages[id]? = some q) (apart : ∀ s ∈ a.resumes p, s.passage ≠ id)
    (unreceived : ∀ response, Act.receive id response ≠ a) :
    (a.perform p).now.passages[id]? = some q := by
  have inside : id < p.passages.length := (List.getElem?_eq_some_iff.mp found).1
  cases a with
  | command c => exact found
  | request o correlation r => exact found
  | pass flows => exact (p.pass_earlier flows inside).trans found
  | exchange target r =>
      simp only [perform, Done.map_now, Proxy.exchange_now]
      exact (p.pass_earlier _ inside).trans found
  | receive other response =>
      have outside : id ∉ [other] := by
        intro same
        obtain rfl := List.mem_singleton.mp same
        exact unreceived response rfl
      exact (p.receive_others other response id outside).trans found
  | advance ms =>
      refine Eq.trans ?_ found
      apply Proxy.resumeAll_others (p.called (p.clock.after ms)) (p.dueBy (p.clock.after ms)) id
      intro inside
      obtain ⟨s, due, same⟩ := List.mem_map.mp inside
      exact apart s due same

namespace Proxy

variable {p : Proxy}

theorem after_untouched (h : p.InLine) {id : Nat} {q : Passage} (found : p.passages[id]? = some q)
    (idle : ∀ s ∈ p.suspended, s.passage ≠ id) {acts : List Act} (unreceived : Unreceived id acts) :
    (p.after acts).passages[id]? = some q := by
  induction acts generalizing p with
  | nil => exact found
  | cons a rest ih =>
      have inside : id < p.passages.length := (List.getElem?_eq_some_iff.mp found).1
      have apart : ∀ s ∈ a.resumes p, s.passage ≠ id :=
        fun s goes => idle s ((a.mem_resumes h).mp goes).1
      have still : ∀ s ∈ (a.perform p).now.suspended, s.passage ≠ id := by
        intro s waits same
        rcases a.perform_joining waits with earlier | late
        · exact idle s earlier same
        · omega
      have kept := a.perform_untouched found apart fun response same =>
        unreceived response (same ▸ List.mem_cons_self)
      exact ih (a.perform_inLine h) kept still unreceived.tail

/-- Of a flow that waits, only time decides whether its passage is still as it was. -/
theorem after_suspended (h : p.InLine) {s : Suspension} (waits : s ∈ p.suspended) {q : Passage}
    (found : p.passages[s.passage]? = some q) {acts : List Act}
    (unreceived : Unreceived s.passage acts) :
    (p.after acts).passages[s.passage]? =
      some (if p.elapses s.due acts then p.resumed s q else q) := by
  induction acts generalizing p with
  | nil => exact found
  | cons a rest ih =>
      have here : ∀ response, Act.receive s.passage response ≠ a := fun response same =>
        unreceived response (same ▸ List.mem_cons_self)
      rw [after, elapses]
      cases now : a.reaches p s.due with
      | false =>
          have kept := a.perform_untouched found (a.resumes_apart h waits now) here
          have later := ih (a.perform_inLine h) (a.perform_keeps_line waits now) kept
            unreceived.tail
          rwa [resumed_congr (a.perform_decoder p) (a.perform_audience p)] at later
      | true =>
          obtain ⟨_, idle, kept⟩ := a.perform_due h waits now found
          exact after_untouched (a.perform_inLine h) kept idle unreceived.tail

end Proxy

/-! ## The passage of an exchange -/

/-- A passage belongs to an exchange with this request and this errand. -/
structure Passage.Carries (q : Passage) (request : Request) (errand : Errand) : Prop where
  request : q.flow.request = request
  purpose : q.purpose = .exchange errand

/-- What the passage of an exchange can be, responses from outside apart: it waits as it came in, or
    it was closed. `given` tells whether such a response may have come before that. -/
inductive Passage.Stands (p : Proxy) (request : Request) (errand : Errand) (given : Prop) :
    Passage → Prop where
  | waits : Stands p request errand given
      (Proxy.opening (.ofRequest request .none, .exchange errand))
  | closed (q : Passage) (s : Proxy.Settled) (carries : q.Carries request errand)
      (clear : given ∨ q.flow.response = none) :
      Stands p request errand given (Proxy.closePassage p.decoder q s).now

theorem effect_request (fault : Scenario.Fault) (flow : Flow) :
    (effect fault flow).request = flow.request ∧ (effect fault flow).response = flow.response := by
  cases fault <;> exact ⟨rfl, rfl⟩

section
variable {p : Proxy} {target : Option String} {r : Proxy.Incoming} {route : Route}
  {body : ByteArray}

/-- An exchange that does not wait is closed when it has come in. -/
theorem through_stands
    (ready : ∀ claim, (p.enter (r.flow route body) (.exchange (r.errand route))).result.2 ≠
      .waiting claim) (given : Prop) :
    Passage.Stands p (r.request route body) (r.errand route) given
      (p.through (Proxy.opening (r.flow route body, .exchange (r.errand route)))
        (p.enter (r.flow route body) (.exchange (r.errand route))).result) := by
  rcases p.enter_cases (r.flow route body) (.exchange (r.errand route)) with
    ⟨_, ⟨settled, result⟩, _⟩ | ⟨claim, _, _, result, _⟩ | ⟨claim, _, _, _, result, _⟩
  · rw [result]
    exact .closed _ _ ⟨rfl, rfl⟩ (.inr rfl)
  · rw [result]
    have done := settle_effect p.audience claim claim.scenario.config.fault (r.request route body)
    obtain ⟨request, response⟩ :=
      effect_request claim.scenario.config.fault (.ofRequest (r.request route body) .none)
    refine .closed _ _ ⟨?_, rfl⟩ (.inr ?_)
    · exact (congrArg Flow.request done).trans request
    · exact (congrArg Flow.response done).trans response
  · exact absurd (congrArg Prod.snd result) (ready claim)

/-- Nobody waits at the place of a flow that does not. -/
theorem pass_idle (h : p.InLine) {flow : Flow} {purpose : Purpose}
    (ready : ∀ claim, (p.enter flow purpose).result.2 ≠ .waiting claim) :
    ∀ s ∈ (p.pass [(flow, purpose)]).now.suspended, s.passage ≠ p.passages.length := by
  intro s waits
  rw [Proxy.pass_suspended] at waits
  have earlier : s ∈ p.suspended := by
    rcases p.enter_cases flow purpose with
      ⟨_, _, now⟩ | ⟨_, _, _, _, now⟩ | ⟨claim, _, _, _, result, _⟩
    · simp only [Proxy.openAll, Done.andThen_now, now] at waits
      exact waits
    · simp only [Proxy.openAll, Done.andThen_now, now] at waits
      exact waits
    · exact absurd (congrArg Prod.snd result) (ready claim)
  exact Nat.ne_of_lt (h.placed s earlier)

/-- After any run, the passage of an exchange waits or was closed for it, up to responses that
    were handed to it. -/
theorem after_exchange_passage (h : p.InLine)
    (way : Route.resolve? r.rawTarget r.hostHeader target = .ok route) (there : r.body = .ok body)
    (acts : List Act) :
    ∃ t q, (p.after (.exchange target r :: acts)).passages[p.passages.length]? = some q ∧
      Passage.Stands p (r.request route body) (r.errand route)
        (¬ Unreceived p.passages.length acts) t ∧
      t.UpToResponse q ∧ (Unreceived p.passages.length acts → q = t) := by
  let flow := r.flow route body
  let purpose := Purpose.exchange (r.errand route)
  have line := h.pass [(flow, purpose)]
  rw [after_exchange way there]
  by_cases ready : ∀ claim, (p.enter flow purpose).result.2 ≠ .waiting claim
  · obtain ⟨_, q, last, one⟩ := Proxy.after_alone h ready acts
    refine ⟨_, q, last, through_stands ready _, one, fun unreceived => ?_⟩
    have still := Proxy.after_untouched line (p.pass_alone flow purpose) (pass_idle h ready)
      unreceived
    exact Option.some.inj (last.symm.trans still)
  · obtain ⟨claim, waiting⟩ := not_forall_not.mp ready
    obtain ⟨claimed, seconds, delay⟩ := Proxy.enter_waiting waiting
    obtain ⟨waits, found, _⟩ := Proxy.pass_held claimed delay
    have alone : Unreceived p.passages.length acts →
        (p.after (.pass [(flow, purpose)] :: acts)).passages[p.passages.length]? =
          some (if (p.pass [(flow, purpose)]).now.elapses (dueAt p.clock seconds) acts
            then p.resumed (p.suspension claim seconds) (Proxy.opening (flow, purpose))
            else Proxy.opening (flow, purpose)) := by
      intro unreceived
      have last := Proxy.after_suspended line waits found unreceived
      rwa [Proxy.resumed_congr (p.pass_decoder _) (p.pass_audience _)] at last
    cases passed : (p.pass [(flow, purpose)]).now.elapses (dueAt p.clock seconds) acts with
    | false =>
        obtain ⟨_, q, last, one⟩ := Proxy.after_held h claimed delay passed
        refine ⟨_, q, last, .waits, one, fun unreceived => ?_⟩
        have still := alone unreceived
        rw [passed, last] at still
        exact Option.some.inj still
    | true =>
        by_cases unreceived : Unreceived p.passages.length acts
        · have gone := alone unreceived
          rw [passed] at gone
          exact ⟨_, _, gone, .closed _ _ ⟨rfl, rfl⟩ (.inr rfl), .refl _, fun _ => rfl⟩
        · obtain ⟨_, _, q, last, ⟨response, rfl⟩, gone⟩ :=
            Proxy.after_released h claimed delay passed
          exact ⟨_, q, last, .closed _ _ ⟨rfl, rfl⟩ (.inl unreceived), gone,
            fun none => absurd none unreceived⟩

end

/-! ## Endings that reached a server -/

namespace Proxy

/-- Of a flow that reaches a server, the errand says to which, and the server does the rest. -/
theorem conclude_forwarded {d : Option Call.Decoder} {flow : Flow} {errand : Errand} {f : Forwarded}
    (h : (conclude d flow errand).result.forwarded = some f) :
    errand.route.target = some f.target ∧ ∀ b,
      conclude d flow { errand with backend := b } =
        contact d flow f.target errand.route.path b := by
  unfold conclude at h
  split at h
  · cases h
  · rename_i alive
    split at h
    · split at h
      · cases h
      · cases h
    · rename_i unanswered
      split at h
      · cases h
      · rename_i target known
        obtain ⟨shown, same, rfl, _⟩ := contact_shows d flow errand.route target errand.backend
        obtain rfl := Option.some.inj (h.symm.trans same)
        obtain ⟨asked, _⟩ := Option.filter_eq_some_iff.mp known
        refine ⟨asked, fun b => ?_⟩
        rw [conclude, if_neg alive]
        simp only [unanswered, known]

/-- Nothing is done to a flow that reaches no server. -/
theorem conclude_unsent {d : Option Call.Decoder} {flow : Flow} {errand : Errand}
    (h : (conclude d flow errand).result.forwarded = none) :
    (conclude d flow errand).now = flow := by
  unfold conclude at h ⊢
  split at h
  · rename_i killed
    rw [if_pos killed]
  · rename_i alive
    rw [if_neg alive]
    split at h
    · split at h
      · rfl
      · rfl
    · split at h
      · rfl
      · rename_i target _
        obtain ⟨f, shown, _⟩ := contact_shows d flow errand.route target errand.backend
        rw [shown] at h
        cases h

end Proxy

/-- Whatever happens to the flow of an exchange, it is its own request that it carries, and its own
    target that it is sent on to. -/
theorem Passage.Stands.forwarded {p : Proxy} {request : Request} {errand : Errand} {given : Prop}
    {q t : Passage} (h : Passage.Stands p request errand given t) (same : t.UpToResponse q) :
    q.flow.request = request ∧ ∀ e f, q.ending = some e → e.forwarded = some f →
      errand.route.target = some f.target := by
  obtain ⟨later, rfl⟩ := same
  cases h with
  | waits =>
      refine ⟨rfl, ?_⟩
      intro e f ending
      cases ending
  | closed u s carries =>
      obtain ⟨_, _, response, flow⟩ := Proxy.closePassage_closed p.decoder u s
      refine ⟨?_, ?_⟩
      · simp only [flow]
        exact carries.request
      · intro e f ending forwarded
        obtain rfl := Option.some.inj
          ((closePassage_ending p.decoder carries.purpose s).symm.trans ending)
        exact (Proxy.conclude_forwarded forwarded).1

end Faultline
