import Faultline.Proofs.Attempt
import Faultline.Proofs.Following

/-! # How an exchange ends

An exchange whose way cannot be told is turned away before anything has happened. Every other ends
in one of four ways, and which one it is depends on the scenario that it has claimed and on its
route alone (`Outcome.of`); an exchange that is held back does so when its delay is over.
-/

namespace Faultline

open Exchange Injection

/-- The ways in which an exchange ends once its route is known. -/
inductive Outcome where
  /-- The connection is cut. -/
  | cut
  /-- The client gets an answer in place of the server's. -/
  | answered (s : Synthetic)
  /-- There is no server to send the request on to. -/
  | untargeted
  | sentOn (target : String)
  deriving DecidableEq

namespace Outcome

/-- What becomes of a request that no fault stops. -/
def ofTarget (target : Option String) : Outcome :=
  match target.filter (!·.isEmpty) with
  | none => .untargeted
  | some server => .sentOn server

/-- What becomes of a request that has met a fault. -/
def ofFault (route : Route) : Scenario.Fault → Outcome
  | .closeConnection => .cut
  | .expireLink => .answered (.text (.ofNat 403) expiredLinkBody)
  | .returnError status message =>
    .answered (.text (status.getD Scenario.Fault.defaultStatus)
      (message.getD Scenario.Fault.defaultMessage))
  | .delay _ => ofTarget route.target

/-- The outcome for a route and what was claimed on it. -/
def of (route : Route) : Option Claim → Outcome
  | none => ofTarget route.target
  | some claim => ofFault route claim.scenario.config.fault

/-- What an ending shows of an outcome. Only a request that is sent on reaches a server. -/
def Shows (request : Request) (route : Route) : Outcome → Ending → Prop
  | cut, e => e = ⟨.destroyed, none⟩
  | answered s, e =>
    e = ⟨.written s.status (s.headers.lookup "Content-Type") s.body.toUTF8, none⟩
  | untargeted, e => e = ⟨plainAnswer 502 noTargetText, none⟩
  | sentOn server, e =>
    ∃ f, e.forwarded = some f ∧ f.target = server ∧ f.method = request.method ∧
      f.path = route.path ∧ f.body = request.body

end Outcome

/-- A status that can be sent as it is. -/
def Sendable (status : Number) : Prop := ∃ n, status.toInt? = some n ∧ 100 ≤ n ∧ n ≤ 999

/-- Templates whose error answers can be sent. -/
def SendableTemplates (templates : List Scenario.Template) : Prop :=
  ∀ t ∈ templates, ∀ status message, t.config.fault = .returnError status message →
    Sendable (status.getD Scenario.Fault.defaultStatus)

namespace Proxy

/-! ## Concluding -/

theorem sendSynthetic_ok {s : Synthetic} (h : Sendable s.status) :
    sendSynthetic s =
      .ok (.written s.status (s.headers.lookup "Content-Type") s.body.toUTF8) := by
  obtain ⟨n, integer, low, high⟩ := h
  have sent : sentStatus s.status = n := by
    rw [sentStatus, Number.truncate?_of_toInt? integer, Option.getD_some]
    exact Int.bmod_eq_of_le (by omega) (by omega)
  have inside : (decide (100 ≤ n) && decide (n ≤ 999)) = true := by simp [low, high]
  simp only [sendSynthetic, sent, inside, if_true, ← Number.eq_ofInt integer]

theorem contact_shows (d : Option Call.Decoder) (flow : Flow) (route : Route) (server : String)
    (b : Backend) :
    (Outcome.sentOn server).Shows flow.request route
      (contact d flow server route.path b).result := by
  unfold contact
  cases b with
  | responds status contentType chunks known =>
      dsimp only
      split <;> exact ⟨_, rfl, rfl, rfl, rfl, rfl⟩
  | fails error stage =>
      cases stage <;> exact ⟨_, rfl, rfl, rfl, rfl, rfl⟩

/-- A flow about which nothing is decided is sent on. -/
theorem conclude_target (d : Option Call.Decoder) {flow : Flow} (errand : Errand)
    (uncut : flow.killed = false) (unanswered : flow.synthetic = none) :
    (Outcome.ofTarget errand.route.target).Shows flow.request errand.route
      (conclude d flow errand).result := by
  unfold Outcome.ofTarget
  simp only [conclude, uncut, unanswered, Bool.false_eq_true, if_false]
  cases errand.route.target.filter (!·.isEmpty) with
  | none => rfl
  | some server => exact contact_shows d flow errand.route server errand.backend

/-- A flow to which a fault was done ends as the fault has it. -/
theorem conclude_effect (d : Option Call.Decoder) (flow : Flow) (errand : Errand)
    (uncut : flow.killed = false) (unanswered : flow.synthetic = none) {fault : Scenario.Fault}
    (sendable : ∀ status message, fault = .returnError status message →
      Sendable (status.getD Scenario.Fault.defaultStatus)) :
    (Outcome.ofFault errand.route fault).Shows flow.request errand.route
      (conclude d (effect fault flow) errand).result := by
  have answers : ∀ s : Synthetic, Sendable s.status →
      (Outcome.answered s).Shows flow.request errand.route
        (conclude d { flow with synthetic := some s, killed := false } errand).result := by
    intro s can
    simp only [conclude, sendSynthetic_ok can, Bool.false_eq_true, if_false]
    rfl
  unfold effect
  cases fault with
  | closeConnection => rfl
  | expireLink =>
      simp only [answer?, cuts, Bool.false_or, uncut, Option.some_or]
      exact answers _ ⟨403, by decide, by decide, by decide⟩
  | returnError status message =>
      simp only [answer?, cuts, Bool.false_or, uncut, Option.some_or]
      exact answers _ (sendable status message rfl)
  | delay seconds =>
      simp only [answer?, cuts, Bool.false_or, uncut, Option.none_or, unanswered]
      exact conclude_target d errand rfl rfl

/-! ## Claims of reachable proxies -/

/-- An error answer that was claimed can be sent, since its template's can. -/
theorem Serves.sendable {templates : List Scenario.Template} {p : Proxy} (h : p.Serves templates)
    (sendable : SendableTemplates templates) {flow : Flow} {purpose : Purpose} {claim : Claim}
    (claimed : p.claim? flow purpose = some claim) {status : Supplied Number}
    {message : Supplied String}
    (fault : claim.scenario.config.fault = .returnError status message) :
    Sendable (status.getD Scenario.Fault.defaultStatus) := by
  unfold claim? at claimed
  split at claimed
  · obtain ⟨e, first, rfl⟩ := Option.map_eq_some_iff.mp claimed
    obtain ⟨s, member, _, active, _⟩ := Scenario.Registry.findFirst?_mem first
    obtain ⟨overrides, completed⟩ := h.completed s member e.config active
    have known : s.template ∈ templates := by
      rw [← h.templates]
      exact List.mem_map.mpr ⟨s, member, rfl⟩
    have own := sendable s.template known
    dsimp only at fault
    rw [completed] at fault
    cases kind : s.template.config.fault with
    | returnError status' message' =>
        simp only [Scenario.Config.complete, kind, Scenario.Fault.returnError.injEq] at fault
        obtain ⟨rfl, _⟩ := fault
        exact own status' message' kind
    | expireLink | delay | closeConnection =>
        simp only [Scenario.Config.complete, kind] at fault
        cases fault
  · cases claimed

end Proxy

/-! ## Exchanges in runs -/

namespace Proxy.Incoming

/-- The request that a flow carries for a request to the data plane. -/
def request (r : Incoming) (route : Route) (body : ByteArray) : Request :=
  ⟨r.method, route.host, route.path, route.url, body⟩

def errand (r : Incoming) (route : Route) : Errand := ⟨r.rawTarget, route, r.backend⟩

def flow (r : Incoming) (route : Route) (body : ByteArray) : Flow :=
  .ofRequest (r.request route body) .none

end Proxy.Incoming

/-- Until when a flow with this claim is held back, if it is. -/
def Proxy.heldUntil (p : Proxy) (claim : Option Claim) : Option Instant :=
  claim.bind fun c => (delaySeconds? c.scenario.config.fault).map (dueAt p.clock)

/-- An exchange whose route is known, after a run that began with it: the request hook has been run
    once, and the exchange has ended in the way that its route and its claim say, unless it is
    still held back. -/
structure EndsOneWay (p : Proxy) (target : Option String) (r : Proxy.Incoming) (route : Route)
    (body : ByteArray) (acts : List Act) : Prop where
  taken : (p.exchange target r).result = .inr p.passages.length
  hooked : (p.exchange target r).now.state =
    (Proxy.runHook
      { p with
        passages := p.passages ++ [Proxy.opening (r.flow route body, .exchange (r.errand route))] }
      p.passages.length (r.flow route body)).now.state
  ended : ∃ q, (p.after (.exchange target r :: acts)).passages[p.passages.length]? = some q ∧
    let claim := p.claim? (r.flow route body) (.exchange (r.errand route))
    match p.heldUntil claim with
    | none => ∃ e, q.ending = some e ∧ (Outcome.of route claim).Shows (r.request route body) route e
    | some due =>
      if (p.exchange target r).now.elapses due acts then
        ∃ e, q.ending = some e ∧ (Outcome.of route claim).Shows (r.request route body) route e
      else q.ending = none

section
variable {p : Proxy} {target : Option String} {r : Proxy.Incoming} {route : Route}
  {body : ByteArray}

theorem flow?_some (way : Route.resolve? r.rawTarget r.hostHeader target = .ok route)
    (there : r.body = .ok body) :
    r.flow? target = some (r.flow route body, .exchange (r.errand route)) := by
  simp only [Proxy.Incoming.flow?, way, there]
  rfl

theorem exchange_alone (way : Route.resolve? r.rawTarget r.hostHeader target = .ok route)
    (there : r.body = .ok body) :
    (p.exchange target r).now =
      (p.pass [(r.flow route body, .exchange (r.errand route))]).now := by
  rw [p.exchange_now, flow?_some way there]
  rfl

theorem after_exchange (way : Route.resolve? r.rawTarget r.hostHeader target = .ok route)
    (there : r.body = .ok body) (acts : List Act) :
    p.after (.exchange target r :: acts) =
      p.after (.pass [(r.flow route body, .exchange (r.errand route))] :: acts) :=
  congrArg (·.after acts) (exchange_alone way there)

theorem closePassage_ending (d : Option Call.Decoder) {q : Passage} {errand : Errand}
    (purpose : q.purpose = .exchange errand) (s : Proxy.Settled) :
    (Proxy.closePassage d q s).now.ending = some (Proxy.conclude d q.flow errand).result := by
  simp only [Proxy.closePassage, purpose]

theorem Passage.UpToResponse.ending {q t : Passage} (h : q.UpToResponse t) :
    t.ending = q.ending := by
  obtain ⟨_, rfl⟩ := h
  rfl

theorem settle_effect (audience : Audience) (claim : Claim) (fault : Scenario.Fault)
    (request : Request) :
    (settle audience claim (attempt fault (.ofRequest request .none))).now =
      effect fault (.ofRequest request .none) := by
  cases fault <;> rfl

/-- An exchange that is not held back has ended when it has come in, and stays as it has ended. -/
theorem after_unheld (h : p.InLine)
    (way : Route.resolve? r.rawTarget r.hostHeader target = .ok route) (there : r.body = .ok body)
    (sendable : ∀ claim, p.claim? (r.flow route body) (.exchange (r.errand route)) = some claim →
      ∀ status message, claim.scenario.config.fault = .returnError status message →
        Sendable (status.getD Scenario.Fault.defaultStatus))
    (unheld : p.heldUntil (p.claim? (r.flow route body) (.exchange (r.errand route))) = none)
    (acts : List Act) :
    ∃ q e, (p.after (.exchange target r :: acts)).passages[p.passages.length]? = some q ∧
      q.ending = some e ∧
      (Outcome.of route (p.claim? (r.flow route body) (.exchange (r.errand route)))).Shows
        (r.request route body) route e := by
  have ready : ∀ claim, (p.enter (r.flow route body) (.exchange (r.errand route))).result.2 ≠
      .waiting claim := by
    intro claim waiting
    obtain ⟨claimed, seconds, delay⟩ := Proxy.enter_waiting waiting
    simp only [Proxy.heldUntil, claimed, Option.bind_some, delay, Option.map_some] at unheld
    cases unheld
  rw [after_exchange way there]
  obtain ⟨_, q, last, same⟩ := Proxy.after_alone h ready acts
  rcases p.enter_cases (r.flow route body) (.exchange (r.errand route)) with
    ⟨none, ⟨settled, result⟩, _⟩ | ⟨claim, claimed, _, result, _⟩ | ⟨claim, _, _, _, result, _⟩
  · rw [result] at same
    refine ⟨q, _, last, same.ending.trans (closePassage_ending p.decoder rfl _), ?_⟩
    rw [none]
    exact Proxy.conclude_target p.decoder (r.errand route) rfl rfl
  · rw [result] at same
    refine ⟨q, _, last, same.ending.trans (closePassage_ending p.decoder rfl _), ?_⟩
    rw [claimed]
    -- The flow was built for this exchange and refuses nothing, so the fault is done in full.
    show (Outcome.ofFault route claim.scenario.config.fault).Shows (r.request route body) route
      (Proxy.conclude p.decoder (settle p.audience claim (attempt claim.scenario.config.fault
        (.ofRequest (r.request route body) .none))).now (r.errand route)).result
    rw [settle_effect]
    exact Proxy.conclude_effect p.decoder (.ofRequest (r.request route body) .none)
      (r.errand route) rfl rfl (sendable claim claimed)
  · exact absurd (congrArg Prod.snd result) (ready claim)

/-- An exchange that is held back ends when its delay is over, and not before. -/
theorem after_held_exchange (h : p.InLine)
    (way : Route.resolve? r.rawTarget r.hostHeader target = .ok route) (there : r.body = .ok body)
    {due : Instant}
    (held : p.heldUntil (p.claim? (r.flow route body) (.exchange (r.errand route))) = some due)
    (acts : List Act) :
    ∃ q, (p.after (.exchange target r :: acts)).passages[p.passages.length]? = some q ∧
      if (p.exchange target r).now.elapses due acts then
        ∃ e, q.ending = some e ∧
          (Outcome.of route (p.claim? (r.flow route body) (.exchange (r.errand route)))).Shows
            (r.request route body) route e
      else q.ending = none := by
  rw [after_exchange way there, exchange_alone way there]
  obtain ⟨claim, claimed, till⟩ := Option.bind_eq_some_iff.mp held
  obtain ⟨seconds, delay, rfl⟩ := Option.map_eq_some_iff.mp till
  cases passed : (p.pass [(r.flow route body, .exchange (r.errand route))]).now.elapses
      (dueAt p.clock seconds) acts with
  | false =>
      obtain ⟨_, q, last, one⟩ := Proxy.after_held h claimed delay passed
      exact ⟨q, last, one.ending⟩
  | true =>
      obtain ⟨_, t, q, last, ⟨response, rfl⟩, gone⟩ := Proxy.after_released h claimed delay passed
      refine ⟨q, last, _, gone.ending.trans (closePassage_ending p.decoder rfl _), ?_⟩
      have kind : (Outcome.of route (some claim)) = Outcome.ofTarget route.target := by
        cases fault : claim.scenario.config.fault with
        | delay => simp only [Outcome.of, fault, Outcome.ofFault]
        | expireLink | returnError | closeConnection =>
            rw [fault] at delay
            cases delay
      rw [claimed, kind]
      exact Proxy.conclude_target p.decoder (r.errand route) rfl rfl

/-- Every exchange with the data plane ends in exactly one way. -/
theorem exchange_ends_one_way {templates : List Scenario.Template} {capacity : Number}
    (reachable : Reachable templates capacity p) (sendable : SendableTemplates templates)
    (target : Option String) (r : Proxy.Incoming) {body : ByteArray} (there : r.body = .ok body)
    (acts : List Act) :
    match Route.resolve? r.rawTarget r.hostHeader target with
    | .error _ => (p.exchange target r).result = .inl ⟨badGateway, none⟩ ∧
        (p.exchange target r).now = p
    | .ok route => EndsOneWay p target r route body acts := by
  cases way : Route.resolve? r.rawTarget r.hostHeader target with
  | error f =>
      have nowhere : r.flow? target = none := by
        simp only [Proxy.Incoming.flow?, way]
      obtain ⟨now, result, _⟩ := p.exchange_none target r nowhere
      exact ⟨result, now⟩
  | ok route =>
      have taken := p.exchange_some target r (flow?_some way there)
      refine ⟨by rw [taken]; rfl, ?_, ?_⟩
      · rw [taken]
        exact p.pass_state _
      · cases held : p.heldUntil (p.claim? (r.flow route body) (.exchange (r.errand route))) with
        | none =>
            obtain ⟨q, e, last, ending, shown⟩ := after_unheld reachable.inLine way there
              (fun claim claimed status message fault =>
                reachable.serves.sendable sendable claimed fault) held acts
            refine ⟨q, last, ?_⟩
            simp only [held]
            exact ⟨e, ending, shown⟩
        | some due =>
            obtain ⟨q, last, facts⟩ := after_held_exchange reachable.inLine way there held acts
            refine ⟨q, last, ?_⟩
            simp only [held]
            exact facts

end

theorem ofNat_sendable {n : Nat} (low : 100 ≤ n) (high : n ≤ 999) : Sendable (.ofNat n) :=
  ⟨n, Number.toInt?_ofInt n, by omega, by omega⟩

theorem catalog_sendable : SendableTemplates Scenario.catalog := by
  have error : ∀ n message reason, 100 ≤ n → n ≤ 999 → ∀ status shown,
      (Scenario.httpError n message reason).config.fault = .returnError status shown →
      Sendable (status.getD Scenario.Fault.defaultStatus) := by
    intro n message reason low high status shown fault
    obtain ⟨rfl, _⟩ := Scenario.Fault.returnError.inj fault
    exact ofNat_sendable low high
  intro t member
  simp only [Scenario.catalog, List.mem_cons, List.not_mem_nil, or_false] at member
  rcases member with rfl | rfl | rfl | rfl | rfl | rfl | rfl | rfl | rfl | rfl
  · exact fun _ _ fault => by cases fault
  · exact error 400 _ _ (by decide) (by decide)
  · exact error 403 _ _ (by decide) (by decide)
  · exact error 404 _ _ (by decide) (by decide)
  · exact error 405 _ _ (by decide) (by decide)
  · exact error 412 _ _ (by decide) (by decide)
  · exact error 500 _ _ (by decide) (by decide)
  · exact error 503 _ _ (by decide) (by decide)
  · exact fun _ _ fault => by cases fault
  · exact fun _ _ fault => by cases fault

/-- A download as it comes to the data plane. -/
def sampleExchange : Proxy.Incoming :=
  ⟨"GET", "/part", "bucket.s3.amazonaws.com", .ok .empty, .fails .badUrl .before⟩

/-- A download for which there is no server gets the error of the scenario that it claims. -/
theorem exchange_ends_one_way_unavailable :
    ∃ p route, Reachable Scenario.catalog (.ofNat 4) p ∧ SendableTemplates Scenario.catalog ∧
      Route.resolve? sampleExchange.rawTarget sampleExchange.hostHeader none = .ok route ∧
      sampleExchange.body = .ok .empty ∧
      Outcome.of route (p.claim? (sampleExchange.flow route .empty)
        (.exchange (sampleExchange.errand route))) =
          .answered (.text (.ofNat 503) "Service Unavailable") ∧
      EndsOneWay p none sampleExchange route .empty [.command .disableAll] := by
  let p := (Proxy.serving Scenario.catalog 4 none).after
    [.command (.enable "cloudfetch_503" .none)]
  have reachable : Reachable Scenario.catalog (.ofNat 4) p :=
    .serving (by decide +kernel) (by decide) _ _
  have ends := exchange_ends_one_way reachable catalog_sendable none sampleExchange rfl
    [.command .disableAll]
  refine ⟨p, ⟨none, "bucket.s3.amazonaws.com", "/part", "http://bucket.s3.amazonaws.com/part"⟩,
    reachable, catalog_sendable, rfl, rfl, ?_, ends⟩
  decide +kernel

end Faultline
