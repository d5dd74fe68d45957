import Faultline.Proofs.Arrivals
import Faultline.Proofs.Attempt
import Faultline.Proofs.Trace

/-! # Delays are exact

Every claim is told of once, when its flow goes on: at once, or when the delay is over. Until then
the flow waits in the line, so that claims are neither lost nor doubled (`Balanced`), whatever
happens meanwhile to the scenarios. The end of a delay is as many seconds after the claim as the
configuration says.
-/

namespace Faultline

open Exchange Injection

/-! ## Claims of a run -/

def Mark.claim? : Mark → Option Claim
  | injected claim => some claim
  | enabled .. | disabled _ | disabledAll | reset | recorded _ => none

theorem Command.marks_unclaimed (s : State) (c : Command) :
    (c.marks s).filterMap Mark.claim? = [] := by
  cases c with
  | enable name overrides =>
      simp only [marks]
      split <;> rfl
  | disable name =>
      simp only [marks]
      split <;> rfl
  | disableAll | reset => rfl

namespace Proxy

theorem claim?_time {p : Proxy} {flow : Flow} {purpose : Purpose} {claim : Claim}
    (h : p.claim? flow purpose = some claim) : claim.time = p.clock := by
  unfold claim? at h
  split at h
  · obtain ⟨_, _, rfl⟩ := Option.map_eq_some_iff.mp h
    rfl
  · cases h

theorem enterMarks_claims (p : Proxy) (flow : Flow) (purpose : Purpose) :
    (p.enterMarks flow purpose).filterMap Mark.claim? = (p.claim? flow purpose).toList := by
  have recording : ∀ record : Option Call.Record,
      (record.map Mark.recorded).toList.filterMap Mark.claim? = [] := by
    intro record
    cases record <;> rfl
  rw [enterMarks, List.filterMap_append, recording, enter_claim?]
  cases p.claim? flow purpose <;> rfl

theorem openMarks_claims (p : Proxy) (flows : List (Flow × Purpose)) :
    (p.openMarks flows).filterMap Mark.claim? =
      (p.openArrivals flows).filterMap Arrival.claim? := by
  induction flows generalizing p with
  | nil => rfl
  | cons x rest ih =>
      rw [openMarks, openArrivals, List.filterMap_append, enterMarks_claims, ih,
        List.filterMap_cons]
      cases claimed : p.claim? x.1 x.2 with
      | none =>
          have own : Arrival.claim? ⟨p, x.1, x.2⟩ = none := claimed
          rw [own]
          rfl
      | some claim =>
          have own : Arrival.claim? ⟨p, x.1, x.2⟩ = some claim := claimed
          rw [own]
          rfl

/-- The claims in a trace are those of the flows that have come in. -/
theorem trace_claims (p : Proxy) (acts : List Act) :
    (p.trace acts).filterMap Mark.claim? = (p.arrivals acts).filterMap Arrival.claim? := by
  induction acts generalizing p with
  | nil => rfl
  | cons a rest ih =>
      have commanded : ((a.command?.map (·.marks p.state)).getD []).filterMap Mark.claim? = [] := by
        cases a.command? with
        | none => rfl
        | some c => exact c.marks_unclaimed p.state
      rw [trace, arrivals, List.filterMap_append, List.filterMap_append, ih, Act.marks,
        List.filterMap_append, openMarks_claims, commanded, List.append_nil]

end Proxy

/-! ## Claims, tellings and the line -/

/-- Being told of a claim that came to bear makes nobody throw. -/
def Injection.Audience.Heeds (audience : Audience) (claim : Claim) : Prop :=
  (tell audience ⟨claim, none⟩).1 = .ok ()

instance (audience : Audience) (claim : Claim) : Decidable (audience.Heeds claim) :=
  inferInstanceAs (Decidable ((tell audience ⟨claim, none⟩).1 = .ok ()))

/-- The claims that waited and those that were made are those that were told of and those that
    wait now. -/
def Balanced (p : Proxy) (made told : List Claim) (q : Proxy) : Prop :=
  (p.suspended.map (·.claim) ++ made).Perm (told ++ q.suspended.map (·.claim))

namespace Balanced

variable {p q r : Proxy} {made told more next : List Claim}

theorem trans (h : Balanced p made told q) (k : Balanced q more next r) :
    Balanced p (made ++ more) (told ++ next) r := by
  have first := h.append_right more
  have second := k.append_left told
  rw [List.append_assoc, List.append_assoc] at first
  unfold Balanced
  rw [List.append_assoc]
  exact first.trans second

/-- Whoever waits has waited before or has just claimed. -/
theorem waiting (h : Balanced p made told q) {claim : Claim}
    (member : claim ∈ q.suspended.map (·.claim)) : claim ∈ p.suspended.map (·.claim) ++ made :=
  h.mem_iff.mpr (List.mem_append_right _ member)

end Balanced

/-- A flow that refuses nothing throws nothing. -/
theorem Injection.verdict?_willing {fault : Scenario.Fault} {flow : Flow}
    (willing : flow.refusals = .none) : verdict? (attempt fault flow) = some none := by
  have quiet : (attempt fault flow).error = none := by
    rw [attempt_error, willing]
    unfold firstThrown? Refusals.none
    cases answer? fault <;> cases cuts fault <;> rfl
  rw [verdict?, quiet]

namespace Proxy

theorem enter_balanced {p : Proxy} {flow : Flow} (willing : flow.refusals = .none)
    {purpose : Purpose} (heeds : ∀ claim, p.claim? flow purpose = some claim →
      p.audience.Heeds claim) :
    Balanced p (p.claim? flow purpose).toList
      ((openedHeard p.audience (p.enter flow purpose).result).map (·.2.claim))
      (p.enter flow purpose).now := by
  unfold Balanced
  rcases p.enter_cases flow purpose with
    ⟨none, ⟨_, result⟩, now⟩ | ⟨claim, claimed, _, result, now⟩ |
      ⟨claim, seconds, claimed, _, result, now⟩
  · rw [none, result, now, Option.toList_none, List.append_nil]
    exact .refl _
  · have once : openedHeard p.audience (p.passages.length,
        .ready claim (attempt claim.scenario.config.fault flow)) =
        [(p.passages.length, ⟨claim, Option.none⟩)] := by
      rw [openedHeard, verdict?_willing willing, Option.toList_some, List.flatMap_singleton,
        heard_ok (heeds claim claimed)]
      rfl
    rw [claimed, result, once, now]
    exact List.perm_append_comm
  · have joined := (enqueue_perm ⟨dueAt p.clock seconds, p.passages.length, claim⟩
      p.suspended).map (·.claim)
    rw [claimed, result, now]
    exact List.perm_append_comm.trans joined.symm

theorem openAll_balanced {p : Proxy} {flows : List (Flow × Purpose)}
    (willing : ∀ x ∈ flows, x.1.refusals = .none)
    (heeds : ∀ claim ∈ (p.openArrivals flows).filterMap Arrival.claim?, p.audience.Heeds claim) :
    Balanced p ((p.openArrivals flows).filterMap Arrival.claim?)
      (((p.openAll flows).result.flatMap (openedHeard p.audience)).map (·.2.claim))
      (p.openAll flows).now := by
  induction flows generalizing p with
  | nil => exact .of_eq (List.append_nil _)
  | cons x rest ih =>
      obtain ⟨willingFirst, willingRest⟩ := List.forall_mem_cons.mp willing
      have split : (p.openArrivals (x :: rest)).filterMap Arrival.claim? =
          (p.claim? x.1 x.2).toList ++
            ((p.enter x.1 x.2).now.openArrivals rest).filterMap Arrival.claim? := by
        rw [← openMarks_claims, ← openMarks_claims, ← enterMarks_claims, ← List.filterMap_append]
        rfl
      rw [split] at heeds ⊢
      have first := enter_balanced willingFirst fun claim claimed =>
        heeds claim (List.mem_append_left _ (Option.mem_toList.mpr claimed))
      have later := ih willingRest fun claim member => by
        rw [enter_audience]
        exact heeds claim (List.mem_append_right _ member)
      rw [enter_audience] at later
      have whole := first.trans later
      rw [← List.map_append] at whole
      exact whole

end Proxy

theorem resumed_claims {audience : Audience} {due : List Suspension}
    (heeds : ∀ s ∈ due, audience.Heeds s.claim) :
    (due.flatMap (Proxy.resumedHeard audience)).map (·.2.claim) = due.map (·.claim) := by
  induction due with
  | nil => rfl
  | cons s rest ih =>
      obtain ⟨first, later⟩ := List.forall_mem_cons.mp heeds
      have once : Proxy.resumedHeard audience s = [(s.passage, ⟨s.claim, none⟩)] := by
        rw [Proxy.resumedHeard, heard_ok first]
        rfl
      rw [List.flatMap_cons, List.map_append, once, ih later]
      rfl

namespace Proxy

theorem perform_balanced {p : Proxy} {a : Act} (willing : ∀ x ∈ a.flows, x.1.refusals = .none)
    (heeds : ∀ claim ∈ p.suspended.map (·.claim) ++
      (p.openArrivals a.flows).filterMap Arrival.claim?, p.audience.Heeds claim) :
    Balanced p ((p.openArrivals a.flows).filterMap Arrival.claim?)
      ((a.told p).map (·.2.claim)) (a.perform p).now := by
  have opened := openAll_balanced willing fun claim member =>
    heeds claim (List.mem_append_right _ member)
  have line := a.perform_suspended p
  have heedsLine : ∀ s ∈ a.resumes p, p.audience.Heeds s.claim := by
    intro s goes
    apply heeds
    apply opened.waiting
    rw [line]
    exact List.mem_map.mpr ⟨s, List.mem_append_left _ goes, rfl⟩
  have resumed : Balanced (p.openAll a.flows).now []
      (((a.resumes p).flatMap (resumedHeard p.audience)).map (·.2.claim)) (a.perform p).now := by
    rw [resumed_claims heedsLine, Balanced, line, List.append_nil, List.map_append]
  have whole := opened.trans resumed
  rwa [List.append_nil, ← List.map_append] at whole

/-- Over a run, every claim is told of once or waits. -/
theorem after_balanced {p : Proxy} {acts : List Act}
    (willing : ∀ a ∈ acts, ∀ x ∈ a.flows, x.1.refusals = .none)
    (heeds : ∀ claim ∈ p.suspended.map (·.claim) ++ (p.arrivals acts).filterMap Arrival.claim?,
      p.audience.Heeds claim) :
    Balanced p ((p.arrivals acts).filterMap Arrival.claim?) ((p.told acts).map (·.2.claim))
      (p.after acts) := by
  induction acts generalizing p with
  | nil => exact .of_eq (List.append_nil _)
  | cons a rest ih =>
      obtain ⟨willingFirst, willingRest⟩ := List.forall_mem_cons.mp willing
      rw [arrivals, List.filterMap_append] at heeds ⊢
      rw [← List.append_assoc] at heeds
      have first := perform_balanced willingFirst fun claim member =>
        heeds claim (List.mem_append_left _ member)
      have later := ih willingRest fun claim member => by
        rw [a.perform_audience p]
        apply heeds
        rcases List.mem_append.mp member with waits | made
        · exact List.mem_append_left _ (first.waiting waits)
        · exact List.mem_append_right _ made
      have whole := first.trans later
      rw [← List.map_append] at whole
      exact whole

end Proxy

/-! ## The end of a delay -/

/-- The longest delay, in seconds, that a timer can hold. -/
def longestDelay : Nat := 2147483

theorem dueAt_seconds {seconds : Nat} (short : seconds ≤ longestDelay) (now : Instant) :
    dueAt now (.ofNat seconds) = now.after (1000 * seconds : Nat) := by
  have small : seconds * 1000 < Nat.pow 2 53 := by
    have limit : Nat.pow 2 53 = 9007199254740992 := rfl
    unfold longestDelay at short
    omega
  rw [dueAt, Number.ofNat_timesNat small, Number.ofNat,
    Number.truncate?_of_toInt? (Number.toInt?_ofInt _), Option.getD_some, Nat.mul_comm]

/-- A flow that is held back until an instant waits as it came before, and has gone on as it came
    from then on; its claim is told of when it goes on, with the time at which it was made. -/
structure HeldUntil (due : Instant) (e : Arrival) (claim : Claim) (p : Proxy) (acts : List Act) :
    Prop where
  stamped : claim.time = e.found.clock
  waits : (p.after acts).clock.ms < due.ms →
    about e.place (p.told acts) = [] ∧
    (∃ s ∈ (p.after acts).suspended, s.passage = e.place ∧ s.claim = claim) ∧
    ∃ q response, (p.after acts).passages[e.place]? = some q ∧ q.finished = false ∧
      q.flow = { e.flow with response }
  resolves : due.ms ≤ (p.after acts).clock.ms →
    about e.place (p.told acts) = [⟨claim, none⟩] ∧
    (∀ s ∈ (p.after acts).suspended, s.passage ≠ e.place) ∧
    ∃ q response, (p.after acts).passages[e.place]? = some q ∧ q.finished = true ∧
      q.rejection = none ∧ q.scenario = some claim.scenario.name ∧
      q.flow = { e.flow with response }

theorem held_until {p : Proxy} (h : p.InLine) {acts : List Act} {e : Arrival}
    (member : e ∈ p.arrivals acts) {claim : Claim} (claimed : e.claim? = some claim)
    {seconds : Nat} (delay : delaySeconds? claim.scenario.config.fault = some (.ofNat seconds))
    (positive : 1 ≤ seconds) (short : seconds ≤ longestDelay) (heeds : p.audience.Heeds claim) :
    HeldUntil (e.found.clock.after (1000 * seconds : Nat)) e claim p acts := by
  have held : e.suspension? =
      some ⟨e.found.clock.after (1000 * seconds : Nat), e.place, claim⟩ := by
    rw [Arrival.suspension?, claimed, Option.bind_some, delay, Option.map_some,
      Proxy.suspension, dueAt_seconds short]
    rfl
  have ahead : e.found.clock.ms < (e.found.clock.after (1000 * seconds : Nat)).ms := by
    dsimp only [Instant.after]
    omega
  refine ⟨Proxy.claim?_time claimed, ?_, ?_⟩
  · intro early
    obtain ⟨silent, waits, q, last, response, rfl⟩ :=
      Proxy.after_waiting_arrival h member held ahead early
    exact ⟨silent, ⟨_, waits, rfl, rfl⟩, _, response, last, rfl, rfl⟩
  · intro reached
    obtain ⟨told, gone, r, q, last, ⟨between, rfl⟩, later, rfl⟩ :=
      Proxy.after_released_arrival h member held ahead reached
    let closing := Proxy.closePassage p.decoder
      { Proxy.opening (e.flow, e.purpose) with flow := { e.flow with response := between } }
      ⟨e.place, some claim, (tell p.audience ⟨claim, none⟩).1⟩
    obtain ⟨finished, scenario, response, flow⟩ : closing.now.finished = true ∧
        closing.now.scenario = some claim.scenario.name ∧
        ∃ response, closing.now.flow = { e.flow with response } :=
      Proxy.closePassage_closed ..
    have resolved : closing.now.rejection = none := Proxy.closePassage_resolved _ rfl heeds
    refine ⟨told.trans (heard_ok heeds), gone, _, later, last, finished, resolved, scenario, ?_⟩
    show { closing.now.flow with response := later } = { e.flow with response := later }
    rw [flow]

/-- A flow that is not held back is done with when it has come in. -/
theorem unheld_finished {p : Proxy} (h : p.InLine) {acts : List Act} {e : Arrival}
    (member : e ∈ p.arrivals acts) (unheld : e.suspension? = none) :
    (∀ s ∈ (p.after acts).suspended, s.passage ≠ e.place) ∧
      ∃ q, (p.after acts).passages[e.place]? = some q ∧ q.finished = true := by
  obtain ⟨_, line, q, last, response, rfl⟩ := Proxy.after_arrival h member unheld
  refine ⟨line, _, last, ?_⟩
  have ready := (Arrival.enter_unheld unheld).1
  cases entered : e.entered with
  | mk id opened =>
      rw [entered] at ready
      cases opened with
      | ready claim a => exact (Proxy.closePassage_closed ..).1
      | settled result => exact (Proxy.closePassage_closed ..).1
      | waiting claim => exact absurd rfl (ready claim)

/-! ## Exactness -/

/-- What holds after a run, as far as claims and delays are concerned. -/
structure DelaysExact (p : Proxy) (acts : List Act) : Prop where
  /-- Of every scenario, as many claims were made as were told of and wait. -/
  conserved : ∀ name, (p.trace acts).countP (·.injects name) =
    (p.emitted acts).countP (·.claim.scenario.name == name) +
      (p.after acts).suspended.countP (·.claim.scenario.name == name)
  /-- Every event that is emitted is told of one flow. -/
  emitted : p.emitted acts = (p.told acts).map (·.2)
  held : ∀ e ∈ p.arrivals acts, ∀ claim seconds, e.entered.2.claim? = some claim →
    delaySeconds? claim.scenario.config.fault = some (.ofNat seconds) →
    1 ≤ seconds → seconds ≤ longestDelay →
    HeldUntil (e.found.clock.after (1000 * seconds : Nat)) e claim p acts
  /-- Flows that claim no delay never wait. -/
  unheld : ∀ e ∈ p.arrivals acts,
    (∀ claim, e.entered.2.claim? = some claim →
      delaySeconds? claim.scenario.config.fault = none) →
    (∀ s ∈ (p.after acts).suspended, s.passage ≠ e.place) ∧
      ∃ q, (p.after acts).passages[e.place]? = some q ∧ q.finished = true

theorem injects_claims (marks : List Mark) (name : String) :
    marks.countP (·.injects name) =
      (marks.filterMap Mark.claim?).countP (·.scenario.name == name) := by
  induction marks with
  | nil => rfl
  | cons m rest ih =>
      rw [List.countP_cons, ih]
      cases m with
      | injected claim => rw [List.filterMap_cons, Mark.claim?, List.countP_cons, Mark.injects]
      | enabled | disabled | disabledAll | reset | recorded => rfl

/-- In a run that nobody waits for at first, delays are exact. -/
theorem delays_exact {p : Proxy} (idle : p.suspended = []) {acts : List Act}
    (willing : ∀ a ∈ acts, ∀ x ∈ a.flows, x.1.refusals = .none)
    (heeds : ∀ claim, .injected claim ∈ p.trace acts → p.audience.Heeds claim) :
    DelaysExact p acts := by
  have line : p.InLine := by
    refine ⟨?_, ?_, ?_⟩ <;> rw [idle]
    · exact .nil
    · exact List.nodup_nil
    · exact List.forall_mem_nil _
  have heedsClaims : ∀ claim ∈ (p.arrivals acts).filterMap Arrival.claim?,
      p.audience.Heeds claim := by
    intro claim member
    rw [← p.trace_claims acts] at member
    obtain ⟨m, listed, own⟩ := List.mem_filterMap.mp member
    cases m with
    | injected other =>
        obtain rfl := Option.some.inj own
        exact heeds other listed
    | enabled | disabled | disabledAll | reset | recorded => cases own
  refine ⟨?_, p.emitted_told line acts, ?_, ?_⟩
  · intro name
    have balanced := Proxy.after_balanced willing (by rwa [idle])
    rw [Balanced, idle, ← p.trace_claims acts] at balanced
    have counted := balanced.countP_eq (·.scenario.name == name)
    rw [List.map_nil, List.nil_append, ← injects_claims, List.countP_append, List.countP_map,
      List.countP_map] at counted
    rw [p.emitted_told line, List.countP_map]
    exact counted
  · intro e member claim seconds claimed delay positive short
    rw [e.entered_claim?] at claimed
    exact held_until line member claimed delay positive short
      (heedsClaims claim (List.mem_filterMap.mpr ⟨e, member, claimed⟩))
  · intro e member other
    apply unheld_finished line member
    rw [Arrival.suspension?]
    cases claimed : e.claim? with
    | none => rfl
    | some claim =>
        have tried := other claim (e.entered_claim?.trans claimed)
        rw [Option.bind_some, tried, Option.map_none]

/-- A second download is held back while the first still waits; then the scenario is disabled, a
    millisecond before the first goes on. -/
def overlapping : List Act :=
  [.command (.enable "slow" ⟨.given (.ofNat 3)⟩), .pass [(sampleDownload, .injection)],
    .command (.enable "slow" .none), .advance 500, .pass [(sampleDownload, .hook)],
    .command (.disable "slow"), .advance 2499]

theorem delays_exact_overlapping :
    ∃ p : Proxy, p.suspended = [] ∧
      (∀ a ∈ overlapping ++ [.advance 1], ∀ x ∈ a.flows, x.1.refusals = .none) ∧
      (∀ claim, .injected claim ∈ p.trace (overlapping ++ [.advance 1]) → p.audience.Heeds claim) ∧
      DelaysExact p (overlapping ++ [.advance 1]) ∧
      (p.after overlapping).suspended.map (·.due.ms) = [3000, 5500] ∧
      (p.after (overlapping ++ [.advance 1])).suspended.map (·.due.ms) = [5500] ∧
      (p.emitted (overlapping ++ [.advance 1])).map (·.claim.time.ms) = [0] := by
  let p := Proxy.fresh ⟨sampleTemplates.map fun t => ⟨t, none⟩, ⟨4, [], 0⟩⟩ none ⟨0⟩ true
  have sampled : ∀ a ∈ overlapping ++ [.advance 1], ∀ x ∈ a.flows, x.1 = sampleDownload := by
    simp [overlapping, Act.flows]
  have willing : ∀ a ∈ overlapping ++ [.advance 1], ∀ x ∈ a.flows, x.1.refusals = .none := by
    intro a member x listed
    rw [sampled a member x listed]
    rfl
  have heeded : ∀ claim ∈ (p.trace (overlapping ++ [.advance 1])).filterMap Mark.claim?,
      p.audience.Heeds claim := by
    decide +kernel
  have heeds : ∀ claim, .injected claim ∈ p.trace (overlapping ++ [.advance 1]) →
      p.audience.Heeds claim := by
    intro claim member
    exact heeded claim (List.mem_filterMap.mpr ⟨_, member, rfl⟩)
  refine ⟨p, rfl, willing, heeds, delays_exact rfl willing heeds, ?_, ?_, ?_⟩
  · decide +kernel
  · decide +kernel
  · decide +kernel

end Faultline
