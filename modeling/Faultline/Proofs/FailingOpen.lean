import Faultline.Proofs.Attempt
import Faultline.Proofs.Following

/-! # Injections come to bear, or leave the request as it was

A claim ends in one of two ways: the fault has been done to the flow in full, or something that the
flow refused has been told and everything decided about the flow has been taken back. Whoever asked
for the injection hears of no failure, with one exception: what was thrown may have no text, and
then there is nothing to tell (`injection_settles_iff`).
-/

namespace Faultline

open Exchange Injection

def Thrown.HasText (t : Thrown) : Prop := ∃ f, t.wrap = .ok f

theorem Thrown.wrap_error {t : Thrown} {f : Failure} (h : t.wrap = .error f) : f = .noText := by
  cases t with
  | failure own => cases h
  | value v =>
      unfold wrap textOf at h
      cases v with
      | none => cases h
      | some v =>
          cases shown : v.text? with
          | none =>
              simp only [shown, Except.map] at h
              exact (Except.error.inj h).symm
          | some s =>
              simp only [shown, Except.map] at h
              cases h

namespace Injection

/-- What is thrown when a fault is tried, and when it is taken back after that, has a text. -/
def Speakable (fault : Scenario.Fault) (r : Refusals) : Prop :=
  ∀ t, firstThrown? fault r = some t → t.HasText ∧ ∀ u, r.revert = some u → u.HasText

/-! ## Settling a tried fault -/

/-- Taking back succeeds unless the flow refuses with something that has no text. -/
theorem undo_cases (flow : Flow) :
    (flow.refusals.revert = none ∧ (undo flow).result = .ok () ∧ (undo flow).now = cleared flow) ∨
    (∃ u, flow.refusals.revert = some u ∧ u.HasText ∧ (undo flow).result = .ok ()) ∨
    (∃ u, flow.refusals.revert = some u ∧ ¬ u.HasText ∧ (undo flow).result = .error .noText) := by
  unfold undo Flow.revert
  cases refused : flow.refusals.revert with
  | none => exact .inl ⟨rfl, rfl, rfl⟩
  | some u =>
      right
      dsimp only
      cases wrapped : u.wrap with
      | ok f => exact .inl ⟨u, rfl, ⟨f, wrapped⟩, rfl⟩
      | error f =>
          right
          obtain rfl := Thrown.wrap_error wrapped
          refine ⟨u, rfl, ?_, rfl⟩
          rintro ⟨g, told⟩
          rw [wrapped] at told
          cases told

/-- The two ways in which an injection ends: the fault is done in full, or the reason why it is not
    is told, and nothing is left of it if the flow lets it be taken back. -/
structure CleanEnd (flow : Flow) (event : Event) (after : Flow) : Prop where
  applied : firstThrown? event.claim.scenario.config.fault flow.refusals = none →
    event.outcome = "applied" ∧ event.error = none ∧
      after = effect event.claim.scenario.config.fault flow
  failedOpen : ∀ t, firstThrown? event.claim.scenario.config.fault flow.refusals = some t →
    event.outcome = "failed_open" ∧ (∃ f, t.wrap = .ok f ∧ event.error = some f.message) ∧
      (flow.refusals.revert = none → after = cleared flow)

theorem settle_clean {audience : Audience} {claim : Claim} {flow : Flow}
    (attentive : ∀ error, (tell audience ⟨claim, error⟩).1 = .ok ())
    (speakable : Speakable claim.scenario.config.fault flow.refusals) :
    ∃ error, verdict? (attempt claim.scenario.config.fault flow) = some error ∧
      (settle audience claim (attempt claim.scenario.config.fault flow)).result = .ok () ∧
      CleanEnd flow ⟨claim, error⟩
        (settle audience claim (attempt claim.scenario.config.fault flow)).now := by
  have failed := attempt_error claim.scenario.config.fault flow
  cases thrown : firstThrown? claim.scenario.config.fault flow.refusals with
  | none =>
      rw [thrown] at failed
      refine ⟨none, by simp only [verdict?, failed], ?_, ?_, ?_⟩
      · simp only [settle, failed, attentive]
      · intro _
        refine ⟨rfl, rfl, ?_⟩
        simp only [settle, failed]
        exact attempt_effect thrown
      · intro t other
        rw [thrown] at other
        cases other
  | some t =>
      rw [thrown] at failed
      obtain ⟨⟨f, wrapped⟩, revertible⟩ := speakable t thrown
      obtain ⟨same, refusals⟩ := attempt_cleared claim.scenario.config.fault flow
      have undone : (undo (attempt claim.scenario.config.fault flow).flow).result = .ok () := by
        rcases undo_cases (attempt claim.scenario.config.fault flow).flow with
          ⟨_, done, _⟩ | ⟨_, _, _, done⟩ | ⟨u, refused, mute, _⟩
        · exact done
        · exact done
        · rw [refusals] at refused
          exact absurd (revertible u refused) mute
      refine ⟨some f.message, by simp only [verdict?, failed, wrapped, undone], ?_, ?_, ?_⟩
      · simp only [settle, failed, wrapped, undone, attentive]
      · intro nothing
        rw [thrown] at nothing
        cases nothing
      · intro other first
        obtain rfl := Option.some.inj (thrown.symm.trans first)
        refine ⟨rfl, ⟨f, wrapped, rfl⟩, ?_⟩
        intro lets
        simp only [settle, failed, wrapped, undone]
        rcases undo_cases (attempt claim.scenario.config.fault flow).flow with
          ⟨_, _, now⟩ | ⟨u, refused, _⟩ | ⟨u, refused, _⟩
        · rw [now, same]
        · rw [refusals, lets] at refused
          cases refused
        · rw [refusals, lets] at refused
          cases refused

theorem settle_mute (audience : Audience) (claim : Claim) {flow : Flow}
    (mute : ¬ Speakable claim.scenario.config.fault flow.refusals) :
    verdict? (attempt claim.scenario.config.fault flow) = none ∧
      (settle audience claim (attempt claim.scenario.config.fault flow)).result =
        .error .noText := by
  have failed := attempt_error claim.scenario.config.fault flow
  unfold Speakable at mute
  push Not at mute
  obtain ⟨t, thrown, missing⟩ := mute
  rw [thrown] at failed
  cases wrapped : t.wrap with
  | error f =>
      obtain rfl := Thrown.wrap_error wrapped
      simp only [verdict?, settle, failed, wrapped]
      exact ⟨trivial, rfl⟩
  | ok f =>
      obtain ⟨u, refused, mute⟩ := missing ⟨f, wrapped⟩
      obtain ⟨_, refusals⟩ := attempt_cleared claim.scenario.config.fault flow
      have undone : (undo (attempt claim.scenario.config.fault flow).flow).result =
          .error .noText := by
        rcases undo_cases (attempt claim.scenario.config.fault flow).flow with
          ⟨lets, _, _⟩ | ⟨other, again, told, _⟩ | ⟨_, _, _, done⟩
        · rw [refusals, refused] at lets
          cases lets
        · rw [refusals, refused] at again
          obtain rfl := Option.some.inj again
          exact absurd told mute
        · exact done
      simp only [verdict?, settle, failed, wrapped, undone]
      exact ⟨trivial, trivial⟩

theorem delay_clean {claim : Claim} {seconds : Number}
    (h : delaySeconds? claim.scenario.config.fault = some seconds) (flow : Flow) :
    CleanEnd flow ⟨claim, none⟩ flow := by
  obtain ⟨nothing, same⟩ := delay_does_nothing h flow
  refine ⟨fun _ => ⟨rfl, rfl, same.symm⟩, ?_⟩
  intro t thrown
  rw [nothing] at thrown
  cases thrown

end Injection

/-! ## Spent scenarios -/

namespace Proxy

/-- Flows that come in enable nothing. -/
theorem openAll_disabled {p : Proxy} {name : String}
    (h : p.state.registry.active? name = none) (flows : List (Flow × Purpose)) :
    (p.openAll flows).now.state.registry.active? name = none := by
  induction flows generalizing p with
  | nil => exact h
  | cons x rest ih =>
      refine ih ?_
      rw [enter_registry]
      cases p.claim? x.1 x.2 with
      | none => exact h
      | some c =>
          by_cases same : name = c.scenario.name
          · rw [same]
            exact Scenario.Registry.active?_put_none ..
          · exact (Scenario.Registry.active?_put_other _ same _).trans h

theorem after_disabled {p : Proxy} {name : String}
    (h : p.state.registry.active? name = none) {acts : List Act}
    (silent : ∀ a ∈ acts, a.command? = none) :
    (p.after acts).state.registry.active? name = none := by
  induction acts generalizing p with
  | nil => exact h
  | cons a rest ih =>
      refine ih ?_ fun later member => silent later (List.mem_cons_of_mem _ member)
      rw [a.perform_state p, silent a (List.mem_cons_self ..)]
      exact openAll_disabled h a.flows

end Proxy

/-! ## Injections in runs -/

/-- A run that begins with the injection of a flow. -/
def injecting (flow : Flow) (acts : List Act) : List Act := .pass [(flow, .injection)] :: acts

/-- What the injection of a scenario has come to after a run: the scenario is disabled until it is
    enabled anew; whoever asked for the injection is told of the scenario, and of no failure; and
    of all events of the run, exactly one tells of this injection, and tells how it has ended. -/
structure AllOrNothing (p : Proxy) (flow : Flow) (e : Scenario.Enabled) (acts : List Act) :
    Prop where
  spent : (∀ a ∈ acts, a.command? = none) →
    (p.after (injecting flow acts)).state.registry.active? e.name = none
  emitted : p.emitted (injecting flow acts) = (p.told (injecting flow acts)).map (·.2)
  settled : ∃ q event ended response,
    (p.after (injecting flow acts)).passages[p.passages.length]? = some q ∧
    q.finished = true ∧ q.scenario = some e.name ∧ q.rejection = none ∧
    about p.passages.length (p.told (injecting flow acts)) = [event] ∧
    event.claim = ⟨e, p.clock, flow.request.url⟩ ∧
    q.flow = { ended with response } ∧ CleanEnd flow event ended

/-- An injection of which nobody is told but the one who asked for it, and that one only that
    something had no text. -/
def Mute (p : Proxy) (flow : Flow) (acts : List Act) : Prop :=
  about p.passages.length (p.told (injecting flow acts)) = [] ∧
    ∃ q, (p.after (injecting flow acts)).passages[p.passages.length]? = some q ∧
      q.rejection = some .noText

section
variable {p : Proxy} {flow : Flow} {e : Scenario.Enabled} {acts : List Act}

theorem claim?_injection (first : p.state.registry.findFirst? .download = some e) :
    p.claim? flow .injection = some ⟨e, p.clock, flow.request.url⟩ := by
  simp only [Proxy.claim?, Purpose.meetsFaults, first, if_true, Option.map_some]

theorem injection_spends (first : p.state.registry.findFirst? .download = some e)
    (silent : ∀ a ∈ acts, a.command? = none) :
    (p.after (injecting flow acts)).state.registry.active? e.name = none := by
  have spent : (p.pass [(flow, .injection)]).now.state.registry.active? e.name = none := by
    rw [Proxy.pass_state]
    show (p.enter flow .injection).now.state.registry.active? e.name = none
    rw [Proxy.enter_registry, claim?_injection first]
    exact Scenario.Registry.active?_put_none ..
  exact Proxy.after_disabled spent silent

/-- A fault that is tried at once ends as its settling says. -/
theorem after_tried (h : p.InLine) (first : p.state.registry.findFirst? .download = some e)
    (tried : delaySeconds? e.config.fault = none) :
    let claim : Claim := ⟨e, p.clock, flow.request.url⟩
    let a := attempt e.config.fault flow
    let d := settle p.audience claim a
    about p.passages.length (p.told (injecting flow acts)) =
        ((verdict? a).toList.flatMap fun error => heard p.audience ⟨claim, error⟩) ∧
      ∃ q, (p.after (injecting flow acts)).passages[p.passages.length]? = some q ∧
        q.finished = true ∧ q.scenario = some e.name ∧
        q.rejection = (match d.result with | .ok () => none | .error f => some f) ∧
        ∃ response, q.flow = { d.now with response } := by
  intro claim a d
  have opened : (p.enter flow .injection).result = (p.passages.length, .ready claim a) := by
    rcases p.enter_cases flow .injection with
      ⟨none, _, _⟩ | ⟨other, claimed, _, result, _⟩ | ⟨other, seconds, claimed, held, _, _⟩
    · rw [claim?_injection first] at none
      cases none
    · obtain rfl := Option.some.inj ((claim?_injection first).symm.trans claimed)
      exact result
    · obtain rfl := Option.some.inj ((claim?_injection first).symm.trans claimed)
      rw [tried] at held
      cases held
  have ready : ∀ c, (p.enter flow .injection).result.2 ≠ .waiting c := by
    rw [opened]
    exact fun c waiting => by cases waiting
  obtain ⟨spoken, q, last, response, rfl⟩ := Proxy.after_alone h ready acts
  rw [opened] at spoken last
  exact ⟨spoken.trans (about_self ..), _, last, rfl, rfl, rfl, response, rfl⟩

theorem after_delayed (h : p.InLine) (first : p.state.registry.findFirst? .download = some e)
    {seconds : Number} (held : delaySeconds? e.config.fault = some seconds)
    (passed : (p.pass [(flow, .injection)]).now.elapses (dueAt p.clock seconds) acts = true) :
    let event : Event := ⟨⟨e, p.clock, flow.request.url⟩, none⟩
    about p.passages.length (p.told (injecting flow acts)) = heard p.audience event ∧
      ∃ q, (p.after (injecting flow acts)).passages[p.passages.length]? = some q ∧
        q.finished = true ∧ q.scenario = some e.name ∧
        q.rejection = (match (tell p.audience event).1 with | .ok () => none | .error f => some f) ∧
        ∃ response, q.flow = { flow with response } := by
  intro event
  obtain ⟨spoken, r, q, last, ⟨between, rfl⟩, response, rfl⟩ :=
    Proxy.after_released h (claim?_injection first) held passed
  exact ⟨spoken, _, last, rfl, rfl, rfl, response, rfl⟩

/-- Injections are all or nothing, and never fail, as long as all that is thrown has a text; only
    something without one makes an injection fail. -/
theorem injection_settles_iff {templates : List Scenario.Template} {capacity : Number}
    (reachable : Reachable templates capacity p)
    (first : p.state.registry.findFirst? .download = some e)
    (attentive : ∀ event : Event, event.claim.time = p.clock → (tell p.audience event).1 = .ok ())
    (passed : ∀ seconds, delaySeconds? e.config.fault = some seconds →
      (p.pass [(flow, .injection)]).now.elapses (dueAt p.clock seconds) acts = true) :
    (AllOrNothing p flow e acts ↔ Speakable e.config.fault flow.refusals) ∧
      (¬ Speakable e.config.fault flow.refusals → Mute p flow acts) := by
  have inLine := reachable.inLine
  let claim : Claim := ⟨e, p.clock, flow.request.url⟩
  have hears : ∀ error, heard p.audience ⟨claim, error⟩ = [⟨claim, error⟩] :=
    fun error => heard_ok (attentive _ rfl)
  have clean : Speakable e.config.fault flow.refusals → AllOrNothing p flow e acts := by
    intro speakable
    refine ⟨injection_spends first, Proxy.emitted_told inLine _, ?_⟩
    cases delay : delaySeconds? e.config.fault with
    | none =>
        obtain ⟨error, verdict, told, ending⟩ :=
          settle_clean (fun error => attentive ⟨claim, error⟩ rfl) speakable
        obtain ⟨spoken, q, last, finished, named, rejection, response, carried⟩ :=
          after_tried inLine first delay
        refine ⟨q, ⟨claim, error⟩, _, response, last, finished, named, ?_, ?_, rfl, carried, ending⟩
        · rw [rejection, told]
        · rw [spoken, verdict, Option.toList_some, List.flatMap_singleton]
          exact hears error
    | some seconds =>
        obtain ⟨spoken, q, last, finished, named, rejection, response, carried⟩ :=
          after_delayed inLine first delay (passed seconds delay)
        refine ⟨q, ⟨claim, none⟩, flow, response, last, finished, named, ?_, ?_, rfl, carried,
          delay_clean delay flow⟩
        · rw [rejection, attentive _ rfl]
        · rw [spoken]
          exact hears none
  have mute : ¬ Speakable e.config.fault flow.refusals → Mute p flow acts := by
    intro mute
    -- Waiting throws nothing, so the fault is one that is tried at once.
    have tried : delaySeconds? e.config.fault = none := by
      cases delay : delaySeconds? e.config.fault with
      | none => rfl
      | some seconds =>
          have nothing := (delay_does_nothing delay flow).1
          exact absurd (fun t thrown => by rw [nothing] at thrown; cases thrown) mute
    obtain ⟨verdict, failed⟩ := settle_mute p.audience claim mute
    obtain ⟨spoken, q, last, _, _, rejection, _⟩ :=
      after_tried inLine first tried
    refine ⟨?_, q, last, ?_⟩
    · rw [spoken, verdict]
      rfl
    · rw [rejection, failed]
  refine ⟨⟨?_, clean⟩, mute⟩
  intro settles
  by_contra unspeakable
  obtain ⟨_, q, last, rejected⟩ := mute unspeakable
  obtain ⟨other, _, _, _, found, _, _, accepted, _⟩ := settles.settled
  obtain rfl := Option.some.inj (last.symm.trans found)
  rw [rejected] at accepted
  cases accepted

end

/-- A proxy in which the connection of the next download is to be cut. -/
def cutting (s : State) : Proxy :=
  (Proxy.fresh s none ⟨0⟩ false).after [.command (.enable "cut" .none)]

/-- A flow that gets its answer and then refuses to be cut. -/
def refusingCut : Flow :=
  { sampleDownload with refusals := ⟨none, some (.value (some (.string "no"))), none⟩ }

/-- The answer that such a flow got is taken back, and the reason is told. -/
theorem injection_settles_iff_cut_refused :
    ∃ p e, Reachable sampleTemplates (.ofNat 4) p ∧
      p.state.registry.findFirst? .download = some e ∧
      (∀ event : Event, event.claim.time = p.clock → (tell p.audience event).1 = .ok ()) ∧
      (∀ seconds, delaySeconds? e.config.fault = some seconds →
        (p.pass [(refusingCut, .injection)]).now.elapses (dueAt p.clock seconds) [] = true) ∧
      Speakable e.config.fault refusingCut.refusals ∧ AllOrNothing p refusingCut e [] := by
  let p := cutting ⟨sampleTemplates.map fun t => ⟨t, none⟩, ⟨4, [], 0⟩⟩
  have reachable : Reachable sampleTemplates (.ofNat 4) p := .serving (by decide) (by decide) _ _
  let e : Scenario.Enabled := ⟨"cut", ⟨"Cuts downloads off", .download, .closeConnection⟩⟩
  have first : p.state.registry.findFirst? .download = some e := by decide
  have attentive : ∀ event : Event, event.claim.time = p.clock →
      (tell p.audience event).1 = .ok () := fun _ _ => rfl
  have passed : ∀ seconds, delaySeconds? e.config.fault = some seconds →
      (p.pass [(refusingCut, .injection)]).now.elapses (dueAt p.clock seconds) [] = true := by
    intro seconds delay
    cases delay
  have speakable : Speakable e.config.fault refusingCut.refusals := by
    intro t thrown
    obtain rfl := Option.some.inj thrown
    exact ⟨⟨_, rfl⟩, fun u absurd => by cases absurd⟩
  exact ⟨p, e, reachable, first, attentive, passed, speakable,
    (injection_settles_iff reachable first attentive passed).1.mpr speakable⟩

/-- A flow that refuses its answer with an object whose text nobody can tell. -/
def refusingMutely : Flow :=
  { sampleDownload with
    refusals := ⟨some (.value (some (.object [("toString", .number (.ofNat 1))]))), none, none⟩ }

/-- An injection fails, and is never told of, if what was thrown has no text. -/
theorem injection_fails_without_text :
    ∃ p e, Reachable sampleTemplates (.ofNat 4) p ∧
      p.state.registry.findFirst? .download = some e ∧
      (∀ event : Event, (tell p.audience event).1 = .ok ()) ∧
      delaySeconds? e.config.fault = none ∧ ¬ AllOrNothing p refusingMutely e [] := by
  let p := cutting ⟨sampleTemplates.map fun t => ⟨t, none⟩, ⟨4, [], 0⟩⟩
  have reachable : Reachable sampleTemplates (.ofNat 4) p := .serving (by decide) (by decide) _ _
  let e : Scenario.Enabled := ⟨"cut", ⟨"Cuts downloads off", .download, .closeConnection⟩⟩
  have first : p.state.registry.findFirst? .download = some e := by decide
  have rejected : ((p.after (injecting refusingMutely [])).passages[0]?).map (·.rejection) =
      some (some .noText) := by decide +kernel
  refine ⟨p, e, reachable, first, fun _ => rfl, rfl, ?_⟩
  intro claimed
  obtain ⟨q, _, _, _, found, _, _, accepted, _⟩ := claimed.settled
  have none : p.passages.length = 0 := rfl
  rw [none] at found
  rw [found, Option.map_some, accepted] at rejected
  cases rejected

end Faultline
