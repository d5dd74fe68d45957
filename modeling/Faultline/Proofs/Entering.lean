import Faultline.Proofs.Registry
import Faultline.Proxy.Passing

/-! # What entering a flow does

A flow that enters becomes the last passage, and it may claim the first scenario that waits for
downloads. The claim is spent at once: its slot is empty before the flow has met its fault, so
nothing that comes later can claim it again.
-/

namespace Faultline

open Exchange Injection

/-- Whether a request that enters for a purpose is to meet the faults that wait for downloads. -/
def Purpose.meetsFaults (purpose : Purpose) (r : Request) : Bool :=
  match purpose with
  | .injection => true
  | .hook | .exchange _ => r.operation? == some .download

namespace Proxy

/-- What a flow claims on entering, if a scenario is waiting for it. -/
def claim? (p : Proxy) (flow : Flow) (purpose : Purpose) : Option Claim :=
  if purpose.meetsFaults flow.request then
    (p.state.registry.findFirst? .download).map fun e => ⟨e, p.clock, flow.request.url⟩
  else none

def spend (p : Proxy) (name : String) : Proxy :=
  { p with state := { p.state with registry := p.state.registry.put name none } }

def Opened.claim? : Opened → Option Claim
  | .ready claim _ | .waiting claim => some claim
  | .settled _ => none

/-! ## Injecting -/

theorem inject_cases (p : Proxy) (id : Nat) (flow : Flow) :
    (p.state.registry.findFirst? .download = none ∧
      (inject p id flow).result = .settled (.ok ()) ∧ (inject p id flow).now = p) ∨
    (∃ e, p.state.registry.findFirst? .download = some e ∧ delaySeconds? e.config.fault = none ∧
      (inject p id flow).result =
        .ready ⟨e, p.clock, flow.request.url⟩ (attempt e.config.fault flow) ∧
      (inject p id flow).now = p.spend e.name) ∨
    (∃ e seconds, p.state.registry.findFirst? .download = some e ∧
      delaySeconds? e.config.fault = some seconds ∧
      (inject p id flow).result = .waiting ⟨e, p.clock, flow.request.url⟩ ∧
      (inject p id flow).now =
        { p.spend e.name with
          suspended :=
            enqueue ⟨dueAt p.clock seconds, id, ⟨e, p.clock, flow.request.url⟩⟩ p.suspended }) := by
  cases first : p.state.registry.findFirst? .download with
  | none =>
      left
      simp [inject, withState, begin, State.claim, Scenario.Registry.claimFirst?, first]
  | some e =>
      right
      cases delay : delaySeconds? e.config.fault with
      | none =>
          left
          refine ⟨e, rfl, delay, ?_⟩
          simp [inject, withState, begin, State.claim, Scenario.Registry.claimFirst?, first, delay,
            spend]
      | some seconds =>
          right
          refine ⟨e, seconds, rfl, delay, ?_⟩
          simp [inject, withState, begin, State.claim, Scenario.Registry.claimFirst?, first, delay,
            spend]

/-- The start of an injection is not told as an event; that comes when it is settled. -/
@[simp] theorem inject_events (p : Proxy) (id : Nat) (flow : Flow) :
    (inject p id flow).events = [] := by
  cases first : p.state.registry.findFirst? .download with
  | none =>
      simp [inject, withState, begin, State.claim, Scenario.Registry.claimFirst?, first,
        Done.events, Done.nothing]
  | some e =>
      cases delay : delaySeconds? e.config.fault with
      | none =>
          simp [inject, withState, begin, State.claim, Scenario.Registry.claimFirst?, first, delay,
            Done.events, Done.nothing, Notice.line, State.registryLine, Notice.event?]
      | some seconds =>
          simp [inject, withState, begin, State.claim, Scenario.Registry.claimFirst?, first, delay,
            Done.events, Done.nothing, Notice.line, State.registryLine, Notice.event?]

end Proxy

/-! ## Recording -/

namespace Call.Recorder

theorem caught_events (direction : Direction) (payload : ByteArray) (t : Thrown) :
    (caught direction payload t).2.filterMap Notice.event? = [] := by
  unfold caught
  split <;> rfl

theorem decode_events (d : Option Decoder) (direction : Direction) (payload : ByteArray) :
    (decode d direction payload).2.filterMap Notice.event? = [] := by
  unfold decode
  split
  · rfl
  · split
    · rfl
    · dsimp only
      split
      · exact caught_events direction payload _
      · rfl
      · split
        · exact caught_events direction payload _
        · rfl

/-- Recording a call leaves the state alone or appends one record to its history. -/
theorem recordThrift_cases (s : State) (d : Option Decoder) (now : Instant) (payload : ByteArray) :
    (recordThrift s d now payload).now = s ∨
      ∃ r, (recordThrift s d now payload).now = s.append r := by
  unfold recordThrift
  dsimp only
  split
  · exact .inl rfl
  · exact .inl rfl
  · exact .inr ⟨_, rfl⟩

theorem recordThrift_registry (s : State) (d : Option Decoder) (now : Instant)
    (payload : ByteArray) : (recordThrift s d now payload).now.registry = s.registry := by
  rcases recordThrift_cases s d now payload with same | ⟨r, appended⟩
  · rw [same]
  · rw [appended]
    rfl

theorem recordThrift_events (s : State) (d : Option Decoder) (now : Instant)
    (payload : ByteArray) : (recordThrift s d now payload).events = [] := by
  have quiet := decode_events d .request payload
  unfold recordThrift Done.events
  dsimp only
  split
  · exact quiet
  · exact quiet
  · rw [List.filterMap_append, quiet]
    rfl

end Call.Recorder

namespace Proxy

/-- What is recorded on entering, before anything is claimed. -/
def recordedState (p : Proxy) (r : Request) : State :=
  match r.operation? with
  | some .download => p.state.append (.download p.clock r.url)
  | some .thriftCall => (Call.Recorder.recordThrift p.state p.decoder p.clock r.body).now
  | none => p.state

/-- The state in which a flow finds the scenarios on entering. -/
def enteredState (p : Proxy) (flow : Flow) : Purpose → State
  | .injection => p.state
  | .hook | .exchange _ => p.recordedState flow.request

@[simp] theorem enteredState_registry (p : Proxy) (flow : Flow) (purpose : Purpose) :
    (p.enteredState flow purpose).registry = p.state.registry := by
  have recorded : (p.recordedState flow.request).registry = p.state.registry := by
    unfold recordedState
    split
    · rfl
    · exact Call.Recorder.recordThrift_registry ..
    · rfl
  cases purpose with
  | injection => rfl
  | hook => exact recorded
  | exchange errand => exact recorded

/-- The proxy with one more passage, its flow recorded, before anything is claimed. -/
def entered (p : Proxy) (flow : Flow) (purpose : Purpose) : Proxy :=
  { p with
    state := p.enteredState flow purpose
    passages := p.passages ++ [⟨flow, purpose, none, none, false, none⟩] }

/-! ## The request hook -/

theorem runHook_download (p : Proxy) (id : Nat) (flow : Flow)
    (h : flow.request.operation? = some .download) :
    (runHook p id flow).result =
        (inject { p with state := p.recordedState flow.request } id flow).result ∧
      (runHook p id flow).now =
        (inject { p with state := p.recordedState flow.request } id flow).now ∧
      (runHook p id flow).events = [] := by
  refine ⟨?_, ?_, ?_⟩
  · simp only [runHook, h, recordedState]
    rfl
  · simp only [runHook, h, recordedState]
    rfl
  · simp only [runHook, h, Done.events_andThen, inject_events, List.append_nil]
    rfl

theorem runHook_other (p : Proxy) (id : Nat) (flow : Flow)
    (h : flow.request.operation? ≠ some .download) :
    (∃ r, (runHook p id flow).result = .settled r) ∧
      (runHook p id flow).now = { p with state := p.recordedState flow.request } ∧
      (runHook p id flow).events = [] := by
  cases kind : flow.request.operation? with
  | none => simp [runHook, kind, recordedState]
  | some op =>
      cases op with
      | download => exact absurd kind h
      | thriftCall =>
          refine ⟨⟨_, by simp only [runHook, kind]; rfl⟩, ?_, ?_⟩
          · simp [runHook, kind, recordedState, withState]
          · simp only [runHook, kind, Done.events_map]
            exact Call.Recorder.recordThrift_events ..

/-! ## Entering -/

theorem enter_injects (p : Proxy) (flow : Flow) (purpose : Purpose)
    (h : purpose.meetsFaults flow.request = true) :
    (p.enter flow purpose).result =
        (p.passages.length, (inject (p.entered flow purpose) p.passages.length flow).result) ∧
      (p.enter flow purpose).now = (inject (p.entered flow purpose) p.passages.length flow).now ∧
      (p.enter flow purpose).events = [] := by
  let admitted : Proxy :=
    { p with passages := p.passages ++ [⟨flow, purpose, none, none, false, none⟩] }
  cases purpose with
  | injection => exact ⟨rfl, rfl, inject_events admitted p.passages.length flow⟩
  | hook | exchange =>
      have kind : flow.request.operation? = some .download := by
        simpa [Purpose.meetsFaults] using h
      obtain ⟨result, now, events⟩ := runHook_download admitted p.passages.length flow kind
      exact ⟨congrArg (Prod.mk p.passages.length) result, now, events⟩

theorem enter_passes (p : Proxy) (flow : Flow) (purpose : Purpose)
    (h : purpose.meetsFaults flow.request = false) :
    (∃ r, (p.enter flow purpose).result = (p.passages.length, .settled r)) ∧
      (p.enter flow purpose).now = p.entered flow purpose ∧
      (p.enter flow purpose).events = [] := by
  let admitted : Proxy :=
    { p with passages := p.passages ++ [⟨flow, purpose, none, none, false, none⟩] }
  cases purpose with
  | injection => simp [Purpose.meetsFaults] at h
  | hook | exchange =>
      have kind : flow.request.operation? ≠ some .download := by
        simpa [Purpose.meetsFaults] using h
      obtain ⟨⟨r, result⟩, now, events⟩ := runHook_other admitted p.passages.length flow kind
      exact ⟨⟨r, congrArg (Prod.mk p.passages.length) result⟩, now, events⟩

@[simp] theorem enter_events (p : Proxy) (flow : Flow) (purpose : Purpose) :
    (p.enter flow purpose).events = [] := by
  cases meets : purpose.meetsFaults flow.request with
  | false => exact (p.enter_passes flow purpose meets).2.2
  | true => exact (p.enter_injects flow purpose meets).2.2

/-- All that entering can come to: nothing is claimed; or a scenario is spent and its fault tried;
    or a scenario is spent and the flow held back. -/
theorem enter_cases (p : Proxy) (flow : Flow) (purpose : Purpose) :
    (p.claim? flow purpose = none ∧
      (∃ r, (p.enter flow purpose).result = (p.passages.length, .settled r)) ∧
      (p.enter flow purpose).now = p.entered flow purpose) ∨
    (∃ claim, p.claim? flow purpose = some claim ∧
      delaySeconds? claim.scenario.config.fault = none ∧
      (p.enter flow purpose).result =
        (p.passages.length, .ready claim (attempt claim.scenario.config.fault flow)) ∧
      (p.enter flow purpose).now = (p.entered flow purpose).spend claim.scenario.name) ∨
    (∃ claim seconds, p.claim? flow purpose = some claim ∧
      delaySeconds? claim.scenario.config.fault = some seconds ∧
      (p.enter flow purpose).result = (p.passages.length, .waiting claim) ∧
      (p.enter flow purpose).now =
        { (p.entered flow purpose).spend claim.scenario.name with
          suspended :=
            enqueue ⟨dueAt p.clock seconds, p.passages.length, claim⟩ p.suspended }) := by
  cases meets : purpose.meetsFaults flow.request with
  | false =>
      left
      obtain ⟨result, now, _⟩ := p.enter_passes flow purpose meets
      exact ⟨by simp [claim?, meets], result, now⟩
  | true =>
      obtain ⟨result, now, _⟩ := p.enter_injects flow purpose meets
      have registry : (p.entered flow purpose).state.registry = p.state.registry :=
        p.enteredState_registry flow purpose
      rcases inject_cases (p.entered flow purpose) p.passages.length flow with
        ⟨none, settled, same⟩ | ⟨e, first, tried, ready, spent⟩ | ⟨e, s, first, held, waits, spent⟩
      · left
        rw [registry] at none
        exact ⟨by simp [claim?, none], ⟨_, by rw [result, settled]⟩, by rw [now, same]⟩
      · right; left
        rw [registry] at first
        exact ⟨⟨e, p.clock, flow.request.url⟩, by simp [claim?, meets, first], tried,
          by rw [result, ready]; rfl, by rw [now, spent]⟩
      · right; right
        rw [registry] at first
        exact ⟨⟨e, p.clock, flow.request.url⟩, s, by simp [claim?, meets, first], held,
          by rw [result, waits]; rfl, by rw [now, spent]; rfl⟩

/-- Only a flow that has claimed a delay is held back. -/
theorem enter_waiting {p : Proxy} {flow : Flow} {purpose : Purpose} {claim : Claim}
    (h : (p.enter flow purpose).result.2 = .waiting claim) :
    p.claim? flow purpose = some claim ∧
      ∃ seconds, delaySeconds? claim.scenario.config.fault = some seconds := by
  rcases p.enter_cases flow purpose with
    ⟨_, ⟨_, result⟩, _⟩ | ⟨_, _, _, result, _⟩ | ⟨c, seconds, claimed, held, result, _⟩
  · rw [result] at h
    cases h
  · rw [result] at h
    cases h
  · rw [result] at h
    obtain rfl := Opened.waiting.inj h
    exact ⟨claimed, seconds, held⟩

/-! What entering does to the single parts of a proxy. -/

section
variable (p : Proxy) (flow : Flow) (purpose : Purpose)

@[simp] theorem enter_id : (p.enter flow purpose).result.1 = p.passages.length := rfl

@[simp] theorem enter_claim? :
    (p.enter flow purpose).result.2.claim? = p.claim? flow purpose := by
  rcases p.enter_cases flow purpose with
    ⟨none, ⟨r, result⟩, _⟩ | ⟨c, claimed, _, result, _⟩ | ⟨c, _, claimed, _, result, _⟩
  · rw [result, none]; rfl
  · rw [result, claimed]; rfl
  · rw [result, claimed]; rfl

@[simp] theorem enter_passages :
    (p.enter flow purpose).now.passages =
      p.passages ++ [⟨flow, purpose, none, none, false, none⟩] := by
  rcases p.enter_cases flow purpose with ⟨_, _, now⟩ | ⟨_, _, _, _, now⟩ | ⟨_, _, _, _, _, now⟩ <;>
    rw [now] <;> rfl

@[simp] theorem enter_clock : (p.enter flow purpose).now.clock = p.clock := by
  rcases p.enter_cases flow purpose with ⟨_, _, now⟩ | ⟨_, _, _, _, now⟩ | ⟨_, _, _, _, _, now⟩ <;>
    rw [now] <;> rfl

@[simp] theorem enter_decoder : (p.enter flow purpose).now.decoder = p.decoder := by
  rcases p.enter_cases flow purpose with ⟨_, _, now⟩ | ⟨_, _, _, _, now⟩ | ⟨_, _, _, _, _, now⟩ <;>
    rw [now] <;> rfl

@[simp] theorem enter_audience : (p.enter flow purpose).now.audience = p.audience := by
  rcases p.enter_cases flow purpose with ⟨_, _, now⟩ | ⟨_, _, _, _, now⟩ | ⟨_, _, _, _, _, now⟩ <;>
    rw [now] <;> rfl

@[simp] theorem enter_history :
    (p.enter flow purpose).now.state.history = (p.enteredState flow purpose).history := by
  rcases p.enter_cases flow purpose with ⟨_, _, now⟩ | ⟨_, _, _, _, now⟩ | ⟨_, _, _, _, _, now⟩ <;>
    rw [now] <;> rfl

theorem enter_registry :
    (p.enter flow purpose).now.state.registry =
      match p.claim? flow purpose with
      | none => p.state.registry
      | some claim => p.state.registry.put claim.scenario.name none := by
  have registry := p.enteredState_registry flow purpose
  rcases p.enter_cases flow purpose with
    ⟨none, _, now⟩ | ⟨c, claimed, _, _, now⟩ | ⟨c, _, claimed, _, _, now⟩
  · rw [now, none]
    exact registry
  · rw [now, claimed]
    exact congrArg (·.put c.scenario.name Option.none) registry
  · rw [now, claimed]
    exact congrArg (·.put c.scenario.name Option.none) registry

end

end Proxy

end Faultline
