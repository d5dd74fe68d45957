import Faultline.Proofs.Arrivals
import Faultline.Proofs.Atomicity
import Faultline.Proofs.Evidence

/-! # What is enough to know

To tell how a flow is opened it is enough to know the decoder and what the flow claims
(`enter_opened`), and to tell what a request is answered it is enough to know the replies to calls
(`serve_same`). Two proxies that agree on these can differ in all the rest, and nobody sees it.
-/

namespace Faultline

open Exchange Injection

/-! ## Opening -/

/-- What comes of recording a request: nothing, unless a decoder throws what has no text. -/
def Exchange.Request.recording (r : Request) (decoder : Option Call.Decoder) :
    Except Failure Unit :=
  match r.operation? with
  | some .thriftCall => (Call.Recorder.decode decoder .request r.body).1.map fun _ => ()
  | some .download | none => .ok ()

namespace Proxy

/-- How a flow with this claim is opened. -/
def openedWith (decoder : Option Call.Decoder) (flow : Flow) (purpose : Purpose) :
    Option Claim → Opened
  | none => .settled (if purpose.isHooked then flow.request.recording decoder else .ok ())
  | some claim =>
    match delaySeconds? claim.scenario.config.fault with
    | none => .ready claim (attempt claim.scenario.config.fault flow)
    | some _ => .waiting claim

theorem recordThrift_result (s : State) (d : Option Call.Decoder) (now : Instant)
    (payload : ByteArray) :
    (Call.Recorder.recordThrift s d now payload).result.map (fun _ => ()) =
      (Call.Recorder.decode d .request payload).1.map fun _ => () := by
  simp only [Call.Recorder.recordThrift]
  cases (Call.Recorder.decode d .request payload).1 with
  | error f => rfl
  | ok message => cases message <;> rfl

theorem runHook_unclaimed {p : Proxy} (id : Nat) {flow : Flow}
    (h : flow.request.operation? = some .download →
      p.state.registry.findFirst? .download = none) :
    (runHook p id flow).result = .settled (flow.request.recording p.decoder) := by
  cases kind : flow.request.operation? with
  | none => simp [runHook, kind, Request.recording]
  | some op =>
      cases op with
      | thriftCall =>
          simp only [runHook, kind, Request.recording, Done.map_result]
          exact congrArg Opened.settled (recordThrift_result ..)
      | download =>
          obtain ⟨result, _, _⟩ := runHook_download p id flow kind
          rw [result, Request.recording, kind]
          have registry : (p.recordedState flow.request).registry = p.state.registry :=
            p.enteredState_registry flow .hook
          rcases inject_cases { p with state := p.recordedState flow.request } id flow with
            ⟨_, settled, _⟩ | ⟨e, first, _⟩ | ⟨e, _, first, _⟩
          · exact settled
          · rw [registry, h kind] at first
            cases first
          · rw [registry, h kind] at first
            cases first

section
variable (p : Proxy) (flow : Flow) (purpose : Purpose)

theorem enter_unclaimed (h : p.claim? flow purpose = none) :
    (p.enter flow purpose).result.2 = openedWith p.decoder flow purpose none := by
  let admitted : Proxy :=
    { p with passages := p.passages ++ [⟨flow, purpose, none, none, false, none⟩] }
  cases purpose with
  | injection =>
      have nobody : p.state.registry.findFirst? .download = none :=
        Option.map_eq_none_iff.mp h
      rcases inject_cases admitted p.passages.length flow with
        ⟨_, settled, _⟩ | ⟨e, first, _⟩ | ⟨e, _, first, _⟩
      · exact settled
      · exact absurd (nobody.symm.trans first) nofun
      · exact absurd (nobody.symm.trans first) nofun
  | hook | exchange =>
      refine runHook_unclaimed (p := admitted) p.passages.length fun kind => ?_
      simpa [claim?, Purpose.meetsFaults, kind] using h

/-- A flow is opened by what it claims. -/
theorem enter_opened :
    (p.enter flow purpose).result =
      (p.passages.length, openedWith p.decoder flow purpose (p.claim? flow purpose)) := by
  rcases p.enter_cases flow purpose with
    ⟨none, _, _⟩ | ⟨claim, claimed, tried, result, _⟩ | ⟨claim, seconds, claimed, held, result, _⟩
  · rw [none]
    exact Prod.ext rfl (p.enter_unclaimed flow purpose none)
  · rw [result, claimed, openedWith, tried]
  · rw [result, claimed, openedWith, held]

/-- Only a flow that is held back joins the line. -/
theorem enter_suspended :
    (p.enter flow purpose).now.suspended =
      match Arrival.suspension? ⟨p, flow, purpose⟩ with
      | none => p.suspended
      | some s => enqueue s p.suspended := by
  unfold Arrival.suspension? Arrival.claim?
  rcases p.enter_cases flow purpose with
    ⟨none, _, now⟩ | ⟨claim, claimed, tried, _, now⟩ | ⟨claim, seconds, claimed, held, _, now⟩
  · rw [now, none]
    rfl
  · rw [now, claimed, Option.bind_some, tried]
    rfl
  · rw [now, claimed, Option.bind_some, held]
    rfl

theorem mem_enter_suspended {s : Suspension} (h : s ∈ (p.enter flow purpose).now.suspended) :
    s ∈ p.suspended ∨
      s.passage = p.passages.length ∧ (Arrival.suspension? ⟨p, flow, purpose⟩).isSome := by
  rw [enter_suspended] at h
  cases delayed : Arrival.suspension? ⟨p, flow, purpose⟩ with
  | none =>
      rw [delayed] at h
      exact .inl h
  | some own =>
      rw [delayed] at h
      rcases mem_enqueue.mp h with rfl | earlier
      · exact .inr ⟨(Arrival.enter_held delayed).2.1, rfl⟩
      · exact .inl earlier

end

/-! ## Arrivals and their places -/

theorem openAll_entered (p : Proxy) (flows : List (Flow × Purpose)) :
    (p.openAll flows).result = (p.openArrivals flows).map Arrival.entered := by
  induction flows generalizing p with
  | nil => rfl
  | cons x rest ih => exact congrArg ((p.enter x.1 x.2).result :: ·) (ih _)

theorem openArrivals_places (p : Proxy) (flows : List (Flow × Purpose)) :
    (p.openArrivals flows).map Arrival.place = List.range' p.passages.length flows.length := by
  rw [← p.openAll_ids flows, openAll_entered, List.map_map]
  rfl

theorem arrivals_places (p : Proxy) (acts : List Act) :
    (p.arrivals acts).map Arrival.place =
      List.range' p.passages.length (p.arrivals acts).length := by
  induction acts generalizing p with
  | nil => rfl
  | cons a rest ih =>
      have size : (p.openArrivals a.flows).length = a.flows.length := by
        simpa using congrArg List.length (p.openArrivals_places a.flows)
      rw [arrivals, List.map_append, openArrivals_places, ih, a.perform_length p,
        List.length_append, size, List.range'_append_1]

/-- No two flows of a run get the same place. -/
theorem arrival_unique {p : Proxy} {acts : List Act} {e f : Arrival} (first : e ∈ p.arrivals acts)
    (second : f ∈ p.arrivals acts) (same : e.place = f.place) : e = f := by
  have distinct : ((p.arrivals acts).map Arrival.place).Nodup := by
    rw [arrivals_places]
    exact List.nodup_range'
  exact List.inj_on_of_nodup_map distinct first second same

end Proxy

/-! ## Who is due -/

namespace Proxy

/-- Those who are due are at the front of the line. -/
theorem takeWhile_due {line : List Suspension}
    (ordered : line.Pairwise fun s t => s.due.ms ≤ t.due.ms) (target : Instant) :
    line.takeWhile (fun s => s.due.ms ≤ target.ms) =
        line.filter (fun s => s.due.ms ≤ target.ms) ∧
      line.dropWhile (fun s => s.due.ms ≤ target.ms) =
        line.filter (fun s => !decide (s.due.ms ≤ target.ms)) := by
  induction line with
  | nil => exact ⟨rfl, rfl⟩
  | cons t rest ih =>
      obtain ⟨first, orderedRest⟩ := List.pairwise_cons.mp ordered
      by_cases due : t.due.ms ≤ target.ms
      · obtain ⟨taken, dropped⟩ := ih orderedRest
        simp [due, taken, dropped]
      · have late : ∀ u ∈ rest, ¬ u.due.ms ≤ target.ms := by
          intro u member
          have := first u member
          omega
        have nobody : rest.filter (fun s => decide (s.due.ms ≤ target.ms)) = [] :=
          List.filter_eq_nil_iff.mpr fun u member => by simpa using late u member
        have everybody : rest.filter (fun s => !decide (s.due.ms ≤ target.ms)) = rest :=
          List.filter_eq_self.mpr fun u member => by simpa using late u member
        simp [due, nobody, everybody]

end Proxy

namespace Act

variable {p : Proxy} (a : Act)

theorem resumes_filter (h : p.InLine) :
    a.resumes p = p.suspended.filter fun s => a.reaches p s.due := by
  cases a with
  | advance ms => exact (Proxy.takeWhile_due h.ordered (p.clock.after ms)).1
  | command | request | pass | exchange | receive => exact (List.filter_false _).symm

/-- Who goes on waiting is whoever has come in and is not due. -/
theorem perform_suspended_filter (h : p.InLine) :
    (a.perform p).now.suspended =
      (p.openAll a.flows).now.suspended.filter fun s => !a.reaches p s.due := by
  have line := a.perform_suspended p
  cases a with
  | advance ms =>
      rw [perform, Done.map_now, Proxy.advance_suspended]
      exact (Proxy.takeWhile_due h.ordered (p.clock.after ms)).2
  | command | request | pass | exchange | receive =>
      exact line.symm.trans (List.filter_true _).symm

end Act

/-! ## The start of the program -/

namespace Proxy

theorem enter_started (p : Proxy) (flow : Flow) (purpose : Purpose) :
    (p.enter flow purpose).now.started = p.started := by
  rcases p.enter_cases flow purpose with ⟨_, _, now⟩ | ⟨_, _, _, _, now⟩ | ⟨_, _, _, _, _, now⟩ <;>
    rw [now] <;> rfl

theorem openAll_started (p : Proxy) (flows : List (Flow × Purpose)) :
    (p.openAll flows).now.started = p.started := by
  induction flows generalizing p with
  | nil => rfl
  | cons x rest ih => exact (ih (p.enter x.1 x.2).now).trans (p.enter_started x.1 x.2)

end Proxy

theorem Act.perform_started (a : Act) (p : Proxy) : (a.perform p).now.started = p.started := by
  have passed : ∀ flows, (p.pass flows).now.started = p.started :=
    fun flows => (p.pass_only flows).started.trans (p.openAll_started flows)
  cases a with
  | command | request => rfl
  | pass flows => exact passed flows
  | exchange target r =>
      simp only [perform, Done.map_now, Proxy.exchange_now]
      exact passed _
  | receive id response => exact (p.receive_only id response).started
  | advance ms => exact (p.advance_keeps ms).started

/-! ## Answers -/

namespace Control

def Reply.mapBody (f : Json → Json) (r : Reply) : Reply := { r with body := f r.body }

/-- The response with its document changed, if it has one. -/
def HttpResponse.mapJson (f : Json → Json) (a : HttpResponse) : HttpResponse :=
  { a with
    content := match a.content with
      | .json v => .json (f v)
      | .text s => .text s
      | .empty => .empty }

@[simp] theorem HttpResponse.mapJson_id (a : HttpResponse) : a.mapJson id = a := by
  obtain ⟨status, headers, content⟩ := a
  cases content <;> rfl

theorem HttpResponse.mapJson_forMethod (f : Json → Json) (a : HttpResponse) (method : String) :
    (a.forMethod method).mapJson f = (a.mapJson f).forMethod method := by
  unfold forMethod
  split <;> rfl

theorem replyOf_mapBody {f : Json → Json} {x y : Except Failure Reply}
    (same : x.map (Reply.mapBody f) = y.map (Reply.mapBody f)) :
    (replyOf x).mapBody f = (replyOf y).mapBody f := by
  cases x with
  | error a =>
      cases y with
      | error b => rw [Except.error.inj same]
      | ok b => cases same
  | ok a =>
      cases y with
      | error b => cases same
      | ok b => exact Except.ok.inj same

namespace Interface

variable (i : Interface) {g : Setting} {f : Json → Json} {s t : State}

theorem draft_alike
    (same : ∀ c, (answer g s c).result.map (Reply.mapBody f) =
      (answer g t c).result.map (Reply.mapBody f))
    (headers : List (String × String)) (r : HttpRequest) (place : Place) :
    (i.draft g s headers r place).result.response.mapJson f =
      (i.draft g t headers r place).result.response.mapJson f := by
  unfold draft
  cases i.read r.headers r.body with
  | error refusal => rfl
  | ok body =>
      dsimp only
      cases plan r.method place (some body) with
      | call c inner =>
          simp only [answerCall_response]
          exact congrArg (HttpResponse.ofReply headers) (replyOf_mapBody (same c))
      | options | broken | unknown => rfl

/-- Two states whose replies to every call differ by what is overlooked answer every request without
    conditions alike but for that. -/
theorem serve_alike
    (same : ∀ c, (answer g s c).result.map (Reply.mapBody f) =
      (answer g t c).result.map (Reply.mapBody f))
    (fresh : String) {r : HttpRequest} (unconditional : r.isConditional = false) :
    (i.serve g fresh s r).result.mapJson f = (i.serve g fresh t r).result.mapJson f := by
  unfold serve
  split
  · rfl
  · unfold serveAt
    dsimp only
    split
    · rfl
    · simp only [i.sent_unconditional unconditional, HttpResponse.mapJson_forMethod,
        i.draft_alike same]

/-- Two states that reply alike to every call answer every request alike. -/
theorem serve_same (same : ∀ c, (answer g s c).result = (answer g t c).result) (fresh : String)
    (r : HttpRequest) : (i.serve g fresh s r).result = (i.serve g fresh t r).result := by
  have drafted : ∀ headers place, (i.draft g s headers r place).result.response =
      (i.draft g t headers r place).result.response := by
    intro headers place
    have whole := i.draft_alike (fun c => congrArg (Except.map (Reply.mapBody id)) (same c)) headers
      r place
    rwa [HttpResponse.mapJson_id, HttpResponse.mapJson_id] at whole
  unfold serve
  split
  · rfl
  · unfold serveAt
    dsimp only
    split
    · rfl
    · exact congrArg (i.sent r) (drafted ..)

end Interface

end Control

end Faultline
