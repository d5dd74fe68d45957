import Faultline.Proofs.Following

/-! # What comes of the flows of a run

A run lets flows in, one after the other, and each finds the proxy as the one before has left it.
What comes of a flow is settled when it comes in, unless it is held back: then it waits until the
clock has reached the end of its delay, and goes on as it came.
-/

namespace Faultline

open Exchange Injection

/-- A flow that comes in, and the proxy as it finds it. -/
structure Arrival where
  found : Proxy
  flow : Flow
  purpose : Purpose

namespace Arrival

variable (e : Arrival)

/-- The place of the flow among the passages. -/
def place : Nat := e.found.passages.length

def entered : Nat × Proxy.Opened := (e.found.enter e.flow e.purpose).result

def claim? : Option Claim := e.found.claim? e.flow e.purpose

def meetsFaults : Bool := e.purpose.meetsFaults e.flow.request

theorem entered_claim? : e.entered.2.claim? = e.claim? := e.found.enter_claim? e.flow e.purpose

/-- The suspension of the flow, if it is held back. -/
def suspension? : Option Suspension :=
  e.claim?.bind fun claim =>
    (delaySeconds? claim.scenario.config.fault).map (e.found.suspension claim)

end Arrival

namespace Proxy

def openArrivals (p : Proxy) : List (Flow × Purpose) → List Arrival
  | [] => []
  | (flow, purpose) :: rest => ⟨p, flow, purpose⟩ :: (p.enter flow purpose).now.openArrivals rest

/-- The flows that come in during a run, in their order. -/
def arrivals (p : Proxy) : List Act → List Arrival
  | [] => []
  | a :: rest => p.openArrivals a.flows ++ (a.perform p).now.arrivals rest

/-! ## Closing -/

theorem contact_flow (d : Option Call.Decoder) (flow : Flow) (target path : String) (b : Backend) :
    ∃ response, (contact d flow target path b).now = { flow with response } := by
  unfold contact
  cases b with
  | responds status contentType chunks known =>
      dsimp only
      split
      · exact ⟨_, rfl⟩
      · exact ⟨flow.response, rfl⟩
  | fails error stage => cases stage <;> exact ⟨flow.response, rfl⟩

/-- All that an ending can do to a flow is to give it a response. -/
theorem conclude_flow (d : Option Call.Decoder) (flow : Flow) (errand : Errand) :
    ∃ response, (conclude d flow errand).now = { flow with response } := by
  unfold conclude
  split
  · exact ⟨flow.response, rfl⟩
  · split
    · split <;> exact ⟨flow.response, rfl⟩
    · split
      · exact ⟨flow.response, rfl⟩
      · exact contact_flow ..

theorem closePassage_closed (d : Option Call.Decoder) (q : Passage) (s : Settled) :
    (closePassage d q s).now.finished = true ∧
      (closePassage d q s).now.scenario = s.claim.map (·.scenario.name) ∧
      ∃ response, (closePassage d q s).now.flow = { q.flow with response } := by
  unfold closePassage
  cases q.purpose with
  | injection | hook => exact ⟨rfl, rfl, q.flow.response, rfl⟩
  | exchange errand => exact ⟨rfl, rfl, conclude_flow d q.flow errand⟩

/-- Nobody who asked for an injection is told of a failure if there was none. -/
theorem closePassage_resolved (d : Option Call.Decoder) {q : Passage} (fresh : q.rejection = none)
    {s : Settled} (settled : s.result = .ok ()) : (closePassage d q s).now.rejection = none := by
  unfold closePassage
  cases q.purpose with
  | injection => simp only [settled, Done.nothing_now]
  | hook | exchange => exact fresh

/-! ## Finding an arrival in its run -/

theorem openAll_append (p : Proxy) (flows more : List (Flow × Purpose)) :
    (p.openAll (flows ++ more)).result =
        (p.openAll flows).result ++ ((p.openAll flows).now.openAll more).result ∧
      (p.openAll (flows ++ more)).now = ((p.openAll flows).now.openAll more).now := by
  induction flows generalizing p with
  | nil => exact ⟨rfl, rfl⟩
  | cons x rest ih =>
      obtain ⟨result, now⟩ := ih (p.enter x.1 x.2).now
      exact ⟨congrArg ((p.enter x.1 x.2).result :: ·) result, now⟩

theorem mem_openArrivals {p : Proxy} {flows : List (Flow × Purpose)} {e : Arrival}
    (h : e ∈ p.openArrivals flows) :
    ∃ ahead more, flows = ahead ++ (e.flow, e.purpose) :: more ∧
      e.found = (p.openAll ahead).now := by
  induction flows generalizing p with
  | nil => cases h
  | cons x rest ih =>
      rcases List.mem_cons.mp h with rfl | later
      · exact ⟨[], rest, rfl, rfl⟩
      · obtain ⟨ahead, more, rfl, found⟩ := ih later
        exact ⟨x :: ahead, more, rfl, found⟩

theorem mem_arrivals {p : Proxy} {acts : List Act} {e : Arrival} (h : e ∈ p.arrivals acts) :
    ∃ before a behind, acts = before ++ a :: behind ∧
      e ∈ (p.after before).openArrivals a.flows := by
  induction acts generalizing p with
  | nil => cases h
  | cons a rest ih =>
      rcases List.mem_append.mp h with first | later
      · exact ⟨[], a, rest, rfl, first⟩
      · obtain ⟨before, b, behind, rfl, member⟩ := ih later
        exact ⟨a :: before, b, behind, rfl, member⟩

theorem told_append (p : Proxy) (acts more : List Act) :
    p.told (acts ++ more) = p.told acts ++ (p.after acts).told more := by
  induction acts generalizing p with
  | nil => rfl
  | cons a rest ih =>
      rw [List.cons_append, told, told, ih, List.append_assoc]
      rfl

end Proxy

/-! ## Places -/

/-- Something is heard only of flows that have come in. -/
theorem Act.told_inside {p : Proxy} (h : p.InLine) (a : Act) {x : Nat × Event}
    (told : x ∈ a.told p) : x.1 < (a.perform p).now.passages.length := by
  rw [a.perform_length p]
  rcases List.mem_append.mp told with opened | resumed
  · obtain ⟨⟨id, o⟩, among, heard⟩ := List.mem_flatMap.mp opened
    have inside : id ∈ List.range' p.passages.length a.flows.length := by
      rw [← p.openAll_ids a.flows]
      exact List.mem_map.mpr ⟨_, among, rfl⟩
    have place : x.1 = id := Proxy.openedHeard_place heard
    rw [List.mem_range'_1] at inside
    omega
  · obtain ⟨s, among, heard⟩ := List.mem_flatMap.mp resumed
    obtain ⟨_, _, rfl⟩ := List.mem_map.mp heard
    have := h.placed s ((a.mem_resumes h).mp among).1
    dsimp only
    omega

namespace Proxy

theorem told_inside {p : Proxy} (h : p.InLine) {acts : List Act} {x : Nat × Event}
    (told : x ∈ p.told acts) : x.1 < (p.after acts).passages.length := by
  induction acts generalizing p with
  | nil => cases told
  | cons a rest ih =>
      rcases List.mem_append.mp told with now | later
      · have inside := a.told_inside h now
        have longer : (a.perform p).now.passages.length ≤ (p.after (a :: rest)).passages.length :=
          after_length (a.perform p).now rest
        omega
      · exact ih (a.perform_inLine h) later

end Proxy

/-! ## Entering -/

namespace Arrival

variable {e : Arrival}

theorem enter_held {s : Suspension} (h : e.suspension? = some s) :
    e.claim? = some s.claim ∧ s.passage = e.place ∧ e.entered = (e.place, .waiting s.claim) ∧
      s ∈ (e.found.enter e.flow e.purpose).now.suspended := by
  obtain ⟨claim, claimed, delayed⟩ := Option.bind_eq_some_iff.mp h
  obtain ⟨seconds, held, rfl⟩ := Option.map_eq_some_iff.mp delayed
  refine ⟨claimed, rfl, ?_⟩
  rcases e.found.enter_cases e.flow e.purpose with
    ⟨none, _, _⟩ | ⟨other, same, tried, _, _⟩ | ⟨other, long, same, delay, result, now⟩
  · rw [claim?, none] at claimed
    cases claimed
  · obtain rfl := Option.some.inj (claimed.symm.trans same)
    rw [held] at tried
    cases tried
  · obtain rfl := Option.some.inj (claimed.symm.trans same)
    obtain rfl := Option.some.inj (held.symm.trans delay)
    refine ⟨result, ?_⟩
    rw [now]
    exact Proxy.mem_enqueue.mpr (.inl rfl)

theorem enter_unheld (h : e.suspension? = none) :
    (∀ claim, e.entered.2 ≠ .waiting claim) ∧
      (e.found.enter e.flow e.purpose).now.suspended = e.found.suspended := by
  unfold entered
  rcases e.found.enter_cases e.flow e.purpose with
    ⟨_, ⟨_, result⟩, now⟩ | ⟨_, _, _, result, now⟩ | ⟨claim, seconds, claimed, delay, _, _⟩
  · rw [result, now]
    exact ⟨nofun, rfl⟩
  · rw [result, now]
    exact ⟨nofun, rfl⟩
  · have held : e.suspension? = some (e.found.suspension claim seconds) := by
      rw [suspension?, claim?, claimed, Option.bind_some, delay, Option.map_some]
    rw [h] at held
    cases held

end Arrival

/-! ## The act that lets a flow in -/

section
variable {p : Proxy} {a : Act} {e : Arrival}

theorem Act.perform_flows (p : Proxy) (h : a.flows ≠ []) :
    (a.perform p).now = (p.pass a.flows).now ∧ a.resumes p = [] ∧
      (a.perform p).now.clock = p.clock := by
  cases a with
  | pass flows => exact ⟨rfl, rfl, p.pass_clock flows⟩
  | exchange target r =>
      have now := p.exchange_now target r
      exact ⟨now, rfl, (congrArg Proxy.clock now).trans (p.pass_clock _)⟩
  | command | request | receive | advance => exact absurd rfl h

/-- What is known of an arrival right after the act that has let it in. -/
structure Arrival.LetIn (e : Arrival) (p : Proxy) (a : Act) : Prop where
  line : e.found.InLine
  clock : (a.perform p).now.clock = e.found.clock
  place : p.passages.length ≤ e.place ∧ e.place < (a.perform p).now.passages.length
  told : about e.place (a.told p) = about e.place (Proxy.openedHeard p.audience e.entered)
  passage : (a.perform p).now.passages[e.place]? =
    some (p.through (Proxy.opening (e.flow, e.purpose)) e.entered)
  held : ∀ s, e.suspension? = some s → s ∈ (a.perform p).now.suspended
  unheld : e.suspension? = none → ∀ s ∈ (a.perform p).now.suspended, s.passage ≠ e.place

theorem Arrival.letIn (h : p.InLine) (member : e ∈ p.openArrivals a.flows) : e.LetIn p a := by
  obtain ⟨ahead, more, flows, found⟩ := Proxy.mem_openArrivals member
  obtain ⟨now, resumes, clock⟩ := Act.perform_flows (a := a) p (by simp [flows])
  have place : e.place = p.passages.length + ahead.length := by
    rw [Arrival.place, found, Proxy.openAll_passages, List.length_append, List.length_map]
  have line : e.found.InLine := by
    rw [found]
    exact h.openAll ahead
  obtain ⟨result, opened⟩ := p.openAll_append ahead ((e.flow, e.purpose) :: more)
  rw [← flows, ← found] at result opened
  have entered : e.entered ∈ (p.openAll a.flows).result := by
    rw [result]
    exact List.mem_append_right _ List.mem_cons_self
  have came : (p.openAll a.flows).now.passages[e.place]? =
      some (Proxy.opening (e.flow, e.purpose)) := by
    rw [Proxy.openAll_passages, flows, place, List.getElem?_append_right (Nat.le_add_right ..),
      Nat.add_sub_cancel_left, List.getElem?_map, List.getElem?_append_right (Nat.le_refl _),
      Nat.sub_self]
    rfl
  have suspended : (a.perform p).now.suspended =
      ((e.found.enter e.flow e.purpose).now.openAll more).now.suspended := by
    rw [now, Proxy.pass_suspended, opened]
    rfl
  refine ⟨line, ?_, ⟨?_, ?_⟩, ?_, ?_, ?_, ?_⟩
  · rw [clock, found, Proxy.openAll_clock]
  · omega
  · rw [a.perform_length p, flows, List.length_append, List.length_cons]
    omega
  · rw [Act.told, resumes, List.flatMap_nil, List.append_nil]
    exact about_flatMap (fun _ _ => Proxy.openedHeard_place) (p.openAll_ids_nodup a.flows) entered
  · rw [now]
    exact p.pass_self a.flows entered came
  · intro s delayed
    rw [suspended]
    exact Proxy.openAll_keeps_line _ more (enter_held delayed).2.2.2
  · intro free s waits same
    rw [suspended] at waits
    rcases Proxy.openAll_joining _ more waits with earlier | later
    · rw [(enter_unheld free).2] at earlier
      have before := line.placed s earlier
      rw [same] at before
      exact Nat.lt_irrefl _ before
    · rw [Proxy.enter_passages, List.length_append, List.length_singleton, same] at later
      exact Nat.not_succ_le_self _ later

end

/-! ## The run that lets a flow in -/

namespace Proxy

variable {p : Proxy} {e : Arrival} {acts : List Act}

/-- A delay is over once the clock has reached its end. -/
theorem elapses_iff {due : Instant} (ahead : p.clock.ms < due.ms) (acts : List Act) :
    p.elapses due acts = true ↔ due.ms ≤ (p.after acts).clock.ms := by
  induction acts generalizing p with
  | nil =>
      have early : ¬ due.ms ≤ p.clock.ms := by omega
      exact iff_of_false Bool.false_ne_true early
  | cons a rest ih =>
      have reached : a.reaches p due = true ↔ due.ms ≤ (a.perform p).now.clock.ms := by
        rw [a.perform_clock p]
        cases a with
        | advance ms => exact decide_eq_true_iff
        | command | request | pass | exchange | receive =>
            refine iff_of_false Bool.false_ne_true ?_
            simp only [Act.elapsed, Instant.after]
            omega
      have later : (a.perform p).now.clock.ms ≤ (p.after (a :: rest)).clock.ms :=
        after_clock (a.perform p).now rest
      rw [elapses, Bool.or_eq_true_iff, reached]
      by_cases now : due.ms ≤ (a.perform p).now.clock.ms
      · exact iff_of_true (.inl now) (Int.le_trans now later)
      · rw [ih (Int.not_le.mp now)]
        exact or_iff_right now

/-- Nobody joins the line under an earlier place. -/
theorem after_apart (h : p.InLine) {id : Nat} (inside : id < p.passages.length)
    (idle : ∀ s ∈ p.suspended, s.passage ≠ id) (acts : List Act) :
    ∀ s ∈ (p.after acts).suspended, s.passage ≠ id := by
  induction acts generalizing p with
  | nil => exact idle
  | cons a rest ih =>
      apply ih (a.perform_inLine h)
      · rw [a.perform_length p]
        exact Nat.lt_of_lt_of_le inside (Nat.le_add_right ..)
      · intro s waits same
        rcases a.perform_joining waits with earlier | late
        · exact idle s earlier same
        · omega

theorem elapsed_apart (h : p.InLine) {s : Suspension} (waits : s ∈ p.suspended)
    (passed : p.elapses s.due acts = true) :
    ∀ t ∈ (p.after acts).suspended, t.passage ≠ s.passage := by
  induction acts generalizing p with
  | nil => cases passed
  | cons a rest ih =>
      have inside := h.placed s waits
      cases now : a.reaches p s.due with
      | false =>
          rw [elapses, now, Bool.false_or] at passed
          exact ih (a.perform_inLine h) (a.perform_keeps_line waits now) passed
      | true =>
          obtain ⟨_, idle, _⟩ := a.perform_due h waits now (List.getElem?_eq_getElem inside)
          apply after_apart (a.perform_inLine h) ?_ idle
          rw [a.perform_length p]
          exact Nat.lt_of_lt_of_le inside (Nat.le_add_right ..)

/-- The run up to an arrival, the act that lets it in, and the run from there. -/
theorem arrival_split (h : p.InLine) (member : e ∈ p.arrivals acts) :
    ∃ before a behind, p.after acts = (a.perform (p.after before)).now.after behind ∧
      (p.after before).InLine ∧ e.LetIn (p.after before) a ∧
      about e.place (p.told acts) =
        about e.place (openedHeard p.audience e.entered) ++
          about e.place ((a.perform (p.after before)).now.told behind) := by
  obtain ⟨before, a, behind, rfl, inside⟩ := mem_arrivals member
  have line := p.after_inLine before h
  have letIn := Arrival.letIn line inside
  refine ⟨before, a, behind, p.after_append before (a :: behind), line, letIn, ?_⟩
  have silent : about e.place (p.told before) = [] := by
    apply about_none
    intro x told same
    have early := told_inside h told
    have late := letIn.place.1
    omega
  rw [told_append, told, about_append, about_append, silent, letIn.told, List.nil_append,
    after_audience]

theorem through_congr {p q : Proxy} (decoder : q.decoder = p.decoder)
    (audience : q.audience = p.audience) : q.through = p.through := by
  funext passage o
  rw [through, decoder, audience, through]

/-- A flow that is not held back is done with when it has come in. -/
theorem after_arrival (h : p.InLine) (member : e ∈ p.arrivals acts)
    (unheld : e.suspension? = none) :
    about e.place (p.told acts) = about e.place (openedHeard p.audience e.entered) ∧
      (∀ s ∈ (p.after acts).suspended, s.passage ≠ e.place) ∧
      ∃ q, (p.after acts).passages[e.place]? = some q ∧
        (p.through (opening (e.flow, e.purpose)) e.entered).UpToResponse q := by
  obtain ⟨before, a, behind, after, line, letIn, told⟩ := arrival_split h member
  have idle := letIn.unheld unheld
  obtain ⟨quiet, q, last, same⟩ := after_idle (a.perform_inLine line) letIn.passage idle behind
  rw [through_congr (p.after_decoder before) (p.after_audience before)] at same
  rw [told, quiet, List.append_nil, after]
  exact ⟨rfl, after_apart (a.perform_inLine line) letIn.place.2 idle behind, q, last, same⟩

/-- The run from the arrival of a flow that is held back. -/
theorem held_split (h : p.InLine) (member : e ∈ p.arrivals acts) {s : Suspension}
    (held : e.suspension? = some s) (ahead : e.found.clock.ms < s.due.ms) :
    ∃ (q : Proxy) (behind : List Act), p.after acts = q.after behind ∧ q.InLine ∧
      q.decoder = p.decoder ∧ q.audience = p.audience ∧ s ∈ q.suspended ∧ s.passage = e.place ∧
      q.passages[s.passage]? = some (opening (e.flow, e.purpose)) ∧
      about s.passage (p.told acts) = about s.passage (q.told behind) ∧
      (q.elapses s.due behind = true ↔ s.due.ms ≤ (q.after behind).clock.ms) := by
  obtain ⟨before, a, behind, after, line, letIn, told⟩ := arrival_split h member
  obtain ⟨_, place, entered, _⟩ := Arrival.enter_held held
  have passage := letIn.passage
  rw [entered] at told passage
  have waits := letIn.held s held
  refine ⟨(a.perform (p.after before)).now, behind, after, a.perform_inLine line, ?_, ?_, waits,
    place, ?_, ?_, ?_⟩
  · rw [a.perform_decoder, after_decoder]
  · rw [a.perform_audience, after_audience]
  · rw [place]
    exact passage
  · rw [place, told]
    exact List.nil_append _
  · apply elapses_iff
    rwa [letIn.clock]

/-- A flow that is held back waits as it came while the clock has not reached the end of its
    delay. -/
theorem after_waiting_arrival (h : p.InLine) (member : e ∈ p.arrivals acts) {s : Suspension}
    (held : e.suspension? = some s) (ahead : e.found.clock.ms < s.due.ms)
    (early : (p.after acts).clock.ms < s.due.ms) :
    about e.place (p.told acts) = [] ∧ s ∈ (p.after acts).suspended ∧
      ∃ q, (p.after acts).passages[e.place]? = some q ∧
        (opening (e.flow, e.purpose)).UpToResponse q := by
  obtain ⟨q, behind, after, line, _, _, waits, place, found, told, elapses⟩ :=
    held_split h member held ahead
  rw [after] at early ⊢
  have waiting : q.elapses s.due behind = false := by
    rw [Bool.eq_false_iff, ne_eq, elapses]
    exact Int.not_le.mpr early
  obtain ⟨quiet, stays, r, last, same⟩ := after_waiting line waits found waiting
  rw [← place, told, quiet]
  exact ⟨rfl, stays, r, last, same⟩

/-- A flow that is held back has gone on as it came once the clock has reached the end of its
    delay. -/
theorem after_released_arrival (h : p.InLine) (member : e ∈ p.arrivals acts) {s : Suspension}
    (held : e.suspension? = some s) (ahead : e.found.clock.ms < s.due.ms)
    (reached : s.due.ms ≤ (p.after acts).clock.ms) :
    about e.place (p.told acts) = heard p.audience ⟨s.claim, none⟩ ∧
      (∀ t ∈ (p.after acts).suspended, t.passage ≠ e.place) ∧
      ∃ r q, (p.after acts).passages[e.place]? = some q ∧
        (opening (e.flow, e.purpose)).UpToResponse r ∧ (p.resumed s r).UpToResponse q := by
  obtain ⟨q, behind, after, line, decoder, audience, waits, place, found, told, elapses⟩ :=
    held_split h member held ahead
  rw [after] at reached ⊢
  have passed := elapses.mpr reached
  obtain ⟨spoken, r, t, last, one, gone⟩ := after_elapsed line waits found passed
  rw [resumed_congr decoder audience] at gone
  rw [← place, told, spoken, audience]
  exact ⟨rfl, elapsed_apart line waits passed, r, t, last, one, gone⟩

end Proxy

end Faultline
