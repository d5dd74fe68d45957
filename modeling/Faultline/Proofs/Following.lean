import Faultline.Proofs.Settling

/-! # Following one flow through a run

Once a flow has entered, it is left alone: until its delay is over if it waits, and for good
otherwise. Whatever else happens meanwhile, only its response may be set. A delay is over with the
first passage of time that reaches its end (`elapses`), and not before (`after_waiting`).
-/

namespace Faultline

open Exchange Injection

def about (id : Nat) (told : List (Nat × Event)) : List Event :=
  (told.filter (·.1 == id)).map (·.2)

theorem about_append (id : Nat) (first second : List (Nat × Event)) :
    about id (first ++ second) = about id first ++ about id second := by
  simp only [about, List.filter_append, List.map_append]

theorem about_none {id : Nat} {told : List (Nat × Event)} (h : ∀ x ∈ told, x.1 ≠ id) :
    about id told = [] := by
  have nobody : told.filter (·.1 == id) = [] :=
    List.filter_eq_nil_iff.mpr fun x member => by simpa using h x member
  rw [about, nobody, List.map_nil]

theorem about_self (id : Nat) (events : List Event) :
    about id (events.map (id, ·)) = events := by
  have all : (events.map (id, ·)).filter (·.1 == id) = events.map (id, ·) :=
    List.filter_eq_self.mpr fun x member => by
      obtain ⟨_, _, rfl⟩ := List.mem_map.mp member
      exact beq_self_eq_true id
  rw [about, all, List.map_map]
  exact List.map_id _

/-- Two passages are one but for the response of the flow. -/
def Passage.UpToResponse (q r : Passage) : Prop :=
  ∃ response, r = { q with flow := { q.flow with response } }

namespace Passage.UpToResponse

theorem refl (q : Passage) : q.UpToResponse q := ⟨q.flow.response, rfl⟩

theorem trans {q r s : Passage} (first : q.UpToResponse r) (second : r.UpToResponse s) :
    q.UpToResponse s := by
  obtain ⟨_, rfl⟩ := first
  obtain ⟨response, rfl⟩ := second
  exact ⟨response, rfl⟩

end Passage.UpToResponse

theorem about_resumed_none {audience : Audience} {id : Nat} {due : List Suspension}
    (apart : ∀ s ∈ due, s.passage ≠ id) :
    about id (due.flatMap (Proxy.resumedHeard audience)) = [] := by
  apply about_none
  intro x listed same
  obtain ⟨s, among, heard⟩ := List.mem_flatMap.mp listed
  obtain ⟨_, _, rfl⟩ := List.mem_map.mp heard
  exact apart s among same

/-- Among those with places of their own, each is heard of by itself. -/
theorem about_flatMap {α : Type} {hearing : α → List (Nat × Event)} {place : α → Nat}
    (own : ∀ a, ∀ x ∈ hearing a, x.1 = place a) {items : List α}
    (distinct : (items.map place).Nodup) {a : α} (member : a ∈ items) :
    about (place a) (items.flatMap hearing) = about (place a) (hearing a) := by
  induction items with
  | nil => cases member
  | cons b rest ih =>
      obtain ⟨alone, distinctRest⟩ := List.nodup_cons.mp distinct
      rw [List.flatMap_cons, about_append]
      rcases List.mem_cons.mp member with rfl | later
      · have others : about (place a) (rest.flatMap hearing) = [] := by
          apply about_none
          intro x listed same
          obtain ⟨c, among, heard⟩ := List.mem_flatMap.mp listed
          exact alone (List.mem_map.mpr ⟨c, among, (own c x heard).symm.trans same⟩)
        rw [others, List.append_nil]
      · have first : about (place a) (hearing b) = [] := by
          apply about_none
          intro x listed same
          exact alone (List.mem_map.mpr ⟨a, later, same.symm.trans (own b x listed)⟩)
        rw [first, List.nil_append, ih distinctRest later]

theorem about_resumed (audience : Audience) {due : List Suspension}
    (distinct : (due.map (·.passage)).Nodup) {s : Suspension} (member : s ∈ due) :
    about s.passage (due.flatMap (Proxy.resumedHeard audience)) =
      heard audience ⟨s.claim, none⟩ := by
  have own : ∀ t, ∀ x ∈ Proxy.resumedHeard audience t, x.1 = t.passage := by
    intro t x told
    obtain ⟨_, _, rfl⟩ := List.mem_map.mp told
    rfl
  exact (about_flatMap own distinct member).trans (about_self ..)

/-! ## The line during acts -/

namespace Proxy

/-- Only flows that have just entered join the line. -/
theorem openAll_joining (p : Proxy) (flows : List (Flow × Purpose)) {s : Suspension}
    (h : s ∈ (p.openAll flows).now.suspended) :
    s ∈ p.suspended ∨ p.passages.length ≤ s.passage := by
  induction flows generalizing p with
  | nil => exact .inl h
  | cons x rest ih =>
      have entering : s ∈ (p.enter x.1 x.2).now.suspended →
          s ∈ p.suspended ∨ p.passages.length ≤ s.passage := by
        intro member
        rcases p.enter_cases x.1 x.2 with
          ⟨_, _, now⟩ | ⟨_, _, _, _, now⟩ | ⟨c, seconds, _, _, _, now⟩
        · rw [now] at member
          exact .inl member
        · rw [now] at member
          exact .inl member
        · rw [now] at member
          rcases mem_enqueue.mp member with rfl | earlier
          · exact .inr (Nat.le_refl _)
          · exact .inl earlier
      rcases ih (p.enter x.1 x.2).now h with earlier | later
      · exact entering earlier
      · rw [enter_passages, List.length_append] at later
        exact .inr (Nat.le_trans (Nat.le_add_right ..) later)

/-- Who goes on waiting has a place apart from those who are due. -/
theorem waitingAfter_apart {p : Proxy} (h : p.InLine) {target : Instant} {s t : Suspension}
    (due : s ∈ p.dueBy target) (waits : t ∈ p.waitingAfter target) : t.passage ≠ s.passage := by
  have whole : p.dueBy target ++ p.waitingAfter target = p.suspended :=
    List.takeWhile_append_dropWhile
  have distinct := h.distinct
  rw [← whole, List.map_append, List.nodup_append] at distinct
  intro same
  exact distinct.2.2 _ (List.mem_map.mpr ⟨s, due, rfl⟩) _ (List.mem_map.mpr ⟨t, waits, rfl⟩)
    same.symm

theorem mem_pass_line (p : Proxy) (flows : List (Flow × Purpose)) {s : Suspension}
    (h : s ∈ (p.pass flows).now.suspended) : s ∈ p.suspended ∨ p.passages.length ≤ s.passage := by
  rw [pass_suspended] at h
  exact p.openAll_joining flows h

end Proxy

namespace Act

variable {p : Proxy} (a : Act)

/-- Whether a delay is over with an act. -/
def reaches (p : Proxy) (due : Instant) : Act → Bool
  | .advance ms => due.ms ≤ (p.clock.after (ms : Nat)).ms
  | .command _ | .request .. | .pass _ | .exchange .. | .receive .. => false

theorem mem_resumes (h : p.InLine) {s : Suspension} :
    s ∈ a.resumes p ↔ s ∈ p.suspended ∧ a.reaches p s.due = true := by
  cases a with
  | advance ms => simpa [resumes, reaches] using Proxy.mem_dueBy h
  | command | request | pass | exchange | receive => simp [resumes, reaches]

theorem resumes_apart (h : p.InLine) {s : Suspension} (waits : s ∈ p.suspended)
    (early : a.reaches p s.due = false) : ∀ t ∈ a.resumes p, t.passage ≠ s.passage := by
  intro t goes same
  obtain ⟨among, due⟩ := (a.mem_resumes h).mp goes
  have one := List.inj_on_of_nodup_map h.distinct among waits same
  rw [one, early] at due
  cases due

/-- Those who wait when the flows of an act have come in are those who go on in it and those who
    wait after it. -/
theorem perform_suspended (p : Proxy) :
    (p.openAll a.flows).now.suspended = a.resumes p ++ (a.perform p).now.suspended := by
  cases a with
  | command c => rfl
  | request o correlation r => rfl
  | pass flows => exact (p.pass_suspended flows).symm
  | exchange target r =>
      simp only [perform, Done.map_now, Proxy.exchange_now]
      exact (p.pass_suspended _).symm
  | receive id response => exact (p.receive_only id response).suspended.symm
  | advance ms =>
      simp only [perform, Done.map_now, Proxy.advance_suspended]
      exact List.takeWhile_append_dropWhile.symm

theorem perform_joining {s : Suspension} (h : s ∈ (a.perform p).now.suspended) :
    s ∈ p.suspended ∨ p.passages.length ≤ s.passage := by
  cases a with
  | command c => exact .inl h
  | request o correlation r => exact .inl h
  | pass flows => exact p.mem_pass_line flows h
  | exchange target r =>
      simp only [perform, Done.map_now, Proxy.exchange_now] at h
      exact p.mem_pass_line _ h
  | receive id response =>
      simp only [perform, (p.receive_only id response).suspended] at h
      exact .inl h
  | advance ms =>
      simp only [perform, Done.map_now, Proxy.advance_suspended] at h
      exact .inl ((List.dropWhile_sublist _).subset h)

/-- Nobody leaves the line before the delay is over. -/
theorem perform_keeps_line {s : Suspension} (h : s ∈ p.suspended)
    (early : a.reaches p s.due = false) : s ∈ (a.perform p).now.suspended := by
  cases a with
  | command c => exact h
  | request o correlation r => exact h
  | pass flows => exact p.pass_keeps_line flows h
  | exchange target r =>
      simp only [perform, Done.map_now, Proxy.exchange_now]
      exact p.pass_keeps_line _ h
  | receive id response =>
      simp only [perform, (p.receive_only id response).suspended]
      exact h
  | advance ms =>
      simp only [perform, Done.map_now, Proxy.advance_suspended]
      simp only [reaches, decide_eq_false_iff_not, Int.not_le] at early
      exact Proxy.mem_waitingAfter h early

/-! ## The passage of a flow during acts -/

theorem perform_passage {id : Nat} {q : Passage} (found : p.passages[id]? = some q)
    (apart : ∀ s ∈ a.resumes p, s.passage ≠ id) :
    ∃ r, (a.perform p).now.passages[id]? = some r ∧ q.UpToResponse r := by
  have inside : id < p.passages.length := (List.getElem?_eq_some_iff.mp found).1
  cases a with
  | command c => exact ⟨q, found, .refl q⟩
  | request o correlation r => exact ⟨q, found, .refl q⟩
  | pass flows => exact ⟨q, (p.pass_earlier flows inside).trans found, .refl q⟩
  | exchange target r =>
      simp only [perform, Done.map_now, Proxy.exchange_now]
      exact ⟨q, (p.pass_earlier _ inside).trans found, .refl q⟩
  | receive other response =>
      by_cases same : other = id
      · obtain rfl := same
        exact ⟨_, p.receive_self other response found, response, rfl⟩
      · have outside : id ∉ [other] := by simpa using Ne.symm same
        exact ⟨q, (p.receive_others other response id outside).trans found, .refl q⟩
  | advance ms =>
      refine ⟨q, Eq.trans ?_ found, .refl q⟩
      apply Proxy.resumeAll_others (p.called (p.clock.after ms)) (p.dueBy (p.clock.after ms)) id
      intro inside
      obtain ⟨s, due, same⟩ := List.mem_map.mp inside
      exact apart s due same

/-- Of a flow that has been there before, something is heard only when it goes on. -/
theorem about_told {id : Nat} (inside : id < p.passages.length) :
    about id (a.told p) = about id ((a.resumes p).flatMap (Proxy.resumedHeard p.audience)) := by
  have silent : about id ((p.openAll a.flows).result.flatMap (Proxy.openedHeard p.audience)) =
      [] := by
    apply about_none
    intro x member same
    obtain ⟨⟨other, o⟩, opened, heard⟩ := List.mem_flatMap.mp member
    have late : other ∈ List.range' p.passages.length a.flows.length := by
      rw [← p.openAll_ids a.flows]
      exact List.mem_map.mpr ⟨_, opened, rfl⟩
    have place : x.1 = other := Proxy.openedHeard_place heard
    rw [List.mem_range'_1] at late
    omega
  rw [told, about_append, silent, List.nil_append]

theorem resumes_nodup (h : p.InLine) : ((a.resumes p).map (·.passage)).Nodup := by
  cases a with
  | advance ms => exact h.distinct.sublist ((List.takeWhile_sublist _).map _)
  | command | request | pass | exchange | receive => exact List.nodup_nil

theorem perform_due (h : p.InLine) {s : Suspension} (waits : s ∈ p.suspended)
    (passed : a.reaches p s.due = true) {q : Passage} (found : p.passages[s.passage]? = some q) :
    s ∈ a.resumes p ∧ (∀ t ∈ (a.perform p).now.suspended, t.passage ≠ s.passage) ∧
      (a.perform p).now.passages[s.passage]? = some (p.resumed s q) := by
  have goes := (a.mem_resumes h).mpr ⟨waits, passed⟩
  cases a with
  | advance ms =>
      have due : s.due.ms ≤ (p.clock.after ms).ms := of_decide_eq_true passed
      refine ⟨goes, ?_, Proxy.advance_due h waits due found⟩
      intro t stays
      simp only [perform, Done.map_now, Proxy.advance_suspended] at stays
      exact Proxy.waitingAfter_apart h goes stays
  | command | request | pass | exchange | receive => cases passed

end Act

/-! ## The passage of a flow during runs -/

namespace Proxy

/-- Whether a delay is over in a run. -/
def elapses (p : Proxy) (due : Instant) : List Act → Bool
  | [] => false
  | a :: rest => a.reaches p due || (a.perform p).now.elapses due rest

variable {p : Proxy}

/-- A flow that does not wait is left alone for good. -/
theorem after_idle (h : p.InLine) {id : Nat} {q : Passage} (found : p.passages[id]? = some q)
    (idle : ∀ s ∈ p.suspended, s.passage ≠ id) (acts : List Act) :
    about id (p.told acts) = [] ∧
      ∃ r, (p.after acts).passages[id]? = some r ∧ q.UpToResponse r := by
  induction acts generalizing p q with
  | nil => exact ⟨rfl, q, found, .refl q⟩
  | cons a rest ih =>
      have inside : id < p.passages.length := (List.getElem?_eq_some_iff.mp found).1
      have apart : ∀ s ∈ a.resumes p, s.passage ≠ id :=
        fun s goes => idle s ((a.mem_resumes h).mp goes).1
      have silent := (a.about_told inside).trans (about_resumed_none apart)
      have still : ∀ s ∈ (a.perform p).now.suspended, s.passage ≠ id := by
        intro s waits same
        rcases a.perform_joining waits with earlier | late
        · exact idle s earlier same
        · omega
      obtain ⟨r, kept, one⟩ := a.perform_passage found apart
      obtain ⟨quiet, t, last, other⟩ := ih (a.perform_inLine h) kept still
      refine ⟨?_, t, last, one.trans other⟩
      rw [told, about_append, silent, quiet, List.append_nil]

/-- A flow that waits is left alone as long as its delay is not over. -/
theorem after_waiting (h : p.InLine) {s : Suspension} (waits : s ∈ p.suspended) {q : Passage}
    (found : p.passages[s.passage]? = some q) {acts : List Act}
    (early : p.elapses s.due acts = false) :
    about s.passage (p.told acts) = [] ∧ s ∈ (p.after acts).suspended ∧
      ∃ r, (p.after acts).passages[s.passage]? = some r ∧ q.UpToResponse r := by
  induction acts generalizing p q with
  | nil => exact ⟨rfl, waits, q, found, .refl q⟩
  | cons a rest ih =>
      obtain ⟨now, later⟩ := Bool.or_eq_false_iff.mp early
      have inside : s.passage < p.passages.length := h.placed s waits
      have apart := a.resumes_apart h waits now
      have silent := (a.about_told inside).trans (about_resumed_none apart)
      obtain ⟨r, kept, one⟩ := a.perform_passage found apart
      obtain ⟨quiet, stays, t, last, other⟩ :=
        ih (a.perform_inLine h) (a.perform_keeps_line waits now) kept later
      refine ⟨?_, stays, t, last, one.trans other⟩
      rw [told, about_append, silent, quiet, List.append_nil]

/-- A flow whose delay is over has gone on once, from where it was. -/
theorem after_elapsed (h : p.InLine) {s : Suspension} (waits : s ∈ p.suspended) {q : Passage}
    (found : p.passages[s.passage]? = some q) {acts : List Act}
    (passed : p.elapses s.due acts = true) :
    about s.passage (p.told acts) = heard p.audience ⟨s.claim, none⟩ ∧
      ∃ r t, (p.after acts).passages[s.passage]? = some t ∧ q.UpToResponse r ∧
        (p.resumed s r).UpToResponse t := by
  induction acts generalizing p q with
  | nil => cases passed
  | cons a rest ih =>
      have inside : s.passage < p.passages.length := h.placed s waits
      rw [told, about_append]
      cases now : a.reaches p s.due with
      | false =>
          have later : (a.perform p).now.elapses s.due rest = true := by
            simpa [elapses, now] using passed
          have apart := a.resumes_apart h waits now
          have silent := (a.about_told inside).trans (about_resumed_none apart)
          obtain ⟨r, kept, one⟩ := a.perform_passage found apart
          obtain ⟨heardOnce, r', t, last, other, gone⟩ :=
            ih (a.perform_inLine h) (a.perform_keeps_line waits now) kept later
          rw [a.perform_audience p] at heardOnce
          rw [resumed_congr (a.perform_decoder p) (a.perform_audience p)] at gone
          refine ⟨?_, r', t, last, one.trans other, gone⟩
          rw [silent, heardOnce, List.nil_append]
      | true =>
          -- It goes on in this act; whatever the rest of the run does, it is idle from then on.
          obtain ⟨goes, idle, kept⟩ := a.perform_due h waits now found
          have distinct : ((a.resumes p).map (·.passage)).Nodup := a.resumes_nodup h
          have spoken := (a.about_told inside).trans (about_resumed p.audience distinct goes)
          obtain ⟨quiet, t, last, gone⟩ := after_idle (a.perform_inLine h) kept idle rest
          refine ⟨?_, q, t, last, .refl q, gone⟩
          rw [spoken, quiet, List.append_nil]

/-! ## Flows that come in alone -/

section
variable {flow : Flow} {purpose : Purpose}

theorem told_alone (p : Proxy) (flow : Flow) (purpose : Purpose) :
    (Act.pass [(flow, purpose)]).told p = openedHeard p.audience (p.enter flow purpose).result := by
  simp only [Act.told, Act.resumes, Act.flows, openAll, Done.andThen_result, Done.map_result,
    Done.nothing_result, List.flatMap_cons, List.flatMap_nil, List.append_nil]

theorem after_alone (h : p.InLine)
    (ready : ∀ claim, (p.enter flow purpose).result.2 ≠ .waiting claim)
    (acts : List Act) :
    about p.passages.length (p.told (.pass [(flow, purpose)] :: acts)) =
        about p.passages.length (openedHeard p.audience (p.enter flow purpose).result) ∧
      ∃ q, (p.after (.pass [(flow, purpose)] :: acts)).passages[p.passages.length]? = some q ∧
        (p.through (opening (flow, purpose)) (p.enter flow purpose).result).UpToResponse q := by
  have line : (p.enter flow purpose).now.suspended = p.suspended := by
    rcases p.enter_cases flow purpose with
      ⟨_, _, now⟩ | ⟨_, _, _, _, now⟩ | ⟨claim, _, _, _, result, _⟩
    · rw [now]
      rfl
    · rw [now]
      rfl
    · exact absurd (congrArg Prod.snd result) (ready claim)
  have idle : ∀ s ∈ (p.pass [(flow, purpose)]).now.suspended, s.passage ≠ p.passages.length := by
    intro s waits
    rw [pass_suspended] at waits
    have earlier : s ∈ p.suspended := line ▸ waits
    exact Nat.ne_of_lt (h.placed s earlier)
  obtain ⟨quiet, q, last, one⟩ :=
    after_idle (h.pass [(flow, purpose)]) (p.pass_alone flow purpose) idle acts
  refine ⟨?_, q, last, one⟩
  rw [told, about_append, told_alone]
  exact (congrArg _ quiet).trans (List.append_nil _)

/-- The suspension of a flow that is held back on entering. -/
def suspension (p : Proxy) (claim : Claim) (seconds : Number) : Suspension :=
  ⟨dueAt p.clock seconds, p.passages.length, claim⟩

theorem pass_held {claim : Claim} (claimed : p.claim? flow purpose = some claim) {seconds : Number}
    (held : delaySeconds? claim.scenario.config.fault = some seconds) :
    p.suspension claim seconds ∈ (p.pass [(flow, purpose)]).now.suspended ∧
      (p.pass [(flow, purpose)]).now.passages[p.passages.length]? =
        some (opening (flow, purpose)) ∧
      (Act.pass [(flow, purpose)]).told p = [] := by
  have alone := p.pass_alone flow purpose
  rw [told_alone, pass_suspended]
  rcases p.enter_cases flow purpose with
    ⟨none, _, _⟩ | ⟨other, same, tried, _, _⟩ | ⟨other, long, same, delay, result, now⟩
  · rw [claimed] at none
    cases none
  · obtain rfl := Option.some.inj (claimed.symm.trans same)
    rw [held] at tried
    cases tried
  · obtain rfl := Option.some.inj (claimed.symm.trans same)
    obtain rfl := Option.some.inj (held.symm.trans delay)
    rw [result] at alone ⊢
    refine ⟨?_, alone, rfl⟩
    show _ ∈ (p.enter flow purpose).now.suspended
    rw [now]
    exact mem_enqueue.mpr (.inl rfl)

/-- While the delay is not over, the flow waits as it came in. -/
theorem after_held (h : p.InLine) {claim : Claim} (claimed : p.claim? flow purpose = some claim)
    {seconds : Number} (held : delaySeconds? claim.scenario.config.fault = some seconds)
    {acts : List Act}
    (early : (p.pass [(flow, purpose)]).now.elapses (dueAt p.clock seconds) acts = false) :
    about p.passages.length (p.told (.pass [(flow, purpose)] :: acts)) = [] ∧
      ∃ q, (p.after (.pass [(flow, purpose)] :: acts)).passages[p.passages.length]? = some q ∧
        (opening (flow, purpose)).UpToResponse q := by
  obtain ⟨waits, found, silent⟩ := pass_held claimed held
  obtain ⟨quiet, _, q, last, one⟩ := after_waiting (h.pass [(flow, purpose)]) waits found early
  refine ⟨?_, q, last, one⟩
  rw [told, silent, List.nil_append]
  exact quiet

/-- When the delay is over, the flow has gone on as it came in. -/
theorem after_released (h : p.InLine) {claim : Claim} (claimed : p.claim? flow purpose = some claim)
    {seconds : Number} (held : delaySeconds? claim.scenario.config.fault = some seconds)
    {acts : List Act}
    (passed : (p.pass [(flow, purpose)]).now.elapses (dueAt p.clock seconds) acts = true) :
    about p.passages.length (p.told (.pass [(flow, purpose)] :: acts)) =
        heard p.audience ⟨claim, none⟩ ∧
      ∃ r q, (p.after (.pass [(flow, purpose)] :: acts)).passages[p.passages.length]? = some q ∧
        (opening (flow, purpose)).UpToResponse r ∧
        (p.resumed (p.suspension claim seconds) r).UpToResponse q := by
  obtain ⟨waits, found, silent⟩ := pass_held claimed held
  obtain ⟨spoken, r, q, last, one, gone⟩ :=
    after_elapsed (h.pass [(flow, purpose)]) waits found passed
  rw [pass_audience] at spoken
  rw [resumed_congr (p.pass_decoder _) (p.pass_audience _)] at gone
  refine ⟨?_, r, q, last, one, gone⟩
  rw [told, silent, List.nil_append]
  exact spoken

end

end Proxy

end Faultline
