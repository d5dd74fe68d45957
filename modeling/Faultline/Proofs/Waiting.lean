import Faultline.Proofs.Passing

/-! # Flows that wait

A flow that is held back waits in a line, ordered by when its delay is over, under a place of its
own (`InLine`). When time passes, exactly those that are due go on (`advance_due`), nobody else is
touched (`advance_waiting`), and the scenarios and the history are as before (`advance_state`).
-/

namespace Faultline.Proxy

open Exchange Injection

/-- The line of those who wait is in order, and each has a passage to itself. -/
structure InLine (p : Proxy) : Prop where
  ordered : p.suspended.Pairwise fun s t => s.due.ms ≤ t.due.ms
  distinct : (p.suspended.map (·.passage)).Nodup
  placed : ∀ s ∈ p.suspended, s.passage < p.passages.length

/-! ## Lining up -/

theorem enqueue_perm (s : Suspension) (line : List Suspension) :
    (enqueue s line).Perm (s :: line) := by
  induction line with
  | nil => exact .refl _
  | cons t rest ih =>
      simp only [enqueue]
      split
      · exact .refl _
      · exact (ih.cons t).trans (.swap s t rest)

theorem mem_enqueue {s t : Suspension} {line : List Suspension} :
    t ∈ enqueue s line ↔ t = s ∨ t ∈ line := by
  rw [(enqueue_perm s line).mem_iff, List.mem_cons]

theorem enqueue_ordered (s : Suspension) {line : List Suspension}
    (h : line.Pairwise fun s t => s.due.ms ≤ t.due.ms) :
    (enqueue s line).Pairwise fun s t => s.due.ms ≤ t.due.ms := by
  induction line with
  | nil => exact List.pairwise_singleton _ s
  | cons t rest ih =>
      obtain ⟨first, ordered⟩ := List.pairwise_cons.mp h
      simp only [enqueue]
      split
      · rename_i sooner
        refine List.pairwise_cons.mpr ⟨?_, h⟩
        intro u member
        rcases List.mem_cons.mp member with rfl | later
        · omega
        · have := first u later
          omega
      · rename_i notSooner
        refine List.pairwise_cons.mpr ⟨?_, ih ordered⟩
        intro u member
        rcases mem_enqueue.mp member with rfl | later
        · omega
        · exact first u later

theorem InLine.enter {p : Proxy} (h : p.InLine) (flow : Flow) (purpose : Purpose) :
    (p.enter flow purpose).now.InLine := by
  have longer : (p.enter flow purpose).now.passages.length = p.passages.length + 1 := by
    rw [enter_passages, List.length_append, List.length_singleton]
  have placed : ∀ s ∈ p.suspended, s.passage < (p.enter flow purpose).now.passages.length := by
    intro s member
    have := h.placed s member
    omega
  rcases p.enter_cases flow purpose with ⟨_, _, now⟩ | ⟨_, _, _, _, now⟩ | ⟨c, d, _, _, _, now⟩
  · have same : (p.enter flow purpose).now.suspended = p.suspended := by rw [now]; rfl
    exact ⟨by rw [same]; exact h.ordered, by rw [same]; exact h.distinct, by rwa [same]⟩
  · have same : (p.enter flow purpose).now.suspended = p.suspended := by rw [now]; rfl
    exact ⟨by rw [same]; exact h.ordered, by rw [same]; exact h.distinct, by rwa [same]⟩
  · have lined : (p.enter flow purpose).now.suspended =
        enqueue ⟨dueAt p.clock d, p.passages.length, c⟩ p.suspended := by rw [now]
    refine ⟨by rw [lined]; exact enqueue_ordered _ h.ordered, ?_, ?_⟩
    · rw [lined, ((enqueue_perm _ _).map _).nodup_iff, List.map_cons, List.nodup_cons]
      refine ⟨?_, h.distinct⟩
      intro taken
      obtain ⟨s, member, same⟩ := List.mem_map.mp taken
      have := h.placed s member
      dsimp only at same
      omega
    · rw [lined]
      intro s member
      rcases mem_enqueue.mp member with rfl | earlier
      · dsimp only
        omega
      · exact placed s earlier

theorem InLine.openAll {p : Proxy} (h : p.InLine) (flows : List (Flow × Purpose)) :
    (p.openAll flows).now.InLine := by
  induction flows generalizing p with
  | nil => exact h
  | cons x rest ih => exact ih (h.enter x.1 x.2)

theorem InLine.of_kept {p q : Proxy} (h : p.InLine) (kept : KeepsShared p q) : q.InLine := by
  refine ⟨?_, ?_, ?_⟩
  · rw [kept.suspended]
    exact h.ordered
  · rw [kept.suspended]
    exact h.distinct
  · rw [kept.suspended, kept.length]
    exact h.placed

theorem InLine.pass {p : Proxy} (h : p.InLine) (flows : List (Flow × Purpose)) :
    (p.pass flows).now.InLine := (h.openAll flows).of_kept (p.pass_only flows).toKeepsShared

theorem enter_keeps_line (p : Proxy) (flow : Flow) (purpose : Purpose) {s : Suspension}
    (h : s ∈ p.suspended) : s ∈ (p.enter flow purpose).now.suspended := by
  rcases p.enter_cases flow purpose with ⟨_, _, now⟩ | ⟨_, _, _, _, now⟩ | ⟨_, _, _, _, _, now⟩
  · rw [now]; exact h
  · rw [now]; exact h
  · rw [now]; exact mem_enqueue.mpr (.inr h)

theorem openAll_keeps_line (p : Proxy) (flows : List (Flow × Purpose)) {s : Suspension}
    (h : s ∈ p.suspended) : s ∈ (p.openAll flows).now.suspended := by
  induction flows generalizing p with
  | nil => exact h
  | cons x rest ih => exact ih _ (p.enter_keeps_line x.1 x.2 h)

theorem pass_keeps_line (p : Proxy) (flows : List (Flow × Purpose)) {s : Suspension}
    (h : s ∈ p.suspended) : s ∈ (p.pass flows).now.suspended := by
  rw [pass_suspended]
  exact p.openAll_keeps_line flows h

/-! ## Going on -/

/-- What becomes of a passage whose delay is over: its claim is told of and it is closed. -/
def resumed (p : Proxy) (s : Suspension) (q : Passage) : Passage :=
  (closePassage p.decoder q ⟨s.passage, some s.claim, (tell p.audience ⟨s.claim, none⟩).1⟩).now

section
variable (p : Proxy) (s : Suspension)

theorem resume_keeps : KeepsShared p (p.resume s).now := by
  have delayed : KeepsShared p { p with clock := s.due } := ⟨rfl, rfl, rfl, rfl, rfl, rfl⟩
  unfold resume
  dsimp only
  split
  · exact delayed
  · exact delayed.trans ((settle_only _ _ _ _).trans (close_only _ _)).toKeepsShared

theorem resume_others : KeepsOthers [s.passage] p (p.resume s).now := by
  unfold resume
  dsimp only
  split
  · exact fun _ _ => rfl
  · rename_i q _
    exact KeepsOthers.trans
      (settle_others { p with clock := s.due } s.passage s.claim ⟨q.flow, none⟩)
      (close_others _ ⟨s.passage, _, _⟩)

theorem resume_self {q : Passage} (found : p.passages[s.passage]? = some q) :
    (p.resume s).now.passages[s.passage]? = some (p.resumed s q) := by
  have settled : (p.settle s.passage s.claim ⟨q.flow, none⟩).now.passages[s.passage]? = some q := by
    simp only [settle, modify_self, found, Option.map_some]
    rfl
  unfold resume
  simp only [found, Done.andThen_now]
  exact (close_self _ _).trans (congrArg (Option.map _) settled)

theorem resume_events {q : Passage} (found : p.passages[s.passage]? = some q) :
    (p.resume s).events = (tell p.audience ⟨s.claim, none⟩).2.filterMap Notice.event? := by
  unfold resume
  simp only [found, Done.events_andThen, close_events, List.append_nil]
  rfl

end

theorem resumeAll_keeps (p : Proxy) (due : List Suspension) :
    KeepsShared p (p.resumeAll due).now := by
  induction due generalizing p with
  | nil => exact .refl p
  | cons s rest ih => exact (p.resume_keeps s).trans (ih _)

theorem resumeAll_others (p : Proxy) (due : List Suspension) :
    KeepsOthers (due.map (·.passage)) p (p.resumeAll due).now := by
  induction due generalizing p with
  | nil => exact fun _ _ => rfl
  | cons s rest ih =>
      have first : KeepsOthers (s.passage :: rest.map (·.passage)) p (p.resume s).now :=
        (p.resume_others s).mono (by simp)
      exact first.trans ((ih _).mono (List.subset_cons_self ..))

theorem resumed_congr {p q : Proxy} (decoder : q.decoder = p.decoder)
    (audience : q.audience = p.audience) : q.resumed = p.resumed := by
  funext s passage
  rw [resumed, decoder, audience, resumed]

/-- Each flow that goes on does so once, from where it was. -/
theorem resumeAll_self (p : Proxy) {due : List Suspension}
    (distinct : (due.map (·.passage)).Nodup) {s : Suspension} (member : s ∈ due) {q : Passage}
    (found : p.passages[s.passage]? = some q) :
    (p.resumeAll due).now.passages[s.passage]? = some (p.resumed s q) := by
  induction due generalizing p with
  | nil => cases member
  | cons t rest ih =>
      obtain ⟨alone, distinctRest⟩ := List.nodup_cons.mp distinct
      simp only [resumeAll, Done.andThen_now]
      rcases List.mem_cons.mp member with rfl | later
      · rw [resumeAll_others _ rest s.passage alone]
        exact p.resume_self s found
      · have apart : s.passage ∉ [t.passage] := by
          intro same
          rw [List.mem_singleton] at same
          exact alone (List.mem_map.mpr ⟨s, later, same⟩)
        have still := (p.resume_others t s.passage apart).trans found
        have onward := ih (p.resume t).now distinctRest later still
        rwa [resumed_congr (p.resume_keeps t).decoder (p.resume_keeps t).audience] at onward

/-! ## The passage of time -/

/-- Those who are due by an instant: the front of the line. -/
def dueBy (p : Proxy) (target : Instant) : List Suspension :=
  p.suspended.takeWhile fun s => s.due.ms ≤ target.ms

/-- Those who go on waiting after an instant: the rest of the line. -/
def waitingAfter (p : Proxy) (target : Instant) : List Suspension :=
  p.suspended.dropWhile fun s => s.due.ms ≤ target.ms

theorem mem_dueBy {p : Proxy} (h : p.InLine) {target : Instant} {s : Suspension} :
    s ∈ p.dueBy target ↔ s ∈ p.suspended ∧ s.due.ms ≤ target.ms := by
  have ordered := h.ordered
  unfold dueBy
  generalize p.suspended = line at ordered ⊢
  induction line with
  | nil => simp
  | cons t rest ih =>
      obtain ⟨first, orderedRest⟩ := List.pairwise_cons.mp ordered
      by_cases due : t.due.ms ≤ target.ms
      · rw [List.takeWhile_cons_of_pos (by simpa using due), List.mem_cons, List.mem_cons]
        have inRest : s ∈ rest.takeWhile (fun s => s.due.ms ≤ target.ms) ↔
            s ∈ rest ∧ s.due.ms ≤ target.ms := ih orderedRest
        rw [inRest]
        constructor
        · rintro (rfl | ⟨member, ready⟩)
          · exact ⟨.inl rfl, due⟩
          · exact ⟨.inr member, ready⟩
        · rintro ⟨rfl | member, ready⟩
          · exact .inl rfl
          · exact .inr ⟨member, ready⟩
      · rw [List.takeWhile_cons_of_neg (by simpa using due)]
        constructor
        · intro absurd
          cases absurd
        · rintro ⟨member, ready⟩
          rcases List.mem_cons.mp member with rfl | later
          · exact absurd ready due
          · have := first s later
            omega

theorem mem_waitingAfter {p : Proxy} {target : Instant} {s : Suspension}
    (h : s ∈ p.suspended) (late : target.ms < s.due.ms) : s ∈ p.waitingAfter target := by
  have whole := List.takeWhile_append_dropWhile (l := p.suspended)
    (p := fun s : Suspension => decide (s.due.ms ≤ target.ms))
  rw [← whole] at h
  rcases List.mem_append.mp h with due | waiting
  · have := List.all_eq_true.mp List.all_takeWhile s due
    simp only [decide_eq_true_eq] at this
    omega
  · exact waiting

section
variable (p : Proxy) (ms : Int)

/-- The proxy at an instant, those who are due by then taken from the line. -/
def called (target : Instant) : Proxy := { p with suspended := p.waitingAfter target }

theorem advance_keeps :
    KeepsShared (p.called (p.clock.after ms)) (p.advance ms).now := by
  have kept := resumeAll_keeps (p.called (p.clock.after ms)) (p.dueBy (p.clock.after ms))
  exact kept.trans ⟨rfl, rfl, rfl, rfl, rfl, rfl⟩

@[simp] theorem advance_state : (p.advance ms).now.state = p.state :=
  (p.advance_keeps ms).state

@[simp] theorem advance_decoder : (p.advance ms).now.decoder = p.decoder :=
  (p.advance_keeps ms).decoder

@[simp] theorem advance_audience : (p.advance ms).now.audience = p.audience :=
  (p.advance_keeps ms).audience

@[simp] theorem advance_length : (p.advance ms).now.passages.length = p.passages.length :=
  (p.advance_keeps ms).length

@[simp] theorem advance_suspended :
    (p.advance ms).now.suspended = p.waitingAfter (p.clock.after ms) :=
  (p.advance_keeps ms).suspended

theorem InLine.advance {p : Proxy} (h : p.InLine) (ms : Int) : (p.advance ms).now.InLine := by
  have part : (p.waitingAfter (p.clock.after ms)).Sublist p.suspended := List.dropWhile_sublist _
  refine ⟨?_, ?_, ?_⟩
  · rw [advance_suspended]
    exact h.ordered.sublist part
  · rw [advance_suspended]
    exact h.distinct.sublist (part.map _)
  · rw [advance_suspended, advance_length]
    exact fun s member => h.placed s (part.subset member)

theorem advance_due {p : Proxy} (h : p.InLine) {ms : Int} {s : Suspension}
    (member : s ∈ p.suspended) (due : s.due.ms ≤ (p.clock.after ms).ms) {q : Passage}
    (found : p.passages[s.passage]? = some q) :
    (p.advance ms).now.passages[s.passage]? = some (p.resumed s q) := by
  have distinct : ((p.dueBy (p.clock.after ms)).map (·.passage)).Nodup :=
    h.distinct.sublist ((List.takeWhile_sublist _).map _)
  exact resumeAll_self (p.called (p.clock.after ms)) distinct
    ((mem_dueBy h).mpr ⟨member, due⟩) found

/-- A passage that is not waiting, or not due, is left alone. -/
theorem advance_others {p : Proxy} (h : p.InLine) {ms : Int} {id : Nat}
    (apart : ∀ s ∈ p.suspended, s.due.ms ≤ (p.clock.after ms).ms → s.passage ≠ id) :
    (p.advance ms).now.passages[id]? = p.passages[id]? := by
  apply resumeAll_others (p.called (p.clock.after ms)) (p.dueBy (p.clock.after ms)) id
  intro inside
  obtain ⟨s, member, same⟩ := List.mem_map.mp inside
  obtain ⟨waits, due⟩ := (mem_dueBy h).mp member
  exact apart s waits due same

theorem advance_waiting {p : Proxy} (h : p.InLine) {ms : Int} {s : Suspension}
    (member : s ∈ p.suspended) (late : (p.clock.after ms).ms < s.due.ms) :
    s ∈ (p.advance ms).now.suspended ∧
      (p.advance ms).now.passages[s.passage]? = p.passages[s.passage]? := by
  refine ⟨by rw [advance_suspended]; exact mem_waitingAfter member late, ?_⟩
  apply advance_others h
  intro t waits due same
  have one := List.inj_on_of_nodup_map h.distinct waits member same
  subst one
  omega

end

end Faultline.Proxy
