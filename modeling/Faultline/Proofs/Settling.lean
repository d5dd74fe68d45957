import Faultline.Proofs.Run

/-! # What comes of each flow

Flows that come in together are settled and closed together, but each by itself: what comes of one
depends on how it was opened and on nothing else (`pass_self`). Whatever the audience hears of
injections, each time it is one flow that it hears of (`emitted_told`).
-/

namespace Faultline

open Exchange Injection

/-! ## Telling -/

namespace Injection

def heard (audience : Audience) (e : Event) : List Event :=
  (tell audience e).2.filterMap Notice.event?

theorem heard_ok {audience : Audience} {e : Event} (h : (tell audience e).1 = .ok ()) :
    heard audience e = [e] := by
  unfold heard
  unfold tell at h ⊢
  dsimp only at h ⊢
  split
  · rw [if_pos ‹_›] at h
    cases stamp : e.claim.time.text with
    | error f =>
        rw [stamp] at h
        cases h
    | ok s => rfl
  · rfl

/-- What is to be told of a tried fault: that it came to bear, or why it did not; nothing if
    something that was thrown on the way has no text. -/
def verdict? (a : Attempt) : Option (Option String) :=
  match a.error with
  | none => some none
  | some t =>
    match t.wrap, (undo a.flow).result with
    | .ok f, .ok () => some (some f.message)
    | .error _, _ | .ok _, .error _ => none

theorem undo_events (flow : Flow) : (undo flow).events = [] := by
  unfold undo
  split
  · rfl
  · split <;> rfl

theorem settle_events (audience : Audience) (claim : Claim) (a : Attempt) :
    (settle audience claim a).events =
      (verdict? a).toList.flatMap fun error => heard audience ⟨claim, error⟩ := by
  have quiet := undo_events a.flow
  unfold settle verdict?
  cases a.error with
  | none => simp [heard, Done.events]
  | some t =>
      dsimp only
      cases t.wrap with
      | error f => rfl
      | ok f =>
          dsimp only
          have line : ∀ context, (Notice.failureLine component
            "Injection failed, forwarding request unmodified" f context).event? = none :=
            fun _ => rfl
          cases undone : (undo a.flow).result with
          | error f =>
              simp only [Done.events, List.filterMap_cons, line, Option.toList_none,
                List.flatMap_nil]
              exact quiet
          | ok u =>
              simp only [Done.events, List.filterMap_cons, line, List.cons_append,
                List.filterMap_append, Option.toList_some, List.flatMap_singleton]
              rw [show (undo a.flow).notices.filterMap Notice.event? = [] from quiet]
              rfl

end Injection

/-! ## Single flows among others -/

namespace Proxy

def treated (audience : Audience) (q : Passage) : Opened → Passage
  | .ready claim a => { q with flow := (Injection.settle audience claim a).now }
  | .settled _ | .waiting _ => q

/-- What closing a flow that was opened has to know; nothing if it waits. -/
def settled? (audience : Audience) : Nat × Opened → Option Settled
  | (id, .ready claim a) => some ⟨id, some claim, (Injection.settle audience claim a).result⟩
  | (id, .settled result) => some ⟨id, none, result⟩
  | (_, .waiting _) => none

/-- What becomes of a passage whose flow was opened. -/
def through (p : Proxy) (q : Passage) (o : Nat × Opened) : Passage :=
  match settled? p.audience o with
  | some s => (closePassage p.decoder (treated p.audience q o.2) s).now
  | none => q

theorem settleAll_result (p : Proxy) (opened : List (Nat × Opened)) :
    (p.settleAll opened).result = opened.filterMap (settled? p.audience) := by
  induction opened generalizing p with
  | nil => rfl
  | cons o rest ih =>
      obtain ⟨id, state⟩ := o
      cases state with
      | ready claim a =>
          exact congrArg (⟨id, some claim, (Injection.settle p.audience claim a).result⟩ :: ·)
            (ih (p.settle id claim a).now)
      | settled result => exact congrArg (⟨id, none, result⟩ :: ·) (ih p)
      | waiting claim => exact ih p

theorem settleAll_self (p : Proxy) {opened : List (Nat × Opened)}
    (distinct : (opened.map (·.1)).Nodup) {o : Nat × Opened} (member : o ∈ opened) {q : Passage}
    (found : p.passages[o.1]? = some q) :
    (p.settleAll opened).now.passages[o.1]? = some (treated p.audience q o.2) := by
  induction opened generalizing p with
  | nil => cases member
  | cons x rest ih =>
      obtain ⟨alone, distinctRest⟩ := List.nodup_cons.mp distinct
      obtain ⟨id, state⟩ := x
      rcases List.mem_cons.mp member with rfl | later
      · cases state with
        | ready claim a =>
            refine (settleAll_others _ rest id alone).trans ?_
            simp only [settle, modify_self, found, Option.map_some, treated]
        | settled result => exact (settleAll_others p rest id alone).trans found
        | waiting claim => exact (settleAll_others p rest id alone).trans found
      · have apart : o.1 ∉ [id] := by
          intro same
          rw [List.mem_singleton] at same
          exact alone (List.mem_map.mpr ⟨o, later, same⟩)
        cases state with
        | ready claim a =>
            exact ih (p.settle id claim a).now distinctRest later
              ((p.settle_others id claim a o.1 apart).trans found)
        | settled result => exact ih p distinctRest later found
        | waiting claim => exact ih p distinctRest later found

theorem closeAll_self (p : Proxy) {settled : List Settled}
    (distinct : (settled.map (·.passage)).Nodup) {s : Settled} (member : s ∈ settled) {q : Passage}
    (found : p.passages[s.passage]? = some q) :
    (p.closeAll settled).now.passages[s.passage]? =
      some (closePassage p.decoder q s).now := by
  induction settled generalizing p with
  | nil => cases member
  | cons t rest ih =>
      obtain ⟨alone, distinctRest⟩ := List.nodup_cons.mp distinct
      simp only [closeAll, Done.andThen_now]
      rcases List.mem_cons.mp member with rfl | later
      · rw [closeAll_others _ rest s.passage alone, p.close_self s, found, Option.map_some]
      · have apart : s.passage ∉ [t.passage] := by
          intro same
          rw [List.mem_singleton] at same
          exact alone (List.mem_map.mpr ⟨s, later, same⟩)
        have still := (p.close_others t s.passage apart).trans found
        have onward := ih (p.close t).now distinctRest later still
        rwa [(p.close_only t).decoder] at onward

theorem settled?_passage {audience : Audience} {o : Nat × Opened} {s : Settled}
    (h : settled? audience o = some s) : s.passage = o.1 := by
  obtain ⟨id, state⟩ := o
  cases state with
  | ready claim a => rw [← Option.some.inj h]
  | settled result => rw [← Option.some.inj h]
  | waiting claim => cases h

theorem settled_passages (audience : Audience) (opened : List (Nat × Opened)) :
    ((opened.filterMap (settled? audience)).map (·.passage)).Sublist (opened.map (·.1)) := by
  induction opened with
  | nil => exact .slnil
  | cons o rest ih =>
      rw [List.filterMap_cons]
      cases found : settled? audience o with
      | none => exact ih.cons o.1
      | some s =>
          rw [List.map_cons, List.map_cons, settled?_passage found]
          exact ih.cons_cons o.1

section
variable (p : Proxy) (flows : List (Flow × Purpose))

theorem openAll_ids_nodup : ((p.openAll flows).result.map (·.1)).Nodup := by
  rw [openAll_ids]
  exact List.nodup_range'

/-- What comes of a flow depends on how it was opened, not on those that came with it. -/
theorem pass_self {o : Nat × Opened} (member : o ∈ (p.openAll flows).result) {q : Passage}
    (found : (p.openAll flows).now.passages[o.1]? = some q) :
    (p.pass flows).now.passages[o.1]? = some (p.through q o) := by
  have distinct := p.openAll_ids_nodup flows
  have treatedSelf := settleAll_self (p.openAll flows).now distinct member found
  have decoder : ((p.openAll flows).now.settleAll (p.openAll flows).result).now.decoder =
      p.decoder := (settleAll_only _ _).decoder.trans (p.openAll_decoder flows)
  rw [openAll_audience] at treatedSelf
  simp only [pass, Done.andThen_now, Done.map_now, settleAll_result, openAll_audience]
  unfold through
  cases settled : settled? p.audience o with
  | none =>
      -- A flow that waits is not settled, and so nobody closes its passage.
      have idle : o.1 ∉ ((p.openAll flows).result.filterMap (settled? p.audience)).map
          (·.passage) := by
        intro inside
        obtain ⟨s, taken, same⟩ := List.mem_map.mp inside
        obtain ⟨x, among, fromX⟩ := List.mem_filterMap.mp taken
        have one : x = o :=
          List.inj_on_of_nodup_map distinct among member ((settled?_passage fromX).symm.trans same)
        rw [one, settled] at fromX
        cases fromX
      have still : treated p.audience q o.2 = q := by
        obtain ⟨id, state⟩ := o
        cases state with
        | ready claim a => cases settled
        | settled result => cases settled
        | waiting claim => rfl
      rw [closeAll_others _ _ o.1 idle, treatedSelf, still]
  | some s =>
      have place := settled?_passage settled
      rw [← place] at treatedSelf ⊢
      rw [closeAll_self _ (distinct.sublist (settled_passages ..))
        (List.mem_filterMap.mpr ⟨o, member, settled⟩) treatedSelf, decoder]

end

/-- What comes of a flow that comes in alone. -/
theorem pass_alone (p : Proxy) (flow : Flow) (purpose : Purpose) :
    (p.pass [(flow, purpose)]).now.passages[p.passages.length]? =
      some (p.through (opening (flow, purpose)) (p.enter flow purpose).result) := by
  have member : (p.enter flow purpose).result ∈ (p.openAll [(flow, purpose)]).result :=
    List.mem_singleton.mpr rfl
  apply p.pass_self _ member
  rw [openAll_passages, enter_id, List.getElem?_append_right (Nat.le_refl _), Nat.sub_self]
  rfl

/-! ## Who is heard of -/

/-- What is heard of a flow that was opened, when it is settled. -/
def openedHeard (audience : Audience) : Nat × Opened → List (Nat × Event)
  | (id, .ready claim a) =>
    ((verdict? a).toList.flatMap fun error => heard audience ⟨claim, error⟩).map (id, ·)
  | (_, .settled _) | (_, .waiting _) => []

theorem openedHeard_place {audience : Audience} {o : Nat × Opened} {x : Nat × Event}
    (h : x ∈ openedHeard audience o) : x.1 = o.1 := by
  obtain ⟨id, state⟩ := o
  cases state with
  | ready claim a =>
      obtain ⟨_, _, rfl⟩ := List.mem_map.mp h
      rfl
  | settled | waiting => cases h

/-- What is heard of a flow that goes on after a delay. -/
def resumedHeard (audience : Audience) (s : Suspension) : List (Nat × Event) :=
  (heard audience ⟨s.claim, none⟩).map (s.passage, ·)

theorem settleAll_events (p : Proxy) (opened : List (Nat × Opened)) :
    (p.settleAll opened).events = (opened.flatMap (openedHeard p.audience)).map (·.2) := by
  induction opened generalizing p with
  | nil => rfl
  | cons o rest ih =>
      obtain ⟨id, state⟩ := o
      rw [List.flatMap_cons, List.map_append]
      cases state with
      | ready claim a =>
          have first : (p.settle id claim a).events =
              (openedHeard p.audience (id, .ready claim a)).map (·.2) := by
            rw [openedHeard, List.map_map, ← settle_events]
            exact (List.map_id _).symm
          simp only [settleAll, Done.events_andThen, Done.events_map, first, ih]
          rfl
      | settled result => exact ih p
      | waiting claim => exact ih p

theorem pass_events (p : Proxy) (flows : List (Flow × Purpose)) :
    (p.pass flows).events =
      ((p.openAll flows).result.flatMap (openedHeard p.audience)).map (·.2) := by
  simp only [pass, Done.events_andThen, Done.events_map, openAll_events, settleAll_events,
    closeAll_events, openAll_audience, List.nil_append, List.append_nil]

theorem resumeAll_events (p : Proxy) {due : List Suspension}
    (placed : ∀ s ∈ due, s.passage < p.passages.length) :
    (p.resumeAll due).events = (due.flatMap (resumedHeard p.audience)).map (·.2) := by
  induction due generalizing p with
  | nil => rfl
  | cons s rest ih =>
      obtain ⟨q, found⟩ : ∃ q, p.passages[s.passage]? = some q :=
        ⟨_, List.getElem?_eq_getElem (placed s (List.mem_cons_self ..))⟩
      have kept := p.resume_keeps s
      have placedRest : ∀ t ∈ rest, t.passage < (p.resume s).now.passages.length := by
        rw [kept.length]
        exact fun t later => placed t (List.mem_cons_of_mem _ later)
      have first : (p.resume s).events = (resumedHeard p.audience s).map (·.2) := by
        rw [p.resume_events s found, resumedHeard, List.map_map]
        exact (List.map_id _).symm
      simp only [resumeAll, Done.events_andThen, first, ih _ placedRest, kept.audience,
        List.flatMap_cons, List.map_append]

theorem advance_events {p : Proxy} (h : p.InLine) (ms : Int) :
    (p.advance ms).events =
      ((p.dueBy (p.clock.after ms)).flatMap (resumedHeard p.audience)).map (·.2) := by
  have placed : ∀ s ∈ p.dueBy (p.clock.after ms), s.passage < p.passages.length :=
    fun s due => h.placed s ((mem_dueBy h).mp due).1
  simp only [advance, Done.events_andThen, Done.events_nothing, List.append_nil]
  exact resumeAll_events (p.called (p.clock.after ms)) placed

end Proxy

/-! ## Tellings of a run -/

namespace Act

/-- The flows that go on after a delay in an act. -/
def resumes (p : Proxy) : Act → List Suspension
  | .advance ms => p.dueBy (p.clock.after ms)
  | .command _ | .request .. | .pass _ | .exchange .. | .receive .. => []

/-- What is heard in an act, and of which flows. -/
def told (p : Proxy) (a : Act) : List (Nat × Event) :=
  (p.openAll a.flows).result.flatMap (Proxy.openedHeard p.audience) ++
    (a.resumes p).flatMap (Proxy.resumedHeard p.audience)

theorem perform_events {p : Proxy} (h : p.InLine) (a : Act) :
    (a.perform p).events = (a.told p).map (·.2) := by
  cases a with
  | command c => exact c.run_events p.state
  | request i correlation r => exact i.serve_events _ correlation p.state r
  | pass flows =>
      simp only [told, resumes, List.flatMap_nil, List.append_nil]
      exact p.pass_events flows
  | exchange target r =>
      simp only [told, resumes, List.flatMap_nil, List.append_nil, perform, Done.events_map]
      cases way : r.flow? target with
      | none =>
          have nobody : (Act.exchange target r).flows = [] := by simp only [Act.flows, way]; rfl
          rw [nobody, (p.exchange_none target r way).2.2]
          rfl
      | some x =>
          have alone : (Act.exchange target r).flows = [x] := by simp only [Act.flows, way]; rfl
          rw [alone, p.exchange_some target r way]
          exact p.pass_events [x]
  | receive id response =>
      simp only [perform, Proxy.receive]
      split
      · rfl
      · exact Proxy.responseHook_events ..
  | advance ms => exact Proxy.advance_events h ms

end Act

namespace Proxy

def emitted (p : Proxy) : List Act → List Event
  | [] => []
  | a :: rest => (a.perform p).events ++ (a.perform p).now.emitted rest

/-- What is heard in a run, and of which flows. -/
def told (p : Proxy) : List Act → List (Nat × Event)
  | [] => []
  | a :: rest => a.told p ++ (a.perform p).now.told rest

/-- Every event of a run is heard of one flow. -/
theorem emitted_told {p : Proxy} (h : p.InLine) (acts : List Act) :
    p.emitted acts = (p.told acts).map (·.2) := by
  induction acts generalizing p with
  | nil => rfl
  | cons a rest ih =>
      rw [emitted, told, List.map_append, Act.perform_events h, ih (a.perform_inLine h)]

end Proxy

end Faultline
