import Faultline.Proofs.Answering
import Faultline.Proofs.Recording

/-! # What the listing of calls shows

The calls that are listed are the end of the stream of records. They can always be listed as long
as the clock shows times that can be written: what is recorded in a run has a time of the run.
-/

namespace Faultline

open Exchange Injection

/-! ## Times -/

theorem Exchange.Request.record?_time {r : Request} {d : Option Call.Decoder} {now : Instant}
    {due : Call.Record} (h : r.record? d now = some due) : due.time = now := by
  unfold record? at h
  split at h
  · obtain rfl := Option.some.inj h
    rfl
  · split at h
    · cases h
    · split at h
      · obtain rfl := Option.some.inj h
        rfl
      · cases h
      · cases h
  · cases h
  · cases h

theorem Command.marks_unrecorded (s : State) (c : Command) (r : Call.Record) :
    .recorded r ∉ c.marks s := by
  cases c with
  | enable name overrides =>
      simp only [marks]
      split <;> simp
  | disable name =>
      simp only [marks]
      split <;> simp
  | disableAll => simp [marks]
  | reset => simp [marks]

namespace Proxy

variable {p : Proxy}

theorem enterMarks_time {flow : Flow} {purpose : Purpose} {r : Call.Record}
    (h : .recorded r ∈ p.enterMarks flow purpose) : r.time = p.clock := by
  rcases List.mem_append.mp h with recorded | injected
  · obtain ⟨due, produced, same⟩ := List.mem_map.mp (Option.toList_map .. ▸ recorded)
    obtain rfl := Mark.recorded.inj same
    cases hooked : purpose.isHooked with
    | false => simp [hooked] at produced
    | true =>
        rw [hooked, if_pos rfl, Option.mem_toList] at produced
        exact Request.record?_time produced
  · obtain ⟨claim, _, other⟩ := List.mem_map.mp (Option.toList_map .. ▸ injected)
    cases other

theorem openMarks_time {flows : List (Flow × Purpose)} {r : Call.Record}
    (h : .recorded r ∈ p.openMarks flows) : r.time = p.clock := by
  induction flows generalizing p with
  | nil => cases h
  | cons x rest ih =>
      rcases List.mem_append.mp h with first | later
      · exact enterMarks_time first
      · rw [ih later, enter_clock]

theorem actMarks_time {a : Act} {r : Call.Record} (h : .recorded r ∈ a.marks p) :
    r.time = p.clock := by
  rcases List.mem_append.mp h with opened | commanded
  · exact openMarks_time opened
  · cases given : a.command? with
    | none => simp [given] at commanded
    | some c =>
        rw [given] at commanded
        exact absurd commanded (c.marks_unrecorded p.state r)

/-- What a run records, it records at a time of the run. -/
theorem trace_time {acts : List Act} {r : Call.Record} (h : .recorded r ∈ p.trace acts) :
    p.clock.ms ≤ r.time.ms ∧ r.time.ms ≤ (p.after acts).clock.ms := by
  induction acts generalizing p with
  | nil => cases h
  | cons a rest ih =>
      have first : p.clock.ms ≤ (a.perform p).now.clock.ms := p.after_clock [a]
      rcases List.mem_append.mp h with now | later
      · rw [actMarks_time now]
        exact ⟨Int.le_refl _, p.after_clock (a :: rest)⟩
      · have bounds := ih later
        exact ⟨Int.le_trans first bounds.1, bounds.2⟩

end Proxy

/-! ## Listing -/

theorem Instant.inRange_between {a b t : Instant} (first : a.inRange) (last : b.inRange)
    (after : a.ms ≤ t.ms) (before : t.ms ≤ b.ms) : t.inRange := by
  simp only [inRange, decide_eq_true_eq] at first last ⊢
  omega

theorem Instant.text_written {t : Instant} (h : t.inRange) :
    t.text = .ok (String.ofList t.write) := by
  simp only [text, text?, h, if_true]

theorem Call.Record.document_ok {r : Call.Record} (h : r.time.inRange) :
    ∃ shown, r.document = .ok shown := by
  rw [document, Instant.text_written h]
  exact ⟨_, rfl⟩

namespace Control

def callListing (calls : List Json) (capacity : Nat) : Json :=
  .object [("calls", .array calls), ("count", .ofNat calls.length),
    ("max_history", .ofNat capacity)]

theorem documents_ok {records : List Faultline.Call.Record}
    (h : ∀ r ∈ records, r.time.inRange) :
    ∃ calls, records.mapM Faultline.Call.Record.document = .ok calls ∧
      List.Forall₂ (fun r shown => r.document = .ok shown) records calls := by
  induction records with
  | nil => exact ⟨[], rfl, .nil⟩
  | cons r rest ih =>
      obtain ⟨shown, first⟩ := Faultline.Call.Record.document_ok (h r (List.mem_cons_self ..))
      obtain ⟨calls, mapped, each⟩ := ih fun later k => h later (List.mem_cons_of_mem _ k)
      refine ⟨shown :: calls, ?_, .cons first each⟩
      simp [List.mapM_cons, first, mapped, bind, Except.bind, pure, Except.pure]

/-- Where the calls are asked for. -/
def callsPlace : Place := ⟨"/thrift/calls".toList, true⟩

example (i : Interface) : i.place "GET" "/thrift/calls" = .ok callsPlace := rfl

/-- Whoever asks for the calls is told this, and changes nothing by asking. -/
structure Tells (s : State) (told : Json) : Prop where
  replied : ∀ g, answer g s .calls = .nothing s (.ok (.ok told))
  /-- However a request for the calls is sent, its response brings them. -/
  brought : ∀ (i : Interface) (g : Setting) (fresh : String) (r : HttpRequest) (body : Json),
    r.method = "GET" → r.Arrives i callsPlace body →
    (i.serve g fresh s r).result.Brings i r told ∧ (i.serve g fresh s r).now = s

theorem tells_calls {s : State} {calls : List Json}
    (h : s.history.records.mapM Faultline.Call.Record.document = .ok calls) :
    Tells s (callListing calls s.history.capacity) := by
  have replied : ∀ g, answer g s .calls =
      .nothing s (.ok (.ok (callListing calls s.history.capacity))) := by
    intro g
    rw [answer, listCalls, h]
    rfl
  refine ⟨replied, fun i g fresh r body asked arrives => ?_⟩
  have planned : plan r.method callsPlace (some body) = .call .calls ['/'] := by
    rw [asked]
    rfl
  refine ⟨i.serve_brings g fresh s arrives planned asked (by rw [replied]; rfl), ?_⟩
  obtain ⟨now, _⟩ := i.serve_called g fresh s arrives planned (by rw [asked]; decide)
  rw [now, replied]
  rfl

end Control

/-! ## The calls of a run -/

/-- What the history shows of a run: the last records of the stream, oldest first. -/
structure ShowsStream (capacity : Nat) (p : Proxy) (acts : List Act) : Prop where
  snapshot : (p.after acts).state.history.records = lastOf capacity (recordStream (p.trace acts))
  size : (p.after acts).state.history.size = min capacity (recordStream (p.trace acts)).length
  /-- The control interface lists the same records, and tells how many it lists. -/
  listed : p.clock.inRange → (p.after acts).clock.inRange →
    ∃ calls, List.Forall₂ (fun r shown => Call.Record.document r = .ok shown)
        (lastOf capacity (recordStream (p.trace acts))) calls ∧
      calls.length = min capacity (recordStream (p.trace acts)).length ∧
      Control.Tells (p.after acts).state (Control.callListing calls capacity)

theorem recorded_of_mem_stream {marks : List Mark} {r : Call.Record} (h : r ∈ recordStream marks) :
    .recorded r ∈ marks := by
  obtain ⟨m, listed, told⟩ := List.mem_filterMap.mp h
  have source := (List.rtakeWhile_suffix _ _).subset listed
  cases m with
  | recorded other =>
      obtain rfl := Option.some.inj told
      exact source
  | enabled | disabled | disabledAll | reset | injected => cases told

/-- In every run of a proxy for which nothing has happened yet, the history is the end of the
    stream of records. -/
theorem history_is_end_of_stream {templates : List Scenario.Template}
    (distinct : (templates.map (·.name)).Nodup) {capacity : Number}
    (positive : capacity.isPositiveInteger = true) :
    ∃ s c, State.fresh? templates capacity = .ok s ∧ capacity.toNat? = some c ∧ 1 ≤ c ∧
      ∀ p : Proxy, p.state = s → (∀ d ∈ p.decoder, d.NeverThrows) →
        ∀ acts, ShowsStream c p acts := by
  obtain ⟨c, integer, least⟩ := Number.toNat?_positive positive
  refine ⟨_, c, State.fresh?_ok.mpr ⟨positive, distinct, rfl⟩, integer, least, ?_⟩
  intro p fresh quiet acts
  have moved := p.after_history quiet acts
  have empty : p.state.history = ⟨c, [], 0⟩ := by
    rw [fresh, integer]
    rfl
  have start : p.state.history.Remembers (recordStream []) := by
    rw [empty]
    exact List.drop_nil.symm
  have remembers := start.marks (p.trace acts)
  rw [← moved, List.nil_append] at remembers
  have room : (p.after acts).state.history.capacity = c := by
    rw [moved, Call.History.capacity_marks, empty]
  have snapshot : (p.after acts).state.history.records =
      lastOf c (recordStream (p.trace acts)) := by
    rw [← room]
    exact remembers
  refine ⟨snapshot, ?_, ?_⟩
  · rw [← room]
    exact remembers.length
  · intro first last
    have written : ∀ shown ∈ (p.after acts).state.history.records, shown.time.inRange := by
      intro shown kept
      rw [snapshot] at kept
      have bounds := p.trace_time (recorded_of_mem_stream ((List.drop_subset _ _) kept))
      exact Instant.inRange_between first last bounds.1 bounds.2
    obtain ⟨calls, mapped, each⟩ := Control.documents_ok written
    have told := Control.tells_calls mapped
    rw [snapshot] at each
    rw [room] at told
    exact ⟨calls, each, each.length_eq.symm.trans (length_lastOf ..), told⟩

theorem Call.Decoder.plain_neverThrows : Call.Decoder.plain.NeverThrows :=
  ⟨fun _ => ⟨_, rfl⟩, fun _ => ⟨_, rfl⟩⟩

/-- What is recorded before a scenario is enabled is forgotten, and of what follows only the last
    two records are kept. -/
def forgetful : List Act :=
  [.pass [(sampleDownload, .hook)], .command (.enable "slow" .none),
    .pass [(sampleDownload, .hook), (sampleCall, .hook)], .receive 1 none, .advance 5000,
    .pass [(sampleCall, .hook), (sampleDownload, .injection)], .command .disableAll]

theorem history_is_end_of_stream_with_room_for_two :
    (sampleTemplates.map (·.name)).Nodup ∧ (Number.ofNat 2).isPositiveInteger = true ∧
      Call.Decoder.plain.NeverThrows ∧
      ∃ s, State.fresh? sampleTemplates (.ofNat 2) = .ok s ∧
        ShowsStream 2 (.fresh s (some .plain) ⟨0⟩ false) forgetful ∧
        (recordStream ((Proxy.fresh s (some .plain) ⟨0⟩ false).trace forgetful)).length = 3 := by
  have distinct : (sampleTemplates.map (·.name)).Nodup := by decide
  have positive : (Number.ofNat 2).isPositiveInteger = true := by decide
  have quiet := Call.Decoder.plain_neverThrows
  refine ⟨distinct, positive, quiet, ?_⟩
  obtain ⟨s, c, fresh, integer, _, shows⟩ := history_is_end_of_stream distinct positive
  obtain rfl : c = 2 := Option.some.inj (integer.symm.trans (by decide))
  refine ⟨s, fresh, shows _ rfl ?_ forgetful, ?_⟩
  · intro d chosen
    obtain rfl := Option.some.inj chosen
    exact quiet
  · obtain ⟨_, _, rfl⟩ := State.fresh?_ok.mp fresh
    decide +kernel

end Faultline
