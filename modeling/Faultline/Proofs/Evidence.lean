import Faultline.Proofs.Recording

/-! # What verification proves of what was recorded

A history that has run full has lost the front of its stream, to downloads as well as to Thrift
calls, and verification looks at what is left. What it finds there was recorded, and its counts fall
short by no more than was lost (`Evidence`); with room for all, it answers as it would for the whole
stream.
-/

namespace Faultline

open Exchange Injection

/-! ## What requests ask -/

namespace Verification

/-- What a request asks of the methods that were called. -/
def Request.Holds (methods : List String) : Request → Prop
  | .sequence .exact expected => methods = expected
  | .sequence .contained expected => expected.Sublist methods
  | .count method n => .ofNat (methods.count method) = n
  | .occurs method => method ∈ methods

/-- The method that a request asks about, if it is a single one. -/
def Request.method? : Request → Option String
  | .count method _ | .occurs method => some method
  | .sequence .. => none

namespace Verdict

def actualCount? : Verdict → Option Number
  | .method _ _ _ _ n _ => some n
  | .sequence .. => none

theorem verified_iff {methods : List String} {r : Request} :
    (ofMethods methods r).verified = true ↔ r.Holds methods := by
  cases r with
  | sequence mode expected =>
      cases mode with
      | exact => exact beq_iff_eq
      | contained => exact List.isSublist_iff_sublist
  | count method n => exact decide_eq_true_iff
  | occurs method => exact decide_eq_true_iff.trans List.count_pos_iff

@[simp] theorem actual_ofMethods (methods : List String) (r : Request) :
    (ofMethods methods r).actual = methods := by
  cases r with
  | sequence mode expected => cases mode <;> rfl
  | count | occurs => rfl

theorem actualCount?_ofMethods (methods : List String) {r : Request} {method : String}
    (asked : r.method? = some method) :
    (ofMethods methods r).actualCount? = some (.ofNat (methods.count method)) := by
  cases r with
  | sequence => cases asked
  | count | occurs =>
      obtain rfl := Option.some.inj asked
      rfl

end Verdict

end Verification

/-! ## What is lost -/

open Verification (Verdict)

/-- What the records of a history prove of a stream of which they are the end. -/
structure Evidence (capacity : Nat) (stream records : List Call.Record) : Prop where
  /-- As long as nothing is lost, each verdict is the one on the whole stream. -/
  whole : stream.length ≤ capacity →
    ∀ r, Verdict.ofRecords records r = Verdict.ofMethods (Call.methods stream) r
  /-- Whatever is asked, it is the front of the stream that may be missing from what is shown. -/
  actual : ∀ r, (Verdict.ofRecords records r).actual <:+ Call.methods stream
  contained : ∀ expected, (Verdict.ofRecords records (.sequence .contained expected)).verified →
    Verification.Request.Holds (Call.methods stream) (.sequence .contained expected)
  occurs : ∀ method, (Verdict.ofRecords records (.occurs method)).verified →
    Verification.Request.Holds (Call.methods stream) (.occurs method)
  /-- No call is counted that was not made, and at most as many are missed as records are lost. -/
  counted : ∀ r method, r.method? = some method →
    ∃ n, (Verdict.ofRecords records r).actualCount? = some (.ofNat n) ∧
      n ≤ (Call.methods stream).count method ∧
      (Call.methods stream).count method - (stream.length - capacity) ≤ n

theorem Call.methods_append (first second : List Record) :
    methods (first ++ second) = methods first ++ methods second := List.filterMap_append

theorem Call.count_methods_le (records : List Record) (method : String) :
    (methods records).count method ≤ records.length :=
  Nat.le_trans List.count_le_length (List.length_filterMap_le ..)

theorem lastOf_all {capacity : Nat} {stream : List Call.Record} (room : stream.length ≤ capacity) :
    lastOf capacity stream = stream := by
  rw [lastOf, Nat.sub_eq_zero_of_le room, List.drop_zero]

/-- The end of a stream is evidence for all of it. -/
theorem evidence_lastOf (capacity : Nat) (stream : List Call.Record) :
    Evidence capacity stream (lastOf capacity stream) := by
  let lost := stream.take (stream.length - capacity)
  have parts : Call.methods stream =
      Call.methods lost ++ Call.methods (lastOf capacity stream) := by
    rw [← Call.methods_append, lastOf, List.take_append_drop]
  have shown : Call.methods (lastOf capacity stream) <:+ Call.methods stream :=
    ⟨Call.methods lost, parts.symm⟩
  refine ⟨?_, ?_, ?_, ?_, ?_⟩
  · intro room r
    rw [Verdict.ofRecords, lastOf_all room]
  · intro r
    rw [Verdict.ofRecords, Verdict.actual_ofMethods]
    exact shown
  · intro expected verified
    have found : expected.Sublist (Call.methods (lastOf capacity stream)) :=
      Verdict.verified_iff.mp verified
    exact found.trans shown.sublist
  · intro method verified
    have found : method ∈ Call.methods (lastOf capacity stream) := Verdict.verified_iff.mp verified
    exact shown.subset found
  · intro r method asked
    refine ⟨_, Verdict.actualCount?_ofMethods _ asked, shown.sublist.count_le method, ?_⟩
    have missed := Call.count_methods_le lost method
    have size : lost.length = stream.length - capacity := by
      rw [List.length_take]
      omega
    rw [parts, List.count_append]
    omega

/-! ## What is recorded -/

/-- The record that a request leaves in the history: none for a Thrift call of which no message is
    made, or of which its decoder cannot tell. -/
def Exchange.Request.kept? (r : Request) (decoder : Option Call.Decoder) (now : Instant) :
    Option Call.Record :=
  match r.operation? with
  | some .download => some (.download now r.url)
  | some .thriftCall =>
    match (Call.Recorder.decode decoder .request r.body).1 with
    | .ok message => message.map (Call.Record.ofMessage now)
    | .error _ => none
  | none => none

/-- Whether the history is cleared with an act. -/
def Act.clears (p : Proxy) (a : Act) : Bool :=
  ((a.command?.map (·.marks p.state)).getD []).any Mark.clears

namespace Proxy

/-- The record that a flow leaves in the history when it comes in. -/
def kept? (p : Proxy) (x : Flow × Purpose) : Option Call.Record :=
  if x.2.isHooked then x.1.request.kept? p.decoder p.clock else none

def recorded (p : Proxy) (flows : List (Flow × Purpose)) : List Call.Record :=
  flows.flatMap fun x => (p.kept? x).toList

/-- The records that are appended in a run since the history was last cleared; `earlier` are those
    from before the run. -/
def recordsSince (p : Proxy) (earlier : List Call.Record) : List Act → List Call.Record
  | [] => earlier
  | a :: rest =>
    (a.perform p).now.recordsSince (if a.clears p then [] else earlier ++ p.recorded a.flows) rest

end Proxy

namespace Call.History

theorem Remembers.clear {h : History} : h.clear.Remembers [] := List.drop_nil.symm

theorem Remembers.appendAll {h : History} {stream : List Record} (k : h.Remembers stream)
    (records : List Record) : (records.foldl History.append h).Remembers (stream ++ records) := by
  induction records generalizing h stream with
  | nil => simpa using k
  | cons r rest ih =>
      rw [List.append_cons]
      exact ih (k.append r)

theorem capacity_appendAll (h : History) (records : List Record) :
    (records.foldl History.append h).capacity = h.capacity := by
  induction records generalizing h with
  | nil => rfl
  | cons r rest ih => exact ih (h.append r)

end Call.History

theorem Command.run_cleared (s : State) (c : Command) :
    (c.run s).now.history =
      if (c.marks s).any Mark.clears then s.history.clear else s.history := by
  cases c with
  | enable name overrides =>
      rcases s.enable_cases name overrides with ⟨f, _, refused, same⟩ | ⟨config, _, done, now⟩
      · simp only [run, marks, Done.map_now, refused, same]
        rfl
      · simp only [run, marks, Done.map_now, done, now, List.any_cons, List.any_nil, Bool.or_false,
          Mark.clears, beq_iff_eq]
  | disable name =>
      rcases s.disable_cases name with ⟨_, refused, same⟩ | ⟨_, done, now⟩
      · simp only [run, marks, refused, same]
        rfl
      · simp only [run, marks, done, now]
        rfl
  | disableAll => rfl
  | reset => rfl

namespace Proxy

variable {p : Proxy}

theorem recordedState_kept (p : Proxy) (r : Request) :
    (p.recordedState r).history =
      (r.kept? p.decoder p.clock).toList.foldl Call.History.append p.state.history := by
  cases kind : r.operation? with
  | none => simp [recordedState, Request.kept?, kind]
  | some op =>
      cases op with
      | download => simp [recordedState, Request.kept?, kind, State.append]
      | thriftCall =>
          simp only [recordedState, Request.kept?, kind, Call.Recorder.recordThrift]
          cases (Call.Recorder.decode p.decoder .request r.body).1 with
          | error f => rfl
          | ok message => cases message <;> rfl

theorem enter_history_kept (p : Proxy) (x : Flow × Purpose) :
    (p.enter x.1 x.2).now.state.history =
      (p.kept? x).toList.foldl Call.History.append p.state.history := by
  obtain ⟨flow, purpose⟩ := x
  rw [enter_history]
  cases purpose with
  | injection => rfl
  | hook | exchange => exact p.recordedState_kept flow.request

theorem kept?_congr {p q : Proxy} (clock : q.clock = p.clock) (decoder : q.decoder = p.decoder) :
    q.kept? = p.kept? := by
  funext x
  rw [kept?, clock, decoder, kept?]

theorem openAll_history_kept (p : Proxy) (flows : List (Flow × Purpose)) :
    (p.openAll flows).now.state.history =
      (p.recorded flows).foldl Call.History.append p.state.history := by
  induction flows generalizing p with
  | nil => rfl
  | cons x rest ih =>
      have same : (p.enter x.1 x.2).now.recorded rest = p.recorded rest := by
        rw [recorded, kept?_congr (p.enter_clock x.1 x.2) (p.enter_decoder x.1 x.2), recorded]
      have onward := ih (p.enter x.1 x.2).now
      rw [same, enter_history_kept] at onward
      rw [recorded, List.flatMap_cons, List.foldl_append]
      exact onward

/-- An act that gives a command clears the history or leaves it alone; any other appends what it
    records. -/
theorem perform_history_kept (p : Proxy) (a : Act) :
    (a.perform p).now.state.history =
      if a.clears p then p.state.history.clear
      else (p.recorded a.flows).foldl Call.History.append p.state.history := by
  have opened := p.openAll_history_kept a.flows
  rw [a.perform_state p, Act.clears]
  cases given : a.command? with
  | none => exact opened
  | some c =>
      -- The command finds the history of before the act, since no flow has come in with it.
      rw [Act.flows_of_command? given]
      exact c.run_cleared p.state

theorem after_capacity (p : Proxy) (acts : List Act) :
    (p.after acts).state.history.capacity = p.state.history.capacity := by
  refine after_induction (motive := fun q => q.state.history.capacity = p.state.history.capacity)
    rfl ?_ acts
  intro q a same
  rw [perform_history_kept]
  split
  · exact same
  · exact (Call.History.capacity_appendAll ..).trans same

theorem after_remembers {earlier : List Call.Record} (k : p.state.history.Remembers earlier)
    (acts : List Act) : (p.after acts).state.history.Remembers (p.recordsSince earlier acts) := by
  induction acts generalizing p earlier with
  | nil => exact k
  | cons a rest ih =>
      apply ih
      rw [perform_history_kept]
      split
      · exact .clear
      · exact k.appendAll _

end Proxy

/-! ## Verification during runs -/

/-- In every run from a fresh state, and with every decoder, what verification goes by is evidence
    for all that was recorded since the history was last cleared. -/
theorem verification_sound_under_eviction {templates : List Scenario.Template}
    (distinct : (templates.map (·.name)).Nodup) {capacity : Number}
    (positive : capacity.isPositiveInteger = true) :
    ∃ s c, State.fresh? templates capacity = .ok s ∧ capacity.toNat? = some c ∧ 1 ≤ c ∧
      ∀ p : Proxy, p.state = s → ∀ acts,
        Evidence c (p.recordsSince [] acts) (p.after acts).state.history.records := by
  obtain ⟨c, integer, least⟩ := Number.toNat?_positive positive
  refine ⟨_, c, State.fresh?_ok.mpr ⟨positive, distinct, rfl⟩, integer, least, ?_⟩
  intro p fresh acts
  have empty : p.state.history = ⟨c, [], 0⟩ := by
    rw [fresh, integer]
    rfl
  have start : p.state.history.Remembers [] := by
    rw [empty]
    exact List.drop_nil.symm
  have room := p.after_capacity acts
  rw [empty] at room
  rw [Proxy.after_remembers start acts, room]
  exact evidence_lastOf c _

/-- Of two calls and a download that are recorded after a reset, the first call is lost where there
    is room for two. -/
def crowded : List Act :=
  [.pass [(sampleCall, .hook)], .command .reset,
    .pass [(sampleCall, .hook), (sampleDownload, .hook)], .advance 1000,
    .pass [(sampleCall, .hook)]]

theorem verification_sound_with_room_for_two :
    (sampleTemplates.map (·.name)).Nodup ∧ (Number.ofNat 2).isPositiveInteger = true ∧
      ∃ s, State.fresh? sampleTemplates (.ofNat 2) = .ok s ∧
        let p := Proxy.fresh s (some .plain) ⟨0⟩ false
        Evidence 2 (p.recordsSince [] crowded) (p.after crowded).state.history.records ∧
          (p.recordsSince [] crowded).length = 3 ∧
          Call.methods (p.recordsSince [] crowded) = ["OpenSession", "OpenSession"] ∧
          (Verdict.ofRecords (p.after crowded).state.history.records
            (.occurs "OpenSession")).actualCount? = some (.ofNat 1) := by
  have distinct : (sampleTemplates.map (·.name)).Nodup := by decide
  have positive : (Number.ofNat 2).isPositiveInteger = true := by decide
  refine ⟨distinct, positive, ?_⟩
  obtain ⟨s, c, fresh, integer, _, evidence⟩ :=
    verification_sound_under_eviction distinct positive
  obtain rfl : c = 2 := Option.some.inj (integer.symm.trans (by decide))
  refine ⟨s, fresh, evidence _ rfl crowded, ?_⟩
  obtain ⟨_, _, rfl⟩ := State.fresh?_ok.mp fresh
  decide +kernel

end Faultline
