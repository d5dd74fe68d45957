import Faultline.Proofs.Trace
import Mathlib.Data.List.DropRight

/-! # The history remembers the end of the stream

The records of a run form a stream that starts anew with every clearing mark. The history moves
along with the marks of the trace (`after_history`), and what it holds is the end of the stream, as
much of it as the capacity allows (`History.Remembers`).
-/

namespace Faultline

open Exchange Injection

/-! ## The stream -/

namespace Mark

def record? : Mark → Option Call.Record
  | recorded r => some r
  | enabled .. | disabled _ | disabledAll | reset | injected _ => none

/-- Whether the stream of records starts anew with a mark. -/
def clears : Mark → Bool
  | enabled _ config => config.operation == .download
  | reset => true
  | disabled _ | disabledAll | recorded _ | injected _ => false

end Mark

/-- The records in a trace since the last mark that clears. -/
def recordStream (marks : List Mark) : List Call.Record :=
  (marks.rtakeWhile fun m => !m.clears).filterMap Mark.record?

theorem recordStream_concat (marks : List Mark) (m : Mark) :
    recordStream (marks ++ [m]) =
      if m.clears then [] else recordStream marks ++ m.record?.toList := by
  have told : [m].filterMap Mark.record? = m.record?.toList := by
    cases m <;> rfl
  unfold recordStream
  rw [List.rtakeWhile_concat]
  cases m.clears with
  | true => rfl
  | false =>
      simp only [Bool.not_false, if_true, List.filterMap_append, told, Bool.false_eq_true, if_false]

/-- The end of a stream of records, as much of it as there is room for. -/
def lastOf (capacity : Nat) (stream : List Call.Record) : List Call.Record :=
  stream.drop (stream.length - capacity)

theorem length_lastOf (capacity : Nat) (stream : List Call.Record) :
    (lastOf capacity stream).length = min capacity stream.length := by
  rw [lastOf, List.length_drop]
  omega

/-! ## The history along the stream -/

namespace Call.History

/-- What becomes of a history at a mark. -/
def mark (h : History) (m : Mark) : History :=
  match m.record? with
  | some r => h.append r
  | none => if m.clears then h.clear else h

/-- A history holds the end of a stream, as much of it as it has room for. -/
def Remembers (h : History) (stream : List Record) : Prop :=
  h.records = lastOf h.capacity stream

theorem Remembers.length {h : History} {stream : List Record} (k : h.Remembers stream) :
    h.records.length = min h.capacity stream.length := by
  rw [k, length_lastOf]

theorem Remembers.append {h : History} {stream : List Record} (k : h.Remembers stream)
    (r : Record) : (h.append r).Remembers (stream ++ [r]) := by
  have room : stream.length - h.capacity ≤ stream.length := Nat.sub_le ..
  have full : stream.length - h.capacity + h.overflow = (stream ++ [r]).length - h.capacity := by
    rw [overflow, k.length, List.length_append, List.length_singleton]
    omega
  calc (h.records ++ [r]).drop h.overflow
      = ((stream ++ [r]).drop (stream.length - h.capacity)).drop h.overflow := by
        rw [List.drop_append_of_le_length room, k, lastOf]
    _ = lastOf h.capacity (stream ++ [r]) := by
        rw [List.drop_drop, full, lastOf]

@[simp] theorem capacity_mark (h : History) (m : Mark) : (h.mark m).capacity = h.capacity := by
  unfold mark
  split
  · rfl
  · split <;> rfl

/-- No mark both records and clears. -/
theorem Remembers.mark {h : History} {marks : List Mark} (k : h.Remembers (recordStream marks))
    (m : Mark) : (h.mark m).Remembers (recordStream (marks ++ [m])) := by
  have same : m.clears = false → m.record? = none → (h.mark m).Remembers
      (recordStream (marks ++ [m])) := by
    intro keeps silent
    simpa only [History.mark, recordStream_concat, silent, keeps, Bool.false_eq_true, if_false,
      Option.toList_none, List.append_nil] using k
  have cleared : m.clears = true → m.record? = none → (h.mark m).Remembers
      (recordStream (marks ++ [m])) := by
    intro clears silent
    simp only [History.mark, recordStream_concat, silent, clears, if_true]
    exact List.drop_nil.symm
  cases m with
  | recorded r =>
      rw [recordStream_concat]
      exact k.append r
  | enabled name config =>
      cases target : (Mark.enabled name config).clears with
      | true => exact cleared target rfl
      | false => exact same target rfl
  | reset => exact cleared rfl rfl
  | disabled name => exact same rfl rfl
  | disabledAll => exact same rfl rfl
  | injected claim => exact same rfl rfl

theorem Remembers.marks {h : History} {earlier : List Mark}
    (k : h.Remembers (recordStream earlier)) (marks : List Mark) :
    (marks.foldl History.mark h).Remembers (recordStream (earlier ++ marks)) := by
  induction marks generalizing h earlier with
  | nil => simpa using k
  | cons m rest ih =>
      rw [List.append_cons]
      exact ih (k.mark m)

theorem capacity_marks (h : History) (marks : List Mark) :
    (marks.foldl History.mark h).capacity = h.capacity := by
  induction marks generalizing h with
  | nil => rfl
  | cons m rest ih => exact (ih (h.mark m)).trans (h.capacity_mark m)

end Call.History

/-! ## Runs move the history -/

/-- A decoder that always gives an answer, be it that it refuses the payload. -/
structure Call.Decoder.NeverThrows (d : Call.Decoder) : Prop where
  decode : ∀ payload, ∃ answer, d.decode payload = .ok answer
  format : ∀ message, ∃ text, d.format message = .ok text

/-- With a decoder that does not throw, what is recorded of a Thrift call is what is due for it. -/
theorem Call.Recorder.recordThrift_history {d : Option Decoder}
    (quiet : ∀ e ∈ d, e.NeverThrows) {r : Request} (kind : r.operation? = some .thriftCall)
    (s : State) (now : Instant) :
    (recordThrift s d now r.body).now.history =
      (r.record? d now).toList.foldl History.append s.history := by
  cases d with
  | none =>
      cases empty : r.body.isEmpty <;> simp [recordThrift, decode, Request.record?, kind, empty]
  | some e =>
      have never := quiet e rfl
      obtain ⟨answer, decoded⟩ := never.decode r.body
      cases empty : r.body.isEmpty with
      | true => simp [recordThrift, decode, Request.record?, kind, empty]
      | false =>
          cases answer with
          | error message => simp [recordThrift, decode, Request.record?, kind, empty, decoded]
          | ok m =>
              obtain ⟨text, told⟩ := never.format m
              simp [recordThrift, decode, Request.record?, kind, empty, decoded, told, State.append,
                Record.ofMessage]

theorem Command.run_history (s : State) (c : Command) :
    (c.run s).now.history = (c.marks s).foldl Call.History.mark s.history := by
  cases c with
  | enable name overrides =>
      rcases s.enable_cases name overrides with ⟨f, _, refused, same⟩ | ⟨config, _, done, now⟩
      · simp only [run, marks, Done.map_now, refused, same, List.foldl_nil]
      · simp only [run, marks, Done.map_now, done, now, List.foldl_cons, List.foldl_nil,
          Call.History.mark, Mark.record?, Mark.clears, beq_iff_eq]
  | disable name =>
      rcases s.disable_cases name with ⟨_, refused, same⟩ | ⟨_, done, now⟩
      · simp only [run, marks, refused, same, List.foldl_nil]
      · simp only [run, marks, done, now]
        rfl
  | disableAll => rfl
  | reset => rfl

namespace Proxy

variable {p : Proxy}

theorem recordedState_history (quiet : ∀ d ∈ p.decoder, d.NeverThrows) (r : Request) :
    (p.recordedState r).history =
      (r.record? p.decoder p.clock).toList.foldl Call.History.append p.state.history := by
  cases kind : r.operation? with
  | none => simp [recordedState, Request.record?, kind]
  | some op =>
      cases op with
      | download => simp [recordedState, Request.record?, kind, State.append]
      | thriftCall =>
          simp only [recordedState, kind]
          exact Call.Recorder.recordThrift_history quiet kind p.state p.clock

/-- A flow leaves its record, and nothing else, in the history; its claim leaves nothing. -/
theorem enter_history_marks (quiet : ∀ d ∈ p.decoder, d.NeverThrows) (flow : Flow)
    (purpose : Purpose) :
    (p.enter flow purpose).now.state.history =
      (p.enterMarks flow purpose).foldl Call.History.mark p.state.history := by
  have recording : ∀ (record : Option Call.Record) (h : Call.History),
      (record.map Mark.recorded).toList.foldl Call.History.mark h =
        record.toList.foldl Call.History.append h := by
    intro record h
    cases record <;> rfl
  have claiming : ∀ (claim : Option Claim) (h : Call.History),
      (claim.map Mark.injected).toList.foldl Call.History.mark h = h := by
    intro claim h
    cases claim <;> rfl
  rw [enter_history, enterMarks, List.foldl_append, recording, claiming]
  cases purpose with
  | injection => rfl
  | hook => exact recordedState_history quiet flow.request
  | exchange errand => exact recordedState_history quiet flow.request

theorem openAll_history (quiet : ∀ d ∈ p.decoder, d.NeverThrows) (flows : List (Flow × Purpose)) :
    (p.openAll flows).now.state.history =
      (p.openMarks flows).foldl Call.History.mark p.state.history := by
  induction flows generalizing p with
  | nil => rfl
  | cons x rest ih =>
      have still : ∀ d ∈ (p.enter x.1 x.2).now.decoder, d.NeverThrows := by
        rw [enter_decoder]
        exact quiet
      rw [openMarks, List.foldl_append, ← enter_history_marks quiet]
      exact ih still

theorem perform_history (quiet : ∀ d ∈ p.decoder, d.NeverThrows) (a : Act) :
    (a.perform p).now.state.history = (a.marks p).foldl Call.History.mark p.state.history := by
  rw [a.perform_state p, Act.marks, List.foldl_append, ← openAll_history quiet]
  cases given : a.command? with
  | none => rfl
  | some c =>
      rw [Act.flows_of_command? given]
      exact c.run_history p.state

theorem after_history (quiet : ∀ d ∈ p.decoder, d.NeverThrows) (acts : List Act) :
    (p.after acts).state.history = (p.trace acts).foldl Call.History.mark p.state.history := by
  induction acts generalizing p with
  | nil => rfl
  | cons a rest ih =>
      have still : ∀ d ∈ (a.perform p).now.decoder, d.NeverThrows := by
        rw [a.perform_decoder p]
        exact quiet
      rw [trace, List.foldl_append, ← perform_history quiet]
      exact ih still

end Proxy

end Faultline
