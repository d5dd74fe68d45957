import Faultline.Proofs.Evidence
import Faultline.Proofs.Settling

/-! # Calls that cannot be told

What a decoder has made of a payload is told in the log before it is recorded, and both are done
under one guard. A call is therefore recorded exactly if its payload decodes, as long as the decoder
can tell what it has decoded; a message that it cannot tell is lost, although it was decoded
(`call_recorded_iff`).
-/

namespace Faultline

open Exchange Injection

/-! ## Asking the decoder -/

namespace Call.Recorder

theorem caught_decodings (direction : Direction) (payload : ByteArray) (t : Thrown) :
    (caught direction payload t).2.filterMap Notice.decoded? = [] := by
  unfold caught
  split <;> rfl

/-- A decoder is asked once, and not for an empty payload. -/
theorem decode_decodings (d : Option Decoder) (direction : Direction) (payload : ByteArray) :
    (decode d direction payload).2.filterMap Notice.decoded? =
      if payload.isEmpty then [] else (d.map fun _ => payload.size).toList := by
  unfold decode
  split
  · rfl
  · cases d with
    | none => rfl
    | some d =>
        have once : ∀ notices : List Notice, notices.filterMap Notice.decoded? = [] →
            (Notice.decoding payload.size :: notices).filterMap Notice.decoded? =
              [payload.size] := by
          intro notices quiet
          rw [List.filterMap_cons, quiet]
          rfl
        dsimp only
        split
        · exact once _ (caught_decodings ..)
        · rfl
        · split
          · exact once _ (caught_decodings ..)
          · rfl

theorem recordThrift_decodings (s : State) (d : Option Decoder) (now : Instant)
    (payload : ByteArray) :
    (recordThrift s d now payload).notices.filterMap Notice.decoded? =
      if payload.isEmpty then [] else (d.map fun _ => payload.size).toList := by
  have asked := decode_decodings d .request payload
  unfold recordThrift
  dsimp only
  split
  · exact asked
  · exact asked
  · rw [List.filterMap_append, asked]
    exact List.append_nil _

theorem caught_result (direction : Direction) (payload : ByteArray) (t : Thrown) (m : Message) :
    (caught direction payload t).1 ≠ .ok (some m) := by
  unfold caught
  split
  · exact fun same => by cases same
  · exact fun same => by cases same

/-- A message comes of a payload if the decoder makes one of it and can tell it. -/
theorem decode_some_iff {decoder : Option Decoder} {direction : Direction} {payload : ByteArray}
    {m : Message} :
    (decode decoder direction payload).1 = .ok (some m) ↔
      payload.isEmpty = false ∧ ∃ d, decoder = some d ∧ d.decode payload = .ok (.ok m) ∧
        ∃ text, d.format m = .ok text := by
  constructor
  · intro h
    unfold decode at h
    split at h
    · cases h
    · rename_i nonempty
      split at h
      · cases h
      · rename_i d
        dsimp only at h
        split at h
        · exact (caught_result _ _ _ _ h).elim
        · cases h
        · rename_i made decodes
          split at h
          · exact (caught_result _ _ _ _ h).elim
          · rename_i text tells
            obtain rfl := Option.some.inj (Except.ok.inj h)
            exact ⟨by simpa using nonempty, d, rfl, decodes, text, tells⟩
  · rintro ⟨nonempty, d, rfl, decodes, text, tells⟩
    simp [decode, nonempty, decodes, tells]

end Call.Recorder

/-! ## Messages that can be told -/

namespace Exchange.Request

variable {r : Request} {decoder : Option Call.Decoder} {m : Call.Message}

/-- The decoder makes a message of the body, which is not empty. -/
def Decodes (r : Request) (decoder : Option Call.Decoder) (m : Call.Message) : Prop :=
  r.body.isEmpty = false ∧ ∃ d, decoder = some d ∧ d.decode r.body = .ok (.ok m)

theorem Decodes.unique {n : Call.Message} (first : r.Decodes decoder m)
    (second : r.Decodes decoder n) : m = n := by
  obtain ⟨_, d, known, decodes⟩ := first
  obtain ⟨_, e, same, again⟩ := second
  obtain rfl := Option.some.inj (known.symm.trans same)
  exact Except.ok.inj (Except.ok.inj (decodes.symm.trans again))

/-- If the decoder makes a message of the body, it can tell that message. -/
def IsTold (r : Request) (decoder : Option Call.Decoder) : Prop :=
  ∀ m, r.Decodes decoder m → ∃ d, decoder = some d ∧ ∃ text, d.format m = .ok text

/-- What is kept of a call is the message that was made of it and can be told. -/
theorem kept?_thriftCall (call : r.operation? = some .thriftCall) {now : Instant}
    {record : Call.Record} :
    r.kept? decoder now = some record ↔
      ∃ m, r.Decodes decoder m ∧ r.IsTold decoder ∧ record = .ofMessage now m := by
  constructor
  · intro h
    simp only [kept?, call] at h
    split at h
    · rename_i message made
      obtain ⟨m, rfl, rfl⟩ := Option.map_eq_some_iff.mp h
      obtain ⟨nonempty, d, known, decodes, tells⟩ := Call.Recorder.decode_some_iff.mp made
      have decoded : r.Decodes decoder m := ⟨nonempty, d, known, decodes⟩
      refine ⟨m, decoded, fun n again => ⟨d, known, ?_⟩, rfl⟩
      rw [again.unique decoded]
      exact tells
    · cases h
  · rintro ⟨m, decoded, told, rfl⟩
    obtain ⟨d, rfl, tells⟩ := told m decoded
    obtain ⟨nonempty, _, same, decodes⟩ := decoded
    obtain rfl := Option.some.inj same
    have made : (Call.Recorder.decode (some d) .request r.body).1 = .ok (some m) :=
      Call.Recorder.decode_some_iff.mpr ⟨nonempty, d, rfl, decodes, tells⟩
    simp only [kept?, call, made, Option.map_some]

end Exchange.Request

/-! ## Full histories -/

namespace Call.History

/-- A full history loses its oldest record, and any other none. -/
theorem append_room {h : History} (room : 1 ≤ h.capacity) (fits : h.size ≤ h.capacity)
    (r : Record) :
    h.append r = ⟨h.capacity,
      (if h.size < h.capacity then h.records else h.records.tail) ++ [r],
      h.evicted + if h.size < h.capacity then 0 else 1⟩ := by
  by_cases free : h.size < h.capacity
  · have none : h.overflow = 0 := by
      rw [overflow_eq fits, if_pos free]
    simp only [append, none, List.drop_zero, free, if_true]
  · have one : h.overflow = 1 := by
      rw [overflow_eq fits, if_neg free]
    have some : h.records ≠ [] := by
      intro empty
      simp only [size, empty, List.length_nil] at free
      omega
    simp only [append, one, free, if_false, List.drop_one, List.tail_append_of_ne_nil some]

/-- No record is appended without a trace. -/
theorem append_ne (h : History) (r : Record) : h.append r ≠ h := by
  intro same
  have evicted : h.evicted + h.overflow = h.evicted := congrArg History.evicted same
  have size : ((h.records ++ [r]).drop h.overflow).length = h.records.length :=
    congrArg (fun h => h.records.length) same
  rw [List.length_drop, List.length_append, List.length_singleton] at size
  omega

end Call.History

/-! ## Calls that pass through the hook -/

namespace Proxy

variable (p : Proxy) {flow : Flow}

theorem hookNotices_decodings (flow : Flow) (result : Except Failure Unit) :
    (hookNotices flow result).filterMap Notice.decoded? = [] := by
  unfold hookNotices hookFailed
  split
  · rfl
  · split <;> rfl

theorem enter_call (call : flow.request.operation? = some .thriftCall) :
    (p.enter flow .hook).notices =
        (Call.Recorder.recordThrift p.state p.decoder p.clock flow.request.body).notices ∧
      ∃ result, (p.enter flow .hook).result = (p.passages.length, .settled result) := by
  simp only [enter, runHook, call]
  exact ⟨rfl, _, rfl⟩

/-- The hook leaves the flow of a call as it is and keeps to itself whatever is raised. -/
theorem pass_call (call : flow.request.operation? = some .thriftCall) :
    (p.pass [(flow, .hook)]).now.passages[p.passages.length]? =
      some ⟨flow, .hook, none, none, true, none⟩ := by
  obtain ⟨_, result, settled⟩ := p.enter_call call
  rw [pass_alone, settled]
  rfl

theorem pass_call_decodings (call : flow.request.operation? = some .thriftCall) :
    (p.pass [(flow, .hook)]).notices.filterMap Notice.decoded? =
      if flow.request.body.isEmpty then []
      else (p.decoder.map fun _ => flow.request.body.size).toList := by
  obtain ⟨notices, result, settled⟩ := p.enter_call call
  rw [← Call.Recorder.recordThrift_decodings p.state p.decoder p.clock, ← notices]
  have found : (p.enter flow .hook).now.passages[p.passages.length]? =
      some (opening (flow, .hook)) := by
    rw [enter_passages, List.getElem?_append_right (Nat.le_refl _), Nat.sub_self]
    rfl
  have closed : ((p.enter flow .hook).now.close ⟨p.passages.length, none, result⟩).notices =
      hookNotices flow result := by
    rw [close, found]
    rfl
  have all : (p.pass [(flow, .hook)]).notices =
      (p.enter flow .hook).notices ++ hookNotices flow result := by
    simp only [pass, openAll, Done.andThen_notices, Done.andThen_result, Done.andThen_now,
      Done.map_result, Done.map_now, Done.map_notices, Done.nothing_result, Done.nothing_now,
      Done.nothing_notices, settled, settleAll, closeAll, closed, List.append_nil,
      List.nil_append]
  rw [all, List.filterMap_append, hookNotices_decodings, List.append_nil]

theorem pass_call_history (flow : Flow) :
    (p.pass [(flow, .hook)]).now.state.history =
      (flow.request.kept? p.decoder p.clock).toList.foldl Call.History.append p.state.history := by
  rw [pass_state, openAll_history_kept, recorded, List.flatMap_singleton]
  rfl

theorem pass_call_recorded (call : flow.request.operation? = some .thriftCall) {m : Call.Message}
    (decoded : flow.request.Decodes p.decoder m) (told : flow.request.IsTold p.decoder) :
    (p.pass [(flow, .hook)]).now.state.history =
      p.state.history.append (.ofMessage p.clock m) := by
  have kept : flow.request.kept? p.decoder p.clock = some (.ofMessage p.clock m) :=
    (Request.kept?_thriftCall call).mpr ⟨m, decoded, told, rfl⟩
  rw [pass_call_history, kept]
  rfl

theorem pass_call_unrecorded (call : flow.request.operation? = some .thriftCall)
    (lost : ∀ m, flow.request.Decodes p.decoder m → ¬ flow.request.IsTold p.decoder) :
    (p.pass [(flow, .hook)]).now.state.history = p.state.history := by
  have none : flow.request.kept? p.decoder p.clock = none := by
    rw [Option.eq_none_iff_forall_ne_some]
    intro record kept
    obtain ⟨m, decoded, told, _⟩ := (Request.kept?_thriftCall call).mp kept
    exact lost m decoded told
  rw [pass_call_history, none]
  rfl

theorem pass_call_registry (call : flow.request.operation? = some .thriftCall) :
    (p.pass [(flow, .hook)]).now.state.registry = p.state.registry := by
  have unclaimed : p.claim? flow .hook = none := by
    simp [claim?, Purpose.meetsFaults, call]
  have entered := p.enter_registry flow .hook
  rw [unclaimed] at entered
  rw [pass_state]
  exact entered

end Proxy

/-- A history in use has room for at least one record and holds no more than it has room for. -/
theorem Reachable.room {templates : List Scenario.Template} {capacity : Number} {p : Proxy}
    (h : Reachable templates capacity p) :
    1 ≤ p.state.history.capacity ∧ p.state.history.size ≤ p.state.history.capacity := by
  obtain ⟨state, decoder, now, logged, acts, fresh, rfl⟩ := h
  obtain ⟨positive, _, rfl⟩ := State.fresh?_ok.mp fresh
  obtain ⟨c, integer, least⟩ := Number.toNat?_positive positive
  let q := Proxy.fresh ⟨templates.map fun t => ⟨t, none⟩, ⟨capacity.toNat?.getD 0, [], 0⟩⟩ decoder
    now logged
  have empty : q.state.history.Remembers [] := List.drop_nil.symm
  have size := (Proxy.after_remembers empty acts).length
  refine ⟨?_, ?_⟩
  · rw [Proxy.after_capacity, integer]
    exact least
  · exact Nat.le_trans (Nat.le_of_eq size) (Nat.min_le_left ..)

/-- What is due for a call: the message that is made of its body is recorded, and nothing else. -/
structure CallRecorded (p : Proxy) (r : Request) (after : Call.History) : Prop where
  /-- The message is appended as it is, and a full history loses its oldest record for it. -/
  decoded : ∀ m, r.Decodes p.decoder m → after = ⟨p.state.history.capacity,
    (if p.state.history.size < p.state.history.capacity then p.state.history.records
      else p.state.history.records.tail) ++
        [.thrift p.clock m.method m.messageType m.sequenceId m.fields],
    p.state.history.evicted +
      if p.state.history.size < p.state.history.capacity then 0 else 1⟩
  undecoded : (¬ ∃ m, r.Decodes p.decoder m) → after = p.state.history

/-- The hook asks the decoder once about a call with a body, leaves the flow as it is and rejects
    nothing. What is due for the call is recorded exactly if its message, if there is one, can be
    told in the log; otherwise nothing is recorded. -/
theorem call_recorded_iff {templates : List Scenario.Template} {capacity : Number} {p : Proxy}
    (reachable : Reachable templates capacity p) {flow : Flow}
    (call : flow.request.operation? = some .thriftCall) :
    let d := p.pass [(flow, .hook)]
    d.now.passages[p.passages.length]? = some ⟨flow, .hook, none, none, true, none⟩ ∧
      d.now.state.registry = p.state.registry ∧
      d.notices.filterMap Notice.decoded? =
        (if flow.request.body.isEmpty then []
          else (p.decoder.map fun _ => flow.request.body.size).toList) ∧
      (CallRecorded p flow.request d.now.state.history ↔ flow.request.IsTold p.decoder) ∧
      (flow.request.IsTold p.decoder ∨ d.now.state.history = p.state.history) := by
  obtain ⟨least, fits⟩ := reachable.room
  refine ⟨p.pass_call call, p.pass_call_registry call, p.pass_call_decodings call, ⟨?_, ?_⟩, ?_⟩
  · intro due
    by_contra untold
    obtain ⟨m, decoded⟩ : ∃ m, flow.request.Decodes p.decoder m := by
      by_contra nobody
      exact untold fun m decoded => absurd ⟨m, decoded⟩ nobody
    have written := due.decoded m decoded
    rw [p.pass_call_unrecorded call fun _ _ => untold] at written
    exact Call.History.append_ne _ _ ((Call.History.append_room least fits _).trans written.symm)
  · intro told
    refine ⟨?_, ?_⟩
    · intro m decoded
      rw [p.pass_call_recorded call decoded told]
      exact Call.History.append_room least fits _
    · intro undecoded
      exact p.pass_call_unrecorded call fun m decoded => absurd ⟨m, decoded⟩ undecoded
  · by_cases told : flow.request.IsTold p.decoder
    · exact .inl told
    · exact .inr (p.pass_call_unrecorded call fun _ _ => told)

/-- There is room for one record, and a download takes it until a call comes. -/
theorem call_recorded_iff_after_download :
    ∃ p, Reachable sampleTemplates (.ofNat 1) p ∧
      sampleCall.request.operation? = some .thriftCall ∧
      p.state.history.records = [.download ⟨0⟩ sampleDownload.request.url] ∧
      sampleCall.request.IsTold p.decoder ∧
      CallRecorded p sampleCall.request (p.pass [(sampleCall, .hook)]).now.state.history ∧
      (p.pass [(sampleCall, .hook)]).now.state.history =
        ⟨1, [.thrift ⟨0⟩ "OpenSession" "CALL" (.ofNat 1) .empty], 1⟩ := by
  let p := (Proxy.serving sampleTemplates 1 (some .plain)).after [.pass [(sampleDownload, .hook)]]
  have reachable : Reachable sampleTemplates (.ofNat 1) p := .serving (by decide) (by decide) _ _
  have call : sampleCall.request.operation? = some .thriftCall := by decide +kernel
  have told : sampleCall.request.IsTold p.decoder := fun _ _ => ⟨_, rfl, _, rfl⟩
  obtain ⟨_, _, _, recorded, _⟩ := call_recorded_iff reachable call
  exact ⟨p, reachable, call, by decide +kernel, told, recorded.mpr told, by decide +kernel⟩

/-- Two decoders make the same of every payload, and only the one that finds a line for the log
    gets a call recorded. -/
theorem call_lost_without_line :
    let mute := Call.Decoder.plain.speechless (.failure .badUrl)
    let history := fun d =>
      ((Proxy.fresh ⟨[], ⟨4, [], 0⟩⟩ (some d) ⟨0⟩ false).pass [(sampleCall, .hook)]).now.state.history
    mute.decode = Call.Decoder.plain.decode ∧
      sampleCall.request.Decodes (some mute) ⟨"OpenSession", "CALL", .ofNat 1, .empty, []⟩ ∧
      (history .plain).records = [.thrift ⟨0⟩ "OpenSession" "CALL" (.ofNat 1) .empty] ∧
      (history mute).records = [] := by
  intro mute history
  have decodes : sampleCall.request.Decodes (some mute)
      ⟨"OpenSession", "CALL", .ofNat 1, .empty, []⟩ :=
    ⟨by decide +kernel, mute, rfl, by decide +kernel⟩
  exact ⟨rfl, decodes, by decide +kernel, by decide +kernel⟩

end Faultline
