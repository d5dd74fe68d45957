import Mathlib.Algebra.Ring.Nat
import Faultline.Proofs.Forwarding
import Faultline.Proofs.Telling

/-! # What is captured of an answer

What is captured of an answer that comes in chunks depends on its bytes alone: all of them, or none
if there are too many (`capture_eq`). The invariant of the loop is that what has been gathered is
all that has come, and that nothing is gathered any more once it has been given up. So the response
hook is told of an answer once, with its bytes, or not at all.
-/

namespace Faultline

open Exchange Injection

namespace Exchange

/-! ## Gathering chunks -/

/-- How many bytes come in chunks. -/
def total (chunks : List ByteArray) : Nat := (chunks.map ByteArray.size).sum

theorem foldl_append (chunks : List ByteArray) (gathered : ByteArray) :
    chunks.foldl (· ++ ·) gathered = gathered ++ whole chunks := by
  induction chunks generalizing gathered with
  | nil => exact ByteArray.append_empty.symm
  | cons chunk chunks ih =>
      rw [whole, List.foldl_cons, List.foldl_cons, ih, ih, ByteArray.empty_append,
        ByteArray.append_assoc]

theorem whole_cons (chunk : ByteArray) (chunks : List ByteArray) :
    whole (chunk :: chunks) = chunk ++ whole chunks := by
  rw [whole, List.foldl_cons, foldl_append, ByteArray.empty_append]

theorem whole_size (chunks : List ByteArray) : (whole chunks).size = total chunks := by
  induction chunks with
  | nil => rfl
  | cons chunk chunks ih =>
      rw [whole_cons, ByteArray.size_append, ih, total, total, List.map_cons, List.sum_cons]

theorem whole_bytes (chunks : List ByteArray) :
    (whole chunks).data.toList = chunks.flatMap (·.data.toList) := by
  induction chunks with
  | nil => rfl
  | cons chunk chunks ih =>
      rw [whole_cons, ByteArray.toList_data_append, ih, List.flatMap_cons]

theorem whole_of_bytes {others chunks : List ByteArray}
    (same : others.flatMap (·.data.toList) = chunks.flatMap (·.data.toList)) :
    whole others = whole chunks := by
  rw [← whole_bytes, ← whole_bytes] at same
  exact ByteArray.ext (Array.toList_inj.mp same)

/-- What was given up stays so. -/
theorem gather_none (chunks : List ByteArray) : chunks.foldl Capture.feed none = none := by
  induction chunks with
  | nil => rfl
  | cons chunk chunks ih => exact ih

/-- As long as it fits, all that has come is gathered. -/
theorem gather_some (chunks : List ByteArray) {gathered : ByteArray}
    (fits : gathered.size ≤ captureLimit) :
    chunks.foldl Capture.feed (some gathered) =
      if gathered.size + total chunks ≤ captureLimit then some (gathered ++ whole chunks)
      else none := by
  induction chunks generalizing gathered with
  | nil =>
      have all : gathered.size + total [] ≤ captureLimit := fits
      rw [if_pos all]
      exact congrArg some ByteArray.append_empty.symm
  | cons chunk chunks ih =>
      have more : gathered.size + total (chunk :: chunks) =
          gathered.size + chunk.size + total chunks := by
        rw [total, List.map_cons, List.sum_cons, Nat.add_assoc]
        rfl
      rw [List.foldl_cons, Capture.feed, Option.bind_some, more]
      split
      · rename_i exceeds
        rw [gather_none, if_neg (by omega)]
      · rename_i within
        have size : (gathered ++ chunk).size = gathered.size + chunk.size := ByteArray.size_append
        rw [ih (by omega), size, whole_cons, ByteArray.append_assoc]

/-- What is captured does not depend on how the bytes came. -/
theorem capture_eq (chunks : List ByteArray) :
    capture chunks = if total chunks ≤ captureLimit then some (whole chunks) else none := by
  have empty : ByteArray.empty.size ≤ captureLimit := by decide
  have gathered := gather_some chunks empty
  rwa [ByteArray.empty_append, ByteArray.size_empty, Nat.zero_add] at gathered

/-! ## Handing over -/

theorem hookFailed_decodings (message : String) (t : Thrown) (context : Members) :
    (hookFailed message t context).filterMap Notice.decoded? = [] := by
  unfold hookFailed
  split <;> rfl

theorem inspect_notices (d : Option Call.Decoder) (payload : ByteArray) :
    (inspect d (.ok payload)).2 = (Call.Recorder.decode d .response payload).2 := by
  unfold inspect
  dsimp only
  split
  · rename_i decoded
    rw [decoded]
  · rename_i failed
    rw [failed]

/-- The decoder is asked once about the answer to a call with a body, and about no other. -/
theorem responseHook_decodings (d : Option Call.Decoder) {flow : Flow} {status : Number}
    {payload : ByteArray} (given : flow.response = some ⟨status, .ok payload⟩) :
    (responseHook d flow).filterMap Notice.decoded? =
      if flow.request.operation? = some .thriftCall ∧ payload.isEmpty = false then
        (d.map fun _ => payload.size).toList
      else [] := by
  have asked := Call.Recorder.decode_decodings d .response payload
  rw [← inspect_notices] at asked
  unfold responseHook
  rw [given]
  cases kind : flow.request.operation? with
  | none => rfl
  | some operation =>
      cases operation with
      | download => rfl
      | thriftCall =>
          have same : (if (some Operation.thriftCall = some .thriftCall ∧ payload.isEmpty = false)
              then (d.map fun _ => payload.size).toList else []) =
              if payload.isEmpty then [] else (d.map fun _ => payload.size).toList := by
            cases payload.isEmpty <;> simp
          rw [same, ← asked]
          dsimp only
          rcases inspect d (.ok payload) with ⟨result, notices⟩
          cases result with
          | ok message => rfl
          | error t =>
              rw [List.filterMap_append, hookFailed_decodings, List.append_nil]

/-- The flow with the answer of the server. -/
def Flow.answered (flow : Flow) (status : Option Number) (body : ByteArray) : Flow :=
  { flow with response := some ⟨status.getD (.ofNat 0), .ok body⟩ }

/-- What becomes of an answer that the server gives in chunks. -/
theorem contact_answers (d : Option Call.Decoder) (flow : Flow) (target path : String)
    (status : Option Number) (contentType : Option String) (chunks : List ByteArray) :
    contact d flow target path (.responds status contentType chunks true) =
      ⟨⟨.written (clientStatus status) contentType (whole chunks),
          some ⟨target, flow.request.method, path, flow.request.body, none⟩⟩,
        if total chunks ≤ captureLimit then flow.answered status (whole chunks) else flow,
        if total chunks ≤ captureLimit then
          responseHook d (flow.answered status (whole chunks))
        else []⟩ := by
  simp only [contact, capture_eq]
  by_cases fits : total chunks ≤ captureLimit
  · simp only [fits, if_true]
    rfl
  · simp only [fits, if_false]
    rfl

end Exchange

namespace Proxy

/-! ## Flows that were sent on -/

/-- A flow to which nothing was done is sent on if there is a server. -/
theorem conclude_ofRequest (d : Option Call.Decoder) (request : Request) (errand : Errand) :
    conclude d (.ofRequest request .none) errand =
      match errand.route.target.filter (!·.isEmpty) with
      | none => .nothing (.ofRequest request .none) ⟨plainAnswer 502 noTargetText, none⟩
      | some server =>
        contact d (.ofRequest request .none) server errand.route.path errand.backend := rfl

/-- What becomes of an answer in chunks to a flow that is sent on. -/
structure HandsOver (d : Option Call.Decoder) (flow : Flow) (errand : Errand)
    (status : Option Number) (contentType : Option String) (chunks : List ByteArray) : Prop where
  /-- The response hook is run once, on the flow with all of the answer. -/
  fits : total chunks ≤ captureLimit →
    (conclude d flow errand).now = flow.answered status (whole chunks) ∧
      (conclude d flow errand).notices = responseHook d (flow.answered status (whole chunks))
  /-- It is not run at all, and there is no response. -/
  exceeds : captureLimit < total chunks →
    (conclude d flow errand).now = flow ∧ (conclude d flow errand).notices = []
  decoded : (conclude d flow errand).notices.filterMap Notice.decoded? =
    if flow.request.operation? = some .thriftCall ∧ 0 < total chunks ∧
      total chunks ≤ captureLimit then (d.map fun _ => total chunks).toList
    else []
  /-- Nobody can tell how the bytes came. -/
  resplit : ∀ others : List ByteArray,
    others.flatMap (·.data.toList) = chunks.flatMap (·.data.toList) →
      conclude d flow { errand with backend := .responds status contentType others true } =
        conclude d flow errand

theorem handsOver {d : Option Call.Decoder} {flow : Flow} {errand : Errand}
    {status : Option Number} {contentType : Option String} {chunks : List ByteArray}
    (answers : errand.backend = .responds status contentType chunks true) {f : Forwarded}
    (sent : (conclude d flow errand).result.forwarded = some f) :
    HandsOver d flow errand status contentType chunks := by
  obtain ⟨_, asked⟩ := conclude_forwarded sent
  have own : conclude d flow errand =
      contact d flow f.target errand.route.path (.responds status contentType chunks true) := by
    rw [← asked, ← answers]
  refine ⟨?_, ?_, ?_, ?_⟩
  · intro fits
    rw [own, contact_answers]
    exact ⟨if_pos fits, if_pos fits⟩
  · intro exceeds
    rw [own, contact_answers]
    exact ⟨if_neg (by omega), if_neg (by omega)⟩
  · rw [own, contact_answers]
    dsimp only
    by_cases fits : total chunks ≤ captureLimit
    · have given : (flow.answered status (whole chunks)).response =
          some ⟨status.getD (.ofNat 0), .ok (whole chunks)⟩ := rfl
      have nonempty : (whole chunks).isEmpty = false ↔ 0 < total chunks := by
        rw [← whole_size, ByteArray.isEmpty, beq_eq_false_iff_ne, Nat.pos_iff_ne_zero]
      rw [if_pos fits, responseHook_decodings d given]
      simp only [nonempty, whole_size, fits, and_true]
      rfl
    · rw [if_neg fits, if_neg (fun seen => fits seen.2.2)]
      rfl
  · intro others same
    have body := whole_of_bytes same
    have size : total others = total chunks := by rw [← whole_size, body, whole_size]
    rw [asked, own, contact_answers, contact_answers, body, size]

/-- What the decoder is asked at the end of an exchange to which nothing was done. -/
theorem conclude_decodings (d : Option Call.Decoder) (request : Request) {errand : Errand}
    {status : Option Number} {contentType : Option String} {chunks : List ByteArray}
    (answers : errand.backend = .responds status contentType chunks true) :
    (conclude d (.ofRequest request .none) errand).notices.filterMap Notice.decoded? =
      if request.operation? = some .thriftCall ∧
        (errand.route.target.filter (!·.isEmpty)).isSome ∧ 0 < total chunks ∧
          total chunks ≤ captureLimit then (d.map fun _ => total chunks).toList
      else [] := by
  have fresh := conclude_ofRequest d request errand
  cases known : errand.route.target.filter (!·.isEmpty) with
  | none =>
      rw [known] at fresh
      rw [fresh, if_neg (fun seen => by cases seen.2.1)]
      rfl
  | some server =>
      rw [known] at fresh
      obtain ⟨f, shown, _⟩ := contact_shows d (.ofRequest request .none) errand.route server
        errand.backend
      have sent : (conclude d (.ofRequest request .none) errand).result.forwarded = some f := by
        rw [fresh]
        exact shown
      rw [(handsOver answers sent).decoded, Option.isSome_some]
      simp only [true_and]
      rfl

end Proxy

/-! ## Exchanges -/

section
variable {p : Proxy} {target : Option String} {r : Proxy.Incoming} {route : Route}
  {body : ByteArray} {status : Option Number} {contentType : Option String}
  {chunks : List ByteArray}

/-- The response that an exchange has at any time after it came in, if none is handed to it. -/
theorem after_exchange_response (h : p.InLine)
    (way : Route.resolve? r.rawTarget r.hostHeader target = .ok route) (there : r.body = .ok body)
    (answers : r.backend = .responds status contentType chunks true) {acts : List Act}
    (unreceived : Unreceived p.passages.length acts) :
    ∃ q, (p.after (.exchange target r :: acts)).passages[p.passages.length]? = some q ∧
      q.flow.request = r.request route body ∧
      q.flow.response =
        if (q.ending.bind (·.forwarded)).isSome ∧ total chunks ≤ captureLimit then
          some ⟨status.getD (.ofNat 0), .ok (whole chunks)⟩
        else none := by
  obtain ⟨t, q, last, stands, one, kept⟩ := after_exchange_passage h way there acts
  obtain rfl := kept unreceived
  refine ⟨q, last, (stands.forwarded one).1, ?_⟩
  cases stands with
  | waits => rfl
  | closed u s carries clear =>
      have bare : u.flow.response = none := clear.resolve_left fun given => given unreceived
      have ending := closePassage_ending p.decoder carries.purpose s
      have flow : (Proxy.closePassage p.decoder u s).now.flow =
          (Proxy.conclude p.decoder u.flow (r.errand route)).now := by
        simp only [Proxy.closePassage, carries.purpose]
      rw [ending, flow, Option.bind_some]
      cases sent : (Proxy.conclude p.decoder u.flow (r.errand route)).result.forwarded with
      | none =>
          rw [Proxy.conclude_unsent sent, bare]
          rfl
      | some f =>
          have handed := Proxy.handsOver answers sent
          by_cases fits : total chunks ≤ captureLimit
          · rw [(handed.fits fits).1, if_pos ⟨rfl, fits⟩]
            rfl
          · rw [(handed.exceeds (by omega)).1, bare, if_neg (fun both => fits both.2)]

/-- What is told while a call passes: what recording it tells, and what closing its passage does. -/
theorem pass_call_notices (p : Proxy) {flow : Flow}
    (call : flow.request.operation? = some .thriftCall) (errand : Errand) :
    ∃ result, (p.pass [(flow, .exchange errand)]).notices =
      (Call.Recorder.recordThrift p.state p.decoder p.clock flow.request.body).notices ++
        (Proxy.hookNotices flow result ++ (Proxy.conclude p.decoder flow errand).notices) := by
  obtain ⟨notices, result, settled⟩ :
      (p.enter flow (.exchange errand)).notices =
          (Call.Recorder.recordThrift p.state p.decoder p.clock flow.request.body).notices ∧
        ∃ result, (p.enter flow (.exchange errand)).result =
          (p.passages.length, .settled result) := by
    simp only [Proxy.enter, Proxy.runHook, call]
    exact ⟨rfl, _, rfl⟩
  have found : (p.enter flow (.exchange errand)).now.passages[p.passages.length]? =
      some (Proxy.opening (flow, .exchange errand)) := by
    rw [Proxy.enter_passages, List.getElem?_append_right (Nat.le_refl _), Nat.sub_self]
    rfl
  have closed : ((p.enter flow (.exchange errand)).now.close
      ⟨p.passages.length, none, result⟩).notices =
        Proxy.hookNotices flow result ++ (Proxy.conclude p.decoder flow errand).notices := by
    rw [Proxy.close, found, Proxy.enter_decoder]
    rfl
  refine ⟨result, ?_⟩
  simp only [Proxy.pass, Proxy.openAll, Done.andThen_notices, Done.andThen_result,
    Done.andThen_now, Done.map_result, Done.map_now, Done.map_notices, Done.nothing_result,
    Done.nothing_now, Done.nothing_notices, settled, Proxy.settleAll, Proxy.closeAll, closed,
    List.append_nil, List.nil_append, notices]

/-- The decoder is asked about a call and then about its answer, each time only if there is
    something to decode. -/
theorem exchange_call_decodings
    (way : Route.resolve? r.rawTarget r.hostHeader target = .ok route) (there : r.body = .ok body)
    (answers : r.backend = .responds status contentType chunks true)
    (call : (r.request route body).operation? = some .thriftCall) :
    (p.exchange target r).notices.filterMap Notice.decoded? =
      (if body.isEmpty then [] else (p.decoder.map fun _ => body.size).toList) ++
        if (route.target.filter (!·.isEmpty)).isSome ∧ 0 < total chunks ∧
          total chunks ≤ captureLimit then (p.decoder.map fun _ => total chunks).toList
        else [] := by
  have known : (r.flow route body).request.operation? = some .thriftCall := call
  obtain ⟨result, notices⟩ := pass_call_notices p known (r.errand route)
  have backend : (r.errand route).backend = .responds status contentType chunks true := answers
  have ending := Proxy.conclude_decodings p.decoder (r.request route body) backend
  simp only [call, true_and] at ending
  rw [p.exchange_some target r (flow?_some way there), Done.map_notices, notices,
    List.filterMap_append, List.filterMap_append, Proxy.hookNotices_decodings, List.nil_append,
    Call.Recorder.recordThrift_decodings]
  exact congrArg _ ending

/-- What comes of an answer in chunks depends on its bytes and on how many they are. -/
theorem answer_captured_by_size {templates : List Scenario.Template} {capacity : Number}
    (reachable : Reachable templates capacity p)
    (way : Route.resolve? r.rawTarget r.hostHeader target = .ok route) (there : r.body = .ok body)
    (answers : r.backend = .responds status contentType chunks true) :
    (whole chunks).data.toList = chunks.flatMap (·.data.toList) ∧
      (∀ d flow f, (Proxy.conclude d flow (r.errand route)).result.forwarded = some f →
        Proxy.HandsOver d flow (r.errand route) status contentType chunks) ∧
      (∀ acts, Unreceived p.passages.length acts →
        ∃ q, (p.after (.exchange target r :: acts)).passages[p.passages.length]? = some q ∧
          q.flow.request = r.request route body ∧
          q.flow.response =
            if (q.ending.bind (·.forwarded)).isSome ∧ total chunks ≤ captureLimit then
              some ⟨status.getD (.ofNat 0), .ok (whole chunks)⟩
            else none) ∧
      ((r.request route body).operation? = some .thriftCall →
        (p.exchange target r).notices.filterMap Notice.decoded? =
          (if body.isEmpty then [] else (p.decoder.map fun _ => body.size).toList) ++
            if (route.target.filter (!·.isEmpty)).isSome ∧ 0 < total chunks ∧
              total chunks ≤ captureLimit then (p.decoder.map fun _ => total chunks).toList
            else []) :=
  ⟨whole_bytes chunks, fun _ _ _ sent => Proxy.handsOver answers sent,
    fun _ unreceived => after_exchange_response reachable.inLine way there answers unreceived,
    exchange_call_decodings way there answers⟩

end

/-- A call whose answer comes in three chunks, one of them empty. -/
def splitAnswer : Proxy.Incoming :=
  ⟨"POST", "/sql/1.0/warehouses/w", "dbc.cloud.databricks.com", .ok "OpenSession:1".toUTF8,
    .answers (some (.ofNat 200)) ["Open".toUTF8, .empty, "Session:2".toUTF8] true⟩

/-- The decoder is asked about the call and about its answer, and the answer is kept as one. -/
theorem answer_captured_by_size_split :
    let server := some "http://localhost:1"
    let acts := [Act.advance 5]
    ∃ p route q, Reachable Scenario.catalog (.ofNat 4) p ∧
      Route.resolve? splitAnswer.rawTarget splitAnswer.hostHeader server = .ok route ∧
      splitAnswer.body = .ok "OpenSession:1".toUTF8 ∧ Unreceived p.passages.length acts ∧
      (p.after (.exchange server splitAnswer :: acts)).passages[p.passages.length]? = some q ∧
      q.flow.response = some ⟨.ofNat 200, .ok "OpenSession:2".toUTF8⟩ ∧
      (p.exchange server splitAnswer).notices.filterMap Notice.decoded? = [13, 13] := by
  intro server acts
  let p := Proxy.serving Scenario.catalog 4 (some .plain)
  have reachable : Reachable Scenario.catalog (.ofNat 4) p :=
    .serving (by decide +kernel) (by decide) _ []
  let route : Route := ⟨server, "dbc.cloud.databricks.com", "/sql/1.0/warehouses/w",
    "http://dbc.cloud.databricks.com/sql/1.0/warehouses/w"⟩
  have way : Route.resolve? splitAnswer.rawTarget splitAnswer.hostHeader server = .ok route := by
    decide +kernel
  obtain ⟨_, _, later, asked⟩ := answer_captured_by_size reachable way rfl rfl
  have unreceived : Unreceived p.passages.length acts := by
    intro response member
    cases List.mem_singleton.mp member
  obtain ⟨q, last, _, kept⟩ := later acts unreceived
  have sent : ((p.after (.exchange server splitAnswer :: acts)).passages[p.passages.length]?.bind
      fun q => q.ending.bind (·.forwarded)).isSome = true := by
    decide +kernel
  have fits : total ["Open".toUTF8, .empty, "Session:2".toUTF8] ≤ captureLimit := by
    decide +kernel
  have bytes : whole ["Open".toUTF8, .empty, "Session:2".toUTF8] = "OpenSession:2".toUTF8 := by
    decide +kernel
  rw [last, Option.bind_some] at sent
  rw [if_pos ⟨sent, fits⟩, bytes] at kept
  have decoded := asked (by decide +kernel)
  exact ⟨p, route, q, reachable, way, rfl, unreceived, last, kept,
    decoded.trans (by decide +kernel)⟩

end Faultline
