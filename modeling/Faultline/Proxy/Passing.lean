import Faultline.Proxy.Basic

/-! # Passing through the proxy

A flow passes in three steps: it is opened, which claims a scenario and tries its fault; the claim
is settled, at once or when the delay is over; and the flow is closed, which ends an exchange.
Flows that come together take each step together.
-/

namespace Faultline.Proxy

open Exchange Injection

/-- How far a flow has come when it has been opened. -/
inductive Opened where
  /-- Its claim can be settled. -/
  | ready (claim : Claim) (attempt : Attempt)
  /-- There is nothing to settle. -/
  | settled (result : Except Failure Unit)
  /-- It is held back with what it has claimed. -/
  | waiting (claim : Claim)

/-! ## Opening -/

/-- Injects a fault into the flow of the passage `id`. -/
def inject (p : Proxy) (id : Nat) (flow : Flow) : Done Proxy Opened :=
  (p.withState fun s => begin s p.clock flow).andThen fun begun p =>
    match begun with
    | .unclaimed => .nothing p (.settled (.ok ()))
    | .tried claim attempt => .nothing p (.ready claim attempt)
    | .held claim seconds =>
      let s : Suspension := ⟨dueAt p.clock seconds, id, claim⟩
      .nothing { p with suspended := enqueue s p.suspended } (.waiting claim)

/-- Runs the request hook: calls are recorded, and faults are injected into downloads. -/
def runHook (p : Proxy) (id : Nat) (flow : Flow) : Done Proxy Opened :=
  match flow.request.operation? with
  | some .download =>
    (p.withState fun s => Call.Recorder.recordDownload s p.clock flow.request.url).andThen
      fun _ p => inject p id flow
  | some .thriftCall =>
    (p.withState fun s => Call.Recorder.recordThrift s p.decoder p.clock flow.request.body).map
      fun recorded => .settled (recorded.map fun _ => ())
  | none => .nothing p (.settled (.ok ()))

/-- Lets a flow in and runs what it came for. -/
def enter (p : Proxy) (flow : Flow) (purpose : Purpose) : Done Proxy (Nat × Opened) :=
  let id := p.passages.length
  let p := { p with passages := p.passages ++ [⟨flow, purpose, none, none, false, none⟩] }
  let opened := match purpose with
    | .injection => inject p id flow
    | .hook | .exchange _ => runHook p id flow
  opened.map fun o => (id, o)

/-! ## Settling -/

/-- What closing a flow has to know. -/
structure Settled where
  passage : Nat
  claim : Option Claim
  result : Except Failure Unit

def settle (p : Proxy) (id : Nat) (claim : Claim) (attempt : Attempt) : Done Proxy Settled :=
  let d := Injection.settle p.audience claim attempt
  ⟨⟨id, some claim, d.result⟩, p.modify id fun q => { q with flow := d.now }, d.notices⟩

/-! ## Closing -/

def exchangeFailed (t : Thrown) (rawTarget : String) : List Notice :=
  match t.wrap with
  | .ok f => [.failureLine Exchange.component "Exchange failed" f [("url", .string rawTarget)]]
  | .error _ => []

/-- The status that is sent for a number: its integer part in 32 bits, with a sign. -/
def sentStatus (n : Number) : Int := (n.truncate?.getD 0).bmod 4294967296

/-- The answer that takes the place of the server's, if its status can be sent. -/
def sendSynthetic (s : Synthetic) : Except Failure Client :=
  let status := sentStatus s.status
  if 100 ≤ status && status ≤ 999 then
    .ok (.written (.ofInt status) (s.headers.lookup "Content-Type") s.body.toUTF8)
  else .error (.statusOutOfRange s.status)

/-- Ends an exchange whose hook has run: the connection is cut, or the answer is there already, or
    the request is sent on. -/
def conclude (decoder : Option Call.Decoder) (flow : Flow) (errand : Errand) : Done Flow Ending :=
  if flow.killed then
    ⟨⟨.destroyed, none⟩, flow,
      [.line Exchange.component .info "Killing connection" [("url", .string flow.request.url)]]⟩
  else match flow.synthetic with
    | some s =>
      match sendSynthetic s with
      | .ok client => .nothing flow ⟨client, none⟩
      | .error f => ⟨⟨badGateway, none⟩, flow, exchangeFailed (.failure f) errand.rawTarget⟩
    | none =>
      match errand.route.target.filter (!·.isEmpty) with
      | none => .nothing flow ⟨plainAnswer 502 noTargetText, none⟩
      | some target => contact decoder flow target errand.route.path errand.backend

def hookNotices (flow : Flow) (result : Except Failure Unit) : List Notice :=
  match result with
  | .ok () => []
  | .error f =>
    hookFailed "Request hook failed" (.failure f)
      [("kind", .string (Traffic.className flow.request.operation?)),
        ("url", .string flow.request.url)]

/-- Closes the passage of a flow. Whoever asked for the injection alone is told of its failure; a
    hook keeps it to itself. -/
def closePassage (decoder : Option Call.Decoder) (q : Passage) (s : Settled) : Done Passage Unit :=
  let scenario := s.claim.map (·.scenario.name)
  let q := { q with finished := true, scenario }
  match q.purpose with
  | .injection =>
    .nothing { q with rejection := match s.result with | .ok () => none | .error f => some f } ()
  | .hook => ⟨(), q, hookNotices q.flow s.result⟩
  | .exchange errand =>
    let d := conclude decoder q.flow errand
    ⟨(), { q with flow := d.now, ending := some d.result },
      hookNotices q.flow s.result ++ d.notices⟩

def close (p : Proxy) (s : Settled) : Done Proxy Unit :=
  match p.passages[s.passage]? with
  | none => .nothing p ()
  | some q =>
    let d := closePassage p.decoder q s
    ⟨(), p.modify s.passage fun _ => d.now, d.notices⟩

/-! ## All together -/

def openAll (p : Proxy) : List (Flow × Purpose) → Done Proxy (List (Nat × Opened))
  | [] => .nothing p []
  | (flow, purpose) :: rest =>
    (p.enter flow purpose).andThen fun o p => (openAll p rest).map (o :: ·)

def settleAll (p : Proxy) : List (Nat × Opened) → Done Proxy (List Settled)
  | [] => .nothing p []
  | (id, .ready claim attempt) :: rest =>
    (p.settle id claim attempt).andThen fun s p => (settleAll p rest).map (s :: ·)
  | (id, .settled result) :: rest => (settleAll p rest).map (⟨id, none, result⟩ :: ·)
  | (_, .waiting _) :: rest => settleAll p rest

def closeAll (p : Proxy) : List Settled → Done Proxy Unit
  | [] => .nothing p ()
  | s :: rest => (p.close s).andThen fun _ p => closeAll p rest

/-- Lets flows in together; the result is their places among the passages. -/
def pass (p : Proxy) (flows : List (Flow × Purpose)) : Done Proxy (List Nat) :=
  (openAll p flows).andThen fun opened p =>
    (settleAll p opened).andThen fun settled p =>
      (closeAll p settled).map fun _ => opened.map (·.1)

/-- A flow whose delay is over goes on: nothing has been done to it. -/
def resume (p : Proxy) (s : Suspension) : Done Proxy Unit :=
  let p := { p with clock := s.due }
  match p.passages[s.passage]? with
  | none => .nothing p ()
  | some q => (p.settle s.passage s.claim ⟨q.flow, none⟩).andThen fun settled p => p.close settled

def resumeAll (p : Proxy) : List Suspension → Done Proxy Unit
  | [] => .nothing p ()
  | s :: rest => (p.resume s).andThen fun _ p => resumeAll p rest

/-- Lets `ms` milliseconds pass. The result is the places of the flows that went on, in the order in
    which they did. -/
def advance (p : Proxy) (ms : Int) : Done Proxy (List Nat) :=
  let target := p.clock.after ms
  let isDue := fun s : Suspension => s.due.ms ≤ target.ms
  let due := p.suspended.takeWhile isDue
  (resumeAll { p with suspended := p.suspended.dropWhile isDue } due).andThen fun _ p =>
    .nothing { p with clock := target } (due.map (·.passage))

/-! ## Exchanges -/

/-- A request as it comes in. Its body may break off. -/
structure Incoming where
  method : String
  rawTarget : String
  hostHeader : String
  body : Except Thrown ByteArray
  backend : Backend

/-- Takes a request in. One whose way cannot be told, or whose body breaks off, is answered before
    any hook is run; of the others the result is the place among the passages. -/
def exchange (p : Proxy) (targetServer : Option String) (r : Incoming) :
    Done Proxy (Ending ⊕ Nat) :=
  let failed := fun t => ⟨.inl ⟨badGateway, none⟩, p, exchangeFailed t r.rawTarget⟩
  match Route.resolve? r.rawTarget r.hostHeader targetServer, r.body with
  | .error f, _ => failed (.failure f)
  | .ok _, .error t => failed t
  | .ok route, .ok body =>
    let request : Request := ⟨r.method, route.host, route.path, route.url, body⟩
    let id := p.passages.length
    (p.pass [(.ofRequest request .none, .exchange ⟨r.rawTarget, route, r.backend⟩)]).map
      fun _ => .inr id

/-! ## Single flows -/

/-- Gives a flow its response and runs the response hook. -/
def receive (p : Proxy) (id : Nat) (response : Option Response) : Done Proxy Unit :=
  match p.passages[id]? with
  | none => .nothing p ()
  | some q =>
    let flow := { q.flow with response }
    ⟨(), p.modify id fun q => { q with flow }, responseHook p.decoder flow⟩

def revert (p : Proxy) (id : Nat) : Done Proxy (Except Thrown Unit) :=
  match p.passages[id]? with
  | none => .nothing p (.ok ())
  | some q =>
    match q.flow.revert with
    | .error t => .nothing p (.error t)
    | .ok flow => .nothing (p.modify id fun q => { q with flow }) (.ok ())

/-- Adds a listener that throws an error of this message. -/
def listen (p : Proxy) (message : String) : Proxy :=
  { p with audience := { p.audience with throwing := p.audience.throwing ++ [message] } }

end Faultline.Proxy
