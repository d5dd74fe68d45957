import Faultline.Control.Plain
import Faultline.Control.Route
import Faultline.Origin

/-! # The control interface over HTTP

A request that leads somewhere passes the check of its origin, gets an identifier, has its body read,
and only then finds its route. What goes wrong before or on the way is answered in the same words
every time.
-/

namespace Faultline.Control

/-- How the interface is set up. -/
structure Options where
  /-- The origins that may read answers, if origins are checked at all. -/
  origins : Option (List String)
  /-- Whether requests get identifiers and are logged. -/
  logged : Bool
  deriving DecidableEq

/-- The interface as it is set up, with the transport that its requests come by. -/
structure Interface extends Options, Transport

def Interface.plain (o : Options) : Interface := ⟨o, .plain⟩

def component : String := "control-api"

/-! ## Origins -/

def originHeaders (origin : Option String) : List (String × String) :=
  [("vary", "Origin"),
    ("access-control-expose-headers", ",".intercalate Origin.exposedHeaders)] ++
  match origin with
  | some o => if o.isEmpty then [] else [("access-control-allow-origin", o)]
  | none => []

/-- The answer to a page that asks what it may do. -/
def preflight (headers : List (String × String)) : HttpResponse where
  status := .ofNat 204
  headers := headers ++
    [("access-control-allow-methods", ",".intercalate Origin.methods),
      ("access-control-allow-headers", ",".intercalate Origin.allowedHeaders)]
  content := .empty

/-! ## Routing -/

/-- What is to be done about a request, and under which path the log has it. -/
inductive Plan where
  | call (c : Call) (path : List Char)
  | options (allowed : List String) (path : List Char)
  | broken
  | unknown

def isHealthPath (path : List Char) : Bool := sameWord (withoutSlash path) "/health".toList

def planIn (method : String) (place : Place) (body : Option Json) : List Group → Plan
  | [] => .unknown
  | g :: rest =>
    match below? g.root place with
    | none => planIn method place body rest
    | some inner =>
      match Group.route method inner body [] g.entries with
      | .passed => planIn method place body rest
      | .called c => .call c inner
      | .options allowed => .options allowed inner
      | .broken => .broken

def plan (method : String) (place : Place) (body : Option Json) : Plan :=
  if isHealthPath place.path && Verb.get.answers method then .call .health place.path
  else planIn method place body groups

/-! ## Answers -/

def jsonType : String := "application/json; charset=utf-8"
def htmlType : String := "text/html; charset=utf-8"

def HttpResponse.ofReply (headers : List (String × String)) (r : Reply) : HttpResponse :=
  ⟨r.status, headers ++ [("content-type", jsonType)], .json r.body⟩

def optionsResponse (headers : List (String × String)) (allowed : List String) : HttpResponse :=
  let methods := ",".intercalate allowed
  ⟨.ofNat 200, headers ++ [("allow", methods), ("content-type", htmlType)], .text methods⟩

def unknownRoute (method : String) (path : List Char) : Reply :=
  ⟨.ofNat 404,
    Reply.problem ("Route " ++ method ++ " " ++ String.ofList path ++ " not found")⟩

def requestContext (method : String) (path : List Char) : Members :=
  [("method", .string method), ("path", .string (String.ofList path))]

def malformed (s : State) (method : String) (path : List Char) (refusal : Refusal) :
    Done State Reply where
  result := .malformed (.ofNat refusal.status)
  now := s
  notices :=
    [.line component .warn "Malformed control request"
      (requestContext method path ++ [("status", .ofNat refusal.status)])]

/-- An answer before it is sent, and the path under which the log has it. -/
structure Drafted where
  response : HttpResponse
  path : List Char

/-- Answers a call; what the call leaves uncaught is answered here. -/
def answerCall (g : Setting) (s : State) (headers : List (String × String)) (method : String)
    (path inner : List Char) (c : Call) : Done State Drafted :=
  let answered := answer g s c
  match answered.result with
  | .ok reply => ⟨⟨.ofReply headers reply, inner⟩, answered.now, answered.notices⟩
  | .error f =>
    { result := ⟨.ofReply headers ⟨.ofNat 500, Reply.problem f.message⟩, path⟩
      now := answered.now
      notices := answered.notices ++
        [.failureLine component "Unhandled error" f (requestContext method path)] }

def completed (method : String) (path : List Char) (status : Number) (correlation : String) :
    Notice :=
  let level := if status.within 0 400 then Log.Level.info else .warn
  (Notice.line component level "Request completed"
    (requestContext method path ++
      [("statusCode", .number status), ("duration", .ofNat 0)])).inCourseOf correlation

/-- The answer to a request that leads nowhere. -/
def nowhere (page : String) : HttpResponse :=
  ⟨.ofNat 404, [("content-type", htmlType)], .text page⟩

namespace Interface

def draft (i : Interface) (g : Setting) (s : State) (headers : List (String × String))
    (r : HttpRequest) (place : Place) : Done State Drafted :=
  let path := place.path
  let refused := fun refusal =>
    let d := malformed s r.method path refusal
    (⟨⟨.ofReply headers d.result, path⟩, d.now, d.notices⟩ : Done State Drafted)
  match i.read r.headers r.body with
  | .error refusal => refused refusal
  | .ok body =>
    match plan r.method place (some body) with
    | .call c inner => answerCall g s headers r.method path inner c
    | .options allowed inner => .nothing s ⟨optionsResponse headers allowed, inner⟩
    | .broken => refused .malformed
    | .unknown => .nothing s ⟨.ofReply headers (unknownRoute r.method path), path⟩

/-- Answers a request at the place that it leads to. -/
def serveAt (i : Interface) (g : Setting) (fresh : String) (s : State) (r : HttpRequest)
    (place : Place) : Done State HttpResponse :=
  let origin := r.headers.lookup "origin"
  let allowed := i.origins.any (Origin.allows · origin)
  let headers := if allowed then originHeaders origin else []
  if allowed && r.method = "OPTIONS" then .nothing s (preflight headers)
  else
    let correlation := ((r.headers.lookup "x-correlation-id").filter (!·.isEmpty)).getD fresh
    let headers := if i.logged then headers ++ [("x-correlation-id", correlation)] else headers
    let d := i.draft g s headers r place
    let response := i.sent r d.result.response
    { result := response
      now := d.now
      notices := d.notices ++
        if i.logged then [completed r.method d.result.path response.status correlation] else [] }

/-- Answers a request. `fresh` identifies it unless it brings an identifier along. -/
def serve (i : Interface) (g : Setting) (fresh : String) (s : State) (r : HttpRequest) :
    Done State HttpResponse :=
  match i.place r.method r.target with
  | .error page => .nothing s ((nowhere page).forMethod r.method)
  | .ok place => i.serveAt g fresh s r place

end Interface

/-- Answers a request that comes by plain transport. -/
def serve (o : Options) (g : Setting) (fresh : String) (s : State) (r : HttpRequest) :
    Done State HttpResponse :=
  (Interface.plain o).serve g fresh s r

def initialized (s : State) : Notice :=
  .line component .info "Control router initialized"
    [("routes", .ofStrings roots), ("scenarios", .ofNat s.registry.length)]

end Faultline.Control
