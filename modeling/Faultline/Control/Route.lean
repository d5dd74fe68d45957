import Faultline.Control.Handler
import Faultline.Control.Http
import Faultline.Text.Percent

/-! # Control routes

Which call a path means. Letters match in either case, a slash at the end does not count, and what
is behind the path in the URL does not matter. The scenarios and the calls form two groups; a group
tells which methods it knows for a path of its own.
-/

namespace Faultline.Control

/-- The two methods by which calls are made. -/
inductive Verb where
  | get
  | post
  deriving DecidableEq, Repr

def Verb.allowed : Verb → List String
  | get => ["GET", "HEAD"]
  | post => ["POST"]

/-- Whether a request of this method is for a route. -/
def Verb.answers (v : Verb) (method : String) : Bool := v.allowed.contains method

/-- A call whose parameters are not read yet. The body is that of the request. -/
inductive Endpoint where
  | fixed (call : Option Json → Call)
  | named (call : String → Option Json → Call)

/-- A route inside a group. -/
structure Entry where
  verb : Verb
  /-- The words of the path, in lower case; the name of a scenario comes before them if there is
      one. -/
  word : List Char
  endpoint : Endpoint

/-- A group of routes below a common path. -/
structure Group where
  root : List Char
  entries : List Entry

def scenarioGroup : Group where
  root := "/scenarios".toList
  entries :=
    [⟨.get, [], .fixed fun _ => .list⟩,
     ⟨.post, "disable-all".toList, .fixed fun _ => .disableAll⟩,
     ⟨.post, "enable".toList, .named fun name body => .enable name body⟩,
     ⟨.post, "disable".toList, .named fun name _ => .disable name⟩,
     ⟨.get, "status".toList, .named fun name _ => .status name⟩]

def callGroup : Group where
  root := "/thrift/calls".toList
  entries :=
    [⟨.get, [], .fixed fun _ => .calls⟩,
     ⟨.post, "reset".toList, .fixed fun _ => .reset⟩,
     ⟨.post, "verify".toList, .fixed fun body => .verify body⟩]

def groups : List Group := [scenarioGroup, callGroup]

/-- The paths that are told of when the control interface comes up. -/
def roots : List String := ["/health", "/scenarios", "/thrift/calls"]

/-- Whether two texts are the same but for the case of letters. -/
def sameWord (a b : List Char) : Bool := a.map Char.toLower == b.map Char.toLower

def withoutSlash (cs : List Char) : List Char :=
  if cs.getLast? == some '/' then cs.dropLast else cs

/-- What is behind the root of a group in a path that lies below it. A second slash in a row goes
    with the root. -/
def below? (root : List Char) (place : Place) : Option (List Char) :=
  if sameWord (place.path.take root.length) root then
    match place.path.drop root.length with
    | [] | ['/'] => if place.rooted then some ['/'] else none
    | '/' :: '/' :: rest => some ('/' :: rest)
    | '/' :: rest => some ('/' :: rest)
    | _ => none
  else none

/-- What matching a path against a route comes to. -/
inductive Match where
  | no
  | yes (call : Option Json → Call)
  /-- The name in the path is not well escaped. -/
  | broken

def Entry.matchPath (e : Entry) (path : List Char) : Match :=
  match e.endpoint with
  | .fixed call =>
    if sameWord (withoutSlash path) (if e.word.isEmpty then [] else '/' :: e.word) then .yes call
    else .no
  | .named call =>
    match withoutSlash path with
    | '/' :: rest =>
      let name := rest.takeWhile (· ≠ '/')
      if !name.isEmpty && sameWord (rest.dropWhile (· ≠ '/')) ('/' :: e.word) then
        match Text.Percent.decodeText? name with
        | some name => .yes (call (String.ofList name))
        | none => .broken
      else .no
    | _ => .no

/-- What a group does about a request. -/
inductive Routed where
  /-- It has no such path, or not for this method. -/
  | passed
  | called (call : Call)
  /-- It tells which methods it has for the path. -/
  | options (allowed : List String)
  | broken

/-- The first entry for the method whose path matches; a badly escaped name ends the search. The
    methods of the other matching entries are collected. -/
def Group.route (method : String) (path : List Char) (body : Option Json) :
    (allowed : List String) → List Entry → Routed
  | allowed, [] =>
    if method = "OPTIONS" && !allowed.isEmpty then .options allowed else .passed
  | allowed, e :: rest =>
    match e.matchPath path with
    | .no => route method path body allowed rest
    | .broken => .broken
    | .yes call =>
      if e.verb.answers method then .called (call body)
      else route method path body (allowed ++ e.verb.allowed) rest

end Faultline.Control
