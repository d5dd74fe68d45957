import Faultline.Json.Value

/-! # Requests over HTTP

A request as it is sent, what is made of it before the control interface has it, and what is answered.
How whole URLs are taken apart, how bodies are decompressed and decoded, and how documents are told
from earlier versions is the business of a transport; nothing here depends on how it does that.
-/

namespace Faultline.Control

/-- The headers of a request, their names in lower case. -/
abbrev Headers := List (String × String)

structure HttpRequest where
  method : String
  /-- The target as it is sent: a path with whatever is behind it, or a whole URL. -/
  target : String
  headers : Headers
  body : ByteArray

inductive Content where
  | json (v : Json)
  | text (s : String)
  | empty
  deriving DecidableEq

structure HttpResponse where
  status : Number
  headers : List (String × String)
  content : Content
  deriving DecidableEq

/-- Why a body is refused. -/
inductive Refusal where
  | malformed
  | tooLarge
  /-- It is compressed or encoded in a way that nobody knows. -/
  | unsupported
  deriving DecidableEq, Repr

def Refusal.status : Refusal → Nat
  | malformed => 400
  | tooLarge => 413
  | unsupported => 415

/-- Where a target leads. -/
structure Place where
  path : List Char
  /-- Whether what is left of the target without this path leads to a single slash, and not
      nowhere. -/
  rooted : Bool
  deriving DecidableEq

/-- What is made of requests on the way to the control interface. -/
structure Transport where
  /-- Where a target leads that is not plainly a path, or the page that says that it leads
      nowhere. -/
  locate : (method target : String) → Except String Place
  /-- The document in a body. -/
  read : Headers → ByteArray → Except Refusal Json
  /-- Whether a client that asks for a document only if it is new has this one already. -/
  knows : Headers → Json → Bool

/-! ## Targets -/

/-- The characters for which a target is not simply cut at its question mark. -/
def isIrregular (c : Char) : Bool :=
  ['\t', '\n', Char.ofNat 12, '\r', ' ', '#', Char.ofNat 0xA0, Char.ofNat 0xFEFF].contains c

def isPath (target : String) : Bool :=
  target.toList.head? == some '/' && !target.toList.any isIrregular

/-- Where a target leads, or the page that says that it leads nowhere. -/
def Transport.place (t : Transport) (method target : String) : Except String Place :=
  if isPath target then .ok ⟨target.toList.takeWhile (· ≠ '?'), true⟩ else t.locate method target

/-! ## Conditions -/

/-- Whether a request only reads, and asks for the answer only if there is something new. -/
def HttpRequest.isConditional (r : HttpRequest) : Bool :=
  ["GET", "HEAD"].contains r.method &&
    ["if-none-match", "if-modified-since"].any fun name =>
      (r.headers.lookup name).any (!·.isEmpty)

/-- The response without its content, if the method asks for none. -/
def HttpResponse.forMethod (a : HttpResponse) (method : String) : HttpResponse :=
  if method = "HEAD" then { a with content := .empty } else a

/-- Whether the client has what a response is about to tell it. -/
def Transport.spares (t : Transport) (r : HttpRequest) (a : HttpResponse) : Bool :=
  match a.content with
  | .json v => r.isConditional && a.status.within 200 300 && t.knows r.headers v
  | .text _ | .empty => false

/-- The response as it is sent: a client that has the document is only told so. -/
def Transport.sent (t : Transport) (r : HttpRequest) (a : HttpResponse) : HttpResponse :=
  if t.spares r a then
    ⟨.ofNat 304, a.headers.filter (·.1 != "content-type"), .empty⟩
  else a.forMethod r.method

end Faultline.Control
