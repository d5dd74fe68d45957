import Faultline.Url.Host
import Faultline.Url.Path

/-! # URLs

A URL in its parts, and its written form. Web URLs are those whose scheme is `http` or `https`.
-/

namespace Faultline.Url

/-- What a scheme tells about the URLs under it. -/
structure Scheme where
  /-- The name in lower case, without the colon. -/
  name : List Char
  deriving DecidableEq, Repr

namespace Scheme

/-- The schemes whose hosts are domains, with the port that need not be written. -/
def known : List (String × Option Nat) :=
  [("http", some 80), ("https", some 443), ("ws", some 80), ("wss", some 443), ("ftp", some 21),
   ("file", none)]

def knowsDomains (s : Scheme) : Bool := known.any fun k => k.1.toList == s.name

def defaultPort? (s : Scheme) : Option Nat :=
  (known.find? fun k => k.1.toList == s.name).bind (·.2)

def isFile (s : Scheme) : Bool := s.name == "file".toList

def isSecure (s : Scheme) : Bool := s.name == "https".toList

def isWeb (s : Scheme) : Bool := s.name == "http".toList || s.isSecure

end Scheme

/-- Where a URL leads below its host. -/
inductive Trail where
  | segments (path : List (List Char))
  /-- A text without meaning here. -/
  | verbatim (text : List Char)
  deriving DecidableEq, Repr

end Url

/-- A URL in its parts. -/
structure Url where
  scheme : Url.Scheme
  username : List Char
  password : List Char
  host : Option (List Char)
  port : Option Nat
  trail : Url.Trail
  query : Option (List Char)
  fragment : Option (List Char)
  deriving DecidableEq, Repr

namespace Url

/-- The host with the port, if one is written. -/
def hostText (u : Url) : List Char :=
  (u.host.getD []) ++ match u.port with
    | some p => ':' :: decimal p
    | none => []

def credentials (u : Url) : List Char :=
  if u.username.isEmpty && u.password.isEmpty then []
  else u.username ++ (if u.password.isEmpty then [] else ':' :: u.password) ++ ['@']

def pathname (u : Url) : List Char :=
  match u.trail with
  | .segments path => Path.write path
  | .verbatim text => text

/-- The query with its question mark, unless there is nothing in it. -/
def search (u : Url) : List Char :=
  match u.query with
  | some (c :: rest) => '?' :: c :: rest
  | _ => []

/-- The part with its mark, if it is there. -/
def marked (mark : Char) : Option (List Char) → List Char
  | some cs => mark :: cs
  | none => []

/-- The authority with its two slashes. Without one, a path that begins with an empty segment must
    not look like one. -/
def authority (u : Url) : List Char :=
  match u.host, u.trail with
  | some _, _ => '/' :: '/' :: u.credentials ++ u.hostText
  | none, .segments ([] :: _ :: _) => ['/', '.']
  | none, _ => []

def write (u : Url) : List Char :=
  u.scheme.name ++ ':' :: u.authority ++ u.pathname ++ marked '?' u.query ++ marked '#' u.fragment

/-- Scheme and host of a URL whose scheme knows domains. -/
def origin (u : Url) : List Char := u.scheme.name ++ ':' :: '/' :: '/' :: u.hostText

end Url

end Faultline
