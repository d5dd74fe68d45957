import Faultline.Failure.Basic
import Faultline.Url.Parser

/-! # Routes

Where a request is sent on, and how it is known there. A request target that is a web URL says so
itself; for any other target the configured server and the host header do.
-/

namespace Faultline.Exchange

/-- The way of one request. -/
structure Route where
  /-- The server that the request is sent on to. -/
  target : Option String
  host : String
  path : String
  url : String
  deriving DecidableEq, Repr

namespace Route

def webPrefixes : List String := ["http://", "https://"]

def isAbsolute (raw : String) : Bool :=
  webPrefixes.any fun p => p.toList.isPrefixOf (raw.toList.map Char.toLower)

def ofUrl (u : Url) : Route where
  target := some (String.ofList u.origin)
  host := String.ofList u.hostText
  path := String.ofList (u.pathname ++ u.search)
  url := String.ofList u.write

/-- Whether the configured server is spoken to securely. It has to be a URL if it is there. -/
def isSecureTarget : Option String → Except Failure Bool
  | none => .ok false
  | some target =>
    if target.isEmpty then .ok false
    else match Url.parse? target with
      | some u => .ok u.scheme.isSecure
      | none => .error .badUrl

def resolve? (raw hostHeader : String) (targetServer : Option String) : Except Failure Route :=
  if isAbsolute raw then
    match Url.parse? raw with
    | some u => .ok (ofUrl u)
    | none => .error .badUrl
  else
    let path := if raw.isEmpty then "/" else raw
    (isSecureTarget targetServer).map fun secure =>
      { target := targetServer
        host := hostHeader
        path
        url := (if secure then "https" else "http") ++ "://" ++ hostHeader ++ path }

end Route

end Faultline.Exchange
