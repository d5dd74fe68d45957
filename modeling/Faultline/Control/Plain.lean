import Faultline.Control.Body
import Faultline.Text.Percent

/-! # Plain transport

The transport of requests as tools send them: the host of a whole URL is not looked at, bodies are
plain (`Body.read`), and no client remembers the versions of documents.
-/

namespace Faultline.Control

/-- The characters that are escaped in a path that is not plainly one. -/
def isUnwise (c : Char) : Bool :=
  ['\t', '\n', '\r', ' ', '"', '<', '>', '\x60', '\x7b', '\x7d', '|', '\\', '^', '\''].contains c

/-- The schemes of URLs that have a path even if none is written. -/
def slashedSchemes : List String := ["http", "https", "ftp", "gopher", "file", "ws", "wss"]

/-- Cuts a text at its first `://`. -/
def cutAtHost : List Char → Option (List Char × List Char)
  | ':' :: '/' :: '/' :: rest => some ([], rest)
  | c :: rest => (cutAtHost rest).map fun (before, behind) => (c :: before, behind)
  | [] => none

/-- The page of a request that leads nowhere. -/
def nowherePage (method : String) : String :=
  "<!DOCTYPE html>\n<html lang=\"en\">\n<head>\n<meta charset=\"utf-8\">\n<title>Error</title>\n" ++
    "</head>\n<body>\n<pre>Cannot " ++ method ++ " null</pre>\n</body>\n</html>\n"

/-- A backslash in a target is a slash, a fragment does not count, and the scheme and the host of a
    whole URL are taken off. -/
def locatePlain (method target : String) : Except String Place :=
  let written := (Text.trim target.toList).takeWhile fun c => c != '?' && c != '#'
  let cs := written.map fun c => if c == '\\' then '/' else c
  let escaped := Text.Percent.encode isUnwise
  match if cs.head? == some '/' then none else cutAtHost cs with
  | none => .ok ⟨escaped cs, true⟩
  | some (scheme, behind) =>
    let rooted := slashedSchemes.any (·.toList == Text.lower scheme)
    match behind.dropWhile (· ≠ '/') with
    | [] => if rooted then .ok ⟨['/'], true⟩ else .error (nowherePage method)
    | path => .ok ⟨escaped path, rooted⟩

/-- Whether the client asks not to be answered from what it has. -/
def refusesCached (headers : Headers) : Bool :=
  (headers.lookup "cache-control").any fun s =>
    (Text.splitOnChar ',' s.toList).any fun part => Text.trim part == "no-cache".toList

/-- Whether the client says that it has whatever there is. -/
def knowsAll (headers : Headers) : Bool :=
  headers.lookup "if-none-match" == some "*" &&
    !(headers.lookup "if-modified-since").any (!·.isEmpty) && !refusesCached headers

def Transport.plain : Transport where
  locate := locatePlain
  read := Body.read
  knows headers _ := knowsAll headers

end Faultline.Control
