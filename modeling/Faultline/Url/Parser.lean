import Faultline.Url.Basic

/-! # Reading URLs

A text is cut at its marks: the scheme at the first colon, then fragment, query, authority and path.
Characters that a part must not hold as they are become escapes.
-/

namespace Faultline.Url

def escapedInFragment (c : Char) : Bool :=
  isControlOrBeyond c || [' ', '"', '<', '>', '\x60'].contains c

def escapedInQuery (c : Char) : Bool := isControlOrBeyond c || [' ', '"', '#', '<', '>'].contains c

/-- As `escapedInQuery`, and the apostrophe. -/
def escapedInWebQuery (c : Char) : Bool := escapedInQuery c || c == '\''

def escapedInPath (c : Char) : Bool :=
  escapedInQuery c || ['?', '\x60', '\x7b', '\x7d'].contains c

def escapedInUser (c : Char) : Bool :=
  escapedInPath c || ['/', ':', ';', '=', '@', '[', '\\', ']', '^', '|'].contains c

/-- Blanks and controls, which are dropped from both ends. -/
def isControlOrBlank (c : Char) : Bool := c.toNat ≤ 0x20

/-- Tabs and line breaks, which are dropped everywhere. -/
def isLayout (c : Char) : Bool := c == '\t' || c == '\n' || c == '\r'

def isLetter (c : Char) : Bool := ('a' ≤ c && c ≤ 'z') || ('A' ≤ c && c ≤ 'Z')

def isDigit (c : Char) : Bool := '0' ≤ c && c ≤ '9'

/-- The scheme before the first colon, and what is behind it. -/
def scheme? (cs : List Char) : Option (Scheme × List Char) :=
  let isPart := fun c : Char => isLetter c || isDigit c || c == '+' || c == '-' || c == '.'
  match cs, cs.dropWhile isPart with
  | first :: _, ':' :: rest =>
    if isLetter first then some (⟨(cs.takeWhile isPart).map Char.toLower⟩, rest) else none
  | _, _ => none

/-- The text before the first `mark`, and the text behind it if there is one. -/
def cutAt (mark : Char) (cs : List Char) : List Char × Option (List Char) :=
  match cs.dropWhile (· ≠ mark) with
  | [] => (cs, none)
  | _ :: rest => (cs.takeWhile (· ≠ mark), some rest)

def isSlash (knowsDomains : Bool) (c : Char) : Bool := c == '/' || (knowsDomains && c == '\\')

/-- The port behind its colon: nothing, or digits; the default port is not kept. -/
def port? (scheme : Scheme) (cs : List Char) : Option (Option Nat) :=
  if cs.all isDigit then
    match cs, digitsValue? 10 cs with
    | [], _ => some none
    | _, some n =>
      if 65535 < n then none else some (if scheme.defaultPort? = some n then none else some n)
    | _, none => none
  else none

/-- Cuts host and port apart at the first colon that is not between brackets. -/
def cutPort : (inBrackets : Bool) → List Char → List Char × Option (List Char)
  | _, [] => ([], none)
  | inside, c :: rest =>
    if c = ':' && !inside then ([], some rest)
    else
      let cut := cutPort (if c = '[' then true else if c = ']' then false else inside) rest
      (c :: cut.1, cut.2)

/-- Cuts a text at its last `mark`. -/
def cutAtLast (mark : Char) (cs : List Char) : Option (List Char × List Char) :=
  if cs.contains mark then
    let behind := (cs.reverse.takeWhile (· ≠ mark)).reverse
    some (cs.take (cs.length - behind.length - 1), behind)
  else none

/-- Who asks whom: user information, host and port. -/
structure Authority where
  username : List Char
  password : List Char
  host : List Char
  port : Option Nat

/-- Reads an authority. A host may only be missing under a scheme that does not know domains, and
    then only if nothing depends on it. -/
def authority? (scheme : Scheme) (cs : List Char) : Option Authority := do
  let cut := cutAtLast '@' cs
  let user := cutAt ':' ((cut.map (·.1)).getD [])
  let place := (cut.map (·.2)).getD cs
  let (hostPart, portPart) := cutPort false place
  if hostPart.isEmpty && (scheme.knowsDomains || cut.isSome || portPart.isSome) then none
  let host ← if hostPart.isEmpty then some [] else Host.parse? scheme.knowsDomains hostPart
  let port ← port? scheme (portPart.getD [])
  some ⟨Text.Percent.encode escapedInUser user.1,
    Text.Percent.encode escapedInUser (user.2.getD []), host, port⟩

/-- The segments of a path, the leading slash apart. -/
def segments (knowsDomains : Bool) (cs : List Char) : List (List Char) :=
  let unified := cs.map fun c => if isSlash knowsDomains c then '/' else c
  (Text.splitOnChar '/' unified).map (Text.Percent.encode escapedInPath)

/-- The path that a text leads along. Only under a scheme that knows domains is there always one. -/
def path (knowsDomains : Bool) : List Char → List (List Char)
  | [] => if knowsDomains then [[]] else []
  | c :: rest =>
    Path.resolve [] (segments knowsDomains (if isSlash knowsDomains c then rest else c :: rest))

def isDrive : List Char → Bool
  | [letter, mark] => isLetter letter && (mark == ':' || mark == '|')
  | _ => false

/-- Authority and path of a text that begins with an authority. -/
def withAuthority? (scheme : Scheme) (cs : List Char) : Option (Authority × Trail) :=
  let ends := isSlash scheme.knowsDomains
  (authority? scheme (cs.takeWhile (!ends ·))).map fun a =>
    (a, .segments (path scheme.knowsDomains (cs.dropWhile (!ends ·))))

/-- The host of a local file, and its path. -/
def file? (cs : List Char) : Option (Option (List Char) × Trail) :=
  let trail := fun rest => Trail.segments (path true rest)
  match cs with
  | a :: b :: rest =>
    if isSlash true a && isSlash true b then
      let host := rest.takeWhile (!isSlash true ·)
      if isDrive host then some (some [], trail rest)
      else if host.isEmpty then some (some [], trail rest)
      else (Host.parse? true host).map fun h =>
        (some (if h = "localhost".toList then [] else h), trail (rest.dropWhile (!isSlash true ·)))
    else some (some [], trail cs)
  | _ => some (some [], trail cs)

/-- Host and path for the text between scheme and query. -/
def body? (scheme : Scheme) (cs : List Char) :
    Option (Option Authority × Option (List Char) × Trail) :=
  if scheme.isFile then (file? cs).map fun (h, t) => (none, h, t)
  else if scheme.knowsDomains then
    (withAuthority? scheme (cs.dropWhile (isSlash true))).map fun (a, t) => (some a, some a.host, t)
  else match cs with
    | '/' :: '/' :: rest => (withAuthority? scheme rest).map fun (a, t) => (some a, some a.host, t)
    | '/' :: _ => some (none, none, .segments (path false cs))
    | _ => some (none, none, .verbatim (Text.Percent.encode isControlOrBeyond cs))

def ofChars? (cs : List Char) : Option Url := do
  let clean := (Text.dropEnds isControlOrBlank cs).filter (!isLayout ·)
  let (scheme, rest) ← scheme? clean
  let (beforeFragment, fragment) := cutAt '#' rest
  let (beforeQuery, query) := cutAt '?' beforeFragment
  let (authority, host, trail) ← body? scheme beforeQuery
  let inQuery := if scheme.knowsDomains then escapedInWebQuery else escapedInQuery
  some
    { scheme, host, trail
      username := (authority.map (·.username)).getD []
      password := (authority.map (·.password)).getD []
      port := authority.bind (·.port)
      query := query.map (Text.Percent.encode inQuery)
      fragment := fragment.map (Text.Percent.encode escapedInFragment) }

def parse? (s : String) : Option Url := ofChars? s.toList

end Faultline.Url
