import Faultline.Control.Http
import Faultline.Control.MediaType
import Faultline.Json.Reader
import Faultline.Number.Numeral
import Faultline.Text.Utf8

/-! # Plain bodies

A body counts only if the request announces one and calls it JSON; any other is taken for the empty
object. A body that counts has to be complete, not too long, in Unicode, and an object or an array.
Only bodies that are not compressed are worked out, and of the encodings only UTF-8, with what reads
the same in UTF-7; a body that is taken for something else is taken to hold no document.
-/

namespace Faultline.Control.Body

def limit : Nat := 1048576

def isAnnounced (headers : Headers) : Bool :=
  (headers.lookup "transfer-encoding").isSome ||
    match headers.lookup "content-length" with
    | some s => (Number.ofNumeral? s).isSome
    | none => false

def leadingInt? (cs : List Char) : Option Int :=
  let cs := cs.dropWhile Text.isBlank
  let (negative, cs) := match cs with
    | '-' :: rest => (true, rest)
    | '+' :: rest => (false, rest)
    | _ => (false, cs)
  let digits := cs.takeWhile fun c => '0' ≤ c && c ≤ '9'
  if digits.isEmpty then none
  else
    let n := digits.foldl (fun n c => n * 10 + (c.toNat - '0'.toNat)) 0
    some (if negative then -n else n)

/-- A character encoding. -/
inductive Charset where
  | utf8
  /-- As long as nothing is shifted, the same as ASCII. -/
  | utf7
  /-- Plain bytes do not read as a document. -/
  | utf16
  deriving DecidableEq, Repr

/-- The encoding of a given name; only letters and digits of the name count. -/
def Charset.ofName? (name : List Char) : Option Charset :=
  let name := (name.map Char.toLower).filter fun c => c.isDigit || c.isLower
  if name = "utf8".toList then some .utf8
  else if ["utf7", "utf7imap"].any (·.toList == name) then some .utf7
  else if ["utf16", "utf16le", "utf16be"].any (·.toList == name) then some .utf16
  else none

def isLeading (c : Char) : Bool := c == ' ' || c == '\t' || c == '\n' || c == '\r'

/-- The document in a text that has been read. An empty text is the empty object. -/
def ofText (text : List Char) : Except Refusal Json :=
  if text.isEmpty then .ok .empty
  else
    let opens := match text.dropWhile isLeading with
      | '\x7b' :: _ | '[' :: _ => true
      | _ => false
    match opens, Json.read? text with
    | true, some v => .ok v
    | _, _ => .error .malformed

def ofBytes (charset : Charset) (bytes : ByteArray) : Except Refusal Json :=
  match charset with
  | .utf8 => ofText (Text.Utf8.dropMark (Text.Utf8.decode bytes).toList)
  | .utf7 =>
    if bytes.data.all fun b => b < 128 && b != 43 then
      ofText (Text.Utf8.decode bytes).toList
    else .error .malformed
  | .utf16 => if bytes.isEmpty then .ok .empty else .error .malformed

/-- How the length of a body is declared. -/
inductive Declared where
  | none
  | unreadable
  | bytes (n : Int)
  deriving DecidableEq, Repr

def declared (headers : Headers) : Declared :=
  match headers.lookup "content-length" with
  | .none => .none
  | some s =>
    match leadingInt? s.toList with
    | .none => .unreadable
    | some n => .bytes n

def readPlain (charset : Option Charset) (length : Declared) (bytes : ByteArray) :
    Except Refusal Json :=
  let declaredTooLarge : Bool := match length with
    | .bytes n => (limit : Int) < n
    | _ => false
  if declaredTooLarge then .error .tooLarge
  else match charset with
    | none => .error .unsupported
    | some charset =>
      if limit < bytes.size then .error .tooLarge
      else
        let complete : Bool := match length with
          | .none => true
          | .unreadable => false
          | .bytes n => n = bytes.size
        if complete then ofBytes charset bytes else .error .malformed

/-- The name of the character encoding of a media type. -/
def charsetName (m : MediaType) : List Char :=
  (((m.parameter "charset").filter (!·.isEmpty)).getD "utf-8".toList).map Char.toLower

/-- Reads the body of a request, or tells why it is refused. -/
def read (headers : Headers) (bytes : ByteArray) : Except Refusal Json :=
  let mediaType := (headers.lookup "content-type").bind fun s => MediaType.parse? s.toList
  match isAnnounced headers, mediaType with
  | true, some m =>
    if m.essence = "application/json".toList then
      let name := charsetName m
      if "utf-".toList.isPrefixOf name then
        let coding := ((headers.lookup "content-encoding").filter (!·.isEmpty)).getD "identity"
        let coding := String.ofList (Text.lower coding.toList)
        if coding = "identity" then readPlain (Charset.ofName? name) (declared headers) bytes
        else if coding = "gzip" || coding = "deflate" then
          -- A plain body does not decompress.
          .error (if (Charset.ofName? name).isSome then .malformed else .unsupported)
        else .error .unsupported
      else .error .unsupported
    else .ok .empty
  | _, _ => .ok .empty

end Faultline.Control.Body
