import Faultline.Json.Value

/-! # Writing JSON

Values are written without blanks. Only quotes, backslashes and the controls below the space are
escaped; what has no written number becomes `null`.
-/

namespace Faultline.Json

def hexDigit (n : Nat) : Char :=
  if n < 10 then Char.ofNat ('0'.toNat + n) else Char.ofNat ('a'.toNat + (n - 10))

def escapeChar (c : Char) : List Char :=
  if c = '"' then ['\\', '"']
  else if c = '\\' then ['\\', '\\']
  else if c.toNat < 0x20 then
    if c = '\n' then ['\\', 'n']
    else if c = '\r' then ['\\', 'r']
    else if c = '\t' then ['\\', 't']
    else if c.toNat = 8 then ['\\', 'b']
    else if c.toNat = 12 then ['\\', 'f']
    else ['\\', 'u', '0', '0', hexDigit (c.toNat / 16), hexDigit (c.toNat % 16)]
  else [c]

def quote (s : String) : String :=
  if s.toList.all (fun c => (escapeChar c).length == 1) then "\"" ++ s ++ "\""
  else "\"" ++ String.ofList (s.toList.flatMap escapeChar) ++ "\""

/-- A number; infinities have no written form. -/
def writeNumber : Number → String
  | .infinite _ => "null"
  | n => n.text

def commaSeparated (pieces : List String) : String := ",".intercalate pieces

mutual

def write : Json → String
  | .null => "null"
  | .bool b => if b then "true" else "false"
  | .number n => writeNumber n
  | .string s => quote s
  | .array items => "[" ++ commaSeparated (writeItems items) ++ "]"
  | .object ms =>
    "\x7b" ++ commaSeparated ((Members.inOrder (writeMembers ms)).map (·.2)) ++ "\x7d"

def writeItems : List Json → List String
  | [] => []
  | x :: rest => write x :: writeItems rest

def writeMembers : List (String × Json) → List (String × String)
  | [] => []
  | (k, v) :: rest => (k, quote k ++ ":" ++ write v) :: writeMembers rest

end

end Faultline.Json
