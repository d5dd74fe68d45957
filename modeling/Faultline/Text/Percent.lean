import Faultline.Text.Utf8

/-! # Percent encoding

A byte is written as a percent sign and two hexadecimal digits.
-/

namespace Faultline.Text.Percent

def hexValue? (c : Char) : Option Nat :=
  if '0' ≤ c && c ≤ '9' then some (c.toNat - '0'.toNat)
  else if 'a' ≤ c && c ≤ 'f' then some (c.toNat - 'a'.toNat + 10)
  else if 'A' ≤ c && c ≤ 'F' then some (c.toNat - 'A'.toNat + 10)
  else none

def upperHexDigit (n : Nat) : Char :=
  if n < 10 then Char.ofNat ('0'.toNat + n) else Char.ofNat ('A'.toNat + (n - 10))

def escape (b : UInt8) : List Char :=
  ['%', upperHexDigit (b.toNat / 16), upperHexDigit (b.toNat % 16)]

def bytesOf (c : Char) : List UInt8 := c.toString.toUTF8.data.toList

/-- Writes the characters on which `p` holds as escapes of their bytes, the others as they are. -/
def encode (p : Char → Bool) (s : List Char) : List Char :=
  s.flatMap fun c => if p c then (bytesOf c).flatMap escape else [c]

/-- The bytes of a text in which each well-formed escape stands for its byte. -/
def decodeBytes : List Char → List UInt8
  | [] => []
  | '%' :: hi :: lo :: rest =>
    match hexValue? hi, hexValue? lo with
    | some h, some l => UInt8.ofNat (h * 16 + l) :: decodeBytes rest
    | _, _ => bytesOf '%' ++ decodeBytes (hi :: lo :: rest)
  | c :: rest => bytesOf c ++ decodeBytes rest

/-- As `decodeBytes`, but a percent sign without two digits is refused. -/
def decodeBytesStrict? : List Char → Option (List UInt8)
  | [] => some []
  | '%' :: hi :: lo :: rest =>
    match hexValue? hi, hexValue? lo with
    | some h, some l => (decodeBytesStrict? rest).map (UInt8.ofNat (h * 16 + l) :: ·)
    | _, _ => none
  | c :: rest => if c = '%' then none else (decodeBytesStrict? rest).map (bytesOf c ++ ·)

/-- The text behind a fully escaped one: every escape must be well formed and the bytes must be
    those of a text. -/
def decodeText? (s : List Char) : Option (List Char) :=
  (decodeBytesStrict? s).bind Utf8.readStrict?

end Faultline.Text.Percent
