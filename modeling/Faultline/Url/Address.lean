import Faultline.Text.Blank
import Faultline.Text.Percent

/-! # Numeric hosts

The two kinds of hosts that are numbers. A version 4 address has up to four parts, each decimal,
octal or hexadecimal, of which the last fills the bytes that are left over; it is written as four
decimal bytes. A version 6 address has eight pieces of sixteen bits; the longest run of zero pieces
is written as two colons.
-/

namespace Faultline.Url

/-- The value of digits in a base of at most sixteen; no digits are zero. -/
def digitsValue? (base : Nat) (cs : List Char) : Option Nat :=
  cs.foldl (fun acc c =>
    match acc, Text.Percent.hexValue? c with
    | some n, some d => if d < base then some (n * base + d) else none
    | _, _ => none) (some 0)

def decimal (n : Nat) : List Char := Nat.toDigits 10 n

namespace Address4

/-- One part: hexadecimal after `0x`, octal after another leading zero, else decimal. -/
def part? : List Char → Option Nat
  | [] => none
  | '0' :: 'x' :: digits | '0' :: 'X' :: digits => digitsValue? 16 digits
  | ['0'] => some 0
  | '0' :: digits => digitsValue? 8 digits
  | digits => digitsValue? 10 digits

/-- The pieces of a host between its dots; a dot at the end adds none. -/
def pieces (host : List Char) : List (List Char) :=
  let ps := Text.splitOnChar '.' host
  if 1 < ps.length && ps.getLast? == some [] then ps.dropLast else ps

/-- Whether a host has to be an address because its last piece is a number. -/
def endsInNumber (host : List Char) : Bool :=
  match (pieces host).getLast? with
  | none | some [] => false
  | some last => last.all (fun c => '0' ≤ c && c ≤ '9') || (part? last).isSome

/-- The number of an address with these parts. The last one fills what the others leave, which is at
    least one byte. -/
def combine? : (bytesLeft : Nat) → (parts : List Nat) → Option Nat
  | _, [] => none
  | 0, _ :: _ => none
  | left + 1, [last] => if last < Nat.pow 256 (left + 1) then some last else none
  | left + 1, part :: rest =>
    if part < 256 then (combine? left rest).map (part * Nat.pow 256 left + ·) else none

def parse? (host : List Char) : Option Nat :=
  ((pieces host).mapM part?).bind (combine? 4)

def write (n : Nat) : List Char :=
  decimal (n / Nat.pow 256 3 % 256) ++ '.' :: decimal (n / Nat.pow 256 2 % 256) ++
    '.' :: decimal (n / 256 % 256) ++ '.' :: decimal (n % 256)

end Address4

namespace Address6

def hexadecimal (n : Nat) : List Char := Nat.toDigits 16 n

def piece? (cs : List Char) : Option Nat :=
  if cs.isEmpty || 4 < cs.length then none else digitsValue? 16 cs

def byte? (cs : List Char) : Option Nat :=
  match cs with
  | [] => none
  | '0' :: _ :: _ => none
  | _ => (digitsValue? 10 cs).filter (· < 256)

/-- Two pieces written as a version 4 address of exactly four parts. -/
def embedded? (cs : List Char) : Option (List Nat) :=
  match (Text.splitOnChar '.' cs).mapM byte? with
  | some [a, b, c, d] => some [a * 256 + b, c * 256 + d]
  | _ => none

/-- The pieces between single colons; the last of an address may be written as version 4. -/
def pieces? (mayEmbed : Bool) : List (List Char) → Option (List Nat)
  | [] => some []
  | [last] =>
    if mayEmbed && last.contains '.' then embedded? last else (piece? last).map ([·])
  | p :: rest =>
    match piece? p, pieces? mayEmbed rest with
    | some n, some ns => some (n :: ns)
    | _, _ => none

def side? (mayEmbed : Bool) (cs : List Char) : Option (List Nat) :=
  if cs.isEmpty then some [] else pieces? mayEmbed (Text.splitOnChar ':' cs)

/-- Cuts a text at its first two colons in a row. -/
def cutAtGap : List Char → Option (List Char × List Char)
  | ':' :: ':' :: rest => some ([], rest)
  | c :: rest => (cutAtGap rest).map fun (before, behind) => (c :: before, behind)
  | [] => none

def parse? (cs : List Char) : Option (List Nat) :=
  match cutAtGap cs with
  | none => (side? true cs).filter (·.length = 8)
  | some (before, behind) =>
    match side? false before, side? true behind with
    | some a, some b =>
      if a.length + b.length < 8 then
        some (a ++ List.replicate (8 - a.length - b.length) 0 ++ b)
      else none
    | _, _ => none

/-- The length of the run of zeros with which the pieces begin. -/
def zeros (ps : List Nat) : Nat := (ps.takeWhile (· == 0)).length

def longestZeros : List Nat → Nat
  | [] => 0
  | p :: rest => max (zeros (p :: rest)) (longestZeros rest)

def writePieces (ps : List Nat) : List Char := [':'].intercalate (ps.map hexadecimal)

/-- Writes pieces, the first run of `run` zeros as two colons. -/
def writeFrom (run : Nat) : (before : List Nat) → (ps : List Nat) → List Char
  | before, [] => writePieces before
  | before, p :: rest =>
    if zeros (p :: rest) = run then
      writePieces before ++ ':' :: ':' :: writePieces ((p :: rest).drop run)
    else writeFrom run (before ++ [p]) rest

/-- The written form of an address; one zero alone is not shortened. -/
def write (ps : List Nat) : List Char :=
  let run := longestZeros ps
  if run < 2 then writePieces ps else writeFrom run [] ps

end Address6

end Faultline.Url
