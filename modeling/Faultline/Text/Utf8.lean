/-! # Reading bytes as UTF-8

Every byte sequence has a reading: each longest start of a character that cannot be completed
becomes one replacement character, and the reading goes on with the byte that broke it.
-/

namespace Faultline.Text.Utf8

def replacement : Char := Char.ofNat 0xFFFD

/-- A character begun and not complete: its bits so far, the bytes still owed, and the closed range
    in which the next one must lie. -/
structure Pending where
  bits : Nat
  owed : Nat
  least : Nat
  greatest : Nat
  deriving Repr, DecidableEq

/-- What a byte at the start of a character means: the character, a beginning, or nothing. -/
def start (b : Nat) : Option (Char ⊕ Pending) :=
  if b < 0x80 then some (.inl (Char.ofNat b))
  else if b < 0xC2 then none
  else if b < 0xE0 then some (.inr ⟨b - 0xC0, 1, 0x80, 0xBF⟩)
  else if b < 0xF0 then
    some (.inr ⟨b - 0xE0, 2, if b = 0xE0 then 0xA0 else 0x80, if b = 0xED then 0x9F else 0xBF⟩)
  else if b < 0xF5 then
    some (.inr ⟨b - 0xF0, 3, if b = 0xF0 then 0x90 else 0x80, if b = 0xF4 then 0x8F else 0xBF⟩)
  else none

/-- The reader between two bytes: what it has read, last first, and what it is in the middle of. -/
structure Reader where
  done : List Char
  pending : Option Pending
  deriving Repr, DecidableEq

def Reader.begin (done : List Char) (b : Nat) : Reader :=
  match start b with
  | some (.inl c) => ⟨c :: done, none⟩
  | some (.inr p) => ⟨done, some p⟩
  | none => ⟨replacement :: done, none⟩

/-- Takes one byte. A byte that does not continue what was begun is read again as a start. -/
def Reader.feed (r : Reader) (b : Nat) : Reader :=
  match r.pending with
  | none => Reader.begin r.done b
  | some p =>
    if p.least ≤ b && b ≤ p.greatest then
      let bits := p.bits * 0x40 + (b - 0x80)
      if p.owed ≤ 1 then ⟨Char.ofNat bits :: r.done, none⟩
      else ⟨r.done, some ⟨bits, p.owed - 1, 0x80, 0xBF⟩⟩
    else Reader.begin (replacement :: r.done) b

def Reader.finish (r : Reader) : List Char :=
  (match r.pending with
    | none => r.done
    | some _ => replacement :: r.done).reverse

def read (bytes : List UInt8) : List Char :=
  (bytes.foldl (fun r b => Reader.feed r b.toNat) ⟨[], none⟩).finish

/-- Exactly the bytes of a well-formed text, or nothing. -/
def readStrict? (bytes : List UInt8) : Option (List Char) :=
  (String.fromUTF8? ⟨bytes.toArray⟩).map String.toList

def decode (bytes : ByteArray) : String :=
  match String.fromUTF8? bytes with
  | some s => s
  | none => String.ofList (read bytes.data.toList)

/-- A leading byte order mark is no part of a text. -/
def dropMark : List Char → List Char
  | c :: rest => if c.toNat = 0xFEFF then rest else c :: rest
  | [] => []

end Faultline.Text.Utf8
