/-! # Texts in letters, digits and hyphens

A text is written as its ASCII characters followed by numbers, each of which tells which other
character comes next and where it goes. The digits of a number end at a threshold that adapts to the
numbers before, so that small numbers stay short.
-/

namespace Faultline.Url.Punycode

/-- The digits are the letters and then `0`–`9`. -/
def digitChar (d : Nat) : Char :=
  if d < 26 then Char.ofNat ('a'.toNat + d) else Char.ofNat ('0'.toNat + (d - 26))

def digitValue? (c : Char) : Option Nat :=
  if 'a' ≤ c && c ≤ 'z' then some (c.toNat - 'a'.toNat)
  else if '0' ≤ c && c ≤ '9' then some (c.toNat - '0'.toNat + 26)
  else none

/-- The least digit that does not end a number, at the place counted by `place` in steps of 36. -/
def threshold (bias place : Nat) : Nat :=
  if place ≤ bias then 1 else if bias + 26 ≤ place then 26 else place - bias

theorem threshold_pos (bias place : Nat) : 0 < threshold bias place := by
  unfold threshold
  split
  · omega
  · split <;> omega

/-- Divides by 35 until the result is at most 455, and counts 36 for each division. -/
def scaleDown (delta : Nat) (count : Nat) : Nat × Nat :=
  if 455 < delta then scaleDown (delta / 35) (count + 36) else (delta, count)
termination_by delta
decreasing_by exact Nat.div_lt_self (by omega) (by omega)

/-- The bias after a number `delta`, where `length` characters are placed. -/
def adapt (delta length : Nat) (isFirst : Bool) : Nat :=
  let damped := if isFirst then delta / 700 else delta / 2
  let (rest, count) := scaleDown (damped + damped / length) 0
  count + 36 * rest / (rest + 38)

/-- What is known in the middle of reading: the text so far, the last character placed and the place
    behind it, and of the number at hand its value so far and the weight of the next digit. -/
structure Reading where
  text : List Char
  codePoint : Nat := 128
  position : Nat := 0
  bias : Nat := 72
  delta : Nat := 0
  weight : Nat := 1
  place : Nat := 36

/-- Reads one digit. A digit below the threshold ends a number, and a character is placed. -/
def Reading.step (r : Reading) (c : Char) : Option Reading := do
  let digit ← digitValue? c
  let limit := threshold r.bias r.place
  let delta := r.delta + digit * r.weight
  if limit ≤ digit then
    some { r with delta, weight := r.weight * (36 - limit), place := r.place + 36 }
  else
    let length := r.text.length + 1
    let reached := r.position + delta
    let position := reached % length
    let codePoint := r.codePoint + reached / length
    if codePoint.isValidChar then
      some {
        text := r.text.take position ++ Char.ofNat codePoint :: r.text.drop position
        codePoint
        position := position + 1
        bias := adapt delta length (r.position = 0) }
    else none

/-- Cuts a text at its last hyphen; a text without one is all numbers. -/
def cutNumbers (s : List Char) : List Char × List Char :=
  let numbers := (s.reverse.takeWhile (· ≠ '-')).reverse
  (s.take (s.length - numbers.length - 1), numbers)

/-- Reads a text back. It has to be written in ASCII, and the last number has to end. -/
def decode? (s : List Char) : Option (List Char) :=
  let (basic, numbers) := cutNumbers s
  if basic.all (·.toNat < 0x80) then
    ((numbers.foldlM Reading.step { text := basic }).filter (·.place = 36)).map (·.text)
  else none

def digits (bias place n : Nat) : List Char :=
  let limit := threshold bias place
  if n < limit then [digitChar n]
  else
    digitChar (limit + (n - limit) % (36 - limit)) ::
      digits bias (place + 36) ((n - limit) / (36 - limit))
termination_by n
decreasing_by
  have := threshold_pos bias place
  have := Nat.div_le_self (n - threshold bias place) (36 - threshold bias place)
  omega

/-- What is known in the middle of writing: the numbers so far, how many characters they and the
    ASCII characters place, and how far the next one is. -/
structure Writing where
  written : List Char := []
  handled : Nat
  bias : Nat := 72
  delta : Nat := 0
  isFirst : Bool := true

/-- Passes one character of the text while the characters `codePoint` are written. -/
def Writing.step (codePoint : Nat) (w : Writing) (c : Char) : Writing :=
  if c.toNat < codePoint then { w with delta := w.delta + 1 }
  else if c.toNat = codePoint then
    { written := w.written ++ digits w.bias 36 w.delta
      handled := w.handled + 1
      bias := adapt w.delta (w.handled + 1) w.isFirst
      isFirst := false }
  else w

/-- Writes the characters `codePoints`, which ascend, from `next` on. -/
def Writing.run (s : List Char) : (codePoints : List Nat) → (next : Nat) → Writing → Writing
  | [], _, w => w
  | n :: more, next, w =>
    let w := s.foldl (Writing.step n) { w with delta := w.delta + (n - next) * (w.handled + 1) }
    Writing.run s more (n + 1) { w with delta := w.delta + 1 }

/-- Writes a text. A hyphen stands between its ASCII characters, if it has any, and the numbers. -/
def encode (s : List Char) : List Char :=
  let basic := s.filter (·.toNat < 0x80)
  let others := ((s.map Char.toNat).filter (0x80 ≤ ·)).mergeSort.eraseDups
  let numbers := (Writing.run s others 128 { handled := basic.length }).written
  if basic.isEmpty then numbers else basic ++ '-' :: numbers

example : encode "bücher".toList = "bcher-kva".toList := by decide +kernel

example : decode? "bcher-kva".toList = some "bücher".toList := by decide +kernel

end Faultline.Url.Punycode
