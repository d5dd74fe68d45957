import Faultline.Number.Rounding

/-! # Instants

An instant is a count of milliseconds since the start of 1970. Only the instants within a hundred
million days of that moment have a written form: calendar date, time of day to the millisecond, and
the letter `Z`. Years outside `0`–`9999` are written with a sign and six digits.
-/

namespace Faultline

/-- A moment in milliseconds since 1970; it is valid if `Instant.inRange`. -/
structure Instant where
  ms : Int
  deriving DecidableEq, Repr, Inhabited

namespace Instant

/-- The greatest distance from 1970 that has a written form. -/
def limit : Nat := 8640000000000000

def inRange (t : Instant) : Bool := t.ms.natAbs ≤ limit

/-- The instant that a number of milliseconds names, cut off toward zero. Infinities name none that
    is in range. -/
def ofNumber (x : Number) : Instant :=
  ⟨x.truncate?.getD (limit + 1)⟩

/-- A date of the calendar. -/
structure Date where
  year : Int
  month : Nat
  day : Nat
  deriving DecidableEq, Repr

/-- The date `days` days after the first of January 1970. The year is taken to start in March, so
    that the leap day is its last. -/
def dateOf (days : Int) : Date :=
  let z := days + 719468
  let era := Int.fdiv z 146097
  let dayOfEra := (Int.fmod z 146097).toNat
  let yearOfEra := (dayOfEra - dayOfEra / 1460 + dayOfEra / 36524 - dayOfEra / 146096) / 365
  let dayOfYear := dayOfEra - (365 * yearOfEra + yearOfEra / 4 - yearOfEra / 100)
  let shifted := (5 * dayOfYear + 2) / 153
  let day := dayOfYear - (153 * shifted + 2) / 5 + 1
  let month := if shifted < 10 then shifted + 3 else shifted - 9
  ⟨yearOfEra + era * 400 + (if month ≤ 2 then 1 else 0), month, day⟩

/-- The last `width` decimal digits of `n`. -/
def padded : (width : Nat) → (n : Nat) → List Char
  | 0, _ => []
  | width + 1, n => padded width (n / 10) ++ [Char.ofNat ('0'.toNat + n % 10)]

def yearText (y : Int) : List Char :=
  if 0 ≤ y && y ≤ 9999 then padded 4 y.toNat
  else (if y < 0 then '-' else '+') :: padded 6 y.natAbs

/-- The written form of `t`, whether or not it is in range. -/
def write (t : Instant) : List Char :=
  let date := dateOf (Int.fdiv t.ms 86400000)
  let ms := (Int.fmod t.ms 86400000).toNat
  yearText date.year ++ '-' :: padded 2 date.month ++ '-' :: padded 2 date.day ++
    'T' :: padded 2 (ms / 3600000) ++ ':' :: padded 2 (ms / 60000 % 60) ++
    ':' :: padded 2 (ms / 1000 % 60) ++ '.' :: padded 3 (ms % 1000) ++ ['Z']

def text? (t : Instant) : Option String :=
  if t.inRange then some (String.ofList t.write) else none

/-- The instant `ms` milliseconds later. -/
def after (t : Instant) (ms : Int) : Instant := ⟨t.ms + ms⟩

example : (Instant.mk (-1)).write = "1969-12-31T23:59:59.999Z".toList := by decide +kernel

end Instant

end Faultline
