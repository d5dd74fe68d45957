import Faultline.Number.Rounding
import Faultline.Text.Blank

/-! # Reading numerals

Two grammars read the same decimals. A *literal* is what a message may hold: an optional minus, no
superfluous zero in front, digits on both sides of a point. A *numeral* is what a person may type:
white space around it, either sign, digits on one side of the point only, a word for infinity, or a
base of two, eight or sixteen behind its mark; an empty one is zero.
-/

namespace Faultline.Number

def isDigit (c : Char) : Bool := '0' ≤ c && c ≤ '9'

def ofDigits (ds : List Char) : Nat :=
  ds.foldl (fun n c => n * 10 + (c.toNat - '0'.toNat)) 0

def significantDigits : Nat := 800

/-- The number with these digits before and after the point, times a power of ten. Of digits past
    `significantDigits` it only matters whether one is not zero. -/
def ofPlaces (negative : Bool) (whole fraction : List Char) (exponent : Int) : Number :=
  let all := (whole ++ fraction).dropWhile (· == '0')
  let kept := all.take significantDigits
  let rest := all.drop significantDigits
  let scale := exponent - fraction.length + rest.length
  if rest.any (· != '0') then ofDecimal negative (ofDigits kept * 10 + 1) (scale - 1)
  else ofDecimal negative (ofDigits kept) scale

/-- An exponent part at the front of the text, and what follows it. No part at all counts as zero;
    a mark without digits is refused. -/
def readExponent? (s : List Char) : Option (Int × List Char) :=
  match s with
  | e :: more =>
    if e = 'e' || e = 'E' then
      let (sign, more) : Int × List Char := match more with
        | '+' :: t => (1, t)
        | '-' :: t => (-1, t)
        | t => (1, t)
      let ds := more.takeWhile isDigit
      if ds.isEmpty then none
      else
        let size : Int := ofDigits (ds.dropWhile (· == '0') |>.take 9)
        some (sign * size, more.dropWhile isDigit)
    else some (0, s)
  | [] => some (0, [])

/-- A literal: `-`, then `0` or digits without a zero in front, then a point with digits, then an
    exponent; nothing may follow. -/
def ofLiteral? (s : List Char) : Option Number :=
  let (negative, s) := match s with
    | '-' :: t => (true, t)
    | t => (false, t)
  let whole := s.takeWhile isDigit
  let s := s.dropWhile isDigit
  if whole.isEmpty || (whole.head? == some '0' && whole.length != 1) then none
  else
    let (fraction, s, dangling) := match s with
      | '.' :: t => (t.takeWhile isDigit, t.dropWhile isDigit, (t.takeWhile isDigit).isEmpty)
      | t => ([], t, false)
    if dangling then none
    else match readExponent? s with
      | some (e, []) => some (ofPlaces negative whole fraction e)
      | _ => none

/-- Digits in a base up to sixteen; nothing else may stand in `s`, and something must. -/
def ofBase? (base : Nat) (s : List Char) : Option Number :=
  let value? (c : Char) : Option Nat :=
    if isDigit c then some (c.toNat - '0'.toNat)
    else if 'a' ≤ c && c ≤ 'f' then some (c.toNat - 'a'.toNat + 10)
    else if 'A' ≤ c && c ≤ 'F' then some (c.toNat - 'A'.toNat + 10)
    else none
  let step (acc : Option Nat) (c : Char) : Option Nat :=
    match acc, value? c with
    | some n, some d => if d < base then some (n * base + d) else none
    | _, _ => none
  if s.isEmpty then none else (s.foldl step (some 0)).map fun n => ofQuotient false n 1

/-- A decimal with an optional sign, with digits on at least one side of the point. -/
def ofSignedDecimal? (s : List Char) : Option Number :=
  let (negative, s) := match s with
    | '-' :: t => (true, t)
    | '+' :: t => (false, t)
    | t => (false, t)
  if s = "Infinity".toList then some (.infinite negative)
  else
    let whole := s.takeWhile isDigit
    let s := s.dropWhile isDigit
    let (fraction, s) := match s with
      | '.' :: t => (t.takeWhile isDigit, t.dropWhile isDigit)
      | t => ([], t)
    if whole.isEmpty && fraction.isEmpty then none
    else match readExponent? s with
      | some (e, []) => some (ofPlaces negative whole fraction e)
      | _ => none

def ofNumeral? (s : String) : Option Number :=
  match Text.trim s.toList with
  | [] => some (ofNat 0)
  | '0' :: mark :: rest =>
    if mark = 'x' || mark = 'X' then ofBase? 16 rest
    else if mark = 'o' || mark = 'O' then ofBase? 8 rest
    else if mark = 'b' || mark = 'B' then ofBase? 2 rest
    else ofSignedDecimal? ('0' :: mark :: rest)
  | t => ofSignedDecimal? t

end Faultline.Number
