import Faultline.Number.Rounding

/-! # Base 36

Digits run through `0`–`9` and `a`–`z`. A natural number has one numeral, which reads back to it. A
fraction is written with the digits that tell it from its neighbours, computed in double precision.
-/

namespace Faultline.Number.Base36

def digitChar (d : Nat) : Char :=
  if d < 10 then Char.ofNat ('0'.toNat + d) else Char.ofNat ('a'.toNat + (d - 10))

def digitValue? (c : Char) : Option Nat :=
  if '0' ≤ c && c ≤ '9' then some (c.toNat - '0'.toNat)
  else if 'a' ≤ c && c ≤ 'z' then some (c.toNat - 'a'.toNat + 10)
  else none

/-- The digits of `n`, the least significant first. -/
def digitsRev (n : Nat) : List Nat :=
  if n < 36 then [n] else n % 36 :: digitsRev (n / 36)

/-- The digits of `n`, the most significant first. -/
def digits (n : Nat) : List Nat := (digitsRev n).reverse

def numeral (n : Nat) : List Char := (digits n).map digitChar

def read? (s : List Char) : Option Nat :=
  s.foldl (fun acc c => acc.bind fun n => (digitValue? c).map fun d => n * 36 + d) (some 0)

/-- A non-negative value `num * 2 ^ (-bits)`. -/
structure Scaled where
  num : Nat
  bits : Nat
  deriving Repr, DecidableEq

def Scaled.round (x : Scaled) : Scaled :=
  match Number.ofQuotient false x.num (Nat.pow 2 x.bits) with
  | .finite (.ofOdd n k _) => ⟨n.natAbs * Nat.pow 2 (-k).toNat, k.toNat⟩
  | _ => ⟨0, 0⟩

def Scaled.align (x y : Scaled) : Nat × Nat × Nat :=
  let b := max x.bits y.bits
  (x.num * Nat.pow 2 (b - x.bits), y.num * Nat.pow 2 (b - y.bits), b)

def Scaled.le (x y : Scaled) : Bool :=
  let (a, b, _) := x.align y
  a ≤ b

def Scaled.add (x y : Scaled) : Scaled :=
  let (a, b, bits) := x.align y
  Scaled.round ⟨a + b, bits⟩

def Scaled.times36 (x : Scaled) : Scaled := Scaled.round ⟨x.num * 36, x.bits⟩

def Scaled.whole (x : Scaled) : Nat := x.num / Nat.pow 2 x.bits

def Scaled.fraction (x : Scaled) : Scaled := ⟨x.num % Nat.pow 2 x.bits, x.bits⟩

/-- Half the distance from a value to the next greater number, and at least the least number. -/
def Scaled.tolerance (x : Scaled) : Scaled :=
  if x.num = 0 then ⟨1, 1074⟩
  else
    let u := Number.lastPlace ((x.num.log2 : Int) - x.bits)
    if u ≤ -1074 then ⟨1, 1074⟩ else ⟨Nat.pow 2 (u - 1).toNat, (1 - u).toNat⟩

/-- Adds one in the last place of a fraction; digits that overflow are dropped. -/
def roundUp (rev : List Nat) : List Nat :=
  match rev.dropWhile (· == 35) with
  | d :: more => (d + 1) :: more
  | [] => []

/-- The digits of a fraction, the last first: as many as exceed the tolerance, the last one rounded.
    Each step multiplies the tolerance, so `steps` bounds their number. -/
def fractionRev : (steps : Nat) → (frac tol : Scaled) → (rev : List Nat) → List Nat
  | 0, _, _, rev => rev
  | steps + 1, frac, tol, rev =>
    if tol.le frac then
      let shifted := frac.times36
      let tol := tol.times36
      let d := shifted.whole
      let frac := shifted.fraction
      let rev := d :: rev
      let half : Scaled := ⟨1, 1⟩
      let one : Scaled := ⟨1, 0⟩
      let beyondHalf := !frac.le half || (half.le frac && d % 2 = 1)
      if beyondHalf && !(frac.add tol).le one then roundUp rev
      else fractionRev steps frac tol rev
    else rev

/-- The digits after the point of a value in `[0, 1)`. -/
def fractionDigits (x : Scaled) : List Nat :=
  (fractionRev 1100 x x.tolerance []).reverse

/-- The digits after the point of a number in `[0, 1)`; any other number has none. -/
def ofFraction (x : Number) : List Char :=
  match x with
  | .finite (.ofOdd n k _) =>
    if n < 0 || k ≤ 0 || Nat.pow 2 k.toNat ≤ n.natAbs then []
    else (fractionDigits ⟨n.natAbs, k.toNat⟩).map digitChar
  | _ => []

example : numeral 1704067200000 = "lqu5m2o0".toList := by decide +kernel

end Faultline.Number.Base36
