import Faultline.Number.Rounding

/-! # Shortest decimals

A number is written with the fewest digits that read back to it; of several such decimals the one
nearest to it is taken. Digits are chosen by exact arithmetic and laid out afterwards.
-/

namespace Faultline.Number

/-- A positive finite number `m * 2 ^ q` in the grid of double precision. -/
structure Binary where
  m : Nat
  q : Int
  deriving Repr, DecidableEq

/-- The grid form of `n * 2 ^ (-k)`, for `n` positive. -/
def Binary.ofParts (n : Nat) (k : Int) : Binary :=
  let u := lastPlace ((n.log2 : Int) - k)
  ⟨n * Nat.pow 2 (-k - u).toNat, u⟩

/-- Below the least significand of a binade the gap is half as wide, save at the bottom. -/
def Binary.narrowBelow (x : Binary) : Bool := x.m = Nat.pow 2 52 && -1074 < x.q

/-- Compares `a * 10 ^ i` with `n * 2 ^ j`, exactly. -/
def compareScaled (a : Nat) (i : Int) (n : Nat) (j : Int) : Ordering :=
  compare (a * Nat.pow 10 i.toNat * Nat.pow 2 (-j).toNat)
    (n * Nat.pow 2 j.toNat * Nat.pow 10 (-i).toNat)

/-- Whether the decimal `digits * 10 ^ exponent` lies among the reals that round to `x`. -/
def Binary.readsBack (x : Binary) (digits : Nat) (exponent : Int) : Bool :=
  let low := if x.narrowBelow then 4 * x.m - 1 else 4 * x.m - 2
  let high := 4 * x.m + 2
  let closed := x.m % 2 = 0
  let atLow := compareScaled digits exponent low (x.q - 2)
  let atHigh := compareScaled digits exponent high (x.q - 2)
  (atLow == .gt || (closed && atLow == .eq)) && (atHigh == .lt || (closed && atHigh == .eq))

/-- The least `k` with `x < 10 ^ k`: an estimate from the leading bit, set right by comparison. -/
def Binary.scale (x : Binary) : Int :=
  let bit : Int := (x.m.log2 : Int) + x.q
  let guess := Int.fdiv (bit * 30103) 100000
  if compareScaled 1 guess x.m x.q == .gt then guess
  else if compareScaled 1 (guess + 1) x.m x.q == .gt then guess + 1
  else guess + 2

/-- The neighbour of `x` on the grid of `10 ^ g` that reads back, the nearer one if both do, the
    even one if they are equally near. -/
def Binary.onGrid? (x : Binary) (g : Int) : Option Nat :=
  let below := x.m * Nat.pow 2 x.q.toNat * Nat.pow 10 (-g).toNat /
    (Nat.pow 2 (-x.q).toNat * Nat.pow 10 g.toNat)
  let above := below + 1
  match x.readsBack below g, x.readsBack above g with
  | true, true =>
    match compareScaled (below + above) g x.m (x.q + 1) with
    | .lt => some above
    | .gt => some below
    | .eq => some (if below % 2 = 0 then below else above)
  | true, false => some below
  | false, true => some above
  | false, false => none

/-- A decimal: its digits, and the place `k` of the point, so that the value is
    `0.digits * 10 ^ k`. -/
structure Decimal where
  digits : List Char
  point : Int
  deriving Repr, DecidableEq

def digitsOf (n : Nat) : List Char := Nat.toDigits 10 n

/-- Drops the zeros at the end of `ds`. -/
def dropTrailingZeros (ds : List Char) : List Char :=
  (ds.reverse.dropWhile (· == '0')).reverse

/-- The shortest decimal that reads back to `x`. Seventeen digits are always enough. -/
def Binary.shortest (x : Binary) : Decimal :=
  let k := x.scale
  let found := (List.range 17).findSome? fun i =>
    let g := k - (i + 1 : Nat)
    (x.onGrid? g).map fun d => (d, g)
  let (d, g) := found.getD (x.m * Nat.pow 2 x.q.toNat, 0)
  let ds := digitsOf d
  ⟨dropTrailingZeros ds, g + ds.length⟩

def zeros (n : Nat) : List Char := List.replicate n '0'

/-- The layout: positional from `10 ^ -6` up to `10 ^ 21`, with a signed exponent beyond. -/
def Decimal.layout (d : Decimal) : List Char :=
  let n : Int := d.digits.length
  let k := d.point
  if n ≤ k && k ≤ 21 then d.digits ++ zeros (k - n).toNat
  else if 0 < k && k ≤ 21 then d.digits.take k.toNat ++ '.' :: d.digits.drop k.toNat
  else if -6 < k && k ≤ 0 then '0' :: '.' :: (zeros (-k).toNat ++ d.digits)
  else
    let e := k - 1
    let tail := 'e' :: (if e < 0 then '-' else '+') :: digitsOf e.natAbs
    match d.digits with
    | [c] => c :: tail
    | c :: more => c :: '.' :: (more ++ tail)
    | [] => tail

def text : Number → String
  | .infinite false => "Infinity"
  | .infinite true => "-Infinity"
  | .finite .zero => "0"
  | .finite (.ofOdd n k _) =>
    let body := (Binary.ofParts n.natAbs k).shortest.layout
    String.ofList (if n < 0 then '-' :: body else body)

example : text (ofDecimal false 5 (-324)) = "5e-324" := by decide +kernel

example : text (ofDecimal true 15 20) = "-1.5e+21" := by decide +kernel

end Faultline.Number
