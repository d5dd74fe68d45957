import Faultline.Number.Basic

/-! # Rounding to double precision

The nearest double-precision number to a quotient of natural numbers; a quotient halfway between
two goes to the one whose significand is even. Everything is computed on natural numbers.
-/

namespace Faultline.Number

/-- The nearest integer to `num / den`, a half going to the even neighbour. -/
def roundHalfEven (num den : Nat) : Nat :=
  let q := num / den
  let r := num % den
  if 2 * r < den then q
  else if den < 2 * r then q + 1
  else if q % 2 = 0 then q else q + 1

/-- Whether `2 ^ e ≤ num / den`. -/
def powerAtMost (e : Int) (num den : Nat) : Bool :=
  den * Nat.pow 2 e.toNat ≤ num * Nat.pow 2 (-e).toNat

/-- The exponent of the leading bit of `num / den`, both positive. -/
def leadingBit (num den : Nat) : Int :=
  let e : Int := (num.log2 : Int) - den.log2
  if powerAtMost e num den then e else e - 1

/-- The unit in the last place of a value whose leading bit is at `e`: 53 bits are kept, and no bit
    below the least positive number. -/
def lastPlace (e : Int) : Int := max (e - 52) (-1074)

/-- The nearest number to `num / den`, with `den` positive. -/
def ofQuotient (negative : Bool) (num den : Nat) : Number :=
  if num = 0 then .finite .zero
  else
    let e := leadingBit num den
    let u := lastPlace e
    let m := roundHalfEven (num * Nat.pow 2 (-u).toNat) (den * Nat.pow 2 u.toNat)
    if 1024 ≤ e || (e = 1023 && m = Nat.pow 2 53) then .infinite negative
    else .finite (Dyadic.ofIntWithPrec (if negative then -(m : Int) else m) (-u))

/-- The nearest number to `digits * 10 ^ exponent`. Exponents beyond all numbers are answered
    without computing the power. -/
def ofDecimal (negative : Bool) (digits : Nat) (exponent : Int) : Number :=
  if digits = 0 then .finite .zero
  else
    let size := exponent + (digits.log2 : Int) * 3 / 10
    if size < -400 then .finite .zero
    else if 400 < size then .infinite negative
    else if exponent < 0 then ofQuotient negative digits (Nat.pow 10 (-exponent).toNat)
    else ofQuotient negative (digits * Nat.pow 10 exponent.toNat) 1

/-- The product with a natural number, rounded. -/
def timesNat (x : Number) (k : Nat) : Number :=
  match x with
  | .infinite s => .infinite s
  | .finite .zero => .finite .zero
  | .finite (.ofOdd n p _) =>
    ofQuotient (n < 0) (n.natAbs * k * Nat.pow 2 (-p).toNat) (Nat.pow 2 p.toNat)

/-! ## Integers -/

theorem roundHalfEven_one (n : Nat) : roundHalfEven n 1 = n := by
  simp [roundHalfEven, Nat.mod_one]

theorem leadingBit_one {n : Nat} (h : n ≠ 0) : leadingBit n 1 = n.log2 := by
  have bit : ((n.log2 : Int) - (1 : Nat).log2) = n.log2 := by
    rw [show (1 : Nat).log2 = 0 from rfl]
    omega
  have low : powerAtMost n.log2 n 1 = true := by
    have scale : (-(n.log2 : Int)).toNat = 0 := by omega
    simpa [powerAtMost, scale] using Nat.log2_self_le h
  rw [leadingBit, bit]
  exact if_pos low

/-- An integer of at most 53 bits is not rounded. -/
theorem ofQuotient_one {n : Nat} (small : n < Nat.pow 2 53) : ofQuotient false n 1 = ofNat n := by
  by_cases zero : n = 0
  · subst zero
    rfl
  · have bits : n.log2 < 53 := (Nat.log2_lt zero).mpr small
    -- The last place is at or below that of one, so the significand is the integer, shifted up.
    obtain ⟨k, last⟩ : ∃ k : Nat, lastPlace (n.log2 : Int) = -(k : Int) :=
      ⟨(-lastPlace n.log2).toNat, by unfold lastPlace; omega⟩
    have up : (-(-(k : Int))).toNat = k := by omega
    have down : (-(k : Int)).toNat = 0 := by omega
    have unit : 1 * Nat.pow 2 0 = 1 := rfl
    have inRange : (1024 ≤ (n.log2 : Int) ||
        ((n.log2 : Int) = 1023 && n * Nat.pow 2 k = Nat.pow 2 53)) = false := by
      have low : ¬ 1024 ≤ (n.log2 : Int) := by omega
      have below : ¬ (n.log2 : Int) = 1023 := by omega
      simp only [low, below, decide_false, Bool.false_and, Bool.or_self]
    have shifted : ((n * Nat.pow 2 k : Nat) : Int) = (n : Int) <<< k := by
      rw [Int.shiftLeft_eq, Int.natCast_mul]
      rfl
    have back := Dyadic.ofIntWithPrec_shiftLeft_add (x := (n : Int)) (i := 0) (n := k)
    rw [Int.zero_add] at back
    rw [ofQuotient, if_neg zero, leadingBit_one zero]
    dsimp only
    rw [last, up, down, unit, roundHalfEven_one, inRange]
    simp only [Bool.false_eq_true, if_false, Int.neg_neg, shifted, back]
    rfl

/-- A product of at most 53 bits is exact. -/
theorem ofNat_timesNat {n k : Nat} (small : n * k < Nat.pow 2 53) :
    (ofNat n).timesNat k = ofNat (n * k) := by
  by_cases zero : n = 0
  · subst zero
    rw [Nat.zero_mul]
    rfl
  · have nonzero : (n : Int) ≠ 0 := by omega
    have whole := odd_part_doubled nonzero
    have sign : ¬ ((n : Int) >>> (n : Int).trailingZeros < 0) := by
      rw [Int.shiftRight_eq_div_pow]
      exact Int.not_lt.mpr (Int.ediv_nonneg (Int.natCast_nonneg n) (Int.natCast_nonneg _))
    have doubled : ((n : Int) >>> (n : Int).trailingZeros).natAbs *
        Nat.pow 2 (n : Int).trailingZeros = n := by
      have magnitude := congrArg Int.natAbs whole
      rwa [Int.natAbs_mul, Int.natAbs_natCast, Int.natAbs_natCast] at magnitude
    have product : ((n : Int) >>> (n : Int).trailingZeros).natAbs * k *
        Nat.pow 2 (n : Int).trailingZeros = n * k := by
      rw [Nat.mul_right_comm, doubled]
    have down : (0 - ((n : Int).trailingZeros : Int)).toNat = 0 := by omega
    have up : (-(0 - ((n : Int).trailingZeros : Int))).toNat = (n : Int).trailingZeros := by omega
    rw [← ofQuotient_one small, ofNat, ofInt, Dyadic.ofIntWithPrec, dif_neg nonzero]
    simp only [timesNat, sign, down, up, product, decide_false]

end Faultline.Number
