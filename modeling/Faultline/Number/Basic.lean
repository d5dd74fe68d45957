/-! # Numbers

The numbers that configuration, messages and requests carry are binary floating point of double
precision. A finite one is held by its exact value; zero has no sign, since no text and no
comparison shows one.
-/

namespace Faultline

/-- A double-precision number: an exact dyadic value, or an infinity. -/
inductive Number where
  | finite (value : Dyadic)
  | infinite (negative : Bool)
  deriving DecidableEq

namespace Number

instance : Inhabited Number := ⟨.finite .zero⟩

/-- The integer `n`, for values that need at most 53 bits. -/
def ofInt (n : Int) : Number := .finite (Dyadic.ofIntWithPrec n 0)

def ofNat (n : Nat) : Number := ofInt n

/-- The integer that a number is, if it is one. -/
def toInt? : Number → Option Int
  | .finite .zero => some 0
  | .finite (.ofOdd n k _) => if k ≤ 0 then some (n * Nat.pow 2 (-k).toNat) else none
  | .infinite _ => none

/-- The natural number that a number is, if it is one. -/
def toNat? (x : Number) : Option Nat :=
  match x.toInt? with
  | some n => if 0 ≤ n then some n.toNat else none
  | none => none

def isPositiveInteger (x : Number) : Bool :=
  match x.toInt? with
  | some n => 0 < n
  | none => false

def isCount (x : Number) : Bool := x.toNat?.isSome

/-- The value as numerator and power of two: `n * 2 ^ (-k)`. Infinities have none. -/
def parts? : Number → Option (Int × Int)
  | .finite .zero => some (0, 0)
  | .finite (.ofOdd n k _) => some (n, k)
  | .infinite _ => none

def floor? (x : Number) : Option Int :=
  x.parts?.map fun (n, k) =>
    if k ≤ 0 then n * Nat.pow 2 (-k).toNat else Int.fdiv n (Nat.pow 2 k.toNat)

/-- The integer next to the number on the side of zero. -/
def truncate? (x : Number) : Option Int :=
  x.parts?.map fun (n, k) =>
    if k ≤ 0 then n * Nat.pow 2 (-k).toNat else Int.tdiv n (Nat.pow 2 k.toNat)

/-- Whether `bottom ≤ x < top`. -/
def within (bottom top : Int) (x : Number) : Bool :=
  match x.floor? with
  | some n => bottom ≤ n && n < top
  | none => false

/-! ## Integers -/

/-- The odd part of an integer, doubled as often as it was halved, is the integer. -/
theorem odd_part_doubled {n : Int} (h : n ≠ 0) :
    (n >>> n.trailingZeros) * (Nat.pow 2 n.trailingZeros : Nat) = n := by
  have whole : ((2 ^ n.trailingZeros : Nat) : Int) ∣ n := by
    simpa using Int.two_pow_trailingZeros_dvd h
  rw [Int.shiftRight_eq_div_pow]
  exact Int.ediv_mul_cancel whole

@[simp] theorem toInt?_ofInt (n : Int) : (ofInt n).toInt? = some n := by
  unfold ofInt Dyadic.ofIntWithPrec
  split
  · rename_i zero
    rw [zero]
    rfl
  · rename_i nonzero
    have scale : -(0 - (n.trailingZeros : Int)) = n.trailingZeros := by omega
    have low : (0 - (n.trailingZeros : Int)) ≤ 0 := by omega
    simp only [toInt?, scale, low, if_true, Int.toNat_natCast, odd_part_doubled nonzero]

@[simp] theorem ofNat_inj {m n : Nat} : ofNat m = ofNat n ↔ m = n := by
  refine ⟨fun same => ?_, congrArg ofNat⟩
  have integers := congrArg toInt? same
  rw [ofNat, ofNat, toInt?_ofInt, toInt?_ofInt] at integers
  exact Int.ofNat_inj.mp (Option.some.inj integers)

theorem toNat?_positive {x : Number} (h : x.isPositiveInteger = true) :
    ∃ n, x.toNat? = some n ∧ 1 ≤ n := by
  unfold isPositiveInteger at h
  unfold toNat?
  cases integer : x.toInt? with
  | none => simp [integer] at h
  | some n =>
      have positive : 0 < n := by simpa [integer] using h
      refine ⟨n.toNat, if_pos (Int.le_of_lt positive), ?_⟩
      omega

theorem eq_ofInt {x : Number} {n : Int} (h : x.toInt? = some n) : x = ofInt n := by
  cases x with
  | infinite negative => cases h
  | finite value =>
      cases value with
      | zero =>
          obtain rfl := Option.some.inj h
          rfl
      | ofOdd odd k isOdd =>
          simp only [toInt?] at h
          split at h
          · rename_i low
            obtain ⟨m, rfl⟩ : ∃ m : Nat, k = 0 - (m : Int) := ⟨(-k).toNat, by omega⟩
            have scale : (-(0 - (m : Int))).toNat = m := by omega
            obtain rfl := Option.some.inj h
            rw [scale]
            have shifted : odd * ((Nat.pow 2 m : Nat) : Int) = odd <<< m := by
              rw [Int.shiftLeft_eq]
              rfl
            have back := Dyadic.ofIntWithPrec_shiftLeft_add (x := odd) (i := 0 - (m : Int)) (n := m)
            rw [ofInt, shifted, Dyadic.ofOdd_eq_ofIntWithPrec, ← back, Int.sub_add_cancel]
          · cases h

theorem toInt?_eq_some {x : Number} {n : Int} : x.toInt? = some n ↔ x = ofInt n := by
  constructor
  · exact eq_ofInt
  · rintro rfl
    exact toInt?_ofInt n

theorem toNat?_eq_some {x : Number} {n : Nat} : x.toNat? = some n ↔ x = ofNat n := by
  rw [ofNat, ← toInt?_eq_some, toNat?]
  cases x.toInt? with
  | none => simp
  | some m =>
      simp only [Option.some.injEq]
      split
      · rw [Option.some.injEq]
        omega
      · simp only [reduceCtorEq, false_iff]
        omega

theorem isCount_iff {x : Number} : x.isCount = true ↔ ∃ n : Nat, x = ofNat n := by
  rw [isCount, Option.isSome_iff_exists]
  simp only [toNat?_eq_some]

theorem isPositiveInteger_iff {x : Number} :
    x.isPositiveInteger = true ↔ ∃ n : Nat, 0 < n ∧ x = ofNat n := by
  constructor
  · intro positive
    obtain ⟨n, natural, least⟩ := toNat?_positive positive
    exact ⟨n, least, toNat?_eq_some.mp natural⟩
  · rintro ⟨n, positive, rfl⟩
    rw [isPositiveInteger, ofNat, toInt?_ofInt]
    simpa using positive

theorem truncate?_of_toInt? {x : Number} {n : Int} (h : x.toInt? = some n) :
    x.truncate? = some n := by
  cases x with
  | infinite negative => cases h
  | finite value =>
      cases value with
      | zero => exact h
      | ofOdd odd k isOdd =>
          simp only [toInt?] at h
          split at h
          · rename_i low
            simpa only [truncate?, parts?, Option.map_some, if_pos low] using h
          · cases h

end Number

end Faultline
