import Mathlib.Data.List.Basic
import Mathlib.Data.List.Induction
import Faultline.Correlation

/-! # Identifiers tell their instants

Of all texts without superfluous zeros, the numeral of a number is the one that reads as it
(`eq_numeral_iff`), and there is no `-` in it. So the instant at which an identifier was made is
what stands in front of its first `-`, whatever was drawn, and identifiers of different instants
are different (`identifiers_tell_instants`).
-/

namespace Faultline

namespace Number.Base36

/-! ## Digits -/

theorem digitValue?_digitChar : ∀ d < 36, digitValue? (digitChar d) = some d := by
  decide

theorem digitValue?_some {c : Char} {d : Nat} (value : digitValue? c = some d) :
    d < 36 ∧ c = digitChar d := by
  have between {low high : Char} (range : (low ≤ c && c ≤ high) = true) :
      low.toNat ≤ c.toNat ∧ c.toNat ≤ high.toNat := by
    rw [Bool.and_eq_true, decide_eq_true_eq, decide_eq_true_eq] at range
    exact range.imp UInt32.le_iff_toNat_le.mp UInt32.le_iff_toNat_le.mp
  have zero : '0'.toNat = 48 := rfl
  have nine : '9'.toNat = 57 := rfl
  have a : 'a'.toNat = 97 := rfl
  have z : 'z'.toNat = 122 := rfl
  unfold digitValue? at value
  split at value
  · rename_i range
    have range := between range
    obtain rfl := Option.some.inj value
    have small : c.toNat - '0'.toNat < 10 := by omega
    have back : '0'.toNat + (c.toNat - '0'.toNat) = c.toNat := by omega
    rw [digitChar, if_pos small, back, Char.ofNat_toNat]
    exact ⟨by omega, rfl⟩
  · split at value
    · rename_i range
      have range := between range
      obtain rfl := Option.some.inj value
      have large : ¬ c.toNat - 'a'.toNat + 10 < 10 := by omega
      have back : 'a'.toNat + (c.toNat - 'a'.toNat + 10 - 10) = c.toNat := by omega
      rw [digitChar, if_neg large, back, Char.ofNat_toNat]
      exact ⟨by omega, rfl⟩
    · cases value

theorem dash_not_digit : ∀ d < 36, '-' ≠ digitChar d := by
  decide

/-! ## Numerals -/

theorem numeral_digit {d : Nat} (small : d < 36) : numeral d = [digitChar d] := by
  rw [numeral, digits, digitsRev, if_pos small]
  rfl

theorem numeral_behind {m d : Nat} (positive : 0 < m) (small : d < 36) :
    numeral (m * 36 + d) = numeral m ++ [digitChar d] := by
  have large : ¬ m * 36 + d < 36 := by omega
  have last : (m * 36 + d) % 36 = d := by omega
  have rest : (m * 36 + d) / 36 = m := by omega
  rw [numeral, digits, digitsRev, if_neg large, last, rest, List.reverse_cons, List.map_append]
  rfl

/-- A numeral is a digit alone, or a digit behind the numeral of a smaller number. -/
theorem numeral_induction {motive : Nat → List Char → Prop}
    (alone : ∀ d < 36, motive d [digitChar d])
    (behind : ∀ m d, 0 < m → d < 36 → motive m (numeral m) →
      motive (m * 36 + d) (numeral m ++ [digitChar d]))
    (n : Nat) : motive n (numeral n) := by
  induction n using Nat.strongRecOn with
  | _ n ih =>
      by_cases small : n < 36
      · rw [numeral_digit small]
        exact alone n small
      · have positive : 0 < n / 36 := by omega
        have low : n % 36 < 36 := Nat.mod_lt _ (by decide)
        have front := ih (n / 36) (by omega)
        have whole := behind (n / 36) (n % 36) positive low front
        rwa [← numeral_behind positive low, Nat.div_add_mod'] at whole

theorem mem_numeral {n : Nat} {c : Char} (h : c ∈ numeral n) : ∃ d < 36, c = digitChar d := by
  revert h
  refine numeral_induction (motive := fun _ s => c ∈ s → ∃ d < 36, c = digitChar d) ?_ ?_ n
  · intro d small member
    exact ⟨d, small, List.mem_singleton.mp member⟩
  · intro m d _ small front member
    rcases List.mem_append.mp member with before | last
    · exact front before
    · exact ⟨d, small, List.mem_singleton.mp last⟩

theorem read?_append (s : List Char) (c : Char) :
    read? (s ++ [c]) =
      (read? s).bind fun n => (digitValue? c).map fun d => n * 36 + d := by
  rw [read?, List.foldl_append]
  rfl

theorem read?_numeral (n : Nat) : read? (numeral n) = some n := by
  refine numeral_induction (motive := fun n s => read? s = some n) ?_ ?_ n
  · intro d small
    rw [← List.nil_append [digitChar d], read?_append, digitValue?_digitChar d small]
    exact congrArg some (Nat.zero_add d)
  · intro m d _ small front
    rw [read?_append, front, digitValue?_digitChar d small]
    rfl

/-- A text that is not empty and has no zero in front of anything else. -/
def IsUnpadded (s : List Char) : Prop := s ≠ [] ∧ (s.head? = some '0' → s = ['0'])

theorem isUnpadded_numeral (n : Nat) : IsUnpadded (numeral n) := by
  refine numeral_induction (motive := fun _ s => IsUnpadded s) ?_ ?_ n
  · intro d _
    exact ⟨List.cons_ne_nil _ _, fun zero => congrArg ([·]) (Option.some.inj zero)⟩
  · intro m d positive _ front
    refine ⟨List.append_ne_nil_of_left_ne_nil front.1 _, fun zero => ?_⟩
    rw [List.head?_append_of_ne_nil _ front.1] at zero
    have value := read?_numeral m
    rw [front.2 zero] at value
    have none : 0 = m := Option.some.inj value
    omega

theorem eq_numeral {s : List Char} {n : Nat} (unpadded : IsUnpadded s)
    (value : read? s = some n) : s = numeral n := by
  induction s using List.reverseRecOn generalizing n with
  | nil => exact absurd rfl unpadded.1
  | append_singleton front c ih =>
      rw [read?_append] at value
      obtain ⟨m, before, value⟩ := Option.bind_eq_some_iff.mp value
      obtain ⟨d, digit, rfl⟩ := Option.map_eq_some_iff.mp value
      obtain ⟨small, rfl⟩ := digitValue?_some digit
      by_cases alone : front = []
      · subst alone
        obtain rfl : 0 = m := Option.some.inj before
        rw [Nat.zero_mul, Nat.zero_add, numeral_digit small, List.nil_append]
      · have leads : front.head? ≠ some '0' := by
          intro zero
          have whole := unpadded.2 ((List.head?_append_of_ne_nil _ alone).trans zero)
          simp [List.append_eq_singleton_iff, alone] at whole
        have same := ih ⟨alone, fun zero => absurd zero leads⟩ before
        -- The front is the numeral of a number that is not zero, since it does not start with one.
        have positive : 0 < m := by
          refine Nat.pos_of_ne_zero ?_
          rintro rfl
          rw [same, numeral_digit (by decide)] at leads
          exact leads rfl
        rw [numeral_behind positive small, ← same]

/-- Numbers have one numeral each: the text without superfluous zeros that reads as the number. -/
theorem eq_numeral_iff {s : List Char} {n : Nat} :
    s = numeral n ↔ IsUnpadded s ∧ read? s = some n := by
  constructor
  · rintro rfl
    exact ⟨isUnpadded_numeral n, read?_numeral n⟩
  · rintro ⟨unpadded, value⟩
    exact eq_numeral unpadded value

end Number.Base36

/-! ## Identifiers -/

namespace Correlation

open Number.Base36

/-- What stands in front of the first dash of an identifier. -/
def front (id : List Char) : List Char := id.takeWhile (· ≠ '-')

/-- What stands behind the first dash of an identifier. -/
def behind (id : List Char) : List Char := (id.dropWhile (· ≠ '-')).drop 1

/-- An identifier that was made `t` milliseconds after the epoch. -/
structure Tells (id : List Char) (t : Nat) : Prop where
  /-- In front is the one text without superfluous zeros that reads as the instant. -/
  instant : ∀ s, s = front id ↔ IsUnpadded s ∧ read? s = some t
  dashed : id = front id ++ '-' :: behind id
  short : (behind id).length ≤ 8

theorem mint_eq (t : Nat) (draw : Number) :
    mint t draw = numeral t ++ '-' :: (ofFraction draw).take drawDigits := by
  have unsigned : ¬ (t : Int) < 0 := by omega
  rw [mint, stamp, if_neg unsigned, Int.natAbs_natCast]
  rfl

theorem numeral_passes (t : Nat) : ∀ c ∈ numeral t, decide (c ≠ '-') = true := by
  intro c member
  obtain ⟨d, small, rfl⟩ := mem_numeral member
  exact decide_eq_true (dash_not_digit d small).symm

theorem front_mint (t : Nat) (draw : Number) : front (mint t draw) = numeral t := by
  rw [front, mint_eq, List.takeWhile_append_of_pos (numeral_passes t)]
  exact List.append_nil _

theorem behind_mint (t : Nat) (draw : Number) :
    behind (mint t draw) = (ofFraction draw).take drawDigits := by
  rw [behind, mint_eq, List.dropWhile_append_of_pos (numeral_passes t)]
  rfl

/-- Whatever is drawn, an identifier tells the instant at which it was made, and no other instant
    has the same identifier. -/
theorem identifiers_tell_instants :
    (∀ (t : Nat) (draw : Number), Tells (mint t draw) t) ∧
      ∀ (t u : Nat) (draw other : Number), t ≠ u → mint t draw ≠ mint u other := by
  refine ⟨?_, ?_⟩
  · intro t draw
    refine ⟨?_, ?_, ?_⟩
    · intro s
      rw [front_mint]
      exact eq_numeral_iff
    · rw [front_mint, behind_mint, mint_eq]
    · rw [behind_mint]
      exact List.length_take_le ..
  · intro t u draw other apart same
    have fronts : numeral t = numeral u := by
      rw [← front_mint t draw, same, front_mint]
    have value := read?_numeral t
    rw [fronts, read?_numeral] at value
    exact apart (Option.some.inj value).symm

/-- The last two instants that have a written form, the later one with a draw that has no digits. -/
theorem identifiers_tell_instants_at_the_limit :
    let none : Number := .ofNat 0
    let half := Number.ofQuotient false 1 2
    8640000000000000 ≠ 8639999999999999 ∧
      mint (8640000000000000 : Nat) none ≠ mint (8639999999999999 : Nat) half ∧
      Tells (mint (8640000000000000 : Nat) none) 8640000000000000 ∧
      mint (8640000000000000 : Nat) none = "2d2mh7dt6o0-".toList ∧
      mint (8639999999999999 : Nat) half = "2d2mh7dt6nz-i".toList := by
  intro none half
  obtain ⟨tells, distinct⟩ := identifiers_tell_instants
  have apart : 8640000000000000 ≠ 8639999999999999 := by decide
  exact ⟨apart, distinct _ _ none half apart, tells _ none, by decide +kernel, by decide +kernel⟩

end Correlation

end Faultline
