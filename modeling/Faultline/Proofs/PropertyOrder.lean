import Mathlib.Data.List.Nodup
import Faultline.Proofs.Documents

/-! # The order in which members are listed

Of two members of an object it is said which one is listed before the other (`Members.Precedes`),
without listing them. `Members.inOrder` lists every member once (`inOrder_perm`), each before those
that it precedes (`inOrder_ascending`).
-/

namespace Faultline.Members

/-! ## Array indices -/

/-- The name is an array index in the only way in which one is written. -/
def IsIndex (key : String) (n : Nat) : Prop := key = n.repr ∧ n < 4294967295

theorem digitChar_value {c : Char} (digit : '0' ≤ c ∧ c ≤ '9') :
    Nat.digitChar (c.toNat - '0'.toNat) = c := by
  have low : 48 ≤ c.toNat := digit.1
  have high : c.toNat ≤ 57 := digit.2
  apply Char.toNat_inj.mp
  rw [Nat.toNat_digitChar_of_lt_ten (by simp; omega)]
  simp
  omega

/-- Digits that are read behind a number are written behind it. -/
theorem toDigits_foldl {cs : List Char} {n : Nat} (positive : 0 < n)
    (digits : ∀ c ∈ cs, '0' ≤ c ∧ c ≤ '9') :
    Nat.toDigits 10 (cs.foldl (fun n c => n * 10 + (c.toNat - '0'.toNat)) n) =
      Nat.toDigits 10 n ++ cs := by
  induction cs generalizing n with
  | nil => simp
  | cons c rest ih =>
      obtain ⟨digit, others⟩ := List.forall_mem_cons.mp digits
      have high : c.toNat ≤ 57 := digit.2
      have small : c.toNat - '0'.toNat < 10 := by
        simp
        omega
      have written := Nat.toDigits_append_toDigits (b := 10) (by simp) positive small
      rw [Nat.toDigits_of_lt_base small, digitChar_value digit, Nat.mul_comm 10 n] at written
      rw [List.foldl_cons, ih (by omega) others, ← written, List.append_assoc,
        List.singleton_append]

theorem head?_toDigits {n : Nat} (positive : 0 < n) : (Nat.toDigits 10 n).head? ≠ some '0' := by
  induction n using Nat.strongRecOn with
  | ind n ih =>
      rw [Nat.toDigits_eq_if (by simp)]
      split
      · rename_i small
        intro zero
        have value := Nat.toNat_digitChar_of_lt_ten small
        rw [Option.some.inj zero] at value
        simp at value
        omega
      · have shorter := ih (n / 10) (by omega) (by omega)
        rwa [List.head?_append_of_ne_nil _ Nat.toDigits_ne_nil]

/-- The value of digits without a superfluous zero in front is written as these digits. -/
theorem toDigits_value {cs : List Char} (written : cs ≠ [])
    (digits : ∀ c ∈ cs, '0' ≤ c ∧ c ≤ '9') (short : cs.head? = some '0' → cs.length = 1) :
    Nat.toDigits 10 (cs.foldl (fun n c => n * 10 + (c.toNat - '0'.toNat)) 0) = cs := by
  cases cs with
  | nil => exact absurd rfl written
  | cons c rest =>
      obtain ⟨digit, others⟩ := List.forall_mem_cons.mp digits
      have first := digitChar_value digit
      have high : c.toNat ≤ 57 := digit.2
      by_cases zero : c = '0'
      · subst zero
        obtain rfl : rest = [] := by simpa using short rfl
        rfl
      · have positive : 0 < c.toNat - '0'.toNat := by
          rw [Nat.pos_iff_ne_zero]
          intro none
          rw [none] at first
          exact zero first.symm
        rw [List.foldl_cons, Nat.zero_mul, Nat.zero_add, toDigits_foldl positive others,
          Nat.toDigits_of_lt_base (by simp; omega), first, List.singleton_append]

theorem value_toDigits (n : Nat) :
    (Nat.toDigits 10 n).foldl (fun n c => n * 10 + (c.toNat - '0'.toNat)) 0 = n := by
  have value := Nat.ofDigitChars_ten_toDigits (n := n)
  rw [Nat.ofDigitChars_eq_foldl] at value
  simpa only [Nat.mul_comm] using value

theorem index?_eq_some {key : String} {n : Nat} : index? key = some n ↔ IsIndex key n := by
  have spelled : key = n.repr ↔ key.toList = Nat.toDigits 10 n := by
    rw [Nat.repr_eq_ofList_toDigits, ← String.toList_inj, String.toList_ofList]
  have limit : ∀ {m : Nat}, m ≤ indexLimit ↔ m < 4294967295 := by
    unfold indexLimit
    omega
  rw [IsIndex, spelled]
  constructor
  · intro found
    unfold index? at found
    dsimp only at found
    split at found
    · cases found
    · rename_i shaped
      split at found
      · cases found
      · rename_i short
        split at found
        · rename_i small
          obtain rfl := Option.some.inj found
          simp only [Bool.or_eq_true, not_or, Bool.not_eq_true, Bool.not_eq_false',
            List.isEmpty_eq_false_iff, List.all_eq_true, Bool.and_eq_true, decide_eq_true_eq]
            at shaped
          refine ⟨(toDigits_value shaped.1.1 shaped.2 ?_).symm, limit.mp small⟩
          intro zero
          simpa [zero] using short
        · cases found
  · rintro ⟨digits, small⟩
    have written : (Nat.toDigits 10 n).isEmpty = false := by
      simp [Nat.toDigits_ne_nil]
    have length : ¬ (Nat.toDigits 10 n).length > 10 := by
      have low : n < 10 ^ 10 := by omega
      have bounded := (Nat.length_toDigits_le_iff (b := 10) (by simp) (by simp)).mpr low
      omega
    have digit : (Nat.toDigits 10 n).all (fun c => '0' ≤ c && c ≤ '9') = true := by
      rw [List.all_eq_true]
      intro c member
      have digit : 48 ≤ c.val ∧ c.val ≤ 57 := by
        simpa [Char.isDigit] using Nat.isDigit_of_mem_toDigits (by simp) (by simp) member
      simp only [Bool.and_eq_true, decide_eq_true_eq]
      exact digit
    have short : (Nat.toDigits 10 n).head? = some '0' → (Nat.toDigits 10 n).length = 1 := by
      intro zero
      obtain rfl : n = 0 := by
        by_contra positive
        exact head?_toDigits (Nat.pos_of_ne_zero positive) zero
      rfl
    unfold index?
    simp only [digits, value_toDigits, written, length, digit, limit.mpr small]
    simp
    exact short

theorem IsIndex.unique {key : String} {m n : Nat} (first : IsIndex key m)
    (second : IsIndex key n) : m = n := by
  rw [← index?_eq_some] at first second
  exact Option.some.inj (first.symm.trans second)

theorem index?_eq_none {key : String} : index? key = none ↔ ∀ n, ¬ IsIndex key n := by
  simp only [Option.eq_none_iff_forall_ne_some, ne_eq, index?_eq_some]

/-! ## Which of two members comes first -/

variable {α : Type} {ms : List (String × α)} {a b : String × α}

/-- Array indices come before all other names, and the lesser ones before the greater ones. Other
    names come in the order in which they were written. -/
inductive Precedes (ms : List (String × α)) (a b : String × α) : Prop
  | indices {m n : Nat} (first : IsIndex a.1 m) (second : IsIndex b.1 n) (less : m < n)
  | index {m : Nat} (first : IsIndex a.1 m) (second : ∀ n, ¬ IsIndex b.1 n)
  | written (first : ∀ n, ¬ IsIndex a.1 n) (second : ∀ n, ¬ IsIndex b.1 n)
      (earlier : [a, b].Sublist ms)

theorem not_sublist_swap {β : Type} {l : List β} (distinct : l.Nodup) {x y : β}
    (h : [x, y].Sublist l) : ¬ [y, x].Sublist l := by
  intro swapped
  induction l with
  | nil => cases h
  | cons z rest ih =>
      obtain ⟨absent, others⟩ := List.nodup_cons.mp distinct
      cases h with
      | cons _ inner =>
          cases swapped with
          | cons _ other => exact ih others inner other
          | cons_cons _ other => exact absent (inner.subset (by simp))
      | cons_cons _ inner =>
          cases swapped with
          | cons _ other => exact absent (other.subset (by simp))
          | cons_cons _ other => exact absent (inner.subset (by simp))

theorem Distinct.nodup (h : Distinct ms) : ms.Nodup := List.Nodup.of_map _ h

theorem Precedes.asymm (distinct : Distinct ms) (h : Precedes ms a b) : ¬ Precedes ms b a := by
  intro back
  cases h with
  | indices first second less =>
      cases back with
      | indices later earlier more =>
          have upper := first.unique earlier
          have lower := second.unique later
          omega
      | index _ other => exact other _ first
      | written other _ _ => exact other _ second
  | index first second =>
      cases back with
      | indices later _ _ | index later _ => exact second _ later
      | written _ other _ => exact other _ first
  | written first second earlier =>
      cases back with
      | indices later _ _ | index later _ => exact second _ later
      | written _ _ later => exact not_sublist_swap distinct.nodup earlier later

/-! ## The listing -/

theorem insertByIndex_perm (n : Nat) (x : α) (numbered : List (Nat × α)) :
    (insertByIndex n x numbered).Perm ((n, x) :: numbered) := by
  induction numbered with
  | nil => exact .refl _
  | cons y rest ih =>
      simp only [insertByIndex]
      split
      · exact .refl _
      · exact (ih.cons y).trans (List.Perm.swap ..)

theorem append_insertByIndex_perm (n : Nat) (x : α) (others numbered : List (Nat × α)) :
    (others ++ insertByIndex n x numbered).Perm ((n, x) :: (others ++ numbered)) :=
  ((insertByIndex_perm n x numbered).append_left others).trans List.perm_middle

theorem insertByIndex_ascending {n : Nat} {x : α} {numbered : List (Nat × α)}
    (ascending : numbered.Pairwise (·.1 < ·.1)) (new : ∀ y ∈ numbered, y.1 ≠ n) :
    (insertByIndex n x numbered).Pairwise (·.1 < ·.1) := by
  induction numbered with
  | nil => exact List.pairwise_singleton ..
  | cons y rest ih =>
      obtain ⟨least, sorted⟩ := List.pairwise_cons.mp ascending
      obtain ⟨here, later⟩ := List.forall_mem_cons.mp new
      simp only [insertByIndex]
      split
      · rename_i before
        refine List.pairwise_cons.mpr ⟨?_, ascending⟩
        exact List.forall_mem_cons.mpr
          ⟨before, fun z member => Nat.lt_trans before (least z member)⟩
      · rename_i behind
        refine List.pairwise_cons.mpr ⟨?_, ih sorted later⟩
        intro z member
        rcases mem_insertByIndex member with rfl | old
        · show y.1 < n
          omega
        · exact least z old

/-- The members whose names are array indices, with these indices, as they were written. -/
def indexed (ms : List (String × α)) : List (Nat × String × α) :=
  ms.filterMap fun m => (index? m.1).map (·, m)

theorem mem_indexed {n : Nat} {m : String × α} :
    (n, m) ∈ indexed ms ↔ m ∈ ms ∧ IsIndex m.1 n := by
  simp [indexed, ← index?_eq_some]

theorem indexed_cons (m : String × α) (rest : List (String × α)) :
    indexed (m :: rest) = ((index? m.1).map (·, m)).toList ++ indexed rest := by
  unfold indexed
  rw [List.filterMap_cons]
  cases index? m.1 with
  | none | some n => rfl

/-- No index is that of two members, since the names differ. -/
theorem indexed_distinct (distinct : Distinct ms) : ((indexed ms).map (·.1)).Nodup := by
  induction ms with
  | nil => exact List.nodup_nil
  | cons m rest ih =>
      obtain ⟨absent, others⟩ := List.nodup_cons.mp distinct
      rw [indexed_cons]
      cases found : index? m.1 with
      | none => simpa using ih others
      | some n =>
          simp only [Option.map_some, Option.toList_some, List.cons_append, List.nil_append,
            List.map_cons, List.nodup_cons]
          refine ⟨?_, ih others⟩
          intro twice
          obtain ⟨⟨_, other⟩, member, rfl⟩ := List.mem_map.mp twice
          obtain ⟨inside, same⟩ := mem_indexed.mp member
          have named := same.1.trans (index?_eq_some.mp found).1.symm
          exact absent (List.mem_map.mpr ⟨other, inside, named⟩)

/-- Puts a member among those whose names are array indices, if its own is one. -/
def place (numbered : List (Nat × String × α)) (m : String × α) : List (Nat × String × α) :=
  match index? m.1 with
  | some n => insertByIndex n m numbered
  | none => numbered

theorem foldl_place_perm (ms : List (String × α)) (numbered : List (Nat × String × α)) :
    (ms.foldl place numbered).Perm (indexed ms ++ numbered) := by
  induction ms generalizing numbered with
  | nil => exact .refl _
  | cons m rest ih =>
      refine (ih (place numbered m)).trans ?_
      rw [indexed_cons, place]
      cases index? m.1 with
      | none => exact .refl _
      | some n => exact append_insertByIndex_perm n m (indexed rest) numbered

theorem foldl_place_ascending {numbered : List (Nat × String × α)}
    (ascending : numbered.Pairwise (·.1 < ·.1))
    (distinct : ((indexed ms ++ numbered).map (·.1)).Nodup) :
    (ms.foldl place numbered).Pairwise (·.1 < ·.1) := by
  induction ms generalizing numbered with
  | nil => exact ascending
  | cons m rest ih =>
      rw [indexed_cons] at distinct
      rw [List.foldl_cons]
      cases found : index? m.1 with
      | none =>
          simp only [place, found] at distinct ⊢
          exact ih ascending distinct
      | some n =>
          simp only [place, found, Option.map_some, Option.toList_some, List.cons_append,
            List.nil_append] at distinct ⊢
          have moved := append_insertByIndex_perm n m (indexed rest) numbered
          refine ih (insertByIndex_ascending ascending ?_) ((moved.map _).nodup_iff.mpr distinct)
          rintro y member rfl
          exact (List.nodup_cons.mp distinct).1
            (List.mem_map.mpr ⟨y, List.mem_append_right _ member, rfl⟩)

theorem mem_foldl_place {n : Nat} {m : String × α} (h : (n, m) ∈ ms.foldl place []) :
    IsIndex m.1 n := by
  have inside := (foldl_place_perm ms []).subset h
  rw [List.append_nil] at inside
  exact (mem_indexed.mp inside).2

theorem inOrder_eq (ms : List (String × α)) :
    inOrder ms = (ms.foldl place []).map (·.2) ++ ms.filter fun m => (index? m.1).isNone := by
  show (if (ms.foldl place []).isEmpty then ms else _) = _
  split
  · rename_i none
    have empty := List.isEmpty_iff.mp none
    have unnumbered := (foldl_place_perm ms []).symm
    rw [empty, List.append_nil, List.perm_nil] at unnumbered
    rw [empty, List.map_nil, List.nil_append, List.filter_eq_self.mpr]
    intro m member
    rw [Option.isNone_iff_eq_none, index?_eq_none]
    intro n index
    have inside := mem_indexed.mpr ⟨member, index⟩
    rw [unnumbered] at inside
    cases inside
  · rfl

theorem indexed_members (ms : List (String × α)) :
    (indexed ms).map (·.2) = ms.filter fun m => (index? m.1).isSome := by
  induction ms with
  | nil => rfl
  | cons m rest ih =>
      rw [indexed_cons, List.filter_cons]
      cases index? m.1 with
      | none => simpa using ih
      | some n => simpa using ih

/-- Every member is listed once. -/
theorem inOrder_perm (ms : List (String × α)) : (inOrder ms).Perm ms := by
  have numbered := (foldl_place_perm ms []).map (·.2)
  rw [List.append_nil, indexed_members] at numbered
  have parts := List.filter_append_perm (fun m : String × α => (index? m.1).isSome) ms
  simp only [Option.not_isSome] at parts
  rw [inOrder_eq]
  exact (numbered.append_right _).trans parts

/-- Every member is listed before those that it precedes. -/
theorem inOrder_ascending (distinct : Distinct ms) : (inOrder ms).Pairwise (Precedes ms) := by
  have other : ∀ m ∈ ms.filter (fun m => (index? m.1).isNone), ∀ n, ¬ IsIndex m.1 n := by
    intro m member
    simpa [index?_eq_none] using (List.mem_filter.mp member).2
  rw [inOrder_eq, List.pairwise_append]
  refine ⟨?_, ?_, ?_⟩
  · rw [List.pairwise_map]
    refine (foldl_place_ascending List.Pairwise.nil ?_).imp_of_mem ?_
    · rw [List.append_nil]
      exact indexed_distinct distinct
    · intro x y first second less
      exact .indices (mem_foldl_place first) (mem_foldl_place second) less
  · rw [List.pairwise_iff_forall_sublist]
    intro x y pair
    exact .written (other x (pair.subset (by simp))) (other y (pair.subset (by simp)))
      (pair.trans List.filter_sublist)
  · intro x indexed y written
    obtain ⟨⟨n, _⟩, member, rfl⟩ := List.mem_map.mp indexed
    exact .index (mem_foldl_place member) (other y written)

/-- With a zero in front a name is no array index. -/
example : (inOrder [("b", 1), ("10", 2), ("07", 3), ("7", 4)]).map (·.1) =
    ["7", "10", "b", "07"] := by
  decide +kernel

end Faultline.Members
