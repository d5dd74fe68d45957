import Mathlib.Data.List.DropRight
import Mathlib.Data.List.Infix
import Faultline.Text.Case

/-! # Texts without what surrounds and separates them

A text between blanks is the text without them (`dropEnds_padded`), whatever is taken for a blank,
and a text that was put together with separators is taken apart into the same pieces
(`splitOnChar_joined`). Lower case goes through the ASCII beginning of a text letter by letter,
since no letter of it depends on what follows (`lowerAfter_ascii`).
-/

namespace Faultline.Text

/-! ## Ends -/

section
variable {p : Char → Bool} {s before behind : List Char}

theorem dropWhile_all (all : ∀ c ∈ before, p c = true) (s : List Char) :
    (before ++ s).dropWhile p = s.dropWhile p := by
  have gone : before.dropWhile p = [] := List.dropWhile_eq_nil_iff.mpr all
  rw [List.dropWhile_append, gone, List.isEmpty_nil, if_pos rfl]

/-- The end of a text is dropped as its beginning is. -/
theorem dropEnds_eq (p : Char → Bool) (s : List Char) :
    dropEnds p s = (s.dropWhile p).rdropWhile p := rfl

theorem rdropWhile_all (all : ∀ c ∈ behind, p c = true) (s : List Char) :
    (s ++ behind).rdropWhile p = s.rdropWhile p := by
  have all : ∀ c ∈ behind.reverse, p c = true := fun c member => all c (List.mem_reverse.mp member)
  rw [List.rdropWhile, List.reverse_append, dropWhile_all all]
  rfl

/-- What is dropped makes no difference around a text. -/
theorem dropEnds_padded (front : ∀ c ∈ before, p c = true) (back : ∀ c ∈ behind, p c = true)
    (s : List Char) : dropEnds p (before ++ s ++ behind) = dropEnds p s := by
  rw [dropEnds_eq, dropEnds_eq, List.append_assoc, dropWhile_all front, List.dropWhile_append]
  split
  · rename_i gone
    rw [List.isEmpty_iff.mp gone, List.dropWhile_eq_nil_iff.mpr back]
  · exact rdropWhile_all back _

/-- A text is what is left of it, with what is dropped around that. -/
theorem exists_padding (p : Char → Bool) (s : List Char) :
    ∃ before behind, (∀ c ∈ before, p c = true) ∧ (∀ c ∈ behind, p c = true) ∧
      s = before ++ dropEnds p s ++ behind := by
  refine ⟨s.takeWhile p, (s.dropWhile p).rtakeWhile p, fun _ => List.mem_takeWhile_imp,
    fun _ => List.mem_rtakeWhile_imp, ?_⟩
  rw [dropEnds_eq, List.append_assoc, List.rdropWhile_append_rtakeWhile,
    List.takeWhile_append_dropWhile]

theorem dropEnds_inside (p : Char → Bool) (s : List Char) : dropEnds p s <:+: s := by
  obtain ⟨before, behind, _, _, whole⟩ := exists_padding p s
  exact ⟨before, behind, whole.symm⟩

theorem dropEnds_idem (p : Char → Bool) (s : List Char) :
    dropEnds p (dropEnds p s) = dropEnds p s := by
  obtain ⟨before, behind, front, back, whole⟩ := exists_padding p s
  conv_rhs => rw [whole]
  exact (dropEnds_padded front back _).symm

theorem dropWhile_of_dropEnds (whole : dropEnds p s = s) : s.dropWhile p = s := by
  have inner := (List.rdropWhile_prefix p (l := s.dropWhile p)).length_le
  rw [← dropEnds_eq, whole] at inner
  exact (List.dropWhile_suffix p).eq_of_length_le inner

theorem dropEnds_of_none (none : ∀ c ∈ s, p c = false) : dropEnds p s = s := by
  obtain ⟨before, behind, front, back, whole⟩ := exists_padding p s
  have empty : ∀ part : List Char, part ⊆ s → (∀ c ∈ part, p c = true) → part = [] := by
    intro part within all
    refine List.eq_nil_iff_forall_not_mem.mpr fun c member => ?_
    have dropped := all c member
    rw [none c (within member)] at dropped
    cases dropped
  obtain rfl := empty before (by rw [whole]; simp) front
  obtain rfl := empty behind (by rw [whole]; simp) back
  simpa using whole.symm

/-- From the end, nothing is dropped past a character that stays. -/
theorem rdropWhile_through {c : Char} (stays : p c = false) (s behind : List Char) :
    (s ++ c :: behind).rdropWhile p = s ++ c :: behind.rdropWhile p := by
  simp only [List.rdropWhile, List.reverse_append, List.reverse_cons, List.append_assoc,
    List.dropWhile_append]
  split
  · rename_i gone
    rw [List.isEmpty_iff.mp gone]
    simp [stays]
  · simp

theorem dropEnds_through {c : Char} (kept : s.dropWhile p = s) (stays : p c = false)
    (behind : List Char) : dropEnds p (s ++ c :: behind) = s ++ c :: behind.rdropWhile p := by
  have front : (s ++ c :: behind).dropWhile p = s ++ c :: behind := by
    rw [List.dropWhile_append, kept, List.dropWhile_cons_of_neg (by simp [stays])]
    split
    · rename_i empty
      rw [List.isEmpty_iff.mp empty, List.nil_append]
    · rfl
  rw [dropEnds_eq, front, rdropWhile_through stays]

end

/-! ## Blanks and case -/

/-- Only the capital letters of ASCII change; the small ones stand 32 places behind them. -/
theorem toLower_cases (c : Char) :
    c.toLower = c ∨ 65 ≤ c.toNat ∧ c.toNat ≤ 90 ∧ c.toLower.toNat = c.toNat + 32 := by
  unfold Char.toLower
  split
  · rename_i capital
    have low : 65 ≤ c.val.toNat := UInt32.le_iff_toNat_le.mp capital.1
    have high : c.val.toNat ≤ 90 := UInt32.le_iff_toNat_le.mp capital.2
    exact .inr ⟨low, high, Nat.mod_eq_of_lt (show c.val.toNat + 32 < 2 ^ 32 by omega)⟩
  · exact .inl rfl

theorem eq_of_toLower {c d : Char} (h : c.toLower = d) (other : d.toNat < 97) : c = d := by
  rcases toLower_cases c with same | ⟨low, _, moved⟩
  · rw [← h, same]
  · rw [h] at moved
    omega

/-- Lower case brings in no character but letters. -/
theorem mem_of_map_toLower {s : List Char} {c : Char} (h : c ∈ s.map Char.toLower)
    (other : c.toNat < 97) : c ∈ s := by
  obtain ⟨d, given, image⟩ := List.mem_map.mp h
  rwa [eq_of_toLower image other] at given

theorem head?_of_map_toLower {s : List Char} {c : Char} (h : (s.map Char.toLower).head? = some c)
    (other : c.toNat < 97) : s.head? = some c := by
  rw [List.head?_map] at h
  obtain ⟨d, first, image⟩ := Option.map_eq_some_iff.mp h
  rwa [eq_of_toLower image other] at first

theorem map_toLower_eq {s image : List Char} (others : ∀ d ∈ image, d.toNat < 97)
    (h : s.map Char.toLower = image) : s = image := by
  have fixed : ∀ c ∈ s, c.toLower = c := fun c member =>
    (eq_of_toLower rfl (others _ (h ▸ List.mem_map_of_mem member))).symm
  rw [← h]
  exact ((List.map_congr_left fixed).trans (List.map_id' s)).symm

theorem toLower_toLower (c : Char) : c.toLower.toLower = c.toLower := by
  rcases toLower_cases c.toLower with same | ⟨_, high, _⟩
  · exact same
  · rcases toLower_cases c with same | ⟨low, _, moved⟩
    · rw [same, same]
    · omega

theorem toLower_ascii {c : Char} (ascii : c.toNat < 0x80) : c.toLower.toNat < 0x80 := by
  rcases toLower_cases c with same | ⟨_, high, moved⟩
  · rwa [same]
  · omega

theorem isBlank_toLower (c : Char) : isBlank c.toLower = isBlank c := by
  rcases toLower_cases c with same | ⟨low, high, moved⟩
  · rw [same]
  · have letter : ∀ n, 65 ≤ n → n ≤ 122 → inRanges blankRanges n = false := by
      intro n low high
      simp only [inRanges, blankRanges, List.any_eq_false, Bool.and_eq_true, decide_eq_true_eq]
      simp
      omega
    rw [isBlank, isBlank, moved, letter _ (by omega) (by omega), letter _ low (by omega)]

theorem trim_toLower (s : List Char) : trim (s.map Char.toLower) = (trim s).map Char.toLower := by
  have same : isBlank ∘ Char.toLower = isBlank := funext isBlank_toLower
  simp only [trim, dropEnds, List.dropWhile_map, same, ← List.map_reverse]

theorem lowerChar_ascii {c : Char} (ascii : c.toNat < 0x80) : lowerChar c = [c.toLower] := by
  rw [lowerChar, if_pos ascii]

/-- Nothing that follows an ASCII character changes its lower case. -/
theorem lowerAfter_ascii {s : List Char} (ascii : ∀ c ∈ s, c.toNat < 0x80)
    (before behind : List Char) :
    lowerAfter before (s ++ behind) =
      s.map Char.toLower ++ lowerAfter (s.reverse ++ before) behind := by
  induction s generalizing before with
  | nil => rfl
  | cons c s ih =>
      obtain ⟨first, others⟩ := List.forall_mem_cons.mp ascii
      have plain : c.toNat ≠ 0x3A3 := by omega
      rw [List.cons_append, lowerAfter]
      simp only [plain, decide_false, Bool.false_and, Bool.false_eq_true, if_false,
        lowerChar_ascii first, ih others, List.map_cons, List.reverse_cons, List.cons_append,
        List.nil_append, List.append_assoc]

theorem lower_append {s : List Char} (ascii : ∀ c ∈ s, c.toNat < 0x80) (behind : List Char) :
    lower (s ++ behind) = s.map Char.toLower ++ lowerAfter s.reverse behind := by
  rw [lower, lowerAfter_ascii ascii, List.append_nil]

theorem lower_ascii {s : List Char} (ascii : ∀ c ∈ s, c.toNat < 0x80) :
    lower s = s.map Char.toLower := by
  have whole := lower_append ascii []
  rwa [List.append_nil, lowerAfter, List.append_nil] at whole

theorem mem_lowerAfter {s : List Char} {c : Char} (member : c ∈ s) (ascii : c.toNat < 0x80)
    (before : List Char) : c.toLower ∈ lowerAfter before s := by
  induction s generalizing before with
  | nil => cases member
  | cons d s ih =>
      rw [lowerAfter]
      rcases List.mem_cons.mp member with rfl | later
      · have plain : c.toNat ≠ 0x3A3 := by omega
        simp [plain, lowerChar_ascii ascii]
      · exact List.mem_append_right _ (ih later _)

/-- A character on which `p` does not hold is none of those on which it does. -/
theorem not_mem_of_all {p : Char → Bool} {marks : List Char} (all : marks.all p = true) {c : Char}
    (h : p c = false) : c ∉ marks := by
  intro member
  rw [List.all_eq_true.mp all c member] at h
  cases h

/-! ## Pieces -/

theorem splitOnChar_eq (separator : Char) (s : List Char) :
    splitOnChar separator s = s.splitOn separator := by
  induction s with
  | nil => rfl
  | cons c s ih =>
      rw [splitOnChar, ih, List.splitOn_cons_eq_if_modifyHead]
      by_cases same : c = separator
      · simp [same]
      · simp only [same, if_false, beq_iff_eq]
        cases pieces : s.splitOn separator with
        | nil => exact absurd pieces (List.splitOn_ne_nil _ _)
        | cons piece others => rfl

/-- What was put together with separators is taken apart into the same pieces. -/
theorem splitOnChar_joined {separator : Char} {pieces : List (List Char)} (some : pieces ≠ [])
    (apart : ∀ piece ∈ pieces, separator ∉ piece) :
    splitOnChar separator ([separator].intercalate pieces) = pieces := by
  rw [splitOnChar_eq, List.splitOn_intercalate separator apart some]

theorem mem_joined {separator : Char} {pieces : List (List Char)} {c : Char}
    (h : c ∈ [separator].intercalate pieces) : c = separator ∨ ∃ piece ∈ pieces, c ∈ piece := by
  induction pieces with
  | nil => simp at h
  | cons piece pieces ih =>
      cases pieces with
      | nil => exact .inr ⟨piece, List.mem_cons_self, by simpa using h⟩
      | cons next pieces =>
          rw [List.intercalate_cons_cons, List.append_assoc] at h
          rcases List.mem_append.mp h with own | later
          · exact .inr ⟨piece, List.mem_cons_self, own⟩
          · rcases List.mem_cons.mp later with rfl | rest
            · exact .inl rfl
            · rcases ih rest with mark | ⟨other, given, member⟩
              · exact .inl mark
              · exact .inr ⟨other, List.mem_cons_of_mem _ given, member⟩

/-- The characters of a piece are those of the text, without the separator. -/
theorem mem_piece {separator : Char} {s piece : List Char} (h : piece ∈ splitOnChar separator s)
    {c : Char} (member : c ∈ piece) : c ∈ s ∧ c ≠ separator := by
  induction s generalizing piece with
  | nil =>
      obtain rfl := List.mem_singleton.mp h
      cases member
  | cons d s ih =>
      rw [splitOnChar] at h
      split at h
      · rcases List.mem_cons.mp h with rfl | later
        · cases member
        · exact ⟨List.mem_cons_of_mem _ (ih later member).1, (ih later member).2⟩
      · rename_i other
        split at h
        · obtain rfl := List.mem_singleton.mp h
          obtain rfl := List.mem_singleton.mp member
          exact ⟨List.mem_cons_self, other⟩
        · rename_i first pieces split
          rcases List.mem_cons.mp h with rfl | later
          · rcases List.mem_cons.mp member with rfl | inner
            · exact ⟨List.mem_cons_self, other⟩
            · obtain ⟨within, apart⟩ := ih (split ▸ List.mem_cons_self) inner
              exact ⟨List.mem_cons_of_mem _ within, apart⟩
          · obtain ⟨within, apart⟩ := ih (split ▸ List.mem_cons_of_mem _ later) member
            exact ⟨List.mem_cons_of_mem _ within, apart⟩

end Faultline.Text
