import Mathlib.Algebra.Ring.Nat
import Mathlib.Data.List.Forall2
import Faultline.Proofs.Texts
import Faultline.Url.Address

/-! # Numeric hosts are read as they are written

The four bytes of an address of version 4, and the eight pieces of one of version 6, are read from
the written form as they were (`Address4.parse?_write`, `Address6.parse?_write`). The zeros that the
written form of version 6 leaves out are as many as its pieces are short of eight, so no matter
where they are left out they come back.
-/

namespace Faultline.Url

open Text

section
variable {α β : Type} {f : α → Option β} {items : List α} {images : List β}

/-- A list is read as a whole if each of its items is. -/
theorem mapM_eq_some_iff :
    items.mapM f = some images ↔ List.Forall₂ (fun a b => f a = some b) items images := by
  induction items generalizing images with
  | nil =>
      rw [List.mapM_nil, List.forall₂_nil_left_iff, eq_comm]
      exact Option.some_inj
  | cons a items ih =>
      simp only [List.mapM_cons, Option.bind_eq_bind, Option.pure_def, Option.bind_eq_some_iff,
        Option.some.injEq, ih, List.forall₂_cons_left_iff]
      constructor
      · rintro ⟨b, own, others, rest, rfl⟩
        exact ⟨b, others, own, rest, rfl⟩
      · rintro ⟨b, others, own, rest, rfl⟩
        exact ⟨b, own, others, rest, rfl⟩

theorem exists_of_mem_images (read : items.mapM f = some images) {b : β} (member : b ∈ images) :
    ∃ a ∈ items, f a = some b := by
  have pairs := mapM_eq_some_iff.mp read
  induction pairs with
  | nil => cases member
  | cons own pairs ih =>
      rcases List.mem_cons.mp member with rfl | later
      · exact ⟨_, List.mem_cons_self, own⟩
      · obtain ⟨a, given, image⟩ := ih (mapM_eq_some_iff.mpr pairs) later
        exact ⟨a, List.mem_cons_of_mem _ given, image⟩

end

/-! ## Digits -/

theorem hexValue?_digitChar : ∀ d < 16, Percent.hexValue? (Nat.digitChar d) = some d := by
  decide

theorem digitsValue?_append (base : Nat) (cs : List Char) (c : Char) :
    digitsValue? base (cs ++ [c]) =
      match digitsValue? base cs, Percent.hexValue? c with
      | some n, some d => if d < base then some (n * base + d) else none
      | _, _ => none := by
  rw [digitsValue?, List.foldl_append]
  rfl

theorem digitsValue?_toDigits {base : Nat} (low : 1 < base) (high : base ≤ 16) (n : Nat) :
    digitsValue? base (Nat.toDigits base n) = some n := by
  have digit : ∀ d < base, ∀ cs m, digitsValue? base cs = some m →
      digitsValue? base (cs ++ [Nat.digitChar d]) = some (m * base + d) := by
    intro d small cs m value
    rw [digitsValue?_append, value, hexValue?_digitChar d (by omega)]
    simp [small]
  induction n using Nat.strongRecOn with
  | _ n ih =>
      rw [Nat.toDigits_eq_if low]
      split
      · rename_i small
        have one := digit n small [] 0 rfl
        rwa [List.nil_append, Nat.zero_mul, Nat.zero_add] at one
      · rename_i large
        have shorter : n / base < n := Nat.div_lt_self (by omega) low
        rw [digit (n % base) (Nat.mod_lt _ (by omega)) _ _ (ih _ shorter), Nat.div_add_mod']

theorem digitsValue?_lt {base n : Nat} {cs : List Char} (value : digitsValue? base cs = some n) :
    n < base ^ cs.length := by
  induction cs using List.reverseRecOn generalizing n with
  | nil =>
      obtain rfl := Option.some.inj value
      exact Nat.one_pos
  | append_singleton cs c ih =>
      rw [digitsValue?_append] at value
      split at value
      · rename_i m d front last
        split at value
        · rename_i small
          obtain rfl := Option.some.inj value
          rw [List.length_append, List.length_singleton, Nat.pow_succ]
          calc m * base + d < m * base + base := by omega
            _ = (m + 1) * base := by rw [Nat.add_mul, Nat.one_mul]
            _ ≤ base ^ cs.length * base := Nat.mul_le_mul_right _ (ih front)
        · cases value
      · cases value

theorem mem_toDigits {base n : Nat} (low : 1 < base) {c : Char} (h : c ∈ Nat.toDigits base n) :
    ∃ d < base, c = Nat.digitChar d := by
  induction n using Nat.strongRecOn with
  | _ n ih =>
      rw [Nat.toDigits_eq_if low] at h
      split at h
      · rename_i small
        exact ⟨n, small, List.mem_singleton.mp h⟩
      · rename_i large
        rcases List.mem_append.mp h with front | last
        · exact ih _ (Nat.div_lt_self (by omega) low) front
        · exact ⟨n % base, Nat.mod_lt _ (by omega), List.mem_singleton.mp last⟩

/-! ## Version 4 -/

namespace Address4

theorem part?_decimal : ∀ n < 256, part? (decimal n) = some n := by
  decide +kernel

theorem combine?_lt {left n : Nat} {parts : List Nat} (h : combine? left parts = some n) :
    n < 256 ^ left := by
  induction left generalizing parts n with
  | zero => cases parts <;> cases h
  | succ left ih =>
      match parts, h with
      | [last], h =>
          simp only [combine?] at h
          split at h
          · rename_i small
            obtain rfl := Option.some.inj h
            exact small
          · cases h
      | part :: next :: rest, h =>
          simp only [combine?] at h
          split at h
          · rename_i small
            obtain ⟨m, value, rfl⟩ := Option.map_eq_some_iff.mp h
            have low := ih value
            show part * 256 ^ left + m < 256 ^ (left + 1)
            calc part * 256 ^ left + m < part * 256 ^ left + 256 ^ left := by omega
              _ = (part + 1) * 256 ^ left := by rw [Nat.add_mul, Nat.one_mul]
              _ ≤ 256 * 256 ^ left := Nat.mul_le_mul_right _ small
              _ = 256 ^ (left + 1) := by rw [Nat.pow_succ, Nat.mul_comm]
          · cases h

theorem combine?_length {left n : Nat} {parts : List Nat} (h : combine? left parts = some n) :
    parts.length ≤ left := by
  induction left generalizing parts n with
  | zero => cases parts <;> cases h
  | succ left ih =>
      match parts, h with
      | [_], _ => exact Nat.le_add_left ..
      | _ :: next :: rest, h =>
          simp only [combine?] at h
          split at h
          · obtain ⟨_, value, _⟩ := Option.map_eq_some_iff.mp h
            exact Nat.succ_le_succ (ih value)
          · cases h

theorem parse?_lt {host : List Char} {n : Nat} (h : parse? host = some n) : n < 256 ^ 4 := by
  obtain ⟨parts, _, value⟩ := Option.bind_eq_some_iff.mp h
  exact combine?_lt value

/-- An address is read from four parts at most. -/
theorem parse?_length {host : List Char} {n : Nat} (h : parse? host = some n) :
    (pieces host).length ≤ 4 := by
  obtain ⟨parts, read, value⟩ := Option.bind_eq_some_iff.mp h
  rw [(mapM_eq_some_iff.mp read).length_eq]
  exact combine?_length value

example : parse? "1.2.3.4.0".toList = none := by decide +kernel

/-- The four parts that are written of an address. -/
def bytes (n : Nat) : List Nat := [n / 256 ^ 3 % 256, n / 256 ^ 2 % 256, n / 256 % 256, n % 256]

theorem bytes_lt (n : Nat) : ∀ b ∈ bytes n, b < 256 := by
  intro b member
  simp only [bytes, List.mem_cons, List.not_mem_nil, or_false] at member
  rcases member with rfl | rfl | rfl | rfl <;> exact Nat.mod_lt _ (by decide)

theorem write_eq (n : Nat) : write n = ['.'].intercalate ((bytes n).map decimal) := by
  simp [write, bytes, List.intercalate]

theorem pieces_write (n : Nat) : pieces (write n) = (bytes n).map decimal := by
  have apart : ∀ piece ∈ (bytes n).map decimal, '.' ∉ piece := by
    intro piece member dot
    obtain ⟨k, _, rfl⟩ := List.mem_map.mp member
    obtain ⟨d, small, same⟩ := mem_toDigits (by decide) dot
    exact (by decide : ∀ d < 10, '.' ≠ Nat.digitChar d) d small same
  have last : ((bytes n).map decimal).getLast? ≠ some [] := by
    simp [bytes, decimal, Nat.toDigits_ne_nil]
  simp only [pieces, write_eq, splitOnChar_joined (by simp [bytes]) apart]
  refine if_neg ?_
  rw [Bool.and_eq_true, beq_iff_eq]
  exact fun dotted => last dotted.2

theorem mapM_part?_decimal {ns : List Nat} (small : ∀ n ∈ ns, n < 256) :
    (ns.map decimal).mapM part? = some ns := by
  rw [mapM_eq_some_iff, List.forall₂_map_left_iff, List.forall₂_same]
  exact fun n member => part?_decimal n (small n member)

theorem combine?_bytes {n : Nat} (small : n < 256 ^ 4) : combine? 4 (bytes n) = some n := by
  have bounds := bytes_lt n
  simp only [bytes, List.mem_cons, List.not_mem_nil, or_false, forall_eq_or_imp, forall_eq]
    at bounds
  obtain ⟨first, second, third, fourth⟩ := bounds
  simp only [bytes, combine?, first, second, third, if_true]
  rw [if_pos (by simpa using fourth)]
  simp
  omega

theorem parse?_write {n : Nat} (small : n < 256 ^ 4) : parse? (write n) = some n := by
  rw [parse?, pieces_write, mapM_part?_decimal (bytes_lt n), Option.bind_some,
    combine?_bytes small]

theorem endsInNumber_write (n : Nat) : endsInNumber (write n) = true := by
  have last : ((bytes n).map decimal).getLast? = some (decimal (n % 256)) := by
    simp [bytes]
  have digits := part?_decimal (n % 256) (Nat.mod_lt _ (by decide))
  rw [endsInNumber, pieces_write, last]
  cases written : decimal (n % 256) with
  | nil => exact absurd written Nat.toDigits_ne_nil
  | cons c cs =>
      rw [written] at digits
      simp [digits]

theorem mem_write {n : Nat} {c : Char} (h : c ∈ write n) :
    c = '.' ∨ ∃ d < 10, c = Nat.digitChar d := by
  have digit : ∀ {k}, c ∈ decimal k → ∃ d < 10, c = Nat.digitChar d :=
    fun member => mem_toDigits (by decide) member
  simp only [write, List.mem_append, List.mem_cons] at h
  rcases h with ((first | rfl | second) | rfl | third) | rfl | fourth
  · exact .inr (digit first)
  · exact .inl rfl
  · exact .inr (digit second)
  · exact .inl rfl
  · exact .inr (digit third)
  · exact .inl rfl
  · exact .inr (digit fourth)

end Address4

/-! ## Version 6 -/

namespace Address6

theorem piece?_lt {cs : List Char} {n : Nat} (h : piece? cs = some n) : n < 65536 := by
  unfold piece? at h
  split at h
  · cases h
  · rename_i shape
    have length : cs.length ≤ 4 := by
      simp only [Bool.or_eq_true, decide_eq_true_eq, not_or] at shape
      omega
    calc n < 16 ^ cs.length := digitsValue?_lt h
      _ ≤ 16 ^ 4 := Nat.pow_le_pow_right (by decide) length

theorem embedded?_lt {cs : List Char} {ns : List Nat} (h : embedded? cs = some ns) :
    ∀ n ∈ ns, n < 65536 := by
  have byte : ∀ {cs n}, byte? cs = some n → n < 256 := by
    intro cs n value
    unfold byte? at value
    split at value
    · cases value
    · cases value
    · exact of_decide_eq_true (Option.filter_eq_some_iff.mp value).2
  unfold embedded? at h
  split at h
  · rename_i a b c d read
    obtain rfl := Option.some.inj h
    have small : ∀ n ∈ [a, b, c, d], n < 256 := by
      intro n member
      obtain ⟨_, _, value⟩ := exists_of_mem_images read member
      exact byte value
    simp only [List.mem_cons, List.not_mem_nil, or_false, forall_eq_or_imp, forall_eq] at small ⊢
    omega
  · cases h

theorem hexadecimal_ne_nil (n : Nat) : hexadecimal n ≠ [] := Nat.toDigits_ne_nil

theorem mem_hexadecimal {n : Nat} {c : Char} (h : c ∈ hexadecimal n) :
    ∃ d < 16, c = Nat.digitChar d := mem_toDigits (by decide) h

theorem colon_not_mem (n : Nat) : ':' ∉ hexadecimal n := by
  intro member
  obtain ⟨d, small, same⟩ := mem_hexadecimal member
  exact (by decide : ∀ d < 16, ':' ≠ Nat.digitChar d) d small same

theorem dot_not_mem (n : Nat) : '.' ∉ hexadecimal n := by
  intro member
  obtain ⟨d, small, same⟩ := mem_hexadecimal member
  exact (by decide : ∀ d < 16, '.' ≠ Nat.digitChar d) d small same

theorem piece?_hexadecimal {n : Nat} (small : n < 65536) : piece? (hexadecimal n) = some n := by
  have length : ¬ 4 < (hexadecimal n).length :=
    Nat.not_lt.mpr ((Nat.length_toDigits_le_iff (by decide) (by decide)).mpr small)
  have shape : ((hexadecimal n).isEmpty || decide (4 < (hexadecimal n).length)) = false := by
    simp [hexadecimal_ne_nil, length]
  rw [piece?, shape, if_neg (by simp)]
  exact digitsValue?_toDigits (by decide) (by decide) n

theorem pieces?_hexadecimal (mayEmbed : Bool) {ns : List Nat} (small : ∀ n ∈ ns, n < 65536) :
    pieces? mayEmbed (ns.map hexadecimal) = some ns := by
  induction ns with
  | nil => rfl
  | cons n ns ih =>
      obtain ⟨first, others⟩ := List.forall_mem_cons.mp small
      cases ns with
      | nil =>
          have plain : (mayEmbed && (hexadecimal n).contains '.') = false := by
            simp [dot_not_mem]
          simp only [List.map_cons, List.map_nil, pieces?, plain, Bool.false_eq_true, if_false,
            piece?_hexadecimal first, Option.map_some]
      | cons m ns =>
          rw [List.map_cons, List.map_cons, pieces?, piece?_hexadecimal first]
          · rw [← List.map_cons, ih others]
          · simp

/-! ### Runs of pieces -/

theorem writePieces_cons (n m : Nat) (ns : List Nat) :
    writePieces (n :: m :: ns) = hexadecimal n ++ ':' :: writePieces (m :: ns) := by
  simp [writePieces, List.intercalate_cons_cons]

theorem writePieces_ne_nil (n : Nat) (ns : List Nat) :
    ∃ c cs, writePieces (n :: ns) = c :: cs ∧ c ≠ ':' := by
  have first : ∃ c cs, hexadecimal n = c :: cs ∧ c ≠ ':' := by
    cases written : hexadecimal n with
    | nil => exact absurd written (hexadecimal_ne_nil n)
    | cons c cs =>
        refine ⟨c, cs, rfl, ?_⟩
        rintro rfl
        exact colon_not_mem n (written ▸ List.mem_cons_self)
  obtain ⟨c, cs, written, other⟩ := first
  cases ns with
  | nil => exact ⟨c, cs, by simpa [writePieces] using written, other⟩
  | cons m ns => exact ⟨c, _, by rw [writePieces_cons, written, List.cons_append], other⟩

theorem side?_writePieces (mayEmbed : Bool) {ns : List Nat} (small : ∀ n ∈ ns, n < 65536) :
    side? mayEmbed (writePieces ns) = some ns := by
  cases ns with
  | nil => rfl
  | cons n ns =>
      obtain ⟨c, cs, written, _⟩ := writePieces_ne_nil n ns
      have apart : ∀ piece ∈ (n :: ns).map hexadecimal, ':' ∉ piece := by
        intro piece member
        obtain ⟨k, _, rfl⟩ := List.mem_map.mp member
        exact colon_not_mem k
      rw [side?, if_neg (by simp [written]), writePieces, splitOnChar_joined (by simp) apart,
        pieces?_hexadecimal mayEmbed small]

/-! ### The gap -/

theorem cutAtGap_piece {piece : List Char} (plain : ':' ∉ piece) (rest : List Char) :
    cutAtGap (piece ++ rest) =
      (cutAtGap rest).map fun cut => (piece ++ cut.1, cut.2) := by
  induction piece with
  | nil => simp
  | cons c piece ih =>
      obtain ⟨other, others⟩ := not_or.mp fun h => plain (List.mem_cons.mpr h)
      rw [List.cons_append, cutAtGap, ih others, Option.map_map]
      · rfl
      · intro _ colon
        exact absurd colon.symm other

theorem cutAtGap_colon {d : Char} (other : d ≠ ':') (rest : List Char) :
    cutAtGap (':' :: d :: rest) =
      (cutAtGap (d :: rest)).map fun cut => (':' :: cut.1, cut.2) := by
  rw [cutAtGap]
  intro _ _ colon
  exact absurd (List.cons.inj colon).1 other

/-- Written pieces have no gap, so one is found only behind them. -/
theorem cutAtGap_writePieces (ns : List Nat) (rest : List Char) :
    cutAtGap (writePieces ns ++ rest) =
      (cutAtGap rest).map fun cut => (writePieces ns ++ cut.1, cut.2) := by
  induction ns with
  | nil => simp [writePieces]
  | cons n ns ih =>
      cases ns with
      | nil =>
          have alone : writePieces [n] = hexadecimal n := by simp [writePieces]
          rw [alone, cutAtGap_piece (colon_not_mem n)]
      | cons m ns =>
          obtain ⟨c, cs, written, other⟩ := writePieces_ne_nil m ns
          rw [writePieces_cons, List.append_assoc, cutAtGap_piece (colon_not_mem n),
            List.cons_append, written, List.cons_append, cutAtGap_colon other, ← List.cons_append,
            ← written, ih, Option.map_map, Option.map_map]
          simp [Function.comp_def]

theorem parse?_ungapped {ns : List Nat} (eight : ns.length = 8) (small : ∀ n ∈ ns, n < 65536) :
    parse? (writePieces ns) = some ns := by
  have whole : cutAtGap (writePieces ns) = none := by
    have ends := cutAtGap_writePieces ns []
    rwa [List.append_nil] at ends
  simp only [parse?, whole, side?_writePieces true small]
  simp [eight]

/-- The zeros at a gap are as many as the pieces on both sides leave room for. -/
theorem parse?_gapped {before behind : List Nat} {run : Nat} (gap : 0 < run)
    (eight : before.length + run + behind.length = 8)
    (small : ∀ n ∈ before ++ behind, n < 65536) :
    parse? (writePieces before ++ ':' :: ':' :: writePieces behind) =
      some (before ++ List.replicate run 0 ++ behind) := by
  obtain ⟨left, right⟩ := List.forall_mem_append.mp small
  have cut : cutAtGap (writePieces before ++ ':' :: ':' :: writePieces behind) =
      some (writePieces before, writePieces behind) := by
    rw [cutAtGap_writePieces]
    simp [cutAtGap]
  have short : before.length + behind.length < 8 := by omega
  have left_out : 8 - before.length - behind.length = run := by omega
  simp only [parse?, cut, side?_writePieces false left, side?_writePieces true right, short,
    if_true, left_out]

theorem zeros_split (ps : List Nat) : ps = List.replicate (zeros ps) 0 ++ ps.drop (zeros ps) := by
  have all : ps.takeWhile (· == 0) = List.replicate (zeros ps) 0 :=
    List.eq_replicate_iff.mpr ⟨rfl, fun n member => by simpa using List.mem_takeWhile_imp member⟩
  have rest : ps.dropWhile (· == 0) = ps.drop (zeros ps) := by
    have behind : (ps.takeWhile (· == 0) ++ ps.dropWhile (· == 0)).drop (zeros ps) =
        ps.dropWhile (· == 0) := List.drop_left
    rw [List.takeWhile_append_dropWhile] at behind
    exact behind.symm
  rw [← all, ← rest, List.takeWhile_append_dropWhile]

/-- Wherever the run is found, and also if it is not found at all, the pieces come back. -/
theorem parse?_writeFrom {run : Nat} (gap : 0 < run) (before ps : List Nat)
    (eight : (before ++ ps).length = 8) (small : ∀ n ∈ before ++ ps, n < 65536) :
    parse? (writeFrom run before ps) = some (before ++ ps) := by
  induction ps generalizing before with
  | nil =>
      rw [List.append_nil] at eight small ⊢
      exact parse?_ungapped eight small
  | cons p ps ih =>
      rw [writeFrom]
      split
      · rename_i found
        have split := zeros_split (p :: ps)
        rw [found] at split
        have length := congrArg List.length split
        rw [List.length_append, List.length_replicate] at length
        rw [List.length_append] at eight
        have inner : ∀ n ∈ before ++ (p :: ps).drop run, n < 65536 := by
          intro n member
          rcases List.mem_append.mp member with left | right
          · exact small n (List.mem_append_left _ left)
          · exact small n (List.mem_append_right _ (List.mem_of_mem_drop right))
        rw [parse?_gapped gap (by omega) inner, List.append_assoc, ← split]
      · have longer : before ++ [p] ++ ps = before ++ p :: ps := by simp
        rw [ih (before ++ [p]) (longer ▸ eight) (longer ▸ small), longer]

theorem parse?_write {ps : List Nat} (eight : ps.length = 8) (small : ∀ n ∈ ps, n < 65536) :
    parse? (write ps) = some ps := by
  unfold write
  dsimp only
  split
  · exact parse?_ungapped eight small
  · exact parse?_writeFrom (by omega) [] ps eight small

theorem mem_writePieces {ns : List Nat} {c : Char} (h : c ∈ writePieces ns) :
    c = ':' ∨ ∃ d < 16, c = Nat.digitChar d := by
  induction ns with
  | nil => simp [writePieces] at h
  | cons n ns ih =>
      cases ns with
      | nil => exact .inr (mem_hexadecimal (by simpa [writePieces] using h))
      | cons m ns =>
          rw [writePieces_cons] at h
          rcases List.mem_append.mp h with own | later
          · exact .inr (mem_hexadecimal own)
          · rcases List.mem_cons.mp later with rfl | rest
            · exact .inl rfl
            · exact ih rest

theorem mem_writeFrom {run : Nat} {before ps : List Nat} {c : Char}
    (h : c ∈ writeFrom run before ps) : c = ':' ∨ ∃ d < 16, c = Nat.digitChar d := by
  induction ps generalizing before with
  | nil => exact mem_writePieces h
  | cons p ps ih =>
      rw [writeFrom] at h
      split at h
      · rcases List.mem_append.mp h with left | right
        · exact mem_writePieces left
        · rcases List.mem_cons.mp right with rfl | right
          · exact .inl rfl
          · rcases List.mem_cons.mp right with rfl | right
            · exact .inl rfl
            · exact mem_writePieces right
      · exact ih h

theorem mem_write {ps : List Nat} {c : Char} (h : c ∈ write ps) :
    c = ':' ∨ ∃ d < 16, c = Nat.digitChar d := by
  unfold write at h
  dsimp only at h
  split at h
  · exact mem_writePieces h
  · exact mem_writeFrom h

/-! ### What can be read -/

theorem pieces?_lt {mayEmbed : Bool} {parts : List (List Char)} {ns : List Nat}
    (h : pieces? mayEmbed parts = some ns) : ∀ n ∈ ns, n < 65536 := by
  induction parts generalizing ns with
  | nil =>
      obtain rfl := Option.some.inj h
      simp
  | cons p parts ih =>
      cases parts with
      | nil =>
          rw [pieces?] at h
          split at h
          · exact embedded?_lt h
          · obtain ⟨n, value, rfl⟩ := Option.map_eq_some_iff.mp h
            simpa using piece?_lt value
      | cons q parts =>
          rw [pieces?] at h
          · split at h
            · rename_i n others value rest
              obtain rfl := Option.some.inj h
              exact List.forall_mem_cons.mpr ⟨piece?_lt value, ih rest⟩
            · cases h
          · simp

theorem side?_lt {mayEmbed : Bool} {cs : List Char} {ns : List Nat}
    (h : side? mayEmbed cs = some ns) : ∀ n ∈ ns, n < 65536 := by
  unfold side? at h
  split at h
  · obtain rfl := Option.some.inj h
    simp
  · exact pieces?_lt h

theorem parse?_eight {cs : List Char} {ps : List Nat} (h : parse? cs = some ps) :
    ps.length = 8 ∧ ∀ p ∈ ps, p < 65536 := by
  unfold parse? at h
  split at h
  · obtain ⟨read, eight⟩ := Option.filter_eq_some_iff.mp h
    exact ⟨by simpa using eight, side?_lt read⟩
  · split at h
    · rename_i a b left right
      split at h
      · rename_i short
        obtain rfl := Option.some.inj h
        refine ⟨by simp; omega, ?_⟩
        intro p member
        rcases List.mem_append.mp member with front | behind
        · rcases List.mem_append.mp front with first | zero
          · exact side?_lt left p first
          · obtain rfl := List.eq_of_mem_replicate zero
            decide
        · exact side?_lt right p behind
      · cases h
    · cases h

end Address6

end Faultline.Url
