import Faultline.Proofs.Addresses
import Faultline.Proofs.Escapes

/-! # Written hosts are read as themselves

A domain is written in labels that need no more coding (`Domain.IsWrittenLabel`), a numeric host in
one of two forms. Whichever of them a host has come to (`Host.IsWritten`), reading it leads to the
same written host again (`Host.IsWritten.read`); this also holds of labels that were coded, since
the same is asked of a code whoever has written it.
-/

namespace Faultline.Url

open Text

/-! ## Codes -/

namespace Punycode

theorem threshold_le (bias place : Nat) : threshold bias place ≤ 26 := by
  unfold threshold
  split
  · omega
  · split <;> omega

theorem mem_digits {bias place n : Nat} {c : Char} (h : c ∈ digits bias place n) :
    ∃ d < 36, c = digitChar d := by
  have high := threshold_le bias place
  fun_induction digits bias place n with
  | case1 place n limit small =>
      exact ⟨n, by omega, List.mem_singleton.mp h⟩
  | case2 place n limit large ih =>
      rcases List.mem_cons.mp h with rfl | later
      · have below : (n - limit) % (36 - limit) < 36 - limit := Nat.mod_lt _ (by omega)
        exact ⟨_, by omega, rfl⟩
      · exact ih later (threshold_le ..)

theorem mem_run {s : List Char} {codePoints : List Nat} {next : Nat} {w : Writing} {c : Char}
    (h : c ∈ (Writing.run s codePoints next w).written) :
    c ∈ w.written ∨ ∃ d < 36, c = digitChar d := by
  have passing : ∀ (n : Nat) (s : List Char) (w : Writing),
      c ∈ (s.foldl (Writing.step n) w).written → c ∈ w.written ∨ ∃ d < 36, c = digitChar d := by
    intro n s
    induction s with
    | nil => exact fun _ member => .inl member
    | cons d s ih =>
        intro w member
        rcases ih _ member with earlier | digit
        · unfold Writing.step at earlier
          split at earlier
          · exact .inl earlier
          · split at earlier
            · rcases List.mem_append.mp earlier with old | new
              · exact .inl old
              · exact .inr (mem_digits new)
            · exact .inl earlier
        · exact .inr digit
  induction codePoints generalizing next w with
  | nil => exact .inl h
  | cons n codePoints ih =>
      rcases ih h with earlier | digit
      · exact passing n s { w with delta := w.delta + (n - next) * (w.handled + 1) } earlier
      · exact .inr digit

/-- A code holds ASCII characters of the text, hyphens and digits. -/
theorem mem_encode {s : List Char} {c : Char} (h : c ∈ encode s) :
    (c ∈ s ∧ c.toNat < 0x80) ∨ c = '-' ∨ ∃ d < 36, c = digitChar d := by
  have numbers : ∀ {codePoints handled}, c ∈ (Writing.run s codePoints 128 { handled }).written →
      ∃ d < 36, c = digitChar d := by
    intro codePoints handled member
    rcases mem_run member with earlier | digit
    · cases earlier
    · exact digit
  unfold encode at h
  dsimp only at h
  split at h
  · exact .inr (.inr (numbers h))
  · rcases List.mem_append.mp h with basic | later
    · obtain ⟨given, ascii⟩ := List.mem_filter.mp basic
      exact .inl ⟨given, of_decide_eq_true ascii⟩
    · rcases List.mem_cons.mp later with hyphen | digit
      · exact .inr (.inl hyphen)
      · exact .inr (.inr (numbers digit))

end Punycode

/-! ## Domains -/

namespace Domain

/-- A label as it stands in a written domain. -/
structure IsWrittenLabel (label : List Char) : Prop where
  ascii : ∀ c ∈ label, c.toNat < 0x80
  lower : ∀ c ∈ label, c.toLower = c
  undotted : '.' ∉ label
  /-- What stands behind the mark is a code. -/
  coded : (mark.isPrefixOf label && !isCode (label.drop mark.length)) = false

theorem isAscii_iff {s : List Char} : isAscii s = true ↔ ∀ c ∈ s, c.toNat < 0x80 := by
  simp [isAscii]

theorem IsWrittenLabel.read {label : List Char} (h : IsWrittenLabel label) :
    labelToAscii? label = some label := by
  have same : label.map Char.toLower = label :=
    List.map_congr_left h.lower |>.trans (List.map_id' _)
  simp only [labelToAscii?, isAscii_iff.mpr h.ascii, if_true, same, h.coded, Bool.false_eq_true,
    if_false]

theorem labelToAscii?_written {s label : List Char} (undotted : '.' ∉ s)
    (h : labelToAscii? s = some label) : IsWrittenLabel label := by
  have source : ∀ c ∈ (if isAscii s then s else mark ++ Punycode.encode s),
      c.toNat < 0x80 ∧ c ≠ '.' := by
    intro c member
    split at member
    · rename_i ascii
      refine ⟨isAscii_iff.mp ascii c member, ?_⟩
      rintro rfl
      exact undotted member
    · rcases List.mem_append.mp member with front | code
      · exact (by simp [mark] : ∀ c ∈ mark, c.toNat < 0x80 ∧ c ≠ '.') c front
      · rcases Punycode.mem_encode code with ⟨given, ascii⟩ | rfl | ⟨d, small, rfl⟩
        · refine ⟨ascii, ?_⟩
          rintro rfl
          exact undotted given
        · decide
        · exact (by decide : ∀ d < 36,
            (Punycode.digitChar d).toNat < 0x80 ∧ Punycode.digitChar d ≠ '.') d small
  unfold labelToAscii? at h
  dsimp only at h
  generalize (if isAscii s then s else mark ++ Punycode.encode s) = text at h source
  split at h
  · cases h
  · rename_i coded
    obtain rfl := Option.some.inj h
    refine ⟨?_, ?_, ?_, Bool.eq_false_iff.mpr coded⟩
    · intro c member
      obtain ⟨d, given, rfl⟩ := List.mem_map.mp member
      exact toLower_ascii (source d given).1
    · intro c member
      obtain ⟨d, _, rfl⟩ := List.mem_map.mp member
      exact toLower_toLower d
    · intro member
      exact (source '.' (mem_of_map_toLower member (by decide))).2 rfl

/-- A domain in ASCII: labels that stand in it as they are, between dots. -/
def IsWritten (name : List Char) : Prop :=
  ∃ labels, labels ≠ [] ∧ (∀ label ∈ labels, IsWrittenLabel label) ∧
    name = ['.'].intercalate labels

namespace IsWritten

variable {name : List Char} (h : IsWritten name)

include h

theorem ascii : ∀ c ∈ name, c.toNat < 0x80 := by
  obtain ⟨labels, _, written, rfl⟩ := h
  intro c member
  rcases mem_joined member with rfl | ⟨label, given, inner⟩
  · decide
  · exact (written label given).ascii c inner

theorem lower : ∀ c ∈ name, c.toLower = c := by
  obtain ⟨labels, _, written, rfl⟩ := h
  intro c member
  rcases mem_joined member with rfl | ⟨label, given, inner⟩
  · decide
  · exact (written label given).lower c inner

theorem read : toAscii? name = some name := by
  have same : name.map Char.toLower = name :=
    List.map_congr_left h.lower |>.trans (List.map_id' _)
  have own : normalize name = name := by
    rw [normalize, isAscii_iff.mpr h.ascii, if_pos rfl, same]
  obtain ⟨labels, nonempty, written, rfl⟩ := h
  have apart : ∀ label ∈ labels, '.' ∉ label := fun label given => (written label given).undotted
  have all : labels.mapM labelToAscii? = some labels := by
    rw [mapM_eq_some_iff, List.forall₂_same]
    exact fun label given => (written label given).read
  rw [toAscii?, own, splitOnChar_joined nonempty apart, all, Option.map_some]

end IsWritten

theorem toAscii?_written {s name : List Char} (h : toAscii? s = some name) : IsWritten name := by
  obtain ⟨labels, read, rfl⟩ := Option.map_eq_some_iff.mp h
  refine ⟨labels, ?_, ?_, rfl⟩
  · rintro rfl
    have pairs := mapM_eq_some_iff.mp read
    rw [List.forall₂_nil_right_iff, splitOnChar_eq] at pairs
    exact List.splitOn_ne_nil _ _ pairs
  · intro label member
    obtain ⟨piece, given, image⟩ := exists_of_mem_images read member
    exact labelToAscii?_written (fun dot => (mem_piece given dot).2 rfl) image

end Domain

/-! ## Hosts -/

namespace Address4

/-- The labels of a written address could stand in any domain. -/
theorem written_decimal {n : Nat} (small : n < 256) : Domain.IsWrittenLabel (decimal n) := by
  have digit : ∀ c ∈ decimal n, ∃ d < 10, c = Nat.digitChar d :=
    fun c member => mem_toDigits (by decide) member
  refine ⟨?_, ?_, ?_, ?_⟩
  · intro c member
    obtain ⟨d, small, rfl⟩ := digit c member
    exact (by decide : ∀ d < 10, (Nat.digitChar d).toNat < 0x80) d small
  · intro c member
    obtain ⟨d, small, rfl⟩ := digit c member
    exact (by decide : ∀ d < 10, (Nat.digitChar d).toLower = Nat.digitChar d) d small
  · intro dot
    obtain ⟨d, small, same⟩ := digit '.' dot
    exact (by decide : ∀ d < 10, '.' ≠ Nat.digitChar d) d small same
  · have unmarked : ∀ n < 256, Domain.mark.isPrefixOf (decimal n) = false := by decide +kernel
    rw [unmarked n small, Bool.false_and]

theorem written_write (n : Nat) : Domain.IsWritten (write n) := by
  refine ⟨(bytes n).map decimal, by simp [bytes], ?_, write_eq n⟩
  intro label member
  obtain ⟨b, given, rfl⟩ := List.mem_map.mp member
  exact written_decimal (bytes_lt n b given)

end Address4

namespace Host

/-- A host as it stands in a written web URL. -/
inductive IsWritten : List Char → Prop where
  | domain (name : List Char) (written : Domain.IsWritten name) (named : name ≠ [])
      (allowed : ∀ c ∈ name, isForbiddenInDomain c = false)
      (unnumbered : Address4.endsInNumber name = false) : IsWritten name
  | four (n : Nat) (small : n < 256 ^ 4) : IsWritten (Address4.write n)
  | six (ps : List Nat) (eight : ps.length = 8) (small : ∀ p ∈ ps, p < 65536) :
      IsWritten ('[' :: Address6.write ps ++ [']'])

theorem allowed_write {n : Nat} {c : Char} (h : c ∈ Address4.write n) :
    isForbiddenInDomain c = false := by
  rcases Address4.mem_write h with rfl | ⟨d, small, rfl⟩
  · decide
  · exact (by decide : ∀ d < 10, isForbiddenInDomain (Nat.digitChar d) = false) d small

theorem parse?_named {cs : List Char} (open_ : '[' ∉ cs) : parse? true cs = domain? cs := by
  unfold parse?
  split
  · exact absurd List.mem_cons_self open_
  · rfl

/-- What comes of a domain that stands for itself. -/
theorem domain?_written {name : List Char} (written : Domain.IsWritten name) (named : name ≠ [])
    (allowed : ∀ c ∈ name, isForbiddenInDomain c = false) :
    parse? true name =
      if Address4.endsInNumber name then (Address4.parse? name).map Address4.write
      else some name := by
  have without : ∀ {c}, isForbiddenInDomain c = true → c ∉ name := by
    intro c forbidden member
    rw [allowed c member] at forbidden
    cases forbidden
  have legal : (name.isEmpty || name.any isForbiddenInDomain) = false := by
    rw [Bool.or_eq_false_iff, List.isEmpty_eq_false_iff, List.any_eq_false]
    exact ⟨named, fun c member => by simp [allowed c member]⟩
  rw [parse?_named (without (by decide)), domain?,
    read_decodeBytes written.ascii (without (by decide)), written.read, Option.bind_some, legal,
    if_neg (by simp)]

/-- A written host is read as itself. -/
theorem IsWritten.read {host : List Char} (h : IsWritten host) : parse? true host = some host := by
  cases h with
  | domain name written named allowed unnumbered =>
      rw [domain?_written written named allowed, unnumbered, if_neg (by simp)]
  | four n small =>
      have named : Address4.write n ≠ [] := by simp [Address4.write]
      rw [domain?_written (Address4.written_write n) named fun c => allowed_write,
        Address4.endsInNumber_write, if_pos rfl, Address4.parse?_write small, Option.map_some]
  | six ps eight small =>
      show bracketed? (Address6.write ps ++ [']']) = _
      rw [bracketed?, List.getLast?_concat, List.dropLast_concat]
      simp only [Address6.parse?_write eight small, Option.map_some]

/-- Whatever a host is read from, it is a written one. -/
theorem parse?_written {cs host : List Char} (h : parse? true cs = some host) :
    IsWritten host := by
  unfold parse? at h
  split at h
  · unfold bracketed? at h
    split at h
    · obtain ⟨ps, read, rfl⟩ := Option.map_eq_some_iff.mp h
      obtain ⟨eight, small⟩ := Address6.parse?_eight read
      exact .six ps eight small
    · cases h
  · obtain ⟨name, read, checked⟩ := Option.bind_eq_some_iff.mp h
    have written := Domain.toAscii?_written read
    split at checked
    · cases checked
    · rename_i legal
      obtain ⟨named, allowed⟩ := not_or.mp (mt (Bool.or_eq_true _ _).mpr legal)
      split at checked
      · obtain ⟨n, value, rfl⟩ := Option.map_eq_some_iff.mp checked
        exact .four n (Address4.parse?_lt value)
      · rename_i unnumbered
        obtain rfl := Option.some.inj checked
        refine .domain _ written (by simpa using named) ?_ (by simpa using unnumbered)
        simpa using allowed

namespace IsWritten

variable {host : List Char} (h : IsWritten host)

include h

theorem named : host ≠ [] := by
  cases h with
  | domain name written named allowed unnumbered => exact named
  | four n small => simp [Address4.write]
  | six ps eight small => simp

/-- Of the marks of a URL, a written host holds brackets and colons at most. -/
theorem unmarked {c : Char} (member : c ∈ host) :
    isForbiddenInDomain c = false ∨ c ∈ ['[', ']', ':'] := by
  cases h with
  | domain name written named allowed unnumbered => exact .inl (allowed c member)
  | four n small => exact .inl (allowed_write member)
  | six ps eight small =>
      rcases List.mem_cons.mp member with rfl | later
      · simp
      · rcases List.mem_append.mp later with inner | last
        · rcases Address6.mem_write inner with rfl | ⟨d, small, rfl⟩
          · simp
          · exact .inl ((by decide : ∀ d < 16, isForbiddenInDomain (Nat.digitChar d) = false)
              d small)
        · obtain rfl := List.mem_singleton.mp last
          simp

theorem not_mem {c : Char} (mark : c ∈ ['#', '/', '?', '@', '\\']) : c ∉ host := by
  intro member
  rcases h.unmarked member with allowed | other
  · exact not_mem_of_all (by decide) allowed mark
  · exact (by simp : ∀ c ∈ ['#', '/', '?', '@', '\\'], c ∉ ['[', ']', ':']) c mark other

theorem beyond_blank {c : Char} (member : c ∈ host) : 0x20 < c.toNat := by
  rcases h.unmarked member with allowed | other
  · simp only [isForbiddenInDomain, Bool.or_eq_false_iff, decide_eq_false_iff_not] at allowed
    obtain ⟨⟨⟨delimiter, control⟩, _⟩, _⟩ := allowed
    have blank : c.toNat ≠ 0x20 := by
      intro same
      obtain rfl : c = ' ' := Char.toNat_inj.mp same
      cases delimiter
    omega
  · exact (by simp : ∀ c ∈ ['[', ']', ':'], 0x20 < c.toNat) c other

end IsWritten

end Host

/-! ## Ports behind hosts -/

theorem cutPort_named {name : List Char} (plain : ∀ c ∈ name, c ≠ ':' ∧ c ≠ '[')
    (rest : List Char) :
    cutPort false (name ++ rest) = (name ++ (cutPort false rest).1, (cutPort false rest).2) := by
  induction name with
  | nil => rfl
  | cons c name ih =>
      obtain ⟨⟨colon, bracket⟩, others⟩ := List.forall_mem_cons.mp plain
      rw [List.cons_append, cutPort, if_neg (by simp [colon])]
      simp [bracket, ih others]

theorem cutPort_bracketed {inner : List Char} (closed : ']' ∉ inner) (rest : List Char) :
    cutPort true (inner ++ ']' :: rest) =
      (inner ++ ']' :: (cutPort false rest).1, (cutPort false rest).2) := by
  induction inner with
  | nil => simp [cutPort]
  | cons c inner ih =>
      obtain ⟨other, others⟩ := not_or.mp fun h => closed (List.mem_cons.mpr h)
      have still : (if c = '[' then true else if c = ']' then false else true) = true := by
        rw [if_neg (fun same : c = ']' => other same.symm), ite_self]
      rw [List.cons_append, cutPort, if_neg (by simp), still, ih others]
      rfl

/-- The colon that a port begins with is behind the host. -/
theorem Host.IsWritten.cutPort {host : List Char} (h : Host.IsWritten host) (rest : List Char) :
    cutPort false (host ++ rest) =
      (host ++ (Url.cutPort false rest).1, (Url.cutPort false rest).2) := by
  have legal : ∀ {c}, Host.isForbiddenInDomain c = false → c ≠ ':' ∧ c ≠ '[' := by
    intro c allowed
    constructor <;>
      · rintro rfl
        cases allowed
  cases h with
  | domain name written named allowed unnumbered =>
      exact cutPort_named (fun c member => legal (allowed c member)) rest
  | four n small => exact cutPort_named (fun c member => legal (Host.allowed_write member)) rest
  | six ps eight small =>
      have closed : ']' ∉ Address6.write ps := by
        intro member
        rcases Address6.mem_write member with colon | ⟨d, small, same⟩
        · cases colon
        · exact (by decide : ∀ d < 16, ']' ≠ Nat.digitChar d) d small same
      have inner := cutPort_bracketed closed rest
      rw [List.cons_append, List.cons_append, List.append_assoc, Url.cutPort, if_neg (by simp),
        if_pos rfl]
      simp only [inner, List.cons_append, List.append_assoc, List.nil_append]

end Faultline.Url
