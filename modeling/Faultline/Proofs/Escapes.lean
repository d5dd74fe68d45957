import Mathlib.Data.List.Infix
import Faultline.Url.Parser

/-! # Texts with escapes

Escaping leaves nothing that has to be escaped (`encode_settled`), so a text that was escaped once
stays as it is when it is escaped again (`encode_plain`). A text in ASCII without escapes stands for
itself when its escapes are read (`read_decodeBytes`).
-/

namespace Faultline.Text

namespace Percent

section
variable {p : Char → Bool} {s : List Char} {c : Char}

/-- Where nothing has to be escaped, nothing is. -/
theorem encode_plain (plain : ∀ c ∈ s, p c = false) : encode p s = s := by
  induction s with
  | nil => rfl
  | cons c s ih =>
      obtain ⟨first, others⟩ := List.forall_mem_cons.mp plain
      have rest : encode p s = s := ih others
      rw [encode, List.flatMap_cons, ← encode, rest, first]
      rfl

theorem mem_escape {b : UInt8} (h : c ∈ escape b) : c = '%' ∨ ∃ n < 16, c = upperHexDigit n := by
  have small := b.toNat_lt
  simp only [escape, List.mem_cons, List.not_mem_nil, or_false] at h
  rcases h with rfl | rfl | rfl
  · exact .inl rfl
  · exact .inr ⟨b.toNat / 16, by omega, rfl⟩
  · exact .inr ⟨b.toNat % 16, by omega, rfl⟩

/-- A character of an escaped text did not have to be escaped, or belongs to an escape. -/
theorem mem_encode (h : c ∈ encode p s) :
    (c ∈ s ∧ p c = false) ∨ c = '%' ∨ ∃ n < 16, c = upperHexDigit n := by
  obtain ⟨d, given, image⟩ := List.mem_flatMap.mp h
  cases bad : p d with
  | true =>
      rw [bad, if_pos rfl] at image
      obtain ⟨b, _, escaped⟩ := List.mem_flatMap.mp image
      exact .inr (mem_escape escaped)
  | false =>
      rw [bad, if_neg (by simp)] at image
      obtain rfl := List.mem_singleton.mp image
      exact .inl ⟨given, bad⟩

/-- The signs that escapes are made of need no escapes. -/
structure Settles (p : Char → Bool) : Prop where
  sign : p '%' = false
  digit : ∀ n < 16, p (upperHexDigit n) = false

theorem encode_settled (h : Settles p) (s : List Char) : ∀ c ∈ encode p s, p c = false := by
  intro c member
  rcases mem_encode member with ⟨_, plain⟩ | rfl | ⟨n, small, rfl⟩
  · exact plain
  · exact h.sign
  · exact h.digit n small

end

/-! ## Texts in ASCII -/

section
variable {s : List Char} {c : Char}

theorem bytesOf_ascii (ascii : c.toNat < 0x80) : bytesOf c = [UInt8.ofNat c.toNat] := by
  have table : ∀ n < 0x80, bytesOf (Char.ofNat n) = [UInt8.ofNat n] := by decide +kernel
  have own := table c.toNat ascii
  rwa [Char.ofNat_toNat] at own

theorem decodeBytes_plain (plain : '%' ∉ s) : decodeBytes s = s.flatMap bytesOf := by
  induction s with
  | nil => rfl
  | cons c s ih =>
      obtain ⟨other, others⟩ := not_or.mp fun h => plain (List.mem_cons.mpr h)
      rw [decodeBytes, ih others, List.flatMap_cons]
      intro _ _ _ sign _
      exact other sign.symm

theorem decodeBytes_ascii (ascii : ∀ c ∈ s, c.toNat < 0x80) (plain : '%' ∉ s) :
    decodeBytes s = s.map fun c => UInt8.ofNat c.toNat := by
  rw [decodeBytes_plain plain, List.flatMap_congr fun c member => bytesOf_ascii (ascii c member),
    ← List.map_eq_flatMap]

end

end Percent

theorem Utf8.read_ascii {s : List Char} (ascii : ∀ c ∈ s, c.toNat < 0x80) :
    read (s.map fun c => UInt8.ofNat c.toNat) = s := by
  have feeding : ∀ (s done : List Char), (∀ c ∈ s, c.toNat < 0x80) →
      (s.map fun c => UInt8.ofNat c.toNat).foldl (fun r b => Reader.feed r b.toNat) ⟨done, none⟩ =
        ⟨s.reverse ++ done, none⟩ := by
    intro s
    induction s with
    | nil => exact fun _ _ => rfl
    | cons c s ih =>
        intro done ascii
        obtain ⟨first, others⟩ := List.forall_mem_cons.mp ascii
        have byte : (UInt8.ofNat c.toNat).toNat = c.toNat := by
          simp
          omega
        have step : Reader.feed ⟨done, none⟩ c.toNat = ⟨c :: done, none⟩ := by
          simp only [Reader.feed, Reader.begin, start, first, if_true, Char.ofNat_toNat]
        rw [List.map_cons, List.foldl_cons, byte, step, ih _ others]
        simp
  rw [read, feeding s [] ascii, Reader.finish]
  simp

/-- A text in ASCII without a percent sign stands for itself. -/
theorem read_decodeBytes {s : List Char} (ascii : ∀ c ∈ s, c.toNat < 0x80) (plain : '%' ∉ s) :
    Utf8.read (Percent.decodeBytes s) = s := by
  rw [Percent.decodeBytes_ascii ascii plain, Utf8.read_ascii ascii]

end Faultline.Text

namespace Faultline.Url

open Text

/-! ## The parts of a URL -/

theorem settles_user : Percent.Settles escapedInUser := ⟨by decide, by decide⟩

theorem settles_path : Percent.Settles escapedInPath := ⟨by decide, by decide⟩

theorem settles_webQuery : Percent.Settles escapedInWebQuery := ⟨by decide, by decide⟩

theorem settles_fragment : Percent.Settles escapedInFragment := ⟨by decide, by decide⟩

end Faultline.Url
