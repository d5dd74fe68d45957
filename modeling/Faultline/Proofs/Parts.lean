import Faultline.Proofs.Addresses
import Faultline.Proofs.Escapes

/-! # The parts of a web URL

A text is cut at its marks, and what is between them does not matter for that (`cutAt_append`). So a
web URL is read from what is behind its scheme alone (`ofWeb?`), an authority is as readable as its
host and its port (`authority?_eq`), and a path of plain segments is read as itself (`path_write`).
-/

namespace Faultline.Url

open Text

/-! ## Cutting at marks -/

section
variable {mark : Char} {cs : List Char}

theorem passes (plain : mark ∉ cs) : ∀ c ∈ cs, decide (c ≠ mark) = true := by
  intro c member
  refine decide_eq_true ?_
  rintro rfl
  exact plain member

/-- A text is cut behind what does not hold the mark. -/
theorem cutAt_append (plain : mark ∉ cs) (behind : List Char) :
    cutAt mark (cs ++ behind) = (cs ++ (cutAt mark behind).1, (cutAt mark behind).2) := by
  unfold cutAt
  rw [List.dropWhile_append_of_pos (passes plain), List.takeWhile_append_of_pos (passes plain)]
  cases behind.dropWhile (· ≠ mark) with
  | nil => rfl
  | cons c rest => rfl

theorem cutAt_marked (plain : mark ∉ cs) (part : Option (List Char)) :
    cutAt mark (cs ++ marked mark part) = (cs, part) := by
  rw [cutAt_append plain]
  cases part with
  | none => simp [marked, cutAt]
  | some part => simp [marked, cutAt]

theorem cutAtLast_none (plain : mark ∉ cs) : cutAtLast mark cs = none := by
  rw [cutAtLast, if_neg (by simpa using plain)]

theorem cutAtLast_marked (before : List Char) (plain : mark ∉ cs) :
    cutAtLast mark (before ++ mark :: cs) = some (before, cs) := by
  have passed := passes fun member : mark ∈ cs.reverse => plain (List.mem_reverse.mp member)
  have behind : ((before ++ mark :: cs).reverse.takeWhile (· ≠ mark)).reverse = cs := by
    rw [List.reverse_append, List.reverse_cons, List.append_assoc,
      List.takeWhile_append_of_pos passed]
    simp
  have size : (before ++ mark :: cs).length - cs.length - 1 = before.length := by
    rw [List.length_append, List.length_cons]
    omega
  rw [cutAtLast, if_pos (by simp)]
  simp only [behind, size, List.take_left]

end

/-! ## Schemes -/

namespace Scheme

variable {scheme : Scheme}

theorem isWeb_iff : scheme.isWeb = true ↔
    scheme.name = "http".toList ∨ scheme.name = "https".toList := by
  simp [isWeb, isSecure]

theorem knowsDomains_of_isWeb (web : scheme.isWeb = true) : scheme.knowsDomains = true := by
  rcases isWeb_iff.mp web with name | name
  · simp [knowsDomains, known, name]
  · simp [knowsDomains, known, name]

theorem isFile_of_isWeb (web : scheme.isWeb = true) : scheme.isFile = false := by
  rcases isWeb_iff.mp web with name | name
  · rw [isFile, name]; decide
  · rw [isFile, name]; decide

end Scheme

/-- A web scheme is spelled with letters, in any case. -/
theorem letters_of_isWeb {scheme : Scheme} (web : scheme.isWeb = true) {front : List Char}
    (same : front.map Char.toLower = scheme.name) :
    ∀ c ∈ front, isLetter c = true ∧ 0x20 < c.toNat := by
  intro c member
  have image : c.toLower ∈ scheme.name := same ▸ List.mem_map_of_mem member
  have small : 97 ≤ c.toLower.toNat ∧ c.toLower.toNat < 123 := by
    rcases Scheme.isWeb_iff.mp web with name | name
    · rw [name] at image
      exact (by simp : ∀ d ∈ "http".toList, 97 ≤ d.toNat ∧ d.toNat < 123) _ image
    · rw [name] at image
      exact (by simp : ∀ d ∈ "https".toList, 97 ≤ d.toNat ∧ d.toNat < 123) _ image
  have table : ∀ n < 123, 65 ≤ n → (n ≤ 90 ∨ 97 ≤ n) →
      isLetter (Char.ofNat n) = true ∧ 0x20 < n := by
    decide
  have own : isLetter (Char.ofNat c.toNat) = true ∧ 0x20 < c.toNat := by
    rcases toLower_cases c with kept | ⟨low, high, _⟩
    · rw [kept] at small
      exact table _ small.2 (by omega) (.inr small.1)
    · exact table _ (by omega) low (.inl high)
  rwa [Char.ofNat_toNat] at own

theorem scheme?_web {scheme : Scheme} (web : scheme.isWeb = true) {front : List Char}
    (same : front.map Char.toLower = scheme.name) (rest : List Char) :
    scheme? (front ++ ':' :: rest) = some (scheme, rest) := by
  have letters := letters_of_isWeb web same
  have parts : ∀ c ∈ front,
      (isLetter c || isDigit c || c == '+' || c == '-' || c == '.') = true := by
    intro c member
    rw [(letters c member).1, Bool.true_or, Bool.true_or, Bool.true_or, Bool.true_or]
  cases front with
  | nil =>
      rcases Scheme.isWeb_iff.mp web with name | name
      · rw [← same] at name
        cases name
      · rw [← same] at name
        cases name
  | cons first front =>
      have taken : ((first :: front) ++ ':' :: rest).takeWhile
          (fun c => isLetter c || isDigit c || c == '+' || c == '-' || c == '.') =
          first :: front := by
        rw [List.takeWhile_append_of_pos parts]
        simp [isLetter, isDigit]
      have left : ((first :: front) ++ ':' :: rest).dropWhile
          (fun c => isLetter c || isDigit c || c == '+' || c == '-' || c == '.') =
          ':' :: rest := by
        rw [List.dropWhile_append_of_pos parts]
        simp [isLetter, isDigit]
      simp only [List.cons_append] at taken left
      simp only [scheme?, List.cons_append, left, taken, (letters first List.mem_cons_self).1,
        if_true,
        same]

/-- What reading a scheme says about the text. -/
theorem scheme?_some {cs rest : List Char} {scheme : Scheme}
    (h : scheme? cs = some (scheme, rest)) :
    ∃ front, cs = front ++ ':' :: rest ∧ front.map Char.toLower = scheme.name := by
  unfold scheme? at h
  dsimp only at h
  split at h
  · rename_i first others behind left
    split at h
    · obtain ⟨rfl, rfl⟩ := Prod.mk.inj (Option.some.inj h)
      refine ⟨_, ?_, rfl⟩
      rw [← left]
      exact (List.takeWhile_append_dropWhile ..).symm
    · cases h
  · cases h

/-! ## The text behind a web scheme -/

/-- A text without what does not count around and inside a URL. -/
def clean (cs : List Char) : List Char := (dropEnds isControlOrBlank cs).filter (!isLayout ·)

/-- The web URL with this authority, path, query and fragment. -/
def ofWebParts (scheme : Scheme) (a : Authority) (trail : Trail)
    (query fragment : Option (List Char)) : Url where
  scheme
  username := a.username
  password := a.password
  host := some a.host
  port := a.port
  trail
  query := query.map (Percent.encode escapedInWebQuery)
  fragment := fragment.map (Percent.encode escapedInFragment)

/-- What the text behind the scheme of a web URL says. -/
def ofWeb? (scheme : Scheme) (rest : List Char) : Option Url :=
  let cut := cutAt '#' rest
  let inner := cutAt '?' cut.1
  (withAuthority? scheme (inner.1.dropWhile (isSlash true))).map fun (a, trail) =>
    ofWebParts scheme a trail inner.2 cut.2

theorem ofChars?_eq {cs front rest : List Char} {scheme : Scheme} (web : scheme.isWeb = true)
    (text : clean cs = front ++ ':' :: rest) (same : front.map Char.toLower = scheme.name) :
    ofChars? cs = ofWeb? scheme rest := by
  unfold clean at text
  unfold ofChars?
  simp only [text, scheme?_web web same, Option.bind_eq_bind, Option.bind_some, body?,
    Scheme.isFile_of_isWeb web, Scheme.knowsDomains_of_isWeb web, if_true, Bool.false_eq_true,
    if_false, ofWeb?]
  cases withAuthority? scheme ((cutAt '?' (cutAt '#' rest).1).1.dropWhile (isSlash true)) with
  | none => rfl
  | some parts => rfl

theorem exists_ofWeb? {cs : List Char} {u : Url} (h : ofChars? cs = some u)
    (web : u.scheme.isWeb = true) :
    ∃ front rest, clean cs = front ++ ':' :: rest ∧ front.map Char.toLower = u.scheme.name ∧
      ofWeb? u.scheme rest = some u := by
  have read := h
  unfold ofChars? at read
  obtain ⟨⟨scheme, rest⟩, named, read⟩ := Option.bind_eq_some_iff.mp read
  obtain ⟨⟨authority, host, trail⟩, _, read⟩ := Option.bind_eq_some_iff.mp read
  obtain ⟨front, text, same⟩ := scheme?_some named
  have own : u.scheme = scheme := by
    rw [← Option.some.inj read]
  subst own
  exact ⟨front, rest, text, same, (ofChars?_eq web text same).symm.trans h⟩

/-! ## Authorities -/

/-- The part of an authority behind the user information, if it has any. -/
def place (cs : List Char) : List Char := ((cutAtLast '@' cs).map (·.2)).getD cs

/-- The user information of an authority, name and password. -/
def userPart (cs : List Char) : List Char × Option (List Char) :=
  cutAt ':' (((cutAtLast '@' cs).map (·.1)).getD [])

/-- Under a scheme that knows domains, an authority is as readable as its host and its port. -/
theorem authority?_eq {scheme : Scheme} (knows : scheme.knowsDomains = true) (cs : List Char) :
    authority? scheme cs =
      (Host.parse? true (cutPort false (place cs)).1).bind fun host =>
        (port? scheme ((cutPort false (place cs)).2.getD [])).map fun port =>
          ⟨Percent.encode escapedInUser (userPart cs).1,
            Percent.encode escapedInUser ((userPart cs).2.getD []), host, port⟩ := by
  have nowhere : Host.parse? true [] = none := by decide
  unfold authority? place userPart
  dsimp only
  cases named : (cutPort false (((cutAtLast '@' cs).map (·.2)).getD cs)).1 with
  | nil => simp [knows, nowhere]
  | cons c host =>
      simp only [knows, List.isEmpty_cons, Bool.false_and, Bool.false_eq_true, if_false,
        Option.bind_eq_bind, Option.map_eq_bind]
      rfl

theorem port?_bound {scheme : Scheme} {cs : List Char} {port : Option Nat}
    (h : port? scheme cs = some port) :
    ∀ p, port = some p → p ≤ 65535 ∧ scheme.defaultPort? ≠ some p := by
  intro p known
  subst known
  unfold port? at h
  split at h
  · split at h
    · cases h
    · split at h
      · cases h
      · rename_i n _ small
        have kept := Option.some.inj h
        split at kept
        · cases kept
        · rename_i other
          obtain rfl := Option.some.inj kept
          exact ⟨by omega, other⟩
    · cases h
  · cases h

theorem port?_decimal {scheme : Scheme} {p : Nat} (small : p ≤ 65535)
    (other : scheme.defaultPort? ≠ some p) : port? scheme (decimal p) = some (some p) := by
  have digits : (decimal p).all isDigit = true := by
    rw [List.all_eq_true]
    intro c member
    obtain ⟨d, low, rfl⟩ := mem_toDigits (by decide) member
    exact (by decide : ∀ d < 10, isDigit (Nat.digitChar d) = true) d low
  have value : digitsValue? 10 (decimal p) = some p :=
    digitsValue?_toDigits (by decide) (by decide) p
  unfold port?
  rw [if_pos digits, value]
  cases written : decimal p with
  | nil => exact absurd written Nat.toDigits_ne_nil
  | cons c cs => simp [Nat.not_lt.mpr small, other]

/-! ## Paths -/

namespace Path

/-- A segment as it stands in a written path. -/
structure IsPlain (segment : List Char) : Prop where
  escaped : ∀ c ∈ segment, escapedInPath c = false
  undivided : ∀ c ∈ segment, isSlash true c = false
  stays : isHere segment = false
  descends : isAbove segment = false

theorem isPlain_nil : IsPlain [] := ⟨by simp, by simp, by decide, by decide⟩

theorem resolve_ne_nil {path segments : List (List Char)} (h : segments ≠ []) :
    resolve path segments ≠ [] := by
  fun_induction resolve path segments with
  | case1 => exact absurd rfl h
  | case2 => simp
  | case3 => simp
  | case4 => simp
  | case5 _ _ _ _ _ ih => exact ih (by simp)
  | case6 _ _ _ _ _ _ ih => exact ih (by simp)
  | case7 _ _ _ _ _ _ ih => exact ih (by simp)

/-- A walk adds segments that are no dots, and the empty segment at most. -/
theorem mem_resolve {path segments : List (List Char)} {s : List Char}
    (h : s ∈ resolve path segments) :
    s ∈ path ∨ (s ∈ segments ∧ isHere s = false ∧ isAbove s = false) ∨ s = [] := by
  fun_induction resolve path segments with
  | case1 path => exact .inl h
  | case2 path last above =>
      rcases List.mem_append.mp h with before | final
      · exact .inl (List.dropLast_subset _ before)
      · exact .inr (.inr (List.mem_singleton.mp final))
  | case3 path last _ here =>
      rcases List.mem_append.mp h with before | final
      · exact .inl before
      · exact .inr (.inr (List.mem_singleton.mp final))
  | case4 path last stays descends =>
      rcases List.mem_append.mp h with before | final
      · exact .inl before
      · obtain rfl := List.mem_singleton.mp final
        exact .inr (.inl ⟨final, by simpa using descends, by simpa using stays⟩)
  | case5 path segment next rest above ih =>
      rcases ih h with before | ⟨given, plain⟩ | empty
      · exact .inl (List.dropLast_subset _ before)
      · exact .inr (.inl ⟨List.mem_cons_of_mem _ given, plain⟩)
      · exact .inr (.inr empty)
  | case6 path segment next rest _ here ih =>
      rcases ih h with before | ⟨given, plain⟩ | empty
      · exact .inl before
      · exact .inr (.inl ⟨List.mem_cons_of_mem _ given, plain⟩)
      · exact .inr (.inr empty)
  | case7 path segment next rest stays descends ih =>
      rcases ih h with before | ⟨given, plain⟩ | empty
      · rcases List.mem_append.mp before with earlier | own
        · exact .inl earlier
        · obtain rfl := List.mem_singleton.mp own
          exact .inr (.inl ⟨List.mem_cons_self, by simpa using descends, by simpa using stays⟩)
      · exact .inr (.inl ⟨List.mem_cons_of_mem _ given, plain⟩)
      · exact .inr (.inr empty)

theorem resolve_plain {segments : List (List Char)} (plain : ∀ s ∈ segments, IsPlain s)
    (path : List (List Char)) : resolve path segments = path ++ segments := by
  induction segments generalizing path with
  | nil => simp [resolve]
  | cons segment segments ih =>
      obtain ⟨own, others⟩ := List.forall_mem_cons.mp plain
      cases segments with
      | nil => simp [resolve, own.stays, own.descends]
      | cons next rest => simp [resolve, own.stays, own.descends, ih others]

theorem write_cons (segment : List Char) (others : List (List Char)) :
    write (segment :: others) = '/' :: ['/'].intercalate (segment :: others) := by
  induction others generalizing segment with
  | nil => simp [write]
  | cons next others ih =>
      rw [write, List.flatMap_cons, ← write, ih next, List.intercalate_cons_cons]
      simp

end Path

theorem segments_plain {cs s : List Char} (h : s ∈ segments true cs) :
    (∀ c ∈ s, escapedInPath c = false) ∧ ∀ c ∈ s, isSlash true c = false := by
  obtain ⟨piece, given, rfl⟩ := List.mem_map.mp h
  refine ⟨Percent.encode_settled settles_path piece, ?_⟩
  intro c member
  rcases Percent.mem_encode member with ⟨inner, _⟩ | rfl | ⟨n, small, rfl⟩
  · obtain ⟨unified, other⟩ := mem_piece given inner
    obtain ⟨d, _, rfl⟩ := List.mem_map.mp unified
    split
    · rename_i slash
      exact absurd (if_pos slash) other
    · rename_i plain
      exact Bool.eq_false_iff.mpr plain
  · decide
  · exact (by decide : ∀ n < 16, isSlash true (Percent.upperHexDigit n) = false) n small

/-- The path of a web URL has a segment, and none that leads elsewhere. -/
theorem path_plain (cs : List Char) : path true cs ≠ [] ∧ ∀ s ∈ path true cs, Path.IsPlain s := by
  cases cs with
  | nil => exact ⟨by simp [path], by simpa [path] using Path.isPlain_nil⟩
  | cons c rest =>
      simp only [path]
      refine ⟨Path.resolve_ne_nil ?_, ?_⟩
      · rw [segments, splitOnChar_eq]
        simp [List.splitOn_ne_nil]
      · intro s member
        rcases Path.mem_resolve member with none | ⟨given, stays, descends⟩ | rfl
        · cases none
        · obtain ⟨escaped, undivided⟩ := segments_plain given
          exact ⟨escaped, undivided, stays, descends⟩
        · exact Path.isPlain_nil

/-- A path of plain segments is read as itself. -/
theorem path_write {segments : List (List Char)} (nonempty : segments ≠ [])
    (plain : ∀ s ∈ segments, Path.IsPlain s) : path true (Path.write segments) = segments := by
  obtain ⟨first, others, rfl⟩ := List.exists_cons_of_ne_nil nonempty
  have apart : ∀ s ∈ first :: others, '/' ∉ s := by
    intro s given slash
    have undivided := (plain s given).undivided '/' slash
    cases undivided
  have unified : (['/'].intercalate (first :: others)).map
      (fun c => if isSlash true c then '/' else c) = ['/'].intercalate (first :: others) := by
    refine (List.map_congr_left ?_).trans (List.map_id' _)
    intro c member
    rcases mem_joined member with rfl | ⟨s, given, inner⟩
    · rfl
    · rw [(plain s given).undivided c inner, if_neg (by simp)]
  have encoded : (first :: others).map (Percent.encode escapedInPath) = first :: others :=
    (List.map_congr_left fun s given => Percent.encode_plain (plain s given).escaped).trans
      (List.map_id' _)
  rw [Path.write_cons, path]
  simp only [isSlash, beq_self_eq_true, Bool.true_or, if_true]
  rw [segments, unified, splitOnChar_joined nonempty apart, encoded, Path.resolve_plain plain,
    List.nil_append]

end Faultline.Url
