import Faultline.Proofs.Hosts
import Faultline.Proofs.Parts

/-! # Written web URLs are read as themselves

Reading a web URL leaves every part of it settled (`ofChars?_settled`): escaped where it has to be,
its host written, its path free of dots. The marks between settled parts are the only ones of their
kind, so a settled URL is cut at the same places when it is read again (`IsSettled.read`).
-/

namespace Faultline.Url

open Text

/-! ## Settled URLs -/

/-- A web URL as reading one leaves it. -/
structure IsSettled (u : Url) : Prop where
  web : u.scheme.isWeb = true
  username : ∀ c ∈ u.username, escapedInUser c = false
  password : ∀ c ∈ u.password, escapedInUser c = false
  host : ∃ host, u.host = some host ∧ Host.IsWritten host
  port : ∀ p, u.port = some p → p ≤ 65535 ∧ u.scheme.defaultPort? ≠ some p
  trail : ∃ path, u.trail = .segments path ∧ path ≠ [] ∧ ∀ s ∈ path, Path.IsPlain s
  query : ∀ q, u.query = some q → ∀ c ∈ q, escapedInWebQuery c = false
  fragment : ∀ f, u.fragment = some f → ∀ c ∈ f, escapedInFragment c = false

theorem ofWeb?_settled {scheme : Scheme} (web : scheme.isWeb = true) {rest : List Char} {u : Url}
    (h : ofWeb? scheme rest = some u) : IsSettled u := by
  have knows := Scheme.knowsDomains_of_isWeb web
  obtain ⟨⟨a, trail⟩, parts, rfl⟩ := Option.map_eq_some_iff.mp h
  obtain ⟨b, asked, same⟩ := Option.map_eq_some_iff.mp parts
  obtain ⟨rfl, rfl⟩ := Prod.mk.inj same
  rw [authority?_eq knows] at asked
  obtain ⟨host, read, asked⟩ := Option.bind_eq_some_iff.mp asked
  obtain ⟨port, known, rfl⟩ := Option.map_eq_some_iff.mp asked
  refine
    { web
      username := Percent.encode_settled settles_user _
      password := Percent.encode_settled settles_user _
      host := ⟨host, rfl, Host.parse?_written read⟩
      port := port?_bound known
      trail := ⟨_, rfl, ?_⟩
      query := ?_
      fragment := ?_ }
  · rw [knows]
    exact path_plain _
  · intro q said
    obtain ⟨text, _, rfl⟩ := Option.map_eq_some_iff.mp said
    exact Percent.encode_settled settles_webQuery text
  · intro f said
    obtain ⟨text, _, rfl⟩ := Option.map_eq_some_iff.mp said
    exact Percent.encode_settled settles_fragment text

/-- Whatever text a web URL is read from, its parts are settled. -/
theorem ofChars?_settled {cs : List Char} {u : Url} (h : ofChars? cs = some u)
    (web : u.scheme.isWeb = true) : IsSettled u := by
  obtain ⟨_, _, _, _, read⟩ := exists_ofWeb? h web
  exact ofWeb?_settled web read

theorem beyond_blank {c : Char} (printed : isControlOrBeyond c = false) (other : c ≠ ' ') :
    0x20 < c.toNat := by
  simp only [isControlOrBeyond, Bool.or_eq_false_iff, decide_eq_false_iff_not] at printed
  have blank : c.toNat ≠ 0x20 := fun same => other (Char.toNat_inj.mp same)
  omega

theorem escapedInFragment_beyond {c : Char} (h : escapedInFragment c = false) : 0x20 < c.toNat := by
  simp only [escapedInFragment, Bool.or_eq_false_iff] at h
  refine beyond_blank h.1 ?_
  rintro rfl
  cases h.2

theorem escapedInQuery_beyond {c : Char} (h : escapedInQuery c = false) : 0x20 < c.toNat := by
  simp only [escapedInQuery, Bool.or_eq_false_iff] at h
  refine beyond_blank h.1 ?_
  rintro rfl
  cases h.2

theorem escapedInPath_query {c : Char} (h : escapedInPath c = false) : escapedInQuery c = false :=
  (Bool.or_eq_false_iff.mp h).1

theorem escapedInUser_path {c : Char} (h : escapedInUser c = false) : escapedInPath c = false :=
  (Bool.or_eq_false_iff.mp h).1

theorem isControlOrBlank_beyond {c : Char} (high : 0x20 < c.toNat) : isControlOrBlank c = false :=
  decide_eq_false (by omega)

theorem isLayout_beyond {c : Char} (high : 0x20 < c.toNat) : isLayout c = false := by
  have plain : c ≠ '\t' ∧ c ≠ '\n' ∧ c ≠ '\r' := by
    refine ⟨?_, ?_, ?_⟩ <;>
      · rintro rfl
        exact absurd high (by decide)
  simp [isLayout, plain]

/-- A text without blanks and controls is its own clean form. -/
theorem clean_beyond {cs : List Char} (beyond : ∀ c ∈ cs, 0x20 < c.toNat) : clean cs = cs := by
  have ends : dropEnds isControlOrBlank cs = cs :=
    dropEnds_of_none fun c member => isControlOrBlank_beyond (beyond c member)
  rw [clean, ends, List.filter_eq_self]
  exact fun c member => by simp [isLayout_beyond (beyond c member)]

namespace IsSettled

variable {u : Url} (h : IsSettled u)

include h

theorem mem_hostText {c : Char} (member : c ∈ u.hostText) :
    c ∉ ['#', '/', '?', '@', '\\'] ∧ 0x20 < c.toNat := by
  obtain ⟨host, known, written⟩ := h.host
  have digit : ∀ d < 10, Nat.digitChar d ∉ ['#', '/', '?', '@', '\\'] ∧
      0x20 < (Nat.digitChar d).toNat := by decide
  rw [hostText, known, Option.getD_some] at member
  rcases List.mem_append.mp member with inner | port
  · exact ⟨fun mark => written.not_mem mark inner, written.beyond_blank inner⟩
  · split at port
    · rcases List.mem_cons.mp port with rfl | inner
      · decide
      · obtain ⟨d, small, rfl⟩ := mem_toDigits (by decide) inner
        exact digit d small
    · cases port

theorem mem_credentials {c : Char} (member : c ∈ u.credentials) :
    c ∉ ['#', '/', '?', '\\'] ∧ 0x20 < c.toNat := by
  have inner : ∀ {c}, escapedInUser c = false → c ∉ ['#', '/', '?', '\\'] ∧ 0x20 < c.toNat := by
    intro c plain
    exact ⟨not_mem_of_all (by decide) plain,
      escapedInQuery_beyond (escapedInPath_query (escapedInUser_path plain))⟩
  unfold credentials at member
  split at member
  · cases member
  · rcases List.mem_append.mp member with user | at_
    · rcases List.mem_append.mp user with name | password
      · exact inner (h.username c name)
      · split at password
        · cases password
        · rcases List.mem_cons.mp password with rfl | own
          · decide
          · exact inner (h.password c own)
    · obtain rfl := List.mem_singleton.mp at_
      decide

theorem mem_pathname {c : Char} (member : c ∈ u.pathname) :
    c ∉ ['#', '?'] ∧ 0x20 < c.toNat := by
  obtain ⟨segments, trail, _, plain⟩ := h.trail
  rw [pathname, trail] at member
  obtain ⟨segment, given, member⟩ := List.mem_flatMap.mp member
  rcases List.mem_cons.mp member with rfl | inner
  · decide
  · have escaped := (plain segment given).escaped c inner
    exact ⟨not_mem_of_all (by decide) escaped, escapedInQuery_beyond (escapedInPath_query escaped)⟩

theorem pathname_begins : ∃ tail, u.pathname = '/' :: tail := by
  obtain ⟨segments, trail, nonempty, _⟩ := h.trail
  obtain ⟨first, others, rfl⟩ := List.exists_cons_of_ne_nil nonempty
  exact ⟨_, by rw [pathname, trail]; exact Path.write_cons first others⟩

theorem mem_query {c : Char} (member : c ∈ marked '?' u.query) : c ≠ '#' ∧ 0x20 < c.toNat := by
  cases said : u.query with
  | none =>
      rw [said] at member
      cases member
  | some q =>
      rw [said] at member
      rcases List.mem_cons.mp member with rfl | inner
      · decide
      · obtain ⟨plain, _⟩ := Bool.or_eq_false_iff.mp (h.query q said c inner)
        refine ⟨?_, escapedInQuery_beyond plain⟩
        rintro rfl
        cases plain

theorem mem_fragment {c : Char} (member : c ∈ marked '#' u.fragment) : 0x20 < c.toNat := by
  cases said : u.fragment with
  | none =>
      rw [said] at member
      cases member
  | some f =>
      rw [said] at member
      rcases List.mem_cons.mp member with rfl | inner
      · decide
      · exact escapedInFragment_beyond (h.fragment f said c inner)

/-! ### The authority of a settled URL -/

theorem place_written : place (u.credentials ++ u.hostText) = u.hostText := by
  have plain : '@' ∉ u.hostText := fun member => (h.mem_hostText member).1 (by decide)
  unfold credentials
  split
  · rw [place, List.nil_append, cutAtLast_none plain]
    rfl
  · rw [place, List.append_assoc, List.singleton_append, cutAtLast_marked _ plain]
    rfl

theorem userPart_written :
    userPart (u.credentials ++ u.hostText) =
      (u.username, if u.password.isEmpty then none else some u.password) := by
  have plain : '@' ∉ u.hostText := fun member => (h.mem_hostText member).1 (by decide)
  have named : ':' ∉ u.username := by
    intro member
    have colon := h.username ':' member
    cases colon
  unfold credentials
  split
  · rename_i nobody
    obtain ⟨nameless, open_⟩ := (Bool.and_eq_true _ _).mp nobody
    rw [userPart, List.nil_append, cutAtLast_none plain, List.isEmpty_iff.mp nameless, open_]
    rfl
  · rw [userPart, List.append_assoc, List.singleton_append, cutAtLast_marked _ plain]
    have cut := cutAt_marked named (if u.password.isEmpty then none else some u.password)
    split at cut
    · rename_i empty
      simpa [empty, marked] using cut
    · rename_i given
      simpa [given, marked] using cut

theorem authority?_written {host : List Char} (known : u.host = some host)
    (written : Host.IsWritten host) :
    authority? u.scheme (u.credentials ++ u.hostText) =
      some ⟨u.username, u.password, host, u.port⟩ := by
  have password : (if u.password.isEmpty then none else some u.password).getD [] = u.password := by
    split
    · rename_i empty
      exact (List.isEmpty_iff.mp empty).symm
    · rfl
  have cut : cutPort false u.hostText = (host, u.port.map decimal) := by
    rw [hostText, known, Option.getD_some, written.cutPort]
    cases u.port with
    | none => simp [cutPort]
    | some p => simp [cutPort]
  have port : port? u.scheme ((u.port.map decimal).getD []) = some u.port := by
    cases asked : u.port with
    | none => rfl
    | some p => exact port?_decimal (h.port p asked).1 (h.port p asked).2
  rw [authority?_eq (Scheme.knowsDomains_of_isWeb h.web), h.place_written, h.userPart_written, cut,
    written.read, Option.bind_some, port, Option.map_some, password,
    Percent.encode_plain h.username, Percent.encode_plain h.password]

theorem undivided : ∀ c ∈ u.credentials ++ u.hostText, (!isSlash true c) = true := by
  intro c member
  have fewer : ∀ c, c ∈ ['/', '\\'] →
      c ∈ ['#', '/', '?', '\\'] ∧ c ∈ ['#', '/', '?', '@', '\\'] := by
    simp
  have unmarked : c ∉ ['/', '\\'] := by
    intro mark
    rcases List.mem_append.mp member with user | place
    · exact (h.mem_credentials user).1 (fewer c mark).1
    · exact (h.mem_hostText place).1 (fewer c mark).2
  simpa [isSlash] using unmarked

theorem withAuthority?_written {host : List Char} (known : u.host = some host)
    (written : Host.IsWritten host) :
    withAuthority? u.scheme (u.credentials ++ u.hostText ++ u.pathname) =
      some (⟨u.username, u.password, host, u.port⟩, u.trail) := by
  have knows := Scheme.knowsDomains_of_isWeb h.web
  have inside := h.undivided
  obtain ⟨tail, begins⟩ := h.pathname_begins
  obtain ⟨segments, trail, nonempty, plain⟩ := h.trail
  have taken : (u.credentials ++ u.hostText ++ u.pathname).takeWhile (!isSlash true ·) =
      u.credentials ++ u.hostText := by
    rw [List.takeWhile_append_of_pos inside, begins]
    simp [isSlash]
  have left : (u.credentials ++ u.hostText ++ u.pathname).dropWhile (!isSlash true ·) =
      u.pathname := by
    rw [List.dropWhile_append_of_pos inside, begins]
    simp [isSlash]
  have own : path true u.pathname = segments := by
    rw [pathname, trail]
    exact path_write nonempty plain
  rw [withAuthority?, knows, taken, left, h.authority?_written known written, own, trail]
  rfl

theorem host_begins : ∃ c cs, u.credentials ++ u.hostText = c :: cs := by
  obtain ⟨host, known, written⟩ := h.host
  refine List.exists_cons_of_ne_nil ?_
  simp [hostText, known, written.named]

/-- What is written of a settled URL, with its marks in the order in which it is cut at them. -/
theorem write_eq : u.write = u.scheme.name ++ ':' ::
    (('/' :: '/' :: (u.credentials ++ u.hostText ++ u.pathname)) ++ marked '?' u.query ++
      marked '#' u.fragment) := by
  obtain ⟨host, known, _⟩ := h.host
  rw [write, authority, known]
  simp

theorem name_lower : u.scheme.name.map Char.toLower = u.scheme.name := by
  rcases Scheme.isWeb_iff.mp h.web with name | name
  · rw [name]
    decide
  · rw [name]
    decide

theorem mem_main {c : Char}
    (member : c ∈ '/' :: '/' :: (u.credentials ++ u.hostText ++ u.pathname)) :
    c ∉ ['#', '?'] ∧ 0x20 < c.toNat := by
  have fewer : ∀ c, c ∈ ['#', '?'] →
      c ∈ ['#', '/', '?', '\\'] ∧ c ∈ ['#', '/', '?', '@', '\\'] := by
    simp
  rcases List.mem_cons.mp member with rfl | member
  · decide
  · rcases List.mem_cons.mp member with rfl | member
    · decide
    · rcases List.mem_append.mp member with asked | way
      · rcases List.mem_append.mp asked with user | place
        · obtain ⟨unmarked, beyond⟩ := h.mem_credentials user
          exact ⟨fun mark => unmarked (fewer c mark).1, beyond⟩
        · obtain ⟨unmarked, beyond⟩ := h.mem_hostText place
          exact ⟨fun mark => unmarked (fewer c mark).2, beyond⟩
      · exact h.mem_pathname way

theorem clean_write : clean u.write = u.write := by
  refine clean_beyond fun c member => ?_
  rw [h.write_eq] at member
  rcases List.mem_append.mp member with name | member
  · exact (letters_of_isWeb h.web h.name_lower c name).2
  · rcases List.mem_cons.mp member with rfl | member
    · decide
    · rcases List.mem_append.mp member with member | fragment
      · rcases List.mem_append.mp member with main | query
        · exact (h.mem_main main).2
        · exact (h.mem_query query).2
      · exact h.mem_fragment fragment

/-- A settled URL is read from what is written of it. -/
theorem read : ofChars? u.write = some u := by
  obtain ⟨host, known, written⟩ := h.host
  have unfragmented : '#' ∉ ('/' :: '/' :: (u.credentials ++ u.hostText ++ u.pathname)) ++
      marked '?' u.query := by
    intro member
    rcases List.mem_append.mp member with main | query
    · exact (h.mem_main main).1 (by decide)
    · exact (h.mem_query query).1 rfl
  have unasked : '?' ∉ '/' :: '/' :: (u.credentials ++ u.hostText ++ u.pathname) :=
    fun member => (h.mem_main member).1 (by decide)
  have body : ('/' :: '/' :: (u.credentials ++ u.hostText ++ u.pathname)).dropWhile (isSlash true) =
      u.credentials ++ u.hostText ++ u.pathname := by
    obtain ⟨c, cs, begins⟩ := h.host_begins
    have first : ¬isSlash true c = true := by
      simpa using h.undivided c (begins ▸ List.mem_cons_self)
    rw [begins, List.dropWhile_cons_of_pos rfl, List.dropWhile_cons_of_pos rfl, List.cons_append,
      List.dropWhile_cons_of_neg first]
  have query : u.query.map (Percent.encode escapedInWebQuery) = u.query := by
    cases said : u.query with
    | none => rfl
    | some q => rw [Option.map_some, Percent.encode_plain (h.query q said)]
  have fragment : u.fragment.map (Percent.encode escapedInFragment) = u.fragment := by
    cases said : u.fragment with
    | none => rfl
    | some f => rw [Option.map_some, Percent.encode_plain (h.fragment f said)]
  rw [ofChars?_eq h.web (h.clean_write.trans h.write_eq) h.name_lower, ofWeb?]
  simp only [cutAt_marked unfragmented, cutAt_marked unasked, body,
    h.withAuthority?_written known written, Option.map_some, ofWebParts, query, fragment, ← known]

end IsSettled

end Faultline.Url
