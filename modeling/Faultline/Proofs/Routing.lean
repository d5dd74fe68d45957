import Mathlib.Data.List.Basic
import Faultline.Control.Server

/-! # What the paths of the control interface mean

A path is a root, a slash or two, what stands below the root, and perhaps a slash at the end; of
the letters in root and words only the kind counts, not the case. A POST comes to a call exactly if
its path is written for that call (`plan_post_iff`), so no path is written for two calls.
-/

namespace Faultline.Control

/-! ## Paths as texts -/

/-- `path` is `tail` below `root`. -/
def Below (root : String) (tail path : List Char) : Prop :=
  ∃ head slashes last, path = head ++ slashes ++ tail ++ last ∧
    sameWord head root.toList = true ∧ (slashes = ['/'] ∨ slashes = ['/', '/']) ∧
    (last = [] ∨ last = ['/'])

/-- `path` is a word below a root. -/
def WordPath (root word : String) (path : List Char) : Prop :=
  ∃ spelled, sameWord spelled word.toList = true ∧ Below root spelled path

/-- `path` is the name of a scenario, escaped as it may be, and then a word, below the root of the
    scenarios. -/
def NamePath (name word : String) (path : List Char) : Prop :=
  ∃ segment spelled, segment ≠ [] ∧ '/' ∉ segment ∧
    Text.Percent.decodeText? segment = some name.toList ∧
    sameWord spelled word.toList = true ∧ Below "/scenarios" (segment ++ '/' :: spelled) path

/-- `path` is written for a call that is made by POST, with this body. -/
def PostPath (body : Option Json) (path : List Char) : Call → Prop
  | .enable name b => NamePath name "enable" path ∧ b = body
  | .disable name => NamePath name "disable" path
  | .disableAll => WordPath "/scenarios" "disable-all" path
  | .reset => WordPath "/thrift/calls" "reset" path
  | .verify b => WordPath "/thrift/calls" "verify" path ∧ b = body
  | .list | .status _ | .calls | .health => False

/-! ## Words -/

theorem sameWord_iff {a b : List Char} :
    sameWord a b = true ↔ a.map Char.toLower = b.map Char.toLower := beq_iff_eq

theorem sameWord_length {a b : List Char} (h : sameWord a b = true) : a.length = b.length := by
  simpa using congrArg List.length (sameWord_iff.mp h)

theorem sameWord_no_slash {a b : List Char} (h : sameWord a b = true)
    (plain : '/' ∉ b.map Char.toLower) : '/' ∉ a := by
  intro inside
  rw [← sameWord_iff.mp h] at plain
  exact plain (List.mem_map.mpr ⟨'/', inside, rfl⟩)

/-- A text that is spelled like one word is not spelled like another. -/
theorem sameWord_other {a b c : List Char} (h : sameWord a b = true)
    (different : b.map Char.toLower ≠ c.map Char.toLower) : sameWord a c = false := by
  rw [Bool.eq_false_iff]
  intro same
  exact different ((sameWord_iff.mp h).symm.trans (sameWord_iff.mp same))

theorem sameWord_slash (a b : List Char) : sameWord ('/' :: a) ('/' :: b) = sameWord a b := by
  rw [Bool.eq_iff_iff, sameWord_iff, sameWord_iff, List.map_cons, List.map_cons,
    List.cons_inj_right]

/-! ## Slashes -/

theorem withoutSlash_append (cs : List Char) :
    ∃ last, cs = withoutSlash cs ++ last ∧ (last = [] ∨ last = ['/']) := by
  unfold withoutSlash
  split
  · rename_i ends
    rw [beq_iff_eq, List.getLast?_eq_some_iff] at ends
    obtain ⟨front, rfl⟩ := ends
    exact ⟨['/'], by rw [List.dropLast_concat], .inr rfl⟩
  · exact ⟨[], (List.append_nil cs).symm, .inl rfl⟩

theorem withoutSlash_of_last {cs last : List Char} (h : cs.getLast? ≠ some '/')
    (ends : last = [] ∨ last = ['/']) : withoutSlash (cs ++ last) = cs := by
  unfold withoutSlash
  rcases ends with rfl | rfl
  · rw [List.append_nil, if_neg (by simpa using h)]
  · rw [if_pos (by simp), List.dropLast_concat]

theorem below?_some {root inner : List Char} {place : Place}
    (h : below? root place = some inner) :
    ∃ head slashes tail, inner = '/' :: tail ∧ place.path = head ++ slashes ++ tail ∧
      sameWord head root = true ∧
      (slashes = ['/'] ∨ slashes = ['/', '/'] ∨ slashes = [] ∧ tail = []) := by
  unfold below? at h
  split at h
  · rename_i spelled
    have whole : place.path = place.path.take root.length ++ place.path.drop root.length :=
      (List.take_append_drop ..).symm
    split at h
    · rename_i ends
      obtain ⟨_, same⟩ := Option.ite_none_right_eq_some.mp h
      obtain rfl := Option.some.inj same
      exact ⟨_, [], [], rfl, by rw [List.append_nil, List.append_nil]; rwa [ends,
        List.append_nil] at whole, spelled, .inr (.inr ⟨rfl, rfl⟩)⟩
    · rename_i ends
      obtain ⟨_, same⟩ := Option.ite_none_right_eq_some.mp h
      obtain rfl := Option.some.inj same
      exact ⟨_, ['/'], [], rfl, by rw [List.append_nil]; rwa [ends] at whole, spelled, .inl rfl⟩
    · rename_i rest ends
      obtain rfl := Option.some.inj h
      exact ⟨_, ['/', '/'], rest, rfl, by rw [List.append_assoc]; rwa [ends] at whole, spelled,
        .inr (.inl rfl)⟩
    · rename_i rest _ _ ends
      obtain rfl := Option.some.inj h
      exact ⟨_, ['/'], rest, rfl, by rw [List.append_assoc]; rwa [ends] at whole, spelled, .inl rfl⟩
    · cases h
  · cases h

theorem below?_of_append {root head slashes tail : List Char} {place : Place}
    (whole : place.path = head ++ slashes ++ tail) (spelled : sameWord head root = true)
    (separated : slashes = ['/'] ∨ slashes = ['/', '/']) (filled : tail ≠ [])
    (plain : tail.head? ≠ some '/') : below? root place = some ('/' :: tail) := by
  have size := sameWord_length spelled
  have front : place.path.take root.length = head := by
    rw [whole, List.append_assoc, ← size, List.take_left]
  have behind : place.path.drop root.length = slashes ++ tail := by
    rw [whole, List.append_assoc, ← size, List.drop_left]
  unfold below?
  rw [front, behind, if_pos spelled]
  rcases separated with rfl | rfl
  · cases tail with
    | nil => exact absurd rfl filled
    | cons c rest =>
        have other : c ≠ '/' := fun same => plain (by rw [same]; rfl)
        simp [other]
  · rfl

/-! ## Entries of a group -/

section
variable {verb : Verb} {word tail : List Char}

theorem matchPath_fixed_yes {call taken : Option Json → Call}
    (h : Entry.matchPath ⟨verb, word, .fixed call⟩ ('/' :: tail) = .yes taken) (named : word ≠ []) :
    taken = call ∧ ∃ spelled last, tail = spelled ++ last ∧ (last = [] ∨ last = ['/']) ∧
      sameWord spelled word = true := by
  have full : word.isEmpty = false := by simpa using named
  simp only [Entry.matchPath, full, Bool.false_eq_true, if_false] at h
  split at h
  · rename_i same
    obtain ⟨last, whole, ends⟩ := withoutSlash_append ('/' :: tail)
    cases front : withoutSlash ('/' :: tail) with
    | nil =>
        rw [front] at same
        cases same
    | cons c spelled =>
        rw [front] at same whole
        obtain ⟨rfl, parts⟩ := List.cons.inj whole
        rw [sameWord_slash] at same
        exact ⟨(Match.yes.inj h).symm, spelled, last, parts, ends, same⟩
  · cases h

theorem matchPath_named_yes {call : String → Option Json → Call} {taken : Option Json → Call}
    (h : Entry.matchPath ⟨verb, word, .named call⟩ ('/' :: tail) = .yes taken) :
    ∃ segment spelled name last, taken = call (String.ofList name) ∧
      tail = segment ++ '/' :: spelled ++ last ∧ (last = [] ∨ last = ['/']) ∧ segment ≠ [] ∧
      '/' ∉ segment ∧ Text.Percent.decodeText? segment = some name ∧
      sameWord spelled word = true := by
  obtain ⟨last, whole, ends⟩ := withoutSlash_append ('/' :: tail)
  simp only [Entry.matchPath] at h
  split at h
  · rename_i rest front
    rw [front] at whole
    split at h
    · rename_i shaped
      obtain ⟨filled, same⟩ := Bool.and_eq_true_iff.mp shaped
      split at h
      · rename_i name decoded
        have parts : rest.takeWhile (· ≠ '/') ++ rest.dropWhile (· ≠ '/') = rest :=
          List.takeWhile_append_dropWhile
        have apart : '/' ∉ rest.takeWhile (· ≠ '/') := by
          intro inside
          simpa using List.all_eq_true.mp List.all_takeWhile _ inside
        cases behind : rest.dropWhile (· ≠ '/') with
        | nil =>
            rw [behind] at same
            cases same
        | cons c spelled =>
            have stops := List.head?_dropWhile_not (· ≠ '/') rest
            rw [behind] at stops same parts
            have slash : c = '/' := by simpa using stops
            rw [slash] at same parts
            rw [sameWord_slash] at same
            refine ⟨_, spelled, name, last, (Match.yes.inj h).symm, ?_, ends, by simpa using filled,
              apart, decoded, same⟩
            rw [parts]
            exact (List.cons.inj whole).2
      · cases h
    · cases h
  · cases h

theorem matchPath_fixed {call : Option Json → Call} {inner spelled : List Char}
    (front : withoutSlash inner = '/' :: spelled) (named : word ≠ []) :
    Entry.matchPath ⟨verb, word, .fixed call⟩ inner =
      if sameWord spelled word then .yes call else .no := by
  have full : word.isEmpty = false := by simpa using named
  simp only [Entry.matchPath, front, full, Bool.false_eq_true, if_false, sameWord_slash]

theorem matchPath_named {call : String → Option Json → Call} {inner segment spelled : List Char}
    (front : withoutSlash inner = '/' :: (segment ++ '/' :: spelled)) (filled : segment ≠ [])
    (apart : '/' ∉ segment) :
    Entry.matchPath ⟨verb, word, .named call⟩ inner =
      if sameWord spelled word then
        match Text.Percent.decodeText? segment with
        | some name => .yes (call (String.ofList name))
        | none => .broken
      else .no := by
  have unslashed : ∀ c ∈ segment, decide (c ≠ '/') = true := by
    intro c inside
    rw [decide_eq_true_eq]
    exact fun same => apart (same ▸ inside)
  have before : (segment ++ '/' :: spelled).takeWhile (· ≠ '/') = segment := by
    rw [List.takeWhile_append_of_pos unslashed, List.takeWhile_cons_of_neg (by simp),
      List.append_nil]
  have behind : (segment ++ '/' :: spelled).dropWhile (· ≠ '/') = '/' :: spelled := by
    rw [List.dropWhile_append_of_pos unslashed, List.dropWhile_cons_of_neg (by simp)]
  have full : segment.isEmpty = false := by simpa using filled
  cases decoded : Text.Percent.decodeText? segment with
  | none | some name =>
      simp only [Entry.matchPath, front, before, behind, full, Bool.not_false, Bool.true_and,
        sameWord_slash, decoded]

end

/-! ## Groups -/

section
variable {method : String} {path : List Char} {body : Option Json}

theorem route_called {allowed : List String} {entries : List Entry} {c : Call}
    (h : Group.route method path body allowed entries = .called c) :
    ∃ e ∈ entries, ∃ call, e.matchPath path = .yes call ∧ e.verb.answers method = true ∧
      c = call body := by
  induction entries generalizing allowed with
  | nil =>
      simp only [Group.route] at h
      split at h <;> cases h
  | cons e rest ih =>
      have later : ∀ more, Group.route method path body more rest = .called c →
          ∃ e' ∈ e :: rest, ∃ call, e'.matchPath path = .yes call ∧
            e'.verb.answers method = true ∧ c = call body := by
        intro more found
        obtain ⟨other, member, facts⟩ := ih found
        exact ⟨other, List.mem_cons_of_mem _ member, facts⟩
      simp only [Group.route] at h
      split at h
      · exact later _ h
      · cases h
      · rename_i call matched
        split at h
        · rename_i takes
          exact ⟨e, List.mem_cons_self, call, matched, takes, (Routed.called.inj h).symm⟩
        · exact later _ h

theorem route_found {before rest : List Entry} {e : Entry} {call : Option Json → Call}
    (passed : ∀ b ∈ before, b.matchPath path = .no) (matched : e.matchPath path = .yes call)
    (takes : e.verb.answers method = true) (allowed : List String) :
    Group.route method path body allowed (before ++ e :: rest) = .called (call body) := by
  induction before with
  | nil => simp only [List.nil_append, Group.route, matched, takes, if_true]
  | cons b more ih =>
      simp only [List.cons_append, Group.route, passed b List.mem_cons_self]
      exact ih fun b later => passed b (List.mem_cons_of_mem _ later)

/-! ## Calls by POST -/

theorem planIn_called {groups : List Group} {c : Call} {place : Place} {inner : List Char}
    (h : planIn method place body groups = .call c inner) :
    ∃ g ∈ groups, ∃ tail, below? g.root place = some ('/' :: tail) ∧ ∃ e ∈ g.entries, ∃ call,
      e.matchPath ('/' :: tail) = .yes call ∧ e.verb.answers method = true ∧ c = call body := by
  induction groups with
  | nil => cases h
  | cons g rest ih =>
      have later : planIn method place body rest = .call c inner →
          ∃ g' ∈ g :: rest, ∃ tail, below? g'.root place = some ('/' :: tail) ∧
            ∃ e ∈ g'.entries, ∃ call, e.matchPath ('/' :: tail) = .yes call ∧
              e.verb.answers method = true ∧ c = call body := by
        intro found
        obtain ⟨other, member, facts⟩ := ih found
        exact ⟨other, List.mem_cons_of_mem _ member, facts⟩
      simp only [planIn] at h
      split at h
      · exact later h
      · rename_i below inside
        split at h
        · exact later h
        · rename_i called routed
          obtain ⟨_, _, tail, rfl, _⟩ := below?_some inside
          obtain ⟨e, member, call, facts⟩ := route_called routed
          obtain ⟨rfl, _⟩ := Plan.call.inj h
          exact ⟨g, List.mem_cons_self, tail, inside, e, member, call, facts⟩
        · cases h
        · cases h

end

/-! ## POST -/

theorem NamePath.of_matched (word : String) {place : Place} {tail : List Char} {verb : Verb}
    {call : String → Option Json → Call} {taken : Option Json → Call}
    (inside : below? scenarioGroup.root place = some ('/' :: tail))
    (matched : Entry.matchPath ⟨verb, word.toList, .named call⟩ ('/' :: tail) = .yes taken) :
    ∃ name, taken = call name ∧ NamePath name word place.path := by
  obtain ⟨segment, spelled, name, last, same, parts, ends, filled, apart, decoded, word⟩ :=
    matchPath_named_yes matched
  obtain ⟨head, slashes, other, shape, whole, root, separated⟩ := below?_some inside
  obtain rfl := (List.cons.inj shape).2
  refine ⟨String.ofList name, same, segment, spelled, filled, apart, ?_, word, head, slashes, last,
    ?_, root, ?_, ends⟩
  · rw [decoded, String.toList_ofList]
  · rw [whole, parts, ← List.append_assoc]
  · rcases separated with one | two | ⟨_, none⟩
    · exact .inl one
    · exact .inr two
    · rw [parts] at none
      simp at none

theorem WordPath.of_matched (root word : String) {place : Place} {tail : List Char} {verb : Verb}
    {call taken : Option Json → Call} (named : word.toList ≠ [])
    (inside : below? root.toList place = some ('/' :: tail))
    (matched : Entry.matchPath ⟨verb, word.toList, .fixed call⟩ ('/' :: tail) = .yes taken) :
    taken = call ∧ WordPath root word place.path := by
  obtain ⟨same, spelled, last, parts, ends, spells⟩ := matchPath_fixed_yes matched named
  obtain ⟨head, slashes, other, shape, whole, root, separated⟩ := below?_some inside
  obtain rfl := (List.cons.inj shape).2
  refine ⟨same, spelled, spells, head, slashes, last, ?_, root, ?_, ends⟩
  · rw [whole, parts, ← List.append_assoc]
  · rcases separated with one | two | ⟨_, none⟩
    · exact .inl one
    · exact .inr two
    · rw [parts] at none
      have size := sameWord_length spells
      rw [(List.append_eq_nil_iff.mp none).1] at size
      exact absurd (List.eq_nil_of_length_eq_zero size.symm) named

theorem post_path {place : Place} {inner : List Char} {body : Option Json} {c : Call}
    (h : plan "POST" place body = .call c inner) : PostPath body place.path c := by
  have unhealthy : (isHealthPath place.path && Verb.get.answers "POST") = false := Bool.and_false _
  simp only [plan, unhealthy, Bool.false_eq_true, if_false] at h
  obtain ⟨g, among, tail, inside, e, member, call, matched, takes, rfl⟩ := planIn_called h
  rcases List.mem_cons.mp among with rfl | among
  · rcases List.mem_cons.mp member with rfl | member
    · exact absurd takes (by decide)
    rcases List.mem_cons.mp member with rfl | member
    · obtain ⟨rfl, written⟩ :=
        WordPath.of_matched "/scenarios" "disable-all" (by decide) inside matched
      exact written
    rcases List.mem_cons.mp member with rfl | member
    · obtain ⟨name, rfl, written⟩ := NamePath.of_matched "enable" inside matched
      exact ⟨written, rfl⟩
    rcases List.mem_cons.mp member with rfl | member
    · obtain ⟨name, rfl, written⟩ := NamePath.of_matched "disable" inside matched
      exact written
    obtain rfl := List.mem_singleton.mp member
    exact absurd takes (by decide)
  · obtain rfl := List.mem_singleton.mp among
    rcases List.mem_cons.mp member with rfl | member
    · exact absurd takes (by decide)
    rcases List.mem_cons.mp member with rfl | member
    · obtain ⟨rfl, written⟩ :=
        WordPath.of_matched "/thrift/calls" "reset" (by decide) inside matched
      exact written
    obtain rfl := List.mem_singleton.mp member
    obtain ⟨rfl, written⟩ :=
      WordPath.of_matched "/thrift/calls" "verify" (by decide) inside matched
    exact ⟨written, rfl⟩

/-! ## Paths that are written for a call -/

/-- A word that can stand in a path. -/
def IsWord (word : List Char) : Prop := word ≠ [] ∧ '/' ∉ word.map Char.toLower

instance (word : List Char) : Decidable (IsWord word) := inferInstanceAs (Decidable (_ ∧ _))

theorem spelled_ne_nil {spelled word : List Char} (spells : sameWord spelled word = true)
    (plain : IsWord word) : spelled ≠ [] := by
  intro none
  have size := sameWord_length spells
  rw [none] at size
  exact plain.1 (List.eq_nil_of_length_eq_zero size.symm)

theorem getLast?_of_word {spelled word : List Char} (spells : sameWord spelled word = true)
    (plain : IsWord word) (front : List Char) : (front ++ spelled).getLast? ≠ some '/' := by
  rw [List.getLast?_append_of_ne_nil front (spelled_ne_nil spells plain)]
  intro ends
  exact sameWord_no_slash spells plain.2 (List.mem_of_getLast? ends)

theorem head?_of_no_slash {cs more : List Char} (filled : cs ≠ []) (apart : '/' ∉ cs) :
    (cs ++ more).head? ≠ some '/' := by
  cases cs with
  | nil => exact absurd rfl filled
  | cons c rest =>
      intro slash
      exact apart (by rw [Option.some.inj slash]; exact List.mem_cons_self)

theorem NamePath.parts {name word : String} {place : Place} (h : NamePath name word place.path)
    (plain : IsWord word.toList) :
    ∃ inner segment spelled, below? "/scenarios".toList place = some inner ∧
      withoutSlash inner = '/' :: (segment ++ '/' :: spelled) ∧ segment ≠ [] ∧ '/' ∉ segment ∧
      Text.Percent.decodeText? segment = some name.toList ∧
      sameWord spelled word.toList = true := by
  obtain ⟨segment, spelled, filled, apart, decoded, spells, head, slashes, last, whole, root,
    separated, ends⟩ := h
  refine ⟨'/' :: (segment ++ '/' :: spelled ++ last), segment, spelled, ?_, ?_, filled, apart,
    decoded, spells⟩
  · rw [List.append_assoc] at whole
    apply below?_of_append whole root separated (by simp)
    rw [List.append_assoc]
    exact head?_of_no_slash filled apart
  · have front :=
      withoutSlash_of_last (getLast?_of_word spells plain ('/' :: segment ++ ['/'])) ends
    simpa using front

theorem WordPath.parts {root word : String} {place : Place} (h : WordPath root word place.path)
    (plain : IsWord word.toList) :
    ∃ inner spelled, below? root.toList place = some inner ∧ withoutSlash inner = '/' :: spelled ∧
      sameWord spelled word.toList = true := by
  obtain ⟨spelled, spells, head, slashes, last, whole, root, separated, ends⟩ := h
  have filled := spelled_ne_nil spells plain
  refine ⟨'/' :: (spelled ++ last), spelled, ?_, ?_, spells⟩
  · rw [List.append_assoc] at whole
    apply below?_of_append whole root separated (List.append_ne_nil_of_left_ne_nil filled _)
    exact head?_of_no_slash filled (sameWord_no_slash spells plain.2)
  · exact withoutSlash_of_last (getLast?_of_word spells plain ['/']) ends

section
variable {method : String} {place : Place} {inner : List Char} {body : Option Json} {g : Group}
  {rest : List Group}

theorem planIn_found (inside : below? g.root place = some inner) {c : Call}
    (routed : Group.route method inner body [] g.entries = .called c) :
    planIn method place body (g :: rest) = .call c inner := by
  simp only [planIn, inside, routed]

theorem planIn_elsewhere (outside : below? g.root place = none) :
    planIn method place body (g :: rest) = planIn method place body rest := by
  simp only [planIn, outside]

end

/-- A path below the calls does not lie below the scenarios. -/
theorem below?_other_root {word : String} {place : Place}
    (h : WordPath "/thrift/calls" word place.path) : below? scenarioGroup.root place = none := by
  obtain ⟨spelled, _, head, slashes, last, whole, root, _, _⟩ := h
  have size : head.length = 13 := sameWord_length root
  have front : (place.path.take 10).map Char.toLower =
      ("/thrift/calls".toList.map Char.toLower).take 10 := by
    rw [whole, ← sameWord_iff.mp root, List.append_assoc, List.append_assoc,
      List.take_append_of_le_length (by omega), List.map_take]
  have other : sameWord (place.path.take 10) scenarioGroup.root = false := by
    rw [Bool.eq_false_iff]
    intro same
    rw [sameWord_iff, front] at same
    exact absurd same (by decide)
  unfold below?
  exact if_neg (Bool.eq_false_iff.mp other)

/-! ## Routing finds the call -/

/-- An entry does not take the paths of a name and this word. -/
def Entry.PassesName (e : Entry) (word : List Char) : Prop :=
  ∀ inner segment spelled, withoutSlash inner = '/' :: (segment ++ '/' :: spelled) →
    segment ≠ [] → '/' ∉ segment → sameWord spelled word = true → e.matchPath inner = .no

/-- An entry does not take the paths of this word alone. -/
def Entry.PassesWord (e : Entry) (word : List Char) : Prop :=
  ∀ inner spelled, withoutSlash inner = '/' :: spelled → sameWord spelled word = true →
    e.matchPath inner = .no

section
variable {verb : Verb} {own word : List Char}

theorem matchPath_root {call : Option Json → Call} {inner spelled : List Char}
    (front : withoutSlash inner = '/' :: spelled) :
    Entry.matchPath ⟨verb, [], .fixed call⟩ inner = .no := by
  simp only [Entry.matchPath, front]
  rfl

theorem passesName_root (call : Option Json → Call) :
    Entry.PassesName ⟨verb, [], .fixed call⟩ word :=
  fun _ _ _ front _ _ _ => matchPath_root front

theorem passesWord_root (call : Option Json → Call) :
    Entry.PassesWord ⟨verb, [], .fixed call⟩ word :=
  fun _ _ front _ => matchPath_root front

theorem passesName_fixed (call : Option Json → Call) (plain : IsWord own) :
    Entry.PassesName ⟨verb, own, .fixed call⟩ word := by
  intro inner segment spelled front _ _ _
  have other : sameWord (segment ++ '/' :: spelled) own = false := by
    rw [Bool.eq_false_iff]
    intro same
    exact sameWord_no_slash same plain.2 (List.mem_append_right _ List.mem_cons_self)
  rw [matchPath_fixed front plain.1, other, if_neg Bool.false_ne_true]

theorem passesName_named (call : String → Option Json → Call)
    (different : word.map Char.toLower ≠ own.map Char.toLower) :
    Entry.PassesName ⟨verb, own, .named call⟩ word := by
  intro inner segment spelled front filled apart spells
  rw [matchPath_named front filled apart, sameWord_other spells different,
    if_neg Bool.false_ne_true]

theorem passesWord_fixed (call : Option Json → Call) (plain : IsWord own)
    (different : word.map Char.toLower ≠ own.map Char.toLower) :
    Entry.PassesWord ⟨verb, own, .fixed call⟩ word := by
  intro inner spelled front spells
  rw [matchPath_fixed front plain.1, sameWord_other spells different, if_neg Bool.false_ne_true]

end

section
variable {method : String} {place : Place} {body : Option Json} {g : Group} {rest : List Group}
  (before : List Entry) {behind : List Entry} {verb : Verb}

theorem NamePath.routed {name word : String} (h : NamePath name word place.path)
    (plain : IsWord word.toList) (root : g.root = "/scenarios".toList)
    {call : String → Option Json → Call}
    (entries : g.entries = before ++ ⟨verb, word.toList, .named call⟩ :: behind)
    (passed : ∀ b ∈ before, b.PassesName word.toList) (takes : verb.answers method = true) :
    ∃ inner, planIn method place body (g :: rest) = .call (call name body) inner := by
  obtain ⟨inner, segment, spelled, inside, front, filled, apart, decoded, spells⟩ := h.parts plain
  rw [← root] at inside
  refine ⟨inner, planIn_found inside ?_⟩
  have matched : Entry.matchPath ⟨verb, word.toList, .named call⟩ inner = .yes (call name) := by
    rw [matchPath_named front filled apart, if_pos spells, decoded]
    exact congrArg (fun name => Match.yes (call name)) String.ofList_toList
  rw [entries]
  exact route_found (fun b among => passed b among _ _ _ front filled apart spells) matched takes []

theorem WordPath.routed {root word : String} (h : WordPath root word place.path)
    (plain : IsWord word.toList) (rooted : g.root = root.toList) {call : Option Json → Call}
    (entries : g.entries = before ++ ⟨verb, word.toList, .fixed call⟩ :: behind)
    (passed : ∀ b ∈ before, b.PassesWord word.toList) (takes : verb.answers method = true) :
    ∃ inner, planIn method place body (g :: rest) = .call (call body) inner := by
  obtain ⟨inner, spelled, inside, front, spells⟩ := h.parts plain
  rw [← rooted] at inside
  refine ⟨inner, planIn_found inside ?_⟩
  have matched : Entry.matchPath ⟨verb, word.toList, .fixed call⟩ inner = .yes call := by
    rw [matchPath_fixed front plain.1, if_pos spells]
  rw [entries]
  exact route_found (fun b among => passed b among _ _ front spells) matched takes []

end

theorem plan_post {place : Place} {body : Option Json} {c : Call}
    (h : PostPath body place.path c) : ∃ inner, plan "POST" place body = .call c inner := by
  have unhealthy : (isHealthPath place.path && Verb.get.answers "POST") = false := Bool.and_false _
  simp only [plan, unhealthy, Bool.false_eq_true, if_false]
  cases c with
  | enable name b =>
      obtain ⟨written, rfl⟩ := h
      apply written.routed (scenarioGroup.entries.take 2) (by decide) rfl rfl ?_ (by decide)
      exact List.forall_mem_cons.mpr ⟨passesName_root _, List.forall_mem_singleton.mpr
        (passesName_fixed _ (by decide))⟩
  | disable name =>
      apply NamePath.routed (scenarioGroup.entries.take 3) h (by decide) rfl rfl ?_ (by decide)
      exact List.forall_mem_cons.mpr ⟨passesName_root _, List.forall_mem_cons.mpr
        ⟨passesName_fixed _ (by decide), List.forall_mem_singleton.mpr
          (passesName_named _ (by decide))⟩⟩
  | disableAll =>
      apply WordPath.routed (scenarioGroup.entries.take 1) h (by decide) rfl rfl ?_ (by decide)
      exact List.forall_mem_singleton.mpr (passesWord_root _)
  | reset =>
      rw [groups, planIn_elsewhere (below?_other_root h)]
      apply WordPath.routed (callGroup.entries.take 1) h (by decide) rfl rfl ?_ (by decide)
      exact List.forall_mem_singleton.mpr (passesWord_root _)
  | verify b =>
      obtain ⟨written, rfl⟩ := h
      rw [groups, planIn_elsewhere (below?_other_root written)]
      apply written.routed (callGroup.entries.take 2) (by decide) rfl rfl ?_ (by decide)
      exact List.forall_mem_cons.mpr ⟨passesWord_root _, List.forall_mem_singleton.mpr
        (passesWord_fixed _ (by decide) (by decide))⟩
  | list | status | calls | health => cases h

theorem plan_post_iff {place : Place} {body : Option Json} {c : Call} :
    (∃ inner, plan "POST" place body = .call c inner) ↔ PostPath body place.path c :=
  ⟨fun ⟨_, planned⟩ => post_path planned, plan_post⟩

theorem PostPath.unique {path : List Char} {body : Option Json} {c d : Call}
    (h : PostPath body path c) (k : PostPath body path d) : c = d := by
  obtain ⟨_, first⟩ := @plan_post ⟨path, true⟩ body c h
  obtain ⟨_, second⟩ := @plan_post ⟨path, true⟩ body d k
  exact (Plan.call.inj (first.symm.trans second)).1

theorem plan_status {name : String} {place : Place} (h : NamePath name "status" place.path)
    (body : Option Json) : ∃ inner, plan "GET" place body = .call (.status name) inner := by
  have long : isHealthPath place.path = false := by
    obtain ⟨_, _, _, _, _, _, head, slashes, last, whole, root, _⟩ := h
    have size : head.length = 10 := sameWord_length root
    have atLeast : 10 ≤ place.path.length := by
      simp only [whole, List.length_append]
      omega
    obtain ⟨cut, parts, ends⟩ := withoutSlash_append place.path
    have atMost : place.path.length ≤ (withoutSlash place.path).length + 1 := by
      rw [congrArg List.length parts, List.length_append]
      rcases ends with rfl | rfl <;> simp
    rw [isHealthPath, Bool.eq_false_iff]
    intro same
    have short : (withoutSlash place.path).length = 7 := sameWord_length same
    omega
  simp only [plan, long, Bool.false_and, Bool.false_eq_true, if_false]
  apply NamePath.routed (scenarioGroup.entries.take 4) h (by decide) rfl rfl ?_ (by decide)
  exact List.forall_mem_cons.mpr ⟨passesName_root _, List.forall_mem_cons.mpr
    ⟨passesName_fixed _ (by decide), List.forall_mem_cons.mpr
      ⟨passesName_named _ (by decide), List.forall_mem_singleton.mpr
        (passesName_named _ (by decide))⟩⟩⟩

/-! ## Other methods -/

/-- The calls that only read. -/
def Call.reads : Call → Bool
  | .list | .status _ | .calls | .health => true
  | .enable .. | .disable _ | .disableAll | .reset | .verify _ => false

/-- An entry leads to calls that only read. -/
def Entry.Reading (e : Entry) : Prop :=
  match e.endpoint with
  | .fixed call => ∀ body, (call body).reads = true
  | .named call => ∀ name body, (call name body).reads = true

theorem Entry.Reading.matched {e : Entry} (h : e.Reading) {inner : List Char}
    {call : Option Json → Call} (matched : e.matchPath inner = .yes call) (body : Option Json) :
    (call body).reads = true := by
  obtain ⟨verb, word, endpoint⟩ := e
  cases endpoint with
  | fixed own =>
      simp only [Entry.matchPath] at matched
      generalize (if word.isEmpty then [] else '/' :: word) = whole at matched
      split at matched
      · obtain rfl := Match.yes.inj matched
        exact h body
      · cases matched
  | named own =>
      simp only [Entry.matchPath] at matched
      split at matched
      · split at matched
        · split at matched
          · obtain rfl := Match.yes.inj matched
            exact h _ body
          · cases matched
        · cases matched
      · cases matched

/-- Whatever is asked for by GET only reads. -/
theorem get_reading : ∀ g ∈ groups, ∀ e ∈ g.entries, e.verb = .get → e.Reading := by
  have posted : ∀ {P : Prop}, Verb.post = .get → P := fun same => by cases same
  refine List.forall_mem_cons.mpr ⟨?_, List.forall_mem_singleton.mpr ?_⟩
  · exact List.forall_mem_cons.mpr ⟨fun _ _ => rfl, List.forall_mem_cons.mpr ⟨posted,
      List.forall_mem_cons.mpr ⟨posted, List.forall_mem_cons.mpr ⟨posted,
        List.forall_mem_singleton.mpr fun _ _ _ => rfl⟩⟩⟩⟩
  · exact List.forall_mem_cons.mpr ⟨fun _ _ => rfl, List.forall_mem_cons.mpr ⟨posted,
      List.forall_mem_singleton.mpr posted⟩⟩

theorem plan_reads {method : String} {place : Place} {inner : List Char} {body : Option Json}
    {c : Call} (h : plan method place body = .call c inner) (other : method ≠ "POST") : c.reads = true := by
  unfold plan at h
  split at h
  · obtain ⟨rfl, _⟩ := Plan.call.inj h
    rfl
  · obtain ⟨g, among, tail, inside, e, member, call, matched, takes, rfl⟩ := planIn_called h
    have asked : e.verb = .get := by
      cases kind : e.verb with
      | get => rfl
      | post =>
          rw [kind] at takes
          exact absurd (by simpa [Verb.answers, Verb.allowed] using takes) other
    exact (get_reading g among e member asked).matched matched body

end Faultline.Control
