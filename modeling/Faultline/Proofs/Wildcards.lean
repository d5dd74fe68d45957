import Mathlib.Data.List.Infix
import Faultline.Origin

/-! # What origin patterns describe

A pattern describes a text if its pieces, which its stars separate, stand in the text one after the
other, from the beginning to the end, with a gap without line breaks at each star (`Describes`). The
table of answers that the matcher fills in, one row for each character of the text, comes to just
that (`matchesPattern_iff`). So does the regular expression into which a pattern can be rewritten:
every other sign of the pattern loses its meaning in it (`tokens?_expression`).
-/

namespace Faultline.Origin

/-! ## Pieces and gaps -/

/-- The characters that stand in no gap. -/
def lineBreaks : List Char := ['\n', '\r', '\u2028', '\u2029']

theorem isLineBreak_iff {c : Char} : isLineBreak c = true ↔ c ∈ lineBreaks := by
  simp only [isLineBreak, lineBreaks, Bool.or_eq_true, beq_iff_eq, List.mem_cons,
    List.not_mem_nil, or_false, or_assoc, ← Char.toNat_inj]
  rfl

/-- The text is made of the pieces of the pattern, with a gap before each piece but the first. -/
def Describes (pattern text : List Char) : Prop :=
  ∃ first pieces gaps, pattern.splitOn '*' = first :: pieces ∧ gaps.length = pieces.length ∧
    (∀ gap ∈ gaps, ∀ c ∈ gap, c ∉ lineBreaks) ∧
    text = first ++ (List.zipWith (· ++ ·) gaps pieces).flatten

section
variable {pattern text : List Char} {c : Char}

theorem describes_nil : Describes [] text ↔ text = [] := by
  constructor
  · rintro ⟨first, pieces, gaps, split, _, _, rfl⟩
    rw [List.splitOn_nil] at split
    obtain ⟨rfl, rfl⟩ := List.cons.inj split
    simp
  · rintro rfl
    exact ⟨[], [], [], List.splitOn_nil _, rfl, by simp, rfl⟩

theorem describes_char (plain : c ≠ '*') :
    Describes (c :: pattern) text ↔ ∃ rest, text = c :: rest ∧ Describes pattern rest := by
  have split : (c :: pattern).splitOn '*' = (pattern.splitOn '*').modifyHead (c :: ·) := by
    rw [List.splitOn_cons_eq_if_modifyHead, if_neg (by simpa using plain)]
  constructor
  · rintro ⟨first, pieces, gaps, parts, size, free, rfl⟩
    cases own : pattern.splitOn '*' with
    | nil => exact absurd own (List.splitOn_ne_nil _ _)
    | cons head rest =>
        rw [split, own, List.modifyHead_cons] at parts
        obtain ⟨rfl, rfl⟩ := List.cons.inj parts
        exact ⟨_, rfl, head, rest, gaps, own, size, free, rfl⟩
  · rintro ⟨rest, rfl, first, pieces, gaps, parts, size, free, rfl⟩
    refine ⟨c :: first, pieces, gaps, ?_, size, free, rfl⟩
    rw [split, parts, List.modifyHead_cons]

theorem describes_star : Describes ('*' :: pattern) text ↔
    ∃ gap rest, text = gap ++ rest ∧ (∀ c ∈ gap, c ∉ lineBreaks) ∧ Describes pattern rest := by
  have split : ('*' :: pattern).splitOn '*' = [] :: pattern.splitOn '*' := by
    rw [List.splitOn_cons_eq_if_modifyHead]
    rfl
  constructor
  · rintro ⟨first, pieces, gaps, parts, size, free, rfl⟩
    rw [split] at parts
    obtain ⟨rfl, own⟩ := List.cons.inj parts
    cases pieces with
    | nil => exact absurd own (List.splitOn_ne_nil _ _)
    | cons head rest =>
        cases gaps with
        | nil => simp at size
        | cons gap gaps =>
            obtain ⟨here, later⟩ := List.forall_mem_cons.mp free
            exact ⟨gap, head ++ (List.zipWith (· ++ ·) gaps rest).flatten, by simp, here, head,
              rest, gaps, own, Nat.succ.inj size, later, rfl⟩
  · rintro ⟨gap, rest, rfl, here, first, pieces, gaps, parts, size, later, rfl⟩
    refine ⟨[], first :: pieces, gap :: gaps, ?_, congrArg Nat.succ size,
      List.forall_mem_cons.mpr ⟨here, later⟩, by simp⟩
    rw [split, parts]

theorem describes_star_nil : Describes ('*' :: pattern) [] ↔ Describes pattern [] := by
  rw [describes_star]
  constructor
  · rintro ⟨gap, rest, whole, _, described⟩
    obtain ⟨_, rfl⟩ := List.append_eq_nil_iff.mp whole.symm
    exact described
  · intro described
    exact ⟨[], [], rfl, by simp, described⟩

/-- A character is either outside the gap at a star, which has come to its end, or in it. -/
theorem describes_star_cons : Describes ('*' :: pattern) (c :: text) ↔
    Describes pattern (c :: text) ∨ c ∉ lineBreaks ∧ Describes ('*' :: pattern) text := by
  simp only [describes_star]
  constructor
  · rintro ⟨gap, rest, whole, free, described⟩
    cases gap with
    | nil =>
        obtain rfl : c :: text = rest := whole
        exact .inl described
    | cons d gap =>
        obtain ⟨rfl, rfl⟩ := List.cons.inj whole
        obtain ⟨here, later⟩ := List.forall_mem_cons.mp free
        exact .inr ⟨here, gap, rest, rfl, later, described⟩
  · rintro (described | ⟨here, gap, rest, rfl, free, described⟩)
    · exact ⟨[], c :: text, rfl, by simp, described⟩
    · exact ⟨c :: gap, rest, rfl, List.forall_mem_cons.mpr ⟨here, free⟩, described⟩

/-- A pattern without a star describes itself. -/
theorem describes_plain (plain : '*' ∉ pattern) : Describes pattern text ↔ text = pattern := by
  induction pattern generalizing text with
  | nil => exact describes_nil
  | cons c pattern ih =>
      have other : c ≠ '*' := by
        rintro rfl
        exact plain List.mem_cons_self
      rw [describes_char other]
      simp only [ih (List.not_mem_of_not_mem_cons plain), exists_eq_right]

end

/-! ## Rows of answers -/

/-- The row tells for the pattern, and for each of its ends in turn, whether it describes the
    text. -/
def Answers (pattern text : List Char) (row : List Bool) : Prop :=
  List.Forall₂ (fun rest answer => answer = true ↔ Describes rest text) pattern.tails row

namespace Answers

variable {p : Char} {pattern text : List Char} {answer : Bool} {row : List Bool}

theorem cons_iff : Answers (p :: pattern) text (answer :: row) ↔
    (answer = true ↔ Describes (p :: pattern) text) ∧ Answers pattern text row := by
  rw [Answers, List.tails_cons, List.forall₂_cons, Answers]

theorem head (h : Answers pattern text row) : row.headD false = true ↔ Describes pattern text := by
  cases pattern <;> cases h <;> assumption

theorem empty (pattern : List Char) : Answers pattern [] (emptyRow pattern) := by
  induction pattern with
  | nil => simp [Answers, emptyRow, describes_nil]
  | cons p pattern ih =>
      refine cons_iff.mpr ⟨?_, ih⟩
      rw [Bool.and_eq_true, beq_iff_eq, ih.head]
      by_cases star : p = '*'
      · subst star
        simp [describes_star_nil]
      · simp [star, describes_char star]

/-- The row for a text gives the row for the text with one more character in front. -/
theorem next (c : Char) (h : Answers pattern text row) :
    Answers pattern (c :: text) (nextRow c pattern row) := by
  induction pattern generalizing row with
  | nil => simp [Answers, nextRow, describes_nil]
  | cons p pattern ih =>
      cases row with
      | nil =>
          rw [Answers, List.tails_cons] at h
          cases h
      | cons answer row =>
          obtain ⟨here, later⟩ := cons_iff.mp h
          refine cons_iff.mpr ⟨?_, ih later⟩
          by_cases star : p = '*'
          · subst star
            simp only [if_true, Bool.or_eq_true, Bool.and_eq_true, List.tail_cons,
              List.headD_cons, (ih later).head, here, describes_star_cons, Bool.not_eq_true',
              ← Bool.not_eq_true, isLineBreak_iff]
          · simp only [star, if_false, Bool.and_eq_true, beq_iff_eq, List.tail_cons, later.head,
              describes_char star]
            constructor
            · rintro ⟨rfl, described⟩
              exact ⟨text, rfl, described⟩
            · rintro ⟨rest, same, described⟩
              obtain ⟨rfl, rfl⟩ := List.cons.inj same
              exact ⟨rfl, described⟩

theorem whole (pattern text : List Char) :
    Answers pattern text
      (text.foldr (fun c row => nextRow c pattern row) (emptyRow pattern)) := by
  induction text with
  | nil => exact empty pattern
  | cons c text ih => exact ih.next c

end Answers

theorem matchesPattern_iff {pattern text : List Char} :
    matchesPattern pattern text = true ↔ Describes pattern text :=
  (Answers.whole pattern text).head

instance (pattern text : List Char) : Decidable (Describes pattern text) :=
  decidable_of_iff _ matchesPattern_iff

/-! ## Patterns as regular expressions -/

/-- What stands for a single character in an expression. -/
inductive Atom where
  | char (c : Char)
  | any
  deriving DecidableEq

def Atom.Fits (c : Char) : Atom → Prop
  | char d => c = d
  | any => c ∉ lineBreaks

/-- The signs of an expression, once it is known which of them mean themselves. -/
inductive Token where
  | atom (a : Atom)
  /-- The atom before it any number of times. -/
  | star
  | start
  | finish
  deriving DecidableEq

/-- The characters that, like the star, do not mean themselves in an expression. -/
def metacharacters : List Char :=
  ['.', '+', '?', '^', '$', '{', '}', '(', ')', '|', '[', ']', '\\']

/-- What a character means that is not escaped. Groups, classes, choices and counts are not read. -/
def token? (c : Char) : Option Token :=
  if c = '.' then some (.atom .any)
  else if c = '*' then some .star
  else if c = '^' then some .start
  else if c = '$' then some .finish
  else if c ∈ metacharacters then none
  else some (.atom (.char c))

def tokens? : List Char → Option (List Token)
  | [] => some []
  | '\\' :: c :: rest =>
    if c = '*' ∨ c ∈ metacharacters then (tokens? rest).map (.atom (.char c) :: ·) else none
  | c :: rest => (token? c).bind fun t => (tokens? rest).map (t :: ·)

/-- An expression is found at a place of a text, between what comes before and what comes behind. -/
inductive FoundAt : List Token → (before behind : List Char) → Prop
  | nil {before behind} : FoundAt [] before behind
  | start {tokens behind} : FoundAt tokens [] behind → FoundAt (.start :: tokens) [] behind
  | finish {tokens before} : FoundAt tokens before [] → FoundAt (.finish :: tokens) before []
  | once {a c tokens before behind} : a.Fits c → tokens.head? ≠ some .star →
      FoundAt tokens (before ++ [c]) behind → FoundAt (.atom a :: tokens) before (c :: behind)
  | skip {a tokens before behind} : FoundAt tokens before behind →
      FoundAt (.atom a :: .star :: tokens) before behind
  | again {a c tokens before behind} : a.Fits c →
      FoundAt (.atom a :: .star :: tokens) (before ++ [c]) behind →
      FoundAt (.atom a :: .star :: tokens) before (c :: behind)

def FoundIn (tokens : List Token) (text : List Char) : Prop :=
  ∃ before behind, text = before ++ behind ∧ FoundAt tokens before behind

def escaped (pattern : List Char) : List Char :=
  pattern.flatMap fun c => if c ∈ metacharacters then ['\\', c] else [c]

def withGaps (pattern : List Char) : List Char :=
  pattern.flatMap fun c => if c = '*' then ['.', '*'] else [c]

/-- The expression into which a pattern is rewritten. -/
def expression (pattern : List Char) : List Char := '^' :: withGaps (escaped pattern) ++ ['$']

def tokensOf (pattern : List Char) : List Token :=
  pattern.flatMap fun c => if c = '*' then [.atom .any, .star] else [.atom (.char c)]

theorem withGaps_escaped_cons (c : Char) (pattern : List Char) :
    withGaps (escaped (c :: pattern)) =
      (if c ∈ metacharacters then ['\\', c] else if c = '*' then ['.', '*'] else [c]) ++
        withGaps (escaped pattern) := by
  by_cases special : c ∈ metacharacters
  · have plain : c ≠ '*' := by
      rintro rfl
      revert special
      decide
    simp [escaped, withGaps, special, plain]
  · simp [escaped, withGaps, special]

theorem tokens?_rewritten (pattern : List Char) :
    tokens? (withGaps (escaped pattern) ++ ['$']) = some (tokensOf pattern ++ [.finish]) := by
  induction pattern with
  | nil => decide
  | cons c pattern ih =>
      rw [withGaps_escaped_cons, tokensOf, List.flatMap_cons]
      by_cases special : c ∈ metacharacters
      · have plain : c ≠ '*' := by
          rintro rfl
          revert special
          decide
        simp [special, plain, tokens?, ih, tokensOf]
      · by_cases star : c = '*'
        · subst star
          simp [special, tokens?, token?, ih, tokensOf]
        · have own : token? c = some (.atom (.char c)) := by
            simp only [metacharacters, List.mem_cons, not_or] at special
            simp [token?, special, star, metacharacters]
          have unescaped : c ≠ '\\' := by
            rintro rfl
            revert special
            decide
          simp [special, star, tokens?, unescaped, own, ih, tokensOf]

/-- Whatever a pattern has in it, its expression can be read, and only its stars have a meaning. -/
theorem tokens?_expression (pattern : List Char) :
    tokens? (expression pattern) = some (.start :: (tokensOf pattern ++ [.finish])) := by
  simp [expression, tokens?, token?, tokens?_rewritten]

section
variable {a : Atom} {tokens : List Token} {pattern before behind : List Char}

theorem foundAt_once (single : tokens.head? ≠ some .star) :
    FoundAt (.atom a :: tokens) before behind ↔
      ∃ c rest, behind = c :: rest ∧ a.Fits c ∧ FoundAt tokens (before ++ [c]) rest := by
  constructor
  · intro found
    cases found with
    | once fits _ later => exact ⟨_, _, rfl, fits, later⟩
    | skip | again => exact absurd rfl single
  · rintro ⟨c, rest, rfl, fits, later⟩
    exact .once fits single later

theorem foundAt_star : FoundAt (.atom a :: .star :: tokens) before behind ↔
    ∃ gap rest, behind = gap ++ rest ∧ (∀ c ∈ gap, a.Fits c) ∧
      FoundAt tokens (before ++ gap) rest := by
  constructor
  · intro found
    induction behind generalizing before with
    | nil =>
        cases found with
        | skip later => exact ⟨[], [], rfl, by simp, by simpa using later⟩
    | cons c behind ih =>
        cases found with
        | once _ single => exact absurd rfl single
        | skip later => exact ⟨[], c :: behind, rfl, by simp, by simpa using later⟩
        | again fits later =>
            obtain ⟨gap, rest, rfl, free, onward⟩ := ih later
            exact ⟨c :: gap, rest, rfl, List.forall_mem_cons.mpr ⟨fits, free⟩,
              by simpa using onward⟩
  · rintro ⟨gap, rest, rfl, free, onward⟩
    induction gap generalizing before with
    | nil => exact .skip (by simpa using onward)
    | cons c gap ih =>
        obtain ⟨fits, later⟩ := List.forall_mem_cons.mp free
        exact .again fits (ih later (by simpa using onward))

theorem head?_tokensOf (pattern : List Char) :
    (tokensOf pattern ++ [Token.finish]).head? ≠ some .star := by
  cases pattern with
  | nil => simp [tokensOf]
  | cons c pattern =>
      rw [tokensOf, List.flatMap_cons]
      split <;> simp

theorem foundAt_tokensOf :
    FoundAt (tokensOf pattern ++ [.finish]) before behind ↔ Describes pattern behind := by
  induction pattern generalizing before behind with
  | nil =>
      rw [describes_nil]
      constructor
      · intro found
        cases found
        rfl
      · rintro rfl
        exact .finish .nil
  | cons c pattern ih =>
      by_cases star : c = '*'
      · subst star
        have tokens : tokensOf ('*' :: pattern) = .atom .any :: .star :: tokensOf pattern := rfl
        rw [tokens, List.cons_append, List.cons_append, foundAt_star, describes_star]
        simp only [ih, Atom.Fits]
      · have tokens : tokensOf (c :: pattern) = .atom (.char c) :: tokensOf pattern := by
          simp [tokensOf, star]
        rw [tokens, List.cons_append, foundAt_once (head?_tokensOf pattern), describes_char star]
        simp only [ih, Atom.Fits]
        constructor
        · rintro ⟨_, rest, rfl, rfl, described⟩
          exact ⟨rest, rfl, described⟩
        · rintro ⟨rest, rfl, described⟩
          exact ⟨c, rest, rfl, rfl, described⟩

/-- An expression that begins at the start and ends at the finish is found in whole texts only. -/
theorem foundIn_anchored {text : List Char} :
    FoundIn (.start :: (tokensOf pattern ++ [.finish])) text ↔ Describes pattern text := by
  constructor
  · rintro ⟨before, behind, rfl, found⟩
    cases found with
    | start later => exact foundAt_tokensOf.mp later
  · intro described
    exact ⟨[], text, rfl, .start (foundAt_tokensOf.mpr described)⟩

end

/-! ## Origins -/

theorem matchesAny_iff {origin : String} {patterns : List String} :
    matchesAny origin patterns = true ↔ ∃ p ∈ patterns, Describes p.toList origin.toList := by
  simp only [matchesAny, List.any_eq_true, matchesPattern_iff]

theorem allows_iff {patterns : List String} {origin : Option String} :
    allows patterns origin = true ↔ origin = none ∨ origin = some "" ∨
      ∃ text, origin = some text ∧ ∃ p ∈ patterns, Describes p.toList text.toList := by
  cases origin with
  | none => simp [allows]
  | some text => simp [allows, matchesAny_iff]

/-- An origin is matched exactly if some pattern describes it; a pattern without a star describes
    nothing but itself, and a pattern describes what its expression is found in. A request may read
    the answer exactly if it has no origin or its origin is matched, and more patterns do not take
    that from it. -/
theorem origin_matched_iff (origin : String) (patterns : List String) :
    (matchesAny origin patterns = true ↔ ∃ p ∈ patterns, Describes p.toList origin.toList) ∧
    (∀ p : String, '*' ∉ p.toList → (matchesAny origin [p] = true ↔ origin = p)) ∧
    (∀ p : String, ∃ tokens, tokens? (expression p.toList) = some tokens ∧
      (matchesAny origin [p] = true ↔ FoundIn tokens origin.toList)) ∧
    (∀ o, allows patterns o = true ↔ o = none ∨ o = some "" ∨
      ∃ text, o = some text ∧ ∃ p ∈ patterns, Describes p.toList text.toList) ∧
    ∀ more o, patterns ⊆ more → allows patterns o = true → allows more o = true := by
  have alone : ∀ p : String,
      matchesAny origin [p] = true ↔ Describes p.toList origin.toList := by
    intro p
    simp only [matchesAny_iff, List.mem_singleton, exists_eq_left]
  refine ⟨matchesAny_iff, ?_, ?_, fun _ => allows_iff, ?_⟩
  · intro p plain
    rw [alone, describes_plain plain, String.toList_inj]
  · intro p
    refine ⟨_, tokens?_expression p.toList, ?_⟩
    rw [alone, foundIn_anchored]
  · intro more o added allowed
    rw [allows_iff] at allowed ⊢
    rcases allowed with absent | empty | ⟨text, given, p, known, described⟩
    · exact .inl absent
    · exact .inr (.inl empty)
    · exact .inr (.inr ⟨text, given, p, added known, described⟩)

/-- The dots and the plus stand for themselves, and the stars for a name and for a port. -/
theorem origin_matched_iff_ports :
    '*' ∉ "http://[::1]".toList ∧ ["https://*.a+b.de:*"] ⊆ ["https://*.a+b.de:*", "http://[::1]"] ∧
      matchesAny "https://x.y.a+b.de:81" ["https://*.a+b.de:*"] = true ∧
      (matchesAny "https://x.y.a+b.de:81" ["http://[::1]"] = true ↔
        "https://x.y.a+b.de:81" = "http://[::1]") ∧
      allows ["https://*.a+b.de:*", "http://[::1]"] (some "https://x.y.a+b.de:81") = true := by
  have plain : '*' ∉ "http://[::1]".toList := by decide
  have added : ["https://*.a+b.de:*"] ⊆ ["https://*.a+b.de:*", "http://[::1]"] := by decide
  obtain ⟨matched, alone, _, _, kept⟩ :=
    origin_matched_iff "https://x.y.a+b.de:81" ["https://*.a+b.de:*"]
  refine ⟨plain, added, matched.mpr (by decide +kernel), alone _ plain,
    kept _ _ added (by decide +kernel)⟩

end Faultline.Origin
