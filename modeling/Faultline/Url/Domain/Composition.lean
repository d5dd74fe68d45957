import Faultline.Url.Domain.Tables

/-! # Composed characters

A character may be written as one or as a letter with marks behind it. Composing brings both
spellings of a text to one: characters are taken apart, marks are put in order, and what can be
composed is composed.
-/

namespace Faultline.Url.Domain

open Text

/-- The class of a mark; other characters have class zero. -/
def markClass (c : Char) : Nat :=
  (markClasses.findSome? fun (first, entries) =>
    match entries with
    | [count, value] => if first ≤ c.toNat && c.toNat < first + count then some value else none
    | _ => none).getD 0

/-! ## Hangul

A syllable is a leading consonant, a vowel and perhaps a trailing consonant, numbered in this order.
-/

namespace Hangul

def firstSyllable : Nat := 0xAC00

def firstLeading : Nat := 0x1100

def firstVowel : Nat := 0x1161

/-- One before the first trailing consonant: trailing number zero says that there is none. -/
def noTrailing : Nat := 0x11A7

def decompose? (c : Char) : Option (List Char) :=
  let index := c.toNat - firstSyllable
  if firstSyllable ≤ c.toNat && index < 19 * 21 * 28 then
    let leading := Char.ofNat (firstLeading + index / (21 * 28))
    let vowel := Char.ofNat (firstVowel + index / 28 % 21)
    if index % 28 = 0 then some [leading, vowel]
    else some [leading, vowel, Char.ofNat (noTrailing + index % 28)]
  else none

/-- The syllable that starts with `a` and goes on with `b`. -/
def compose? (a b : Char) : Option Char :=
  let leading := a.toNat - firstLeading
  let vowel := b.toNat - firstVowel
  let syllable := a.toNat - firstSyllable
  let trailing := b.toNat - noTrailing
  if firstLeading ≤ a.toNat && leading < 19 && firstVowel ≤ b.toNat && vowel < 21 then
    some (Char.ofNat (firstSyllable + (leading * 21 + vowel) * 28))
  else if firstSyllable ≤ a.toNat && syllable < 19 * 21 * 28 && syllable % 28 = 0
      && noTrailing < b.toNat && trailing < 28 then
    some (Char.ofNat (a.toNat + trailing))
  else none

example : decompose? '한' = some [Char.ofNat 0x1112, Char.ofNat 0x1161, Char.ofNat 0x11AB] := by
  decide +kernel

example : compose? '하' (Char.ofNat 0x11AB) = some '한' := by decide +kernel

end Hangul

/-- The parts of a character, one step down. -/
def decomposeOnce (c : Char) : List Char :=
  match Hangul.decompose? c with
  | some parts => parts
  | none => ((compositions.lookup c.toNat).map (·.map Char.ofNat)).getD [c]

/-- The text with every character taken apart. No permitted character is composed of parts of parts
    that are composed themselves, so two steps are enough. -/
def decompose (s : List Char) : List Char := (s.flatMap decomposeOnce).flatMap decomposeOnce

/-- Puts a character in front of a text, behind the marks that have to precede it. -/
def insertMark (c : Char) : List Char → List Char
  | [] => [c]
  | d :: rest =>
    if markClass d ≠ 0 && markClass d < markClass c then d :: insertMark c rest else c :: d :: rest

/-- The text with the marks behind each letter in the order of their classes. -/
def orderMarks (s : List Char) : List Char := s.foldr insertMark []

def composePair? (a b : Char) : Option Char :=
  match Hangul.compose? a b with
  | some c => some c
  | none =>
    (compositions.find? fun row => row.2 == [a.toNat, b.toNat]).map fun row => Char.ofNat row.1

/-- Whether a mark between keeps `c` from being composed with the letter before it. -/
def isBlocked (between : List Char) (c : Char) : Bool :=
  match between.getLast? with
  | none => false
  | some d => markClass c ≤ markClass d

/-- Composes what follows with `letter`, where `between` holds the marks that could not be. -/
def composeOnto (letter : Char) (between : List Char) : List Char → List Char
  | [] => letter :: between
  | c :: rest =>
    match if isBlocked between c then none else composePair? letter c with
    | some composed => composeOnto composed between rest
    | none =>
      if markClass c = 0 then letter :: between ++ composeOnto c [] rest
      else composeOnto letter (between ++ [c]) rest

def compose (s : List Char) : List Char :=
  match orderMarks (decompose s) with
  | [] => []
  | c :: rest => composeOnto c [] rest

end Faultline.Url.Domain
