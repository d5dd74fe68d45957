import Faultline.Url.Domain.Composition
import Faultline.Url.Punycode

/-! # Domains

A domain is labels between dots. It is written in ASCII alone: any other label is brought to one
spelling, coded in ASCII and written behind the mark `xn--`. What stands behind the mark is checked
in the same way whether it was coded here or came so, so a written domain is read as itself.
-/

namespace Faultline.Url.Domain

open Text

def isAscii (s : List Char) : Bool := s.all (·.toNat < 0x80)

/-- What the runs of replaced characters say about a character. -/
def runImage? (n : Nat) : Option Nat :=
  replacedRuns.findSome? fun (first, entries) =>
    match entries with
    | [count, stride, image] =>
      if first ≤ n && (n - first) % stride == 0 && (n - first) / stride < count then
        some (image + (n - first))
      else none
    | _ => none

/-- What stands for a character in a domain; a character that is not permitted stands for itself
    here and is refused later. -/
def image (c : Char) : List Char :=
  if inRanges ignored c.toNat then []
  else match replaced.lookup c.toNat with
    | some ns => ns.map Char.ofNat
    | none => match runImage? c.toNat with
      | some n => [Char.ofNat n]
      | none => [c]

/-- The one spelling of a domain: in lower case if it is ASCII, and otherwise with every character
    replaced by its image and composed. -/
def normalize (s : List Char) : List Char :=
  if isAscii s then s.map Char.toLower else compose (s.flatMap image)

/-! ## Labels -/

def isNonspacing (c : Char) : Bool := inRanges nonspacingMarks c.toNat

def isMark (c : Char) : Bool := isNonspacing c || inRanges spacingMarks c.toNat

def viramaClass : Nat := 9

/-- The nearest character that is not a nonspacing mark is in one of the tables. -/
def meets (tables : List (List (Nat × Nat))) (s : List Char) : Bool :=
  match s.dropWhile isNonspacing with
  | [] => false
  | c :: _ => tables.any fun ranges => inRanges ranges c.toNat

/-- Whether every joiner stands where it changes how a text looks: behind a mark that kills a vowel,
    and the one that separates also between letters that would join. `before` holds what came
    before, nearest first. -/
def joinersFit : (before : List Char) → List Char → Bool
  | _, [] => true
  | before, c :: rest =>
    let afterVirama := match before with
      | [] => false
      | b :: _ => markClass b == viramaClass
    let fits :=
      if c.toNat = 0x200C then
        afterVirama ||
          (meets [joinsNext, joinsBoth] before && meets [joinsPrevious, joinsBoth] rest)
      else c.toNat ≠ 0x200D || afterVirama
    fits && joinersFit (c :: before) rest

/-- Whether a label without letters from right to left is, or whether the label begins with such a
    letter, ends with one or with a digit, holds nothing from left to right, and has digits of one
    kind only. -/
def directionFits (s : List Char) : Bool :=
  let has := fun ranges (c : Char) => inRanges ranges c.toNat
  if s.any fun c => has rightToLeft c || has arabicDigits c then
    let endsWell := match s.reverse.dropWhile isNonspacing with
      | [] => false
      | c :: _ => has rightToLeft c || has arabicDigits c || has europeanDigits c
    let beginsWell := match s with
      | [] => false
      | c :: _ => has rightToLeft c
    beginsWell && endsWell
      && s.all (fun c => has rightToLeft c || has arabicDigits c || has europeanDigits c
        || has neutral c || isNonspacing c)
      && !(s.any (has arabicDigits) && s.any (has europeanDigits))
  else true

/-- What a label begins with that is not written in its own characters. -/
def mark : List Char := "xn--".toList

/-- Whether a label that is not ASCII may stand in a domain, if it is in its one spelling. -/
def isLabel (s : List Char) : Bool :=
  match s with
  | [] => false
  | c :: _ =>
    !isMark c && !mark.isPrefixOf s && s.all (fun c => inRanges permitted c.toNat)
      && joinersFit [] s && directionFits s

/-- Whether `code` is what stands behind the mark for some label. -/
def isCode (code : List Char) : Bool :=
  match Punycode.decode? code with
  | some s => !isAscii s && normalize s == s && isLabel s
  | none => false

/-- A label in ASCII. What stands behind a mark has to be a code, whoever has written it. -/
def labelToAscii? (s : List Char) : Option (List Char) :=
  let label := (if isAscii s then s else mark ++ Punycode.encode s).map Char.toLower
  if mark.isPrefixOf label && !isCode (label.drop mark.length) then none else some label

def toAscii? (s : List Char) : Option (List Char) :=
  ((splitOnChar '.' (normalize s)).mapM labelToAscii?).map (['.'].intercalate ·)

example : toAscii? "Example.COM".toList = some "example.com".toList := by decide +kernel

end Faultline.Url.Domain
