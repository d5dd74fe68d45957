import Faultline.Text.Blank
import Faultline.Text.CaseTables

/-! # Full case mapping

Lower and upper case of whole texts, without regard to language. A mapping may lengthen the text,
and a capital sigma at the end of a word becomes the final form.
-/

namespace Faultline.Text

/-- The shift of the run that holds `n`, if one does. -/
def runShift? (runs : List (Nat × Nat × Nat × Int)) (n : Nat) : Option Int :=
  runs.findSome? fun (first, last, step, shift) =>
    if first ≤ n && n ≤ last && (n - first) % step == 0 then some shift else none

/-- The code point that `runs` pair with `c`, or `c` itself. -/
def shiftBy (runs : List (Nat × Nat × Nat × Int)) (c : Char) : Char :=
  match runShift? runs c.toNat with
  | some shift => Char.ofNat (c.toNat + shift).toNat
  | none => c

/-- Lower case of one character away from the final sigma. ASCII letters are answered at once. -/
def lowerChar (c : Char) : List Char :=
  if c.toNat < 0x80 then [c.toLower]
  else if c.toNat = 0x130 then ['i', Char.ofNat 0x307]
  else [shiftBy lowerRuns c]

/-- Upper case of one character. ASCII letters are answered at once. -/
def upperChar (c : Char) : List Char :=
  if c.toNat < 0x80 then [c.toUpper]
  else match upperExpansions.lookup c.toNat with
    | some ns => ns.map Char.ofNat
    | none => [shiftBy upperRuns c]

def isCaseIgnorable (c : Char) : Bool := inRanges caseIgnorableRanges c.toNat

def isCased (c : Char) : Bool := inRanges casedRanges c.toNat

/-- Whether the nearest character that is not looked through is a letter with case. -/
def meetsCased (s : List Char) : Bool :=
  match s.dropWhile isCaseIgnorable with
  | [] => false
  | c :: _ => isCased c

/-- Lower case of `s`, where `before` holds what came before it, nearest first. -/
def lowerAfter : (before : List Char) → (s : List Char) → List Char
  | _, [] => []
  | before, c :: rest =>
    let image :=
      if c.toNat = 0x3A3 && meetsCased before && !meetsCased rest then [Char.ofNat 0x3C2]
      else lowerChar c
    image ++ lowerAfter (c :: before) rest

def lower (s : List Char) : List Char := lowerAfter [] s

def upper (s : List Char) : List Char := s.flatMap upperChar

end Faultline.Text
