import Faultline.Number.Base36
import Faultline.Text.Blank

/-! # Tables of code points

A table is written as rows between commas. A row is a list of numbers in base 36: the first is the
distance from the row before, the others are what the table says of the code point reached.
-/

namespace Faultline.Text.Table

/-- The numbers of a row, between blanks or line breaks. -/
def numbers (row : List Char) : List Nat :=
  (splitOnChar ' ' (row.map fun c => if c = '\n' then ' ' else c)).filterMap fun numeral =>
    if numeral.isEmpty then none else Number.Base36.read? numeral

/-- Turns the distances in front of the rows into code points, counted from `base`. -/
def place : (base : Nat) → List (List Nat) → List (Nat × List Nat)
  | _, [] => []
  | base, [] :: rows => place base rows
  | base, (distance :: entries) :: rows =>
    (base + distance, entries) :: place (base + distance) rows

/-- The rows of a table, each with its code point. -/
def rows (text : String) : List (Nat × List Nat) :=
  place 0 ((splitOnChar ',' text.toList).map numbers)

/-- The closed ranges of a table whose rows hold nothing but a length. -/
def ranges (text : String) : List (Nat × Nat) :=
  (rows text).map fun (first, entries) => (first, first + entries.headD 1 - 1)

example : rows "1t 2 3,\n  a 1" = [(65, [2, 3]), (75, [1])] := by decide +kernel

example : ranges "1t q,10 1" = [(65, 90), (101, 101)] := by decide +kernel

end Faultline.Text.Table
