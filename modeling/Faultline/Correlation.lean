import Faultline.Number.Base36

/-! # Correlation identifiers

An identifier joins the moment of its making and a random draw, both in base 36.
-/

namespace Faultline.Correlation

def drawDigits : Nat := 8

/-- An instant in milliseconds as a numeral; one before the epoch has a sign. -/
def stamp (now : Int) : List Char :=
  (if now < 0 then ['-'] else []) ++ Number.Base36.numeral now.natAbs

/-- The identifier made at the instant `now` from a draw in `[0, 1)`. -/
def mint (now : Int) (draw : Number) : List Char :=
  stamp now ++ '-' :: (Number.Base36.ofFraction draw).take drawDigits

end Faultline.Correlation
