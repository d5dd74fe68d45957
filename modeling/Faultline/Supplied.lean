import Faultline.Json.Value

/-! # Fields that may be left out

A field of a document can be missing, be there as `null`, or hold a value. For most purposes the
first two are the same; a printer and a check for stray fields tell them apart.
-/

namespace Faultline

/-- What a document says about one field. -/
inductive Supplied (α : Type) where
  | absent
  | null
  | given (value : α)
  deriving DecidableEq, Repr, Inhabited

namespace Supplied

variable {α : Type}

/-- The value, if there is one. -/
def get? : Supplied α → Option α
  | .given a => some a
  | .absent | .null => none

/-- The value, or else `fallback`. -/
def getD (s : Supplied α) (fallback : α) : α := s.get?.getD fallback

/-- The value, or else what `next` says. -/
def or (s next : Supplied α) : Supplied α :=
  match s with
  | .given a => .given a
  | .absent | .null => next

/-- Whether the field is there at all; `null` counts. -/
def isPresent : Supplied α → Bool
  | .absent => false
  | .null | .given _ => true

/-- The field as it is printed: nothing if it was left out. -/
def toJson? (print : α → Json) : Supplied α → Option Json
  | .absent => none
  | .null => some .null
  | .given a => some (print a)

/-- The member named `key` of a document, read by `read?`; what cannot be read counts as missing. -/
def ofMember (ms : Members) (key : String) (read? : Json → Option α) : Supplied α :=
  match ms.lookup key with
  | none => .absent
  | some .null => .null
  | some v => match read? v with
    | some a => .given a
    | none => .absent

end Supplied

end Faultline
