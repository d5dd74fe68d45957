import Faultline.Json.Value

/-! # Values of the embedding program

What a program that embeds the proxy can hand to it: documents, and values that no document can
hold. Of the latter only their shape matters, and whether they can be waited for.
-/

namespace Faultline

/-- A value of the embedding program. -/
inductive HostValue where
  | document (v : Json)
  /-- No value at all. -/
  | missing
  /-- Something that can be called. -/
  | callable (hasThen : Bool)
  /-- A record like those of documents, but with members that no document can hold. -/
  | bare (hasThen : Bool)
  /-- An object of a kind of its own, such as a date or a promise. -/
  | special (hasThen : Bool)
  deriving DecidableEq

namespace HostValue

/-- Whether the value is a record without a kind of its own. -/
def isPlainObject : HostValue → Bool
  | document (.object _) | bare _ => true
  | document _ | missing | callable _ | special _ => false

/-- Whether the value can be waited for: it has something to call for that purpose. Nothing in a
    document can be called. -/
def isPromiseLike : HostValue → Bool
  | callable hasThen | bare hasThen | special hasThen => hasThen
  | document _ | missing => false

end HostValue

end Faultline
