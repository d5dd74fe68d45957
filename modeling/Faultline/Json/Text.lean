import Faultline.Json.Value

/-! # The text of a value

What a value reads as when it is put into a sentence. Arrays list their items without brackets,
and an object shows nothing of its members. An object with a member `toString` claims a text of its
own and cannot give it, so it has none.
-/

namespace Faultline.Json

/-- The member name by which an object claims a text of its own. -/
def textClaim : String := "toString"

mutual

/-- The text of a value, if it has one. -/
def text? : Json → Option String
  | .null => some "null"
  | .bool b => some (if b then "true" else "false")
  | .number n => some n.text
  | .string s => some s
  | .array items => itemsText? items
  | .object ms => if (ms.lookup textClaim).isSome then none else some "[object Object]"

/-- The text of one item among others: nothing stands for `null`. -/
def itemText? : Json → Option String
  | .null => some ""
  | .bool b => some (if b then "true" else "false")
  | .number n => some n.text
  | .string s => some s
  | .array items => itemsText? items
  | .object ms => if (ms.lookup textClaim).isSome then none else some "[object Object]"

/-- The texts of the items, with commas between them. -/
def itemsText? : List Json → Option String
  | [] => some ""
  | [x] => itemText? x
  | x :: y :: rest =>
    match itemText? x, itemsText? (y :: rest) with
    | some a, some b => some (a ++ "," ++ b)
    | _, _ => none

end

end Faultline.Json
