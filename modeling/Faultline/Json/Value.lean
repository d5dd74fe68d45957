import Faultline.Number.Decimal

/-! # JSON values

Objects are lists of named members in the order in which they were written. Where the members are
listed, names that are array indices come first in ascending order (`Members.inOrder`).
-/

namespace Faultline

inductive Json where
  | null
  | bool (value : Bool)
  | number (value : Number)
  | string (value : String)
  | array (items : List Json)
  | object (members : List (String × Json))

abbrev Members := List (String × Json)

namespace Json

instance : Inhabited Json := ⟨.null⟩

mutual

/-- Equality of values; the order of an object's members counts. -/
def decEq : (a b : Json) → Decidable (a = b)
  | .null, .null => .isTrue rfl
  | .bool x, .bool y =>
    if h : x = y then .isTrue (h ▸ rfl) else .isFalse fun e => h (Json.bool.inj e)
  | .number x, .number y =>
    if h : x = y then .isTrue (h ▸ rfl) else .isFalse fun e => h (Json.number.inj e)
  | .string x, .string y =>
    if h : x = y then .isTrue (h ▸ rfl) else .isFalse fun e => h (Json.string.inj e)
  | .array x, .array y =>
    match decEqItems x y with
    | .isTrue h => .isTrue (h ▸ rfl)
    | .isFalse h => .isFalse fun e => h (Json.array.inj e)
  | .object x, .object y =>
    match decEqMembers x y with
    | .isTrue h => .isTrue (h ▸ rfl)
    | .isFalse h => .isFalse fun e => h (Json.object.inj e)
  | .null, .bool _ | .null, .number _ | .null, .string _ | .null, .array _ | .null, .object _
  | .bool _, .null | .bool _, .number _ | .bool _, .string _ | .bool _, .array _
  | .bool _, .object _ | .number _, .null | .number _, .bool _ | .number _, .string _
  | .number _, .array _ | .number _, .object _ | .string _, .null | .string _, .bool _
  | .string _, .number _ | .string _, .array _ | .string _, .object _ | .array _, .null
  | .array _, .bool _ | .array _, .number _ | .array _, .string _ | .array _, .object _
  | .object _, .null | .object _, .bool _ | .object _, .number _ | .object _, .string _
  | .object _, .array _ => .isFalse nofun

/-- `decEq` on the items of arrays. -/
def decEqItems : (a b : List Json) → Decidable (a = b)
  | [], [] => .isTrue rfl
  | [], _ :: _ => .isFalse nofun
  | _ :: _, [] => .isFalse nofun
  | x :: xs, y :: ys =>
    match decEq x y, decEqItems xs ys with
    | .isTrue h, .isTrue t => .isTrue (by rw [h, t])
    | .isFalse h, _ => .isFalse fun e => h (List.cons.inj e).1
    | _, .isFalse t => .isFalse fun e => t (List.cons.inj e).2

/-- `decEq` on the members of objects. -/
def decEqMembers : (a b : List (String × Json)) → Decidable (a = b)
  | [], [] => .isTrue rfl
  | [], _ :: _ => .isFalse nofun
  | _ :: _, [] => .isFalse nofun
  | (k, x) :: xs, (l, y) :: ys =>
    if hk : k = l then
      match decEq x y, decEqMembers xs ys with
      | .isTrue h, .isTrue t => .isTrue (by rw [hk, h, t])
      | .isFalse h, _ => .isFalse fun e => h (Prod.mk.inj (List.cons.inj e).1).2
      | _, .isFalse t => .isFalse fun e => t (List.cons.inj e).2
    else .isFalse fun e => hk (Prod.mk.inj (List.cons.inj e).1).1

end

instance : DecidableEq Json := decEq

def empty : Json := .object []

def ofNat (n : Nat) : Json := .number (Number.ofNat n)

def ofStrings (texts : List String) : Json := .array (texts.map .string)

/-- The text, if the value is one. -/
def string? : Json → Option String
  | .string s => some s
  | _ => none

/-- The number, if the value is one. -/
def number? : Json → Option Number
  | .number n => some n
  | _ => none

/-- The members, if the value is an object. -/
def members? : Json → Option Members
  | .object ms => some ms
  | _ => none

/-- The texts, if the value is an array of texts. -/
def strings? : Json → Option (List String)
  | .array items => items.mapM string?
  | _ => none

/-- The member named `key`; what is not an object has none. -/
def get? (v : Json) (key : String) : Option Json :=
  match v with
  | .object ms => ms.lookup key
  | _ => none

/-- Whether the value counts as false where a condition is asked for. -/
def isEmptyLike : Json → Bool
  | .null => true
  | .bool b => !b
  | .number n => n = Number.ofNat 0
  | .string s => s.isEmpty
  | .array _ | .object _ => false

end Json

namespace Members

/-- Gives `key` the value `v`: in its place if it is there, else at the end. -/
def set {α : Type} (ms : List (String × α)) (key : String) (v : α) : List (String × α) :=
  match ms with
  | [] => [(key, v)]
  | (k, x) :: rest => if k = key then (k, v) :: rest else (k, x) :: set rest key v

/-- The members of `ms` with those of `top` laid on top of them. -/
def overlay {α : Type} (ms top : List (String × α)) : List (String × α) :=
  top.foldl (fun acc m => set acc m.1 m.2) ms

/-- The members of `fields` that are there. -/
def ofFields {α : Type} (fields : List (String × Option α)) : List (String × α) :=
  fields.filterMap fun (key, v) => v.map (key, ·)

def indexLimit : Nat := 4294967294

/-- The array index that a name spells: its decimal digits without a superfluous zero in front. -/
def index? (key : String) : Option Nat :=
  let cs := key.toList
  if cs.isEmpty || cs.length > 10 || !cs.all (fun c => '0' ≤ c && c ≤ '9') then none
  else if cs.head? == some '0' && cs.length != 1 then none
  else
    let n := cs.foldl (fun n c => n * 10 + (c.toNat - '0'.toNat)) 0
    if n ≤ indexLimit then some n else none

/-- Puts a numbered entry before the first one with a greater number. -/
def insertByIndex {α : Type} (n : Nat) (x : α) : List (Nat × α) → List (Nat × α)
  | [] => [(n, x)]
  | (m, y) :: rest => if n < m then (n, x) :: (m, y) :: rest else (m, y) :: insertByIndex n x rest

/-- The members in the order in which they are listed: array indices ascending, then the others as
    they were written. -/
def inOrder {α : Type} (ms : List (String × α)) : List (String × α) :=
  let numbered := ms.foldl (fun acc m =>
    match index? m.1 with
    | some n => insertByIndex n m acc
    | none => acc) []
  if numbered.isEmpty then ms
  else numbered.map (·.2) ++ ms.filter fun m => (index? m.1).isNone

end Members

end Faultline
