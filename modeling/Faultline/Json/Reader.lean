import Faultline.Json.Value
import Faultline.Number.Numeral

/-! # Reading JSON

Reading has two passes, each of which goes once over its input. The first cuts the text into tokens
(`Token.ofText?`); the second builds the value, with the arrays and objects that are still open on
a stack (`Json.ofTokens?`). A name that occurs twice in an object keeps its first place and its last
value.
-/

namespace Faultline.Json

inductive Token where
  | openArray
  | closeArray
  | openObject
  | closeObject
  | colon
  | comma
  | text (value : String)
  | scalar (value : Json)

/-- What the cutter is in the middle of. Collected characters stand last first. -/
inductive Cutting where
  | between
  | word (rev : List Char)
  | quoted (rev : List Char)
  | escaped (rev : List Char)
  /-- An escape by number: the digits still owed, its value so far, and the first half of a pair
      that waits for its second. -/
  | numbered (rev : List Char) (owed : Nat) (value : Nat)

/-- The cutter between two characters: the tokens so far, last first. A character beyond the basic
    plane may be written as two escapes; `half` is the first of them while it waits for the
    other. -/
structure Cutter where
  tokens : List Token
  doing : Cutting
  half : Option Nat

def isSpace (c : Char) : Bool := c = ' ' || c = '\t' || c = '\n' || c = '\r'

def Token.ofWord? (w : List Char) : Option Token :=
  if w = "true".toList then some (.scalar (.bool true))
  else if w = "false".toList then some (.scalar (.bool false))
  else if w = "null".toList then some (.scalar .null)
  else (Number.ofLiteral? w).map fun n => .scalar (.number n)

def Token.ofMark? (c : Char) : Option Token :=
  if c = '[' then some .openArray
  else if c = ']' then some .closeArray
  else if c = '\x7b' then some .openObject
  else if c = '\x7d' then some .closeObject
  else if c = ':' then some .colon
  else if c = ',' then some .comma
  else none

/-- A first half that never met its second stands for an unreadable character. -/
def flushHalf (half : Option Nat) (rev : List Char) : List Char :=
  match half with
  | some _ => Char.ofNat 0xFFFD :: rev
  | none => rev

def Cutter.between (tokens : List Token) (c : Char) : Option Cutter :=
  if isSpace c then some ⟨tokens, .between, none⟩
  else if c = '"' then some ⟨tokens, .quoted [], none⟩
  else match Token.ofMark? c with
    | some t => some ⟨t :: tokens, .between, none⟩
    | none => some ⟨tokens, .word [c], none⟩

def unescape? (c : Char) : Option Char :=
  if c = '"' || c = '\\' || c = '/' then some c
  else if c = 'b' then some (Char.ofNat 8)
  else if c = 'f' then some (Char.ofNat 12)
  else if c = 'n' then some '\n'
  else if c = 'r' then some '\r'
  else if c = 't' then some '\t'
  else none

def hexValue? (c : Char) : Option Nat :=
  if '0' ≤ c && c ≤ '9' then some (c.toNat - '0'.toNat)
  else if 'a' ≤ c && c ≤ 'f' then some (c.toNat - 'a'.toNat + 10)
  else if 'A' ≤ c && c ≤ 'F' then some (c.toNat - 'A'.toNat + 10)
  else none

/-- Adds the code unit `n` to the collected characters, joining the two halves of a pair. -/
def addUnit (half : Option Nat) (rev : List Char) (n : Nat) : Option Nat × List Char :=
  if 0xD800 ≤ n && n < 0xDC00 then (some n, flushHalf half rev)
  else if 0xDC00 ≤ n && n < 0xE000 then
    match half with
    | some h => (none, Char.ofNat (0x10000 + (h - 0xD800) * 0x400 + (n - 0xDC00)) :: rev)
    | none => (none, Char.ofNat 0xFFFD :: rev)
  else (none, Char.ofNat n :: flushHalf half rev)

def Cutter.feed (k : Cutter) (c : Char) : Option Cutter :=
  match k.doing with
  | .between => Cutter.between k.tokens c
  | .word rev =>
    if isSpace c || c = '"' || (Token.ofMark? c).isSome then
      match Token.ofWord? rev.reverse with
      | some t => Cutter.between (t :: k.tokens) c
      | none => none
    else some { k with doing := .word (c :: rev) }
  | .quoted rev =>
    if c = '\\' then some { k with doing := .escaped rev }
    else
      let rev := flushHalf k.half rev
      if c = '"' then some ⟨.text (String.ofList rev.reverse) :: k.tokens, .between, none⟩
      else if c.toNat < 0x20 then none
      else some ⟨k.tokens, .quoted (c :: rev), none⟩
  | .escaped rev =>
    if c = 'u' then some { k with doing := .numbered rev 4 0 }
    else (unescape? c).map fun d => ⟨k.tokens, .quoted (d :: flushHalf k.half rev), none⟩
  | .numbered rev owed value =>
    match hexValue? c with
    | none => none
    | some d =>
      let value := value * 16 + d
      if owed ≤ 1 then
        let (half, rev) := addUnit k.half rev value
        some ⟨k.tokens, .quoted rev, half⟩
      else some { k with doing := .numbered rev (owed - 1) value }

def Token.ofText? (s : List Char) : Option (List Token) :=
  match s.foldlM Cutter.feed ⟨[], .between, none⟩ with
  | some ⟨tokens, .between, _⟩ => some tokens.reverse
  | some ⟨tokens, .word rev, _⟩ => (Token.ofWord? rev.reverse).map fun t => (t :: tokens).reverse
  | _ => none

/-- An array or object that is still open; the array's items stand last first. -/
inductive Frame where
  | array (rev : List Json)
  | object (members : Members) (key : String)

/-- What may come next. -/
inductive Expecting where
  | value
  | itemOrClose
  | keyOrClose
  | key
  | colon (key : String)
  | commaOrClose
  | nothing (result : Json)

/-- The builder between two tokens. `members` holds the object whose next key is awaited. -/
structure Builder where
  stack : List Frame
  expecting : Expecting
  members : Members

def Builder.place (stack : List Frame) (v : Json) : Builder :=
  match stack with
  | [] => ⟨[], .nothing v, []⟩
  | .array rev :: below => ⟨.array (v :: rev) :: below, .commaOrClose, []⟩
  | .object ms key :: below => ⟨.object (Members.set ms key v) "" :: below, .commaOrClose, []⟩

def Builder.value (stack : List Frame) : Token → Option Builder
  | .scalar v => some (place stack v)
  | .text s => some (place stack (.string s))
  | .openArray => some ⟨.array [] :: stack, .itemOrClose, []⟩
  | .openObject => some ⟨stack, .keyOrClose, []⟩
  | _ => none

def Builder.feed (b : Builder) (t : Token) : Option Builder :=
  match b.expecting, t with
  | .value, t => Builder.value b.stack t
  | .itemOrClose, .closeArray =>
    match b.stack with
    | .array rev :: below => some (Builder.place below (.array rev.reverse))
    | _ => none
  | .itemOrClose, t => Builder.value b.stack t
  | .keyOrClose, .closeObject => some (Builder.place b.stack .empty)
  | .keyOrClose, .text s => some { b with expecting := .colon s }
  | .key, .text s => some { b with expecting := .colon s }
  | .colon key, .colon => some ⟨.object b.members key :: b.stack, .value, []⟩
  | .commaOrClose, .comma =>
    match b.stack with
    | .array rev :: below => some ⟨.array rev :: below, .value, []⟩
    | .object ms _ :: below => some ⟨below, .key, ms⟩
    | [] => none
  | .commaOrClose, .closeArray =>
    match b.stack with
    | .array rev :: below => some (Builder.place below (.array rev.reverse))
    | _ => none
  | .commaOrClose, .closeObject =>
    match b.stack with
    | .object ms _ :: below => some (Builder.place below (.object ms))
    | _ => none
  | _, _ => none

def ofTokens? (tokens : List Token) : Option Json :=
  match tokens.foldlM Builder.feed ⟨[], .value, []⟩ with
  | some ⟨_, .nothing v, _⟩ => some v
  | _ => none

def read? (s : List Char) : Option Json := (Token.ofText? s).bind ofTokens?

end Faultline.Json
