import Faultline.Json.Value

/-! # Origins

Which web origins may call the control interface. A pattern is matched as a whole; each star in it
stands for any text without a line break.
-/

namespace Faultline.Origin

/-- Line feed, carriage return and the two Unicode separators end a line. -/
def isLineBreak (c : Char) : Bool :=
  c == '\n' || c == '\r' || c.toNat == 0x2028 || c.toNat == 0x2029

/-- For a pattern and each of its ends in turn: whether it describes the empty text. -/
def emptyRow : (pattern : List Char) → List Bool
  | [] => [true]
  | p :: pattern =>
    let later := emptyRow pattern
    (p == '*' && later.headD false) :: later

/-- For a pattern and each of its ends in turn: whether it describes the text that begins with `c`,
    given in `row` the answers for the text behind `c`. -/
def nextRow (c : Char) : (pattern : List Char) → (row : List Bool) → List Bool
  | [], _ => [false]
  | p :: pattern, row =>
    let later := nextRow c pattern row.tail
    (if p = '*' then later.headD false || (!isLineBreak c && row.headD false)
      else p == c && row.tail.headD false) :: later

def matchesPattern (pattern text : List Char) : Bool :=
  (text.foldr (fun c row => nextRow c pattern row) (emptyRow pattern)).headD false

def matchesAny (origin : String) (patterns : List String) : Bool :=
  patterns.any fun p => matchesPattern p.toList origin.toList

/-- Whether a request may read the answer. Requests without an origin do not come from a page and
    always may. -/
def allows (patterns : List String) : Option String → Bool
  | none => true
  | some origin => origin.isEmpty || matchesAny origin patterns

def methods : List String := ["GET", "POST", "OPTIONS"]

def allowedHeaders : List String := ["Content-Type", "X-Correlation-ID"]

def exposedHeaders : List String := ["X-Correlation-ID"]

def defaultPatterns : List String :=
  ["http://localhost", "http://localhost:*", "http://127.0.0.1", "http://127.0.0.1:*"]

end Faultline.Origin
