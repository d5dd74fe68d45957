import Faultline.Text.Case

/-! # Media types

The value of a content type header: type and subtype, then parameters behind semicolons. A value
that does not follow the grammar to its end says nothing at all.
-/

namespace Faultline.Control

structure MediaType where
  /-- Type and subtype in lower case, with the slash between them. -/
  essence : List Char
  /-- The parameters, their names in lower case, in the order in which they are written. -/
  parameters : List (List Char × List Char)
  deriving DecidableEq, Repr

namespace MediaType

def isAlphanumeric (c : Char) : Bool := c.isAlphanum

def isToken (c : Char) : Bool :=
  isAlphanumeric c ||
    ['!', '#', '$', '%', '&', '\'', '*', '+', '-', '.', '^', '_', '\x60', '|', '~'].contains c

/-- The characters of types; subtypes have two more. -/
def isTypePart (c : Char) : Bool :=
  isAlphanumeric c || ['!', '#', '$', '&', '^', '_', '-'].contains c

def isSubtypePart (c : Char) : Bool := isTypePart c || c == '.' || c == '+'

def isSpace (c : Char) : Bool := c == ' '

def partLimit : Nat := 127

def isPart (accepts : Char → Bool) : List Char → Bool
  | [] => false
  | c :: rest => isAlphanumeric c && rest.all accepts && (c :: rest).length ≤ partLimit

/-- Type and subtype, with spaces allowed around them. -/
def essence? (cs : List Char) : Option (List Char) :=
  let trimmed := Text.dropEnds isSpace cs
  match trimmed.dropWhile (· ≠ '/') with
  | '/' :: subtype =>
    if isPart isTypePart (trimmed.takeWhile (· ≠ '/')) && isPart isSubtypePart subtype then
      some (trimmed.map Char.toLower)
    else none
  | _ => none

def isQuotable (c : Char) : Bool :=
  c == ' ' || c == '!' || (0x23 ≤ c.toNat && c.toNat ≤ 0x5B) ||
    (0x5D ≤ c.toNat && c.toNat ≤ 0x7E) || (0x80 ≤ c.toNat && c.toNat ≤ 0xFF)

/-- A quoted text behind its first quote, and what is behind its last. -/
def quoted? : List Char → Option (List Char × List Char)
  | '"' :: rest => some ([], rest)
  | '\\' :: c :: rest =>
    if 0x20 ≤ c.toNat && c.toNat ≤ 0xFF then
      (quoted? rest).map fun (value, behind) => (c :: value, behind)
    else none
  | c :: rest =>
    if isQuotable c then (quoted? rest).map fun (value, behind) => (c :: value, behind) else none
  | [] => none

/-- A value, quoted or not, and what is behind it. -/
def value? : List Char → Option (List Char × List Char)
  | '"' :: rest => quoted? rest
  | cs =>
    let value := cs.takeWhile isToken
    if value.isEmpty then none else some (value, cs.dropWhile isToken)

/-- One parameter behind its semicolon, and what is behind it. -/
def parameter? (cs : List Char) : Option ((List Char × List Char) × List Char) :=
  let cs := cs.dropWhile isSpace
  let name := cs.takeWhile isToken
  match (cs.dropWhile isToken).dropWhile isSpace with
  | '=' :: rest =>
    if name.isEmpty then none
    else (value? (rest.dropWhile isSpace)).map fun (value, behind) =>
      ((name.map Char.toLower, value), behind.dropWhile isSpace)
  | _ => none

/-- The parameters up to the end; there are fewer than `fuel`. -/
def parameters? : (fuel : Nat) → List Char → Option (List (List Char × List Char))
  | _, [] => some []
  | fuel + 1, ';' :: rest =>
    match parameter? rest with
    | some (p, behind) => (parameters? fuel behind).map (p :: ·)
    | none => none
  | _, _ => none

def parse? (cs : List Char) : Option MediaType :=
  match essence? (cs.takeWhile (· ≠ ';')), parameters? cs.length (cs.dropWhile (· ≠ ';')) with
  | some essence, some parameters => some ⟨essence, parameters⟩
  | _, _ => none

/-- The value of a parameter; of two with one name the later counts. -/
def parameter (m : MediaType) (name : String) : Option (List Char) :=
  m.parameters.reverse.lookup name.toList

end MediaType

end Faultline.Control
