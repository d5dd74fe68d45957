import Faultline.Text.Utf8
import Faultline.Url.Address
import Faultline.Url.Domain

/-! # Hosts

The host of a URL is a domain, a numeric address or, under schemes that give hosts no meaning, any
text without delimiters. Two spellings of one host are written alike.
-/

namespace Faultline.Url

/-- Controls, and all that is not ASCII. -/
def isControlOrBeyond (c : Char) : Bool := c.toNat ≤ 0x1F || 0x7E < c.toNat

namespace Host

/-- The characters that delimit the parts of a URL and so occur in no host. -/
def delimiters : List Char :=
  [Char.ofNat 0, '\t', '\n', '\r', ' ', '#', '/', ':', '<', '>', '?', '@', '[', '\\', ']', '^', '|']

def isForbiddenInDomain (c : Char) : Bool :=
  delimiters.contains c || c.toNat ≤ 0x1F || c == '%' || c.toNat == 0x7F

def bracketed? (cs : List Char) : Option (List Char) :=
  match cs.getLast? with
  | some ']' =>
    (Address6.parse? cs.dropLast).map fun pieces => '[' :: Address6.write pieces ++ [']']
  | _ => none

/-- A host under a scheme that knows domains. Escapes stand for their bytes, and the domain is
    written in ASCII; a host that ends in a number has to be an address. -/
def domain? (cs : List Char) : Option (List Char) :=
  (Domain.toAscii? (Text.Utf8.read (Text.Percent.decodeBytes cs))).bind fun name =>
    if name.isEmpty || name.any isForbiddenInDomain then none
    else if Address4.endsInNumber name then (Address4.parse? name).map Address4.write
    else some name

def plain? (cs : List Char) : Option (List Char) :=
  if cs.any delimiters.contains then none else some (Text.Percent.encode isControlOrBeyond cs)

/-- Reads a host; `knowsDomains` tells which kind of scheme it stands under. -/
def parse? (knowsDomains : Bool) : List Char → Option (List Char)
  | '[' :: rest => bracketed? rest
  | cs => if knowsDomains then domain? cs else plain? cs

end Host

end Faultline.Url
