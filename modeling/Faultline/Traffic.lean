import Faultline.Text.Blank
import Faultline.Text.Case

/-! # Kinds of traffic

Requests are told apart by method, host and path alone: downloads from a cloud storage host, calls
to a Thrift endpoint, and all the rest.
-/

namespace Faultline

/-- The kinds of traffic that scenarios can aim at. -/
inductive Operation where
  | download
  | thriftCall
  deriving DecidableEq, Repr

namespace Operation

def name : Operation → String
  | download => "CloudFetchDownload"
  | thriftCall => "ThriftCall"

def all : List Operation := [download, thriftCall]

def ofName? (s : String) : Option Operation := all.find? (·.name == s)

end Operation

namespace Traffic

def storageDomains : List String :=
  ["blob.core.windows.net", "s3.amazonaws.com", "storage.googleapis.com"]

/-- The part of a host header that names the host, in lower case: without white space around it
    and without a port. A bracketed literal ends with its bracket. -/
def normalizeHost (host : List Char) : List Char :=
  match Text.lower (Text.trim host) with
  | '[' :: rest =>
    if rest.contains ']' then '[' :: rest.takeWhile (· ≠ ']') ++ [']'] else '[' :: rest
  | cs => cs.takeWhile (· ≠ ':')

/-- Whether `host` is the domain or lies under it. -/
def inDomain (host domain : List Char) : Bool :=
  host == domain || ('.' :: domain).isSuffixOf host

def isStorageHost (host : List Char) : Bool :=
  let name := normalizeHost host
  storageDomains.any fun domain => inDomain name domain.toList

/-- The pieces of which one occurs in every path of a Thrift endpoint. -/
def thriftMarks : List String := ["/sql/1.0/warehouses/", "/sql/1.0/endpoints/"]

def isThriftPath (path : List Char) : Bool :=
  thriftMarks.any fun mark => Text.contains mark.toList path

/-- What kind of traffic a request is; `none` is all that no scenario aims at. -/
def classify (method host path : String) : Option Operation :=
  let method := Text.upper method.toList
  if method = "GET".toList && isStorageHost host.toList then some .download
  else if method = "POST".toList && isThriftPath path.toList then some .thriftCall
  else none

def className : Option Operation → String
  | some op => op.name
  | none => "Other"

end Traffic

end Faultline
