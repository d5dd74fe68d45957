import Faultline.Text.Blank
import Faultline.Text.Percent

/-! # Paths

A path is a list of segments. Segments of one dot are dropped, and a segment of two dots drops the
one before it; what such a segment at the end leaves behind is an empty segment.
-/

namespace Faultline.Url.Path

def dots : List (List Char) := [['.'], "%2e".toList]

def isHere (segment : List Char) : Bool := dots.contains (segment.map Char.toLower)

def isAbove (segment : List Char) : Bool :=
  (dots.flatMap fun a => dots.map (a ++ ·)).contains (segment.map Char.toLower)

/-- Walks along `segments` from the place that `path` leads to. -/
def resolve : (path segments : List (List Char)) → List (List Char)
  | path, [] => path
  | path, [last] =>
    if isAbove last then path.dropLast ++ [[]]
    else if isHere last then path ++ [[]]
    else path ++ [last]
  | path, segment :: next :: rest =>
    if isAbove segment then resolve path.dropLast (next :: rest)
    else if isHere segment then resolve path (next :: rest)
    else resolve (path ++ [segment]) (next :: rest)

def write (path : List (List Char)) : List Char := path.flatMap ('/' :: ·)

end Faultline.Url.Path
