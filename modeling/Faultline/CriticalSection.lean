import Faultline.Failure.Basic
import Faultline.HostValue

/-! # Critical sections

A section counts how deeply it is entered and how often it was entered in all. A body may enter the
section again, and may fail; it may not promise its result for later. However a body ends, it leaves
the section as deep as it found it.
-/

namespace Faultline

/-- How a body ends once the bodies inside it have run. -/
inductive SectionEnd where
  /-- Returns a value. -/
  | value (v : HostValue)
  /-- Returns what the last body inside returned. -/
  | last
  | failure (f : Failure)

/-- What a body goes on with when it catches a failure inside. -/
abbrev SectionCatch := Failure → HostValue

/-- What is done inside a critical section: other bodies are run inside, one after the other, and
    then the body ends. A failure inside is caught if there is something to go on with; otherwise it
    ends the body at once. -/
inductive SectionBody where
  | mk (inner : List (Option SectionCatch × SectionBody)) (ending : SectionEnd)

/-- A body that is run inside another one, and what to go on with when it fails. -/
abbrev SectionStep := Option SectionCatch × SectionBody

namespace SectionBody

/-- Returns a value. -/
def value (v : HostValue) : SectionBody := mk [] (.value v)

/-- Fails with an error of this message. -/
def failure (message : String) : SectionBody := mk [] (.failure (.ofMessage message))

/-- Goes on with a text that says what was caught. -/
def reporting : SectionCatch := fun f => .document (.string ("caught " ++ f.message))

/-- Runs bodies inside and returns what the last one returned. The failures of those marked `true`
    are caught and reported. -/
def nested (inner : List (Bool × SectionBody)) : SectionBody :=
  mk (inner.map fun (catches, body) => (if catches then some reporting else none, body)) .last

instance : Inhabited SectionBody := ⟨.nested []⟩

end SectionBody

/-- How deeply a section is entered, and how often it has been entered. -/
structure CriticalSection where
  depth : Nat
  entries : Nat
  deriving DecidableEq, Repr

namespace CriticalSection

def fresh : CriticalSection := ⟨0, 0⟩

def isHeld (s : CriticalSection) : Bool := 0 < s.depth

def enter (s : CriticalSection) : CriticalSection := ⟨s.depth + 1, s.entries + 1⟩

def leave (s : CriticalSection) : CriticalSection := ⟨s.depth - 1, s.entries⟩

/-- What a run comes to: its result, the section after it, and whether the section was held at each
    moment it was looked at. -/
structure Run where
  result : Except Failure HostValue
  after : CriticalSection
  held : List Bool

/-- What a body may return: anything but a promise. -/
def checked (v : HostValue) : Except Failure HostValue :=
  if v.isPromiseLike then .error .asynchronous else .ok v

/-- What a body comes to by itself if the last body inside it returned `last`. -/
def ended (last : HostValue) : SectionEnd → Except Failure HostValue
  | .value v => .ok v
  | .last => .ok last
  | .failure f => .error f

mutual

/-- Runs a body inside the section. The section is looked at on entry. -/
def run (s : CriticalSection) : SectionBody → Run
  | .mk inner ending =>
    let r := runAll s.enter (.document .null) inner
    { result := (r.result.bind (ended · ending)).bind checked
      after := r.after.leave
      held := s.enter.isHeld :: r.held }

/-- Runs bodies one after the other, until one fails. The section is looked at after each one that
    does not. -/
def runAll (s : CriticalSection) (last : HostValue) : List SectionStep → Run
  | [] => ⟨.ok last, s, []⟩
  | (catching, body) :: rest =>
    let r := run s body
    let result : Except Failure HostValue := match r.result, catching with
      | .ok v, _ => .ok v
      | .error f, some goOn => .ok (goOn f)
      | .error f, none => .error f
    match result with
    | .ok v =>
      let more := runAll r.after v rest
      { more with held := r.held ++ r.after.isHeld :: more.held }
    | .error f => ⟨.error f, r.after, r.held⟩

end

end CriticalSection

end Faultline
