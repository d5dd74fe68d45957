import Faultline.Log.Entry

/-! # Loggers

A logger adds its own context to every call and lets through what is at or above its level. A child
has its parent's context with more laid on top of it.
-/

namespace Faultline.Log

/-- Named values in order. A name can be listed without a value: it keeps its place. -/
abbrev Context := List (String × Option Json)

namespace Context

def ofMembers (ms : Members) : Context := ms.map fun (k, v) => (k, some v)

/-- The value of a name, if it has one. -/
def get? (c : Context) (key : String) : Option Json := (c.lookup key).join

/-- The names with values, with those values, in the order in which they are listed. -/
def members (c : Context) : Members :=
  Members.inOrder (Members.ofFields c)

end Context

/-- How a logger is set up. -/
structure Settings where
  /-- The level from which on lines are logged; without one there are no lines at all. -/
  level : Option Level
  service : Option Json
  component : Option Json
  pretty : Bool
  /-- Whether lines are made and then dropped. -/
  silent : Bool

structure Logger where
  settings : Settings
  context : Context

namespace Logger

/-- A setting that says something, or else what the context has under the same name. -/
def preferred (setting : Option Json) (c : Context) (key : String) : Option Json :=
  match setting with
  | some v => if v.isEmptyLike then c.get? key else some v
  | none => c.get? key

/-- A logger with the given context. Service and component are always listed. -/
def make (settings : Settings) (c : Context) : Logger :=
  let service := preferred settings.service c "service"
  let component := preferred settings.component c "component"
  ⟨settings, Members.set (Members.set c "service" service) "component" component⟩

/-- A logger that adds `more` to the context. -/
def child (l : Logger) (more : Context) : Logger :=
  make l.settings (Members.overlay l.context more)

def withCorrelationId (l : Logger) (id : String) : Logger :=
  l.child [("correlationId", some (.string id))]

def lets (l : Logger) (level : Level) : Bool :=
  match l.settings.level with
  | some threshold => threshold.rank ≤ level.rank
  | none => false

/-- The member that is never listed; the members of its value stand in for missing ones. -/
def fallbackKey : String := "__proto__"

/-- The entry that a call makes, whether or not it comes through. -/
def entry (l : Logger) (timestamp : String) (level : Level) (message : String) (more : Context)
    (error : Option Fault) : Entry :=
  let all := Context.members (Members.overlay l.context more)
  let context := all.filter (·.1 != fallbackKey)
  { timestamp, level, message, error, context
    -- An entry that lists nothing has no context for which anything could stand in.
    fallback := if context.isEmpty then []
      else match all.lookup fallbackKey with
        | some (.object ms) => ms
        | _ => [] }

/-- The line that a call makes, if one comes through. -/
def log? (l : Logger) (timestamp : String) (level : Level) (message : String) (more : Context)
    (error : Option Fault) : Option Entry :=
  if l.lets level && !l.settings.silent then some (l.entry timestamp level message more error)
  else none

def print (l : Logger) (e : Entry) : Except Failure String :=
  if l.settings.pretty then e.pretty else .ok e.document.write

end Logger

/-- How a logger is derived from another one. -/
inductive Derivation where
  | child (more : Context)
  | correlation (id : String)

/-- What a call is given. -/
structure Call where
  timestamp : String
  level : Level
  message : String
  more : Context
  error : Option Fault

/-- What comes out of a logger. -/
inductive Output where
  /-- An entry, for a function that takes entries. -/
  | handed (e : Entry)
  /-- A text on a stream. -/
  | printed (stream text : String)
  deriving DecidableEq

namespace Logger

def derive (l : Logger) : Derivation → Logger
  | .child more => l.child more
  | .correlation id => l.withCorrelationId id

/-- A logger derived from `l` in several steps. -/
def derived (l : Logger) (steps : List Derivation) : Logger := steps.foldl derive l

/-- What a call lets through. -/
def passed? (l : Logger) (c : Call) : Option Entry :=
  l.log? c.timestamp c.level c.message c.more c.error

/-- Puts out an entry: to a function, if there is one that takes entries, or else on the stream of
    its level. -/
def deliver (l : Logger) (handsOver : Bool) (e : Entry) : Except Failure Output :=
  if handsOver then .ok (.handed e) else (l.print e).map (.printed e.level.stream)

/-- What a call puts out, or the failure with which it ends. -/
def tell (l : Logger) (handsOver : Bool) (c : Call) : Except Failure (Option Output) :=
  match l.passed? c with
  | none => .ok none
  | some e => (l.deliver handsOver e).map some

end Logger

namespace Settings

def plain : Settings := ⟨some .info, none, none, false, false⟩

/-- The settings that the members of a configuration ask for, over the given ones. -/
def ofMembers (base : Settings) (ms : Members) : Settings :=
  { base with
    level := match ms.lookup "level" with
      | none => base.level
      | some v => v.string?.bind Level.ofName?
    service := ms.lookup "service"
    component := ms.lookup "component"
    pretty := match ms.lookup "pretty" with
      | none => base.pretty
      | some v => !v.isEmptyLike }

/-- The settings of a service's logger: the environment's wishes, over them the configuration's,
    and silence under test. -/
def forService (env : Environment) (ms : Members) : Settings :=
  let s := ofMembers { plain with level := some env.defaultLevel, pretty := env.wantsPretty } ms
  if env.isSilent then { s with level := some .fatal, silent := true } else s

end Settings

end Faultline.Log
