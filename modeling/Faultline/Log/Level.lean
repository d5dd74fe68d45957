/-! # Log levels

Five levels in ascending order, and what the environment says about which of them count.
-/

namespace Faultline.Log

inductive Level where
  | debug
  | info
  | warn
  | error
  | fatal
  deriving DecidableEq, Repr

namespace Level

def rank : Level → Nat
  | debug => 10
  | info => 20
  | warn => 30
  | error => 40
  | fatal => 50

def name : Level → String
  | debug => "debug"
  | info => "info"
  | warn => "warn"
  | error => "error"
  | fatal => "fatal"

def all : List Level := [debug, info, warn, error, fatal]

def ofName? (s : String) : Option Level := all.find? (·.name == s)

/-- The stream on which lines of a level are printed. -/
def stream : Level → String
  | fatal => "error"
  | l => l.name

end Level

end Faultline.Log

namespace Faultline

abbrev Environment := List (String × String)

namespace Environment

def isTest (env : Environment) : Bool :=
  env.lookup "NODE_ENV" == some "test" || env.lookup "VITEST" == some "true" ||
    (env.lookup "JEST_WORKER_ID").isSome

/-- The level that is asked for; the empty text asks for nothing. -/
def askedLevel? (env : Environment) : Option String :=
  (env.lookup "LOG_LEVEL").filter (!·.isEmpty)

/-- Whether nothing at all is logged: under test, unless a level is asked for. -/
def isSilent (env : Environment) : Bool := env.isTest && env.askedLevel?.isNone

/-- The level from which on lines are logged if the configuration does not say. -/
def defaultLevel (env : Environment) : Log.Level :=
  if env.isSilent then .fatal else (env.askedLevel?.bind Log.Level.ofName?).getD .info

def wantsPretty (env : Environment) : Bool := env.lookup "NODE_ENV" != some "production"

end Environment

end Faultline
