import Faultline.Call.History
import Faultline.Log.Level
import Faultline.Number.Numeral
import Faultline.Origin
import Faultline.Supplied
import Faultline.Url.Parser

/-! # Settings

How the proxy is set up. The environment says so as far as the program does not choose for itself.
Every variable has a default; the first one that says something unusable is refused.
-/

namespace Faultline

structure Settings where
  controlPort : Number
  proxyPort : Number
  host : String
  targetServer : Option String
  maxCallHistory : Number
  enableCors : Bool
  corsOrigins : List String
  deriving DecidableEq

namespace Settings

def defaultControlPort : Nat := 18081
def defaultProxyPort : Nat := 18080
def defaultHost : String := "0.0.0.0"

/-- What a variable says; the empty text says nothing. -/
def said? (env : Environment) (key : String) : Option String :=
  (env.lookup key).filter (!·.isEmpty)

/-- A number that satisfies `accepts`, or else a rejection that names what was expected. -/
def readNumber (env : Environment) (key expected : String) (fallback : Nat)
    (accepts : Number → Bool) : Except Rejection Number :=
  match said? env key with
  | none => .ok (.ofNat fallback)
  | some raw =>
    match (Number.ofNumeral? raw).filter accepts with
    | some n => .ok n
    | none => .error (.format key expected (some (.string raw)))

def isPort (n : Number) : Bool :=
  match n.toNat? with
  | some n => n ≤ 65535
  | none => false

def readPort (env : Environment) (key : String) (fallback : Nat) : Except Rejection Number :=
  readNumber env key "a port number between 0 and 65535" fallback isPort

/-- The written form of a web URL, or a rejection. -/
def readTarget (env : Environment) : Except Rejection (Option String) :=
  match said? env "TARGET_SERVER" with
  | none => .ok none
  | some raw =>
    match (Url.parse? raw).filter (·.scheme.isWeb) with
    | some url => .ok (some (String.ofList url.write))
    | none => .error (.format "TARGET_SERVER" "an http(s) URL" (some (.string raw)))

/-- The origins in a list with commas; blank entries do not count, and a blank list means the
    default. -/
def readOrigins (env : Environment) : List String :=
  match env.lookup "CORS_ORIGINS" with
  | none => Origin.defaultPatterns
  | some raw =>
    if (Text.trim raw.toList).isEmpty then Origin.defaultPatterns
    else (((Text.splitOnChar ',' raw.toList).map Text.trim).filter (!·.isEmpty)).map String.ofList

def ofEnvironment? (env : Environment) : Except Rejection Settings := do
  let controlPort ← readPort env "CONTROL_PORT" defaultControlPort
  let proxyPort ← readPort env "PROXY_PORT" defaultProxyPort
  let targetServer ← readTarget env
  let maxCallHistory ← readNumber env "MAX_CALL_HISTORY" "a positive integer"
    Call.History.defaultCapacity Number.isPositiveInteger
  .ok
    { controlPort, proxyPort, targetServer, maxCallHistory
      host := (said? env "HOST").getD defaultHost
      enableCors := env.lookup "ENABLE_CORS" != some "false"
      corsOrigins := readOrigins env }

/-- Settings that a program makes itself. -/
structure Choice where
  controlPort : Option Number
  proxyPort : Option Number
  host : Option String
  /-- Choosing `null` means to have no target. -/
  targetServer : Supplied String
  maxCallHistory : Option Number
  enableCors : Option Bool
  corsOrigins : Option (List String)

def choose (s : Settings) (c : Choice) : Settings where
  controlPort := c.controlPort.getD s.controlPort
  proxyPort := c.proxyPort.getD s.proxyPort
  host := c.host.getD s.host
  targetServer := if c.targetServer.isPresent then c.targetServer.get? else s.targetServer
  maxCallHistory := c.maxCallHistory.getD s.maxCallHistory
  enableCors := c.enableCors.getD s.enableCors
  corsOrigins := c.corsOrigins.getD s.corsOrigins

end Settings

end Faultline
