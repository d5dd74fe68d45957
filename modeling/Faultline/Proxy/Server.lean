import Faultline.Control.Server
import Faultline.Proxy.Basic
import Faultline.Settings

/-! # Starting and stopping

The server owns the socket of the control interface and drives an engine for the other traffic. Both
come up in this order and go down in the opposite one; the first step that fails ends the way.
-/

namespace Faultline

/-- A request to the operating system, or to an engine that is not this library's. -/
inductive SocketCall where
  | listen (host : String) (port : Number)
  | close (port : Number)
  | startEngine
  | stopEngine
  deriving DecidableEq

def SocketCall.text : SocketCall → String
  | listen host port => "listen " ++ host ++ ":" ++ port.text
  | close port => "close " ++ port.text
  | startEngine => "engine.start"
  | stopEngine => "engine.stop"

/-- What sockets fail with, if they do. -/
structure Network where
  listenFault : Option Failure
  closeFault : Option Failure
  deriving DecidableEq

/-- What takes in the traffic that is not control. -/
inductive Engine where
  /-- A proxy for HTTP. -/
  | http (port : Number) (host : String) (target : Option String)
  /-- Something else, which is only told to start and to stop. -/
  | foreign
  deriving DecidableEq

/-- An engine, and whether it is up. -/
structure DataPlane where
  engine : Engine
  isOpen : Bool
  deriving DecidableEq

/-- A way up or down: how it ended, and the calls that were made. -/
structure Transit (σ : Type) where
  result : Except Failure Unit
  calls : List SocketCall
  now : σ
  notices : List Notice

namespace Transit

variable {σ : Type}

def andThen (t : Transit σ) (next : σ → Transit σ) : Transit σ :=
  match t.result with
  | .error _ => t
  | .ok () =>
    let u := next t.now
    ⟨u.result, t.calls ++ u.calls, u.now, t.notices ++ u.notices⟩

def lift {τ : Type} (t : Transit σ) (put : σ → τ) : Transit τ :=
  ⟨t.result, t.calls, put t.now, t.notices⟩

/-- Makes a call that may fail; then something is so and told. -/
def call (c : SocketCall) (fault : Option Failure) (before after : σ) (notices : List Notice) :
    Transit σ :=
  match fault with
  | some f => ⟨.error f, [c], before, []⟩
  | none => ⟨.ok (), [c], after, notices⟩

end Transit

namespace DataPlane

/-- The port on which an engine listens while it does. -/
def port? (d : DataPlane) : Option Number :=
  match d.engine, d.isOpen with
  | .http port _ _, true => some port
  | _, _ => none

def start (n : Network) (d : DataPlane) : Transit DataPlane :=
  let opened := { d with isOpen := true }
  match d.engine with
  | .foreign => .call .startEngine none d opened []
  | .http port host target =>
    .call (.listen host port) n.listenFault opened opened
      [.line Exchange.component .info "Data plane listening"
        (Members.ofFields [("host", some (.string host)), ("port", some (.number port)),
          ("targetServer", target.map Json.string)])]

/-- Stops an engine. One that is down already stays so, and nothing is told. -/
def stop (n : Network) (d : DataPlane) : Transit DataPlane :=
  let closed := { d with isOpen := false }
  match d.engine with
  | .foreign => .call .stopEngine none d closed []
  | .http port _ _ =>
    if d.isOpen then
      .call (.close port) n.closeFault closed closed
        [.line Exchange.component .info "Data plane stopped" []]
    else ⟨.ok (), [], closed, []⟩

end DataPlane

/-- The server around the proxy. -/
structure Server where
  settings : Settings
  dataPlane : Option DataPlane
  isListening : Bool
  deriving DecidableEq

namespace Server

def component : String := "server"

/-- How the control interface of a server is set up. -/
def options (settings : Settings) : Control.Options where
  origins := if settings.enableCors then some settings.corsOrigins else none
  logged := true

def created (s : Server) (state : State) : List Notice :=
  let settings := s.settings
  (if settings.enableCors then
    [.line component .debug "CORS enabled" [("origins", .ofStrings settings.corsOrigins)]]
  else []) ++
  [Control.initialized state,
    .line component .info "Creating server"
      [("controlPort", .number settings.controlPort), ("proxyPort", .number settings.proxyPort),
        ("host", .string settings.host), ("maxCallHistory", .number settings.maxCallHistory),
        ("dataPlane", .string (if s.dataPlane.isSome then "attached" else "none"))]]

/-- A new server, the proxy that it serves, and what is told of the making. -/
structure Made where
  server : Server
  proxy : Proxy
  notices : List Notice

/-- Makes a server for the scenarios of the catalog, which starts its clock at `now`. -/
def make? (settings : Settings) (dataPlane : Option DataPlane) (decoder : Option Call.Decoder)
    (now : Instant) : Except Failure Made :=
  (State.fresh? Scenario.catalog settings.maxCallHistory).map fun state =>
    let server : Server := ⟨settings, dataPlane, false⟩
    ⟨server, .fresh state decoder now true, server.created state⟩

/-- Does something to the engine, if there is one. -/
def withDataPlane (s : Server) (act : DataPlane → Transit DataPlane) : Transit Server :=
  match s.dataPlane with
  | none => ⟨.ok (), [], s, []⟩
  | some d => (act d).lift fun d => { s with dataPlane := some d }

/-- Brings up the control interface, then the engine. -/
def start (n : Network) (s : Server) : Transit Server :=
  let settings := s.settings
  (Transit.call (.listen settings.host settings.controlPort) n.listenFault s
    { s with isListening := true }
    [.line component .info "Control API started"
      [("url", .string ("http://" ++ settings.host ++ ":" ++ settings.controlPort.text))]]).andThen
    fun s => s.withDataPlane (DataPlane.start n)

/-- Brings down the engine, then the control interface. -/
def stop (n : Network) (s : Server) : Transit Server :=
  let stopping : Transit Server := ⟨.ok (), [], s, [.line component .info "Stopping server..." []]⟩
  (stopping.andThen fun s => s.withDataPlane (DataPlane.stop n)).andThen fun s =>
    .call (.close s.settings.controlPort) n.closeFault s { s with isListening := false }
      [.line component .info "Server stopped" []]

end Server

end Faultline
