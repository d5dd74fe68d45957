import Faultline.Log.Logger

/-! # Lines of the proxy's own log

What a component of the proxy has to say, before a logger makes an entry of it.
-/

namespace Faultline.Log

structure Line where
  component : String
  level : Level
  message : String
  context : Members
  error : Option Fault
  /-- The identifier of the request in whose course it is said. -/
  correlation : Option String
  deriving DecidableEq

namespace Line

def service : String := "fault-proxy"

/-- The logger of a component: it lets everything through. -/
def logger (component : String) : Logger :=
  Logger.make { Settings.plain with level := some .debug, service := some (.string service) }
    [("component", some (.string component))]

def entry? (l : Line) (timestamp : String) : Option Entry :=
  let logger := match l.correlation with
    | some id => (logger l.component).withCorrelationId id
    | none => logger l.component
  logger.log? timestamp l.level l.message (Context.ofMembers l.context) l.error

end Line

end Faultline.Log
