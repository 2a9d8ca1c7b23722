import EndpointLifecycle.ErrorKind
import EndpointLifecycle.Ip.Writer

/-!
# Events of collaborators

What a collaborator reports to its endpoint, and how the log writes it.
-/

namespace EndpointLifecycle

inductive SocketEvent
  | connected
  | error
  /-- One direction is closed. -/
  | shutdown
  | stopped
  deriving DecidableEq

def SocketEvent.text : SocketEvent → String
  | connected => "Connected"
  | error => "Error"
  | shutdown => "Shutdown"
  | stopped => "Stopped"

inductive TimerEvent
  | timeout
  | stopped
  deriving DecidableEq

def TimerEvent.text : TimerEvent → String
  | timeout => "Timeout"
  | stopped => "Stopped"

inductive ConnectionEvent
  | accepted
  | error
  | stopped
  deriving DecidableEq

def ConnectionEvent.text : ConnectionEvent → String
  | accepted => "Accepted"
  | error => "Error"
  | stopped => "Stopped"

/-- What came of a lookup. -/
inductive Resolution
  | found (ip : IpAddr)
  | failed (kind : ErrorKind)
  deriving DecidableEq

def Resolution.text : Resolution → String
  | found ip => "Ok(" ++ ip.text ++ ")"
  | failed kind => "Err(" ++ kind.name ++ ")"

inductive ResolverEvent
  | done (result : Resolution)
  | stopped
  deriving DecidableEq

def ResolverEvent.text : ResolverEvent → String
  | done result => "Done(" ++ result.text ++ ")"
  | stopped => "Stopped"

end EndpointLifecycle
