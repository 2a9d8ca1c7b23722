import EndpointLifecycle.Address.Connect
import EndpointLifecycle.Backoff
import EndpointLifecycle.Collaborator.Resolver
import EndpointLifecycle.Collaborator.Socket
import EndpointLifecycle.Event
import EndpointLifecycle.Log
import EndpointLifecycle.Machine
import EndpointLifecycle.Options.Basic
import EndpointLifecycle.Statistics

/-!
# Connectors

A connector keeps one connection to a peer. It looks up the peer, connects to it, and starts all
over with a new lookup when an attempt has failed or the connection breaks.
-/

namespace EndpointLifecycle

namespace Connector

inductive State
  | idle
  | resolving
  /-- The result is there and the resolver is being stopped. -/
  | stoppingResolver
  | connecting
  | active
  /-- The session reported an error and is being stopped. -/
  | stoppingSession
  /-- The socket is being stopped before the wait. -/
  | stoppingSocket
  /-- The timer runs until the next attempt. -/
  | waiting
  | stoppingBackoff
  /-- The shutdown waits for the session. -/
  | stoppingSessionFinal
  /-- The shutdown waits for timer, socket and resolver. -/
  | stopping
  deriving DecidableEq

def State.name : State → String
  | idle => "Idle"
  | resolving => "Resolving"
  | stoppingResolver => "StoppingResolver"
  | connecting => "Connecting"
  | active => "Active"
  | stoppingSession => "StoppingSession"
  | stoppingSocket => "StoppingSocket"
  | waiting => "Waiting"
  | stoppingBackoff => "StoppingBackoff"
  | stoppingSessionFinal => "StoppingSessionFinal"
  | stopping => "Stopping"

inductive Event
  | socket (event : SocketEvent)
  | retry (event : TimerEvent)
  | resolver (event : ResolverEvent)
  | session (event : ConnectionEvent)
  deriving DecidableEq

def Event.text : Event → String
  | socket event => "Socket(" ++ event.text ++ ")"
  | retry event => "Retry(" ++ event.text ++ ")"
  | resolver event => "Resolver(" ++ event.text ++ ")"
  | session event => "Session(" ++ event.text ++ ")"

/-- What a connector refuses. -/
inductive Refused
  | event (event : Event)
  | start
  | missingResult
  | destroy
  deriving DecidableEq

def Refused.text : Refused → String
  | event e => e.text
  | start => "\"start\""
  | missingResult => "\"resolver stopped without a result\""
  | destroy => "\"destroy\""

/-- Where it refuses it: in a state, or in a phase in which the state does not matter. -/
inductive Place
  | state (state : State)
  | phase (phase : Phase)
  deriving DecidableEq

def Place.text : Place → String
  | state s => s.name
  | phase p => p.name

structure Violation where
  refused : Refused
  place : Place
  deriving DecidableEq

def machineName : String := "connector endpoint"

def Violation.message (v : Violation) : String :=
  machineName ++ ": illegal event " ++ v.refused.text ++ " in state " ++ v.place.text

inductive Direction
  | send
  | receive
  deriving DecidableEq

def Direction.name : Direction → String
  | send => "send"
  | receive => "receive"

/-- What a connector writes to its log. -/
inductive Notice
  | created
  | resolving (host : String)
  | resolveFailed (host : String) (kind : ErrorKind)
  | openFailed (remote : SocketAddr) (error : IoError)
  | bufferFailed (direction : Direction) (error : IoError)
  | bindFailed (localAddr : SocketAddr) (error : IoError)
  | connectRefused (remote : SocketAddr) (error : IoError)
  | connecting (localAddr remote : SocketAddr)
  | connected (remote : Option SocketAddr)
  | connectFailed (remote : Option SocketAddr) (kind : ErrorKind)
  | broken
  | waiting (interval : Duration)
  | stopRequested (state : State)
  | whileStopping (event : Event)
  | stopped
  | destroyed
  | refused (violation : Violation)
  deriving DecidableEq

def remoteText : Option SocketAddr → String
  | some addr => "Some(" ++ addr.text ++ ")"
  | none => "None"

/-- The entry in the log of the connector to an address. -/
def Notice.entry (address : String) : Notice → Log.Entry
  | created => ⟨.debug, "connector endpoint created", [("endpoint", address)]⟩
  | resolving host => ⟨.debug, "resolving peer", [("endpoint", address), ("host", host)]⟩
  | resolveFailed host kind =>
    ⟨.warn, "failed to resolve peer, backing off",
      [("endpoint", address), ("host", host), ("error", kind.name)]⟩
  | openFailed remote error =>
    ⟨.warn, "failed to open socket, backing off",
      [("endpoint", address), ("remote", remote.text), ("error", error.message)]⟩
  | bufferFailed direction error =>
    ⟨.warn, "ignoring " ++ direction.name ++ " buffer size failure",
      [("endpoint", address), ("error", error.message)]⟩
  | bindFailed localAddr error =>
    ⟨.warn, "failed to bind local address",
      [("endpoint", address), ("local", localAddr.text), ("error", error.message)]⟩
  | connectRefused remote error =>
    ⟨.warn, "failed to issue connect",
      [("endpoint", address), ("remote", remote.text), ("error", error.message)]⟩
  | connecting localAddr remote =>
    ⟨.debug, "connecting",
      [("endpoint", address), ("local", localAddr.text), ("remote", remote.text)]⟩
  | connected remote =>
    ⟨.info, "connected", [("endpoint", address), ("remote", remoteText remote)]⟩
  | connectFailed remote kind =>
    ⟨.warn, "connect failed",
      [("endpoint", address), ("remote", remoteText remote), ("error", kind.name)]⟩
  | broken => ⟨.debug, "connection broken, reconnecting", [("endpoint", address)]⟩
  | waiting interval =>
    ⟨.debug, "waiting before next connect attempt",
      [("endpoint", address), ("interval", interval.text)]⟩
  | stopRequested state =>
    ⟨.debug, "stopping connector endpoint", [("endpoint", address), ("state", state.name)]⟩
  | whileStopping event =>
    ⟨.trace, "event while stopping", [("endpoint", address), ("event", event.text)]⟩
  | stopped => ⟨.info, "connector endpoint stopped", [("endpoint", address)]⟩
  | destroyed => ⟨.debug, "connector endpoint destroyed", [("endpoint", address)]⟩
  | refused v =>
    ⟨.error, "endpoint state machine received an illegal event",
      [("machine", machineName), ("state", v.place.text), ("event", v.refused.text)]⟩

/-- What a connector is given to work with. -/
structure Parts where
  socket : Socket := {}
  timer : Timer := {}
  resolver : Resolver := {}
  session : Activity := {}
  stats : Statistics := {}

end Connector

structure Connector where
  address : String
  target : ConnectAddress
  options : Options
  phase : Phase
  state : Connector.State
  socket : Socket
  retry : Backoff
  resolver : Resolver
  /-- A result that waits for the resolver to stop. -/
  resolved : Option Resolution
  /-- The remote end of the latest attempt to connect. -/
  remote : Option SocketAddr
  session : Activity
  stats : Statistics
  log : List Connector.Notice

namespace Connector

/-- A connector that has not been started. -/
def fresh (address : String) (target : ConnectAddress) (options : Options) (parts : Parts) :
    Connector :=
  { address, target, options
    phase := .idle
    state := .idle
    socket := parts.socket
    retry := .new parts.timer options.reconnectInterval options.reconnectIntervalMax
    resolver := parts.resolver
    resolved := none
    remote := none
    session := parts.session
    stats := parts.stats
    log := [] }

def note (c : Connector) (notice : Notice) : Connector := { c with log := c.log ++ [notice] }

def refuse (c : Connector) (refused : Refused) (place : Place) : Outcome Violation Connector :=
  .violation ⟨refused, place⟩ (c.note (.refused ⟨refused, place⟩))

def entries (c : Connector) : List Log.Entry := c.log.map (Notice.entry c.address)

end Connector

end EndpointLifecycle
