import EndpointLifecycle.Address.Bind
import EndpointLifecycle.Backoff
import EndpointLifecycle.Collaborator.Acceptors
import EndpointLifecycle.Collaborator.Socket
import EndpointLifecycle.Event
import EndpointLifecycle.Log
import EndpointLifecycle.Machine
import EndpointLifecycle.Options.Basic
import EndpointLifecycle.Statistics

/-!
# Listeners

A listener keeps one listening socket and accepts peers at it. While it is active it owns one
pending acceptor, which waits for the next peer, and the established connections, each of which was
the pending acceptor once.
-/

namespace EndpointLifecycle

namespace Listener

inductive State
  | idle
  | active
  /-- The socket could not be set up and is being stopped. -/
  | closing
  /-- The timer runs until the next attempt. -/
  | waiting
  /-- The timer is being stopped before the next attempt. -/
  | stoppingBackoff
  | stoppingAcceptor
  | stoppingSocket
  | stoppingConnections
  deriving DecidableEq

def State.name : State → String
  | idle => "Idle"
  | active => "Active"
  | closing => "Closing"
  | waiting => "Waiting"
  | stoppingBackoff => "StoppingBackoff"
  | stoppingAcceptor => "StoppingAcceptor"
  | stoppingSocket => "StoppingSocket"
  | stoppingConnections => "StoppingConnections"

inductive Event
  | socket (event : SocketEvent)
  | retry (event : TimerEvent)
  | connection (id : ConnectionId) (event : ConnectionEvent)
  deriving DecidableEq

def idText (id : ConnectionId) : String := "ConnectionId(" ++ toString id ++ ")"

def Event.text : Event → String
  | socket event => "Socket(" ++ event.text ++ ")"
  | retry event => "Retry(" ++ event.text ++ ")"
  | connection id event =>
    "Connection \x7b id: " ++ idText id ++ ", event: " ++ event.text ++ " \x7d"

/-- What a listener refuses. -/
inductive Refused
  | event (event : Event)
  /-- An event of a connection that is not in a position to report it. -/
  | ofConnection (id : ConnectionId) (event : ConnectionEvent)
  | start
  | advanceShutdown
  | destroy
  deriving DecidableEq

def Refused.text : Refused → String
  | event e => e.text
  | ofConnection id e => "(" ++ idText id ++ ", " ++ e.text ++ ")"
  | start => "\"start\""
  | advanceShutdown => "\"advance shutdown\""
  | destroy => "\"destroy\""

/-- Where it refuses it: in a state, or in a phase in which the state does not matter. -/
inductive Place
  | state (state : State)
  | phase (phase : Phase)
  deriving DecidableEq

def Place.text : Place → String
  | state s => s.name
  | phase p => p.name

structure Violation where
  refused : Refused
  place : Place
  deriving DecidableEq

def machineName : String := "listener endpoint"

def Violation.message (v : Violation) : String :=
  machineName ++ ": illegal event " ++ v.refused.text ++ " in state " ++ v.place.text

/-- The step of setting up a socket that failed after it was opened. -/
inductive Setup
  | bind
  | listen
  deriving DecidableEq

def Setup.name : Setup → String
  | bind => "bind"
  | listen => "listen"

/-- What a listener writes to its log. -/
inductive Notice
  | created
  | openFailed (addr : SocketAddr) (error : IoError)
  | setupFailed (operation : Setup) (error : IoError)
  | listening (addr : SocketAddr) (backlog : UInt32)
  | waiting (interval : Duration)
  | accepted (id : ConnectionId) (established : Nat)
  | broken (id : ConnectionId)
  | stopRequested (state : State)
  | lateEvent (id : ConnectionId) (event : ConnectionEvent)
  | stopped
  | destroyed
  | refused (violation : Violation)
  deriving DecidableEq

/-- The entry in the log of the listener at an address. -/
def Notice.entry (address : String) : Notice → Log.Entry
  | created => ⟨.debug, "listener endpoint created", [("endpoint", address)]⟩
  | openFailed addr error =>
    ⟨.warn, "failed to open listening socket, backing off",
      [("endpoint", address), ("addr", addr.text), ("error", error.message)]⟩
  | setupFailed operation error =>
    ⟨.warn, "listening socket setup failed, closing before retry",
      [("endpoint", address), ("operation", operation.name), ("error", error.message)]⟩
  | listening addr backlog =>
    ⟨.info, "listening",
      [("endpoint", address), ("addr", addr.text), ("backlog", toString backlog.toNat)]⟩
  | waiting interval =>
    ⟨.debug, "waiting before next listen attempt",
      [("endpoint", address), ("interval", interval.text)]⟩
  | accepted id established =>
    ⟨.debug, "connection accepted",
      [("endpoint", address), ("connection", toString id),
        ("established", toString established)]⟩
  | broken id =>
    ⟨.debug, "connection broken", [("endpoint", address), ("connection", toString id)]⟩
  | stopRequested state =>
    ⟨.debug, "stopping listener endpoint", [("endpoint", address), ("state", state.name)]⟩
  | lateEvent id event =>
    ⟨.trace, "late event from a retired connection",
      [("endpoint", address), ("connection", toString id), ("event", event.text)]⟩
  | stopped => ⟨.info, "listener endpoint stopped", [("endpoint", address)]⟩
  | destroyed => ⟨.debug, "listener endpoint destroyed", [("endpoint", address)]⟩
  | refused v =>
    ⟨.error, "endpoint state machine received an illegal event",
      [("machine", machineName), ("state", v.place.text), ("event", v.refused.text)]⟩

/-- What a listener is given to work with. -/
structure Parts where
  socket : Socket := {}
  timer : Timer := {}
  acceptors : Acceptors := {}
  stats : Statistics := {}

end Listener

structure Listener where
  address : String
  bind : BindAddress
  options : Options
  phase : Phase
  state : Listener.State
  socket : Socket
  retry : Backoff
  acceptors : Acceptors
  pending : Option ConnectionId
  /-- In the order in which they were accepted. -/
  established : List ConnectionId
  nextId : ConnectionId
  stats : Statistics
  log : List Listener.Notice

namespace Listener

/-- A listener that has not been started. -/
def fresh (address : String) (bind : BindAddress) (options : Options) (parts : Parts) : Listener :=
  { address, bind, options
    phase := .idle
    state := .idle
    socket := parts.socket
    retry := .new parts.timer options.reconnectInterval options.reconnectIntervalMax
    acceptors := parts.acceptors
    pending := none
    established := []
    nextId := 0
    stats := parts.stats
    log := [] }

def note (l : Listener) (notice : Notice) : Listener := { l with log := l.log ++ [notice] }

def refuse (l : Listener) (refused : Refused) (place : Place) : Outcome Violation Listener :=
  .violation ⟨refused, place⟩ (l.note (.refused ⟨refused, place⟩))

/-- Forgets an established connection. -/
def release (l : Listener) (id : ConnectionId) : Listener :=
  { l with established := l.established.filter (· ≠ id) }

def entries (l : Listener) : List Log.Entry := l.log.map (Notice.entry l.address)

end Listener

end EndpointLifecycle
