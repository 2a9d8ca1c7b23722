import EndpointLifecycle.Listener.Running
import EndpointLifecycle.Listener.Shutdown

/-!
# Requests to a listener

A listener is created at an address, takes the events of its collaborators, is asked to stop, and is
destroyed when it has stopped. `step` also knows what happens around the listener: that a stop is
completed and that the next call on the socket is to fail.
-/

namespace EndpointLifecycle.Listener

def start (l : Listener) : Outcome Violation Listener :=
  if l.phase = .idle then .done (startListening { l.note .created with phase := .active })
  else l.refuse .start (.phase l.phase)

/-- Checks the address and begins to listen at it. -/
def create (address : String) (options : Options) (parts : Parts) :
    Except ConfigError (Outcome Violation Listener) :=
  (BindAddress.parse address options.ipv4Only).map fun bind =>
    (fresh address bind options parts).start

def handle (l : Listener) (event : Event) : Outcome Violation Listener :=
  match l.phase with
  | .active => l.onEvent event
  | .stopping => l.onShutdown event
  | .idle | .stopped => l.refuse (.event event) (.phase l.phase)

def isStopped (l : Listener) : Bool := l.phase = .stopped

def destroy (l : Listener) : Outcome Violation Listener :=
  if l.isStopped then .done (l.note .destroyed) else l.refuse .destroy (.state l.state)

inductive Collaborator
  | socket
  | timer
  | acceptor (id : ConnectionId)
  deriving DecidableEq

/-- The activity of a collaborator, if there is one. -/
def activity? (l : Listener) : Collaborator → Option Activity
  | .socket => some l.socket.activity
  | .timer => some l.retry.timer.activity
  | .acceptor id => l.acceptors.find? id

def completeStop (l : Listener) : Collaborator → Listener
  | .socket => { l with socket := l.socket.completeStop }
  | .timer => { l with retry := l.retry.completeStop }
  | .acceptor id => { l with acceptors := l.acceptors.completeStop id }

inductive Action
  | event (event : Event)
  | stop
  | completeStop (collaborator : Collaborator)
  | inject (point : FaultPoint) (kind : ErrorKind)
  deriving DecidableEq

def step (l : Listener) : Action → Outcome Violation Listener
  | .event e => l.handle e
  | .stop => l.stop
  | .completeStop c => .done (l.completeStop c)
  | .inject point kind => .done { l with socket := l.socket.inject point kind }

/-- Carries out actions up to the first violation. -/
def run (l : Listener) (actions : List Action) : Outcome Violation Listener := .run step l actions

end EndpointLifecycle.Listener
