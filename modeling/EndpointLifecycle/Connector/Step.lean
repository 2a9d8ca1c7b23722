import EndpointLifecycle.Connector.Running
import EndpointLifecycle.Connector.Shutdown

/-!
# Requests to a connector

A connector is created for an address, takes the events of its collaborators, is asked to stop, and
is destroyed when it has stopped. `step` also knows what happens around the connector: that a stop
is completed and that a call on the socket is to fail.
-/

namespace EndpointLifecycle.Connector

def start (c : Connector) : Outcome Violation Connector :=
  if c.phase = .idle then .done (startResolving { c.note .created with phase := .active })
  else c.refuse .start (.phase c.phase)

/-- Checks the address and begins to look up the peer. -/
def create (address : String) (options : Options) (parts : Parts) :
    Except ConfigError (Outcome Violation Connector) :=
  (ConnectAddress.parse address options.ipv4Only).map fun target =>
    (fresh address target options parts).start

def handle (c : Connector) (event : Event) : Outcome Violation Connector :=
  match c.phase with
  | .active => c.onEvent event
  | .stopping => .done (c.onShutdown event)
  | .idle | .stopped => c.refuse (.event event) (.phase c.phase)

def isStopped (c : Connector) : Bool := c.phase = .stopped

def destroy (c : Connector) : Outcome Violation Connector :=
  if c.isStopped then .done (c.note .destroyed) else c.refuse .destroy (.state c.state)

inductive Collaborator
  | socket
  | timer
  | resolver
  | session
  deriving DecidableEq

def activity (c : Connector) : Collaborator → Activity
  | .socket => c.socket.activity
  | .timer => c.retry.timer.activity
  | .resolver => c.resolver.activity
  | .session => c.session

def completeStop (c : Connector) : Collaborator → Connector
  | .socket => { c with socket := c.socket.completeStop }
  | .timer => { c with retry := c.retry.completeStop }
  | .resolver => { c with resolver := c.resolver.completeStop }
  | .session => { c with session := c.session.completeStop }

inductive Action
  | event (event : Event)
  | stop
  | completeStop (collaborator : Collaborator)
  | inject (point : FaultPoint) (kind : ErrorKind)
  deriving DecidableEq

def step (c : Connector) : Action → Outcome Violation Connector
  | .event e => c.handle e
  | .stop => .done c.stop
  | .completeStop x => .done (c.completeStop x)
  | .inject point kind => .done { c with socket := c.socket.inject point kind }

/-- Carries out actions up to the first violation. -/
def run (c : Connector) (actions : List Action) : Outcome Violation Connector := .run step c actions

end EndpointLifecycle.Connector
