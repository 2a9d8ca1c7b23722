import EndpointLifecycle.Connector.Step
import EndpointLifecycle.Listener.Step

/-!
# Endpoints of either role

Whoever keeps endpoints asks them to stop and destroys them when they have, without caring for their
role.
-/

namespace EndpointLifecycle

inductive Role
  | listener
  | connector
  deriving DecidableEq

def Role.name : Role → String
  | listener => "listener"
  | connector => "connector"

inductive Endpoint
  | listener (l : Listener)
  | connector (c : Connector)

namespace Endpoint

inductive Violation
  | listener (v : Listener.Violation)
  | connector (v : Connector.Violation)
  deriving DecidableEq

def Violation.message : Violation → String
  | listener v => v.message
  | connector v => v.message

def ofListener : Outcome Listener.Violation Listener → Outcome Violation Endpoint
  | .done l => .done (listener l)
  | .violation v l => .violation (.listener v) (listener l)

def ofConnector : Outcome Connector.Violation Connector → Outcome Violation Endpoint
  | .done c => .done (connector c)
  | .violation v c => .violation (.connector v) (connector c)

def role : Endpoint → Role
  | listener _ => .listener
  | connector _ => .connector

/-- The address as it was given at creation. -/
def address : Endpoint → String
  | listener l => l.address
  | connector c => c.address

def isStopped : Endpoint → Bool
  | listener l => l.isStopped
  | connector c => c.isStopped

def stateName : Endpoint → String
  | listener l => l.state.name
  | connector c => c.state.name

def entries : Endpoint → List Log.Entry
  | listener l => l.entries
  | connector c => c.entries

/-- Asks an endpoint to stop. It goes on taking events until it has stopped. -/
def stop : Endpoint → Outcome Violation Endpoint
  | listener l => ofListener l.stop
  | connector c => ofConnector (.done c.stop)

/-- Only an endpoint that has stopped may be destroyed. -/
def destroy : Endpoint → Outcome Violation Endpoint
  | listener l => ofListener l.destroy
  | connector c => ofConnector c.destroy

end Endpoint

end EndpointLifecycle
