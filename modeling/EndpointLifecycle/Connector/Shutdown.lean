import EndpointLifecycle.Connector.Basic

/-!
# Stopping a connector

The shutdown passes two stages: the session is stopped if it is at work, and when it is idle the
timer, the socket and the resolver are stopped side by side. No event is out of place during the
shutdown; each of them only makes the connector look again at what is idle.
-/

namespace EndpointLifecycle.Connector

/-- Stages of the shutdown that are still to be passed. -/
def State.stagesLeft : State → Nat
  | stoppingSessionFinal => 2
  | stopping => 1
  | _ => 0

/-- Passes one stage, unless the stage has to wait. -/
def passStage (c : Connector) : Option Connector :=
  match c.state with
  | .stoppingSessionFinal =>
    if c.session.isIdle then
      some
        { c with
          retry := c.retry.stop
          socket := c.socket.stop
          resolver := c.resolver.stop
          state := .stopping }
    else none
  | .stopping =>
    if c.retry.isIdle && c.socket.isIdle && c.resolver.isIdle then
      some
        { c.note .stopped with
          state := .idle
          phase := .stopped
          stats := c.stats.markStopped }
    else none
  | _ => none

def advanceShutdown (c : Connector) : Connector := passStages passStage c.state.stagesLeft c

/-- What the statistics lose by a stop in a state: a connection that works is dropped, one that is
being made is no longer in progress. -/
def statsAtStop (stats : Statistics) : State → Statistics
  | .active => stats.record .droppedConnections 1
  | .connecting => stats.record .inProgressConnections (-1)
  | _ => stats

/-- Stops the session if it is at work. -/
def beginStop (c : Connector) : Connector :=
  { c.note (.stopRequested c.state) with
    phase := .stopping
    stats := statsAtStop c.stats c.state
    session := if c.session.isIdle then c.session else c.session.stop
    state := .stoppingSessionFinal }

/-- Asks the connector to stop; has no effect unless it is active. -/
def stop (c : Connector) : Connector :=
  if c.phase = .active then c.beginStop.advanceShutdown else c

def onShutdown (c : Connector) (event : Event) : Connector :=
  (c.note (.whileStopping event)).advanceShutdown

end EndpointLifecycle.Connector
