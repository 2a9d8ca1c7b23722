import EndpointLifecycle.Listener.Basic

/-!
# Stopping a listener

The shutdown passes three stages, each of which begins when the one before it has come to rest: the
timer and the pending acceptor are stopped, then the socket, then the established connections. It
goes on at every event, as far as it can, because it looks at what is idle and not at what was
reported.
-/

namespace EndpointLifecycle.Listener

/-- Stages of the shutdown that are still to be passed. -/
def State.stagesLeft : State → Nat
  | stoppingAcceptor => 3
  | stoppingSocket => 2
  | stoppingConnections => 1
  | _ => 0

/-- Passes one stage, unless the stage has to wait. -/
def passStage (l : Listener) : Option Listener :=
  match l.state with
  | .stoppingAcceptor =>
    if l.pending.all l.acceptors.isIdle && l.retry.isIdle then
      some { l with pending := none, socket := l.socket.stop, state := .stoppingSocket }
    else none
  | .stoppingSocket =>
    if l.socket.isIdle then
      some
        { l with
          acceptors := l.acceptors.stop l.established
          state := .stoppingConnections }
    else none
  | .stoppingConnections =>
    if l.established.isEmpty then
      some
        { l.note .stopped with
          state := .idle
          phase := .stopped
          stats := l.stats.markStopped }
    else none
  | _ => none

def advanceShutdown (l : Listener) : Outcome Violation Listener :=
  if l.state.stagesLeft = 0 then l.refuse .advanceShutdown (.state l.state)
  else .done (passStages passStage l.state.stagesLeft l)

/-- Stops the timer and the pending acceptor. -/
def beginStop (l : Listener) : Listener :=
  { l.note (.stopRequested l.state) with
    phase := .stopping
    retry := l.retry.stop
    acceptors := l.acceptors.stop l.pending.toList
    state := .stoppingAcceptor }

/-- Asks the listener to stop; has no effect unless it is active. -/
def stop (l : Listener) : Outcome Violation Listener :=
  if l.phase = .active then l.beginStop.advanceShutdown else .done l

/-- Takes in an event during the shutdown. Connections that are no longer owned may be late with
their last event, but a number that was never given out is refused. -/
def absorb (l : Listener) (event : Event) : Outcome Violation Listener :=
  match event with
  | .retry _ | .socket .shutdown | .socket .stopped => .done l
  | .socket _ => l.refuse (.event event) (.state l.state)
  | .connection id e =>
    if l.pending = some id then .done l
    else if id ∈ l.established then
      match e with
      | .stopped => .done (l.release id)
      | .error => .done l
      | .accepted => l.refuse (.ofConnection id e) (.state l.state)
    else if id < l.nextId then .done (l.note (.lateEvent id e))
    else l.refuse (.ofConnection id e) (.state l.state)

def onShutdown (l : Listener) (event : Event) : Outcome Violation Listener :=
  (l.absorb event).andThen advanceShutdown

end EndpointLifecycle.Listener
