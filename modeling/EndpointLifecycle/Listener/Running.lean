import EndpointLifecycle.Listener.Basic

/-!
# A listener at work

A socket that cannot be opened, bound or listened at is given up, and after a wait the whole setup
is done again. From the moment the socket listens there is always one pending acceptor, and the
fault of one connection is the business of that connection alone.
-/

namespace EndpointLifecycle.Listener

def startAcceptor (l : Listener) : Listener :=
  { l with
    acceptors := l.acceptors.create l.nextId
    pending := some l.nextId
    nextId := l.nextId + 1 }

def waitBeforeRetry (l : Listener) : Listener :=
  let (interval, retry) := l.retry.start
  note { l with retry, state := .waiting } (.waiting interval)

/-- Gives up a socket that was opened. -/
def closeAfterFailure (l : Listener) (operation : Setup) (error : IoError) : Listener :=
  { l.note (.setupFailed operation error) with
    stats := (l.stats.record .bindErrors 1).setError error.kind
    socket := l.socket.stop
    state := .closing }

/-- Opens, binds and listens, and creates the first pending acceptor. -/
def startListening (l : Listener) : Listener :=
  let addr := l.bind.socketAddr l.options.ipv4Only
  match l.socket.start addr.ip.family with
  | (socket, some error) =>
    waitBeforeRetry
      { l.note (.openFailed addr error) with socket, stats := l.stats.setError error.kind }
  | (socket, none) =>
    match socket.bind addr with
    | (socket, some error) => closeAfterFailure { l with socket } .bind error
    | (socket, none) =>
      match socket.listen l.options.backlog with
      | (socket, some error) => closeAfterFailure { l with socket } .listen error
      | (socket, none) =>
        startAcceptor
          { l.note (.listening addr l.options.backlog) with
            socket
            stats := l.stats.clearError
            state := .active }

/-- Makes the pending acceptor an established connection and creates the next one. -/
def promote (l : Listener) (id : ConnectionId) : Listener :=
  let established := l.established ++ [id]
  startAcceptor
    { l.note (.accepted id established.length) with
      established
      stats := l.stats.record .acceptedConnections 1 }

/-- Stops a connection that reported an error. It stays established until it has stopped. -/
def recycle (l : Listener) (id : ConnectionId) : Listener :=
  { l.note (.broken id) with
    acceptors := l.acceptors.stop [id]
    stats := l.stats.record .brokenConnections 1 }

def onConnection (l : Listener) (id : ConnectionId) (event : ConnectionEvent) :
    Outcome Violation Listener :=
  let refusal := l.refuse (.ofConnection id event) (.state l.state)
  if l.pending = some id then if event = .accepted then .done (l.promote id) else refusal
  else
    match event with
    | .accepted => refusal
    | .error => if id ∈ l.established then .done (l.recycle id) else refusal
    | .stopped => if id ∈ l.established then .done (l.release id) else refusal

def onEvent (l : Listener) (event : Event) : Outcome Violation Listener :=
  match l.state, event with
  | .active, .connection id e => l.onConnection id e
  | .closing, .socket .shutdown => .done l
  | .closing, .socket .stopped => .done l.waitBeforeRetry
  | .waiting, .retry .timeout =>
    .done { l with retry := l.retry.stop, state := .stoppingBackoff }
  | .stoppingBackoff, .retry .stopped => .done l.startListening
  | _, _ => l.refuse (.event event) (.state l.state)

end EndpointLifecycle.Listener
