import EndpointLifecycle.Connector.Basic

/-!
# A connector at work

An attempt is a lookup followed by a connect. The result of a lookup is used when the resolver has
stopped. A socket that was opened is stopped before the wait for the next attempt, and the next
attempt begins with a lookup again.
-/

namespace EndpointLifecycle.Connector

def startResolving (c : Connector) : Connector :=
  { c.note (.resolving c.target.host) with
    resolver := c.resolver.start ⟨c.target.host, c.options.ipv4Only⟩
    state := .resolving }

def waitBeforeRetry (c : Connector) : Connector :=
  let (interval, retry) := c.retry.start
  note { c with retry, state := .waiting } (.waiting interval)

/-- Gives up a socket that was opened. -/
def giveUp (c : Connector) (kind : ErrorKind) : Connector :=
  { c with
    stats := c.stats.setError kind
    socket := c.socket.stop
    state := .stoppingSocket }

/-- Writes a buffer size that was not taken to the log; it does no harm. -/
def noteBuffer (c : Connector) (direction : Direction) : Option IoError → Connector
  | some error => c.note (.bufferFailed direction error)
  | none => c

def sizeBuffers (c : Connector) : Connector :=
  let (socket, sendError) := c.socket.setSendBuffer c.options.sendBuffer
  let (socket, recvError) := socket.setRecvBuffer c.options.recvBuffer
  ({ c with socket }.noteBuffer .send sendError).noteBuffer .receive recvError

/-- Binds an open socket and connects it. -/
def connectOpen (c : Connector) (localAddr remote : SocketAddr) : Connector :=
  match c.socket.bind localAddr with
  | (socket, some error) =>
    giveUp { c.note (.bindFailed localAddr error) with socket } error.kind
  | (socket, none) =>
    match socket.connect remote with
    | (socket, some error) =>
      giveUp
        { c.note (.connectRefused remote error) with
          socket
          stats := c.stats.record .connectErrors 1 }
        error.kind
    | (socket, none) =>
      { c.note (.connecting localAddr remote) with
        socket
        stats := c.stats.record .inProgressConnections 1
        state := .connecting }

def startConnecting (c : Connector) (ip : IpAddr) : Connector :=
  let remote := c.target.remoteAddr ip
  let c := { c with remote := some remote }
  match c.socket.start ip.family with
  | (socket, some error) =>
    waitBeforeRetry
      { c.note (.openFailed remote error) with socket, stats := c.stats.setError error.kind }
  | (socket, none) => ({ c with socket }.sizeBuffers).connectOpen (c.target.localAddr ip) remote

/-- Takes the result of a lookup whose resolver has stopped. -/
def onResolved (c : Connector) : Outcome Violation Connector :=
  match c.resolved with
  | some (.found ip) => .done (startConnecting { c with resolved := none } ip)
  | some (.failed kind) =>
    .done
      (waitBeforeRetry { c.note (.resolveFailed c.target.host kind) with resolved := none })
  | none => c.refuse .missingResult (.state c.state)

def onConnected (c : Connector) : Connector :=
  { c.note (.connected c.remote) with
    session := c.session.start
    stats :=
      ((c.stats.record .inProgressConnections (-1)).record .establishedConnections 1).clearError
    state := .active }

def onConnectError (c : Connector) : Connector :=
  let kind := c.socket.lastError.getD .other
  giveUp
    { c.note (.connectFailed c.remote kind) with
      stats := (c.stats.record .inProgressConnections (-1)).record .connectErrors 1 }
    kind

def onBroken (c : Connector) : Connector :=
  { c.note .broken with
    session := c.session.stop
    stats := c.stats.record .brokenConnections 1
    state := .stoppingSession }

def onEvent (c : Connector) (event : Event) : Outcome Violation Connector :=
  match c.state, event with
  | .resolving, .resolver (.done result) =>
    .done
      { c with resolved := some result, resolver := c.resolver.stop, state := .stoppingResolver }
  | .stoppingResolver, .resolver .stopped => c.onResolved
  | .connecting, .socket .connected => .done c.onConnected
  | .connecting, .socket .error => .done c.onConnectError
  | .active, .session .error => .done c.onBroken
  | .stoppingSession, .socket .shutdown => .done c
  | .stoppingSession, .session .stopped =>
    .done { c with socket := c.socket.stop, state := .stoppingSocket }
  | .stoppingSocket, .socket .shutdown => .done c
  | .stoppingSocket, .socket .stopped => .done c.waitBeforeRetry
  | .waiting, .retry .timeout =>
    .done { c with retry := c.retry.stop, state := .stoppingBackoff }
  | .stoppingBackoff, .retry .stopped => .done c.startResolving
  | _, _ => c.refuse (.event event) (.state c.state)

end EndpointLifecycle.Connector
