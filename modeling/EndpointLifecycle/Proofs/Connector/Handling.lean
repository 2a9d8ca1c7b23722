import EndpointLifecycle.Connector.Step

/-!
# What a connector can do in one request

The events that a connector at work goes on from are listed here, each with the connector that it
leads to, and so are the stages of the shutdown, in which no event is refused.
-/

namespace EndpointLifecycle.Connector

/-- The outcomes of binding an open socket and connecting it. -/
inductive Dialled (c : Connector) (localAddr remote : SocketAddr) : Connector → Prop
  | bindFailed {socket error} (bound : c.socket.bind localAddr = (socket, some error)) :
      Dialled c localAddr remote
        (giveUp { c.note (.bindFailed localAddr error) with socket } error.kind)
  | refused {named socket error} (bound : c.socket.bind localAddr = (named, none))
      (connected : named.connect remote = (socket, some error)) :
      Dialled c localAddr remote
        (giveUp
          { c.note (.connectRefused remote error) with
            socket
            stats := c.stats.record .connectErrors 1 }
          error.kind)
  | connecting {named socket} (bound : c.socket.bind localAddr = (named, none))
      (connected : named.connect remote = (socket, none)) :
      Dialled c localAddr remote
        { c.note (.connecting localAddr remote) with
          socket
          stats := c.stats.record .inProgressConnections 1
          state := .connecting }

theorem dialled_connectOpen (c : Connector) (localAddr remote : SocketAddr) :
    Dialled c localAddr remote (c.connectOpen localAddr remote) := by
  unfold connectOpen
  split
  case h_1 socket error bound => exact .bindFailed bound
  case h_2 named bound =>
    split
    case h_1 socket error connected => exact .refused bound connected
    case h_2 socket connected => exact .connecting bound connected

/-- The outcomes of an attempt to connect to an address that was looked up. -/
inductive Attempted (c : Connector) (ip : IpAddr) : Connector → Prop
  | openFailed {socket error} (opened : c.socket.start ip.family = (socket, some error)) :
      Attempted c ip
        (waitBeforeRetry
          { c.note (.openFailed (c.target.remoteAddr ip) error) with
            remote := some (c.target.remoteAddr ip)
            socket
            stats := c.stats.setError error.kind })
  | opened {socket c'} (opened : c.socket.start ip.family = (socket, none))
      (dialled : Dialled
        (sizeBuffers { c with remote := some (c.target.remoteAddr ip), socket })
        (c.target.localAddr ip) (c.target.remoteAddr ip) c') :
      Attempted c ip c'

theorem attempted_startConnecting (c : Connector) (ip : IpAddr) :
    Attempted c ip (c.startConnecting ip) := by
  unfold startConnecting
  dsimp only
  split
  case h_1 socket error opened => exact .openFailed opened
  case h_2 socket opened => exact .opened opened (dialled_connectOpen ..)

/-- The events that a connector at work goes on from. -/
inductive Handled (c : Connector) : Event → Connector → Prop
  | done (result : Resolution) (resolving : c.state = .resolving) :
      Handled c (.resolver (.done result))
        { c with resolved := some result, resolver := c.resolver.stop, state := .stoppingResolver }
  | found {ip} (stopping : c.state = .stoppingResolver) (resolved : c.resolved = some (.found ip)) :
      Handled c (.resolver .stopped) (startConnecting { c with resolved := none } ip)
  | unfound {kind} (stopping : c.state = .stoppingResolver)
      (resolved : c.resolved = some (.failed kind)) :
      Handled c (.resolver .stopped)
        (waitBeforeRetry { c.note (.resolveFailed c.target.host kind) with resolved := none })
  | connected (connecting : c.state = .connecting) : Handled c (.socket .connected) c.onConnected
  | connectFailed (connecting : c.state = .connecting) :
      Handled c (.socket .error) c.onConnectError
  | broken (active : c.state = .active) : Handled c (.session .error) c.onBroken
  | halfClosed (stopping : c.state = .stoppingSession ∨ c.state = .stoppingSocket) :
      Handled c (.socket .shutdown) c
  | ended (stopping : c.state = .stoppingSession) :
      Handled c (.session .stopped) { c with socket := c.socket.stop, state := .stoppingSocket }
  | closed (stopping : c.state = .stoppingSocket) : Handled c (.socket .stopped) c.waitBeforeRetry
  | timedOut (waiting : c.state = .waiting) :
      Handled c (.retry .timeout) { c with retry := c.retry.stop, state := .stoppingBackoff }
  | rested (stopping : c.state = .stoppingBackoff) : Handled c (.retry .stopped) c.startResolving

theorem handled_of_onResolved {c c' : Connector} (stopping : c.state = .stoppingResolver)
    (h : c.onResolved = .done c') : Handled c (.resolver .stopped) c' := by
  unfold onResolved at h
  split at h
  case h_1 ip resolved => cases h; exact .found stopping resolved
  case h_2 kind resolved => cases h; exact .unfound stopping resolved
  case h_3 => cases h

theorem handled_of_onEvent {c c' : Connector} {e : Event} (h : c.onEvent e = .done c') :
    Handled c e c' := by
  unfold onEvent at h
  split at h
  case h_1 result resolving => cases h; exact .done result resolving
  case h_2 stopping => exact handled_of_onResolved stopping h
  case h_3 connecting => cases h; exact .connected connecting
  case h_4 connecting => cases h; exact .connectFailed connecting
  case h_5 active => cases h; exact .broken active
  case h_6 stopping => cases h; exact .halfClosed (.inl stopping)
  case h_7 stopping => cases h; exact .ended stopping
  case h_8 stopping => cases h; exact .halfClosed (.inr stopping)
  case h_9 stopping => cases h; exact .closed stopping
  case h_10 waiting => cases h; exact .timedOut waiting
  case h_11 stopping => cases h; exact .rested stopping
  case h_12 => cases h

theorem onEvent_of_handled {c c' : Connector} {e : Event} (h : Handled c e c') :
    c.onEvent e = .done c' := by
  cases h with
  | done result resolving => simp [onEvent, resolving]
  | found stopping resolved => simp [onEvent, stopping, onResolved, resolved]
  | unfound stopping resolved => simp [onEvent, stopping, onResolved, resolved]
  | connected connecting | connectFailed connecting => simp [onEvent, connecting]
  | broken active => simp [onEvent, active]
  | halfClosed stopping => rcases stopping with stopping | stopping <;> simp [onEvent, stopping]
  | ended stopping | closed stopping | rested stopping => simp [onEvent, stopping]
  | timedOut waiting => simp [onEvent, waiting]

/-- The stages of the shutdown. -/
inductive Passed (c : Connector) : Connector → Prop
  | session (state : c.state = .stoppingSessionFinal) (sessionIdle : c.session.isIdle) :
      Passed c
        { c with
          retry := c.retry.stop
          socket := c.socket.stop
          resolver := c.resolver.stop
          state := .stopping }
  | others (state : c.state = .stopping) (timerIdle : c.retry.isIdle) (socketIdle : c.socket.isIdle)
      (resolverIdle : c.resolver.isIdle) :
      Passed c
        { c.note .stopped with
          state := .idle
          phase := .stopped
          stats := c.stats.markStopped }

theorem passed_of_passStage {c c' : Connector} (h : passStage c = some c') : Passed c c' := by
  unfold passStage at h
  split at h
  case h_1 state =>
    split at h
    case isTrue idle => cases h; exact .session state idle
    case isFalse => cases h
  case h_2 state =>
    split at h
    case isTrue idle =>
      obtain ⟨others, resolverIdle⟩ := Bool.and_eq_true_iff.1 idle
      obtain ⟨timerIdle, socketIdle⟩ := Bool.and_eq_true_iff.1 others
      cases h
      exact .others state timerIdle socketIdle resolverIdle
    case isFalse => cases h
  case h_3 => cases h

theorem passStage_of_passed {c c' : Connector} (h : Passed c c') : passStage c = some c' := by
  cases h with
  | session state sessionIdle => simp [passStage, state, sessionIdle]
  | others state timerIdle socketIdle resolverIdle =>
    simp [passStage, state, timerIdle, socketIdle, resolverIdle]

theorem stagesLeft_passStage {c c' : Connector} (h : passStage c = some c') :
    c.state.stagesLeft = c'.state.stagesLeft + 1 := by
  cases passed_of_passStage h with
  | session state | others state => simp [state, State.stagesLeft]

end EndpointLifecycle.Connector
