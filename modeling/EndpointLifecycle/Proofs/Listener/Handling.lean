import EndpointLifecycle.Listener.Step

/-!
# What a listener can do in one request

Every event that a listener goes on from is listed here with the listener that it leads to, once
for the events it handles at work and once for those it takes in during the shutdown. All that is
proved about runs is proved by these cases.
-/

namespace EndpointLifecycle.Listener

/-- The address at which the listener listens. -/
def listenAddr (l : Listener) : SocketAddr := l.bind.socketAddr l.options.ipv4Only

/-- The outcomes of an attempt to listen. -/
inductive SetUp (l : Listener) : Listener → Prop
  | openFailed {socket error}
      (opened : l.socket.start l.listenAddr.ip.family = (socket, some error)) :
      SetUp l
        (waitBeforeRetry
          { l.note (.openFailed l.listenAddr error) with
            socket
            stats := l.stats.setError error.kind })
  | bindFailed {fresh socket error} (opened : l.socket.start l.listenAddr.ip.family = (fresh, none))
      (bound : fresh.bind l.listenAddr = (socket, some error)) :
      SetUp l (closeAfterFailure { l with socket } .bind error)
  | listenFailed {fresh named socket error}
      (opened : l.socket.start l.listenAddr.ip.family = (fresh, none))
      (bound : fresh.bind l.listenAddr = (named, none))
      (listened : named.listen l.options.backlog = (socket, some error)) :
      SetUp l (closeAfterFailure { l with socket } .listen error)
  | listening {fresh named socket}
      (opened : l.socket.start l.listenAddr.ip.family = (fresh, none))
      (bound : fresh.bind l.listenAddr = (named, none))
      (listened : named.listen l.options.backlog = (socket, none)) :
      SetUp l
        (startAcceptor
          { l.note (.listening l.listenAddr l.options.backlog) with
            socket
            stats := l.stats.clearError
            state := .active })

theorem setUp_startListening (l : Listener) : SetUp l l.startListening := by
  unfold startListening
  dsimp only
  split
  case h_1 socket error opened => exact .openFailed opened
  case h_2 fresh opened =>
    split
    case h_1 socket error bound => exact .bindFailed opened bound
    case h_2 named bound =>
      split
      case h_1 socket error listened => exact .listenFailed opened bound listened
      case h_2 socket listened => exact .listening opened bound listened

/-- The events that a listener at work goes on from. -/
inductive Handled (l : Listener) : Event → Listener → Prop
  | accepted {id} (active : l.state = .active) (pending : l.pending = some id) :
      Handled l (.connection id .accepted) (l.promote id)
  | broken {id} (active : l.state = .active) (other : l.pending ≠ some id)
      (established : id ∈ l.established) : Handled l (.connection id .error) (l.recycle id)
  | ended {id} (active : l.state = .active) (other : l.pending ≠ some id)
      (established : id ∈ l.established) : Handled l (.connection id .stopped) (l.release id)
  | halfClosed (closing : l.state = .closing) : Handled l (.socket .shutdown) l
  | closed (closing : l.state = .closing) : Handled l (.socket .stopped) l.waitBeforeRetry
  | timedOut (waiting : l.state = .waiting) :
      Handled l (.retry .timeout) { l with retry := l.retry.stop, state := .stoppingBackoff }
  | rested (stopping : l.state = .stoppingBackoff) : Handled l (.retry .stopped) l.startListening

theorem handled_of_onConnection {l l' : Listener} {id : ConnectionId} {e : ConnectionEvent}
    (active : l.state = .active) (h : l.onConnection id e = .done l') :
    Handled l (.connection id e) l' := by
  unfold onConnection at h
  dsimp only at h
  split at h
  case isTrue pending =>
    split at h
    case isTrue accepted =>
      subst accepted
      cases h
      exact .accepted active pending
    case isFalse => cases h
  case isFalse other =>
    cases e with
    | accepted => cases h
    | error =>
      dsimp only at h
      split at h
      case isTrue established => cases h; exact .broken active other established
      case isFalse => cases h
    | stopped =>
      dsimp only at h
      split at h
      case isTrue established => cases h; exact .ended active other established
      case isFalse => cases h

theorem handled_of_onEvent {l l' : Listener} {e : Event} (h : l.onEvent e = .done l') :
    Handled l e l' := by
  unfold onEvent at h
  split at h
  case h_1 id event active => exact handled_of_onConnection active h
  case h_2 closing => cases h; exact .halfClosed closing
  case h_3 closing => cases h; exact .closed closing
  case h_4 waiting => cases h; exact .timedOut waiting
  case h_5 stopping => cases h; exact .rested stopping
  case h_6 => cases h

theorem onEvent_of_handled {l l' : Listener} {e : Event} (h : Handled l e l') :
    l.onEvent e = .done l' := by
  cases h with
  | accepted active pending => simp [onEvent, active, onConnection, pending]
  | broken active other established => simp [onEvent, active, onConnection, other, established]
  | ended active other established => simp [onEvent, active, onConnection, other, established]
  | halfClosed closing => simp [onEvent, closing]
  | closed closing => simp [onEvent, closing]
  | timedOut waiting => simp [onEvent, waiting]
  | rested stopping => simp [onEvent, stopping]

/-- The events that a listener takes in during the shutdown. -/
inductive Absorbed (l : Listener) : Event → Listener → Prop
  | retry (e : TimerEvent) : Absorbed l (.retry e) l
  | halfClosed : Absorbed l (.socket .shutdown) l
  | closed : Absorbed l (.socket .stopped) l
  | pending {id} (e : ConnectionEvent) (pending : l.pending = some id) :
      Absorbed l (.connection id e) l
  | ended {id} (other : l.pending ≠ some id) (established : id ∈ l.established) :
      Absorbed l (.connection id .stopped) (l.release id)
  | broken {id} (other : l.pending ≠ some id) (established : id ∈ l.established) :
      Absorbed l (.connection id .error) l
  | late {id} (e : ConnectionEvent) (other : l.pending ≠ some id) (gone : id ∉ l.established)
      (known : id < l.nextId) : Absorbed l (.connection id e) (l.note (.lateEvent id e))

theorem absorbed_of_absorb {l l' : Listener} {e : Event} (h : l.absorb e = .done l') :
    Absorbed l e l' := by
  unfold absorb at h
  split at h
  case h_1 e => cases h; exact .retry e
  case h_2 => cases h; exact .halfClosed
  case h_3 => cases h; exact .closed
  case h_4 => cases h
  case h_5 id e =>
    split at h
    case isTrue pending => cases h; exact .pending e pending
    case isFalse other =>
      split at h
      case isTrue established =>
        cases e with
        | stopped => cases h; exact .ended other established
        | error => cases h; exact .broken other established
        | accepted => cases h
      case isFalse gone =>
        split at h
        case isTrue known => cases h; exact .late e other gone known
        case isFalse => cases h

theorem absorb_of_absorbed {l l' : Listener} {e : Event} (h : Absorbed l e l') :
    l.absorb e = .done l' := by
  cases h with
  | retry | halfClosed | closed => rfl
  | pending e pending => simp [absorb, pending]
  | ended other established => simp [absorb, other, established]
  | broken other established => simp [absorb, other, established]
  | late e other gone known => simp [absorb, other, gone, known]

theorem state_absorbed {l l' : Listener} {e : Event} (h : Absorbed l e l') :
    l'.state = l.state ∧ l'.nextId = l.nextId := by
  cases h <;> exact ⟨rfl, rfl⟩

/-- The stages of the shutdown. -/
inductive Passed (l : Listener) : Listener → Prop
  | acceptor (state : l.state = .stoppingAcceptor) (acceptorIdle : l.pending.all l.acceptors.isIdle)
      (timerIdle : l.retry.isIdle) :
      Passed l { l with pending := none, socket := l.socket.stop, state := .stoppingSocket }
  | socket (state : l.state = .stoppingSocket) (socketIdle : l.socket.isIdle) :
      Passed l
        { l with
          acceptors := l.acceptors.stop l.established
          state := .stoppingConnections }
  | connections (state : l.state = .stoppingConnections) (empty : l.established = []) :
      Passed l
        { l.note .stopped with
          state := .idle
          phase := .stopped
          stats := l.stats.markStopped }

theorem passed_of_passStage {l l' : Listener} (h : passStage l = some l') : Passed l l' := by
  unfold passStage at h
  split at h
  case h_1 state =>
    split at h
    case isTrue idle =>
      obtain ⟨acceptorIdle, timerIdle⟩ := Bool.and_eq_true_iff.1 idle
      cases h
      exact .acceptor state acceptorIdle timerIdle
    case isFalse => cases h
  case h_2 state =>
    split at h
    case isTrue idle => cases h; exact .socket state idle
    case isFalse => cases h
  case h_3 state =>
    split at h
    case isTrue empty => cases h; exact .connections state (List.isEmpty_iff.1 empty)
    case isFalse => cases h
  case h_4 => cases h

theorem passStage_of_passed {l l' : Listener} (h : Passed l l') : passStage l = some l' := by
  cases h with
  | acceptor state acceptorIdle timerIdle => simp [passStage, state, acceptorIdle, timerIdle]
  | socket state socketIdle => simp [passStage, state, socketIdle]
  | connections state empty => simp [passStage, state, empty]

theorem stagesLeft_passStage {l l' : Listener} (h : passStage l = some l') :
    l.state.stagesLeft = l'.state.stagesLeft + 1 := by
  cases passed_of_passStage h with
  | acceptor state | socket state | connections state => simp [state, State.stagesLeft]

theorem handle_of_handled {l l' : Listener} {e : Event} (hp : l.phase = .active)
    (h : Handled l e l') : l.handle e = .done l' := by
  rw [handle, hp]
  exact onEvent_of_handled h

theorem handle_of_absorbed {l l' m : Listener} {e : Event} (hp : l.phase = .stopping)
    (h : Absorbed l e l') (hm : l'.advanceShutdown = .done m) : l.handle e = .done m := by
  rw [handle, hp]
  change (l.absorb e).andThen advanceShutdown = .done m
  rw [absorb_of_absorbed h, Outcome.andThen_done, hm]

end EndpointLifecycle.Listener
