import EndpointLifecycle.Proofs.Listener.Reachable

/-!
# The shutdown of a listener is orderly

From the stop that it accepts on, a listener asks the timer and the pending acceptor to stop, then
the socket, then the connections, each once, and tells its host that it has stopped when nothing is
left. `Standing` says how things stand at a moment of the shutdown, `Orderly` what may lie between
one moment and the next, and `Paused` for whom the shutdown waits when it does not go on.
-/

namespace EndpointLifecycle.Listener

/-- The moments of a shutdown that goes on as far as it can. -/
def cascade (l : Listener) : List Listener := passedStages passStage l.state.stagesLeft l

/-- The moments of one request. -/
def stepMoments (l : Listener) : Action → List Listener
  | .event e =>
    if l.phase = .stopping then
      match l.absorb e with
      | .done m => m :: m.cascade
      | .violation _ _ => []
    else (l.handle e).toList
  | .stop => if l.phase = .active then l.beginStop :: l.beginStop.cascade else [l]
  | .completeStop c => [l.completeStop c]
  | .inject point kind => [{ l with socket := l.socket.inject point kind }]

/-- The moments of a run, which ends at the first violation. -/
def moments (l : Listener) (actions : List Action) : List Listener :=
  Outcome.moments stepMoments step l actions

/-- What can happen from one moment to the next. -/
inductive Tick (l : Listener) : Listener → Prop
  | handled {e l'} (active : l.phase = .active) (h : Handled l e l') : Tick l l'
  | stopBegun (active : l.phase = .active) : Tick l l.beginStop
  | stopIgnored (stopping : l.phase ≠ .active) : Tick l l
  | absorbed {e l'} (stopping : l.phase = .stopping) (h : Absorbed l e l') : Tick l l'
  | passed {l'} (h : Passed l l') : Tick l l'
  | completed (c : Collaborator) : Tick l (l.completeStop c)
  | injected (point : FaultPoint) (kind : ErrorKind) :
      Tick l { l with socket := l.socket.inject point kind }

theorem isChain_cascade (l : Listener) : (l :: l.cascade).IsChain Tick :=
  isChain_passedStages (fun _ _ h => .passed (passed_of_passStage h)) _ l

theorem getLastD_cascade {l l' : Listener} (h : l.advanceShutdown = .done l') :
    l.cascade.getLastD l = l' := by
  unfold advanceShutdown at h
  split at h
  case isTrue => cases h
  case isFalse =>
    cases h
    exact getLastD_passedStages _ l

theorem getLastD_stepMoments {l l' : Listener} {a : Action} (h : l.step a = .done l') :
    (l.stepMoments a).getLastD l = l' := by
  cases a with
  | event e =>
    change l.handle e = .done l' at h
    by_cases stopping : l.phase = .stopping
    · rw [handle, stopping] at h
      change (l.absorb e).andThen advanceShutdown = .done l' at h
      rw [stepMoments, if_pos stopping]
      cases habsorb : l.absorb e with
      | violation reason m => rw [habsorb] at h; cases h
      | done m =>
        rw [habsorb] at h
        exact (List.getLastD_cons ..).trans (getLastD_cascade h)
    · rw [stepMoments, if_neg stopping, h]
      rfl
  | stop =>
    change l.stop = .done l' at h
    by_cases active : l.phase = .active
    · rw [stop, if_pos active] at h
      rw [stepMoments, if_pos active]
      exact (List.getLastD_cons ..).trans (getLastD_cascade h)
    · rw [stop, if_neg active] at h
      cases h
      rw [stepMoments, if_neg active]
      rfl
  | completeStop c => cases h; rfl
  | inject point kind => cases h; rfl

theorem isChain_stepMoments (l : Listener) (a : Action) : (l :: l.stepMoments a).IsChain Tick := by
  cases a with
  | event e =>
    by_cases stopping : l.phase = .stopping
    · rw [stepMoments, if_pos stopping]
      cases habsorb : l.absorb e with
      | violation reason m => exact .singleton l
      | done m =>
        exact .cons_cons (.absorbed stopping (absorbed_of_absorb habsorb)) (isChain_cascade m)
    · rw [stepMoments, if_neg stopping]
      cases hh : l.handle e with
      | violation reason m => exact .singleton l
      | done m =>
        refine .cons_cons ?_ (.singleton m)
        unfold handle at hh
        split at hh
        case h_1 active => exact .handled active (handled_of_onEvent hh)
        case h_2 stopping' => exact absurd stopping' stopping
        case h_3 => cases hh
        case h_4 => cases hh
  | stop =>
    by_cases active : l.phase = .active
    · rw [stepMoments, if_pos active]
      exact .cons_cons (.stopBegun active) (isChain_cascade _)
    · rw [stepMoments, if_neg active]
      exact .cons_cons (.stopIgnored active) (.singleton l)
  | completeStop c => exact .cons_cons (.completed c) (.singleton _)
  | inject point kind => exact .cons_cons (.injected point kind) (.singleton _)

theorem isChain_moments (l : Listener) (actions : List Action) :
    (l :: l.moments actions).IsChain Tick :=
  Outcome.isChain_moments (P := fun _ => True) (fun m a _ => isChain_stepMoments m a)
    (fun _ _ _ _ h => getLastD_stepMoments h) (fun _ _ _ _ _ => trivial) trivial actions

section Reports

variable {l l' : Listener}

theorem reports_setUp (h : SetUp l l') : l'.stats.stopReports = l.stats.stopReports := by
  cases h <;> rfl

theorem reports_handled {e : Event} (h : Handled l e l') :
    l'.stats.stopReports = l.stats.stopReports := by
  cases h with
  | rested => exact reports_setUp (setUp_startListening l)
  | _ => rfl

theorem coherent_tick (hl : Coherent l) (ht : Tick l l') : Coherent l' := by
  cases ht with
  | handled active h => exact coherent_handled hl h
  | stopBegun => exact coherent_beginStop hl
  | stopIgnored => exact hl
  | absorbed stopping h => exact coherent_absorbed hl h
  | passed h => exact coherent_passed hl h
  | completed c => exact coherent_completeStop hl c
  | injected => exact hl.congr rfl rfl rfl rfl rfl rfl

theorem reports_tick (hphase : l.phase = l.state.phase) (ht : Tick l l') :
    l'.stats.stopReports =
      l.stats.stopReports + if l.phase ≠ .stopped ∧ l'.phase = .stopped then 1 else 0 := by
  cases ht with
  | handled active h => simp [reports_handled h, phase_handled h, active]
  | stopBegun active => simp [beginStop, note]
  | stopIgnored => simp
  | absorbed stopping h => cases h <;> simp [release, note]
  | passed h =>
    cases h with
    | acceptor state | socket state => simp
    | connections state => simp [hphase, state, State.phase, Statistics.markStopped]
  | completed c => cases c <;> simp [completeStop]
  | injected => simp

/-- Once stopped, a listener stays so. -/
theorem phase_tick (hphase : l.phase = l.state.phase) (ht : Tick l l') (h : l.phase = .stopped) :
    l'.phase = .stopped := by
  rw [h] at hphase
  cases ht with
  | handled active | stopBegun active => rw [h] at active; cases active
  | stopIgnored => exact h
  | absorbed stopping => rw [h] at stopping; cases stopping
  | passed hp =>
    cases hp with
    | acceptor state | socket state | connections state => simp [state, State.phase] at hphase
  | completed c => cases c <;> exact h
  | injected => exact h

/-- The host has been told once that the listener has stopped when it has, and not before. -/
theorem reported_tick (hphase : l.phase = l.state.phase) (ht : Tick l l') {n : Nat}
    (h : l.stats.stopReports = n + if l.phase = .stopped then 1 else 0) :
    l'.stats.stopReports = n + if l'.phase = .stopped then 1 else 0 := by
  rw [reports_tick hphase ht, h]
  by_cases hs : l.phase = .stopped
  · simp [hs, phase_tick hphase ht hs]
  · simp [hs]

theorem reported_moments (hl : Coherent l) (hphase : l.phase ≠ .stopped) (actions : List Action) :
    ∀ m ∈ l.moments actions,
      m.stats.stopReports = l.stats.stopReports + if m.phase = .stopped then 1 else 0 := by
  have h := (isChain_moments l actions).cons_induction
    (fun m => Coherent m ∧
      m.stats.stopReports = l.stats.stopReports + if m.phase = .stopped then 1 else 0) _
    (fun m m' ht ⟨hm, hr⟩ => ⟨coherent_tick hm ht, reported_tick hm.phase_eq ht hr⟩)
    ⟨hl, by simp [hphase]⟩
  exact fun m hm => (h m hm).2

end Reports

/-- How things stand at a moment `m` of the shutdown that began at `l`. -/
structure Standing (l m : Listener) : Prop where
  phase_ne : m.phase ≠ .active
  phase_eq : m.phase = m.state.phase
  timer_stops : m.retry.stops = l.retry.stops + 1
  pending_stops : ∀ id, l.pending = some id → m.acceptors.stops id = l.acceptors.stops id + 1
  socket_stops : m.socket.stops = l.socket.stops + if m.state = .stoppingAcceptor then 0 else 1
  /-- Connections that are still there were stopped once if their turn has come, and before that not
  at all. -/
  connection_stops : ∀ id ∈ m.established,
    m.acceptors.stops id = l.acceptors.stops id + if m.state = .stoppingConnections then 1 else 0
  stops_le : ∀ id, m.acceptors.stops id ≤ l.acceptors.stops id + 1
  stops_eq : m.state = .stoppingAcceptor ∨ m.state = .stoppingSocket → ∀ id, l.pending ≠ some id →
    m.acceptors.stops id = l.acceptors.stops id
  numbers_eq : m.acceptors.numbers = l.acceptors.numbers
  established_subset : m.established ⊆ l.established
  pending_eq : m.pending = if m.state = .stoppingAcceptor then l.pending else none
  /-- The socket was not stopped before timer and acceptor had come to rest, and they stay so. -/
  acceptor_idle : m.state ≠ .stoppingAcceptor →
    m.retry.isIdle ∧ ∀ id, l.pending = some id → m.acceptors.isIdle id
  socket_idle : m.state = .stoppingConnections ∨ m.state = .idle → m.socket.isIdle
  established_eq_nil : m.state = .idle → m.established = []
  reports_eq : m.stats.stopReports = l.stats.stopReports + if m.phase = .stopped then 1 else 0

/-- What may lie between a moment `m` of the shutdown that began at `l` and the next. -/
structure Orderly (l m m' : Listener) : Prop where
  socket_call : m'.socket.stops ≠ m.socket.stops →
    m.retry.isIdle ∧ ∀ id, l.pending = some id → m.acceptors.isIdle id
  connection_call : ∀ id ∈ l.established, m'.acceptors.stops id ≠ m.acceptors.stops id →
    m.state = .stoppingSocket ∧ m'.state = .stoppingConnections ∧ id ∈ m.established
  /-- When the socket is found idle, all connections are stopped at once. -/
  connections_call : m.state = .stoppingSocket → m'.state ≠ .stoppingSocket →
    m'.state = .stoppingConnections ∧ m.socket.isIdle ∧ m.socket.stops = l.socket.stops + 1 ∧
      m'.established = m.established ∧
        ∀ id ∈ m.established, m'.acceptors.stops id = m.acceptors.stops id + 1
  report_call : m'.stats.stopReports =
    m.stats.stopReports + if m.phase ≠ .stopped ∧ m'.phase = .stopped then 1 else 0

section Standing

variable {l m m' : Listener}

theorem standing_beginStop (hl : Coherent l) : Standing l l.beginStop where
  phase_ne := by simp [beginStop]
  phase_eq := rfl
  timer_stops := l.retry.stops_stop
  pending_stops := by
    intro id hid
    have hn : id ∈ l.acceptors.numbers := by
      rw [hl.numbers_eq, List.mem_range, ← hl.pending_newest id hid]
      exact Nat.lt_succ_self id
    exact Acceptors.stops_stop_of_mem _ (by simp [hid]) hn
  socket_stops := rfl
  connection_stops := by
    intro id hid
    exact Acceptors.stops_stop_of_notMem _ fun hm =>
      hl.pending_notMem id (Option.mem_toList.1 hm) hid
  stops_le := fun id => Acceptors.stops_stop_le ..
  stops_eq := by
    intro _ id hid
    exact Acceptors.stops_stop_of_notMem _ fun hm => hid (Option.mem_toList.1 hm)
  numbers_eq := Acceptors.numbers_stop ..
  established_subset := fun _ h => h
  pending_eq := rfl
  acceptor_idle := fun h => absurd rfl h
  socket_idle := by simp [beginStop]
  established_eq_nil := by simp [beginStop]
  reports_eq := by simp [beginStop, note]

theorem Standing.mem_numbers (hl : Coherent l) (h : Standing l m) {id : ConnectionId}
    (hid : id ∈ m.established) : id ∈ m.acceptors.numbers := by
  rw [h.numbers_eq, hl.numbers_eq, List.mem_range]
  exact hl.established_lt id (h.established_subset hid)

theorem standing_absorbed {e : Event} (h : Standing l m) (ha : Absorbed m e m') :
    Standing l m' := by
  cases ha with
  | retry | halfClosed | closed | pending | broken => exact h
  | late => exact { h with }
  | ended other established =>
    exact
      { h with
        connection_stops := fun id hid => h.connection_stops id (List.mem_of_mem_filter hid)
        established_subset := fun id hid => h.established_subset (List.mem_of_mem_filter hid)
        established_eq_nil := fun hs => by simp [release, h.established_eq_nil hs] }

theorem standing_passed (hl : Coherent l) (h : Standing l m) (hp : Passed m m') :
    Standing l m' := by
  have hreports := reported_tick h.phase_eq (.passed hp) h.reports_eq
  cases hp with
  | acceptor state acceptorIdle timerIdle =>
    have hpending : m.pending = l.pending := by rw [h.pending_eq, if_pos state]
    exact
      { h with
        phase_eq := by rw [h.phase_eq, state]; rfl
        socket_stops := by rw [Socket.stops_stop, h.socket_stops, if_pos state]; simp
        connection_stops := by simpa [state] using h.connection_stops
        stops_eq := fun _ => h.stops_eq (.inl state)
        pending_eq := by simp
        acceptor_idle := fun _ => ⟨timerIdle, fun id hid => by
          simpa [hpending, hid] using acceptorIdle⟩
        socket_idle := by simp
        established_eq_nil := by simp }
  | socket state socketIdle =>
    have hstops {id} (hid : id ∈ m.established) : l.pending ≠ some id := fun hp =>
      hl.pending_notMem id hp (h.established_subset hid)
    have hunmoved {id} (hid : l.pending ≠ some id) : m.acceptors.stops id = l.acceptors.stops id :=
      h.stops_eq (.inr state) id hid
    have hpending : ∀ id, l.pending = some id → id ∉ m.established := fun id hid hm =>
      hstops hm hid
    exact
      { h with
        phase_eq := by rw [h.phase_eq, state]; rfl
        pending_stops := fun id hid => by
          rw [Acceptors.stops_stop_of_notMem _ (hpending id hid), h.pending_stops id hid]
        socket_stops := by rw [h.socket_stops, state]; simp
        connection_stops := fun id hid => by
          rw [Acceptors.stops_stop_of_mem _ hid (h.mem_numbers hl hid), hunmoved (hstops hid),
            if_pos rfl]
        stops_le := fun id => by
          by_cases hid : l.pending = some id
          · rw [Acceptors.stops_stop_of_notMem _ (hpending id hid)]
            exact h.stops_le id
          · rw [← hunmoved hid]
            exact Acceptors.stops_stop_le ..
        stops_eq := by simp
        numbers_eq := (Acceptors.numbers_stop ..).trans h.numbers_eq
        pending_eq := by rw [h.pending_eq, state]; simp
        acceptor_idle := fun _ =>
          have hidle := h.acceptor_idle (by simp [state])
          ⟨hidle.1, fun id hid => Acceptors.isIdle_stop _ _ (hidle.2 id hid)⟩
        socket_idle := fun _ => socketIdle
        established_eq_nil := by simp }
  | connections state empty =>
    exact
      { h with
        phase_ne := by simp
        phase_eq := rfl
        socket_stops := (h.socket_stops.trans (by simp [state]))
        connection_stops := by simp [note, empty]
        stops_eq := by simp
        pending_eq := h.pending_eq.trans (by simp [state])
        acceptor_idle := fun _ => h.acceptor_idle (by simp [state])
        socket_idle := fun _ => h.socket_idle (.inl state)
        established_eq_nil := fun _ => empty
        reports_eq := hreports }

theorem standing_completed (h : Standing l m) (c : Collaborator) :
    Standing l (m.completeStop c) := by
  cases c with
  | socket =>
    exact
      { h with
        socket_idle := fun hs => Socket.isIdle_completeStop (h.socket_idle hs) }
  | timer =>
    exact
      { h with
        timer_stops := (Backoff.stops_completeStop _).trans h.timer_stops
        acceptor_idle := fun hs =>
          ⟨Backoff.isIdle_completeStop (h.acceptor_idle hs).1, (h.acceptor_idle hs).2⟩ }
  | acceptor a =>
    have hstops (id) : (m.acceptors.completeStop a).stops id = m.acceptors.stops id :=
      Acceptors.stops_completeStop ..
    exact
      { h with
        pending_stops := fun id hid => (hstops id).trans (h.pending_stops id hid)
        connection_stops := fun id hid => (hstops id).trans (h.connection_stops id hid)
        stops_le := fun id => (hstops id).le.trans (h.stops_le id)
        stops_eq := fun hs id hid => (hstops id).trans (h.stops_eq hs id hid)
        numbers_eq := (Acceptors.numbers_completeStop ..).trans h.numbers_eq
        acceptor_idle := fun hs =>
          ⟨(h.acceptor_idle hs).1, fun id hid =>
            Acceptors.isIdle_completeStop _ _ ((h.acceptor_idle hs).2 id hid)⟩ }

theorem standing_tick (hl : Coherent l) (h : Standing l m) (ht : Tick m m') : Standing l m' := by
  cases ht with
  | handled active | stopBegun active => exact absurd active h.phase_ne
  | stopIgnored => exact h
  | absorbed stopping ha => exact standing_absorbed h ha
  | passed hp => exact standing_passed hl h hp
  | completed c => exact standing_completed h c
  | injected point kind =>
    exact
      { h with
        socket_stops := (Socket.stops_inject ..).trans h.socket_stops
        socket_idle := fun hs => by simpa [Socket.isIdle] using h.socket_idle hs }

theorem orderly_beginStop (hl : Coherent l) (active : l.phase = .active) :
    Orderly l l l.beginStop where
  socket_call := by simp [beginStop, note]
  connection_call := by
    intro id hid hne
    refine absurd (Acceptors.stops_stop_of_notMem _ fun hm => ?_) hne
    exact hl.pending_notMem id (Option.mem_toList.1 hm) hid
  connections_call := by
    intro hs
    rw [hl.phase_eq, hs] at active
    cases active
  report_call := by simp [beginStop, note]

/-- Where no call is made and the stage stays the same, nothing is out of order. -/
theorem orderly_of_eq (hs : m'.state = m.state) (hk : m'.socket.stops = m.socket.stops)
    (ha : ∀ id, m'.acceptors.stops id = m.acceptors.stops id)
    (hreport : m'.stats.stopReports =
      m.stats.stopReports + if m.phase ≠ .stopped ∧ m'.phase = .stopped then 1 else 0) :
    Orderly l m m' where
  socket_call := fun hne => absurd hk hne
  connection_call := fun id _ hne => absurd (ha id) hne
  connections_call := fun h hne => absurd (hs.trans h) hne
  report_call := hreport

theorem orderly_passed (hl : Coherent l) (h : Standing l m) (hp : Passed m m') :
    Orderly l m m' := by
  have hreport := reports_tick h.phase_eq (.passed hp)
  cases hp with
  | acceptor state acceptorIdle timerIdle =>
    have hpending : m.pending = l.pending := by rw [h.pending_eq, if_pos state]
    refine ⟨fun _ => ⟨timerIdle, fun id hid => ?_⟩, by simp, by simp [state], hreport⟩
    simpa [hpending, hid] using acceptorIdle
  | socket state socketIdle =>
    refine ⟨by simp, fun id _ hne => ⟨state, rfl, ?_⟩, ?_, hreport⟩
    · by_contra hid
      exact hne (Acceptors.stops_stop_of_notMem _ hid)
    · intro _ _
      refine ⟨rfl, socketIdle, by rw [h.socket_stops, state]; simp, rfl, ?_⟩
      intro id hid
      exact Acceptors.stops_stop_of_mem _ hid (h.mem_numbers hl hid)
  | connections state =>
    exact ⟨by simp [note], by simp [note], by simp [state], hreport⟩

theorem orderly_tick (hl : Coherent l) (h : Standing l m) (ht : Tick m m') : Orderly l m m' := by
  have hreport := reports_tick h.phase_eq ht
  cases ht with
  | handled active | stopBegun active => exact absurd active h.phase_ne
  | stopIgnored => exact orderly_of_eq rfl rfl (fun _ => rfl) hreport
  | absorbed stopping ha =>
    cases ha <;> exact orderly_of_eq rfl rfl (fun _ => rfl) hreport
  | passed hp => exact orderly_passed hl h hp
  | completed c =>
    cases c with
    | socket | timer => exact orderly_of_eq rfl rfl (fun _ => rfl) hreport
    | acceptor a =>
      exact orderly_of_eq rfl rfl (fun _ => Acceptors.stops_completeStop ..) hreport
  | injected point kind =>
    exact orderly_of_eq rfl (Socket.stops_inject ..) (fun _ => rfl) hreport

end Standing

/-- A listener that takes in an event during the shutdown goes on until it has to wait. -/
theorem paused_of_handle {l l' : Listener} {e : Event} (hphase : l.phase = l.state.phase)
    (stopping : l.phase = .stopping) (h : l.handle e = .done l') : Paused l' := by
  cases stepped_of_handle h with
  | handled active => simp [stopping] at active
  | absorbed _ ha advanced =>
    have hp := phase_absorbed ha
    exact paused_of_advanceShutdown (by rw [hp, (state_absorbed ha).1, hphase])
      (by simp [hp, stopping]) advanced

theorem exists_stop {l : Listener} (active : l.phase = .active) :
    ∃ m, l.stop = .done m ∧ Paused m := by
  have advanced := advanceShutdown_eq (l := l.beginStop) rfl
  exact ⟨_, by rw [stop, if_pos active, advanced],
    paused_of_advanceShutdown rfl (by simp [beginStop]) advanced⟩

/-- A connection that reports its end during the shutdown is given up. -/
theorem Standing.exists_released {l m : Listener} (hl : Coherent l) (h : Standing l m)
    (stopping : m.phase = .stopping) {id : ConnectionId} (hid : id ∈ m.established) :
    ∃ m', m.handle (.connection id .stopped) = .done m' ∧ id ∉ m'.established := by
  have other : m.pending ≠ some id := fun hp => by
    rw [h.pending_eq] at hp
    split at hp
    case isTrue => exact hl.pending_notMem id hp (h.established_subset hid)
    case isFalse => cases hp
  have advanced := advanceShutdown_eq (l := m.release id) (h.phase_eq ▸ stopping)
  refine ⟨_, handle_of_absorbed stopping (.ended other hid) advanced, ?_⟩
  rw [established_advance advanced]
  simp [release]

theorem moments_stop {l : Listener} (active : l.phase = .active) (actions : List Action) :
    ∃ ms, l.moments (.stop :: actions) = l.beginStop :: ms := by
  unfold moments Outcome.moments
  rw [stepMoments, if_pos active]
  exact ⟨_, List.cons_append⟩

/-- The shutdown that `l` begins when it is asked to stop: `before` is what has happened since the
creation of the listener as `l₀`, and `after` what happens from the stop on. -/
structure OrderlyShutdown (l₀ l : Listener) (before after : List Action) : Prop where
  /-- The stop goes on until there is someone to wait for, or to the end. -/
  accepted : ∃ m, l.stop = .done m ∧ Paused m
  /-- The moments are those of the run. -/
  reached : ∀ m, l.run (.stop :: after) = .done m → (l.moments (.stop :: after)).getLastD l = m
  standing : ∀ m ∈ l.moments (.stop :: after), Standing l m
  orderly : (l :: l.moments (.stop :: after)).IsChain (Orderly l)
  /-- At every event the shutdown goes on, again until there is someone to wait for. -/
  advanced : ∀ m ∈ l.moments (.stop :: after), m.phase = .stopping →
    ∀ e m', m.handle e = .done m' → Paused m'
  /-- A connection that reports its end is given up. -/
  released : ∀ m ∈ l.moments (.stop :: after), m.phase = .stopping → ∀ id ∈ m.established,
    ∃ m', m.handle (.connection id .stopped) = .done m' ∧ id ∉ m'.established
  /-- The host has heard of the end once when the listener has stopped, and not before. -/
  reported_once : ∀ m ∈ l₀.moments before ++ l.moments (.stop :: after),
    m.stats.stopReports = l₀.stats.stopReports + if m.phase = .stopped then 1 else 0

theorem shutdown_orderly {l₀ l : Listener} (created : Created l₀) {before : List Action}
    (hrun : l₀.run before = .done l) (active : l.phase = .active) (after : List Action) :
    OrderlyShutdown l₀ l before after := by
  have hl : Coherent l := (reachable_run (.created created) hrun).coherent
  have hticks := isChain_moments l (.stop :: after)
  obtain ⟨ms, hms⟩ := moments_stop active after
  rw [hms] at hticks
  have hstanding : ∀ m ∈ l.beginStop :: ms, Standing l m :=
    hticks.tail.induction _ _ (fun m m' ht h => standing_tick hl h ht) fun _ =>
      standing_beginStop hl
  have horderly : (l :: l.beginStop :: ms).IsChain (Orderly l) :=
    .cons_cons (orderly_beginStop hl active) <|
      hticks.tail.imp_of_mem_imp fun m m' hm _ ht => orderly_tick hl (hstanding m hm) ht
  rw [← hms] at hstanding horderly
  exact
    { accepted := exists_stop active
      reached := fun _ h => Outcome.getLastD_moments (fun _ _ _ => getLastD_stepMoments) h
      standing := hstanding
      orderly := horderly
      advanced := fun m hm hp e m' => paused_of_handle (hstanding m hm).phase_eq hp
      released := fun m hm hp _ => (hstanding m hm).exists_released hl hp
      reported_once := by
        rw [moments, moments, ← Outcome.moments_append hrun]
        exact reported_moments (coherent_created created) (by simp [phase_created created]) _ }

/-- With one connection, which ends last. -/
theorem shutdown_orderly_one_connection :
    ∃ l₀ l, Created l₀ ∧ l₀.run [.event (.connection 0 .accepted)] = .done l ∧
      l.phase = .active ∧
      OrderlyShutdown l₀ l [.event (.connection 0 .accepted)]
        [.completeStop (.acceptor 1), .event (.connection 1 .stopped), .completeStop .socket,
          .event (.socket .stopped), .completeStop (.acceptor 0),
          .event (.connection 0 .stopped)] := by
  have created : Created _ := ⟨"*:5555", {}, {}, ⟨rfl, rfl, rfl, rfl⟩, rfl⟩
  exact ⟨_, _, created, rfl, rfl, shutdown_orderly created rfl rfl _⟩

end EndpointLifecycle.Listener
