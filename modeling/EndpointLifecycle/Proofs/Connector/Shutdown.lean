import EndpointLifecycle.Proofs.Connector.Reachable

/-!
# The shutdown of a connector is orderly

From the stop that it accepts on, a connector asks the session to stop if it is at work, and when
the session is idle the timer, the socket and the resolver, each once and all together. It tells its
host that it has stopped when all four are idle, and takes every event until then. Where it does not
go on, it is `Paused`: one of those for whom it waits is not idle.
-/

namespace EndpointLifecycle.Connector

/-- The moments of a shutdown that goes on as far as it can. -/
def cascade (c : Connector) : List Connector := passedStages passStage c.state.stagesLeft c

/-- The moments of one request. -/
def stepMoments (c : Connector) : Action → List Connector
  | .event e =>
    if c.phase = .stopping then c.note (.whileStopping e) :: (c.note (.whileStopping e)).cascade
    else (c.handle e).toList
  | .stop => if c.phase = .active then c.beginStop :: c.beginStop.cascade else [c]
  | .completeStop x => [c.completeStop x]
  | .inject point kind => [{ c with socket := c.socket.inject point kind }]

/-- The moments of a run, which ends at the first violation. -/
def moments (c : Connector) (actions : List Action) : List Connector :=
  Outcome.moments stepMoments step c actions

/-- What can happen from one moment to the next. -/
inductive Tick (c : Connector) : Connector → Prop
  | handled {e c'} (active : c.phase = .active) (h : Handled c e c') : Tick c c'
  | stopBegun (active : c.phase = .active) : Tick c c.beginStop
  | stopIgnored (stopping : c.phase ≠ .active) : Tick c c
  | absorbed (e : Event) (stopping : c.phase = .stopping) : Tick c (c.note (.whileStopping e))
  | passed {c'} (h : Passed c c') : Tick c c'
  | completed (x : Collaborator) : Tick c (c.completeStop x)
  | injected (point : FaultPoint) (kind : ErrorKind) :
      Tick c { c with socket := c.socket.inject point kind }

theorem isChain_cascade (c : Connector) : (c :: c.cascade).IsChain Tick :=
  isChain_passedStages (fun _ _ h => .passed (passed_of_passStage h)) _ c

theorem getLastD_cascade (c : Connector) : c.cascade.getLastD c = c.advanceShutdown :=
  getLastD_passedStages _ c

theorem getLastD_stepMoments {c c' : Connector} {a : Action} (h : c.step a = .done c') :
    (c.stepMoments a).getLastD c = c' := by
  cases a with
  | event e =>
    change c.handle e = .done c' at h
    by_cases stopping : c.phase = .stopping
    · rw [handle, stopping] at h
      cases h
      rw [stepMoments, if_pos stopping]
      exact (List.getLastD_cons ..).trans (getLastD_cascade _)
    · rw [stepMoments, if_neg stopping, h]
      rfl
  | stop =>
    cases h
    by_cases active : c.phase = .active
    · rw [stop, stepMoments, if_pos active, if_pos active]
      exact (List.getLastD_cons ..).trans (getLastD_cascade _)
    · rw [stop, stepMoments, if_neg active, if_neg active]
      rfl
  | completeStop x => cases h; rfl
  | inject point kind => cases h; rfl

theorem isChain_stepMoments (c : Connector) (a : Action) :
    (c :: c.stepMoments a).IsChain Tick := by
  cases a with
  | event e =>
    by_cases stopping : c.phase = .stopping
    · rw [stepMoments, if_pos stopping]
      exact .cons_cons (.absorbed e stopping) (isChain_cascade _)
    · rw [stepMoments, if_neg stopping]
      cases hh : c.handle e with
      | violation reason m => exact .singleton c
      | done m =>
        refine .cons_cons ?_ (.singleton m)
        unfold handle at hh
        split at hh
        case h_1 active => exact .handled active (handled_of_onEvent hh)
        case h_2 stopping' => exact absurd stopping' stopping
        case h_3 => cases hh
        case h_4 => cases hh
  | stop =>
    by_cases active : c.phase = .active
    · rw [stepMoments, if_pos active]
      exact .cons_cons (.stopBegun active) (isChain_cascade _)
    · rw [stepMoments, if_neg active]
      exact .cons_cons (.stopIgnored active) (.singleton c)
  | completeStop x => exact .cons_cons (.completed x) (.singleton _)
  | inject point kind => exact .cons_cons (.injected point kind) (.singleton _)

theorem isChain_moments (c : Connector) (actions : List Action) :
    (c :: c.moments actions).IsChain Tick :=
  Outcome.isChain_moments (P := fun _ => True) (fun m a _ => isChain_stepMoments m a)
    (fun _ _ _ _ h => getLastD_stepMoments h) (fun _ _ _ _ _ => trivial) trivial actions

section Reports

variable {c c' : Connector}

theorem reports_beginStop (c : Connector) :
    c.beginStop.stats.stopReports = c.stats.stopReports := by
  unfold beginStop
  dsimp only
  cases c.state <;> simp [statsAtStop]

theorem reports_dialled {localAddr remote : SocketAddr} (h : Dialled c localAddr remote c') :
    c'.stats.stopReports = c.stats.stopReports := by
  cases h with
  | bindFailed => rfl
  | refused | connecting => simp [giveUp]

theorem reports_attempted {ip : IpAddr} (h : Attempted c ip c') :
    c'.stats.stopReports = c.stats.stopReports := by
  cases h with
  | openFailed => simp [waitBeforeRetry, note]
  | opened opened dialled =>
    rw [reports_dialled dialled, stats_sizeBuffers]

theorem reports_handled {e : Event} (h : Handled c e c') :
    c'.stats.stopReports = c.stats.stopReports := by
  cases h with
  | @found ip =>
    have hr := reports_attempted (attempted_startConnecting { c with resolved := none } ip)
    exact hr
  | connected => simp [onConnected]
  | connectFailed => simp [onConnectError, giveUp]
  | broken => simp [onBroken]
  | unfound | closed => simp [waitBeforeRetry, note]
  | rested => simp [startResolving, note]
  | done | halfClosed | ended | timedOut => simp

theorem coherent_tick (hc : Coherent c) (ht : Tick c c') : Coherent c' := by
  cases ht with
  | handled active h => exact coherent_handled hc h
  | stopBegun => exact coherent_beginStop c
  | stopIgnored => exact hc
  | absorbed => exact coherent_note hc _
  | passed h => exact coherent_passed h hc
  | completed x => exact coherent_completeStop hc x
  | injected => exact { hc with }

theorem reports_tick (hphase : c.phase = c.state.phase) (ht : Tick c c') :
    c'.stats.stopReports =
      c.stats.stopReports + if c.phase ≠ .stopped ∧ c'.phase = .stopped then 1 else 0 := by
  cases ht with
  | handled active h => simp [reports_handled h, phase_handled h, active]
  | stopBegun active => rw [reports_beginStop]; simp [beginStop]
  | stopIgnored => simp
  | absorbed e stopping => simp [stopping, note]
  | passed h =>
    cases h with
    | session state => simp [hphase, state, State.phase]
    | others state => simp [hphase, state, State.phase, Statistics.markStopped]
  | completed x => cases x <;> simp [completeStop]
  | injected => simp

/-- Once stopped, a connector stays so. -/
theorem phase_tick (hphase : c.phase = c.state.phase) (ht : Tick c c') (h : c.phase = .stopped) :
    c'.phase = .stopped := by
  rw [h] at hphase
  cases ht with
  | handled active | stopBegun active => rw [h] at active; cases active
  | stopIgnored => exact h
  | absorbed e stopping => rw [h] at stopping; cases stopping
  | passed hp =>
    cases hp with
    | session state | others state => simp [state, State.phase] at hphase
  | completed x => cases x <;> exact h
  | injected => exact h

/-- The host has been told once that the connector has stopped when it has, and not before. -/
theorem reported_tick (hphase : c.phase = c.state.phase) (ht : Tick c c') {n : Nat}
    (h : c.stats.stopReports = n + if c.phase = .stopped then 1 else 0) :
    c'.stats.stopReports = n + if c'.phase = .stopped then 1 else 0 := by
  rw [reports_tick hphase ht, h]
  by_cases hs : c.phase = .stopped
  · simp [hs, phase_tick hphase ht hs]
  · simp [hs]

theorem reported_moments (hc : Coherent c) (hphase : c.phase ≠ .stopped) (actions : List Action) :
    ∀ m ∈ c.moments actions,
      m.stats.stopReports = c.stats.stopReports + if m.phase = .stopped then 1 else 0 := by
  have h := (isChain_moments c actions).cons_induction
    (fun m => Coherent m ∧
      m.stats.stopReports = c.stats.stopReports + if m.phase = .stopped then 1 else 0) _
    (fun m m' ht ⟨hm, hr⟩ => ⟨coherent_tick hm ht, reported_tick hm.phase_eq ht hr⟩)
    ⟨hc, by simp [hphase]⟩
  exact fun m hm => (h m hm).2

end Reports

/-- How things stand at a moment `m` of the shutdown that began at `c`. -/
structure Standing (c m : Connector) : Prop where
  phase_ne : m.phase ≠ .active
  phase_eq : m.phase = m.state.phase
  session_stops : m.session.stops = c.session.stops + if c.session.isIdle then 0 else 1
  timer_stops : m.retry.stops = c.retry.stops + if m.state = .stoppingSessionFinal then 0 else 1
  socket_stops : m.socket.stops = c.socket.stops + if m.state = .stoppingSessionFinal then 0 else 1
  resolver_stops :
    m.resolver.stops = c.resolver.stops + if m.state = .stoppingSessionFinal then 0 else 1
  session_idle : m.state ≠ .stoppingSessionFinal → m.session.isIdle
  /-- At the end all are idle, and they stay so. -/
  all_idle : m.phase = .stopped →
    m.session.isIdle ∧ m.retry.isIdle ∧ m.socket.isIdle ∧ m.resolver.isIdle
  reports_eq : m.stats.stopReports = c.stats.stopReports + if m.phase = .stopped then 1 else 0

/-- What may lie between a moment `m` of a shutdown and the next. -/
structure Orderly (m m' : Connector) : Prop where
  session_call : m'.session.stops ≠ m.session.stops → m.phase = .active
  others_call : m'.retry.stops ≠ m.retry.stops ∨ m'.socket.stops ≠ m.socket.stops ∨
      m'.resolver.stops ≠ m.resolver.stops →
    m.session.isIdle ∧ m'.retry.stops = m.retry.stops + 1 ∧
      m'.socket.stops = m.socket.stops + 1 ∧ m'.resolver.stops = m.resolver.stops + 1
  end_idle : m.phase ≠ .stopped → m'.phase = .stopped →
    m.session.isIdle ∧ m.retry.isIdle ∧ m.socket.isIdle ∧ m.resolver.isIdle
  report_call : m'.stats.stopReports =
    m.stats.stopReports + if m.phase ≠ .stopped ∧ m'.phase = .stopped then 1 else 0

section Standing

variable {c m m' : Connector}

theorem standing_beginStop (c : Connector) : Standing c c.beginStop where
  phase_ne := by simp [beginStop]
  phase_eq := rfl
  session_stops := by
    unfold beginStop
    by_cases h : c.session.isIdle <;> simp [h]
  timer_stops := rfl
  socket_stops := rfl
  resolver_stops := rfl
  session_idle := fun h => absurd rfl h
  all_idle := by simp [beginStop]
  reports_eq := reports_beginStop c

theorem standing_passed (h : Standing c m) (hp : Passed m m') : Standing c m' := by
  have hreports := reported_tick h.phase_eq (.passed hp) h.reports_eq
  cases hp with
  | session state sessionIdle =>
    have hphase : m.phase = .stopping := by rw [h.phase_eq, state]; rfl
    exact
      { h with
        phase_eq := hphase
        timer_stops := by rw [Backoff.stops_stop, h.timer_stops, if_pos state]; simp
        socket_stops := by rw [Socket.stops_stop, h.socket_stops, if_pos state]; simp
        resolver_stops := by rw [Resolver.stops_stop, h.resolver_stops, if_pos state]; simp
        session_idle := fun _ => sessionIdle
        all_idle := by simp [hphase] }
  | others state timerIdle socketIdle resolverIdle =>
    exact
      { h with
        phase_ne := by simp
        phase_eq := rfl
        timer_stops := h.timer_stops.trans (by simp [state])
        socket_stops := h.socket_stops.trans (by simp [state])
        resolver_stops := h.resolver_stops.trans (by simp [state])
        session_idle := fun _ => h.session_idle (by simp [state])
        all_idle := fun _ => ⟨h.session_idle (by simp [state]), timerIdle, socketIdle, resolverIdle⟩
        reports_eq := hreports }

theorem standing_completed (h : Standing c m) (x : Collaborator) :
    Standing c (m.completeStop x) := by
  have hidle := h.all_idle
  cases x with
  | socket =>
    exact
      { h with
        all_idle := fun hs =>
          ⟨(hidle hs).1, (hidle hs).2.1, Socket.isIdle_completeStop (hidle hs).2.2.1,
            (hidle hs).2.2.2⟩ }
  | timer =>
    exact
      { h with
        timer_stops := (Backoff.stops_completeStop _).trans h.timer_stops
        all_idle := fun hs =>
          ⟨(hidle hs).1, Backoff.isIdle_completeStop (hidle hs).2.1, (hidle hs).2.2⟩ }
  | resolver =>
    exact
      { h with
        resolver_stops := (Resolver.stops_completeStop _).trans h.resolver_stops
        all_idle := fun hs =>
          ⟨(hidle hs).1, (hidle hs).2.1, (hidle hs).2.2.1,
            Resolver.isIdle_completeStop (hidle hs).2.2.2⟩ }
  | session =>
    exact
      { h with
        session_stops := (Activity.stops_completeStop _).trans h.session_stops
        session_idle := fun hs => Activity.isIdle_completeStop_of_isIdle (h.session_idle hs)
        all_idle := fun hs =>
          ⟨Activity.isIdle_completeStop_of_isIdle (hidle hs).1, (hidle hs).2⟩ }

theorem standing_tick (h : Standing c m) (ht : Tick m m') : Standing c m' := by
  cases ht with
  | handled active | stopBegun active => exact absurd active h.phase_ne
  | stopIgnored => exact h
  | absorbed => exact { h with }
  | passed hp => exact standing_passed h hp
  | completed x => exact standing_completed h x
  | injected point kind =>
    exact
      { h with
        socket_stops := (Socket.stops_inject ..).trans h.socket_stops
        all_idle := fun hs => by simpa [Socket.isIdle] using h.all_idle hs }

theorem orderly_beginStop (active : c.phase = .active) : Orderly c c.beginStop where
  session_call := fun _ => active
  others_call := by simp [beginStop, note]
  end_idle := by simp [beginStop]
  report_call := (reports_beginStop c).trans (by simp [beginStop])

/-- Where no call is made and the phase stays the same, nothing is out of order. -/
theorem orderly_of_eq (hs : m'.session.stops = m.session.stops)
    (ht : m'.retry.stops = m.retry.stops) (hk : m'.socket.stops = m.socket.stops)
    (hr : m'.resolver.stops = m.resolver.stops) (hp : m'.phase = m.phase)
    (hreport : m'.stats.stopReports =
      m.stats.stopReports + if m.phase ≠ .stopped ∧ m'.phase = .stopped then 1 else 0) :
    Orderly m m' where
  session_call := fun hne => absurd hs hne
  others_call := by simp [ht, hk, hr]
  end_idle := fun hne he => absurd (hp.symm.trans he) hne
  report_call := hreport

theorem orderly_passed (h : Standing c m) (hp : Passed m m') : Orderly m m' := by
  have hphase := h.phase_eq
  have hreport := reports_tick hphase (.passed hp)
  cases hp with
  | session state sessionIdle =>
    rw [state] at hphase
    exact
      { session_call := fun hne => absurd rfl hne
        others_call := fun _ =>
          ⟨sessionIdle, Backoff.stops_stop _, Socket.stops_stop _, Resolver.stops_stop _⟩
        end_idle := by simp [hphase, State.phase]
        report_call := hreport }
  | others state timerIdle socketIdle resolverIdle =>
    exact
      { session_call := fun hne => absurd rfl hne
        others_call := by simp [note]
        end_idle := fun _ _ =>
          ⟨h.session_idle (by simp [state]), timerIdle, socketIdle, resolverIdle⟩
        report_call := hreport }

theorem orderly_tick (h : Standing c m) (ht : Tick m m') : Orderly m m' := by
  have hreport := reports_tick h.phase_eq ht
  cases ht with
  | handled active | stopBegun active => exact absurd active h.phase_ne
  | stopIgnored => exact orderly_of_eq rfl rfl rfl rfl rfl hreport
  | absorbed => exact orderly_of_eq rfl rfl rfl rfl rfl hreport
  | passed hp => exact orderly_passed h hp
  | completed x =>
    cases x with
    | socket => exact orderly_of_eq rfl rfl rfl rfl rfl hreport
    | timer => exact orderly_of_eq rfl (Backoff.stops_completeStop _) rfl rfl rfl hreport
    | resolver => exact orderly_of_eq rfl rfl rfl (Resolver.stops_completeStop _) rfl hreport
    | session => exact orderly_of_eq (Activity.stops_completeStop _) rfl rfl rfl rfl hreport
  | injected point kind => exact orderly_of_eq rfl rfl (Socket.stops_inject ..) rfl rfl hreport

end Standing

/-- The shutdown that `c` begins when it is asked to stop: `before` is what has happened since the
creation of the connector as `c₀`, and `after` what happens from the stop on. -/
structure OrderlyShutdown (c₀ c : Connector) (before after : List Action) : Prop where
  standing : ∀ m ∈ c.moments (.stop :: after), Standing c m
  orderly : (c :: c.moments (.stop :: after)).IsChain Orderly
  /-- The stop goes on until there is someone to wait for, or to the end. -/
  accepted : Paused c.stop
  /-- The moments are those of the run. -/
  reached : ∀ m, c.run (.stop :: after) = .done m → (c.moments (.stop :: after)).getLastD c = m
  /-- No event is refused, and at every event the shutdown goes on, again until there is someone to
  wait for. -/
  absorbed : ∀ m ∈ c.moments (.stop :: after), m.phase = .stopping →
    ∀ e, ∃ m', m.handle e = .done m' ∧ Paused m'
  stop_eq : ∀ m ∈ c.moments (.stop :: after), m.stop = m
  /-- The host has heard of the end once when the connector has stopped, and not before. -/
  reported_once : ∀ m ∈ c₀.moments before ++ c.moments (.stop :: after),
    m.stats.stopReports = c₀.stats.stopReports + if m.phase = .stopped then 1 else 0

theorem shutdown_absorbs {c₀ c : Connector} (created : Created c₀) {before : List Action}
    (hrun : c₀.run before = .done c) (active : c.phase = .active) (after : List Action) :
    OrderlyShutdown c₀ c before after := by
  have hticks := isChain_moments c (.stop :: after)
  obtain ⟨ms, hms⟩ : ∃ ms, c.moments (.stop :: after) = c.beginStop :: ms := by
    unfold moments Outcome.moments
    rw [stepMoments, if_pos active]
    exact ⟨_, List.cons_append⟩
  rw [hms] at hticks
  have hstanding : ∀ m ∈ c.beginStop :: ms, Standing c m :=
    hticks.tail.induction _ _ (fun m m' ht h => standing_tick h ht) fun _ => standing_beginStop c
  have horderly : (c :: c.beginStop :: ms).IsChain Orderly :=
    .cons_cons (orderly_beginStop active) <|
      hticks.tail.imp_of_mem_imp fun m m' hm _ ht => orderly_tick (hstanding m hm) ht
  rw [← hms] at hstanding horderly
  exact
    { standing := hstanding
      orderly := horderly
      accepted := by
        rw [stop, if_pos active]
        exact paused_advanceShutdown rfl (by simp [beginStop])
      reached := fun _ h => Outcome.getLastD_moments (fun _ _ _ => getLastD_stepMoments) h
      absorbed := fun m hm hp e => ⟨_, handle_of_stopping hp e,
        paused_advanceShutdown (hstanding m hm).phase_eq (hstanding m hm).phase_ne⟩
      stop_eq := fun m hm => by rw [stop, if_neg (hstanding m hm).phase_ne]
      reported_once := by
        rw [moments, moments, ← Outcome.moments_append hrun]
        exact reported_moments (coherent_created created) (by simp [phase_created created]) _ }

/-- With a connection that is at work, and a resolver that has been stopped before. -/
theorem shutdown_absorbs_active_session :
    ∃ c₀ c, Created c₀ ∧
      c₀.run
        [.event (.resolver (.done (.found (.v4 ⟨127, 0, 0, 1⟩)))), .completeStop .resolver,
          .event (.resolver .stopped), .event (.socket .connected)] = .done c ∧
      c.phase = .active ∧ c.session.isIdle = false ∧
      OrderlyShutdown c₀ c
        [.event (.resolver (.done (.found (.v4 ⟨127, 0, 0, 1⟩)))), .completeStop .resolver,
          .event (.resolver .stopped), .event (.socket .connected)]
        [.event (.session .error), .completeStop .session, .event (.session .stopped),
          .completeStop .socket, .stop, .event (.socket .stopped)] := by
  have created : Created _ := ⟨"localhost:5555", {}, {}, ⟨rfl, rfl, rfl, rfl, rfl⟩, rfl⟩
  exact ⟨_, _, created, rfl, rfl, rfl, shutdown_absorbs created rfl rfl _⟩

end EndpointLifecycle.Connector
