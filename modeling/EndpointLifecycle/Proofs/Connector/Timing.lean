import EndpointLifecycle.Proofs.Connector.Refusals
import EndpointLifecycle.Proofs.LookAlike
import EndpointLifecycle.Proofs.Untimed

/-!
# When stops are complete does not matter to a connector at work

A connector at work goes by what is reported to it and never looks at what is idle. Two connectors
whose collaborators differ only in how far their stops have got answer alike, and still have no
other difference afterwards.
-/

namespace EndpointLifecycle.Connector

def Parts.untimed (p : Parts) : Parts :=
  { p with
    socket := p.socket.untimed
    timer := { p.timer with activity := p.timer.activity.untimed }
    resolver := p.resolver.untimed
    session := p.session.untimed }

def untimed (c : Connector) : Connector :=
  { c with
    socket := c.socket.untimed
    retry := c.retry.untimed
    resolver := c.resolver.untimed
    session := c.session.untimed }

/-- The end of a stop is what an owner cannot see. -/
def Action.isVisible : Action → Bool
  | .completeStop _ => false
  | .event _ | .stop | .inject .. => true

/-- Nothing tells the connectors apart but how far the stops of their collaborators have got. -/
structure Agrees (c c' : Connector) : Prop where
  state_eq : c.state = c'.state
  phase_eq : c.phase = c'.phase
  resolved_eq : c.resolved = c'.resolved
  remote_eq : c.remote = c'.remote
  attempts_eq : c.retry.attempts = c'.retry.attempts
  stats_eq : c.stats = c'.stats
  calls_eq : c.socket.calls = c'.socket.calls
  intervals_eq : c.retry.timer.intervals = c'.retry.timer.intervals
  timerStops_eq : c.retry.stops = c'.retry.stops
  lookups_eq : c.resolver.lookups = c'.resolver.lookups
  resolverStops_eq : c.resolver.stops = c'.resolver.stops
  starts_eq : c.session.starts = c'.session.starts
  stops_eq : c.session.stops = c'.session.stops
  entries_eq : c.entries = c'.entries

variable {c c' m : Connector} {e : Event}

theorem exists_parts (h : c.untimed = c'.untimed) :
    ∃ socket retry resolver session, c' = { c with socket, retry, resolver, session } ∧
      c.socket.untimed = socket.untimed ∧ c.retry.untimed = retry.untimed ∧
      c.resolver.untimed = resolver.untimed ∧ c.session.untimed = session.untimed := by
  refine ⟨c'.socket, c'.retry, c'.resolver, c'.session, ?_, congrArg socket h, congrArg retry h,
    congrArg resolver h, congrArg session h⟩
  cases c
  cases c'
  simp only [untimed, Connector.mk.injEq] at h ⊢
  simp [h]

theorem agrees_of_untimed_eq (h : c.untimed = c'.untimed) : c.Agrees c' := by
  obtain ⟨socket, retry, resolver, session, rfl, hsocket, hretry, hresolver, hsession⟩ :=
    exists_parts h
  obtain ⟨a, rfl, ha⟩ := Backoff.exists_activity hretry
  obtain ⟨hactivity, hlookups⟩ := Resolver.mk.inj hresolver
  obtain ⟨hstarts, hstops⟩ := Activity.untimed_eq_iff.1 hsession
  have hcalls := congrArg Socket.calls hsocket
  exact ⟨rfl, rfl, rfl, rfl, rfl, rfl, hcalls, rfl, (Activity.untimed_eq_iff.1 ha).2, hlookups,
    (Activity.untimed_eq_iff.1 hactivity).2, hstarts, hstops, rfl⟩

section Step

theorem untimed_waitBeforeRetry (h : c.untimed = c'.untimed) :
    c.waitBeforeRetry.untimed = c'.waitBeforeRetry.untimed := by
  obtain ⟨socket, retry, resolver, session, rfl, hsocket, hretry, hresolver, hsession⟩ :=
    exists_parts h
  simp [untimed, waitBeforeRetry, note, hsocket, hresolver, hsession, Backoff.fst_start_eq hretry,
    Backoff.untimed_start hretry]

theorem untimed_giveUp (h : c.untimed = c'.untimed) (kind : ErrorKind) :
    (c.giveUp kind).untimed = (c'.giveUp kind).untimed := by
  obtain ⟨socket, retry, resolver, session, rfl, hsocket, hretry, hresolver, hsession⟩ :=
    exists_parts h
  simp [untimed, giveUp, hretry, hresolver, hsession, Socket.untimed_stop hsocket]

theorem untimed_sizeBuffers (h : c.untimed = c'.untimed) :
    c.sizeBuffers.untimed = c'.sizeBuffers.untimed := by
  obtain ⟨socket, retry, resolver, session, rfl, hsocket, hretry, hresolver, hsession⟩ :=
    exists_parts h
  obtain ⟨a, rfl, ha⟩ := Socket.exists_activity hsocket
  unfold sizeBuffers
  cases hfault : c.socket.bufferFault <;>
    simp [untimed, Socket.untimed, Socket.setSendBuffer, Socket.setRecvBuffer, Socket.called,
      noteBuffer, note, hfault, ha, hretry, hresolver, hsession]

theorem untimed_connectOpen (h : c.untimed = c'.untimed) (localAddr remote : SocketAddr) :
    (c.connectOpen localAddr remote).untimed = (c'.connectOpen localAddr remote).untimed := by
  obtain ⟨socket, retry, resolver, session, rfl, hsocket, hretry, hresolver, hsession⟩ :=
    exists_parts h
  have hdialled := dialled_connectOpen c localAddr remote
  generalize c.connectOpen localAddr remote = m at hdialled ⊢
  cases hdialled with
  | bindFailed bound =>
    obtain ⟨failed, bound', hfailed⟩ := Socket.exists_bind hsocket bound
    simp only [connectOpen, bound']
    exact untimed_giveUp (by simp [untimed, note, hfailed, hretry, hresolver, hsession]) _
  | refused bound connected =>
    obtain ⟨named, bound', hnamed⟩ := Socket.exists_bind hsocket bound
    obtain ⟨failed, connected', hfailed⟩ := Socket.exists_connect hnamed connected
    simp only [connectOpen, bound', connected']
    exact untimed_giveUp (by simp [untimed, note, hfailed, hretry, hresolver, hsession]) _
  | connecting bound connected =>
    obtain ⟨named, bound', hnamed⟩ := Socket.exists_bind hsocket bound
    obtain ⟨ready, connected', hready⟩ := Socket.exists_connect hnamed connected
    simp only [connectOpen, bound', connected']
    simp [untimed, note, hready, hretry, hresolver, hsession]

theorem untimed_startConnecting (h : c.untimed = c'.untimed) (ip : IpAddr) :
    (c.startConnecting ip).untimed = (c'.startConnecting ip).untimed := by
  obtain ⟨socket, retry, resolver, session, rfl, hsocket, hretry, hresolver, hsession⟩ :=
    exists_parts h
  unfold startConnecting
  dsimp only
  cases hopened : c.socket.start ip.family with
  | mk opened error =>
    obtain ⟨opened', hopened', hu⟩ := Socket.exists_start hsocket hopened
    rw [hopened']
    cases error with
    | some error =>
      exact untimed_waitBeforeRetry (by simp [untimed, note, hu, hretry, hresolver, hsession])
    | none =>
      exact untimed_connectOpen
        (untimed_sizeBuffers (by simp [untimed, hu, hretry, hresolver, hsession])) ..

theorem exists_handled (h : c.untimed = c'.untimed) (he : Handled c e m) :
    ∃ m', Handled c' e m' ∧ m.untimed = m'.untimed := by
  obtain ⟨socket, retry, resolver, session, rfl, hsocket, hretry, hresolver, hsession⟩ :=
    exists_parts h
  cases he with
  | done result resolving =>
    exact ⟨_, .done result resolving, by
      simp [untimed, hsocket, hretry, hsession, Resolver.untimed_stop hresolver]⟩
  | found stopping resolved =>
    exact ⟨_, .found stopping resolved, untimed_startConnecting (by
      simp [untimed, hsocket, hretry, hresolver, hsession]) _⟩
  | unfound stopping resolved =>
    exact ⟨_, .unfound stopping resolved, untimed_waitBeforeRetry (by
      simp [untimed, note, hsocket, hretry, hresolver, hsession])⟩
  | connected connecting =>
    exact ⟨_, .connected connecting, by
      simp [untimed, onConnected, note, hsocket, hretry, hresolver,
        Activity.untimed_start hsession]⟩
  | connectFailed connecting =>
    have hkind : c.socket.lastError = socket.lastError := (congrArg Socket.lastError hsocket :)
    refine ⟨_, .connectFailed connecting, ?_⟩
    unfold onConnectError
    dsimp only
    rw [hkind]
    exact untimed_giveUp (by simp [untimed, note, hsocket, hretry, hresolver, hsession]) _
  | broken active =>
    exact ⟨_, .broken active, by
      simp [untimed, onBroken, note, hsocket, hretry, hresolver, Activity.untimed_stop hsession]⟩
  | halfClosed stopping => exact ⟨_, .halfClosed stopping, h⟩
  | ended stopping =>
    exact ⟨_, .ended stopping, by
      simp [untimed, hretry, hresolver, hsession, Socket.untimed_stop hsocket]⟩
  | closed stopping => exact ⟨_, .closed stopping, untimed_waitBeforeRetry h⟩
  | timedOut waiting =>
    exact ⟨_, .timedOut waiting, by
      simp [untimed, hsocket, hresolver, hsession, Backoff.untimed_stop hretry]⟩
  | rested stopping =>
    exact ⟨_, .rested stopping, by
      simp [untimed, startResolving, note, hsocket, hretry, hsession,
        Resolver.untimed_start hresolver]⟩

/-- What is answered to an event at work is told without how far the stops have got. -/
theorem map_handle (hc : Coherent c) (hc' : Coherent c') (active : c.phase = .active)
    (h : c.untimed = c'.untimed) (e : Event) :
    (c.handle e).map untimed = (c'.handle e).map untimed := by
  have active' : c'.phase = .active := (congrArg phase h).symm.trans active
  refine Outcome.map_eq_map (fun m hm => ?_) (fun m' hm' => ?_) fun v m v' m' hv hv' => ?_
  · obtain ⟨m', hm', hu⟩ := exists_handled h ((handle_eq_done_iff active).1 hm)
    exact ⟨m', (handle_eq_done_iff active').2 hm', hu⟩
  · obtain ⟨m, hm, -⟩ := exists_handled h.symm ((handle_eq_done_iff active').1 hm')
    exact ⟨m, (handle_eq_done_iff active).2 hm⟩
  · obtain ⟨socket, retry, resolver, session, rfl, hsocket, hretry, hresolver, hsession⟩ :=
      exists_parts h
    obtain rfl : v = v' :=
      (eq_complaint_of_handle hc hv).trans (eq_complaint_of_handle hc' hv').symm
    have hm := eq_note_of_violation (a := .event e) hv
    have hm' := eq_note_of_violation (a := .event e) hv'
    exact ⟨rfl, by simp [hm, hm', untimed, note, hsocket, hretry, hresolver, hsession]⟩

theorem veiled_step :
    Outcome.Veiled step untimed Action.isVisible (fun c => Coherent c ∧ c.phase = .active)
      (· ≠ .stop) where
  keeps c a m := by
    rintro ⟨hc, active⟩ ha h
    refine ⟨coherent_step hc h, ?_⟩
    cases stepped_of_step h with
    | handled _ he => exact (phase_handled he).trans active
    | absorbed e stopping => rw [active] at stopping; cases stopping
    | stopBegun | stopIgnored => exact absurd rfl ha
    | completed x => cases x <;> exact active
    | injected => exact active
  silent c a _ hvis := by
    cases a with
    | completeStop x => exact ⟨_, rfl, by cases x <;> simp [untimed, completeStop]⟩
    | event | stop | inject => cases hvis
  told c c' a := by
    rintro ⟨hc, active⟩ ⟨hc', -⟩ h ha hvis
    cases a with
    | event e => exact map_handle hc hc' active h e
    | stop => exact absurd rfl ha
    | completeStop x => cases hvis
    | inject point kind =>
      obtain ⟨socket, retry, resolver, session, rfl, hsocket, hretry, hresolver, hsession⟩ :=
        exists_parts h
      simp [step, Outcome.map, untimed, hretry, hresolver, hsession,
        Socket.untimed_inject hsocket]

end Step

theorem exists_created {address : String} {options : Options} {parts parts' : Parts}
    (h : parts.untimed = parts'.untimed) (created : create address options parts = .ok (.done c)) :
    ∃ c', create address options parts' = .ok (.done c') ∧ c.untimed = c'.untimed := by
  obtain ⟨target, parsed, rfl⟩ := exists_begun_of_create created
  have hfresh : (fresh address target options parts).untimed =
      (fresh address target options parts').untimed :=
    congrArg (fresh address target options) h
  obtain ⟨socket, retry, resolver, session, heq, hsocket, hretry, hresolver, hsession⟩ :=
    exists_parts hfresh
  refine ⟨begun address target options parts', by rw [create, parsed]; rfl, ?_⟩
  simp only [begun, heq]
  simp [untimed, startResolving, note, hsocket, hretry, hsession,
    Resolver.untimed_start hresolver]

theorem coherent_of_create {address : String} {options : Options} {parts : Parts}
    (h : create address options parts = .ok (.done c)) : Coherent c ∧ c.phase = .active := by
  obtain ⟨target, -, rfl⟩ := exists_begun_of_create h
  exact ⟨coherent_of_resolved_eq_none rfl (by simp [begun, startResolving]) rfl, rfl⟩

theorem exists_runsAlike {address : String} {options : Options} {parts parts' : Parts}
    (h : parts.untimed = parts'.untimed) (created : create address options parts = .ok (.done c)) :
    ∃ c', create address options parts' = .ok (.done c') ∧ ∀ actions actions', .stop ∉ actions →
      .stop ∉ actions' → actions.filter Action.isVisible = actions'.filter Action.isVisible →
      Outcome.RunsAlike step Action.isVisible Agrees c c' actions actions' := by
  obtain ⟨c', created', hu⟩ := exists_created h created
  refine ⟨c', created', fun actions actions' hstop hstop' hfilter => ?_⟩
  exact veiled_step.runsAlike (fun _ _ => agrees_of_untimed_eq) (coherent_of_create created)
    (coherent_of_create created') hu (fun _ ha => ne_of_mem_of_not_mem ha hstop)
    (fun _ ha => ne_of_mem_of_not_mem ha hstop') hfilter

end EndpointLifecycle.Connector
