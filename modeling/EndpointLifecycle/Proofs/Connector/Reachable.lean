import EndpointLifecycle.Proofs.Connector.Handling
import EndpointLifecycle.Proofs.History
import EndpointLifecycle.Proofs.Moments

/-!
# Connectors that can come about

A connector that was created with unused collaborators stays coherent whatever happens to it: its
phase is that of its state, and while it is at work it holds the result of a lookup exactly as long
as it waits for the resolver to stop.
-/

namespace EndpointLifecycle.Connector

/-- Collaborators that have done nothing yet. Faults may be laid, and each may stop at once. -/
structure Parts.Unused (p : Parts) : Prop where
  socket : p.socket.activity = { stopsAtOnce := p.socket.activity.stopsAtOnce }
  calls : p.socket.calls = []
  timer : p.timer = { activity := { stopsAtOnce := p.timer.activity.stopsAtOnce } }
  resolver : p.resolver = { activity := { stopsAtOnce := p.resolver.activity.stopsAtOnce } }
  session : p.session = { stopsAtOnce := p.session.stopsAtOnce }

/-- A connector as it is after its creation. -/
def Created (c : Connector) : Prop :=
  ∃ address options parts, Parts.Unused parts ∧ create address options parts = .ok (.done c)

inductive Reachable : Connector → Prop
  | created {c} (h : Created c) : Reachable c
  | step {c c'} (a : Action) (reachable : Reachable c) (h : c.step a = .done c') : Reachable c'

theorem reachable_run {c c' : Connector} (hc : Reachable c) {actions : List Action}
    (h : c.run actions = .done c') : Reachable c' := by
  unfold run at h
  induction actions generalizing c with
  | nil => cases h; exact hc
  | cons a as ih =>
    unfold Outcome.run at h
    cases hs : c.step a with
    | done m =>
      rw [hs] at h
      exact ih (.step a hc hs) h
    | violation reason m => rw [hs] at h; cases h

abbrev History := List (Transition Connector Action)

def history (c : Connector) (actions : List Action) : History := Outcome.history step c actions

/-- The phase to which a state belongs once the connector has been started. -/
def State.phase : State → Phase
  | resolving | stoppingResolver | connecting | active | stoppingSession | stoppingSocket | waiting
  | stoppingBackoff => .active
  | stoppingSessionFinal | stopping => .stopping
  | idle => .stopped

structure Coherent (c : Connector) : Prop where
  phase_eq : c.phase = c.state.phase
  resolved_isSome : c.state = .stoppingResolver → c.resolved.isSome
  resolved_eq_none : c.phase = .active → c.state ≠ .stoppingResolver → c.resolved = none

theorem Coherent.stopping {c : Connector} (h : Coherent c) (ha : c.phase ≠ .active)
    (hs : c.phase ≠ .stopped) : c.phase = .stopping := by
  rw [h.phase_eq] at ha hs ⊢
  cases hx : c.state <;> simp [hx, State.phase] at ha hs ⊢

theorem Coherent.state_eq_idle {c : Connector} (h : Coherent c) (hp : c.phase = .stopped) :
    c.state = .idle := by
  rw [h.phase_eq] at hp
  cases hx : c.state <;> rw [hx] at hp <;> first | rfl | cases hp

theorem sizeBuffers_eq (c : Connector) :
    ∃ log, c.sizeBuffers =
      { c with
        socket := (c.socket.called (.sendBuffer c.options.sendBuffer)).called
          (.recvBuffer c.options.recvBuffer)
        log } := by
  unfold sizeBuffers
  cases h : c.socket.bufferFault with
  | none =>
    exact ⟨c.log, by
      simp [Socket.setSendBuffer, Socket.setRecvBuffer, Socket.called, noteBuffer, h]⟩
  | some kind =>
    exact ⟨c.log ++ [.bufferFailed .send (Socket.injected kind),
      .bufferFailed .receive (Socket.injected kind)], by
      simp [Socket.setSendBuffer, Socket.setRecvBuffer, Socket.called, noteBuffer, note, h]⟩

/-- The size of the buffers plays no part in what comes after. -/
theorem exists_dialled_of_sizeBuffers {c c' : Connector} {localAddr remote : SocketAddr}
    (h : Dialled c.sizeBuffers localAddr remote c') :
    ∃ log, Dialled
      { c with
        socket := (c.socket.called (.sendBuffer c.options.sendBuffer)).called
          (.recvBuffer c.options.recvBuffer)
        log } localAddr remote c' := by
  obtain ⟨log, hsized⟩ := sizeBuffers_eq c
  exact ⟨log, hsized ▸ h⟩

@[simp] theorem phase_sizeBuffers (c : Connector) : c.sizeBuffers.phase = c.phase := by
  obtain ⟨log, h⟩ := sizeBuffers_eq c
  rw [h]

@[simp] theorem resolved_sizeBuffers (c : Connector) : c.sizeBuffers.resolved = c.resolved := by
  obtain ⟨log, h⟩ := sizeBuffers_eq c
  rw [h]

@[simp] theorem stats_sizeBuffers (c : Connector) : c.sizeBuffers.stats = c.stats := by
  obtain ⟨log, h⟩ := sizeBuffers_eq c
  rw [h]

/-- Where an attempt to connect may lead. -/
theorem frame_dialled {c c' : Connector} {localAddr remote : SocketAddr}
    (h : Dialled c localAddr remote c') :
    (c'.state = .stoppingSocket ∨ c'.state = .connecting) ∧ c'.phase = c.phase ∧
      c'.resolved = c.resolved := by
  cases h with
  | bindFailed | refused => exact ⟨.inl rfl, rfl, rfl⟩
  | connecting => exact ⟨.inr rfl, rfl, rfl⟩

theorem frame_attempted {c c' : Connector} {ip : IpAddr} (h : Attempted c ip c') :
    (c'.state = .waiting ∨ c'.state = .stoppingSocket ∨ c'.state = .connecting) ∧
      c'.phase = c.phase ∧ c'.resolved = c.resolved := by
  cases h with
  | openFailed => exact ⟨.inl rfl, rfl, rfl⟩
  | opened opened dialled =>
    obtain ⟨hstate, hphase, hresolved⟩ := frame_dialled dialled
    exact ⟨.inr hstate, by simpa using hphase, by simpa using hresolved⟩

/-- A connector at work that holds no result. -/
theorem coherent_of_resolved_eq_none {c : Connector} (hp : c.phase = c.state.phase)
    (hs : c.state ≠ .stoppingResolver) (hr : c.resolved = none) : Coherent c :=
  ⟨hp, fun h => absurd h hs, fun _ _ => hr⟩

theorem phase_handled {c c' : Connector} {e : Event} (h : Handled c e c') :
    c'.phase = c.phase := by
  cases h with
  | found => exact (frame_attempted (attempted_startConnecting ..)).2.1
  | _ => rfl

theorem coherent_handled {c c' : Connector} {e : Event} (hc : Coherent c) (h : Handled c e c') :
    Coherent c' := by
  have hnone {s} (hs : c.state = s) (hp : s.phase = .active) (hn : s ≠ .stoppingResolver) :
      c.resolved = none :=
    hc.resolved_eq_none (by rw [hc.phase_eq, hs, hp]) (by rwa [hs])
  have hphase {s} (hs : c.state = s) (hp : s.phase = .active) : c.phase = .active := by
    rw [hc.phase_eq, hs, hp]
  cases h with
  | done result resolving =>
    refine ⟨hphase resolving rfl, fun _ => rfl, fun _ hn => absurd rfl hn⟩
  | found stopping =>
    obtain ⟨hstate, hp, hr⟩ :=
      frame_attempted (attempted_startConnecting { c with resolved := none } _)
    have hactive := hp.trans (hphase stopping rfl)
    rcases hstate with hs | hs | hs <;>
      exact coherent_of_resolved_eq_none (by rw [hactive, hs]; rfl) (by simp [hs]) hr
  | unfound stopping =>
    exact coherent_of_resolved_eq_none (hphase stopping rfl) (by simp [waitBeforeRetry, note]) rfl
  | connected connecting | connectFailed connecting =>
    exact coherent_of_resolved_eq_none (hphase connecting rfl)
      (by simp [onConnected, onConnectError, giveUp]) (hnone connecting rfl (by simp))
  | broken active =>
    exact coherent_of_resolved_eq_none (hphase active rfl) (by simp [onBroken])
      (hnone active rfl (by simp))
  | halfClosed => exact hc
  | ended stopping =>
    exact coherent_of_resolved_eq_none (hphase stopping rfl) (by simp)
      (hnone stopping rfl (by simp))
  | closed stopping =>
    exact coherent_of_resolved_eq_none (hphase stopping rfl) (by simp [waitBeforeRetry, note])
      (hnone stopping rfl (by simp))
  | timedOut waiting =>
    exact coherent_of_resolved_eq_none (hphase waiting rfl) (by simp) (hnone waiting rfl (by simp))
  | rested stopping =>
    exact coherent_of_resolved_eq_none (hphase stopping rfl) (by simp [startResolving])
      (hnone stopping rfl (by simp))

/-- Once the shutdown has begun, results of lookups play no part. -/
theorem coherent_of_phase_ne {c : Connector} (hp : c.phase = c.state.phase)
    (hn : c.phase ≠ .active) : Coherent c := by
  refine ⟨hp, fun hs => ?_, fun h => absurd h hn⟩
  rw [hp, hs] at hn
  exact absurd rfl hn

theorem coherent_passed {c c' : Connector} (h : Passed c c') (hc : Coherent c) : Coherent c' := by
  cases h with
  | session state =>
    have hphase : c.phase = .stopping := by rw [hc.phase_eq, state]; rfl
    exact coherent_of_phase_ne hphase (by simp [hphase])
  | others => exact coherent_of_phase_ne rfl (by simp)

theorem coherent_beginStop (c : Connector) : Coherent c.beginStop :=
  coherent_of_phase_ne rfl (by simp [beginStop])

theorem coherent_note {c : Connector} (hc : Coherent c) (notice : Notice) :
    Coherent (c.note notice) :=
  { hc with }

/-- Where a shutdown stands still: it waits for someone who is not at rest, or it is over. -/
inductive Paused (c : Connector) : Prop
  | session (state : c.state = .stoppingSessionFinal) (busy : ¬c.session.isIdle) : Paused c
  | others (state : c.state = .stopping)
      (busy : ¬c.retry.isIdle ∨ ¬c.socket.isIdle ∨ ¬c.resolver.isIdle) : Paused c
  | stopped (state : c.state = .idle) (phase : c.phase = .stopped) : Paused c

/-- A stage that is not passed has someone to wait for. -/
theorem paused_of_passStage {c : Connector} (hphase : c.phase = c.state.phase)
    (inactive : c.phase ≠ .active) (h : passStage c = none) : Paused c := by
  have hstuck : ∀ m, ¬Passed c m := fun m hm => by simp [passStage_of_passed hm] at h
  cases state : c.state with
  | resolving | stoppingResolver | connecting | active | stoppingSession | stoppingSocket | waiting
  | stoppingBackoff =>
    exact absurd (by rw [hphase, state]; rfl) inactive
  | idle => exact .stopped state (by rw [hphase, state]; rfl)
  | stoppingSessionFinal => exact .session state fun idle => hstuck _ (.session state idle)
  | stopping =>
    refine .others state ?_
    by_contra hidle
    push Not at hidle
    obtain ⟨timerIdle, socketIdle, resolverIdle⟩ := hidle
    exact hstuck _ (.others state timerIdle socketIdle resolverIdle)

/-- What every stage of the shutdown keeps is kept by the shutdown as far as it goes. -/
theorem advanceShutdown_induction {P : Connector → Prop} (hP : ∀ m m', Passed m m' → P m → P m')
    {c : Connector} (h : P c) : P c.advanceShutdown :=
  passStages_induction (fun m m' hm => hP m m' (passed_of_passStage hm)) _ h

theorem coherent_advanceShutdown {c : Connector} (hc : Coherent c) : Coherent c.advanceShutdown :=
  advanceShutdown_induction (fun _ _ => coherent_passed) hc

theorem passStage_advanceShutdown (c : Connector) : passStage c.advanceShutdown = none :=
  passStage_passStages (fun m => m.state.stagesLeft) (fun _ _ => stagesLeft_passStage) rfl

theorem paused_advanceShutdown {c : Connector} (hphase : c.phase = c.state.phase)
    (inactive : c.phase ≠ .active) : Paused c.advanceShutdown := by
  have hkept : c.advanceShutdown.phase = c.advanceShutdown.state.phase ∧
      c.advanceShutdown.phase ≠ .active := by
    refine advanceShutdown_induction (P := fun m => m.phase = m.state.phase ∧ m.phase ≠ .active)
      (fun m m' hp hm => ?_) ⟨hphase, inactive⟩
    cases hp with
    | session state => exact ⟨by rw [hm.1, state]; rfl, hm.2⟩
    | others => exact ⟨rfl, by simp⟩
  exact paused_of_passStage hkept.1 hkept.2 (passStage_advanceShutdown c)

theorem handle_of_stopping {c : Connector} (hp : c.phase = .stopping) (e : Event) :
    c.handle e = .done (c.onShutdown e) := by
  rw [handle, hp]

theorem coherent_completeStop {c : Connector} (hc : Coherent c) (x : Collaborator) :
    Coherent (c.completeStop x) := by
  cases x <;> exact { hc with }

/-- What a connector can do in one request: all of it, if the request is carried out. -/
inductive Stepped (c : Connector) : Action → Connector → Prop
  | handled {e c'} (active : c.phase = .active) (h : Handled c e c') : Stepped c (.event e) c'
  | absorbed (e : Event) (stopping : c.phase = .stopping) :
      Stepped c (.event e) (c.note (.whileStopping e)).advanceShutdown
  | stopBegun (active : c.phase = .active) : Stepped c .stop c.beginStop.advanceShutdown
  | stopIgnored (inactive : c.phase ≠ .active) : Stepped c .stop c
  | completed (x : Collaborator) : Stepped c (.completeStop x) (c.completeStop x)
  | injected (point : FaultPoint) (kind : ErrorKind) :
      Stepped c (.inject point kind) { c with socket := c.socket.inject point kind }

theorem stepped_of_step {c c' : Connector} {a : Action} (h : c.step a = .done c') :
    Stepped c a c' := by
  cases a with
  | event e =>
    change c.handle e = .done c' at h
    unfold handle at h
    split at h
    case h_1 active => exact .handled active (handled_of_onEvent h)
    case h_2 stopping => cases h; exact .absorbed e stopping
    case h_3 => cases h
    case h_4 => cases h
  | stop =>
    cases h
    by_cases active : c.phase = .active
    · rw [stop, if_pos active]
      exact .stopBegun active
    · rw [stop, if_neg active]
      exact .stopIgnored active
  | completeStop x => cases h; exact .completed x
  | inject point kind => cases h; exact .injected point kind

theorem coherent_step {c c' : Connector} {a : Action} (hc : Coherent c)
    (h : c.step a = .done c') : Coherent c' := by
  cases stepped_of_step h with
  | handled active he => exact coherent_handled hc he
  | absorbed e => exact coherent_advanceShutdown (coherent_note hc _)
  | stopBegun => exact coherent_advanceShutdown (coherent_beginStop c)
  | stopIgnored => exact hc
  | completed x => exact coherent_completeStop hc x
  | injected => exact { hc with }

/-- A connector that has been created and begins to look up its peer. -/
def begun (address : String) (target : ConnectAddress) (options : Options) (parts : Parts) :
    Connector :=
  startResolving { (fresh address target options parts).note .created with phase := .active }

theorem exists_begun_of_create {address : String} {options : Options} {parts : Parts}
    {c : Connector} (h : create address options parts = .ok (.done c)) :
    ∃ target, ConnectAddress.parse address options.ipv4Only = .ok target ∧
      c = begun address target options parts := by
  unfold create at h
  cases ht : ConnectAddress.parse address options.ipv4Only with
  | error e => rw [ht] at h; cases h
  | ok target =>
    rw [ht] at h
    simp only [Except.map, start, fresh, if_true, Except.ok.injEq, Outcome.done.injEq] at h
    exact ⟨target, rfl, h.symm⟩

theorem exists_begun_of_created {c : Connector} (h : Created c) :
    ∃ address target options parts, Parts.Unused parts ∧
      c = begun address target options parts := by
  obtain ⟨address, options, parts, unused, h⟩ := h
  obtain ⟨target, -, rfl⟩ := exists_begun_of_create h
  exact ⟨address, target, options, parts, unused, rfl⟩

theorem phase_created {c : Connector} (h : Created c) : c.phase = .active := by
  obtain ⟨address, target, options, parts, -, rfl⟩ := exists_begun_of_created h
  rfl

theorem coherent_created {c : Connector} (h : Created c) : Coherent c := by
  obtain ⟨address, target, options, parts, -, rfl⟩ := exists_begun_of_created h
  exact coherent_of_resolved_eq_none rfl (by simp [begun, startResolving]) rfl

theorem Reachable.coherent {c : Connector} (h : Reachable c) : Coherent c := by
  induction h with
  | created h => exact coherent_created h
  | step a _ hs ih => exact coherent_step ih hs

end EndpointLifecycle.Connector
