import EndpointLifecycle.Proofs.Connector.Beginnings
import EndpointLifecycle.Proofs.LastWord

/-!
# A connector after its stop

As with a listener, nothing begins any more from the end of an accepted stop on, and the host hears
no more than that the connector has stopped. A connector that is stopping refuses no event; once it
has stopped it refuses all of them.
-/

namespace EndpointLifecycle.Connector

/-- What may become of a connector that has accepted a stop. -/
structure WindsDown (c c' : Connector) : Prop where
  nothing : BeginsNothing c c'
  coherent : Coherent c'
  host : LastWord c.phase c.stats c'.phase c'.stats

section WindsDown

variable {c c' c'' m : Connector} {a : Action}

theorem WindsDown.refl (hc : Coherent c) : WindsDown c c := ⟨.refl c, hc, .nothing⟩

theorem WindsDown.trans (h : WindsDown c c') (h' : WindsDown c' c'') : WindsDown c c'' where
  nothing := h.nothing.trans h'.nothing
  coherent := h'.coherent
  host := h.host.trans h'.host

theorem windsDown_note (hc : Coherent c) (notice : Notice) : WindsDown c (c.note notice) :=
  ⟨beginsNothing_note .., coherent_note hc _, .nothing⟩

theorem windsDown_passed (hc : Coherent c) (h : Passed c c') : WindsDown c c' where
  nothing := beginsNothing_passed h
  coherent := coherent_passed h hc
  host := by
    cases h with
    | session => exact .nothing
    | others state => exact .stopped (by rw [hc.phase_eq, state]; rfl)

theorem windsDown_advanceShutdown (hc : Coherent c) : WindsDown c c.advanceShutdown :=
  advanceShutdown_induction (fun _ _ hp hm => hm.trans (windsDown_passed hm.coherent hp)) (.refl hc)

theorem phase_advanceShutdown_ne (hc : Coherent c) (hp : c.phase ≠ .active) :
    c.advanceShutdown.phase ≠ .active :=
  (windsDown_advanceShutdown hc).host.phase_ne hp

/-- An event that comes late does not bring the work back. -/
theorem phase_absorbed_ne (hc : Coherent c) (stopping : c.phase = .stopping) (e : Event) :
    (c.note (.whileStopping e)).advanceShutdown.phase ≠ .active :=
  phase_advanceShutdown_ne (coherent_note hc _) (by simp [note, stopping])

/-- A stop that is accepted ends the work. -/
theorem phase_stopBegun_ne (c : Connector) : c.beginStop.advanceShutdown.phase ≠ .active :=
  phase_advanceShutdown_ne (coherent_beginStop c) (by simp [beginStop])

theorem windsDown_stepped (hc : Coherent c) (hp : c.phase ≠ .active) (h : Stepped c a c') :
    WindsDown c c' := by
  cases h with
  | handled active | stopBegun active => exact absurd active hp
  | absorbed e =>
    have hm := windsDown_note hc (.whileStopping e)
    exact hm.trans (windsDown_advanceShutdown hm.coherent)
  | stopIgnored => exact .refl hc
  | completed x =>
    exact ⟨beginsNothing_completeStop c x, coherent_completeStop hc x,
      by cases x <;> exact .nothing⟩
  | injected point kind =>
    exact ⟨beginsNothing_inject c point kind, (kept_inject c point kind).coherent hc,
      .nothing⟩

/-- Also a request that is refused begins nothing. -/
theorem windsDown_step (hc : Coherent c) (hp : c.phase ≠ .active) (a : Action) :
    WindsDown c (c.step a).machine := by
  cases h : c.step a with
  | done c' => exact windsDown_stepped hc hp (stepped_of_step h)
  | violation v m =>
    rw [eq_note_of_violation h]
    exact windsDown_note hc _

theorem windsDown_run (hc : Coherent c) (hp : c.phase ≠ .active) (actions : List Action) :
    WindsDown c (c.run actions).machine :=
  Outcome.machine_run_induction (P := WindsDown c)
    (fun _ a hm => hm.trans (windsDown_step hm.coherent (hm.host.phase_ne hp) a)) (.refl hc) actions

end WindsDown

section Mark

variable {c c' : Connector} {a : Action}

theorem mark_attempted {ip : IpAddr} (h : Attempted c ip c') :
    c'.stats.stopped = c.stats.stopped := by
  cases h with
  | openFailed => rfl
  | opened opened dialled =>
    obtain ⟨log, dialled⟩ := exists_dialled_of_sizeBuffers dialled
    cases dialled <;> rfl

theorem mark_beginStop (c : Connector) : c.beginStop.stats.stopped = c.stats.stopped := by
  change (statsAtStop c.stats c.state).stopped = _
  unfold statsAtStop
  split <;> simp

/-- The host is not told of the end of a connector that is still at work. -/
theorem mark_stepped (hc : Coherent c) (h : Stepped c a c') (hp : c'.phase = .active) :
    c.phase = .active ∧ c'.stats.stopped = c.stats.stopped := by
  have active : c.phase = .active := by
    by_contra hne
    exact (windsDown_stepped hc hne h).host.phase_ne hne hp
  refine ⟨active, ?_⟩
  cases h with
  | handled _ he =>
    cases he with
    | @found ip =>
      have h := mark_attempted (attempted_startConnecting { c with resolved := none } ip)
      exact h
    | connected | connectFailed | broken => simp [onConnected, onConnectError, onBroken, giveUp]
    | done | unfound | halfClosed | ended | closed | timedOut | rested => rfl
  | absorbed e stopping => simp [active] at stopping
  | stopBegun => exact absurd hp (phase_stopBegun_ne c)
  | stopIgnored => rfl
  | completed x => cases x <;> rfl
  | injected => rfl

theorem mark_run {c₀ : Connector} (hc : Coherent c₀) {actions : List Action}
    (hrun : c₀.run actions = .done c) (hp : c.phase = .active) :
    c.stats.stopped = c₀.stats.stopped := by
  have h : Coherent c ∧ (c.phase = .active → c.stats.stopped = c₀.stats.stopped) := by
    refine Outcome.history_induction
      (P := fun _ m => Coherent m ∧ (m.phase = .active → m.stats.stopped = c₀.stats.stopped))
      ⟨hc, fun _ => rfl⟩ ?_ hrun
    rintro - m a m' ⟨hm, hmark⟩ hstep
    refine ⟨coherent_step hm hstep, fun hp' => ?_⟩
    obtain ⟨active, hkept⟩ := mark_stepped hm (stepped_of_step hstep) hp'
    exact hkept.trans (hmark active)
  exact h.2 hp

end Mark

/-- How a connector stands after requests that came after the end `m₀` of the stop that it
accepted. -/
structure AfterStop (m₀ m : Connector) : Prop where
  nothing : BeginsNothing m₀ m
  counters_eq : ∀ stat, m.stats.get stat = m₀.stats.get stat
  lastError_eq : m.stats.lastError = m₀.stats.lastError
  host : LastWord m₀.phase m₀.stats m.phase m.stats
  ignored : m.phase = .stopped → m.stop = m
  refused : m.phase = .stopped → ∀ e, m.handle e =
    .violation ⟨.event e, .phase .stopped⟩ (m.note (.refused ⟨.event e, .phase .stopped⟩))

theorem WindsDown.afterStop {m₀ m : Connector} (h : WindsDown m₀ m) : AfterStop m₀ m where
  nothing := h.nothing
  counters_eq := h.host.get_eq
  lastError_eq := h.host.lastError_eq
  host := h.host
  ignored := fun hp => by simp [stop, hp]
  refused := fun hp e => by simp [handle, hp, refuse]

/-- What a stop that is accepted does, now and from then on. -/
structure Stops (parts : Parts) (c : Connector) : Prop where
  nothing : BeginsNothing c c.stop
  unmarked : c.stop.phase = .stopping → c.stop.stats.stopped = parts.stats.stopped
  later : ∀ actions, AfterStop c.stop (c.stop.run actions).machine

theorem stops_of_run {address : String} {options : Options} {parts : Parts} {c₀ c : Connector}
    {actions : List Action} (unused : Parts.Unused parts)
    (created : create address options parts = .ok (.done c₀)) (hrun : c₀.run actions = .done c)
    (active : c.phase = .active) : Stops parts c := by
  have hc₀ := coherent_created ⟨address, options, parts, unused, created⟩
  obtain ⟨target, -, rfl⟩ := exists_begun_of_create created
  have hm := windsDown_advanceShutdown (coherent_beginStop c)
  have hstop : c.stop = c.beginStop.advanceShutdown := by rw [stop, if_pos active]
  rw [← hstop] at hm
  have hphase : c.stop.phase ≠ .active := hstop ▸ phase_stopBegun_ne c
  refine ⟨(beginsNothing_beginStop c).trans hm.nothing, fun hstopping => ?_,
    fun after => (windsDown_run hm.coherent hphase after).afterStop⟩
  calc c.stop.stats.stopped = c.stats.stopped := by
        rw [hm.host.stats_eq (by simp [hstopping]), mark_beginStop]
    _ = parts.stats.stopped := mark_run hc₀ hrun active

end EndpointLifecycle.Connector
