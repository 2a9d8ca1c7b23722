import EndpointLifecycle.Proofs.Connector.Attempts
import EndpointLifecycle.Proofs.Connector.Rhythm
import EndpointLifecycle.Proofs.Connector.WindingDown
import Mathlib.Data.List.DropRight

/-!
# What the host hears of failures

A connector waits after every failure, and before it waits it has told its host of a failure of this
attempt: by an error, or by one of the counters of failed connects and broken connections. Only a
lookup that finds nobody is written to the log and told to no one.
-/

namespace EndpointLifecycle.Connector

/-- What the host is told in a request, as the statistics of a host that had heard of nothing. -/
def told (c : Connector) (a : Action) : Statistics :=
  ({ c with stats := {} }.step a).machine.stats

/-- The host is told of a failure: of an error, a failed connect or a broken connection. -/
def reports (c : Connector) (a : Action) : Bool :=
  (c.told a).lastError.isSome ∨ 0 < (c.told a).connectErrors ∨ 0 < (c.told a).broken

/-- A lookup is begun. -/
def looksUp (t : Transition Connector Action) : Bool :=
  t.after.resolver.lookups ≠ t.before.resolver.lookups

/-- The timer is armed. -/
def arms (t : Transition Connector Action) : Bool :=
  t.after.retry.timer.intervals ≠ t.before.retry.timer.intervals

/-- The requests since the latest lookup was begun. -/
def History.attempt (h : History) : History := h.rtakeWhile (!looksUp ·)

/-- The host has been told of a failure since the latest lookup was begun. -/
def History.reported (h : History) : Bool := h.attempt.any fun t => t.before.reports t.action

theorem History.reported_snoc (h : History) (t : Transition Connector Action) :
    reported (h ++ [t]) =
      if looksUp t then false else h.reported || t.before.reports t.action := by
  unfold reported attempt
  rw [List.rtakeWhile_concat]
  cases looksUp t <;> simp

section Told

variable {c c' m : Connector} {a : Action} {e : Event}

/-- The host is told what a connector tells it that differs in nothing but its statistics. -/
theorem told_of_handled (active : c.phase = .active) (h : Handled { c with stats := {} } e m) :
    c.told (.event e) = m.stats := by
  have hstep : step { c with stats := {} } (.event e) = .done m :=
    handle_of_handled (c := { c with stats := {} }) active h
  rw [told, hstep]
  rfl

theorem reports_of_told_nothing (h : c.told a = {}) : c.reports a = false := by
  simp [reports, h]

theorem reports_of_error (h : (c.told a).lastError.isSome) : c.reports a = true := by
  simp [reports, h]

/-- An attempt to connect that fails at once is told as an error. -/
theorem told_attempted {ip : IpAddr} (h : Attempted c ip c') :
    c'.state = .connecting ∧ c'.stats = c.stats.record .inProgressConnections 1 ∨
      c'.state ≠ .connecting ∧ c'.stats.lastError.isSome := by
  cases h with
  | openFailed => exact .inr ⟨by simp [waitBeforeRetry, note], rfl⟩
  | opened opened dialled =>
    obtain ⟨log, dialled⟩ := exists_dialled_of_sizeBuffers dialled
    cases dialled with
    | bindFailed | refused => exact .inr ⟨by simp [giveUp], rfl⟩
    | connecting => exact .inl ⟨rfl, rfl⟩

theorem state_connectOpen (hs : m.socket = c.socket) (localAddr remote : SocketAddr) :
    (m.connectOpen localAddr remote).state = (c.connectOpen localAddr remote).state := by
  unfold connectOpen
  rw [hs]
  split
  · rfl
  · split <;> rfl

/-- How an attempt comes out does not depend on the statistics. -/
theorem state_startConnecting (c : Connector) (stats : Statistics) (ip : IpAddr) :
    (startConnecting { c with stats } ip).state = (c.startConnecting ip).state := by
  unfold startConnecting
  dsimp only
  split
  · rfl
  · apply state_connectOpen
    obtain ⟨log, hm⟩ := sizeBuffers_eq
      { c with stats, remote := some (c.target.remoteAddr ip), socket := _ }
    obtain ⟨log', hc⟩ := sizeBuffers_eq
      { c with remote := some (c.target.remoteAddr ip), socket := _ }
    rw [hm, hc]

/-- A result that is used either leads to a connect, of which the host is told nothing bad, or is
told as an error. -/
theorem reports_found {ip : IpAddr} (active : c.phase = .active)
    (stopping : c.state = .stoppingResolver) (resolved : c.resolved = some (.found ip)) :
    (startConnecting { c with resolved := none } ip).state = .connecting ∧
        c.reports (.event (.resolver .stopped)) = false ∨
      (startConnecting { c with resolved := none } ip).state ≠ .connecting ∧
        c.reports (.event (.resolver .stopped)) = true := by
  have htold := told_of_handled active (.found (c := { c with stats := {} }) stopping resolved)
  have hstate := state_startConnecting { c with resolved := none } {} ip
  rw [← hstate]
  rcases told_attempted (attempted_startConnecting { c with stats := {}, resolved := none } ip) with
    ⟨hs, hstats⟩ | ⟨hs, herror⟩
  · refine .inl ⟨hs, ?_⟩
    rw [reports, htold, hstats]
    rfl
  · exact .inr ⟨hs, reports_of_error (by rw [htold]; exact herror)⟩

end Told

/-- Whether an attempt has failed that has come to the state, where the state tells it. -/
def State.failed : State → Option Bool
  | .resolving | .stoppingResolver | .connecting | .active => some false
  | .stoppingSession | .stoppingSocket => some true
  | _ => none

/-- The host has been told of a failure of this attempt if there was one. -/
structure Informed (h : History) (c : Connector) : Prop where
  coherent : Coherent c
  told : ∀ failed, c.state.failed = some failed → h.reported = failed

section Informed

variable {h : History} {c c' : Connector} {a : Action}

theorem State.phase_of_failed {s : State} {failed : Bool} (h : s.failed = some failed) :
    s.phase = .active := by
  cases s <;> first | rfl | cases h

/-- A state that does not tell. -/
theorem informed_of_failed_eq_none (hc : Coherent c) (hn : c.state.failed = none) :
    Informed h c :=
  ⟨hc, by simp [hn]⟩

theorem informed_of_phase_ne (hc : Coherent c) (hp : c.phase ≠ .active) : Informed h c :=
  ⟨hc, fun _ hf => absurd (hc.phase_eq.trans (State.phase_of_failed hf)) hp⟩

/-- The attempt has come further, and has failed in this request or not. -/
theorem Informed.next (hi : Informed h c) (hc' : Coherent c')
    (hl : c'.resolver.lookups = c.resolver.lookups)
    (hr : ∀ failed, c'.state.failed = some failed →
      c.reports a = true ∧ failed = true ∨
        c.reports a = false ∧ c.state.failed = some failed) :
    Informed (h ++ [⟨c, a, c'⟩]) c' := by
  refine ⟨hc', fun failed hf => ?_⟩
  have hnone : looksUp ⟨c, a, c'⟩ = false := by simp [looksUp, hl]
  rw [History.reported_snoc, hnone]
  rcases hr failed hf with ⟨hreports, rfl⟩ | ⟨hreports, hfailed⟩
  · simp [hreports]
  · simp [hreports, hi.told failed hfailed]

/-- The host is told nothing and the state tells the same as before. -/
theorem Informed.same (hi : Informed h c) (hc' : Coherent c')
    (hl : c'.resolver.lookups = c.resolver.lookups) (ht : c.told a = {})
    (hf : c'.state.failed = c.state.failed) : Informed (h ++ [⟨c, a, c'⟩]) c' :=
  hi.next hc' hl fun _ hfailed => .inr ⟨reports_of_told_nothing ht, hf ▸ hfailed⟩

theorem informed_handled {e : Event} (hi : Informed h c) (active : c.phase = .active)
    (he : Handled c e c') : Informed (h ++ [⟨c, .event e, c'⟩]) c' := by
  have hc' := coherent_handled hi.coherent he
  cases he with
  | done result resolving =>
    exact hi.same hc' rfl (told_of_handled active (.done result resolving))
      (by rw [resolving]; rfl)
  | @found ip stopping resolved =>
    have hl := (remote_attempted
      (attempted_startConnecting { c with resolved := none } ip)).2.1
    refine hi.next hc' (congrArg (·.lookups) hl) fun failed hfailed => ?_
    rcases reports_found active stopping resolved with ⟨hs, hr⟩ | ⟨hs, hr⟩
    · rw [hs] at hfailed
      exact .inr ⟨hr, by rw [stopping]; exact hfailed⟩
    · refine .inl ⟨hr, ?_⟩
      rcases (frame_attempted
        (attempted_startConnecting { c with resolved := none } ip)).1 with hw | hw | hw
      · simp [hw, State.failed] at hfailed
      · simpa [hw, State.failed] using hfailed.symm
      · exact absurd hw hs
  | unfound => exact informed_of_failed_eq_none hc' rfl
  | connected connecting =>
    refine hi.next hc' rfl fun failed hfailed => .inr ⟨?_, by rw [connecting]; exact hfailed⟩
    rw [reports, told_of_handled active (.connected (c := { c with stats := {} }) connecting)]
    rfl
  | connectFailed connecting =>
    refine hi.next hc' rfl fun failed hfailed => .inl ⟨reports_of_error ?_, ?_⟩
    · rw [told_of_handled active (.connectFailed (c := { c with stats := {} }) connecting)]
      rfl
    · simpa [onConnectError, giveUp, State.failed] using hfailed.symm
  | broken hactive =>
    refine hi.next hc' rfl fun failed hfailed => .inl ⟨?_, ?_⟩
    · rw [reports, told_of_handled active (.broken (c := { c with stats := {} }) hactive)]
      rfl
    · simpa [onBroken, State.failed] using hfailed.symm
  | halfClosed stopping =>
    exact hi.same hc' rfl
      (told_of_handled active (.halfClosed (c := { c with stats := {} }) stopping)) rfl
  | ended stopping =>
    exact hi.same hc' rfl (told_of_handled active (.ended stopping)) (by rw [stopping]; rfl)
  | closed => exact informed_of_failed_eq_none hc' rfl
  | timedOut => exact informed_of_failed_eq_none hc' rfl
  | rested stopping =>
    refine ⟨hc', fun failed hfailed => ?_⟩
    have hlooks : looksUp ⟨c, .event (.retry .stopped), c.startResolving⟩ = true := by
      simp [looksUp, startResolving, note, Resolver.start]
    rw [History.reported_snoc, hlooks]
    simpa [startResolving, State.failed] using hfailed

theorem informed_stepped (hi : Informed h c) (hs : Stepped c a c') (hc' : Coherent c') :
    Informed (h ++ [⟨c, a, c'⟩]) c' := by
  cases hs with
  | handled active he => exact informed_handled hi active he
  | absorbed e stopping =>
    exact informed_of_phase_ne hc' (phase_absorbed_ne hi.coherent stopping e)
  | stopBegun => exact informed_of_phase_ne hc' (phase_stopBegun_ne c)
  | stopIgnored inactive => exact informed_of_phase_ne hc' inactive
  | completed x => cases x <;> exact hi.same hc' rfl rfl rfl
  | injected => exact hi.same hc' rfl rfl rfl

end Informed

section Waits

variable {h : History} {c c' : Connector} {a : Action}

theorem reported_handled {e : Event} (hi : Informed h c) (active : c.phase = .active)
    (he : Handled c e c') (armed : c'.retry.timer.intervals ≠ c.retry.timer.intervals) :
    History.reported (h ++ [⟨c, .event e, c'⟩]) = !c.unfound (.event e) := by
  rw [History.reported_snoc]
  cases he with
  | done | connected | connectFailed | broken | halfClosed | ended | timedOut | rested =>
    exact absurd rfl armed
  | @found ip stopping resolved =>
    have hattempted := attempted_startConnecting { c with resolved := none } ip
    have hentered := (beat_attempted (by simp [stopping]) hattempted).entered armed
    have hlooks : looksUp ⟨c, .event (.resolver .stopped),
        startConnecting { c with resolved := none } ip⟩ = false := by
      simp [looksUp, (remote_attempted hattempted).2.1]
    rcases reports_found active stopping resolved with ⟨hs, -⟩ | ⟨-, hreports⟩
    · rw [hentered.2] at hs
      cases hs
    · simp [hlooks, hreports, unfound, resolved, Resolution.isFailed]
  | @unfound kind stopping resolved =>
    have hsilent := told_of_handled active
      (.unfound (c := { c with stats := {} }) stopping resolved)
    have hold : h.reported = false := hi.told false (by rw [stopping]; rfl)
    simp [hold, reports_of_told_nothing hsilent, Connector.unfound, stopping, resolved,
      Resolution.isFailed]
  | closed stopping =>
    have hold : h.reported = true := hi.told true (by rw [stopping]; rfl)
    have hlooks : looksUp ⟨c, .event (.socket .stopped), c.waitBeforeRetry⟩ = false := by
      simp [looksUp, waitBeforeRetry, note]
    simp [hlooks, hold, unfound]

/-- Whoever waits has told the host why, unless nobody was found. -/
theorem reported_stepped (hi : Informed h c) (hs : Stepped c a c') (ha : arms ⟨c, a, c'⟩) :
    History.reported (h ++ [⟨c, a, c'⟩]) = !c.unfound a := by
  have armed : c'.retry.timer.intervals ≠ c.retry.timer.intervals := by simpa [arms] using ha
  cases hs with
  | handled active he => exact reported_handled hi active he armed
  | absorbed e =>
    have hm := (beginsNothing_note c (.whileStopping e)).trans (beginsNothing_advanceShutdown _)
    exact absurd hm.rhythm.intervals_eq armed
  | stopBegun =>
    have hm := (beginsNothing_beginStop c).trans (beginsNothing_advanceShutdown _)
    exact absurd hm.rhythm.intervals_eq armed
  | stopIgnored => exact absurd rfl armed
  | completed x => exact absurd (beginsNothing_completeStop c x).rhythm.intervals_eq armed
  | injected => exact absurd rfl armed

end Waits

section Run

variable {address : String} {options : Options} {parts : Parts} {c₀ c c' : Connector}
  {actions : List Action} {a : Action}

theorem informed_run (unused : Parts.Unused parts)
    (created : create address options parts = .ok (.done c₀))
    (hrun : c₀.run actions = .done c) : Informed (c₀.history actions) c := by
  refine Outcome.history_induction (P := Informed) ?_ ?_ hrun
  · have hc := coherent_created ⟨address, options, parts, unused, created⟩
    obtain ⟨target, -, rfl⟩ := exists_begun_of_create created
    exact ⟨hc, fun _ hf => Option.some.inj hf⟩
  · intro h c a c' hi hstep
    exact informed_stepped hi (stepped_of_step hstep) (coherent_step hi.coherent hstep)

/-- Of every failure that makes a connector wait the host has been told since the lookup of the
attempt was begun, except of a lookup that found nobody: of that it hears nothing. -/
theorem waits_reported_unless_unfound (unused : Parts.Unused parts)
    (created : create address options parts = .ok (.done c₀)) (hrun : c₀.run actions = .done c)
    (hstep : c.step a = .done c') (armed : arms ⟨c, a, c'⟩) :
    History.reported (c₀.history actions ++ [⟨c, a, c'⟩]) = !c.unfound a :=
  reported_stepped (informed_run unused created hrun) (stepped_of_step hstep) armed

/-- A connection breaks, and the host has heard of it before the wait. -/
theorem waits_reported_unless_unfound_broken_connection :
    ∃ c₀ actions c c', create "localhost:5555" {} {} = .ok (.done c₀) ∧
      c₀.run actions = .done c ∧ c.step (.event (.socket .stopped)) = .done c' ∧
      c.state = .stoppingSocket ∧ c'.state = .waiting ∧
      History.reported (c₀.history actions ++ [⟨c, .event (.socket .stopped), c'⟩]) = true := by
  have created : create "localhost:5555" {} {} = .ok (.done _) := rfl
  exact ⟨_,
    [.event (.resolver (.done (.found (.v4 ⟨127, 0, 0, 1⟩)))), .event (.resolver .stopped),
      .event (.socket .connected), .event (.session .error), .event (.session .stopped)],
    _, _, created, rfl, rfl, rfl, rfl,
    waits_reported_unless_unfound ⟨rfl, rfl, rfl, rfl, rfl⟩ created rfl rfl rfl⟩

/-- Nobody is found. The connector waits, and the host has heard of no failure. -/
theorem unfound_not_reported :
    ∃ c₀ actions c c', create "nonexistent.invalid:5555" {} {} = .ok (.done c₀) ∧
      actions = [.event (.resolver (.done (.failed .notFound))), .completeStop .resolver] ∧
      c₀.run actions = .done c ∧ c.step (.event (.resolver .stopped)) = .done c' ∧
      arms ⟨c, .event (.resolver .stopped), c'⟩ = true ∧
      History.reported (c₀.history actions ++ [⟨c, .event (.resolver .stopped), c'⟩]) = false ∧
      c'.stats = {} := by
  have created : create "nonexistent.invalid:5555" {} {} = .ok (.done _) := rfl
  exact ⟨_, _, _, _, created, rfl, rfl, rfl, rfl, rfl, rfl⟩

end Run

end EndpointLifecycle.Connector
