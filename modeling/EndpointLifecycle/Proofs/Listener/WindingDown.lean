import EndpointLifecycle.Proofs.LastWord
import EndpointLifecycle.Proofs.Listener.Beginnings

/-!
# A listener after its stop

From the end of an accepted stop on a listener only lets come to their end what it has begun, and
its host hears one thing more at most: that it has stopped. After that it takes no event any more.
-/

namespace EndpointLifecycle.Listener

/-- What may become of a listener that has accepted a stop. -/
structure WindsDown (l l' : Listener) : Prop where
  nothing : BeginsNothing l l'
  coherent : Coherent l'
  host : LastWord l.phase l.stats l'.phase l'.stats

section WindsDown

variable {l l' l'' m : Listener} {a : Action}

theorem WindsDown.refl (hl : Coherent l) : WindsDown l l := ⟨.refl l, hl, .nothing⟩

theorem WindsDown.trans (h : WindsDown l l') (h' : WindsDown l' l'') : WindsDown l l'' where
  nothing := h.nothing.trans h'.nothing
  coherent := h'.coherent
  host := h.host.trans h'.host

theorem windsDown_passed (hl : Coherent l) (h : Passed l l') : WindsDown l l' where
  nothing := beginsNothing_passed h
  coherent := coherent_passed hl h
  host := by
    cases h with
    | acceptor | socket => exact .nothing
    | connections state => exact .stopped (by rw [hl.phase_eq, state]; rfl)

theorem WindsDown.advance (h : WindsDown l m) (ha : m.advanceShutdown = .done l') :
    WindsDown l l' :=
  advanceShutdown_induction (fun _ _ hp hm => hm.trans (windsDown_passed hm.coherent hp)) ha h

/-- A stop that is accepted ends the work. -/
theorem phase_stopBegun_ne (hl : Coherent l) (h : l.beginStop.advanceShutdown = .done m) :
    m.phase ≠ .active :=
  ((WindsDown.refl (coherent_beginStop hl)).advance h).host.phase_ne (by simp [beginStop])

theorem windsDown_stepped (hl : Coherent l) (hp : l.phase ≠ .active) (h : Stepped l a l') :
    WindsDown l l' := by
  cases h with
  | handled active | stopBegun active => exact absurd active hp
  | @absorbed e m _ stopping ha advanced =>
    have hm : WindsDown l m :=
      ⟨beginsNothing_absorbed ha, coherent_absorbed hl ha, by cases ha <;> exact .nothing⟩
    exact hm.advance advanced
  | stopIgnored => exact .refl hl
  | completed x =>
    exact ⟨beginsNothing_completeStop l x, coherent_completeStop hl x,
      by cases x <;> exact .nothing⟩
  | injected point kind =>
    exact ⟨beginsNothing_inject l point kind, (kept_inject l point kind).coherent hl,
      .nothing⟩

/-- Also a request that is refused begins nothing. -/
theorem windsDown_step (hl : Coherent l) (hp : l.phase ≠ .active) (a : Action) :
    WindsDown l (l.step a).machine := by
  cases h : l.step a with
  | done l' => exact windsDown_stepped hl hp (stepped_of_step h)
  | violation v m =>
    rw [eq_note_of_violation hl h]
    exact ⟨beginsNothing_note .., hl.congr rfl rfl rfl rfl rfl rfl, .nothing⟩

theorem windsDown_run (hl : Coherent l) (hp : l.phase ≠ .active) (actions : List Action) :
    WindsDown l (l.run actions).machine :=
  Outcome.machine_run_induction (P := WindsDown l)
    (fun _ a hm => hm.trans (windsDown_step hm.coherent (hm.host.phase_ne hp) a)) (.refl hl) actions

/-- A stop that is accepted is carried out. -/
theorem exists_windsDown_of_stop (hl : Coherent l) (active : l.phase = .active) :
    ∃ m, l.stop = .done m ∧ WindsDown l.beginStop m := by
  have hadvanced := advanceShutdown_eq (l := l.beginStop) rfl
  refine ⟨_, by rw [stop, if_pos active, hadvanced], ?_⟩
  exact (WindsDown.refl (coherent_beginStop hl)).advance hadvanced

end WindsDown

section Mark

variable {l l' : Listener} {a : Action}

theorem mark_setUp (h : SetUp l l') : l'.stats.stopped = l.stats.stopped := by
  cases h <;> rfl

/-- The host is not told of the end of a listener that is still at work. -/
theorem mark_stepped (hl : Coherent l) (h : Stepped l a l') (hp : l'.phase = .active) :
    l.phase = .active ∧ l'.stats.stopped = l.stats.stopped := by
  have active : l.phase = .active := by
    by_contra hne
    exact (windsDown_stepped hl hne h).host.phase_ne hne hp
  refine ⟨active, ?_⟩
  cases h with
  | handled _ he =>
    cases he with
    | rested => exact mark_setUp (setUp_startListening l)
    | _ => rfl
  | absorbed stopping => simp [active] at stopping
  | stopBegun _ advanced => exact absurd hp (phase_stopBegun_ne hl advanced)
  | stopIgnored => rfl
  | completed x => cases x <;> rfl
  | injected => rfl

theorem mark_run {l₀ : Listener} (hl : Coherent l₀) {actions : List Action}
    (hrun : l₀.run actions = .done l) (hp : l.phase = .active) :
    l.stats.stopped = l₀.stats.stopped := by
  have h : Coherent l ∧ (l.phase = .active → l.stats.stopped = l₀.stats.stopped) := by
    refine Outcome.history_induction
      (P := fun _ m => Coherent m ∧ (m.phase = .active → m.stats.stopped = l₀.stats.stopped))
      ⟨hl, fun _ => rfl⟩ ?_ hrun
    rintro - m a m' ⟨hm, hmark⟩ hstep
    refine ⟨coherent_step hm hstep, fun hp' => ?_⟩
    obtain ⟨active, hkept⟩ := mark_stepped hm (stepped_of_step hstep) hp'
    exact hkept.trans (hmark active)
  exact h.2 hp

end Mark

/-- How a listener stands after requests that came after the end `m₀` of the stop that it
accepted. -/
structure AfterStop (m₀ m : Listener) : Prop where
  nothing : BeginsNothing m₀ m
  counters_eq : ∀ stat, m.stats.get stat = m₀.stats.get stat
  lastError_eq : m.stats.lastError = m₀.stats.lastError
  host : LastWord m₀.phase m₀.stats m.phase m.stats
  ignored : m.phase = .stopped → m.stop = .done m
  refused : m.phase = .stopped → ∀ e, m.handle e =
    .violation ⟨.event e, .phase .stopped⟩ (m.note (.refused ⟨.event e, .phase .stopped⟩))

theorem WindsDown.afterStop {m₀ m : Listener} (h : WindsDown m₀ m) : AfterStop m₀ m where
  nothing := h.nothing
  counters_eq := h.host.get_eq
  lastError_eq := h.host.lastError_eq
  host := h.host
  ignored := fun hp => by simp [stop, hp]
  refused := fun hp e => by simp [handle, hp, refuse]

/-- What a stop that is accepted does, now and from then on. -/
structure Stops (parts : Parts) (l m₀ : Listener) : Prop where
  done : l.stop = .done m₀
  nothing : BeginsNothing l m₀
  unmarked : m₀.phase = .stopping → m₀.stats.stopped = parts.stats.stopped
  later : ∀ actions, AfterStop m₀ (m₀.run actions).machine

theorem exists_stops {address : String} {options : Options} {parts : Parts} {l₀ l : Listener}
    {actions : List Action} (unused : Parts.Unused parts)
    (created : create address options parts = .ok (.done l₀)) (hrun : l₀.run actions = .done l)
    (active : l.phase = .active) : ∃ m₀, Stops parts l m₀ := by
  have hl₀ := coherent_created ⟨address, options, parts, unused, created⟩
  have hl := (reachable_run (.created ⟨address, options, parts, unused, created⟩) hrun).coherent
  obtain ⟨bind, -, setUp⟩ := exists_setUp_begun created
  obtain ⟨m₀, hstop, hm⟩ := exists_windsDown_of_stop hl active
  have hphase : m₀.phase ≠ .active := hm.host.phase_ne (by simp [beginStop])
  refine ⟨m₀, hstop, (beginsNothing_beginStop l).trans hm.nothing, fun hstopping => ?_,
    fun after => (windsDown_run hm.coherent hphase after).afterStop⟩
  calc m₀.stats.stopped = l.stats.stopped := by
        rw [hm.host.stats_eq (by simp [hstopping])]
        rfl
    _ = l₀.stats.stopped := mark_run hl₀ hrun active
    _ = parts.stats.stopped := mark_setUp setUp

end EndpointLifecycle.Listener
