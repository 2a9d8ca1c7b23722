import EndpointLifecycle.Proofs.Connector.Readiness
import EndpointLifecycle.Proofs.System.Convergence

/-!
# A connector gets along with its collaborators

A connector in a shutdown takes every event and only looks at who is idle, so that what is under way
plays no part in it. Whatever its collaborators do within their contract, a connector refuses
nothing, it can always get its connection, and a shutdown comes to its end.
-/

namespace EndpointLifecycle.Connector

open Channel

/-- Who has been asked to stop and who is at rest, stage by stage. -/
structure Unwinding (c : Connector) : Prop where
  coherent : Coherent c
  not_active : c.phase ≠ .active
  session_stopped : (c.activity .session).status ≠ .running
  session_idle : c.state ≠ .stoppingSessionFinal → (c.activity .session).status = .idle
  others_stopped : c.state ≠ .stoppingSessionFinal → ∀ x, (c.activity x).status ≠ .running
  all_idle : c.state = .idle → ∀ x, (c.activity x).status = .idle

/-- As long as the shutdown goes on, someone still owes the end of a stop. -/
def Waits (s : System Connector Report) : Prop :=
  s.machine.phase = .stopping → ∃ x, Owing (ended x) (s.machine.activity x) (s.channel x)

def Closing (s : System Connector Report) : Prop := Unwinding s.machine ∧ Waits s

def members (_ : Connector) : List Collaborator := [.socket, .timer, .resolver, .session]

theorem mem_members (c : Connector) (x : Collaborator) : x ∈ c.members := by
  cases x <;> simp [members]

variable {s : System Connector Report} {c m : Connector}

theorem Unwinding.eases (h : Unwinding c) (hk : Kept c m)
    (he : ∀ x, (c.activity x).Eases (m.activity x)) : Unwinding m where
  coherent := hk.coherent h.coherent
  not_active := hk.phase_eq ▸ h.not_active
  session_stopped := (he _).not_running h.session_stopped
  session_idle hn := (he _).idle (h.session_idle (hk.state_eq ▸ hn))
  others_stopped hn x := (he x).not_running (h.others_stopped (hk.state_eq ▸ hn) x)
  all_idle hi x := (he x).idle (h.all_idle (hk.state_eq ▸ hi) x)

theorem unwinding_beginStop (c : Connector) : Unwinding c.beginStop where
  coherent := coherent_beginStop c
  not_active := by simp [beginStop]
  session_stopped := by
    change (if c.session.isIdle then c.session else c.session.stop).status ≠ .running
    split
    case isTrue hidle =>
      have hstatus : c.session.status = .idle := (isIdle_iff c).1.1 hidle
      simp [hstatus]
    case isFalse => exact Activity.stop_not_running _
  session_idle hn := absurd rfl hn
  others_stopped hn := absurd rfl hn
  all_idle := by simp [beginStop]

theorem Unwinding.passed (h : Unwinding c) (hp : Passed c m) : Unwinding m := by
  have hcoherent := coherent_passed hp h.coherent
  obtain ⟨hsession, htimer, hsocket, hresolver⟩ := isIdle_iff c
  cases hp with
  | session state sessionIdle =>
    exact
      { coherent := hcoherent
        not_active := h.not_active
        session_stopped := h.session_stopped
        session_idle := fun _ => hsession.1 sessionIdle
        others_stopped := fun _ x => by
          cases x with
          | session => exact h.session_stopped
          | socket | timer | resolver => exact Activity.stop_not_running _
        all_idle := by simp }
  | others state timerIdle socketIdle resolverIdle =>
    have hs : c.state ≠ .stoppingSessionFinal := by simp [state]
    exact
      { coherent := hcoherent
        not_active := by simp
        session_stopped := h.session_stopped
        session_idle := fun _ => h.session_idle hs
        others_stopped := fun _ => h.others_stopped hs
        all_idle := fun _ x => by
          cases x with
          | session => exact h.session_idle hs
          | timer => exact htimer.1 timerIdle
          | socket => exact hsocket.1 socketIdle
          | resolver => exact hresolver.1 resolverIdle }

theorem Unwinding.advanceShutdown (h : Unwinding c) : Unwinding c.advanceShutdown :=
  passStages_induction (fun _ _ hm h => h.passed (passed_of_passStage hm)) _ h

theorem Unwinding.note (h : Unwinding c) (notice : Notice) : Unwinding (c.note notice) :=
  h.eases ⟨rfl, rfl, rfl, rfl, rfl⟩ fun _ => .refl _

/-- Where a shutdown does not go on, it waits for someone. -/
theorem Unwinding.exists_stopping (h : Unwinding c) (hblocked : passStage c = none)
    (hp : c.phase = .stopping) : ∃ x, (c.activity x).status = .stopping := by
  obtain ⟨hsession, htimer, hsocket, hresolver⟩ := isIdle_iff c
  cases paused_of_passStage h.coherent.phase_eq h.not_active hblocked with
  | session _ busy =>
    exact ⟨.session, Status.eq_stopping h.session_stopped (mt hsession.2 busy)⟩
  | others state busy =>
    have hstopped := h.others_stopped (by simp [state])
    rcases busy with busy | busy | busy
    · exact ⟨.timer, Status.eq_stopping (hstopped _) (mt htimer.2 busy)⟩
    · exact ⟨.socket, Status.eq_stopping (hstopped _) (mt hsocket.2 busy)⟩
    · exact ⟨.resolver, Status.eq_stopping (hstopped _) (mt hresolver.2 busy)⟩
  | stopped _ stopped => simp [hp] at stopped

/-- A shutdown that has gone on as far as it can. -/
theorem Unwinding.closing (h : Unwinding c) : Closing (wiring.after s c.advanceShutdown) :=
  ⟨h.advanceShutdown, fun hp =>
    let ⟨x, hx⟩ := h.advanceShutdown.exists_stopping (passStage_advanceShutdown c) hp
    ⟨x, .inl hx⟩⟩

theorem Unwinding.at_rest (h : Unwinding c) (hp : c.phase = .stopped) (x : Collaborator) :
    (c.activity x).status = .idle :=
  h.all_idle (h.coherent.state_eq_idle hp) x

theorem Closing.proceeds (h : Closing s) (hk : Kept s.machine m)
    (he : ∀ x, (s.machine.activity x).Eases (m.activity x)) :
    wiring.Proceeds members Closing s (wiring.after s m) where
  closing := ⟨h.1.eases hk he, fun hp => by
    obtain ⟨x, hx⟩ := h.2 (hk.phase_eq.symm.trans hp)
    exact ⟨x, hx.eases (he x)⟩⟩
  members_eq := rfl
  stopped := hk.phase_eq.trans
  eases := he

theorem Closing.post (h : Closing s) (x : Collaborator) (r : Report x) : Closing (s.post x r) := by
  refine ⟨h.1, ?_⟩
  intro hp
  obtain ⟨y, hy⟩ := h.2 hp
  refine ⟨y, ?_⟩
  by_cases hxy : y = x
  · subst hxy
    rw [System.channel_post_self]
    exact hy.post r
  · rwa [System.channel_post_of_ne s hxy]

theorem Closing.deliver (h : Closing s) {x : Collaborator} (ha : wiring.Allows s (.deliver x)) :
    ∃ s', wiring.next s (.deliver x) = .done s' ∧ wiring.Proceeds members Closing s s' := by
  obtain ⟨hne, hstopped⟩ := ha
  obtain ⟨r, rest, hq⟩ := List.exists_cons_of_ne_nil hne
  have hphase : s.machine.phase = .stopping := h.1.coherent.stopping h.1.not_active hstopped
  refine ⟨_, Wiring.next_deliver hq (handle_of_stopping hphase _), ?_⟩
  exact
    { closing := (h.1.note _).closing
      members_eq := rfl
      stopped := fun hp => absurd hp hstopped
      eases := fun y => eases_advanceShutdown (s.machine.note _) y }

/-- No move is out of place in a shutdown. -/
theorem Closing.step (h : Closing s) {a : Move Report} (ha : wiring.Allows s a) :
    ∃ s', wiring.next s a = .done s' ∧ wiring.Proceeds members Closing s s' := by
  cases a with
  | post x r => exact ⟨_, rfl, h.post x r, rfl, id, fun _ => .refl _⟩
  | complete x => exact ⟨_, rfl, h.proceeds (kept_completeStop ..) fun y => eases_completeStop ..⟩
  | deliver x => exact h.deliver ha
  | stop =>
    have hstop : s.machine.stop = s.machine := if_neg h.1.not_active
    refine ⟨_, congrArg (fun m => Outcome.done (wiring.after s m)) hstop, ?_⟩
    rw [Wiring.after_self]
    exact ⟨h, rfl, id, fun _ => .refl _⟩
  | inject point kind => exact ⟨_, rfl, h.proceeds (kept_inject ..) fun y => eases_inject ..⟩
  | settle x atOnce => exact ⟨_, rfl, h.proceeds (kept_settle ..) fun y => eases_settle ..⟩

theorem AtWork.step (h : AtWork s) {a : Move Report} (hstop : a ≠ .stop)
    (ha : wiring.Allows s a) : ∃ s', wiring.next s a = .done s' ∧ AtWork s' := by
  cases a with
  | post x r => exact ⟨_, rfl, h.post ha⟩
  | complete x => exact ⟨_, rfl, h.completed ha⟩
  | deliver x =>
    obtain ⟨r, rest, hq⟩ := List.exists_cons_of_ne_nil ha.1
    obtain ⟨m, hhandled, hm⟩ := h.deliver hq
    exact ⟨_, Wiring.next_deliver hq (handle_of_handled h.active hhandled), hm⟩
  | stop => exact absurd rfl hstop
  | inject point kind =>
    exact ⟨_, rfl, h.eases (kept_inject ..) (fun y => eases_inject ..) fun y hy =>
      (congrArg Activity.status (activity_inject ..)).trans hy⟩
  | settle x atOnce =>
    exact ⟨_, rfl, h.eases (kept_settle ..) (fun y => eases_settle ..) fun y hy =>
      (status_settle ..).trans hy⟩

theorem AtWork.stopped (h : AtWork s) : ∃ s', wiring.next s .stop = .done s' ∧ Closing s' := by
  have hstop : s.machine.stop = s.machine.beginStop.advanceShutdown := if_pos h.active
  exact ⟨_, congrArg (fun m => Outcome.done (wiring.after s m)) hstop,
    (unwinding_beginStop s.machine).closing⟩

theorem guarantee :
    Wiring.Guarantee wiring members (fun c => c.state = .active) AtWork Closing where
  completeStop c x := (activity_completeStop c x x).trans (if_pos rfl)
  active s h := h.active
  work s a h := h.step
  gets_ready s h := h.attains_active
  stop s h := h.stopped
  closing s h := by
    by_cases hp : s.machine.phase = .stopped
    · exact .inr hp
    · exact .inl (h.1.coherent.stopping h.1.not_active hp)
  proceeds s a h := h.step
  owing s h hp := by
    obtain ⟨x, hx⟩ := h.2 hp
    exact ⟨x, mem_members _ x, hx⟩
  at_rest s h := h.1.at_rest

end EndpointLifecycle.Connector
