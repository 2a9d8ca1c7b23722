import EndpointLifecycle.Proofs.Listener.Readiness
import EndpointLifecycle.Proofs.Listener.Unwinding
import EndpointLifecycle.Proofs.System.Convergence

/-!
# A listener gets along with its collaborators

Whatever its collaborators do within their contract, a listener refuses nothing, it can always get
back to accepting peers, and a shutdown comes to its end.
-/

namespace EndpointLifecycle.Listener

open Channel

def Closing (s : System Listener Report) : Prop := Unwinding s ∧ Waits s

variable {s : System Listener Report} {m : Listener}

theorem Closing.proceeds (h : Closing s) (hk : Kept s.machine m)
    (he : ∀ c, (s.machine.activity c).Eases (m.activity c)) :
    wiring.Proceeds members Closing s (wiring.after s m) where
  closing := ⟨h.1.eases hk he, h.2.eases hk he⟩
  members_eq := congrArg (fun n => _ :: _ :: (List.range n).map _) hk.nextId_eq
  stopped := hk.phase_eq.trans
  eases := he

/-- A shutdown that has taken in an event or has just begun passes all the stages that it can. -/
theorem Unwinding.advance (h : Unwinding s) (hp : s.machine.state.phase = .stopping) :
    ∃ m, s.machine.advanceShutdown = .done m ∧
      (∀ c, (s.machine.activity c).Eases (m.activity c)) ∧ m.nextId = s.machine.nextId ∧
        Closing (wiring.after s m) := by
  have hdone := advanceShutdown_eq hp
  have hu := h.passStages s.machine.state.stagesLeft
  exact ⟨_, hdone, eases_passStages _ _, nextId_passStages .., hu,
    hu.waits (passStage_of_advanceShutdown hdone)⟩

theorem Closing.deliver (h : Closing s) {c : Collaborator} (ha : wiring.Allows s (.deliver c)) :
    ∃ s', wiring.next s (.deliver c) = .done s' ∧ wiring.Proceeds members Closing s s' := by
  obtain ⟨hne, hstopped⟩ := ha
  obtain ⟨r, rest, hq⟩ := List.exists_cons_of_ne_nil hne
  obtain ⟨m, habsorbed, hu⟩ := h.1.deliver hq
  obtain ⟨hstate, hnext⟩ := state_absorbed habsorbed
  have hphase : s.machine.phase = .stopping := h.1.coherent.stopping h.1.not_active hstopped
  have hsame : ∀ d, (s.machine.activity d).Eases (m.activity d) := fun d => by
    rw [activity_absorbed habsorbed]
    exact .refl _
  obtain ⟨m', hdone, heases, hnext', hclosing⟩ :=
    hu.advance (hstate ▸ h.1.coherent.phase_eq ▸ hphase)
  have hafter : wiring.after (wiring.after (s.take c) m) m' = wiring.after (s.take c) m' :=
    Wiring.after_after hsame heases
  refine ⟨_, Wiring.next_deliver hq (handle_of_absorbed hphase habsorbed hdone), ?_⟩
  exact
    { closing := hafter ▸ hclosing
      members_eq := congrArg (fun n => _ :: _ :: (List.range n).map _) (hnext'.trans hnext)
      stopped := fun hp => absurd hp hstopped
      eases := fun d => (hsame d).trans (heases d) }

/-- No move is out of place in a shutdown. -/
theorem Closing.step (h : Closing s) {a : Move Report} (ha : wiring.Allows s a) :
    ∃ s', wiring.next s a = .done s' ∧ wiring.Proceeds members Closing s s' := by
  cases a with
  | post c r => exact ⟨_, rfl, ⟨h.1.post ha, h.2.post r⟩, rfl, id, fun _ => .refl _⟩
  | complete c => exact ⟨_, rfl, h.proceeds (kept_completeStop ..) fun d => eases_completeStop ..⟩
  | deliver c => exact h.deliver ha
  | stop =>
    have hstop : s.machine.stop = .done s.machine := if_neg h.1.not_active
    refine ⟨_, congrArg (Outcome.map (wiring.after s)) hstop, ?_⟩
    rw [Wiring.after_self]
    exact ⟨h, rfl, id, fun _ => .refl _⟩
  | inject point kind => exact ⟨_, rfl, h.proceeds (kept_inject ..) fun d => eases_inject ..⟩
  | settle c atOnce => exact ⟨_, rfl, h.proceeds (kept_settle ..) fun d => eases_settle ..⟩

theorem AtWork.step (h : AtWork s) {a : Move Report} (hstop : a ≠ .stop)
    (ha : wiring.Allows s a) : ∃ s', wiring.next s a = .done s' ∧ AtWork s' := by
  cases a with
  | post c r => exact ⟨_, rfl, h.post ha⟩
  | complete c => exact ⟨_, rfl, h.completed ha⟩
  | deliver c =>
    obtain ⟨r, rest, hq⟩ := List.exists_cons_of_ne_nil ha.1
    obtain ⟨m, hhandled, hm⟩ := h.deliver hq
    exact ⟨_, Wiring.next_deliver hq (handle_of_handled h.active hhandled), hm⟩
  | stop => exact absurd rfl hstop
  | inject point kind =>
    exact ⟨_, rfl, h.eases (kept_inject ..) (fun d => eases_inject ..) fun d hd =>
      (congrArg Activity.status (activity_inject ..)).trans hd⟩
  | settle c atOnce =>
    exact ⟨_, rfl, h.eases (kept_settle ..) (fun d => eases_settle ..) fun d hd =>
      (status_settle ..).trans hd⟩

theorem AtWork.stopped (h : AtWork s) : ∃ s', wiring.next s .stop = .done s' ∧ Closing s' := by
  obtain ⟨m, hdone, heases, -, hclosing⟩ := h.beginStop.advance rfl
  have hstop : s.machine.stop = .done m := (if_pos h.active).trans hdone
  refine ⟨_, congrArg (Outcome.map (wiring.after s)) hstop, ?_⟩
  rwa [Wiring.after_after (eases_beginStop _) heases] at hclosing

/-- When a listener has stopped, nobody is at work any more. -/
theorem Unwinding.at_rest (h : Unwinding s) (hp : s.machine.phase = .stopped) (c : Collaborator) :
    (s.machine.activity c).status = .idle := by
  have hidle : s.machine.state = .idle := h.coherent.state_eq_idle hp
  cases c with
  | socket => exact h.staged.socket_idle (by simp [hidle]) (by simp [hidle])
  | timer => exact h.staged.timer_idle (by simp [hidle])
  | acceptor id =>
    have hnone : s.machine.pending = none :=
      h.coherent.pending_eq_none (by simp [hidle]) (by simp [hidle])
    refine h.staged.gone_idle id (by simp [hnone]) ?_
    simp [h.staged.established_eq_nil hidle]

theorem guarantee :
    Wiring.Guarantee wiring members (fun l => l.state = .active) AtWork Closing where
  completeStop l c := (activity_completeStop l c c).trans (if_pos rfl)
  active s h := h.active
  work s a h := h.step
  gets_ready s h := h.attains_active
  stop s h := h.stopped
  closing s h := by
    by_cases hp : s.machine.phase = .stopped
    · exact .inr hp
    · exact .inl (h.1.coherent.stopping h.1.not_active hp)
  proceeds s a h := h.step
  owing s h := h.2
  at_rest s h := h.1.at_rest

/-- A connection that reports its end has come to rest, so that none is forgotten at work. -/
theorem isIdle_of_stopped (h : wiring.Reachable Starts s) {id : ConnectionId}
    (established : id ∈ s.machine.established) {rest : List ConnectionEvent}
    (hq : (s.channel (.acceptor id)).queue = .stopped :: rest) : s.machine.acceptors.isIdle id := by
  have hfits :
      EstablishedFits (s.machine.activity (.acceptor id)) (s.channel (.acceptor id)) := by
    rcases guarantee.reachable (fun _ => atWork_of_starts) h with hwork | hclosing
    · have other : s.machine.pending ≠ some id := fun hp =>
        hwork.coherent.pending_notMem id hp established
      exact (acceptorFits_of_established other established).1 (hwork.fits (.acceptor id))
    · exact hclosing.1.established_fits id established
  rcases hfits.pop hq with ⟨-, hresting⟩ | ⟨herror, -⟩
  · exact (isIdle_acceptor _ id).2 hresting.1
  · cases herror

end EndpointLifecycle.Listener
