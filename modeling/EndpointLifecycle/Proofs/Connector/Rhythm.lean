import EndpointLifecycle.Proofs.Connector.Beginnings
import Mathlib.Algebra.GroupWithZero.Nat

/-!
# How a connector keeps time

The timer of a connector is armed whenever nobody was found, whenever the socket cannot be opened,
and whenever a socket that was given up has stopped, whether a connect failed or a connection broke.
A connection in between does not take the intervals back to the first one.
-/

namespace EndpointLifecycle.Connector

/-- The wait for the next attempt begins. -/
def Enters (c c' : Connector) : Prop := c.state ≠ .waiting ∧ c'.state = .waiting

section Step

variable {c c' : Connector} {a : Action}

theorem beat_attempted {ip : IpAddr} (hs : c.state ≠ .waiting) (h : Attempted c ip c') :
    c.retry.Beat (Enters c c') (c.socket.failedOpens c'.socket) c'.retry := by
  cases h with
  | openFailed opened =>
    exact Backoff.beat_one (Socket.refused_start opened).failedOpens_eq ⟨hs, rfl⟩
  | opened opened dialled =>
    refine Backoff.beat_zero ((Socket.taken_start opened).failedOpens_eq _) ?_
    obtain ⟨log, dialled⟩ := exists_dialled_of_sizeBuffers dialled
    cases dialled <;> exact .refl _

theorem beat_begins (h : Begins c a c') :
    c.retry.Beat (Enters c c')
      ((c.unfound a).toNat + c.socket.failedOpens c'.socket + (c.closes a).toNat) c'.retry := by
  cases h with
  | nothing h hcloses hunfound =>
    exact Backoff.beat_zero (by simp [h.socket.failedOpens_eq, hcloses, hunfound]) h.rhythm
  | attempt stopping resolved h =>
    have hbeat : c.retry.Beat (Enters c c') (c.socket.failedOpens c'.socket) c'.retry :=
      beat_attempted (c := { c with resolved := none }) (by simp [stopping]) h
    simpa [closes, unfound, resolved, Resolution.isFailed] using hbeat
  | restAfterFailure stopping resolved =>
    refine Backoff.beat_one ?_ ⟨by simp [stopping], rfl⟩
    change _ + c.socket.failedOpens c.socket + _ = 1
    simp [closes, unfound, stopping, resolved, Resolution.isFailed]
  | session =>
    refine Backoff.beat_zero ?_ (.refl _)
    change _ + c.socket.failedOpens c.socket + _ = 0
    simp [closes, unfound]
  | wait stopping =>
    refine Backoff.beat_one ?_ ⟨by simp [stopping], rfl⟩
    change _ + c.socket.failedOpens c.socket + _ = 1
    simp [closes, unfound, stopping]
  | lookup =>
    refine Backoff.beat_zero ?_ (.refl _)
    change _ + c.socket.failedOpens c.socket + _ = 0
    simp [closes, unfound]

end Step

namespace History

/-- How often the socket could not be opened. -/
def failedOpens (h : History) : Nat :=
  (h.map fun t => t.before.socket.failedOpens t.after.socket).sum

/-- How often the end of a socket was reported that had been given up. -/
def closings (h : History) : Nat := h.countP fun t => t.before.closes t.action

/-- How often a result was taken that was a failure. -/
def unfound (h : History) : Nat := h.countP fun t => t.before.unfound t.action

theorem failedOpens_snoc (h : History) (t : Transition Connector Action) :
    failedOpens (h ++ [t]) = h.failedOpens + t.before.socket.failedOpens t.after.socket := by
  simp [failedOpens]

theorem closings_snoc (h : History) (t : Transition Connector Action) :
    closings (h ++ [t]) = h.closings + (t.before.closes t.action).toNat := by
  cases ht : t.before.closes t.action <;> simp [closings, ht]

theorem unfound_snoc (h : History) (t : Transition Connector Action) :
    unfound (h ++ [t]) = h.unfound + (t.before.unfound t.action).toNat := by
  cases ht : t.before.unfound t.action <;> simp [unfound, ht]

end History

/-- The waits of a connector after the history `h`. -/
structure KeepsTime (options : Options) (h : History) (c : Connector) : Prop where
  rhythm : c.retry.Rhythm options.reconnectInterval options.reconnectIntervalMax
    (h.unfound + h.failedOpens + h.closings)
  entered : ∀ t ∈ h, t.after.retry.timer.intervals ≠ t.before.retry.timer.intervals →
    Enters t.before t.after

theorem KeepsTime.begins {options : Options} {h : History} {c c' : Connector} {a : Action}
    (ht : KeepsTime options h c) (hb : Begins c a c') :
    KeepsTime options (h ++ [⟨c, a, c'⟩]) c' where
  rhythm := by
    have hsum : History.unfound (h ++ [⟨c, a, c'⟩]) + History.failedOpens (h ++ [⟨c, a, c'⟩]) +
        History.closings (h ++ [⟨c, a, c'⟩]) = h.unfound + h.failedOpens + h.closings +
          ((c.unfound a).toNat + c.socket.failedOpens c'.socket + (c.closes a).toNat) := by
      simp only [History.unfound_snoc, History.failedOpens_snoc, History.closings_snoc]
      omega
    rw [hsum]
    exact (beat_begins hb).rhythm ht.rhythm
  entered := by
    rw [List.forall_mem_append, List.forall_mem_singleton]
    exact ⟨ht.entered, (beat_begins hb).entered⟩

theorem keepsTime_run {address : String} {options : Options} {parts : Parts} {c₀ : Connector}
    (unused : Parts.Unused parts) (created : create address options parts = .ok (.done c₀))
    (actions : List Action) :
    KeepsTime options (c₀.history actions) (c₀.run actions).machine := by
  have h : Coherent (c₀.run actions).machine ∧
      KeepsTime options (c₀.history actions) (c₀.run actions).machine := by
    refine Outcome.machine_history_induction
      (P := fun h c => Coherent c ∧ KeepsTime options h c) ?_ ?_ ?_ actions
    · have hc := coherent_created ⟨address, options, parts, unused, created⟩
      obtain ⟨target, -, rfl⟩ := exists_begun_of_create created
      exact ⟨hc, Backoff.rhythm_new (by rw [unused.timer]), by simp⟩
    · rintro h c a c' ⟨hc, ht⟩ hstep
      exact ⟨coherent_step hc hstep, ht.begins (begins_stepped hc (stepped_of_step hstep))⟩
    · rintro h c a v m ⟨hc, ht⟩ hstep
      rw [eq_note_of_violation hstep]
      exact ⟨coherent_note hc _, ht.rhythm, ht.entered⟩
  exact h.2

end EndpointLifecycle.Connector
