import EndpointLifecycle.Proofs.Listener.Beginnings
import Mathlib.Algebra.GroupWithZero.Nat

/-!
# How a listener keeps time

The timer of a listener is armed whenever the socket cannot be opened, and whenever a socket that
was given up has stopped. A success in between does not take the intervals back to the first one.
-/

namespace EndpointLifecycle.Listener

/-- The wait for the next attempt begins. -/
def Enters (l l' : Listener) : Prop := l.state ≠ .waiting ∧ l'.state = .waiting

section Step

variable {l l' : Listener} {a : Action}

theorem beat_setUp (hs : l.state ≠ .waiting) (h : SetUp l l') :
    l.retry.Beat (Enters l l') (l.socket.failedOpens l'.socket) l'.retry := by
  cases h with
  | openFailed opened =>
    exact Backoff.beat_one (Socket.refused_start opened).failedOpens_eq ⟨hs, rfl⟩
  | bindFailed opened | listenFailed opened | listening opened =>
    exact Backoff.beat_zero ((Socket.taken_start opened).failedOpens_eq _) (.refl _)

theorem beat_setUp_begun {address : String} {bind : BindAddress} {options : Options} {parts : Parts}
    (h : SetUp (begun address bind options parts) l') :
    (begun address bind options parts).retry.Beat (Enters (begun address bind options parts) l')
      (parts.socket.failedOpens l'.socket) l'.retry :=
  beat_setUp (by simp [begun, fresh, note]) h

theorem beat_begins (h : Begins l a l') :
    l.retry.Beat (Enters l l') (l.socket.failedOpens l'.socket + (l.closes a).toNat) l'.retry := by
  cases h with
  | nothing h hcloses =>
    exact Backoff.beat_zero (by simp [h.socket.failedOpens_eq, hcloses]) h.rhythm
  | acceptor =>
    refine Backoff.beat_zero ?_ (.refl _)
    change l.socket.failedOpens l.socket + _ = 0
    simp [closes]
  | wait closing =>
    refine Backoff.beat_one ?_ ⟨by simp [closing], rfl⟩
    change l.socket.failedOpens l.socket + _ = 1
    simp [closes, closing]
  | attempt stopping h => simpa [closes] using beat_setUp (by simp [stopping]) h

end Step

namespace History

/-- How often the socket could not be opened. -/
def failedOpens (h : History) : Nat :=
  (h.map fun t => t.before.socket.failedOpens t.after.socket).sum

/-- How often the end of a socket was reported that had been given up. -/
def closings (h : History) : Nat := h.countP fun t => t.before.closes t.action

theorem failedOpens_snoc (h : History) (t : Transition Listener Action) :
    failedOpens (h ++ [t]) = h.failedOpens + t.before.socket.failedOpens t.after.socket := by
  simp [failedOpens]

theorem closings_snoc (h : History) (t : Transition Listener Action) :
    closings (h ++ [t]) = h.closings + (t.before.closes t.action).toNat := by
  cases ht : t.before.closes t.action <;> simp [closings, ht]

end History

/-- The waits of a listener after the history `h`, when the first attempt made `first` of them. -/
structure KeepsTime (options : Options) (first : Nat) (h : History) (l : Listener) : Prop where
  rhythm : l.retry.Rhythm options.reconnectInterval options.reconnectIntervalMax
    (first + h.failedOpens + h.closings)
  entered : ∀ t ∈ h, t.after.retry.timer.intervals ≠ t.before.retry.timer.intervals →
    Enters t.before t.after

theorem KeepsTime.begins {options : Options} {first : Nat} {h : History} {l l' : Listener}
    {a : Action} (ht : KeepsTime options first h l) (hb : Begins l a l') :
    KeepsTime options first (h ++ [⟨l, a, l'⟩]) l' where
  rhythm := by
    have hsum : first + History.failedOpens (h ++ [⟨l, a, l'⟩]) +
        History.closings (h ++ [⟨l, a, l'⟩]) = first + h.failedOpens + h.closings +
          (l.socket.failedOpens l'.socket + (l.closes a).toNat) := by
      simp only [History.failedOpens_snoc, History.closings_snoc]
      omega
    rw [hsum]
    exact (beat_begins hb).rhythm ht.rhythm
  entered := by
    rw [List.forall_mem_append, List.forall_mem_singleton]
    exact ⟨ht.entered, (beat_begins hb).entered⟩

/-- The first attempt, too, arms the timer only on the way into the wait. -/
theorem state_created_of_armed {address : String} {options : Options} {parts : Parts}
    {l : Listener} (unused : Parts.Unused parts)
    (created : create address options parts = .ok (.done l))
    (armed : l.retry.timer.intervals ≠ []) : l.state = .waiting := by
  obtain ⟨bind, -, setUp⟩ := exists_setUp_begun created
  have hnone : (begun address bind options parts).retry.timer.intervals = [] := by
    change parts.timer.intervals = []
    rw [unused.timer]
  exact ((beat_setUp_begun setUp).entered (by rwa [hnone])).2

theorem keepsTime_run {address : String} {options : Options} {parts : Parts} {l₀ : Listener}
    (unused : Parts.Unused parts) (created : create address options parts = .ok (.done l₀))
    (actions : List Action) :
    KeepsTime options (parts.socket.failedOpens l₀.socket) (l₀.history actions)
      (l₀.run actions).machine := by
  have h : Coherent (l₀.run actions).machine ∧ KeepsTime options
      (parts.socket.failedOpens l₀.socket) (l₀.history actions) (l₀.run actions).machine := by
    refine Outcome.machine_history_induction
      (P := fun h l => Coherent l ∧ KeepsTime options (parts.socket.failedOpens l₀.socket) h l)
      ?_ ?_ ?_ actions
    · refine ⟨coherent_created ⟨address, options, parts, unused, created⟩, ?_, by simp⟩
      obtain ⟨bind, -, setUp⟩ := exists_setUp_begun created
      have hnew : (begun address bind options parts).retry.Rhythm options.reconnectInterval
          options.reconnectIntervalMax 0 := Backoff.rhythm_new (by rw [unused.timer])
      have hfirst : l₀.retry.Rhythm options.reconnectInterval options.reconnectIntervalMax
          (0 + parts.socket.failedOpens l₀.socket) := (beat_setUp_begun setUp).rhythm hnew
      simpa [History.failedOpens, History.closings] using hfirst
    · rintro h l a l' ⟨hl, ht⟩ hstep
      exact ⟨coherent_step hl hstep, ht.begins (begins_stepped hl (stepped_of_step hstep))⟩
    · rintro h l a v m ⟨hl, ht⟩ hstep
      rw [eq_note_of_violation hl hstep]
      exact ⟨hl.congr rfl rfl rfl rfl rfl rfl, ht.rhythm, ht.entered⟩
  exact h.2

end EndpointLifecycle.Listener
