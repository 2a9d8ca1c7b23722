import EndpointLifecycle.Proofs.Calls
import EndpointLifecycle.Proofs.Connector.System
import EndpointLifecycle.Proofs.Rhythm

/-!
# What a connector begins

Five events make a connector at work begin something: the resolver, the socket and the timer have
stopped, each in the state that waits for it, and the socket is connected. All else lets what is
under way come to its end.
-/

namespace EndpointLifecycle

def Resolution.isFailed : Resolution → Bool
  | found _ => false
  | failed _ => true

namespace Connector

/-- Nothing was started on the way from `c` to `c'`. -/
structure BeginsNothing (c c' : Connector) : Prop where
  eases : ∀ x, (c.activity x).Eases (c'.activity x)
  socket : c.socket.OnlyStopped c'.socket
  rhythm : c.retry.SameRhythm c'.retry
  lookups_eq : c'.resolver.lookups = c.resolver.lookups

/-- Whether the end of a socket that was given up is reported to a connector that waits for it. -/
def closes (c : Connector) (a : Action) : Bool :=
  c.state = .stoppingSocket ∧ a = .event (.socket .stopped)

/-- Whether the connector takes a result that is a failure. -/
def unfound (c : Connector) (a : Action) : Bool :=
  c.state = .stoppingResolver ∧ a = .event (.resolver .stopped) ∧ c.resolved.any Resolution.isFailed

/-- What a request begins. -/
inductive Begins (c : Connector) : Action → Connector → Prop
  | nothing {a c'} (h : BeginsNothing c c') (closes : c.closes a = false)
      (unfound : c.unfound a = false) : Begins c a c'
  | attempt {ip c'} (stopping : c.state = .stoppingResolver)
      (resolved : c.resolved = some (.found ip)) (h : Attempted { c with resolved := none } ip c') :
      Begins c (.event (.resolver .stopped)) c'
  | restAfterFailure {kind} (stopping : c.state = .stoppingResolver)
      (resolved : c.resolved = some (.failed kind)) :
      Begins c (.event (.resolver .stopped))
        (waitBeforeRetry { c.note (.resolveFailed c.target.host kind) with resolved := none })
  | session (connecting : c.state = .connecting) :
      Begins c (.event (.socket .connected)) c.onConnected
  | wait (stopping : c.state = .stoppingSocket) :
      Begins c (.event (.socket .stopped)) c.waitBeforeRetry
  | lookup (stopping : c.state = .stoppingBackoff) :
      Begins c (.event (.retry .stopped)) c.startResolving

section Nothing

variable {c c' c'' : Connector}

theorem BeginsNothing.trans (h : BeginsNothing c c') (h' : BeginsNothing c' c'') :
    BeginsNothing c c'' where
  eases := fun x => (h.eases x).trans (h'.eases x)
  socket := h.socket.trans h'.socket
  rhythm := h.rhythm.trans h'.rhythm
  lookups_eq := h'.lookups_eq.trans h.lookups_eq

/-- The collaborators are as they were. -/
theorem beginsNothing_of_eq (hs : c'.socket = c.socket) (hr : c'.retry = c.retry)
    (hl : c'.resolver = c.resolver) (hn : c'.session = c.session) : BeginsNothing c c' where
  eases := by
    intro x
    have hx : c'.activity x = c.activity x := by cases x <;> simp [activity, hs, hr, hl, hn]
    exact hx ▸ .refl _
  socket := Socket.onlyStopped_of_eq (by rw [hs])
  rhythm := hr ▸ .refl _
  lookups_eq := by rw [hl]

theorem BeginsNothing.refl (c : Connector) : BeginsNothing c c :=
  beginsNothing_of_eq rfl rfl rfl rfl

theorem beginsNothing_note (c : Connector) (notice : Notice) : BeginsNothing c (c.note notice) :=
  beginsNothing_of_eq rfl rfl rfl rfl

theorem beginsNothing_done (c : Connector) (result : Resolution) :
    BeginsNothing c
      { c with
        resolved := some result
        resolver := c.resolver.stop
        state := .stoppingResolver } where
  eases := by
    intro x
    cases x with
    | resolver => exact Activity.eases_stop _
    | socket | timer | session => exact .refl _
  socket := Socket.onlyStopped_of_eq rfl
  rhythm := .refl _
  lookups_eq := rfl

/-- A socket is stopped, whatever is written down beside that. -/
theorem beginsNothing_of_socket (hs : c'.socket = c.socket.stop) (hr : c'.retry = c.retry)
    (hl : c'.resolver = c.resolver) (hn : c'.session = c.session) : BeginsNothing c c' where
  eases := by
    intro x
    cases x with
    | socket =>
      change c.socket.activity.Eases c'.socket.activity
      rw [hs]
      exact Activity.eases_stop _
    | timer | resolver | session => simp [activity, hr, hl, hn, Activity.Eases.refl]
  socket := hs ▸ Socket.onlyStopped_stop _
  rhythm := hr ▸ .refl _
  lookups_eq := by rw [hl]

theorem beginsNothing_onBroken (c : Connector) : BeginsNothing c c.onBroken where
  eases := by
    intro x
    cases x with
    | session => exact Activity.eases_stop _
    | socket | timer | resolver => exact .refl _
  socket := Socket.onlyStopped_of_eq rfl
  rhythm := .refl _
  lookups_eq := rfl

theorem beginsNothing_timedOut (c : Connector) :
    BeginsNothing c { c with retry := c.retry.stop, state := .stoppingBackoff } where
  eases := by
    intro x
    cases x with
    | timer => exact Activity.eases_stop _
    | socket | resolver | session => exact .refl _
  socket := Socket.onlyStopped_of_eq rfl
  rhythm := Backoff.sameRhythm_stop _
  lookups_eq := rfl

theorem beginsNothing_beginStop (c : Connector) : BeginsNothing c c.beginStop where
  eases := by
    intro x
    cases x with
    | session =>
      change c.session.Eases (if c.session.isIdle then c.session else c.session.stop)
      split
      · exact .refl _
      · exact Activity.eases_stop _
    | socket | timer | resolver => exact .refl _
  socket := Socket.onlyStopped_of_eq rfl
  rhythm := .refl _
  lookups_eq := rfl

theorem beginsNothing_passed (h : Passed c c') : BeginsNothing c c' where
  eases := eases_passed h
  socket := by
    cases h with
    | session => exact Socket.onlyStopped_stop _
    | others => exact Socket.onlyStopped_of_eq rfl
  rhythm := by
    cases h with
    | session => exact Backoff.sameRhythm_stop _
    | others => exact .refl _
  lookups_eq := by cases h <;> rfl

theorem beginsNothing_advanceShutdown (c : Connector) : BeginsNothing c c.advanceShutdown :=
  advanceShutdown_induction (fun _ _ hp hm => hm.trans (beginsNothing_passed hp)) (.refl c)

theorem beginsNothing_completeStop (c : Connector) (x : Collaborator) :
    BeginsNothing c (c.completeStop x) where
  eases := fun y => eases_completeStop c y x
  socket := by cases x <;> exact Socket.onlyStopped_of_eq rfl
  rhythm := by
    cases x with
    | timer => exact Backoff.sameRhythm_completeStop _
    | socket | resolver | session => exact .refl _
  lookups_eq := by cases x <;> rfl

theorem beginsNothing_inject (c : Connector) (point : FaultPoint) (kind : ErrorKind) :
    BeginsNothing c { c with socket := c.socket.inject point kind } where
  eases := fun x => eases_inject c x point kind
  socket := Socket.onlyStopped_of_eq (Socket.calls_inject ..)
  rhythm := .refl _
  lookups_eq := rfl

end Nothing

section Step

variable {c c' m : Connector} {a : Action}

theorem begins_handled {e : Event} (h : Handled c e c') : Begins c (.event e) c' := by
  cases h with
  | done result =>
    exact .nothing (beginsNothing_done c result) (by simp [closes]) (by simp [unfound])
  | found stopping resolved => exact .attempt stopping resolved (attempted_startConnecting ..)
  | unfound stopping resolved => exact .restAfterFailure stopping resolved
  | connected connecting => exact .session connecting
  | connectFailed =>
    exact .nothing (beginsNothing_of_socket rfl rfl rfl rfl) (by simp [closes]) (by simp [unfound])
  | broken => exact .nothing (beginsNothing_onBroken c) (by simp [closes]) (by simp [unfound])
  | halfClosed => exact .nothing (.refl c) (by simp [closes]) (by simp [unfound])
  | ended =>
    exact .nothing (beginsNothing_of_socket rfl rfl rfl rfl) (by simp [closes]) (by simp [unfound])
  | closed stopping => exact .wait stopping
  | timedOut => exact .nothing (beginsNothing_timedOut c) (by simp [closes]) (by simp [unfound])
  | rested stopping => exact .lookup stopping

theorem begins_stepped (hc : Coherent c) (h : Stepped c a c') : Begins c a c' := by
  cases h with
  | handled active he => exact begins_handled he
  | absorbed e stopping =>
    have hstate {s : State} (hs : s.phase = .active) : c.state ≠ s := by
      rintro rfl
      rw [hc.phase_eq, hs] at stopping
      cases stopping
    exact .nothing ((beginsNothing_note ..).trans (beginsNothing_advanceShutdown _))
      (by simp [closes, hstate (s := .stoppingSocket) rfl])
      (by simp [unfound, hstate (s := .stoppingResolver) rfl])
  | stopBegun =>
    exact .nothing ((beginsNothing_beginStop c).trans (beginsNothing_advanceShutdown _))
      (by simp [closes]) (by simp [unfound])
  | stopIgnored => exact .nothing (.refl c) (by simp [closes]) (by simp [unfound])
  | completed x =>
    exact .nothing (beginsNothing_completeStop c x) (by simp [closes]) (by simp [unfound])
  | injected point kind =>
    exact .nothing (beginsNothing_inject c point kind) (by simp [closes]) (by simp [unfound])

/-- A request that is refused leaves nothing but its mark in the log. -/
theorem eq_note_of_violation {v : Violation} (h : c.step a = .violation v m) :
    m = c.note (.refused v) := by
  cases a with
  | event e =>
    change c.handle e = .violation v m at h
    unfold handle onEvent onResolved at h
    repeat' split at h
    all_goals cases h <;> rfl
  | stop => cases h
  | completeStop x => cases h
  | inject point kind => cases h

end Step

end Connector

end EndpointLifecycle
