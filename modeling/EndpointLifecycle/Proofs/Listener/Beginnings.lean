import EndpointLifecycle.Proofs.Calls
import EndpointLifecycle.Proofs.Listener.System
import EndpointLifecycle.Proofs.Rhythm

/-!
# What a listener begins

Three events make a listener at work begin something: the pending acceptor has its peer, the socket
that could not be set up has stopped, and the timer has stopped after its timeout. All else lets
what is under way come to its end.
-/

namespace EndpointLifecycle.Listener

/-- Nothing was started on the way from `l` to `l'`. -/
structure BeginsNothing (l l' : Listener) : Prop where
  eases : ∀ x, (l.activity x).Eases (l'.activity x)
  socket : l.socket.OnlyStopped l'.socket
  rhythm : l.retry.SameRhythm l'.retry
  numbers_eq : l'.acceptors.numbers = l.acceptors.numbers
  established : l'.established.Sublist l.established

/-- Whether the end of a socket that could not be set up is reported to a listener that waits for
it. -/
def closes (l : Listener) (a : Action) : Bool :=
  l.state = .closing ∧ a = .event (.socket .stopped)

/-- What a request begins. -/
inductive Begins (l : Listener) : Action → Listener → Prop
  | nothing {a l'} (h : BeginsNothing l l') (closes : l.closes a = false) : Begins l a l'
  | acceptor {id} (active : l.state = .active) (pending : l.pending = some id) :
      Begins l (.event (.connection id .accepted)) (l.promote id)
  | wait (closing : l.state = .closing) : Begins l (.event (.socket .stopped)) l.waitBeforeRetry
  | attempt {l'} (stopping : l.state = .stoppingBackoff) (h : SetUp l l') :
      Begins l (.event (.retry .stopped)) l'

section Nothing

variable {l l' l'' : Listener}

theorem BeginsNothing.trans (h : BeginsNothing l l') (h' : BeginsNothing l' l'') :
    BeginsNothing l l'' where
  eases := fun x => (h.eases x).trans (h'.eases x)
  socket := h.socket.trans h'.socket
  rhythm := h.rhythm.trans h'.rhythm
  numbers_eq := h'.numbers_eq.trans h.numbers_eq
  established := h'.established.trans h.established

/-- The collaborators are as they were. -/
theorem beginsNothing_of_eq (hs : l'.socket = l.socket) (hr : l'.retry = l.retry)
    (ha : l'.acceptors = l.acceptors) (he : l'.established.Sublist l.established) :
    BeginsNothing l l' where
  eases := by
    intro x
    have hx : l'.activity x = l.activity x := by
      cases x <;> simp [activity, activity?, hs, hr, ha]
    exact hx ▸ .refl _
  socket := Socket.onlyStopped_of_eq (by rw [hs])
  rhythm := hr ▸ .refl _
  numbers_eq := by rw [ha]
  established := he

theorem BeginsNothing.refl (l : Listener) : BeginsNothing l l :=
  beginsNothing_of_eq rfl rfl rfl (.refl _)

theorem beginsNothing_note (l : Listener) (notice : Notice) : BeginsNothing l (l.note notice) :=
  beginsNothing_of_eq rfl rfl rfl (.refl _)

theorem beginsNothing_release (l : Listener) (id : ConnectionId) :
    BeginsNothing l (l.release id) :=
  beginsNothing_of_eq rfl rfl rfl List.filter_sublist

theorem beginsNothing_recycle (l : Listener) (id : ConnectionId) :
    BeginsNothing l (l.recycle id) where
  eases := by
    intro x
    cases x with
    | socket | timer => exact .refl _
    | acceptor => exact eases_stopAcceptors ..
  socket := Socket.onlyStopped_of_eq rfl
  rhythm := .refl _
  numbers_eq := Acceptors.numbers_stop ..
  established := .refl _

theorem beginsNothing_timedOut (l : Listener) :
    BeginsNothing l { l with retry := l.retry.stop, state := .stoppingBackoff } where
  eases := by
    intro x
    cases x with
    | socket | acceptor => exact .refl _
    | timer => exact Activity.eases_stop _
  socket := Socket.onlyStopped_of_eq rfl
  rhythm := Backoff.sameRhythm_stop _
  numbers_eq := rfl
  established := .refl _

theorem beginsNothing_absorbed {e : Event} (h : Absorbed l e l') : BeginsNothing l l' := by
  cases h with
  | retry | halfClosed | closed | pending | broken => exact .refl l
  | ended => exact beginsNothing_release ..
  | late => exact beginsNothing_note ..

theorem beginsNothing_beginStop (l : Listener) : BeginsNothing l l.beginStop where
  eases := eases_beginStop l
  socket := Socket.onlyStopped_of_eq rfl
  rhythm := Backoff.sameRhythm_stop _
  numbers_eq := Acceptors.numbers_stop ..
  established := .refl _

theorem beginsNothing_passed (h : Passed l l') : BeginsNothing l l' where
  eases := eases_passed h
  socket := by
    cases h with
    | acceptor => exact Socket.onlyStopped_stop _
    | socket | connections => exact Socket.onlyStopped_of_eq rfl
  rhythm := by cases h <;> exact .refl _
  numbers_eq := by
    cases h with
    | socket => exact Acceptors.numbers_stop ..
    | acceptor | connections => rfl
  established := by cases h <;> exact .refl _

theorem beginsNothing_advance (h : l.advanceShutdown = .done l') : BeginsNothing l l' :=
  advanceShutdown_induction (fun _ _ hp hm => hm.trans (beginsNothing_passed hp)) h (.refl l)

theorem beginsNothing_completeStop (l : Listener) (x : Collaborator) :
    BeginsNothing l (l.completeStop x) where
  eases := fun y => eases_completeStop l y x
  socket := by cases x <;> exact Socket.onlyStopped_of_eq rfl
  rhythm := by
    cases x with
    | timer => exact Backoff.sameRhythm_completeStop _
    | socket | acceptor => exact .refl _
  numbers_eq := (kept_completeStop l x).numbers_eq
  established := by rw [(kept_completeStop l x).established_eq]

theorem beginsNothing_inject (l : Listener) (point : FaultPoint) (kind : ErrorKind) :
    BeginsNothing l { l with socket := l.socket.inject point kind } where
  eases := fun x => eases_inject l x point kind
  socket := Socket.onlyStopped_of_eq (Socket.calls_inject ..)
  rhythm := .refl _
  numbers_eq := rfl
  established := .refl _

end Nothing

section Step

variable {l l' m : Listener} {a : Action}

theorem begins_handled {e : Event} (h : Handled l e l') : Begins l (.event e) l' := by
  cases h with
  | accepted active pending => exact .acceptor active pending
  | broken => exact .nothing (beginsNothing_recycle ..) (by simp [closes])
  | ended => exact .nothing (beginsNothing_release ..) (by simp [closes])
  | halfClosed => exact .nothing (.refl l) (by simp [closes])
  | closed closing => exact .wait closing
  | timedOut => exact .nothing (beginsNothing_timedOut l) (by simp [closes])
  | rested stopping => exact .attempt stopping (setUp_startListening l)

theorem begins_stepped (hl : Coherent l) (h : Stepped l a l') : Begins l a l' := by
  cases h with
  | handled active he => exact begins_handled he
  | absorbed stopping ha advanced =>
    refine .nothing ((beginsNothing_absorbed ha).trans (beginsNothing_advance advanced)) ?_
    have hstate : l.state ≠ .closing := by
      intro hs
      rw [hl.phase_eq, hs] at stopping
      cases stopping
    simp [closes, hstate]
  | stopBegun active advanced =>
    exact .nothing ((beginsNothing_beginStop l).trans (beginsNothing_advance advanced))
      (by simp [closes])
  | stopIgnored => exact .nothing (.refl l) (by simp [closes])
  | completed x => exact .nothing (beginsNothing_completeStop l x) (by simp [closes])
  | injected point kind =>
    exact .nothing (beginsNothing_inject l point kind) (by simp [closes])

theorem eq_note_of_onEvent {e : Event} {v : Violation} (h : l.onEvent e = .violation v m) :
    m = l.note (.refused v) := by
  unfold onEvent onConnection at h
  dsimp only at h
  repeat' split at h
  all_goals cases h <;> rfl

theorem eq_note_of_absorb {e : Event} {v : Violation} (h : l.absorb e = .violation v m) :
    m = l.note (.refused v) := by
  unfold absorb at h
  repeat' split at h
  all_goals cases h <;> rfl

/-- A request that is refused leaves nothing but its mark in the log. -/
theorem eq_note_of_violation {v : Violation} (hl : Coherent l) (h : l.step a = .violation v m) :
    m = l.note (.refused v) := by
  cases a with
  | event e =>
    change l.handle e = .violation v m at h
    unfold handle at h
    split at h
    case h_1 => exact eq_note_of_onEvent h
    case h_2 stopping =>
      unfold onShutdown at h
      cases ha : l.absorb e with
      | done m' =>
        -- What is taken in is not refused afterwards, because there are stages left to pass.
        have hphase : m'.state.phase = .stopping := by
          rw [(state_absorbed (absorbed_of_absorb ha)).1, ← hl.phase_eq, stopping]
        rw [ha, Outcome.andThen_done, advanceShutdown_eq hphase] at h
        cases h
      | violation v' m' =>
        rw [ha] at h
        cases h
        exact eq_note_of_absorb ha
    case h_3 => cases h; rfl
    case h_4 => cases h; rfl
  | stop =>
    change l.stop = .violation v m at h
    unfold stop at h
    split at h
    case isTrue =>
      rw [advanceShutdown_eq rfl] at h
      cases h
    case isFalse => cases h
  | completeStop x => cases h
  | inject point kind => cases h

end Step

end EndpointLifecycle.Listener
