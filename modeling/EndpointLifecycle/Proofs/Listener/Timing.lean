import EndpointLifecycle.Proofs.Listener.Refusals
import EndpointLifecycle.Proofs.LookAlike
import EndpointLifecycle.Proofs.Untimed

/-!
# When stops are complete does not matter to a listener at work

A listener at work goes by what is reported to it and never looks at what is idle. Two listeners
whose collaborators differ only in how far their stops have got answer alike, and still have no
other difference afterwards.
-/

namespace EndpointLifecycle.Listener

def Parts.untimed (p : Parts) : Parts :=
  { p with
    socket := p.socket.untimed
    timer := { p.timer with activity := p.timer.activity.untimed }
    acceptors := p.acceptors.untimed }

def untimed (l : Listener) : Listener :=
  { l with
    socket := l.socket.untimed
    retry := l.retry.untimed
    acceptors := l.acceptors.untimed }

/-- The end of a stop is what an owner cannot see. -/
def Action.isVisible : Action → Bool
  | .completeStop _ => false
  | .event _ | .stop | .inject .. => true

/-- Nothing tells the listeners apart but how far the stops of their collaborators have got. -/
structure Agrees (l l' : Listener) : Prop where
  state_eq : l.state = l'.state
  phase_eq : l.phase = l'.phase
  pending_eq : l.pending = l'.pending
  established_eq : l.established = l'.established
  nextId_eq : l.nextId = l'.nextId
  attempts_eq : l.retry.attempts = l'.retry.attempts
  stats_eq : l.stats = l'.stats
  calls_eq : l.socket.calls = l'.socket.calls
  intervals_eq : l.retry.timer.intervals = l'.retry.timer.intervals
  timerStops_eq : l.retry.stops = l'.retry.stops
  numbers_eq : l.acceptors.numbers = l'.acceptors.numbers
  starts_eq : ∀ id, (l.acceptors.find? id).map (·.starts) = (l'.acceptors.find? id).map (·.starts)
  stops_eq : ∀ id, (l.acceptors.find? id).map (·.stops) = (l'.acceptors.find? id).map (·.stops)
  entries_eq : l.entries = l'.entries

variable {l l' m : Listener} {e : Event}

theorem exists_parts (h : l.untimed = l'.untimed) :
    ∃ socket retry acceptors, l' = { l with socket, retry, acceptors } ∧
      l.socket.untimed = socket.untimed ∧ l.retry.untimed = retry.untimed ∧
      l.acceptors.untimed = acceptors.untimed := by
  refine ⟨l'.socket, l'.retry, l'.acceptors, ?_, congrArg socket h, congrArg retry h,
    congrArg acceptors h⟩
  cases l
  cases l'
  simp only [untimed, Listener.mk.injEq] at h ⊢
  simp [h]

theorem agrees_of_untimed_eq (h : l.untimed = l'.untimed) : l.Agrees l' := by
  obtain ⟨socket, retry, acceptors, rfl, hsocket, hretry, hacceptors⟩ := exists_parts h
  obtain ⟨a, rfl, ha⟩ := Backoff.exists_activity hretry
  have hfind (id : ConnectionId) :
      (l.acceptors.find? id).map Activity.untimed = (acceptors.find? id).map Activity.untimed := by
    rw [← Acceptors.find?_untimed, hacceptors, Acceptors.find?_untimed]
  have hcalls := congrArg Socket.calls hsocket
  refine ⟨rfl, rfl, rfl, rfl, rfl, rfl, rfl, hcalls, rfl, (Activity.untimed_eq_iff.1 ha).2, ?_,
    fun id => ?_, fun id => ?_, rfl⟩
  · simpa using congrArg Acceptors.numbers hacceptors
  · simpa [Function.comp_def, Activity.untimed] using
      congrArg (Option.map Activity.starts) (hfind id)
  · simpa [Function.comp_def, Activity.untimed] using
      congrArg (Option.map Activity.stops) (hfind id)

section Step

theorem startListening_of_setUp (h : SetUp l m) : l.startListening = m := by
  unfold startListening
  cases h with
  | openFailed opened =>
    unfold listenAddr at *
    simp only [opened]
  | bindFailed opened bound =>
    unfold listenAddr at *
    simp only [opened, bound]
  | listenFailed opened bound listened | listening opened bound listened =>
    unfold listenAddr at *
    simp only [opened, bound, listened]

theorem untimed_waitBeforeRetry (h : l.untimed = l'.untimed) :
    l.waitBeforeRetry.untimed = l'.waitBeforeRetry.untimed := by
  obtain ⟨socket, retry, acceptors, rfl, hsocket, hretry, hacceptors⟩ := exists_parts h
  simp [untimed, waitBeforeRetry, note, hsocket, hacceptors, Backoff.fst_start_eq hretry,
    Backoff.untimed_start hretry]

theorem untimed_startAcceptor (h : l.untimed = l'.untimed) :
    l.startAcceptor.untimed = l'.startAcceptor.untimed := by
  obtain ⟨socket, retry, acceptors, rfl, hsocket, hretry, hacceptors⟩ := exists_parts h
  simp [untimed, startAcceptor, hsocket, hretry, Acceptors.untimed_create hacceptors]

theorem untimed_closeAfterFailure (h : l.untimed = l'.untimed) (operation : Setup)
    (error : IoError) :
    (l.closeAfterFailure operation error).untimed =
      (l'.closeAfterFailure operation error).untimed := by
  obtain ⟨socket, retry, acceptors, rfl, hsocket, hretry, hacceptors⟩ := exists_parts h
  simp [untimed, closeAfterFailure, note, hretry, hacceptors, Socket.untimed_stop hsocket]

theorem exists_setUp (h : l.untimed = l'.untimed) (hs : SetUp l m) :
    ∃ m', SetUp l' m' ∧ m.untimed = m'.untimed := by
  obtain ⟨socket, retry, acceptors, rfl, hsocket, hretry, hacceptors⟩ := exists_parts h
  cases hs with
  | openFailed opened =>
    obtain ⟨failed, opened', hfailed⟩ := Socket.exists_start hsocket opened
    exact ⟨_, .openFailed opened', untimed_waitBeforeRetry (by
      simp [untimed, note, listenAddr, hfailed, hretry, hacceptors])⟩
  | bindFailed opened bound =>
    obtain ⟨fresh, opened', hfresh⟩ := Socket.exists_start hsocket opened
    obtain ⟨failed, bound', hfailed⟩ := Socket.exists_bind hfresh bound
    exact ⟨_, .bindFailed opened' bound', untimed_closeAfterFailure (by
      simp [untimed, hfailed, hretry, hacceptors]) ..⟩
  | listenFailed opened bound listened =>
    obtain ⟨fresh, opened', hfresh⟩ := Socket.exists_start hsocket opened
    obtain ⟨named, bound', hnamed⟩ := Socket.exists_bind hfresh bound
    obtain ⟨failed, listened', hfailed⟩ := Socket.exists_listen hnamed listened
    exact ⟨_, .listenFailed opened' bound' listened', untimed_closeAfterFailure (by
      simp [untimed, hfailed, hretry, hacceptors]) ..⟩
  | listening opened bound listened =>
    obtain ⟨fresh, opened', hfresh⟩ := Socket.exists_start hsocket opened
    obtain ⟨named, bound', hnamed⟩ := Socket.exists_bind hfresh bound
    obtain ⟨ready, listened', hready⟩ := Socket.exists_listen hnamed listened
    exact ⟨_, .listening opened' bound' listened', untimed_startAcceptor (by
      simp [untimed, note, listenAddr, hready, hretry, hacceptors])⟩

theorem exists_handled (h : l.untimed = l'.untimed) (he : Handled l e m) :
    ∃ m', Handled l' e m' ∧ m.untimed = m'.untimed := by
  obtain ⟨socket, retry, acceptors, rfl, hsocket, hretry, hacceptors⟩ := exists_parts h
  cases he with
  | accepted active pending =>
    exact ⟨_, .accepted active pending, untimed_startAcceptor (by
      simp [untimed, note, hsocket, hretry, hacceptors])⟩
  | broken active other established =>
    exact ⟨_, .broken active other established, by
      simp [untimed, recycle, note, hsocket, hretry, Acceptors.untimed_stop hacceptors]⟩
  | ended active other established =>
    exact ⟨_, .ended active other established, by
      simp [untimed, release, hsocket, hretry, hacceptors]⟩
  | halfClosed closing => exact ⟨_, .halfClosed closing, h⟩
  | closed closing => exact ⟨_, .closed closing, untimed_waitBeforeRetry h⟩
  | timedOut waiting =>
    exact ⟨_, .timedOut waiting, by
      simp [untimed, hsocket, hacceptors, Backoff.untimed_stop hretry]⟩
  | rested stopping =>
    obtain ⟨m', setUp, hm⟩ := exists_setUp h (setUp_startListening l)
    rw [← startListening_of_setUp setUp] at hm
    exact ⟨_, .rested stopping, hm⟩

/-- What is answered to an event at work is told without how far the stops have got. -/
theorem map_handle (active : l.phase = .active) (h : l.untimed = l'.untimed) (e : Event) :
    (l.handle e).map untimed = (l'.handle e).map untimed := by
  have active' : l'.phase = .active := (congrArg phase h).symm.trans active
  refine Outcome.map_eq_map (fun m hm => ?_) (fun m' hm' => ?_) fun v m v' m' hv hv' => ?_
  · obtain ⟨m', hm', hu⟩ := exists_handled h ((handle_eq_done_iff active).1 hm)
    exact ⟨m', (handle_eq_done_iff active').2 hm', hu⟩
  · obtain ⟨m, hm, -⟩ := exists_handled h.symm ((handle_eq_done_iff active').1 hm')
    exact ⟨m, (handle_eq_done_iff active).2 hm⟩
  · obtain ⟨socket, retry, acceptors, rfl, hsocket, hretry, hacceptors⟩ := exists_parts h
    rw [handle, active] at hv
    rw [handle, active'] at hv'
    obtain rfl : v = v' := (refused_of_onEvent hv).trans (refused_of_onEvent hv').symm
    rw [eq_note_of_onEvent hv, eq_note_of_onEvent hv']
    exact ⟨rfl, by simp [untimed, note, active, hsocket, hretry, hacceptors]⟩

theorem veiled_step :
    Outcome.Veiled step untimed Action.isVisible (·.phase = .active) (· ≠ .stop) where
  keeps l a m active ha h := by
    cases stepped_of_step h with
    | handled _ he => exact (phase_handled he).trans active
    | absorbed stopping => rw [active] at stopping; cases stopping
    | stopBegun | stopIgnored => exact absurd rfl ha
    | completed c => cases c <;> exact active
    | injected => exact active
  silent l a _ hvis := by
    cases a with
    | completeStop c => exact ⟨_, rfl, by cases c <;> simp [untimed, completeStop]⟩
    | event | stop | inject => cases hvis
  told l l' a active _ h ha hvis := by
    cases a with
    | event e => exact map_handle active h e
    | stop => exact absurd rfl ha
    | completeStop c => cases hvis
    | inject point kind =>
      obtain ⟨socket, retry, acceptors, rfl, hsocket, hretry, hacceptors⟩ := exists_parts h
      simp [step, Outcome.map, untimed, hretry, hacceptors, Socket.untimed_inject hsocket]

end Step

theorem exists_created {address : String} {options : Options} {parts parts' : Parts}
    (h : parts.untimed = parts'.untimed) (created : create address options parts = .ok (.done l)) :
    ∃ l', create address options parts' = .ok (.done l') ∧ l.untimed = l'.untimed := by
  obtain ⟨bind, parsed, setUp⟩ := exists_setUp_begun created
  have hbegun : (begun address bind options parts).untimed =
      (begun address bind options parts').untimed :=
    congrArg (begun address bind options) h
  obtain ⟨l', setUp', hl⟩ := exists_setUp hbegun setUp
  refine ⟨l', ?_, hl⟩
  rw [← startListening_of_setUp setUp', create, parsed]
  rfl

theorem exists_runsAlike {address : String} {options : Options} {parts parts' : Parts}
    (h : parts.untimed = parts'.untimed) (created : create address options parts = .ok (.done l)) :
    ∃ l', create address options parts' = .ok (.done l') ∧ ∀ actions actions', .stop ∉ actions →
      .stop ∉ actions' → actions.filter Action.isVisible = actions'.filter Action.isVisible →
      Outcome.RunsAlike step Action.isVisible Agrees l l' actions actions' := by
  obtain ⟨l', created', hu⟩ := exists_created h created
  obtain ⟨bind, -, setUp⟩ := exists_setUp_begun created
  have active : l.phase = .active := phase_setUp setUp
  refine ⟨l', created', fun actions actions' hstop hstop' hfilter => ?_⟩
  exact veiled_step.runsAlike (fun _ _ => agrees_of_untimed_eq) active
    ((congrArg phase hu).symm.trans active) hu (fun _ ha => ne_of_mem_of_not_mem ha hstop)
    (fun _ ha => ne_of_mem_of_not_mem ha hstop') hfilter

end EndpointLifecycle.Listener
