import EndpointLifecycle.Proofs.Listener.Attempts
import EndpointLifecycle.Proofs.Listener.WindingDown

/-!
# A listener starts only what is idle

As long as the end of a stop is reported only of a collaborator that is idle, the state of a
listener at work tells who may have something to do: all others are idle, and so is whatever it
starts next.
-/

namespace EndpointLifecycle.Listener

/-- Who may have something to do in a state of a listener at work. -/
def State.engages : State → Collaborator → Bool
  | .active, .socket | .active, .acceptor _ => true
  | .closing, .socket => true
  | .waiting, .timer | .stoppingBackoff, .timer => true
  | _, _ => false

/-- The end of a stop is reported in time: the collaborator is idle. -/
def timely (l : Listener) : Action → Bool
  | .event (.socket .stopped) => l.socket.isIdle
  | .event (.retry .stopped) => l.retry.isIdle
  | .event (.connection id .stopped) => l.acceptors.isIdle id
  | _ => true

/-- All ends of stops were reported in time. -/
def History.timely (h : History) : Bool := h.all fun t => t.before.timely t.action

theorem History.timely_snoc (h : History) (t : Transition Listener Action) :
    timely (h ++ [t]) = (h.timely && t.before.timely t.action) := by
  simp [timely]

/-- What was started on the way from `l` to `l'` was idle, and was started once. An acceptor that is
started is a new one. -/
structure StartsIdle (l l' : Listener) : Prop where
  socket : l.socket.OpenedIdle l'.socket
  timer : (l'.activity .timer).starts ≠ (l.activity .timer).starts →
    l.retry.isIdle ∧ ∃ interval, l'.retry.timer = l.retry.timer.start interval
  acceptor : ∀ id, (l'.activity (.acceptor id)).starts ≠ (l.activity (.acceptor id)).starts →
    id ∉ l.acceptors.numbers ∧ l'.acceptors = l.acceptors.create id

/-- Whom the state of a listener at work does not engage is idle. -/
def OthersIdle (l : Listener) : Prop :=
  l.phase = .active → ∀ x, l.state.engages x = false → (l.activity x).isIdle

section Starts

variable {l l' : Listener} {a : Action}

theorem BeginsNothing.startsIdle (h : BeginsNothing l l') : StartsIdle l l' where
  socket := h.socket.openedIdle
  timer := fun hne => absurd (h.eases .timer).starts_eq hne
  acceptor := fun id hne => absurd (h.eases (.acceptor id)).starts_eq hne

/-- Only the first call of an attempt opens the socket. -/
theorem isStart_tail_attemptCalls (l : Listener) (attempt : Attempt) :
    ∀ made ∈ (l.attemptCalls attempt).tail, made.call.isStart = false := by
  cases attempt <;> simp [attemptCalls, Attempt.calls, SocketCall.isStart]

theorem created_of_starts (numbers : l.acceptors.numbers = List.range l.nextId)
    {id : ConnectionId}
    (hne : (l.startAcceptor.activity (.acceptor id)).starts ≠ (l.activity (.acceptor id)).starts) :
    id ∉ l.acceptors.numbers ∧ l.startAcceptor.acceptors = l.acceptors.create id := by
  by_cases hid : id = l.nextId
  · subst hid
    exact ⟨by simp [numbers], rfl⟩
  · exact absurd (congrArg (·.starts) (activity_create_of_ne l hid)) hne

theorem startsIdle_setUp (numbers : l.acceptors.numbers = List.range l.nextId)
    (socketIdle : l.socket.isIdle) (timerIdle : l.retry.isIdle) (h : SetUp l l') :
    StartsIdle l l' where
  socket := by
    obtain ⟨attempt, made, -⟩ := exists_attempt h
    exact made.openedIdle socketIdle (isStart_tail_attemptCalls l attempt)
  timer := by
    intro hne
    cases h with
    | openFailed => exact ⟨timerIdle, _, rfl⟩
    | bindFailed | listenFailed | listening => exact absurd rfl hne
  acceptor := by
    intro id hne
    cases h with
    | openFailed | bindFailed | listenFailed => exact absurd rfl hne
    | listening => exact created_of_starts numbers hne

theorem startsIdle_begins (hl : Coherent l) (hi : OthersIdle l) (ht : l.timely a)
    (h : Begins l a l') : StartsIdle l l' := by
  have hidle {s : State} (hs : l.state = s) (hp : s.phase = .active) (x : Collaborator)
      (hx : s.engages x = false) : (l.activity x).isIdle :=
    hi (by rw [hl.phase_eq, hs, hp]) x (by rw [hs, hx])
  have hsame {m : Listener} (hm : m.socket = l.socket) : l.socket.OpenedIdle m.socket :=
    (Socket.onlyStopped_of_eq (by rw [hm])).openedIdle
  cases h with
  | nothing h => exact h.startsIdle
  | acceptor active pending =>
    exact ⟨hsame rfl, fun hne => absurd rfl hne, fun id hne => created_of_starts hl.numbers_eq hne⟩
  | wait closing =>
    exact ⟨hsame rfl, fun _ => ⟨hidle closing rfl .timer rfl, _, rfl⟩, fun _ hne => absurd rfl hne⟩
  | attempt stopping h =>
    exact startsIdle_setUp hl.numbers_eq (hidle stopping rfl .socket rfl) ht h

end Starts

section Others

variable {l l' : Listener} {a : Action}

theorem OthersIdle.eases (hi : OthersIdle l) (h : BeginsNothing l l')
    (hp : l'.phase = .active → l.phase = .active)
    (hs : ∀ x, l'.state.engages x = false → l.state.engages x = false) : OthersIdle l' :=
  fun active x hx => (h.eases x).isIdle (hi (hp active) x (hs x hx))

theorem Silent.isIdle_acceptor (silent : Silent l) (id : ConnectionId) :
    (l.activity (.acceptor id)).isIdle := by
  rw [activity_eq_default l (by simp [silent.numbers_eq])]
  rfl

theorem othersIdle_setUp (silent : Silent l) (socketIdle : l.socket.isIdle)
    (timerIdle : l.retry.isIdle) (h : SetUp l l') : OthersIdle l' := by
  intro _ x hx
  cases h with
  | openFailed opened =>
    cases x with
    | socket =>
      exact (congrArg Activity.isIdle (Socket.activity_of_start_failed opened)).trans socketIdle
    | timer => cases hx
    | acceptor id => exact silent.isIdle_acceptor id
  | bindFailed | listenFailed =>
    cases x with
    | socket => cases hx
    | timer => exact timerIdle
    | acceptor id => exact silent.isIdle_acceptor id
  | listening =>
    cases x with
    | socket | acceptor => cases hx
    | timer => exact timerIdle

theorem othersIdle_handled {e : Event} (hl : Coherent l) (hi : OthersIdle l)
    (active : l.phase = .active) (ht : l.timely (.event e)) (h : Handled l e l') :
    OthersIdle l' := by
  have hidle {s : State} (hs : l.state = s) (x : Collaborator) (hx : s.engages x = false) :
      (l.activity x).isIdle := hi active x (by rw [hs, hx])
  cases h with
  | @accepted id hactive =>
    intro _ x hx
    have hstate : (l.promote id).state = .active := hactive
    rw [hstate] at hx
    cases x with
    | socket | acceptor => cases hx
    | timer => exact hidle hactive .timer rfl
  | broken => exact hi.eases (beginsNothing_recycle ..) id fun _ hx => hx
  | ended => exact hi.eases (beginsNothing_release ..) id fun _ hx => hx
  | halfClosed => exact hi
  | closed closing =>
    intro _ x hx
    cases x with
    | socket => exact ht
    | timer => cases hx
    | acceptor id => exact hidle closing (.acceptor id) rfl
  | timedOut waiting =>
    refine hi.eases (beginsNothing_timedOut l) id fun x hx => ?_
    rw [waiting]
    cases x <;> exact hx
  | rested stopping =>
    have silent := hl.silent active (by simp [stopping])
    exact othersIdle_setUp silent (hidle stopping .socket rfl) ht
      (setUp_startListening l)

theorem othersIdle_stepped (hl : Coherent l) (hi : OthersIdle l) (ht : l.timely a)
    (h : Stepped l a l') : OthersIdle l' := by
  cases h with
  | handled active he => exact othersIdle_handled hl hi active ht he
  | absorbed stopping ha advanced =>
    have hne : l.phase ≠ .active := by simp [stopping]
    have hm := windsDown_stepped hl hne (.absorbed stopping ha advanced)
    exact fun hp => absurd hp (hm.host.phase_ne hne)
  | stopBegun active advanced => exact fun hp => absurd hp (phase_stopBegun_ne hl advanced)
  | stopIgnored => exact hi
  | completed x =>
    have hk := kept_completeStop l x
    exact hi.eases (beginsNothing_completeStop l x) (fun hp => hk.phase_eq ▸ hp)
      fun y hy => hk.state_eq ▸ hy
  | injected point kind => exact hi.eases (beginsNothing_inject l point kind) id fun _ hx => hx

end Others

/-- How a listener starts things in a history in which the ends of stops were reported in time. -/
structure StartsInTurn (h : History) (l : Listener) : Prop where
  coherent : Coherent l
  started : ∀ t ∈ h, StartsIdle t.before t.after
  others : OthersIdle l

theorem StartsInTurn.stepped {h : History} {l l' : Listener} {a : Action} (hi : StartsInTurn h l)
    (ht : l.timely a) (hs : Stepped l a l') (hl' : Coherent l') :
    StartsInTurn (h ++ [⟨l, a, l'⟩]) l' where
  coherent := hl'
  started := by
    rw [List.forall_mem_append, List.forall_mem_singleton]
    exact ⟨hi.started, startsIdle_begins hi.coherent hi.others ht (begins_stepped hi.coherent hs)⟩
  others := othersIdle_stepped hi.coherent hi.others ht hs

theorem beginsNothing_of_violation {l m : Listener} {a : Action} {violation : Violation}
    (hl : Coherent l) (h : l.step a = .violation violation m) : BeginsNothing l m := by
  rw [eq_note_of_violation hl h]
  exact beginsNothing_note ..

section Run

variable {address : String} {options : Options} {parts : Parts} {bind : BindAddress}
  {l₀ : Listener}

theorem Parts.Unused.socketIdle (unused : Parts.Unused parts) : parts.socket.isIdle := by
  rw [Socket.isIdle, unused.socket]
  rfl

theorem Parts.Unused.timerIdle (unused : Parts.Unused parts) : parts.timer.isIdle := by
  rw [Timer.isIdle, unused.timer]
  rfl

theorem startsIdle_created (unused : Parts.Unused parts)
    (parsed : BindAddress.parse address options.ipv4Only = .ok bind)
    (created : create address options parts = .ok (.done l₀)) :
    StartsIdle (fresh address bind options parts) l₀ := by
  obtain ⟨bind', hbind, setUp⟩ := exists_setUp_begun created
  obtain rfl : bind' = bind := Except.ok.inj (hbind.symm.trans parsed)
  have silent : Silent (begun address bind' options parts) := silent_begun unused
  have h : StartsIdle (begun address bind' options parts) l₀ :=
    startsIdle_setUp (by rw [silent.numbers_eq, silent.nextId_eq]; rfl) unused.socketIdle
      unused.timerIdle setUp
  exact ⟨h.socket, h.timer, h.acceptor⟩

theorem startsInTurn_run (unused : Parts.Unused parts)
    (created : create address options parts = .ok (.done l₀)) (actions : List Action)
    (timely : (l₀.history actions).timely) :
    StartsInTurn (l₀.history actions) (l₀.run actions).machine := by
  revert timely
  refine Outcome.machine_history_induction
    (P := fun (h : History) l => h.timely → StartsInTurn h l) ?_ ?_ ?_ actions
  · intro _
    obtain ⟨bind, -, setUp⟩ := exists_setUp_begun created
    exact ⟨coherent_created ⟨address, options, parts, unused, created⟩, by simp,
      othersIdle_setUp (silent_begun unused) unused.socketIdle unused.timerIdle setUp⟩
  · intro h l a l' hpast hstep htimely
    rw [History.timely_snoc] at htimely
    obtain ⟨hbefore, ht⟩ := Bool.and_eq_true_iff.1 htimely
    have hi := hpast hbefore
    exact hi.stepped ht (stepped_of_step hstep) (coherent_step hi.coherent hstep)
  · intro h l a v m hpast hstep htimely
    obtain ⟨hl, hstarted, hothers⟩ := hpast htimely
    rw [eq_note_of_violation hl hstep]
    exact ⟨hl.congr rfl rfl rfl rfl rfl rfl, hstarted, hothers⟩

end Run

end EndpointLifecycle.Listener
