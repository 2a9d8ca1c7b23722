import EndpointLifecycle.Proofs.History
import EndpointLifecycle.Proofs.Listener.Handling
import EndpointLifecycle.Proofs.Moments

/-!
# Listeners that can come about

A listener that was created with unused collaborators stays coherent whatever happens to it: its
phase is that of its state, the numbers of its acceptors run from zero without a gap, the pending
acceptor bears the newest number, and it exists exactly while the listener accepts or has not yet
given it up.
-/

namespace EndpointLifecycle.Listener

/-- Collaborators that have done nothing yet. Faults may be laid, and each may stop at once. -/
structure Parts.Unused (p : Parts) : Prop where
  socket : p.socket.activity = { stopsAtOnce := p.socket.activity.stopsAtOnce }
  calls : p.socket.calls = []
  timer : p.timer = { activity := { stopsAtOnce := p.timer.activity.stopsAtOnce } }
  acceptors : p.acceptors.created = []

/-- A listener as it is after its creation. -/
def Created (l : Listener) : Prop :=
  ∃ address options parts, Parts.Unused parts ∧ create address options parts = .ok (.done l)

inductive Reachable : Listener → Prop
  | created {l} (h : Created l) : Reachable l
  | step {l l'} (a : Action) (reachable : Reachable l) (h : l.step a = .done l') : Reachable l'

theorem reachable_run {l l' : Listener} (hl : Reachable l) {actions : List Action}
    (h : l.run actions = .done l') : Reachable l' := by
  unfold run at h
  induction actions generalizing l with
  | nil => cases h; exact hl
  | cons a as ih =>
    unfold Outcome.run at h
    cases hs : l.step a with
    | done m =>
      rw [hs] at h
      exact ih (.step a hl hs) h
    | violation reason m => rw [hs] at h; cases h

abbrev History := List (Transition Listener Action)

def history (l : Listener) (actions : List Action) : History := Outcome.history step l actions

/-- The phase to which a state belongs once the listener has been started. -/
def State.phase : State → Phase
  | active | closing | waiting | stoppingBackoff => .active
  | stoppingAcceptor | stoppingSocket | stoppingConnections => .stopping
  | idle => .stopped

structure Coherent (l : Listener) : Prop where
  phase_eq : l.phase = l.state.phase
  numbers_eq : l.acceptors.numbers = List.range l.nextId
  pending_newest : ∀ id, l.pending = some id → id + 1 = l.nextId
  pending_notMem : ∀ id, l.pending = some id → id ∉ l.established
  pending_isSome : l.state = .active → l.pending.isSome
  pending_eq_none : l.state ≠ .active → l.state ≠ .stoppingAcceptor → l.pending = none
  established_nodup : l.established.Nodup
  established_lt : ∀ id ∈ l.established, id < l.nextId
  /-- Before the first success of listening there has been no acceptor. -/
  nextId_eq_zero : l.phase = .active → l.state ≠ .active → l.nextId = 0

theorem Coherent.stopping {l : Listener} (h : Coherent l) (ha : l.phase ≠ .active)
    (hs : l.phase ≠ .stopped) : l.phase = .stopping := by
  rw [h.phase_eq] at ha hs ⊢
  cases hx : l.state <;> simp [hx, State.phase] at ha hs ⊢

theorem Coherent.state_eq_idle {l : Listener} (h : Coherent l) (hp : l.phase = .stopped) :
    l.state = .idle := by
  have hphase := h.phase_eq
  rw [hp] at hphase
  cases hs : l.state <;> rw [hs] at hphase <;> first | rfl | cases hphase

/-- A listener that has been started and has not listened yet. -/
structure Silent (l : Listener) : Prop where
  phase_eq : l.phase = .active
  numbers_eq : l.acceptors.numbers = []
  pending_eq : l.pending = none
  established_eq : l.established = []
  nextId_eq : l.nextId = 0

@[simp] theorem state_waitBeforeRetry (l : Listener) : l.waitBeforeRetry.state = .waiting := rfl

@[simp] theorem state_closeAfterFailure (l : Listener) (operation : Setup) (error : IoError) :
    (l.closeAfterFailure operation error).state = .closing := rfl

theorem Silent.coherent {l : Listener} (h : Silent l) (hs : l.state.phase = .active)
    (hn : l.state ≠ .active) : Coherent l where
  phase_eq := h.phase_eq.trans hs.symm
  numbers_eq := by simp [h.numbers_eq, h.nextId_eq]
  pending_newest := by simp [h.pending_eq]
  pending_notMem := by simp [h.pending_eq]
  pending_isSome := fun ha => absurd ha hn
  pending_eq_none := fun _ _ => h.pending_eq
  established_nodup := by simp [h.established_eq]
  established_lt := by simp [h.established_eq]
  nextId_eq_zero := fun _ _ => h.nextId_eq

theorem Coherent.silent {l : Listener} (h : Coherent l) (hp : l.phase = .active)
    (hn : l.state ≠ .active) : Silent l := by
  have hz := h.nextId_eq_zero hp hn
  refine ⟨hp, by simp [h.numbers_eq, hz], ?_, ?_, hz⟩
  · apply h.pending_eq_none hn
    intro hs
    rw [h.phase_eq, hs] at hp
    cases hp
  · apply List.eq_nil_iff_forall_not_mem.2
    intro id hid
    exact absurd (h.established_lt id hid) (by simp [hz])

theorem coherent_startAcceptor {l : Listener} (hp : l.phase = .active) (hs : l.state = .active)
    (hn : l.acceptors.numbers = List.range l.nextId) (hd : l.established.Nodup)
    (hlt : ∀ id ∈ l.established, id < l.nextId) : Coherent l.startAcceptor where
  phase_eq := by simp [startAcceptor, hp, hs, State.phase]
  numbers_eq := by simp [startAcceptor, hn, List.range_succ]
  pending_newest := by simp [startAcceptor]
  pending_notMem := by
    intro id hid hm
    obtain rfl : l.nextId = id := by simpa [startAcceptor] using hid
    exact absurd (hlt _ hm) (lt_irrefl _)
  pending_isSome := by simp [startAcceptor]
  pending_eq_none := by simp [startAcceptor, hs]
  established_nodup := hd
  established_lt := fun id hid => (hlt id hid).trans (Nat.lt_succ_self _)
  nextId_eq_zero := by simp [startAcceptor, hs]

/-- After an attempt that failed a listener has still not listened. -/
theorem silent_setUp {l l' : Listener} (h : Silent l) (hs : SetUp l l') (hn : l'.state ≠ .active) :
    Silent l' := by
  cases hs with
  | openFailed | bindFailed | listenFailed =>
    exact ⟨h.phase_eq, h.numbers_eq, h.pending_eq, h.established_eq, h.nextId_eq⟩
  | listening => exact absurd rfl hn

theorem coherent_setUp {l l' : Listener} (h : Silent l) (hs : SetUp l l') : Coherent l' := by
  have hsilent := silent_setUp h hs
  cases hs with
  | openFailed | bindFailed | listenFailed => exact (hsilent (by simp)).coherent rfl (by simp)
  | listening =>
    refine coherent_startAcceptor h.phase_eq rfl ?_ ?_ ?_
    · exact h.numbers_eq.trans (by simp [note, h.nextId_eq])
    · simp [note, h.established_eq]
    · simp [note, h.established_eq]

theorem coherent_release {l : Listener} (h : Coherent l) (id : ConnectionId) :
    Coherent (l.release id) where
  phase_eq := h.phase_eq
  numbers_eq := h.numbers_eq
  pending_newest := h.pending_newest
  pending_notMem := fun p hp hm => h.pending_notMem p hp (List.mem_of_mem_filter hm)
  pending_isSome := h.pending_isSome
  pending_eq_none := h.pending_eq_none
  established_nodup := h.established_nodup.filter _
  established_lt := fun p hp => h.established_lt p (List.mem_of_mem_filter hp)
  nextId_eq_zero := h.nextId_eq_zero

/-- Nothing that coherence speaks of has changed. -/
theorem Coherent.congr {l l' : Listener} (h : Coherent l) (hp : l'.phase = l.phase)
    (hs : l'.state = l.state) (hn : l'.acceptors.numbers = l.acceptors.numbers)
    (hi : l'.pending = l.pending) (he : l'.established = l.established)
    (hx : l'.nextId = l.nextId) : Coherent l' := by
  constructor <;> simp only [hp, hs, hn, hi, he, hx]
  exacts [h.phase_eq, h.numbers_eq, h.pending_newest, h.pending_notMem, h.pending_isSome,
    h.pending_eq_none, h.established_nodup, h.established_lt, h.nextId_eq_zero]

theorem coherent_promote {l : Listener} {id : ConnectionId} (h : Coherent l)
    (hs : l.state = .active) (hp : l.pending = some id) : Coherent (l.promote id) := by
  have hid : id + 1 = l.nextId := h.pending_newest id hp
  refine coherent_startAcceptor (h.phase_eq.trans (by simp [hs, State.phase])) hs h.numbers_eq ?_ ?_
  · refine List.nodup_append.2 ⟨h.established_nodup, List.pairwise_singleton _ id, ?_⟩
    rintro a ha b hb rfl
    obtain rfl := List.mem_singleton.1 hb
    exact h.pending_notMem a hp ha
  · intro a ha
    rcases List.mem_append.1 ha with ha | ha
    · exact h.established_lt a ha
    · obtain rfl := List.mem_singleton.1 ha
      exact hid ▸ Nat.lt_succ_self a

theorem phase_setUp {l l' : Listener} (h : SetUp l l') : l'.phase = l.phase := by
  cases h <;> rfl

theorem phase_handled {l l' : Listener} {e : Event} (h : Handled l e l') : l'.phase = l.phase := by
  cases h with
  | rested => exact phase_setUp (setUp_startListening l)
  | _ => rfl

theorem coherent_handled {l l' : Listener} {e : Event} (h : Coherent l) (he : Handled l e l') :
    Coherent l' := by
  have hactive {s} (hl : l.state = s) (hs : s.phase = .active) : l.phase = .active := by
    rw [h.phase_eq, hl, hs]
  cases he with
  | accepted active pending => exact coherent_promote h active pending
  | broken => exact h.congr rfl rfl (by simp [recycle, note]) rfl rfl rfl
  | ended => exact coherent_release h _
  | halfClosed => exact h
  | closed closing =>
    have hq := h.silent (hactive closing rfl) (by simp [closing])
    exact Silent.coherent
      ⟨hq.phase_eq, hq.numbers_eq, hq.pending_eq, hq.established_eq, hq.nextId_eq⟩
      rfl (by simp)
  | timedOut waiting =>
    have hq := h.silent (hactive waiting rfl) (by simp [waiting])
    exact Silent.coherent
      ⟨hq.phase_eq, hq.numbers_eq, hq.pending_eq, hq.established_eq, hq.nextId_eq⟩
      rfl (by simp)
  | rested stopping =>
    exact coherent_setUp (h.silent (hactive stopping rfl) (by simp [stopping]))
      (setUp_startListening l)

theorem coherent_absorbed {l l' : Listener} {e : Event} (h : Coherent l) (he : Absorbed l e l') :
    Coherent l' := by
  cases he with
  | retry | halfClosed | closed | pending | broken => exact h
  | ended => exact coherent_release h _
  | late => exact h.congr rfl rfl rfl rfl rfl rfl

theorem coherent_passed {l l' : Listener} (h : Coherent l) (hp : Passed l l') : Coherent l' := by
  have hphase := h.phase_eq
  cases hp with
  | acceptor state =>
    have hs : l.phase = .stopping := by rw [hphase, state]; rfl
    constructor <;> simp [h.numbers_eq, h.established_nodup, hs, State.phase]
    exact h.established_lt
  | socket state =>
    have hs : l.phase = .stopping := by rw [hphase, state]; rfl
    have hn : l.pending = none := h.pending_eq_none (by simp [state]) (by simp [state])
    constructor <;> simp [h.numbers_eq, h.established_nodup, hs, hn, State.phase]
    exact h.established_lt
  | connections state empty =>
    have hn : l.pending = none := h.pending_eq_none (by simp [state]) (by simp [state])
    constructor <;> simp [note, h.numbers_eq, empty, hn, State.phase]

theorem coherent_beginStop {l : Listener} (h : Coherent l) : Coherent l.beginStop := by
  constructor <;>
    simp [beginStop, note, State.phase, h.numbers_eq, h.established_nodup]
  exacts [h.pending_newest, h.pending_notMem, h.established_lt]

theorem advanceShutdown_eq {l : Listener} (hp : l.state.phase = .stopping) :
    l.advanceShutdown = .done (passStages passStage l.state.stagesLeft l) := by
  have hleft : l.state.stagesLeft ≠ 0 := fun h => by
    cases hs : l.state <;> simp [hs, State.phase, State.stagesLeft] at hp h
  rw [advanceShutdown, if_neg hleft]

theorem passStage_of_advanceShutdown {l l' : Listener} (h : l.advanceShutdown = .done l') :
    passStage l' = none := by
  unfold advanceShutdown at h
  split at h
  case isTrue => cases h
  case isFalse =>
    cases h
    exact passStage_passStages (fun m => m.state.stagesLeft) (fun _ _ => stagesLeft_passStage) rfl

/-- Where a shutdown stands still: it waits for someone who is not at rest, or it is over. -/
inductive Paused (l : Listener) : Prop
  | timer (state : l.state = .stoppingAcceptor) (busy : ¬l.retry.isIdle) : Paused l
  | acceptor (state : l.state = .stoppingAcceptor) {id} (pending : l.pending = some id)
      (busy : ¬l.acceptors.isIdle id) : Paused l
  | socket (state : l.state = .stoppingSocket) (busy : ¬l.socket.isIdle) : Paused l
  | connections (state : l.state = .stoppingConnections) (left : l.established ≠ []) : Paused l
  | stopped (state : l.state = .idle) (phase : l.phase = .stopped) : Paused l

/-- A stage that is not passed has someone to wait for. -/
theorem paused_of_passStage {l : Listener} (hphase : l.phase = l.state.phase)
    (inactive : l.phase ≠ .active) (h : passStage l = none) : Paused l := by
  have hstuck : ∀ m, ¬Passed l m := fun m hm => by simp [passStage_of_passed hm] at h
  cases state : l.state with
  | active | closing | waiting | stoppingBackoff =>
    exact absurd (by rw [hphase, state]; rfl) inactive
  | idle => exact .stopped state (by rw [hphase, state]; rfl)
  | stoppingAcceptor =>
    by_cases timerIdle : l.retry.isIdle
    case neg => exact .timer state timerIdle
    case pos =>
      have hbusy : ¬l.pending.all l.acceptors.isIdle := fun idle =>
        hstuck _ (.acceptor state idle timerIdle)
      rw [Option.all_eq_true] at hbusy
      push Not at hbusy
      obtain ⟨id, pending, busy⟩ := hbusy
      exact .acceptor state pending busy
  | stoppingSocket => exact .socket state fun idle => hstuck _ (.socket state idle)
  | stoppingConnections => exact .connections state fun empty => hstuck _ (.connections state empty)

/-- What every stage of the shutdown keeps is kept by the shutdown as far as it goes. -/
theorem advanceShutdown_induction {P : Listener → Prop} (hP : ∀ m m', Passed m m' → P m → P m')
    {l l' : Listener} (ha : l.advanceShutdown = .done l') (h : P l) : P l' := by
  unfold advanceShutdown at ha
  split at ha
  case isTrue => cases ha
  case isFalse =>
    cases ha
    exact passStages_induction (fun m m' hm => hP m m' (passed_of_passStage hm)) _ h

/-- The shutdown asks connections to stop, but forgets none. -/
theorem established_advance {l l' : Listener} (h : l.advanceShutdown = .done l') :
    l'.established = l.established :=
  advanceShutdown_induction (P := fun m => m.established = l.established)
    (fun _ _ hp hm => by cases hp <;> exact hm) h rfl

theorem coherent_advance {l l' : Listener} (h : Coherent l)
    (ha : l.advanceShutdown = .done l') : Coherent l' :=
  advanceShutdown_induction (fun _ _ hp hm => coherent_passed hm hp) ha h

theorem phase_absorbed {l l' : Listener} {e : Event} (h : Absorbed l e l') :
    l'.phase = l.phase := by
  cases h <;> rfl

theorem paused_of_advanceShutdown {l l' : Listener} (hphase : l.phase = l.state.phase)
    (inactive : l.phase ≠ .active) (h : l.advanceShutdown = .done l') : Paused l' := by
  have hkept : l'.phase = l'.state.phase ∧ l'.phase ≠ .active := by
    refine advanceShutdown_induction (P := fun m => m.phase = m.state.phase ∧ m.phase ≠ .active)
      (fun m m' hp hm => ?_) h ⟨hphase, inactive⟩
    cases hp with
    | acceptor state | socket state => exact ⟨by rw [hm.1, state]; rfl, hm.2⟩
    | connections => exact ⟨rfl, by simp⟩
  exact paused_of_passStage hkept.1 hkept.2 (passStage_of_advanceShutdown h)

theorem coherent_completeStop {l : Listener} (h : Coherent l) (c : Collaborator) :
    Coherent (l.completeStop c) := by
  cases c with
  | socket | timer => exact h.congr rfl rfl rfl rfl rfl rfl
  | acceptor id => exact h.congr rfl rfl (by simp [completeStop]) rfl rfl rfl

/-- What a listener can do in one request: all of it, if the request is carried out. -/
inductive Stepped (l : Listener) : Action → Listener → Prop
  | handled {e l'} (active : l.phase = .active) (h : Handled l e l') : Stepped l (.event e) l'
  | absorbed {e m l'} (stopping : l.phase = .stopping) (h : Absorbed l e m)
      (advanced : m.advanceShutdown = .done l') : Stepped l (.event e) l'
  | stopBegun {l'} (active : l.phase = .active)
      (advanced : l.beginStop.advanceShutdown = .done l') : Stepped l .stop l'
  | stopIgnored (inactive : l.phase ≠ .active) : Stepped l .stop l
  | completed (c : Collaborator) : Stepped l (.completeStop c) (l.completeStop c)
  | injected (point : FaultPoint) (kind : ErrorKind) :
      Stepped l (.inject point kind) { l with socket := l.socket.inject point kind }

theorem stepped_of_handle {l l' : Listener} {e : Event} (h : l.handle e = .done l') :
    Stepped l (.event e) l' := by
  unfold handle at h
  split at h
  case h_1 active => exact .handled active (handled_of_onEvent h)
  case h_2 stopping =>
    unfold onShutdown at h
    cases ha : l.absorb e with
    | violation reason m => rw [ha] at h; cases h
    | done m =>
      rw [ha] at h
      exact .absorbed stopping (absorbed_of_absorb ha) h
  case h_3 => cases h
  case h_4 => cases h

theorem stepped_of_step {l l' : Listener} {a : Action} (h : l.step a = .done l') :
    Stepped l a l' := by
  cases a with
  | event e => exact stepped_of_handle h
  | stop =>
    change l.stop = .done l' at h
    unfold stop at h
    split at h
    case isTrue active => exact .stopBegun active h
    case isFalse inactive => cases h; exact .stopIgnored inactive
  | completeStop c => cases h; exact .completed c
  | inject point kind => cases h; exact .injected point kind

theorem coherent_step {l l' : Listener} {a : Action} (h : Coherent l)
    (hs : l.step a = .done l') : Coherent l' := by
  cases stepped_of_step hs with
  | handled active he => exact coherent_handled h he
  | absorbed stopping ha advanced => exact coherent_advance (coherent_absorbed h ha) advanced
  | stopBegun active advanced => exact coherent_advance (coherent_beginStop h) advanced
  | stopIgnored => exact h
  | completed c => exact coherent_completeStop h c
  | injected => exact h.congr rfl rfl rfl rfl rfl rfl

/-- A listener that has been started and has made no attempt yet. -/
def begun (address : String) (bind : BindAddress) (options : Options) (parts : Parts) : Listener :=
  { (fresh address bind options parts).note .created with phase := .active }

theorem silent_begun {address : String} {bind : BindAddress} {options : Options} {parts : Parts}
    (unused : Parts.Unused parts) : Silent (begun address bind options parts) := by
  refine ⟨rfl, ?_, rfl, rfl, rfl⟩
  simp [begun, fresh, note, Acceptors.numbers, unused.acceptors]

/-- A listener begins with an attempt to listen. -/
theorem exists_setUp_begun {address : String} {options : Options} {parts : Parts} {l : Listener}
    (h : create address options parts = .ok (.done l)) :
    ∃ bind, BindAddress.parse address options.ipv4Only = .ok bind ∧
      SetUp (begun address bind options parts) l := by
  unfold create at h
  cases hb : BindAddress.parse address options.ipv4Only with
  | error e => rw [hb] at h; cases h
  | ok bind =>
    rw [hb] at h
    simp only [Except.map, start, fresh, if_true, Except.ok.injEq, Outcome.done.injEq] at h
    subst h
    exact ⟨bind, rfl, setUp_startListening _⟩

theorem exists_setUp_of_created {l : Listener} (h : Created l) : ∃ l', Silent l' ∧ SetUp l' l := by
  obtain ⟨address, options, parts, unused, h⟩ := h
  obtain ⟨bind, -, setUp⟩ := exists_setUp_begun h
  exact ⟨_, silent_begun unused, setUp⟩

theorem coherent_created {l : Listener} (h : Created l) : Coherent l := by
  obtain ⟨l', silent, setUp⟩ := exists_setUp_of_created h
  exact coherent_setUp silent setUp

theorem phase_created {l : Listener} (h : Created l) : l.phase = .active := by
  obtain ⟨l', silent, setUp⟩ := exists_setUp_of_created h
  rw [phase_setUp setUp, silent.phase_eq]

theorem Reachable.coherent {l : Listener} (h : Reachable l) : Coherent l := by
  induction h with
  | created h => exact coherent_created h
  | step a _ hs ih => exact coherent_step ih hs

end EndpointLifecycle.Listener
