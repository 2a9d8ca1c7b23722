import EndpointLifecycle.Proofs.Listener.Beginnings
import EndpointLifecycle.Proofs.Listener.Shutdown

/-!
# What a listener refuses

A listener at work refuses every event that it does not expect in its state, and during the shutdown
every event that no collaborator could be late with. What is refused is always the event itself: the
listener never gets into a position in which it could not go on, so that its guards against this
never strike. A refusal leaves its mark in the log and nothing else.
-/

namespace EndpointLifecycle.Listener

/-- The events that a listener at work has to reckon with. -/
inductive Expected (l : Listener) : Event → Prop
  | accepted {id} (active : l.state = .active) (pending : l.pending = some id) :
      Expected l (.connection id .accepted)
  | broken {id} (active : l.state = .active) (established : id ∈ l.established) :
      Expected l (.connection id .error)
  | ended {id} (active : l.state = .active) (established : id ∈ l.established) :
      Expected l (.connection id .stopped)
  | halfClosed (closing : l.state = .closing) : Expected l (.socket .shutdown)
  | closed (closing : l.state = .closing) : Expected l (.socket .stopped)
  | timedOut (waiting : l.state = .waiting) : Expected l (.retry .timeout)
  | rested (stopping : l.state = .stoppingBackoff) : Expected l (.retry .stopped)

/-- The events that nothing can explain, not even that they are late. -/
inductive Misplaced (l : Listener) : Event → Prop
  | connected : Misplaced l (.socket .connected)
  | failed : Misplaced l (.socket .error)
  | unknown {id} (e : ConnectionEvent) (unknown : id ∉ l.acceptors.numbers) :
      Misplaced l (.connection id e)
  | accepted {id} (established : id ∈ l.established) : Misplaced l (.connection id .accepted)

/-- The events that are out of place in the phase in which the listener is. -/
def Illegal (l : Listener) (e : Event) : Prop :=
  l.phase = .stopped ∨ (l.phase = .active ∧ ¬ l.Expected e) ∨
    (l.phase = .stopping ∧ l.Misplaced e)

/-- A number that was given out and is not in use any more. -/
structure Retired (l : Listener) (id : ConnectionId) : Prop where
  known : id ∈ l.acceptors.numbers
  not_pending : l.pending ≠ some id
  not_established : id ∉ l.established

/-- How an event is named where the events of connections are told apart by their connection. -/
def Refused.ofEvent : Event → Refused
  | .connection id e => .ofConnection id e
  | e => .event e

/-- What is said of an event that is refused. -/
def complaint (l : Listener) (e : Event) : Violation :=
  match l.phase with
  | .active => ⟨if l.state = .active then .ofEvent e else .event e, .state l.state⟩
  | .stopping => ⟨.ofEvent e, .state l.state⟩
  | .idle | .stopped => ⟨.event e, .phase l.phase⟩

variable {l m : Listener} {e : Event} {v : Violation}

section Legality

theorem exists_handled_iff (hl : Coherent l) : (∃ m, Handled l e m) ↔ l.Expected e := by
  constructor
  · rintro ⟨m, h⟩
    cases h with
    | accepted active pending => exact .accepted active pending
    | broken active _ established => exact .broken active established
    | ended active _ established => exact .ended active established
    | halfClosed closing => exact .halfClosed closing
    | closed closing => exact .closed closing
    | timedOut waiting => exact .timedOut waiting
    | rested stopping => exact .rested stopping
  · intro h
    -- A connection is not established as long as it is pending.
    have hother {id} (hid : id ∈ l.established) : l.pending ≠ some id := fun hp =>
      hl.pending_notMem id hp hid
    cases h with
    | accepted active pending => exact ⟨_, .accepted active pending⟩
    | broken active established => exact ⟨_, .broken active (hother established) established⟩
    | ended active established => exact ⟨_, .ended active (hother established) established⟩
    | halfClosed closing => exact ⟨_, .halfClosed closing⟩
    | closed closing => exact ⟨_, .closed closing⟩
    | timedOut waiting => exact ⟨_, .timedOut waiting⟩
    | rested stopping => exact ⟨_, .rested stopping⟩

theorem Coherent.mem_numbers (hl : Coherent l) {id : ConnectionId} :
    id ∈ l.acceptors.numbers ↔ id < l.nextId := by
  rw [hl.numbers_eq, List.mem_range]

theorem Coherent.mem_numbers_of_pending (hl : Coherent l) {id : ConnectionId}
    (h : l.pending = some id) : id ∈ l.acceptors.numbers :=
  hl.mem_numbers.2 (hl.pending_newest id h ▸ Nat.lt_succ_self id)

theorem not_absorbed_of_misplaced (hl : Coherent l) (h : l.Misplaced e) : ¬ Absorbed l e m := by
  intro ha
  cases h with
  | connected | failed => cases ha
  | unknown e unknown =>
    cases ha with
    | pending _ pending => exact unknown (hl.mem_numbers_of_pending pending)
    | ended _ established => exact unknown (hl.mem_numbers.2 (hl.established_lt _ established))
    | broken _ established => exact unknown (hl.mem_numbers.2 (hl.established_lt _ established))
    | late _ _ _ known => exact unknown (hl.mem_numbers.2 known)
  | accepted established =>
    cases ha with
    | pending _ pending => exact hl.pending_notMem _ pending established
    | late _ _ gone => exact gone established

theorem exists_absorbed_of_not_misplaced (hl : Coherent l) (h : ¬ l.Misplaced e) :
    ∃ m, Absorbed l e m := by
  cases e with
  | socket e =>
    cases e with
    | connected => exact absurd .connected h
    | error => exact absurd .failed h
    | shutdown => exact ⟨_, .halfClosed⟩
    | stopped => exact ⟨_, .closed⟩
  | retry e => exact ⟨_, .retry e⟩
  | connection id e =>
    by_cases pending : l.pending = some id
    · exact ⟨_, .pending e pending⟩
    · by_cases established : id ∈ l.established
      · cases e with
        | accepted => exact absurd (.accepted established) h
        | error => exact ⟨_, .broken pending established⟩
        | stopped => exact ⟨_, .ended pending established⟩
      · have known : id ∈ l.acceptors.numbers := by_contra fun hid => h (.unknown e hid)
        exact ⟨_, .late e pending established (hl.mem_numbers.1 known)⟩

theorem exists_absorbed_iff (hl : Coherent l) : (∃ m, Absorbed l e m) ↔ ¬ l.Misplaced e :=
  ⟨fun ⟨_, ha⟩ h => not_absorbed_of_misplaced hl h ha, exists_absorbed_of_not_misplaced hl⟩

/-- After an event that is taken in, the shutdown goes on: there are stages left to pass. -/
theorem exists_advanced (hl : Coherent l) (stopping : l.phase = .stopping)
    (h : Absorbed l e m) : ∃ last, m.advanceShutdown = .done last := by
  have hphase : m.state.phase = .stopping := by
    rw [(state_absorbed h).1, ← hl.phase_eq, stopping]
  exact ⟨_, advanceShutdown_eq hphase⟩

theorem handle_eq_done_iff (active : l.phase = .active) :
    l.handle e = .done m ↔ Handled l e m := by
  rw [handle, active]
  exact ⟨handled_of_onEvent, onEvent_of_handled⟩

theorem exists_handle_iff (hl : Coherent l) :
    (∃ m, l.handle e = .done m) ↔
      (l.phase = .active ∧ ∃ m, Handled l e m) ∨ (l.phase = .stopping ∧ ∃ m, Absorbed l e m) := by
  constructor
  · rintro ⟨m, h⟩
    cases stepped_of_handle h with
    | handled active h => exact .inl ⟨active, m, h⟩
    | absorbed stopping h => exact .inr ⟨stopping, _, h⟩
  · rintro (⟨active, m, h⟩ | ⟨stopping, m, h⟩)
    · exact ⟨m, (handle_eq_done_iff active).2 h⟩
    · obtain ⟨last, hlast⟩ := exists_advanced hl stopping h
      refine ⟨last, ?_⟩
      rw [handle, stopping]
      simp only [onShutdown, absorb_of_absorbed h, Outcome.andThen_done, hlast]

theorem exists_violation_iff (hl : Reachable l) :
    (∃ v m, l.handle e = .violation v m) ↔ l.Illegal e := by
  have hl' := hl.coherent
  have hnot : (∃ v m, l.handle e = .violation v m) ↔ ¬ ∃ m, l.handle e = .done m := by
    cases l.handle e <;> simp
  have hphase : l.phase ≠ .idle := by
    rw [hl'.phase_eq]
    cases l.state <;> simp [State.phase]
  rw [hnot, exists_handle_iff hl', exists_handled_iff hl', exists_absorbed_iff hl', Illegal]
  cases hp : l.phase <;> simp_all

end Legality

section Clean

theorem refused_of_onEvent (h : l.onEvent e = .violation v m) :
    v = ⟨if l.state = .active then .ofEvent e else .event e, .state l.state⟩ := by
  unfold onEvent at h
  split at h
  case h_1 id ce active =>
    unfold onConnection at h
    dsimp only at h
    repeat' split at h
    all_goals cases h <;> simp [active, Refused.ofEvent]
  case h_6 e _ _ other _ _ _ _ =>
    cases h
    split
    case isTrue active =>
      cases e with
      | socket | retry => rfl
      | connection id ce => exact (other id ce active rfl).elim
    case isFalse => rfl
  all_goals cases h

theorem refused_of_absorb (h : l.absorb e = .violation v m) :
    v = ⟨.ofEvent e, .state l.state⟩ := by
  unfold absorb at h
  repeat' split at h
  all_goals cases h <;> rfl

/-- All that is refused is the event itself. -/
theorem eq_complaint_of_handle (hl : Coherent l) (h : l.handle e = .violation v m) :
    v = l.complaint e := by
  rw [handle] at h
  rw [complaint]
  cases hphase : l.phase with
  | active =>
    rw [hphase] at h
    exact refused_of_onEvent h
  | stopping =>
    rw [hphase] at h
    change (l.absorb e).andThen advanceShutdown = .violation v m at h
    cases ha : l.absorb e with
    | done m' =>
      obtain ⟨last, hlast⟩ := exists_advanced hl hphase (absorbed_of_absorb ha)
      rw [ha, Outcome.andThen_done, hlast] at h
      cases h
    | violation v' m' =>
      rw [ha] at h
      cases h
      exact refused_of_absorb ha
  | idle | stopped =>
    rw [hphase] at h
    cases h
    rfl

/-- A refusal of `e` that is over with one entry in the log, which names machine, state and event as
the message does. No collaborator is called, and the host learns nothing. -/
structure RefusesCleanly (l : Listener) (e : Event) (v : Violation) (m : Listener) : Prop where
  reason : v = l.complaint e
  message_eq : v.message =
    machineName ++ ": illegal event " ++ v.refused.text ++ " in state " ++ v.place.text
  machine_eq : m = { l with log := m.log }
  entries_eq : m.entries = l.entries ++
    [⟨.error, "endpoint state machine received an illegal event",
      [("machine", machineName), ("state", v.place.text), ("event", v.refused.text)]⟩]

theorem refusesCleanly (hl : Coherent l) (h : l.handle e = .violation v m) :
    l.RefusesCleanly e v m := by
  have hm : m = l.note (.refused v) := eq_note_of_violation (a := .event e) hl h
  refine ⟨eq_complaint_of_handle hl h, rfl, by rw [hm]; rfl, ?_⟩
  rw [hm]
  simp [entries, note, Notice.entry]

/-- Every event is either illegal and refused cleanly, or legal and not refused. A number that is
out of use is told apart from one that was never given out only during the shutdown. -/
theorem refuses_exactly_illegal (hl : Reachable l) :
    (∀ e, (∃ v m, l.handle e = .violation v m) ↔ l.Illegal e) ∧
      (∀ e v m, l.handle e = .violation v m → l.RefusesCleanly e v m) ∧
      ∀ id, l.Retired id → ∀ e,
        (l.phase = .active → ∃ v m, l.handle (.connection id e) = .violation v m) ∧
        (l.phase = .stopping → ∃ m, l.handle (.connection id e) = .done m) := by
  refine ⟨fun e => exists_violation_iff hl, fun e v m => refusesCleanly hl.coherent,
    fun id retired e => ⟨fun active => ?_, fun stopping => ?_⟩⟩
  · refine (exists_violation_iff hl).2 (.inr (.inl ⟨active, fun expected => ?_⟩))
    cases expected with
    | accepted _ pending => exact retired.not_pending pending
    | broken _ established | ended _ established => exact retired.not_established established
  · have known := hl.coherent.mem_numbers.1 retired.known
    exact (exists_handle_iff hl.coherent).2
      (.inr ⟨stopping, _, .late e retired.not_pending retired.not_established known⟩)

/-- A connection that has ended reports an error to a listener that goes on accepting. -/
theorem refuses_exactly_illegal_retired :
    ∃ l₀ l, create "*:5555" {} {} = .ok (.done l₀) ∧
      l₀.run [.event (.connection 0 .accepted), .event (.connection 0 .stopped)] = .done l ∧
      l.Retired 0 ∧ ∃ v m, l.handle (.connection 0 .error) = .violation v m ∧
        v = ⟨.ofConnection 0 .error, .state .active⟩ ∧
        l.RefusesCleanly (.connection 0 .error) v m := by
  let l₀ := startListening (begun "*:5555" ⟨.any, 5555⟩ {} {})
  have created : create "*:5555" {} {} = .ok (.done l₀) := rfl
  have hrun : l₀.run [.event (.connection 0 .accepted), .event (.connection 0 .stopped)] =
    .done ((l₀.promote 0).release 0) := rfl
  have reachable := reachable_run (.created ⟨_, _, _, ⟨rfl, rfl, rfl, rfl⟩, created⟩) hrun
  obtain ⟨-, clean, retired⟩ := refuses_exactly_illegal reachable
  have hretired : ((l₀.promote 0).release 0).Retired 0 := ⟨by decide, by decide, by decide⟩
  obtain ⟨v, m, h⟩ := (retired 0 hretired .error).1 rfl
  exact ⟨l₀, _, created, hrun, hretired, v, m, h, (clean _ v m h).reason, clean _ v m h⟩

end Clean

section Guards

/-- The event that is refused, if it is an event. -/
def Refused.event? : Refused → Option Event
  | .event e => some e
  | .ofConnection id e => some (.connection id e)
  | .start | .advanceShutdown | .destroy => none

/-- A request in the course of which the shutdown goes on, from `m` as far as it can. -/
inductive Advances (l : Listener) : Action → Listener → Prop
  | stop (active : l.phase = .active) : Advances l .stop l.beginStop
  | event {e : Event} {m : Listener} (stopping : l.phase = .stopping)
      (absorbed : l.absorb e = .done m) : Advances l (.event e) m

/-- No guard of a listener strikes. Phase and state agree, the shutdown gets to the end of each
request by at most three stages, all of them passed while it is under way, and only events are
refused. -/
structure Safe (l : Listener) : Prop where
  phase_eq : l.phase = l.state.phase
  advances : ∀ a m, l.Advances a m → ∃ passed last,
    m.advanceShutdown = .done last ∧ l.step a = .done last ∧
    (m :: passed).IsChain (fun x y => x.phase = .stopping ∧ passStage x = some y) ∧
    passed.getLastD m = last ∧ passStage last = none ∧ passed.length ≤ 3
  refuses : ∀ a v m, l.step a = .violation v m → ∃ e, a = .event e ∧ v.refused.event? = some e

theorem event?_refused_complaint (l : Listener) (e : Event) :
    (l.complaint e).refused.event? = some e := by
  unfold complaint
  cases l.phase <;> cases e <;> dsimp only <;> (try split) <;> rfl

theorem exists_passed (hm : Coherent m) (stopping : m.phase = .stopping) :
    ∃ passed last, m.advanceShutdown = .done last ∧
      (m :: passed).IsChain (fun x y => x.phase = .stopping ∧ passStage x = some y) ∧
      passed.getLastD m = last ∧ passStage last = none ∧ passed.length ≤ 3 := by
  have hdone := advanceShutdown_eq (hm.phase_eq ▸ stopping)
  refine ⟨m.cascade, _, hdone, ?_, getLastD_cascade hdone, passStage_of_advanceShutdown hdone, ?_⟩
  · refine isChain_passedStages_of (P := Coherent) ?_ ?_ _ hm
    · intro x y hx h
      exact coherent_passed hx (passed_of_passStage h)
    · intro x y hx h
      refine ⟨?_, h⟩
      cases passed_of_passStage h with
      | acceptor state | socket state | connections state => rw [hx.phase_eq, state]; rfl
  · have hleft : m.state.stagesLeft ≤ 3 := by cases m.state <;> simp [State.stagesLeft]
    exact (length_passedStages_le _ m).trans hleft

theorem Advances.coherent (hl : Coherent l) {a : Action} (h : l.Advances a m) :
    Coherent m ∧ m.phase = .stopping ∧ l.step a = m.advanceShutdown := by
  cases h with
  | stop active => exact ⟨coherent_beginStop hl, rfl, if_pos active⟩
  | event stopping absorbed =>
    have hm := absorbed_of_absorb absorbed
    refine ⟨coherent_absorbed hl hm, (phase_absorbed hm).trans stopping, ?_⟩
    rw [step, handle, stopping]
    simp only [onShutdown, absorbed, Outcome.andThen_done]

theorem Coherent.safe (hl : Coherent l) : Safe l := by
  refine ⟨hl.phase_eq, fun a m h => ?_, fun a v m h => ?_⟩
  · obtain ⟨hm, stopping, hstep⟩ := h.coherent hl
    obtain ⟨passed, last, hdone, hpassed⟩ := exists_passed hm stopping
    exact ⟨passed, last, hdone, hstep.trans hdone, hpassed⟩
  · cases a with
    | event e =>
      obtain rfl := eq_complaint_of_handle hl h
      exact ⟨e, rfl, event?_refused_complaint l e⟩
    | stop =>
      change l.stop = .violation v m at h
      by_cases active : l.phase = .active
      · obtain ⟨last, hlast, -⟩ := exists_stop active
        rw [hlast] at h
        cases h
      · rw [stop, if_neg active] at h
        cases h
    | completeStop c => cases h
    | inject point kind => cases h

/-- A listener is created idle, so that its start is not refused. -/
theorem exists_done_of_create {address : String} {options : Options} {parts : Parts}
    {o : Outcome Violation Listener} (h : create address options parts = .ok o) :
    ∃ l₀, o = .done l₀ := by
  unfold create at h
  cases hb : BindAddress.parse address options.ipv4Only with
  | error error => rw [hb] at h; cases h
  | ok bind => rw [hb] at h; cases h; exact ⟨_, rfl⟩

end Guards

end EndpointLifecycle.Listener
