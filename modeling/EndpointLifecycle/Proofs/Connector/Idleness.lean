import EndpointLifecycle.Proofs.Connector.Attempts
import EndpointLifecycle.Proofs.Connector.WindingDown
import EndpointLifecycle.Proofs.Connector.Working

/-!
# A connector starts only what is idle

As long as the end of a stop is reported only of a collaborator that is idle, all collaborators of a
connector at work are idle but those that its state engages. So the next one it turns to is idle.
-/

namespace EndpointLifecycle.Connector

/-- The end of a stop is reported in time: the collaborator is idle. -/
def timely (c : Connector) : Action → Bool
  | .event (.socket .stopped) => c.socket.isIdle
  | .event (.retry .stopped) => c.retry.isIdle
  | .event (.resolver .stopped) => c.resolver.isIdle
  | .event (.session .stopped) => c.session.isIdle
  | _ => true

/-- All ends of stops were reported in time. -/
def History.timely (h : History) : Bool := h.all fun t => t.before.timely t.action

theorem History.timely_snoc (h : History) (t : Transition Connector Action) :
    timely (h ++ [t]) = (h.timely && t.before.timely t.action) := by
  simp [timely]

/-- What was started on the way from `c` to `c'` was idle, and was started once. -/
structure StartsIdle (c c' : Connector) : Prop where
  socket : c.socket.OpenedIdle c'.socket
  timer : (c'.activity .timer).starts ≠ (c.activity .timer).starts →
    c.retry.isIdle ∧ ∃ interval, c'.retry.timer = c.retry.timer.start interval
  resolver : (c'.activity .resolver).starts ≠ (c.activity .resolver).starts →
    c.resolver.isIdle ∧ ∃ lookup, c'.resolver = c.resolver.start lookup
  session : c'.session.starts ≠ c.session.starts → c.session.isIdle ∧ c'.session = c.session.start

/-- Whom the state of a connector at work does not engage is idle. -/
def OthersIdle (c : Connector) : Prop :=
  c.phase = .active → ∀ x, x ∉ c.state.engages → (c.activity x).isIdle

section Starts

variable {c c' : Connector} {a : Action}

theorem BeginsNothing.startsIdle (h : BeginsNothing c c') : StartsIdle c c' where
  socket := h.socket.openedIdle
  timer := fun hne => absurd (h.eases .timer).starts_eq hne
  resolver := fun hne => absurd (h.eases .resolver).starts_eq hne
  session := fun hne => absurd (h.eases .session).starts_eq hne

/-- Only the first call of an attempt opens the socket. -/
theorem isStart_tail_calls (target : ConnectAddress) (options : Options) (ip : IpAddr)
    (attempt : Attempt) : ∀ made ∈ (attempt.calls target options ip ++ attempt.closing).tail,
      made.call.isStart = false := by
  cases attempt <;> simp [Attempt.calls, Attempt.closing, openingCalls, SocketCall.isStart]

theorem openedIdle_attempted {ip : IpAddr} (socketIdle : c.socket.isIdle) (h : Attempted c ip c') :
    c.socket.OpenedIdle c'.socket := by
  cases concluded_attempted h with
  | failed attempt made =>
    exact made.openedIdle socketIdle (isStart_tail_calls c.target c.options ip attempt)
  | connecting unsized made =>
    have htail := isStart_tail_calls c.target c.options ip (.connecting unsized)
    refine made.openedIdle socketIdle fun call hcall => htail call ?_
    rw [List.tail_append_of_ne_nil (by simp [Attempt.calls, openingCalls])]
    exact List.mem_append_left _ hcall

theorem startsIdle_attempted {ip : IpAddr} (socketIdle : c.socket.isIdle)
    (timerIdle : c.retry.isIdle) (h : Attempted c ip c') : StartsIdle c c' where
  socket := openedIdle_attempted socketIdle h
  timer := by
    intro hne
    cases h with
    | openFailed => exact ⟨timerIdle, _, rfl⟩
    | opened opened dialled =>
      obtain ⟨log, dialled⟩ := exists_dialled_of_sizeBuffers dialled
      cases dialled <;> exact absurd rfl hne
  resolver := by
    intro hne
    have hresolver : c'.resolver = c.resolver := (remote_attempted h).2.1
    exact absurd (congrArg (·.activity.starts) hresolver) hne
  session := by
    intro hne
    cases h with
    | openFailed => exact absurd rfl hne
    | opened opened dialled =>
      obtain ⟨log, dialled⟩ := exists_dialled_of_sizeBuffers dialled
      cases dialled <;> exact absurd rfl hne

theorem startsIdle_begins (hc : Coherent c) (hi : OthersIdle c) (h : Begins c a c') :
    StartsIdle c c' := by
  have hidle {s : State} (hs : c.state = s) (hp : s.phase = .active) (x : Collaborator)
      (hx : x ∉ s.engages) : (c.activity x).isIdle :=
    hi (by rw [hc.phase_eq, hs, hp]) x (by rwa [hs])
  have hsame {m : Connector} (hm : m.socket = c.socket) : c.socket.OpenedIdle m.socket :=
    (Socket.onlyStopped_of_eq (by rw [hm])).openedIdle
  cases h with
  | nothing h => exact h.startsIdle
  | attempt stopping resolved h =>
    have hstart := startsIdle_attempted (c := { c with resolved := none })
      (hidle stopping rfl .socket (by simp [State.engages]))
      (hidle stopping rfl .timer (by simp [State.engages])) h
    exact ⟨hstart.socket, hstart.timer, hstart.resolver, hstart.session⟩
  | restAfterFailure stopping =>
    exact ⟨hsame rfl,
      fun _ => ⟨hidle stopping rfl .timer (by simp [State.engages]), _, rfl⟩,
      fun hne => absurd rfl hne, fun hne => absurd rfl hne⟩
  | session connecting =>
    exact ⟨hsame rfl, fun hne => absurd rfl hne, fun hne => absurd rfl hne,
      fun _ => ⟨hidle connecting rfl .session (by simp [State.engages]), rfl⟩⟩
  | wait stopping =>
    exact ⟨hsame rfl,
      fun _ => ⟨hidle stopping rfl .timer (by simp [State.engages]), _, rfl⟩,
      fun hne => absurd rfl hne, fun hne => absurd rfl hne⟩
  | lookup stopping =>
    exact ⟨hsame rfl, fun hne => absurd rfl hne,
      fun _ => ⟨hidle stopping rfl .resolver (by simp [State.engages]), _, rfl⟩,
      fun hne => absurd rfl hne⟩

end Starts

section Others

variable {c c' : Connector} {a : Action}

theorem OthersIdle.eases (hi : OthersIdle c) (h : BeginsNothing c c')
    (hp : c'.phase = .active → c.phase = .active)
    (hs : ∀ x ∉ c'.state.engages, x ∉ c.state.engages) : OthersIdle c' :=
  fun active x hx => (h.eases x).isIdle (hi (hp active) x (hs x hx))

/-- The connector turns to another collaborator: whom it leaves behind is idle. -/
theorem OthersIdle.handOver (hi : OthersIdle c) (active : c.phase = .active)
    (hs : ∀ x ∉ c'.state.engages,
      c'.activity x = c.activity x ∧ (x ∉ c.state.engages ∨ (c.activity x).isIdle)) :
    OthersIdle c' := by
  intro _ x hx
  obtain ⟨hsame, hother | hidle⟩ := hs x hx
  · rw [hsame]
    exact hi active x hother
  · rwa [hsame]

theorem othersIdle_tried (hidle : ∀ x, (c.activity x).isIdle) (h : Tried c c') :
    OthersIdle c' := by
  intro _ x hx
  cases h with
  | notOpened state timer others =>
    rw [others x (by rintro rfl; simp [state, State.engages] at hx)]
    exact hidle x
  | givenUp state socket connects others | connecting state socket connects stops others =>
    rw [others x (by rintro rfl; simp [state, State.engages] at hx)]
    exact hidle x

theorem othersIdle_handled {e : Event} (hi : OthersIdle c) (active : c.phase = .active)
    (ht : c.timely (.event e)) (h : Handled c e c') : OthersIdle c' := by
  have hkept {m : Connector} {s : State} (hs : c.state = s) (h : BeginsNothing c m)
      (hm : m.state.engages = s.engages) : OthersIdle m :=
    hi.eases h (fun _ => active) fun x hx => by rwa [hs, ← hm]
  cases h with
  | done result resolving => exact hkept resolving (beginsNothing_done c result) rfl
  | @found ip stopping =>
    have htried := tried_of_attempted (attempted_startConnecting { c with resolved := none } ip)
    refine othersIdle_tried (fun x => ?_) htried.of_resolved
    by_cases hx : x = .resolver
    · subst hx
      exact ht
    · exact hi active x (by simp [stopping, State.engages, hx])
  | unfound stopping =>
    refine hi.handOver active fun x hx => ?_
    cases x with
    | resolver => exact ⟨rfl, .inr ht⟩
    | timer => simp [waitBeforeRetry, note, State.engages] at hx
    | socket | session => exact ⟨rfl, .inl (by simp [stopping, State.engages])⟩
  | connected connecting =>
    refine hi.handOver active fun x hx => ?_
    cases x with
    | socket | session => simp [onConnected, State.engages] at hx
    | timer | resolver => exact ⟨rfl, .inl (by simp [connecting, State.engages])⟩
  | connectFailed connecting =>
    exact hkept connecting (beginsNothing_of_socket rfl rfl rfl rfl) rfl
  | broken hactive => exact hkept hactive (beginsNothing_onBroken c) rfl
  | halfClosed => exact hi
  | ended stopping =>
    refine hi.handOver active fun x hx => ?_
    cases x with
    | session => exact ⟨rfl, .inr ht⟩
    | socket => simp [State.engages] at hx
    | timer | resolver => exact ⟨rfl, .inl (by simp [stopping, State.engages])⟩
  | closed stopping =>
    refine hi.handOver active fun x hx => ?_
    cases x with
    | socket => exact ⟨rfl, .inr ht⟩
    | timer => simp [waitBeforeRetry, note, State.engages] at hx
    | resolver | session => exact ⟨rfl, .inl (by simp [stopping, State.engages])⟩
  | timedOut waiting => exact hkept waiting (beginsNothing_timedOut c) rfl
  | rested stopping =>
    refine hi.handOver active fun x hx => ?_
    cases x with
    | timer => exact ⟨rfl, .inr ht⟩
    | resolver => simp [startResolving, State.engages] at hx
    | socket | session => exact ⟨rfl, .inl (by simp [stopping, State.engages])⟩

theorem othersIdle_stepped (hc : Coherent c) (hi : OthersIdle c) (ht : c.timely a)
    (h : Stepped c a c') : OthersIdle c' := by
  cases h with
  | handled active he => exact othersIdle_handled hi active ht he
  | absorbed e stopping => exact fun hp => absurd hp (phase_absorbed_ne hc stopping e)
  | stopBegun => exact fun hp => absurd hp (phase_stopBegun_ne c)
  | stopIgnored => exact hi
  | completed x =>
    have hk := kept_completeStop c x
    exact hi.eases (beginsNothing_completeStop c x) (fun hp => hk.phase_eq ▸ hp)
      fun y hy => hk.state_eq ▸ hy
  | injected point kind => exact hi.eases (beginsNothing_inject c point kind) id fun _ hx => hx

end Others

/-- How a connector starts things in a history in which the ends of stops were reported in time. -/
structure StartsInTurn (h : History) (c : Connector) : Prop where
  coherent : Coherent c
  started : ∀ t ∈ h, StartsIdle t.before t.after
  others : OthersIdle c

theorem StartsInTurn.stepped {h : History} {c c' : Connector} {a : Action} (hi : StartsInTurn h c)
    (ht : c.timely a) (hs : Stepped c a c') (hc' : Coherent c') :
    StartsInTurn (h ++ [⟨c, a, c'⟩]) c' where
  coherent := hc'
  started := by
    rw [List.forall_mem_append, List.forall_mem_singleton]
    exact ⟨hi.started, startsIdle_begins hi.coherent hi.others (begins_stepped hi.coherent hs)⟩
  others := othersIdle_stepped hi.coherent hi.others ht hs

theorem beginsNothing_of_violation {c m : Connector} {a : Action} {violation : Violation}
    (h : c.step a = .violation violation m) : BeginsNothing c m := by
  rw [eq_note_of_violation h]
  exact beginsNothing_note ..

section Run

variable {address : String} {options : Options} {parts : Parts} {target : ConnectAddress}
  {c₀ : Connector}

theorem startsIdle_created (unused : Parts.Unused parts)
    (parsed : ConnectAddress.parse address options.ipv4Only = .ok target)
    (created : create address options parts = .ok (.done c₀)) :
    StartsIdle (fresh address target options parts) c₀ := by
  obtain ⟨target', htarget, rfl⟩ := exists_begun_of_create created
  obtain rfl : target' = target := Except.ok.inj (htarget.symm.trans parsed)
  have resolverIdle : parts.resolver.isIdle := by
    rw [Resolver.isIdle, unused.resolver]
    rfl
  exact ⟨(Socket.onlyStopped_of_eq rfl).openedIdle, fun hne => absurd rfl hne,
    fun _ => ⟨resolverIdle, _, rfl⟩, fun hne => absurd rfl hne⟩

theorem othersIdle_begun (unused : Parts.Unused parts) :
    OthersIdle (begun address target options parts) := by
  intro _ x hx
  cases x with
  | socket =>
    change parts.socket.activity.isIdle
    rw [unused.socket]
    rfl
  | timer =>
    change parts.timer.activity.isIdle
    rw [unused.timer]
    rfl
  | resolver => simp [begun, startResolving, State.engages] at hx
  | session =>
    change parts.session.isIdle
    rw [unused.session]
    rfl

theorem startsInTurn_run (unused : Parts.Unused parts)
    (created : create address options parts = .ok (.done c₀)) (actions : List Action)
    (timely : (c₀.history actions).timely) :
    StartsInTurn (c₀.history actions) (c₀.run actions).machine := by
  revert timely
  refine Outcome.machine_history_induction
    (P := fun (h : History) c => h.timely → StartsInTurn h c) ?_ ?_ ?_ actions
  · intro _
    have hc := coherent_created ⟨address, options, parts, unused, created⟩
    obtain ⟨target, -, rfl⟩ := exists_begun_of_create created
    exact ⟨hc, by simp, othersIdle_begun unused⟩
  · intro h c a c' hpast hstep htimely
    rw [History.timely_snoc] at htimely
    obtain ⟨hbefore, ht⟩ := Bool.and_eq_true_iff.1 htimely
    have hi := hpast hbefore
    exact hi.stepped ht (stepped_of_step hstep) (coherent_step hi.coherent hstep)
  · intro h c a v m hpast hstep htimely
    obtain ⟨hc, hstarted, hothers⟩ := hpast htimely
    rw [eq_note_of_violation hstep]
    exact ⟨coherent_note hc _, hstarted, hothers⟩

end Run

end EndpointLifecycle.Connector
