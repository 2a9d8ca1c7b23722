import EndpointLifecycle.Proofs.Connector.Working
import EndpointLifecycle.Proofs.System.Progress

/-!
# A connector at work gets its connection

Whatever has failed before, the collaborators can bring a connector at work to a new lookup. When
the peer is found and the connect works, the connector is active; each fault on the way is met once.
-/

namespace EndpointLifecycle.Connector

open Channel

variable {s : System Connector Report} {m : Connector}

/-- At work in a state, with a number of faults still laid. -/
structure Stands (x : State) (n : ℕ) (s : System Connector Report) : Prop where
  atWork : AtWork s
  state_eq : s.machine.state = x
  faults_eq : s.machine.socket.faults = n

variable {n : ℕ}

theorem Stands.deliver {st : State} (h : Stands st n s) {x : Collaborator} {r : Report x}
    {rest : List (Report x)} (hq : (s.channel x).queue = r :: rest)
    {P : System Connector Report → Prop}
    (hP : ∀ m, Handled s.machine (eventOf x r) m → AtWork (wiring.after (s.take x) m) →
      P (wiring.after (s.take x) m)) : wiring.Attains s P := by
  have hp : s.machine.phase = .active := h.atWork.active
  obtain ⟨m, hhandled, hm⟩ := h.atWork.deliver hq
  refine Wiring.attains_deliver ?_ hq (handle_of_handled hp hhandled) (hP m hhandled hm)
  change s.machine.phase ≠ .stopped
  simp [hp]

theorem Stands.ended {st : State} (h : Stands st n s) {x : Collaborator} {Before : Report x → Prop}
    (he : Ending (ended x) Before (s.machine.activity x) (s.channel x)) :
    wiring.Attains s fun t => (Stands st n t ∧ t.machine.resolved = s.machine.resolved) ∧
      ∃ rest, (t.channel x).queue = rest ++ [ended x] ∧ ∀ r ∈ rest, Before r := by
  have hstop := (activity_completeStop s.machine x x).trans (if_pos rfl)
  apply Wiring.attains_ended hstop he ⟨h, rfl⟩
  intro hc
  refine ⟨⟨h.atWork.completed hc, (kept_completeStop ..).state_eq.trans h.state_eq, ?_⟩,
    (kept_completeStop ..).resolved_eq⟩
  rw [← h.faults_eq]
  cases x <;> rfl

/-- A collaborator that has been heard comes to rest, and only the end of its stop is left. -/
theorem Stands.rested {st : State} (h : Stands st n s) {x : Collaborator} {Q : Report x → Prop}
    (hf : OneShot (Connector.ended x) Q .heard (s.machine.activity x) (s.channel x)) :
    wiring.Attains s fun t => (Stands st n t ∧ t.machine.resolved = s.machine.resolved) ∧
      (t.channel x).queue = [Connector.ended x] :=
  (h.ended hf.2).imp fun _ ⟨ht, rest, hq, hrest⟩ => by
    obtain rfl : rest = [] := List.eq_nil_iff_forall_not_mem.2 fun r hr => hrest r hr
    exact ⟨ht, hq⟩

theorem Stands.halfClosed (h : Stands .stoppingSocket n s) {rest : List SocketEvent}
    (hq : (s.channel .socket).queue = .shutdown :: rest) :
    wiring.Attains s fun t => Stands .stoppingSocket n t ∧ (t.channel .socket).queue = rest := by
  apply h.deliver hq
  intro m hhandled hm
  cases hhandled with
  | halfClosed =>
    refine ⟨⟨hm, h.state_eq, h.faults_eq⟩, ?_⟩
    rw [Wiring.channel_after_take_of_eq rfl, Channel.pop, hq]
    rfl

theorem Stands.closed (h : Stands .stoppingSocket n s) : wiring.Attains s (Stands .waiting n) := by
  have hf : SocketFits _ _ s.machine.state _ _ := h.atWork.fits .socket
  rw [h.state_eq] at hf
  apply (h.ended (x := .socket) hf.1).trans
  intro t ht
  obtain ⟨⟨ht, -⟩, rest, hq, hrest⟩ := ht
  refine (Wiring.attains_drained (c := .socket) ?_ ht hq hrest).trans fun u hu => ?_
  · rintro v r rest hv hqv rfl
    exact hv.halfClosed hqv
  obtain ⟨hu, hq⟩ := hu
  apply hu.deliver hq
  intro m hhandled hm
  cases hhandled with
  | closed => exact ⟨hm, rfl, hu.faults_eq⟩

/-- A lookup that has just begun. -/
def Fresh (n : ℕ) (s : System Connector Report) : Prop :=
  Stands .resolving n s ∧ (s.channel .resolver).posted = []

theorem Stands.fired (h : Stands .waiting n s) : wiring.Attains s (Stands .stoppingBackoff n) := by
  have hf : OneShot _ _ s.machine.state.timerUse _ _ := h.atWork.fits .timer
  rw [h.state_eq] at hf
  have hreport := Wiring.attains_report (w := wiring) (c := .timer) hf (r := .timeout) rfl nofun
    (fun _ => ⟨rfl, nofun⟩) h fun ha => ⟨h.atWork.post ha, h.state_eq, h.faults_eq⟩
  apply hreport.trans
  intro t ht
  obtain ⟨ht, e, rfl, hq, -⟩ := ht
  apply ht.deliver hq
  intro m hhandled hm
  cases hhandled with
  | timedOut => exact ⟨hm, rfl, ht.faults_eq⟩

theorem Stands.retried (h : Stands .stoppingBackoff n s) : wiring.Attains s (Fresh n) := by
  have hf : OneShot _ _ s.machine.state.timerUse _ _ := h.atWork.fits .timer
  rw [h.state_eq] at hf
  apply (h.rested hf).trans
  intro t ht
  obtain ⟨⟨ht, -⟩, hq⟩ := ht
  apply ht.deliver hq
  intro m hhandled hm
  cases hhandled with
  | rested =>
    exact ⟨⟨hm, rfl, ht.faults_eq⟩, Wiring.posted_after_of_start (Nat.succ_ne_self _)⟩

theorem Stands.waited (h : Stands .waiting n s) : wiring.Attains s (Fresh n) :=
  h.fired.trans fun _ ht => ht.retried

/-- The lookup is done; one that has just begun can find the peer. -/
theorem Stands.lookedUp (h : Stands .resolving n s) :
    wiring.Attains s fun t => Stands .stoppingResolver n t ∧
      ((s.channel .resolver).posted = [] → ∃ ip, t.machine.resolved = some (.found ip)) := by
  have hf : OneShot _ _ s.machine.state.resolverUse _ _ := h.atWork.fits .resolver
  rw [h.state_eq] at hf
  have hreport := Wiring.attains_report (w := wiring) (c := .resolver) hf
    (r := .done (.found (.v4 .unspecified))) ⟨_, rfl⟩ nofun (fun _ => ⟨⟨_, rfl⟩, nofun⟩) h
    fun ha => ⟨h.atWork.post ha, h.state_eq, h.faults_eq⟩
  apply hreport.trans
  intro t ht
  obtain ⟨ht, e, ⟨result, rfl⟩, hq, hnew⟩ := ht
  apply ht.deliver hq
  intro m hhandled hm
  cases hhandled with
  | done =>
    refine ⟨⟨hm, rfl, ht.faults_eq⟩, ?_⟩
    intro hnil
    cases hnew hnil
    exact ⟨_, rfl⟩

/-- An attempt that has failed: there is a fault less. -/
def Failed (n : ℕ) (s : System Connector Report) : Prop :=
  ∃ k < n, Stands .waiting k s ∨ Stands .stoppingSocket k s

theorem Stands.found (h : Stands .stoppingResolver n s) {ip : IpAddr}
    (hip : s.machine.resolved = some (.found ip)) :
    wiring.Attains s fun t => Failed n t ∨ ∃ k, Stands .connecting k t ∧
      (t.channel .socket).posted = [] := by
  have hf : OneShot _ _ s.machine.state.resolverUse _ _ := h.atWork.fits .resolver
  rw [h.state_eq] at hf
  apply (h.rested hf).trans
  intro t ht
  obtain ⟨⟨ht, hsame⟩, hq⟩ := ht
  have hresolved := hsame.trans hip
  apply ht.deliver hq
  intro m hhandled hm
  cases hhandled with
  | unfound _ hfailed => simp [hresolved] at hfailed
  | @found ip _ hfound =>
    have htried := (tried_of_attempted (attempted_startConnecting
      { t.machine with resolved := none } ip)).of_resolved
    cases htried with
    | notOpened state _ _ faults => exact .inl ⟨_, ht.faults_eq ▸ faults, .inl ⟨hm, state, rfl⟩⟩
    | givenUp state _ _ _ faults => exact .inl ⟨_, ht.faults_eq ▸ faults, .inr ⟨hm, state, rfl⟩⟩
    | connecting state socket =>
      refine .inr ⟨_, ⟨hm, state, rfl⟩, Wiring.posted_after_of_start ?_⟩
      have hstarts := congrArg Activity.starts socket
      exact hstarts ▸ Nat.succ_ne_self _

theorem Stands.unfound (h : Stands .stoppingResolver n s) {kind : ErrorKind}
    (hkind : s.machine.resolved = some (.failed kind)) :
    wiring.Attains s (Stands .waiting n) := by
  have hf : OneShot _ _ s.machine.state.resolverUse _ _ := h.atWork.fits .resolver
  rw [h.state_eq] at hf
  apply (h.rested hf).trans
  intro t ht
  obtain ⟨⟨ht, hsame⟩, hq⟩ := ht
  have hresolved := hsame.trans hkind
  apply ht.deliver hq
  intro m hhandled hm
  cases hhandled with
  | found _ hfound => simp [hresolved] at hfound
  | unfound => exact ⟨hm, rfl, ht.faults_eq⟩

/-- The connect is done; one that has just begun can succeed. -/
theorem Stands.connected (h : Stands .connecting n s) :
    wiring.Attains s fun t => AtWork t ∧ t.machine.state = .active ∨
      (s.channel .socket).posted ≠ [] ∧ Stands .stoppingSocket n t := by
  have hf : SocketFits _ _ s.machine.state _ _ := h.atWork.fits .socket
  rw [h.state_eq] at hf
  have hreport := Wiring.attains_report (w := wiring) (c := .socket) hf.1 (r := .connected)
    (.inl rfl) nofun (fun _ => .inl ⟨.inl rfl, nofun, hf.2.1⟩) h
    fun ha => ⟨h.atWork.post ha, h.state_eq, h.faults_eq⟩
  apply hreport.trans
  intro t ht
  obtain ⟨ht, e, he, hq, hnew⟩ := ht
  apply ht.deliver hq
  intro m hhandled hm
  rcases he with rfl | rfl
  · cases hhandled with
    | connected => exact .inl ⟨hm, rfl⟩
  · cases hhandled with
    | connectFailed => exact .inr ⟨fun hnil => (nomatch hnew hnil), hm, rfl, ht.faults_eq⟩

theorem Stands.broken (h : Stands .stoppingSession n s) :
    wiring.Attains s (Stands .stoppingSocket n) := by
  have hf : OneShot _ _ s.machine.state.sessionUse _ _ := h.atWork.fits .session
  rw [h.state_eq] at hf
  apply (h.rested hf).trans
  intro t ht
  obtain ⟨⟨ht, -⟩, hq⟩ := ht
  apply ht.deliver hq
  intro m hhandled hm
  cases hhandled with
  | ended => exact ⟨hm, rfl, ht.faults_eq⟩

/-- A lookup that has just begun can lead to a connection: each attempt that fails uses up a
fault. -/
theorem Fresh.attains_active (h : Fresh n s) :
    wiring.Attains s fun t => AtWork t ∧ t.machine.state = .active := by
  induction n using Nat.strong_induction_on generalizing s with
  | _ n ih =>
  apply h.1.lookedUp.trans
  rintro t ⟨ht, hfound⟩
  obtain ⟨ip, hip⟩ := hfound h.2
  apply (ht.found hip).trans
  intro u hu
  rcases hu with ⟨k, hk, hu | hu⟩ | ⟨k, hu, hposted⟩
  · exact hu.waited.trans fun v hv => ih k hk hv
  · exact hu.closed.trans fun v hv => hv.waited.trans fun v hv => ih k hk hv
  · exact hu.connected.imp fun v hv => hv.resolve_right fun h => h.1 hposted

/-- A connector at work can be brought to its connection. -/
theorem AtWork.attains_active (h : AtWork s) :
    wiring.Attains s fun t => AtWork t ∧ t.machine.state = .active := by
  have hwaiting {n t} (ht : Stands .waiting n t) :
      wiring.Attains t fun t => AtWork t ∧ t.machine.state = .active :=
    ht.waited.trans fun _ hu => hu.attains_active
  have hsocket {n t} (ht : Stands .stoppingSocket n t) :
      wiring.Attains t fun t => AtWork t ∧ t.machine.state = .active :=
    ht.closed.trans fun _ => hwaiting
  have hconnecting {n t} (ht : Stands .connecting n t) :
      wiring.Attains t fun t => AtWork t ∧ t.machine.state = .active :=
    ht.connected.trans fun u hu => hu.elim (fun hu => .refl hu) fun hu => hsocket hu.2
  have hresolver {n t} (ht : Stands .stoppingResolver n t) :
      wiring.Attains t fun t => AtWork t ∧ t.machine.state = .active := by
    obtain ⟨result, hresult⟩ :=
      Option.isSome_iff_exists.1 (ht.atWork.coherent.resolved_isSome ht.state_eq)
    cases result with
    | failed kind => exact (ht.unfound hresult).trans fun _ => hwaiting
    | found ip =>
      apply (ht.found hresult).trans
      intro u hu
      rcases hu with ⟨k, -, hu | hu⟩ | ⟨k, hu, -⟩
      · exact hwaiting hu
      · exact hsocket hu
      · exact hconnecting hu
  cases hs : s.machine.state
  case active => exact .refl ⟨h, hs⟩
  case resolving => exact (Stands.lookedUp ⟨h, hs, rfl⟩).trans fun _ ht => hresolver ht.1
  case stoppingResolver => exact hresolver ⟨h, hs, rfl⟩
  case connecting => exact hconnecting ⟨h, hs, rfl⟩
  case stoppingSession => exact (Stands.broken ⟨h, hs, rfl⟩).trans fun _ => hsocket
  case stoppingSocket => exact hsocket ⟨h, hs, rfl⟩
  case waiting => exact hwaiting ⟨h, hs, rfl⟩
  case stoppingBackoff => exact (Stands.retried ⟨h, hs, rfl⟩).trans fun _ ht => ht.attains_active
  all_goals
    have hphase := h.coherent.phase_eq
    rw [h.active, hs] at hphase
    cases hphase

end EndpointLifecycle.Connector
