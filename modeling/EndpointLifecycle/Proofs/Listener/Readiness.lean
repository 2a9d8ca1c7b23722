import EndpointLifecycle.Proofs.Listener.Working
import EndpointLifecycle.Proofs.System.Progress

/-!
# A listener at work gets to accept peers

Whatever has failed before, the collaborators can bring a listener at work back to accept peers: the
socket that was given up comes to rest, the timer runs out, and each new attempt meets a fault less.
-/

namespace EndpointLifecycle.Listener

open Channel

variable {s : System Listener Report} {l m : Listener}

theorem faults_setUp (h : SetUp l m) :
    m.state = .active ∨ m.socket.faults < l.socket.faults := by
  cases h with
  | openFailed opened => exact .inr (Socket.faults_of_start_failed opened)
  | bindFailed opened bound =>
    have hfewer := Socket.faults_of_bind_failed bound
    exact .inr (hfewer.trans_eq (Socket.faults_of_start opened))
  | listenFailed opened bound listened =>
    have hfewer := Socket.faults_of_listen_failed listened
    have hbound := Socket.faults_of_bind bound
    exact .inr (hfewer.trans_eq (hbound.trans (Socket.faults_of_start opened)))
  | listening => exact .inl rfl

/-- At work in a state, with a number of faults still laid. -/
structure Stands (x : State) (n : ℕ) (s : System Listener Report) : Prop where
  atWork : AtWork s
  state_eq : s.machine.state = x
  faults_eq : s.machine.socket.faults = n

variable {n : ℕ}

theorem Stands.deliver {x : State} (h : Stands x n s) {c : Collaborator} {r : Report c}
    {rest : List (Report c)} (hq : (s.channel c).queue = r :: rest)
    {P : System Listener Report → Prop}
    (hP : ∀ m, Handled s.machine (eventOf c r) m → AtWork (wiring.after (s.take c) m) →
      P (wiring.after (s.take c) m)) : wiring.Attains s P := by
  have hp : s.machine.phase = .active := h.atWork.active
  obtain ⟨m, hhandled, hm⟩ := h.atWork.deliver hq
  refine Wiring.attains_deliver ?_ hq (handle_of_handled hp hhandled) (hP m hhandled hm)
  change s.machine.phase ≠ .stopped
  simp [hp]

theorem Stands.ended {x : State} (h : Stands x n s) {c : Collaborator} {Before : Report c → Prop}
    (he : Ending (ended c) Before (s.machine.activity c) (s.channel c)) :
    wiring.Attains s fun t => Stands x n t ∧
      ∃ rest, (t.channel c).queue = rest ++ [ended c] ∧ ∀ r ∈ rest, Before r := by
  apply Wiring.attains_ended ((activity_completeStop ..).trans (if_pos rfl)) he h
  intro hc
  refine ⟨h.atWork.completed hc, (kept_completeStop ..).state_eq.trans h.state_eq, ?_⟩
  rw [← h.faults_eq]
  cases c <;> rfl

theorem Stands.halfClosed (h : Stands .closing n s) {rest : List SocketEvent}
    (hq : (s.channel .socket).queue = .shutdown :: rest) :
    wiring.Attains s fun t => Stands .closing n t ∧ (t.channel .socket).queue = rest := by
  apply h.deliver hq
  intro m hhandled hm
  cases hhandled with
  | halfClosed =>
    refine ⟨⟨hm, h.state_eq, h.faults_eq⟩, ?_⟩
    rw [Wiring.channel_after_take_of_eq rfl, Channel.pop, hq]
    rfl

theorem Stands.closed (h : Stands .closing n s) : wiring.Attains s (Stands .waiting n) := by
  have hf : SocketFits s.machine.state _ _ := h.atWork.fits .socket
  rw [h.state_eq] at hf
  apply (h.ended (c := .socket) hf).trans
  intro t ht
  obtain ⟨ht, rest, hq, hrest⟩ := ht
  refine (Wiring.attains_drained (c := .socket) ?_ ht hq hrest).trans fun u hu => ?_
  · rintro v r rest hv hqv rfl
    exact hv.halfClosed hqv
  obtain ⟨hu, hq⟩ := hu
  apply hu.deliver hq
  intro m hhandled hm
  cases hhandled with
  | closed => exact ⟨hm, rfl, hu.faults_eq⟩

theorem Stands.fired (h : Stands .waiting n s) : wiring.Attains s (Stands .stoppingBackoff n) := by
  have hf : TimerFits s.machine.state _ _ := h.atWork.fits .timer
  rw [h.state_eq] at hf
  have hreport := Wiring.attains_report (w := wiring) (c := .timer) hf (r := .timeout) rfl nofun
    (fun _ => ⟨rfl, nofun⟩) h fun ha => ⟨h.atWork.post ha, h.state_eq, h.faults_eq⟩
  apply hreport.trans
  intro t ht
  obtain ⟨ht, e, rfl, hq, -⟩ := ht
  apply ht.deliver hq
  intro m hhandled hm
  cases hhandled with
  | timedOut => exact ⟨hm, rfl, ht.faults_eq⟩

theorem Stands.retried (h : Stands .stoppingBackoff n s) :
    wiring.Attains s fun t => AtWork t ∧
      (t.machine.state = .active ∨ t.machine.socket.faults < n) := by
  have hf : TimerFits s.machine.state _ _ := h.atWork.fits .timer
  rw [h.state_eq] at hf
  apply (h.ended hf.2).trans
  intro t ht
  obtain ⟨ht, rest, hq, hrest⟩ := ht
  obtain rfl : rest = [] := List.eq_nil_iff_forall_not_mem.2 fun r hr => hrest r hr
  apply ht.deliver hq
  intro m hhandled hm
  cases hhandled with
  | rested => exact ⟨hm, ht.faults_eq ▸ faults_setUp (setUp_startListening t.machine)⟩

/-- A listener at work can be brought to accept peers: each attempt that fails uses up a fault. -/
theorem AtWork.attains_active (h : AtWork s) :
    wiring.Attains s fun t => AtWork t ∧ t.machine.state = .active := by
  induction hn : s.machine.socket.faults using Nat.strong_induction_on generalizing s with
  | _ n ih =>
  have hbackoff {t} (ht : Stands .stoppingBackoff n t) :
      wiring.Attains t fun t => AtWork t ∧ t.machine.state = .active :=
    ht.retried.trans fun u hu => hu.2.elim (fun hs => .refl ⟨hu.1, hs⟩)
      fun hfewer => ih _ hfewer hu.1 rfl
  cases hs : s.machine.state
  case active => exact .refl ⟨h, hs⟩
  case stoppingBackoff => exact hbackoff ⟨h, hs, hn⟩
  case waiting => exact (Stands.fired ⟨h, hs, hn⟩).trans fun t => hbackoff
  case closing =>
    exact (Stands.closed ⟨h, hs, hn⟩).trans fun t ht => ht.fired.trans fun u => hbackoff
  all_goals
    have hphase := h.coherent.phase_eq
    rw [h.active, hs] at hphase
    cases hphase

end EndpointLifecycle.Listener
