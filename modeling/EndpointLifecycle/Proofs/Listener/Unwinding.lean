import EndpointLifecycle.Proofs.Listener.Working

/-!
# Listeners in a shutdown, and what is under way

In each stage of the shutdown it is settled who has been asked to stop and who has come to rest. An
established connection still may report an error, and last of all that it has stopped; it is that
report by which it is given up.
-/

namespace EndpointLifecycle.Listener

open Channel

/-- Who has been asked to stop and who is at rest, stage by stage. -/
structure Staged (l : Listener) : Prop where
  timer_stopped : (l.activity .timer).status ≠ .running
  timer_idle : l.state ≠ .stoppingAcceptor → (l.activity .timer).status = .idle
  pending_stopped : ∀ id, l.pending = some id → (l.activity (.acceptor id)).status ≠ .running
  socket_stopped : l.state ≠ .stoppingAcceptor → (l.activity .socket).status ≠ .running
  socket_idle : l.state ≠ .stoppingAcceptor → l.state ≠ .stoppingSocket →
    (l.activity .socket).status = .idle
  established_stopped : l.state = .stoppingConnections → ∀ id ∈ l.established,
    (l.activity (.acceptor id)).status ≠ .running
  established_eq_nil : l.state = .idle → l.established = []
  gone_idle : ∀ id, l.pending ≠ some id → id ∉ l.established →
    (l.activity (.acceptor id)).status = .idle

structure Unwinding (s : System Listener Report) : Prop where
  coherent : Coherent s.machine
  not_active : s.machine.phase ≠ .active
  staged : Staged s.machine
  socket_reports : ∀ r ∈ (s.channel .socket).queue, r = .shutdown ∨ r = .stopped
  established_fits : ∀ id ∈ s.machine.established,
    EstablishedFits (s.machine.activity (.acceptor id)) (s.channel (.acceptor id))
  /-- Nobody reports under a number that has not been given out. -/
  unknown_silent : ∀ id, s.machine.nextId ≤ id → (s.channel (.acceptor id)).queue = []

/-- The collaborators that exist. -/
def members (l : Listener) : List Collaborator :=
  .socket :: .timer :: (List.range l.nextId).map .acceptor

/-- As long as the shutdown goes on, someone still owes the end of a stop. -/
def Waits (s : System Listener Report) : Prop :=
  s.machine.phase = .stopping →
    ∃ c ∈ members s.machine, Owing (ended c) (s.machine.activity c) (s.channel c)

variable {s : System Listener Report} {l m : Listener}

theorem Coherent.not_mem_of_le (h : Coherent l) {id : ConnectionId} (hid : l.nextId ≤ id) :
    l.pending ≠ some id ∧ id ∉ l.established := by
  refine ⟨fun hp => ?_, fun hm => ?_⟩
  · rw [← h.pending_newest id hp] at hid
    exact Nat.not_succ_le_self id hid
  · exact absurd hid (Nat.not_le_of_lt (h.established_lt id hm))

theorem Staged.eases (h : Staged l) (hk : Kept l m)
    (he : ∀ c, (l.activity c).Eases (m.activity c)) : Staged m where
  timer_stopped := (he .timer).not_running h.timer_stopped
  timer_idle hn := (he .timer).idle (h.timer_idle (hk.state_eq ▸ hn))
  pending_stopped id hid := (he _).not_running (h.pending_stopped id (hk.pending_eq ▸ hid))
  socket_stopped hn := (he .socket).not_running (h.socket_stopped (hk.state_eq ▸ hn))
  socket_idle hn hn' := (he .socket).idle (h.socket_idle (hk.state_eq ▸ hn) (hk.state_eq ▸ hn'))
  established_stopped hc id hid :=
    (he _).not_running (h.established_stopped (hk.state_eq ▸ hc) id (hk.established_eq ▸ hid))
  established_eq_nil hi := hk.established_eq.trans (h.established_eq_nil (hk.state_eq ▸ hi))
  gone_idle id hid hid' :=
    (he _).idle (h.gone_idle id (hk.pending_eq ▸ hid) (hk.established_eq ▸ hid'))

theorem Unwinding.after (h : Unwinding s) (hm : Coherent m) (hp : m.phase ≠ .active)
    (hstaged : Staged m) (hx : m.established = s.machine.established)
    (hn : m.nextId = s.machine.nextId)
    (he : ∀ c, (s.machine.activity c).Eases (m.activity c)) : Unwinding (wiring.after s m) where
  coherent := hm
  not_active := hp
  staged := hstaged
  socket_reports r hr := by
    rcases mem_queue_update hr with hr | rfl
    · exact h.socket_reports r hr
    · exact .inr rfl
  established_fits id hid := (h.established_fits id (hx ▸ hid)).eases (he _)
  unknown_silent id hid := by
    obtain ⟨hpending, hmem⟩ := h.coherent.not_mem_of_le (hn ▸ hid)
    have hidle := h.staged.gone_idle id hpending hmem
    have hch : (wiring.after s m).channel (.acceptor id) = s.channel (.acceptor id) :=
      Wiring.channel_after_of_idle (he _) hidle
    rw [hch]
    exact h.unknown_silent id (hn ▸ hid)

theorem Unwinding.eases (h : Unwinding s) (hk : Kept s.machine m)
    (he : ∀ c, (s.machine.activity c).Eases (m.activity c)) : Unwinding (wiring.after s m) :=
  h.after (hk.coherent h.coherent) (hk.phase_eq ▸ h.not_active) (h.staged.eases hk he)
    hk.established_eq hk.nextId_eq he

theorem Waits.eases (h : Waits s) (hk : Kept s.machine m)
    (he : ∀ c, (s.machine.activity c).Eases (m.activity c)) : Waits (wiring.after s m) := by
  intro hphase
  obtain ⟨c, hc, ho⟩ := h (hk.phase_eq.symm.trans hphase)
  refine ⟨c, ?_, ho.eases (he c)⟩
  change c ∈ members m
  rwa [members, hk.nextId_eq]

theorem staged_passed (hl : Coherent l) (h : Staged l) (hp : Passed l m) : Staged m := by
  cases hp with
  | acceptor state acceptorIdle timerIdle =>
    have hpending : ∀ id, l.pending = some id → (l.activity (.acceptor id)).status = .idle :=
      fun id hid => (isIdle_acceptor l id).1 (by simpa [hid] using acceptorIdle)
    exact
      { timer_stopped := h.timer_stopped
        timer_idle := fun _ => (isIdle_timer l).1 timerIdle
        pending_stopped := by simp
        socket_stopped := fun _ => Activity.stop_not_running _
        socket_idle := by simp
        established_stopped := by simp
        established_eq_nil := by simp
        gone_idle := fun id _ hid => by
          by_cases hp : l.pending = some id
          · exact hpending id hp
          · exact h.gone_idle id hp hid }
  | socket state socketIdle =>
    have hnone : l.pending = none := hl.pending_eq_none (by simp [state]) (by simp [state])
    have hnumbers : ∀ id ∈ l.established, id ∈ l.acceptors.numbers := fun id hid => by
      simpa [hl.numbers_eq] using hl.established_lt id hid
    exact
      { timer_stopped := h.timer_stopped
        timer_idle := fun _ => h.timer_idle (by simp [state])
        pending_stopped := by simp [hnone]
        socket_stopped := fun _ => h.socket_stopped (by simp [state])
        socket_idle := fun _ _ => (isIdle_socket l).1 socketIdle
        established_stopped := fun _ id hid => by
          have hstop := activity_stop_of_mem l hid (hnumbers id hid)
          rw [activity_acceptor, hstop]
          exact Activity.stop_not_running _
        established_eq_nil := by simp
        gone_idle := fun id _ hid => by
          rw [activity_acceptor, activity_stop_of_notMem l hid]
          exact h.gone_idle id (by simp [hnone]) hid }
  | connections state empty =>
    have hnone : l.pending = none := hl.pending_eq_none (by simp [state]) (by simp [state])
    exact
      { timer_stopped := h.timer_stopped
        timer_idle := fun _ => h.timer_idle (by simp [state])
        pending_stopped := h.pending_stopped
        socket_stopped := fun _ => h.socket_stopped (by simp [state])
        socket_idle := fun _ _ => h.socket_idle (by simp [state]) (by simp [state])
        established_stopped := by simp
        established_eq_nil := fun _ => empty
        gone_idle := h.gone_idle }

theorem Unwinding.passed (h : Unwinding s) (hp : Passed s.machine m) :
    Unwinding (wiring.after s m) := by
  refine h.after (coherent_passed h.coherent hp) ?_ (staged_passed h.coherent h.staged hp) ?_ ?_
    (eases_passed hp)
  all_goals cases hp
  case refine_1.acceptor | refine_1.socket => exact h.not_active
  all_goals simp [note]

/-- All stages that a shutdown passes at once, seen from outside. -/
theorem Unwinding.passStages (h : Unwinding s) (n : ℕ) :
    Unwinding (wiring.after s (passStages passStage n s.machine)) := by
  have hpassed (m m' : Listener) (hm : passStage m = some m')
      (h : (∀ c, (s.machine.activity c).Eases (m.activity c)) ∧ Unwinding (wiring.after s m)) :
      (∀ c, (s.machine.activity c).Eases (m'.activity c)) ∧ Unwinding (wiring.after s m') := by
    obtain ⟨he, hu⟩ := h
    have hp := passed_of_passStage hm
    refine ⟨fun c => (he c).trans (eases_passed hp c), ?_⟩
    rw [← Wiring.after_after he (eases_passed hp)]
    exact hu.passed hp
  exact (passStages_induction hpassed n ⟨fun c => .refl _, by rwa [Wiring.after_self]⟩).2

/-- Where a shutdown does not go on, it waits for someone. -/
theorem Unwinding.waits (h : Unwinding s) (hblocked : passStage s.machine = none) : Waits s := by
  intro hphase
  cases paused_of_passStage h.coherent.phase_eq h.not_active hblocked with
  | timer _ busy =>
    have hstopping := Status.eq_stopping h.staged.timer_stopped (mt (isIdle_timer _).2 busy)
    exact ⟨.timer, by simp [members], .inl hstopping⟩
  | @acceptor _ id pending busy =>
    have hstopping := Status.eq_stopping (h.staged.pending_stopped id pending)
      (mt (isIdle_acceptor _ id).2 busy)
    refine ⟨.acceptor id, ?_, .inl hstopping⟩
    simp [members, ← h.coherent.pending_newest id pending]
  | socket state busy =>
    have hstopping := Status.eq_stopping (h.staged.socket_stopped (by simp [state]))
      (mt (isIdle_socket _).2 busy)
    exact ⟨.socket, by simp [members], .inl hstopping⟩
  | connections state left =>
    obtain ⟨id, hid⟩ := List.exists_mem_of_ne_nil _ left
    refine ⟨.acceptor id, ?_, ?_⟩
    · simpa [members] using h.coherent.established_lt id hid
    · rcases (h.established_fits id hid).2 with hw | he
      · exact absurd hw.1 (h.staged.established_stopped state id hid)
      · exact he.owing
  | stopped _ stopped => simp [hphase] at stopped

section Deliver

theorem Unwinding.taken (h : Unwinding s) {c : Collaborator} (hm : Coherent m)
    (hp : m.phase = s.machine.phase) (hstaged : Staged m)
    (hx : ∀ id ∈ m.established, id ∈ s.machine.established)
    (hn : m.nextId = s.machine.nextId)
    (ha : ∀ d, m.activity d = s.machine.activity d)
    (hc : ∀ id ∈ m.established, c = .acceptor id →
      EstablishedFits (s.machine.activity (.acceptor id)) (s.channel (.acceptor id)).pop) :
    Unwinding (wiring.after (s.take c) m) := by
  have hch (d) : (wiring.after (s.take c) m).channel d = (s.take c).channel d :=
    Wiring.channel_after_of_eq (ha d)
  have hsub (d) (r) (hr : r ∈ ((s.take c).channel d).queue) : r ∈ (s.channel d).queue := by
    by_cases hd : d = c
    · subst hd
      rw [System.channel_take_self] at hr
      exact List.mem_of_mem_tail hr
    · rwa [System.channel_take_of_ne s hd] at hr
  constructor
  case coherent => exact hm
  case not_active => exact hp ▸ h.not_active
  case staged => exact hstaged
  case socket_reports => exact fun r hr => h.socket_reports r (hsub _ r (hch _ ▸ hr))
  case established_fits =>
    intro id hid
    rw [hch]
    change EstablishedFits (m.activity (.acceptor id)) _
    rw [ha]
    by_cases hd : c = .acceptor id
    · subst hd
      rw [System.channel_take_self]
      exact hc id hid rfl
    · rw [System.channel_take_of_ne s (Ne.symm hd)]
      exact h.established_fits id (hx id hid)
  case unknown_silent =>
    intro id hid
    rw [hch]
    apply List.eq_nil_iff_forall_not_mem.2
    intro r hr
    have hmem := hsub _ r hr
    rw [h.unknown_silent id (hn ▸ hid)] at hmem
    cases hmem

theorem staged_release (h : Staged l) {id : ConnectionId}
    (hidle : (l.activity (.acceptor id)).status = .idle) : Staged (l.release id) where
  timer_stopped := h.timer_stopped
  timer_idle := h.timer_idle
  pending_stopped := h.pending_stopped
  socket_stopped := h.socket_stopped
  socket_idle := h.socket_idle
  established_stopped hs a ha := h.established_stopped hs a (List.mem_of_mem_filter ha)
  established_eq_nil hs := by simp [release, h.established_eq_nil hs]
  gone_idle a hp ha := by
    by_cases hid : a = id
    · exact hid ▸ hidle
    · exact h.gone_idle a hp fun hm => ha (by simp [release, hm, hid])

theorem Unwinding.deliver_acceptor (h : Unwinding s) {id : ConnectionId} {r : ConnectionEvent}
    {rest : List ConnectionEvent} (hq : (s.channel (.acceptor id)).queue = r :: rest) :
    ∃ m, Absorbed s.machine (.connection id r) m ∧
      Unwinding (wiring.after (s.take (.acceptor id)) m) := by
  by_cases hp : s.machine.pending = some id
  · refine ⟨_, .pending r hp, h.taken h.coherent rfl h.staged (fun _ hm => hm) rfl
      (fun _ => rfl) ?_⟩
    rintro a ha heq
    cases heq
    exact absurd ha (h.coherent.pending_notMem id hp)
  by_cases he : id ∈ s.machine.established
  · rcases (h.established_fits id he).pop hq with ⟨rfl, hr⟩ | ⟨rfl, hr⟩
    · refine ⟨_, .ended hp he, h.taken (coherent_release h.coherent id) rfl
        (staged_release h.staged hr.1) (fun _ => List.mem_of_mem_filter) rfl (fun _ => rfl) ?_⟩
      rintro a ha heq
      cases heq
      simp [release] at ha
    · refine ⟨_, .broken hp he, h.taken h.coherent rfl h.staged (fun _ hm => hm) rfl
        (fun _ => rfl) ?_⟩
      rintro a - heq
      cases heq
      exact hr
  · have hknown : id < s.machine.nextId := by
      apply Nat.lt_of_not_le
      intro hle
      simp [h.unknown_silent id hle] at hq
    have habsorbed := Absorbed.late r hp he hknown
    have hcoherent := coherent_absorbed h.coherent habsorbed
    have hstaged : Staged (s.machine.note (.lateEvent id r)) :=
      h.staged.eases ⟨rfl, rfl, rfl, rfl, rfl, rfl⟩ fun _ => .refl _
    refine ⟨_, habsorbed, h.taken hcoherent rfl hstaged (fun _ hm => hm) rfl (fun _ => rfl) ?_⟩
    rintro a ha heq
    cases heq
    exact absurd ha he

/-- A shutdown takes in whatever is delivered. -/
theorem Unwinding.deliver (h : Unwinding s) {c : Collaborator} {r : Report c}
    {rest : List (Report c)} (hq : (s.channel c).queue = r :: rest) :
    ∃ m, Absorbed s.machine (eventOf c r) m ∧ Unwinding (wiring.after (s.take c) m) := by
  have htaken {c} (hc : ∀ id, c ≠ .acceptor id) : Unwinding (wiring.after (s.take c) s.machine) :=
    h.taken h.coherent rfl h.staged (fun _ hm => hm) rfl (fun _ => rfl) fun id _ heq =>
      absurd heq (hc id)
  cases c with
  | socket =>
    refine ⟨_, ?_, htaken (by simp)⟩
    rcases h.socket_reports r (by simp [hq]) with rfl | rfl
    · exact .halfClosed
    · exact .closed
  | timer => exact ⟨_, .retry r, htaken (by simp)⟩
  | acceptor id => exact h.deliver_acceptor hq

end Deliver

section Post

theorem Unwinding.post (h : Unwinding s) {c : Collaborator} {r : Report c}
    (ha : wiring.Allows s (.post c r)) : Unwinding (s.post c r) where
  coherent := h.coherent
  not_active := h.not_active
  staged := h.staged
  socket_reports x hx := by
    by_cases hc : c = .socket
    · subst hc
      rw [System.channel_post_self] at hx
      rcases List.mem_append.1 hx with hx | hx
      · exact h.socket_reports x hx
      · exact .inl ((List.mem_singleton.1 hx).trans ha.2.2.1)
    · rw [System.channel_post_of_ne s (Ne.symm hc)] at hx
      exact h.socket_reports x hx
  established_fits id hid := by
    have hf := h.established_fits id hid
    by_cases hc : c = .acceptor id
    · subst hc
      rw [System.channel_post_self]
      obtain rfl : r = ConnectionEvent.error := by
        rcases ha.2.2 with ⟨rfl, hnew⟩ | ⟨rfl, -⟩
        · exact absurd hf.1 hnew
        · rfl
      exact hf.post ha.1
    · rw [System.channel_post_of_ne s (Ne.symm hc)]
      exact hf
  unknown_silent id hid := by
    by_cases hc : c = .acceptor id
    · subst hc
      obtain ⟨hp, hm⟩ := h.coherent.not_mem_of_le hid
      exact absurd (h.staged.gone_idle id hp hm) ha.1
    · rw [System.channel_post_of_ne s (Ne.symm hc)]
      exact h.unknown_silent id hid

theorem Waits.post (h : Waits s) {c : Collaborator} (r : Report c) : Waits (s.post c r) := by
  intro hp
  obtain ⟨d, hd, ho⟩ := h hp
  refine ⟨d, hd, ?_⟩
  by_cases hc : d = c
  · subst hc
    rw [System.channel_post_self]
    exact ho.post r
  · rwa [System.channel_post_of_ne s hc]

end Post

section BeginStop

theorem SocketFits.reports {x : State} {a : Activity} {ch : Channel SocketEvent}
    (h : SocketFits x a ch) : ∀ r ∈ ch.queue, r = .shutdown ∨ r = .stopped := by
  intro r hr
  cases x
  case active => exact (h.2 r hr).elim
  case closing => exact Ending.mem h hr
  all_goals
    have hnil : ch.queue = [] := h.2
    simp [hnil] at hr

theorem AtWork.gone_resting (h : AtWork s) {id : ConnectionId}
    (hp : s.machine.pending ≠ some id) (he : id ∉ s.machine.established) :
    Resting (s.machine.activity (.acceptor id)) (s.channel (.acceptor id)) :=
  (acceptorFits_of_gone hp he).1 (h.fits (.acceptor id))

theorem AtWork.staged_beginStop (h : AtWork s) : Staged s.machine.beginStop where
  timer_stopped := Activity.stop_not_running _
  timer_idle hn := absurd rfl hn
  pending_stopped id hid := by
    have hp : s.machine.pending = some id := hid
    have hnumber : id ∈ s.machine.acceptors.numbers := by
      simp [h.coherent.numbers_eq, ← h.coherent.pending_newest id hp]
    have hasked : id ∈ s.machine.pending.toList := by simp [hp]
    have hstop := activity_stop_of_mem s.machine hasked hnumber
    rw [activity_acceptor]
    exact hstop ▸ Activity.stop_not_running _
  socket_stopped hn := absurd rfl hn
  socket_idle hn := absurd rfl hn
  established_stopped := by simp [beginStop]
  established_eq_nil := by simp [beginStop]
  gone_idle id hp he := by
    have hspared : id ∉ s.machine.pending.toList := fun hm => hp (Option.mem_toList.1 hm)
    have hstop := activity_stop_of_notMem s.machine hspared
    rw [activity_acceptor]
    exact hstop ▸ (h.gone_resting hp he).1

/-- A listener at work that is asked to stop. -/
theorem AtWork.beginStop (h : AtWork s) : Unwinding (wiring.after s s.machine.beginStop) where
  coherent := coherent_beginStop h.coherent
  not_active := by simp [Listener.beginStop]
  staged := h.staged_beginStop
  socket_reports r hr := by
    rcases mem_queue_update hr with hr | rfl
    · exact SocketFits.reports (h.fits .socket) r hr
    · exact .inr rfl
  established_fits id hid := by
    have hp : s.machine.pending ≠ some id := fun hp => h.coherent.pending_notMem id hp hid
    have hf := (acceptorFits_of_established hp hid).1 (h.fits (.acceptor id))
    exact hf.eases (eases_beginStop ..)
  unknown_silent id hid := by
    obtain ⟨hp, he⟩ := h.coherent.not_mem_of_le hid
    exact ((h.gone_resting hp he).eases (eases_beginStop ..)).2

end BeginStop

end EndpointLifecycle.Listener
