import EndpointLifecycle.Proofs.Listener.System
import EndpointLifecycle.Proofs.System.OneShot

/-!
# Listeners at work, and what is under way

In each state of a listener at work it is settled for each collaborator how it stands and what can
be under way from it, so that the listener has a use for every report that is delivered.
-/

namespace EndpointLifecycle.Listener

open Channel

/-- How the socket stands while the listener is at work. -/
def SocketFits : State → Activity → Channel SocketEvent → Prop
  | .active => Working fun _ => False
  | .closing => Ending .stopped (· = .shutdown)
  | _ => Resting

def State.timerUse : State → Use
  | .waiting => .armed
  | .stoppingBackoff => .heard
  | _ => .resting

def TimerFits (x : State) : Activity → Channel TimerEvent → Prop :=
  OneShot .stopped (· = .timeout) x.timerUse

def PendingFits : Activity → Channel ConnectionEvent → Prop :=
  Unheard fun posted => posted = [] ∨ posted = [.accepted] ∨ posted = [.accepted, .error]

def EstablishedFits (a : Activity) (ch : Channel ConnectionEvent) : Prop :=
  .accepted ∈ ch.posted ∧ (Working (· = .error) a ch ∨ Ending .stopped (· = .error) a ch)

def AcceptorFits (l : Listener) (id : ConnectionId) (a : Activity) (ch : Channel ConnectionEvent) :
    Prop :=
  if l.pending = some id then PendingFits a ch
  else if id ∈ l.established then EstablishedFits a ch
  else Resting a ch

def Fits (l : Listener) : (c : Collaborator) → Activity → Channel (Report c) → Prop
  | .socket => SocketFits l.state
  | .timer => TimerFits l.state
  | .acceptor id => AcceptorFits l id

structure AtWork (s : System Listener Report) : Prop where
  coherent : Coherent s.machine
  active : s.machine.phase = .active
  fits : ∀ c, Fits s.machine c (s.machine.activity c) (s.channel c)

section Fits

variable {l l' : Listener} {a a' : Activity}

section Acceptor

variable {id : ConnectionId} {ch : Channel ConnectionEvent}

theorem acceptorFits_of_pending (hp : l.pending = some id) :
    AcceptorFits l id a ch ↔ PendingFits a ch := by
  rw [AcceptorFits, if_pos hp]

theorem acceptorFits_of_established (hp : l.pending ≠ some id) (he : id ∈ l.established) :
    AcceptorFits l id a ch ↔ EstablishedFits a ch := by
  rw [AcceptorFits, if_neg hp, if_pos he]

theorem acceptorFits_of_gone (hp : l.pending ≠ some id) (he : id ∉ l.established) :
    AcceptorFits l id a ch ↔ Resting a ch := by
  rw [AcceptorFits, if_neg hp, if_neg he]

end Acceptor

theorem acceptorFits_congr {id : ConnectionId} {ch : Channel ConnectionEvent}
    (h : AcceptorFits l id a ch) (hp : l'.pending = some id ↔ l.pending = some id)
    (he : id ∈ l'.established ↔ id ∈ l.established) : AcceptorFits l' id a ch := by
  unfold AcceptorFits at h ⊢
  simpa only [hp, he] using h

theorem Fits.congr {c : Collaborator} {ch : Channel (Report c)} (h : Fits l c a ch)
    (hs : l'.state = l.state) (hp : l'.pending = l.pending)
    (he : l'.established = l.established) : Fits l' c a ch := by
  cases c with
  | socket => exact (congrArg (SocketFits · a ch) hs).mpr h
  | timer => exact (congrArg (TimerFits · a ch) hs).mpr h
  | acceptor id => exact acceptorFits_congr h (by rw [hp]) (by rw [he])

theorem EstablishedFits.eases {ch : Channel ConnectionEvent} (h : EstablishedFits a ch)
    (he : a.Eases a') : EstablishedFits a' (ch.update .stopped a a') := by
  refine ⟨(posted_update he).symm ▸ h.1, ?_⟩
  by_cases hr : a'.status = .running
  · exact h.2.imp (fun hw => hw.eases he hr) fun hw => hw.eases he
  · exact .inr (h.2.elim (fun hw => hw.stop he hr) fun hw => hw.eases he)

theorem EstablishedFits.post {ch : Channel ConnectionEvent} (h : EstablishedFits a ch)
    (hbusy : a.status ≠ .idle) : EstablishedFits a (ch.post .error) :=
  ⟨List.mem_append_left _ h.1, h.2.imp (fun hw => hw.post rfl) fun hw => hw.post rfl hbusy⟩

/-- What an established connection has to report is an error or, last, its end. -/
theorem EstablishedFits.pop {ch : Channel ConnectionEvent} {r : ConnectionEvent}
    {rest : List ConnectionEvent} (h : EstablishedFits a ch) (hq : ch.queue = r :: rest) :
    r = .stopped ∧ Resting a ch.pop ∨ r = .error ∧ EstablishedFits a ch.pop := by
  obtain ⟨hmem, hw | he⟩ := h
  · refine .inr ⟨hw.2 r (by simp [hq]), hmem, .inl ⟨hw.1, fun x hx => hw.2 x ?_⟩⟩
    exact List.mem_of_mem_tail hx
  · exact (he.pop (by simp) hq).imp_right fun ⟨hr, he⟩ => ⟨hr, hmem, .inr he⟩

/-- A collaborator at work stays so until it is asked to stop; all else may go on by itself. -/
theorem Fits.eases {c : Collaborator} {ch : Channel (Report c)} (h : Fits l c a ch)
    (he : a.Eases a') (hr : a.status = .running → a'.status = .running) :
    Fits l c a' (ch.update (ended c) a a') := by
  cases c with
  | socket =>
    change SocketFits l.state a ch at h
    change SocketFits l.state a' _
    cases hs : l.state <;> rw [hs] at h
    case active => exact Working.eases h he (hr h.1)
    case closing => exact Ending.eases h he
    all_goals exact Resting.eases h he
  | timer => exact OneShot.eases h he hr
  | acceptor id =>
    change AcceptorFits l id a ch at h
    change AcceptorFits l id a' _
    by_cases hp : l.pending = some id
    · rw [acceptorFits_of_pending hp] at h ⊢
      exact Unheard.eases h he (hr h.1)
    by_cases hm : id ∈ l.established
    · rw [acceptorFits_of_established hp hm] at h ⊢
      exact EstablishedFits.eases h he
    · rw [acceptorFits_of_gone hp hm] at h ⊢
      exact Resting.eases h he

end Fits

variable {s : System Listener Report} {m : Listener}

/-- What changes by itself, without anything being started or stopped, leaves a listener at work. -/
theorem AtWork.eases (h : AtWork s) (hk : Kept s.machine m)
    (he : ∀ c, (s.machine.activity c).Eases (m.activity c))
    (hr : ∀ c, (s.machine.activity c).status = .running → (m.activity c).status = .running) :
    AtWork (wiring.after s m) where
  coherent := hk.coherent h.coherent
  active := hk.phase_eq.trans h.active
  fits c := ((h.fits c).eases (he c) (hr c)).congr hk.state_eq hk.pending_eq hk.established_eq

theorem AtWork.completed (h : AtWork s) {c : Collaborator}
    (hc : (s.machine.activity c).status = .stopping) :
    AtWork (wiring.after s (s.machine.completeStop c)) := by
  refine h.eases (kept_completeStop ..) (fun d => eases_completeStop ..) fun d hd => ?_
  have hne : d ≠ c := fun he => by simp [he, hc] at hd
  rwa [activity_completeStop, if_neg hne]

theorem fits_elsewhere (h : AtWork s) {c d : Collaborator} (hd : d ≠ c)
    (ha : m.activity d = s.machine.activity d)
    (hf : ∀ {a ch}, Fits s.machine d a ch → Fits m d a ch) :
    Fits m d (m.activity d) ((wiring.after (s.take c) m).channel d) := by
  have hch : (wiring.after (s.take c) m).channel d = s.channel d :=
    (Wiring.channel_after_of_eq ha).trans (System.channel_take_of_ne s hd)
  rw [hch, ha]
  exact hf (h.fits d)

theorem fits_here {c : Collaborator} (ha : m.activity c = s.machine.activity c)
    (hf : Fits m c (s.machine.activity c) (s.channel c).pop) :
    Fits m c (m.activity c) ((wiring.after (s.take c) m).channel c) := by
  rwa [Wiring.channel_after_take_of_eq ha, ha]

/-- An acceptor that has just been created is the pending one. -/
theorem fits_created {id : ConnectionId} (hn : id ∉ s.machine.acceptors.numbers)
    (hp : m.pending = some id) (hacceptors : m.acceptors = s.machine.acceptors.create id)
    (hrest : Resting (s.machine.activity (.acceptor id)) (s.channel (.acceptor id))) :
    Fits m (.acceptor id) (m.activity (.acceptor id))
      ((wiring.after s m).channel (.acceptor id)) := by
  have ha : m.activity (.acceptor id) =
      Activity.start { stopsAtOnce := s.machine.acceptors.stopAtOnce } := by
    rw [activity_acceptor, hacceptors]
    exact activity_create_self _ hn
  have hch : (wiring.after s m).channel (.acceptor id) =
      (s.channel (.acceptor id)).update .stopped (s.machine.activity (.acceptor id))
        (m.activity (.acceptor id)) := rfl
  refine (acceptorFits_of_pending hp).2 ?_
  rw [hch, ha]
  rw [activity_eq_default _ hn] at hrest ⊢
  exact Resting.unheard hrest rfl (by simp [Activity.start]) rfl (.inl rfl)

section SetUp

variable (hrest : ∀ c, Resting (s.machine.activity c) (s.channel c))
include hrest

theorem resting_after {c : Collaborator} (ha : m.activity c = s.machine.activity c) :
    Resting (m.activity c) ((wiring.after s m).channel c) := by
  rw [Wiring.channel_after_of_eq ha, ha]
  exact hrest c

theorem fits_acceptor_resting {id : ConnectionId} (hp : m.pending ≠ some id)
    (he : id ∉ m.established)
    (ha : m.activity (.acceptor id) = s.machine.activity (.acceptor id)) :
    Fits m (.acceptor id) (m.activity (.acceptor id))
      ((wiring.after s m).channel (.acceptor id)) := by
  exact (acceptorFits_of_gone hp he).2 (resting_after hrest ha)

theorem fits_timer_resting (hn : m.state ≠ .waiting) (hn' : m.state ≠ .stoppingBackoff)
    (ha : m.retry.timer.activity = s.machine.retry.timer.activity) :
    Fits m .timer (m.activity .timer) ((wiring.after s m).channel .timer) := by
  have hr := resting_after hrest (c := .timer) ha
  change TimerFits m.state _ _
  cases hs : m.state <;> first | exact absurd hs hn | exact absurd hs hn' | exact hr

theorem fits_waitBeforeRetry (hs : m.state = .waiting) (hp : m.pending = none)
    (he : m.established = [])
    (hsocket : m.socket.activity = s.machine.socket.activity)
    (htimer : m.retry.timer.activity = s.machine.retry.timer.activity.start)
    (hacceptors : m.acceptors = s.machine.acceptors) (c : Collaborator) :
    Fits m c (m.activity c) ((wiring.after s m).channel c) := by
  cases c with
  | socket =>
    change SocketFits m.state _ _
    rw [hs]
    exact resting_after hrest hsocket
  | timer =>
    change TimerFits m.state m.retry.timer.activity
      ((s.channel .timer).update .stopped s.machine.retry.timer.activity m.retry.timer.activity)
    rw [hs, htimer]
    exact OneShot.start (hrest .timer) rfl (Nat.succ_ne_self _) rfl
  | acceptor id =>
    refine fits_acceptor_resting hrest (by simp [hp]) (by simp [he]) ?_
    rw [activity_acceptor, hacceptors, activity_acceptor]

theorem fits_closeAfterFailure (hs : m.state = .closing) (hp : m.pending = none)
    (he : m.established = [])
    (hsocket : m.socket.activity = s.machine.socket.activity.start.stop)
    (htimer : m.retry = s.machine.retry) (hacceptors : m.acceptors = s.machine.acceptors)
    (c : Collaborator) : Fits m c (m.activity c) ((wiring.after s m).channel c) := by
  cases c with
  | socket =>
    change SocketFits m.state m.socket.activity
      ((s.channel .socket).update .stopped s.machine.socket.activity m.socket.activity)
    rw [hs, hsocket]
    exact Resting.start_stop (hrest .socket)
  | timer => exact fits_timer_resting hrest (by simp [hs]) (by simp [hs]) (by rw [htimer])
  | acceptor id =>
    refine fits_acceptor_resting hrest (by simp [hp]) (by simp [he]) ?_
    rw [activity_acceptor, hacceptors, activity_acceptor]

theorem fits_listening (hs : m.state = .active) (hp : m.pending = some s.machine.nextId)
    (he : m.established = [])
    (hsocket : m.socket.activity = s.machine.socket.activity.start)
    (htimer : m.retry = s.machine.retry)
    (hn : s.machine.nextId ∉ s.machine.acceptors.numbers)
    (hacceptors : m.acceptors = s.machine.acceptors.create s.machine.nextId)
    (c : Collaborator) : Fits m c (m.activity c) ((wiring.after s m).channel c) := by
  cases c with
  | socket =>
    change SocketFits m.state m.socket.activity
      ((s.channel .socket).update .stopped s.machine.socket.activity m.socket.activity)
    rw [hs, hsocket]
    exact Resting.working (hrest .socket) rfl (Nat.succ_ne_self _) rfl
  | timer => exact fits_timer_resting hrest (by simp [hs]) (by simp [hs]) (by rw [htimer])
  | acceptor id =>
    by_cases hid : id = s.machine.nextId
    · subst hid
      exact fits_created hn hp hacceptors (hrest _)
    · refine fits_acceptor_resting hrest (by simpa [hp] using Ne.symm hid) (by simp [he]) ?_
      rw [activity_acceptor, hacceptors]
      exact activity_create_of_ne _ hid

/-- An attempt to listen, whatever comes of it, begins with nothing under way. -/
theorem atWork_setUp (hq : Silent s.machine) (h : SetUp s.machine m) :
    AtWork (wiring.after s m) where
  coherent := coherent_setUp hq h
  active := (phase_setUp h).trans hq.phase_eq
  fits := by
    cases h with
    | openFailed opened =>
      exact fits_waitBeforeRetry hrest rfl hq.pending_eq hq.established_eq
        (Socket.activity_of_start_failed opened) rfl rfl
    | bindFailed opened bound =>
      refine fits_closeAfterFailure hrest rfl hq.pending_eq hq.established_eq ?_ rfl rfl
      exact congrArg Activity.stop
        ((Socket.activity_of_bind bound).trans (Socket.activity_of_start opened))
    | listenFailed opened bound listened =>
      refine fits_closeAfterFailure hrest rfl hq.pending_eq hq.established_eq ?_ rfl rfl
      exact congrArg Activity.stop ((Socket.activity_of_listen listened).trans
        ((Socket.activity_of_bind bound).trans (Socket.activity_of_start opened)))
    | listening opened bound listened =>
      refine fits_listening hrest rfl rfl hq.established_eq ?_ rfl (by simp [hq.numbers_eq]) rfl
      exact (Socket.activity_of_listen listened).trans
        ((Socket.activity_of_bind bound).trans (Socket.activity_of_start opened))

end SetUp

section Deliver

theorem AtWork.acceptor_resting (h : AtWork s) (hn : s.machine.state ≠ .active)
    (id : ConnectionId) :
    Resting (s.machine.activity (.acceptor id)) (s.channel (.acceptor id)) := by
  have hq := h.coherent.silent h.active hn
  refine (acceptorFits_of_gone (l := s.machine) ?_ ?_).1 (h.fits (.acceptor id))
  · simp [hq.pending_eq]
  · simp [hq.established_eq]

/-- An event that is delivered is handled; it is left to see how all stand then. -/
theorem AtWork.taken (h : AtWork s) {c : Collaborator} {e : Event}
    (hhandled : Handled s.machine e m)
    (hf : ∀ d, Fits m d (m.activity d) ((wiring.after (s.take c) m).channel d)) :
    ∃ m, Handled s.machine e m ∧ AtWork (wiring.after (s.take c) m) :=
  ⟨m, hhandled, coherent_handled h.coherent hhandled, (phase_handled hhandled).trans h.active, hf⟩

theorem AtWork.deliver_socket (h : AtWork s) {r : SocketEvent} {rest : List SocketEvent}
    (hq : (s.channel .socket).queue = r :: rest) :
    ∃ m, Handled s.machine (.socket r) m ∧ AtWork (wiring.after (s.take .socket) m) := by
  have hf : SocketFits s.machine.state _ _ := h.fits .socket
  have htimer : TimerFits s.machine.state _ _ := h.fits .timer
  cases hs : s.machine.state <;> rw [hs] at hf htimer
  case active => exact absurd (hf.2 r (by simp [hq])) id
  case closing =>
    have hn : s.machine.state ≠ .active := by simp [hs]
    rcases Ending.pop hf (by simp) hq with ⟨rfl, hr⟩ | ⟨rfl, he⟩
    · have hsilent := h.coherent.silent h.active hn
      have hrest := Wiring.resting_take (w := wiring) hr fun d hd => by
        cases d with
        | socket => exact absurd rfl hd
        | timer => exact htimer
        | acceptor id => exact h.acceptor_resting hn id
      apply h.taken (.closed hs)
      exact fits_waitBeforeRetry hrest rfl hsilent.pending_eq hsilent.established_eq rfl rfl rfl
    · apply h.taken (.halfClosed hs)
      intro d
      by_cases hd : d = .socket
      · subst hd
        refine fits_here rfl ?_
        change SocketFits s.machine.state _ _
        rwa [hs]
      · exact fits_elsewhere h hd rfl id
  all_goals exact absurd (hf.2.symm.trans hq) (by simp)

theorem AtWork.deliver_timer (h : AtWork s) {r : TimerEvent} {rest : List TimerEvent}
    (hq : (s.channel .timer).queue = r :: rest) :
    ∃ m, Handled s.machine (.retry r) m ∧ AtWork (wiring.after (s.take .timer) m) := by
  have hf : TimerFits s.machine.state _ _ := h.fits .timer
  have hsocket : SocketFits s.machine.state _ _ := h.fits .socket
  cases hs : s.machine.state <;> rw [hs] at hf hsocket
  case waiting =>
    obtain ⟨rfl, -⟩ := Armed.queue hf hq
    apply h.taken (Handled.timedOut hs)
    intro d
    cases d with
    | socket =>
      exact fits_elsewhere h (c := .timer) (by simp) rfl fun hx => by
        change SocketFits s.machine.state _ _ at hx
        rwa [hs] at hx
    | timer =>
      rw [Wiring.channel_after_take]
      exact OneShot.hear hf hq
    | acceptor id => exact fits_elsewhere h (c := .timer) (by simp) rfl fun hx => hx
  case stoppingBackoff =>
    have hn : s.machine.state ≠ .active := by simp [hs]
    obtain ⟨rfl, hr⟩ := OneShot.heard_queue hf hq
    have hrest := Wiring.resting_take (w := wiring) hr fun d hd => by
      cases d with
      | socket => exact hsocket
      | timer => exact absurd rfl hd
      | acceptor id => exact h.acceptor_resting hn id
    exact ⟨_, .rested hs, atWork_setUp hrest (h.coherent.silent h.active hn)
      (setUp_startListening _)⟩
  all_goals exact absurd (hf.2.symm.trans hq) (by simp)

theorem AtWork.deliver_pending (h : AtWork s) {id : ConnectionId} {r : ConnectionEvent}
    {rest : List ConnectionEvent} (hq : (s.channel (.acceptor id)).queue = r :: rest)
    (hs : s.machine.state = .active) (hp : s.machine.pending = some id) :
    ∃ m, Handled s.machine (.connection id r) m ∧
      AtWork (wiring.after (s.take (.acceptor id)) m) := by
  obtain ⟨hrun, hunheard, hposted⟩ := (acceptorFits_of_pending hp).1 (h.fits (.acceptor id))
  obtain ⟨rfl, hmem, hrest⟩ : r = .accepted ∧ .accepted ∈ (s.channel (.acceptor id)).posted ∧
      ∀ x ∈ rest, x = .error := by
    rcases hposted with hp | hp | hp <;> rw [hunheard, hp] at hq <;> simp_all
    simp [← hq.2]
  have hhandled := Handled.accepted hs hp
  have hne : s.machine.nextId ≠ id := by
    rw [← h.coherent.pending_newest id hp]
    exact Nat.succ_ne_self id
  have hnew : s.machine.nextId ∉ s.machine.acceptors.numbers := by
    simp [h.coherent.numbers_eq]
  apply h.taken hhandled
  intro d
  cases d with
  | socket => exact fits_elsewhere h (c := .acceptor id) (by simp) rfl fun hx => hx
  | timer => exact fits_elsewhere h (c := .acceptor id) (by simp) rfl fun hx => hx
  | acceptor a =>
    by_cases ha : a = s.machine.nextId
    · subst ha
      refine fits_created (s := s.take (.acceptor id)) hnew rfl rfl ?_
      rw [System.channel_take_of_ne s (by simpa using hne)]
      refine (acceptorFits_of_gone (l := s.machine) ?_ fun hm => ?_).1 (h.fits (.acceptor _))
      · simpa [hp] using hne.symm
      · exact lt_irrefl _ (h.coherent.established_lt _ hm)
    · have hsame : (s.machine.promote id).activity (.acceptor a) =
          s.machine.activity (.acceptor a) := activity_create_of_ne _ ha
      have hpending : (s.machine.promote id).pending ≠ some a :=
        fun hx => ha (Option.some.inj hx).symm
      by_cases haid : a = id
      · subst haid
        have hestablished : a ∈ (s.machine.promote a).established := by
          simp [promote, startAcceptor]
        refine fits_here hsame ((acceptorFits_of_established hpending hestablished).2 ?_)
        exact ⟨hmem, .inl ⟨hrun, by simpa [Channel.pop, hq] using hrest⟩⟩
      · refine fits_elsewhere h (by simpa using haid) hsame fun hx => acceptorFits_congr hx ?_ ?_
        · simpa [hpending, hp] using Ne.symm haid
        · simp [promote, startAcceptor, haid]

theorem AtWork.deliver_established (h : AtWork s) {id : ConnectionId} {r : ConnectionEvent}
    {rest : List ConnectionEvent} (hq : (s.channel (.acceptor id)).queue = r :: rest)
    (hs : s.machine.state = .active) (hp : s.machine.pending ≠ some id)
    (he : id ∈ s.machine.established) :
    ∃ m, Handled s.machine (.connection id r) m ∧
      AtWork (wiring.after (s.take (.acceptor id)) m) := by
  have hf := (acceptorFits_of_established hp he).1 (h.fits (.acceptor id))
  rcases hf.pop hq with ⟨rfl, hr⟩ | ⟨rfl, hr⟩
  · apply h.taken (Handled.ended hs hp he)
    intro d
    by_cases hd : d = .acceptor id
    · subst hd
      have hgone : id ∉ (s.machine.release id).established := by simp [release]
      exact fits_here rfl ((acceptorFits_of_gone (l := s.machine.release id) hp hgone).2 hr)
    · refine fits_elsewhere h hd rfl ?_
      intro _ _ hx
      cases d with
      | socket | timer => exact hx
      | acceptor a =>
        exact acceptorFits_congr hx Iff.rfl (by simp_all [release])
  · apply h.taken (Handled.broken hs hp he)
    intro d
    by_cases hd : d = .acceptor id
    · subst hd
      rw [Wiring.channel_after_take]
      refine (acceptorFits_of_established (l := s.machine.recycle id) hp he).2 ?_
      exact hr.eases (eases_stopAcceptors ..)
    · refine fits_elsewhere h hd ?_ fun hx => hx
      cases d with
      | socket | timer => rfl
      | acceptor a => exact activity_stop_of_notMem _ (by simp_all)

theorem AtWork.deliver_acceptor (h : AtWork s) {id : ConnectionId} {r : ConnectionEvent}
    {rest : List ConnectionEvent} (hq : (s.channel (.acceptor id)).queue = r :: rest) :
    ∃ m, Handled s.machine (.connection id r) m ∧
      AtWork (wiring.after (s.take (.acceptor id)) m) := by
  by_cases hs : s.machine.state = .active
  · by_cases hp : s.machine.pending = some id
    · exact h.deliver_pending hq hs hp
    · by_cases he : id ∈ s.machine.established
      · exact h.deliver_established hq hs hp he
      · have hr := (acceptorFits_of_gone hp he).1 (h.fits (.acceptor id))
        exact absurd (hr.2.symm.trans hq) (by simp)
  · exact absurd ((h.acceptor_resting hs id).2.symm.trans hq) (by simp)

/-- A listener at work has a use for whatever is delivered to it. -/
theorem AtWork.deliver (h : AtWork s) {c : Collaborator} {r : Report c} {rest : List (Report c)}
    (hq : (s.channel c).queue = r :: rest) :
    ∃ m, Handled s.machine (eventOf c r) m ∧ AtWork (wiring.after (s.take c) m) := by
  cases c with
  | socket => exact h.deliver_socket hq
  | timer => exact h.deliver_timer hq
  | acceptor id => exact h.deliver_acceptor hq

end Deliver

section Post

variable {l : Listener} {a : Activity}

theorem SocketFits.post {x : State} {ch : Channel SocketEvent} (h : SocketFits x a ch)
    (stopping : a.status = .stopping) : SocketFits x a (ch.post .shutdown) := by
  cases x
  case active =>
    have hr : a.status = .running := h.1
    simp [stopping] at hr
  case closing => exact Ending.post h rfl (by simp [stopping])
  all_goals
    have hidle : a.status = .idle := h.1
    simp [stopping] at hidle

theorem AcceptorFits.post {id : ConnectionId} {ch : Channel ConnectionEvent}
    (h : AcceptorFits l id a ch) (hbusy : a.status ≠ .idle) {e : ConnectionEvent}
    (he : e = .accepted ∧ e ∉ ch.posted ∨ e = .error ∧ e ∉ ch.posted ∧ .accepted ∈ ch.posted) :
    AcceptorFits l id a (ch.post e) := by
  by_cases hp : l.pending = some id
  · rw [acceptorFits_of_pending hp] at h ⊢
    refine Unheard.post h (.inr ?_)
    rcases h.2.2 with hx | hx | hx <;> rw [hx] at he ⊢ <;>
      rcases he with ⟨rfl, he⟩ | ⟨rfl, he⟩ <;> simp at he ⊢
  by_cases hm : id ∈ l.established
  · rw [acceptorFits_of_established hp hm] at h ⊢
    obtain rfl : e = .error := by
      rcases he with ⟨rfl, he⟩ | ⟨rfl, -⟩
      · exact absurd h.1 he
      · rfl
    exact h.post hbusy
  · rw [acceptorFits_of_gone hp hm] at h
    exact absurd h.1 hbusy

theorem AtWork.post (h : AtWork s) {c : Collaborator} {r : Report c}
    (ha : wiring.Allows s (.post c r)) : AtWork (s.post c r) := by
  refine ⟨h.coherent, h.active, ?_⟩
  intro d
  by_cases hd : d = c
  · subst hd
    rw [System.channel_post_self]
    obtain ⟨hbusy, -, hr⟩ := ha
    cases d with
    | socket =>
      obtain ⟨rfl, stopping⟩ := hr
      exact SocketFits.post (h.fits .socket) stopping
    | timer =>
      obtain ⟨rfl, hnew⟩ := hr
      exact OneShot.post (h.fits .timer) hbusy rfl fun x hx heq => hnew (heq ▸ hx)
    | acceptor id => exact AcceptorFits.post (h.fits (.acceptor id)) hbusy hr
  · rw [System.channel_post_of_ne s hd]
    exact h.fits d

end Post

theorem resting_of_unused {l : Listener} (hs : l.socket.activity.status = .idle)
    (ht : l.retry.timer.activity.status = .idle) (ha : l.acceptors.created = [])
    (c : Collaborator) : Resting (l.activity c) ({} : Channel (Report c)) := by
  cases c with
  | socket => exact ⟨hs, rfl⟩
  | timer => exact ⟨ht, rfl⟩
  | acceptor id => exact ⟨by simp [activity_acceptor, Acceptors.find?, ha], rfl⟩

/-- A listener that has just been created is at work. -/
theorem atWork_of_starts (h : Starts s) : AtWork s := by
  obtain ⟨address, options, parts, bind, l, unused, hbind, hcreate, rfl⟩ := h
  unfold create at hcreate
  rw [hbind] at hcreate
  simp only [Except.map, start, fresh, if_true, Except.ok.injEq, Outcome.done.injEq] at hcreate
  have hsilent :
      Silent { (fresh address bind options parts).note .created with phase := .active } :=
    ⟨rfl, by simp [fresh, note, Acceptors.numbers, unused.acceptors], rfl, rfl, rfl⟩
  have hrest := resting_of_unused
    (l := { (fresh address bind options parts).note .created with phase := .active })
    (congrArg Activity.status unused.socket) (congrArg (·.activity.status) unused.timer)
    unused.acceptors
  have hl := atWork_setUp (s := Wiring.still _) hrest hsilent (setUp_startListening _)
  subst hcreate
  refine ⟨hl.coherent, hl.active, ?_⟩
  intro c
  have hf := hl.fits c
  cases c <;> exact hf

end EndpointLifecycle.Listener
