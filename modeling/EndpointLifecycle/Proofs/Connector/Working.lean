import EndpointLifecycle.Proofs.Connector.System
import EndpointLifecycle.Proofs.System.OneShot

/-!
# Connectors at work, and what is under way

In each state of a connector at work one collaborator is at work or being stopped, or the socket and
the session together; all others rest with nothing under way. So the connector has a use for every
report that is delivered.
-/

namespace EndpointLifecycle.Connector

open Channel

def State.timerUse : State → Use
  | .waiting => .armed
  | .stoppingBackoff => .heard
  | _ => .resting

def State.resolverUse : State → Use
  | .resolving => .armed
  | .stoppingResolver => .heard
  | _ => .resting

def State.sessionUse : State → Use
  | .active => .armed
  | .stoppingSession => .heard
  | _ => .resting

/-- The socket cannot report anything about a connect any more: it already has, or since its last
start, before which the connector was `begun`, there has been none. -/
def Spent (begun c : Connector) (posted : List SocketEvent) : Prop :=
  (∃ e ∈ posted, IsResult e) ∨ c.socket.connects ≤ begun.socket.connects

/-- How the socket stands while the connector is at work. -/
def SocketFits (begun c : Connector) : State → Activity → Channel SocketEvent → Prop
  | .connecting => fun a ch =>
    Armed IsResult a ch ∧ begun.socket.connects < c.socket.connects ∧
      c.session.stops ≤ begun.session.stops
  | .active => fun a ch =>
    Working (fun _ => False) a ch ∧ Spent begun c ch.posted ∧
      c.session.stops ≤ begun.session.stops
  | .stoppingSession => fun a ch => Working (· = .shutdown) a ch ∧ Spent begun c ch.posted
  | .stoppingSocket => fun a ch => Ending .stopped (· = .shutdown) a ch ∧ Spent begun c ch.posted
  | _ => Resting

def Fits (begun c : Connector) : (x : Collaborator) → Activity → Channel (Report x) → Prop
  | .socket => SocketFits begun c c.state
  | .timer => OneShot .stopped (· = .timeout) c.state.timerUse
  | .resolver => OneShot .stopped IsDone c.state.resolverUse
  | .session => OneShot .stopped (· = .error) c.state.sessionUse

/-- Who has something to do in a state of a connector at work. -/
def State.engages : State → List Collaborator
  | .resolving | .stoppingResolver => [.resolver]
  | .connecting | .stoppingSocket => [.socket]
  | .active | .stoppingSession => [.socket, .session]
  | .waiting | .stoppingBackoff => [.timer]
  | _ => []

structure AtWork (s : System Connector Report) : Prop where
  coherent : Coherent s.machine
  active : s.machine.phase = .active
  fits : ∀ x, Fits (s.begun x) s.machine x (s.machine.activity x) (s.channel x)

section Fits

variable {b c m : Connector} {a a' : Activity}

/-- All others rest. -/
theorem fits_iff_resting {x : Collaborator} {ch : Channel (Report x)}
    (hx : x ∉ c.state.engages) : Fits b c x a ch ↔ Resting a ch := by
  cases x with
  | socket =>
    change SocketFits b c c.state a ch ↔ _
    cases hs : c.state <;> first | exact Iff.rfl | simp [hs, State.engages] at hx
  | timer =>
    change OneShot _ _ c.state.timerUse a ch ↔ _
    cases hs : c.state <;> first | exact Iff.rfl | simp [hs, State.engages] at hx
  | resolver =>
    change OneShot _ _ c.state.resolverUse a ch ↔ _
    cases hs : c.state <;> first | exact Iff.rfl | simp [hs, State.engages] at hx
  | session =>
    change OneShot _ _ c.state.sessionUse a ch ↔ _
    cases hs : c.state <;> first | exact Iff.rfl | simp [hs, State.engages] at hx

theorem SocketFits.congr {x : State} {ch : Channel SocketEvent} (h : SocketFits b c x a ch)
    (hc : m.socket.connects = c.socket.connects) (hs : m.session.stops = c.session.stops) :
    SocketFits b m x a ch := by
  cases x
  case connecting | active | stoppingSession | stoppingSocket =>
    simpa only [SocketFits, Spent, hc, hs] using h
  all_goals exact h

theorem SocketFits.eases {x : State} {ch : Channel SocketEvent} (h : SocketFits b c x a ch)
    (he : a.Eases a') (hr : a.status = .running → a'.status = .running) :
    SocketFits b c x a' (ch.update .stopped a a') := by
  cases x
  case connecting => exact ⟨OneShot.eases (u := .armed) h.1 he hr, h.2⟩
  case active => exact ⟨h.1.eases he (hr h.1.1), (posted_update he).symm ▸ h.2⟩
  case stoppingSession => exact ⟨h.1.eases he (hr h.1.1), (posted_update he).symm ▸ h.2⟩
  case stoppingSocket => exact ⟨h.1.eases he, (posted_update he).symm ▸ h.2⟩
  all_goals exact Resting.eases h he

/-- A collaborator at work stays so until it is asked to stop; all else may go on by itself. -/
theorem Fits.eases {x : Collaborator} {ch : Channel (Report x)} (h : Fits b c x a ch)
    (hk : Kept c m) (he : a.Eases a') (hr : a.status = .running → a'.status = .running) :
    Fits b m x a' (ch.update (ended x) a a') := by
  cases x with
  | socket =>
    change SocketFits b m m.state _ _
    rw [hk.state_eq]
    exact (SocketFits.eases h he hr).congr hk.connects_eq hk.session_stops_eq
  | timer =>
    change OneShot _ _ m.state.timerUse _ _
    rw [hk.state_eq]
    exact OneShot.eases h he hr
  | resolver =>
    change OneShot _ _ m.state.resolverUse _ _
    rw [hk.state_eq]
    exact OneShot.eases h he hr
  | session =>
    change OneShot _ _ m.state.sessionUse _ _
    rw [hk.state_eq]
    exact OneShot.eases h he hr

end Fits

variable {s : System Connector Report} {m : Connector}

/-- What changes by itself, without a start or a stop, leaves a connector at work. -/
theorem AtWork.eases (h : AtWork s) (hk : Kept s.machine m)
    (he : ∀ x, (s.machine.activity x).Eases (m.activity x))
    (hr : ∀ x, (s.machine.activity x).status = .running → (m.activity x).status = .running) :
    AtWork (wiring.after s m) where
  coherent := hk.coherent h.coherent
  active := hk.phase_eq.trans h.active
  fits x := by
    rw [Wiring.begun_after_of_eq (he x).starts_eq]
    exact (h.fits x).eases hk (he x) (hr x)

theorem AtWork.completed (h : AtWork s) {x : Collaborator}
    (hx : (s.machine.activity x).status = .stopping) :
    AtWork (wiring.after s (s.machine.completeStop x)) := by
  refine h.eases (kept_completeStop ..) (fun y => eases_completeStop ..) fun y hy => ?_
  have hne : y ≠ x := fun he => by simp [he, hx] at hy
  rwa [activity_completeStop, if_neg hne]

section Post

theorem SocketFits.post {b c : Connector} {x : State} {a : Activity} {ch : Channel SocketEvent}
    (h : SocketFits b c x a ch) (hbusy : a.status ≠ .idle) {e : SocketEvent}
    (hp : IsResult e ∧ (∀ e' ∈ ch.posted, ¬IsResult e') ∧ b.socket.connects < c.socket.connects ∨
      e = .shutdown ∧ (b.session.stops < c.session.stops ∨ a.status = .stopping)) :
    SocketFits b c x a (ch.post e) := by
  have hspent (hs : Spent b c ch.posted) : e = .shutdown ∧ Spent b c (ch.post e).posted := by
    rcases hp with ⟨-, hnew, hconnects⟩ | ⟨rfl, -⟩
    · rcases hs with ⟨e', he', hr⟩ | hle
      · exact absurd hr (hnew e' he')
      · exact absurd hconnects (Nat.not_lt_of_le hle)
    · exact ⟨rfl, hs.imp_left fun ⟨e', he', hr⟩ => ⟨e', List.mem_append_left _ he', hr⟩⟩
  have hunbroken (hr : a.status = .running) (hle : c.session.stops ≤ b.session.stops) :
      e ≠ .shutdown := by
    rintro rfl
    rcases hp with ⟨hresult, -⟩ | ⟨-, hstops | hstopping⟩
    · simp [IsResult] at hresult
    · exact absurd hstops (Nat.not_lt_of_le hle)
    · simp [hr] at hstopping
  cases x
  case connecting =>
    obtain ⟨harmed, hconnects, hle⟩ := h
    rcases hp with ⟨hresult, hnew, -⟩ | ⟨hshutdown, -⟩
    · exact ⟨Armed.post harmed hresult hnew, hconnects, hle⟩
    · exact absurd hshutdown (hunbroken harmed.1 hle)
  case active =>
    obtain ⟨hworking, hs, hle⟩ := h
    exact absurd (hspent hs).1 (hunbroken hworking.1 hle)
  case stoppingSession =>
    obtain ⟨hworking, hs⟩ := h
    exact ⟨hworking.post (hspent hs).1, (hspent hs).2⟩
  case stoppingSocket =>
    obtain ⟨hending, hs⟩ := h
    exact ⟨hending.post (hspent hs).1 hbusy, (hspent hs).2⟩
  all_goals
    have hidle : a.status = .idle := h.1
    exact absurd hidle hbusy

theorem AtWork.post (h : AtWork s) {x : Collaborator} {r : Report x}
    (ha : wiring.Allows s (.post x r)) : AtWork (s.post x r) := by
  refine ⟨h.coherent, h.active, ?_⟩
  intro y
  by_cases hy : y = x
  · subst hy
    rw [System.channel_post_self]
    obtain ⟨hbusy, -, hr⟩ := ha
    cases y with
    | socket => exact SocketFits.post (h.fits .socket) hbusy hr
    | timer =>
      obtain ⟨rfl, hnew⟩ := hr
      exact OneShot.post (h.fits .timer) hbusy rfl fun e he heq => hnew (heq ▸ he)
    | resolver => exact OneShot.post (h.fits .resolver) hbusy hr.1 hr.2
    | session =>
      obtain ⟨rfl, hnew⟩ := hr
      exact OneShot.post (h.fits .session) hbusy rfl fun e he heq => hnew (heq ▸ he)
  · rw [System.channel_post_of_ne s hy]
    exact h.fits y

end Post

/-- What an attempt to connect does to the collaborators. -/
inductive Tried (c c' : Connector) : Prop
  | notOpened (state : c'.state = .waiting)
      (timer : c'.retry.timer.activity = c.retry.timer.activity.start)
      (others : ∀ x ≠ .timer, c'.activity x = c.activity x)
      (faults : c'.socket.faults < c.socket.faults)
  | givenUp (state : c'.state = .stoppingSocket)
      (socket : c'.socket.activity = c.socket.activity.start.stop)
      (connects : c'.socket.connects = c.socket.connects)
      (others : ∀ x ≠ .socket, c'.activity x = c.activity x)
      (faults : c'.socket.faults < c.socket.faults)
  | connecting (state : c'.state = .connecting)
      (socket : c'.socket.activity = c.socket.activity.start)
      (connects : c'.socket.connects = c.socket.connects + 1)
      (stops : c'.session.stops = c.session.stops)
      (others : ∀ x ≠ .socket, c'.activity x = c.activity x)

theorem tried_of_dialled {c o c' : Connector} {localAddr remote : SocketAddr}
    (hsocket : o.socket.activity = c.socket.activity.start)
    (hconnects : o.socket.connects = c.socket.connects)
    (hfaults : o.socket.faults = c.socket.faults)
    (hothers : ∀ x ≠ .socket, o.activity x = c.activity x)
    (h : Dialled o localAddr remote c') : Tried c c' := by
  have hsame {m : Connector} (hr : m.retry = o.retry) (hv : m.resolver = o.resolver)
      (hs : m.session = o.session) : ∀ x ≠ .socket, m.activity x = c.activity x := fun x hx => by
    rw [← hothers x hx]
    cases x with
    | socket => exact absurd rfl hx
    | timer => exact congrArg (·.timer.activity) hr
    | resolver => exact congrArg (·.activity) hv
    | session => exact hs
  cases h with
  | bindFailed bound =>
    refine .givenUp rfl ?_ ?_ (hsame rfl rfl rfl) ?_
    · exact congrArg Activity.stop ((Socket.activity_of_bind bound).trans hsocket)
    · exact (Socket.connects_of_bind bound).trans hconnects
    · exact (Socket.faults_of_bind_failed bound).trans_eq hfaults
  | refused bound connected =>
    refine .givenUp rfl ?_ ?_ (hsame rfl rfl rfl) ?_
    · exact congrArg Activity.stop ((Socket.activity_of_connect connected).trans
        ((Socket.activity_of_bind bound).trans hsocket))
    · exact (Socket.connects_of_connect_failed connected).trans
        ((Socket.connects_of_bind bound).trans hconnects)
    · exact (Socket.faults_of_connect_failed connected).trans_eq
        ((Socket.faults_of_bind bound).trans hfaults)
  | connecting bound connected =>
    refine .connecting rfl ?_ ?_ ?_ (hsame rfl rfl rfl)
    · exact (Socket.activity_of_connect connected).trans
        ((Socket.activity_of_bind bound).trans hsocket)
    · exact (Socket.connects_of_connect connected).trans
        (congrArg (· + 1) ((Socket.connects_of_bind bound).trans hconnects))
    · exact congrArg Activity.stops (hothers .session (by simp))

theorem tried_of_attempted {c c' : Connector} {ip : IpAddr} (h : Attempted c ip c') :
    Tried c c' := by
  cases h with
  | openFailed opened =>
    refine .notOpened rfl rfl (fun x hx => ?_) (Socket.faults_of_start_failed opened)
    cases x with
    | timer => exact absurd rfl hx
    | socket => exact Socket.activity_of_start_failed opened
    | resolver | session => rfl
  | opened opened dialled =>
    refine tried_of_dialled ?_ ?_ ?_ (fun x hx => ?_) dialled
    · exact (activity_sizeBuffers _ .socket).trans (Socket.activity_of_start opened)
    · exact (connects_sizeBuffers _).trans (Socket.connects_of_start opened)
    · exact (faults_sizeBuffers _).trans (Socket.faults_of_start opened)
    · rw [activity_sizeBuffers]
      cases x with
      | socket => exact absurd rfl hx
      | timer | resolver | session => rfl

theorem armed_after {x : Collaborator} {Q : Report x → Prop}
    (hrest : Resting (s.machine.activity x) (s.channel x))
    (ha : m.activity x = (s.machine.activity x).start) :
    OneShot (ended x) Q .armed (m.activity x) ((wiring.after s m).channel x) := by
  have hrun : (m.activity x).status = .running := by rw [ha]; rfl
  have hstarts : (m.activity x).starts ≠ (s.machine.activity x).starts := by
    rw [ha]
    exact Nat.succ_ne_self _
  have hcompletions : (m.activity x).completions = (s.machine.activity x).completions := by
    rw [ha]
    rfl
  exact OneShot.start hrest hrun hstarts hcompletions

section Start

variable (hrest : ∀ x, Resting (s.machine.activity x) (s.channel x))
include hrest

theorem resting_after {x : Collaborator} (ha : m.activity x = s.machine.activity x) :
    Resting (m.activity x) ((wiring.after s m).channel x) := by
  rw [Wiring.channel_after_of_eq ha, ha]
  exact hrest x

/-- One collaborator is started, and the others stay at rest. -/
theorem fits_of_one {y : Collaborator} (hs : m.state.engages = [y])
    (ha : ∀ x ≠ y, m.activity x = s.machine.activity x)
    (hy : Fits ((wiring.after s m).begun y) m y (m.activity y) ((wiring.after s m).channel y))
    (x : Collaborator) :
    Fits ((wiring.after s m).begun x) m x (m.activity x) ((wiring.after s m).channel x) := by
  by_cases hx : x = y
  · exact hx ▸ hy
  · exact (fits_iff_resting (by simpa [hs] using hx)).2 (resting_after hrest (ha x hx))

theorem fits_resolving (hs : m.state = .resolving)
    (hr : m.resolver.activity = s.machine.resolver.activity.start)
    (ha : ∀ x ≠ .resolver, m.activity x = s.machine.activity x) (x : Collaborator) :
    Fits ((wiring.after s m).begun x) m x (m.activity x) ((wiring.after s m).channel x) := by
  refine fits_of_one hrest (y := .resolver) (by rw [hs]; rfl) ha ?_ x
  change OneShot _ _ m.state.resolverUse _ _
  rw [hs]
  exact armed_after (hrest .resolver) hr

theorem fits_waiting (hs : m.state = .waiting)
    (ht : m.retry.timer.activity = s.machine.retry.timer.activity.start)
    (ha : ∀ x ≠ .timer, m.activity x = s.machine.activity x) (x : Collaborator) :
    Fits ((wiring.after s m).begun x) m x (m.activity x) ((wiring.after s m).channel x) := by
  refine fits_of_one hrest (y := .timer) (by rw [hs]; rfl) ha ?_ x
  change OneShot _ _ m.state.timerUse _ _
  rw [hs]
  exact armed_after (hrest .timer) ht

theorem fits_givenUp (hs : m.state = .stoppingSocket)
    (hk : m.socket.activity = s.machine.socket.activity.start.stop)
    (hc : m.socket.connects = s.machine.socket.connects)
    (ha : ∀ x ≠ .socket, m.activity x = s.machine.activity x) (x : Collaborator) :
    Fits ((wiring.after s m).begun x) m x (m.activity x) ((wiring.after s m).channel x) := by
  have hstarts : (m.activity .socket).starts ≠ (s.machine.activity .socket).starts := by
    change m.socket.activity.starts ≠ s.machine.socket.activity.starts
    simp [hk, Activity.start]
  refine fits_of_one hrest (y := .socket) (by rw [hs]; rfl) ha ?_ x
  rw [Wiring.begun_after_of_ne hstarts]
  change SocketFits _ _ m.state m.socket.activity
    ((s.channel .socket).update .stopped s.machine.socket.activity m.socket.activity)
  rw [hs, hk]
  exact ⟨(hrest .socket).start_stop, .inr hc.le⟩

theorem fits_connecting (hs : m.state = .connecting)
    (hk : m.socket.activity = s.machine.socket.activity.start)
    (hc : m.socket.connects = s.machine.socket.connects + 1)
    (hstops : m.session.stops = s.machine.session.stops)
    (ha : ∀ x ≠ .socket, m.activity x = s.machine.activity x) (x : Collaborator) :
    Fits ((wiring.after s m).begun x) m x (m.activity x) ((wiring.after s m).channel x) := by
  have hstarts : (m.activity .socket).starts ≠ (s.machine.activity .socket).starts := by
    change m.socket.activity.starts ≠ s.machine.socket.activity.starts
    simp [hk, Activity.start]
  refine fits_of_one hrest (y := .socket) (by rw [hs]; rfl) ha ?_ x
  rw [Wiring.begun_after_of_ne hstarts]
  change SocketFits _ _ m.state _ _
  rw [hs]
  exact ⟨armed_after (hrest .socket) hk, by rw [hc]; exact Nat.lt_succ_self _, hstops.le⟩

/-- An attempt to connect, whatever comes of it, begins with nothing under way. -/
theorem fits_tried (h : Tried s.machine m) (x : Collaborator) :
    Fits ((wiring.after s m).begun x) m x (m.activity x) ((wiring.after s m).channel x) := by
  cases h with
  | notOpened state timer others => exact fits_waiting hrest state timer others x
  | givenUp state socket connects others => exact fits_givenUp hrest state socket connects others x
  | connecting state socket connects stops others =>
    exact fits_connecting hrest state socket connects stops others x

end Start

theorem Tried.of_resolved {c c' : Connector} {resolved : Option Resolution}
    (h : Tried { c with resolved } c') : Tried c c' := by
  have hsame (x) : activity { c with resolved } x = c.activity x := by cases x <;> rfl
  cases h with
  | notOpened state timer others faults =>
    exact .notOpened state timer (fun x hx => (others x hx).trans (hsame x)) faults
  | givenUp state socket connects others faults =>
    exact .givenUp state socket connects (fun x hx => (others x hx).trans (hsame x)) faults
  | connecting state socket connects stops others =>
    exact .connecting state socket connects stops fun x hx => (others x hx).trans (hsame x)

section Deliver

theorem fits_beside {x y : Collaborator} (hy : y ≠ x)
    (he : (s.machine.activity y).Eases (m.activity y))
    (hf : Fits (s.begun y) m y (m.activity y)
      ((s.channel y).update (ended y) (s.machine.activity y) (m.activity y))) :
    Fits ((wiring.after (s.take x) m).begun y) m y (m.activity y)
      ((wiring.after (s.take x) m).channel y) := by
  rw [Wiring.begun_after_of_eq he.starts_eq, Wiring.channel_after, System.channel_take_of_ne s hy]
  exact hf

theorem fits_elsewhere (h : AtWork s) {x y : Collaborator} (hy : y ≠ x)
    (ha : m.activity y = s.machine.activity y)
    (hf : ∀ {b a ch}, Fits b s.machine y a ch → Fits b m y a ch) :
    Fits ((wiring.after (s.take x) m).begun y) m y (m.activity y)
      ((wiring.after (s.take x) m).channel y) :=
  fits_beside hy (ha ▸ .refl _) (by rw [ha, update_self]; exact hf (h.fits y))

theorem fits_bystander (h : AtWork s) {x y : Collaborator} (hy : y ≠ x)
    (ha : m.activity y = s.machine.activity y) (hs : y ∉ s.machine.state.engages)
    (hm : y ∉ m.state.engages) :
    Fits ((wiring.after (s.take x) m).begun y) m y (m.activity y)
      ((wiring.after (s.take x) m).channel y) :=
  fits_elsewhere h hy ha fun hf => (fits_iff_resting hm).2 ((fits_iff_resting hs).1 hf)

theorem fits_here {x : Collaborator} (he : (s.machine.activity x).Eases (m.activity x))
    (hf : Fits (s.begun x) m x (m.activity x)
      ((s.channel x).pop.update (ended x) (s.machine.activity x) (m.activity x))) :
    Fits ((wiring.after (s.take x) m).begun x) m x (m.activity x)
      ((wiring.after (s.take x) m).channel x) := by
  rw [Wiring.begun_after_of_eq he.starts_eq, Wiring.channel_after_take]
  exact hf

theorem fits_here_of_eq {x : Collaborator} (ha : m.activity x = s.machine.activity x)
    (hf : Fits (s.begun x) m x (s.machine.activity x) (s.channel x).pop) :
    Fits ((wiring.after (s.take x) m).begun x) m x (m.activity x)
      ((wiring.after (s.take x) m).channel x) :=
  fits_here (ha ▸ .refl _) (by rwa [ha, update_self])

/-- When the only one that is engaged has come to rest, all rest. -/
theorem AtWork.resting_take (h : AtWork s) {x : Collaborator}
    (hs : s.machine.state.engages = [x])
    (hx : Resting (s.machine.activity x) (s.channel x).pop) (y : Collaborator) :
    Resting ((s.take x).machine.activity y) ((s.take x).channel y) :=
  Wiring.resting_take (w := wiring) hx
    (fun y hy => (fits_iff_resting (by simpa [hs] using hy)).1 (h.fits y)) y

theorem AtWork.halfClosed (h : AtWork s)
    (hf : SocketFits (s.begun .socket) s.machine s.machine.state (s.machine.activity .socket)
      (s.channel .socket).pop) :
    AtWork (wiring.after (s.take .socket) s.machine) := by
  refine ⟨h.coherent, h.active, ?_⟩
  intro y
  by_cases hy : y = .socket
  · subst hy
    exact fits_here_of_eq rfl hf
  · exact fits_elsewhere h hy rfl id

/-- An event that is delivered is handled; it is left to see how all stand then. -/
theorem AtWork.taken (h : AtWork s) {x : Collaborator} {e : Event}
    (hhandled : Handled s.machine e m)
    (hf : ∀ y, Fits ((wiring.after (s.take x) m).begun y) m y (m.activity y)
      ((wiring.after (s.take x) m).channel y)) :
    ∃ m, Handled s.machine e m ∧ AtWork (wiring.after (s.take x) m) :=
  ⟨m, hhandled, coherent_handled h.coherent hhandled, (phase_handled hhandled).trans h.active, hf⟩

theorem AtWork.deliver_result (h : AtWork s) (hs : s.machine.state = .connecting)
    {r : SocketEvent} {rest : List SocketEvent} (hq : (s.channel .socket).queue = r :: rest) :
    ∃ m, Handled s.machine (.socket r) m ∧ AtWork (wiring.after (s.take .socket) m) := by
  have hf : SocketFits _ _ s.machine.state _ _ := h.fits .socket
  rw [hs] at hf
  obtain ⟨harmed, -, hle⟩ := hf
  obtain ⟨hr, rfl, hposted⟩ := Armed.queue harmed hq
  have hspent : ∃ e ∈ (s.channel .socket).pop.posted, IsResult e :=
    ⟨r, by simp [Channel.pop, hposted], hr⟩
  have hworking {P : SocketEvent → Prop} :
      Working P (s.machine.activity .socket) (s.channel .socket).pop :=
    ⟨harmed.1, by simp [Channel.pop, hq]⟩
  rcases hr with rfl | rfl
  · apply h.taken (Handled.connected hs)
    intro y
    cases y with
    | socket =>
      exact fits_here_of_eq rfl ⟨hworking, .inl hspent, hle⟩
    | session =>
      refine armed_after (s := s.take .socket) ?_ rfl
      rw [System.channel_take_of_ne s (by simp)]
      exact (fits_iff_resting (by simp [hs, State.engages])).1 (h.fits .session)
    | timer | resolver =>
      exact fits_bystander h (by simp) rfl (by simp [hs, State.engages])
        (by simp [onConnected, State.engages])
  · have hhandled := Handled.connectFailed hs
    have heases := Activity.eases_stop s.machine.socket.activity
    apply h.taken hhandled
    intro y
    cases y with
    | socket =>
      refine fits_here heases ?_
      exact ⟨hworking.stop heases (Activity.stop_not_running _),
        (posted_update heases).symm ▸ .inl hspent⟩
    | timer | resolver | session =>
      exact fits_bystander h (by simp) rfl (by simp [hs, State.engages])
        (by simp [onConnectError, giveUp, State.engages])

theorem AtWork.deliver_socket (h : AtWork s) {r : SocketEvent} {rest : List SocketEvent}
    (hq : (s.channel .socket).queue = r :: rest) :
    ∃ m, Handled s.machine (.socket r) m ∧ AtWork (wiring.after (s.take .socket) m) := by
  have hf : SocketFits _ _ s.machine.state _ _ := h.fits .socket
  have hsame := hf
  cases hs : s.machine.state <;> rw [hs] at hf
  case connecting => exact h.deliver_result hs hq
  case active => exact (hf.1.2 r (by simp [hq])).elim
  case stoppingSession =>
    obtain rfl := hf.1.2 r (by simp [hq])
    refine ⟨_, .halfClosed (.inl hs), h.halfClosed ?_⟩
    rw [hs]
    exact ⟨⟨hf.1.1, fun x hx => hf.1.2 x (List.mem_of_mem_tail hx)⟩, hf.2⟩
  case stoppingSocket =>
    rcases hf.1.pop (by simp) hq with ⟨rfl, hr⟩ | ⟨rfl, he⟩
    · have hhandled := Handled.closed hs
      have hrest := h.resting_take (x := .socket) (by rw [hs]; rfl) hr
      apply h.taken hhandled
      intro y
      refine fits_waiting hrest rfl rfl (fun x hx => ?_) y
      cases x with
      | timer => exact absurd rfl hx
      | socket | resolver | session => rfl
    · refine ⟨_, .halfClosed (.inr hs), h.halfClosed ?_⟩
      rw [hs]
      exact ⟨he, hf.2⟩
  all_goals exact absurd (hf.2.symm.trans hq) (by simp)

theorem AtWork.deliver_timer (h : AtWork s) {r : TimerEvent} {rest : List TimerEvent}
    (hq : (s.channel .timer).queue = r :: rest) :
    ∃ m, Handled s.machine (.retry r) m ∧ AtWork (wiring.after (s.take .timer) m) := by
  have hf : OneShot _ _ s.machine.state.timerUse _ _ := h.fits .timer
  cases hs : s.machine.state <;> rw [hs] at hf
  case waiting =>
    obtain ⟨rfl, -⟩ := Armed.queue hf hq
    apply h.taken (Handled.timedOut hs)
    intro y
    cases y with
    | timer => exact fits_here (Activity.eases_stop _) (OneShot.hear hf hq)
    | socket | resolver | session =>
      exact fits_bystander h (by simp) rfl (by simp [hs, State.engages]) (by simp [State.engages])
  case stoppingBackoff =>
    obtain ⟨rfl, hr⟩ := OneShot.heard_queue hf hq
    have hhandled := Handled.rested hs
    have hrest := h.resting_take (x := .timer) (by rw [hs]; rfl) hr
    apply h.taken hhandled
    intro y
    refine fits_resolving hrest rfl rfl (fun x hx => ?_) y
    cases x with
    | resolver => exact absurd rfl hx
    | socket | timer | session => rfl
  all_goals exact absurd (hf.2.symm.trans hq) (by simp)

theorem AtWork.deliver_resolver (h : AtWork s) {r : ResolverEvent} {rest : List ResolverEvent}
    (hq : (s.channel .resolver).queue = r :: rest) :
    ∃ m, Handled s.machine (.resolver r) m ∧ AtWork (wiring.after (s.take .resolver) m) := by
  have hf : OneShot _ _ s.machine.state.resolverUse _ _ := h.fits .resolver
  cases hs : s.machine.state <;> rw [hs] at hf
  case resolving =>
    obtain ⟨⟨result, rfl⟩, -⟩ := Armed.queue hf hq
    apply h.taken (Handled.done result hs)
    intro y
    cases y with
    | resolver => exact fits_here (Activity.eases_stop _) (OneShot.hear hf hq)
    | socket | timer | session =>
      exact fits_bystander h (by simp) rfl (by simp [hs, State.engages]) (by simp [State.engages])
  case stoppingResolver =>
    obtain ⟨rfl, hr⟩ := OneShot.heard_queue hf hq
    have hrest := h.resting_take (x := .resolver) (by rw [hs]; rfl) hr
    obtain ⟨result, hresult⟩ := Option.isSome_iff_exists.1 (h.coherent.resolved_isSome hs)
    cases result with
    | found ip =>
      have hhandled := Handled.found hs hresult
      have htried := tried_of_attempted (attempted_startConnecting
        { s.machine with resolved := none } ip)
      exact h.taken hhandled (fits_tried hrest htried.of_resolved)
    | failed kind =>
      apply h.taken (Handled.unfound hs hresult)
      intro y
      refine fits_waiting hrest rfl rfl (fun x hx => ?_) y
      cases x with
      | timer => exact absurd rfl hx
      | socket | resolver | session => rfl
  all_goals exact absurd (hf.2.symm.trans hq) (by simp)

theorem AtWork.deliver_session (h : AtWork s) {r : ConnectionEvent} {rest : List ConnectionEvent}
    (hq : (s.channel .session).queue = r :: rest) :
    ∃ m, Handled s.machine (.session r) m ∧ AtWork (wiring.after (s.take .session) m) := by
  have hf : OneShot _ _ s.machine.state.sessionUse _ _ := h.fits .session
  cases hs : s.machine.state <;> rw [hs] at hf
  case active =>
    obtain ⟨rfl, -⟩ := Armed.queue hf hq
    apply h.taken (Handled.broken hs)
    intro y
    cases y with
    | session => exact fits_here (Activity.eases_stop _) (OneShot.hear hf hq)
    | socket =>
      refine fits_elsewhere h (by simp) rfl ?_
      intro b a ch hf
      change SocketFits _ _ s.machine.state _ _ at hf
      rw [hs] at hf
      exact ⟨⟨hf.1.1, fun e he => (hf.1.2 e he).elim⟩, hf.2.1⟩
    | timer | resolver =>
      exact fits_bystander h (by simp) rfl (by simp [hs, State.engages])
        (by simp [onBroken, State.engages])
  case stoppingSession =>
    obtain ⟨rfl, hr⟩ := OneShot.heard_queue hf hq
    apply h.taken (Handled.ended hs)
    intro y
    cases y with
    | session => exact fits_here_of_eq rfl hr
    | socket =>
      have heases := Activity.eases_stop s.machine.socket.activity
      have hsocket : SocketFits _ _ s.machine.state _ _ := h.fits .socket
      rw [hs] at hsocket
      refine fits_beside (by simp) heases ?_
      exact ⟨hsocket.1.stop heases (Activity.stop_not_running _),
        (posted_update heases).symm ▸ hsocket.2⟩
    | timer | resolver =>
      exact fits_bystander h (by simp) rfl (by simp [hs, State.engages]) (by simp [State.engages])
  all_goals exact absurd (hf.2.symm.trans hq) (by simp)

/-- A connector at work has a use for whatever is delivered to it. -/
theorem AtWork.deliver (h : AtWork s) {x : Collaborator} {r : Report x} {rest : List (Report x)}
    (hq : (s.channel x).queue = r :: rest) :
    ∃ m, Handled s.machine (eventOf x r) m ∧ AtWork (wiring.after (s.take x) m) := by
  cases x with
  | socket => exact h.deliver_socket hq
  | timer => exact h.deliver_timer hq
  | resolver => exact h.deliver_resolver hq
  | session => exact h.deliver_session hq

end Deliver

/-- A connector that has just been created is at work. -/
theorem atWork_of_starts (h : Starts s) : AtWork s := by
  obtain ⟨address, options, parts, target, c, unused, htarget, hcreate, rfl⟩ := h
  unfold create at hcreate
  rw [htarget] at hcreate
  simp only [Except.map, start, fresh, if_true, Except.ok.injEq, Outcome.done.injEq] at hcreate
  subst hcreate
  refine ⟨coherent_of_resolved_eq_none rfl (by simp [startResolving]) rfl, rfl, ?_⟩
  intro x
  refine fits_resolving (s := Wiring.still _) (fun x => ?_) rfl rfl (fun x hx => ?_) x
  · cases x with
    | socket => exact ⟨congrArg Activity.status unused.socket, rfl⟩
    | timer => exact ⟨congrArg (·.activity.status) unused.timer, rfl⟩
    | resolver => exact ⟨congrArg (·.activity.status) unused.resolver, rfl⟩
    | session => exact ⟨congrArg Activity.status unused.session, rfl⟩
  · cases x with
    | resolver => exact absurd rfl hx
    | socket | timer | session => rfl

end EndpointLifecycle.Connector
