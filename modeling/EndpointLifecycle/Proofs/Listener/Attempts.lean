import EndpointLifecycle.Proofs.Calls
import EndpointLifecycle.Proofs.Listener.Reachable

/-!
# A listener retries from scratch

Read as a whole, the calls on the socket of a listener are attempts to listen, each of which opens
the socket anew, and a stop at the end of its life. All attempts but the last have failed, and what
was opened was stopped before the next.
-/

namespace EndpointLifecycle.Listener

/-- How an attempt to listen came out. -/
inductive Attempt
  | notOpened
  | notBound
  | notListening
  | listening
  deriving DecidableEq

/-- The calls of an attempt. A socket that was opened in vain is stopped. -/
def Attempt.calls (addr : SocketAddr) (backlog : UInt32) : Attempt → List AnsweredCall
  | notOpened => [⟨.start addr.ip.family, true⟩]
  | notBound => [⟨.start addr.ip.family, false⟩, ⟨.bind addr, true⟩, ⟨.stop, false⟩]
  | notListening =>
    [⟨.start addr.ip.family, false⟩, ⟨.bind addr, false⟩, ⟨.listen backlog, true⟩, ⟨.stop, false⟩]
  | listening => [⟨.start addr.ip.family, false⟩, ⟨.bind addr, false⟩, ⟨.listen backlog, false⟩]

/-- The calls that an attempt of the listener makes. -/
def attemptCalls (l : Listener) (attempt : Attempt) : List AnsweredCall :=
  attempt.calls l.listenAddr l.options.backlog

/-- Whether the end of the timer's stop is reported to a listener that waits for it to try again. -/
def retries (l : Listener) (a : Action) : Bool :=
  l.state = .stoppingBackoff ∧ a = .event (.retry .stopped)

/-- The stop by which the shutdown has given up the socket. -/
def lastStop (l : Listener) : List AnsweredCall :=
  if l.phase = .active ∨ l.state = .stoppingAcceptor then [] else [⟨.stop, false⟩]

section Step

variable {l l' m : Listener}

theorem exists_attempt (h : SetUp l l') :
    ∃ attempt, l.socket.Made (l.attemptCalls attempt) l'.socket ∧
      (attempt = .listening ↔ l'.state = .active) := by
  cases h with
  | openFailed opened =>
    exact ⟨.notOpened, (Socket.refused_start opened).made, by simp⟩
  | bindFailed opened bound =>
    refine ⟨.notBound, ?_, by simp⟩
    exact (Socket.taken_start opened).made (Socket.refused_bind bound).made.stop
  | listenFailed opened bound listened =>
    refine ⟨.notListening, ?_, by simp⟩
    exact (Socket.taken_start opened).made
      ((Socket.taken_bind bound).made (Socket.refused_listen listened).made.stop)
  | listening opened bound listened =>
    refine ⟨.listening, ?_, by simp [startAcceptor]⟩
    exact (Socket.taken_start opened).made
      ((Socket.taken_bind bound).made ((Socket.taken_listen listened).made (Socket.made_nil rfl)))

/-- The listener goes on to listen at the same address in the same way. -/
structure SameSetup (l l' : Listener) : Prop where
  bind_eq : l'.bind = l.bind
  options_eq : l'.options = l.options

theorem SameSetup.attemptCalls_eq (h : SameSetup l l') : l'.attemptCalls = l.attemptCalls := by
  funext attempt
  simp [attemptCalls, listenAddr, h.bind_eq, h.options_eq]

theorem sameSetup_setUp (h : SetUp l l') : SameSetup l l' := by
  cases h <;> exact ⟨rfl, rfl⟩

theorem sameSetup_advance (h : m.advanceShutdown = .done l') : SameSetup m l' :=
  advanceShutdown_induction (P := SameSetup m)
    (fun x x' hp hx => by cases hp <;> exact ⟨hx.bind_eq, hx.options_eq⟩) h ⟨rfl, rfl⟩

theorem sameSetup_stepped {a : Action} (h : Stepped l a l') : SameSetup l l' := by
  cases h with
  | handled active he =>
    cases he with
    | rested => exact sameSetup_setUp (setUp_startListening l)
    | _ => exact ⟨rfl, rfl⟩
  | absorbed stopping ha advanced =>
    have hm := sameSetup_advance advanced
    cases ha <;> exact ⟨hm.bind_eq, hm.options_eq⟩
  | stopBegun active advanced =>
    have hm := sameSetup_advance advanced
    exact ⟨hm.bind_eq, hm.options_eq⟩
  | stopIgnored => exact ⟨rfl, rfl⟩
  | completed c => cases c <;> exact ⟨rfl, rfl⟩
  | injected => exact ⟨rfl, rfl⟩

/-- The sign to try again makes a new attempt. -/
theorem setUp_stepped {a : Action} (hc : Coherent l) (h : Stepped l a l') (hr : l.retries a) :
    l.phase = .active ∧ l.state ≠ .active ∧ SetUp l l' := by
  have hretries : l.state = .stoppingBackoff ∧ a = .event (.retry .stopped) := by
    simpa [retries] using hr
  obtain ⟨hstate, rfl⟩ := hretries
  have hactive : l.phase = .active := by rw [hc.phase_eq, hstate]; rfl
  refine ⟨hactive, by simp [hstate], ?_⟩
  cases h with
  | handled active he =>
    cases he with
    | rested => exact setUp_startListening l
  | absorbed stopping =>
    rw [hactive] at stopping
    cases stopping

/-- What a request adds to the calls that is not the sign to try again: nothing but the last
stop. -/
structure Quiet (l : Listener) (stops : List AnsweredCall) (l' : Listener) : Prop where
  made : l.socket.Made stops l'.socket
  lastStop_eq : l'.lastStop = l.lastStop ++ stops
  active_iff : l'.phase = .active → l.phase = .active ∧ (l'.state = .active ↔ l.state = .active)

theorem quiet_handled {e : Event} (active : l.phase = .active) (h : Handled l e l')
    (hr : l.retries (.event e) = false) : Quiet l [] l' := by
  have hphase := phase_handled h
  refine ⟨Socket.made_nil ?_, by simp [lastStop, hphase, active], fun _ => ⟨active, ?_⟩⟩
  · cases h with
    | rested stopping => simp [retries, stopping] at hr
    | _ => rfl
  · cases h with
    | rested stopping => simp [retries, stopping] at hr
    | closed closing => simp [closing]
    | timedOut waiting => simp [waiting]
    | accepted hactive => simp [hactive, promote, startAcceptor, note]
    | broken hactive => simp [hactive, recycle, note]
    | ended hactive => simp [hactive, release]
    | halfClosed => rfl

theorem lastStop_of_stopping (hs : l.state = .stoppingAcceptor) : l.lastStop = [] := by
  simp [lastStop, hs]

theorem quiet_advance (hp : m.phase ≠ .active) (h : m.advanceShutdown = .done l') :
    l'.phase ≠ .active ∧ ∃ stops, m.socket.Made stops l'.socket ∧
      l'.lastStop = m.lastStop ++ stops := by
  refine advanceShutdown_induction (P := fun x => x.phase ≠ .active ∧
    ∃ stops, m.socket.Made stops x.socket ∧ x.lastStop = m.lastStop ++ stops) ?_ h
    ⟨hp, [], Socket.made_nil rfl, by simp⟩
  rintro x x' hpassed ⟨hphase, stops, hmade, hstops⟩
  cases hpassed with
  | acceptor state =>
    rw [lastStop_of_stopping state] at hstops
    have hnil : m.lastStop = [] ∧ stops = [] := by simpa using hstops.symm
    refine ⟨hphase, [⟨.stop, false⟩], ?_, by rw [hnil.1]; simp [lastStop, hphase]⟩
    have hstop := hmade.stop
    rwa [hnil.2] at hstop
  | socket state => exact ⟨hphase, stops, hmade, by rw [← hstops]; simp [lastStop, hphase, state]⟩
  | connections state =>
    exact ⟨by simp, stops, hmade, by rw [← hstops]; simp [lastStop, hphase, state]⟩

theorem quiet_stepped {a : Action} (h : Stepped l a l') (hr : l.retries a = false) :
    ∃ stops, Quiet l stops l' := by
  cases h with
  | handled active he => exact ⟨[], quiet_handled active he hr⟩
  | @absorbed e m _ stopping ha advanced =>
    have hkept : m.phase = l.phase ∧ m.socket = l.socket ∧ m.lastStop = l.lastStop := by
      cases ha <;> exact ⟨rfl, rfl, rfl⟩
    obtain ⟨hphase, hsocket, hlast⟩ := hkept
    obtain ⟨hl', stops, hmade, hstops⟩ := quiet_advance (by simp [hphase, stopping]) advanced
    rw [hsocket] at hmade
    rw [hlast] at hstops
    exact ⟨stops, hmade, hstops, fun hactive => absurd hactive hl'⟩
  | stopBegun active advanced =>
    obtain ⟨hl', stops, hmade, hstops⟩ := quiet_advance (by simp [beginStop]) advanced
    refine ⟨stops, hmade, ?_, fun hactive => absurd hactive hl'⟩
    rw [hstops, lastStop_of_stopping rfl]
    simp [lastStop, active]
  | stopIgnored inactive =>
    exact ⟨[], Socket.made_nil rfl, by simp, fun hactive => absurd hactive inactive⟩
  | completed c =>
    refine ⟨[], Socket.made_nil ?_, ?_, ?_⟩
    · cases c <;> rfl
    · rw [List.append_nil]
      cases c <;> rfl
    · intro hactive
      cases c <;> exact ⟨hactive, Iff.rfl⟩
  | injected point kind =>
    exact ⟨[], Socket.made_nil (by simp), by simp [lastStop], fun hactive => ⟨hactive, Iff.rfl⟩⟩

end Step

/-- The attempts that a listener has made, and the calls that they have left on its socket. -/
structure Tried (attempts : List Attempt) (calls : List AnsweredCall) (l : Listener) : Prop where
  coherent : Coherent l
  calls_eq : calls = attempts.flatMap l.attemptCalls ++ l.lastStop
  failed : ∀ attempt ∈ attempts.dropLast, attempt ≠ .listening
  listening : l.phase = .active → (.listening ∈ attempts ↔ l.state = .active)

section Tried

variable {attempts : List Attempt} {calls : List AnsweredCall} {l l' : Listener}

/-- A listener that has not listened yet makes one more attempt. -/
theorem exists_tried (silent : Silent l) (hs : SetUp l l')
    (hcalls : calls = attempts.flatMap l.attemptCalls) (hnone : .listening ∉ attempts) :
    ∃ attempt, Tried (attempts ++ [attempt]) (calls ++ l.socket.callsUntil l'.socket) l' := by
  obtain ⟨attempt, hmade, houtcome⟩ := exists_attempt hs
  have hactive : l'.phase = .active := by rw [phase_setUp hs, silent.phase_eq]
  refine ⟨attempt, coherent_setUp silent hs, ?_, ?_, fun _ => ?_⟩
  · rw [hcalls, hmade.callsUntil_eq, (sameSetup_setUp hs).attemptCalls_eq]
    simp [lastStop, hactive]
  · rw [List.dropLast_concat]
    rintro other hother rfl
    exact hnone hother
  · rw [← houtcome]
    simp [hnone, eq_comm]

theorem Tried.retried (h : Tried attempts calls l) (hphase : l.phase = .active)
    (hstate : l.state ≠ .active) (hs : SetUp l l') :
    ∃ attempt, Tried (attempts ++ [attempt]) (calls ++ l.socket.callsUntil l'.socket) l' := by
  refine exists_tried (h.coherent.silent hphase hstate) hs ?_ fun hm =>
    hstate ((h.listening hphase).1 hm)
  rw [h.calls_eq, lastStop, if_pos (.inl hphase), List.append_nil]

theorem Tried.quiet {stops : List AnsweredCall} (h : Tried attempts calls l) (hc : Coherent l')
    (hsetup : SameSetup l l') (hq : Quiet l stops l') :
    Tried attempts (calls ++ l.socket.callsUntil l'.socket) l' where
  coherent := hc
  calls_eq := by
    rw [h.calls_eq, hq.made.callsUntil_eq, hq.lastStop_eq, hsetup.attemptCalls_eq,
      List.append_assoc]
  failed := h.failed
  listening := fun hactive =>
    have hiff := hq.active_iff hactive
    (h.listening hiff.1).trans hiff.2.symm

end Tried

namespace History

/-- The calls on the socket, in their order. -/
def calls (h : History) : List AnsweredCall :=
  h.flatMap fun t => t.before.socket.callsUntil t.after.socket

/-- How often the sign was given to try again. -/
def retried (h : History) : Nat := h.countP fun t => t.before.retries t.action

theorem calls_snoc (h : History) (t : Transition Listener Action) :
    calls (h ++ [t]) = h.calls ++ t.before.socket.callsUntil t.after.socket := by
  simp [calls]

theorem retried_snoc (h : History) (t : Transition Listener Action) :
    retried (h ++ [t]) = h.retried + (t.before.retries t.action).toNat := by
  cases ht : t.before.retries t.action <;> simp [retried, ht]

end History

/-- A call that belongs to an attempt is made only at the sign to try again. -/
def OnlyRetries (h : History) : Prop :=
  ∀ t ∈ h, (∃ made ∈ t.before.socket.callsUntil t.after.socket, made.call ≠ .stop) →
    t.before.retries t.action

theorem OnlyRetries.snoc {h : History} (only : OnlyRetries h) {t : Transition Listener Action}
    (ht : (∃ made ∈ t.before.socket.callsUntil t.after.socket, made.call ≠ .stop) →
      t.before.retries t.action) : OnlyRetries (h ++ [t]) := by
  intro t' ht'
  rcases List.mem_append.1 ht' with hold | hnew
  · exact only t' hold
  · obtain rfl := List.mem_singleton.1 hnew
    exact ht

/-- The calls on the socket of a listener that was created with the calls `first`, after the
history `h`. -/
structure FromScratch (addr : SocketAddr) (backlog : UInt32) (first : List AnsweredCall)
    (h : History) (l : Listener) : Prop where
  recorded : l.socket.calls = (first ++ h.calls).map (·.call)
  attempts : ∃ (attempts : List Attempt) (stops : List AnsweredCall),
    first ++ h.calls = attempts.flatMap (Attempt.calls addr backlog) ++ stops ∧
      (∀ attempt ∈ attempts.dropLast, attempt ≠ .listening) ∧
      (stops = [] ∨ stops = [⟨.stop, false⟩]) ∧ (l.phase = .active → stops = []) ∧
      attempts.length = 1 + h.retried
  only_retries : OnlyRetries h

/-- What carries `FromScratch` through a run. -/
structure Trying (calls : Attempt → List AnsweredCall) (first : List AnsweredCall) (h : History)
    (l : Listener) : Prop where
  recorded : l.socket.calls = (first ++ h.calls).map (·.call)
  setup_eq : l.attemptCalls = calls
  tried : ∃ attempts, Tried attempts (first ++ h.calls) l ∧ attempts.length = 1 + h.retried
  only_retries : OnlyRetries h

section Trying

variable {calls : Attempt → List AnsweredCall} {first : List AnsweredCall} {h : History}
  {l l' : Listener}

theorem Quiet.call_eq {stops : List AnsweredCall} (hq : Quiet l stops l') :
    ∀ made ∈ stops, made.call = .stop := by
  intro made hmade
  have hlast : made ∈ l'.lastStop := by
    rw [hq.lastStop_eq]
    exact List.mem_append_right _ hmade
  unfold lastStop at hlast
  split at hlast
  case isTrue => cases hlast
  case isFalse =>
    obtain rfl := List.mem_singleton.1 hlast
    rfl

theorem trying_stepped (ht : Trying calls first h l) {a : Action} (hs : Stepped l a l')
    (hc : Coherent l') : Trying calls first (h ++ [⟨l, a, l'⟩]) l' := by
  obtain ⟨attempts, htried, hlength⟩ := ht.tried
  have hsetup := sameSetup_stepped hs
  have hcalls : first ++ History.calls (h ++ [⟨l, a, l'⟩]) =
      first ++ h.calls ++ l.socket.callsUntil l'.socket := by
    rw [History.calls_snoc, List.append_assoc]
  have hrecorded {answered} (hmade : l.socket.Made answered l'.socket) :
      l'.socket.calls = (first ++ h.calls ++ l.socket.callsUntil l'.socket).map (·.call) := by
    rw [hmade.callsUntil_eq, List.map_append, ← ht.recorded, hmade.calls_eq]
  cases hr : l.retries a with
  | true =>
    obtain ⟨hphase, hstate, hup⟩ := setUp_stepped htried.coherent hs hr
    obtain ⟨attempt, hnext⟩ := htried.retried hphase hstate hup
    obtain ⟨_, hmade, -⟩ := exists_attempt hup
    refine ⟨?_, hsetup.attemptCalls_eq.trans ht.setup_eq, ⟨attempts ++ [attempt], ?_, ?_⟩,
      ht.only_retries.snoc fun _ => hr⟩
    · rw [hcalls]
      exact hrecorded hmade
    · rw [hcalls]
      exact hnext
    · rw [History.retried_snoc, List.length_append, hlength]
      simp [hr, Nat.add_assoc]
  | false =>
    obtain ⟨stops, hq⟩ := quiet_stepped hs hr
    refine ⟨?_, hsetup.attemptCalls_eq.trans ht.setup_eq, ⟨attempts, ?_, ?_⟩,
      ht.only_retries.snoc ?_⟩
    · rw [hcalls]
      exact hrecorded hq.made
    · rw [hcalls]
      exact htried.quiet hc hsetup hq
    · rw [History.retried_snoc, hlength]
      simp [hr]
    · rintro ⟨made, hmade, hne⟩
      rw [hq.made.callsUntil_eq] at hmade
      exact absurd (hq.call_eq made hmade) hne

theorem Trying.fromScratch {addr : SocketAddr} {backlog : UInt32}
    (ht : Trying (Attempt.calls addr backlog) first h l) :
    FromScratch addr backlog first h l := by
  obtain ⟨attempts, htried, hlength⟩ := ht.tried
  refine ⟨ht.recorded, ⟨attempts, l.lastStop, ?_, htried.failed, ?_, ?_, hlength⟩,
    ht.only_retries⟩
  · rw [htried.calls_eq, ht.setup_eq]
  · unfold lastStop
    split <;> simp
  · intro hactive
    simp [lastStop, hactive]

end Trying

theorem trying_created {address : String} {options : Options} {parts : Parts}
    {bind : BindAddress} {l : Listener} (unused : Parts.Unused parts)
    (parsed : BindAddress.parse address options.ipv4Only = .ok bind)
    (created : create address options parts = .ok (.done l)) :
    Trying (Attempt.calls (bind.socketAddr options.ipv4Only) options.backlog)
      (parts.socket.callsUntil l.socket) [] l := by
  obtain ⟨bind', hbind, hs⟩ := exists_setUp_begun created
  obtain rfl : bind' = bind := Except.ok.inj (hbind.symm.trans parsed)
  have hnil : ([] : List AnsweredCall) = ([] : List Attempt).flatMap
      (begun address bind' options parts).attemptCalls := rfl
  obtain ⟨attempt, htried⟩ := exists_tried (silent_begun unused) hs hnil (by simp)
  obtain ⟨_, hmade, -⟩ := exists_attempt hs
  change parts.socket.Made _ l.socket at hmade
  change Tried [attempt] (parts.socket.callsUntil l.socket) l at htried
  refine ⟨?_, (sameSetup_setUp hs).attemptCalls_eq, ⟨[attempt], ?_, rfl⟩, ?_⟩
  · simp [History.calls, hmade.callsUntil_eq, hmade.calls_eq, unused.calls]
  · simpa [History.calls] using htried
  · intro t ht
    cases ht

theorem retries_from_scratch {address : String} {options : Options} {parts : Parts}
    {bind : BindAddress} {l₀ l : Listener} {actions : List Action} (unused : Parts.Unused parts)
    (parsed : BindAddress.parse address options.ipv4Only = .ok bind)
    (created : create address options parts = .ok (.done l₀)) (hrun : l₀.run actions = .done l) :
    FromScratch (bind.socketAddr options.ipv4Only) options.backlog
      (parts.socket.callsUntil l₀.socket) (l₀.history actions) l := by
  refine Trying.fromScratch (Outcome.history_induction
    (P := Trying _ (parts.socket.callsUntil l₀.socket))
    (trying_created unused parsed created) ?_ hrun)
  intro h m a m' htrying hstep
  obtain ⟨attempts, htried, -⟩ := htrying.tried
  exact trying_stepped htrying (stepped_of_step hstep) (coherent_step htried.coherent hstep)

/-- A socket that cannot be opened at first and cannot be bound then, listens at the third attempt
and is stopped in the end. -/
theorem retries_from_scratch_third_attempt :
    ∃ l₀ l, create "*:5555" {} { socket := { startFault := some .permissionDenied } } =
        .ok (.done l₀) ∧
      l₀.run
        [.event (.retry .timeout), .inject .bind .addrInUse, .event (.retry .stopped),
          .event (.socket .stopped), .event (.retry .timeout), .event (.retry .stopped),
          .completeStop .timer, .stop, .completeStop (.acceptor 0),
          .event (.connection 0 .stopped)] = .done l ∧
      l.state = .stoppingSocket ∧
      FromScratch (BindAddress.socketAddr ⟨.any, 5555⟩ true) 100
        (Socket.callsUntil { startFault := some .permissionDenied } l₀.socket)
        (l₀.history
          [.event (.retry .timeout), .inject .bind .addrInUse, .event (.retry .stopped),
            .event (.socket .stopped), .event (.retry .timeout), .event (.retry .stopped),
            .completeStop .timer, .stop, .completeStop (.acceptor 0),
            .event (.connection 0 .stopped)]) l := by
  have created : create "*:5555" {} { socket := { startFault := some .permissionDenied } } =
    .ok (.done _) := rfl
  have parsed : BindAddress.parse "*:5555" true = .ok ⟨.any, 5555⟩ := rfl
  exact ⟨_, _, created, rfl, rfl, retries_from_scratch ⟨rfl, rfl, rfl, rfl⟩ parsed created rfl⟩

end EndpointLifecycle.Listener
