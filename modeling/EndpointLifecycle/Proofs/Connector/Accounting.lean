import EndpointLifecycle.Proofs.Calls
import EndpointLifecycle.Proofs.Connector.Reachable
import Mathlib.Algebra.Group.Nat.Defs

/-!
# The statistics of a connector add up

Every connect that a connector calls for ends in one way: it fails, it is established, it is still
in progress, or the stop has cut it off. Every connection that is established breaks, is dropped by
the stop, or is still there. The counters are kept by hand in many places, and agree with this in
every state.
-/

namespace EndpointLifecycle

def SocketCall.isConnect : SocketCall → Bool
  | connect _ => true
  | _ => false

/-- How often the socket was asked to connect, whatever came of it. -/
def Socket.connectCalls (s : Socket) : Nat := s.calls.countP SocketCall.isConnect

theorem Socket.connectCalls_append {s s' : Socket} {calls : List SocketCall}
    (h : s'.calls = s.calls ++ calls) :
    s'.connectCalls = s.connectCalls + calls.countP SocketCall.isConnect := by
  rw [connectCalls, h, List.countP_append]
  rfl

theorem Socket.connectCalls_stop (s : Socket) : s.stop.connectCalls = s.connectCalls := by
  have hcalls : s.stop.calls = s.calls ++ [.stop] := rfl
  exact connectCalls_append hcalls

namespace Connector

/-- Whether the connector, at work in the state, is asked to stop. -/
def stopsIn (x : State) (t : Transition Connector Action) : Bool :=
  t.action = .stop ∧ t.before.phase = .active ∧ t.before.state = x

def History.stoppedIn (h : History) (x : State) : Bool := h.any (stopsIn x)

theorem History.stoppedIn_snoc (h : History) (t : Transition Connector Action) (x : State) :
    stoppedIn (h ++ [t]) x = (h.stoppedIn x || stopsIn x t) := by
  simp [stoppedIn]

/-- What the counters show when `broken` connections broke, `failed` connects failed and the stop
dropped a connection or not. A connector neither accepts connections nor fails for an address. -/
def tally (c : Connector) (broken failed : Nat) (dropped : Bool) : Statistic → Int64
  | .inProgressConnections => if c.state = .connecting then 1 else 0
  | .establishedConnections => .ofNat c.session.starts
  | .brokenConnections => .ofNat broken
  | .droppedConnections => .ofNat dropped.toNat
  | .connectErrors => .ofNat failed
  | .acceptedConnections | .bindErrors => 0

/-- The accounts of a connector. The stop dropped a connection or cut off a connect if it was
accepted in such a state. -/
structure Accounts (broken failed : Nat) (dropped cutOff : Bool) (c : Connector) : Prop where
  counted : ∀ stat, c.stats.get stat = c.tally broken failed dropped stat
  starts_eq : c.session.starts = broken + dropped.toNat + if c.state = .active then 1 else 0
  connects_eq : c.socket.connectCalls =
    failed + c.session.starts + (if c.state = .connecting then 1 else 0) + cutOff.toNat
  unstopped : c.phase = .active → dropped = false ∧ cutOff = false

section Accounts

variable {broken failed : Nat} {dropped cutOff : Bool} {c c' : Connector}

/-- Nothing that the accounts record has changed. -/
theorem Accounts.congr (h : Accounts broken failed dropped cutOff c)
    (hstats : ∀ stat, c'.stats.get stat = c.stats.get stat)
    (hstarts : c'.session.starts = c.session.starts)
    (hcalls : c'.socket.connectCalls = c.socket.connectCalls)
    (hconnecting : c'.state = .connecting ↔ c.state = .connecting)
    (hactive : c'.state = .active ↔ c.state = .active)
    (hphase : c'.phase = .active → c.phase = .active) :
    Accounts broken failed dropped cutOff c' where
  counted := by
    intro stat
    rw [hstats, h.counted]
    cases stat <;> simp [tally, hstarts, hconnecting]
  starts_eq := by simp only [hstarts, hactive, h.starts_eq]
  connects_eq := by simp only [hcalls, hstarts, hconnecting, h.connects_eq]
  unstopped := fun hp => h.unstopped (hphase hp)

theorem Accounts.bindFailed (h : Accounts broken failed dropped cutOff c)
    (hconnecting : c.state ≠ .connecting) (hactive : c.state ≠ .active) {localAddr : SocketAddr}
    {socket : Socket} {error : IoError} (bound : c.socket.bind localAddr = (socket, some error)) :
    Accounts broken failed dropped cutOff
      (giveUp { c.note (.bindFailed localAddr error) with socket } error.kind) := by
  refine h.congr (by simp [giveUp, note]) rfl ?_ ?_ ?_ id
  · exact (Socket.connectCalls_stop _).trans
      (Socket.connectCalls_append (Socket.refused_bind bound).calls_eq)
  · simp [giveUp, hconnecting]
  · simp [giveUp, hactive]

theorem Accounts.dialled (h : Accounts broken failed dropped cutOff c)
    (hconnecting : c.state ≠ .connecting) (hactive : c.state ≠ .active)
    {localAddr remote : SocketAddr} (hd : Dialled c localAddr remote c') :
    ∃ failed', Accounts broken failed' dropped cutOff c' := by
  have hconnects := h.connects_eq
  rw [if_neg hconnecting] at hconnects
  cases hd with
  | bindFailed bound => exact ⟨failed, h.bindFailed hconnecting hactive bound⟩
  | @refused named socket error bound connected =>
    have hcalls : socket.connectCalls = c.socket.connectCalls + 1 :=
      (Socket.connectCalls_append (Socket.refused_connect connected).calls_eq).trans
        (congrArg (· + 1) (Socket.connectCalls_append (Socket.taken_bind bound).calls_eq))
    exact ⟨failed + 1,
      { counted := by
          intro stat
          cases stat <;> simp [giveUp, note, Statistics.get_record_of_ne, h.counted, tally,
            hconnecting, Int64.ofNat_add]
        starts_eq := by simpa [giveUp, note, hactive] using h.starts_eq
        connects_eq := by
          have hstop := Socket.connectCalls_stop socket
          simp [giveUp, note]
          omega
        unstopped := h.unstopped }⟩
  | @connecting named socket bound connected =>
    have hcalls : socket.connectCalls = c.socket.connectCalls + 1 :=
      (Socket.connectCalls_append (Socket.taken_connect connected).calls_eq).trans
        (congrArg (· + 1) (Socket.connectCalls_append (Socket.taken_bind bound).calls_eq))
    exact ⟨failed,
      { counted := by
          intro stat
          cases stat <;> simp [note, Statistics.get_record_of_ne, h.counted, tally, hconnecting]
        starts_eq := by simpa [note, hactive] using h.starts_eq
        connects_eq := by
          simp [note]
          omega
        unstopped := h.unstopped }⟩

theorem Accounts.attempted (h : Accounts broken failed dropped cutOff c)
    (hconnecting : c.state ≠ .connecting) (hactive : c.state ≠ .active) {ip : IpAddr}
    (ha : Attempted c ip c') : ∃ failed', Accounts broken failed' dropped cutOff c' := by
  cases ha with
  | openFailed opened =>
    refine ⟨failed, h.congr (by simp [waitBeforeRetry, note]) rfl ?_ ?_ ?_ id⟩
    · exact Socket.connectCalls_append (Socket.refused_start opened).calls_eq
    · simp [waitBeforeRetry, note, hconnecting]
    · simp [waitBeforeRetry, note, hactive]
  | opened opened dialled =>
    obtain ⟨log, dialled⟩ := exists_dialled_of_sizeBuffers dialled
    have hcalls := (Socket.taken_start opened).calls_eq
    refine (h.congr ?_ ?_ ?_ ?_ ?_ ?_).dialled ?_ ?_ dialled
    · exact fun _ => rfl
    · rfl
    · simp [Socket.connectCalls, Socket.called, hcalls, SocketCall.isConnect]
    · rfl
    · rfl
    · exact id
    · exact hconnecting
    · exact hactive

theorem Accounts.connected (h : Accounts broken failed dropped cutOff c)
    (connecting : c.state = .connecting) : Accounts broken failed dropped cutOff c.onConnected where
  counted := by
    intro stat
    cases stat <;> simp [onConnected, note, Activity.start, Statistics.get_record_of_ne, h.counted,
      tally, connecting, Int64.ofNat_add]
  starts_eq := by simp [onConnected, note, Activity.start, h.starts_eq, connecting]
  connects_eq := by
    have hconnects := h.connects_eq
    simp [onConnected, note, Activity.start, connecting] at hconnects ⊢
    omega
  unstopped := h.unstopped

theorem Accounts.connectFailed (h : Accounts broken failed dropped cutOff c)
    (connecting : c.state = .connecting) :
    Accounts broken (failed + 1) dropped cutOff c.onConnectError where
  counted := by
    intro stat
    cases stat <;> simp [onConnectError, giveUp, note, Statistics.get_record_of_ne, h.counted,
      tally, connecting, Int64.ofNat_add]
  starts_eq := by simp [onConnectError, giveUp, note, h.starts_eq, connecting]
  connects_eq := by
    have hconnects := h.connects_eq
    have hstop := Socket.connectCalls_stop c.socket
    simp [onConnectError, giveUp, note, connecting] at hconnects ⊢
    omega
  unstopped := h.unstopped

theorem Accounts.broke (h : Accounts broken failed dropped cutOff c) (active : c.state = .active) :
    Accounts (broken + 1) failed dropped cutOff c.onBroken where
  counted := by
    intro stat
    cases stat <;> simp [onBroken, note, Statistics.get_record_of_ne, h.counted, tally, active,
      Int64.ofNat_add]
  starts_eq := by
    have hstarts := h.starts_eq
    simp [onBroken, note, active] at hstarts ⊢
    omega
  connects_eq := by simp [onBroken, note, h.connects_eq, active]
  unstopped := h.unstopped

theorem accounts_handled {e : Event} (h : Accounts broken failed dropped cutOff c)
    (he : Handled c e c') :
    ∃ broken' failed', Accounts broken' failed' dropped cutOff c' := by
  cases he with
  | done result resolving =>
    exact ⟨_, _, h.congr (fun _ => rfl) rfl rfl (by simp [resolving]) (by simp [resolving]) id⟩
  | @found ip stopping =>
    have hresult : Accounts broken failed dropped cutOff { c with resolved := none } :=
      h.congr (fun _ => rfl) rfl rfl Iff.rfl Iff.rfl id
    obtain ⟨failed', h'⟩ := hresult.attempted (by simp [stopping]) (by simp [stopping])
      (attempted_startConnecting _ ip)
    exact ⟨_, _, h'⟩
  | unfound stopping =>
    refine ⟨_, _, h.congr (fun _ => rfl) rfl rfl ?_ ?_ id⟩ <;>
      simp [waitBeforeRetry, note, stopping]
  | connected connecting => exact ⟨_, _, h.connected connecting⟩
  | connectFailed connecting => exact ⟨_, _, h.connectFailed connecting⟩
  | broken active => exact ⟨_, _, h.broke active⟩
  | halfClosed => exact ⟨_, _, h⟩
  | ended stopping =>
    exact ⟨_, _, h.congr (fun _ => rfl) rfl (Socket.connectCalls_stop _) (by simp [stopping])
      (by simp [stopping]) id⟩
  | closed stopping =>
    refine ⟨_, _, h.congr (fun _ => rfl) rfl rfl ?_ ?_ id⟩ <;>
      simp [waitBeforeRetry, note, stopping]
  | timedOut waiting =>
    exact ⟨_, _, h.congr (fun _ => rfl) rfl rfl (by simp [waiting]) (by simp [waiting]) id⟩
  | rested stopping =>
    refine ⟨_, _, h.congr (fun _ => rfl) rfl rfl ?_ ?_ id⟩ <;> simp [startResolving, stopping]

theorem starts_beginStop (c : Connector) : c.beginStop.session.starts = c.session.starts := by
  change (if c.session.isIdle then c.session else c.session.stop).starts = _
  split <;> simp

theorem Accounts.beginStop (h : Accounts broken failed dropped cutOff c)
    (hphase : c.phase = .active) :
    Accounts broken failed (c.state = .active) (c.state = .connecting) c.beginStop := by
  obtain ⟨rfl, rfl⟩ := h.unstopped hphase
  have hstate : c.beginStop.state = .stoppingSessionFinal := rfl
  exact
    { counted := by
        intro stat
        change (statsAtStop c.stats c.state).get stat = _
        unfold statsAtStop
        split
        case h_1 hs | h_2 hs =>
          cases stat <;> simp [Statistics.get_record_of_ne, h.counted, tally, starts_beginStop,
            hstate, hs]
        case h_3 ha hc =>
          have hactive : c.state ≠ .active := ha
          have hconnecting : c.state ≠ .connecting := hc
          cases stat <;> simp [h.counted, tally, starts_beginStop, hstate, hactive, hconnecting]
      starts_eq := by
        have hc := h.starts_eq
        rw [starts_beginStop]
        by_cases hs : c.state = .active <;> simpa [hstate, hs] using hc
      connects_eq := by
        have hc := h.connects_eq
        rw [starts_beginStop]
        by_cases hs : c.state = .connecting <;> simpa [Connector.beginStop, note, hs] using hc
      unstopped := fun hp => by simp [Connector.beginStop] at hp }

theorem Accounts.passed (h : Accounts broken failed dropped cutOff c) (hp : Passed c c') :
    Accounts broken failed dropped cutOff c' := by
  cases hp with
  | session state =>
    exact h.congr (fun _ => rfl) rfl (Socket.connectCalls_stop _) (by simp [state])
      (by simp [state]) id
  | others state =>
    exact h.congr (by simp) rfl rfl (by simp [state]) (by simp [state]) (by simp)

theorem Accounts.advanceShutdown (h : Accounts broken failed dropped cutOff c) :
    Accounts broken failed dropped cutOff c.advanceShutdown :=
  advanceShutdown_induction (fun _ _ hp h => h.passed hp) h

/-- Where no stop is accepted. -/
theorem accounts_stepped {a : Action} (h : Accounts broken failed dropped cutOff c)
    (hs : Stepped c a c') (ha : ¬(a = .stop ∧ c.phase = .active)) :
    ∃ broken' failed', Accounts broken' failed' dropped cutOff c' := by
  cases hs with
  | handled active he => exact accounts_handled h he
  | absorbed e =>
    have hn : Accounts broken failed dropped cutOff (c.note (.whileStopping e)) :=
      h.congr (fun _ => rfl) rfl rfl Iff.rfl Iff.rfl id
    exact ⟨_, _, hn.advanceShutdown⟩
  | stopBegun active => exact absurd ⟨rfl, active⟩ ha
  | stopIgnored => exact ⟨_, _, h⟩
  | completed x =>
    have hstarts : (c.completeStop x).session.starts = c.session.starts := by
      cases x <;> simp [completeStop]
    cases x <;> exact ⟨_, _, h.congr (fun _ => rfl) hstarts rfl Iff.rfl Iff.rfl id⟩
  | injected point kind =>
    exact ⟨_, _, h.congr (fun _ => rfl) rfl (by simp [Socket.connectCalls]) Iff.rfl Iff.rfl id⟩

end Accounts

/-- The accounts of a connector after the history `h`. -/
def Accounted (h : History) (c : Connector) : Prop :=
  ∃ broken failed, Accounts broken failed (h.stoppedIn .active) (h.stoppedIn .connecting) c

theorem accounted_stepped {h : History} {c c' : Connector} {a : Action} (hacc : Accounted h c)
    (hs : Stepped c a c') : Accounted (h ++ [⟨c, a, c'⟩]) c' := by
  obtain ⟨broken, failed, hacc⟩ := hacc
  -- The stop that is accepted settles what it dropped or cut off; no other request changes that.
  by_cases ha : a = .stop ∧ c.phase = .active
  · obtain ⟨rfl, hphase⟩ := ha
    obtain ⟨hdropped, hcutOff⟩ := hacc.unstopped hphase
    cases hs with
    | stopBegun =>
      refine ⟨broken, failed, ?_⟩
      simpa [History.stoppedIn_snoc, stopsIn, hdropped, hcutOff, hphase] using
        (hacc.beginStop hphase).advanceShutdown
    | stopIgnored inactive => exact absurd hphase inactive
  · obtain ⟨broken', failed', hacc'⟩ := accounts_stepped hacc hs ha
    have hstopped (x : State) : History.stoppedIn (h ++ [⟨c, a, c'⟩]) x = h.stoppedIn x := by
      have hnot : stopsIn x ⟨c, a, c'⟩ = false :=
        decide_eq_false fun hstop => ha ⟨hstop.1, hstop.2.1⟩
      rw [History.stoppedIn_snoc, hnot, Bool.or_false]
    exact ⟨broken', failed', by rwa [hstopped, hstopped]⟩

/-- What the statistics of a connector tell of it after the history `h`. -/
structure Conserved (h : History) (c : Connector) : Prop where
  inProgress_eq :
    (c.stats.get .inProgressConnections).toInt = if c.state = .connecting then 1 else 0
  established_eq : (c.stats.get .establishedConnections).toInt =
    (c.stats.get .brokenConnections).toInt + (c.stats.get .droppedConnections).toInt +
      if c.state = .active then 1 else 0
  starts_eq : (c.stats.get .establishedConnections).toInt = c.session.starts
  connects_eq : (c.socket.connectCalls : Int) =
    (c.stats.get .connectErrors).toInt + (c.stats.get .establishedConnections).toInt +
      (c.stats.get .inProgressConnections).toInt + (h.stoppedIn .connecting).toNat
  dropped_eq : (c.stats.get .droppedConnections).toInt = (h.stoppedIn .active).toNat

theorem Accounts.conserved {h : History} {c : Connector} {broken failed : Nat}
    (hacc : Accounts broken failed (h.stoppedIn .active) (h.stoppedIn .connecting) c)
    (hfew : c.socket.connectCalls < 2 ^ 63) : Conserved h c := by
  have hstarts := hacc.starts_eq
  have hconnects := hacc.connects_eq
  have hestablished : (c.stats.get .establishedConnections).toInt = c.session.starts := by
    rw [hacc.counted]
    exact Int64.toInt_ofNat_of_lt (by omega)
  have hbroken : (c.stats.get .brokenConnections).toInt = broken := by
    rw [hacc.counted]
    exact Int64.toInt_ofNat_of_lt (by omega)
  have hdropped : (c.stats.get .droppedConnections).toInt = (h.stoppedIn .active).toNat := by
    rw [hacc.counted]
    exact Int64.toInt_ofNat_of_lt (by omega)
  have hfailed : (c.stats.get .connectErrors).toInt = failed := by
    rw [hacc.counted]
    exact Int64.toInt_ofNat_of_lt (by omega)
  have hinProgress :
      (c.stats.get .inProgressConnections).toInt = if c.state = .connecting then 1 else 0 := by
    rw [hacc.counted, tally]
    split <;> rfl
  exact
    { inProgress_eq := hinProgress
      established_eq := by
        rw [hestablished, hbroken, hdropped, hstarts]
        split <;> simp
      starts_eq := hestablished
      connects_eq := by
        rw [hfailed, hestablished, hinProgress, hconnects]
        split <;> simp
      dropped_eq := hdropped }

theorem accounted_created {address : String} {options : Options} {parts : Parts} {c : Connector}
    (unused : Parts.Unused parts) (counted : parts.stats = {})
    (created : create address options parts = .ok (.done c)) : Accounted [] c := by
  obtain ⟨target, -, rfl⟩ := exists_begun_of_create created
  have hstats : (begun address target options parts).stats = {} := counted
  have hstarts : (begun address target options parts).session.starts = 0 :=
    congrArg Activity.starts unused.session
  have hstate : (begun address target options parts).state = .resolving := rfl
  have hcalls : (begun address target options parts).socket.connectCalls = 0 :=
    congrArg (List.countP SocketCall.isConnect) unused.calls
  refine ⟨0, 0, ?_, ?_, ?_, fun _ => ⟨rfl, rfl⟩⟩
  · intro stat
    cases stat <;> simp [hstats, Statistics.get, tally, hstarts, hstate, History.stoppedIn]
  · simp [hstarts, hstate, History.stoppedIn]
  · simp [hcalls, hstarts, hstate, History.stoppedIn]

theorem statistics_conserved {address : String} {options : Options} {parts : Parts}
    {c₀ c : Connector} {actions : List Action} (unused : Parts.Unused parts)
    (counted : parts.stats = {}) (created : create address options parts = .ok (.done c₀))
    (hrun : c₀.run actions = .done c) (hfew : c.socket.connectCalls < 2 ^ 63) :
    Conserved (c₀.history actions) c := by
  have haccounted : Accounted (c₀.history actions) c :=
    Outcome.history_induction (accounted_created unused counted created)
      (fun _ _ _ _ hacc hstep => accounted_stepped hacc (stepped_of_step hstep)) hrun
  obtain ⟨broken, failed, hacc⟩ := haccounted
  exact hacc.conserved hfew

/-- A connection breaks, a second connect fails at once, and the stop comes during the third. -/
theorem statistics_conserved_third_connect :
    ∃ c₀ actions c, create "localhost:5555" {} {} = .ok (.done c₀) ∧
      c₀.run actions = .done c ∧ c.socket.connectCalls = 3 ∧ Conserved (c₀.history actions) c := by
  let peer : Resolution := .found (.v4 ⟨127, 0, 0, 1⟩)
  have created : create "localhost:5555" {} {} = .ok (.done _) := rfl
  exact ⟨_,
    [.event (.resolver (.done peer)), .event (.resolver .stopped), .event (.socket .connected),
      .event (.session .error), .event (.session .stopped), .event (.socket .stopped),
      .event (.retry .timeout), .event (.retry .stopped), .inject .connect .connectionRefused,
      .event (.resolver (.done peer)), .event (.resolver .stopped), .event (.socket .stopped),
      .event (.retry .timeout), .event (.retry .stopped), .event (.resolver (.done peer)),
      .event (.resolver .stopped), .stop],
    _, created, rfl, by decide +kernel,
    statistics_conserved ⟨rfl, rfl, rfl, rfl, rfl⟩ rfl created rfl (by decide +kernel)⟩

end Connector

end EndpointLifecycle
