import EndpointLifecycle.Proofs.Connector.Chronicle
import EndpointLifecycle.Proofs.Connector.Families
import EndpointLifecycle.Proofs.Connector.Idleness
import EndpointLifecycle.Proofs.Connector.Rhythm
import EndpointLifecycle.Proofs.Connector.Timing
import EndpointLifecycle.Proofs.Connector.WindingDown
import EndpointLifecycle.Proofs.Limits
import EndpointLifecycle.Proofs.Listener.Chronicle
import EndpointLifecycle.Proofs.Listener.Families
import EndpointLifecycle.Proofs.Listener.Idleness
import EndpointLifecycle.Proofs.Listener.Rhythm
import EndpointLifecycle.Proofs.Listener.Timing
import EndpointLifecycle.Proofs.Listener.WindingDown

/-!
# What holds of endpoints of either role

An endpoint starts only what is idle, waits ever longer from failure to failure whatever lies
between them, and begins nothing after it was asked to stop. Until then it does not show when the
stops of its collaborators are complete, and its guards against itself never strike. It keeps to
IPv4 if it is told to, keeps within the intervals that it is given if they are not too short, and
counts what it logs. The results for the two roles are put side by side here.
-/

namespace EndpointLifecycle

/-- As long as the end of a stop is reported only of a collaborator that is idle, all that is
started is idle before, and the state of an endpoint at work tells who may be busy. A request that
is refused starts nothing. -/
theorem starts_only_idle :
    (∀ (address : String) (options : Options) (parts : Listener.Parts) (bind : BindAddress)
      (l₀ : Listener) (actions : List Listener.Action), parts.Unused →
      BindAddress.parse address options.ipv4Only = .ok bind →
      Listener.create address options parts = .ok (.done l₀) →
      (l₀.history actions).timely →
        Listener.StartsIdle (.fresh address bind options parts) l₀ ∧
        Listener.StartsInTurn (l₀.history actions) (l₀.run actions).machine ∧
        ∀ a v m, (l₀.run actions).machine.step a = .violation v m →
          (l₀.run actions).machine.BeginsNothing m) ∧
    (∀ (address : String) (options : Options) (parts : Connector.Parts) (target : ConnectAddress)
      (c₀ : Connector) (actions : List Connector.Action), parts.Unused →
      ConnectAddress.parse address options.ipv4Only = .ok target →
      Connector.create address options parts = .ok (.done c₀) →
      (c₀.history actions).timely →
        Connector.StartsIdle (.fresh address target options parts) c₀ ∧
        Connector.StartsInTurn (c₀.history actions) (c₀.run actions).machine ∧
        ∀ a v m, (c₀.run actions).machine.step a = .violation v m →
          (c₀.run actions).machine.BeginsNothing m) := by
  constructor
  · intro address options parts bind l₀ actions unused parsed created timely
    have hturn := Listener.startsInTurn_run unused created actions timely
    exact ⟨Listener.startsIdle_created unused parsed created, hturn,
      fun _ _ _ => Listener.beginsNothing_of_violation hturn.coherent⟩
  · intro address options parts target c₀ actions unused parsed created timely
    exact ⟨Connector.startsIdle_created unused parsed created,
      Connector.startsInTurn_run unused created actions timely,
      fun _ _ _ => Connector.beginsNothing_of_violation⟩

/-- A listener accepts a peer after its second attempt, and a connector waits after its connection
is broken. -/
theorem starts_only_idle_after_failures :
    (∃ l₀ actions l,
      Listener.create "*:5555" {} { socket := { startFault := some .addrInUse } } =
        .ok (.done l₀) ∧
      l₀.run actions = .done l ∧ l.established = [0] ∧
      Listener.StartsInTurn (l₀.history actions) l) ∧
    (∃ c₀ actions c, Connector.create "localhost:5555" {} {} = .ok (.done c₀) ∧
      c₀.run actions = .done c ∧ c.state = .waiting ∧
      Connector.StartsInTurn (c₀.history actions) c) := by
  have listens : Listener.create "*:5555" {} { socket := { startFault := some .addrInUse } } =
    .ok (.done _) := rfl
  have connects : Connector.create "localhost:5555" {} {} = .ok (.done _) := rfl
  exact
    ⟨⟨_, [.event (.retry .timeout), .completeStop .timer, .event (.retry .stopped),
        .event (.connection 0 .accepted)], _, listens, rfl, rfl,
      (starts_only_idle.1 _ _ _ ⟨.any, 5555⟩ _ _ ⟨rfl, rfl, rfl, rfl⟩ rfl listens rfl).2.1⟩,
    ⟨_, [.event (.resolver (.done (.found (.v4 ⟨127, 0, 0, 1⟩)))), .completeStop .resolver,
        .event (.resolver .stopped), .event (.socket .connected), .event (.session .error),
        .completeStop .session, .event (.session .stopped), .completeStop .socket,
        .event (.socket .stopped)], _, connects, rfl, rfl,
      (starts_only_idle.2 _ _ _ ⟨none, "localhost", 5555⟩ _ _ ⟨rfl, rfl, rfl, rfl, rfl⟩ rfl connects
        rfl).2.1⟩⟩

/-- The timer is armed once for each failure that an endpoint waits after, and the intervals double
up to the limit from the first failure of its life to the last. -/
theorem timer_keeps_time :
    (∀ (address : String) (options : Options) (parts : Listener.Parts) (l₀ : Listener)
      (actions : List Listener.Action), parts.Unused →
      Listener.create address options parts = .ok (.done l₀) →
        (l₀.retry.timer.intervals ≠ [] → l₀.state = .waiting) ∧
        Listener.KeepsTime options (parts.socket.failedOpens l₀.socket) (l₀.history actions)
          (l₀.run actions).machine) ∧
    (∀ (address : String) (options : Options) (parts : Connector.Parts) (c₀ : Connector)
      (actions : List Connector.Action), parts.Unused →
      Connector.create address options parts = .ok (.done c₀) →
        Connector.KeepsTime options (c₀.history actions) (c₀.run actions).machine) := by
  constructor
  · intro address options parts l₀ actions unused created
    exact ⟨Listener.state_created_of_armed unused created,
      Listener.keepsTime_run unused created actions⟩
  · intro address options parts c₀ actions unused created
    exact Connector.keepsTime_run unused created actions

/-- A listener waits for the third time, and so does a connector that was connected in between. -/
theorem timer_keeps_time_third_wait :
    (∃ l₀ actions l,
      Listener.create "*:5555" {} { socket := { startFault := some .addrInUse } } =
        .ok (.done l₀) ∧
      l₀.run actions = .done l ∧ l.retry.attempts = 3 ∧
      Listener.KeepsTime {} 1 (l₀.history actions) l) ∧
    (∃ c₀ actions c, Connector.create "localhost:5555" {} {} = .ok (.done c₀) ∧
      c₀.run actions = .done c ∧ c.retry.attempts = 3 ∧
      Connector.KeepsTime {} (c₀.history actions) c) := by
  have listens : Listener.create "*:5555" {} { socket := { startFault := some .addrInUse } } =
    .ok (.done _) := rfl
  have connects : Connector.create "localhost:5555" {} {} = .ok (.done _) := rfl
  let peer : Resolution := .found (.v4 ⟨127, 0, 0, 1⟩)
  exact
    ⟨⟨_, [.event (.retry .timeout), .inject .bind .addrInUse, .event (.retry .stopped),
        .event (.socket .stopped), .event (.retry .timeout), .inject .start .addrInUse,
        .event (.retry .stopped)], _, listens, rfl, rfl,
      (timer_keeps_time.1 _ _ _ _ _ ⟨rfl, rfl, rfl, rfl⟩ listens).2⟩,
    ⟨_, [.event (.resolver (.done (.failed .notFound))), .event (.resolver .stopped),
        .event (.retry .timeout), .event (.retry .stopped), .event (.resolver (.done peer)),
        .event (.resolver .stopped), .event (.socket .connected), .event (.session .error),
        .event (.session .stopped), .event (.socket .stopped), .event (.retry .timeout),
        .event (.retry .stopped), .inject .start .other, .event (.resolver (.done peer)),
        .event (.resolver .stopped)], _, connects, rfl, rfl,
      timer_keeps_time.2 _ _ _ _ _ ⟨rfl, rfl, rfl, rfl, rfl⟩ connects⟩⟩

/-- A stop that is accepted ends all that is under way, and whatever is reported or asked later
begins nothing and is told to no one but that the endpoint has stopped. -/
theorem nothing_begins_after_stop :
    (∀ (address : String) (options : Options) (parts : Listener.Parts) (l₀ l : Listener)
      (actions : List Listener.Action), parts.Unused →
      Listener.create address options parts = .ok (.done l₀) → l₀.run actions = .done l →
      l.phase = .active → ∃ m₀, Listener.Stops parts l m₀) ∧
    (∀ (address : String) (options : Options) (parts : Connector.Parts) (c₀ c : Connector)
      (actions : List Connector.Action), parts.Unused →
      Connector.create address options parts = .ok (.done c₀) → c₀.run actions = .done c →
      c.phase = .active → Connector.Stops parts c) := by
  constructor
  · intro address options parts l₀ l actions unused created hrun active
    exact Listener.exists_stops unused created hrun active
  · intro address options parts c₀ c actions unused created hrun active
    exact Connector.stops_of_run unused created hrun active

/-- The stop finds a listener with a connection, and a connector that waits for its peer. -/
theorem nothing_begins_after_stop_at_work :
    (∃ l₀ l m₀, Listener.create "*:5555" {} {} = .ok (.done l₀) ∧
      l₀.run [.event (.connection 0 .accepted)] = .done l ∧ l.established = [0] ∧
      Listener.Stops {} l m₀) ∧
    (∃ c₀ c, Connector.create "localhost:5555" {} {} = .ok (.done c₀) ∧
      c₀.run [.event (.resolver (.done (.found (.v4 ⟨127, 0, 0, 1⟩)))),
        .event (.resolver .stopped)] = .done c ∧ c.state = .connecting ∧
      Connector.Stops {} c) := by
  have listens : Listener.create "*:5555" {} {} = .ok (.done _) := rfl
  have connects : Connector.create "localhost:5555" {} {} = .ok (.done _) := rfl
  obtain ⟨m₀, stops⟩ := nothing_begins_after_stop.1 _ _ _ _ _
    [.event (.connection 0 .accepted)] ⟨rfl, rfl, rfl, rfl⟩ listens rfl rfl
  have stops' := nothing_begins_after_stop.2 _ _ _ _ _
    [.event (.resolver (.done (.found (.v4 ⟨127, 0, 0, 1⟩)))), .event (.resolver .stopped)]
    ⟨rfl, rfl, rfl, rfl, rfl⟩ connects rfl rfl
  exact ⟨⟨_, _, m₀, listens, rfl, rfl, stops⟩, ⟨_, _, connects, rfl, rfl, stops'⟩⟩

/-- As long as no stop is asked for, an endpoint does not show when the stops of its collaborators
are complete, nor whether they are complete at once. -/
theorem timing_of_stops_hidden :
    (∀ (address : String) (options : Options) (parts parts' : Listener.Parts) (l : Listener),
      parts.untimed = parts'.untimed → Listener.create address options parts = .ok (.done l) →
      ∃ l', Listener.create address options parts' = .ok (.done l') ∧
        ∀ actions actions', .stop ∉ actions → .stop ∉ actions' →
          actions.filter Listener.Action.isVisible = actions'.filter Listener.Action.isVisible →
          Outcome.RunsAlike Listener.step Listener.Action.isVisible Listener.Agrees l l'
            actions actions') ∧
    (∀ (address : String) (options : Options) (parts parts' : Connector.Parts) (c : Connector),
      parts.untimed = parts'.untimed → Connector.create address options parts = .ok (.done c) →
      ∃ c', Connector.create address options parts' = .ok (.done c') ∧
        ∀ actions actions', .stop ∉ actions → .stop ∉ actions' →
          actions.filter Connector.Action.isVisible = actions'.filter Connector.Action.isVisible →
          Outcome.RunsAlike Connector.step Connector.Action.isVisible Connector.Agrees c c'
            actions actions') := by
  constructor
  · intro address options parts parts' l same created
    exact Listener.exists_runsAlike same created
  · intro address options parts parts' c same created
    exact Connector.exists_runsAlike same created

/-- A listener with a socket that is slow to stop and one whose socket stops at once, and two
connectors whose resolvers differ in the same way. -/
theorem timing_of_stops_hidden_slow_or_at_once :
    (∃ l l', Listener.create "*:5555" {} { socket := { bindFault := some .addrInUse } } =
        .ok (.done l) ∧
      Listener.create "*:5555" {}
        { socket := { activity := { stopsAtOnce := true }, bindFault := some .addrInUse } } =
        .ok (.done l') ∧ l.socket.isIdle = false ∧ l'.socket.isIdle = true ∧
      Outcome.RunsAlike Listener.step Listener.Action.isVisible Listener.Agrees l l'
        [.event (.socket .stopped), .completeStop .socket, .event (.retry .timeout),
          .event (.retry .stopped), .event (.connection 0 .error)]
        [.event (.socket .stopped), .event (.retry .timeout), .event (.retry .stopped),
          .completeStop .timer, .event (.connection 0 .error)]) ∧
    (∃ c c', Connector.create "localhost:5555" {} {} = .ok (.done c) ∧
      Connector.create "localhost:5555" {}
        { resolver := { activity := { stopsAtOnce := true } } } = .ok (.done c') ∧
      Outcome.RunsAlike Connector.step Connector.Action.isVisible Connector.Agrees c c'
        [.event (.resolver (.done (.found (.v4 ⟨127, 0, 0, 1⟩)))), .event (.resolver .stopped),
          .completeStop .resolver, .event (.socket .connected)]
        [.event (.resolver (.done (.found (.v4 ⟨127, 0, 0, 1⟩)))), .event (.resolver .stopped),
          .event (.socket .connected)]) := by
  let slow : Listener.Parts := { socket := { bindFault := some .addrInUse } }
  let fast : Listener.Parts :=
    { socket := { activity := { stopsAtOnce := true }, bindFault := some .addrInUse } }
  have listens : Listener.create "*:5555" {} slow = .ok (.done _) := rfl
  have connects : Connector.create "localhost:5555" {} {} = .ok (.done _) := rfl
  obtain ⟨l', listens', hl⟩ := timing_of_stops_hidden.1 _ _ slow fast _ rfl listens
  obtain ⟨c', connects', hc⟩ := timing_of_stops_hidden.2 _ _ {}
    { resolver := { activity := { stopsAtOnce := true } } } _ rfl connects
  have hidle : l'.socket.isIdle = true := by cases listens'; rfl
  exact ⟨⟨_, l', listens, listens', rfl, hidle, hl _ _ (by decide) (by decide) rfl⟩,
    ⟨_, c', connects, connects', hc _ _ (by decide) (by decide) rfl⟩⟩

/-- Whatever happens to an endpoint, its guards against itself never strike. -/
theorem guards_never_strike :
    (∀ (address : String) (options : Options) (parts : Listener.Parts)
      (o : Outcome Listener.Violation Listener), parts.Unused →
      Listener.create address options parts = .ok o →
        ∃ l₀, o = .done l₀ ∧ ∀ actions l, l₀.run actions = .done l → l.Safe) ∧
    (∀ (address : String) (options : Options) (parts : Connector.Parts)
      (o : Outcome Connector.Violation Connector), parts.Unused →
      Connector.create address options parts = .ok o →
        ∃ c₀, o = .done c₀ ∧ ∀ actions c, c₀.run actions = .done c → c.Safe) := by
  constructor
  · intro address options parts o unused created
    obtain ⟨l₀, rfl⟩ := Listener.exists_done_of_create created
    refine ⟨l₀, rfl, fun actions l hrun => ?_⟩
    exact (Listener.reachable_run (.created ⟨_, _, _, unused, created⟩) hrun).coherent.safe
  · intro address options parts o unused created
    obtain ⟨c₀, rfl⟩ := Connector.exists_done_of_create created
    refine ⟨c₀, rfl, fun actions c hrun => ?_⟩
    exact (Connector.reachable_run (.created ⟨_, _, _, unused, created⟩) hrun).coherent.safe

/-- A listener whose collaborators all stop at once passes all stages of its shutdown in the request
in which it is asked to stop, and a connector is in the middle of a lookup. -/
theorem guards_never_strike_at_once :
    (∃ l₀ last, Listener.create "*:5555" {}
        { socket := { activity := { stopsAtOnce := true } }, acceptors := { stopAtOnce := true } } =
        .ok (.done l₀) ∧ l₀.Safe ∧ l₀.step .stop = .done last ∧ last.phase = .stopped) ∧
    (∃ c₀ c, Connector.create "localhost:5555" {} {} = .ok (.done c₀) ∧
      c₀.run [.event (.resolver (.done (.found (.v4 ⟨127, 0, 0, 1⟩))))] = .done c ∧
      c.state = .stoppingResolver ∧ c.Safe) := by
  have listens : Listener.create "*:5555" {}
    { socket := { activity := { stopsAtOnce := true } }, acceptors := { stopAtOnce := true } } =
    .ok (.done _) := rfl
  have connects : Connector.create "localhost:5555" {} {} = .ok (.done _) := rfl
  obtain ⟨l₀, hdone, hl⟩ := guards_never_strike.1 _ _ _ _ ⟨rfl, rfl, rfl, rfl⟩ listens
  obtain ⟨c₀, hdone', hc⟩ := guards_never_strike.2 _ _ _ _ ⟨rfl, rfl, rfl, rfl, rfl⟩ connects
  cases hdone
  cases hdone'
  exact ⟨⟨_, _, listens, hl [] _ rfl, rfl, rfl⟩,
    ⟨_, _, connects, rfl, rfl, hc [.event (.resolver (.done (.found (.v4 ⟨127, 0, 0, 1⟩))))] _ rfl⟩⟩

/-- An endpoint that is restricted to IPv4 uses its socket for nothing else, as long as nothing else
is found for it. In every attempt, then, the addresses are of the family of the socket. -/
theorem restricted_to_ipv4 :
    (∀ (address : String) (options : Options) (parts : Listener.Parts) (l₀ : Listener)
      (actions : List Listener.Action), parts.Unused → options.ipv4Only = true →
      Listener.create address options parts = .ok (.done l₀) →
        SocketCall.OnlyFor .ipv4 (l₀.run actions).machine.socket.calls ∧
        SocketCall.Agree none (l₀.run actions).machine.socket.calls) ∧
    (∀ (address : String) (options : Options) (parts : Connector.Parts) (c₀ : Connector)
      (actions : List Connector.Action), parts.Unused → options.ipv4Only = true →
      Connector.create address options parts = .ok (.done c₀) →
      (∀ ip ∈ (c₀.history actions).found, ip.family = .ipv4) →
        SocketCall.OnlyFor .ipv4 (c₀.run actions).machine.socket.calls ∧
        SocketCall.Agree none (c₀.run actions).machine.socket.calls) := by
  constructor
  · intro address options parts l₀ actions unused restricted created
    exact Listener.only_ipv4_run unused restricted created actions
  · intro address options parts c₀ actions unused restricted created found
    exact Connector.only_ipv4_run unused restricted created actions found

/-- A listener whose socket cannot be bound at first, and a connector with a local address. -/
theorem restricted_to_ipv4_at_work :
    (∃ l₀ actions l,
      Listener.create "*:5555" {} { socket := { bindFault := some .addrInUse } } =
        .ok (.done l₀) ∧
      l₀.run actions = .done l ∧ l.state = .active ∧ SocketCall.OnlyFor .ipv4 l.socket.calls) ∧
    (∃ c₀ actions c, Connector.create "127.0.0.1;localhost:5555" {} {} = .ok (.done c₀) ∧
      c₀.run actions = .done c ∧ c.state = .active ∧
      SocketCall.OnlyFor .ipv4 c.socket.calls) := by
  have listens : Listener.create "*:5555" {} { socket := { bindFault := some .addrInUse } } =
    .ok (.done _) := rfl
  have connects : Connector.create "127.0.0.1;localhost:5555" {} {} = .ok (.done _) := rfl
  let setUp : List Listener.Action :=
    [.event (.socket .stopped), .event (.retry .timeout), .event (.retry .stopped)]
  let connect : List Connector.Action :=
    [.event (.resolver (.done (.found (.v4 ⟨192, 0, 2, 10⟩)))), .event (.resolver .stopped),
      .event (.socket .connected)]
  exact
    ⟨⟨_, setUp, _, listens, rfl, rfl,
      (restricted_to_ipv4.1 _ _ _ _ setUp ⟨rfl, rfl, rfl, rfl⟩ rfl listens).1⟩,
    ⟨_, connect, _, connects, rfl, rfl,
      (restricted_to_ipv4.2 _ _ _ _ connect ⟨rfl, rfl, rfl, rfl, rfl⟩ rfl connects
        (List.forall_mem_singleton.2 rfl)).1⟩⟩

/-- Whatever the other options are, an endpoint does wait before it tries again exactly if it was
given a first interval of at least a millisecond, and never longer than the longest interval it was
given, unless that was shorter than a millisecond and the first one was not. -/
theorem waits_within_limits (o : Options) (base max : Duration) :
    (∀ (address : String) (parts : Listener.Parts) (l₀ : Listener)
      (actions : List Listener.Action), parts.Unused →
      Listener.create address (o.withIntervals base max) parts = .ok (.done l₀) →
        ∀ interval ∈ (l₀.run actions).machine.retry.timer.intervals,
          Limited base max interval) ∧
    (∀ (address : String) (parts : Connector.Parts) (c₀ : Connector)
      (actions : List Connector.Action), parts.Unused →
      Connector.create address (o.withIntervals base max) parts = .ok (.done c₀) →
        ∀ interval ∈ (c₀.run actions).machine.retry.timer.intervals,
          Limited base max interval) := by
  constructor
  · intro address parts l₀ actions unused created
    exact (Listener.keepsTime_run unused created actions).rhythm.limited
  · intro address parts c₀ actions unused created
    exact (Connector.keepsTime_run unused created actions).rhythm.limited

/-- The longest interval is reached at the second wait. -/
theorem waits_within_limits_second_wait :
    (∃ l₀ actions l,
      Listener.create "*:5555" (({} : Options).withIntervals (.ofMillis 2) (.ofMillis 3))
        { socket := { startFault := some .addrInUse } } = .ok (.done l₀) ∧
      l₀.run actions = .done l ∧ l.retry.timer.intervals.length = 2 ∧
      ∀ interval ∈ l.retry.timer.intervals, .zero < interval ∧ interval ≤ .ofMillis 3) ∧
    (∃ c₀ actions c,
      Connector.create "localhost:5555" (({} : Options).withIntervals (.ofMillis 2) (.ofMillis 3))
        {} = .ok (.done c₀) ∧
      c₀.run actions = .done c ∧ c.retry.timer.intervals.length = 2 ∧
      ∀ interval ∈ c.retry.timer.intervals, .zero < interval ∧ interval ≤ .ofMillis 3) := by
  have listens : Listener.create "*:5555"
    (({} : Options).withIntervals (.ofMillis 2) (.ofMillis 3))
    { socket := { startFault := some .addrInUse } } = .ok (.done _) := rfl
  have connects : Connector.create "localhost:5555"
    (({} : Options).withIntervals (.ofMillis 2) (.ofMillis 3)) {} = .ok (.done _) := rfl
  let setUp : List Listener.Action :=
    [.event (.retry .timeout), .inject .start .addrInUse, .event (.retry .stopped)]
  let lookUp : List Connector.Action :=
    [.event (.resolver (.done (.failed .notFound))), .event (.resolver .stopped),
      .event (.retry .timeout), .event (.retry .stopped),
      .event (.resolver (.done (.failed .notFound))), .event (.resolver .stopped)]
  have kept {interval : Duration} (h : Limited (.ofMillis 2) (.ofMillis 3) interval) :
      .zero < interval ∧ interval ≤ .ofMillis 3 :=
    ⟨h.waits.2 (by decide), h.ends.2 (.inr (by decide))⟩
  exact
    ⟨⟨_, setUp, _, listens, rfl, rfl, fun interval hmem =>
      kept ((waits_within_limits {} _ _).1 _ _ _ setUp ⟨rfl, rfl, rfl, rfl⟩ listens interval
        hmem)⟩,
    ⟨_, lookUp, _, connects, rfl, rfl, fun interval hmem =>
      kept ((waits_within_limits {} _ _).2 _ _ _ lookUp ⟨rfl, rfl, rfl, rfl, rfl⟩ connects
        interval hmem)⟩⟩

/-- Half a millisecond is no first interval, and no longest one either. -/
theorem waits_beyond_limits :
    (∃ c₀ actions c, Connector.create "localhost:5555"
        (({} : Options).withIntervals (.ofNanos 500000) (.ofMillis 10)) {} = .ok (.done c₀) ∧
      c₀.run actions = .done c ∧ c.retry.timer.intervals = [.zero] ∧
      .zero < Duration.ofNanos 500000 ∧ .zero < Duration.ofMillis 10) ∧
    (∃ c₀ actions c, Connector.create "localhost:5555"
        (({} : Options).withIntervals (.ofMillis 100) (.ofNanos 500000)) {} = .ok (.done c₀) ∧
      c₀.run actions = .done c ∧ c.retry.timer.intervals = [.ofMillis 100] ∧
      .zero < Duration.ofNanos 500000 ∧ ¬Duration.ofMillis 100 ≤ .ofNanos 500000) := by
  have short : Connector.create "localhost:5555"
    (({} : Options).withIntervals (.ofNanos 500000) (.ofMillis 10)) {} = .ok (.done _) := rfl
  have long : Connector.create "localhost:5555"
    (({} : Options).withIntervals (.ofMillis 100) (.ofNanos 500000)) {} = .ok (.done _) := rfl
  let lookUp : List Connector.Action :=
    [.event (.resolver (.done (.failed .notFound))), .event (.resolver .stopped)]
  exact ⟨⟨_, lookUp, _, short, rfl, by decide +kernel, by decide, by decide⟩,
    ⟨_, lookUp, _, long, rfl, by decide +kernel, by decide, by decide⟩⟩

/-- As long as fewer than `2 ^ 63` events have been carried out, the counters that an endpoint has
started from zero are the numbers of messages in its log. Its lookups, its waits, its end and the
first success of listening are in the log as well, once each time. -/
theorem log_tells_same_story :
    (∀ (address : String) (options : Options) (parts : Listener.Parts) (l₀ : Listener)
      (actions : List Listener.Action), parts.Unused → parts.stats = {} →
      Listener.create address options parts = .ok (.done l₀) →
      (l₀.history actions).events < 2 ^ 63 →
        Listener.SameStory (parts.socket.callsUntil l₀.socket ++ (l₀.history actions).calls)
          (l₀.run actions).machine) ∧
    (∀ (address : String) (options : Options) (parts : Connector.Parts) (c₀ : Connector)
      (actions : List Connector.Action), parts.Unused → parts.stats = {} →
      Connector.create address options parts = .ok (.done c₀) →
      (c₀.history actions).events < 2 ^ 63 →
        Connector.SameStory (c₀.run actions).machine) := by
  constructor
  · intro address options parts l₀ actions unused fresh created few
    exact Listener.sameStory_run unused fresh created actions few
  · intro address options parts c₀ actions unused fresh created few
    exact Connector.sameStory_run unused fresh created actions few

/-- A listener is refused an event after it has accepted a peer at its second attempt, and a
connector has stopped after its connection was broken. -/
theorem log_tells_same_story_to_the_end :
    (∃ l₀ actions l v,
      Listener.create "*:5555" {} { socket := { bindFault := some .addrInUse } } =
        .ok (.done l₀) ∧
      l₀.run actions = .violation v l ∧ l.stats.accepted = 1 ∧ l.stats.bindErrors = 1 ∧
      Listener.SameStory
        (Socket.callsUntil { bindFault := some .addrInUse } l₀.socket ++
          (l₀.history actions).calls) l) ∧
    (∃ c₀ actions c, Connector.create "localhost:5555" {} {} = .ok (.done c₀) ∧
      c₀.run actions = .done c ∧ c.phase = .stopped ∧ c.stats.broken = 1 ∧
      Connector.SameStory c) := by
  have listens : Listener.create "*:5555" {} { socket := { bindFault := some .addrInUse } } =
    .ok (.done _) := rfl
  have connects : Connector.create "localhost:5555" {} {} = .ok (.done _) := rfl
  let accept : List Listener.Action :=
    [.event (.socket .stopped), .event (.retry .timeout), .event (.retry .stopped),
      .event (.connection 0 .accepted), .event (.connection 1 .error)]
  let breakOff : List Connector.Action :=
    [.event (.resolver (.done (.found (.v4 ⟨127, 0, 0, 1⟩)))), .completeStop .resolver,
      .event (.resolver .stopped), .event (.socket .connected), .event (.session .error),
      .completeStop .session, .stop, .completeStop .socket, .event (.socket .stopped)]
  have accepted := log_tells_same_story.1 _ _ _ _ accept ⟨rfl, rfl, rfl, rfl⟩ rfl listens
    (Nat.lt_of_le_of_lt (Listener.events_history_le _ accept) (show 5 < 2 ^ 63 by decide))
  have broken := log_tells_same_story.2 _ _ _ _ breakOff ⟨rfl, rfl, rfl, rfl, rfl⟩ rfl connects
    (Nat.lt_of_le_of_lt (Connector.events_history_le _ breakOff) (show 9 < 2 ^ 63 by decide))
  exact ⟨⟨_, accept, _, _, listens, rfl, rfl, rfl, accepted⟩,
    ⟨_, breakOff, _, connects, rfl, rfl, rfl, broken⟩⟩

end EndpointLifecycle
