import EndpointLifecycle.Proofs.Chronicle
import EndpointLifecycle.Proofs.Connector.Beginnings

/-!
# The log of a connector as a chronicle

Whatever a connector does, the notices that it writes at the same request tell of it: of the
connections that were made, refused and broken, of the lookups, of the waits and of the end.
-/

namespace EndpointLifecycle.Connector

def Notice.deed? : Notice → Option Deed
  | resolving host => some (.lookedUp host)
  | connectRefused .. | connectFailed .. => some (.counted .connectErrors)
  | connected _ => some (.counted .establishedConnections)
  | broken => some (.counted .brokenConnections)
  | waiting interval => some (.waited interval)
  | stopped => some .ended
  | _ => none

def reading : Reading Notice where
  deed? := Notice.deed?
  stats := [.establishedConnections, .connectErrors, .brokenConnections]

def chronicle (c : Connector) : Chronicle Notice where
  log := c.log
  stats := c.stats
  intervals := c.retry.timer.intervals
  hosts := c.resolver.lookups.map (·.host)
  listened := false
  ended := c.isStopped

/-- What was written between one condition and a later one tells of what was done. -/
abbrev Tells (n : Nat) (c c' : Connector) : Prop :=
  Chronicle.Tells reading n c.chronicle c'.chronicle

section Step

variable {c c' m : Connector} {a : Action} {n : Nat}

/-- The log does not tell of the connections that are being made. -/
theorem inProgress_same (s : Statistics) (delta : Int64) :
    reading.Same s (s.record .inProgressConnections delta) :=
  Reading.same_record (by decide) s delta

/-- One notice of no deed is written. -/
theorem tells_silent (notice : Notice) (hquiet : notice.deed? = none)
    (h : c'.chronicle = { c.chronicle with log := c.log ++ [notice], stats := c'.stats })
    (hstats : reading.Same c.stats c'.stats) : Tells n c c' :=
  Chronicle.tells_nothing [notice] (List.forall_mem_singleton.2 hquiet) h hstats

theorem tells_waitBeforeRetry (c : Connector) : Tells n c c.waitBeforeRetry :=
  Chronicle.tells_waited (Notice.waiting c.retry.nextInterval) rfl rfl

theorem tells_startResolving (c : Connector) : Tells n c c.startResolving := by
  have hhosts : c.startResolving.resolver.lookups.map (·.host) =
      c.resolver.lookups.map (·.host) ++ [c.target.host] := by
    simp [startResolving, note, Resolver.start]
  refine Chronicle.tells_lookedUp (Notice.resolving c.target.host) rfl ?_
  rw [chronicle, hhosts]
  rfl

/-- Buffers that could not be sized are no deed. -/
theorem exists_sizeBuffers_eq (c : Connector) :
    ∃ notices : List Notice, (∀ notice ∈ notices, notice.deed? = none) ∧ c.sizeBuffers =
      { c with
        socket := (c.socket.called (.sendBuffer c.options.sendBuffer)).called
          (.recvBuffer c.options.recvBuffer)
        log := c.log ++ notices } := by
  cases h : c.socket.bufferFault with
  | none =>
    refine ⟨[], by simp, ?_⟩
    simp [sizeBuffers, Socket.setSendBuffer, Socket.setRecvBuffer, Socket.called, noteBuffer, h]
  | some kind =>
    refine ⟨[.bufferFailed .send (Socket.injected kind),
      .bufferFailed .receive (Socket.injected kind)], by simp [Notice.deed?], ?_⟩
    simp [sizeBuffers, Socket.setSendBuffer, Socket.setRecvBuffer, Socket.called, noteBuffer, note,
      h]

theorem tells_sizeBuffers (c : Connector) : Tells 0 c c.sizeBuffers := by
  obtain ⟨notices, hquiet, hsized⟩ := exists_sizeBuffers_eq c
  rw [hsized]
  exact Chronicle.tells_nothing notices hquiet rfl (.refl ..)

theorem tells_dialled {localAddr remote : SocketAddr} (h : Dialled c localAddr remote c') :
    Tells 1 c c' := by
  cases h with
  | bindFailed => exact tells_silent (.bindFailed ..) rfl rfl ((Reading.Same.refl ..).setError _)
  | refused =>
    exact Chronicle.tells_counted (Notice.connectRefused ..) rfl rfl
      ((Reading.Same.refl ..).setError _)
  | connecting => exact tells_silent (.connecting ..) rfl rfl (inProgress_same ..)

theorem tells_attempted {ip : IpAddr} (h : Attempted c ip c') : Tells 1 c c' := by
  cases h with
  | @openFailed socket error =>
    have hfailed : Tells 1 c
        { c.note (.openFailed (c.target.remoteAddr ip) error) with
          remote := some (c.target.remoteAddr ip)
          socket
          stats := c.stats.setError error.kind } :=
      tells_silent (.openFailed ..) rfl rfl ((Reading.Same.refl ..).setError _)
    exact hfailed.followed (tells_waitBeforeRetry _)
  | opened opened dialled => exact (tells_sizeBuffers _).trans (tells_dialled dialled)

theorem tells_handled {e : Event} (h : Handled c e c') : Tells 1 c c' := by
  cases h with
  | done | halfClosed | ended | timedOut => exact .refl ..
  | @found ip =>
    have hattempted := tells_attempted (attempted_startConnecting { c with resolved := none } ip)
    exact hattempted
  | @unfound kind =>
    have hfailed : Tells 1 c { c.note (.resolveFailed c.target.host kind) with resolved := none } :=
      tells_silent (.resolveFailed ..) rfl rfl (.refl ..)
    exact hfailed.followed (tells_waitBeforeRetry _)
  | connected =>
    exact Chronicle.tells_counted (Notice.connected c.remote) rfl rfl
      (inProgress_same ..).record.clearError
  | connectFailed =>
    exact Chronicle.tells_counted (Notice.connectFailed ..) rfl rfl
      ((inProgress_same ..).record.setError _)
  | broken => exact Chronicle.tells_counted Notice.broken rfl rfl (.refl ..)
  | closed => exact tells_waitBeforeRetry c
  | rested => exact tells_startResolving c

theorem tells_passed (hc : Coherent c) (h : Passed c c') : Tells 0 c c' := by
  cases h with
  | session => exact .refl ..
  | others state =>
    have hnew : c.isStopped = false := by simp [isStopped, hc.phase_eq, state, State.phase]
    exact Chronicle.tells_ended Notice.stopped rfl hnew rfl (Reading.Same.refl ..).markStopped

theorem tells_advanceShutdown (hc : Coherent c) : Tells 0 c c.advanceShutdown := by
  have h : Coherent c.advanceShutdown ∧ Tells 0 c c.advanceShutdown :=
    advanceShutdown_induction (P := fun m => Coherent m ∧ Tells 0 c m)
      (fun _ _ hp ⟨hm, htells⟩ => ⟨coherent_passed hp hm, htells.trans (tells_passed hm hp)⟩)
      ⟨hc, .refl ..⟩
  exact h.2

theorem tells_beginStop (active : c.phase = .active) : Tells n c c.beginStop := by
  refine tells_silent (.stopRequested c.state) rfl ?_ ?_
  · have hnew : c.isStopped = c.beginStop.isStopped := by simp [isStopped, beginStop, active]
    rw [chronicle, ← hnew]
    rfl
  · change reading.Same c.stats (statsAtStop c.stats c.state)
    unfold statsAtStop
    split
    case h_1 => exact Reading.same_record (by decide) ..
    case h_2 => exact inProgress_same ..
    case h_3 => exact .refl ..

/-- Whether a request is an event. -/
def Action.isEvent : Action → Bool
  | .event _ => true
  | _ => false

theorem tells_stepped (hc : Coherent c) (h : Stepped c a c') : Tells a.isEvent.toNat c c' := by
  cases h with
  | handled active he => exact tells_handled he
  | absorbed e =>
    have hnoted : Tells 1 c (c.note (.whileStopping e)) :=
      tells_silent (.whileStopping e) rfl rfl (.refl ..)
    exact hnoted.followed (tells_advanceShutdown (coherent_note hc _))
  | stopBegun active =>
    exact (tells_beginStop active).trans (tells_advanceShutdown (coherent_beginStop c))
  | stopIgnored => exact .refl ..
  | completed x => cases x <;> exact .refl ..
  | injected => exact .refl ..

end Step

/-- How many events were carried out. -/
def History.events (h : History) : Nat := h.countP (·.action.isEvent)

theorem History.events_snoc (h : History) (t : Transition Connector Action) :
    events (h ++ [t]) = h.events + t.action.isEvent.toNat := by
  cases ht : t.action.isEvent <;> simp [events, ht]

theorem events_history_le (c : Connector) (actions : List Action) :
    (c.history actions).events ≤ actions.length :=
  List.countP_le_length.trans (Outcome.length_history_le ..)

/-- The log of a connector and all else that shows of it tell the same story. -/
structure SameStory (c : Connector) : Prop where
  connected : c.stats.established.toInt = Log.written "connected" c.entries
  refused : c.stats.connectErrors.toInt =
    Log.written "connect failed" c.entries + Log.written "failed to issue connect" c.entries
  broken : c.stats.broken.toInt = Log.written "connection broken, reconnecting" c.entries
  resolving : Log.texts "resolving peer" "host" c.entries =
    c.resolver.lookups.map fun lookup => some lookup.host
  waiting : Log.texts "waiting before next connect attempt" "interval" c.entries =
    c.retry.timer.intervals.map fun interval => some interval.text
  /-- The texts of the intervals apart, they are the same. -/
  intervals : (c.log.filterMap Notice.deed?).filterMap Deed.interval? = c.retry.timer.intervals
  stopped : Log.written "connector endpoint stopped" c.entries = c.isStopped.toNat

/-- Which messages stand for which deeds. -/
structure Headed (message : String) (fields : List (String × String)) (deed? : Option Deed) :
    Prop where
  connected : message = "connected" ↔ deed? = some (.counted .establishedConnections)
  refused : message = "connect failed" ∨ message = "failed to issue connect" ↔
    deed? = some (.counted .connectErrors)
  broken : message = "connection broken, reconnecting" ↔ deed? = some (.counted .brokenConnections)
  resolving : message = "resolving peer" ↔ (deed?.bind Deed.host?).isSome
  host : ∀ host, deed?.bind Deed.host? = some host → fields.lookup "host" = some host
  waiting : message = "waiting before next connect attempt" ↔ (deed?.bind Deed.interval?).isSome
  interval : ∀ interval, deed?.bind Deed.interval? = some interval →
    fields.lookup "interval" = some interval.text
  stopped : message = "connector endpoint stopped" ↔ deed? = some .ended

theorem headed_entry (address : String) (notice : Notice) :
    Headed (notice.entry address).message (notice.entry address).fields notice.deed? := by
  cases notice with
  | bufferFailed direction =>
    cases direction <;> constructor <;> simp [Notice.entry, Notice.deed?, Direction.name]
  | _ => constructor <;> simp [Notice.entry, Notice.deed?, List.lookup_cons]

theorem sameStory_of_tells {c : Connector} {n : Nat}
    (h : Chronicle.Tells reading n .blank c.chronicle) (hn : n < 2 ^ 63) : SameStory c := by
  have hshows := h.shows
  have hheaded := headed_entry c.address
  constructor
  case connected =>
    exact hshows.toInt_eq_written (by decide) hn fun notice => (hheaded notice).connected
  case refused =>
    -- One counter for two messages, so they are added before they are counted.
    have hsum := Chronicle.written_add_written_eq (r := reading) (by decide)
      (fun notice => (hheaded notice).refused) c.log
    have hcount : (c.stats.get .connectErrors).toInt =
        (c.log.filterMap reading.deed?).count (.counted .connectErrors) :=
      hshows.toInt_eq (by decide) hn
    rw [← Int.natCast_add, entries, hsum]
    exact hcount
  case broken =>
    exact hshows.toInt_eq_written (by decide) hn fun notice => (hheaded notice).broken
  case resolving =>
    have htexts : Log.texts "resolving peer" "host" c.entries =
        ((c.log.filterMap reading.deed?).filterMap Deed.host?).map fun host => some host :=
      Chronicle.texts_eq (fun notice => (hheaded notice).resolving)
        (fun notice => (hheaded notice).host) c.log
    have hhosts : c.resolver.lookups.map (·.host) =
        (c.log.filterMap reading.deed?).filterMap Deed.host? := hshows.lookedUp
    rw [htexts, ← hhosts, List.map_map]
    rfl
  case waiting =>
    exact hshows.texts_waited (fun notice => (hheaded notice).waiting) fun notice =>
      (hheaded notice).interval
  case intervals => exact hshows.waited.symm
  case stopped => exact hshows.written_ended fun notice => (hheaded notice).stopped

section Run

variable {address : String} {options : Options} {parts : Parts} {c₀ : Connector}

theorem tells_begun {target : ConnectAddress} (unused : Parts.Unused parts)
    (fresh : parts.stats = {}) :
    Chronicle.Tells reading 0 .blank (begun address target options parts).chronicle := by
  have hblank : (Connector.fresh address target options parts).chronicle = .blank := by
    have hintervals : parts.timer.intervals = [] := by rw [unused.timer]
    have hlookups : parts.resolver.lookups = [] := by rw [unused.resolver]
    change Chronicle.mk [] parts.stats parts.timer.intervals
      (parts.resolver.lookups.map (·.host)) false false = _
    rw [hintervals, hlookups, fresh]
    rfl
  have hcreated : Tells 0 (Connector.fresh address target options parts)
      { (Connector.fresh address target options parts).note .created with phase := .active } :=
    tells_silent .created rfl rfl (.refl ..)
  rw [← hblank]
  exact hcreated.followed (tells_startResolving _)

theorem tells_run (unused : Parts.Unused parts) (fresh : parts.stats = {})
    (created : create address options parts = .ok (.done c₀)) (actions : List Action) :
    Chronicle.Tells reading (c₀.history actions).events .blank
      (c₀.run actions).machine.chronicle := by
  have h : Coherent (c₀.run actions).machine ∧ Chronicle.Tells reading
      (c₀.history actions).events .blank (c₀.run actions).machine.chronicle := by
    refine Outcome.machine_history_induction (P := fun h c => Coherent c ∧
      Chronicle.Tells reading (History.events h) .blank c.chronicle) ?_ ?_ ?_ actions
    · have hc := coherent_created ⟨address, options, parts, unused, created⟩
      obtain ⟨target, -, rfl⟩ := exists_begun_of_create created
      exact ⟨hc, tells_begun unused fresh⟩
    · rintro h c a c' ⟨hc, ht⟩ hstep
      refine ⟨coherent_step hc hstep, ?_⟩
      rw [History.events_snoc]
      exact ht.trans (tells_stepped hc (stepped_of_step hstep))
    · rintro h c a v m ⟨hc, ht⟩ hstep
      rw [eq_note_of_violation hstep]
      exact ⟨coherent_note hc _, ht.followed (tells_silent (.refused v) rfl rfl (.refl ..))⟩
  exact h.2

theorem sameStory_run (unused : Parts.Unused parts) (fresh : parts.stats = {})
    (created : create address options parts = .ok (.done c₀)) (actions : List Action)
    (few : (c₀.history actions).events < 2 ^ 63) : SameStory (c₀.run actions).machine :=
  sameStory_of_tells (tells_run unused fresh created actions) few

end Run

end EndpointLifecycle.Connector
