import EndpointLifecycle.Proofs.Chronicle
import EndpointLifecycle.Proofs.Listener.Attempts
import EndpointLifecycle.Proofs.Listener.WindingDown

/-!
# The log of a listener as a chronicle

Whatever a listener does, the notices that it writes at the same request tell of it: of the
connections that were accepted and broken, of the sockets that could not be set up and of the one
that listens, of the waits and of the end.
-/

namespace EndpointLifecycle

/-- Whether the call has made a socket listen. -/
def AnsweredCall.listens : AnsweredCall → Bool
  | ⟨.listen _, failed⟩ => !failed
  | _ => false

theorem Socket.OnlyStopped.any_listens {s s' : Socket} (h : s.OnlyStopped s') :
    (s.callsUntil s').any AnsweredCall.listens = false := by
  obtain ⟨n, hmade⟩ := h.made
  rw [hmade.callsUntil_eq, List.any_eq_false]
  intro answered hanswered
  obtain rfl := List.eq_of_mem_replicate hanswered
  simp [AnsweredCall.listens]

namespace Listener

def Notice.deed? : Notice → Option Deed
  | setupFailed .. => some (.counted .bindErrors)
  | listening .. => some .listened
  | waiting interval => some (.waited interval)
  | accepted .. => some (.counted .acceptedConnections)
  | broken _ => some (.counted .brokenConnections)
  | stopped => some .ended
  | _ => none

def reading : Reading Notice where
  deed? := Notice.deed?
  stats := [.acceptedConnections, .brokenConnections, .bindErrors]

/-- Whether the listener has ever listened. -/
def listened (l : Listener) : Bool := l.nextId ≠ 0

def chronicle (l : Listener) : Chronicle Notice where
  log := l.log
  stats := l.stats
  intervals := l.retry.timer.intervals
  hosts := []
  listened := l.listened
  ended := l.isStopped

/-- What was written between one condition and a later one tells of what was done. -/
abbrev Tells (n : Nat) (l l' : Listener) : Prop :=
  Chronicle.Tells reading n l.chronicle l'.chronicle

section Step

variable {l l' m : Listener} {a : Action} {n : Nat}

/-- One notice of no deed is written. -/
theorem tells_silent (notice : Notice) (hquiet : notice.deed? = none)
    (h : l'.chronicle = { l.chronicle with log := l.log ++ [notice], stats := l'.stats })
    (hstats : reading.Same l.stats l'.stats) : Tells n l l' :=
  Chronicle.tells_nothing [notice] (List.forall_mem_singleton.2 hquiet) h hstats

theorem tells_waitBeforeRetry (l : Listener) : Tells n l l.waitBeforeRetry :=
  Chronicle.tells_waited (Notice.waiting l.retry.nextInterval) rfl rfl

theorem tells_closeAfterFailure (l : Listener) (operation : Setup) (error : IoError) :
    Tells 1 l (l.closeAfterFailure operation error) :=
  Chronicle.tells_counted (Notice.setupFailed operation error) rfl rfl
    ((Reading.Same.refl ..).setError _)

/-- Only an attempt that has to be closed is counted. -/
theorem tells_setUp (silent : Silent l) (h : SetUp l l') :
    Tells (decide (l'.state = .closing)).toNat l l' := by
  cases h with
  | @openFailed socket error =>
    have hfailed : Tells 0 l
        { l.note (.openFailed l.listenAddr error) with
          socket
          stats := l.stats.setError error.kind } :=
      tells_silent (.openFailed ..) rfl rfl ((Reading.Same.refl ..).setError _)
    exact hfailed.followed (tells_waitBeforeRetry _)
  | @bindFailed fresh socket error =>
    have h := tells_closeAfterFailure { l with socket } .bind error
    exact h
  | @listenFailed fresh named socket error =>
    have h := tells_closeAfterFailure { l with socket } .listen error
    exact h
  | listening =>
    have hnew : l.listened = false := by simp [listened, silent.nextId_eq]
    exact Chronicle.tells_listened (Notice.listening ..) rfl hnew rfl
      (Reading.Same.refl ..).clearError

theorem listened_promote {id : ConnectionId} (hl : Coherent l) (pending : l.pending = some id) :
    (l.promote id).listened = l.listened := by
  simp [listened, ← hl.pending_newest id pending, promote, startAcceptor, note]

theorem tells_promote {id : ConnectionId} (hl : Coherent l) (pending : l.pending = some id) :
    Tells 1 l (l.promote id) := by
  refine Chronicle.tells_counted (Notice.accepted id (l.established ++ [id]).length) rfl ?_
    (.refl ..)
  rw [chronicle, listened_promote hl pending]
  rfl

/-- Whether a request is an event that may be counted. -/
def counts (l : Listener) : Action → Bool
  | .event _ => l.phase = .active ∧ l.state ≠ .closing
  | _ => false

theorem tells_handled {e : Event} (hl : Coherent l) (active : l.phase = .active)
    (h : Handled l e l') : Tells (l.counts (.event e)).toNat l l' := by
  have hcounts (hs : l.state ≠ .closing) : l.counts (.event e) = true := by
    simp [counts, active, hs]
  cases h with
  | accepted hactive pending =>
    rw [hcounts (by simp [hactive])]
    exact tells_promote hl pending
  | broken hactive =>
    rw [hcounts (by simp [hactive])]
    exact Chronicle.tells_counted (Notice.broken _) rfl rfl (.refl ..)
  | ended | halfClosed | timedOut => exact .refl ..
  | closed => exact tells_waitBeforeRetry l
  | rested stopping =>
    rw [hcounts (by simp [stopping])]
    have hsilent : Silent l := hl.silent active (by simp [stopping])
    exact (tells_setUp hsilent (setUp_startListening l)).mono (Bool.toNat_le _)

theorem tells_passed (hl : Coherent l) (h : Passed l l') : Tells 0 l l' := by
  cases h with
  | acceptor | socket => exact .refl ..
  | connections state =>
    have hnew : l.isStopped = false := by simp [isStopped, hl.phase_eq, state, State.phase]
    exact Chronicle.tells_ended Notice.stopped rfl hnew rfl (Reading.Same.refl ..).markStopped

theorem tells_advance (hl : Coherent l) (h : l.advanceShutdown = .done l') : Tells 0 l l' := by
  have hadvanced : Coherent l' ∧ Tells 0 l l' :=
    advanceShutdown_induction (P := fun m => Coherent m ∧ Tells 0 l m)
      (fun _ _ hp ⟨hm, htells⟩ => ⟨coherent_passed hm hp, htells.trans (tells_passed hm hp)⟩) h
      ⟨hl, .refl ..⟩
  exact hadvanced.2

theorem tells_absorbed {e : Event} (h : Absorbed l e l') : Tells n l l' := by
  cases h with
  | late => exact tells_silent (.lateEvent ..) rfl rfl (.refl ..)
  | retry | halfClosed | closed | pending | ended | broken => exact .refl ..

theorem tells_beginStop (active : l.phase = .active) : Tells n l l.beginStop := by
  refine tells_silent (.stopRequested l.state) rfl ?_ (.refl ..)
  have hended : l.isStopped = l.beginStop.isStopped := by simp [isStopped, beginStop, active]
  rw [chronicle, ← hended]
  rfl

theorem tells_stepped (hl : Coherent l) (h : Stepped l a l') :
    Tells (l.counts a).toNat l l' := by
  cases h with
  | handled active he => exact tells_handled hl active he
  | absorbed stopping ha advanced =>
    exact (tells_absorbed ha).followed (tells_advance (coherent_absorbed hl ha) advanced)
  | stopBegun active advanced =>
    exact (tells_beginStop active).followed (tells_advance (coherent_beginStop hl) advanced)
  | stopIgnored => exact .refl ..
  | completed x => cases x <;> exact .refl ..
  | injected => exact .refl ..

/-- A listener has listened if one of its calls has made its socket listen. -/
theorem listens_setUp (silent : Silent l) (h : SetUp l l') :
    (l.socket.callsUntil l'.socket).any AnsweredCall.listens = l'.listened := by
  obtain ⟨attempt, hmade, hlistening⟩ := exists_attempt h
  have hcalls : (l.attemptCalls attempt).any AnsweredCall.listens =
      decide (attempt = .listening) := by
    cases attempt <;> rfl
  have hlistened : decide (l'.state = .active) = l'.listened := by
    cases h <;>
      simp [listened, waitBeforeRetry, closeAfterFailure, startAcceptor, note, silent.nextId_eq]
  rw [hmade.callsUntil_eq, hcalls, ← hlistened]
  exact decide_eq_decide.2 hlistening

theorem BeginsNothing.listened_eq (h : BeginsNothing l l') (hl : Coherent l) (hl' : Coherent l') :
    l'.listened = l.listened := by
  have hnumbers : List.range l'.nextId = List.range l.nextId := by
    rw [← hl'.numbers_eq, ← hl.numbers_eq, h.numbers_eq]
  have hnext : l'.nextId = l.nextId := by simpa using congrArg List.length hnumbers
  simp [listened, hnext]

theorem listened_stepped (hl : Coherent l) (hl' : Coherent l') (h : Stepped l a l') :
    l'.listened = (l.listened || (l.socket.callsUntil l'.socket).any AnsweredCall.listens) := by
  have hsilent (hsocket : l.socket.OnlyStopped l'.socket) (hlistened : l'.listened = l.listened) :
      l'.listened = (l.listened || (l.socket.callsUntil l'.socket).any AnsweredCall.listens) := by
    rw [hsocket.any_listens, Bool.or_false, hlistened]
  cases begins_stepped hl h with
  | nothing h => exact hsilent h.socket (h.listened_eq hl hl')
  | acceptor _ pending => exact hsilent (Socket.onlyStopped_of_eq rfl) (listened_promote hl pending)
  | wait => exact hsilent (Socket.onlyStopped_of_eq rfl) rfl
  | attempt stopping h =>
    have hphase : l.phase = .active := by rw [hl.phase_eq, stopping]; rfl
    have silent : Silent l := hl.silent hphase (by simp [stopping])
    have hnever : l.listened = false := by simp [listened, silent.nextId_eq]
    rw [listens_setUp silent h, hnever, Bool.false_or]

end Step

/-- Whether a request is an event. -/
def Action.isEvent : Action → Bool
  | .event _ => true
  | _ => false

/-- How many events were carried out. -/
def History.events (h : History) : Nat := h.countP (·.action.isEvent)

theorem History.events_snoc (h : History) (t : Transition Listener Action) :
    events (h ++ [t]) = h.events + t.action.isEvent.toNat := by
  cases ht : t.action.isEvent <;> simp [events, ht]

theorem events_history_le (l : Listener) (actions : List Action) :
    (l.history actions).events ≤ actions.length :=
  List.countP_le_length.trans (Outcome.length_history_le ..)

section Few

variable {l l' : Listener} {a : Action} {events n : Nat}

/-- What can have been counted after so many events. Beside them there is the first attempt, which
needs no event, but an event to be closed. -/
structure Few (events n : Nat) (l : Listener) : Prop where
  le : n ≤ max 1 events
  working : l.phase = .active → l.state ≠ .closing → n ≤ events

theorem isEvent_of_counts (h : l.counts a = true) :
    a.isEvent = true ∧ l.phase = .active ∧ l.state ≠ .closing := by
  cases a with
  | event => exact ⟨rfl, of_decide_eq_true h⟩
  | stop | completeStop | inject => cases h

theorem counts_le_isEvent (l : Listener) (a : Action) :
    (l.counts a).toNat ≤ a.isEvent.toNat := by
  cases h : l.counts a with
  | false => exact Nat.zero_le _
  | true => rw [(isEvent_of_counts h).1]

theorem counts_of_closing (state : l.state = .closing) (a : Action) : l.counts a = false :=
  Bool.eq_false_iff.2 fun h => (isEvent_of_counts h).2.2 state

/-- It is an event that the socket of an attempt has stopped. -/
theorem isEvent_of_closed (hl : Coherent l) (h : Stepped l a l') (active : l'.phase = .active)
    (state : l.state = .closing) (state' : l'.state ≠ .closing) : a.isEvent = true := by
  cases h with
  | handled | absorbed => rfl
  | stopBegun _ advanced => exact absurd active (phase_stopBegun_ne hl advanced)
  | stopIgnored | injected => exact absurd state state'
  | completed x => exact absurd state (by cases x <;> exact state')

theorem few_stepped (hl : Coherent l) (h : Stepped l a l') (few : Few events n l) :
    Few (events + a.isEvent.toNat) (n + (l.counts a).toNat) l' := by
  have hle := few.le
  have hone := counts_le_isEvent l a
  constructor
  case le =>
    cases hc : l.counts a with
    | false =>
      rw [Bool.toNat_false]
      omega
    | true =>
      obtain ⟨hevent, active, hstate⟩ := isEvent_of_counts hc
      have hworking := few.working active hstate
      rw [hevent]
      omega
  case working =>
    intro active' hstate'
    have active := (mark_stepped hl h active').1
    by_cases hstate : l.state = .closing
    case neg =>
      have hworking := few.working active hstate
      omega
    case pos =>
      -- The first attempt is one more than the events until the event that its socket has stopped.
      rw [isEvent_of_closed hl h active' hstate hstate', counts_of_closing hstate, Bool.toNat_true,
        Bool.toNat_false]
      omega

end Few

/-- The log of a listener and all else that shows of it, the calls on its socket among them, tell
the same story. -/
structure SameStory (calls : List AnsweredCall) (l : Listener) : Prop where
  accepted : l.stats.accepted.toInt = Log.written "connection accepted" l.entries
  broken : l.stats.broken.toInt = Log.written "connection broken" l.entries
  setupFailed : l.stats.bindErrors.toInt =
    Log.written "listening socket setup failed, closing before retry" l.entries
  listening : Log.written "listening" l.entries = (calls.any AnsweredCall.listens).toNat
  waiting : Log.texts "waiting before next listen attempt" "interval" l.entries =
    l.retry.timer.intervals.map fun interval => some interval.text
  /-- The texts of the intervals apart, they are the same. -/
  intervals : (l.log.filterMap Notice.deed?).filterMap Deed.interval? = l.retry.timer.intervals
  stopped : Log.written "listener endpoint stopped" l.entries = l.isStopped.toNat

/-- Which messages stand for which deeds. -/
structure Headed (message : String) (fields : List (String × String)) (deed? : Option Deed) :
    Prop where
  accepted : message = "connection accepted" ↔ deed? = some (.counted .acceptedConnections)
  broken : message = "connection broken" ↔ deed? = some (.counted .brokenConnections)
  setupFailed : message = "listening socket setup failed, closing before retry" ↔
    deed? = some (.counted .bindErrors)
  listening : message = "listening" ↔ deed? = some .listened
  waiting : message = "waiting before next listen attempt" ↔ (deed?.bind Deed.interval?).isSome
  interval : ∀ interval, deed?.bind Deed.interval? = some interval →
    fields.lookup "interval" = some interval.text
  stopped : message = "listener endpoint stopped" ↔ deed? = some .ended

theorem headed_entry (address : String) (notice : Notice) :
    Headed (notice.entry address).message (notice.entry address).fields notice.deed? := by
  cases notice <;> constructor <;> simp [Notice.entry, Notice.deed?, List.lookup_cons]

theorem sameStory_of_tells {calls : List AnsweredCall} {l : Listener} {n : Nat}
    (h : Chronicle.Tells reading n .blank l.chronicle) (hn : n < 2 ^ 63)
    (hlistened : l.listened = calls.any AnsweredCall.listens) : SameStory calls l := by
  have hshows := h.shows
  have hheaded := headed_entry l.address
  constructor
  case accepted =>
    exact hshows.toInt_eq_written (by decide) hn fun notice => (hheaded notice).accepted
  case broken =>
    exact hshows.toInt_eq_written (by decide) hn fun notice => (hheaded notice).broken
  case setupFailed =>
    exact hshows.toInt_eq_written (by decide) hn fun notice => (hheaded notice).setupFailed
  case listening =>
    rw [← hlistened]
    exact hshows.written_listened fun notice => (hheaded notice).listening
  case waiting =>
    exact hshows.texts_waited (fun notice => (hheaded notice).waiting) fun notice =>
      (hheaded notice).interval
  case intervals => exact hshows.waited.symm
  case stopped => exact hshows.written_ended fun notice => (hheaded notice).stopped

section Run

variable {address : String} {options : Options} {parts : Parts} {l₀ : Listener}

theorem tells_begun {bind : BindAddress} (unused : Parts.Unused parts)
    (fresh : parts.stats = {}) :
    Chronicle.Tells reading 0 .blank (begun address bind options parts).chronicle := by
  have hblank : (Listener.fresh address bind options parts).chronicle = .blank := by
    have hintervals : parts.timer.intervals = [] := by rw [unused.timer]
    change Chronicle.mk [] parts.stats parts.timer.intervals [] false false = _
    rw [hintervals, fresh]
    rfl
  have hcreated : Tells 0 (Listener.fresh address bind options parts)
      (begun address bind options parts) :=
    tells_silent .created rfl rfl (.refl ..)
  rwa [Tells, hblank] at hcreated

/-- What carries the story through a run. -/
structure Told (first : List AnsweredCall) (h : History) (l : Listener) : Prop where
  coherent : Coherent l
  tells : ∃ n, Chronicle.Tells reading n .blank l.chronicle ∧ Few h.events n l
  listened_eq : l.listened = (first ++ h.calls).any AnsweredCall.listens

theorem told_created (unused : Parts.Unused parts) (fresh : parts.stats = {})
    (created : create address options parts = .ok (.done l₀)) :
    Told (parts.socket.callsUntil l₀.socket) [] l₀ := by
  obtain ⟨bind, -, hs⟩ := exists_setUp_begun created
  have silent : Silent (begun address bind options parts) := silent_begun unused
  refine ⟨coherent_setUp silent hs,
    ⟨_, (tells_begun unused fresh).trans (tells_setUp silent hs), ?_, ?_⟩, ?_⟩
  · rw [Nat.zero_add]
    exact (Bool.toNat_le _).trans (Nat.le_max_left ..)
  · intro _ hstate
    simp [hstate]
  · have hfirst : (parts.socket.callsUntil l₀.socket).any AnsweredCall.listens = l₀.listened :=
      listens_setUp silent hs
    simpa [History.calls] using hfirst.symm

theorem told_run (unused : Parts.Unused parts) (fresh : parts.stats = {})
    (created : create address options parts = .ok (.done l₀)) (actions : List Action) :
    Told (parts.socket.callsUntil l₀.socket) (l₀.history actions) (l₀.run actions).machine := by
  refine Outcome.machine_history_induction (P := Told (parts.socket.callsUntil l₀.socket))
    (told_created unused fresh created) ?_ ?_ actions
  · rintro h l a l' ⟨hl, ⟨n, htells, hfew⟩, hlistened⟩ hstep
    have hs := stepped_of_step hstep
    have hl' := coherent_step hl hstep
    refine ⟨hl', ⟨_, htells.trans (tells_stepped hl hs), ?_⟩, ?_⟩
    · rw [History.events_snoc]
      exact few_stepped hl hs hfew
    · rw [listened_stepped hl hl' hs, hlistened, History.calls_snoc]
      simp [Bool.or_assoc]
  · -- Of a request that is refused nothing is left but a notice, which tells of no deed.
    rintro h l a v m ⟨hl, ⟨n, htells, hfew⟩, hlistened⟩ hstep
    rw [eq_note_of_violation hl hstep]
    have hl' : Coherent (l.note (.refused v)) := hl.congr rfl rfl rfl rfl rfl rfl
    refine ⟨hl', ⟨n, ?_, hfew.le, hfew.working⟩, hlistened⟩
    exact htells.followed (tells_silent (.refused v) rfl rfl (.refl ..))

theorem sameStory_run (unused : Parts.Unused parts) (fresh : parts.stats = {})
    (created : create address options parts = .ok (.done l₀)) (actions : List Action)
    (few : (l₀.history actions).events < 2 ^ 63) :
    SameStory (parts.socket.callsUntil l₀.socket ++ (l₀.history actions).calls)
      (l₀.run actions).machine := by
  obtain ⟨-, ⟨n, htells, hfew⟩, hlistened⟩ := told_run unused fresh created actions
  have hle := hfew.le
  exact sameStory_of_tells htells (by omega) hlistened

end Run

end Listener

end EndpointLifecycle
