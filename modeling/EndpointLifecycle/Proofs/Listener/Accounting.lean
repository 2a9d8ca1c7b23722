import EndpointLifecycle.Proofs.Listener.Reachable
import Mathlib.Algebra.Group.Nat.Defs

/-!
# Every connection is accounted for

A number that is given to an acceptor is pending, established or retired, one of them at a time and
in this order, whatever happens to the listener. How many peers were accepted and which connections
have ended is read off the history of the run, and the statistics and the listener agree with it.
-/

namespace EndpointLifecycle

/-- Started once, at work ever since, and never asked to stop. -/
structure Activity.Undisturbed (a : Activity) : Prop where
  status_eq : a.status = .running
  starts_eq : a.starts = 1
  stops_eq : a.stops = 0

namespace Acceptors

def StartedOnce (p : Acceptors) : Prop := ∀ pair ∈ p.created, pair.2.starts = 1

variable {p : Acceptors}

theorem StartedOnce.modify (h : p.StartedOnce) (chosen : ConnectionId → Bool)
    {f : Activity → Activity} (hf : ∀ a, (f a).starts = a.starts) :
    (p.modify chosen f).StartedOnce := by
  intro pair hpair
  obtain ⟨old, hold, rfl⟩ := List.mem_map.1 hpair
  have hstarts := h old hold
  dsimp only
  split
  · rw [hf, hstarts]
  · exact hstarts

theorem StartedOnce.create (h : p.StartedOnce) (id : ConnectionId) : (p.create id).StartedOnce := by
  intro pair hpair
  rcases List.mem_append.1 hpair with hold | hnew
  · exact h pair hold
  · obtain rfl := List.mem_singleton.1 hnew
    rfl

theorem StartedOnce.stop (h : p.StartedOnce) (ids : List ConnectionId) :
    (p.stop ids).StartedOnce :=
  h.modify _ Activity.starts_stop

theorem StartedOnce.completeStop (h : p.StartedOnce) (id : ConnectionId) :
    (p.completeStop id).StartedOnce :=
  h.modify _ Activity.starts_completeStop

theorem undisturbed_create {id : ConnectionId} (h : id ∉ p.numbers) :
    ∃ a, (p.create id).find? id = some a ∧ a.Undisturbed := by
  have hnone : p.find? id = none := by
    rw [← Option.not_isSome_iff_eq_none, isSome_find?]
    exact h
  refine ⟨_, by rw [find?_create, hnone, Option.none_or, if_pos rfl], ⟨rfl, rfl, rfl⟩⟩

theorem undisturbed_stop {id : ConnectionId} {ids : List ConnectionId} (hid : id ∉ ids)
    (h : ∃ a, p.find? id = some a ∧ a.Undisturbed) :
    ∃ a, (p.stop ids).find? id = some a ∧ a.Undisturbed := by
  obtain ⟨a, ha, hu⟩ := h
  exact ⟨a, by rw [find?_stop, ha]; simp [hid], hu⟩

/-- There is no stop to complete of an acceptor that was never asked to stop. -/
theorem undisturbed_completeStop {id : ConnectionId} (other : ConnectionId)
    (h : ∃ a, p.find? id = some a ∧ a.Undisturbed) :
    ∃ a, (p.completeStop other).find? id = some a ∧ a.Undisturbed := by
  obtain ⟨a, ha, hu⟩ := h
  have hc : a.completeStop = a := by simp [Activity.completeStop, hu.status_eq]
  exact ⟨a, by rw [find?_completeStop, ha]; simp [hc], hu⟩

end Acceptors

namespace Listener

/-- Whether the pending acceptor of a listener at work reports its peer. -/
def accepts (l : Listener) : Action → Bool
  | .event (.connection id .accepted) => l.state = .active ∧ l.pending = some id
  | _ => false

/-- The established connection whose end is reported. -/
def ends (l : Listener) : Action → List ConnectionId
  | .event (.connection id .stopped) => if id ∈ l.established then [id] else []
  | _ => []

/-- The pending acceptor, when the shutdown has left the stage in which it waits for it. -/
def drops (l l' : Listener) : List ConnectionId :=
  if l'.phase = .active ∨ l'.state = .stoppingAcceptor then [] else l.pending.toList

namespace History

/-- How many peers were accepted. -/
def accepted (h : History) : Nat := h.countP fun t => t.before.accepts t.action

/-- The connections that have ended. -/
def ended (h : History) : List ConnectionId := h.flatMap fun t => t.before.ends t.action

/-- The numbers that the listener has given up, because the connection ended or because the
shutdown dropped the acceptor. -/
def retired (h : History) : List ConnectionId :=
  h.flatMap fun t => t.before.ends t.action ++ t.before.drops t.after

theorem accepted_snoc (h : History) (t : Transition Listener Action) :
    accepted (h ++ [t]) = h.accepted + (t.before.accepts t.action).toNat := by
  cases ht : t.before.accepts t.action <;> simp [accepted, ht]

theorem ended_snoc (h : History) (t : Transition Listener Action) :
    ended (h ++ [t]) = h.ended ++ t.before.ends t.action := by
  simp [ended]

theorem retired_snoc (h : History) (t : Transition Listener Action) :
    retired (h ++ [t]) = h.retired ++ (t.before.ends t.action ++ t.before.drops t.after) := by
  simp [retired]

end History

/-- The books of a listener that has accepted so many peers, and given up the numbers `retired`,
among them those of the connections that have `ended`. -/
structure Books (accepted : Nat) (ended retired : List ConnectionId) (l : Listener) : Prop where
  coherent : Coherent l
  accepted_eq : l.stats.get .acceptedConnections = Int64.ofNat accepted
  given_eq : accepted = l.nextId - 1
  established_eq : l.established.length + ended.length = accepted
  owned_once : (l.pending.toList ++ l.established ++ retired).Perm (List.range l.nextId)
  started_once : l.acceptors.StartedOnce
  pending_undisturbed : l.state = .active → ∀ id, l.pending = some id →
    ∃ a, l.acceptors.find? id = some a ∧ a.Undisturbed

section Books

variable {n : Nat} {ended retired : List ConnectionId} {l l' m : Listener}

/-- Nothing that the books record has changed. -/
theorem Books.congr (h : Books n ended retired l) (hc : Coherent l')
    (hstats : l'.stats.get .acceptedConnections = l.stats.get .acceptedConnections)
    (hnext : l'.nextId = l.nextId) (hpending : l'.pending = l.pending)
    (hestablished : l'.established = l.established) (hstarted : l'.acceptors.StartedOnce)
    (hundisturbed : l'.state = .active → ∀ id, l'.pending = some id →
      ∃ a, l'.acceptors.find? id = some a ∧ a.Undisturbed) : Books n ended retired l' where
  coherent := hc
  accepted_eq := hstats.trans h.accepted_eq
  given_eq := by rw [hnext]; exact h.given_eq
  established_eq := by rw [hestablished]; exact h.established_eq
  owned_once := by rw [hpending, hestablished, hnext]; exact h.owned_once
  started_once := hstarted
  pending_undisturbed := hundisturbed

theorem books_startAcceptor (hc : Coherent l.startAcceptor) (hnext : l.nextId = n)
    (haccepted : l.stats.get .acceptedConnections = Int64.ofNat n)
    (hestablished : l.established.length + ended.length = n)
    (howned : (l.established ++ retired).Perm (List.range n))
    (hstarted : l.acceptors.StartedOnce) (hfresh : n ∉ l.acceptors.numbers) :
    Books n ended retired l.startAcceptor where
  coherent := hc
  accepted_eq := haccepted
  given_eq := by rw [← hnext]; rfl
  established_eq := hestablished
  owned_once := by
    have hnew : (n :: (l.established ++ retired)).Perm (List.range n ++ [n]) :=
      (howned.cons _).trans (List.perm_append_singleton _ _).symm
    simpa [startAcceptor, hnext, List.range_succ] using hnew
  started_once := hstarted.create _
  pending_undisturbed := by
    intro _ id hid
    obtain rfl : l.nextId = id := by simpa [startAcceptor] using hid
    exact Acceptors.undisturbed_create (hnext ▸ hfresh)

theorem Books.promote (h : Books n ended retired l) {id : ConnectionId} (active : l.state = .active)
    (pending : l.pending = some id) : Books (n + 1) ended retired (l.promote id) := by
  have hid : id + 1 = l.nextId := h.coherent.pending_newest id pending
  have hn : l.nextId = n + 1 := by
    rw [h.given_eq, ← hid]
    rfl
  refine books_startAcceptor (coherent_promote h.coherent active pending) hn ?_ ?_ ?_
    h.started_once ?_
  · rw [Statistics.get_record_self, h.accepted_eq, Int64.ofNat_add]
    rfl
  · have hlength := h.established_eq
    simp only [List.length_append, List.length_singleton]
    omega
  · have howned := h.owned_once
    rw [pending, hn] at howned
    refine List.Perm.trans ?_ howned
    simp
  · change n + 1 ∉ l.acceptors.numbers
    rw [h.coherent.numbers_eq, hn]
    exact List.not_mem_range_self

theorem Books.release (h : Books n ended retired l) {id : ConnectionId}
    (established : id ∈ l.established) :
    Books n (ended ++ [id]) (retired ++ [id]) (l.release id) := by
  have hrelease : (l.release id).established = l.established.erase id := by
    rw [h.coherent.established_nodup.erase_eq_filter]
    exact List.filter_congr fun x _ => by simp [bne, BEq.beq]
  exact
    { coherent := coherent_release h.coherent id
      accepted_eq := h.accepted_eq
      given_eq := h.given_eq
      established_eq := by
        have hlength := List.length_erase_add_one established
        have hall := h.established_eq
        rw [hrelease, List.length_append, List.length_singleton]
        omega
      owned_once := by
        rw [hrelease]
        refine List.Perm.trans ?_ h.owned_once
        have hback : (l.established.erase id ++ [id]).Perm l.established :=
          (List.perm_append_singleton _ _).trans (List.perm_cons_erase established).symm
        have hmiddle : (l.established.erase id ++ (retired ++ [id])).Perm
            (l.established.erase id ++ [id] ++ retired) := by
          rw [List.append_assoc]
          exact List.perm_append_comm.append_left _
        rw [List.append_assoc, List.append_assoc]
        exact (hmiddle.trans (hback.append_right _)).append_left _
      started_once := h.started_once
      pending_undisturbed := h.pending_undisturbed }

/-- There is nothing in the books of a listener that has not listened yet. -/
theorem Books.eq_nil (h : Books n ended retired l) (silent : Silent l) :
    n = 0 ∧ ended = [] ∧ retired = [] := by
  have hn : n = 0 := by rw [h.given_eq, silent.nextId_eq]
  have hlength := h.established_eq
  have howned := h.owned_once
  rw [silent.pending_eq, silent.established_eq, silent.nextId_eq] at howned
  refine ⟨hn, List.length_eq_zero_iff.1 (by omega), ?_⟩
  exact List.perm_nil.1 howned

theorem books_silent (silent : Silent l) (hc : Coherent l) (hs : l.state ≠ .active)
    (haccepted : l.stats.get .acceptedConnections = 0) (hstarted : l.acceptors.StartedOnce) :
    Books 0 [] [] l where
  coherent := hc
  accepted_eq := haccepted
  given_eq := by rw [silent.nextId_eq]
  established_eq := by rw [silent.established_eq]; rfl
  owned_once := by rw [silent.pending_eq, silent.established_eq, silent.nextId_eq]; rfl
  started_once := hstarted
  pending_undisturbed := fun hactive => absurd hactive hs

theorem books_setUp (silent : Silent l) (hs : SetUp l l')
    (haccepted : l.stats.get .acceptedConnections = 0) (hstarted : l.acceptors.StartedOnce) :
    Books 0 [] [] l' := by
  have hc := coherent_setUp silent hs
  have hsilent := silent_setUp silent hs
  cases hs with
  | openFailed =>
    refine books_silent (hsilent (by simp)) hc (by simp) ?_ hstarted
    simp [waitBeforeRetry, note, haccepted]
  | bindFailed | listenFailed =>
    refine books_silent (hsilent (by simp)) hc (by simp) ?_ hstarted
    simp [closeAfterFailure, Statistics.get_record_of_ne, haccepted]
  | listening =>
    refine books_startAcceptor hc silent.nextId_eq ?_ ?_ ?_ hstarted ?_
    · rw [Statistics.get_clearError, haccepted]
      rfl
    · simp [note, silent.established_eq]
    · simp [note, silent.established_eq]
    · simp [note, silent.numbers_eq]

theorem books_handled (h : Books n ended retired l) {e : Event} (active : l.phase = .active)
    (he : Handled l e l') :
    Books (n + (l.accepts (.event e)).toNat) (ended ++ l.ends (.event e))
      (retired ++ l.ends (.event e)) l' := by
  have hc := coherent_handled h.coherent he
  cases he with
  | accepted hactive pending =>
    simpa [accepts, ends, hactive, pending] using h.promote hactive pending
  | @broken id hactive other established =>
    have hbooks : Books n ended retired (l.recycle id) := by
      refine h.congr hc ?_ rfl rfl rfl (h.started_once.stop _) ?_
      · simp [recycle, Statistics.get_record_of_ne]
      · intro _ p hp
        have hne : p ∉ [id] := fun hm => other (List.mem_singleton.1 hm ▸ hp)
        exact Acceptors.undisturbed_stop hne (h.pending_undisturbed hactive p hp)
    simpa [accepts, ends] using hbooks
  | ended hactive other established =>
    simpa [accepts, ends, established] using h.release established
  | halfClosed => simpa [accepts, ends] using h
  | closed closing =>
    have hbooks : Books n ended retired l.waitBeforeRetry :=
      h.congr hc rfl rfl rfl rfl h.started_once (by simp)
    simpa [accepts, ends] using hbooks
  | timedOut waiting =>
    have hbooks := h.congr hc rfl rfl rfl rfl h.started_once (by simp)
    simpa [accepts, ends] using hbooks
  | rested stopping =>
    have silent := h.coherent.silent active (by simp [stopping])
    obtain ⟨rfl, rfl, rfl⟩ := h.eq_nil silent
    have hbooks := books_setUp silent (setUp_startListening l) h.accepted_eq h.started_once
    simpa [accepts, ends] using hbooks

theorem books_absorbed (h : Books n ended retired l) {e : Event} (ha : Absorbed l e m) :
    Books n (ended ++ l.ends (.event e)) (retired ++ l.ends (.event e)) m := by
  cases ha with
  | retry | halfClosed | closed | broken => simpa [ends] using h
  | @pending id e pending =>
    have hmem := h.coherent.pending_notMem id pending
    cases e <;> simpa [ends, hmem] using h
  | ended other established => simpa [ends, established] using h.release established
  | @late id e other gone =>
    have hbooks : Books n ended retired (l.note (.lateEvent id e)) :=
      h.congr (h.coherent.congr rfl rfl rfl rfl rfl rfl) rfl rfl rfl rfl h.started_once
        h.pending_undisturbed
    cases e <;> simpa [ends, gone] using hbooks

theorem drops_self (h : Coherent l) (stopping : l.phase ≠ .active) : l.drops l = [] := by
  unfold drops
  split
  case isTrue => rfl
  case isFalse hne =>
    have hactive : l.state ≠ .active := fun hs => stopping (by rw [h.phase_eq, hs]; rfl)
    rw [h.pending_eq_none hactive fun hs => hne (.inr hs)]
    rfl

/-- The shutdown changes the books only by dropping the pending acceptor. -/
theorem books_advance (h : Books n ended retired m) (stopping : m.phase ≠ .active)
    (ha : m.advanceShutdown = .done l') : Books n ended (retired ++ m.drops l') l' := by
  refine (advanceShutdown_induction (P := fun x => x.phase ≠ .active ∧
    Books n ended (retired ++ m.drops x) x ∧
      (x.state = .stoppingAcceptor → x.pending = m.pending)) ?_ ha
    ⟨stopping, ?_, fun _ => rfl⟩).2.1
  · rintro x x' hp ⟨hphase, hx, hpending⟩
    have hc := coherent_passed hx.coherent hp
    cases hp with
    | acceptor state =>
      refine ⟨hphase, { hx with coherent := hc, owned_once := ?_, pending_undisturbed := ?_ }, ?_⟩
      · have howned := hx.owned_once
        rw [hpending state] at howned
        refine List.Perm.trans ?_ howned
        have hperm : (x.established ++ retired ++ m.pending.toList).Perm
            (m.pending.toList ++ (x.established ++ retired)) := List.perm_append_comm
        simpa [drops, hphase, state, List.append_assoc] using hperm
      · simp
      · simp
    | socket state =>
      have hdrops : m.drops { x with
          acceptors := x.acceptors.stop x.established
          state := .stoppingConnections } = m.drops x := by simp [drops, state]
      rw [hdrops]
      exact ⟨hphase, hx.congr hc rfl rfl rfl rfl (hx.started_once.stop _) (by simp), by simp⟩
    | connections state =>
      have hdrops : m.drops { x.note .stopped with
          state := .idle
          phase := .stopped
          stats := x.stats.markStopped } = m.drops x := by simp [drops, state, hphase]
      rw [hdrops]
      exact ⟨by simp, hx.congr hc (by simp) rfl rfl rfl hx.started_once (by simp), by simp⟩
  · rw [drops_self h.coherent stopping, List.append_nil]
    exact h

theorem books_stepped (h : Books n ended retired l) {a : Action} (hs : Stepped l a l') :
    Books (n + (l.accepts a).toNat) (ended ++ l.ends a) (retired ++ (l.ends a ++ l.drops l'))
      l' := by
  cases hs with
  | handled active he =>
    have hdrops : l.drops l' = [] := by simp [drops, phase_handled he, active]
    simpa [hdrops] using books_handled h active he
  | @absorbed e m _ stopping ha advanced =>
    have hstate : l.state ≠ .active := by
      intro hs
      rw [h.coherent.phase_eq, hs] at stopping
      cases stopping
    have haccepts : l.accepts (.event e) = false := by
      unfold accepts
      split <;> simp [hstate]
    have hkept : m.phase = l.phase ∧ m.pending = l.pending := by cases ha <;> exact ⟨rfl, rfl⟩
    have hdrops : l.drops l' = m.drops l' := by simp [drops, hkept.2]
    have hbooks := books_advance (books_absorbed h ha) (by simp [hkept.1, stopping]) advanced
    simpa [haccepts, hdrops, List.append_assoc] using hbooks
  | stopBegun active advanced =>
    have hbegun : Books n ended retired l.beginStop :=
      h.congr (coherent_beginStop h.coherent) rfl rfl rfl rfl (h.started_once.stop _)
        (by simp [beginStop])
    have hdrops : l.drops l' = l.beginStop.drops l' := rfl
    simpa [accepts, ends, hdrops] using books_advance hbegun (by simp [beginStop]) advanced
  | stopIgnored inactive => simpa [accepts, ends, drops_self h.coherent inactive] using h
  | completed c =>
    have hc := coherent_completeStop h.coherent c
    have hdrops : l.drops (l.completeStop c) = [] := by
      by_cases active : l.phase = .active
      · cases c <;> simp [drops, completeStop, active]
      · have hself := drops_self h.coherent active
        cases c <;> exact hself
    have hbooks : Books n ended retired (l.completeStop c) := by
      cases c with
      | socket | timer => exact h.congr hc rfl rfl rfl rfl h.started_once h.pending_undisturbed
      | acceptor id =>
        refine h.congr hc rfl rfl rfl rfl (h.started_once.completeStop id) ?_
        intro hs p hp
        exact Acceptors.undisturbed_completeStop id (h.pending_undisturbed hs p hp)
    simpa [accepts, ends, hdrops] using hbooks
  | injected point kind =>
    have hdrops : l.drops { l with socket := l.socket.inject point kind } = [] := by
      by_cases active : l.phase = .active
      · simp [drops, active]
      · have hself := drops_self h.coherent active
        exact hself
    have hbooks : Books n ended retired { l with socket := l.socket.inject point kind } :=
      h.congr (h.coherent.congr rfl rfl rfl rfl rfl rfl) rfl rfl rfl rfl h.started_once
        h.pending_undisturbed
    simpa [accepts, ends, hdrops] using hbooks

end Books

/-- What is known of a listener after the history `h`. -/
structure Accounted (h : History) (l : Listener) : Prop where
  pending_at_work : l.state = .active →
    ∃ id a, l.pending = some id ∧ l.acceptors.find? id = some a ∧ a.Undisturbed
  pending_eq_none : l.state ≠ .active → l.state ≠ .stoppingAcceptor → l.pending = none
  numbers_eq : l.acceptors.numbers = List.range l.acceptors.created.length
  started_once : l.acceptors.StartedOnce
  /-- Each number that was given out is in one place only, and there only once. -/
  owned_once : (l.pending.toList ++ l.established ++ h.retired).Perm l.acceptors.numbers
  retired_stays : ∀ past recent : History, h = past ++ recent → ∀ id ∈ past.retired,
    l.pending ≠ some id ∧ id ∉ l.established
  pending_newest : ∀ id, l.pending = some id → l.acceptors.numbers.getLast? = some id
  accepted_eq : (l.stats.get .acceptedConnections).toInt = h.accepted
  created_eq : h.accepted = l.acceptors.created.length - 1
  established_eq :
    (l.established.length : Int) = (l.stats.get .acceptedConnections).toInt - h.ended.length

theorem Books.accounted {h : History} {l : Listener}
    (books : Books h.accepted h.ended h.retired l) (hlength : h.length < 2 ^ 63) :
    Accounted h l := by
  have hnumbers := books.coherent.numbers_eq
  have hcreated : l.acceptors.created.length = l.nextId := by
    simpa [Acceptors.numbers] using congrArg List.length hnumbers
  have haccepted : (l.stats.get .acceptedConnections).toInt = h.accepted := by
    rw [books.accepted_eq]
    exact Int64.toInt_ofNat_of_lt (List.countP_le_length.trans_lt hlength)
  exact
    { pending_at_work := by
        intro hs
        obtain ⟨id, hid⟩ := Option.isSome_iff_exists.1 (books.coherent.pending_isSome hs)
        obtain ⟨a, ha, hu⟩ := books.pending_undisturbed hs id hid
        exact ⟨id, a, hid, ha, hu⟩
      pending_eq_none := books.coherent.pending_eq_none
      numbers_eq := by rw [hnumbers, hcreated]
      started_once := books.started_once
      owned_once := by
        rw [hnumbers]
        exact books.owned_once
      retired_stays := by
        rintro past recent rfl id hid
        have hnodup := books.owned_once.nodup_iff.2 List.nodup_range
        rw [List.nodup_append] at hnodup
        have hretired : id ∈ History.retired (past ++ recent) := by
          rw [History.retired, List.flatMap_append]
          exact List.mem_append_left _ hid
        constructor
        · intro hp
          exact hnodup.2.2 id (by simp [hp]) id hretired rfl
        · intro he
          exact hnodup.2.2 id (by simp [he]) id hretired rfl
      pending_newest := by
        intro id hid
        rw [hnumbers, ← books.coherent.pending_newest id hid, List.range_succ]
        simp
      accepted_eq := haccepted
      created_eq := by rw [books.given_eq, hcreated]
      established_eq := by
        have hestablished := books.established_eq
        rw [haccepted]
        omega }

theorem books_run {address : String} {options : Options} {parts : Parts} {l₀ l : Listener}
    {actions : List Action} (unused : Parts.Unused parts) (counted : parts.stats = {})
    (created : create address options parts = .ok (.done l₀)) (hrun : l₀.run actions = .done l) :
    Books (l₀.history actions).accepted (l₀.history actions).ended (l₀.history actions).retired
      l := by
  refine Outcome.history_induction
    (P := fun (h : History) l => Books h.accepted h.ended h.retired l) ?_ ?_ hrun
  · obtain ⟨bind, -, setUp⟩ := exists_setUp_begun created
    refine books_setUp (silent_begun unused) setUp ?_ ?_
    · simp [begun, fresh, note, counted]
      rfl
    · simp [begun, fresh, note, Acceptors.StartedOnce, unused.acceptors]
  · intro h m a m' hbooks hstep
    rw [History.accepted_snoc, History.ended_snoc, History.retired_snoc]
    exact books_stepped hbooks (stepped_of_step hstep)

theorem connections_accounted {address : String} {options : Options} {parts : Parts}
    {l₀ l : Listener} {actions : List Action} (unused : Parts.Unused parts)
    (counted : parts.stats = {}) (created : create address options parts = .ok (.done l₀))
    (hrun : l₀.run actions = .done l) (hlength : actions.length < 2 ^ 63) :
    Accounted (l₀.history actions) l :=
  (books_run unused counted created hrun).accounted
    ((Outcome.length_history_le l₀ actions).trans_lt hlength)

/-- One connection has ended, one goes on, and the stop has dropped the acceptor. -/
theorem connections_accounted_ended_connection :
    ∃ l₀ l, create "*:5555" {} {} = .ok (.done l₀) ∧
      l₀.run
        [.event (.connection 0 .accepted), .event (.connection 1 .accepted),
          .event (.connection 0 .error), .completeStop (.acceptor 0),
          .event (.connection 0 .stopped), .stop, .completeStop (.acceptor 2),
          .event (.connection 2 .stopped)] = .done l ∧
      l.established = [1] ∧
      Accounted
        (l₀.history
          [.event (.connection 0 .accepted), .event (.connection 1 .accepted),
            .event (.connection 0 .error), .completeStop (.acceptor 0),
            .event (.connection 0 .stopped), .stop, .completeStop (.acceptor 2),
            .event (.connection 2 .stopped)]) l := by
  have created : create "*:5555" {} {} = .ok (.done _) := rfl
  exact ⟨_, _, created, rfl, rfl,
    connections_accounted ⟨rfl, rfl, rfl, rfl⟩ rfl created rfl (by decide)⟩

end Listener

end EndpointLifecycle
