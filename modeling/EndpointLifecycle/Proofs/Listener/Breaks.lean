import EndpointLifecycle.Proofs.Listener.Chronicle
import EndpointLifecycle.Proofs.Listener.Membership
import Mathlib.Algebra.Ring.Int.Defs
import Mathlib.Data.List.Nodup
import Mathlib.Data.List.Perm.Subperm

/-!
# How often connections break

A connection that has broken is asked to stop and stays established until it has, and a listener at
work counts each error that it reports in the meantime. So a connection is counted as broken as
often as it has reported an error, and once at most exactly if none of them does so again.
-/

namespace EndpointLifecycle

theorem Acceptors.stops_create (p : Acceptors) (id other : ConnectionId) :
    (p.create id).stops other = p.stops other := by
  unfold stops
  rw [find?_create]
  cases p.find? other with
  | some a => rfl
  | none => by_cases h : id = other <;> simp [h, Activity.start]

namespace Listener

/-- The connection of whose fault a listener at work is told. -/
def faults (l : Listener) (a : Action) : List ConnectionId :=
  (a.reporters .error).filter fun id => l.state = .active ∧ id ∈ l.established

def Action.isOf (id : ConnectionId) : Action → Bool
  | .event (.connection other _) => other = id
  | _ => false

/-- What was added to the count of broken connections. -/
def brokenAdded (t : Transition Listener Action) : Int :=
  (t.after.stats.get .brokenConnections - t.before.stats.get .brokenConnections).toInt

namespace History

/-- The connections that broke, as often as the listener at work was told so. -/
def faults (h : History) : List ConnectionId := h.flatMap fun t => t.before.faults t.action

/-- What a connection has contributed to the count of broken connections by its events. -/
def brokenBy (h : History) (id : ConnectionId) : Int :=
  ((h.filter (·.action.isOf id)).map brokenAdded).sum

theorem faults_snoc (h : History) (t : Transition Listener Action) :
    faults (h ++ [t]) = h.faults ++ t.before.faults t.action := by
  simp [faults]

theorem brokenBy_snoc (h : History) (t : Transition Listener Action) (id : ConnectionId) :
    brokenBy (h ++ [t]) id = h.brokenBy id + if t.action.isOf id then brokenAdded t else 0 := by
  cases ht : t.action.isOf id <;> simp [brokenBy, ht]

end History

section Step

variable {l l' m : Listener} {a : Action} {id : ConnectionId}

theorem mem_faults : id ∈ l.faults a ↔
    a = .event (.connection id .error) ∧ l.state = .active ∧ id ∈ l.established := by
  simp [faults, Action.mem_reporters]

theorem faults_of_state_ne (h : l.state ≠ .active) (a : Action) : l.faults a = [] := by
  simp [faults, h]

theorem Action.length_reporters_le (a : Action) (e : ConnectionEvent) :
    (a.reporters e).length ≤ a.isEvent.toNat := by
  unfold reporters
  split
  case h_1 id e' => by_cases h : e' = e <;> simp [h, isEvent]
  case h_2 => exact Nat.zero_le _

/-- Each fault is an event of its own. -/
theorem length_faults_le (l : Listener) (a : Action) : (l.faults a).length ≤ a.isEvent.toNat :=
  List.length_filter_le .. |>.trans (a.length_reporters_le .error)

theorem broken_setUp (h : SetUp l l') :
    l'.stats.get .brokenConnections = l.stats.get .brokenConnections := by
  cases h with
  | openFailed => simp [waitBeforeRetry, note]
  | bindFailed | listenFailed => simp [closeAfterFailure, note, Statistics.get_record_of_ne]
  | listening => simp [startAcceptor, note]

theorem stops_setUp (h : SetUp l l') (id : ConnectionId) :
    l'.acceptors.stops id = l.acceptors.stops id := by
  cases h with
  | openFailed | bindFailed | listenFailed => rfl
  | listening => exact Acceptors.stops_create ..

/-- A listener counts a broken connection for each fault, and asks it to stop. -/
structure Counted (l : Listener) (a : Action) (l' : Listener) : Prop where
  broken_eq : l'.stats.get .brokenConnections =
    l.stats.get .brokenConnections + Int64.ofNat (l.faults a).length
  stops_eq : l'.phase = .active → ∀ id,
    l'.acceptors.stops id = l.acceptors.stops id + (l.faults a).count id

theorem counted_of_eq (hfaults : l.faults a = [])
    (hbroken : l'.stats.get .brokenConnections = l.stats.get .brokenConnections)
    (hstops : l'.phase = .active → ∀ id, l'.acceptors.stops id = l.acceptors.stops id) :
    Counted l a l' where
  broken_eq := by
    rw [hbroken, hfaults]
    exact (Int64.add_zero _).symm
  stops_eq := by simpa [hfaults] using hstops

theorem counted_recycle (hl : Coherent l) (active : l.state = .active)
    (established : id ∈ l.established) :
    Counted l (.event (.connection id .error)) (l.recycle id) := by
  have hfaults : l.faults (.event (.connection id .error)) = [id] := by
    simp [faults, Action.reporters, active, established]
  constructor
  case broken_eq =>
    rw [hfaults]
    exact l.stats.get_record_self .brokenConnections 1
  case stops_eq =>
    rintro - other
    rw [hfaults]
    change (l.acceptors.stop [id]).stops other = _
    by_cases hother : other = id
    case pos =>
      have hmem : id ∈ l.acceptors.numbers := by
        rw [hl.numbers_eq, List.mem_range]
        exact hl.established_lt id established
      rw [hother, Acceptors.stops_stop_of_mem _ List.mem_cons_self hmem]
      simp
    case neg =>
      rw [Acceptors.stops_stop_of_notMem _ (by simpa using hother)]
      simp [Ne.symm hother]

theorem counted_handled {e : Event} (hl : Coherent l) (h : Handled l e l') :
    Counted l (.event e) l' := by
  cases h with
  | accepted =>
    refine counted_of_eq (by simp [faults, Action.reporters]) ?_ fun _ _ => ?_
    · simp [promote, startAcceptor, note, Statistics.get_record_of_ne]
    · exact Acceptors.stops_create ..
  | broken active _ established => exact counted_recycle hl active established
  | rested =>
    have hs := setUp_startListening l
    exact counted_of_eq (by simp [faults, Action.reporters]) (broken_setUp hs)
      fun _ => stops_setUp hs
  | ended | halfClosed | closed | timedOut =>
    exact counted_of_eq (by simp [faults, Action.reporters]) rfl fun _ _ => rfl

theorem counted_stepped (hl : Coherent l) (h : Stepped l a l') : Counted l a l' := by
  by_cases active : l.phase = .active
  case neg =>
    have hwinds := windsDown_stepped hl active h
    have hstate : l.state ≠ .active := fun hs => active (by rw [hl.phase_eq, hs]; rfl)
    exact counted_of_eq (faults_of_state_ne hstate a) (hwinds.host.get_eq _)
      fun hp => absurd hp (hwinds.host.phase_ne active)
  case pos =>
    cases h with
    | handled _ he => exact counted_handled hl he
    | absorbed stopping => simp [active] at stopping
    | stopBegun _ advanced =>
      have hwinds := (WindsDown.refl (coherent_beginStop hl)).advance advanced
      exact counted_of_eq rfl (hwinds.host.get_eq _)
        fun hp => absurd hp (phase_stopBegun_ne hl advanced)
    | stopIgnored inactive => exact absurd active inactive
    | completed x =>
      cases x with
      | socket | timer => exact counted_of_eq rfl rfl fun _ _ => rfl
      | acceptor id => exact counted_of_eq rfl rfl fun _ _ => Acceptors.stops_completeStop ..
    | injected => exact counted_of_eq rfl rfl fun _ _ => rfl

end Step

/-- The count of broken connections after the history `h`. -/
structure Tallied (h : History) (l : Listener) : Prop where
  books : Books h.accepted h.ended h.retired l
  broken_eq : l.stats.get .brokenConnections = Int64.ofNat h.faults.length
  brokenBy_eq : ∀ id, h.brokenBy id = h.faults.count id
  stops_eq : l.phase = .active → ∀ id, l.acceptors.stops id = h.faults.count id
  /-- Only what was accepted can break. -/
  lt_accepted : ∀ id ∈ h.faults, id < h.accepted
  length_le : h.faults.length ≤ h.events

section Tally

variable {h : History} {l l' : Listener} {a : Action} {id : ConnectionId}

theorem Books.lt_accepted {n : Nat} {ended retired : List ConnectionId}
    (books : Books n ended retired l) (active : l.state = .active) (hid : id ∈ l.established) :
    id < n := by
  obtain ⟨p, hp⟩ := Option.isSome_iff_exists.1 (books.coherent.pending_isSome active)
  have hnewest : p + 1 = l.nextId := books.coherent.pending_newest p hp
  have hle : id ≤ p := by
    apply Nat.le_of_lt_succ
    rw [Nat.succ_eq_add_one, hnewest]
    exact books.coherent.established_lt id hid
  have hne : id ≠ p := fun heq => books.coherent.pending_notMem p hp (heq ▸ hid)
  rw [books.given_eq, ← hnewest, Nat.add_sub_cancel]
  exact Nat.lt_of_le_of_ne hle hne

/-- An event contributes to the count of the connection whose event it is, and nothing else does. -/
theorem Counted.brokenAdded_eq (hc : Counted l a l') (id : ConnectionId) :
    (if a.isOf id then brokenAdded ⟨l, a, l'⟩ else 0) = (l.faults a).count id := by
  have hadded : brokenAdded ⟨l, a, l'⟩ = (Int64.ofNat (l.faults a).length).toInt := by
    rw [brokenAdded, hc.broken_eq, Int64.add_comm, Int64.add_sub_cancel]
  rw [hadded]
  cases hfaults : l.faults a with
  | nil => simp
  | cons other rest =>
    obtain rfl : rest = [] := by
      have hle := (length_faults_le l a).trans (Bool.toNat_le _)
      rw [hfaults] at hle
      simpa using hle
    obtain ⟨rfl, -⟩ := mem_faults.1 (hfaults ▸ List.mem_cons_self)
    by_cases hother : other = id <;> simp [Action.isOf, hother]

theorem tallied_stepped (ht : Tallied h l) (hs : Stepped l a l') :
    Tallied (h ++ [⟨l, a, l'⟩]) l' := by
  have hc := counted_stepped ht.books.coherent hs
  constructor
  case books =>
    rw [History.accepted_snoc, History.ended_snoc, History.retired_snoc]
    exact books_stepped ht.books hs
  case broken_eq =>
    rw [History.faults_snoc, hc.broken_eq, ht.broken_eq, List.length_append, Int64.ofNat_add]
  case brokenBy_eq =>
    intro id
    rw [History.brokenBy_snoc, History.faults_snoc, ht.brokenBy_eq, hc.brokenAdded_eq,
      List.count_append, Int.natCast_add]
  case stops_eq =>
    intro active id
    have hbefore := (mark_stepped ht.books.coherent hs active).1
    rw [hc.stops_eq active, ht.stops_eq hbefore, History.faults_snoc, List.count_append]
  case lt_accepted =>
    intro id hid
    rw [History.faults_snoc, List.mem_append] at hid
    rw [History.accepted_snoc]
    obtain hold | hnew := hid
    · exact Nat.lt_add_right _ (ht.lt_accepted id hold)
    · obtain ⟨-, active, hestablished⟩ := mem_faults.1 hnew
      exact Nat.lt_add_right _ (ht.books.lt_accepted active hestablished)
  case length_le =>
    rw [History.faults_snoc, History.events_snoc, List.length_append]
    exact Nat.add_le_add ht.length_le (length_faults_le l a)

end Tally

/-- Each connection is counted as broken once at most, and asked once at most to stop. -/
structure BrokenOnce (h : History) (l : Listener) : Prop where
  contribution_le : ∀ id, h.brokenBy id ≤ 1
  broken_le : (l.stats.get .brokenConnections).toInt ≤ (l.stats.get .acceptedConnections).toInt
  stops_le : l.state = .active → ∀ id ∈ l.established, l.acceptors.stops id ≤ 1

/-- Each connection is counted as broken, and asked to stop, as often as it has reported an
error. -/
structure BrokenByReports (h : History) (l : Listener) : Prop where
  contribution_eq : ∀ id, h.brokenBy id = h.faults.count id
  broken_eq : (l.stats.get .brokenConnections).toInt = h.faults.length
  stops_eq : l.state = .active → ∀ id ∈ l.established, l.acceptors.stops id = h.faults.count id
  accepted : ∀ id ∈ h.faults, (id : Int) < (l.stats.get .acceptedConnections).toInt

section Run

variable {h : History} {address : String} {options : Options} {parts : Parts} {l₀ l : Listener}
  {actions : List Action}

theorem isEvent_of_accepts {a : Action} (h : l.accepts a) : a.isEvent := by
  cases a with
  | event => rfl
  | stop | completeStop | inject => cases h

theorem accepted_le_events (h : History) : h.accepted ≤ h.events :=
  List.countP_mono_left fun _ _ => isEvent_of_accepts

theorem Tallied.brokenByReports (ht : Tallied h l) (few : h.events < 2 ^ 63) :
    BrokenByReports h l where
  contribution_eq := ht.brokenBy_eq
  broken_eq := by
    rw [ht.broken_eq]
    exact Int64.toInt_ofNat_of_lt (ht.length_le.trans_lt few)
  stops_eq := by
    intro active id _
    exact ht.stops_eq (by rw [ht.books.coherent.phase_eq, active]; rfl) id
  accepted := by
    intro id hid
    rw [ht.books.accepted_eq, Int64.toInt_ofNat_of_lt ((accepted_le_events h).trans_lt few)]
    exact Int.ofNat_lt.2 (ht.lt_accepted id hid)

/-- No connection is counted twice exactly if none reports an error twice. -/
theorem Tallied.brokenOnce_iff (ht : Tallied h l) (few : h.events < 2 ^ 63) :
    BrokenOnce h l ↔ h.faults.Nodup := by
  have hreports := ht.brokenByReports few
  constructor
  · intro once
    refine List.nodup_iff_count_le_one.2 fun id => ?_
    have hle := once.contribution_le id
    rw [hreports.contribution_eq] at hle
    exact Int.ofNat_le.1 hle
  · intro nodup
    have hcount (id : ConnectionId) : h.faults.count id ≤ 1 :=
      List.nodup_iff_count_le_one.1 nodup id
    have hlength : h.faults.length ≤ h.accepted := by
      have hsubset : h.faults ⊆ List.range h.accepted := fun id hid =>
        List.mem_range.2 (ht.lt_accepted id hid)
      simpa using (nodup.subperm hsubset).length_le
    constructor
    case contribution_le =>
      intro id
      rw [hreports.contribution_eq]
      exact Int.ofNat_le.2 (hcount id)
    case broken_le =>
      rw [hreports.broken_eq, ht.books.accepted_eq,
        Int64.toInt_ofNat_of_lt ((accepted_le_events h).trans_lt few)]
      exact Int.ofNat_le.2 hlength
    case stops_le =>
      intro active id hid
      rw [hreports.stops_eq active id hid]
      exact hcount id

theorem tallied_run (unused : Parts.Unused parts) (counted : parts.stats = {})
    (created : create address options parts = .ok (.done l₀)) (hrun : l₀.run actions = .done l) :
    Tallied (l₀.history actions) l := by
  refine Outcome.history_induction (P := Tallied) ?_ ?_ hrun
  · obtain ⟨bind, -, setUp⟩ := exists_setUp_begun created
    have books : Books 0 [] [] l₀ :=
      books_run unused counted created (show l₀.run [] = .done l₀ from rfl)
    exact
      { books
        broken_eq := by
          rw [broken_setUp setUp]
          simp [begun, fresh, note, counted]
          rfl
        brokenBy_eq := fun _ => rfl
        stops_eq := by
          intro _ id
          rw [stops_setUp setUp]
          simp [begun, fresh, note, Acceptors.stops, Acceptors.find?, unused.acceptors,
            History.faults]
        lt_accepted := by simp [History.faults]
        length_le := Nat.le_refl _ }
  · intro h m a m' ht hstep
    exact tallied_stepped ht (stepped_of_step hstep)

/-- A connection counts as broken for each error of which a listener at work is told, so that each
counts once at most exactly if the listener is told of none again. -/
theorem broken_once_unless_told_twice (unused : Parts.Unused parts) (counted : parts.stats = {})
    (created : create address options parts = .ok (.done l₀)) (hrun : l₀.run actions = .done l)
    (few : (l₀.history actions).events < 2 ^ 63) :
    BrokenByReports (l₀.history actions) l ∧
      (BrokenOnce (l₀.history actions) l ↔ (l₀.history actions).faults.Nodup) := by
  have ht := tallied_run unused counted created hrun
  exact ⟨ht.brokenByReports few, ht.brokenOnce_iff few⟩

/-- Both connections break, each of them once, and the first has ended in between. -/
theorem broken_once_unless_told_twice_both_broken :
    ∃ l₀ l actions, create "*:5555" {} {} = .ok (.done l₀) ∧ l₀.run actions = .done l ∧
      (l₀.history actions).faults = [0, 1] ∧ l.established = [1] ∧
      l.stats.get .brokenConnections = 2 ∧ BrokenByReports (l₀.history actions) l ∧
      BrokenOnce (l₀.history actions) l := by
  have created : create "*:5555" {} {} = .ok (.done _) := rfl
  let actions : List Action :=
    [.event (.connection 0 .accepted), .event (.connection 1 .accepted),
      .event (.connection 0 .error), .completeStop (.acceptor 0), .event (.connection 0 .stopped),
      .event (.connection 1 .error)]
  let l₀ := startListening (begun "*:5555" ⟨.any, 5555⟩ {} {})
  have hrun : l₀.run actions = .done _ := rfl
  obtain ⟨reports, once_iff⟩ :=
    broken_once_unless_told_twice ⟨rfl, rfl, rfl, rfl⟩ rfl created hrun (by decide)
  exact ⟨l₀, _, actions, created, hrun, rfl, rfl, rfl, reports, once_iff.2 (by decide)⟩

/-- The only connection reports an error twice before it has stopped, and counts for two. -/
theorem broken_again_counted_again :
    ∃ l₀ l actions, create "*:5555" {} {} = .ok (.done l₀) ∧
      actions = [.event (.connection 0 .accepted), .event (.connection 0 .error),
        .event (.connection 0 .error)] ∧
      l₀.run actions = .done l ∧ l.state = .active ∧ l.established = [0] ∧
      l.stats.get .acceptedConnections = 1 ∧ l.stats.get .brokenConnections = 2 ∧
      l.acceptors.stops 0 = 2 ∧ ¬BrokenOnce (l₀.history actions) l := by
  have created : create "*:5555" {} {} = .ok (.done _) := rfl
  refine ⟨_, _, _, created, rfl, rfl, rfl, rfl, rfl, rfl, rfl, fun once => ?_⟩
  exact absurd (once.stops_le rfl 0 List.mem_cons_self) (by decide)

end Run

end Listener

end EndpointLifecycle
