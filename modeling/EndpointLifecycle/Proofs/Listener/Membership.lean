import EndpointLifecycle.Proofs.Listener.Accounting

/-!
# Who is established

A number joins the established connections when its acceptor, the pending one of a listener that
accepts, reports its peer, and leaves them when it reports its own end. No other request moves any
of them, not even the one that asks all of them to stop. While the listener accepts, what one
connection reports leaves the socket, the timer and all other acceptors as they are.
-/

namespace EndpointLifecycle

namespace Acceptors

variable {p : Acceptors} {id other : ConnectionId}

theorem find?_create_of_mem (h : other ∈ p.numbers) :
    (p.create id).find? other = p.find? other := by
  obtain ⟨a, ha⟩ := Option.isSome_iff_exists.1 ((p.isSome_find? other).2 h)
  rw [find?_create, ha, Option.some_or]

theorem find?_stop_of_ne (h : other ≠ id) : (p.stop [id]).find? other = p.find? other := by
  simp [find?_stop, h]

end Acceptors

namespace Listener

/-- The connection that reports such an event. -/
def Action.reporters (e : ConnectionEvent) : Action → List ConnectionId
  | .event (.connection id e') => if e' = e then [id] else []
  | _ => []

/-- The number whose acceptor becomes a connection. -/
def joins (l : Listener) (a : Action) : List ConnectionId :=
  (a.reporters .accepted).filter fun id => l.state = .active ∧ l.pending = some id

section Step

variable {l l' m : Listener} {a : Action} {id : ConnectionId} {e : ConnectionEvent}

theorem Action.mem_reporters : id ∈ a.reporters e ↔ a = .event (.connection id e) := by
  unfold reporters
  split <;> grind

theorem mem_joins : id ∈ l.joins a ↔
    a = .event (.connection id .accepted) ∧ l.state = .active ∧ l.pending = some id := by
  simp [joins, Action.mem_reporters]

theorem mem_ends : id ∈ l.ends a ↔
    a = .event (.connection id .stopped) ∧ id ∈ l.established := by
  unfold ends
  split <;> grind

/-- Who is established after a request in which one number joins or leaves. -/
def Moved (l : Listener) (a : Action) (l' : Listener) : Prop :=
  l'.established = (l.established ++ l.joins a).filter (· ∉ l.ends a)

theorem moved_of_eq (h : l'.established = l.established) (hjoins : l.joins a = [])
    (hends : l.ends a = []) : Moved l a l' := by
  simp [Moved, h, hjoins, hends]

theorem moved_release (hjoins : l.joins a = []) (hends : l.ends a = [id]) :
    Moved l a (l.release id) := by
  simp [Moved, release, hjoins, hends]

theorem established_setUp (h : SetUp l l') : l'.established = l.established := by
  cases h <;> rfl

theorem moved_handled {e : Event} (h : Handled l e l') : Moved l (.event e) l' := by
  cases h with
  | accepted active pending =>
    simp [Moved, promote, startAcceptor, note, joins, ends, Action.reporters, active, pending]
  | broken => exact moved_of_eq rfl (by simp [joins, Action.reporters]) (by simp [ends])
  | ended active other established =>
    exact moved_release (by simp [joins, Action.reporters]) (by simp [ends, established])
  | rested =>
    exact moved_of_eq (established_setUp (setUp_startListening l))
      (by simp [joins, Action.reporters]) (by simp [ends])
  | halfClosed | closed | timedOut =>
    exact moved_of_eq rfl (by simp [joins, Action.reporters]) (by simp [ends])

theorem moved_absorbed {e : Event} (hl : Coherent l) (hstate : l.state ≠ .active)
    (h : Absorbed l e l') : Moved l (.event e) l' := by
  have hjoins : l.joins (.event e) = [] := by simp [joins, hstate]
  cases h with
  | retry | halfClosed | closed | broken => exact moved_of_eq rfl hjoins (by simp [ends])
  | @pending id e pending =>
    have hmem := hl.pending_notMem id pending
    exact moved_of_eq rfl hjoins (by cases e <;> simp [ends, hmem])
  | ended other established => exact moved_release hjoins (by simp [ends, established])
  | late e other gone => exact moved_of_eq rfl hjoins (by cases e <;> simp [ends, gone])

theorem moved_stepped (hl : Coherent l) (h : Stepped l a l') : Moved l a l' := by
  cases h with
  | handled active he => exact moved_handled he
  | absorbed stopping ha advanced =>
    have hstate : l.state ≠ .active := fun hs => by
      rw [hl.phase_eq, hs] at stopping
      cases stopping
    exact (established_advance advanced).trans (moved_absorbed hl hstate ha)
  | stopBegun active advanced =>
    exact moved_of_eq (established_advance (l := l.beginStop) advanced) rfl rfl
  | stopIgnored => exact moved_of_eq rfl rfl rfl
  | completed c => exact moved_of_eq (by cases c <;> rfl) rfl rfl
  | injected => exact moved_of_eq rfl rfl rfl

end Step

/-- Connections join and leave by their own reports. -/
structure MovesByOwnReport (l : Listener) (a : Action) (l' : Listener) : Prop where
  joins_iff : ∀ id ∉ l.established, id ∈ l'.established ↔
    a = .event (.connection id .accepted) ∧ l.state = .active ∧ l.pending = some id
  leaves_iff : ∀ id ∈ l.established, id ∉ l'.established ↔ a = .event (.connection id .stopped)
  unmoved :
    (∀ id, l.pending = some id → l.state = .active → a ≠ .event (.connection id .accepted)) →
      (∀ id ∈ l.established, a ≠ .event (.connection id .stopped)) →
        l'.established = l.established

/-- What an event of the connection `id` leaves as it was, at a listener that accepts. -/
structure Apart (l : Listener) (id : ConnectionId) (e : ConnectionEvent) (l' : Listener) :
    Prop where
  state_eq : l'.state = .active
  socket_eq : l'.socket = l.socket
  retry_eq : l'.retry = l.retry
  /-- There is a new acceptor after an acceptance, and only then. -/
  numbers_eq : l'.acceptors.numbers =
    l.acceptors.numbers ++ if e = .accepted then [l.nextId] else []
  others_eq : ∀ other ∈ l.acceptors.numbers, other ≠ id →
    l'.acceptors.find? other = l.acceptors.find? other
  pending_eq : ¬(l.pending = some id ∧ e = .accepted) → l'.pending = l.pending

section Result

variable {l l' : Listener} {a : Action} {id : ConnectionId} {e : ConnectionEvent}

theorem Moved.byOwnReport (hl : Coherent l) (h : Moved l a l') : MovesByOwnReport l a l' where
  joins_iff := by
    intro id hid
    rw [h, List.mem_filter, List.mem_append, mem_joins]
    simp [hid, mem_ends]
  leaves_iff := by
    intro id hid
    have hnot : id ∉ l.joins a := fun hm => hl.pending_notMem id (mem_joins.1 hm).2.2 hid
    rw [h, List.mem_filter, List.mem_append]
    simp [hid, mem_ends]
  unmoved := by
    intro hjoins hends
    have hj : l.joins a = [] := List.eq_nil_iff_forall_not_mem.2 fun id hid => by
      obtain ⟨ha, hactive, hpending⟩ := mem_joins.1 hid
      exact hjoins id hpending hactive ha
    have he : l.ends a = [] := List.eq_nil_iff_forall_not_mem.2 fun id hid => by
      obtain ⟨ha, hestablished⟩ := mem_ends.1 hid
      exact hends id hestablished ha
    rw [h, hj, he]
    simp

theorem apart_handled (h : Handled l (.connection id e) l') : Apart l id e l' := by
  cases h with
  | accepted active pending =>
    exact
      { state_eq := active
        socket_eq := rfl
        retry_eq := rfl
        numbers_eq := Acceptors.numbers_create ..
        others_eq := fun other hother _ => Acceptors.find?_create_of_mem hother
        pending_eq := fun h => absurd ⟨pending, rfl⟩ h }
  | broken active =>
    exact
      { state_eq := active
        socket_eq := rfl
        retry_eq := rfl
        numbers_eq := by simp [recycle, note]
        others_eq := fun other _ hne => Acceptors.find?_stop_of_ne hne
        pending_eq := fun _ => rfl }
  | ended active =>
    exact
      { state_eq := active
        socket_eq := rfl
        retry_eq := rfl
        numbers_eq := by simp [release]
        others_eq := fun _ _ _ => rfl
        pending_eq := fun _ => rfl }

/-- The established connections change only by what they report themselves, and what one of them
reports to a listener that accepts is no concern of the others. -/
theorem connections_keep_to_themselves (hl : Reachable l) (hstep : l.step a = .done l') :
    MovesByOwnReport l a l' ∧
      ∀ id e, a = .event (.connection id e) → l.state = .active → Apart l id e l' := by
  have hcoherent := hl.coherent
  refine ⟨(moved_stepped hcoherent (stepped_of_step hstep)).byOwnReport hcoherent, ?_⟩
  rintro id e rfl active
  have hphase : l.phase = .active := by rw [hcoherent.phase_eq, active]; rfl
  change l.handle (.connection id e) = .done l' at hstep
  rw [handle, hphase] at hstep
  exact apart_handled (handled_of_onEvent hstep)

/-- The first of two connections breaks. It stays established, and the second is not touched. -/
theorem connections_keep_to_themselves_broken_connection :
    ∃ l₀ l l', create "*:5555" {} {} = .ok (.done l₀) ∧
      l₀.run [.event (.connection 0 .accepted), .event (.connection 1 .accepted)] = .done l ∧
      l.step (.event (.connection 0 .error)) = .done l' ∧ l'.established = [0, 1] ∧
      MovesByOwnReport l (.event (.connection 0 .error)) l' ∧ Apart l 0 .error l' := by
  let l₀ := startListening (begun "*:5555" ⟨.any, 5555⟩ {} {})
  have created : create "*:5555" {} {} = .ok (.done l₀) := rfl
  have reachable := reachable_run (.created ⟨_, _, _, ⟨rfl, rfl, rfl, rfl⟩, created⟩)
    (show l₀.run [.event (.connection 0 .accepted), .event (.connection 1 .accepted)] =
      .done ((l₀.promote 0).promote 1) from rfl)
  obtain ⟨moves, apart⟩ := connections_keep_to_themselves reachable
    (show ((l₀.promote 0).promote 1).step (.event (.connection 0 .error)) =
      .done (((l₀.promote 0).promote 1).recycle 0) from rfl)
  exact ⟨l₀, _, _, created, rfl, rfl, rfl, moves, apart 0 .error rfl rfl⟩

end Result

end Listener

end EndpointLifecycle
