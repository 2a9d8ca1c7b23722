import EndpointLifecycle.Proofs.Listener.Reachable
import Mathlib.Data.List.Count
import Mathlib.Logic.Function.Iterate

/-!
# Connections do not get in each other's way

As long as a listener accepts, what becomes of it is told by what each of its connections has
reported, and not by the order in which the reports of different connections have come in. `Settled`
says what it comes to without running it: by how often peers were accepted and connections broke,
and by which connections have ended.
-/

namespace EndpointLifecycle

namespace Acceptors

/-- Creates acceptors under `n` numbers one after another. -/
def createFrom (p : Acceptors) (id : ConnectionId) (n : Nat) : Acceptors :=
  { p with
    created := p.created ++
      (List.range' id n).map fun id => (id, Activity.start { stopsAtOnce := p.stopAtOnce }) }

/-- Asks each acceptor to stop, and that as often as is said of its number. -/
def stopTimes (p : Acceptors) (times : ConnectionId → Nat) : Acceptors :=
  { p with created := p.created.map fun (id, a) => (id, Activity.stop^[times id] a) }

theorem createFrom_succ (p : Acceptors) (id : ConnectionId) (n : Nat) :
    p.createFrom id (n + 1) = (p.createFrom id n).create (id + n) := by
  simp [createFrom, create, List.range'_concat]

theorem create_stopTimes (p : Acceptors) (times : ConnectionId → Nat) {id : ConnectionId}
    (h : times id = 0) : (p.stopTimes times).create id = (p.create id).stopTimes times := by
  simp [stopTimes, create, h]

theorem stop_stopTimes (p : Acceptors) {times times' : ConnectionId → Nat} {id : ConnectionId}
    (hid : times' id = times id + 1) (hne : ∀ other ≠ id, times' other = times other) :
    (p.stopTimes times).stop [id] = p.stopTimes times' := by
  simp only [stopTimes, stop, modify, List.map_map, Acceptors.mk.injEq, and_true]
  refine List.map_congr_left fun pair _ => ?_
  by_cases h : pair.1 = id
  · simp [h, hid, Function.iterate_succ_apply']
  · simp [h, hne]

end Acceptors

namespace Listener

/-- What a connection reports. -/
abbrev ConnectionReport := ConnectionId × ConnectionEvent

def acceptances (rs : List ConnectionReport) : Nat := rs.countP (·.2 = .accepted)

def breaks (rs : List ConnectionReport) : Nat := rs.countP (·.2 = .error)

def breaksOf (rs : List ConnectionReport) (id : ConnectionId) : Nat := rs.count (id, .error)

@[simp] theorem acceptances_concat (rs : List ConnectionReport) (r : ConnectionReport) :
    acceptances (rs ++ [r]) = acceptances rs + if r.2 = .accepted then 1 else 0 := by
  simp [acceptances, List.countP_singleton]

@[simp] theorem breaks_concat (rs : List ConnectionReport) (r : ConnectionReport) :
    breaks (rs ++ [r]) = breaks rs + if r.2 = .error then 1 else 0 := by
  simp [breaks, List.countP_singleton]

@[simp] theorem breaksOf_concat (rs : List ConnectionReport) (r : ConnectionReport)
    (id : ConnectionId) :
    breaksOf (rs ++ [r]) id = breaksOf rs id + if r = (id, .error) then 1 else 0 := by
  simp [breaksOf, List.count_append, List.count_singleton]

theorem breaksOf_concat_of_ne (rs : List ConnectionReport) (id : ConnectionId)
    {e : ConnectionEvent} (he : e ≠ .error) : breaksOf (rs ++ [(id, e)]) = breaksOf rs := by
  funext other
  simp [he]

variable {l l' m : Listener} {p id : ConnectionId} {e : ConnectionEvent}
  {rs rs' : List ConnectionReport}

/-- What has become of `l`, whose pending acceptor is `p`, after the reports `rs`. -/
structure Settled (l : Listener) (p : ConnectionId) (rs : List ConnectionReport) (l' : Listener) :
    Prop where
  frame : l' =
    { l with
      acceptors := l'.acceptors
      pending := l'.pending
      established := l'.established
      nextId := l'.nextId
      stats := l'.stats
      log := l'.log }
  pending_eq : l'.pending = some (p + acceptances rs)
  nextId_eq : l'.nextId = p + 1 + acceptances rs
  established_eq : l'.established =
    (l.established ++ List.range' p (acceptances rs)).filter fun id => (id, .stopped) ∉ rs
  acceptors_eq : l'.acceptors =
    (l.acceptors.createFrom (p + 1) (acceptances rs)).stopTimes (breaksOf rs)
  stats_eq : l'.stats =
    { l.stats with
      accepted := l.stats.accepted + Int64.ofNat (acceptances rs)
      broken := l.stats.broken + Int64.ofNat (breaks rs) }
  /-- Only what was accepted can have reported anything. -/
  lt_pending : ∀ r ∈ rs, r.1 < p + acceptances rs

namespace Settled

theorem nil (hp : l.pending = some p) (hn : p + 1 = l.nextId) : Settled l p [] l where
  frame := rfl
  pending_eq := hp
  nextId_eq := hn.symm
  established_eq := by simp [acceptances]
  acceptors_eq := by simp [acceptances, breaksOf, Acceptors.createFrom, Acceptors.stopTimes]
  stats_eq := by simp [acceptances, breaks]
  lt_pending := by simp

/-- Nothing was reported by a connection that comes later. -/
theorem notMem (h : Settled l p rs l') (hid : p + acceptances rs ≤ id) : (id, e) ∉ rs := fun hmem =>
  absurd (h.lt_pending _ hmem) (Nat.not_lt.2 hid)

theorem lt_pending_concat (h : Settled l p rs l') (hid : id < p + acceptances rs)
    (he : e ≠ .accepted) : ∀ r ∈ rs ++ [(id, e)], r.1 < p + acceptances (rs ++ [(id, e)]) := by
  rw [acceptances_concat, if_neg he]
  exact List.forall_mem_append.2 ⟨h.lt_pending, by simpa using hid⟩

theorem accepted (h : Settled l p rs l') (hp : l'.pending = some id) :
    Settled l p (rs ++ [(id, .accepted)]) (l'.promote id) := by
  obtain rfl : p + acceptances rs = id := Option.some.inj (h.pending_eq.symm.trans hp)
  exact {
    frame := by rw [h.frame]; rfl
    pending_eq := by
      simp [promote, startAcceptor, note, h.nextId_eq, Nat.add_right_comm p 1, Nat.add_assoc]
    nextId_eq := (congrArg (· + 1) h.nextId_eq).trans (by simp [Nat.add_assoc])
    established_eq := by
      have hnew : (p + acceptances rs, ConnectionEvent.stopped) ∉ rs := h.notMem (Nat.le_refl _)
      simp [promote, startAcceptor, note, h.established_eq, List.range'_concat, hnew]
    acceptors_eq := by
      have hnew : breaksOf rs (p + 1 + acceptances rs) = 0 :=
        List.count_eq_zero.2 (h.notMem (Nat.add_le_add_right (Nat.le_succ p) _))
      rw [breaksOf_concat_of_ne _ _ (by simp)]
      simp [promote, startAcceptor, note, h.acceptors_eq, h.nextId_eq,
        Acceptors.create_stopTimes _ _ hnew, Acceptors.createFrom_succ]
    stats_eq := by
      simp [promote, startAcceptor, note, h.stats_eq, Statistics.record, Int64.ofNat_add,
        Int64.add_assoc]
    lt_pending := by
      refine List.forall_mem_append.2 ⟨fun r hr => ?_, by simp⟩
      exact (h.lt_pending r hr).trans_le (by simp) }

theorem broken (h : Settled l p rs l') (hid : id < p + acceptances rs) :
    Settled l p (rs ++ [(id, .error)]) (l'.recycle id) where
  frame := by rw [h.frame]; rfl
  pending_eq := h.pending_eq.trans (by simp)
  nextId_eq := h.nextId_eq.trans (by simp)
  established_eq := by simp [recycle, note, h.established_eq]
  acceptors_eq := by
    have hid : breaksOf (rs ++ [(id, .error)]) id = breaksOf rs id + 1 := by simp
    have hne : ∀ other ≠ id, breaksOf (rs ++ [(id, .error)]) other = breaksOf rs other :=
      fun other hother => by simp [hother.symm]
    simp [recycle, note, h.acceptors_eq, Acceptors.stop_stopTimes _ hid hne]
  stats_eq := by
    simp [recycle, note, h.stats_eq, Statistics.record, Int64.ofNat_add, Int64.add_assoc]
  lt_pending := h.lt_pending_concat hid (by simp)

theorem ended (h : Settled l p rs l') (hid : id < p + acceptances rs) :
    Settled l p (rs ++ [(id, .stopped)]) (l'.release id) where
  frame := by rw [h.frame]; rfl
  pending_eq := h.pending_eq.trans (by simp)
  nextId_eq := h.nextId_eq.trans (by simp)
  established_eq := by
    simp [release, h.established_eq, List.filter_filter, Bool.and_comm]
  acceptors_eq := by
    rw [breaksOf_concat_of_ne _ _ (by simp)]
    simp [release, h.acceptors_eq]
  stats_eq := h.stats_eq.trans (by simp)
  lt_pending := h.lt_pending_concat hid (by simp)

theorem handled (h : Settled l p rs l') (hl : Coherent l')
    (he : Handled l' (.connection id e) m) : Settled l p (rs ++ [(id, e)]) m := by
  have hlt (other : l'.pending ≠ some id) (hid : id ∈ l'.established) :
      id < p + acceptances rs := by
    have hle : id ≤ p + acceptances rs := by
      have := hl.established_lt id hid
      rw [h.nextId_eq, Nat.add_right_comm] at this
      exact Nat.le_of_lt_succ this
    refine lt_of_le_of_ne hle fun heq => other ?_
    rw [h.pending_eq, heq]
  cases he with
  | accepted _ pending => exact h.accepted pending
  | broken _ other established => exact h.broken (hlt other established)
  | ended _ other established => exact h.ended (hlt other established)

/-- The mixture of the reports plays no part in what has become of the listener. -/
theorem eq_of_perm (h : Settled l p rs m) (h' : Settled l p rs' l') (hperm : rs.Perm rs') :
    m = { l' with log := m.log } := by
  have haccepted : acceptances rs = acceptances rs' := hperm.countP_eq _
  have hbroken : breaks rs = breaks rs' := hperm.countP_eq _
  have hpending : m.pending = l'.pending := by rw [h.pending_eq, h'.pending_eq, haccepted]
  have hnextId : m.nextId = l'.nextId := by rw [h.nextId_eq, h'.nextId_eq, haccepted]
  have hestablished : m.established = l'.established := by
    rw [h.established_eq, h'.established_eq, haccepted]
    exact List.filter_congr fun id _ => by simp [hperm.mem_iff]
  have hacceptors : m.acceptors = l'.acceptors := by
    rw [h.acceptors_eq, h'.acceptors_eq, haccepted]
    exact congrArg _ (funext fun id => hperm.count_eq _)
  have hstats : m.stats = l'.stats := by rw [h.stats_eq, h'.stats_eq, haccepted, hbroken]
  rw [h.frame, h'.frame]
  simp only [hpending, hnextId, hestablished, hacceptors, hstats]

end Settled

/-- The requests in which connections report to their listener. -/
def reporting (rs : List ConnectionReport) : List Action :=
  rs.map fun (id, e) => .event (.connection id e)

theorem settled_run_of_settled (h : Settled l p rs l') (hl : Coherent l')
    (active : l.state = .active) (hrun : l'.run (reporting rs') = .done m) :
    Settled l p (rs ++ rs') m := by
  -- The reports so far are carried along, so that the induction can be on those to come.
  induction rs' generalizing rs l' with
  | nil => cases hrun; rwa [List.append_nil]
  | cons r rest ih =>
    obtain ⟨id, e⟩ := r
    have active' : l'.phase = .active := by rw [hl.phase_eq, h.frame, active]; rfl
    change ((l'.handle (.connection id e)).andThen fun m => m.run (reporting rest)) = _ at hrun
    cases hhandle : l'.handle (.connection id e) with
    | violation v n => rw [hhandle] at hrun; cases hrun
    | done n =>
      rw [hhandle] at hrun
      rw [handle, active'] at hhandle
      have he := handled_of_onEvent hhandle
      rw [List.append_cons]
      exact ih (h.handled hl he) (coherent_handled hl he) hrun

theorem exists_settled_of_run (hl : Coherent l) (active : l.state = .active) :
    ∃ p, ∀ rs m, l.run (reporting rs) = .done m → Settled l p rs m := by
  obtain ⟨p, hp⟩ := Option.isSome_iff_exists.1 (hl.pending_isSome active)
  have hnil : Settled l p [] l := .nil hp (hl.pending_newest p hp)
  exact ⟨p, fun rs m hrun => settled_run_of_settled hnil hl active hrun⟩

theorem perm_of_filter_eq (h : ∀ id, rs.filter (·.1 = id) = rs'.filter (·.1 = id)) :
    rs.Perm rs' := by
  refine List.perm_iff_count.2 fun r => ?_
  have hcount (xs : List ConnectionReport) : xs.count r = (xs.filter (·.1 = r.1)).count r :=
    (List.count_filter (by simp)).symm
  rw [hcount rs, hcount rs', h]

/-- Two mixtures of the same reports, none of which is refused, leave a listener that accepts in the
same condition in all but the order of its log. Neither of them touches the socket or the timer. -/
theorem independent_connections_commute {l₁ l₂ : Listener} {rs₁ rs₂ : List ConnectionReport}
    (hl : Reachable l) (active : l.state = .active)
    (same : ∀ id, rs₁.filter (·.1 = id) = rs₂.filter (·.1 = id))
    (hrun₁ : l.run (reporting rs₁) = .done l₁) (hrun₂ : l.run (reporting rs₂) = .done l₂) :
    l₁ = { l₂ with log := l₁.log } ∧ l₁.socket = l.socket ∧ l₁.retry = l.retry := by
  obtain ⟨p, settled⟩ := exists_settled_of_run hl.coherent active
  have h₁ := settled rs₁ l₁ hrun₁
  have h₂ := settled rs₂ l₂ hrun₂
  refine ⟨h₁.eq_of_perm h₂ (perm_of_filter_eq same), ?_, ?_⟩ <;> rw [h₁.frame]

/-- A connection breaks and ends before or after the next peer is accepted. -/
theorem independent_connections_commute_while_accepting :
    ∃ l₀ l m m', create "*:5555" {} {} = .ok (.done l₀) ∧
      l₀.run [.event (.connection 0 .accepted)] = .done l ∧
      l.run (reporting [(0, .error), (0, .stopped), (1, .accepted), (2, .accepted)]) = .done m ∧
      l.run (reporting [(1, .accepted), (0, .error), (2, .accepted), (0, .stopped)]) = .done m' ∧
      m.established = [1, 2] ∧ m = { m' with log := m.log } ∧ m.socket = l.socket := by
  let l₀ := startListening (begun "*:5555" ⟨.any, 5555⟩ {} {})
  have created : create "*:5555" {} {} = .ok (.done l₀) := rfl
  have reachable := reachable_run (.created ⟨_, _, _, ⟨rfl, rfl, rfl, rfl⟩, created⟩)
    (show l₀.run [.event (.connection 0 .accepted)] = .done (l₀.promote 0) from rfl)
  have same : ∀ id, List.filter (·.1 = id)
      [(0, ConnectionEvent.error), (0, .stopped), (1, .accepted), (2, .accepted)] =
      List.filter (·.1 = id) [(1, .accepted), (0, .error), (2, .accepted), (0, .stopped)] := by
    intro id
    rcases id with _ | _ | _ | id <;> simp
  obtain ⟨heq, hsocket, -⟩ := independent_connections_commute reachable rfl same rfl rfl
  exact ⟨l₀, _, _, _, created, rfl, rfl, rfl, rfl, heq, hsocket⟩

end Listener

end EndpointLifecycle
