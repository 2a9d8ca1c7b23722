import EndpointLifecycle.Proofs.Listener.Reachable
import EndpointLifecycle.Proofs.System.Basic

/-!
# A listener among its collaborators

The socket of a listener reports only while it is being stopped, the timer once after each start,
and an acceptor a peer and then, at most, one error.
-/

namespace EndpointLifecycle.Listener

/-- What a collaborator can report. -/
abbrev Report : Collaborator → Type
  | .socket => SocketEvent
  | .timer => TimerEvent
  | .acceptor _ => ConnectionEvent

def eventOf : (c : Collaborator) → Report c → Event
  | .socket, e => .socket e
  | .timer, e => .retry e
  | .acceptor id, e => .connection id e

def ended : (c : Collaborator) → Report c
  | .socket => SocketEvent.stopped
  | .timer => TimerEvent.stopped
  | .acceptor _ => ConnectionEvent.stopped

/-- The activity of a collaborator; a collaborator that does not exist does nothing. -/
def activity (l : Listener) (c : Collaborator) : Activity := (l.activity? c).getD {}

/-- Settles whether the next stop of a collaborator is completed at once. -/
def settle (l : Listener) (c : Collaborator) (atOnce : Bool) : Listener :=
  match c with
  | .socket => { l with socket := { l.socket with activity := l.socket.activity.settle atOnce } }
  | .timer =>
    { l with
      retry :=
        { l.retry with
          timer := { l.retry.timer with activity := l.retry.timer.activity.settle atOnce } } }
  | .acceptor id => { l with acceptors := l.acceptors.modify (· = id) (Activity.settle atOnce) }

def MayPost (l : Listener) : (c : Collaborator) → List (Report c) → Report c → Prop
  | .socket, _, e => e = SocketEvent.shutdown ∧ l.socket.activity.status = .stopping
  | .timer, posted, e => e = TimerEvent.timeout ∧ e ∉ posted
  | .acceptor _, posted, e =>
    e = ConnectionEvent.accepted ∧ e ∉ posted ∨
      e = ConnectionEvent.error ∧ e ∉ posted ∧ ConnectionEvent.accepted ∈ posted

/-- A listener put together with its collaborators. -/
def wiring : Wiring Listener Violation Report where
  activity := activity
  phase l := l.phase
  handle l c e := l.handle (eventOf c e)
  stop := stop
  completeStop := completeStop
  inject l point kind := { l with socket := l.socket.inject point kind }
  settle := settle
  ended := ended
  mayPost _ l c posted e := l.MayPost c posted e

/-- A system with a listener that has just been created. -/
def Starts (s : System Listener Report) : Prop :=
  ∃ address options parts bind l, Parts.Unused parts ∧
    BindAddress.parse address options.ipv4Only = .ok bind ∧
      create address options parts = .ok (.done l) ∧
        s = wiring.after (Wiring.still (fresh address bind options parts)) l

section Activity

variable (l : Listener) (c : Collaborator)

theorem activity_acceptor (id : ConnectionId) :
    l.activity (.acceptor id) = (l.acceptors.find? id).getD {} := rfl

theorem isIdle_acceptor (id : ConnectionId) :
    l.acceptors.isIdle id ↔ (l.activity (.acceptor id)).status = .idle := by
  rw [activity_acceptor, Acceptors.isIdle]
  cases l.acceptors.find? id <;> simp [Activity.isIdle]

theorem isIdle_timer : l.retry.isIdle ↔ (l.activity .timer).status = .idle := by
  simp [activity, activity?, Backoff.isIdle, Timer.isIdle, Activity.isIdle]

theorem isIdle_socket : l.socket.isIdle ↔ (l.activity .socket).status = .idle := by
  simp [activity, activity?, Socket.isIdle, Activity.isIdle]

theorem activity_completeStop (d : Collaborator) :
    (l.completeStop d).activity c =
      if c = d then (l.activity c).completeStop else l.activity c := by
  cases c <;> cases d <;> try rfl
  case acceptor.acceptor a b =>
    simp only [completeStop, activity_acceptor, Acceptors.find?_completeStop]
    cases l.acceptors.find? a with
    | none => by_cases h : a = b <;> simp [h, Activity.completeStop]
    | some x => simp

theorem activity_settle (d : Collaborator) (atOnce : Bool) :
    (l.settle d atOnce).activity c = l.activity c ∨
      (l.settle d atOnce).activity c = (l.activity c).settle atOnce := by
  cases c <;> cases d <;> try first | exact .inl rfl | exact .inr rfl
  case acceptor.acceptor a b =>
    simp only [settle, activity_acceptor, Acceptors.find?_modify]
    cases l.acceptors.find? a with
    | none => exact .inl rfl
    | some x => by_cases h : a = b <;> simp [h]

theorem status_settle (d : Collaborator) (atOnce : Bool) :
    ((l.settle d atOnce).activity c).status = (l.activity c).status := by
  rcases activity_settle l c d atOnce with h | h <;> rw [h]
  rfl

theorem activity_inject (point : FaultPoint) (kind : ErrorKind) :
    activity { l with socket := l.socket.inject point kind } c = l.activity c := by
  cases c with
  | socket => exact Socket.activity_inject ..
  | timer | acceptor => rfl

theorem eases_inject (point : FaultPoint) (kind : ErrorKind) :
    (l.activity c).Eases (activity { l with socket := l.socket.inject point kind } c) := by
  rw [activity_inject]
  exact .refl _

theorem eases_completeStop (d : Collaborator) :
    (l.activity c).Eases ((l.completeStop d).activity c) := by
  rw [activity_completeStop]
  split
  · exact Activity.eases_completeStop _
  · exact .refl _

theorem eases_settle (d : Collaborator) (atOnce : Bool) :
    (l.activity c).Eases ((l.settle d atOnce).activity c) := by
  rcases activity_settle l c d atOnce with h | h <;> rw [h]
  · exact .refl _
  · exact Activity.eases_settle ..

theorem activity_stop_of_mem {ids : List ConnectionId} {id : ConnectionId} (h : id ∈ ids)
    (hid : id ∈ l.acceptors.numbers) :
    ((l.acceptors.stop ids).find? id).getD {} = (l.activity (.acceptor id)).stop := by
  obtain ⟨a, ha⟩ := Option.isSome_iff_exists.1 ((l.acceptors.isSome_find? id).2 hid)
  simp [activity_acceptor, Acceptors.find?_stop, ha, h]

theorem activity_stop_of_notMem {ids : List ConnectionId} {id : ConnectionId} (h : id ∉ ids) :
    ((l.acceptors.stop ids).find? id).getD {} = l.activity (.acceptor id) := by
  rw [activity_acceptor, Acceptors.find?_stop]
  cases l.acceptors.find? id <;> simp [h]

theorem activity_eq_default {id : ConnectionId} (h : id ∉ l.acceptors.numbers) :
    l.activity (.acceptor id) = {} := by
  rw [← Acceptors.isSome_find?, Bool.not_eq_true, Option.isSome_eq_false_iff] at h
  rw [activity_acceptor, Option.isNone_iff_eq_none.1 h]
  rfl

theorem activity_create_self {id : ConnectionId} (h : id ∉ l.acceptors.numbers) :
    ((l.acceptors.create id).find? id).getD {} =
      Activity.start { stopsAtOnce := l.acceptors.stopAtOnce } := by
  rw [← Acceptors.isSome_find?, Bool.not_eq_true, Option.isSome_eq_false_iff] at h
  rw [Acceptors.find?_create, Option.isNone_iff_eq_none.1 h]
  simp

theorem activity_create_of_ne {id other : ConnectionId} (h : other ≠ id) :
    ((l.acceptors.create id).find? other).getD {} = l.activity (.acceptor other) := by
  rw [activity_acceptor, Acceptors.find?_create, if_neg h.symm, Option.or_none]

theorem eases_stopAcceptors (ids : List ConnectionId) (id : ConnectionId) :
    (l.activity (.acceptor id)).Eases (((l.acceptors.stop ids).find? id).getD {}) := by
  rw [activity_acceptor, Acceptors.find?_stop]
  cases l.acceptors.find? id with
  | none => exact .refl _
  | some a =>
    by_cases h : id ∈ ids
    · simpa [h] using Activity.eases_stop a
    · simpa [h] using Activity.Eases.refl a

end Activity

/-- What the machine is about has not changed. -/
structure Kept (l m : Listener) : Prop where
  phase_eq : m.phase = l.phase
  state_eq : m.state = l.state
  pending_eq : m.pending = l.pending
  established_eq : m.established = l.established
  nextId_eq : m.nextId = l.nextId
  numbers_eq : m.acceptors.numbers = l.acceptors.numbers

theorem Kept.coherent {l m : Listener} (h : Kept l m) (hl : Coherent l) : Coherent m :=
  hl.congr h.phase_eq h.state_eq h.numbers_eq h.pending_eq h.established_eq h.nextId_eq

theorem kept_completeStop (l : Listener) (c : Collaborator) : Kept l (l.completeStop c) := by
  cases c with
  | socket | timer => exact ⟨rfl, rfl, rfl, rfl, rfl, rfl⟩
  | acceptor id => exact ⟨rfl, rfl, rfl, rfl, rfl, Acceptors.numbers_completeStop ..⟩

theorem kept_settle (l : Listener) (c : Collaborator) (atOnce : Bool) :
    Kept l (l.settle c atOnce) := by
  cases c with
  | socket | timer => exact ⟨rfl, rfl, rfl, rfl, rfl, rfl⟩
  | acceptor id => exact ⟨rfl, rfl, rfl, rfl, rfl, Acceptors.numbers_modify ..⟩

theorem kept_inject (l : Listener) (point : FaultPoint) (kind : ErrorKind) :
    Kept l { l with socket := l.socket.inject point kind } := ⟨rfl, rfl, rfl, rfl, rfl, rfl⟩

section Eases

variable {l l' : Listener}

theorem eases_passed (h : Passed l l') (c : Collaborator) :
    (l.activity c).Eases (l'.activity c) := by
  cases h with
  | acceptor =>
    cases c with
    | socket => exact Activity.eases_stop _
    | timer | acceptor => exact .refl _
  | socket =>
    cases c with
    | acceptor id => exact eases_stopAcceptors ..
    | socket | timer => exact .refl _
  | connections => exact .refl _

theorem eases_passStages (l : Listener) (n : ℕ) (c : Collaborator) :
    (l.activity c).Eases ((passStages passStage n l).activity c) :=
  passStages_induction (P := fun m => (l.activity c).Eases (m.activity c))
    (fun _ _ hm h => h.trans (eases_passed (passed_of_passStage hm) c)) n (.refl _)

theorem nextId_passStages (l : Listener) (n : ℕ) :
    (passStages passStage n l).nextId = l.nextId :=
  passStages_induction (P := fun m : Listener => m.nextId = l.nextId)
    (fun _ _ hm h => by cases passed_of_passStage hm <;> exact h) n rfl

theorem eases_beginStop (l : Listener) (c : Collaborator) :
    (l.activity c).Eases (l.beginStop.activity c) := by
  cases c with
  | socket => exact .refl _
  | timer => exact Activity.eases_stop _
  | acceptor => exact eases_stopAcceptors ..

theorem activity_absorbed {e : Event} (h : Absorbed l e l') (c : Collaborator) :
    l'.activity c = l.activity c := by
  cases h <;> rfl

end Eases

end EndpointLifecycle.Listener
