import EndpointLifecycle.Proofs.Connector.Reachable
import EndpointLifecycle.Proofs.System.Basic

/-!
# A connector among its collaborators

The socket of a connector reports once what has come of a connect, and that a direction is closed
only after the session or the socket itself has been asked to stop. The timer, the resolver and the
session report once after each start.
-/

namespace EndpointLifecycle.Connector

/-- What a collaborator can report. -/
abbrev Report : Collaborator → Type
  | .socket => SocketEvent
  | .timer => TimerEvent
  | .resolver => ResolverEvent
  | .session => ConnectionEvent

def eventOf : (x : Collaborator) → Report x → Event
  | .socket, e => .socket e
  | .timer, e => .retry e
  | .resolver, e => .resolver e
  | .session, e => .session e

def ended : (x : Collaborator) → Report x
  | .socket => SocketEvent.stopped
  | .timer => TimerEvent.stopped
  | .resolver => ResolverEvent.stopped
  | .session => ConnectionEvent.stopped

/-- Settles whether the next stop of a collaborator is completed at once. -/
def settle (c : Connector) (x : Collaborator) (atOnce : Bool) : Connector :=
  match x with
  | .socket => { c with socket := { c.socket with activity := c.socket.activity.settle atOnce } }
  | .timer =>
    { c with
      retry :=
        { c.retry with
          timer := { c.retry.timer with activity := c.retry.timer.activity.settle atOnce } } }
  | .resolver =>
    { c with resolver := { c.resolver with activity := c.resolver.activity.settle atOnce } }
  | .session => { c with session := c.session.settle atOnce }

/-- The report of what has come of a connect. -/
def IsResult (e : SocketEvent) : Prop := e = .connected ∨ e = .error

/-- The report of what has come of a lookup. -/
def IsDone (e : ResolverEvent) : Prop := ∃ result, e = .done result

def MayPost (begun c : Connector) : (x : Collaborator) → List (Report x) → Report x → Prop
  | .socket, posted, e =>
    IsResult e ∧ (∀ e' ∈ posted, ¬IsResult e') ∧ begun.socket.connects < c.socket.connects ∨
      e = SocketEvent.shutdown ∧
        (begun.session.stops < c.session.stops ∨ c.socket.activity.status = .stopping)
  | .timer, posted, e => e = TimerEvent.timeout ∧ e ∉ posted
  | .resolver, posted, e => IsDone e ∧ ∀ e' ∈ posted, ¬IsDone e'
  | .session, posted, e => e = ConnectionEvent.error ∧ e ∉ posted

/-- A connector put together with its collaborators. -/
def wiring : Wiring Connector Violation Report where
  activity := activity
  phase c := c.phase
  handle c x e := c.handle (eventOf x e)
  stop c := .done c.stop
  completeStop := completeStop
  inject c point kind := { c with socket := c.socket.inject point kind }
  settle := settle
  ended := ended
  mayPost := MayPost

/-- A system with a connector that has just been created. -/
def Starts (s : System Connector Report) : Prop :=
  ∃ address options parts target c, Parts.Unused parts ∧
    ConnectAddress.parse address options.ipv4Only = .ok target ∧
      create address options parts = .ok (.done c) ∧
        s = wiring.after (Wiring.still (fresh address target options parts)) c

section SizeBuffers

variable (c : Connector)

theorem activity_sizeBuffers (x : Collaborator) : c.sizeBuffers.activity x = c.activity x := by
  obtain ⟨log, h⟩ := sizeBuffers_eq c
  rw [h]
  cases x <;> rfl

theorem connects_sizeBuffers : c.sizeBuffers.socket.connects = c.socket.connects := by
  obtain ⟨log, h⟩ := sizeBuffers_eq c
  rw [h]
  rfl

theorem faults_sizeBuffers : c.sizeBuffers.socket.faults = c.socket.faults := by
  obtain ⟨log, h⟩ := sizeBuffers_eq c
  rw [h]
  rfl

end SizeBuffers

section Activity

variable (c : Connector) (x : Collaborator)

theorem activity_completeStop (y : Collaborator) :
    (c.completeStop y).activity x =
      if x = y then (c.activity x).completeStop else c.activity x := by
  cases x <;> cases y <;> rfl

theorem activity_settle (y : Collaborator) (atOnce : Bool) :
    (c.settle y atOnce).activity x =
      if x = y then (c.activity x).settle atOnce else c.activity x := by
  cases x <;> cases y <;> rfl

theorem status_settle (y : Collaborator) (atOnce : Bool) :
    ((c.settle y atOnce).activity x).status = (c.activity x).status := by
  cases x <;> cases y <;> rfl

theorem activity_inject (point : FaultPoint) (kind : ErrorKind) :
    activity { c with socket := c.socket.inject point kind } x = c.activity x := by
  cases x with
  | socket => exact Socket.activity_inject ..
  | timer | resolver | session => rfl

theorem eases_completeStop (y : Collaborator) :
    (c.activity x).Eases ((c.completeStop y).activity x) := by
  rw [activity_completeStop]
  split
  · exact Activity.eases_completeStop _
  · exact .refl _

theorem eases_settle (y : Collaborator) (atOnce : Bool) :
    (c.activity x).Eases ((c.settle y atOnce).activity x) := by
  rw [activity_settle]
  split
  · exact Activity.eases_settle ..
  · exact .refl _

theorem eases_inject (point : FaultPoint) (kind : ErrorKind) :
    (c.activity x).Eases (activity { c with socket := c.socket.inject point kind } x) := by
  rw [activity_inject]
  exact .refl _

theorem isIdle_iff :
    (c.session.isIdle ↔ (c.activity .session).status = .idle) ∧
      (c.retry.isIdle ↔ (c.activity .timer).status = .idle) ∧
        (c.socket.isIdle ↔ (c.activity .socket).status = .idle) ∧
          (c.resolver.isIdle ↔ (c.activity .resolver).status = .idle) := by
  simp [activity, Backoff.isIdle, Timer.isIdle, Socket.isIdle, Resolver.isIdle, Activity.isIdle]

end Activity

/-- What the machine is about has not changed. -/
structure Kept (c m : Connector) : Prop where
  phase_eq : m.phase = c.phase
  state_eq : m.state = c.state
  resolved_eq : m.resolved = c.resolved
  connects_eq : m.socket.connects = c.socket.connects
  session_stops_eq : m.session.stops = c.session.stops

theorem Kept.coherent {c m : Connector} (h : Kept c m) (hc : Coherent c) : Coherent m := by
  constructor
  · rw [h.phase_eq, h.state_eq]
    exact hc.phase_eq
  · rw [h.state_eq, h.resolved_eq]
    exact hc.resolved_isSome
  · rw [h.phase_eq, h.state_eq, h.resolved_eq]
    exact hc.resolved_eq_none

theorem kept_completeStop (c : Connector) (x : Collaborator) : Kept c (c.completeStop x) := by
  cases x with
  | socket | timer | resolver => exact ⟨rfl, rfl, rfl, rfl, rfl⟩
  | session => exact ⟨rfl, rfl, rfl, rfl, Activity.stops_completeStop _⟩

theorem kept_settle (c : Connector) (x : Collaborator) (atOnce : Bool) :
    Kept c (c.settle x atOnce) := by
  cases x <;> exact ⟨rfl, rfl, rfl, rfl, rfl⟩

theorem kept_inject (c : Connector) (point : FaultPoint) (kind : ErrorKind) :
    Kept c { c with socket := c.socket.inject point kind } := by
  cases point <;> exact ⟨rfl, rfl, rfl, rfl, rfl⟩

section Eases

variable {c c' : Connector}

theorem eases_passed (h : Passed c c') (x : Collaborator) :
    (c.activity x).Eases (c'.activity x) := by
  cases h with
  | session =>
    cases x with
    | session => exact .refl _
    | timer | socket | resolver => exact Activity.eases_stop _
  | others => cases x <;> exact .refl _

theorem eases_advanceShutdown (c : Connector) (x : Collaborator) :
    (c.activity x).Eases (c.advanceShutdown.activity x) :=
  passStages_induction (P := fun m => (c.activity x).Eases (m.activity x))
    (fun _ _ hm h => h.trans (eases_passed (passed_of_passStage hm) x)) _ (.refl _)

theorem handle_of_handled {e : Event} (hp : c.phase = .active) (h : Handled c e c') :
    c.handle e = .done c' := by
  rw [handle, hp]
  exact onEvent_of_handled h

end Eases

end EndpointLifecycle.Connector
