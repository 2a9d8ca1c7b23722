import EndpointLifecycle.Collaborator.Socket

/-!
# Calls on a socket and their answers

A socket remembers the calls that were made on it, but not which of them failed. That is told by the
faults that were laid before: a call fails when a fault is laid for it, and a call that succeeds
changes no fault.
-/

namespace EndpointLifecycle

structure AnsweredCall where
  call : SocketCall
  failed : Bool
  deriving DecidableEq

def SocketCall.isStart : SocketCall → Bool
  | start _ => true
  | _ => false

namespace Socket

/-- The fault that a call will meet. -/
def faultFor (s : Socket) : SocketCall → Option ErrorKind
  | .start _ => s.startFault
  | .sendBuffer _ | .recvBuffer _ => s.bufferFault
  | .bind _ => s.bindFault
  | .listen _ => s.listenFault
  | .connect _ => s.connectFault
  | .stop => none

/-- The calls that have led from one condition of a socket to a later one, answered by the faults
that were laid at first. In one request of an endpoint no call is made that meets other faults. -/
def callsUntil (s s' : Socket) : List AnsweredCall :=
  (s'.calls.drop s.calls.length).map fun call => ⟨call, (s.faultFor call).isSome⟩

/-- Exactly these calls were made, and answered so. -/
structure Made (s : Socket) (answered : List AnsweredCall) (s' : Socket) : Prop where
  calls_eq : s'.calls = s.calls ++ answered.map (·.call)
  failed_eq : ∀ a ∈ answered, (s.faultFor a.call).isSome = a.failed

/-- A call that succeeds. -/
structure Taken (s : Socket) (call : SocketCall) (s' : Socket) : Prop where
  calls_eq : s'.calls = s.calls ++ [call]
  fault_eq : s.faultFor call = none
  faults_eq : s'.faultFor = s.faultFor

/-- A call that fails. -/
structure Refused (s : Socket) (call : SocketCall) (s' : Socket) : Prop where
  calls_eq : s'.calls = s.calls ++ [call]
  fault_isSome : (s.faultFor call).isSome

variable {s s' s'' : Socket} {answered : List AnsweredCall} {call : SocketCall}

theorem Made.callsUntil_eq (h : Made s answered s') : s.callsUntil s' = answered := by
  unfold callsUntil
  rw [h.calls_eq, List.drop_left, List.map_map]
  calc answered.map _ = answered.map id :=
        List.map_congr_left fun a ha => by simp [h.failed_eq a ha]
    _ = answered := List.map_id _

theorem made_nil (h : s'.calls = s.calls) : Made s [] s' := ⟨by simp [h], by simp⟩

/-- The stop of a socket does not fail, whatever happened before. -/
theorem Made.stop (h : Made s answered s') : Made s (answered ++ [⟨.stop, false⟩]) s'.stop where
  calls_eq := by simp [Socket.stop, called, h.calls_eq]
  failed_eq := by
    intro a ha
    rcases List.mem_append.1 ha with ha | ha
    · exact h.failed_eq a ha
    · obtain rfl := List.mem_singleton.1 ha
      rfl

/-- After a call that succeeded the others are answered as they would have been before it. -/
theorem Taken.made (h : Taken s call s') (hrest : Made s' answered s'') :
    Made s (⟨call, false⟩ :: answered) s'' where
  calls_eq := by simp [hrest.calls_eq, h.calls_eq]
  failed_eq := by
    intro a ha
    rcases List.mem_cons.1 ha with rfl | ha
    · simp [h.fault_eq]
    · rw [← h.faults_eq]
      exact hrest.failed_eq a ha

/-- A call that changes nothing else, and may fail. -/
theorem Made.called (hrest : Made (s.called call) answered s'') :
    Made s (⟨call, (s.faultFor call).isSome⟩ :: answered) s'' where
  calls_eq := by simp [hrest.calls_eq, Socket.called]
  failed_eq := by
    intro a ha
    rcases List.mem_cons.1 ha with rfl | ha
    · rfl
    · have hfault : (s.called call).faultFor a.call = s.faultFor a.call := by
        cases a.call <;> rfl
      rw [← hfault]
      exact hrest.failed_eq a ha

theorem Refused.made (h : Refused s call s') : Made s [⟨call, true⟩] s' where
  calls_eq := by simp [h.calls_eq]
  failed_eq := by simp [h.fault_isSome]

theorem taken_start {family : Family} (h : s.start family = (s', none)) :
    Taken s (.start family) s' := by
  unfold start at h
  split at h
  case h_1 => cases h
  case h_2 hfault =>
    cases h
    exact ⟨rfl, hfault, rfl⟩

theorem refused_start {family : Family} {error : IoError} (h : s.start family = (s', some error)) :
    Refused s (.start family) s' := by
  unfold start at h
  split at h
  case h_1 kind hfault =>
    cases h
    exact ⟨rfl, by simp [faultFor, hfault]⟩
  case h_2 => cases h

theorem taken_bind {addr : SocketAddr} (h : s.bind addr = (s', none)) :
    Taken s (.bind addr) s' := by
  obtain ⟨rfl, hnone⟩ := Prod.mk.inj h
  have hfault : s.bindFault = none := Option.map_eq_none_iff.1 hnone
  refine ⟨rfl, hfault, funext fun call => ?_⟩
  cases call <;> simp [faultFor, called, hfault]

theorem refused_bind {addr : SocketAddr} {error : IoError} (h : s.bind addr = (s', some error)) :
    Refused s (.bind addr) s' := by
  obtain ⟨rfl, hsome⟩ := Prod.mk.inj h
  obtain ⟨kind, hkind, -⟩ := Option.map_eq_some_iff.1 hsome
  exact ⟨rfl, by simp [faultFor, hkind]⟩

theorem taken_listen {backlog : UInt32} (h : s.listen backlog = (s', none)) :
    Taken s (.listen backlog) s' := by
  obtain ⟨rfl, hnone⟩ := Prod.mk.inj h
  have hfault : s.listenFault = none := Option.map_eq_none_iff.1 hnone
  refine ⟨rfl, hfault, funext fun call => ?_⟩
  cases call <;> simp [faultFor, called, hfault]

theorem refused_listen {backlog : UInt32} {error : IoError}
    (h : s.listen backlog = (s', some error)) : Refused s (.listen backlog) s' := by
  obtain ⟨rfl, hsome⟩ := Prod.mk.inj h
  obtain ⟨kind, hkind, -⟩ := Option.map_eq_some_iff.1 hsome
  exact ⟨rfl, by simp [faultFor, hkind]⟩

theorem taken_connect {addr : SocketAddr} (h : s.connect addr = (s', none)) :
    Taken s (.connect addr) s' := by
  obtain ⟨rfl, hnone⟩ := Prod.mk.inj h
  have hfault : s.connectFault = none := Option.map_eq_none_iff.1 hnone
  refine ⟨rfl, hfault, funext fun call => ?_⟩
  cases call <;> simp [faultFor, called, hfault]

theorem refused_connect {addr : SocketAddr} {error : IoError}
    (h : s.connect addr = (s', some error)) : Refused s (.connect addr) s' := by
  obtain ⟨rfl, hsome⟩ := Prod.mk.inj h
  obtain ⟨kind, hkind, -⟩ := Option.map_eq_some_iff.1 hsome
  exact ⟨rfl, by simp [faultFor, hkind]⟩

/-- How often the socket could not be opened between one condition of it and a later one. -/
def failedOpens (s s' : Socket) : Nat :=
  (s.callsUntil s').countP fun answered => answered.call.isStart && answered.failed

theorem Made.failedOpens_eq (h : Made s answered s') :
    s.failedOpens s' =
      answered.countP fun answered => answered.call.isStart && answered.failed := by
  rw [failedOpens, h.callsUntil_eq]

theorem Refused.failedOpens_eq {family : Family} (h : Refused s (.start family) s') :
    s.failedOpens s' = 1 := by
  rw [h.made.failedOpens_eq]
  rfl

/-- A socket that could be opened was not opened in vain, whatever has happened since. -/
theorem Taken.failedOpens_eq {family : Family} (h : Taken s (.start family) s') (s'' : Socket) :
    s.failedOpens s'' = 0 := by
  have hfault : s.startFault = none := h.fault_eq
  rw [failedOpens, List.countP_eq_zero]
  intro answered hanswered
  obtain ⟨call, -, rfl⟩ := List.mem_map.1 hanswered
  cases call <;> simp [SocketCall.isStart, faultFor, hfault]

/-- Of the calls that have led from one condition of a socket to a later one, no other than the
first opens the socket, and if it does, the socket was idle. -/
structure OpenedIdle (s s' : Socket) : Prop where
  idle : ∀ answered ∈ s.callsUntil s', answered.call.isStart → s.isIdle
  first : ∀ answered ∈ (s.callsUntil s').tail, answered.call.isStart = false

/-- Nothing was asked of the socket but to stop. -/
def OnlyStopped (s s' : Socket) : Prop :=
  ∃ n, s'.calls = s.calls ++ List.replicate n .stop

theorem onlyStopped_of_eq (h : s'.calls = s.calls) : OnlyStopped s s' := ⟨0, by simp [h]⟩

theorem onlyStopped_stop (s : Socket) : OnlyStopped s s.stop := ⟨1, rfl⟩

theorem OnlyStopped.trans (h : OnlyStopped s s') (h' : OnlyStopped s' s'') : OnlyStopped s s'' := by
  obtain ⟨n, hn⟩ := h
  obtain ⟨k, hk⟩ := h'
  exact ⟨n + k, by rw [hk, hn, List.append_assoc, List.replicate_append_replicate]⟩

theorem OnlyStopped.made (h : OnlyStopped s s') :
    ∃ n, Made s (List.replicate n ⟨.stop, false⟩) s' := by
  obtain ⟨n, hn⟩ := h
  refine ⟨n, by simp [hn], ?_⟩
  intro answered hanswered
  obtain rfl := List.eq_of_mem_replicate hanswered
  rfl

theorem OnlyStopped.failedOpens_eq (h : OnlyStopped s s') : s.failedOpens s' = 0 := by
  obtain ⟨n, hmade⟩ := h.made
  rw [hmade.failedOpens_eq, List.countP_eq_zero]
  intro answered hanswered
  obtain rfl := List.eq_of_mem_replicate hanswered
  simp [SocketCall.isStart]

@[simp] theorem failedOpens_self (s : Socket) : s.failedOpens s = 0 :=
  (onlyStopped_of_eq rfl).failedOpens_eq

theorem OnlyStopped.openedIdle (h : OnlyStopped s s') : OpenedIdle s s' := by
  obtain ⟨n, hmade⟩ := h.made
  constructor <;> rw [hmade.callsUntil_eq] <;> intro answered hanswered
  · obtain rfl := List.eq_of_mem_replicate hanswered
    simp [SocketCall.isStart]
  · obtain rfl := List.eq_of_mem_replicate (List.mem_of_mem_tail hanswered)
    rfl

theorem Made.openedIdle (h : Made s answered s') (idle : s.isIdle)
    (hfirst : ∀ made ∈ answered.tail, made.call.isStart = false) : OpenedIdle s s' :=
  ⟨fun _ _ _ => idle, by rwa [h.callsUntil_eq]⟩

@[simp] theorem calls_inject (s : Socket) (point : FaultPoint) (kind : ErrorKind) :
    (s.inject point kind).calls = s.calls := by
  cases point <;> rfl

end Socket

end EndpointLifecycle
