import EndpointLifecycle.Collaborator.Activity
import EndpointLifecycle.ErrorKind
import EndpointLifecycle.Ip.Writer

/-!
# Stream sockets

A socket remembers every call made on it. The outcome of a call is settled beforehand: faults may be
laid for the next start, bind, listen or connect, and for all calls that size a buffer. A start that
fails opens nothing.
-/

namespace EndpointLifecycle

inductive SocketCall
  | start (family : Family)
  | sendBuffer (bytes : UInt64)
  | recvBuffer (bytes : UInt64)
  | bind (addr : SocketAddr)
  | listen (backlog : UInt32)
  | connect (addr : SocketAddr)
  | stop
  deriving DecidableEq

def SocketCall.text : SocketCall → String
  | start family => "Start(" ++ family.name ++ ")"
  | sendBuffer bytes => "SendBuffer(" ++ toString bytes.toNat ++ ")"
  | recvBuffer bytes => "RecvBuffer(" ++ toString bytes.toNat ++ ")"
  | bind addr => "Bind(" ++ addr.text ++ ")"
  | listen backlog => "Listen(" ++ toString backlog.toNat ++ ")"
  | connect addr => "Connect(" ++ addr.text ++ ")"
  | stop => "Stop"

/-- Where a fault can be laid. -/
inductive FaultPoint
  | start
  | bind
  | listen
  | connect
  | buffers
  | lastError
  deriving DecidableEq

structure Socket where
  activity : Activity := {}
  calls : List SocketCall := []
  startFault : Option ErrorKind := none
  bindFault : Option ErrorKind := none
  listenFault : Option ErrorKind := none
  connectFault : Option ErrorKind := none
  /-- Lasts for all later calls. -/
  bufferFault : Option ErrorKind := none
  /-- Why the connect that is under way failed, for when the socket reports an error. -/
  lastError : Option ErrorKind := none
  /-- Connects that did not fail at once. -/
  connects : Nat := 0
  deriving DecidableEq

namespace Socket

/-- Lays a fault, in place of one that was there. -/
def inject (s : Socket) (point : FaultPoint) (kind : ErrorKind) : Socket :=
  match point with
  | .start => { s with startFault := some kind }
  | .bind => { s with bindFault := some kind }
  | .listen => { s with listenFault := some kind }
  | .connect => { s with connectFault := some kind }
  | .buffers => { s with bufferFault := some kind }
  | .lastError => { s with lastError := some kind }

def injected (kind : ErrorKind) : IoError := ⟨kind, "injected failure"⟩

def called (s : Socket) (call : SocketCall) : Socket := { s with calls := s.calls ++ [call] }

def start (s : Socket) (family : Family) : Socket × Option IoError :=
  match s.startFault with
  | some kind => ({ s.called (.start family) with startFault := none }, some (injected kind))
  | none => ({ s.called (.start family) with activity := s.activity.start }, none)

def setSendBuffer (s : Socket) (bytes : UInt64) : Socket × Option IoError :=
  (s.called (.sendBuffer bytes), s.bufferFault.map injected)

def setRecvBuffer (s : Socket) (bytes : UInt64) : Socket × Option IoError :=
  (s.called (.recvBuffer bytes), s.bufferFault.map injected)

def bind (s : Socket) (addr : SocketAddr) : Socket × Option IoError :=
  ({ s.called (.bind addr) with bindFault := none }, s.bindFault.map injected)

def listen (s : Socket) (backlog : UInt32) : Socket × Option IoError :=
  ({ s.called (.listen backlog) with listenFault := none }, s.listenFault.map injected)

def connect (s : Socket) (addr : SocketAddr) : Socket × Option IoError :=
  ({ s.called (.connect addr) with
      connectFault := none
      connects := s.connects + if s.connectFault.isNone then 1 else 0 },
    s.connectFault.map injected)

def stop (s : Socket) : Socket := { s.called .stop with activity := s.activity.stop }

def completeStop (s : Socket) : Socket := { s with activity := s.activity.completeStop }

def isIdle (s : Socket) : Bool := s.activity.isIdle

/-- How often the socket was asked to stop. -/
def stops (s : Socket) : Nat := s.calls.count .stop

/-- The faults that are laid, each of them for one call. -/
def faults (s : Socket) : Nat :=
  s.startFault.isSome.toNat + s.bindFault.isSome.toNat + s.listenFault.isSome.toNat +
    s.connectFault.isSome.toNat

@[simp] theorem stops_stop (s : Socket) : s.stop.stops = s.stops + 1 := by
  simp [stops, stop, called, List.count_append]

@[simp] theorem stops_completeStop (s : Socket) : s.completeStop.stops = s.stops := rfl

@[simp] theorem stops_inject (s : Socket) (point : FaultPoint) (kind : ErrorKind) :
    (s.inject point kind).stops = s.stops := by
  cases point <;> rfl

@[simp] theorem activity_inject (s : Socket) (point : FaultPoint) (kind : ErrorKind) :
    (s.inject point kind).activity = s.activity := by
  cases point <;> rfl

theorem activity_of_start_failed {s s' : Socket} {family : Family} {error : IoError}
    (h : s.start family = (s', some error)) : s'.activity = s.activity := by
  unfold start at h
  split at h <;> cases h
  rfl

theorem activity_of_start {s s' : Socket} {family : Family}
    (h : s.start family = (s', none)) : s'.activity = s.activity.start := by
  unfold start at h
  split at h <;> cases h
  rfl

theorem activity_of_bind {s s' : Socket} {addr : SocketAddr} {error : Option IoError}
    (h : s.bind addr = (s', error)) : s'.activity = s.activity := by
  cases h; rfl

theorem activity_of_listen {s s' : Socket} {backlog : UInt32} {error : Option IoError}
    (h : s.listen backlog = (s', error)) : s'.activity = s.activity := by
  cases h; rfl

theorem faults_of_start_failed {s s' : Socket} {family : Family} {error : IoError}
    (h : s.start family = (s', some error)) : s'.faults < s.faults := by
  unfold start at h
  split at h <;> cases h
  simp_all [faults, called]

theorem faults_of_start {s s' : Socket} {family : Family}
    (h : s.start family = (s', none)) : s'.faults = s.faults := by
  unfold start at h
  split at h <;> cases h
  rfl

theorem faults_of_bind_failed {s s' : Socket} {addr : SocketAddr} {error : IoError}
    (h : s.bind addr = (s', some error)) : s'.faults < s.faults := by
  obtain ⟨rfl, herror⟩ := Prod.mk.inj h
  obtain ⟨kind, hkind, -⟩ := Option.map_eq_some_iff.1 herror
  simp [faults, called, hkind]

theorem faults_of_bind {s s' : Socket} {addr : SocketAddr} (h : s.bind addr = (s', none)) :
    s'.faults = s.faults := by
  obtain ⟨rfl, herror⟩ := Prod.mk.inj h
  simp [faults, called, Option.map_eq_none_iff.1 herror]

theorem faults_of_listen_failed {s s' : Socket} {backlog : UInt32} {error : IoError}
    (h : s.listen backlog = (s', some error)) : s'.faults < s.faults := by
  obtain ⟨rfl, herror⟩ := Prod.mk.inj h
  obtain ⟨kind, hkind, -⟩ := Option.map_eq_some_iff.1 herror
  simp [faults, called, hkind]

theorem faults_of_connect_failed {s s' : Socket} {addr : SocketAddr} {error : IoError}
    (h : s.connect addr = (s', some error)) : s'.faults < s.faults := by
  obtain ⟨rfl, herror⟩ := Prod.mk.inj h
  obtain ⟨kind, hkind, -⟩ := Option.map_eq_some_iff.1 herror
  simp [faults, called, hkind]

theorem connects_of_start {s s' : Socket} {family : Family} {error : Option IoError}
    (h : s.start family = (s', error)) : s'.connects = s.connects := by
  unfold start at h
  split at h <;> cases h <;> rfl

theorem connects_of_bind {s s' : Socket} {addr : SocketAddr} {error : Option IoError}
    (h : s.bind addr = (s', error)) : s'.connects = s.connects := by
  cases h; rfl

theorem activity_of_connect {s s' : Socket} {addr : SocketAddr} {error : Option IoError}
    (h : s.connect addr = (s', error)) : s'.activity = s.activity := by
  cases h; rfl

theorem connects_of_connect {s s' : Socket} {addr : SocketAddr}
    (h : s.connect addr = (s', none)) : s'.connects = s.connects + 1 := by
  obtain ⟨rfl, hnone⟩ := Prod.mk.inj h
  simp [Option.map_eq_none_iff.1 hnone]

theorem connects_of_connect_failed {s s' : Socket} {addr : SocketAddr} {error : IoError}
    (h : s.connect addr = (s', some error)) : s'.connects = s.connects := by
  obtain ⟨rfl, hsome⟩ := Prod.mk.inj h
  obtain ⟨kind, hkind, -⟩ := Option.map_eq_some_iff.1 hsome
  simp [hkind]

theorem isIdle_completeStop {s : Socket} (h : s.isIdle) : s.completeStop.isIdle :=
  Activity.isIdle_completeStop_of_isIdle h

end Socket

end EndpointLifecycle
