import EndpointLifecycle.ErrorKind

/-!
# Statistics of an endpoint

What happens to an endpoint at run time is never returned to its owner: it is read off seven
counters, the last error and the mark that the endpoint has stopped. Counters are 64-bit words and
wrap around.
-/

namespace EndpointLifecycle

inductive Statistic
  | inProgressConnections
  | establishedConnections
  | brokenConnections
  | droppedConnections
  | connectErrors
  | acceptedConnections
  | bindErrors
  deriving DecidableEq

namespace Statistic

def all : List Statistic :=
  [inProgressConnections, establishedConnections, brokenConnections, droppedConnections,
    connectErrors, acceptedConnections, bindErrors]

def name : Statistic → String
  | inProgressConnections => "InProgressConnections"
  | establishedConnections => "EstablishedConnections"
  | brokenConnections => "BrokenConnections"
  | droppedConnections => "DroppedConnections"
  | connectErrors => "ConnectErrors"
  | acceptedConnections => "AcceptedConnections"
  | bindErrors => "BindErrors"

def ofName? (s : String) : Option Statistic := all.find? (·.name == s)

end Statistic

structure Statistics where
  inProgress : Int64 := 0
  established : Int64 := 0
  broken : Int64 := 0
  dropped : Int64 := 0
  connectErrors : Int64 := 0
  accepted : Int64 := 0
  bindErrors : Int64 := 0
  lastError : Option ErrorKind := none
  stopped : Bool := false
  /-- How often the end of the endpoint was reported. -/
  stopReports : Nat := 0
  deriving DecidableEq

namespace Statistics

def get (s : Statistics) : Statistic → Int64
  | .inProgressConnections => s.inProgress
  | .establishedConnections => s.established
  | .brokenConnections => s.broken
  | .droppedConnections => s.dropped
  | .connectErrors => s.connectErrors
  | .acceptedConnections => s.accepted
  | .bindErrors => s.bindErrors

/-- Adds to one counter, modulo 2 ^ 64. -/
def record (s : Statistics) (stat : Statistic) (delta : Int64) : Statistics :=
  match stat with
  | .inProgressConnections => { s with inProgress := s.inProgress + delta }
  | .establishedConnections => { s with established := s.established + delta }
  | .brokenConnections => { s with broken := s.broken + delta }
  | .droppedConnections => { s with dropped := s.dropped + delta }
  | .connectErrors => { s with connectErrors := s.connectErrors + delta }
  | .acceptedConnections => { s with accepted := s.accepted + delta }
  | .bindErrors => { s with bindErrors := s.bindErrors + delta }

def setError (s : Statistics) (kind : ErrorKind) : Statistics := { s with lastError := some kind }

def clearError (s : Statistics) : Statistics := { s with lastError := none }

def markStopped (s : Statistics) : Statistics :=
  { s with stopped := true, stopReports := s.stopReports + 1 }

@[simp] theorem get_record_self (s : Statistics) (stat : Statistic) (delta : Int64) :
    (s.record stat delta).get stat = s.get stat + delta := by
  cases stat <;> rfl

theorem get_record_of_ne (s : Statistics) {stat other : Statistic} (delta : Int64)
    (h : other ≠ stat) : (s.record stat delta).get other = s.get other := by
  cases stat <;> cases other <;> first | rfl | exact absurd rfl h

@[simp] theorem get_setError (s : Statistics) (kind : ErrorKind) (stat : Statistic) :
    (s.setError kind).get stat = s.get stat := by
  cases stat <;> rfl

@[simp] theorem get_clearError (s : Statistics) (stat : Statistic) :
    s.clearError.get stat = s.get stat := by
  cases stat <;> rfl

@[simp] theorem get_markStopped (s : Statistics) (stat : Statistic) :
    s.markStopped.get stat = s.get stat := by
  cases stat <;> rfl

@[simp] theorem stopReports_record (s : Statistics) (stat : Statistic) (delta : Int64) :
    (s.record stat delta).stopReports = s.stopReports := by
  cases stat <;> rfl

-- A proof by `rfl` alone would let `simp` unfold the statistics and compare their words.
@[simp] theorem stopReports_setError (s : Statistics) (kind : ErrorKind) :
    (s.setError kind).stopReports = s.stopReports := by
  cases s; rfl

@[simp] theorem stopReports_clearError (s : Statistics) :
    s.clearError.stopReports = s.stopReports := by
  cases s; rfl

@[simp] theorem stopped_record (s : Statistics) (stat : Statistic) (delta : Int64) :
    (s.record stat delta).stopped = s.stopped := by
  cases stat <;> rfl

@[simp] theorem stopped_setError (s : Statistics) (kind : ErrorKind) :
    (s.setError kind).stopped = s.stopped := by
  cases s; rfl

@[simp] theorem stopped_clearError (s : Statistics) : s.clearError.stopped = s.stopped := by
  cases s; rfl

@[simp] theorem stopReports_markStopped (s : Statistics) :
    s.markStopped.stopReports = s.stopReports + 1 := by
  cases s; rfl

end Statistics

end EndpointLifecycle
