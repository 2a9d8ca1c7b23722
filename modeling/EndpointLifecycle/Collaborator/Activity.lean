/-!
# Activities of collaborators

A socket, timer, resolver or connection is at work from its start until its stop is complete.
Stopping takes time: a stop is asked for first and completed later, unless the collaborator stops at
once. The activity of a collaborator keeps count of what was asked of it.
-/

namespace EndpointLifecycle

inductive Status
  | idle
  | running
  | stopping
  deriving DecidableEq

def Status.name : Status → String
  | idle => "idle"
  | running => "running"
  | stopping => "stopping"

structure Activity where
  status : Status := .idle
  stopsAtOnce : Bool := false
  starts : Nat := 0
  /-- Stops asked for, also while there was nothing to stop. -/
  stops : Nat := 0
  /-- Stops that have come to their end. -/
  completions : Nat := 0
  deriving DecidableEq

namespace Activity

def isIdle (a : Activity) : Bool := a.status = .idle

def isStopping (a : Activity) : Bool := a.status = .stopping

/-- Also in the middle of a stop, which is then forgotten. -/
def start (a : Activity) : Activity := { a with status := .running, starts := a.starts + 1 }

def requestStop (a : Activity) : Activity :=
  { a with
    status := if a.status = .running then .stopping else a.status
    stops := a.stops + 1 }

def completeStop (a : Activity) : Activity :=
  if a.status = .stopping then { a with status := .idle, completions := a.completions + 1 } else a

/-- Asks for a stop, and completes it if that is to happen at once. -/
def stop (a : Activity) : Activity :=
  if a.stopsAtOnce then a.requestStop.completeStop else a.requestStop

def text (a : Activity) : String :=
  "starts=" ++ toString a.starts ++ " stops=" ++ toString a.stops ++ " " ++ a.status.name

@[simp] theorem stops_completeStop (a : Activity) : a.completeStop.stops = a.stops := by
  unfold completeStop; split <;> rfl

@[simp] theorem starts_completeStop (a : Activity) : a.completeStop.starts = a.starts := by
  unfold completeStop; split <;> rfl

@[simp] theorem stops_stop (a : Activity) : a.stop.stops = a.stops + 1 := by
  unfold stop; split <;> simp [requestStop]

@[simp] theorem starts_stop (a : Activity) : a.stop.starts = a.starts := by
  unfold stop; split <;> simp [requestStop]

/-- After a stop there is something to wait for unless there was nothing to stop or it is done at
once. -/
theorem isIdle_stop (a : Activity) : a.stop.isIdle = (a.isIdle || a.stopsAtOnce) := by
  rcases a with ⟨status, atOnce, _, _, _⟩
  cases status <;> cases atOnce <;> rfl

/-- To complete the stop of an idle activity is to do nothing. -/
theorem completeStop_of_isIdle {a : Activity} (h : a.isIdle) : a.completeStop = a := by
  have hs : a.status = .idle := by simpa [isIdle] using h
  simp [completeStop, hs]

@[simp] theorem isIdle_completeStop_of_isIdle {a : Activity} (h : a.isIdle) :
    a.completeStop.isIdle := by
  rw [completeStop_of_isIdle h]
  exact h

end Activity

end EndpointLifecycle
