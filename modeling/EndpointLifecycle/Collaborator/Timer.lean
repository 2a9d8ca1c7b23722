import EndpointLifecycle.Collaborator.Activity
import EndpointLifecycle.Duration

/-!
# Timers

A timer remembers the intervals it was armed with. After its timeout it is still at work until it is
stopped.
-/

namespace EndpointLifecycle

structure Timer where
  activity : Activity := {}
  intervals : List Duration := []
  deriving DecidableEq

namespace Timer

def start (t : Timer) (interval : Duration) : Timer :=
  { t with activity := t.activity.start, intervals := t.intervals ++ [interval] }

def stop (t : Timer) : Timer := { t with activity := t.activity.stop }

def completeStop (t : Timer) : Timer := { t with activity := t.activity.completeStop }

def isIdle (t : Timer) : Bool := t.activity.isIdle

end Timer

end EndpointLifecycle
