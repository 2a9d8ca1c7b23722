import EndpointLifecycle.Collaborator.Activity

/-!
# Name resolvers

A resolver remembers the lookups it was asked for. Its result and the end of its work are two
different things: once the result is there, it still has to be stopped.
-/

namespace EndpointLifecycle

structure Lookup where
  host : String
  ipv4Only : Bool
  deriving DecidableEq

structure Resolver where
  activity : Activity := {}
  lookups : List Lookup := []
  deriving DecidableEq

namespace Resolver

def start (r : Resolver) (lookup : Lookup) : Resolver :=
  { r with activity := r.activity.start, lookups := r.lookups ++ [lookup] }

def stop (r : Resolver) : Resolver := { r with activity := r.activity.stop }

def completeStop (r : Resolver) : Resolver := { r with activity := r.activity.completeStop }

def isIdle (r : Resolver) : Bool := r.activity.isIdle

/-- How often the resolver was asked to stop. -/
def stops (r : Resolver) : Nat := r.activity.stops

@[simp] theorem stops_stop (r : Resolver) : r.stop.stops = r.stops + 1 :=
  Activity.stops_stop r.activity

@[simp] theorem stops_completeStop (r : Resolver) : r.completeStop.stops = r.stops :=
  Activity.stops_completeStop r.activity

theorem isIdle_completeStop {r : Resolver} (h : r.isIdle) : r.completeStop.isIdle :=
  Activity.isIdle_completeStop_of_isIdle h

end Resolver

end EndpointLifecycle
