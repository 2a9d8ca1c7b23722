import EndpointLifecycle.Collaborator.Timer

/-!
# Backoff

After a failure an endpoint waits before it tries again, each time twice as long as the time before,
up to a limit. A limit of zero means the first interval, so that waiting does not grow. Intervals
are never taken back to the first one.
-/

namespace EndpointLifecycle

structure Backoff where
  timer : Timer
  max : Duration
  current : Duration
  attempts : Nat
  deriving DecidableEq

namespace Backoff

def effectiveMax (base max : Duration) : Duration := if max = .zero then base else max

/-- Doubles up to `n` times, until the limit is reached. -/
def grown (max : Duration) : Nat → Duration → Duration
  | 0, d => d
  | n + 1, d => if max ≤ d then d else grown max n d.doubled

/-- The interval to wait after `attempt` earlier ones. -/
def intervalAfter (base max : Duration) (attempt : Nat) : Duration :=
  if base = .zero then base
  else min (grown (effectiveMax base max) attempt base) (effectiveMax base max)

def new (timer : Timer) (base max : Duration) : Backoff :=
  ⟨timer, effectiveMax base max, base, 0⟩

/-- Where the count of attempts stays. -/
def maxAttempts : Nat := UInt32.size - 1

def nextInterval (b : Backoff) : Duration := min b.current b.max

/-- Arms the timer and says for how long. -/
def start (b : Backoff) : Duration × Backoff :=
  (b.nextInterval,
    { b with
      timer := b.timer.start b.nextInterval
      current := if b.current < b.max then b.current.doubled else b.current
      attempts := min (b.attempts + 1) maxAttempts })

def stop (b : Backoff) : Backoff := { b with timer := b.timer.stop }

def completeStop (b : Backoff) : Backoff := { b with timer := b.timer.completeStop }

def isIdle (b : Backoff) : Bool := b.timer.isIdle

/-- How often the timer was asked to stop. -/
def stops (b : Backoff) : Nat := b.timer.activity.stops

@[simp] theorem stops_stop (b : Backoff) : b.stop.stops = b.stops + 1 :=
  Activity.stops_stop b.timer.activity

@[simp] theorem stops_completeStop (b : Backoff) : b.completeStop.stops = b.stops :=
  Activity.stops_completeStop b.timer.activity

theorem isIdle_completeStop {b : Backoff} (h : b.isIdle) : b.completeStop.isIdle :=
  Activity.isIdle_completeStop_of_isIdle h

end Backoff

end EndpointLifecycle
