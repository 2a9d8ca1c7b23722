import EndpointLifecycle.Proofs.Rhythm
import Mathlib.Algebra.Ring.Nat

/-!
# The closed form of waiting

One way to an interval doubles the first one in a loop that ends early at the limit, the other keeps
the interval of the next start and doubles it with every start until it has passed the limit. Both
stay at the longest duration when they would pass it. None of this shows: an interval is the first
one times a power of two, in whole nanoseconds and without any bound, or the limit if that is less.
-/

namespace EndpointLifecycle.Backoff

/-- The longest interval, in nanoseconds. -/
def limit (base max : Duration) : Nat := if max.nanos = 0 then base.nanos else max.nanos

/-- The interval after `attempt` earlier ones, in nanoseconds. -/
def closedForm (base max : Duration) (attempt : Nat) : Nat :=
  min (base.nanos * 2 ^ attempt) (limit base max)

variable (base max : Duration)

theorem nanos_effectiveMax : (effectiveMax base max).nanos = limit base max := by
  unfold effectiveMax limit
  by_cases h : max = .zero
  case pos =>
    have hnanos : max.nanos = 0 := congrArg Duration.nanos h
    rw [if_pos h, if_pos hnanos]
  case neg =>
    have hnanos : max.nanos ≠ 0 := fun hzero => h (Duration.ext hzero)
    rw [if_neg h, if_neg hnanos]

theorem closedForm_mono {m n : Nat} (h : m ≤ n) :
    closedForm base max m ≤ closedForm base max n := by
  have hpow : base.nanos * 2 ^ m ≤ base.nanos * 2 ^ n :=
    Nat.mul_le_mul_left _ (Nat.pow_le_pow_right Nat.two_pos h)
  unfold closedForm
  omega

theorem closedForm_le (n : Nat) : closedForm base max n ≤ limit base max := Nat.min_le_right ..

theorem mul_two_pow_succ (m n : Nat) : m * 2 ^ (n + 1) = 2 * (m * 2 ^ n) := by
  rw [Nat.pow_succ, ← Nat.mul_assoc, Nat.mul_comm]

/-- Neither the end of the loop at the limit nor the longest duration makes a difference below the
limit. -/
theorem min_nanos_grown (n : Nat) (d : Duration) :
    min (grown max n d).nanos max.nanos = min (d.nanos * 2 ^ n) max.nanos := by
  induction n generalizing d with
  | zero => rw [grown, Nat.pow_zero, Nat.mul_one]
  | succ n ih =>
    have hpow : d.nanos * 2 ^ (n + 1) = 2 * d.nanos * 2 ^ n := by
      rw [mul_two_pow_succ, Nat.mul_assoc]
    have hpos : 0 < 2 ^ n := Nat.two_pow_pos n
    have hlonger : 2 * d.nanos ≤ 2 * d.nanos * 2 ^ n := Nat.le_mul_of_pos_right _ hpos
    by_cases h : d < max
    case pos =>
      have hmax := max.nanos_le
      rw [grown_of_lt h, ih, Duration.nanos_doubled, hpow]
      by_cases hfits : 2 * d.nanos ≤ Duration.maxNanos
      · rw [Nat.min_eq_left hfits]
      · -- The longest duration is not below the limit, and neither is anything longer.
        have hlong : Duration.maxNanos ≤ Duration.maxNanos * 2 ^ n :=
          Nat.le_mul_of_pos_right _ hpos
        rw [Nat.min_eq_right (Nat.le_of_not_le hfits)]
        omega
    case neg =>
      have hle : max.nanos ≤ d.nanos := Nat.not_lt.1 h
      rw [grown_of_le hle, hpow]
      omega

theorem nanos_intervalAfter (n : Nat) :
    (intervalAfter base max n).nanos = closedForm base max n := by
  rw [← min_grown, Duration.nanos_min, min_nanos_grown, nanos_effectiveMax, closedForm]

/-- What happens to a backoff: its owner starts it and stops it, and its timer comes to the end of a
stop. -/
inductive Call
  | start
  | stop
  | completeStop
  deriving DecidableEq

def perform (b : Backoff) : Call → Backoff
  | .start => b.start.2
  | .stop => b.stop
  | .completeStop => b.completeStop

def after (b : Backoff) (calls : List Call) : Backoff := calls.foldl perform b

/-- What the starts return. -/
def returned (b : Backoff) : List Call → List Duration
  | [] => []
  | .start :: calls => b.start.1 :: b.start.2.returned calls
  | call :: calls => (b.perform call).returned calls

/-- Where a backoff stands after `n` starts. Above the limit it does not matter how far it has
got. -/
structure Paced (n : Nat) (b : Backoff) : Prop where
  max_eq : b.max.nanos = limit base max
  nextInterval_eq : b.nextInterval.nanos = closedForm base max n
  attempts_eq : b.attempts = min n (UInt32.size - 1)

variable {base max} {n : Nat} {b b' : Backoff}

theorem paced_new (timer : Timer) : Paced base max 0 (new timer base max) where
  max_eq := nanos_effectiveMax base max
  nextInterval_eq := by
    have hnext : (new timer base max).nextInterval = min base (effectiveMax base max) := rfl
    rw [hnext, Duration.nanos_min, nanos_effectiveMax, closedForm, Nat.pow_zero, Nat.mul_one]
  attempts_eq := rfl

theorem Paced.same (h : Paced base max n b) (hs : SameRhythm b b') : Paced base max n b' where
  max_eq := by rw [hs.max_eq, h.max_eq]
  nextInterval_eq := by
    rw [← h.nextInterval_eq, nextInterval, hs.max_eq, hs.current_eq, nextInterval]
  attempts_eq := by rw [hs.attempts_eq, h.attempts_eq]

theorem Paced.start (h : Paced base max n b) : Paced base max (n + 1) b.start.2 where
  max_eq := h.max_eq
  nextInterval_eq := by
    have hnext := h.nextInterval_eq
    have hmax := b.max.nanos_le
    rw [nextInterval, Duration.nanos_min, closedForm, h.max_eq] at hnext
    change (min (if b.current < b.max then b.current.doubled else b.current) b.max).nanos = _
    rw [Duration.nanos_min, closedForm, mul_two_pow_succ, h.max_eq]
    rw [h.max_eq] at hmax
    split
    case isTrue hlt =>
      have hlt : b.current.nanos < limit base max := h.max_eq ▸ hlt
      rw [Duration.nanos_doubled]
      omega
    case isFalse hle =>
      have hle : limit base max ≤ b.current.nanos := h.max_eq ▸ Nat.not_lt.1 hle
      omega
  attempts_eq := by
    have hattempts : b.start.2.attempts = min (b.attempts + 1) maxAttempts := rfl
    rw [hattempts, h.attempts_eq, maxAttempts]
    omega

theorem paced_perform (call : Call) (h : Paced base max n b) :
    Paced base max (n + [call].count .start) (b.perform call) := by
  cases call with
  | start => exact h.start
  | stop => exact h.same (sameRhythm_stop b)
  | completeStop => exact h.same (sameRhythm_completeStop b)

theorem paced_after (calls : List Call) (h : Paced base max n b) :
    Paced base max (n + calls.count .start) (b.after calls) := by
  induction calls generalizing n b with
  | nil => exact h
  | cons call calls ih =>
    have hcount :
        n + (call :: calls).count .start = n + [call].count .start + calls.count .start := by
      rw [← List.singleton_append, List.count_append, Nat.add_assoc]
    rw [hcount]
    exact ih (paced_perform call h)

/-- The timer is armed with what is returned. -/
theorem intervals_after (calls : List Call) (b : Backoff) :
    (b.after calls).timer.intervals = b.timer.intervals ++ b.returned calls := by
  induction calls generalizing b with
  | nil => exact (List.append_nil _).symm
  | cons call calls ih =>
    have hafter : b.after (call :: calls) = (b.perform call).after calls := rfl
    rw [hafter, ih]
    cases call with
    | start => exact List.append_assoc ..
    | stop | completeStop => rfl

theorem nanos_returned (calls : List Call) (h : Paced base max n b) :
    (b.returned calls).map (·.nanos) =
      (List.range' n (calls.count .start)).map (closedForm base max) := by
  induction calls generalizing n b with
  | nil => rfl
  | cons call calls ih =>
    cases call with
    | start =>
      rw [returned, List.map_cons, ih h.start, List.count_cons_self, List.range'_succ,
        List.map_cons]
      exact congrArg (· :: _) h.nextInterval_eq
    | stop => exact ih (h.same (sameRhythm_stop b))
    | completeStop => exact ih (h.same (sameRhythm_completeStop b))

/-- What the next start of a backoff does that has been started `n` times. -/
structure StartsAfter (base max : Duration) (n : Nat) (b : Backoff) : Prop where
  announced : b.nextInterval.nanos = closedForm base max n
  returned : b.start.1.nanos = closedForm base max n
  armed : b.start.2.timer = b.timer.start b.start.1
  counted : b.start.2.attempts = min (n + 1) (UInt32.size - 1)

theorem Paced.startsAfter (h : Paced base max n b) : StartsAfter base max n b where
  announced := h.nextInterval_eq
  returned := h.nextInterval_eq
  armed := rfl
  counted := h.start.attempts_eq

/-- All intervals are those of the closed form, whatever lies between the starts, and so they never
decrease and stay within the limit. -/
theorem intervals_closed_form (timer : Timer) (base max : Duration) :
    (∀ k, (intervalAfter base max k).nanos = closedForm base max k) ∧
    ∀ calls : List Call,
      StartsAfter base max (calls.count .start) ((new timer base max).after calls) ∧
      ((new timer base max).after calls).timer.intervals =
        timer.intervals ++ (new timer base max).returned calls ∧
      ((new timer base max).returned calls).map (·.nanos) =
        (List.range (calls.count .start)).map (closedForm base max) ∧
      ((new timer base max).returned calls).Pairwise (· ≤ ·) ∧
      ∀ interval ∈ (new timer base max).returned calls, interval.nanos ≤ limit base max := by
  refine ⟨nanos_intervalAfter base max, fun calls => ?_⟩
  have hnew : Paced base max 0 (new timer base max) := paced_new timer
  have hpaced := paced_after calls hnew
  rw [Nat.zero_add] at hpaced
  have hreturned := nanos_returned calls hnew
  rw [← List.range_eq_range'] at hreturned
  refine ⟨hpaced.startsAfter, intervals_after calls _, hreturned, ?_, ?_⟩
  · have hle : ((List.range (calls.count .start)).map (closedForm base max)).Pairwise (· ≤ ·) :=
      List.pairwise_map.2 (List.pairwise_le_range.imp (closedForm_mono base max))
    rw [← hreturned, List.pairwise_map] at hle
    exact hle
  · intro interval hmem
    have hmem : interval.nanos ∈ (List.range (calls.count .start)).map (closedForm base max) :=
      hreturned ▸ List.mem_map_of_mem hmem
    obtain ⟨k, -, hk⟩ := List.mem_map.1 hmem
    exact hk ▸ closedForm_le base max k

/-- The limit is passed at the fourth start, after a stop that was completed and one that was
not. -/
theorem intervals_closed_form_to_the_limit :
    ∃ calls interval,
      calls = [.start, .stop, .completeStop, .start, .stop, .start, .start, .start] ∧
      ((new {} (.ofMillis 100) (.ofMillis 700)).returned calls).map (·.nanos) =
        [100000000, 200000000, 400000000, 700000000, 700000000] ∧
      interval ∈ (new {} (.ofMillis 100) (.ofMillis 700)).returned calls ∧
      interval.nanos ≤ 700000000 := by
  let calls : List Call := [.start, .stop, .completeStop, .start, .stop, .start, .start, .start]
  have hform := (intervals_closed_form {} (.ofMillis 100) (.ofMillis 700)).2 calls
  have hmem : .ofMillis 400 ∈ (new {} (.ofMillis 100) (.ofMillis 700)).returned calls := by
    decide +kernel
  have hlimit : limit (.ofMillis 100) (.ofMillis 700) = 700000000 := by decide +kernel
  exact ⟨calls, .ofMillis 400, rfl, hform.2.2.1.trans (by decide +kernel), hmem,
    hlimit ▸ hform.2.2.2.2 _ hmem⟩

end EndpointLifecycle.Backoff
