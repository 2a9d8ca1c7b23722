import EndpointLifecycle.Backoff

/-!
# The rhythm of retries

A backoff doubles what it waits step by step and keeps only where it has got to. `Rhythm` says where
that is after the timer was armed `n` times, and that the intervals so far are those of the closed
form. Nothing but the next start moves it on.
-/

namespace EndpointLifecycle

namespace Duration

theorem not_lt {a b : Duration} : ¬a < b ↔ b ≤ a := Nat.not_lt

@[simp] theorem doubled_zero : zero.doubled = zero := by
  ext
  simp [nanos_doubled, zero]

theorem zero_min (d : Duration) : min zero d = zero := by
  ext
  simp [nanos_min, zero]

end Duration

namespace Backoff

theorem grown_of_le {max d : Duration} (h : max ≤ d) (n : Nat) : grown max n d = d := by
  cases n with
  | zero => rfl
  | succ n => rw [grown, if_pos h]

theorem grown_of_lt {max d : Duration} (h : d < max) (n : Nat) :
    grown max (n + 1) d = grown max n d.doubled := by
  have hle : ¬max ≤ d := Nat.not_le.2 h
  rw [grown, if_neg hle]

/-- To double once more is to double what has grown so far, unless the limit is reached. -/
theorem grown_succ (max : Duration) (n : Nat) (d : Duration) :
    grown max (n + 1) d =
      if grown max n d < max then (grown max n d).doubled else grown max n d := by
  by_cases h : d < max
  · induction n generalizing d with
    | zero =>
      rw [grown_of_lt h, grown, grown, if_pos h]
    | succ n ih =>
      rw [grown_of_lt h, grown_of_lt h]
      by_cases hd : d.doubled < max
      · exact ih d.doubled hd
      · have hle : max ≤ d.doubled := Duration.not_lt.1 hd
        rw [grown_of_le hle, grown_of_le hle, if_neg hd]
  · have hle : max ≤ d := Duration.not_lt.1 h
    rw [grown_of_le hle, grown_of_le hle, if_neg h]

theorem grown_zero (max : Duration) (n : Nat) : grown max n .zero = .zero := by
  induction n with
  | zero => rfl
  | succ n ih => rw [grown_succ, ih, Duration.doubled_zero, ite_self]

theorem min_grown (base max : Duration) (n : Nat) :
    min (grown (effectiveMax base max) n base) (effectiveMax base max) =
      intervalAfter base max n := by
  unfold intervalAfter
  split
  case isTrue h =>
    subst h
    rw [grown_zero, Duration.zero_min]
  case isFalse => rfl

/-- The rhythm is where it was, whatever the timer does. -/
structure SameRhythm (b b' : Backoff) : Prop where
  max_eq : b'.max = b.max
  current_eq : b'.current = b.current
  attempts_eq : b'.attempts = b.attempts
  intervals_eq : b'.timer.intervals = b.timer.intervals

variable {b b' b'' : Backoff}

theorem SameRhythm.refl (b : Backoff) : SameRhythm b b := ⟨rfl, rfl, rfl, rfl⟩

theorem SameRhythm.trans (h : SameRhythm b b') (h' : SameRhythm b' b'') : SameRhythm b b'' where
  max_eq := h'.max_eq.trans h.max_eq
  current_eq := h'.current_eq.trans h.current_eq
  attempts_eq := h'.attempts_eq.trans h.attempts_eq
  intervals_eq := h'.intervals_eq.trans h.intervals_eq

theorem sameRhythm_stop (b : Backoff) : SameRhythm b b.stop := ⟨rfl, rfl, rfl, rfl⟩

theorem sameRhythm_completeStop (b : Backoff) : SameRhythm b b.completeStop := ⟨rfl, rfl, rfl, rfl⟩

theorem intervals_start (b : Backoff) :
    b.start.2.timer.intervals = b.timer.intervals ++ [b.nextInterval] := rfl

/-- How a backoff stands after its timer was armed `n` times. -/
structure Rhythm (base max : Duration) (n : Nat) (b : Backoff) : Prop where
  max_eq : b.max = effectiveMax base max
  current_eq : b.current = grown (effectiveMax base max) n base
  attempts_eq : b.attempts = min n (UInt32.size - 1)
  intervals_eq : b.timer.intervals = (List.range n).map (intervalAfter base max)

variable {base max : Duration} {n : Nat}

theorem rhythm_new {timer : Timer} (h : timer.intervals = []) :
    Rhythm base max 0 (new timer base max) :=
  ⟨rfl, rfl, rfl, h⟩

theorem Rhythm.same (h : Rhythm base max n b) (hs : SameRhythm b b') : Rhythm base max n b' where
  max_eq := hs.max_eq.trans h.max_eq
  current_eq := hs.current_eq.trans h.current_eq
  attempts_eq := hs.attempts_eq.trans h.attempts_eq
  intervals_eq := hs.intervals_eq.trans h.intervals_eq

theorem Rhythm.nextInterval_eq (h : Rhythm base max n b) :
    b.nextInterval = intervalAfter base max n := by
  rw [nextInterval, h.max_eq, h.current_eq, min_grown]

theorem Rhythm.start (h : Rhythm base max n b) : Rhythm base max (n + 1) b.start.2 where
  max_eq := h.max_eq
  current_eq := by
    rw [grown_succ, ← h.current_eq, ← h.max_eq]
    rfl
  attempts_eq := by
    have hattempts : b.start.2.attempts = min (b.attempts + 1) maxAttempts := rfl
    rw [hattempts, h.attempts_eq, maxAttempts]
    omega
  intervals_eq := by
    rw [intervals_start, h.intervals_eq, h.nextInterval_eq, List.range_succ, List.map_append]
    rfl

/-- What a request makes of a backoff: it starts it, as it enters the wait, or lets it be. -/
inductive Beat (b : Backoff) (enters : Prop) : Nat → Backoff → Prop
  | none {rested} (same : b.SameRhythm rested) : Beat b enters 0 rested
  | one (entered : enters) : Beat b enters 1 b.start.2

theorem beat_zero {enters : Prop} {k : Nat} (hk : k = 0) (same : b.SameRhythm b') :
    Beat b enters k b' :=
  hk ▸ .none same

theorem beat_one {enters : Prop} {k : Nat} (hk : k = 1) (entered : enters) :
    Beat b enters k b.start.2 :=
  hk ▸ .one entered

theorem Beat.rhythm {enters : Prop} {k : Nat} (h : Beat b enters k b') (hr : Rhythm base max n b) :
    Rhythm base max (n + k) b' := by
  cases h with
  | none same => exact hr.same same
  | one => exact hr.start

/-- The timer is armed only on the way into the wait. -/
theorem Beat.entered {enters : Prop} {k : Nat} (h : Beat b enters k b')
    (armed : b'.timer.intervals ≠ b.timer.intervals) : enters := by
  cases h with
  | none same => exact absurd same.intervals_eq armed
  | one entered => exact entered

end Backoff

end EndpointLifecycle
