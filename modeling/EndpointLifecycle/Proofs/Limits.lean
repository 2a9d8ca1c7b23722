import EndpointLifecycle.Options.Basic
import EndpointLifecycle.Proofs.Rhythm

/-!
# The limits of waiting

Options keep whole milliseconds. What is left of an interval of at least a millisecond is neither
zero nor longer than it was. Of a shorter one nothing is left, and zero does not stand for a short
interval: an endpoint whose first interval is zero does not wait at all, and one whose longest
interval is zero waits for the first one, however long.
-/

namespace EndpointLifecycle

namespace Duration

theorem le_trans {a b c : Duration} (h : a ≤ b) (h' : b ≤ c) : a ≤ c := Nat.le_trans h h'

theorem le_doubled (d : Duration) : d ≤ d.doubled := by
  change d.nanos ≤ d.doubled.nanos
  have := d.nanos_le
  rw [nanos_doubled]
  omega

theorem le_min {a b c : Duration} (hb : a ≤ b) (hc : a ≤ c) : a ≤ min b c := by
  change a.nanos ≤ (min b c).nanos
  rw [nanos_min]
  exact Nat.le_min.2 ⟨hb, hc⟩

theorem min_le_right (a b : Duration) : min a b ≤ b := by
  change (min a b).nanos ≤ b.nanos
  rw [nanos_min]
  exact Nat.min_le_right ..

theorem toNat_toMillis (d : Duration) :
    d.toMillis.toNat = min (d.nanos / 1000000) (UInt64.size - 1) := by
  rw [toMillis, UInt64.toNat_ofNat', Nat.mod_eq_of_lt]
  simp only [UInt64.size]
  omega

theorem ofMillis_toMillis_le (d : Duration) : ofMillis d.toMillis ≤ d := by
  change (ofMillis d.toMillis).nanos ≤ d.nanos
  rw [nanos_ofMillis, toNat_toMillis]
  omega

theorem toMillis_eq_zero_iff {d : Duration} : d.toMillis = 0 ↔ d < ofMillis 1 := by
  have hlt : d < ofMillis 1 ↔ d.nanos < 1000000 := by
    change d.nanos < (ofMillis 1).nanos ↔ _
    rw [nanos_ofMillis]
    rfl
  rw [hlt, ← UInt64.toNat_inj, toNat_toMillis, UInt64.toNat_zero]
  simp only [UInt64.size]
  omega

theorem ofMillis_zero : ofMillis 0 = zero := by
  ext
  rw [nanos_ofMillis]
  rfl

theorem ofMillis_one_le {ms : UInt64} (h : ms ≠ 0) : ofMillis 1 ≤ ofMillis ms := by
  change (ofMillis 1).nanos ≤ (ofMillis ms).nanos
  have hms : ms.toNat ≠ 0 := by rwa [ne_eq, ← UInt64.toNat_zero, UInt64.toNat_inj]
  rw [nanos_ofMillis, nanos_ofMillis, UInt64.toNat_one]
  omega

theorem zero_lt_of_ofMillis_one_le {d : Duration} (h : ofMillis 1 ≤ d) : zero < d :=
  Nat.lt_of_lt_of_le (by rw [nanos_ofMillis]; decide) h

end Duration

namespace Backoff

theorem le_grown (max : Duration) (n : Nat) (d : Duration) : d ≤ grown max n d := by
  induction n with
  | zero => exact Nat.le_refl _
  | succ n ih =>
    rw [grown_succ]
    split
    case isTrue => exact Duration.le_trans ih (Duration.le_doubled _)
    case isFalse => exact ih

variable (base max : Duration) (n : Nat)

theorem intervalAfter_zero : intervalAfter .zero max n = .zero := if_pos rfl

theorem intervalAfter_le : intervalAfter base max n ≤ effectiveMax base max := by
  rw [← min_grown]
  exact Duration.min_le_right ..

theorem le_intervalAfter {d : Duration} (hbase : d ≤ base) (hmax : d ≤ effectiveMax base max) :
    d ≤ intervalAfter base max n := by
  rw [← min_grown]
  exact Duration.le_min (Duration.le_trans hbase (le_grown ..)) hmax

end Backoff

namespace Options

theorem reconnectIntervalMax_of_eq_zero {o : Options} (h : o.reconnectMaxMillis = 0) :
    o.reconnectIntervalMax = o.reconnectInterval :=
  if_pos h

theorem reconnectIntervalMax_of_ne_zero {o : Options} (h : o.reconnectMaxMillis ≠ 0) :
    o.reconnectIntervalMax = .ofMillis o.reconnectMaxMillis :=
  if_neg h

/-- A longest interval of zero is replaced twice, to the same effect. -/
theorem effectiveMax_eq (o : Options) :
    Backoff.effectiveMax o.reconnectInterval o.reconnectIntervalMax = o.reconnectIntervalMax := by
  unfold Backoff.effectiveMax
  split
  case isFalse => rfl
  case isTrue hzero =>
    by_cases h : o.reconnectMaxMillis = 0
    case pos => rw [reconnectIntervalMax_of_eq_zero h]
    case neg =>
      -- A longest interval that is kept is not zero, and zero is all that is ever replaced.
      have hpos := Duration.zero_lt_of_ofMillis_one_le (Duration.ofMillis_one_le h)
      rw [← reconnectIntervalMax_of_ne_zero h, hzero] at hpos
      exact absurd hpos (Nat.lt_irrefl _)

/-- The interval to wait after `attempt` earlier ones. -/
def interval (o : Options) (attempt : Nat) : Duration :=
  Backoff.intervalAfter o.reconnectInterval o.reconnectIntervalMax attempt

theorem interval_le (o : Options) (attempt : Nat) :
    o.interval attempt ≤ o.reconnectIntervalMax := by
  have h := Backoff.intervalAfter_le o.reconnectInterval o.reconnectIntervalMax attempt
  rwa [effectiveMax_eq] at h

theorem interval_eq_zero {o : Options} (h : o.reconnectMillis = 0) (attempt : Nat) :
    o.interval attempt = .zero := by
  have hbase : o.reconnectInterval = .zero := by rw [reconnectInterval, h, Duration.ofMillis_zero]
  rw [interval, hbase, Backoff.intervalAfter_zero]

theorem ofMillis_one_le_interval {o : Options} (h : o.reconnectMillis ≠ 0) (attempt : Nat) :
    .ofMillis 1 ≤ o.interval attempt := by
  have hbase : .ofMillis 1 ≤ o.reconnectInterval := Duration.ofMillis_one_le h
  refine Backoff.le_intervalAfter _ _ _ hbase ?_
  rw [effectiveMax_eq]
  by_cases hmax : o.reconnectMaxMillis = 0
  · rwa [reconnectIntervalMax_of_eq_zero hmax]
  · rw [reconnectIntervalMax_of_ne_zero hmax]
    exact Duration.ofMillis_one_le hmax

/-- Options with the given first and longest intervals. -/
def withIntervals (o : Options) (base max : Duration) : Options :=
  (o.withReconnectInterval base).withReconnectIntervalMax max

variable (o : Options) (base max : Duration) (attempt : Nat)

theorem zero_lt_interval_iff :
    .zero < (o.withIntervals base max).interval attempt ↔ .ofMillis 1 ≤ base := by
  rw [← Duration.not_lt, ← Duration.toMillis_eq_zero_iff]
  constructor
  · intro hpos hbase
    rw [interval_eq_zero hbase] at hpos
    exact Nat.lt_irrefl _ hpos
  · intro hbase
    exact Duration.zero_lt_of_ofMillis_one_le (ofMillis_one_le_interval hbase attempt)

theorem interval_le_iff :
    (o.withIntervals base max).interval attempt ≤ max ↔ base < .ofMillis 1 ∨ .ofMillis 1 ≤ max := by
  rw [← Duration.toMillis_eq_zero_iff]
  by_cases hbase : base.toMillis = 0
  case pos =>
    rw [interval_eq_zero hbase]
    exact iff_of_true (Nat.zero_le _) (.inl hbase)
  case neg =>
    rw [or_iff_right hbase]
    constructor
    · exact Duration.le_trans (ofMillis_one_le_interval hbase attempt)
    · intro hmax
      have hkept : (o.withIntervals base max).reconnectMaxMillis ≠ 0 :=
        mt Duration.toMillis_eq_zero_iff.1 (Duration.not_lt.2 hmax)
      have hle := (o.withIntervals base max).interval_le attempt
      rw [reconnectIntervalMax_of_ne_zero hkept] at hle
      exact Duration.le_trans hle (Duration.ofMillis_toMillis_le max)

end Options

/-- What a wait is like for which the first interval and the longest one were given. -/
structure Limited (base max interval : Duration) : Prop where
  waits : .zero < interval ↔ .ofMillis 1 ≤ base
  ends : interval ≤ max ↔ base < .ofMillis 1 ∨ .ofMillis 1 ≤ max

theorem Backoff.Rhythm.limited {o : Options} {base max : Duration} {b : Backoff} {n : Nat}
    (h : b.Rhythm (o.withIntervals base max).reconnectInterval
      (o.withIntervals base max).reconnectIntervalMax n) :
    ∀ interval ∈ b.timer.intervals, Limited base max interval := by
  intro interval hmem
  rw [h.intervals_eq] at hmem
  obtain ⟨attempt, -, rfl⟩ := List.mem_map.1 hmem
  exact ⟨o.zero_lt_interval_iff base max attempt, o.interval_le_iff base max attempt⟩

end EndpointLifecycle
