/-!
# Lengths of time

A duration is a whole number of nanoseconds, at most 2 ^ 64 - 1 seconds and 999 999 999 nanoseconds.
Arithmetic that would pass the longest duration stays at it.
-/

namespace EndpointLifecycle

namespace Duration

def maxNanos : Nat := (UInt64.size - 1) * 1000000000 + 999999999

end Duration

@[ext]
structure Duration where
  nanos : Nat
  nanos_le : nanos ≤ Duration.maxNanos
  deriving DecidableEq

namespace Duration

/-- The duration of `n` nanoseconds, or the longest one. -/
def ofNanos (n : Nat) : Duration := ⟨min n maxNanos, Nat.min_le_right ..⟩

def ofMillis (ms : UInt64) : Duration := ofNanos (ms.toNat * 1000000)

def ofSecsNanos (secs nanos : Nat) : Duration := ofNanos (secs * 1000000000 + nanos)

def zero : Duration := ⟨0, Nat.zero_le _⟩

instance : LE Duration := ⟨fun a b => a.nanos ≤ b.nanos⟩

instance : LT Duration := ⟨fun a b => a.nanos < b.nanos⟩

instance (a b : Duration) : Decidable (a ≤ b) := inferInstanceAs (Decidable (a.nanos ≤ b.nanos))

instance (a b : Duration) : Decidable (a < b) := inferInstanceAs (Decidable (a.nanos < b.nanos))

instance : Min Duration := ⟨fun a b => if a ≤ b then a else b⟩

/-- Whole milliseconds, or the largest 64-bit number. -/
def toMillis (d : Duration) : UInt64 := UInt64.ofNat (min (d.nanos / 1000000) (UInt64.size - 1))

def doubled (d : Duration) : Duration := ofNanos (2 * d.nanos)

theorem nanos_ofNanos (n : Nat) : (ofNanos n).nanos = min n maxNanos := rfl

theorem nanos_doubled (d : Duration) : d.doubled.nanos = min (2 * d.nanos) maxNanos := rfl

theorem nanos_min (a b : Duration) : (min a b).nanos = min a.nanos b.nanos := by
  change (if a ≤ b then a else b).nanos = _
  split
  · next h => exact (Nat.min_eq_left h).symm
  · next h => exact (Nat.min_eq_right (Nat.le_of_not_le h)).symm

theorem nanos_ofMillis (ms : UInt64) : (ofMillis ms).nanos = ms.toNat * 1000000 := by
  have := ms.toNat_lt
  simp only [ofMillis, nanos_ofNanos, maxNanos, UInt64.size]
  omega

/-- The digits after the point of `rest / 10 ^ places`, without zeros at the end. -/
def fraction (places rest : Nat) : List Char :=
  let digits := Nat.toDigits 10 rest
  (List.replicate (places - digits.length) '0' ++ digits).reverse.dropWhile (· == '0') |>.reverse

/-- A number of units: whole part, then the fraction if it is not zero. -/
def inUnit (d : Duration) (places : Nat) (unit : String) : String :=
  let whole := toString (d.nanos / Nat.pow 10 places)
  let rest := d.nanos % Nat.pow 10 places
  if rest = 0 then whole ++ unit
  else whole ++ "." ++ String.ofList (fraction places rest) ++ unit

/-- In the largest of `s`, `ms`, `µs` and `ns` of which there is at least one. -/
def text (d : Duration) : String :=
  if 1000000000 ≤ d.nanos then d.inUnit 9 "s"
  else if 1000000 ≤ d.nanos then d.inUnit 6 "ms"
  else if 1000 ≤ d.nanos then d.inUnit 3 "µs"
  else d.inUnit 0 "ns"

end Duration

end EndpointLifecycle
